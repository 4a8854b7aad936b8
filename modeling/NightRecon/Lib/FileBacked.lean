import NightRecon.Lib.Proc

/-!
# Stores backed by one file

A store keeps its state in memory and writes all of it to a file, which is replaced atomically or
not at all.

* `FileBacked` — the memory and the file; `persist` — serialise the memory and replace the file;
  the outcome of the replacement is an argument;
* `InSync load R` — reading the file back gives the memory, up to `R`;
* `persist_inSync`, `persist_error` — a write that succeeds brings the file in step with the
  memory, and one that raises changes nothing.
-/

namespace NightRecon.Lib

variable {ε σ δ : Type}

/-- A state in memory and the contents of its file, if the file exists. -/
structure FileBacked (σ δ : Type) where
  memory : σ
  file : Option δ

namespace FileBacked

/-- Replace the memory. -/
def setMemory (m : σ) (s : FileBacked σ δ) : FileBacked σ δ := { s with memory := m }

@[simp] theorem setMemory_memory (m : σ) (s : FileBacked σ δ) : (s.setMemory m).memory = m := rfl

@[simp] theorem setMemory_file (m : σ) (s : FileBacked σ δ) : (s.setMemory m).file = s.file := rfl

@[simp] theorem setMemory_setMemory (m m' : σ) (s : FileBacked σ δ) :
    (s.setMemory m).setMemory m' = s.setMemory m' := rfl

@[simp] theorem setMemory_self (s : FileBacked σ δ) : s.setMemory s.memory = s := rfl

/-- Write the memory out: `write` is the outcome of replacing the file. -/
def persist (payload : σ → Except ε δ) (write : Except ε Unit) : Proc ε (FileBacked σ δ) Unit := do
  let s ← Proc.get
  let contents ← Proc.ofExcept (payload s.memory)
  Proc.ofExcept write
  Proc.modify fun s => { s with file := some contents }

variable {payload : σ → Except ε δ} {write : Except ε Unit} {s s' : FileBacked σ δ}

/-- A write that raises changes nothing. -/
theorem persist_error {e : ε} (h : persist payload write s = (.error e, s')) : s' = s := by
  simp only [persist, Proc.bind_apply, Proc.get_apply, Proc.ofExcept_apply,
    Proc.modify_apply] at h
  cases hp : payload s.memory with
  | error e' =>
    rw [hp] at h
    exact (Prod.mk.inj h).2.symm
  | ok contents =>
    rw [hp] at h
    cases write with
    | error e' => exact (Prod.mk.inj h).2.symm
    | ok u => cases h

/-- A write that returns was a successful replacement by the serialised memory. -/
theorem persist_ok (h : persist payload write s = (.ok (), s')) :
    write = .ok () ∧ ∃ contents, payload s.memory = .ok contents ∧
      s' = { s with file := some contents } := by
  simp only [persist, Proc.bind_apply, Proc.get_apply, Proc.ofExcept_apply,
    Proc.modify_apply] at h
  cases hp : payload s.memory with
  | error e' =>
    rw [hp] at h
    cases h
  | ok contents =>
    rw [hp] at h
    cases write with
    | error e' => cases h
    | ok u => exact ⟨rfl, contents, rfl, (Prod.mk.inj h).2.symm⟩

/-- Without an error in the serialisation or the replacement a write returns. -/
theorem persist_of_ok {contents : δ} (hp : payload s.memory = .ok contents) :
    persist payload (.ok ()) s = (.ok (), { s with file := some contents }) := by
  simp only [persist, Proc.bind_apply, Proc.get_apply, Proc.ofExcept_apply, Proc.modify_apply, hp]

/-- A replacement that fails changes nothing. -/
theorem persist_failed (payload : σ → Except ε δ) (e : ε) (s : FileBacked σ δ) :
    (persist payload (.error e) s).2 = s := by
  cases h : persist payload (.error e) s with
  | mk r s' =>
    cases r with
    | ok u =>
      obtain ⟨hwrite, -⟩ := persist_ok h
      cases hwrite
    | error e' => exact persist_error h

/-- Writing does not touch the memory, however it ends. -/
theorem persist_memory (payload : σ → Except ε δ) (write : Except ε Unit) (s : FileBacked σ δ) :
    (persist payload write s).2.memory = s.memory := by
  cases h : persist payload write s with
  | mk r s' =>
    cases r with
    | ok u =>
      obtain ⟨-, contents, -, rfl⟩ := persist_ok h
      rfl
    | error e => rw [persist_error h]

/-- Reading the file gives the memory, up to `R`. -/
def InSync (load : Option δ → Except ε σ) (R : σ → σ → Prop) (s : FileBacked σ δ) : Prop :=
  ∃ m, load s.file = .ok m ∧ R m s.memory

variable {load : Option δ → Except ε σ} {R : σ → σ → Prop}

/-- **A successful write brings the file in step with a memory that reads back as itself.** -/
theorem persist_inSync (h : persist payload write s = (.ok (), s'))
    (hload : ∀ contents, payload s.memory = .ok contents →
      ∃ m, load (some contents) = .ok m ∧ R m s.memory) :
    InSync load R s' ∧ s'.memory = s.memory := by
  obtain ⟨-, contents, hp, rfl⟩ := persist_ok h
  exact ⟨hload contents hp, rfl⟩

end FileBacked

end NightRecon.Lib
