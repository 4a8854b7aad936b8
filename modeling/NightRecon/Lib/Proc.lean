import NightRecon.Lib.Checks

/-!
# Procedures: state and exceptions

A procedure reads and changes a state and either returns or raises; what it changed before it
raised stays changed.

* `Proc` — procedures, a monad, with `Proc.ofExcept`, `Proc.get`, `Proc.modify` and `Proc.zoom`;
* `Proc.onError` — `try: … except BaseException: handler; raise`;
* `Proc.ensuring` — `try: … finally: last`;
* `Triple P p Q E` — started in `P`, the procedure returns in `Q` or raises in `E`; one rule for
  each way of building a procedure.
-/

namespace NightRecon.Lib

variable {ε σ τ α β : Type}

/-- A procedure on states of the type `σ`. -/
def Proc (ε σ α : Type) : Type := σ → Except ε α × σ

namespace Proc

instance : Monad (Proc ε σ) where
  pure a := fun s => (.ok a, s)
  bind p f := fun s =>
    match p s with
    | (.ok a, s') => f a s'
    | (.error e, s') => (.error e, s')

/-- A computation that does not touch the state. -/
def ofExcept (x : Except ε α) : Proc ε σ α := fun s => (x, s)

/-- Read the state. -/
def get : Proc ε σ σ := fun s => (.ok s, s)

/-- Change the state. -/
def modify (f : σ → σ) : Proc ε σ Unit := fun s => (.ok (), f s)

/-- Run `handler` when `p` raises, and raise again. -/
def onError (p : Proc ε σ α) (handler : σ → σ) : Proc ε σ α := fun s =>
  match p s with
  | (.ok a, s') => (.ok a, s')
  | (.error e, s') => (.error e, handler s')

/-- `try: … finally:`: `last` runs however `p` ends, and `p`'s end stands unless `last` raises. -/
def ensuring (p : Proc ε σ α) (last : Proc ε σ Unit) : Proc ε σ α := fun s =>
  match last (p s).2 with
  | (.ok _, s') => ((p s).1, s')
  | (.error e, s') => (.error e, s')

/-- `try: … except Exception:`: how `p` ended, what it changed staying changed. -/
def tryCall (p : Proc ε σ α) : Proc ε σ (Except ε α) := fun s => (.ok (p s).1, (p s).2)

/-- A procedure on one part of a larger state. -/
def zoom (read : σ → τ) (write : σ → τ → σ) (p : Proc ε τ α) : Proc ε σ α := fun s =>
  ((p (read s)).1, write s (p (read s)).2)

/-! ## What a procedure does, step by step -/

@[simp] theorem pure_apply (a : α) (s : σ) : (pure a : Proc ε σ α) s = (.ok a, s) := rfl

@[simp] theorem ofExcept_apply (x : Except ε α) (s : σ) :
    (ofExcept x : Proc ε σ α) s = (x, s) := rfl

@[simp] theorem get_apply (s : σ) : (get : Proc ε σ σ) s = (.ok s, s) := rfl

@[simp] theorem modify_apply (f : σ → σ) (s : σ) :
    (modify f : Proc ε σ Unit) s = (.ok (), f s) := rfl

@[simp] theorem zoom_apply (read : σ → τ) (write : σ → τ → σ) (p : Proc ε τ α) (s : σ) :
    zoom read write p s = ((p (read s)).1, write s (p (read s)).2) := rfl

theorem ensuring_state (p : Proc ε σ α) (last : Proc ε σ Unit) (s : σ) :
    (ensuring p last s).2 = (last (p s).2).2 := by
  unfold ensuring
  cases last (p s).2 with
  | mk r s' => cases r <;> rfl

theorem bind_apply (p : Proc ε σ α) (f : α → Proc ε σ β) (s : σ) :
    (p >>= f) s =
      match p s with
      | (.ok a, s') => f a s'
      | (.error e, s') => (.error e, s') := rfl

theorem bind_of_ok {p : Proc ε σ α} {f : α → Proc ε σ β} {s s' : σ} {a : α}
    (h : p s = (.ok a, s')) : (p >>= f) s = f a s' := by
  rw [bind_apply, h]

theorem bind_of_error {p : Proc ε σ α} {f : α → Proc ε σ β} {s s' : σ} {e : ε}
    (h : p s = (.error e, s')) : (p >>= f) s = (.error e, s') := by
  rw [bind_apply, h]

/-- A composition raised where its first part did, or went on from where that returned. -/
theorem bind_cases {p : Proc ε σ α} {f : α → Proc ε σ β} {s s' : σ} {r : Except ε β}
    (h : (p >>= f) s = (r, s')) :
    (∃ e, p s = (.error e, s') ∧ r = .error e) ∨
      ∃ a s₁, p s = (.ok a, s₁) ∧ f a s₁ = (r, s') := by
  cases hp : p s with
  | mk r₁ s₁ =>
    cases r₁ with
    | error e =>
      rw [bind_of_error hp, Prod.mk.injEq] at h
      obtain ⟨rfl, rfl⟩ := h
      exact .inl ⟨e, rfl, rfl⟩
    | ok a =>
      rw [bind_of_ok hp] at h
      exact .inr ⟨a, s₁, rfl, h⟩

/-- The same for a first part that does not touch the state. -/
theorem ofExcept_cases {x : Except ε α} {f : α → Proc ε σ β} {s s' : σ} {r : Except ε β}
    (h : (ofExcept x >>= f) s = (r, s')) :
    (∃ e, r = .error e ∧ s' = s) ∨ ∃ a, x = .ok a ∧ f a s = (r, s') := by
  rcases bind_cases h with ⟨e, hx, rfl⟩ | ⟨a, s₁, hx, hf⟩
  · exact .inl ⟨e, rfl, (Prod.mk.inj hx).2.symm⟩
  · obtain ⟨rfl, rfl⟩ := Prod.mk.inj hx
    exact .inr ⟨a, rfl, hf⟩

/-- A value taken from what a procedure returned. -/
theorem map_cases {p : Proc ε σ α} {f : α → β} {s s' : σ} {r : Except ε β}
    (h : (f <$> p) s = (r, s')) :
    (∃ e, p s = (.error e, s') ∧ r = .error e) ∨ ∃ a, p s = (.ok a, s') ∧ r = .ok (f a) := by
  have hbind : (p >>= fun a => pure (f a)) s = (r, s') := h
  rcases bind_cases hbind with herror | ⟨a, s₁, hp, hreturn⟩
  · exact .inl herror
  · obtain ⟨rfl, rfl⟩ := Prod.mk.inj hreturn
    exact .inr ⟨a, hp, rfl⟩

theorem onError_of_ok {p : Proc ε σ α} {handler : σ → σ} {s s' : σ} {a : α}
    (h : p s = (.ok a, s')) : onError p handler s = (.ok a, s') := by
  rw [onError, h]

theorem onError_of_error {p : Proc ε σ α} {handler : σ → σ} {s s' : σ} {e : ε}
    (h : p s = (.error e, s')) : onError p handler s = (.error e, handler s') := by
  rw [onError, h]

end Proc

/-! ## Pre- and postconditions -/

/-- Started in `P`, the procedure returns in `Q` or raises in `E`. -/
def Triple (P : σ → Prop) (p : Proc ε σ α) (Q : α → σ → Prop) (E : ε → σ → Prop) : Prop :=
  ∀ s, P s →
    match p s with
    | (.ok a, s') => Q a s'
    | (.error e, s') => E e s'

namespace Triple

variable {P P' : σ → Prop} {Q Q' : α → σ → Prop} {E E' : ε → σ → Prop} {p : Proc ε σ α}

/-- A run that returned. -/
theorem of_ok (h : Triple P p Q E) {s s' : σ} {a : α} (hs : P s) (hrun : p s = (.ok a, s')) :
    Q a s' := by
  have hpost := h s hs
  rwa [hrun] at hpost

/-- A run that raised. -/
theorem of_error (h : Triple P p Q E) {s s' : σ} {e : ε} (hs : P s)
    (hrun : p s = (.error e, s')) : E e s' := by
  have hpost := h s hs
  rwa [hrun] at hpost

/-- A procedure that does not raise returns. -/
theorem returns (h : Triple P p Q E) {s : σ} (hs : P s) (hno : ∀ e s', ¬ E e s') :
    ∃ a s', p s = (.ok a, s') ∧ Q a s' := by
  cases hrun : p s with
  | mk r s' =>
    cases r with
    | ok a => exact ⟨a, s', rfl, h.of_ok hs hrun⟩
    | error e => exact absurd (h.of_error hs hrun) (hno e s')

theorem pure {a : α} (h : ∀ s, P s → Q a s) : Triple P (pure a : Proc ε σ α) Q E := h

/-- Composition: what the first procedure returns in is what the second starts in. -/
theorem bind {R : β → σ → Prop} {f : α → Proc ε σ β} (hp : Triple P p Q E)
    (hf : ∀ a, Triple (Q a) (f a) R E) : Triple P (p >>= f) R E := by
  intro s hs
  have hstep := hp s hs
  rw [Proc.bind_apply]
  cases hps : p s with
  | mk r s' =>
    rw [hps] at hstep
    cases r with
    | ok a => exact hf a s' hstep
    | error e => exact hstep

theorem ofExcept {x : Except ε α} (hok : ∀ a s, x = .ok a → P s → Q a s)
    (herror : ∀ e s, x = .error e → P s → E e s) : Triple P (Proc.ofExcept x) Q E := by
  intro s hs
  cases x with
  | ok a => exact hok a s rfl hs
  | error e => exact herror e s rfl hs

theorem get {Q : σ → σ → Prop} (h : ∀ s, P s → Q s s) : Triple P (Proc.get : Proc ε σ σ) Q E := h

theorem modify {Q : Unit → σ → Prop} {f : σ → σ} (h : ∀ s, P s → Q () (f s)) :
    Triple P (Proc.modify f : Proc ε σ Unit) Q E := h

/-- Weaker demands on a procedure. -/
theorem weaken (h : Triple P p Q E) (hP : ∀ s, P' s → P s) (hQ : ∀ a s, Q a s → Q' a s)
    (hE : ∀ e s, E e s → E' e s) : Triple P' p Q' E' := by
  intro s hs
  have hrun := h s (hP s hs)
  cases hps : p s with
  | mk r s' =>
    rw [hps] at hrun
    cases r with
    | ok a => exact hQ a s' hrun
    | error e => exact hE e s' hrun

/-- A handler repairs what the exception left behind. -/
theorem onError {handler : σ → σ} (hp : Triple P p Q E')
    (hrepair : ∀ e s, E' e s → E e (handler s)) : Triple P (Proc.onError p handler) Q E := by
  intro s hs
  have hrun := hp s hs
  unfold Proc.onError
  cases hps : p s with
  | mk r s' =>
    rw [hps] at hrun
    cases r with
    | ok a => exact hrun
    | error e => exact hrepair e s' hrun

/-- How a procedure ended is handed on. -/
theorem tryCall {Q : Except ε α → σ → Prop}
    (hp : Triple P p (fun a => Q (.ok a)) fun e => Q (.error e)) :
    Triple P (Proc.tryCall p) Q E := by
  intro s hs
  have hrun := hp s hs
  unfold Proc.tryCall
  cases hps : p s with
  | mk r s' =>
    rw [hps] at hrun
    cases r with
    | ok a => exact hrun
    | error e => exact hrun

theorem ite {c : Prop} [Decidable c] {q : Proc ε σ α} (hp : c → Triple P p Q E)
    (hq : ¬ c → Triple P q Q E) : Triple P (if c then p else q) Q E := by
  by_cases h : c
  · rw [if_pos h]
    exact hp h
  · rw [if_neg h]
    exact hq h

end Triple

/-! ## Frames -/

/-- The procedure leaves the part `f` of the state alone, however it ends. -/
def Keeps (f : σ → τ) (p : Proc ε σ α) : Prop := ∀ s, f (p s).2 = f s

namespace Keeps

variable {f : σ → τ}

theorem pure (a : α) : Keeps f (pure a : Proc ε σ α) := fun _ => rfl

theorem ofExcept (x : Except ε α) : Keeps f (Proc.ofExcept x : Proc ε σ α) := fun _ => rfl

theorem get : Keeps f (Proc.get : Proc ε σ σ) := fun _ => rfl

theorem bind {p : Proc ε σ α} {q : α → Proc ε σ β} (hp : Keeps f p) (hq : ∀ a, Keeps f (q a)) :
    Keeps f (p >>= q) := by
  intro s
  rw [Proc.bind_apply]
  cases hps : p s with
  | mk r s' =>
    have hs' : f s' = f s := by simpa only [hps] using hp s
    cases r with
    | ok a => exact (hq a s').trans hs'
    | error e => exact hs'

/-- A procedure that changes nothing keeps every part. -/
theorem of_id {p : Proc ε σ α} (h : Keeps id p) : Keeps f p := fun s => congrArg f (h s)

/-- The state a procedure that changes nothing ends in. -/
theorem state_eq {p : Proc ε σ α} (h : Keeps id p) {s s' : σ} {r : Except ε α}
    (hp : p s = (r, s')) : s' = s := by
  have hs := h s
  rw [hp] at hs
  exact hs

/-- What follows a procedure without changing anything does not show in the state. -/
theorem bind_state {p : Proc ε σ α} {q : α → Proc ε σ β} (hq : ∀ a, Keeps id (q a)) (s : σ) :
    ((p >>= q) s).2 = (p s).2 := by
  rw [Proc.bind_apply]
  cases hps : p s with
  | mk r s' =>
    cases r with
    | ok a => exact hq a s'
    | error e => rfl

/-- A procedure on another part of the state. -/
theorem zoom {ρ : Type} {read : σ → ρ} {write : σ → ρ → σ} {p : Proc ε ρ α}
    (h : ∀ s r, f (write s r) = f s) : Keeps f (Proc.zoom read write p) :=
  fun s => h s _

theorem ite {c : Prop} [Decidable c] {p q : Proc ε σ α} (hp : Keeps f p) (hq : Keeps f q) :
    Keeps f (if c then p else q) := by
  by_cases h : c
  · rwa [if_pos h]
  · rwa [if_neg h]

end Keeps

end NightRecon.Lib
