import Mathlib

/-!
# Guarded computations: chains of checks over `Except`

A function that validates its input is a chain of guards, each of which either stops the
computation with an error or lets it go on.  This file fixes that shape once:

* `raiseIf c e` — stop with `e` when `c` holds, go on otherwise; `require c e` is its dual;
* the inversion lemmas `bind_eq_ok`, `raiseIf_eq_ok`, `require_eq_ok` — a chain succeeded exactly
  when no guard fired, so a hypothesis `chain = .ok r` is taken apart by one `simp only`;
* `foldlM_induct` — the invariant rule for a validating loop: what holds before the loop and is
  kept by every successful turn holds of the whole list of turns.

Nothing here mentions what is being checked.
-/

namespace NightRecon.Lib.Checks

variable {ε α β σ : Type}

/-! ## Guards -/

/-- Stop with `e` when `c` holds. -/
def raiseIf (c : Prop) [Decidable c] (e : ε) : Except ε Unit :=
  if c then .error e else .ok ()

/-- Stop with `e` unless `c` holds. -/
def require (c : Prop) [Decidable c] (e : ε) : Except ε Unit :=
  if c then .ok () else .error e

/-- Stop with `e` unless `c` holds, and hand the proof of `c` on. -/
def prove (c : Prop) [Decidable c] (e : ε) : Except ε (PLift c) :=
  if h : c then .ok ⟨h⟩ else .error e

/-- Run a check for its error, and hand the proof that it succeeds on. -/
def attempt (x : Except ε α) : Except ε (PLift (x.toOption.isSome = true)) :=
  match x with
  | .ok _ => .ok ⟨rfl⟩
  | .error e => .error e

/-- The value of an optional lookup, or the error `e`. -/
def getOrRaise (x : Option α) (e : ε) : Except ε α :=
  match x with
  | some a => .ok a
  | none => .error e

@[simp] theorem raiseIf_eq_ok {c : Prop} [Decidable c] {e : ε} {u : Unit} :
    raiseIf c e = .ok u ↔ ¬ c := by
  unfold raiseIf
  split <;> simp_all

@[simp] theorem require_eq_ok {c : Prop} [Decidable c] {e : ε} {u : Unit} :
    require c e = .ok u ↔ c := by
  unfold require
  split <;> simp_all

@[simp] theorem getOrRaise_eq_ok {x : Option α} {e : ε} {a : α} :
    getOrRaise x e = .ok a ↔ x = some a := by
  cases x <;> simp [getOrRaise]

theorem getOrRaise_some (a : α) (e : ε) : getOrRaise (some a) e = .ok a := rfl

/-- A proof-carrying check that handed a proof on. -/
@[simp] theorem prove_eq_ok {c : Prop} [Decidable c] {e : ε} {h : PLift c} :
    prove c e = .ok h ↔ True := by
  unfold prove
  rw [dif_pos h.down]
  exact iff_of_true rfl trivial

@[simp] theorem attempt_eq_ok {x : Except ε α} {h : PLift (x.toOption.isSome = true)} :
    attempt x = .ok h ↔ True := by
  cases x with
  | ok a => exact iff_of_true rfl trivial
  | error e => exact absurd h.down Bool.false_ne_true

theorem attempt_of {x : Except ε α} (h : x.toOption.isSome = true) : attempt x = .ok ⟨h⟩ :=
  attempt_eq_ok.mpr trivial

theorem prove_of {c : Prop} {_ : Decidable c} {e : ε} (h : c) : prove c e = .ok ⟨h⟩ :=
  dif_pos h

theorem raiseIf_of_not {c : Prop} {_ : Decidable c} {e : ε} (h : ¬ c) : raiseIf c e = .ok () := by
  simp [h]

theorem require_of {c : Prop} {_ : Decidable c} {e : ε} (h : c) : require c e = .ok () := by
  simp [h]

/-! ## Inversion of a chain -/

theorem bind_eq_ok {x : Except ε α} {f : α → Except ε β} {b : β} :
    (x >>= f) = .ok b ↔ ∃ a, x = .ok a ∧ f a = .ok b := by
  cases x with
  | error e => simp [bind, Except.bind]
  | ok a => simp [bind, Except.bind]

/-- A check in front of a chain: it passed, and the rest succeeded. -/
theorem unit_bind_eq_ok {x : Except ε Unit} {f : Unit → Except ε β} {b : β} :
    (x >>= f) = .ok b ↔ x = .ok () ∧ f () = .ok b := by
  cases x with
  | error e => simp [bind, Except.bind]
  | ok u => simp [bind, Except.bind]

@[simp] theorem ok_bind (a : α) (f : α → Except ε β) : ((Except.ok a : Except ε α) >>= f) = f a :=
  rfl

@[simp] theorem error_bind (e : ε) (f : α → Except ε β) :
    ((Except.error e : Except ε α) >>= f) = .error e := rfl

@[simp] theorem pure_eq_ok (a : α) : (pure a : Except ε α) = .ok a := rfl

@[simp] theorem throw_eq_error (e : ε) : (throw e : Except ε α) = .error e := rfl

theorem map_eq_ok {x : Except ε α} {f : α → β} {b : β} :
    (f <$> x) = .ok b ↔ ∃ a, x = .ok a ∧ f a = b := by
  cases x with
  | error e => simp [Functor.map, Except.map]
  | ok a => simp [Functor.map, Except.map]

/-- A guard in front of a chain: it did not fire, and the rest succeeded. -/
theorem raiseIf_bind_eq_ok {c : Prop} [Decidable c] {e : ε} {f : Unit → Except ε β} {b : β} :
    (raiseIf c e >>= f) = .ok b ↔ ¬ c ∧ f () = .ok b := by
  by_cases h : c <;> simp [raiseIf, h]

/-- A requirement in front of a chain: it held, and the rest succeeded. -/
theorem require_bind_eq_ok {c : Prop} [Decidable c] {e : ε} {f : Unit → Except ε β} {b : β} :
    (require c e >>= f) = .ok b ↔ c ∧ f () = .ok b := by
  by_cases h : c <;> simp [require, h]

/-- What the optional view of a result shows. -/
theorem eq_ok_of_toOption {x : Except ε α} {a : α} (h : x.toOption = some a) : x = .ok a := by
  cases x with
  | ok b => exact congrArg Except.ok (Option.some.inj h)
  | error e => exact absurd h (by simp [Except.toOption])

/-! ## Mapping a check over a list -/

/-- A check mapped over a list succeeds when it succeeds on every element, in order. -/
theorem mapM_eq_ok {f : α → Except ε β} {l : List α} {r : List β} :
    l.mapM f = .ok r ↔ List.Forall₂ (fun a b => f a = .ok b) l r := by
  induction l generalizing r with
  | nil => simp [List.forall₂_nil_left_iff, eq_comm]
  | cons a l ih =>
    rw [List.mapM_cons]
    cases r with
    | nil => simp [bind_eq_ok, List.forall₂_nil_right_iff]
    | cons b r =>
      rw [List.forall₂_cons, ← ih]
      cases hf : f a <;> cases hl : l.mapM f <;> simp

/-- Lists related element by element show the same when related elements do. -/
theorem map_eq_of_forall₂ {γ : Type} {R : α → β → Prop} {f : α → γ} {g : β → γ} {l : List α}
    {r : List β} (h : List.Forall₂ R l r) (hfg : ∀ a b, R a b → g b = f a) : r.map g = l.map f := by
  induction h with
  | nil => rfl
  | cons hab _ ih => rw [List.map_cons, List.map_cons, hfg _ _ hab, ih]

/-- Check every element of a list in order, and hand the proofs on. -/
def proveAll {P : α → Prop} (check : ∀ a, Except ε (PLift (P a))) :
    (l : List α) → Except ε (PLift (∀ a ∈ l, P a))
  | [] => .ok ⟨fun _ h => absurd h List.not_mem_nil⟩
  | a :: l => do
      let h ← check a
      let hl ← proveAll check l
      return ⟨List.forall_mem_cons.mpr ⟨h.down, hl.down⟩⟩

theorem proveAll_of {P : α → Prop} {check : ∀ a, Except ε (PLift (P a))}
    (hcheck : ∀ a (h : P a), check a = .ok ⟨h⟩) {l : List α} (h : ∀ a ∈ l, P a) :
    proveAll check l = .ok ⟨h⟩ := by
  induction l with
  | nil => rfl
  | cons a l ih =>
    obtain ⟨ha, hl⟩ := List.forall_mem_cons.mp h
    rw [proveAll, hcheck a ha, ok_bind, ih hl]
    rfl

/-! ## Validating loops -/

/-- **The invariant rule for a validating loop.**  `P done s` relates the turns already made to
the loop state; a successful turn on `a` extends `done` by `a`. -/
theorem foldlM_induct {f : σ → α → Except ε σ} {P : List α → σ → Prop}
    (hstep : ∀ done a s s', P done s → f s a = .ok s' → P (done ++ [a]) s') :
    ∀ (l done : List α) (s s' : σ), P done s → l.foldlM f s = .ok s' → P (done ++ l) s'
  | [], done, s, s', hP, h => by
      simp only [List.foldlM_nil, pure_eq_ok, Except.ok.injEq] at h
      subst h
      simpa using hP
  | a :: l, done, s, s', hP, h => by
      rw [List.foldlM_cons, bind_eq_ok] at h
      obtain ⟨s₁, h₁, h₂⟩ := h
      have := foldlM_induct hstep l (done ++ [a]) s₁ s' (hstep done a s s₁ hP h₁) h₂
      simpa using this

/-- A loop over a list with one more turn is the loop followed by that turn. -/
theorem foldlM_concat {f : σ → α → Except ε σ} (l : List α) (a : α) (s : σ) :
    (l ++ [a]).foldlM f s = (l.foldlM f s >>= fun s' => f s' a) := by
  rw [List.foldlM_append]
  congr 1
  funext s'
  simp only [List.foldlM_cons, List.foldlM_nil]
  cases f s' a <;> rfl

end NightRecon.Lib.Checks
