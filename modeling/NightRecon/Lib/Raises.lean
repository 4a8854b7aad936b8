import NightRecon.Lib.Checks

/-!
# Which errors a computation raises

* `Raises P x` — every error of `x` is one of `P`;
* `Raises.bind`, `Raises.raiseIf`, `Raises.getOrRaise`, `Raises.mapError`, `Raises.mapM` — a chain
  raises what its steps raise.
-/

namespace NightRecon.Lib.Checks

variable {ε α β : Type} {P : ε → Prop}

/-- Every error of `x` is one of `P`. -/
def Raises (P : ε → Prop) (x : Except ε α) : Prop := ∀ e, x = .error e → P e

theorem Raises.ok (a : α) : Raises P (.ok a) := fun _ h => absurd h (by simp)

theorem Raises.pure (a : α) : Raises P (pure a) := Raises.ok a

theorem Raises.error {e : ε} (h : P e) : Raises P (.error e : Except ε α) := by
  intro e' he
  obtain rfl := Except.error.inj he
  exact h

theorem Raises.mono {Q : ε → Prop} {x : Except ε α} (h : Raises P x) (hPQ : ∀ e, P e → Q e) :
    Raises Q x := fun e he => hPQ e (h e he)

theorem Raises.bind {x : Except ε α} {f : α → Except ε β} (hx : Raises P x)
    (hf : ∀ a, x = .ok a → Raises P (f a)) : Raises P (x >>= f) := by
  intro e he
  cases hxa : x with
  | error e' =>
    rw [hxa, error_bind] at he
    obtain rfl := Except.error.inj he
    exact hx e' hxa
  | ok a =>
    rw [hxa, ok_bind] at he
    exact hf a hxa e he

theorem Raises.raiseIf {c : Prop} [Decidable c] {e : ε} (h : P e) : Raises P (raiseIf c e) := by
  unfold Checks.raiseIf
  split
  · exact Raises.error h
  · exact Raises.ok ()

theorem Raises.require {c : Prop} [Decidable c] {e : ε} (h : P e) : Raises P (require c e) := by
  unfold Checks.require
  split
  · exact Raises.ok ()
  · exact Raises.error h

theorem Raises.getOrRaise {x : Option α} {e : ε} (h : P e) : Raises P (getOrRaise x e) := by
  unfold Checks.getOrRaise
  split
  · exact Raises.ok _
  · exact Raises.error h

/-- Errors that are replaced. -/
theorem Raises.mapError {δ : Type} {f : δ → ε} {x : Except δ α} (h : ∀ d, P (f d)) :
    Raises P (x.mapError f) := by
  intro e he
  cases x with
  | error d =>
    obtain rfl : f d = e := Except.error.inj he
    exact h d
  | ok a => cases he

theorem Raises.mapM {f : α → Except ε β} {l : List α} (h : ∀ a ∈ l, Raises P (f a)) :
    Raises P (l.mapM f) := by
  induction l with
  | nil => exact Raises.pure []
  | cons a l ih =>
    obtain ⟨ha, hl⟩ := List.forall_mem_cons.mp h
    rw [List.mapM_cons]
    apply Raises.bind ha
    intro b _
    apply Raises.bind (ih hl)
    intro bs _
    exact Raises.pure (b :: bs)

end NightRecon.Lib.Checks
