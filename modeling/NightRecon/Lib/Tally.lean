import Mathlib.Algebra.BigOperators.Group.List.Basic
import Mathlib.Algebra.GroupWithZero.Nat
import NightRecon.Lib.Assoc

/-!
# Tallies: counts kept by label

* `usage` — the count of a label, `0` where there is none;
* `total` — the sum of all counts, and `total_assign`, what an assignment does to it.
-/

namespace NightRecon.Lib.Tally

open NightRecon.Lib.Assoc

variable {κ : Type}

/-- `dict(entries).get(k, 0)`. -/
abbrev usage [DecidableEq κ] (entries : List (κ × Nat)) (k : κ) : Nat := find 0 entries k

/-- The sum of all counts. -/
def total (entries : List (κ × Nat)) : Nat := (entries.map Prod.snd).sum

theorem total_perm {entries entries' : List (κ × Nat)} (hperm : entries.Perm entries') :
    total entries = total entries' := (hperm.map _).sum_eq

variable [DecidableEq κ]

/-- **The sum of all counts changes by what the label's count changes.** -/
theorem total_assign (entries : List (κ × Nat)) (k : κ) (n : Nat) :
    total (assign entries k n) + usage entries k = total entries + n := by
  induction entries with
  | nil => simp [assign, total, usage, find]
  | cons e entries ih =>
    by_cases hk : e.1 = k
    · rw [assign, if_pos hk, usage, find, if_pos hk]
      simp only [total, List.map_cons, List.sum_cons]
      omega
    · rw [assign, if_neg hk, usage, find, if_neg hk]
      simp only [total, usage, List.map_cons, List.sum_cons] at ih ⊢
      omega

/-- One more for a label is one more in all. -/
theorem total_assign_succ (entries : List (κ × Nat)) (k : κ) :
    total (assign entries k (usage entries k + 1)) = total entries + 1 := by
  have h := total_assign entries k (usage entries k + 1)
  omega

end NightRecon.Lib.Tally
