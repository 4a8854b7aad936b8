import Mathlib.Data.List.Infix

/-!
# Scopes

A scope is one path or, when it ends in the separator, everything that begins with it.

* `Covers sep scope path` — the path is in the scope; `covers_trans`;
* `Overlaps sep left right` — one scope covers the other; `overlaps_of_covers` says that **two
  scopes with a path in common overlap**.
-/

namespace NightRecon.Lib.Scopes

variable {α : Type} {sep : α} {scope path left right : List α}

section Definitions

variable [DecidableEq α] (sep) (scope path left right)

/-- The path is in the scope. -/
def Covers : Prop := if scope.getLast? = some sep then scope <+: path else path = scope

instance : Decidable (Covers sep scope path) := by
  unfold Covers
  infer_instance

/-- One of the scopes covers the other. -/
def Overlaps : Prop := Covers sep left right ∨ Covers sep right left

instance : Decidable (Overlaps sep left right) := inferInstanceAs (Decidable (_ ∨ _))

end Definitions

variable [DecidableEq α]

theorem covers_dir (h : scope.getLast? = some sep) : Covers sep scope path ↔ scope <+: path := by
  rw [Covers, if_pos h]

theorem covers_file (h : scope.getLast? ≠ some sep) : Covers sep scope path ↔ path = scope := by
  rw [Covers, if_neg h]

theorem covers_self (scope : List α) : Covers sep scope scope := by
  by_cases hdir : scope.getLast? = some sep
  · exact (covers_dir hdir).mpr List.prefix_rfl
  · exact (covers_file hdir).mpr rfl

/-- A scope covers every path of a scope it covers. -/
theorem covers_trans {inner : List α} (houter : Covers sep scope inner)
    (hinner : Covers sep inner path) : Covers sep scope path := by
  by_cases hdir : scope.getLast? = some sep
  · rw [covers_dir hdir] at houter ⊢
    by_cases hinnerDir : inner.getLast? = some sep
    · exact houter.trans ((covers_dir hinnerDir).mp hinner)
    · rwa [(covers_file hinnerDir).mp hinner]
  · rwa [← (covers_file hdir).mp houter]

/-- **Two scopes with a path in common overlap.** -/
theorem overlaps_of_covers (hleft : Covers sep left path) (hright : Covers sep right path) :
    Overlaps sep left right := by
  by_cases hl : left.getLast? = some sep
  · by_cases hr : right.getLast? = some sep
    · have hprefix : left <+: path := (covers_dir hl).mp hleft
      have hprefix' : right <+: path := (covers_dir hr).mp hright
      exact (List.prefix_or_prefix_of_prefix hprefix hprefix').imp (covers_dir hl).mpr
        (covers_dir hr).mpr
    · rw [covers_file hr] at hright
      exact .inl (hright ▸ hleft)
  · rw [covers_file hl] at hleft
    exact .inr (hleft ▸ hright)

end NightRecon.Lib.Scopes
