import Mathlib.Data.List.Induction
import Mathlib.Data.List.Nodup

/-!
# The first element of each key

A loop over a list that keeps an element when none it kept before has its key.

* `keepFirst` — one turn; `keepAll` — the loop; `firsts` — what it keeps of a list;
* `keepAll_append`, `keys_keepFirst_nodup` — loops one after another, and distinct keys;
* `mem_firsts_iff` — what is kept is the first element of its key.
-/

namespace NightRecon.Lib.Firsts

variable {α κ : Type} [DecidableEq κ] (key : α → κ)

/-- `if key(a) not in seen: kept.append(a)`. -/
def keepFirst (kept : List α) (a : α) : List α :=
  if key a ∈ kept.map key then kept else kept ++ [a]

/-- The loop, from what was kept before it. -/
def keepAll (kept l : List α) : List α := l.foldl (keepFirst key) kept

/-- The first element of each key of a list. -/
def firsts (l : List α) : List α := keepAll key [] l

variable {key} {kept l : List α} {a : α}

theorem keepFirst_of_mem (h : key a ∈ kept.map key) : keepFirst key kept a = kept := if_pos h

theorem keepFirst_of_notMem (h : key a ∉ kept.map key) : keepFirst key kept a = kept ++ [a] :=
  if_neg h

/-- Loops one after another are one loop. -/
theorem keepAll_append (kept l l' : List α) :
    keepAll key kept (l ++ l') = keepAll key (keepAll key kept l) l' := List.foldl_append

theorem mem_keys_keepFirst {k : κ} :
    k ∈ (keepFirst key kept a).map key ↔ k ∈ kept.map key ∨ k = key a := by
  by_cases hmem : key a ∈ kept.map key
  · rw [keepFirst_of_mem hmem]
    constructor
    · exact Or.inl
    · rintro (hk | rfl)
      · exact hk
      · exact hmem
  · rw [keepFirst_of_notMem hmem, List.map_append, List.mem_append, List.map_singleton,
      List.mem_singleton]

theorem keys_keepFirst_nodup (h : (kept.map key).Nodup) (a : α) :
    ((keepFirst key kept a).map key).Nodup := by
  by_cases hmem : key a ∈ kept.map key
  · rwa [keepFirst_of_mem hmem]
  · rw [keepFirst_of_notMem hmem, List.map_append]
    refine h.append (List.nodup_singleton _) fun k hk hk' => ?_
    obtain rfl := List.mem_singleton.mp hk'
    exact hmem hk

theorem firsts_concat (l : List α) (a : α) : firsts key (l ++ [a]) = keepFirst key (firsts key l) a :=
  keepAll_append [] l [a]

theorem mem_keys_firsts {k : κ} : k ∈ (firsts key l).map key ↔ k ∈ l.map key := by
  induction l using List.reverseRecOn with
  | nil => exact Iff.rfl
  | append_singleton l a ih =>
    rw [firsts_concat, mem_keys_keepFirst, ih, List.map_append, List.mem_append, List.map_singleton,
      List.mem_singleton]

theorem firsts_keys_nodup (l : List α) : ((firsts key l).map key).Nodup := by
  induction l using List.reverseRecOn with
  | nil => exact List.nodup_nil
  | append_singleton l a ih =>
    rw [firsts_concat]
    exact keys_keepFirst_nodup ih a

/-- **What is kept of a list is the first element of its key.** -/
theorem mem_firsts_iff : a ∈ firsts key l ↔ l.find? (fun b => key b = key a) = some a := by
  induction l using List.reverseRecOn with
  | nil => simp [firsts, keepAll]
  | append_singleton l b ih =>
    rw [firsts_concat, List.find?_append]
    by_cases hmem : key b ∈ (firsts key l).map key
    · rw [keepFirst_of_mem hmem, ih]
      cases hfind : l.find? fun c => key c = key a with
      | some c => rfl
      | none =>
        -- no element of `l` has the key of `a`, and `b` has the key of one
        have hne : key b ≠ key a := by
          obtain ⟨c, hc, hkey⟩ := List.mem_map.mp (mem_keys_firsts.mp hmem)
          have hnone := List.find?_eq_none.mp hfind c hc
          rw [hkey] at hnone
          exact of_decide_eq_false (Bool.not_eq_true _ |>.mp hnone)
        simp [hne]
    · rw [keepFirst_of_notMem hmem, List.mem_append, List.mem_singleton, ih]
      cases hfind : l.find? fun c => key c = key a with
      | some c =>
        constructor
        · rintro (h | rfl)
          · exact h
          · -- `c` would be an earlier element with the key of `b`
            have hkey : key c = key a := by simpa using List.find?_some hfind
            have hc := List.mem_of_find?_eq_some hfind
            exact absurd (mem_keys_firsts.mpr (hkey ▸ List.mem_map_of_mem hc)) hmem
        · exact Or.inl
      | none =>
        constructor
        · rintro (h | rfl)
          · exact absurd h (by simp)
          · simp
        · intro h
          by_cases hb : key b = key a
          · exact .inr (by simpa [hb] using h.symm)
          · exact absurd h (by simp [hb])

end NightRecon.Lib.Firsts
