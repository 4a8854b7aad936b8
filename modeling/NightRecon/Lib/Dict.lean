import Mathlib.Data.Finmap
import Mathlib.Data.Finset.Sort
import Mathlib.Data.String.Basic
import NightRecon.Lib.Checks

/-!
# Dictionaries

A dictionary is Mathlib's `Finmap`: equality is extensional, as it is for dictionaries whose
insertion order nobody reads.

* `Dict.sortedValues` — the values in key order, the form in which a dictionary is written out;
* `Dict.readInto` — the dictionary of a list of documents, each read to a value that carries its
  key, refused when a key occurs twice; `Dict.readInto_sortedValues` says that writing the values
  out in key order and reading them back is the identity;
* `Dict.ofValues` — the dictionary of a list of values; `Dict.ofValues_sortedValues`.
-/

namespace NightRecon.Lib

/-- A dictionary from keys of the type `κ` to values of the type `α`. -/
abbrev Dict (κ α : Type) := Finmap fun _ : κ => α

/-- Texts are sorted by the order of their characters. -/
instance textLe_trans : IsTrans String (· ≤ ·) := ⟨fun _ _ _ => le_trans⟩

instance textLe_antisymm : Std.Antisymm fun v w : String => v ≤ w := ⟨fun _ _ => le_antisymm⟩

/-- Membership in a table of two text columns is decided row by row. -/
instance decidableMemRows (row : String × String) (rows : List (String × String)) :
    Decidable (row ∈ rows) := inferInstance

namespace Dict

variable {κ α : Type}

section Update

variable [DecidableEq κ]

theorem lookup_insert_eq (d : Dict κ α) (k k' : κ) (v : α) :
    (d.insert k v).lookup k' = if k' = k then some v else d.lookup k' := by
  by_cases h : k' = k
  · rw [if_pos h, h, Finmap.lookup_insert]
  · rw [if_neg h, Finmap.lookup_insert_of_ne _ h]

/-- Overwriting an entry and then restoring it gives the dictionary back. -/
theorem insert_restore {d : Dict κ α} {k : κ} {v w : α} (h : d.lookup k = some v) :
    (d.insert k w).insert k v = d := by
  apply Finmap.ext_lookup
  intro k'
  rw [lookup_insert_eq, lookup_insert_eq]
  by_cases hk : k' = k
  · rw [if_pos hk, hk, h]
  · rw [if_neg hk, if_neg hk]

/-- Writing the value an entry has already changes nothing. -/
theorem insert_lookup {d : Dict κ α} {k : κ} {v : α} (h : d.lookup k = some v) :
    d.insert k v = d := by
  rw [← Finmap.insert_insert (b := v), insert_restore h]

/-- Removing a new entry gives the dictionary back. -/
theorem erase_insert {d : Dict κ α} {k : κ} {w : α} (h : d.lookup k = none) :
    (d.insert k w).erase k = d := by
  apply Finmap.ext_lookup
  intro k'
  by_cases hk : k' = k
  · rw [hk, Finmap.lookup_erase, h]
  · rw [Finmap.lookup_erase_ne hk, Finmap.lookup_insert_of_ne _ hk]

end Update

/-! ## Writing out and reading back -/

section Sorted

variable [LinearOrder κ]

/-- The values in the order of their keys. -/
def sortedValues (d : Dict κ α) : List α := (d.keys.sort (· ≤ ·)).filterMap d.lookup

/-- Read documents one after another into a dictionary; a key that occurs twice raises
`duplicate`. -/
def readInto {ε δ : Type} (read : δ → Except ε α) (key : α → κ) (duplicate : ε) (items : List δ) :
    Except ε (Dict κ α) :=
  items.foldlM (fun d item => do
    let v ← read item
    Checks.raiseIf (key v ∈ d) duplicate
    return d.insert (key v) v) ∅

/-- The reading loop, from a dictionary with none of the keys to come. -/
theorem foldlM_read {ε δ : Type} {read : δ → Except ε α} {key : α → κ} {write : α → δ}
    (duplicate : ε) (l : List α) (d : Dict κ α) (hread : ∀ v ∈ l, read (write v) = .ok v)
    (hd : ∀ v ∈ l, key v ∉ d) (hl : (l.map key).Nodup) :
    ∃ d', (l.map write).foldlM (fun d item => do
        let v ← read item
        Checks.raiseIf (key v ∈ d) duplicate
        return d.insert (key v) v) d = .ok d' ∧
      ∀ k, d'.lookup k = ((l.find? fun v => key v = k).or (d.lookup k)) := by
  induction l generalizing d with
  | nil => exact ⟨d, rfl, fun k => by simp⟩
  | cons v l ih =>
    rw [List.map_cons, List.nodup_cons] at hl
    have hv : key v ∉ d := hd v List.mem_cons_self
    have hrest : ∀ w ∈ l, key w ∉ d.insert (key v) v := by
      intro w hw hmem
      rcases Finmap.mem_insert.mp hmem with h | h
      · exact hl.1 (h ▸ List.mem_map_of_mem hw)
      · exact hd w (List.mem_cons_of_mem _ hw) h
    obtain ⟨d', hd', hlook⟩ := ih (d.insert (key v) v)
      (fun w hw => hread w (List.mem_cons_of_mem _ hw)) hrest hl.2
    refine ⟨d', ?_, fun k => ?_⟩
    · rw [List.map_cons, List.foldlM_cons, hread v List.mem_cons_self]
      simpa only [Checks.ok_bind, Checks.raiseIf_of_not hv, Checks.pure_eq_ok] using hd'
    · rw [hlook, List.find?_cons, lookup_insert_eq]
      by_cases hk : key v = k
      · subst hk
        have hnone : l.find? (fun w => decide (key w = key v)) = none := by
          rw [List.find?_eq_none]
          intro w hw heq
          exact hl.1 (of_decide_eq_true heq ▸ List.mem_map_of_mem hw)
        simp [hnone]
      · simp [hk, Ne.symm hk]

theorem mem_sortedValues {d : Dict κ α} {v : α} :
    v ∈ sortedValues d ↔ ∃ k, d.lookup k = some v := by
  unfold sortedValues
  simp only [List.mem_filterMap, Finset.mem_sort, Finmap.mem_keys]
  constructor
  · rintro ⟨k, -, h⟩
    exact ⟨k, h⟩
  · rintro ⟨k, h⟩
    exact ⟨k, Finmap.mem_of_lookup_eq_some h, h⟩

theorem map_key_sortedValues {d : Dict κ α} {key : α → κ}
    (h : ∀ k v, d.lookup k = some v → key v = k) :
    (sortedValues d).map key = d.keys.sort (· ≤ ·) := by
  unfold sortedValues
  have hsome : ∀ k ∈ d.keys.sort (· ≤ ·), Option.map key (d.lookup k) = some k := by
    intro k hk
    obtain ⟨v, hv⟩ := Finmap.mem_iff.mp (Finmap.mem_keys.mp ((Finset.mem_sort _).mp hk))
    rw [hv, Option.map_some, h k v hv]
  rw [List.map_filterMap, List.filterMap_congr hsome]
  exact List.filterMap_some

/-- **Writing a dictionary out and reading it back gives the dictionary.** -/
theorem readInto_sortedValues {ε δ : Type} {read : δ → Except ε α} {key : α → κ} {duplicate : ε}
    {write : α → δ} {d : Dict κ α} (hread : ∀ k v, d.lookup k = some v → read (write v) = .ok v)
    (h : ∀ k v, d.lookup k = some v → key v = k) :
    readInto read key duplicate ((sortedValues d).map write) = .ok d := by
  have hnodup : ((sortedValues d).map key).Nodup := by
    rw [map_key_sortedValues h]
    exact Finset.sort_nodup _ _
  have hwritten : ∀ v ∈ sortedValues d, read (write v) = .ok v := by
    intro v hv
    obtain ⟨k, hk⟩ := mem_sortedValues.mp hv
    exact hread k v hk
  obtain ⟨d', hd', hlook⟩ := foldlM_read duplicate (sortedValues d) ∅ hwritten
    (fun _ _ => Finmap.notMem_empty) hnodup
  rw [readInto, hd', Except.ok.injEq]
  apply Finmap.ext_lookup
  intro k
  rw [hlook, Finmap.lookup_empty, Option.or_none]
  cases hk : d.lookup k with
  | none =>
    rw [List.find?_eq_none]
    intro v hv heq
    obtain ⟨k', hk'⟩ := mem_sortedValues.mp hv
    rw [← of_decide_eq_true heq, h k' v hk', hk'] at hk
    cases hk
  | some v =>
    -- the value found carries the key `k`, and so does the value stored under `k`
    have hv : v ∈ sortedValues d := mem_sortedValues.mpr ⟨k, hk⟩
    have hkey : key v = k := h k v hk
    cases hf : (sortedValues d).find? fun w => decide (key w = k) with
    | none =>
      rw [List.find?_eq_none] at hf
      exact absurd (decide_eq_true hkey) (hf v hv)
    | some w =>
      obtain ⟨k', hk'⟩ := mem_sortedValues.mp (List.mem_of_find?_eq_some hf)
      have hw : key w = k := by simpa using List.find?_some hf
      rw [← h k' w hk', hw, hk] at hk'
      exact hk'.symm

/-! ## Rebuilding -/

/-- `{key(v): v for v in l}`. -/
def ofValues (key : α → κ) (l : List α) : Dict κ α := l.foldl (fun d v => d.insert (key v) v) ∅

/-- The last value of a key counts. -/
theorem lookup_ofValues (key : α → κ) (l : List α) (k : κ) :
    (ofValues key l).lookup k = l.reverse.find? fun v => key v = k := by
  induction l using List.reverseRecOn with
  | nil => exact Finmap.lookup_empty k
  | append_singleton l v ih =>
    rw [ofValues, List.foldl_append, List.foldl_cons, List.foldl_nil, lookup_insert_eq,
      List.reverse_concat, List.find?_cons]
    by_cases h : k = key v
    · rw [if_pos h, decide_eq_true h.symm]
    · rw [if_neg h, decide_eq_false (Ne.symm h)]
      exact ih

/-- A dictionary is rebuilt from its values. -/
theorem ofValues_sortedValues {d : Dict κ α} {key : α → κ}
    (h : ∀ k v, d.lookup k = some v → key v = k) : ofValues key (sortedValues d) = d := by
  have hstored : ∀ v ∈ sortedValues d, d.lookup (key v) = some v := by
    intro v hv
    obtain ⟨k, hk⟩ := mem_sortedValues.mp hv
    rw [h k v hk, hk]
  apply Finmap.ext_lookup
  intro k
  rw [lookup_ofValues]
  cases hfind : (sortedValues d).reverse.find? fun v => key v = k with
  | some v =>
    have hkey : key v = k := by simpa using List.find?_some hfind
    have hv := hstored v (List.mem_reverse.mp (List.mem_of_find?_eq_some hfind))
    rw [← hkey, hv]
  | none =>
    cases hk : d.lookup k with
    | none => rfl
    | some v =>
      have hv := List.mem_reverse.mpr (mem_sortedValues.mpr ⟨k, hk⟩)
      exact absurd (decide_eq_true (h k v hk)) (List.find?_eq_none.mp hfind v hv)

end Sorted

end Dict

end NightRecon.Lib
