import Mathlib.Data.List.Nodup

/-!
# Association lists

A dictionary whose insertion order is read is a list of keys with their values, in which no key
occurs twice.

* `find d entries k` — the value of a key, `d` where there is none; `assign` — a key given a value;
* `find_assign`, `mem_keys_assign`, `keys_assign_nodup` — what an assignment does to values and keys;
* `mem_iff` — the entries are the keys with their values; `find_perm` — lookups do not see the order.
-/

namespace NightRecon.Lib.Assoc

variable {κ β : Type} [DecidableEq κ]

/-- `dict(entries).get(k, d)`. -/
def find (d : β) : List (κ × β) → κ → β
  | [], _ => d
  | (l, v) :: entries, k => if l = k then v else find d entries k

/-- `entries[k] = v`: the entry of the key is overwritten, or a new one added at the end. -/
def assign : List (κ × β) → κ → β → List (κ × β)
  | [], k, v => [(k, v)]
  | (l, w) :: entries, k, v => if l = k then (l, v) :: entries else (l, w) :: assign entries k v

/-- The keys that have a value. -/
def keys (entries : List (κ × β)) : List κ := entries.map Prod.fst

theorem find_eq_default {d : β} {entries : List (κ × β)} {k : κ} (h : k ∉ keys entries) :
    find d entries k = d := by
  induction entries with
  | nil => rfl
  | cons e entries ih =>
    obtain ⟨hne, hrest⟩ := not_or.mp (fun hk => h (List.mem_cons.mpr hk))
    rw [find, if_neg (Ne.symm hne)]
    exact ih hrest

/-- An entry gives the value of its key. -/
theorem find_of_mem {d : β} {entries : List (κ × β)} (h : (keys entries).Nodup) {e : κ × β}
    (he : e ∈ entries) : find d entries e.1 = e.2 := by
  induction entries with
  | nil => exact absurd he List.not_mem_nil
  | cons e' entries ih =>
    obtain ⟨hnew, hrest⟩ := List.nodup_cons.mp h
    rcases List.mem_cons.mp he with rfl | he
    · exact if_pos rfl
    · have hne : e'.1 ≠ e.1 := by
        intro heq
        apply hnew
        rw [heq]
        exact List.mem_map_of_mem he
      rw [find, if_neg hne]
      exact ih hrest he

/-- **The entries are the keys with their values.** -/
theorem mem_iff {d : β} {entries : List (κ × β)} (h : (keys entries).Nodup) {e : κ × β} :
    e ∈ entries ↔ e.1 ∈ keys entries ∧ find d entries e.1 = e.2 := by
  constructor
  · intro he
    exact ⟨List.mem_map_of_mem he, find_of_mem h he⟩
  · rintro ⟨hkey, hfind⟩
    obtain ⟨e', he', heq⟩ := List.mem_map.mp hkey
    have hsame : e' = e := by
      apply Prod.ext heq
      rw [← find_of_mem (d := d) h he', heq, hfind]
    exact hsame ▸ he'

/-- **Lookups do not see the order of the list.** -/
theorem find_perm {d : β} {entries entries' : List (κ × β)} (hperm : entries.Perm entries')
    (h : (keys entries).Nodup) (k : κ) : find d entries k = find d entries' k := by
  have h' : (keys entries').Nodup := (hperm.map _).nodup_iff.mp h
  by_cases hk : k ∈ keys entries
  · obtain ⟨e, he, rfl⟩ := List.mem_map.mp hk
    rw [find_of_mem h he, find_of_mem h' (hperm.mem_iff.mp he)]
  · have hk' : k ∉ keys entries' := fun hmem => hk ((hperm.map _).mem_iff.mpr hmem)
    rw [find_eq_default hk, find_eq_default hk']

/-! ## Assignment -/

theorem find_assign (d : β) (entries : List (κ × β)) (k : κ) (v : β) (k' : κ) :
    find d (assign entries k v) k' = if k' = k then v else find d entries k' := by
  induction entries with
  | nil =>
    show (if k = k' then v else d) = if k' = k then v else d
    by_cases h : k' = k
    · rw [if_pos h.symm, if_pos h]
    · rw [if_neg (Ne.symm h), if_neg h]
  | cons e entries ih =>
    by_cases hk : e.1 = k
    · rw [assign, if_pos hk, find, find]
      by_cases h : k' = k
      · rw [if_pos (hk.trans h.symm), if_pos h]
      · rw [if_neg (fun heq => h (heq.symm.trans hk)), if_neg h,
          if_neg (fun heq => h (heq.symm.trans hk))]
    · rw [assign, if_neg hk, find, find, ih]
      by_cases h : k' = k
      · rw [if_pos h, if_pos h, if_neg (fun heq => hk (heq.trans h))]
      · rw [if_neg h, if_neg h]

/-- The keys after an assignment: the key assigned, and those there were. -/
theorem mem_keys_assign {entries : List (κ × β)} {k : κ} {v : β} {k' : κ} :
    k' ∈ keys (assign entries k v) ↔ k' = k ∨ k' ∈ keys entries := by
  induction entries with
  | nil => simp [assign, keys]
  | cons e entries ih =>
    by_cases hk : e.1 = k
    · rw [assign, if_pos hk]
      simp only [keys, List.map_cons, List.mem_cons]
      constructor
      · exact .inr
      · rintro (rfl | h)
        · exact .inl hk.symm
        · exact h
    · rw [assign, if_neg hk]
      simp only [keys, List.map_cons, List.mem_cons] at ih ⊢
      rw [ih, or_left_comm]

theorem keys_assign_nodup {entries : List (κ × β)} (h : (keys entries).Nodup) (k : κ) (v : β) :
    (keys (assign entries k v)).Nodup := by
  induction entries with
  | nil => exact List.nodup_singleton k
  | cons e entries ih =>
    obtain ⟨hnew, hrest⟩ := List.nodup_cons.mp h
    by_cases hk : e.1 = k
    · rw [assign, if_pos hk]
      exact h
    · rw [assign, if_neg hk]
      refine List.nodup_cons.mpr ⟨?_, ih hrest⟩
      intro hmem
      rcases mem_keys_assign.mp hmem with heq | hmem
      · exact hk heq
      · exact hnew hmem

/-- A new key comes last. -/
theorem keys_assign (entries : List (κ × β)) (k : κ) (v : β) :
    keys (assign entries k v) =
      if k ∈ keys entries then keys entries else keys entries ++ [k] := by
  induction entries with
  | nil => rfl
  | cons e entries ih =>
    by_cases hk : e.1 = k
    · have hmem : k ∈ keys (e :: entries) := List.mem_cons.mpr (.inl hk.symm)
      rw [assign, if_pos hk, if_pos hmem]
      rfl
    · have hkeys : keys ((e.1, e.2) :: assign entries k v) = e.1 :: keys (assign entries k v) := rfl
      rw [assign, if_neg hk, hkeys, ih]
      by_cases hmem : k ∈ keys entries
      · have hold : k ∈ keys (e :: entries) := List.mem_cons_of_mem _ hmem
        rw [if_pos hmem, if_pos hold]
        rfl
      · have hnew : k ∉ keys (e :: entries) := by
          intro h
          rcases List.mem_cons.mp h with heq | h
          · exact hk heq.symm
          · exact hmem h
        rw [if_neg hmem, if_neg hnew]
        rfl

end NightRecon.Lib.Assoc
