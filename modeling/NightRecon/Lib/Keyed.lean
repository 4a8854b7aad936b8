import Mathlib.Data.List.Nodup
import Mathlib.Data.List.Perm.Basic

/-!
# Lists whose elements have differing keys

* `find?_eq_some_iff` — a lookup finds the one element with the key;
* `find?_perm` — a lookup does not see the order of the list;
* `eq_of_map_key_eq` — the keys tell lists of elements apart.
-/

namespace NightRecon.Lib.Keyed

variable {κ α : Type} [DecidableEq κ] {key : α → κ} {l l' : List α}

/-- **A lookup finds the one element with the key.** -/
theorem find?_eq_some_iff (h : (l.map key).Nodup) {k : κ} {a : α} :
    l.find? (fun a => key a = k) = some a ↔ a ∈ l ∧ key a = k := by
  constructor
  · intro hfind
    have hkey := List.find?_some hfind
    exact ⟨List.mem_of_find?_eq_some hfind, of_decide_eq_true hkey⟩
  · rintro ⟨hmem, rfl⟩
    cases hfind : l.find? (fun b => key b = key a) with
    | none => exact absurd (decide_eq_true rfl) (List.find?_eq_none.mp hfind a hmem)
    | some b =>
      have hkey := List.find?_some hfind
      have heq := List.inj_on_of_nodup_map h (List.mem_of_find?_eq_some hfind) hmem
        (of_decide_eq_true hkey)
      rw [heq]

theorem find?_perm (hperm : l.Perm l') (h : (l.map key).Nodup) (k : κ) :
    l.find? (fun a => key a = k) = l'.find? (fun a => key a = k) := by
  have h' : (l'.map key).Nodup := (hperm.map _).nodup_iff.mp h
  apply Option.ext
  intro a
  rw [find?_eq_some_iff h, find?_eq_some_iff h', hperm.mem_iff]

omit [DecidableEq κ] in
/-- The keys tell lists of elements apart. -/
theorem eq_of_map_key_eq (h : (l.map key).Nodup) :
    ∀ {s t : List α}, (∀ a ∈ s, a ∈ l) → (∀ a ∈ t, a ∈ l) → s.map key = t.map key → s = t := by
  intro s
  induction s with
  | nil =>
    intro t _ _ heq
    exact (List.map_eq_nil_iff.mp heq.symm).symm
  | cons a s ih =>
    intro t hs ht heq
    cases t with
    | nil => exact absurd heq (List.cons_ne_nil _ _)
    | cons b t =>
      obtain ⟨hkey, hrest⟩ := List.cons_eq_cons.mp heq
      obtain ⟨ha, hs⟩ := List.forall_mem_cons.mp hs
      obtain ⟨hb, ht⟩ := List.forall_mem_cons.mp ht
      rw [List.inj_on_of_nodup_map h ha hb hkey, ih hs ht hrest]

end NightRecon.Lib.Keyed
