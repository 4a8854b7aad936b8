import Mathlib.Data.List.Induction
import Mathlib.Data.List.Perm.Basic
import Mathlib.Data.List.Sort
import NightRecon.Lib.Keyed

/-!
# Records by key

A dictionary whose values carry their keys is the list of its values, in the order of insertion.

* `put` — a record stored under its key; `collect` — the dictionary of a list, the last record of
  a key counting; `discard` — a key removed;
* `find?_put`, `find?_collect`, `find?_discard` — the lookups afterwards;
* `Follows`, `foldl_follows` — what a loop that puts records keeps of each;
* `eq_of_strict` — lists in strict order are equal when they have the same elements.
-/

namespace NightRecon.Lib.Records

variable {κ α : Type} [DecidableEq κ] (key : α → κ)

/-- `entries[key(a)] = a`: the record of the key is replaced, or a new one added at the end. -/
def put : List α → α → List α
  | [], a => [a]
  | b :: l, a => if key b = key a then a :: l else b :: put l a

/-- `{key(a): a for a in l}`. -/
def collect (l : List α) : List α := l.foldl (put key) []

/-- `entries.pop(k, None)`. -/
def discard (l : List α) (k : κ) : List α := l.filter fun a => key a ≠ k

variable {key}

theorem find?_put (l : List α) (a : α) (k : κ) :
    (put key l a).find? (fun b => key b = k) =
      if key a = k then some a else l.find? (fun b => key b = k) := by
  induction l with
  | nil => by_cases h : key a = k <;> simp [put, h]
  | cons b l ih =>
    by_cases hb : key b = key a
    · rw [put, if_pos hb, List.find?_cons, List.find?_cons, hb]
      by_cases h : key a = k <;> simp [h]
    · rw [put, if_neg hb, List.find?_cons, List.find?_cons, ih]
      by_cases hk : key b = k
      · have hne : ¬ key a = k := fun h => hb (hk.trans h.symm)
        simp [hk, hne]
      · simp [hk]

theorem mem_keys_put {l : List α} {a : α} {k : κ} :
    k ∈ (put key l a).map key ↔ k = key a ∨ k ∈ l.map key := by
  induction l with
  | nil => simp [put]
  | cons b l ih =>
    by_cases hb : key b = key a
    · rw [put, if_pos hb, List.map_cons, List.map_cons, List.mem_cons, List.mem_cons, hb]
      tauto
    · rw [put, if_neg hb, List.map_cons, List.map_cons, List.mem_cons, List.mem_cons, ih]
      tauto

theorem keys_put_nodup {l : List α} (h : (l.map key).Nodup) (a : α) :
    ((put key l a).map key).Nodup := by
  induction l with
  | nil => exact List.nodup_singleton _
  | cons b l ih =>
    rw [List.map_cons, List.nodup_cons] at h
    by_cases hb : key b = key a
    · rw [put, if_pos hb, List.map_cons, List.nodup_cons, ← hb]
      exact h
    · rw [put, if_neg hb, List.map_cons, List.nodup_cons]
      refine ⟨fun hmem => ?_, ih h.2⟩
      rcases mem_keys_put.mp hmem with heq | hmem
      · exact hb heq
      · exact h.1 hmem

/-- A record with a new key comes last. -/
theorem put_of_new {l : List α} {a : α} (h : key a ∉ l.map key) : put key l a = l ++ [a] := by
  induction l with
  | nil => rfl
  | cons b l ih =>
    rw [List.map_cons, List.mem_cons, not_or] at h
    rw [put, if_neg (Ne.symm h.1), ih h.2, List.cons_append]

theorem collect_concat (l : List α) (a : α) :
    collect key (l ++ [a]) = put key (collect key l) a := by
  rw [collect, List.foldl_append, List.foldl_cons, List.foldl_nil, collect]

theorem collect_nodup (l : List α) : ((collect key l).map key).Nodup := by
  induction l using List.reverseRecOn with
  | nil => exact List.nodup_nil
  | append_singleton l a ih =>
    rw [collect_concat]
    exact keys_put_nodup ih a

/-- **The last record of a key counts.** -/
theorem find?_collect (l : List α) (k : κ) :
    (collect key l).find? (fun a => key a = k) = l.reverse.find? fun a => key a = k := by
  induction l using List.reverseRecOn with
  | nil => rfl
  | append_singleton l a ih =>
    rw [collect_concat, find?_put, ih, List.reverse_concat, List.find?_cons]
    by_cases h : key a = k <;> simp [h]

/-- Records with differing keys are the dictionary they give. -/
theorem collect_eq_self {l : List α} (h : (l.map key).Nodup) : collect key l = l := by
  induction l using List.reverseRecOn with
  | nil => rfl
  | append_singleton l a ih =>
    rw [List.map_append, List.nodup_append] at h
    rw [collect_concat, ih h.1]
    exact put_of_new fun hmem => h.2.2 _ hmem _ (List.mem_singleton_self _) rfl

theorem find?_discard (l : List α) (k k' : κ) :
    (discard key l k).find? (fun a => key a = k') =
      if k' = k then none else l.find? (fun a => key a = k') := by
  by_cases h : k' = k
  · rw [if_pos h, List.find?_eq_none]
    intro a ha
    rw [discard, List.mem_filter, decide_eq_true_eq] at ha
    rw [decide_eq_true_eq, h]
    exact ha.2
  · rw [if_neg h, discard, List.find?_filter]
    congr 1
    funext a
    by_cases ha : key a = k'
    · simp [ha, h]
    · simp [ha]

theorem keys_discard_nodup {l : List α} (h : (l.map key).Nodup) (k : κ) :
    ((discard key l k).map key).Nodup := h.sublist (List.filter_sublist.map key)

/-! ## Loops that put records -/

theorem mem_put {l : List α} {a b : α} (h : b ∈ put key l a) : b = a ∨ b ∈ l := by
  induction l with
  | nil => exact .inl (List.mem_singleton.mp h)
  | cons c l ih =>
    rw [put] at h
    split at h
    · rcases List.mem_cons.mp h with rfl | h
      · exact .inl rfl
      · exact .inr (List.mem_cons_of_mem _ h)
    · rcases List.mem_cons.mp h with rfl | h
      · exact .inr List.mem_cons_self
      · exact (ih h).imp id (List.mem_cons_of_mem _)

theorem mem_of_mem_collect {l : List α} {a : α} (h : a ∈ collect key l) : a ∈ l := by
  induction l using List.reverseRecOn with
  | nil => exact h
  | append_singleton l b ih =>
    rw [collect_concat] at h
    rcases mem_put h with rfl | h
    · exact List.mem_append_right _ List.mem_cons_self
    · exact List.mem_append_left _ (ih h)

/-- What becomes of good records: keys still differ, the records are still good, and each is
followed by one of the same key that is related to it. -/
structure Follows (key : α → κ) (G : α → Prop) (R : α → α → Prop) (l l' : List α) : Prop where
  distinct : (l.map key).Nodup → (l'.map key).Nodup
  good : (∀ a ∈ l, G a) → ∀ a ∈ l', G a
  kept : (∀ a ∈ l, G a) → ∀ k b, l.find? (fun a => key a = k) = some b →
    ∃ a, l'.find? (fun a => key a = k) = some a ∧ R b a

section Follows

variable {G : α → Prop} {R : α → α → Prop}

theorem follows_self (hR : ∀ a, R a a) (l : List α) : Follows key G R l l :=
  ⟨id, id, fun _ _ b hb => ⟨b, hb, hR b⟩⟩

theorem Follows.trans {l l' l'' : List α} (hR : ∀ a b c, R a b → R b c → R a c)
    (h : Follows key G R l l') (h' : Follows key G R l' l'') :
    Follows key G R l l'' := by
  refine ⟨fun hl => h'.distinct (h.distinct hl), fun hl => h'.good (h.good hl), ?_⟩
  intro hl k b hb
  obtain ⟨a, ha, hba⟩ := h.kept hl k b hb
  obtain ⟨c, hc, hac⟩ := h'.kept (h.good hl) k a ha
  exact ⟨c, hc, hR b a c hba hac⟩

theorem Follows.imp {R' : α → α → Prop} {l l' : List α} (h : Follows key G R l l')
    (hR : ∀ a b, R a b → R' a b) : Follows key G R' l l' := by
  refine ⟨h.distinct, h.good, fun hl k b hb => ?_⟩
  obtain ⟨a, ha, hba⟩ := h.kept hl k b hb
  exact ⟨a, ha, hR b a hba⟩

/-- One record is put that is good, and related to the one it replaces. -/
theorem follows_put (hself : ∀ a, R a a) {l : List α} {a : α} (hgood : (∀ b ∈ l, G b) → G a)
    (hR : (∀ b ∈ l, G b) → ∀ b, l.find? (fun c => key c = key a) = some b → R b a) :
    Follows key G R l (put key l a) := by
  refine ⟨fun hl => keys_put_nodup hl a, fun hl b hb => ?_, fun hl k b hb => ?_⟩
  · rcases mem_put hb with rfl | hb
    · exact hgood hl
    · exact hl b hb
  · rw [find?_put]
    by_cases hk : key a = k
    · subst hk
      rw [if_pos rfl]
      exact ⟨a, rfl, hR hl b hb⟩
    · rw [if_neg hk]
      exact ⟨b, hb, hself b⟩

/-- **A loop whose turns follow each other.** -/
theorem foldl_follows {σ β : Type} {read : σ → List α} {f : σ → β → σ} (hself : ∀ a, R a a)
    (htrans : ∀ a b c, R a b → R b c → R a c)
    (hstep : ∀ s x, Follows key G R (read s) (read (f s x))) (items : List β) (s : σ) :
    Follows key G R (read s) (read (items.foldl f s)) := by
  induction items generalizing s with
  | nil => exact follows_self hself _
  | cons x items ih =>
    rw [List.foldl_cons]
    exact (hstep s x).trans htrans (ih (f s x))

end Follows

/-! ## Strict order -/

section Order

variable {κ : Type} [LinearOrder κ] {key : α → κ} {l l' : List α}

/-- Two strictly sorted lists with the same elements are one. -/
theorem eq_of_strict (h : l.Pairwise fun a b => key a < key b)
    (h' : l'.Pairwise fun a b => key a < key b) (hmem : ∀ a, a ∈ l ↔ a ∈ l') : l = l' := by
  have hne : ∀ {m : List α}, m.Pairwise (fun a b => key a < key b) → m.Nodup :=
    fun hm => hm.imp fun hab heq => absurd (heq ▸ hab) (lt_irrefl _)
  have hperm : l.Perm l' := (List.perm_ext_iff_of_nodup (hne h) (hne h')).mpr hmem
  exact hperm.eq_of_pairwise (fun a b _ _ hab hba => absurd (hab.trans hba) (lt_irrefl _)) h h'

theorem keys_nodup_of_strict (h : l.Pairwise fun a b => key a < key b) : (l.map key).Nodup :=
  List.pairwise_map.mpr (h.imp fun hab => hab.ne)

/-- Sorting records with differing keys puts them in strict order. -/
theorem insertionSort_strict (h : (l.map key).Nodup) :
    (l.insertionSort fun a b => key a ≤ key b).Pairwise fun a b => key a < key b := by
  have htotal : Std.Total fun a b : α => key a ≤ key b := ⟨fun a b => le_total (key a) (key b)⟩
  have htrans : IsTrans α fun a b => key a ≤ key b := ⟨fun _ _ _ hab hbc => le_trans hab hbc⟩
  have hnodup := ((List.perm_insertionSort (fun a b => key a ≤ key b) l).map key).nodup_iff.mpr h
  have hsorted := List.pairwise_insertionSort (fun a b => key a ≤ key b) l
  exact (hsorted.and (List.pairwise_map.mp hnodup)).imp fun hab => lt_of_le_of_ne hab.1 hab.2

end Order

end NightRecon.Lib.Records
