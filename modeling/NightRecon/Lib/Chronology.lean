import Mathlib.Data.List.Induction
import Mathlib.Data.List.Sort
import Mathlib.Data.Prod.Lex
import Mathlib.Data.String.Basic
import NightRecon.Lib.Assoc

/-!
# Lists sorted by the text of a time

A list is sorted by a text that stands for an instant, and by an identifier where the texts agree.

* `sortByText` — the sorted list; `Chronological` — a list is in the order of the instants;
  `TextsInOrder` — no text is the smaller of two and stands for the later instant;
* `chronological_sortByText_iff` — **the sorted list is chronological exactly when the texts are in
  order**;
* `lastValues` — the value each key was given last; `mem_lastValues` says by which element, and
  `latest_of_chronological` that in a chronological list no other element is later;
* `Agree`, `lastValues_perm`, `agree_of_perm` — the values do not see the order of the list exactly
  when its elements agree.
-/

namespace NightRecon.Lib.Chronology

variable {α κ β : Type}

/-- `sorted(l, key=lambda item: (text(item), id(item)))`. -/
def sortByText (text id : α → String) (l : List α) : List α :=
  l.insertionSort fun a b => toLex (text a, id a) ≤ toLex (text b, id b)

/-- A list is in the order of the instants of its elements, as far as they have one. -/
def Chronological (instant : α → Option Int) (l : List α) : Prop :=
  l.Pairwise fun a b => ∀ t ∈ instant a, ∀ t' ∈ instant b, t ≤ t'

/-- No element has a text smaller than that of another and the later instant. -/
def TextsInOrder (text : α → String) (instant : α → Option Int) (l : List α) : Prop :=
  ∀ a ∈ l, ∀ b ∈ l, text a < text b → ∀ t ∈ instant a, ∀ t' ∈ instant b, t ≤ t'

theorem sortByText_perm (text id : α → String) (l : List α) : (sortByText text id l).Perm l :=
  List.perm_insertionSort _ l

@[simp] theorem mem_sortByText {text id : α → String} {l : List α} {a : α} :
    a ∈ sortByText text id l ↔ a ∈ l := (sortByText_perm text id l).mem_iff

theorem sortByText_pairwise (text id : α → String) (l : List α) :
    (sortByText text id l).Pairwise fun a b => text a ≤ text b := by
  have htotal : Std.Total fun a b : α => toLex (text a, id a) ≤ toLex (text b, id b) :=
    ⟨fun a b => le_total _ _⟩
  have htrans : IsTrans α fun a b => toLex (text a, id a) ≤ toLex (text b, id b) :=
    ⟨fun _ _ _ hab hbc => le_trans hab hbc⟩
  refine (List.pairwise_insertionSort _ l).imp fun {a b} hab => ?_
  rcases Prod.Lex.toLex_le_toLex.mp hab with hlt | ⟨heq, -⟩
  · exact hlt.le
  · exact heq.le

/-- In a list sorted by the text that is chronological the texts are in order. -/
theorem textsInOrder_of_chronological {text : α → String} {instant : α → Option Int} {l : List α}
    (h : Chronological instant l) (hsorted : l.Pairwise fun a b => text a ≤ text b) :
    TextsInOrder text instant l := by
  induction l with
  | nil => exact fun x hx => absurd hx List.not_mem_nil
  | cons x l ih =>
    rw [Chronological, List.pairwise_cons] at h
    rw [List.pairwise_cons] at hsorted
    intro a ha b hb hlt
    rcases List.mem_cons.mp ha with rfl | hmem <;> rcases List.mem_cons.mp hb with rfl | hmem'
    · exact absurd hlt (lt_irrefl _)
    · exact h.1 b hmem'
    · exact absurd hlt (not_lt.mpr (hsorted.1 a hmem))
    · exact ih h.2 hsorted.2 a hmem b hmem' hlt

/-- **When sorting by the text is chronological.**  The same text stands for the same instant. -/
theorem chronological_sortByText_iff {text id : α → String} {instant : α → Option Int}
    (hsame : ∀ a b, text a = text b → instant a = instant b) (l : List α) :
    Chronological instant (sortByText text id l) ↔ TextsInOrder text instant l := by
  constructor
  · intro h a ha b hb
    exact textsInOrder_of_chronological h (sortByText_pairwise text id l) a
      (mem_sortByText.mpr ha) b (mem_sortByText.mpr hb)
  · intro h
    refine (sortByText_pairwise text id l).imp_of_mem fun {a b} ha hb hle t ht t' ht' => ?_
    rcases hle.eq_or_lt with heq | hlt
    · rw [hsame a b heq] at ht
      exact (Option.mem_unique ht ht').le
    · exact h a (mem_sortByText.mp ha) b (mem_sortByText.mp hb) hlt t ht t' ht'

/-! ## The value given last -/

variable [DecidableEq κ]

/-- One element may give a key a value. -/
def give (f : α → Option (κ × β)) (entries : List (κ × β)) (a : α) : List (κ × β) :=
  match f a with
  | some (k, v) => Assoc.assign entries k v
  | none => entries

/-- The keys that were given a value, with the last one. -/
def lastValues (f : α → Option (κ × β)) (l : List α) : List (κ × β) := l.foldl (give f) []

theorem keys_lastValues_nodup (f : α → Option (κ × β)) (l : List α) :
    (Assoc.keys (lastValues f l)).Nodup := by
  induction l using List.reverseRecOn with
  | nil => exact List.nodup_nil
  | append_singleton l a ih =>
    rw [lastValues, List.foldl_concat, give]
    split
    · exact Assoc.keys_assign_nodup ih _ _
    · exact ih

/-- **A value is the one of the last element that gives its key one.** -/
theorem mem_lastValues {f : α → Option (κ × β)} {l : List α} {k : κ} {v : β} :
    (k, v) ∈ lastValues f l ↔ ∃ before a after, l = before ++ a :: after ∧ f a = some (k, v) ∧
      ∀ b ∈ after, ∀ w, f b ≠ some (k, w) := by
  induction l using List.reverseRecOn with
  | nil =>
    refine iff_of_false List.not_mem_nil ?_
    rintro ⟨before, a, after, hl, -⟩
    exact absurd hl.symm (List.append_ne_nil_of_right_ne_nil _ (List.cons_ne_nil _ _))
  | append_singleton l x ih =>
    have hsplit : (∃ before a after, l ++ [x] = before ++ a :: after ∧ f a = some (k, v) ∧
        ∀ b ∈ after, ∀ w, f b ≠ some (k, w)) ↔
        f x = some (k, v) ∨ (∀ w, f x ≠ some (k, w)) ∧ (k, v) ∈ lastValues f l := by
      rw [ih]
      constructor
      · rintro ⟨before, a, after, hl, ha, hlast⟩
        rcases List.eq_nil_or_concat after with rfl | ⟨after, y, rfl⟩
        · obtain ⟨-, rfl⟩ := List.append_inj' hl rfl |>.imp id List.head_eq_of_cons_eq
          exact .inl ha
        · rw [List.concat_eq_append] at hl hlast
          rw [← List.cons_append, ← List.append_assoc] at hl
          obtain ⟨rfl, hx⟩ := List.append_inj' hl rfl
          obtain rfl : x = y := List.head_eq_of_cons_eq hx
          refine .inr ⟨hlast x (by simp), before, a, after, rfl, ha, fun b hb => ?_⟩
          exact hlast b (List.mem_append_left _ hb)
      · rintro (hx | ⟨hx, before, a, after, rfl, ha, hlast⟩)
        · exact ⟨l, x, [], rfl, hx, fun b hb => absurd hb List.not_mem_nil⟩
        · refine ⟨before, a, after ++ [x], by simp, ha, fun b hb => ?_⟩
          rcases List.mem_append.mp hb with hb | hb
          · exact hlast b hb
          · rw [List.mem_singleton.mp hb]
            exact hx
    have hnodup := keys_lastValues_nodup f l
    rw [hsplit, lastValues, List.foldl_concat, ← lastValues, give]
    cases hfx : f x with
    | none => simp
    | some e =>
      obtain ⟨k', v'⟩ := e
      dsimp only
      rw [Assoc.mem_iff (d := v) (Assoc.keys_assign_nodup hnodup k' v'),
        Assoc.mem_keys_assign, Assoc.find_assign, Assoc.mem_iff (d := v) hnodup]
      by_cases hk : k = k'
      · subst hk
        simp [eq_comm]
      · have hne : ∀ w : β, some (k', v') ≠ some (k, w) := fun w h =>
          hk (congrArg Prod.fst (Option.some.inj h)).symm
        simp [hk, hne]

/-- A key that some element gives a value has one. -/
theorem exists_mem_lastValues {f : α → Option (κ × β)} {l : List α} {a : α} (ha : a ∈ l) {k : κ}
    {v : β} (hf : f a = some (k, v)) : ∃ w, (k, w) ∈ lastValues f l := by
  induction l using List.reverseRecOn with
  | nil => exact absurd ha List.not_mem_nil
  | append_singleton l x ih =>
    by_cases hx : ∃ w, f x = some (k, w)
    · obtain ⟨w, hw⟩ := hx
      exact ⟨w, mem_lastValues.mpr ⟨l, x, [], rfl, hw, fun b hb => absurd hb List.not_mem_nil⟩⟩
    · have hmem : a ∈ l := by
        rcases List.mem_append.mp ha with ha | ha
        · exact ha
        · exact absurd ⟨v, List.mem_singleton.mp ha ▸ hf⟩ hx
      obtain ⟨w, hw⟩ := ih hmem
      obtain ⟨before, b, after, rfl, hb, hlast⟩ := mem_lastValues.mp hw
      refine ⟨w, mem_lastValues.mpr ⟨before, b, after ++ [x], by simp, hb, fun c hc u hu => ?_⟩⟩
      rcases List.mem_append.mp hc with hc | hc
      · exact hlast c hc u hu
      · exact hx ⟨u, List.mem_singleton.mp hc ▸ hu⟩

/-! ### Elements that agree -/

/-- Elements that give a key a value give it the same. -/
def Agree (f : α → Option (κ × β)) (l : List α) : Prop :=
  ∀ a ∈ l, ∀ b ∈ l, ∀ k v w, f a = some (k, v) → f b = some (k, w) → v = w

/-- Where the elements agree, a value is one that some element gives. -/
theorem mem_lastValues_iff {f : α → Option (κ × β)} {l : List α} (h : Agree f l) {k : κ} {v : β} :
    (k, v) ∈ lastValues f l ↔ ∃ a ∈ l, f a = some (k, v) := by
  constructor
  · intro hmem
    obtain ⟨before, a, after, rfl, ha, -⟩ := mem_lastValues.mp hmem
    exact ⟨a, by simp, ha⟩
  · rintro ⟨a, ha, hf⟩
    obtain ⟨w, hw⟩ := exists_mem_lastValues ha hf
    obtain ⟨before, b, after, rfl, hb, -⟩ := mem_lastValues.mp hw
    rw [h a ha b (by simp) k v w hf hb]
    exact hw

/-- The values do not see the order of elements that agree. -/
theorem lastValues_perm {f : α → Option (κ × β)} {l l' : List α} (hperm : l.Perm l')
    (h : Agree f l) : (lastValues f l).Perm (lastValues f l') := by
  have h' : Agree f l' := fun a ha b hb => h a (hperm.mem_iff.mpr ha) b (hperm.mem_iff.mpr hb)
  have hnodup : ∀ l : List α, (lastValues f l).Nodup := fun l =>
    (keys_lastValues_nodup f l).of_map _
  rw [List.perm_ext_iff_of_nodup (hnodup l) (hnodup l')]
  rintro ⟨k, v⟩
  rw [mem_lastValues_iff h, mem_lastValues_iff h']
  constructor
  · rintro ⟨a, ha, hf⟩
    exact ⟨a, hperm.mem_iff.mp ha, hf⟩
  · rintro ⟨a, ha, hf⟩
    exact ⟨a, hperm.mem_iff.mpr ha, hf⟩

/-- **Elements agree when no order of them changes a value.** -/
theorem agree_of_perm {f : α → Option (κ × β)} {l : List α}
    (h : ∀ l', l.Perm l' → lastValues f l' ⊆ lastValues f l) : Agree f l := by
  -- an element in the last place gives its key the value
  have hlast : ∀ a ∈ l, ∀ k v, f a = some (k, v) → (k, v) ∈ lastValues f l := by
    intro a ha k v hf
    obtain ⟨before, after, rfl⟩ := List.append_of_mem ha
    have hperm : (before ++ a :: after).Perm (before ++ after ++ [a]) := by
      rw [List.append_assoc]
      exact List.Perm.append_left _ (List.perm_append_singleton a after).symm
    apply h _ hperm
    exact mem_lastValues.mpr ⟨before ++ after, a, [], rfl, hf, fun b hb => absurd hb List.not_mem_nil⟩
  intro a ha b hb k v w hfa hfb
  have hkeys := keys_lastValues_nodup f l
  have hv := Assoc.find_of_mem (d := v) hkeys (hlast a ha k v hfa)
  have hw := Assoc.find_of_mem (d := v) hkeys (hlast b hb k w hfb)
  exact hv.symm.trans hw

/-- **In a chronological list the value given last is of the latest instant.** -/
theorem latest_of_chronological {instant : α → Option Int} {f : α → Option (κ × β)} {l : List α}
    (h : Chronological instant l) {k : κ} {v : β} (hmem : (k, v) ∈ lastValues f l) :
    ∃ a ∈ l, f a = some (k, v) ∧ ∀ b ∈ l, ∀ w, f b = some (k, w) →
      ∀ t ∈ instant a, ∀ t' ∈ instant b, t' ≤ t := by
  obtain ⟨before, a, after, rfl, ha, hlast⟩ := mem_lastValues.mp hmem
  refine ⟨a, by simp, ha, fun b hb w hw t ht t' ht' => ?_⟩
  rw [Chronological, List.pairwise_append] at h
  rcases List.mem_append.mp hb with hb | hb
  · exact h.2.2 b hb a List.mem_cons_self t' ht' t ht
  · rcases List.mem_cons.mp hb with rfl | hb
    · exact (Option.mem_unique ht' ht).le
    · exact absurd hw (hlast b hb w)

end NightRecon.Lib.Chronology
