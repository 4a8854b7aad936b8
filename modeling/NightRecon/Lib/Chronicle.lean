import Mathlib

/-!
# Chronicles: lists of records in order of time

A chronicle is a list whose records carry non-decreasing times.  Looking at it at an instant shows
the records made at or before that instant.

* `upTo t l` — the records at or before `t`; in a chronicle a prefix (`upTo_prefix`) that only
  grows with `t` (`upTo_mono`);
* `upTo_concat` — a later record changes nothing before its own time;
* `prefix_upTo_of_mem` — everything up to a record is seen at the record's own time.
-/

namespace NightRecon.Lib.Chronicle

variable {α τ : Type} [LinearOrder τ] {time : α → τ} {l : List α}

/-- The times of the records do not decrease. -/
def Chronological (time : α → τ) (l : List α) : Prop := l.Pairwise fun a b => time a ≤ time b

/-- The records at or before `t`. -/
def upTo (time : α → τ) (t : τ) (l : List α) : List α := l.filter fun a => time a ≤ t

@[simp] theorem mem_upTo {t : τ} {a : α} : a ∈ upTo time t l ↔ a ∈ l ∧ time a ≤ t := by
  simp [upTo]

/-- The records seen at an instant are the first ones. -/
theorem upTo_prefix (h : Chronological time l) (t : τ) : upTo time t l <+: l := by
  induction l with
  | nil => exact List.prefix_rfl
  | cons a l ih =>
    obtain ⟨ha, hl⟩ := List.pairwise_cons.mp h
    by_cases hat : time a ≤ t
    · have hcons : upTo time t (a :: l) = a :: upTo time t l := by simp [upTo, hat]
      rw [hcons]
      exact (List.prefix_cons_inj a).mpr (ih hl)
    · -- the first record is later than `t`, and the rest is later still
      have hnil : upTo time t (a :: l) = [] := by
        apply List.filter_eq_nil_iff.mpr
        intro b hb hbt
        rcases List.mem_cons.mp hb with rfl | hb
        · exact hat (of_decide_eq_true hbt)
        · exact hat (le_trans (ha b hb) (of_decide_eq_true hbt))
      rw [hnil]
      exact List.nil_prefix

theorem upTo_upTo {s t : τ} (hst : s ≤ t) : upTo time s (upTo time t l) = upTo time s l := by
  unfold upTo
  rw [List.filter_filter]
  apply List.filter_congr
  intro a _
  by_cases ha : time a ≤ s
  · simp [ha, le_trans ha hst]
  · simp [ha]

/-- **Looking later shows more, behind what was seen before.** -/
theorem upTo_mono (h : Chronological time l) {s t : τ} (hst : s ≤ t) :
    upTo time s l <+: upTo time t l := by
  rw [← upTo_upTo hst]
  exact upTo_prefix (h.sublist List.filter_sublist) s

theorem upTo_eq_self {t : τ} (h : ∀ a ∈ l, time a ≤ t) : upTo time t l = l :=
  List.filter_eq_self.mpr fun a ha => decide_eq_true (h a ha)

theorem upTo_append (t : τ) (l l' : List α) :
    upTo time t (l ++ l') = upTo time t l ++ upTo time t l' :=
  List.filter_append ..

/-- A record made later than `t` is not seen at `t`. -/
theorem upTo_concat {t : τ} {a : α} (h : t < time a) : upTo time t (l ++ [a]) = upTo time t l := by
  have hnil : upTo time t [a] = [] := by
    apply List.filter_eq_nil_iff.mpr
    intro b hb hbt
    rw [List.mem_singleton] at hb
    subst hb
    exact not_le_of_gt h (of_decide_eq_true hbt)
  rw [upTo_append, hnil, List.append_nil]

/-- A record at the end of a chronicle has the last time. -/
theorem le_last {a : α} (h : Chronological time (l ++ [a])) : ∀ b ∈ l, time b ≤ time a := by
  intro b hb
  obtain ⟨-, -, hcross⟩ := List.pairwise_append.mp h
  exact hcross b hb a (List.mem_singleton_self a)

/-- Everything up to a record is seen at the record's own time. -/
theorem prefix_upTo_of_mem {a : α} {rest : List α} (h : Chronological time (l ++ a :: rest)) :
    l ++ [a] <+: upTo time (time a) (l ++ a :: rest) := by
  have hsplit : l ++ a :: rest = (l ++ [a]) ++ rest := by simp
  rw [hsplit] at h ⊢
  rw [upTo_append]
  have hfst : Chronological time (l ++ [a]) := (List.pairwise_append.mp h).1
  have hself : upTo time (time a) (l ++ [a]) = l ++ [a] := by
    apply upTo_eq_self
    intro b hb
    rcases List.mem_append.mp hb with hb | hb
    · exact le_last hfst b hb
    · rw [List.mem_singleton] at hb
      exact le_of_eq (congrArg time hb)
  rw [hself]
  exact List.prefix_append _ _

/-- A chronicle grows by a record that is not earlier than the ones it has. -/
theorem chronological_concat {a : α} (h : Chronological time l) (ha : ∀ b ∈ l, time b ≤ time a) :
    Chronological time (l ++ [a]) := by
  apply List.pairwise_append.mpr
  refine ⟨h, List.pairwise_singleton _ _, ?_⟩
  intro b hb c hc
  rw [List.mem_singleton] at hc
  subst hc
  exact ha b hb

end NightRecon.Lib.Chronicle
