import Mathlib.Logic.Relation
import NightRecon.WhiteEngine.EvidenceCustody.Case

/-!
# The lineage of evidence under custody

What the replay of a custody history says of the parents its items name.

* `originOrder` — the items in the order of their origin events;
* `Grounded` — every item that entered custody has parents that entered before it, the invariant of
  the replay; `applyEvent_grounded`, `replay_grounded`;
* `IsParent`, `Ancestor` — the parents an item names, and theirs;
* `lineage_ordered` — of every case, the origin order lists every item once and every parent before
  its child, no item is its own ancestor, and an ancestor was in custody when the item was derived.
-/

namespace NightRecon.WhiteEngine.EvidenceCustody

open NightRecon.Lib.Checks
open NightRecon.WhiteEngine.Fields
open NightRecon.WhiteEngine.History

/-! ## Origins -/

/-- The item an event brings into custody. -/
def CustodyEvent.origin (e : CustodyEvent) : Option String :=
  match e.eventType with
  | .ingested | .derived => e.evidenceId
  | .transferred | .exported => none

/-- The items in the order of their origin events. -/
def originOrder (events : List CustodyEvent) : List String := events.filterMap CustodyEvent.origin

theorem originOrder_concat (events : List CustodyEvent) (e : CustodyEvent) :
    originOrder (events ++ [e]) = originOrder events ++ e.origin.toList := by
  rw [originOrder, List.filterMap_append, originOrder]
  cases h : e.origin with
  | none => rw [List.filterMap_cons_none h, List.filterMap_nil, Option.toList_none]
  | some id => rw [List.filterMap_cons_some h, List.filterMap_nil, Option.toList_some]

/-- In the list, `a` stands before `b`. -/
def Before (l : List String) (a b : String) : Prop :=
  ∃ front back, l = front ++ b :: back ∧ a ∈ front

/-! ## The replay -/

/-- The event is the origin of an item whose parents are all in custody already. -/
structure Derives (terms : List Terms) (custody : List String) (e : CustodyEvent) (id : String) :
    Prop where
  origin : e.origin = some id
  fresh : id ∉ custody
  item : ∃ t, terms.find? (fun t => t.evidenceId = id) = some t ∧
    (∀ p ∈ t.parentEvidenceIds, p ∈ custody) ∧ (t.parentEvidenceIds ≠ [] → e.eventType = .derived)

/-- What the replay has established of the events that are done. -/
structure Grounded (terms : List Terms) (done : List CustodyEvent) (s : Replay) : Prop where
  origins : ∀ id, id ∈ s.origins ↔ id ∈ originOrder done
  nodup : (originOrder done).Nodup
  derives : ∀ front e back, done = front ++ e :: back → ∀ id, e.origin = some id →
    Derives terms (originOrder front) e id

theorem grounded_start (terms : List Terms) : Grounded terms [] .start where
  origins := fun id => iff_of_false (Finset.notMem_empty id) List.not_mem_nil
  nodup := List.nodup_nil
  derives := by
    intro front e back h
    exact absurd h.symm (List.append_ne_nil_of_right_ne_nil _ (List.cons_ne_nil _ _))

/-- The parents an origin event records are in custody. -/
theorem checkLineage_parents {s : Replay} {item : Terms} {e : CustodyEvent}
    (h : checkLineage s item e = .ok ()) :
    (∀ p ∈ item.parentEvidenceIds, p ∈ s.origins) ∧
      (item.parentEvidenceIds ≠ [] → e.eventType = .derived) := by
  rw [checkLineage] at h
  by_cases hderived : e.eventType = .derived
  · rw [if_pos hderived] at h
    refine ⟨?_, fun _ => hderived⟩
    cases hparents : item.parentEvidenceIds with
    | nil =>
      intro p hp
      exact absurd hp List.not_mem_nil
    | cons parent parents =>
      cases hencoded : e.detail "parent_evidence_ids" with
      | none =>
        simp only [hparents, hencoded] at h
        cases h
      | some encoded =>
        simp only [hparents, hencoded] at h
        obtain ⟨decoded, -, h⟩ := bind_eq_ok.mp h
        rw [raiseIf_bind_eq_ok, raiseIf_eq_ok] at h
        intro p hp
        exact Classical.not_not.mp fun hnot => h.2 ⟨p, hp, hnot⟩
  · rw [if_neg hderived, raiseIf_eq_ok] at h
    have hnone : item.parentEvidenceIds = [] := Classical.not_not.mp fun hne => h (.inl hne)
    refine ⟨?_, fun hne => absurd hnone hne⟩
    intro p hp
    rw [hnone] at hp
    exact absurd hp List.not_mem_nil

/-- An origin event brings one new item into custody, behind its parents. -/
theorem applyOrigin_derives {terms : List Terms} {s s' : Replay} {e : CustodyEvent}
    {custody : List String} (hcustody : ∀ id, id ∈ s.origins ↔ id ∈ custody)
    (htype : e.origin = e.evidenceId) (h : applyOrigin terms s e = .ok s') :
    ∃ id, Derives terms custody e id ∧ s'.origins = insert id s.origins := by
  rw [applyOrigin, bind_eq_ok] at h
  obtain ⟨id, hid, h⟩ := h
  rw [raiseIf_bind_eq_ok, bind_eq_ok] at h
  obtain ⟨hfresh, item, hitem, h⟩ := h
  rw [raiseIf_bind_eq_ok, bind_eq_ok] at h
  obtain ⟨-, custodian, -, h⟩ := h
  rw [bind_eq_ok] at h
  obtain ⟨-, -, h⟩ := h
  obtain ⟨⟨⟩, hlineage, h⟩ := bind_eq_ok.mp h
  obtain rfl := Except.ok.inj h
  obtain ⟨hparents, hderived⟩ := checkLineage_parents hlineage
  refine ⟨id, ⟨?_, ?_, item, getOrRaise_eq_ok.mp hitem, ?_, hderived⟩, rfl⟩
  · rw [htype]
    exact getOrRaise_eq_ok.mp hid
  · rwa [← hcustody]
  · intro p hp
    exact (hcustody p).mp (hparents p hp)

/-- A transfer or an export brings nothing into custody. -/
theorem applyTransfer_origins {s s' : Replay} {e : CustodyEvent}
    (h : applyTransfer s e = .ok s') : s'.origins = s.origins := by
  simp only [applyTransfer, bind_eq_ok] at h
  obtain ⟨_, -, _, -, _, -, _, -, _, -, _, -, _, -, _, -, _, -, h⟩ := h
  obtain rfl := Except.ok.inj h
  rfl

theorem applyExport_origins {s s' : Replay} {e : CustodyEvent}
    (h : applyExport s e = .ok s') : s'.origins = s.origins := by
  simp only [applyExport, bind_eq_ok] at h
  obtain ⟨_, -, _, -, _, -, h⟩ := h
  obtain rfl := Except.ok.inj h
  rfl

/-- **One event** keeps the replay grounded. -/
theorem replayStep_grounded {caseId engagementId : String} {terms : List Terms}
    {done : List CustodyEvent} {s s' : Replay} {e : CustodyEvent} (hs : Grounded terms done s)
    (h : replayStep caseId engagementId terms s e = .ok s') :
    Grounded terms (done ++ [e]) s' := by
  rw [replayStep, bind_eq_ok] at h
  obtain ⟨link, -, h⟩ := h
  rw [bind_eq_ok] at h
  obtain ⟨s₁, happly, h⟩ := h
  obtain rfl := Except.ok.inj h
  -- what the event itself brings
  have hevent : (e.origin = none ∧ s₁.origins = s.origins) ∨
      ∃ id, Derives terms (originOrder done) e id ∧ s₁.origins = insert id s.origins := by
    rw [applyEvent] at happly
    cases htype : e.eventType with
    | ingested =>
      rw [htype] at happly
      exact .inr (applyOrigin_derives hs.origins (by rw [CustodyEvent.origin, htype]) happly)
    | derived =>
      rw [htype] at happly
      exact .inr (applyOrigin_derives hs.origins (by rw [CustodyEvent.origin, htype]) happly)
    | transferred =>
      rw [htype] at happly
      exact .inl ⟨by rw [CustodyEvent.origin, htype], applyTransfer_origins happly⟩
    | exported =>
      rw [htype] at happly
      exact .inl ⟨by rw [CustodyEvent.origin, htype], applyExport_origins happly⟩
  have hderives : ∀ front e' back, done ++ [e] = front ++ e' :: back → ∀ id,
      e'.origin = some id → Derives terms (originOrder front) e' id := by
    intro front e' back hsplit id hid
    rcases List.eq_nil_or_concat' back with rfl | ⟨back, last, rfl⟩
    · obtain ⟨rfl, hlast⟩ := List.append_inj' hsplit rfl
      obtain rfl := List.singleton_inj.mp hlast
      rcases hevent with ⟨hnone, -⟩ | ⟨id', hid', -⟩
      · exact absurd (hnone.symm.trans hid) (Option.some_ne_none id).symm
      · obtain rfl := Option.some.inj (hid'.origin.symm.trans hid)
        exact hid'
    · rw [← List.cons_append, ← List.append_assoc] at hsplit
      exact hs.derives front e' back (List.append_inj' hsplit rfl).1 id hid
  rcases hevent with ⟨hnone, horigins⟩ | ⟨id, hid, horigins⟩
  · refine ⟨?_, ?_, hderives⟩
    · intro id
      rw [originOrder_concat, hnone, Option.toList_none, List.append_nil, ← hs.origins id]
      exact Finset.ext_iff.mp horigins id
    · rw [originOrder_concat, hnone, Option.toList_none, List.append_nil]
      exact hs.nodup
  · refine ⟨?_, ?_, hderives⟩
    · intro id'
      rw [originOrder_concat, hid.origin, Option.toList_some, List.mem_append,
        List.mem_singleton, ← hs.origins id', or_comm, ← Finset.mem_insert]
      exact Finset.ext_iff.mp horigins id'
    · rw [originOrder_concat, hid.origin, Option.toList_some]
      rw [← List.concat_eq_append]
      exact hs.nodup.concat hid.fresh

/-- **The whole replay** is grounded. -/
theorem replay_grounded {caseId engagementId : String} {terms : List Terms}
    {events : List CustodyEvent} {s : Replay}
    (h : replay caseId engagementId terms events = .ok s) : Grounded terms events s := by
  have hrun := foldlM_induct (fun done e s s' hs hstep => replayStep_grounded hs hstep) events []
    .start s (grounded_start terms) h
  rwa [List.nil_append] at hrun

/-! ## The lineage of a case -/

namespace EvidenceCustodyCase

/-- The item `p` is named as a parent of the item `id`. -/
def IsParent (c : EvidenceCustodyCase) (p id : String) : Prop :=
  ∃ i ∈ c.items, i.evidenceId = id ∧ p ∈ i.parentEvidenceIds.values

/-- The parents of an item, their parents, and so on. -/
def Ancestor (c : EvidenceCustodyCase) : String → String → Prop := Relation.TransGen c.IsParent

/-- The replay the constructor made. -/
theorem grounded (c : EvidenceCustodyCase) :
    ∃ s, Grounded (c.items.map CustodiedEvidence.terms) c.events s ∧
      s.origins = ((c.items.map CustodiedEvidence.terms).map Terms.evidenceId).toFinset := by
  have haccepted := c.accepted
  cases hvalid : validateEvents c.caseId c.engagementId (c.items.map CustodiedEvidence.terms)
      c.events with
  | error e =>
    rw [hvalid] at haccepted
    exact absurd haccepted Bool.false_ne_true
  | ok u =>
    rw [validateEvents, bind_eq_ok] at hvalid
    obtain ⟨s, hreplay, hall⟩ := hvalid
    exact ⟨s, replay_grounded hreplay, Classical.not_not.mp (raiseIf_eq_ok.mp hall)⟩

theorem map_terms_id (c : EvidenceCustodyCase) :
    (c.items.map CustodiedEvidence.terms).map Terms.evidenceId = c.items.map (·.evidenceId) := by
  rw [List.map_map]
  rfl

/-- The origin order lists every item once. -/
theorem originOrder_perm (c : EvidenceCustodyCase) :
    (originOrder c.events).Perm (c.items.map (·.evidenceId)) := by
  obtain ⟨s, hgrounded, hall⟩ := c.grounded
  rw [c.map_terms_id] at hall
  apply (List.perm_ext_iff_of_nodup hgrounded.nodup c.items_nodup).mpr
  intro id
  rw [← hgrounded.origins, hall, List.mem_toFinset]

/-- The event that derived an item, with every parent in custody before it. -/
theorem derivation (c : EvidenceCustodyCase) {p id : String} (h : c.IsParent p id) :
    ∃ front e back, c.events = front ++ e :: back ∧ e.origin = some id ∧
      e.eventType = .derived ∧ p ∈ originOrder front := by
  obtain ⟨i, hi, rfl, hp⟩ := h
  obtain ⟨s, hgrounded, -⟩ := c.grounded
  have hmem : i.evidenceId ∈ originOrder c.events :=
    c.originOrder_perm.mem_iff.mpr (List.mem_map_of_mem hi)
  obtain ⟨e, he, horigin⟩ := List.mem_filterMap.mp hmem
  obtain ⟨front, back, hsplit⟩ := List.append_of_mem he
  obtain ⟨t, hfind, hparents, hderived⟩ :=
    (hgrounded.derives front e back hsplit i.evidenceId horigin).item
  -- the terms the replay found are those of the item
  have hterms : t = i.terms := by
    obtain ⟨i', hi', rfl⟩ := List.mem_map.mp (List.mem_of_find?_eq_some hfind)
    have hid : i'.terms.evidenceId = i.evidenceId := by simpa using List.find?_some hfind
    rw [List.inj_on_of_nodup_map c.items_nodup hi' hi hid]
  rw [hterms] at hparents hderived
  exact ⟨front, e, back, hsplit, horigin, hderived (List.ne_nil_of_mem hp), hparents p hp⟩

/-- **A parent stands before its child.** -/
theorem before_of_isParent (c : EvidenceCustodyCase) {p id : String} (h : c.IsParent p id) :
    Before (originOrder c.events) p id := by
  obtain ⟨front, e, back, hsplit, horigin, -, hp⟩ := c.derivation h
  refine ⟨originOrder front, originOrder back, ?_, hp⟩
  rw [hsplit, originOrder, originOrder, List.filterMap_append, List.filterMap_cons_some horigin]
  rfl

/-- An ancestor entered custody before the item was derived. -/
theorem derivation_of_ancestor (c : EvidenceCustodyCase) {a id : String} (h : c.Ancestor a id) :
    ∃ front e back, c.events = front ++ e :: back ∧ e.origin = some id ∧
      e.eventType = .derived ∧ a ∈ originOrder front := by
  obtain ⟨s, hgrounded, -⟩ := c.grounded
  induction h with
  | single hparent => exact c.derivation hparent
  | @tail parent id _ hparent ih =>
    obtain ⟨front, e, back, hsplit, horigin, hderived, hp⟩ := c.derivation hparent
    obtain ⟨front', e', back', hsplit', horigin', -, ha⟩ := ih
    refine ⟨front, e, back, hsplit, horigin, hderived, ?_⟩
    -- the parent's own origin is the one before this derivation
    obtain ⟨e'', he'', horigin''⟩ := List.mem_filterMap.mp hp
    obtain ⟨front'', back'', hfront⟩ := List.append_of_mem he''
    have hsplit'' : c.events = front'' ++ e'' :: (back'' ++ e :: back) := by
      rw [hsplit, hfront, List.append_assoc, List.cons_append]
    have hsame : originOrder front'' = originOrder front' := by
      have hnodup := hgrounded.nodup
      have hl : originOrder c.events = originOrder front' ++ parent :: originOrder back' := by
        rw [hsplit', originOrder, List.filterMap_append, List.filterMap_cons_some horigin']
        rfl
      have hr : originOrder c.events =
          originOrder front'' ++ parent :: originOrder (back'' ++ e :: back) := by
        rw [hsplit'', originOrder, List.filterMap_append, List.filterMap_cons_some horigin'']
        rfl
      rw [hr] at hnodup hl
      obtain ⟨-, hback, hdisjoint⟩ := List.nodup_append.mp hnodup
      exact ((List.append_cons_inj_of_notMem (fun hmem => hdisjoint _ hmem _ List.mem_cons_self rfl)
        (List.nodup_cons.mp hback).1).mp hl).1
    rw [hfront, originOrder, List.filterMap_append]
    apply List.mem_append_left
    rw [← hsame] at ha
    exact ha

/-- No item is its own ancestor. -/
theorem not_own_ancestor (c : EvidenceCustodyCase) (id : String) : ¬ c.Ancestor id id := by
  intro h
  obtain ⟨s, hgrounded, -⟩ := c.grounded
  obtain ⟨front, e, back, hsplit, horigin, -, hid⟩ := c.derivation_of_ancestor h
  exact (hgrounded.derives front e back hsplit id horigin).fresh hid

/-- **The lineage of the items of a case.**  The origin events list every item once and every
parent before its child; no item is its own ancestor; and every ancestor of an item was in custody
before the event that derived the item. -/
theorem lineage_ordered (c : EvidenceCustodyCase) :
    (originOrder c.events).Perm (c.items.map (·.evidenceId)) ∧
      (∀ p id, c.IsParent p id → Before (originOrder c.events) p id) ∧
      (∀ id, ¬ c.Ancestor id id) ∧
      ∀ a id, c.Ancestor a id → ∃ front e back, c.events = front ++ e :: back ∧
        e.origin = some id ∧ e.eventType = .derived ∧ a ∈ originOrder front :=
  ⟨c.originOrder_perm, fun _ _ h => c.before_of_isParent h, c.not_own_ancestor,
    fun _ _ h => c.derivation_of_ancestor h⟩

end EvidenceCustodyCase

end NightRecon.WhiteEngine.EvidenceCustody
