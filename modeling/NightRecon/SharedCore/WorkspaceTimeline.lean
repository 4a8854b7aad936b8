import NightRecon.Lib.Chronology
import NightRecon.SharedCore.FileRoundTrip
import NightRecon.SharedCore.Workspace

/-!
# The timeline of an engagement

`nightrecon_shared_core/workspace.py` `LocalWorkspace.timeline`: the records of an engagement, sorted
by the text of the time they were observed at.

* `instantOf` — the instant a timestamp with an offset denotes;
* `timeline` — the procedure, and `timeline_eq` what it returns;
* `timeline_chronological_iff` — **the timeline is chronological exactly when the texts of the
  record times are in order**.
-/

namespace NightRecon.SharedCore.Workspace

open NightRecon.Lib
open NightRecon.Lib.Checks
open NightRecon.Lib.Chronology
open NightRecon.Lib.Datetime
open NightRecon.SharedCore.Contracts
open NightRecon.SharedCore.Store

/-- The instant of a date and time, when it has an offset. -/
def instantOf (parsed : Option DateTime) : Option Int := do
  let d ← parsed
  let offset ← d.offset
  return d.wall - offset

/-- Source: `workspace.py` `WorkspaceTimelineItem`. -/
structure WorkspaceTimelineItem where
  evidenceId : String
  sourceNight : Night
  evidenceType : String
  observedAt : String
  provenance : String
  limitations : List String

/-- The item of a record. -/
def timelineItem (r : EvidenceRecord) : WorkspaceTimelineItem where
  evidenceId := r.evidenceId
  sourceNight := r.sourceNight
  evidenceType := r.evidenceType
  observedAt := r.observedAt
  provenance := r.provenance
  limitations := r.limitations

/-- Source: `workspace.py` `timeline`. -/
def timeline (engagementId : String) : Proc Exn LocalWorkspace (List WorkspaceTimelineItem) := do
  let e ← envelope engagementId
  return (sortByText (·.observedAt) (·.evidenceId) e.records).map timelineItem

/-- The instant a record time denotes. -/
def observedInstant (observedAt : String) : Option Int :=
  instantOf (fromisoformat (replaceZ observedAt))

theorem timeline_eq {w : LocalWorkspace} {engagementId : String}
    (h : engagementId ∈ w.store.memory.engagementSet) :
    (timeline engagementId w).1 = .ok ((sortByText (·.observedAt) (·.evidenceId)
      (w.store.memory.recordsOf engagementId)).map timelineItem) := by
  have hexport := InMemoryEngagementStore.exportEnvelope_of_required (s := w.store.memory)
    (FileStore.required_of_mem h)
  simp only [timeline, envelope, requireEngagement, Proc.bind_apply, Proc.get_apply,
    Proc.ofExcept_apply, require_of h, hexport, Proc.pure_apply]
  rfl

/-- Without the engagement there is no timeline. -/
theorem timeline_missing {w : LocalWorkspace} {engagementId : String}
    (h : engagementId ∉ w.store.memory.engagementSet) (items : List WorkspaceTimelineItem) :
    (timeline engagementId w).1 ≠ .ok items := by
  have hrequire : require (engagementId ∈ w.store.memory.engagementSet)
      (valueError ("engagement not found: " ++ engagementId)) =
        .error (valueError ("engagement not found: " ++ engagementId)) := if_neg h
  simp only [timeline, envelope, requireEngagement, Proc.bind_apply, Proc.get_apply,
    Proc.ofExcept_apply, hrequire]
  intro hitems
  cases hitems

theorem recordsOf_missing {s : InMemoryEngagementStore} {engagementId : String}
    (h : engagementId ∉ s.engagementSet) : s.recordsOf engagementId = [] := by
  rw [List.eq_nil_iff_forall_not_mem]
  intro r hr
  obtain ⟨rfl, hlookup⟩ := InMemoryEngagementStore.mem_recordsOf.mp hr
  exact h (FileStore.mem_engagementSet_of_lookup hlookup)

/-- **When the timeline is chronological.** -/
theorem timeline_chronological_iff (w : LocalWorkspace) (engagementId : String) :
    (∀ items, (timeline engagementId w).1 = .ok items →
      Chronological (fun i => observedInstant i.observedAt) items) ↔
      TextsInOrder (·.observedAt) (fun r => observedInstant r.observedAt)
        (w.store.memory.recordsOf engagementId) := by
  have hiff : Chronological (fun r => observedInstant r.observedAt)
      (sortByText (·.observedAt) (·.evidenceId) (w.store.memory.recordsOf engagementId)) ↔
        TextsInOrder (·.observedAt) (fun r => observedInstant r.observedAt)
          (w.store.memory.recordsOf engagementId) :=
    chronological_sortByText_iff (fun a b (h : a.observedAt = b.observedAt) => by rw [h]) _
  rw [← hiff]
  by_cases hmem : engagementId ∈ w.store.memory.engagementSet
  · rw [timeline_eq hmem]
    constructor
    · intro h
      have hitems := h _ rfl
      rw [Chronological, List.pairwise_map] at hitems
      exact hitems
    · rintro h items hitems
      obtain rfl := Except.ok.inj hitems
      rw [Chronological, List.pairwise_map]
      exact h
  · rw [recordsOf_missing hmem]
    refine iff_of_true (fun items hitems => ?_) List.Pairwise.nil
    exact absurd hitems (timeline_missing hmem items)

end NightRecon.SharedCore.Workspace
