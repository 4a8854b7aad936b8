import NightRecon.SharedCore.WorkspaceTimeline

/-!
# Collaboration events of an engagement

`nightrecon_red_engine/engagement_collaboration.py`: annotations, reviews, assignments and handoffs,
listed and summarised in the order of the texts of their times.

* `EventArgs`, `postInit`, `CollaborationEvent` — events, which carry that the constructor accepts
  them; `CollaborationStore`, `append` — events by identifier;
* `events`, `summary` — the views;
* `CurrentIsLatest` — a current value is the one of the latest event that gives it;
* `collaboration_chronological_iff` — **the views follow the instants exactly when the texts of the
  times are in order**; `chronology_iff` — the same with the timeline of a workspace;
* `offset_reorders` — two offsets that make them differ.

The file behind the store is left out: it holds the same events.
-/

namespace NightRecon.RedEngine.EngagementCollaboration

open NightRecon.Lib
open NightRecon.Lib.Checks
open NightRecon.Lib.Chronology
open NightRecon.Lib.Datetime
open NightRecon.Lib.Text
open NightRecon.SharedCore.Workspace

/-! ## Events -/

/-- Source: `engagement_collaboration.py` `CollaborationEventKind`. -/
inductive CollaborationEventKind where
  | annotate
  | reviewState
  | assignment
  | handoff
  deriving DecidableEq

/-- Source: `engagement_collaboration.py` `ReviewState`. -/
inductive ReviewState where
  | pending
  | inReview
  | approved
  | changesRequested
  | closed
  deriving DecidableEq

def ReviewState.value : ReviewState → String
  | .pending => "pending"
  | .inReview => "in-review"
  | .approved => "approved"
  | .changesRequested => "changes-requested"
  | .closed => "closed"

/-- The arguments of the constructor of an event. -/
structure EventArgs where
  eventId : String
  engagementId : String
  occurredAt : String
  actorId : String
  kind : CollaborationEventKind
  subjectKind : String
  subjectId : String
  note : Option String
  reviewState : Option ReviewState
  assigneeId : Option String
  authorizationEffect : String
  deriving DecidableEq

def maxTextLength : Nat := 4000

def maxEvents : Nat := 10000

/-- `_ALLOWED_SUBJECT_KINDS`. -/
def allowedSubjectKinds : List String :=
  ["engagement", "evidence", "finding", "validation", "report"]

/-- Source: `engagement_collaboration.py` `_required`. -/
def required (value field : String) (maxLength : Nat) : Py Unit := do
  require (requiredText value) (valueError (field ++ " must be a nonblank, trimmed string"))
  raiseIf (maxLength < value.length)
    (valueError (field ++ " exceeds maximum length " ++ toString maxLength))

/-- A field that may be absent. -/
def requiredIfPresent (value : Option String) (field : String) (maxLength : Nat) : Py Unit :=
  match value with
  | none => .ok ()
  | some value => required value field maxLength

/-- Which of the three optional fields each kind of event has. -/
def kindFields (a : EventArgs) : Py Unit :=
  match a.kind with
  | .annotate => raiseIf (a.note = none ∨ a.reviewState ≠ none ∨ a.assigneeId ≠ none)
      (valueError "annotation requires note only")
  | .reviewState => raiseIf (a.reviewState = none ∨ a.note ≠ none ∨ a.assigneeId ≠ none)
      (valueError "review-state requires review_state only")
  | .assignment => raiseIf (a.assigneeId = none ∨ a.note ≠ none ∨ a.reviewState ≠ none)
      (valueError "assignment requires assignee_id only")
  | .handoff => raiseIf (a.assigneeId = none ∨ a.note = none ∨ a.reviewState ≠ none)
      (valueError "handoff requires assignee_id and note")

/-- Source: `engagement_collaboration.py` `CollaborationEvent.__post_init__`. -/
def postInit (a : EventArgs) : Py Unit := do
  required a.eventId "event_id" 512
  required a.engagementId "engagement_id" 512
  required a.actorId "actor_id" 512
  required a.subjectId "subject_id" 512
  require (a.subjectKind ∈ allowedSubjectKinds) (valueError "subject_kind is not supported")
  let parsed ← getOrRaise (fromisoformat a.occurredAt) (valueError "occurred_at must be ISO-8601")
  require (parsed.offset.isSome = true) (valueError "occurred_at must include a timezone")
  raiseIf (a.authorizationEffect ≠ "none")
    (valueError "collaboration events cannot grant authorization")
  requiredIfPresent a.note "note" maxTextLength
  requiredIfPresent a.assigneeId "assignee_id" 512
  kindFields a

/-- **An event.**  Source: `engagement_collaboration.py` `CollaborationEvent`. -/
structure CollaborationEvent extends EventArgs where
  checked : postInit toEventArgs = .ok ()
  deriving DecidableEq

namespace CollaborationEvent

/-- The instant an event occurred at. -/
def instant (e : CollaborationEvent) : Option Int := instantOf (fromisoformat e.occurredAt)

/-- What an event is about. -/
def subject (e : CollaborationEvent) : String × String := (e.subjectKind, e.subjectId)

/-- An assignment or a handoff gives its subject an assignee. -/
def assigns (e : CollaborationEvent) : Option ((String × String) × String) :=
  if e.kind = .assignment ∨ e.kind = .handoff then e.assigneeId.map fun a => (e.subject, a)
  else none

/-- A review gives its subject a state. -/
def reviews (e : CollaborationEvent) : Option ((String × String) × String) :=
  if e.kind = .reviewState then e.reviewState.map fun r => (e.subject, r.value) else none

/-- **Every event denotes an instant.** -/
theorem instant_isSome (e : CollaborationEvent) : e.instant.isSome = true := by
  have hchecked := e.checked
  simp only [postInit, bind_eq_ok, getOrRaise_eq_ok, require_eq_ok] at hchecked
  obtain ⟨-, -, -, -, -, -, -, -, -, -, parsed, hparsed, -, hoffset, -⟩ := hchecked
  obtain ⟨offset, hoffset⟩ := Option.isSome_iff_exists.mp hoffset
  rw [instant, hparsed, instantOf]
  simp [hoffset]

end CollaborationEvent

/-! ## The store -/

/-- Events by identifier.  Source: `engagement_collaboration.py` `CollaborationStore`. -/
structure CollaborationStore where
  eventsById : Dict String CollaborationEvent
  keyed : ∀ k e, eventsById.lookup k = some e → e.eventId = k

namespace CollaborationStore

/-- Source: `engagement_collaboration.py` `append`, before the file is written. -/
def append (s : CollaborationStore) (event : CollaborationEvent) : Py CollaborationStore := do
  raiseIf (maxEvents ≤ s.eventsById.keys.card)
    (valueError "collaboration store event limit reached")
  match s.eventsById.lookup event.eventId with
  | some previous =>
      require (previous = event)
        (valueError "collaboration event ID already exists with different content")
      return s
  | none => return ⟨s.eventsById.insert event.eventId event, fun k e h => by
      rw [Dict.lookup_insert_eq] at h
      split at h
      · next heq => rw [← Option.some.inj h, heq]
      · exact s.keyed k e h⟩

/-- The events of one engagement, or all of them; the order they are listed in does not matter. -/
def matching (s : CollaborationStore) (engagementId : Option String) : List CollaborationEvent :=
  match engagementId with
  | none => s.eventsById.sortedValues
  | some id => s.eventsById.sortedValues.filter fun e => e.engagementId = id

/-- Source: `engagement_collaboration.py` `events`. -/
def events (s : CollaborationStore) (engagementId : Option String) : List CollaborationEvent :=
  sortByText (·.occurredAt) (·.eventId) (s.matching engagementId)

end CollaborationStore

/-- Source: `engagement_collaboration.py` `CollaborationSummary`. -/
structure CollaborationSummary where
  engagementId : String
  totalEvents : Nat
  annotations : Nat
  reviewStateChanges : Nat
  assignments : Nat
  handoffs : Nat
  currentAssignments : List (String × String × String)
  currentReviewStates : List (String × String × String)
  participatingOperators : List String

/-- `sorted(values.items())`, for values by subject. -/
def sortedItems (values : List ((String × String) × String)) : List (String × String × String) :=
  (values.insertionSort fun a b => toLex a.1 ≤ toLex b.1).map fun e => (e.1.1, e.1.2, e.2)

/-- Source: `engagement_collaboration.py` `CollaborationStore.summary`. -/
def CollaborationStore.summary (s : CollaborationStore) (engagementId : String) :
    CollaborationSummary :=
  let events := s.events (some engagementId)
  let count (kind : CollaborationEventKind) : Nat := events.countP fun e => e.kind = kind
  let operators := events.flatMap fun e => e.actorId :: (e.assigns.map (·.2)).toList
  { engagementId
    totalEvents := events.length
    annotations := count .annotate
    reviewStateChanges := count .reviewState
    assignments := count .assignment
    handoffs := count .handoff
    currentAssignments := sortedItems (lastValues CollaborationEvent.assigns events)
    currentReviewStates := sortedItems (lastValues CollaborationEvent.reviews events)
    participatingOperators := operators.toFinset.sort (· ≤ ·) }

/-! ## Current values -/

/-- The current values are those of the latest events that give them, and every subject that was
given a value has one. -/
structure LatestValues (gives : CollaborationEvent → Option ((String × String) × String))
    (events : List CollaborationEvent) (current : List (String × String × String)) : Prop where
  latest : ∀ kind id v, (kind, id, v) ∈ current → ∃ e ∈ events, gives e = some ((kind, id), v) ∧
    ∀ e' ∈ events, ∀ v', gives e' = some ((kind, id), v') →
      ∀ t ∈ e.instant, ∀ t' ∈ e'.instant, t' ≤ t
  given : ∀ e ∈ events, ∀ kind id v, gives e = some ((kind, id), v) →
    ∃ v', (kind, id, v') ∈ current

/-- The current assignments and review states are the latest. -/
def CurrentIsLatest (s : CollaborationStore) (engagementId : String) : Prop :=
  LatestValues CollaborationEvent.assigns (s.matching (some engagementId))
      (s.summary engagementId).currentAssignments ∧
    LatestValues CollaborationEvent.reviews (s.matching (some engagementId))
      (s.summary engagementId).currentReviewStates

theorem mem_sortedItems {values : List ((String × String) × String)} {kind id v : String} :
    (kind, id, v) ∈ sortedItems values ↔ ((kind, id), v) ∈ values := by
  simp only [sortedItems, List.mem_map, List.mem_insertionSort, Prod.mk.injEq]
  constructor
  · rintro ⟨⟨⟨kind', id'⟩, v'⟩, hmem, rfl, rfl, rfl⟩
    exact hmem
  · exact fun hmem => ⟨_, hmem, rfl, rfl, rfl⟩

/-- Events that are in the order of their instants give the latest values last. -/
theorem latestValues_of_chronological {s : CollaborationStore} {engagementId : Option String}
    (h : Chronological CollaborationEvent.instant (s.events engagementId))
    (gives : CollaborationEvent → Option ((String × String) × String)) :
    LatestValues gives (s.matching engagementId)
      (sortedItems (lastValues gives (s.events engagementId))) := by
  refine ⟨fun kind id v hmem => ?_, fun e he kind id v hgives => ?_⟩
  · obtain ⟨e, he, hgives, hlatest⟩ := latest_of_chronological h (mem_sortedItems.mp hmem)
    exact ⟨e, mem_sortByText.mp he, hgives, fun e' he' v' hgives' =>
      hlatest e' (mem_sortByText.mpr he') v' hgives'⟩
  · obtain ⟨v', hmem⟩ := exists_mem_lastValues (mem_sortByText.mpr he) hgives
    exact ⟨v', mem_sortedItems.mpr hmem⟩

/-- **When the events and the summary follow the instants.** -/
theorem collaboration_chronological_iff (s : CollaborationStore) (selected : Option String) :
    (Chronological CollaborationEvent.instant (s.events selected) ∧
      ∀ engagementId ∈ selected, CurrentIsLatest s engagementId) ↔
      TextsInOrder (·.occurredAt) CollaborationEvent.instant (s.matching selected) := by
  have hiff : Chronological CollaborationEvent.instant (s.events selected) ↔
      TextsInOrder (·.occurredAt) CollaborationEvent.instant (s.matching selected) := by
    refine chronological_sortByText_iff (fun a b (h : a.occurredAt = b.occurredAt) => ?_) _
    rw [CollaborationEvent.instant, h]
    rfl
  constructor
  · exact fun h => hiff.mp h.1
  · intro h
    refine ⟨hiff.mpr h, ?_⟩
    rintro engagementId rfl
    exact ⟨latestValues_of_chronological (hiff.mpr h) _,
      latestValues_of_chronological (hiff.mpr h) _⟩

/-- **Times are sorted as texts.**  The timeline of a workspace, the events of a store and the
current assignments and review states follow the instants exactly when, of two records of the
engagement and of two of the events, never the one with the smaller text denotes the later
instant. -/
theorem chronology_iff (w : LocalWorkspace) (engagementId : String) (s : CollaborationStore)
    (selected : Option String) :
    ((∀ items, (timeline engagementId w).1 = .ok items →
        Chronological (fun i => observedInstant i.observedAt) items) ∧
      Chronological CollaborationEvent.instant (s.events selected) ∧
      ∀ id ∈ selected, CurrentIsLatest s id) ↔
      TextsInOrder (·.observedAt) (fun r => observedInstant r.observedAt)
        (w.store.memory.recordsOf engagementId) ∧
      TextsInOrder (·.occurredAt) CollaborationEvent.instant (s.matching selected) :=
  and_congr (timeline_chronological_iff w engagementId)
    (collaboration_chronological_iff s selected)

/-- An assignment of a finding. -/
def assignment (eventId occurredAt assigneeId : String)
    (checked : postInit ⟨eventId, "E-1", occurredAt, "lead", .assignment, "finding", "F-1", none,
      none, some assigneeId, "none"⟩ = .ok ()) : CollaborationEvent :=
  ⟨_, checked⟩

/-- At five o'clock UTC. -/
def toAlice : CollaborationEvent :=
  assignment "EV-1" "2024-01-01T10:00:00+05:00" "alice" (by decide +kernel)

/-- At six o'clock UTC. -/
def toBob : CollaborationEvent :=
  assignment "EV-2" "2024-01-01T06:00:00+00:00" "bob" (by decide +kernel)

def twoAssignments : CollaborationStore where
  eventsById := ((∅ : Dict String CollaborationEvent).insert "EV-1" toAlice).insert "EV-2" toBob
  keyed := by
    intro k e h
    rw [Dict.lookup_insert_eq, Dict.lookup_insert_eq, Finmap.lookup_empty] at h
    split at h
    · next heq => rw [← Option.some.inj h, heq]; rfl
    · split at h
      · next heq => rw [← Option.some.inj h, heq]; rfl
      · cases h

theorem mem_twoAssignments {e : CollaborationEvent} (k : String)
    (h : twoAssignments.eventsById.lookup k = some e) (hengagement : e.engagementId = "E-1") :
    e ∈ twoAssignments.matching (some "E-1") :=
  List.mem_filter.mpr ⟨Dict.mem_sortedValues.mpr ⟨k, h⟩, decide_eq_true hengagement⟩

/-- The assignment to Bob is the later one and has the smaller text. -/
theorem offset_reorders : ¬ ∀ (w : LocalWorkspace) (engagementId : String) (s : CollaborationStore)
    (selected : Option String),
    (∀ items, (timeline engagementId w).1 = .ok items →
      Chronological (fun i => observedInstant i.observedAt) items) ∧
    Chronological CollaborationEvent.instant (s.events selected) ∧
    ∀ id ∈ selected, CurrentIsLatest s id := by
  intro h
  have hviews := (h ⟨⟨.empty, none⟩, ⟨∅, none⟩, []⟩ "E-1" twoAssignments (some "E-1")).2
  have horder := (collaboration_chronological_iff twoAssignments (some "E-1")).mp hviews
  have hbob : toBob ∈ twoAssignments.matching (some "E-1") := mem_twoAssignments "EV-2" rfl rfl
  have halice : toAlice ∈ twoAssignments.matching (some "E-1") := mem_twoAssignments "EV-1" rfl rfl
  have hle := horder toBob hbob toAlice halice (by decide +kernel)
  have hinstants : toBob.instant = some 63839772000000000 ∧
      toAlice.instant = some 63839768400000000 := by decide +kernel
  exact absurd (hle _ hinstants.1 _ hinstants.2) (by decide)

end NightRecon.RedEngine.EngagementCollaboration
