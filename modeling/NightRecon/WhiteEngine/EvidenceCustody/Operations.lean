import NightRecon.Lib.Isoformat
import NightRecon.Lib.Machine
import NightRecon.WhiteEngine.EvidenceCustody.Bundle

/-!
# The operations on a custody case

`nightrecon_white_engine/evidence_custody.py`, continued: how a case is opened and how its history
grows.

* `create`, `addRecord`, `transfer`, `exportCase` — the operations; `appendEvent` — the event each of
  them adds;
* `Operation`, `step` — an operation as a step of a machine whose states are the cases;
* `apply_appends` — an operation that succeeds adds one event, with the identifier it was given;
* `event_ids_distinct_iff` — the identifiers of the events stay distinct in exactly the runs whose
  operations are given new ones.
-/

namespace NightRecon.WhiteEngine.EvidenceCustody

open NightRecon.Lib
open NightRecon.Lib.Checks
open NightRecon.Lib.Datetime
open NightRecon.Lib.Json
open NightRecon.Lib.Text
open NightRecon.SharedCore.Contracts (EvidenceRecord isSecretKey)
open NightRecon.WhiteEngine.EngagementDomain
open NightRecon.WhiteEngine.Fields
open NightRecon.WhiteEngine.Reading

namespace EvidenceCustodyCase

/-! ## Items -/

/-- Source: `evidence_custody.py` `EvidenceCustodyCase._custodied_item`. -/
def custodiedItem (record : EvidenceRecord) (policy : DataHandlingPolicy) (retainedFrom : String)
    (parentEvidenceIds : List String) (classification : Option String) : Py CustodiedEvidence := do
  let start ← iso8601 .evidenceCustodyError retainedFrom "retained_from"
  let chosen ← getOrRaise (Classification.ofText (classification.getD policy.classification.text))
    (custodyError "unsupported evidence classification")
  raiseIf (chosen.rank < policy.classification.rank)
    (custodyError "evidence classification cannot be below engagement policy")
  let wall ← getOrRaise (addSeconds start.wall (policy.retentionDays * 86400))
    ⟨.overflowError, "date value out of range"⟩
  ItemArgs.make {
    schemaVersion := .int
    record := record
    classification := chosen.text
    retainedFrom := retainedFrom
    retainUntil := isoformat ⟨wall, some start.offset⟩
    exportAllowed := policy.exportAllowed
    parentEvidenceIds := parentEvidenceIds
    recordFingerprint := "" }

/-! ## Operations -/

/-- Who does something, when, under which event identifier and why. -/
structure Action where
  actorId : String
  occurredAt : String
  eventId : String
  reason : String

/-- Source: `evidence_custody.py` `EvidenceCustodyCase.create`. -/
def create (caseId engagementId : String) (policy : DataHandlingPolicy) (record : EvidenceRecord)
    (custodianId : String) (classification : Option String) (action : Action) :
    Py EvidenceCustodyCase := do
  raiseIf (record.engagementId ≠ engagementId)
    (custodyError "evidence engagement does not match custody case")
  let item ← custodiedItem record policy action.occurredAt [] classification
  let event ← EventArgs.make {
    schemaVersion := .int
    eventId := action.eventId
    caseId := caseId
    engagementId := engagementId
    sequence := 0
    eventType := "ingested"
    occurredAt := action.occurredAt
    actorId := action.actorId
    reason := action.reason
    evidenceId := some record.evidenceId
    details := [("custodian_id", custodianId)]
    previousEventFingerprint := none }
  make .int caseId engagementId policy [item] [event]

/-- Source: `evidence_custody.py` `EvidenceCustodyCase._append_event`. -/
def appendEvent (c : EvidenceCustodyCase) (action : Action) (eventType : String)
    (evidenceId : Option String) (details : List (String × String))
    (items : List CustodiedEvidence) : Py EvidenceCustodyCase := do
  let event ← EventArgs.make {
    schemaVersion := .int
    eventId := action.eventId
    caseId := c.caseId
    engagementId := c.engagementId
    sequence := c.events.length
    eventType := eventType
    occurredAt := action.occurredAt
    actorId := action.actorId
    reason := action.reason
    evidenceId := evidenceId
    details := details
    previousEventFingerprint := c.events.getLast?.map CustodyEvent.fingerprint }
  make .int c.caseId c.engagementId c.dataHandling items (c.events ++ [event])

/-- Source: `evidence_custody.py` `EvidenceCustodyCase.add_record`. -/
def addRecord (c : EvidenceCustodyCase) (record : EvidenceRecord) (custodianId : String)
    (parentEvidenceIds : List String) (classification : Option String) (action : Action) :
    Py EvidenceCustodyCase := do
  raiseIf (record.engagementId ≠ c.engagementId)
    (custodyError "evidence engagement does not match custody case")
  raiseIf (∃ i ∈ c.items, i.evidenceId = record.evidenceId)
    (custodyError "evidence_id already exists in custody case")
  let parents ← sortedUniqueIds parentEvidenceIds "parent_evidence_ids"
  raiseIf (∃ p ∈ parents.values, p ∉ c.items.map (·.evidenceId))
    (custodyError "derived evidence references unknown parents")
  let item ← custodiedItem record c.dataHandling action.occurredAt parents.values classification
  let derived := parents.values ≠ []
  appendEvent c action (if derived then "derived" else "ingested") (some record.evidenceId)
    (("custodian_id", custodianId) ::
      if derived then [("parent_evidence_ids", dumps (.strings parents.values))] else [])
    (c.items ++ [item])

/-- The custodian an event of an item names. -/
def custodianOf (e : CustodyEvent) : Option (Option String) :=
  match e.eventType with
  | .ingested | .derived => some (e.detail "custodian_id")
  | .transferred => some (e.detail "to_custodian")
  | .exported => none

/-- Source: `evidence_custody.py` `EvidenceCustodyCase.current_custodian`. -/
def currentCustodian (c : EvidenceCustodyCase) (evidenceId : String) (at_ : Option String) :
    Py String := do
  let _ ← c.item evidenceId
  let cutoff ← at_.mapM fun text => iso8601 .evidenceCustodyError text "at"
  let named := c.events.filterMap fun e =>
    if (∃ t ∈ cutoff, t.time < e.time) ∨ e.evidenceId ≠ some evidenceId then none
    else custodianOf e
  getOrRaise named.getLast?.join (custodyError "custodian state is unavailable")

/-- Source: `evidence_custody.py` `EvidenceCustodyCase.transfer`. -/
def transfer (c : EvidenceCustodyCase) (evidenceId toCustodian : String) (action : Action) :
    Py EvidenceCustodyCase := do
  let current ← c.currentCustodian evidenceId (some action.occurredAt)
  raiseIf (action.actorId ≠ current)
    (custodyError "custody transfer actor must be current custodian")
  let _ ← checkIdentifier .evidenceCustodyError toCustodian "to_custodian"
  raiseIf (toCustodian = current) (custodyError "custody transfer requires different custodians")
  appendEvent c action "transferred" (some evidenceId)
    [("from_custodian", current), ("to_custodian", toCustodian)] c.items

/-- Source: `evidence_custody.py` `EvidenceCustodyCase._assert_exportable`. -/
def assertExportable (c : EvidenceCustodyCase) (at_ : String) : Py Unit := do
  let t ← iso8601 .evidenceCustodyError at_ "at"
  raiseIf (c.dataHandling.exportAllowed = false)
    (custodyError "engagement data-handling policy forbids export")
  let expired := (c.items.filter fun i => i.retentionStatus t = .expired).map (·.evidenceId)
  raiseIf (expired ≠ [])
    (custodyError ("expired evidence cannot be exported: " ++ ",".intercalate expired))
  raiseIf (∃ i ∈ c.items, i.exportAllowed = false)
    (custodyError "custody item policy forbids export")

/-- Source: `evidence_custody.py` `EvidenceCustodyCase.export`. -/
def exportCase (c : EvidenceCustodyCase) (destination : String) (action : Action) :
    Py (EvidenceCustodyCase × EvidenceExportBundle) := do
  c.assertExportable action.occurredAt
  let _ ← checkText .evidenceCustodyError destination "destination"
  raiseIf (isSecretKey "destination" = true)
    (custodyError "secret-like custody field is not allowed: $.destination")
  let updated ← appendEvent c action "exported" none [("destination", destination)] c.items
  let manifest ← updated.manifest action.occurredAt
  let bundle ← EvidenceExportBundle.make .int updated manifest (updated.items.map (·.record)) "none"
  return (updated, bundle)

/-! ## Runs -/

/-- The operations that grow a history. -/
inductive Operation where
  | addRecord (record : EvidenceRecord) (custodianId : String) (parentEvidenceIds : List String)
      (classification : Option String) (action : Action)
  | transfer (evidenceId toCustodian : String) (action : Action)
  | exportCase (destination : String) (action : Action)

def Operation.action : Operation → Action
  | .addRecord _ _ _ _ action => action
  | .transfer _ _ action => action
  | .exportCase _ action => action

/-- The case an operation leads to. -/
def apply (c : EvidenceCustodyCase) : Operation → Py EvidenceCustodyCase
  | .addRecord record custodianId parentEvidenceIds classification action =>
      c.addRecord record custodianId parentEvidenceIds classification action
  | .transfer evidenceId toCustodian action => c.transfer evidenceId toCustodian action
  | .exportCase destination action => (c.exportCase destination action).map Prod.fst

/-- One operation of a run; one that raises leaves the case as it is. -/
def step (c : EvidenceCustodyCase) (operation : Operation) : EvidenceCustodyCase × Py Unit :=
  match c.apply operation with
  | .ok c' => (c', .ok ())
  | .error e => (c, .error e)

/-- The identifiers of the events of a case. -/
def eventIds (c : EvidenceCustodyCase) : List String := c.events.map (·.eventId)

/-! ## Event identifiers -/

theorem make_events {schemaVersion : SchemaVersion} {caseId engagementId : String}
    {dataHandling : DataHandlingPolicy} {items : List CustodiedEvidence}
    {events : List CustodyEvent} {c : EvidenceCustodyCase}
    (h : make schemaVersion caseId engagementId dataHandling items events = .ok c) :
    c.events = events := by
  simp only [make, build, bind_eq_ok, pure_eq_ok, Except.ok.injEq] at h
  obtain ⟨_, -, _, -, _, -, _, -, _, -, _, -, _, -, _, -, _, -, rfl⟩ := h
  rfl

theorem eventId_of_make {a : EventArgs} {e : CustodyEvent} (h : a.make = .ok e) :
    e.eventId = a.eventId := by
  simp only [EventArgs.make, bind_eq_ok, pure_eq_ok, Except.ok.injEq] at h
  obtain ⟨_, -, _, -, _, -, _, -, _, -, _, -, _, -, _, -, _, -, _, -, _, -, rfl⟩ := h
  rfl

/-- An event that is appended carries the identifier that was given. -/
theorem appendEvent_eventIds {c c' : EvidenceCustodyCase} {action : Action} {eventType : String}
    {evidenceId : Option String} {details : List (String × String)}
    {items : List CustodiedEvidence}
    (h : appendEvent c action eventType evidenceId details items = .ok c') :
    c'.eventIds = c.eventIds ++ [action.eventId] := by
  rw [appendEvent, bind_eq_ok] at h
  obtain ⟨event, hevent, hmake⟩ := h
  rw [eventIds, make_events hmake, List.map_append, List.map_singleton, eventId_of_make hevent,
    eventIds]

/-- **An operation that succeeds** adds one event, with the identifier it was given. -/
theorem apply_appends {c c' : EvidenceCustodyCase} {operation : Operation}
    (h : c.apply operation = .ok c') :
    c'.eventIds = c.eventIds ++ [operation.action.eventId] := by
  cases operation with
  | addRecord record custodianId parentEvidenceIds classification action =>
    simp only [apply, addRecord, bind_eq_ok] at h
    obtain ⟨_, -, _, -, _, -, _, -, _, -, happend⟩ := h
    exact appendEvent_eventIds happend
  | transfer evidenceId toCustodian action =>
    simp only [apply, transfer, bind_eq_ok] at h
    obtain ⟨_, -, _, -, _, -, _, -, happend⟩ := h
    exact appendEvent_eventIds happend
  | exportCase destination action =>
    have hmap : Prod.fst <$> c.exportCase destination action = .ok c' := h
    obtain ⟨result, hexport, rfl⟩ := map_eq_ok.mp hmap
    simp only [exportCase, bind_eq_ok, pure_eq_ok, Except.ok.injEq] at hexport
    obtain ⟨_, -, _, -, _, -, updated, happend, _, -, _, -, rfl⟩ := hexport
    exact appendEvent_eventIds happend

/-- A case that was just created has one event. -/
theorem eventIds_of_create {caseId engagementId : String} {policy : DataHandlingPolicy}
    {record : EvidenceRecord} {custodianId : String} {classification : Option String}
    {action : Action} {c : EvidenceCustodyCase}
    (h : create caseId engagementId policy record custodianId classification action = .ok c) :
    c.eventIds = [action.eventId] := by
  simp only [create, bind_eq_ok] at h
  obtain ⟨_, -, _, -, event, hevent, hmake⟩ := h
  rw [eventIds, make_events hmake, List.map_singleton, eventId_of_make hevent]

/-- The operation, should it succeed, is given an identifier that no event of the case has. -/
def GivesNewId (c : EvidenceCustodyCase) (operation : Operation) : Prop :=
  (c.apply operation).isOk = true → operation.action.eventId ∉ c.eventIds

/-- **One operation** keeps the identifiers distinct exactly when it is given a new one. -/
theorem step_distinct_iff {c : EvidenceCustodyCase} (hc : c.eventIds.Nodup)
    (operation : Operation) :
    (c.step operation).1.eventIds.Nodup ↔ c.GivesNewId operation := by
  cases happly : c.apply operation with
  | error e =>
    simp only [step, GivesNewId, happly]
    exact iff_of_true hc fun herror => absurd herror Bool.false_ne_true
  | ok c' =>
    simp only [step, GivesNewId, happly, apply_appends happly]
    rw [← List.concat_eq_append, List.nodup_concat]
    exact ⟨fun h _ => h.1, fun h => ⟨h rfl, hc⟩⟩

/-- **The identifiers of the events are distinct in every state of a run** exactly when those of the
case it starts from are, and every operation that succeeds is given a new one. -/
theorem event_ids_distinct_iff (c : EvidenceCustodyCase) (operations : List Operation) :
    (∀ before after, operations = before ++ after → (Machine.final step c before).eventIds.Nodup) ↔
      c.eventIds.Nodup ∧ Machine.Throughout step GivesNewId c operations := by
  constructor
  · intro hall
    refine ⟨hall [] operations rfl, ?_⟩
    intro before operation after hsplit
    have hbefore := hall before (operation :: after) hsplit
    have hafter := hall (before ++ [operation]) after (by rw [hsplit, List.append_assoc]; rfl)
    rw [Machine.final_concat] at hafter
    exact (step_distinct_iff hbefore operation).mp hafter
  · rintro ⟨hstart, hnew⟩ before after rfl
    exact Machine.invariant_of_throughout (C := GivesNewId)
      (fun c operation hnew hc => (step_distinct_iff hc operation).mpr hnew) hstart hnew.prefix

/-! ### A case with one identifier twice -/

/-- A transfer of the record of `sampleCase`, under the identifier of its first event. -/
def repeatedEvent : CustodyEvent where
  schemaVersion := .int
  eventId := "event-0"
  caseId := "case-1"
  engagementId := "e"
  sequence := 1
  eventType := .transferred
  occurredAt := sampleTime
  actorId := "analyst"
  reason := "handed over"
  evidenceId := some "r"
  details := ⟨[("from_custodian", "analyst"), ("to_custodian", "archive")], by decide +kernel,
    by decide, by
      intro d hd
      rcases List.mem_pair.mp hd with rfl | rfl
      · exact ⟨by decide, by decide, by decide⟩
      · exact ⟨by decide, by decide, by decide⟩⟩
  previousEventFingerprint := some sampleEvent.fingerprint
  eventId_valid := eventId_identifier
  caseId_valid := caseId_identifier
  engagementId_valid := engagementId_identifier
  actorId_valid := sampleEvent.actorId_valid
  reason_required := by decide
  evidenceId_valid := sampleEvent.evidenceId_valid
  previous_valid := fun _ h => Option.mem_some.mp h ▸ Sha256.isSha256Hex_hexOf _

/-- The case behind that transfer. -/
def repeatedCase : EvidenceCustodyCase where
  schemaVersion := .int
  caseId := "case-1"
  engagementId := "e"
  dataHandling := samplePolicy
  items := [sampleItem loweredRecord]
  events := [sampleEvent, repeatedEvent]
  caseId_valid := caseId_identifier
  engagementId_valid := engagementId_identifier
  items_nonempty := List.cons_ne_nil _ _
  items_sorted := rfl
  items_nodup := List.nodup_singleton _
  items_belong := fun _ h => List.mem_singleton.mp h ▸ rfl
  items_classified := fun _ h => List.mem_singleton.mp h ▸ le_refl _
  parents_known := by
    intro i hi p hp
    rw [List.mem_singleton.mp hi] at hp
    exact absurd hp List.not_mem_nil
  events_nonempty := List.cons_ne_nil _ _
  accepted := by
    rw [List.map_singleton, sampleItem_terms rfl]
    decide +kernel

theorem event_id_repeated : ¬ ∀ c : EvidenceCustodyCase, c.eventIds.Nodup := by
  intro h
  exact absurd (h repeatedCase) (by decide)

end EvidenceCustodyCase

end NightRecon.WhiteEngine.EvidenceCustody
