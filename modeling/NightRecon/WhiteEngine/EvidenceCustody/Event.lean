import NightRecon.WhiteEngine.EvidenceCustody.Item
import NightRecon.WhiteEngine.History

/-!
# Custody events

`nightrecon_white_engine/evidence_custody.py`, continued: the entries of a custody history.

* `CustodyEvent` — one event; `EventArgs.make` — its constructor, `CustodyEvent.make_args`;
* `CustodyEvent.fromDict_normal` — an event's document, written and read, gives the event;
* `CustodyEvent.eq_of_hashed` — the text hashed for the fingerprint binds the event.
-/

namespace NightRecon.WhiteEngine.EvidenceCustody

open NightRecon.Lib
open NightRecon.Lib.Checks
open NightRecon.Lib.Datetime
open NightRecon.Lib.Json
open NightRecon.Lib.Sha256
open NightRecon.Lib.Text
open NightRecon.Documents
open NightRecon.DocumentMembers
open NightRecon.WhiteEngine.Fields
open NightRecon.WhiteEngine.History
open NightRecon.WhiteEngine.Reading

/-- The members of `_VALID_CUSTODY_EVENTS`. -/
inductive EventType where
  | ingested
  | derived
  | transferred
  | exported
  deriving DecidableEq

namespace EventType

def text : EventType → String
  | .ingested => "ingested"
  | .derived => "derived"
  | .transferred => "transferred"
  | .exported => "exported"

def ofText (s : String) : Option EventType :=
  [ingested, derived, transferred, exported].find? fun t => t.text = s

@[simp] theorem ofText_text (t : EventType) : ofText t.text = some t := by
  cases t <;> rfl

end EventType

/-- The arguments of the event constructor. -/
structure EventArgs where
  schemaVersion : SchemaVersion
  eventId : String
  caseId : String
  engagementId : String
  sequence : Int
  eventType : String
  occurredAt : String
  actorId : String
  reason : String
  evidenceId : Option String
  details : List (String × String)
  previousEventFingerprint : Option String
  deriving DecidableEq

/-- Source: `evidence_custody.py` `CustodyEvent`. -/
structure CustodyEvent where
  schemaVersion : SchemaVersion
  eventId : String
  caseId : String
  engagementId : String
  sequence : Nat
  eventType : EventType
  occurredAt : Timestamp
  actorId : String
  reason : String
  evidenceId : Option String
  details : Details
  previousEventFingerprint : Option String
  eventId_valid : isIdentifier eventId = true
  caseId_valid : isIdentifier caseId = true
  engagementId_valid : isIdentifier engagementId = true
  actorId_valid : isIdentifier actorId = true
  reason_required : requiredText reason
  evidenceId_valid : ∀ v ∈ evidenceId, isIdentifier v = true
  previous_valid : ∀ f ∈ previousEventFingerprint, isSha256Hex f

/-- The constructor's checks, in order.
Source: `evidence_custody.py` `CustodyEvent.__post_init__`. -/
def EventArgs.make (a : EventArgs) : Py CustodyEvent := do
  let identifier := checkIdentifier .evidenceCustodyError
  let h₁ ← identifier a.eventId "event_id"
  let h₂ ← identifier a.caseId "case_id"
  let h₃ ← identifier a.engagementId "engagement_id"
  raiseIf (a.sequence < 0) (custodyError "custody event sequence must be nonnegative")
  let eventType ← getOrRaise (EventType.ofText a.eventType)
    (custodyError "unsupported custody event type")
  let occurredAt ← iso8601 .evidenceCustodyError a.occurredAt "occurred_at"
  let h₄ ← identifier a.actorId "actor_id"
  let h₅ ← checkText .evidenceCustodyError a.reason "reason"
  let h₆ ← checkOptionalIdentifier .evidenceCustodyError a.evidenceId "evidence_id"
  let h₇ ← checkOptionalSha256 .evidenceCustodyError a.previousEventFingerprint
    "previous_event_fingerprint"
  let details ← checkDetails .evidenceCustodyError "custody" a.details
  return ⟨a.schemaVersion, a.eventId, a.caseId, a.engagementId, a.sequence.toNat, eventType,
    occurredAt, a.actorId, a.reason, a.evidenceId, details, a.previousEventFingerprint, h₁.down,
    h₂.down, h₃.down, h₄.down, h₅.down, h₆.down, h₇.down⟩

namespace CustodyEvent

/-- The arguments an event was built from. -/
@[reducible] def args (e : CustodyEvent) : EventArgs where
  schemaVersion := e.schemaVersion
  eventId := e.eventId
  caseId := e.caseId
  engagementId := e.engagementId
  sequence := e.sequence
  eventType := e.eventType.text
  occurredAt := e.occurredAt.text
  actorId := e.actorId
  reason := e.reason
  evidenceId := e.evidenceId
  details := e.details.pairs
  previousEventFingerprint := e.previousEventFingerprint

/-- **An event is rebuilt from its own fields.** -/
theorem make_args (e : CustodyEvent) : e.args.make = .ok e := by
  have hsequence : ¬ (e.sequence : Int) < 0 := by omega
  unfold EventArgs.make
  dsimp only
  rw [checkIdentifier_of e.eventId_valid, ok_bind, checkIdentifier_of e.caseId_valid, ok_bind,
    checkIdentifier_of e.engagementId_valid, ok_bind, raiseIf_of_not hsequence, ok_bind,
    EventType.ofText_text, getOrRaise_some, ok_bind, iso8601_text, ok_bind,
    checkIdentifier_of e.actorId_valid, ok_bind, checkText_of e.reason_required, ok_bind,
    checkOptionalIdentifier_of e.evidenceId_valid, ok_bind,
    checkOptionalSha256_of e.previous_valid, ok_bind, e.details.check_pairs, ok_bind]
  simp only [pure_eq_ok, Int.toNat_natCast]

theorem args_injective {e e' : CustodyEvent} (h : e.args = e'.args) : e = e' := by
  have hmake := e.make_args
  rw [h, e'.make_args] at hmake
  exact (Except.ok.inj hmake).symm

/-- What the language's `==` compares; versions that equal `1` are equal. -/
def content (e : CustodyEvent) : EventArgs := { e.args with schemaVersion := .int }

/-- Source: `evidence_custody.py` `CustodyEvent.detail`. -/
def detail (e : CustodyEvent) (key : String) : Option String := e.details.get key

/-- The time of an event. -/
def time (e : CustodyEvent) : Int := e.occurredAt.time

/-! ### Documents -/

/-- Source: `evidence_custody.py` `CustodyEvent._payload`. -/
def payload (e : CustodyEvent) : List (String × Json) :=
  [("schema_version", e.schemaVersion.toJson),
    ("event_id", .str e.eventId),
    ("case_id", .str e.caseId),
    ("engagement_id", .str e.engagementId),
    ("sequence", .int e.sequence),
    ("event_type", .str e.eventType.text),
    ("occurred_at", .str e.occurredAt.text),
    ("actor_id", .str e.actorId),
    ("reason", .str e.reason),
    ("evidence_id", .ofOption e.evidenceId),
    ("details", pairs e.details.pairs),
    ("previous_event_fingerprint", .ofOption e.previousEventFingerprint)]

/-- Source: `evidence_custody.py` `CustodyEvent.fingerprint`. -/
def fingerprint (e : CustodyEvent) : String := Fields.fingerprint (.obj e.payload)

/-- The payload with the fingerprint. -/
def members (e : CustodyEvent) : List (String × Json) :=
  e.payload ++ [("fingerprint", .str e.fingerprint)]

/-- Source: `evidence_custody.py` `CustodyEvent.to_dict`. -/
def toDict (e : CustodyEvent) : Json := .obj e.members

/-- The keys of an event's document. -/
def required : List String :=
  ["schema_version", "event_id", "case_id", "engagement_id", "sequence", "event_type",
    "occurred_at", "actor_id", "reason", "evidence_id", "details", "previous_event_fingerprint",
    "fingerprint"]

/-- The arguments `from_dict` hands to the constructor. -/
def readArgs (doc : Json) : Py EventArgs := do
  let get := getItem doc
  let text := fun field => get field >>= readText .evidenceCustodyError field
  let optional := fun field => get field >>= readOptionalText .evidenceCustodyError field
  let details ← get "details" >>= readPairs (custodyError "custody details must be a list")
    (custodyError "custody detail is invalid")
  return {
    schemaVersion := ← get "schema_version" >>=
      SchemaVersion.ofJson (custodyError "unsupported custody event schema")
    eventId := ← text "event_id"
    caseId := ← text "case_id"
    engagementId := ← text "engagement_id"
    sequence := ← get "sequence" >>=
      readInt (custodyError "custody event sequence must be nonnegative")
    eventType := ← get "event_type" >>= readStr (custodyError "unsupported custody event type")
    occurredAt := ← text "occurred_at"
    actorId := ← text "actor_id"
    reason := ← text "reason"
    evidenceId := ← optional "evidence_id"
    details := details
    previousEventFingerprint := ← optional "previous_event_fingerprint" }

/-- Source: `evidence_custody.py` `CustodyEvent.from_dict`. -/
def fromDict (doc : Json) : Py CustodyEvent := do
  requireKeys doc required (custodyError "custody event schema is not supported")
  let args ← readArgs doc
  let event ← args.make
  verify doc "fingerprint" event.fingerprint
    (custodyError "custody event fingerprint verification failed")
  return event

theorem required_nodup : required.Nodup := by decide

theorem map_members (e : CustodyEvent) : e.members.map (·.1) = required := rfl

theorem valid_toDict (e : CustodyEvent) : valid e.toDict := by
  refine ⟨required_nodup, ?_⟩
  simp [members, payload, membersValid, valid]

theorem valid_payload (e : CustodyEvent) : valid (.obj e.payload) := by
  refine ⟨required_nodup.sublist (List.sublist_append_left _ ["fingerprint"]), ?_⟩
  simp [payload, membersValid, valid]

/-- An event's document has no nested object to sort. -/
theorem normalMembers_members (e : CustodyEvent) : normalMembers e.members = e.members := by
  simp [normalMembers, members, payload, normal]

theorem normalMembers_payload (e : CustodyEvent) : normalMembers e.payload = e.payload := by
  simp [normalMembers, payload, normal]

theorem readArgs_of {doc : Json} {e : CustodyEvent} (h : Has doc e.payload) :
    readArgs doc = .ok e.args := by
  simp only [payload, has_cons, has_nil, and_true] at h
  obtain ⟨h₁, h₂, h₃, h₄, h₅, h₆, h₇, h₈, h₉, h₁₀, h₁₁, h₁₂⟩ := h
  simp only [readArgs, getItem, h₁, h₂, h₃, h₄, h₅, h₆, h₇, h₈, h₉, h₁₀, h₁₁, h₁₂,
    getOrRaise_some, ok_bind, readPairs_pairs, SchemaVersion.ofJson_toJson, readText_str,
    readInt_int, readStr_str, readOptionalText_ofOption, pure_eq_ok]

/-- **An event's document, written and read, gives the event.** -/
theorem fromDict_normal (e : CustodyEvent) : fromDict (normal e.toDict) = .ok e := by
  have hdoc := hasExactly_normal e.valid_toDict.1
  rw [normalMembers_members] at hdoc
  have hfingerprint := hdoc.has ("fingerprint", .str e.fingerprint)
    (List.mem_append_right _ (List.mem_singleton_self _))
  rw [toDict, fromDict, requireKeys_of hdoc e.map_members, ok_bind,
    readArgs_of (Has.append_left hdoc.has), ok_bind, make_args, ok_bind,
    verify_of hfingerprint]
  rfl

/-- The text that is hashed for the fingerprint. -/
def hashed (e : CustodyEvent) : List Char := chars (.obj e.payload)

/-- **The text hashed for an event's fingerprint binds the event.** -/
theorem eq_of_hashed {e e' : CustodyEvent} (h : e.hashed = e'.hashed) : e = e' := by
  have hread : ∀ (e : CustodyEvent) (doc : Json), Has doc (normalMembers e.payload) →
      readArgs doc = .ok e.args := by
    intro e doc hdoc
    rw [normalMembers_payload] at hdoc
    exact readArgs_of hdoc
  exact args_injective (eq_of_write_eq valid_payload hread (congrArg String.ofList h))

/-- What the walk along the chain looks at. -/
def entry (e : CustodyEvent) : Entry where
  ownerId := e.caseId
  engagementId := e.engagementId
  sequence := e.sequence
  previous := e.previousEventFingerprint
  fingerprint := e.fingerprint
  time := e.time

end CustodyEvent

end NightRecon.WhiteEngine.EvidenceCustody
