import NightRecon.Lib.Commitment
import NightRecon.WhiteEngine.History

/-!
# The audit trail

`nightrecon_white_engine/audit_log.py`: audit events, linked by their fingerprints, and the trails
they form.

* `AuditEvent` — one event; `EventArgs.make` — its constructor, `AuditEvent.make_args`;
* `AuditEvent.toDict`, `AuditEvent.fromDict` — its document, `fromDict_normal`;
* `AuditTrail` — a history that passed the walk along its chain, `AuditTrail.make`;
* `AuditTrail.fromJson_toJson` — a written trail reads back as itself;
* `AuditTrail.eq_of_fingerprint` — two trails with one fingerprint are equal, unless two of the
  texts hashed for them collide.
-/

namespace NightRecon.WhiteEngine.AuditLog

open NightRecon.Lib
open NightRecon.Lib.Checks
open NightRecon.Lib.Commitment
open NightRecon.Lib.Datetime
open NightRecon.Lib.Json
open NightRecon.Lib.Sha256
open NightRecon.Lib.Text
open NightRecon.Documents
open NightRecon.DocumentMembers
open NightRecon.WhiteEngine.Fields
open NightRecon.WhiteEngine.History
open NightRecon.WhiteEngine.Reading

def auditError (message : String) : Exn := ⟨.auditTrailError, message⟩

/-! ## Events -/

/-- The members of `_VALID_OUTCOMES`. -/
inductive Outcome where
  | info
  | success
  | denied
  | error
  deriving DecidableEq

namespace Outcome

def text : Outcome → String
  | .info => "info"
  | .success => "success"
  | .denied => "denied"
  | .error => "error"

def ofText (s : String) : Option Outcome :=
  [info, success, denied, error].find? fun o => o.text = s

@[simp] theorem ofText_text (o : Outcome) : ofText o.text = some o := by
  cases o <;> rfl

end Outcome

/-- The arguments of the event constructor. -/
structure EventArgs where
  schemaVersion : SchemaVersion
  eventId : String
  trailId : String
  engagementId : String
  sequence : Int
  eventType : String
  occurredAt : String
  actorId : String
  subjectType : String
  subjectId : String
  outcome : String
  reasonCode : String
  summary : String
  details : List (String × String)
  previousEventFingerprint : Option String
  deriving DecidableEq

/-- Source: `audit_log.py` `AuditEvent`. -/
structure AuditEvent where
  schemaVersion : SchemaVersion
  eventId : String
  trailId : String
  engagementId : String
  sequence : Nat
  eventType : String
  occurredAt : Timestamp
  actorId : String
  subjectType : String
  subjectId : String
  outcome : Outcome
  reasonCode : String
  summary : String
  details : Details
  previousEventFingerprint : Option String
  eventId_valid : isIdentifier eventId = true
  trailId_valid : isIdentifier trailId = true
  engagementId_valid : isIdentifier engagementId = true
  eventType_valid : isCode eventType = true
  actorId_valid : isIdentifier actorId = true
  subjectType_valid : isCode subjectType = true
  subjectId_valid : isIdentifier subjectId = true
  reasonCode_valid : isCode reasonCode = true
  summary_required : requiredText summary
  previous_valid : ∀ f ∈ previousEventFingerprint, isSha256Hex f

/-- The constructor's checks, in order.
Source: `audit_log.py` `AuditEvent.__post_init__`. -/
def EventArgs.make (a : EventArgs) : Py AuditEvent := do
  let identifier := checkIdentifier .auditTrailError
  let code := checkCode .auditTrailError
  let h₁ ← identifier a.eventId "event_id"
  let h₂ ← identifier a.trailId "trail_id"
  let h₃ ← identifier a.engagementId "engagement_id"
  raiseIf (a.sequence < 0) (auditError "audit event sequence must be nonnegative")
  let h₄ ← code a.eventType "event_type"
  let occurredAt ← iso8601 .auditTrailError a.occurredAt "occurred_at"
  let h₅ ← identifier a.actorId "actor_id"
  let h₆ ← code a.subjectType "subject_type"
  let h₇ ← identifier a.subjectId "subject_id"
  let outcome ← getOrRaise (Outcome.ofText a.outcome) (auditError "unsupported audit outcome")
  let h₈ ← code a.reasonCode "reason_code"
  let h₉ ← checkText .auditTrailError a.summary "summary"
  let h₁₀ ← checkOptionalSha256 .auditTrailError a.previousEventFingerprint
    "previous_event_fingerprint"
  let details ← checkDetails .auditTrailError "audit" a.details
  return ⟨a.schemaVersion, a.eventId, a.trailId, a.engagementId, a.sequence.toNat, a.eventType,
    occurredAt, a.actorId, a.subjectType, a.subjectId, outcome, a.reasonCode, a.summary, details,
    a.previousEventFingerprint, h₁.down, h₂.down, h₃.down, h₄.down, h₅.down, h₆.down, h₇.down,
    h₈.down, h₉.down, h₁₀.down⟩

namespace AuditEvent

/-- The arguments an event was built from. -/
@[reducible] def args (e : AuditEvent) : EventArgs where
  schemaVersion := e.schemaVersion
  eventId := e.eventId
  trailId := e.trailId
  engagementId := e.engagementId
  sequence := e.sequence
  eventType := e.eventType
  occurredAt := e.occurredAt.text
  actorId := e.actorId
  subjectType := e.subjectType
  subjectId := e.subjectId
  outcome := e.outcome.text
  reasonCode := e.reasonCode
  summary := e.summary
  details := e.details.pairs
  previousEventFingerprint := e.previousEventFingerprint

/-- **An event is rebuilt from its own fields.** -/
theorem make_args (e : AuditEvent) : e.args.make = .ok e := by
  have hsequence : ¬ (e.sequence : Int) < 0 := by omega
  unfold EventArgs.make
  dsimp only
  rw [checkIdentifier_of e.eventId_valid, ok_bind, checkIdentifier_of e.trailId_valid, ok_bind,
    checkIdentifier_of e.engagementId_valid, ok_bind, raiseIf_of_not hsequence, ok_bind,
    checkCode_of e.eventType_valid, ok_bind, iso8601_text, ok_bind,
    checkIdentifier_of e.actorId_valid, ok_bind, checkCode_of e.subjectType_valid, ok_bind,
    checkIdentifier_of e.subjectId_valid, ok_bind, Outcome.ofText_text, getOrRaise_some, ok_bind,
    checkCode_of e.reasonCode_valid, ok_bind, checkText_of e.summary_required, ok_bind,
    checkOptionalSha256_of e.previous_valid, ok_bind, e.details.check_pairs, ok_bind]
  simp only [pure_eq_ok, Int.toNat_natCast]

theorem args_injective {e e' : AuditEvent} (h : e.args = e'.args) : e = e' := by
  have hmake := e.make_args
  rw [h, e'.make_args] at hmake
  exact (Except.ok.inj hmake).symm

/-- What the language's `==` compares; versions that equal `1` are equal. -/
def content (e : AuditEvent) : EventArgs := { e.args with schemaVersion := .int }

/-! ### Documents -/

/-- Source: `audit_log.py` `AuditEvent._payload`. -/
def payload (e : AuditEvent) : List (String × Json) :=
  [("schema_version", e.schemaVersion.toJson),
    ("event_id", .str e.eventId),
    ("trail_id", .str e.trailId),
    ("engagement_id", .str e.engagementId),
    ("sequence", .int e.sequence),
    ("event_type", .str e.eventType),
    ("occurred_at", .str e.occurredAt.text),
    ("actor_id", .str e.actorId),
    ("subject_type", .str e.subjectType),
    ("subject_id", .str e.subjectId),
    ("outcome", .str e.outcome.text),
    ("reason_code", .str e.reasonCode),
    ("summary", .str e.summary),
    ("details", pairs e.details.pairs),
    ("previous_event_fingerprint", .ofOption e.previousEventFingerprint)]

/-- Source: `audit_log.py` `AuditEvent.fingerprint`. -/
def fingerprint (e : AuditEvent) : String := Fields.fingerprint (.obj e.payload)

/-- The payload with the fingerprint. -/
def members (e : AuditEvent) : List (String × Json) :=
  e.payload ++ [("fingerprint", .str e.fingerprint)]

/-- Source: `audit_log.py` `AuditEvent.to_dict`. -/
def toDict (e : AuditEvent) : Json := .obj e.members

/-- The arguments `from_dict` hands to the constructor. -/
def readArgs (doc : Json) : Py EventArgs := do
  let get := getItem doc
  let text := fun field => get field >>= readText .auditTrailError field
  let details ← get "details" >>= readPairs (auditError "audit details must be a list")
    (auditError "audit detail is invalid")
  return {
    schemaVersion := ← get "schema_version" >>=
      SchemaVersion.ofJson (auditError "unsupported audit event schema")
    eventId := ← text "event_id"
    trailId := ← text "trail_id"
    engagementId := ← text "engagement_id"
    sequence := ← get "sequence" >>=
      readInt (auditError "audit event sequence must be nonnegative")
    eventType := ← text "event_type"
    occurredAt := ← text "occurred_at"
    actorId := ← text "actor_id"
    subjectType := ← text "subject_type"
    subjectId := ← text "subject_id"
    outcome := ← get "outcome" >>= readStr (auditError "unsupported audit outcome")
    reasonCode := ← text "reason_code"
    summary := ← text "summary"
    details := details
    previousEventFingerprint := ← get "previous_event_fingerprint" >>=
      readOptionalText .auditTrailError "previous_event_fingerprint" }

/-- The keys of an event's document. -/
def required : List String :=
  ["schema_version", "event_id", "trail_id", "engagement_id", "sequence", "event_type",
    "occurred_at", "actor_id", "subject_type", "subject_id", "outcome", "reason_code", "summary",
    "details", "previous_event_fingerprint", "fingerprint"]

/-- Source: `audit_log.py` `AuditEvent.from_dict`. -/
def fromDict (doc : Json) : Py AuditEvent := do
  requireKeys doc required (auditError "audit event schema is not supported")
  let args ← readArgs doc
  let event ← args.make
  verify doc "fingerprint" event.fingerprint
    (auditError "audit event fingerprint verification failed")
  return event

theorem required_nodup : required.Nodup := by decide

theorem map_members (e : AuditEvent) : e.members.map (·.1) = required := rfl

theorem valid_toDict (e : AuditEvent) : valid e.toDict := by
  refine ⟨required_nodup, ?_⟩
  simp [members, payload, membersValid, valid]

theorem valid_payload (e : AuditEvent) : valid (.obj e.payload) := by
  refine ⟨required_nodup.sublist (List.sublist_append_left _ ["fingerprint"]), ?_⟩
  simp [payload, membersValid, valid]

/-- An event's document has no nested object to sort. -/
theorem normalMembers_members (e : AuditEvent) : normalMembers e.members = e.members := by
  simp [normalMembers, members, payload, normal]

theorem normalMembers_payload (e : AuditEvent) : normalMembers e.payload = e.payload := by
  simp [normalMembers, payload, normal]

theorem readArgs_of {doc : Json} {e : AuditEvent} (h : Has doc e.payload) :
    readArgs doc = .ok e.args := by
  simp only [payload, has_cons, has_nil, and_true] at h
  obtain ⟨h₁, h₂, h₃, h₄, h₅, h₆, h₇, h₈, h₉, h₁₀, h₁₁, h₁₂, h₁₃, h₁₄, h₁₅⟩ := h
  simp only [readArgs, getItem, h₁, h₂, h₃, h₄, h₅, h₆, h₇, h₈, h₉, h₁₀, h₁₁, h₁₂, h₁₃, h₁₄, h₁₅,
    getOrRaise_some, ok_bind, readPairs_pairs, SchemaVersion.ofJson_toJson, readText_str,
    readInt_int, readStr_str, readOptionalText_ofOption, pure_eq_ok]

/-- **An event's document, written and read, gives the event.** -/
theorem fromDict_normal (e : AuditEvent) : fromDict (normal e.toDict) = .ok e := by
  have hdoc := hasExactly_normal e.valid_toDict.1
  rw [normalMembers_members] at hdoc
  have hfingerprint := hdoc.has ("fingerprint", .str e.fingerprint)
    (List.mem_append_right _ (List.mem_singleton_self _))
  rw [toDict, fromDict, requireKeys_of hdoc e.map_members, ok_bind,
    readArgs_of (Has.append_left hdoc.has), ok_bind, make_args, ok_bind,
    verify_of hfingerprint]
  rfl

/-- The text that is hashed for the fingerprint. -/
def hashed (e : AuditEvent) : List Char := chars (.obj e.payload)

/-- **The text hashed for an event's fingerprint binds the event.** -/
theorem eq_of_hashed {e e' : AuditEvent} (h : e.hashed = e'.hashed) : e = e' := by
  have hread : ∀ (e : AuditEvent) (doc : Json), Has doc (normalMembers e.payload) →
      readArgs doc = .ok e.args := by
    intro e doc hdoc
    rw [normalMembers_payload] at hdoc
    exact readArgs_of hdoc
  exact args_injective (eq_of_write_eq valid_payload hread (congrArg String.ofList h))

/-- What the walk looks at. -/
def entry (e : AuditEvent) : Entry where
  ownerId := e.trailId
  engagementId := e.engagementId
  sequence := e.sequence
  previous := e.previousEventFingerprint
  fingerprint := e.fingerprint
  time := e.occurredAt.time

end AuditEvent

/-! ## Trails -/

/-- What the constructor's loop keeps: the identifiers seen and the link. -/
structure Chain where
  seen : Finset String
  link : Link

def words : Words := ⟨.auditTrailError, "audit", "trail"⟩

/-- One turn of the loop.
Source: `audit_log.py` `AuditTrail.__post_init__`. -/
def checkEvent (trailId engagementId : String) (c : Chain) (e : AuditEvent) : Py Chain := do
  raiseIf (e.eventId ∈ c.seen) (auditError "audit event IDs must be unique")
  let link ← checkLink words trailId engagementId c.link e.entry
  return ⟨insert e.eventId c.seen, link⟩

/-- The checks of the events.
Source: `audit_log.py` `AuditTrail.__post_init__`. -/
def validate (trailId engagementId : String) (events : List AuditEvent) : Py Unit := do
  raiseIf (events = []) (auditError "audit trail requires at least one event")
  let _ ← events.foldlM (checkEvent trailId engagementId) ⟨∅, .start⟩
  return ()

/-- Source: `audit_log.py` `AuditTrail`. -/
structure AuditTrail where
  schemaVersion : SchemaVersion
  trailId : String
  engagementId : String
  events : List AuditEvent
  trailId_valid : isIdentifier trailId = true
  engagementId_valid : isIdentifier engagementId = true
  accepted : (validate trailId engagementId events).toOption.isSome = true

namespace AuditTrail

/-- Source: `audit_log.py` `AuditTrail.__post_init__`. -/
def make (schemaVersion : SchemaVersion) (trailId engagementId : String)
    (events : List AuditEvent) : Py AuditTrail := do
  let h₁ ← checkIdentifier .auditTrailError trailId "trail_id"
  let h₂ ← checkIdentifier .auditTrailError engagementId "engagement_id"
  let h₃ ← attempt (validate trailId engagementId events)
  return ⟨schemaVersion, trailId, engagementId, events, identifier_of h₁, identifier_of h₂, h₃.down⟩

theorem make_fields (t : AuditTrail) :
    make t.schemaVersion t.trailId t.engagementId t.events = .ok t := by
  rw [make, checkIdentifier_of t.trailId_valid, ok_bind, checkIdentifier_of t.engagementId_valid,
    ok_bind, attempt_of t.accepted, ok_bind]
  rfl

/-- A trail is determined by its fields. -/
theorem ext_fields {t t' : AuditTrail} (h₁ : t.schemaVersion = t'.schemaVersion)
    (h₂ : t.trailId = t'.trailId) (h₃ : t.engagementId = t'.engagementId)
    (h₄ : t.events = t'.events) : t = t' := by
  have hmake := t.make_fields
  rw [h₁, h₂, h₃, h₄, t'.make_fields] at hmake
  exact (Except.ok.inj hmake).symm

/-- The arguments that the caller of `create` and `append` gives for one event. -/
structure Draft where
  eventId : String
  eventType : String
  occurredAt : String
  actorId : String
  subjectType : String
  subjectId : String
  outcome : String
  reasonCode : String
  summary : String
  details : List (String × String)

/-- The event of a draft at its place in a trail. -/
def Draft.event (d : Draft) (trailId engagementId : String) (sequence : Nat)
    (previous : Option String) : Py AuditEvent :=
  EventArgs.make {
    schemaVersion := .int
    eventId := d.eventId
    trailId := trailId
    engagementId := engagementId
    sequence := sequence
    eventType := d.eventType
    occurredAt := d.occurredAt
    actorId := d.actorId
    subjectType := d.subjectType
    subjectId := d.subjectId
    outcome := d.outcome
    reasonCode := d.reasonCode
    summary := d.summary
    details := d.details
    previousEventFingerprint := previous }

/-- Source: `audit_log.py` `AuditTrail.create`. -/
def create (trailId engagementId : String) (d : Draft) : Py AuditTrail := do
  let event ← d.event trailId engagementId 0 none
  make .int trailId engagementId [event]

/-- Source: `audit_log.py` `AuditTrail.append`. -/
def append (t : AuditTrail) (d : Draft) : Py AuditTrail := do
  let event ← d.event t.trailId t.engagementId t.events.length
    (t.events.getLast?.map AuditEvent.fingerprint)
  make .int t.trailId t.engagementId (t.events ++ [event])

/-- The language's `==` on trails. -/
def Same (t t' : AuditTrail) : Prop :=
  (t.trailId, t.engagementId) = (t'.trailId, t'.engagementId) ∧
    t.events.map AuditEvent.content = t'.events.map AuditEvent.content

instance (t t' : AuditTrail) : Decidable (t.Same t') := inferInstanceAs (Decidable (_ ∧ _))

/-! ### Documents -/

/-- What is hashed for the fingerprint of a trail. -/
def payload (t : AuditTrail) : List (String × Json) :=
  [("schema_version", t.schemaVersion.toJson),
    ("trail_id", .str t.trailId),
    ("engagement_id", .str t.engagementId),
    ("event_fingerprints", .strings (t.events.map AuditEvent.fingerprint))]

/-- Source: `audit_log.py` `AuditTrail.fingerprint`. -/
def fingerprint (t : AuditTrail) : String := Fields.fingerprint (.obj t.payload)

/-- The members of a trail's document. -/
def members (t : AuditTrail) : List (String × Json) :=
  [("schema_version", t.schemaVersion.toJson),
    ("trail_id", .str t.trailId),
    ("engagement_id", .str t.engagementId),
    ("events", .arr (t.events.map AuditEvent.toDict)),
    ("trail_fingerprint", .str t.fingerprint)]

/-- Source: `audit_log.py` `AuditTrail.to_dict`. -/
def toDict (t : AuditTrail) : Json := .obj t.members

/-- Source: `audit_log.py` `AuditTrail.to_json`. -/
def toJson (t : AuditTrail) : String := write t.toDict

/-- The keys of a trail's document. -/
def required : List String :=
  ["schema_version", "trail_id", "engagement_id", "events", "trail_fingerprint"]

/-- Source: `audit_log.py` `AuditTrail.from_dict`. -/
def fromDict (doc : Json) : Py AuditTrail := do
  requireKeys doc required (auditError "audit trail schema is not supported")
  let get := getItem doc
  let items ← get "events" >>= readList (auditError "audit events must be a list")
  let events ← items.mapM AuditEvent.fromDict
  let trail ← make
    (← get "schema_version" >>= SchemaVersion.ofJson (auditError "unsupported audit trail schema"))
    (← get "trail_id" >>= readText .auditTrailError "trail_id")
    (← get "engagement_id" >>= readText .auditTrailError "engagement_id") events
  verify doc "trail_fingerprint" trail.fingerprint
    (auditError "audit trail fingerprint verification failed")
  return trail

/-- Source: `audit_log.py` `AuditTrail.from_json`. -/
def fromJson (text : String) : Py AuditTrail := do
  let decoded ← getOrRaise (loads text) (auditError "audit trail is not valid JSON")
  fromDict decoded

theorem required_nodup : required.Nodup := by decide

theorem valid_toDict (t : AuditTrail) : valid t.toDict := by
  have hevents := valid_arr_map fun (e : AuditEvent) (_ : e ∈ t.events) => e.valid_toDict
  refine ⟨required_nodup, ?_⟩
  rw [valid] at hevents
  simp only [members, membersValid, valid, hevents, SchemaVersion.valid_toJson, and_self]

/-- A trail is read from any document with its members. -/
theorem fromDict_of {doc : Json} {t : AuditTrail} (h : HasExactly doc (normalMembers t.members)) :
    fromDict doc = .ok t := by
  have hkeys : (normalMembers t.members).map (·.1) = required := rfl
  have hevents : (t.events.map (normal ∘ AuditEvent.toDict)).mapM AuditEvent.fromDict =
      .ok t.events := mapM_read fun e _ => e.fromDict_normal
  have hhas := h.has
  simp only [normalMembers, members, List.map_cons, List.map_nil, normal,
    elemsNormal_eq_map, List.map_map, SchemaVersion.normal_toJson, has_cons, has_nil, and_true] at hhas
  obtain ⟨h₁, h₂, h₃, h₄, h₅⟩ := hhas
  rw [fromDict, requireKeys_of h hkeys]
  simp only [getItem, h₁, h₂, h₃, h₄, getOrRaise_some, ok_bind, readList_arr, hevents,
    SchemaVersion.ofJson_toJson, readText_str, make_fields, verify_of h₅, pure_eq_ok]

/-- **A written trail reads back as itself.** -/
theorem fromJson_toJson (t : AuditTrail) : fromJson t.toJson = .ok t := by
  rw [fromJson, toJson, loads_write t.valid_toDict, getOrRaise_some, ok_bind]
  exact fromDict_of (hasExactly_normal t.valid_toDict.1)

/-! ### Fingerprints -/

/-- The texts hashed for the fingerprint of a trail and those of its events. -/
def hashed (t : AuditTrail) : List (List Char) :=
  chars (.obj t.payload) :: t.events.map AuditEvent.hashed

/-- Events whose texts do not collide are bound by their fingerprints. -/
theorem event_eq {texts : List (List Char)} (h : NoCollision hexOf texts) {e e' : AuditEvent}
    (he : e.hashed ∈ texts) (he' : e'.hashed ∈ texts) (hfp : e.fingerprint = e'.fingerprint) :
    e = e' :=
  AuditEvent.eq_of_hashed (h _ he _ he' hfp)

/-- **The fingerprint of a trail binds it**, unless two of the texts hashed collide. -/
theorem eq_of_fingerprint {t t' : AuditTrail} (h : NoCollision hexOf (t.hashed ++ t'.hashed))
    (hfp : t.fingerprint = t'.fingerprint) : t = t' := by
  have hvalid : ∀ t : AuditTrail, valid (.obj t.payload) := by
    intro t
    refine ⟨by rw [payload]; simp, ?_⟩
    simp only [payload, membersValid, valid, SchemaVersion.valid_toJson, valid_strings, and_self]
  have htext : chars (.obj t.payload) = chars (.obj t'.payload) :=
    h _ (by simp [hashed]) _ (by simp [hashed]) hfp
  have hnormal := normal_eq_of_write_eq (hvalid t) (hvalid t') (congrArg String.ofList htext)
  have hget := get?_normal_eq (hvalid t).1 (hvalid t').1 hnormal
  have hversion := hget "schema_version"
  have htrail := hget "trail_id"
  have hengagement := hget "engagement_id"
  have hevents := hget "event_fingerprints"
  simp only [payload, get?, List.find?_cons, String.reduceEq, decide_false, decide_true,
    Option.map_some, Option.some.injEq, normal, normal_strings, SchemaVersion.normal_toJson,
    str.injEq] at hversion htrail hengagement hevents
  have heq : t.events = t'.events := by
    refine eq_of_map_eq (strings_injective hevents) fun e he e' he' => ?_
    apply event_eq h
    · exact List.mem_append_left _ (List.mem_cons_of_mem _ (List.mem_map_of_mem he))
    · exact List.mem_append_right _ (List.mem_cons_of_mem _ (List.mem_map_of_mem he'))
  exact ext_fields (SchemaVersion.toJson_injective hversion) htrail hengagement heq

/-- A document that is read carries the fingerprint of what is read from it. -/
theorem carries_of_fromDict {doc : Json} {t : AuditTrail} (h : fromDict doc = .ok t) :
    doc.get? "trail_fingerprint" = some (.str t.fingerprint) := by
  simp only [fromDict, bind_eq_ok, verify_eq_ok, pure_eq_ok, Except.ok.injEq] at h
  obtain ⟨-, -, -, -, -, -, -, -, -, -, -, -, t, -, -, hcarried, rfl⟩ := h
  exact hcarried

/-- A trail of one event. -/
def sampleTrail : Py AuditTrail :=
  create "trail-1" "e" {
    eventId := "event-0"
    eventType := "engagement.opened"
    occurredAt := "2030-01-01T00:00:00Z"
    actorId := "lead"
    subjectType := "engagement"
    subjectId := "e"
    outcome := "info"
    reasonCode := "opened"
    summary := "opened"
    details := [] }

/-- The texts hashed for it do not collide. -/
theorem sampleTrail_noCollision :
    ∃ t, sampleTrail = .ok t ∧ NoCollision hexOf t.hashed := by
  have htrail : (do
      let t ← sampleTrail.toOption
      return decide ((t.hashed.map hexOf).Nodup)) = some true := by
    decide +kernel
  obtain ⟨t, ht, htrail⟩ := Option.bind_eq_some_iff.mp htrail
  rw [Option.pure_def, Option.some.injEq, decide_eq_true_eq] at htrail
  exact ⟨t, eq_ok_of_toOption ht, noCollision_of_nodup htrail⟩

end AuditTrail

end NightRecon.WhiteEngine.AuditLog
