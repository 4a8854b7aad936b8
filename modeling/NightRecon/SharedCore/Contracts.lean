import NightRecon.Documents
import NightRecon.Lib.Datetime
import NightRecon.Lib.Value

/-!
# Engagement evidence contracts

`nightrecon_shared_core/contracts.py`: the metadata of an engagement, one evidence record, and the
envelope that carries both.  Each is a structure whose fields hold what its constructor checked.

* `EngagementMetadata`, `EvidenceRecord`, `EngagementEnvelope`, with their constructors `make`,
  JSON forms `toDict` and readers `fromDict`;
* `EvidenceRecord.Same`, `EngagementEnvelope.Same` — the language's `==`, under which evidence data
  is compared by `Value.canon`;
* `EngagementEnvelope.fromDict_toDict` — a written envelope reads back as itself when its evidence
  data holds no tuple.
-/

namespace NightRecon.SharedCore.Contracts

open NightRecon.Lib
open NightRecon.Lib.Checks
open NightRecon.Lib.Text
open NightRecon.Lib.Datetime
open NightRecon.Documents

/-! ## Field checks -/

/-- The check `_iso8601`; a timestamp without a timezone passes it. -/
def isIso8601 (value : String) : Prop :=
  requiredText value ∧ (fromisoformat (replaceZ value)).isSome

instance (value : String) : Decidable (isIso8601 value) := inferInstanceAs (Decidable (_ ∧ _))

/-- The check `_optional_text`. -/
def isOptionalText (value : Option String) : Prop := ∀ s ∈ value, requiredText s

instance (value : Option String) : Decidable (isOptionalText value) :=
  inferInstanceAs (Decidable (∀ s ∈ value, requiredText s))

inductive EngagementStatus where
  | planned
  | active
  | paused
  | completed
  | archived
  deriving DecidableEq

def EngagementStatus.text : EngagementStatus → String
  | .planned => "planned"
  | .active => "active"
  | .paused => "paused"
  | .completed => "completed"
  | .archived => "archived"

/-- Membership in `_VALID_ENGAGEMENT_STATUS`. -/
def EngagementStatus.ofText (s : String) : Option EngagementStatus :=
  [planned, active, paused, completed, archived].find? fun status => status.text = s

@[simp] theorem EngagementStatus.ofText_text (s : EngagementStatus) :
    EngagementStatus.ofText s.text = some s := by
  cases s <;> rfl

inductive Night where
  | white
  | blue
  | red
  | purple
  | black
  deriving DecidableEq

def Night.text : Night → String
  | .white => "white"
  | .blue => "blue"
  | .red => "red"
  | .purple => "purple"
  | .black => "black"

/-- Membership in `_VALID_NIGHTS`. -/
def Night.ofText (s : String) : Option Night :=
  [white, blue, red, purple, black].find? fun night => night.text = s

@[simp] theorem Night.ofText_text (n : Night) : Night.ofText n.text = some n := by
  cases n <;> rfl

/-! ### Secret-like keys -/

/-- `_FORBIDDEN_FIELD_FRAGMENTS`. -/
def forbiddenFieldFragments : List String :=
  ["password", "passwd", "secret", "token", "credential", "cookie", "authorization", "api_key",
    "apikey", "private_key", "session"]

/-- The characters of `key.lower()`, as far as they can match an ASCII fragment: besides the ASCII
capitals only the Kelvin sign becomes an ASCII letter of a fragment. -/
def lowered (key : String) : List Char :=
  key.toList.map fun c => if c.toNat = 0x212a then 'k' else lowerChar c

/-- `any(fragment in lowered for fragment in _FORBIDDEN_FIELD_FRAGMENTS)`. -/
def isSecretKey (key : String) : Bool :=
  forbiddenFieldFragments.any fun fragment => decide (fragment.toList <:+: lowered key)

mutual

/-- Dictionaries and lists are searched, tuples are not.
Source: `contracts.py` `_reject_secret_keys`. -/
def rejectSecretKeys : Value → String → Py Unit
  | .dict members, path => rejectSecretMembers members path
  | .table (_ :: _), _ => .error (valueError "evidence data object keys must be strings")
  | .list elems, path => rejectSecretElems elems path 0
  | _, _ => .ok ()

def rejectSecretMembers : List (String × Value) → String → Py Unit
  | [], _ => .ok ()
  | (key, nested) :: members, path => do
      raiseIf (isSecretKey key)
        (valueError ("secret-like evidence field is not allowed: " ++ path ++ "." ++ key))
      rejectSecretKeys nested (path ++ "." ++ key)
      rejectSecretMembers members path

def rejectSecretElems : List Value → String → Nat → Py Unit
  | [], _, _ => .ok ()
  | nested :: elems, path, index => do
      rejectSecretKeys nested (path ++ "[" ++ toString index ++ "]")
      rejectSecretElems elems path (index + 1)

end

/-! ## Metadata -/

/-- The arguments of the metadata constructor. -/
structure MetadataArgs where
  engagementId : String
  name : String
  createdAt : String
  authorizationReference : String
  status : String
  description : Option String
  deriving DecidableEq

/-- Source: `contracts.py` `EngagementMetadata`. -/
structure EngagementMetadata where
  engagementId : String
  name : String
  createdAt : String
  authorizationReference : String
  status : EngagementStatus
  description : Option String
  engagementId_required : requiredText engagementId
  name_required : requiredText name
  createdAt_iso : isIso8601 createdAt
  authorizationReference_required : requiredText authorizationReference
  description_optional : isOptionalText description

/-- Source: `contracts.py` `EngagementMetadata.__post_init__`. -/
def MetadataArgs.make (a : MetadataArgs) : Py EngagementMetadata := do
  let h₁ ← prove (requiredText a.engagementId)
    (valueError "engagement_id must be a nonblank, trimmed string")
  let h₂ ← prove (requiredText a.name) (valueError "name must be a nonblank, trimmed string")
  let h₃ ← prove (isIso8601 a.createdAt) (valueError "created_at must be ISO-8601")
  let h₄ ← prove (requiredText a.authorizationReference)
    (valueError "authorization_reference must be a nonblank, trimmed string")
  let status ← getOrRaise (EngagementStatus.ofText a.status)
    (valueError "unsupported engagement status")
  let h₅ ← prove (isOptionalText a.description)
    (valueError "description must be a nonblank, trimmed string")
  return ⟨a.engagementId, a.name, a.createdAt, a.authorizationReference, status, a.description,
    h₁.down, h₂.down, h₃.down, h₄.down, h₅.down⟩

namespace EngagementMetadata

/-- The arguments the metadata was built from. -/
@[reducible] def args (m : EngagementMetadata) : MetadataArgs :=
  ⟨m.engagementId, m.name, m.createdAt, m.authorizationReference, m.status.text, m.description⟩

theorem make_args (m : EngagementMetadata) : m.args.make = .ok m := by
  unfold MetadataArgs.make
  rw [prove_of m.engagementId_required, ok_bind, prove_of m.name_required, ok_bind,
    prove_of m.createdAt_iso, ok_bind, prove_of m.authorizationReference_required, ok_bind]
  simp only [EngagementStatus.ofText_text, getOrRaise, ok_bind]
  rw [prove_of m.description_optional, ok_bind]
  rfl

theorem args_injective {m m' : EngagementMetadata} (h : m.args = m'.args) : m = m' := by
  have hmake := m.make_args
  rw [h, m'.make_args] at hmake
  exact (Except.ok.inj hmake).symm

/-- Metadata is compared by its fields. -/
instance : DecidableEq EngagementMetadata := fun m m' =>
  decidable_of_iff (m.args = m'.args) ⟨args_injective, fun h => h ▸ rfl⟩

/-- `replace(metadata, status=status)`. -/
def withStatus (m : EngagementMetadata) (status : EngagementStatus) : EngagementMetadata :=
  { m with status := status }

/-- Source: `contracts.py` `EngagementMetadata.to_dict`. -/
def toDict (m : EngagementMetadata) : Json :=
  .obj [("engagement_id", .str m.engagementId),
    ("name", .str m.name),
    ("created_at", .str m.createdAt),
    ("authorization_reference", .str m.authorizationReference),
    ("status", .str m.status.text),
    ("description", .ofOption m.description),
    ("schema_version", .int 1)]

/-- Source: `contracts.py` `EngagementMetadata.from_dict`. -/
def fromDict (payload : Json) : Py EngagementMetadata := do
  let keys ← getOrRaise (keys? payload) (valueError "engagement metadata must be an object")
  require (keys = {"schema_version", "engagement_id", "name", "created_at",
      "authorization_reference", "status", "description"})
    (valueError "engagement metadata schema is not supported")
  let get := getItem payload
  require (equalsOne (← get "schema_version"))
    (valueError "unsupported engagement metadata schema version")
  let args : MetadataArgs := {
    engagementId := ← get "engagement_id" >>= asStr
    name := ← get "name" >>= asStr
    createdAt := ← get "created_at" >>= asStr
    authorizationReference := ← get "authorization_reference" >>= asStr
    status := ← get "status" >>= asStr
    description := ← get "description" >>= asOptionalStr }
  args.make

theorem fromDict_toDict (m : EngagementMetadata) : fromDict m.toDict = .ok m := by
  have hkeys : ["engagement_id", "name", "created_at", "authorization_reference", "status",
      "description", "schema_version"].toFinset = {"schema_version", "engagement_id", "name",
      "created_at", "authorization_reference", "status", "description"} := by decide
  have hmake := m.make_args
  simp only [args] at hmake
  simp only [fromDict, toDict, keys?, List.map_cons, List.map_nil, hkeys, getItem, getOrRaise,
    ok_bind, require_of, Json.get?, List.find?_cons, String.reduceEq, decide_false, decide_true,
    Option.map_some, equalsOne, asStr, asOptionalStr_ofOption, hmake]

end EngagementMetadata

/-! ## Evidence records -/

/-- The arguments of the record constructor. -/
structure RecordArgs where
  engagementId : String
  evidenceId : String
  sourceNight : String
  evidenceType : String
  observedAt : String
  provenance : String
  data : List (String × Value)
  limitations : List String

/-- Source: `contracts.py` `EvidenceRecord`. -/
structure EvidenceRecord where
  engagementId : String
  evidenceId : String
  sourceNight : Night
  evidenceType : String
  observedAt : String
  provenance : String
  data : List (String × Value)
  limitations : List String
  engagementId_required : requiredText engagementId
  evidenceId_required : requiredText evidenceId
  evidenceType_required : requiredText evidenceType
  provenance_required : requiredText provenance
  observedAt_iso : isIso8601 observedAt
  data_secretFree : (rejectSecretKeys (.dict data) "$").toOption.isSome
  limitations_required : ∀ l ∈ limitations, requiredText l

/-- Source: `contracts.py` `EvidenceRecord.__post_init__`. -/
def RecordArgs.make (a : RecordArgs) : Py EvidenceRecord := do
  let h₁ ← prove (requiredText a.engagementId)
    (valueError "engagement_id must be a nonblank, trimmed string")
  let h₂ ← prove (requiredText a.evidenceId)
    (valueError "evidence_id must be a nonblank, trimmed string")
  let h₃ ← prove (requiredText a.evidenceType)
    (valueError "evidence_type must be a nonblank, trimmed string")
  let h₄ ← prove (requiredText a.provenance)
    (valueError "provenance must be a nonblank, trimmed string")
  let sourceNight ← getOrRaise (Night.ofText a.sourceNight)
    (valueError "source_night must identify a known Night")
  let h₅ ← prove (isIso8601 a.observedAt) (valueError "observed_at must be ISO-8601")
  let h₆ ← attempt (rejectSecretKeys (.dict a.data) "$")
  let h₇ ← prove (∀ l ∈ a.limitations, requiredText l)
    (valueError "limitation must be a nonblank, trimmed string")
  return ⟨a.engagementId, a.evidenceId, sourceNight, a.evidenceType, a.observedAt, a.provenance,
    a.data, a.limitations, h₁.down, h₂.down, h₃.down, h₄.down, h₅.down, h₆.down, h₇.down⟩

namespace EvidenceRecord

/-- The arguments the record was built from. -/
@[reducible] def args (r : EvidenceRecord) : RecordArgs :=
  ⟨r.engagementId, r.evidenceId, r.sourceNight.text, r.evidenceType, r.observedAt, r.provenance,
    r.data, r.limitations⟩

theorem make_args (r : EvidenceRecord) : r.args.make = .ok r := by
  unfold RecordArgs.make
  rw [prove_of r.engagementId_required, ok_bind, prove_of r.evidenceId_required, ok_bind,
    prove_of r.evidenceType_required, ok_bind, prove_of r.provenance_required, ok_bind]
  simp only [Night.ofText_text, getOrRaise, ok_bind]
  rw [prove_of r.observedAt_iso, ok_bind, attempt_of r.data_secretFree, ok_bind,
    prove_of r.limitations_required, ok_bind]
  rfl

/-- Everything but the evidence data. -/
def header (r : EvidenceRecord) : List String × Night × List String :=
  ([r.engagementId, r.evidenceId, r.evidenceType, r.observedAt, r.provenance], r.sourceNight,
    r.limitations)

/-- The language's `==` on records: evidence data is compared as values. -/
def Same (r r' : EvidenceRecord) : Prop :=
  r.header = r'.header ∧ Value.canon (.dict r.data) = Value.canon (.dict r'.data)

instance (r r' : EvidenceRecord) : Decidable (r.Same r') := inferInstanceAs (Decidable (_ ∧ _))

theorem Same.refl (r : EvidenceRecord) : r.Same r := ⟨rfl, rfl⟩

theorem Same.symm {r r' : EvidenceRecord} (h : r.Same r') : r'.Same r := ⟨h.1.symm, h.2.symm⟩

theorem Same.trans {r r' r'' : EvidenceRecord} (h : r.Same r') (h' : r'.Same r'') : r.Same r'' :=
  ⟨h.1.trans h'.1, h.2.trans h'.2⟩

/-- Source: `contracts.py` `EvidenceRecord.to_dict`. -/
def toDict (r : EvidenceRecord) : Json :=
  .obj [("engagement_id", .str r.engagementId),
    ("evidence_id", .str r.evidenceId),
    ("source_night", .str r.sourceNight.text),
    ("evidence_type", .str r.evidenceType),
    ("observed_at", .str r.observedAt),
    ("provenance", .str r.provenance),
    ("data", Value.toJson (.dict r.data)),
    ("limitations", .strings r.limitations),
    ("schema_version", .int 1)]

/-- `data`, which must be an object. -/
def asData : Json → Py (List (String × Value))
  | .obj members => .ok (Value.membersOfJson members)
  | _ => .error (valueError "data must be an object")

/-- `limitations`, which must be a list of strings. -/
def asLimitations : Json → Py (List String)
  | .arr elems => elems.mapM asStr
  | _ => .error (valueError "limitations must be a list or tuple of strings")

@[simp] theorem asLimitations_strings (l : List String) : asLimitations (.strings l) = .ok l := by
  simp only [asLimitations, Json.strings, mapM_eq_ok]
  rw [List.forall₂_map_left_iff]
  exact List.forall₂_same.mpr fun _ _ => rfl

/-- Source: `contracts.py` `EvidenceRecord.from_dict`. -/
def fromDict (payload : Json) : Py EvidenceRecord := do
  let keys ← getOrRaise (keys? payload) (valueError "evidence record must be an object")
  require (keys = {"schema_version", "engagement_id", "evidence_id", "source_night",
      "evidence_type", "observed_at", "provenance", "data", "limitations"})
    (valueError "evidence record schema is not supported")
  let get := getItem payload
  let limitations ← get "limitations" >>= asLimitations
  require (equalsOne (← get "schema_version")) (valueError "unsupported evidence schema version")
  let args : RecordArgs := {
    engagementId := ← get "engagement_id" >>= asStr
    evidenceId := ← get "evidence_id" >>= asStr
    sourceNight := ← get "source_night" >>= asStr
    evidenceType := ← get "evidence_type" >>= asStr
    observedAt := ← get "observed_at" >>= asStr
    provenance := ← get "provenance" >>= asStr
    data := ← get "data" >>= asData
    limitations := limitations }
  args.make

/-- The evidence data holds no tuple. -/
def TupleFree (r : EvidenceRecord) : Prop := Value.membersTupleFree r.data = true

/-- **A record without tuples reads back as itself.** -/
theorem fromDict_toDict {r : EvidenceRecord} (h : r.TupleFree) : fromDict r.toDict = .ok r := by
  have hkeys : ["engagement_id", "evidence_id", "source_night", "evidence_type", "observed_at",
      "provenance", "data", "limitations", "schema_version"].toFinset = {"schema_version",
      "engagement_id", "evidence_id", "source_night", "evidence_type", "observed_at", "provenance",
      "data", "limitations"} := by decide
  have hdata : asData (Value.toJson (.dict r.data)) = .ok r.data := by
    rw [Value.toJson, asData, Value.membersOfJson_membersToJson r.data h]
  have hmake := r.make_args
  simp only [args] at hmake
  simp only [fromDict, toDict, keys?, List.map_cons, List.map_nil, hkeys, getItem, getOrRaise,
    ok_bind, require_of, Json.get?, List.find?_cons, String.reduceEq, decide_false, decide_true,
    Option.map_some, equalsOne, asStr, asLimitations_strings, hdata, hmake]

end EvidenceRecord

/-! ## Envelopes -/

/-- Source: `contracts.py` `EngagementEnvelope`. -/
structure EngagementEnvelope where
  engagementId : String
  records : List EvidenceRecord
  metadata : Option EngagementMetadata
  engagementId_required : requiredText engagementId
  records_belong : ∀ r ∈ records, r.engagementId = engagementId
  metadata_belongs : ∀ m ∈ metadata, m.engagementId = engagementId
  ids_nodup : (records.map (·.evidenceId)).Nodup

namespace EngagementEnvelope

/-- Source: `contracts.py` `EngagementEnvelope.__post_init__`. -/
def make (engagementId : String) (records : List EvidenceRecord)
    (metadata : Option EngagementMetadata) : Py EngagementEnvelope := do
  let h₁ ← prove (requiredText engagementId)
    (valueError "engagement_id must be a nonblank, trimmed string")
  let h₂ ← prove (∀ r ∈ records, r.engagementId = engagementId)
    (valueError "all evidence records must belong to the envelope engagement")
  let h₃ ← prove (∀ m ∈ metadata, m.engagementId = engagementId)
    (valueError "engagement metadata must belong to the envelope engagement")
  let h₄ ← prove (records.map (·.evidenceId)).Nodup
    (valueError "evidence_id values must be unique within an engagement envelope")
  return ⟨engagementId, records, metadata, h₁.down, h₂.down, h₃.down, h₄.down⟩

theorem make_fields (e : EngagementEnvelope) :
    make e.engagementId e.records e.metadata = .ok e := by
  unfold make
  rw [prove_of e.engagementId_required, ok_bind, prove_of e.records_belong, ok_bind,
    prove_of e.metadata_belongs, ok_bind, prove_of e.ids_nodup, ok_bind]
  rfl

/-- The language's `==` on envelopes. -/
def Same (e e' : EngagementEnvelope) : Prop :=
  e.engagementId = e'.engagementId ∧ List.Forall₂ EvidenceRecord.Same e.records e'.records ∧
    e.metadata = e'.metadata

instance (e e' : EngagementEnvelope) : Decidable (e.Same e') :=
  inferInstanceAs (Decidable (_ ∧ _ ∧ _))

/-- Source: `contracts.py` `EngagementEnvelope.to_dict`. -/
def toDict (e : EngagementEnvelope) : Json :=
  .obj [("schema_version", .int 1),
    ("engagement_id", .str e.engagementId),
    ("metadata", (e.metadata.map EngagementMetadata.toDict).getD .null),
    ("records", .arr (e.records.map EvidenceRecord.toDict))]

/-- Source: `contracts.py` `EngagementEnvelope.from_dict`. -/
def fromDict (payload : Json) : Py EngagementEnvelope := do
  let keys ← getOrRaise (keys? payload) (valueError "engagement envelope must be an object")
  require (keys = {"schema_version", "engagement_id", "records"} ∨
      keys = {"schema_version", "engagement_id", "metadata", "records"})
    (valueError "engagement envelope schema is not supported")
  let items ← asArr (payload.get? "records") "records must be a list"
  let metadata ← match (payload.get? "metadata").getD .null with
    | .null => pure none
    | .obj members => some <$> EngagementMetadata.fromDict (.obj members)
    | _ => throw (valueError "metadata must be an object or null")
  let records ← items.mapM EvidenceRecord.fromDict
  require (equalsOne (← getItem payload "schema_version"))
    (valueError "unsupported engagement schema version")
  make (← getItem payload "engagement_id" >>= asStr) records metadata

/-- No record's data holds a tuple. -/
def TupleFree (e : EngagementEnvelope) : Prop := ∀ r ∈ e.records, r.TupleFree

/-- **An envelope without tuples reads back as itself.** -/
theorem fromDict_toDict {e : EngagementEnvelope} (h : e.TupleFree) :
    fromDict e.toDict = .ok e := by
  have hkeys : ["schema_version", "engagement_id", "metadata", "records"].toFinset =
      {"schema_version", "engagement_id", "metadata", "records"} := by decide
  have hrecords : (e.records.map EvidenceRecord.toDict).mapM EvidenceRecord.fromDict =
      .ok e.records := by
    rw [mapM_eq_ok, List.forall₂_map_left_iff]
    exact List.forall₂_same.mpr fun r hr => EvidenceRecord.fromDict_toDict (h r hr)
  have hmake := e.make_fields
  simp only [fromDict, toDict, keys?, List.map_cons, List.map_nil, hkeys, getItem, getOrRaise,
    ok_bind, require_of, or_true, asArr, Json.get?, List.find?_cons, String.reduceEq, decide_false,
    decide_true, Option.map_some, pure_eq_ok, equalsOne, asStr, hrecords, Option.getD_some]
  cases hm : e.metadata with
  | none =>
    rw [hm] at hmake
    simpa using hmake
  | some m =>
    rw [hm] at hmake
    have hread := m.fromDict_toDict
    simp only [EngagementMetadata.toDict] at hread
    simpa [EngagementMetadata.toDict, hread, Functor.map, Except.map] using hmake

end EngagementEnvelope

end NightRecon.SharedCore.Contracts
