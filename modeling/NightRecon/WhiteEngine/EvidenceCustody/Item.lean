import NightRecon.Lib.Commitment
import NightRecon.SharedCore.RecordText
import NightRecon.WhiteEngine.EngagementDomain

/-!
# Evidence items under custody

`nightrecon_white_engine/evidence_custody.py`: one shared-core evidence record with what custody
adds to it.

* `CustodiedEvidence` — an item; `ItemArgs.make` — its constructor, `make_args`;
* `CustodiedEvidence.recordFingerprint` — the digest of the record's JSON text, which the
  constructor fills in or compares;
* `CustodiedEvidence.Same` — the language's `==`;
* `CustodiedEvidence.fromDict_of` — an item whose evidence data is a JSON value reads back as an
  equal item with the same fingerprint;
* `CustodiedEvidence.same_of_hashed` — the text hashed for the fingerprint binds the item.
-/

namespace NightRecon.WhiteEngine.EvidenceCustody

open NightRecon.Lib
open NightRecon.Lib.Checks
open NightRecon.Lib.Datetime
open NightRecon.Lib.Json
open NightRecon.Lib.Sha256
open NightRecon.Lib.Text
open NightRecon.Documents
open NightRecon.DocumentMembers
open NightRecon.SharedCore.Contracts
open NightRecon.WhiteEngine.EngagementDomain
open NightRecon.WhiteEngine.Fields
open NightRecon.WhiteEngine.Reading

def custodyError (message : String) : Exn := ⟨.evidenceCustodyError, message⟩

/-- `try: … except ValueError as exc: raise EvidenceCustodyError(str(exc)) from exc`. -/
def rewrap {α : Type} : Py α → Py α
  | .ok a => .ok a
  | .error e => .error (if e.cls.isValueError then custodyError e.message else e)

@[simp] theorem rewrap_ok {α : Type} (a : α) : rewrap (.ok a) = .ok a := rfl

/-- A sorted tuple of identifiers without duplicates. -/
abbrev Ids := SortedUnique (fun s => isIdentifier s = true) 0

/-- Source: `evidence_custody.py` `_sorted_unique_ids`. -/
def sortedUniqueIds (values : List String) (field : String) : Py Ids :=
  sortedUnique .evidenceCustodyError (fun v => checkIdentifier .evidenceCustodyError v field) values
    field 0

/-- Identifiers in order are rebuilt from their own values. -/
theorem sortedUniqueIds_values (ids : Ids) (field : String) :
    sortedUniqueIds ids.values field = .ok ids :=
  sortedUnique_values (fun _ h => checkIdentifier_of h) ids field

/-- Source: `evidence_custody.py` `_record_fingerprint`. -/
def recordFingerprint (r : EvidenceRecord) : String := hexOf (textBy asciiEscape r.toDict)

/-! ## Items -/

/-- The arguments of the item constructor. -/
structure ItemArgs where
  schemaVersion : SchemaVersion
  record : EvidenceRecord
  classification : String
  retainedFrom : String
  retainUntil : String
  exportAllowed : Bool
  parentEvidenceIds : List String
  recordFingerprint : String

/-- Source: `evidence_custody.py` `CustodiedEvidence`. -/
structure CustodiedEvidence where
  schemaVersion : SchemaVersion
  record : EvidenceRecord
  classification : Classification
  retainedFrom : Timestamp
  retainUntil : Timestamp
  exportAllowed : Bool
  parentEvidenceIds : Ids
  window : retainedFrom.time < retainUntil.time
  not_own_parent : record.evidenceId ∉ parentEvidenceIds.values

/-- The results of `retention_status`. -/
inductive RetentionStatus where
  | expired
  | retained
  deriving DecidableEq

/-- The check of a record fingerprint that was given. -/
def checkRecordFingerprint (given expected : String) : Py Unit :=
  if given = "" then .ok ()
  else do
    let _ ← checkSha256 .evidenceCustodyError given "record_fingerprint"
    raiseIf (given ≠ expected) (custodyError "evidence record fingerprint verification failed")

/-- Source: `evidence_custody.py` `CustodiedEvidence.__post_init__`. -/
def ItemArgs.make (a : ItemArgs) : Py CustodiedEvidence := do
  let classification ← getOrRaise (Classification.ofText a.classification)
    (custodyError "unsupported evidence classification")
  let retainedFrom ← iso8601 .evidenceCustodyError a.retainedFrom "retained_from"
  let retainUntil ← iso8601 .evidenceCustodyError a.retainUntil "retain_until"
  let h₁ ← prove (retainedFrom.time < retainUntil.time)
    (custodyError "retain_until must be later than retained_from")
  let parents ← sortedUniqueIds a.parentEvidenceIds "parent_evidence_ids"
  let h₂ ← prove (a.record.evidenceId ∉ parents.values)
    (custodyError "evidence cannot derive from itself")
  checkRecordFingerprint a.recordFingerprint (EvidenceCustody.recordFingerprint a.record)
  return ⟨a.schemaVersion, a.record, classification, retainedFrom, retainUntil, a.exportAllowed,
    parents, earlier_of h₁, h₂.down⟩

namespace CustodiedEvidence

/-- Source: `evidence_custody.py` `CustodiedEvidence.evidence_id`. -/
def evidenceId (i : CustodiedEvidence) : String := i.record.evidenceId

/-- The field `record_fingerprint`. -/
def recordFingerprint (i : CustodiedEvidence) : String :=
  EvidenceCustody.recordFingerprint i.record

theorem isSha256Hex_recordFingerprint (r : EvidenceRecord) :
    isSha256Hex (EvidenceCustody.recordFingerprint r) := isSha256Hex_hexOf _

/-- The arguments an item was built from. -/
@[reducible] def args (i : CustodiedEvidence) : ItemArgs where
  schemaVersion := i.schemaVersion
  record := i.record
  classification := i.classification.text
  retainedFrom := i.retainedFrom.text
  retainUntil := i.retainUntil.text
  exportAllowed := i.exportAllowed
  parentEvidenceIds := i.parentEvidenceIds.values
  recordFingerprint := i.recordFingerprint

theorem checkRecordFingerprint_self (r : EvidenceRecord) :
    checkRecordFingerprint (EvidenceCustody.recordFingerprint r)
      (EvidenceCustody.recordFingerprint r) = .ok () := by
  have hhex := isSha256Hex_recordFingerprint r
  unfold checkRecordFingerprint
  split
  · rfl
  · rw [checkSha256_of hhex, ok_bind, raiseIf_of_not (not_not.mpr rfl)]

/-- **An item is rebuilt from its own fields.** -/
theorem make_args (i : CustodiedEvidence) : i.args.make = .ok i := by
  unfold ItemArgs.make
  dsimp only
  rw [Classification.ofText_text, getOrRaise_some, ok_bind, iso8601_text, ok_bind, iso8601_text,
    ok_bind, prove_of i.window, ok_bind, sortedUniqueIds_values, ok_bind,
    prove_of i.not_own_parent, ok_bind, recordFingerprint, checkRecordFingerprint_self, ok_bind]
  rfl

/-- Everything the language's `==` compares but the record; versions that equal `1` are equal. -/
def header (i : CustodiedEvidence) : Classification × String × String × Bool × List String × String :=
  (i.classification, i.retainedFrom.text, i.retainUntil.text, i.exportAllowed,
    i.parentEvidenceIds.values, i.recordFingerprint)

/-- The language's `==` on items. -/
def Same (i i' : CustodiedEvidence) : Prop := i.record.Same i'.record ∧ i.header = i'.header

instance (i i' : CustodiedEvidence) : Decidable (i.Same i') := inferInstanceAs (Decidable (_ ∧ _))

theorem Same.refl (i : CustodiedEvidence) : i.Same i := ⟨.refl _, rfl⟩

theorem Same.symm {i i' : CustodiedEvidence} (h : i.Same i') : i'.Same i := ⟨h.1.symm, h.2.symm⟩

theorem Same.trans {i i' i'' : CustodiedEvidence} (h : i.Same i') (h' : i'.Same i'') :
    i.Same i'' :=
  ⟨h.1.trans h'.1, h.2.trans h'.2⟩

theorem Same.evidenceId {i i' : CustodiedEvidence} (h : i.Same i') :
    i.evidenceId = i'.evidenceId := by
  have hheader := h.1.1
  simp only [EvidenceRecord.header, Prod.mk.injEq, List.cons.injEq] at hheader
  exact hheader.1.2.1

/-- Source: `evidence_custody.py` `CustodiedEvidence.retention_status`. -/
def retentionStatus (i : CustodiedEvidence) (t : Timestamp) : RetentionStatus :=
  if i.retainUntil.time ≤ t.time then .expired else .retained

theorem retentionStatus_eq_expired {i : CustodiedEvidence} {t : Timestamp} :
    i.retentionStatus t = .expired ↔ i.retainUntil.time ≤ t.time := by
  unfold retentionStatus
  split <;> simp [*]

/-! ### Documents -/

/-- What is hashed for the fingerprint of an item. -/
def payload (i : CustodiedEvidence) : List (String × Json) :=
  [("schema_version", i.schemaVersion.toJson),
    ("record", i.record.toDict),
    ("classification", .str i.classification.text),
    ("retained_from", .str i.retainedFrom.text),
    ("retain_until", .str i.retainUntil.text),
    ("export_allowed", .bool i.exportAllowed),
    ("parent_evidence_ids", .strings i.parentEvidenceIds.values),
    ("record_fingerprint", .str i.recordFingerprint)]

/-- Source: `evidence_custody.py` `CustodiedEvidence.fingerprint`. -/
def fingerprint (i : CustodiedEvidence) : String := Fields.fingerprint (.obj i.payload)

/-- The payload with the fingerprint. -/
def members (i : CustodiedEvidence) : List (String × Json) :=
  i.payload ++ [("custodied_evidence_fingerprint", .str i.fingerprint)]

/-- Source: `evidence_custody.py` `CustodiedEvidence.to_dict`. -/
def toDict (i : CustodiedEvidence) : Json := .obj i.members

/-- The keys of an item's document. -/
def required : List String :=
  ["schema_version", "record", "classification", "retained_from", "retain_until",
    "export_allowed", "parent_evidence_ids", "record_fingerprint",
    "custodied_evidence_fingerprint"]

/-- The arguments `from_dict` hands to the constructor. -/
def readArgs (doc : Json) : Py ItemArgs := do
  let get := getItem doc
  let text := fun field => get field >>= readText .evidenceCustodyError field
  let recordDoc ← get "record"
  require (isObject recordDoc = true) (custodyError "record must be an object")
  let parents ← get "parent_evidence_ids" >>= readTexts .evidenceCustodyError
    "parent_evidence_ids" (custodyError "parent_evidence_ids must be a list")
  let record ← rewrap (EvidenceRecord.fromDict recordDoc)
  return {
    schemaVersion := ← get "schema_version" >>=
      SchemaVersion.ofJson (custodyError "unsupported custodied evidence schema")
    record := record
    classification := ← get "classification" >>=
      readStr (custodyError "unsupported evidence classification")
    retainedFrom := ← text "retained_from"
    retainUntil := ← text "retain_until"
    exportAllowed := ← get "export_allowed" >>=
      readBool (custodyError "export_allowed must be boolean")
    parentEvidenceIds := parents
    recordFingerprint := ← text "record_fingerprint" }

/-- Source: `evidence_custody.py` `CustodiedEvidence.from_dict`. -/
def fromDict (doc : Json) : Py CustodiedEvidence := do
  requireKeys doc required (custodyError "custodied evidence schema is not supported")
  let args ← readArgs doc
  let item ← args.make
  verify doc "custodied_evidence_fingerprint" item.fingerprint
    (custodyError "custodied evidence fingerprint verification failed")
  return item

theorem required_nodup : required.Nodup := by decide

theorem map_members (i : CustodiedEvidence) : i.members.map (·.1) = required := rfl

/-- The evidence data of the item is a JSON value. -/
def IsJson (i : CustodiedEvidence) : Prop := i.record.IsJson

theorem valid_payload {i : CustodiedEvidence} (h : i.IsJson) : valid (.obj i.payload) := by
  have hrecord := EvidenceRecord.valid_toDict h
  refine ⟨required_nodup.sublist (List.sublist_append_left _ ["custodied_evidence_fingerprint"]), ?_⟩
  simp only [payload, membersValid, hrecord, SchemaVersion.valid_toJson, valid_strings, valid,
    and_self]

theorem valid_toDict {i : CustodiedEvidence} (h : i.IsJson) : valid i.toDict := by
  have hrecord := EvidenceRecord.valid_toDict h
  refine ⟨required_nodup, ?_⟩
  simp only [members, payload, List.cons_append, List.nil_append, membersValid, hrecord,
    SchemaVersion.valid_toJson, valid_strings, valid, and_self]

/-! ### Reading back -/

/-- The item that is read back from the text of an item. -/
def reread (i : CustodiedEvidence) (h : i.IsJson) : CustodiedEvidence :=
  { i with record := i.record.reread h }

theorem recordFingerprint_reread {i : CustodiedEvidence} (h : i.IsJson) :
    (i.reread h).recordFingerprint = i.recordFingerprint :=
  congrArg hexOf (EvidenceRecord.textBy_reread asciiEscape h)

/-- **What is read back is equal to what was written.** -/
theorem reread_same {i : CustodiedEvidence} (h : i.IsJson) : (i.reread h).Same i := by
  refine ⟨EvidenceRecord.reread_same h, ?_⟩
  simp only [header, recordFingerprint_reread]
  rfl

/-- The text hashed for the fingerprint of an item. -/
def hashed (i : CustodiedEvidence) : List Char := chars (.obj i.payload)

theorem hashed_reread {i : CustodiedEvidence} (h : i.IsJson) : (i.reread h).hashed = i.hashed := by
  unfold hashed
  rw [← textBy_escapeChar, ← textBy_escapeChar]
  apply textBy_obj_congr
  simp only [payload, memberTexts, recordFingerprint_reread]
  rw [reread, EvidenceRecord.textBy_reread escapeChar h]

/-- What is read back has the fingerprint of what was written. -/
theorem fingerprint_reread {i : CustodiedEvidence} (h : i.IsJson) :
    (i.reread h).fingerprint = i.fingerprint :=
  congrArg hexOf (hashed_reread h)

/-- **An item is read from any document with its members.** -/
theorem fromDict_of {doc : Json} {i : CustodiedEvidence} (h : i.IsJson)
    (hdoc : HasExactly doc (normalMembers i.members)) : fromDict doc = .ok (i.reread h) := by
  have hkeys : (normalMembers i.members).map (·.1) = required := rfl
  have hrecord : EvidenceRecord.fromDict (normal i.record.toDict) = .ok (i.record.reread h) :=
    EvidenceRecord.fromDict_of h (hasExactly_normal (EvidenceRecord.valid_toDict h).1)
  have hobject : isObject (normal i.record.toDict) = true := rfl
  have hmake := make_args (i.reread h)
  rw [args, recordFingerprint_reread] at hmake
  have hhas := hdoc.has
  simp only [normalMembers, members, payload, List.cons_append, List.nil_append, List.map_cons,
    List.map_nil, SchemaVersion.normal_toJson, normal_strings, has_cons, has_nil, and_true] at hhas
  obtain ⟨h₁, h₂, h₃, h₄, h₅, h₆, h₇, h₈, h₉⟩ := hhas
  simp only [normal] at h₃ h₄ h₅ h₆ h₈ h₉
  have hread : readArgs doc = .ok { (i.reread h).args with
      recordFingerprint := i.recordFingerprint } := by
    simp only [readArgs, getItem, h₁, h₂, h₃, h₄, h₅, h₆, h₇, h₈, getOrRaise_some, ok_bind,
      require_of hobject, readTexts_strings, hrecord, rewrap_ok, SchemaVersion.ofJson_toJson,
      readStr_str, readText_str, readBool_bool, pure_eq_ok]
    rfl
  rw [← fingerprint_reread h] at h₉
  rw [fromDict, requireKeys_of hdoc hkeys, ok_bind, hread, ok_bind, hmake, ok_bind, verify_of h₉]
  rfl

/-! ### Binding -/

/-- **The text hashed for an item's fingerprint binds the item.** -/
theorem same_of_hashed {i i' : CustodiedEvidence} (h : i.IsJson) (h' : i'.IsJson)
    (hhashed : i.hashed = i'.hashed) : i.Same i' := by
  have hnormal := normal_eq_of_write_eq (valid_payload h) (valid_payload h')
    (congrArg String.ofList hhashed)
  have hget := get?_normal_eq (valid_payload h).1 (valid_payload h').1 hnormal
  have h₂ := hget "record"
  have h₃ := hget "classification"
  have h₄ := hget "retained_from"
  have h₅ := hget "retain_until"
  have h₆ := hget "export_allowed"
  have h₇ := hget "parent_evidence_ids"
  have h₈ := hget "record_fingerprint"
  simp only [payload, get?, List.find?_cons, String.reduceEq, decide_false, decide_true,
    Option.map_some, Option.some.injEq, normal_strings] at h₂ h₃ h₄ h₅ h₆ h₇ h₈
  simp only [normal, str.injEq, bool.injEq] at h₃ h₄ h₅ h₆ h₈
  refine ⟨EvidenceRecord.same_of_normal_eq h h' h₂, ?_⟩
  simp only [header, Classification.text_injective h₃, h₄, h₅, h₆, strings_injective h₇, h₈]

end CustodiedEvidence

end NightRecon.WhiteEngine.EvidenceCustody
