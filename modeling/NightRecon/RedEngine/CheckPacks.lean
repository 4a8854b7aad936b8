import NightRecon.Documents
import NightRecon.Lib.JsonRoundTrip

/-!
# Declarative check packs

`nightrecon_red_engine/check_packs.py`: a check pack is read from JSON, and its checks compare what
was observed of a service with the values the pack was written with.

* `Observed` — what a field holds; `Observed.toJson` — the JSON value it is written as;
* `resolveField`, `conditionMatches`, `DeclarativeAssessmentCheck.run` — the evaluation;
* `loadCheckPackJson` — the reader;
* `Says` — what an operator says of two JSON values; `Slips` — where the code decides otherwise,
  because a tuple equals no list and `True` equals `1`;
* `decides_iff` — one condition, and `checks_decide_iff` the checks of a pack.

`floatIs` tells the float literals that equal an integer, `repr` is the text of a string in a tuple
that is shown, and `reprJson` the text of a value in a message.
-/

namespace NightRecon.RedEngine.CheckPacks

open NightRecon.Lib
open NightRecon.Lib.Checks
open NightRecon.Lib.Text
open NightRecon.Documents

def checkPackSchemaVersion : Int := 1

/-! ## Fields and operators -/

/-- Source: `check_packs.py` `_SUPPORTED_FIELDS`. -/
inductive Field where
  | target
  | address
  | port
  | service
  | banner
  | httpStatus
  | httpServer
  | httpHeaders
  | securityHeadersPresent
  | securityHeadersMissing
  | tlsVersion
  | tlsCipher
  | tlsCertificateSubject
  | tlsCertificateIssuer
  | tlsCertificateNotBefore
  | tlsCertificateNotAfter
  | tlsCertificateSans
  | tlsCertificateSha256
  | softwareProduct
  | softwareVersion
  | softwareSource
  | softwareEvidence
  deriving DecidableEq

/-- The fields by their names. -/
def supportedFields : List (String × Field) :=
  [("target", .target), ("address", .address), ("port", .port), ("service", .service),
    ("banner", .banner), ("http_status", .httpStatus), ("http_server", .httpServer),
    ("http_headers", .httpHeaders), ("security_headers_present", .securityHeadersPresent),
    ("security_headers_missing", .securityHeadersMissing), ("tls_version", .tlsVersion),
    ("tls_cipher", .tlsCipher), ("tls_certificate_subject", .tlsCertificateSubject),
    ("tls_certificate_issuer", .tlsCertificateIssuer),
    ("tls_certificate_not_before", .tlsCertificateNotBefore),
    ("tls_certificate_not_after", .tlsCertificateNotAfter),
    ("tls_certificate_sans", .tlsCertificateSans),
    ("tls_certificate_sha256", .tlsCertificateSha256), ("software.product", .softwareProduct),
    ("software.version", .softwareVersion), ("software.source", .softwareSource),
    ("software.evidence", .softwareEvidence)]

/-- Source: `check_packs.py` `_SUPPORTED_OPERATORS`. -/
inductive Operator where
  | equals
  | notEquals
  | contains
  | notContains
  | present
  | missing
  | startsWith
  | endsWith
  | isIn
  deriving DecidableEq

/-- The operators by their names. -/
def supportedOperators : List (String × Operator) :=
  [("equals", .equals), ("not_equals", .notEquals), ("contains", .contains),
    ("not_contains", .notContains), ("present", .present), ("missing", .missing),
    ("starts_with", .startsWith), ("ends_with", .endsWith), ("in", .isIn)]

/-! ## What is observed -/

/-- Source: `software_identity.py` `SoftwareIdentity`. -/
structure SoftwareIdentity where
  product : String
  version : String
  source : String
  evidence : String

/-- What is read of a service.  Source: `service_detection.py` `ServiceDetectionResult`. -/
structure ServiceDetectionResult where
  banner : String
  httpStatus : String
  httpServer : String
  httpHeaders : List (String × String)
  securityHeadersPresent : List String
  securityHeadersMissing : List String
  softwareIdentity : Option SoftwareIdentity
  tlsVersion : String
  tlsCipher : String
  tlsCertificateSubject : String
  tlsCertificateIssuer : String
  tlsCertificateNotBefore : String
  tlsCertificateNotAfter : String
  tlsCertificateSans : List String
  tlsCertificateSha256 : String

/-- What is read of a context, with the port it checks.
Source: `assessment_engine.py` `AssessmentContext`. -/
structure AssessmentContext where
  target : String
  address : String
  port : Int
  service : String
  serviceResult : Option ServiceDetectionResult
  port_range : 1 ≤ port ∧ port ≤ 65535

/-- The value of a field: nothing, an integer, a text, a tuple of texts or a tuple of pairs. -/
inductive Observed where
  | absent
  | integer (n : Int)
  | text (s : String)
  | texts (l : List String)
  | pairs (l : List (String × String))

/-- The field's value, written as a JSON value. -/
def Observed.toJson : Observed → Json
  | .absent => .null
  | .integer n => .int n
  | .text s => .str s
  | .texts l => .strings l
  | .pairs l => .arr (l.map fun p => .strings [p.1, p.2])

/-- An attribute of the service result, nothing without one. -/
def ofService (context : AssessmentContext) (read : ServiceDetectionResult → Observed) :
    Observed :=
  match context.serviceResult with
  | some result => read result
  | none => .absent

/-- An attribute of the software identity, nothing without one. -/
def ofSoftware (context : AssessmentContext) (read : SoftwareIdentity → String) : Observed :=
  ofService context fun result =>
    match result.softwareIdentity with
    | some software => .text (read software)
    | none => .absent

/-- Source: `check_packs.py` `_resolve_field`. -/
def resolveField (field : Field) (context : AssessmentContext) : Observed :=
  match field with
  | .target => .text context.target
  | .address => .text context.address
  | .port => .integer context.port
  | .service => .text context.service
  | .banner => ofService context fun result => .text result.banner
  | .httpStatus => ofService context fun result => .text result.httpStatus
  | .httpServer => ofService context fun result => .text result.httpServer
  | .httpHeaders => ofService context fun result => .pairs result.httpHeaders
  | .securityHeadersPresent => ofService context fun result =>
      .texts result.securityHeadersPresent
  | .securityHeadersMissing => ofService context fun result =>
      .texts result.securityHeadersMissing
  | .tlsVersion => ofService context fun result => .text result.tlsVersion
  | .tlsCipher => ofService context fun result => .text result.tlsCipher
  | .tlsCertificateSubject => ofService context fun result => .text result.tlsCertificateSubject
  | .tlsCertificateIssuer => ofService context fun result => .text result.tlsCertificateIssuer
  | .tlsCertificateNotBefore => ofService context fun result =>
      .text result.tlsCertificateNotBefore
  | .tlsCertificateNotAfter => ofService context fun result =>
      .text result.tlsCertificateNotAfter
  | .tlsCertificateSans => ofService context fun result => .texts result.tlsCertificateSans
  | .tlsCertificateSha256 => ofService context fun result => .text result.tlsCertificateSha256
  | .softwareProduct => ofSoftware context (·.product)
  | .softwareVersion => ofSoftware context (·.version)
  | .softwareSource => ofSoftware context (·.source)
  | .softwareEvidence => ofSoftware context (·.evidence)

/-! ## Conditions -/

/-- A condition; a value that is not given is `None`, which is the JSON `null`.
Source: `check_packs.py` `DeclarativeCondition`. -/
structure DeclarativeCondition where
  field : Field
  operator : Operator
  value : Json

section Evaluation

variable (floatIs : Int → String → Bool) (repr : String → String)

/-- `observed == expected`, where `expected` was read from JSON: a list equals no tuple, and a truth
value equals an integer. -/
def equal : Observed → Json → Bool
  | .absent, .null => true
  | .integer n, .int m => n = m
  | .integer n, .bool b => n = b.toInt
  | .integer n, .float literal => floatIs n literal
  | .text s, .str t => s = t
  | _, _ => false

/-- Source: `check_packs.py` `_contains`. -/
def containsValue (observed : Observed) (expected : Json) : Bool :=
  match observed with
  | .text s =>
      match expected with
      | .str t => t.toList <:+: s.toList
      | _ => false
  | .texts l => l.any fun s => equal floatIs (.text s) expected
  | .pairs l => l.any fun p => equal floatIs (.texts [p.1, p.2]) expected
  | _ => false

/-- Source: `check_packs.py` `_is_present`. -/
def isPresent : Observed → Bool
  | .absent => false
  | .text s => strip s ≠ ""
  | .texts l => !l.isEmpty
  | .pairs l => !l.isEmpty
  | .integer _ => true

/-- Source: `check_packs.py` `_condition_matches`. -/
def conditionMatches (condition : DeclarativeCondition) (context : AssessmentContext) : Bool :=
  let observed := resolveField condition.field context
  let expected := condition.value
  match condition.operator with
  | .present => isPresent observed
  | .missing => !isPresent observed
  | .equals => equal floatIs observed expected
  | .notEquals => !equal floatIs observed expected
  | .contains => containsValue floatIs observed expected
  | .notContains => !containsValue floatIs observed expected
  | .startsWith =>
      match observed, expected with
      | .text s, .str t => t.toList <+: s.toList
      | _, _ => false
  | .endsWith =>
      match observed, expected with
      | .text s, .str t => t.toList <:+ s.toList
      | _, _ => false
  | .isIn =>
      match expected with
      | .arr elems => elems.any fun e => equal floatIs observed e
      | _ => false

/-! ## Checks -/

/-- A text that is not blank. -/
abbrev NonBlank := { s : String // strip s ≠ "" }

inductive CheckIntrusiveness where
  | passive
  | safeActive
  | intrusive
  | destructive
  deriving DecidableEq

/-- Source: `assessment_engine.py` `AssessmentCheckMetadata`. -/
structure AssessmentCheckMetadata where
  checkId : NonBlank
  name : NonBlank
  family : NonBlank
  description : String
  intrusiveness : CheckIntrusiveness
  supportedServices : List String
  tags : List String
  requiresAuthentication : Bool
  requiredCapabilities : List String
  version : String
  source : String
  sourceVersion : String

/-- Source: `check_packs.py` `DeclarativeFindingTemplate`. -/
structure DeclarativeFindingTemplate where
  title : String
  summary : String
  severity : String
  remediation : String
  references : List String

/-- Source: `check_packs.py` `DeclarativeAssessmentCheck`. -/
structure DeclarativeAssessmentCheck where
  metadata : AssessmentCheckMetadata
  conditions : List DeclarativeCondition
  finding : DeclarativeFindingTemplate
  evidenceFields : List (String × Field)

/-- Source: `assessment_engine.py` `AssessmentFinding`. -/
structure AssessmentFinding where
  checkId : String
  title : String
  summary : String
  evidence : List String
  severity : String
  remediation : String
  references : List String

/-- `str(value)`, and the elements of a tuple joined by commas. -/
def rendered : Observed → String
  | .absent => "None"
  | .integer n => toString n
  | .text s => s
  | .texts l => ",".intercalate l
  | .pairs l => ",".intercalate (l.map fun p => "(" ++ repr p.1 ++ ", " ++ repr p.2 ++ ")")

/-- Source: `check_packs.py` `_format_evidence`. -/
def formatEvidence (field : String) (value : Observed) : String :=
  field ++ "=" ++ rendered repr value

/-- Source: `check_packs.py` `DeclarativeAssessmentCheck.run`. -/
def DeclarativeAssessmentCheck.run (check : DeclarativeAssessmentCheck)
    (context : AssessmentContext) : List AssessmentFinding :=
  if check.conditions.all fun condition => conditionMatches floatIs condition context then
    [{ checkId := check.metadata.checkId
       title := check.finding.title
       summary := check.finding.summary
       evidence := check.evidenceFields.map fun field =>
         formatEvidence repr field.1 (resolveField field.2 context)
       severity := check.finding.severity
       remediation := check.finding.remediation
       references := check.finding.references }]
  else []

end Evaluation

/-! ## Packs -/

/-- Source: `check_packs.py` `CheckPack`. -/
structure CheckPack where
  schemaVersion : Json
  packId : String
  name : String
  version : String
  checks : List DeclarativeAssessmentCheck

section Loading

variable (floatIs : Int → String → Bool) (reprJson : Json → String)

/-- Source: `check_packs.py` `_required_text`. -/
def requiredText (payload : Json) (key : String) : Py NonBlank :=
  match payload.get? key with
  | some (.str value) =>
      if h : strip value ≠ "" then .ok ⟨strip value, by rwa [strip_strip]⟩
      else .error (valueError (key ++ " must be a non-empty string."))
  | _ => .error (valueError (key ++ " must be a non-empty string."))

/-- Source: `check_packs.py` `_optional_text`. -/
def optionalText : Option Json → String
  | some (.str value) => strip value
  | _ => ""

/-- One entry of a list of texts. -/
def stringEntry (label : String) : Json → Py String
  | .str item => do
      raiseIf (strip item = "") (valueError (label ++ " entries must be non-empty strings."))
      return strip item
  | _ => .error (valueError (label ++ " entries must be non-empty strings."))

/-- Source: `check_packs.py` `_string_tuple`, with an empty list for a member that is not given. -/
def stringTuple (value : Option Json) (label : String) : Py (List String) := do
  let elems ← asArr (value.getD (.arr [])) (label ++ " must be a list.")
  elems.mapM (stringEntry label)

/-- `bool(value)`, where a missing member is false. -/
def asBool : Option Json → Bool
  | none | some .null => false
  | some (.bool b) => b
  | some (.int n) => n ≠ 0
  | some (.float literal) => !floatIs 0 literal
  | some (.str s) => s ≠ ""
  | some (.arr elems) => !elems.isEmpty
  | some (.obj members) => !members.isEmpty

/-- A JSON object. -/
def isObject : Json → Bool
  | .obj _ => true
  | _ => false

/-- Source: `check_packs.py` `_validate_field`. -/
def validateField (field : String) : Py Field :=
  getOrRaise (supportedFields.lookup field)
    (valueError ("Unsupported declarative field: " ++ field))

/-- Source: `check_packs.py` `_parse_condition`. -/
def parseCondition (item : Json) : Py DeclarativeCondition := do
  require (isObject item = true) (valueError "Each declarative condition must be an object.")
  let fieldText ← requiredText item "field"
  let operatorText ← requiredText item "operator"
  let field ← validateField fieldText
  let operator ← getOrRaise (supportedOperators.lookup operatorText.1)
    (valueError ("Unsupported declarative operator: " ++ operatorText))
  return { field := field, operator := operator, value := (item.get? "value").getD .null }

/-- `CheckIntrusiveness(text)`. -/
def intrusivenessOf : String → Option CheckIntrusiveness
  | "passive" => some .passive
  | "safe-active" => some .safeActive
  | "intrusive" => some .intrusive
  | "destructive" => some .destructive
  | _ => none

/-- The finding of a check. -/
def parseFinding (item : Json) : Py DeclarativeFindingTemplate := do
  let raw := (item.get? "finding").getD .null
  require (isObject raw = true) (valueError "Check finding must be an object.")
  let title ← requiredText raw "title"
  let summary ← requiredText raw "summary"
  let references ← stringTuple (raw.get? "references") "finding references"
  return {
    title := title
    summary := summary
    severity := optionalText (raw.get? "severity")
    remediation := optionalText (raw.get? "remediation")
    references := references }

/-- The metadata of a check. -/
def parseMetadata (packId packVersion : String) (intrusiveness : CheckIntrusiveness)
    (item : Json) : Py AssessmentCheckMetadata := do
  let checkId ← requiredText item "check_id"
  let name ← requiredText item "name"
  let family ← requiredText item "family"
  let description ← requiredText item "description"
  let supportedServices ← stringTuple (item.get? "supported_services") "supported_services"
  let tags ← stringTuple (item.get? "tags") "tags"
  let requiredCapabilities ← stringTuple (item.get? "required_capabilities")
    "required_capabilities"
  let version := optionalText (item.get? "version")
  return {
    checkId := checkId
    name := name
    family := family
    description := description
    intrusiveness := intrusiveness
    supportedServices := supportedServices
    tags := tags
    requiresAuthentication := asBool floatIs (item.get? "requires_authentication")
    requiredCapabilities := requiredCapabilities
    version := if version = "" then "1" else version
    source := "check-pack:" ++ packId
    sourceVersion := packVersion }

/-- Source: `check_packs.py` `_parse_check`. -/
def parseCheck (packId packVersion : String) (item : Json) : Py DeclarativeAssessmentCheck := do
  require (isObject item = true) (valueError "Each declarative check must be an object.")
  let intrusivenessText ← requiredText item "intrusiveness"
  let intrusiveness ← getOrRaise (intrusivenessOf intrusivenessText)
    (valueError ("Unsupported check intrusiveness: " ++ intrusivenessText))
  let rawConditions ← asArr ((item.get? "conditions").getD (.arr []))
    "Check conditions must be a list."
  let conditions ← rawConditions.mapM parseCondition
  let finding ← parseFinding item
  let evidenceFields ← stringTuple (item.get? "evidence_fields") "evidence_fields"
  let fields ← evidenceFields.mapM validateField
  let metadata ← parseMetadata floatIs packId packVersion intrusiveness item
  return {
    metadata := metadata
    conditions := conditions
    finding := finding
    evidenceFields := evidenceFields.zip fields }

/-- The value is the schema version, as `==` has it. -/
def isSchemaVersion : Json → Bool
  | .int n => n = checkPackSchemaVersion
  | .bool b => b
  | .float literal => floatIs checkPackSchemaVersion literal
  | _ => false

/-- Source: `check_packs.py` `load_check_pack_payload`. -/
def loadCheckPackPayload (payload : Json) : Py CheckPack := do
  require (isObject payload = true) (valueError "Check-pack payload must be a JSON object.")
  let schemaVersion := (payload.get? "schema_version").getD .null
  require (isSchemaVersion floatIs schemaVersion = true)
    (valueError ("Unsupported check-pack schema version: " ++ reprJson schemaVersion))
  let packId ← requiredText payload "pack_id"
  let name ← requiredText payload "name"
  let version ← requiredText payload "version"
  let rawChecks ← asArr ((payload.get? "checks").getD (.arr []))
    "Check-pack checks must be a list."
  let checks ← rawChecks.mapM (parseCheck floatIs packId version)
  require (checks.map fun check => check.metadata.checkId.1).Nodup
    (valueError "Duplicate check_id in check pack.")
  return {
    schemaVersion := schemaVersion
    packId := packId
    name := name
    version := version
    checks := checks }

/-- `decodeMessage` is what `json.loads` says of a text it does not read.
Source: `check_packs.py` `load_check_pack_json`. -/
def loadCheckPackJson (decodeMessage : String → String) (text : String) : Py CheckPack := do
  let payload ← getOrRaise (Json.loads text)
    (valueError ("Invalid check-pack JSON: " ++ decodeMessage text))
  loadCheckPackPayload floatIs reprJson payload

end Loading

/-! ## What the operators say -/

section Meaning

variable (floatIs : Int → String → Bool)

/-- A field's JSON value equals a JSON value; integers equal the floats of their value. -/
def JsonEq (j value : Json) : Prop :=
  j = value ∨ ∃ n literal, j = .int n ∧ value = .float literal ∧ floatIs n literal = true

/-- The value is a part of a text, or an element of a list. -/
def Contains (j value : Json) : Prop :=
  (∃ s t, j = .str s ∧ value = .str t ∧ t.toList <:+: s.toList) ∨
    ∃ elems, j = .arr elems ∧ ∃ e ∈ elems, JsonEq floatIs e value

/-- The value is neither `null`, nor a blank text, nor an empty list. -/
def Present (j : Json) : Prop :=
  j ≠ .null ∧ (∀ s, j = .str s → strip s ≠ "") ∧ j ≠ .arr []

/-- **What an operator says** of a field's JSON value and the value of a condition. -/
def Says (operator : Operator) (j value : Json) : Prop :=
  match operator with
  | .equals => JsonEq floatIs j value
  | .notEquals => ¬ JsonEq floatIs j value
  | .contains => Contains floatIs j value
  | .notContains => ¬ Contains floatIs j value
  | .present => Present j
  | .missing => ¬ Present j
  | .startsWith => ∃ s t, j = .str s ∧ value = .str t ∧ t.toList <+: s.toList
  | .endsWith => ∃ s t, j = .str s ∧ value = .str t ∧ t.toList <:+ s.toList
  | .isIn => ∃ elems, value = .arr elems ∧ ∃ e ∈ elems, JsonEq floatIs j e

/-- A tuple, of texts or of pairs. -/
def Observed.IsTuple : Observed → Prop
  | .texts _ => True
  | .pairs _ => True
  | _ => False

/-- **Where the code decides otherwise**: a tuple is compared with the list it is written as, a pair
of a tuple with the list of the two, or the port `1` with `true`. -/
def Slips (operator : Operator) (observed : Observed) (value : Json) : Prop :=
  match operator with
  | .equals | .notEquals =>
      (observed.IsTuple ∧ value = observed.toJson) ∨ (observed = .integer 1 ∧ value = .bool true)
  | .contains | .notContains => ∃ l p, observed = .pairs l ∧ p ∈ l ∧ value = .strings [p.1, p.2]
  | .isIn => ∃ elems, value = .arr elems ∧ ((observed.IsTuple ∧ observed.toJson ∈ elems) ∨
      (observed = .integer 1 ∧ .bool true ∈ elems ∧ ¬ ∃ e ∈ elems, JsonEq floatIs (.int 1) e))
  | _ => False

variable {floatIs} {observed : Observed} {value : Json}

theorem jsonEq_of_ne_int {j : Json} (h : ∀ n, j ≠ .int n) :
    JsonEq floatIs j value ↔ value = j := by
  constructor
  · rintro (rfl | ⟨n, _, heq, -⟩)
    · rfl
    · exact absurd heq (h n)
  · rintro rfl
    exact .inl rfl

@[simp] theorem jsonEq_null : JsonEq floatIs .null value ↔ value = .null :=
  jsonEq_of_ne_int (by simp)

@[simp] theorem jsonEq_str {s : String} : JsonEq floatIs (.str s) value ↔ value = .str s :=
  jsonEq_of_ne_int (by simp)

@[simp] theorem jsonEq_arr {l : List Json} : JsonEq floatIs (.arr l) value ↔ value = .arr l :=
  jsonEq_of_ne_int (by simp)

@[simp] theorem jsonEq_strings {l : List String} :
    JsonEq floatIs (.strings l) value ↔ value = .strings l := jsonEq_arr

theorem jsonEq_int {n : Int} : JsonEq floatIs (.int n) value ↔
    value = .int n ∨ ∃ literal, value = .float literal ∧ floatIs n literal = true := by
  constructor
  · rintro (rfl | ⟨m, literal, hn, rfl, hfloat⟩)
    · exact .inl rfl
    · rw [Json.int.inj hn]
      exact .inr ⟨literal, rfl, hfloat⟩
  · rintro (rfl | ⟨literal, rfl, hfloat⟩)
    · exact .inl rfl
    · exact .inr ⟨n, literal, rfl, rfl, hfloat⟩

/-- The tuples' JSON values are lists. -/
theorem toJson_of_isTuple (h : observed.IsTuple) : ∃ elems, observed.toJson = .arr elems := by
  cases observed with
  | texts l => exact ⟨_, rfl⟩
  | pairs l => exact ⟨_, rfl⟩
  | _ => exact absurd h id

/-- A tuple equals nothing that was read from JSON. -/
theorem equal_of_isTuple (h : observed.IsTuple) : equal floatIs observed value = false := by
  cases observed with
  | texts l => rfl
  | pairs l => rfl
  | _ => exact absurd h id

/-- **Equality in the code**: for what is no tuple that of JSON, and `True` equals `1`. -/
theorem equal_iff (h : ¬ observed.IsTuple) : equal floatIs observed value = true ↔
    JsonEq floatIs observed.toJson value ∨
      ∃ n b, observed = .integer n ∧ value = .bool b ∧ n = b.toInt := by
  cases observed with
  | absent =>
    rw [Observed.toJson, jsonEq_null]
    cases value <;> simp [equal]
  | integer n =>
    rw [Observed.toJson, jsonEq_int]
    cases value with
    | int m =>
      rw [equal, decide_eq_true_eq]
      constructor
      · rintro rfl
        exact .inl (.inl rfl)
      · rintro ((heq | ⟨_, heq, -⟩) | ⟨_, _, -, heq, -⟩)
        · exact (Json.int.inj heq).symm
        · cases heq
        · cases heq
    | bool b => simp [equal]
    | float literal => simp [equal]
    | _ => simp [equal]
  | text s =>
    rw [Observed.toJson, jsonEq_str]
    cases value with
    | str t => simp [equal, @eq_comm _ t]
    | _ => simp [equal]
  | texts l => exact absurd trivial h
  | pairs l => exact absurd trivial h

/-- The port is the only integer, and it is not `0`. -/
theorem eq_port {field : Field} {context : AssessmentContext} {n : Int}
    (h : resolveField field context = .integer n) : n = context.port := by
  have hservice : ∀ read : ServiceDetectionResult → Observed, (∀ r, read r ≠ .integer n) →
      ofService context read ≠ .integer n := by
    intro read hread
    unfold ofService
    split
    · exact hread _
    · simp
  have hsoftware : ∀ read : SoftwareIdentity → String, ofSoftware context read ≠ .integer n := by
    intro read
    apply hservice
    intro result
    split <;> simp
  cases field with
  | port => exact (Observed.integer.inj h).symm
  | target => exact absurd h (by simp [resolveField])
  | address => exact absurd h (by simp [resolveField])
  | service => exact absurd h (by simp [resolveField])
  | softwareProduct => exact absurd h (hsoftware _)
  | softwareVersion => exact absurd h (hsoftware _)
  | softwareSource => exact absurd h (hsoftware _)
  | softwareEvidence => exact absurd h (hsoftware _)
  | _ => exact absurd h (hservice _ (by simp))

/-- Equality in the code is that of JSON, unless a tuple meets its list or the port `1` meets
`true`. -/
theorem equal_iff_jsonEq {field : Field} {context : AssessmentContext} (value : Json) :
    (equal floatIs (resolveField field context) value = true ↔
      JsonEq floatIs (resolveField field context).toJson value) ↔
        ¬ (((resolveField field context).IsTuple ∧ value = (resolveField field context).toJson) ∨
          (resolveField field context = .integer 1 ∧ value = .bool true)) := by
  generalize hobserved : resolveField field context = observed
  by_cases htuple : observed.IsTuple
  · obtain ⟨elems, helems⟩ := toJson_of_isTuple htuple
    have hinteger : observed ≠ .integer 1 := by
      rintro rfl
      exact htuple
    rw [equal_of_isTuple htuple, helems, jsonEq_arr]
    simp [htuple, hinteger]
  · rw [equal_iff htuple]
    constructor
    · rintro hsame (⟨htuple', -⟩ | ⟨rfl, rfl⟩)
      · exact htuple htuple'
      · have hbool := hsame.mp (.inr ⟨1, true, rfl, rfl, rfl⟩)
        rw [Observed.toJson, jsonEq_int] at hbool
        simp at hbool
    · intro hno
      refine ⟨fun heq => heq.resolve_right ?_, Or.inl⟩
      rintro ⟨n, b, rfl, rfl, hn⟩
      have hport := eq_port hobserved
      have hrange := context.port_range.1
      cases b with
      | false =>
        rw [← hport, hn] at hrange
        exact absurd hrange (by decide)
      | true => exact hno (.inr ⟨congrArg Observed.integer hn, rfl⟩)

/-- Presence in the code is that of the JSON value. -/
theorem isPresent_iff : isPresent observed = true ↔ Present observed.toJson := by
  cases observed with
  | absent => simp [isPresent, Present, Observed.toJson]
  | integer n => simp [isPresent, Present, Observed.toJson]
  | text s => simp [isPresent, Present, Observed.toJson]
  | texts l => cases l <;> simp [isPresent, Present, Observed.toJson, Json.strings]
  | pairs l => cases l <;> simp [isPresent, Present, Observed.toJson]

/-- What the code finds in a field: a part of a text, or a text of a tuple. -/
theorem containsValue_iff : containsValue floatIs observed value = true ↔
    (∃ s t, observed = .text s ∧ value = .str t ∧ t.toList <:+: s.toList) ∨
      ∃ l s, observed = .texts l ∧ s ∈ l ∧ value = .str s := by
  cases observed with
  | text s => cases value <;> simp [containsValue]
  | texts l =>
    have hequal : ∀ s, equal floatIs (.text s) value = true ↔ value = .str s := by
      intro s
      rw [equal_iff id, Observed.toJson, jsonEq_str]
      simp
    simp only [containsValue, List.any_eq_true, hequal]
    simp
  | pairs l =>
    have hequal : ∀ p : String × String, equal floatIs (.texts [p.1, p.2]) value = false :=
      fun p => equal_of_isTuple trivial
    simp [containsValue, hequal]
  | _ => simp [containsValue]

/-- What a field contains, by the kind of the field. -/
theorem contains_iff : Contains floatIs observed.toJson value ↔
    containsValue floatIs observed value = true ∨
      ∃ l p, observed = .pairs l ∧ p ∈ l ∧ value = .strings [p.1, p.2] := by
  rw [containsValue_iff]
  cases observed with
  | absent => simp [Contains, Observed.toJson]
  | integer n => simp [Contains, Observed.toJson]
  | text s => simp [Contains, Observed.toJson]
  | texts l => simp [Contains, Observed.toJson, Json.strings]
  | pairs l => simp [Contains, Observed.toJson]

/-- Containment in the code is that of JSON, unless a pair of a tuple meets its list. -/
theorem containsValue_iff_contains : (containsValue floatIs observed value = true ↔
    Contains floatIs observed.toJson value) ↔
      ¬ ∃ l p, observed = .pairs l ∧ p ∈ l ∧ value = .strings [p.1, p.2] := by
  rw [contains_iff]
  constructor
  · rintro hsame ⟨l, p, rfl, hp, hvalue⟩
    have hcode := hsame.mpr (.inr ⟨l, p, rfl, hp, hvalue⟩)
    rw [containsValue_iff] at hcode
    simp at hcode
  · intro hno
    exact ⟨Or.inl, fun h => h.resolve_right hno⟩

/-- Membership in the code is that of JSON, unless a tuple's list is an element, or `true` is one
and the port is `1`. -/
theorem any_equal_iff (floatIs : Int → String → Bool) (field : Field)
    (context : AssessmentContext) (elems : List Json) :
    ((elems.any fun e => equal floatIs (resolveField field context) e) = true ↔
      ∃ e ∈ elems, JsonEq floatIs (resolveField field context).toJson e) ↔
        ¬ (((resolveField field context).IsTuple ∧ (resolveField field context).toJson ∈ elems) ∨
          (resolveField field context = .integer 1 ∧ .bool true ∈ elems ∧
            ¬ ∃ e ∈ elems, JsonEq floatIs (.int 1) e)) := by
  have helement : ∀ e, (equal floatIs (resolveField field context) e = true ↔
      JsonEq floatIs (resolveField field context).toJson e) ↔
        ¬ (((resolveField field context).IsTuple ∧ e = (resolveField field context).toJson) ∨
          (resolveField field context = .integer 1 ∧ e = .bool true)) := equal_iff_jsonEq
  generalize hobserved : resolveField field context = observed at helement ⊢
  rw [List.any_eq_true]
  by_cases htuple : observed.IsTuple
  · obtain ⟨json, hjson⟩ := toJson_of_isTuple htuple
    have hinteger : observed ≠ .integer 1 := by
      rintro rfl
      exact htuple
    simp only [equal_of_isTuple htuple, hjson, jsonEq_arr, hinteger]
    simp [htuple]
  · constructor
    · rintro hsame (⟨htuple', -⟩ | ⟨rfl, hmem, hnone⟩)
      · exact htuple htuple'
      · exact hnone (hsame.mp ⟨_, hmem, rfl⟩)
    · intro hno
      constructor
      · rintro ⟨e, he, hequal⟩
        by_contra hnone
        have hslip : ¬ (equal floatIs observed e = true ↔ JsonEq floatIs observed.toJson e) :=
          fun hsame => hnone ⟨e, he, hsame.mp hequal⟩
        rw [helement, not_not] at hslip
        rcases hslip with ⟨htuple', -⟩ | ⟨rfl, rfl⟩
        · exact htuple htuple'
        · exact hno (.inr ⟨rfl, he, hnone⟩)
      · rintro ⟨e, he, hsays⟩
        exact ⟨e, he, (equal_iff htuple).mpr (.inl hsays)⟩

/-- **One condition** decides as its operator says, unless it slips. -/
theorem decides_iff (condition : DeclarativeCondition) (context : AssessmentContext) :
    (conditionMatches floatIs condition context = true ↔
      Says floatIs condition.operator (resolveField condition.field context).toJson
        condition.value) ↔
      ¬ Slips floatIs condition.operator (resolveField condition.field context)
        condition.value := by
  obtain ⟨field, operator, value⟩ := condition
  cases operator with
  | equals => exact equal_iff_jsonEq value
  | notEquals =>
    simp only [conditionMatches, Says, Bool.not_eq_true', Bool.eq_false_iff, ne_eq]
    rw [not_iff_not]
    exact equal_iff_jsonEq value
  | contains => exact containsValue_iff_contains
  | notContains =>
    simp only [conditionMatches, Says, Bool.not_eq_true', Bool.eq_false_iff, ne_eq]
    rw [not_iff_not]
    exact containsValue_iff_contains
  | present => exact iff_of_true isPresent_iff not_false
  | missing =>
    refine iff_of_true ?_ not_false
    simp only [conditionMatches, Says, Bool.not_eq_true', Bool.eq_false_iff, ne_eq]
    exact not_congr isPresent_iff
  | startsWith =>
    refine iff_of_true ?_ not_false
    simp only [conditionMatches, Says]
    generalize resolveField field context = observed
    cases observed with
    | text s => cases value <;> simp [Observed.toJson]
    | _ => simp [Observed.toJson, Json.strings]
  | endsWith =>
    refine iff_of_true ?_ not_false
    simp only [conditionMatches, Says]
    generalize resolveField field context = observed
    cases observed with
    | text s => cases value <;> simp [Observed.toJson]
    | _ => simp [Observed.toJson, Json.strings]
  | isIn =>
    simp only [conditionMatches, Says, Slips]
    cases value with
    | arr elems =>
      have helems := any_equal_iff floatIs field context elems
      simpa using helems
    | _ => simp

end Meaning

/-! ## Packs -/

section Packs

variable {floatIs : Int → String → Bool} {repr : String → String}

/-- The conditions of a check decide as their operators say, and the check emits its finding when
all of them hold. -/
def Decides (floatIs : Int → String → Bool) (repr : String → String)
    (check : DeclarativeAssessmentCheck) (context : AssessmentContext) : Prop :=
  (∀ condition ∈ check.conditions, (conditionMatches floatIs condition context = true ↔
    Says floatIs condition.operator (resolveField condition.field context).toJson
      condition.value)) ∧
  ((∃ finding, check.run floatIs repr context = [finding]) ↔ ∀ condition ∈ check.conditions,
    Says floatIs condition.operator (resolveField condition.field context).toJson
      condition.value)

/-- A finding is emitted when every condition matches. -/
theorem run_eq_singleton_iff {check : DeclarativeAssessmentCheck} {context : AssessmentContext} :
    (∃ finding, check.run floatIs repr context = [finding]) ↔
      ∀ condition ∈ check.conditions, conditionMatches floatIs condition context = true := by
  unfold DeclarativeAssessmentCheck.run
  rw [← List.all_eq_true]
  split
  · rename_i hall
    exact iff_of_true ⟨_, rfl⟩ hall
  · rename_i hall
    refine iff_of_false ?_ hall
    rintro ⟨finding, hnil⟩
    cases hnil

/-- **The checks of a pack** decide as their operators say, exactly when no condition slips. -/
theorem checks_decide_iff (reprJson : Json → String) (decodeMessage : String → String)
    (text : String) (pack : CheckPack)
    (_hpack : loadCheckPackJson floatIs reprJson decodeMessage text = .ok pack)
    (check : DeclarativeAssessmentCheck) (_hcheck : check ∈ pack.checks)
    (context : AssessmentContext) :
    Decides floatIs repr check context ↔ ∀ condition ∈ check.conditions,
      ¬ Slips floatIs condition.operator (resolveField condition.field context)
        condition.value := by
  constructor
  · intro h condition hcondition
    exact (decides_iff condition context).mp (h.1 condition hcondition)
  · intro h
    have hall := fun condition hcondition =>
      (decides_iff condition context).mpr (h condition hcondition)
    refine ⟨hall, run_eq_singleton_iff.trans ?_⟩
    exact forall₂_congr hall

end Packs

/-! ### A pack about missing headers -/

/-- The document of a check on the headers that are missing. -/
def headersCheck (operator : String) (value : Json) : Json :=
  .obj [("check_id", .str "headers"),
    ("conditions", .arr [.obj [("field", .str "security_headers_missing"),
      ("operator", .str operator), ("value", value)]]),
    ("description", .str "Missing headers."), ("family", .str "web"),
    ("finding", .obj [("summary", .str "Headers are missing."), ("title", .str "Headers")]),
    ("intrusiveness", .str "passive"), ("name", .str "Headers")]

/-- The document of a pack of this check. -/
def headersPack (operator : String) (value : Json) : Json :=
  .obj [("checks", .arr [headersCheck operator value]), ("name", .str "Web"),
    ("pack_id", .str "web"), ("schema_version", .int 1), ("version", .str "1.0.0")]

theorem headers_filled : strip "headers" ≠ "" := by decide

/-- The check as it is read. -/
def readCheck (operator : Operator) (value : Json) : DeclarativeAssessmentCheck where
  metadata := {
    checkId := ⟨"headers", headers_filled⟩
    name := ⟨"Headers", by decide⟩
    family := ⟨"web", by decide⟩
    description := "Missing headers."
    intrusiveness := .passive
    supportedServices := []
    tags := []
    requiresAuthentication := false
    requiredCapabilities := []
    version := "1"
    source := "check-pack:web"
    sourceVersion := "1.0.0" }
  conditions := [⟨.securityHeadersMissing, operator, value⟩]
  finding := ⟨"Headers", "Headers are missing.", "", "", []⟩
  evidenceFields := []

/-- The pack as it is read. -/
def readPack (operator : Operator) (value : Json) : CheckPack :=
  ⟨.int 1, "web", "Web", "1.0.0", [readCheck operator value]⟩

theorem loads_headersPack (operator : String) {value : Json} (hvalid : value.valid)
    (hnormal : value.normal = value) :
    Json.loads (Json.dumps (headersPack operator value)) = some (headersPack operator value) := by
  have hpack : (headersPack operator value).valid := by
    simp [headersPack, headersCheck, Json.valid, Json.elemsValid, Json.membersValid, hvalid]
  have hsame : (headersPack operator value).normal = headersPack operator value := by
    simp [headersPack, headersCheck, Json.normal, Json.elemsNormal, Json.membersNormal, hnormal,
      Json.sortMembers, List.insertionSort]
  rw [Json.loads_dumps hpack, hsame]

/-- A host without two headers. -/
def bareContext : AssessmentContext where
  target := "app.local"
  address := "192.0.2.1"
  port := 80
  service := "http"
  serviceResult := some {
    banner := ""
    httpStatus := "200"
    httpServer := ""
    httpHeaders := [("Server", "nginx")]
    securityHeadersPresent := []
    securityHeadersMissing := ["Content-Security-Policy"]
    softwareIdentity := none
    tlsVersion := ""
    tlsCipher := ""
    tlsCertificateSubject := ""
    tlsCertificateIssuer := ""
    tlsCertificateNotBefore := ""
    tlsCertificateNotAfter := ""
    tlsCertificateSans := []
    tlsCertificateSha256 := "" }
  port_range := by decide

/-- The float literals of small integers. -/
def isFloat (n : Int) (literal : String) : Bool := literal = toString n ++ ".0"

/-- A pack that looks for one missing header decides as it says. -/
theorem contains_decides :
    Decides isFloat id (readCheck .contains (.str "Content-Security-Policy")) bareContext := by
  have hload : loadCheckPackJson isFloat (fun _ => "") (fun _ => "")
      (Json.dumps (headersPack "contains" (.str "Content-Security-Policy"))) =
        .ok (readPack .contains (.str "Content-Security-Policy")) := by
    rw [loadCheckPackJson, loads_headersPack "contains" (by simp [Json.valid]) rfl,
      getOrRaise_some, ok_bind]
    rfl
  apply (checks_decide_iff _ _ _ _ hload _ List.mem_cons_self bareContext).mpr
  intro condition hcondition
  obtain rfl := List.mem_singleton.mp hcondition
  rintro ⟨l, p, hpairs, -⟩
  cases hpairs

/-- A pack that looks for exactly these missing headers does not. -/
theorem list_is_never_equal : ¬ ∀ text pack,
    loadCheckPackJson isFloat (fun _ => "") (fun _ => "") text = .ok pack →
      ∀ check ∈ pack.checks, ∀ context, Decides isFloat id check context := by
  intro h
  have hload : loadCheckPackJson isFloat (fun _ => "") (fun _ => "")
      (Json.dumps (headersPack "equals" (.strings ["Content-Security-Policy"]))) =
        .ok (readPack .equals (.strings ["Content-Security-Policy"])) := by
    rw [loadCheckPackJson, loads_headersPack "equals" (by simp) (by simp), getOrRaise_some, ok_bind]
    rfl
  have hdecides := h _ _ hload _ List.mem_cons_self bareContext
  have hmatches := (hdecides.1 _ List.mem_cons_self).mpr (.inl rfl)
  cases hmatches

end NightRecon.RedEngine.CheckPacks
