import Mathlib.Data.List.Infix
import NightRecon.Exceptions
import NightRecon.Lib.Assoc
import NightRecon.Lib.Collect
import NightRecon.Lib.Keyed

/-!
# Validation techniques and adapter contracts

`nightrecon_red_engine/validation_techniques.py` and the contracts of
`validation_adapter_contracts.py`:
reviewed metadata of techniques, and the contract a technique declares.

* `TechniqueFields`, `checkTechnique`, `ValidationTechniqueDefinition` — a technique, which passes
  its checks; `ValidationTechniqueRegistry` — techniques of differing identifiers;
* `ValidationAdapterContract`, `adapterContractFromTechnique`, `ValidationAdapterContractRegistry`;
* `builtinValidationTechniques` — the reviewed techniques;
* `contract_of_technique` — every technique declares a contract; `contracts_of_registry` — so does
  every registry.
-/

namespace NightRecon.RedEngine.ValidationTechniques

open NightRecon.Lib
open NightRecon.Lib.Assoc
open NightRecon.Lib.Checks
open NightRecon.Lib.Collect
open NightRecon.Lib.Text

/-! ## Identifiers and keys -/

/-- Lower-case letters and digits. -/
def isLowerAlnum (c : Char) : Bool := isLower c || isDigit c

/-- `_TECHNIQUE_ID_RE`, `_CONTRACT_ID_RE`: parts of letters and digits between dots and dashes. -/
def isCanonicalId (value : String) : Bool :=
  (value.toList.splitOnP fun c => c = '.' || c = '-').all fun part =>
    part ≠ [] && part.all isLowerAlnum

/-- `_EVIDENCE_KEY_RE`, `_PROPERTY_KEY_RE`. -/
def isPropertyKey (value : String) : Bool :=
  match value.toList with
  | [] => false
  | c :: rest => isLower c && rest.length ≤ 63 && rest.all fun d => isLowerAlnum d || d = '_'

/-- `_ATTACK_ID_RE`: `T` and four digits, then perhaps a dot and three. -/
def isAttackId (value : String) : Bool :=
  match value.toList with
  | [] => false
  | c :: rest => c = 'T' && (rest.take 4).length = 4 && (rest.take 4).all isDigit &&
      (rest.drop 4 = [] || ((rest.drop 4).length = 4 && (rest.drop 4).head? = some '.' &&
        ((rest.drop 4).drop 1).all isDigit))

/-- `_SECRET_LIKE_EVIDENCE_FRAGMENTS`, `_SECRET_LIKE_FRAGMENTS`. -/
def secretLikeFragments : List String :=
  ["password", "passwd", "secret", "token", "credential", "cookie", "authorization", "api_key",
    "apikey", "private_key", "session"]

/-- A key names something secret. -/
def isSecretLike (key : String) : Bool :=
  secretLikeFragments.any fun fragment =>
    decide (fragment.toList <:+: (asciiLower key).toList)

def validTargetKinds : List String := ["asset", "service", "web", "api"]

/-! ## Techniques -/

/-- The fields of a technique. -/
structure TechniqueFields where
  techniqueId : String
  title : String
  summary : String
  targetKinds : List String
  evidenceKeys : List String
  eligibilityRequiredProperties : List String
  eligibilityRequiredValues : List (String × String)
  impact : String
  requiresApproval : Bool
  attackIds : List String
  adapterKind : String
  cleanupMode : String

/-- Source: `validation_techniques.py` `_unique`. -/
def unique (values : List String) (field : String) : Py Unit :=
  require values.Nodup (valueError (field ++ " must not contain duplicates"))

/-- A key has to have the form of a key and not to name a secret. -/
def checkKey (invalid secretLike key : String) : Py Unit := do
  require (isPropertyKey key = true) (valueError (invalid ++ key))
  raiseIf (isSecretLike key = true) (valueError (secretLike ++ key))

/-- One exact-value requirement. -/
def checkRequiredValue (requirement : String × String) : Py Unit := do
  require (isPropertyKey requirement.1 = true)
    (valueError ("invalid eligibility value key: " ++ requirement.1))
  require (requiredText requirement.2)
    (valueError "eligibility required values must be nonblank trimmed strings")
  raiseIf (isSecretLike requirement.1 = true)
    (valueError ("secret-like eligibility value key is not allowed: " ++ requirement.1))

/-- Source: `validation_techniques.py` `ValidationTechniqueDefinition.__post_init__`. -/
def checkTechnique (t : TechniqueFields) : Py Unit := do
  let _ ← requireText t.techniqueId "technique_id"
  let _ ← requireText t.title "title"
  let _ ← requireText t.summary "summary"
  require (isCanonicalId t.techniqueId = true)
    (valueError "technique_id must be lowercase canonical metadata")
  require (t.impact ∈ ["low", "standard", "high"])
    (valueError "impact must be low, standard, or high")
  raiseIf (t.impact = "high" ∧ t.requiresApproval = false)
    (valueError "high-impact techniques must require approval")
  require (t.adapterKind = "read-only-proof") (valueError "adapter_kind is not allowed")
  require (t.cleanupMode = "none") (valueError "cleanup_mode is not allowed in Batch 1")
  raiseIf (t.targetKinds = []) (valueError "target_kinds must not be empty")
  unique t.targetKinds "target_kinds"
  t.targetKinds.forM fun kind =>
    require (kind ∈ validTargetKinds) (valueError ("unsupported target kind: " ++ kind))
  raiseIf (t.evidenceKeys = []) (valueError "evidence_keys must not be empty")
  unique t.evidenceKeys "evidence_keys"
  t.evidenceKeys.forM
    (checkKey "invalid evidence key: " "secret-like evidence key is not allowed: ")
  unique t.eligibilityRequiredProperties "eligibility_required_properties"
  t.eligibilityRequiredProperties.forM (checkKey "invalid eligibility property key: "
    "secret-like eligibility property is not allowed: ")
  t.eligibilityRequiredValues.forM checkRequiredValue
  require (keys t.eligibilityRequiredValues).Nodup
    (valueError "eligibility_required_values must not repeat keys")
  raiseIf (∃ key ∈ t.eligibilityRequiredProperties, key ∈ keys t.eligibilityRequiredValues)
    (valueError ("eligibility property names must not be duplicated across presence and " ++
      "exact-value requirements"))
  unique t.attackIds "attack_ids"
  t.attackIds.forM fun id =>
    require (isAttackId id = true) (valueError ("invalid ATT&CK technique id: " ++ id))

/-- A technique passes its checks.
Source: `validation_techniques.py` `ValidationTechniqueDefinition`. -/
structure ValidationTechniqueDefinition extends TechniqueFields where
  checked : checkTechnique toTechniqueFields = .ok ()

/-- Source: `validation_techniques.py` `ValidationTechniqueRegistry`. -/
structure ValidationTechniqueRegistry where
  techniques : List ValidationTechniqueDefinition
  distinct : (techniques.map fun t => t.techniqueId).Nodup

/-- Source: `validation_techniques.py` `ValidationTechniqueRegistry.__init__`. -/
def ValidationTechniqueRegistry.make (techniques : List ValidationTechniqueDefinition) :
    Py ValidationTechniqueRegistry := do
  let ordered := sortedBy (fun t => t.techniqueId) techniques
  let ⟨distinct⟩ ← prove (ordered.map fun t => t.techniqueId).Nodup
    (valueError "validation technique ids must be unique")
  return ⟨ordered, distinct⟩

/-- Source: `validation_techniques.py` `ValidationTechniqueRegistry.get`. -/
def ValidationTechniqueRegistry.get (registry : ValidationTechniqueRegistry)
    (techniqueId : String) : Py ValidationTechniqueDefinition := do
  let _ ← requireText techniqueId "technique_id"
  getOrRaise (registry.techniques.find? fun t => t.techniqueId = techniqueId)
    (valueError ("unknown validation technique: " ++ techniqueId))

/-! ## Contracts -/

inductive Operator where
  | present
  | equals
  deriving DecidableEq

/-- Source: `validation_adapter_contracts.py` `ValidationAdapterPrecondition`. -/
structure ValidationAdapterPrecondition where
  key : String
  operator : Operator
  value : String
  deriving DecidableEq

/-- Source: `validation_adapter_contracts.py` `ValidationAdapterPostcondition`. -/
structure ValidationAdapterPostcondition where
  evidenceKey : String
  requirement : String
  deriving DecidableEq

/-- Source: `validation_adapter_contracts.py` `ValidationAdapterContract`. -/
structure ValidationAdapterContract where
  contractId : String
  techniqueId : String
  adapterKind : String
  targetKinds : List String
  preconditions : List ValidationAdapterPrecondition
  postconditions : List ValidationAdapterPostcondition
  sideEffectMode : String
  executionMode : String
  deriving DecidableEq

/-- Source: `validation_adapter_contracts.py` `_safe_key`. -/
def safeKey (value field : String) : Py Unit := do
  let _ ← requireText value field
  require (isPropertyKey value = true) (valueError (field ++ " must be a canonical property key"))
  raiseIf (isSecretLike value = true) (valueError (field ++ " must not be secret-like"))

/-- Source: `validation_adapter_contracts.py` `ValidationAdapterPrecondition.__post_init__`. -/
def ValidationAdapterPrecondition.make (key : String) (operator : Operator) (value : String) :
    Py ValidationAdapterPrecondition := do
  safeKey key "precondition key"
  match operator with
  | .present =>
      raiseIf (value ≠ "") (valueError "present preconditions must not define a value")
      return ⟨key, operator, value⟩
  | .equals =>
      let _ ← requireText value "precondition value"
      return ⟨key, operator, value⟩

/-- Source: `validation_adapter_contracts.py` `ValidationAdapterPostcondition.__post_init__`. -/
def ValidationAdapterPostcondition.make (evidenceKey requirement : String) :
    Py ValidationAdapterPostcondition := do
  safeKey evidenceKey "postcondition evidence key"
  require (requirement = "present-when-confirmed")
    (valueError "postcondition requirement must be present-when-confirmed")
  return ⟨evidenceKey, requirement⟩

/-- Source: `validation_adapter_contracts.py` `ValidationAdapterContract.__post_init__`. -/
def checkContract (c : ValidationAdapterContract) : Py Unit := do
  let _ ← requireText c.contractId "contract_id"
  let _ ← requireText c.techniqueId "technique_id"
  require (isCanonicalId c.contractId = true)
    (valueError "contract_id must be lowercase canonical metadata")
  require (isCanonicalId c.techniqueId = true)
    (valueError "technique_id must be lowercase canonical metadata")
  require (c.adapterKind = "read-only-proof")
    (valueError "adapter_kind must remain read-only-proof")
  require (c.sideEffectMode = "none")
    (valueError "Batch 3 contracts must declare no side effects")
  require (c.executionMode = "contract-only")
    (valueError "Batch 3 contracts must remain contract-only")
  raiseIf (c.targetKinds = []) (valueError "contract target_kinds must not be empty")
  require c.targetKinds.Nodup (valueError "contract target_kinds must not contain duplicates")
  require (∀ kind ∈ c.targetKinds, kind ∈ validTargetKinds)
    (valueError "contract target kind is not supported")
  require (c.preconditions.map fun p => p.key).Nodup
    (valueError "contract preconditions must not repeat keys")
  raiseIf (c.postconditions = []) (valueError "contract postconditions must not be empty")
  require (c.postconditions.map fun p => p.evidenceKey).Nodup
    (valueError "contract postconditions must not repeat keys")

/-- Source: `validation_adapter_contracts.py` `adapter_contract_from_technique`. -/
def adapterContractFromTechnique (t : ValidationTechniqueDefinition) :
    Py ValidationAdapterContract := do
  let present ← t.eligibilityRequiredProperties.mapM fun key =>
    ValidationAdapterPrecondition.make key .present ""
  let equal ← t.eligibilityRequiredValues.mapM fun requirement =>
    ValidationAdapterPrecondition.make requirement.1 .equals requirement.2
  let postconditions ← t.evidenceKeys.mapM fun key =>
    ValidationAdapterPostcondition.make key "present-when-confirmed"
  let contract : ValidationAdapterContract :=
    { contractId := t.techniqueId ++ ".contract.v1"
      techniqueId := t.techniqueId
      adapterKind := t.adapterKind
      targetKinds := t.targetKinds
      preconditions := present ++ equal
      postconditions
      sideEffectMode := "none"
      executionMode := "contract-only" }
  checkContract contract
  return contract

/-- Source: `validation_adapter_contracts.py` `assert_contract_matches_technique`. -/
def assertContractMatchesTechnique (contract : ValidationAdapterContract)
    (t : ValidationTechniqueDefinition) : Py Unit := do
  let expected ← adapterContractFromTechnique t
  raiseIf (contract.techniqueId ≠ expected.techniqueId ∨
      contract.adapterKind ≠ expected.adapterKind ∨ contract.targetKinds ≠ expected.targetKinds ∨
      contract.preconditions ≠ expected.preconditions ∨
      contract.postconditions ≠ expected.postconditions ∨ contract.sideEffectMode ≠ "none" ∨
      contract.executionMode ≠ "contract-only")
    (valueError "adapter contract does not match reviewed technique metadata")

/-- Source: `validation_adapter_contracts.py` `ValidationAdapterContractRegistry`. -/
structure ValidationAdapterContractRegistry where
  contracts : List ValidationAdapterContract

/-- Source: `validation_adapter_contracts.py` `ValidationAdapterContractRegistry.__init__`. -/
def ValidationAdapterContractRegistry.make (contracts : List ValidationAdapterContract) :
    Py ValidationAdapterContractRegistry := do
  let ordered := sortedBy (fun c => c.techniqueId) contracts
  require (ordered.map fun c => c.techniqueId).Nodup
    (valueError "adapter contracts must be unique per technique")
  require (ordered.map fun c => c.contractId).Nodup
    (valueError "adapter contract ids must be unique")
  return ⟨ordered⟩

/-- Source: `validation_adapter_contracts.py` `ValidationAdapterContractRegistry.for_technique`. -/
def ValidationAdapterContractRegistry.forTechnique
    (registry : ValidationAdapterContractRegistry) (techniqueId : String) :
    Py ValidationAdapterContract := do
  let _ ← requireText techniqueId "technique_id"
  getOrRaise (registry.contracts.find? fun c => c.techniqueId = techniqueId)
    (valueError ("no adapter contract for technique: " ++ techniqueId))

/-- The contracts the techniques of a registry declare. -/
def contractsOf (registry : ValidationTechniqueRegistry) : Py ValidationAdapterContractRegistry := do
  let contracts ← registry.techniques.mapM adapterContractFromTechnique
  ValidationAdapterContractRegistry.make contracts

/-! ## The reviewed techniques -/

/-- Source: `validation_techniques.py` `BUILTIN_VALIDATION_TECHNIQUES`. -/
def builtinFields : List TechniqueFields :=
  [{ techniqueId := "service.tcp-property-proof"
     title := "TCP service property proof"
     summary := "Read-only confirmation of an already selected TCP service property through a " ++
       "fixed controlled-validation adapter."
     targetKinds := ["service"]
     evidenceKeys := ["transport", "port", "state"]
     eligibilityRequiredProperties := ["address", "port"]
     eligibilityRequiredValues := [("protocol", "tcp")]
     impact := "standard"
     requiresApproval := false
     attackIds := ["T1046"]
     adapterKind := "read-only-proof"
     cleanupMode := "none" },
   { techniqueId := "service.tls-property-proof"
     title := "TLS transport property proof"
     summary := "Read-only confirmation of selected TLS transport metadata through a fixed " ++
       "controlled-validation adapter."
     targetKinds := ["service"]
     evidenceKeys := ["tls_version", "cipher", "certificate_sha256"]
     eligibilityRequiredProperties := ["address", "port", "tls_certificate_sha256"]
     eligibilityRequiredValues := [("protocol", "tcp")]
     impact := "standard"
     requiresApproval := false
     attackIds := []
     adapterKind := "read-only-proof"
     cleanupMode := "none" },
   { techniqueId := "web.http-policy-proof"
     title := "HTTP response policy proof"
     summary := "Read-only confirmation of selected HTTP response policy metadata through a " ++
       "fixed controlled-validation adapter."
     targetKinds := ["web", "api"]
     evidenceKeys := ["status_code", "security_headers"]
     eligibilityRequiredProperties := ["origin_host", "origin_port", "origin_scheme"]
     eligibilityRequiredValues := []
     impact := "standard"
     requiresApproval := false
     attackIds := []
     adapterKind := "read-only-proof"
     cleanupMode := "none" }]

theorem builtinFields_checked : ∀ t ∈ builtinFields, checkTechnique t = .ok () := by
  decide +kernel

/-- Source: `validation_techniques.py` `BUILTIN_VALIDATION_TECHNIQUE_REGISTRY`. -/
def builtinValidationTechniqueRegistry : ValidationTechniqueRegistry where
  techniques := builtinFields.pmap ValidationTechniqueDefinition.mk builtinFields_checked
  distinct := by decide

/-! ## What a technique declares -/

/-- What the checks of a technique say of it. -/
structure Reviewed (t : TechniqueFields) : Prop where
  techniqueId : requiredText t.techniqueId
  canonical : isCanonicalId t.techniqueId = true
  adapterKind : t.adapterKind = "read-only-proof"
  targetKinds : t.targetKinds ≠ []
  targets_distinct : t.targetKinds.Nodup
  targets_valid : ∀ kind ∈ t.targetKinds, kind ∈ validTargetKinds
  evidenceKeys : t.evidenceKeys ≠ []
  evidence_distinct : t.evidenceKeys.Nodup
  evidence_safe : ∀ key ∈ t.evidenceKeys, isPropertyKey key = true ∧ ¬ isSecretLike key = true
  properties_distinct : t.eligibilityRequiredProperties.Nodup
  properties_safe : ∀ key ∈ t.eligibilityRequiredProperties,
    isPropertyKey key = true ∧ ¬ isSecretLike key = true
  values_safe : ∀ r ∈ t.eligibilityRequiredValues,
    isPropertyKey r.1 = true ∧ requiredText r.2 ∧ ¬ isSecretLike r.1 = true
  values_distinct : (keys t.eligibilityRequiredValues).Nodup
  disjoint : ¬ ∃ key ∈ t.eligibilityRequiredProperties, key ∈ keys t.eligibilityRequiredValues

theorem checkKey_eq_ok {invalid secretLike key : String} :
    checkKey invalid secretLike key = .ok () ↔
      isPropertyKey key = true ∧ ¬ isSecretLike key = true := by
  rw [checkKey, require_bind_eq_ok, raiseIf_eq_ok]

theorem checkRequiredValue_eq_ok {r : String × String} :
    checkRequiredValue r = .ok () ↔
      isPropertyKey r.1 = true ∧ requiredText r.2 ∧ ¬ isSecretLike r.1 = true := by
  rw [checkRequiredValue, require_bind_eq_ok, require_bind_eq_ok, raiseIf_eq_ok]

theorem requireText_bind_eq_ok {β : Type} {value field : String} {f : String → Py β} {b : β} :
    (requireText value field >>= f) = .ok b ↔ requiredText value ∧ f value = .ok b := by
  rw [bind_eq_ok]
  constructor
  · rintro ⟨v, hv, hf⟩
    obtain ⟨hvalue, rfl⟩ := requireText_eq_ok.mp hv
    exact ⟨hvalue, hf⟩
  · rintro ⟨hvalue, hf⟩
    exact ⟨value, requireText_eq_ok.mpr ⟨hvalue, rfl⟩, hf⟩

theorem ValidationTechniqueDefinition.reviewed (t : ValidationTechniqueDefinition) :
    Reviewed t.toTechniqueFields := by
  have h := t.checked
  simp only [checkTechnique, unique, requireText_bind_eq_ok, unit_bind_eq_ok, require_eq_ok,
    raiseIf_eq_ok, forM_eq_ok, checkKey_eq_ok, checkRequiredValue_eq_ok] at h
  obtain ⟨hid, -, -, hcanonical, -, -, hadapter, -, hkinds, hkindsDistinct, hkindsValid, hevidence,
    hevidenceDistinct, hevidenceSafe, hpropertiesDistinct, hpropertiesSafe, hvaluesSafe,
    hvaluesDistinct, hdisjoint, -⟩ := h
  exact ⟨hid, hcanonical, hadapter, hkinds, hkindsDistinct, hkindsValid, hevidence,
    hevidenceDistinct, hevidenceSafe, hpropertiesDistinct, hpropertiesSafe, hvaluesSafe,
    hvaluesDistinct, hdisjoint⟩

/-- The preconditions a technique declares. -/
def declaredPreconditions (t : TechniqueFields) : List ValidationAdapterPrecondition :=
  t.eligibilityRequiredProperties.map (fun key => ⟨key, .present, ""⟩) ++
    t.eligibilityRequiredValues.map fun r => ⟨r.1, .equals, r.2⟩

/-- The contract a technique declares. -/
def declaredContract (t : TechniqueFields) : ValidationAdapterContract where
  contractId := t.techniqueId ++ ".contract.v1"
  techniqueId := t.techniqueId
  adapterKind := t.adapterKind
  targetKinds := t.targetKinds
  preconditions := declaredPreconditions t
  postconditions := t.evidenceKeys.map fun key => ⟨key, "present-when-confirmed"⟩
  sideEffectMode := "none"
  executionMode := "contract-only"

theorem isSpace_lowerAlnum {c : Char} (h : isLowerAlnum c = true) : isSpace c = false := by
  apply isSpace_of_isAlnum
  rw [isLowerAlnum, Bool.or_eq_true] at h
  rw [isAlnum]
  rcases h with h | h
  · rw [h]
    rfl
  · rw [h, Bool.or_true]

/-- A property key is trimmed. -/
theorem requiredText_of_isPropertyKey {key : String} (h : isPropertyKey key = true) :
    requiredText key := by
  unfold isPropertyKey at h
  split at h
  · cases h
  · next c rest hchars =>
    simp only [Bool.and_eq_true, List.all_eq_true, Bool.or_eq_true, decide_eq_true_eq] at h
    obtain ⟨⟨hc, -⟩, hrest⟩ := h
    refine ⟨fun hempty => ?_, strip_eq_self fun d hd => ?_⟩
    · rw [hempty] at hchars
      cases hchars
    · rw [hchars, List.mem_cons] at hd
      rcases hd with rfl | hd
      · exact isSpace_lowerAlnum (by rw [isLowerAlnum, hc]; rfl)
      · rcases hrest d hd with hd | rfl
        · exact isSpace_lowerAlnum hd
        · decide

/-- A character is a separator or in a part. -/
theorem mem_splitOnP {p : Char → Bool} {l : List Char} {c : Char} (h : c ∈ l) :
    p c = true ∨ ∃ part ∈ l.splitOnP p, c ∈ part := by
  induction l with
  | nil => exact absurd h List.not_mem_nil
  | cons d l ih =>
    have hne : l.splitOnP p ≠ [] := List.splitOnP_ne_nil p l
    obtain ⟨first, rest, hparts⟩ := List.exists_cons_of_ne_nil hne
    rw [List.splitOnP_cons_eq_if_modifyHead, hparts]
    rw [hparts] at ih
    by_cases hd : p d = true
    · rw [if_pos hd]
      rcases List.mem_cons.mp h with rfl | h
      · exact .inl hd
      · exact (ih h).imp id fun ⟨part, hpart, hc⟩ => ⟨part, List.mem_cons_of_mem _ hpart, hc⟩
    · rw [if_neg hd]
      rcases List.mem_cons.mp h with rfl | h
      · exact .inr ⟨c :: first, List.mem_cons_self, List.mem_cons_self⟩
      · refine (ih h).imp id fun ⟨part, hpart, hc⟩ => ?_
        rcases List.mem_cons.mp hpart with rfl | hpart
        · exact ⟨d :: part, List.mem_cons_self, List.mem_cons_of_mem _ hc⟩
        · exact ⟨part, List.mem_cons_of_mem _ hpart, hc⟩

/-- A canonical identifier has no white space. -/
theorem isSpace_of_isCanonicalId {id : String} (h : isCanonicalId id = true) :
    ∀ c ∈ id.toList, isSpace c = false := by
  intro c hc
  rcases mem_splitOnP (p := fun c => c = '.' || c = '-') hc with hseparator | ⟨part, hpart, hc⟩
  · simp only [Bool.or_eq_true, decide_eq_true_eq] at hseparator
    rcases hseparator with rfl | rfl <;> decide
  · have hall := List.all_eq_true.mp h part hpart
    rw [Bool.and_eq_true] at hall
    exact isSpace_lowerAlnum (List.all_eq_true.mp hall.2 c hc)

/-- The identifier of a declared contract is canonical. -/
theorem isCanonicalId_contract {id : String} (h : isCanonicalId id = true) :
    isCanonicalId (id ++ ".contract.v1") = true := by
  have hsplit : (id.toList ++ '.' :: "contract.v1".toList).splitOnP
        (fun c => c = '.' || c = '-') =
      id.toList.splitOnP (fun c => c = '.' || c = '-') ++
        "contract.v1".toList.splitOnP fun c => c = '.' || c = '-' :=
    List.splitOnP_append_cons _ _ rfl
  have hchars : (id ++ ".contract.v1").toList = id.toList ++ '.' :: "contract.v1".toList := by
    rw [String.toList_append]
    rfl
  rw [isCanonicalId, hchars, hsplit, List.all_append, Bool.and_eq_true]
  exact ⟨h, by decide⟩

theorem requiredText_contract {id : String} (h : isCanonicalId id = true) :
    requiredText (id ++ ".contract.v1") := by
  refine ⟨fun hempty => ?_, strip_eq_self (isSpace_of_isCanonicalId (isCanonicalId_contract h))⟩
  have hchars := congrArg String.toList hempty
  rw [String.toList_append] at hchars
  exact absurd (List.append_eq_nil_iff.mp hchars).2 (by decide)

theorem requireText_of {value field : String} (h : requiredText value) :
    requireText value field = .ok value := requireText_eq_ok.mpr ⟨h, rfl⟩

theorem safeKey_of {key field : String} (hkey : isPropertyKey key = true)
    (hsafe : ¬ isSecretLike key = true) : safeKey key field = .ok () := by
  rw [safeKey, requireText_of (requiredText_of_isPropertyKey hkey), ok_bind, require_of hkey,
    ok_bind, raiseIf_of_not hsafe]

/-- What a technique declares passes the checks of a contract. -/
theorem checkContract_declared {t : TechniqueFields} (h : Reviewed t) :
    checkContract (declaredContract t) = .ok () := by
  have hkeys : ((declaredPreconditions t).map fun p => p.key).Nodup := by
    rw [declaredPreconditions, List.map_append, List.map_map, List.map_map]
    have hproperties : (t.eligibilityRequiredProperties.map fun key => key).Nodup := by
      rw [List.map_id']
      exact h.properties_distinct
    refine List.Nodup.append hproperties h.values_distinct fun key hkey hkey' => ?_
    rw [List.mem_map] at hkey
    obtain ⟨key', hmem, rfl⟩ := hkey
    exact h.disjoint ⟨key', hmem, hkey'⟩
  have hpost : ((declaredContract t).postconditions.map fun p => p.evidenceKey).Nodup := by
    rw [declaredContract, List.map_map]
    have hevidence : (t.evidenceKeys.map fun key => key).Nodup := by
      rw [List.map_id']
      exact h.evidence_distinct
    exact hevidence
  have hsome : (declaredContract t).postconditions ≠ [] := by
    rw [declaredContract]
    exact fun hnil => h.evidenceKeys (List.map_eq_nil_iff.mp hnil)
  simp only [checkContract, requireText_bind_eq_ok, unit_bind_eq_ok, require_eq_ok, raiseIf_eq_ok]
  exact ⟨requiredText_contract h.canonical, h.techniqueId, isCanonicalId_contract h.canonical,
    h.canonical, h.adapterKind, rfl, rfl, h.targetKinds, h.targets_distinct, h.targets_valid, hkeys,
    hsome, hpost⟩

/-- **Every technique declares its contract.** -/
theorem contract_of_technique (t : ValidationTechniqueDefinition) :
    adapterContractFromTechnique t = .ok (declaredContract t.toTechniqueFields) := by
  have h := t.reviewed
  have hpresent : t.eligibilityRequiredProperties.mapM (fun key =>
      ValidationAdapterPrecondition.make key .present "") =
      .ok (t.eligibilityRequiredProperties.map fun key => ⟨key, .present, ""⟩) := by
    refine mapM_of fun key hkey => ?_
    obtain ⟨hform, hsafe⟩ := h.properties_safe key hkey
    rw [ValidationAdapterPrecondition.make, safeKey_of hform hsafe]
    rfl
  have hequal : t.eligibilityRequiredValues.mapM (fun r =>
      ValidationAdapterPrecondition.make r.1 .equals r.2) =
      .ok (t.eligibilityRequiredValues.map fun r => ⟨r.1, .equals, r.2⟩) := by
    refine mapM_of fun r hr => ?_
    obtain ⟨hform, hvalue, hsafe⟩ := h.values_safe r hr
    rw [ValidationAdapterPrecondition.make, safeKey_of hform hsafe, ok_bind]
    show (requireText r.2 "precondition value").bind _ = _
    rw [requireText_of hvalue]
    rfl
  have hpost : t.evidenceKeys.mapM (fun key =>
      ValidationAdapterPostcondition.make key "present-when-confirmed") =
      .ok (t.evidenceKeys.map fun key => ⟨key, "present-when-confirmed"⟩) := by
    refine mapM_of fun key hkey => ?_
    obtain ⟨hform, hsafe⟩ := h.evidence_safe key hkey
    rw [ValidationAdapterPostcondition.make, safeKey_of hform hsafe, ok_bind, require_of rfl]
    rfl
  have hcheck : checkContract (declaredContract t.toTechniqueFields) = .ok () :=
    checkContract_declared h
  rw [adapterContractFromTechnique, hpresent, ok_bind, hequal, ok_bind, hpost, ok_bind]
  show (checkContract (declaredContract t.toTechniqueFields)).bind _ = _
  rw [hcheck]
  rfl

theorem assertContractMatches (t : ValidationTechniqueDefinition) :
    assertContractMatchesTechnique (declaredContract t.toTechniqueFields) t = .ok () := by
  rw [assertContractMatchesTechnique, contract_of_technique, ok_bind]
  exact raiseIf_of_not (by simp [declaredContract])

/-- **Every registry of techniques gives a registry of their contracts.** -/
theorem contracts_of_registry (registry : ValidationTechniqueRegistry) :
    ∃ contracts, contractsOf registry = .ok contracts ∧ ∀ t ∈ registry.techniques,
      contracts.forTechnique t.techniqueId = .ok (declaredContract t.toTechniqueFields) := by
  have hdeclared : registry.techniques.mapM adapterContractFromTechnique =
      .ok (registry.techniques.map fun t => declaredContract t.toTechniqueFields) :=
    mapM_of fun t _ => contract_of_technique t
  have hperm := sortedBy_perm (fun c : ValidationAdapterContract => c.techniqueId)
    (registry.techniques.map fun t => declaredContract t.toTechniqueFields)
  have hids : ((registry.techniques.map fun t => declaredContract t.toTechniqueFields).map
      fun c => c.techniqueId).Nodup := by
    rw [List.map_map]
    exact registry.distinct
  have hcontractIds : ((registry.techniques.map fun t => declaredContract t.toTechniqueFields).map
      fun c => c.contractId).Nodup := by
    have hinjective : Function.Injective fun id : String => id ++ ".contract.v1" :=
      fun a b hab => String.append_left_inj _ |>.mp hab
    have hmapped := registry.distinct.map hinjective
    rw [List.map_map] at hmapped ⊢
    exact hmapped
  refine ⟨⟨sortedBy (fun c => c.techniqueId)
    (registry.techniques.map fun t => declaredContract t.toTechniqueFields)⟩, ?_, fun t ht => ?_⟩
  · rw [contractsOf, hdeclared, ok_bind, ValidationAdapterContractRegistry.make,
      require_of ((hperm.map _).nodup_iff.mpr hids), ok_bind,
      require_of ((hperm.map _).nodup_iff.mpr hcontractIds)]
    rfl
  · have hfind := (Keyed.find?_eq_some_iff ((hperm.map _).nodup_iff.mpr hids)).mpr
      ⟨hperm.mem_iff.mpr (List.mem_map_of_mem ht), rfl⟩
    rw [ValidationAdapterContractRegistry.forTechnique, requireText_of t.reviewed.techniqueId,
      ok_bind]
    exact getOrRaise_eq_ok.mpr hfind

end NightRecon.RedEngine.ValidationTechniques
