import NightRecon.Lib.Commitment
import NightRecon.SharedCore.Authorization
import NightRecon.WhiteEngine.EngagementDomain

/-!
# Engagements, their scopes and their rules

`nightrecon_white_engine/engagement_domain.py`, continued: what operators approve before anything
is compiled from it.

* `EngagementContact`, `ScopeDefinition`, `RulesOfEngagement`, `EngagementDefinition` — the records,
  with what their constructors checked as fields; each is rebuilt from its own fields (`make_args`);
* `EngagementDefinition.fromDict_of` — an engagement is read from any document with its members,
  `EngagementDefinition.fromDict_loads` from its canonical text;
* `EngagementDefinition.eq_of_fingerprint` — its fingerprint binds it.
-/

namespace NightRecon.WhiteEngine.EngagementDomain

open NightRecon.Lib
open NightRecon.Lib.Checks
open NightRecon.Lib.Commitment
open NightRecon.Lib.Datetime
open NightRecon.Lib.Json
open NightRecon.Lib.Sha256
open NightRecon.Lib.Text
open NightRecon.Documents
open NightRecon.DocumentMembers
open NightRecon.SharedCore.Authorization
open NightRecon.WhiteEngine.Fields
open NightRecon.WhiteEngine.Reading

/-! ## Field checks -/

/-- Source: `engagement_domain.py` `_optional_text`. -/
def optionalText (value : Option String) (field : String) :
    Py (PLift (∀ s ∈ value, requiredText s)) :=
  prove (∀ s ∈ value, requiredText s)
    (valueError (field ++ " must be a nonblank, trimmed string"))

theorem optionalText_of {value : Option String} {field : String}
    (h : ∀ s ∈ value, requiredText s) : optionalText value field = .ok ⟨h⟩ := prove_of h

/-- The check of a version: an integer from one on. -/
def checkVersion (version : Int) : Py (PLift (1 ≤ version.toNat)) :=
  prove (1 ≤ version.toNat) (valueError "version must be a positive integer")

theorem checkVersion_of {version : Nat} (h : 1 ≤ version) :
    checkVersion version = .ok ⟨h⟩ := by
  unfold checkVersion
  exact prove_of (c := 1 ≤ (version : Int).toNat) h

/-- `_TECHNIQUE_PATTERN.fullmatch`. -/
def isTechnique (s : String) : Bool :=
  match s.toList with
  | [] => false
  | c :: cs =>
      isAlnum c && cs.length ≤ 127 &&
        cs.all fun c => isAlnum c || c ∈ ['.', '_', ':', '/', ' ', '-']

/-- A technique that passed its checks. -/
def ValidTechnique (s : String) : Prop := requiredText s ∧ isTechnique s = true

instance (s : String) : Decidable (ValidTechnique s) := inferInstanceAs (Decidable (_ ∧ _))

/-- The checks of one technique in `_unique_sorted_text`. -/
def checkTechnique (field value : String) : Py (PLift (ValidTechnique value)) := do
  let h₁ ← checkText .valueError value field
  let h₂ ← prove (isTechnique value = true) (valueError (field ++ " contains an invalid value"))
  return ⟨h₁.down, h₂.down⟩

theorem checkTechnique_of {field value : String} (h : ValidTechnique value) :
    checkTechnique field value = .ok ⟨h⟩ := by
  unfold checkTechnique
  rw [checkText_of h.1, ok_bind, prove_of h.2]
  rfl

/-- A sorted tuple of techniques without duplicates. -/
abbrev Techniques (minimum : Nat) := SortedUnique ValidTechnique minimum

/-- A sorted tuple of trimmed texts without duplicates. -/
abbrev Texts (minimum : Nat) := SortedUnique requiredText minimum

/-- Source: `engagement_domain.py` `_unique_sorted_text`, with `_TECHNIQUE_PATTERN`. -/
def uniqueTechniques (values : List String) (field : String) (minimum : Nat) :
    Py (Techniques minimum) :=
  sortedUnique .valueError (checkTechnique field) values field minimum

/-- Source: `engagement_domain.py` `_unique_sorted_text`, without a pattern. -/
def uniqueTexts (values : List String) (field : String) (minimum : Nat) : Py (Texts minimum) :=
  sortedUnique .valueError (fun v => checkText .valueError v field) values field minimum

theorem uniqueTechniques_values {minimum : Nat} (t : Techniques minimum) (field : String) :
    uniqueTechniques t.values field minimum = .ok t :=
  sortedUnique_values (fun _ h => checkTechnique_of h) t field

theorem uniqueTexts_values {minimum : Nat} (t : Texts minimum) (field : String) :
    uniqueTexts t.values field minimum = .ok t :=
  sortedUnique_values (fun _ h => checkText_of h) t field

/-! ## Contacts -/

/-- The arguments of the contact constructor. -/
structure ContactArgs where
  contactId : String
  displayName : String
  role : String
  email : Option String
  phone : Option String
  deriving DecidableEq

/-- Source: `engagement_domain.py` `EngagementContact`. -/
structure EngagementContact where
  contactId : String
  displayName : String
  role : String
  email : Option String
  phone : Option String
  contactId_valid : isIdentifier contactId = true
  displayName_required : requiredText displayName
  role_required : requiredText role
  email_required : ∀ s ∈ email, requiredText s
  phone_required : ∀ s ∈ phone, requiredText s

/-- Source: `engagement_domain.py` `EngagementContact.__post_init__`. -/
def ContactArgs.make (a : ContactArgs) : Py EngagementContact := do
  let h₁ ← checkIdentifier .valueError a.contactId "contact_id"
  let h₂ ← checkText .valueError a.displayName "display_name"
  let h₃ ← checkText .valueError a.role "role"
  let h₄ ← optionalText a.email "email"
  let h₅ ← optionalText a.phone "phone"
  return ⟨a.contactId, a.displayName, a.role, a.email, a.phone, identifier_of h₁, h₂.down, h₃.down,
    h₄.down, h₅.down⟩

namespace EngagementContact

/-- The arguments a contact was built from. -/
@[reducible] def args (c : EngagementContact) : ContactArgs :=
  ⟨c.contactId, c.displayName, c.role, c.email, c.phone⟩

theorem make_args (c : EngagementContact) : c.args.make = .ok c := by
  unfold ContactArgs.make
  rw [checkIdentifier_of c.contactId_valid, ok_bind, checkText_of c.displayName_required, ok_bind,
    checkText_of c.role_required, ok_bind, optionalText_of c.email_required, ok_bind,
    optionalText_of c.phone_required, ok_bind]
  rfl

/-- The members of a contact's document. -/
def members (c : EngagementContact) : List (String × Json) :=
  [("contact_id", .str c.contactId),
    ("display_name", .str c.displayName),
    ("role", .str c.role),
    ("email", .ofOption c.email),
    ("phone", .ofOption c.phone)]

/-- Source: `engagement_domain.py` `EngagementContact.to_dict`. -/
def toDict (c : EngagementContact) : Json := .obj c.members

/-- The keys of a contact's document. -/
def required : List String := ["contact_id", "display_name", "role", "email", "phone"]

/-- The arguments `from_dict` hands to the constructor. -/
def readArgs (doc : Json) : Py ContactArgs := do
  let get := getItem doc
  return {
    contactId := ← get "contact_id" >>= readText .valueError "contact_id"
    displayName := ← get "display_name" >>= readText .valueError "display_name"
    role := ← get "role" >>= readText .valueError "role"
    email := ← get "email" >>= readOptionalText .valueError "email"
    phone := ← get "phone" >>= readOptionalText .valueError "phone" }

/-- Source: `engagement_domain.py` `EngagementContact.from_dict`. -/
def fromDict (doc : Json) : Py EngagementContact := do
  requireKeys doc required (valueError "engagement contact schema is not supported")
  let args ← readArgs doc
  args.make

theorem required_nodup : required.Nodup := by simp [required]

theorem valid_toDict (c : EngagementContact) : valid c.toDict := by
  refine ⟨required_nodup, ?_⟩
  simp only [members, membersValid, valid, valid_ofOption, and_self]

theorem normalMembers_members (c : EngagementContact) : normalMembers c.members = c.members := by
  simp only [normalMembers, members, List.map_cons, List.map_nil, normal, normal_ofOption]

/-- A contact is read from any document with its members. -/
theorem fromDict_of {doc : Json} {c : EngagementContact}
    (h : HasExactly doc (normalMembers c.members)) : fromDict doc = .ok c := by
  have hkeys : c.members.map (·.1) = required := rfl
  rw [normalMembers_members] at h
  have hhas := h.has
  simp only [members, has_cons, has_nil, and_true] at hhas
  obtain ⟨h₁, h₂, h₃, h₄, h₅⟩ := hhas
  have hread : readArgs doc = .ok c.args := by
    simp only [readArgs, getItem, h₁, h₂, h₃, h₄, h₅, getOrRaise_some, ok_bind, readText_str,
      readOptionalText_ofOption, pure_eq_ok]
  rw [fromDict, requireKeys_of h hkeys, ok_bind, hread, ok_bind, make_args]

theorem fromDict_normal (c : EngagementContact) : fromDict (normal c.toDict) = .ok c :=
  fromDict_of (hasExactly_normal c.valid_toDict.1)

end EngagementContact

/-! ## Scopes -/

/-- The parse of the exclusions, made only where there are some. -/
def excludedScope (values : List String) : Py (Option Scope) :=
  if values = [] then .ok none else (Scope.fromValues values).map some

/-- Source: `engagement_domain.py` `ScopeDefinition`. -/
structure ScopeDefinition where
  allowed : Texts 1
  excluded : Texts 0
  allowed_parse : (Scope.fromValues allowed.values).toOption.isSome = true
  excluded_parse : (excludedScope excluded.values).toOption.isSome = true

namespace ScopeDefinition

/-- Source: `engagement_domain.py` `ScopeDefinition.__post_init__`. -/
def make (allowed excluded : List String) : Py ScopeDefinition := do
  let allowed ← uniqueTexts allowed "allowed" 1
  let excluded ← uniqueTexts excluded "excluded" 0
  let h₁ ← attempt (Scope.fromValues allowed.values)
  let h₂ ← attempt (excludedScope excluded.values)
  return ⟨allowed, excluded, h₁.down, h₂.down⟩

theorem make_values (s : ScopeDefinition) : make s.allowed.values s.excluded.values = .ok s := by
  unfold make
  rw [uniqueTexts_values, ok_bind, uniqueTexts_values, ok_bind, attempt_of s.allowed_parse, ok_bind,
    attempt_of s.excluded_parse, ok_bind]
  rfl

/-- The members of a scope's document. -/
def members (s : ScopeDefinition) : List (String × Json) :=
  [("allowed", .strings s.allowed.values), ("excluded", .strings s.excluded.values)]

/-- Source: `engagement_domain.py` `ScopeDefinition.to_dict`. -/
def toDict (s : ScopeDefinition) : Json := .obj s.members

/-- The keys of a scope's document. -/
def required : List String := ["allowed", "excluded"]

/-- Source: `engagement_domain.py` `ScopeDefinition.from_dict`. -/
def fromDict (doc : Json) : Py ScopeDefinition := do
  requireKeys doc required (valueError "scope definition schema is not supported")
  let listError := valueError "scope targets must be lists"
  let allowedDocs ← getItem doc "allowed" >>= readList listError
  let excludedDocs ← getItem doc "excluded" >>= readList listError
  let allowed ← readTexts .valueError "allowed" listError (.arr allowedDocs)
  let excluded ← readTexts .valueError "excluded" listError (.arr excludedDocs)
  make allowed excluded

theorem required_nodup : required.Nodup := by simp [required]

theorem valid_toDict (s : ScopeDefinition) : valid s.toDict := by
  refine ⟨required_nodup, ?_⟩
  simp only [members, membersValid, valid_strings, and_self]

theorem normalMembers_members (s : ScopeDefinition) : normalMembers s.members = s.members := by
  simp only [normalMembers, members, List.map_cons, List.map_nil, normal_strings]

/-- A scope is read from any document with its members. -/
theorem fromDict_of {doc : Json} {s : ScopeDefinition}
    (h : HasExactly doc (normalMembers s.members)) : fromDict doc = .ok s := by
  have hkeys : s.members.map (·.1) = required := rfl
  have hlist : ∀ (e : Exn) (l : List String), readList e (.strings l) = .ok (l.map .str) :=
    fun _ _ => rfl
  have htexts : ∀ (field : String) (e : Exn) (l : List String),
      readTexts .valueError field e (.arr (l.map .str)) = .ok l :=
    fun field e l => readTexts_strings .valueError field e l
  rw [normalMembers_members] at h
  have hhas := h.has
  simp only [members, has_cons, has_nil, and_true] at hhas
  obtain ⟨h₁, h₂⟩ := hhas
  unfold fromDict
  rw [requireKeys_of h hkeys]
  simp only [getItem, h₁, h₂, getOrRaise_some, ok_bind, hlist, htexts, make_values]

end ScopeDefinition

/-! ## Rules of engagement -/

/-- The members of `_VALID_INTRUSIVENESS`. -/
inductive Intrusiveness where
  | passive
  | safeActive
  | intrusive
  | destructive
  deriving DecidableEq

namespace Intrusiveness

def text : Intrusiveness → String
  | passive => "passive"
  | safeActive => "safe-active"
  | intrusive => "intrusive"
  | destructive => "destructive"

def ofText (s : String) : Option Intrusiveness :=
  [passive, safeActive, intrusive, destructive].find? fun i => i.text = s

@[simp] theorem ofText_text (i : Intrusiveness) : ofText i.text = some i := by
  cases i <;> rfl

theorem text_injective {i i' : Intrusiveness} (h : i.text = i'.text) : i = i' := by
  have hsome := congrArg ofText h
  rw [ofText_text, ofText_text] at hsome
  exact Option.some.inj hsome

end Intrusiveness

/-- The arguments of the constructor of the rules. -/
structure RulesArgs where
  schemaVersion : SchemaVersion
  engagementId : String
  version : Int
  title : String
  createdAt : String
  validFrom : String
  validUntil : String
  scope : ScopeDefinition
  allowedTechniques : List String
  prohibitedTechniques : List String
  maxIntrusiveness : String
  maxActions : Int
  dataHandling : DataHandlingPolicy
  deviationRequiresApproval : Bool
  notes : Option String

/-- Source: `engagement_domain.py` `RulesOfEngagement`. -/
structure RulesOfEngagement where
  schemaVersion : SchemaVersion
  engagementId : String
  version : Nat
  title : String
  createdAt : Timestamp
  validFrom : Timestamp
  validUntil : Timestamp
  scope : ScopeDefinition
  allowedTechniques : Techniques 1
  prohibitedTechniques : Techniques 0
  maxIntrusiveness : Intrusiveness
  maxActions : Nat
  dataHandling : DataHandlingPolicy
  deviationRequiresApproval : Bool
  notes : Option String
  engagementId_valid : isIdentifier engagementId = true
  version_pos : 1 ≤ version
  title_required : requiredText title
  window : validFrom.time < validUntil.time
  no_overlap : ∀ t ∈ allowedTechniques.values, t ∉ prohibitedTechniques.values
  maxActions_pos : 1 ≤ maxActions
  notes_required : ∀ s ∈ notes, requiredText s

/-- Source: `engagement_domain.py` `RulesOfEngagement.__post_init__`. -/
def RulesArgs.make (a : RulesArgs) : Py RulesOfEngagement := do
  let h₁ ← checkIdentifier .valueError a.engagementId "engagement_id"
  let h₂ ← checkVersion a.version
  let h₃ ← checkText .valueError a.title "title"
  let createdAt ← iso8601 .valueError a.createdAt "created_at"
  let validFrom ← iso8601 .valueError a.validFrom "valid_from"
  let validUntil ← iso8601 .valueError a.validUntil "valid_until"
  let h₄ ← prove (validFrom.time < validUntil.time)
    (valueError "valid_until must be later than valid_from")
  let allowed ← uniqueTechniques a.allowedTechniques "allowed_techniques" 1
  let prohibited ← uniqueTechniques a.prohibitedTechniques "prohibited_techniques" 0
  let h₅ ← prove (∀ t ∈ allowed.values, t ∉ prohibited.values)
    (valueError "a technique cannot be both allowed and prohibited")
  let maxIntrusiveness ← getOrRaise (Intrusiveness.ofText a.maxIntrusiveness)
    (valueError "unsupported max_intrusiveness")
  let h₆ ← prove (1 ≤ a.maxActions.toNat) (valueError "max_actions must be a positive integer")
  let h₇ ← optionalText a.notes "notes"
  return ⟨a.schemaVersion, a.engagementId, a.version.toNat, a.title, createdAt, validFrom,
    validUntil, a.scope, allowed, prohibited, maxIntrusiveness, a.maxActions.toNat, a.dataHandling,
    a.deviationRequiresApproval, a.notes, identifier_of h₁, h₂.down, h₃.down, earlier_of h₄,
    h₅.down, h₆.down, h₇.down⟩

namespace RulesOfEngagement

/-- The arguments rules were built from. -/
@[reducible] def args (r : RulesOfEngagement) : RulesArgs where
  schemaVersion := r.schemaVersion
  engagementId := r.engagementId
  version := r.version
  title := r.title
  createdAt := r.createdAt.text
  validFrom := r.validFrom.text
  validUntil := r.validUntil.text
  scope := r.scope
  allowedTechniques := r.allowedTechniques.values
  prohibitedTechniques := r.prohibitedTechniques.values
  maxIntrusiveness := r.maxIntrusiveness.text
  maxActions := r.maxActions
  dataHandling := r.dataHandling
  deviationRequiresApproval := r.deviationRequiresApproval
  notes := r.notes

/-- **Rules are rebuilt from their own fields.** -/
theorem make_args (r : RulesOfEngagement) : r.args.make = .ok r := by
  have hmax : 1 ≤ (r.maxActions : Int).toNat := r.maxActions_pos
  unfold RulesArgs.make
  dsimp only
  rw [checkIdentifier_of r.engagementId_valid, ok_bind, checkVersion_of r.version_pos, ok_bind,
    checkText_of r.title_required, ok_bind, iso8601_text, ok_bind, iso8601_text, ok_bind,
    iso8601_text, ok_bind, prove_of r.window, ok_bind, uniqueTechniques_values, ok_bind,
    uniqueTechniques_values, ok_bind, prove_of r.no_overlap, ok_bind, Intrusiveness.ofText_text,
    getOrRaise_some, ok_bind, prove_of hmax, ok_bind, optionalText_of r.notes_required, ok_bind]
  rfl

/-- The members of the rules' document. -/
def members (r : RulesOfEngagement) : List (String × Json) :=
  [("schema_version", r.schemaVersion.toJson),
    ("engagement_id", .str r.engagementId),
    ("version", .int r.version),
    ("title", .str r.title),
    ("created_at", .str r.createdAt.text),
    ("valid_from", .str r.validFrom.text),
    ("valid_until", .str r.validUntil.text),
    ("scope", r.scope.toDict),
    ("allowed_techniques", .strings r.allowedTechniques.values),
    ("prohibited_techniques", .strings r.prohibitedTechniques.values),
    ("max_intrusiveness", .str r.maxIntrusiveness.text),
    ("max_actions", .int r.maxActions),
    ("data_handling", r.dataHandling.toDict),
    ("deviation_requires_approval", .bool r.deviationRequiresApproval),
    ("notes", .ofOption r.notes)]

/-- Source: `engagement_domain.py` `RulesOfEngagement.to_dict`. -/
def toDict (r : RulesOfEngagement) : Json := .obj r.members

/-- Source: `engagement_domain.py` `RulesOfEngagement.fingerprint`. -/
def fingerprint (r : RulesOfEngagement) : String := Fields.fingerprint r.toDict

/-- The keys of the rules' document. -/
def required : List String :=
  ["schema_version", "engagement_id", "version", "title", "created_at", "valid_from",
    "valid_until", "scope", "allowed_techniques", "prohibited_techniques", "max_intrusiveness",
    "max_actions", "data_handling", "deviation_requires_approval", "notes"]

/-- The arguments `from_dict` hands to the constructor. -/
def readArgs (doc : Json) : Py RulesArgs := do
  let get := getItem doc
  let text := fun field => get field >>= readText .valueError field
  let allowed ← get "allowed_techniques" >>= readTexts .valueError "allowed_techniques"
    (valueError "allowed_techniques must be a list")
  let prohibited ← get "prohibited_techniques" >>= readTexts .valueError "prohibited_techniques"
    (valueError "prohibited_techniques must be a list")
  let scope ← get "scope" >>= ScopeDefinition.fromDict
  let dataHandling ← get "data_handling" >>= DataHandlingPolicy.fromDict
  return {
    schemaVersion := ← get "schema_version" >>=
      SchemaVersion.ofJson (valueError "unsupported ROE schema version")
    engagementId := ← text "engagement_id"
    version := ← get "version" >>= readInt (valueError "version must be a positive integer")
    title := ← text "title"
    createdAt := ← text "created_at"
    validFrom := ← text "valid_from"
    validUntil := ← text "valid_until"
    scope := scope
    allowedTechniques := allowed
    prohibitedTechniques := prohibited
    maxIntrusiveness := ← get "max_intrusiveness" >>=
      readStr (valueError "unsupported max_intrusiveness")
    maxActions := ← get "max_actions" >>=
      readInt (valueError "max_actions must be a positive integer")
    dataHandling := dataHandling
    deviationRequiresApproval := ← get "deviation_requires_approval" >>=
      readBool (valueError "deviation_requires_approval must be boolean")
    notes := ← get "notes" >>= readOptionalText .valueError "notes" }

/-- Source: `engagement_domain.py` `RulesOfEngagement.from_dict`. -/
def fromDict (doc : Json) : Py RulesOfEngagement := do
  requireKeys doc required (valueError "ROE schema is not supported")
  let args ← readArgs doc
  args.make

theorem required_nodup : required.Nodup := by simp [required]

theorem valid_toDict (r : RulesOfEngagement) : valid r.toDict := by
  refine ⟨required_nodup, ?_⟩
  simp only [members, membersValid, valid, valid_strings, valid_ofOption,
    SchemaVersion.valid_toJson, r.scope.valid_toDict, r.dataHandling.valid_toDict, and_self]

/-- **Rules are read from any document with their members.** -/
theorem fromDict_of {doc : Json} {r : RulesOfEngagement}
    (h : HasExactly doc (normalMembers r.members)) : fromDict doc = .ok r := by
  have hkeys : (normalMembers r.members).map (·.1) = required := rfl
  have hscope : ScopeDefinition.fromDict (normal r.scope.toDict) = .ok r.scope :=
    ScopeDefinition.fromDict_of (hasExactly_normal r.scope.valid_toDict.1)
  have hpolicy : DataHandlingPolicy.fromDict (normal r.dataHandling.toDict) = .ok r.dataHandling :=
    DataHandlingPolicy.fromDict_of (hasExactly_normal r.dataHandling.valid_toDict.1)
  have hhas := h.has
  simp only [normalMembers, members, List.map_cons, List.map_nil, SchemaVersion.normal_toJson,
    normal_strings, normal_ofOption, has_cons, has_nil, and_true] at hhas
  obtain ⟨h₁, h₂, h₃, h₄, h₅, h₆, h₇, h₈, h₉, h₁₀, h₁₁, h₁₂, h₁₃, h₁₄, h₁₅⟩ := hhas
  simp only [normal] at h₂ h₃ h₄ h₅ h₆ h₇ h₁₁ h₁₂ h₁₄
  have hread : readArgs doc = .ok r.args := by
    simp only [readArgs, getItem, h₁, h₂, h₃, h₄, h₅, h₆, h₇, h₈, h₉, h₁₀, h₁₁, h₁₂, h₁₃, h₁₄, h₁₅,
      getOrRaise_some, ok_bind, readTexts_strings, hscope, hpolicy, SchemaVersion.ofJson_toJson,
      readStr_str, readText_str, readInt_int, readBool_bool, readOptionalText_ofOption, pure_eq_ok]
  rw [fromDict, requireKeys_of h hkeys, ok_bind, hread, ok_bind, make_args]

end RulesOfEngagement

/-! ## Engagements -/

/-- The members of `_VALID_STATUSES`. -/
inductive EngagementStatus where
  | planned
  | active
  | paused
  | completed
  | archived
  deriving DecidableEq

namespace EngagementStatus

def text : EngagementStatus → String
  | planned => "planned"
  | active => "active"
  | paused => "paused"
  | completed => "completed"
  | archived => "archived"

def ofText (s : String) : Option EngagementStatus :=
  [planned, active, paused, completed, archived].find? fun e => e.text = s

@[simp] theorem ofText_text (e : EngagementStatus) : ofText e.text = some e := by
  cases e <;> rfl

end EngagementStatus

/-- The arguments of the engagement constructor. -/
structure EngagementArgs where
  schemaVersion : SchemaVersion
  engagementId : String
  version : Int
  name : String
  createdAt : String
  status : String
  ownerContactId : String
  contacts : List EngagementContact
  roe : RulesOfEngagement
  description : Option String

/-- Source: `engagement_domain.py` `EngagementDefinition`. -/
structure EngagementDefinition where
  schemaVersion : SchemaVersion
  engagementId : String
  version : Nat
  name : String
  createdAt : Timestamp
  status : EngagementStatus
  ownerContactId : String
  contacts : List EngagementContact
  roe : RulesOfEngagement
  description : Option String
  engagementId_valid : isIdentifier engagementId = true
  version_pos : 1 ≤ version
  name_required : requiredText name
  ownerContactId_valid : isIdentifier ownerContactId = true
  contacts_ne_nil : contacts ≠ []
  contacts_sorted : sortedBy (·.contactId) contacts = contacts
  contacts_nodup : (contacts.map (·.contactId)).Nodup
  owner_mem : ownerContactId ∈ contacts.map (·.contactId)
  roe_engagement : roe.engagementId = engagementId
  description_required : ∀ s ∈ description, requiredText s

/-- The contacts in the order they are kept in. -/
def EngagementArgs.sortedContacts (a : EngagementArgs) : List EngagementContact :=
  sortedBy (·.contactId) a.contacts

theorem EngagementArgs.sortedContacts_ne_nil {a : EngagementArgs} (h : a.contacts ≠ []) :
    a.sortedContacts ≠ [] := by
  intro hnil
  have hperm := sortedBy_perm (·.contactId) a.contacts
  rw [← sortedContacts, hnil] at hperm
  exact h hperm.nil_eq.symm

theorem EngagementArgs.sortedContacts_sorted (a : EngagementArgs) :
    sortedBy (·.contactId) a.sortedContacts = a.sortedContacts :=
  sortedBy_eq_self (sortedBy_pairwise _ a.contacts)

/-- Source: `engagement_domain.py` `EngagementDefinition.__post_init__`. -/
def EngagementArgs.make (a : EngagementArgs) : Py EngagementDefinition := do
  let h₁ ← checkIdentifier .valueError a.engagementId "engagement_id"
  let h₂ ← checkVersion a.version
  let h₃ ← checkText .valueError a.name "name"
  let createdAt ← iso8601 .valueError a.createdAt "created_at"
  let status ← getOrRaise (EngagementStatus.ofText a.status)
    (valueError "unsupported engagement status")
  let h₄ ← checkIdentifier .valueError a.ownerContactId "owner_contact_id"
  let h₅ ← prove (a.contacts ≠ []) (valueError "contacts must be a nonempty tuple")
  let h₆ ← prove (a.sortedContacts.map (·.contactId)).Nodup
    (valueError "contact_id values must be unique")
  let h₇ ← prove (a.ownerContactId ∈ a.sortedContacts.map (·.contactId))
    (valueError "owner_contact_id must identify an engagement contact")
  let h₈ ← prove (a.roe.engagementId = a.engagementId)
    (valueError "ROE must belong to the engagement")
  let h₉ ← optionalText a.description "description"
  return ⟨a.schemaVersion, a.engagementId, a.version.toNat, a.name, createdAt, status,
    a.ownerContactId, a.sortedContacts, a.roe, a.description, identifier_of h₁, h₂.down, h₃.down,
    identifier_of h₄, a.sortedContacts_ne_nil h₅.down, a.sortedContacts_sorted, h₆.down, h₇.down,
    h₈.down, h₉.down⟩

namespace EngagementDefinition

/-- The arguments an engagement was built from. -/
@[reducible] def args (e : EngagementDefinition) : EngagementArgs where
  schemaVersion := e.schemaVersion
  engagementId := e.engagementId
  version := e.version
  name := e.name
  createdAt := e.createdAt.text
  status := e.status.text
  ownerContactId := e.ownerContactId
  contacts := e.contacts
  roe := e.roe
  description := e.description

theorem sortedContacts_args (e : EngagementDefinition) : e.args.sortedContacts = e.contacts :=
  e.contacts_sorted

/-- **An engagement is rebuilt from its own fields.** -/
theorem make_args (e : EngagementDefinition) : e.args.make = .ok e := by
  have hsorted := e.sortedContacts_args
  have hnodup : (e.args.sortedContacts.map (·.contactId)).Nodup := by
    rw [hsorted]
    exact e.contacts_nodup
  have howner : e.args.ownerContactId ∈ e.args.sortedContacts.map (·.contactId) := by
    rw [hsorted]
    exact e.owner_mem
  unfold EngagementArgs.make
  rw [checkIdentifier_of e.engagementId_valid, ok_bind, checkVersion_of e.version_pos, ok_bind,
    checkText_of e.name_required, ok_bind, iso8601_text, ok_bind, EngagementStatus.ofText_text,
    getOrRaise_some, ok_bind, checkIdentifier_of e.ownerContactId_valid, ok_bind,
    prove_of e.contacts_ne_nil, ok_bind, prove_of hnodup, ok_bind, prove_of howner, ok_bind,
    prove_of e.roe_engagement, ok_bind, optionalText_of e.description_required, ok_bind]
  simp only [hsorted, pure_eq_ok, Int.toNat_natCast]

/-- The members of an engagement's document. -/
def members (e : EngagementDefinition) : List (String × Json) :=
  [("schema_version", e.schemaVersion.toJson),
    ("engagement_id", .str e.engagementId),
    ("version", .int e.version),
    ("name", .str e.name),
    ("created_at", .str e.createdAt.text),
    ("status", .str e.status.text),
    ("owner_contact_id", .str e.ownerContactId),
    ("contacts", .arr (e.contacts.map EngagementContact.toDict)),
    ("roe", e.roe.toDict),
    ("description", .ofOption e.description)]

/-- Source: `engagement_domain.py` `EngagementDefinition.to_dict`. -/
def toDict (e : EngagementDefinition) : Json := .obj e.members

/-- Source: `engagement_domain.py` `EngagementDefinition.canonical_json`. -/
def canonicalJson (e : EngagementDefinition) : String := write e.toDict

/-- Source: `engagement_domain.py` `EngagementDefinition.fingerprint`. -/
def fingerprint (e : EngagementDefinition) : String := Fields.fingerprint e.toDict

/-- The keys of an engagement's document. -/
def required : List String :=
  ["schema_version", "engagement_id", "version", "name", "created_at", "status",
    "owner_contact_id", "contacts", "roe", "description"]

/-- The arguments `from_dict` hands to the constructor. -/
def readArgs (doc : Json) : Py EngagementArgs := do
  let get := getItem doc
  let text := fun field => get field >>= readText .valueError field
  let contactDocs ← get "contacts" >>= readList (valueError "contacts must be a list")
  return {
    schemaVersion := ← get "schema_version" >>=
      SchemaVersion.ofJson (valueError "unsupported engagement definition schema version")
    engagementId := ← text "engagement_id"
    version := ← get "version" >>= readInt (valueError "version must be a positive integer")
    name := ← text "name"
    createdAt := ← text "created_at"
    status := ← get "status" >>= readStr (valueError "unsupported engagement status")
    ownerContactId := ← text "owner_contact_id"
    contacts := ← contactDocs.mapM EngagementContact.fromDict
    roe := ← get "roe" >>= RulesOfEngagement.fromDict
    description := ← get "description" >>= readOptionalText .valueError "description" }

/-- Source: `engagement_domain.py` `EngagementDefinition.from_dict`. -/
def fromDict (doc : Json) : Py EngagementDefinition := do
  requireKeys doc required (valueError "engagement definition schema is not supported")
  let args ← readArgs doc
  args.make

theorem required_nodup : required.Nodup := by simp [required]

theorem valid_toDict (e : EngagementDefinition) : valid e.toDict := by
  have hcontacts : valid (.arr (e.contacts.map EngagementContact.toDict)) :=
    valid_arr_map fun c _ => c.valid_toDict
  refine ⟨required_nodup, ?_⟩
  simp only [members, membersValid, hcontacts, e.roe.valid_toDict, valid_ofOption,
    SchemaVersion.valid_toJson, and_true]
  simp only [valid, and_self]

/-- **An engagement is read from any document with its members.** -/
theorem fromDict_of {doc : Json} {e : EngagementDefinition}
    (h : HasExactly doc (normalMembers e.members)) : fromDict doc = .ok e := by
  have hkeys : (normalMembers e.members).map (·.1) = required := rfl
  have hroe : RulesOfEngagement.fromDict (normal e.roe.toDict) = .ok e.roe :=
    RulesOfEngagement.fromDict_of (hasExactly_normal e.roe.valid_toDict.1)
  have hcontacts : (e.contacts.map (normal ∘ EngagementContact.toDict)).mapM
      EngagementContact.fromDict = .ok e.contacts :=
    mapM_read fun c _ => c.fromDict_normal
  have hhas := h.has
  simp only [normalMembers, members, List.map_cons, List.map_nil, SchemaVersion.normal_toJson,
    normal_ofOption, has_cons, has_nil, and_true] at hhas
  obtain ⟨h₁, h₂, h₃, h₄, h₅, h₆, h₇, h₈, h₉, h₁₀⟩ := hhas
  simp only [normal, elemsNormal_eq_map, List.map_map] at h₂ h₃ h₄ h₅ h₆ h₇ h₈
  have hread : readArgs doc = .ok e.args := by
    simp only [readArgs, getItem, h₁, h₂, h₃, h₄, h₅, h₆, h₇, h₈, h₉, h₁₀, getOrRaise_some, ok_bind,
      SchemaVersion.ofJson_toJson, readStr_str, readText_str, readInt_int, readList_arr, hroe,
      hcontacts, readOptionalText_ofOption, pure_eq_ok]
  rw [fromDict, requireKeys_of h hkeys, ok_bind, hread, ok_bind, make_args]

/-- **The canonical text of an engagement reads back as the engagement.** -/
theorem fromDict_loads (e : EngagementDefinition) :
    (loads e.canonicalJson).map fromDict = some (.ok e) := by
  rw [canonicalJson, loads_write e.valid_toDict, Option.map_some]
  exact congrArg some (fromDict_of (hasExactly_normal e.valid_toDict.1))

/-- Its document binds an engagement. -/
theorem eq_of_normal_eq {e e' : EngagementDefinition} (h : normal e.toDict = normal e'.toDict) :
    e = e' := by
  have hread := fromDict_of (hasExactly_normal e.valid_toDict.1)
  rw [← toDict, h, toDict, fromDict_of (hasExactly_normal e'.valid_toDict.1)] at hread
  exact (Except.ok.inj hread).symm

/-- The text hashed for the fingerprint of an engagement. -/
def hashed (e : EngagementDefinition) : List Char := chars e.toDict

/-- **Engagements with one fingerprint are one engagement**, unless their texts collide. -/
theorem eq_of_fingerprint {e e' : EngagementDefinition}
    (h : NoCollision hexOf [e.hashed, e'.hashed]) (hfp : e.fingerprint = e'.fingerprint) :
    e = e' := by
  have htext : e.hashed = e'.hashed := h _ (by simp) _ (by simp) hfp
  apply eq_of_normal_eq
  apply normal_eq_of_write_eq e.valid_toDict e'.valid_toDict
  exact congrArg String.ofList htext

end EngagementDefinition

end NightRecon.WhiteEngine.EngagementDomain
