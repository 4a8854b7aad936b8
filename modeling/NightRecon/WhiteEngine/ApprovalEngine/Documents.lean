import NightRecon.Lib.Commitment
import NightRecon.WhiteEngine.ApprovalEngine.Workflow

/-!
# The documents of approval workflows

`nightrecon_white_engine/approval_engine.py`, continued: `to_dict`, `from_dict` and `from_json`.

* `make_fields`, `make_args` — principals, policies and requests are rebuilt from their own fields;
* `fromDict_of` — each is read from any document with its members;
* `ApprovalWorkflow.fromJson_toJson` — a written workflow reads back as itself;
* `ApprovalWorkflow.eq_of_fingerprint` — two workflows with one fingerprint are equal, unless two of
  the texts hashed for them collide.
-/

namespace NightRecon.WhiteEngine.ApprovalEngine

open NightRecon.Lib
open NightRecon.Lib.Checks
open NightRecon.Lib.Commitment
open NightRecon.Lib.Datetime
open NightRecon.Lib.Json
open NightRecon.Lib.Sha256
open NightRecon.Lib.Text
open NightRecon.Documents
open NightRecon.DocumentMembers
open NightRecon.SharedCore.Authorization
open NightRecon.SharedCore.EngagementPolicy (Impact isCapability)
open NightRecon.WhiteEngine.Fields
open NightRecon.WhiteEngine.Reading

/-- The roles of a tuple are checked again. -/
theorem roles_values {minimum : Nat} (roles : Roles minimum) (field : String) :
    sortedUnique .approvalWorkflowError (checkRole field) roles.values field minimum = .ok roles :=
  sortedUnique_values (fun _ h => checkIdentifier_of h) roles field

/-! ## Principals -/

namespace ApprovalPrincipal

theorem make_fields (p : ApprovalPrincipal) : make p.principalId p.roles.values = .ok p := by
  unfold make
  rw [checkIdentifier_of p.principalId_valid, ok_bind, roles_values, ok_bind]
  rfl

/-- The members of a principal's document. -/
def members (p : ApprovalPrincipal) : List (String × Json) :=
  [("principal_id", .str p.principalId), ("roles", .strings p.roles.values)]

theorem toDict_eq (p : ApprovalPrincipal) : p.toDict = .obj p.members := rfl

/-- The keys of a principal's document. -/
def required : List String := ["principal_id", "roles"]

/-- Source: `approval_engine.py` `ApprovalPrincipal.from_dict`. -/
def fromDict (doc : Json) : Py ApprovalPrincipal := do
  requireKeys doc required (workflowError "approval principal schema is not supported")
  let get := getItem doc
  let roles ← get "roles" >>= readTexts .approvalWorkflowError "roles"
    (workflowError "principal roles must be a list")
  make (← get "principal_id" >>= readText .approvalWorkflowError "principal_id") roles

theorem required_nodup : required.Nodup := by decide

theorem valid_toDict (p : ApprovalPrincipal) : valid p.toDict := by
  refine ⟨required_nodup, ?_⟩
  simp only [membersValid, valid, valid_strings, and_self]

/-- **A principal is read from any document with its members.** -/
theorem fromDict_of {doc : Json} {p : ApprovalPrincipal}
    (h : HasExactly doc (normalMembers p.members)) : fromDict doc = .ok p := by
  have hkeys : (normalMembers p.members).map (·.1) = required := rfl
  have hhas := h.has
  simp only [normalMembers, members, List.map_cons, List.map_nil, normal, normal_strings, has_cons,
    has_nil, and_true] at hhas
  obtain ⟨h₁, h₂⟩ := hhas
  rw [fromDict, requireKeys_of h hkeys]
  simp only [getItem, h₁, h₂, getOrRaise_some, ok_bind, readTexts_strings, readText_str,
    make_fields]

theorem fromDict_normal (p : ApprovalPrincipal) : fromDict (normal p.toDict) = .ok p :=
  fromDict_of (hasExactly_normal p.valid_toDict.1)

end ApprovalPrincipal

/-! ## Policies -/

/-- An optional number as a document. -/
def ofOptionNat : Option Nat → Json
  | none => .null
  | some n => .int n

/-- An optional number of a document. -/
def readOptionalInt (e : Exn) : Json → Py (Option Int)
  | .null => .ok none
  | j => do
      let n ← readInt e j
      return some n

@[simp] theorem readOptionalInt_ofOptionNat (e : Exn) (n : Option Nat) :
    readOptionalInt e (ofOptionNat n) = .ok (n.map Int.ofNat) := by
  cases n <;> rfl

@[simp] theorem valid_ofOptionNat (n : Option Nat) : valid (ofOptionNat n) := by
  cases n <;> exact trivial

@[simp] theorem normal_ofOptionNat (n : Option Nat) : normal (ofOptionNat n) = ofOptionNat n := by
  cases n <;> rfl

@[simp] theorem Mode.ofText_text (m : Mode) : Mode.ofText m.text = some m := by
  cases m <;> rfl

namespace ApprovalPolicy

theorem make_fields (p : ApprovalPolicy) :
    make p.mode.text p.requiredApprovals p.eligibleRoles.values p.requesterMayApprove
      p.allowDelegation (p.escalationAfterSeconds.map Int.ofNat) p.escalationRoles.values =
      .ok p := by
  have hpositive : ¬ (p.requiredApprovals : Int) < 1 := by
    have hpos := p.requiredApprovals_pos
    omega
  have hseconds : (p.escalationAfterSeconds.map Int.ofNat).map Int.toNat =
      p.escalationAfterSeconds := by
    cases p.escalationAfterSeconds <;> rfl
  have hdue : ∀ n ∈ (p.escalationAfterSeconds.map Int.ofNat).map Int.toNat, 1 ≤ n := by
    rw [hseconds]
    exact p.escalationAfterSeconds_pos
  unfold make
  rw [Mode.ofText_text, getOrRaise_some, ok_bind, raiseIf_of_not hpositive, ok_bind,
    prove_of (show p.mode.admits (p.requiredApprovals : Int).toNat from
      p.requiredApprovals_admitted), ok_bind, roles_values, ok_bind, roles_values, ok_bind,
    prove_of hdue, ok_bind]
  simp only [pure_eq_ok, Int.toNat_natCast, hseconds]

/-- The members of a policy's document. -/
def members (p : ApprovalPolicy) : List (String × Json) :=
  [("mode", .str p.mode.text),
    ("required_approvals", .int p.requiredApprovals),
    ("eligible_roles", .strings p.eligibleRoles.values),
    ("requester_may_approve", .bool p.requesterMayApprove),
    ("allow_delegation", .bool p.allowDelegation),
    ("escalation_after_seconds", ofOptionNat p.escalationAfterSeconds),
    ("escalation_roles", .strings p.escalationRoles.values)]

theorem toDict_eq (p : ApprovalPolicy) : p.toDict = .obj p.members := by
  rw [toDict, members]
  cases p.escalationAfterSeconds <;> rfl

/-- The keys of a policy's document. -/
def required : List String :=
  ["mode", "required_approvals", "eligible_roles", "requester_may_approve", "allow_delegation",
    "escalation_after_seconds", "escalation_roles"]

/-- Source: `approval_engine.py` `ApprovalPolicy.from_dict`. -/
def fromDict (doc : Json) : Py ApprovalPolicy := do
  requireKeys doc required (workflowError "approval policy schema is not supported")
  let get := getItem doc
  let eligible ← get "eligible_roles" >>= readTexts .approvalWorkflowError "eligible_roles"
    (workflowError "eligible_roles must be a list")
  let escalations ← get "escalation_roles" >>= readTexts .approvalWorkflowError "escalation_roles"
    (workflowError "escalation_roles must be a list")
  make
    (← get "mode" >>= readStr (workflowError "approval mode must be single, dual, or quorum"))
    (← get "required_approvals" >>= readInt (workflowError "required_approvals must be positive"))
    eligible
    (← get "requester_may_approve" >>=
      readBool (workflowError "requester_may_approve must be boolean"))
    (← get "allow_delegation" >>= readBool (workflowError "allow_delegation must be boolean"))
    (← get "escalation_after_seconds" >>= readOptionalInt
      (workflowError "escalation_after_seconds must be a positive integer"))
    escalations

theorem required_nodup : required.Nodup := by decide

theorem valid_toDict (p : ApprovalPolicy) : valid p.toDict := by
  rw [toDict_eq]
  refine ⟨required_nodup, ?_⟩
  simp only [members, membersValid, valid, valid_strings, valid_ofOptionNat, and_self]

/-- **A policy is read from any document with its members.** -/
theorem fromDict_of {doc : Json} {p : ApprovalPolicy}
    (h : HasExactly doc (normalMembers p.members)) : fromDict doc = .ok p := by
  have hkeys : (normalMembers p.members).map (·.1) = required := rfl
  have hhas := h.has
  simp only [normalMembers, members, List.map_cons, List.map_nil, normal, normal_strings,
    normal_ofOptionNat, has_cons, has_nil, and_true] at hhas
  obtain ⟨h₁, h₂, h₃, h₄, h₅, h₆, h₇⟩ := hhas
  rw [fromDict, requireKeys_of h hkeys]
  simp only [getItem, h₁, h₂, h₃, h₄, h₅, h₆, h₇, getOrRaise_some, ok_bind, readTexts_strings,
    readStr_str, readInt_int, readBool_bool, readOptionalInt_ofOptionNat, make_fields]

theorem fromDict_normal (p : ApprovalPolicy) : fromDict (normal p.toDict) = .ok p := by
  rw [toDict_eq]
  exact fromDict_of (hasExactly_normal required_nodup)

end ApprovalPolicy

/-! ## Requests -/

/-- The language's name of the type of a value. -/
def typeName : Json → String
  | .null => "NoneType"
  | .bool _ => "bool"
  | .int _ => "int"
  | .float _ => "float"
  | .str _ => "str"
  | .arr _ => "list"
  | .obj _ => "dict"

/-- A target, as `parse_target` takes it. -/
def readTarget : Json → Py String
  | .str s => .ok s
  | j => .error ⟨.attributeError, "'" ++ typeName j ++ "' object has no attribute 'strip'"⟩

@[simp] theorem readTarget_str (s : String) : readTarget (.str s) = .ok s := rfl

namespace ApprovalRequest

/-- The arguments a request was built from. -/
@[reducible] def args (r : ApprovalRequest) : RequestArgs where
  schemaVersion := r.schemaVersion
  requestId := r.requestId
  engagementId := r.engagementId
  policyBundleFingerprint := r.policyBundleFingerprint
  requestedAt := r.requestedAt.text
  expiresAt := r.expiresAt.text
  requestedBy := r.requestedBy
  principals := r.principals
  capability := r.capability
  target := r.target
  impact := r.impact.text
  reason := r.reason
  policy := r.policy
  operationId := r.operationId

/-- **A request is rebuilt from its own fields.** -/
theorem make_args (r : ApprovalRequest) : r.args.make = .ok r := by
  have hsorted := r.principals_sorted
  have hnonempty : ¬ r.principals = [] := by
    rintro hnil
    have hmem := r.requestedBy_mem
    rw [hnil] at hmem
    exact absurd hmem List.not_mem_nil
  have hnodup : ((sortedBy (·.principalId) r.principals).map (·.principalId)).Nodup := by
    rw [hsorted]
    exact r.principals_nodup
  have hrequester : r.requestedBy ∈ (sortedBy (·.principalId) r.principals).map (·.principalId) := by
    rw [hsorted]
    exact r.requestedBy_mem
  have henough : r.policy.requiredApprovals ≤ (eligiblePrincipals r.policy r.requestedBy
      (sortedBy (·.principalId) r.principals)).card := by
    rw [hsorted]
    exact r.enough_eligible
  unfold RequestArgs.make
  dsimp only
  rw [checkIdentifier_of r.requestId_valid, ok_bind, checkIdentifier_of r.engagementId_valid,
    ok_bind, checkSha256_of r.policyBundleFingerprint_valid, ok_bind, iso8601_text, ok_bind,
    iso8601_text, ok_bind, prove_of r.window, ok_bind, checkIdentifier_of r.requestedBy_valid,
    ok_bind, checkOptional_of r.operationId_valid, ok_bind, raiseIf_of_not hnonempty, ok_bind,
    prove_of hnodup, ok_bind, prove_of hrequester, ok_bind, prove_of r.capability_valid, ok_bind,
    normalTarget_of r.target_normal, ok_bind]
  dsimp only
  rw [Impact.ofText_text, getOrRaise_some, ok_bind, checkText_of r.reason_required, ok_bind,
    prove_of henough, ok_bind]
  simp only [pure_eq_ok, hsorted]

/-- The members of a request's document. -/
def members (r : ApprovalRequest) : List (String × Json) :=
  [("schema_version", r.schemaVersion.toJson),
    ("request_id", .str r.requestId),
    ("engagement_id", .str r.engagementId),
    ("policy_bundle_fingerprint", .str r.policyBundleFingerprint),
    ("requested_at", .str r.requestedAt.text),
    ("expires_at", .str r.expiresAt.text),
    ("requested_by", .str r.requestedBy),
    ("principals", .arr (r.principals.map ApprovalPrincipal.toDict)),
    ("capability", .str r.capability),
    ("target", .str r.target),
    ("impact", .str r.impact.text),
    ("reason", .str r.reason),
    ("policy", r.policy.toDict),
    ("operation_id", .ofOption r.operationId)]

theorem toDict_eq (r : ApprovalRequest) : r.toDict = .obj r.members := rfl

/-- The keys of a request's document. -/
def required : List String :=
  ["schema_version", "request_id", "engagement_id", "policy_bundle_fingerprint", "requested_at",
    "expires_at", "requested_by", "principals", "capability", "target", "impact", "reason",
    "policy", "operation_id"]

/-- The arguments `from_dict` hands to the constructor. -/
def readArgs (doc : Json) : Py RequestArgs := do
  let get := getItem doc
  let text := fun field => get field >>= readText .approvalWorkflowError field
  let principalDocs ← get "principals" >>= readList (workflowError "principals must be a list")
  return {
    schemaVersion := ← get "schema_version" >>=
      SchemaVersion.ofJson (workflowError "unsupported approval request schema")
    requestId := ← text "request_id"
    engagementId := ← text "engagement_id"
    policyBundleFingerprint := ← text "policy_bundle_fingerprint"
    requestedAt := ← text "requested_at"
    expiresAt := ← text "expires_at"
    requestedBy := ← text "requested_by"
    principals := ← principalDocs.mapM ApprovalPrincipal.fromDict
    capability := ← get "capability" >>= readStr (workflowError "capability is invalid")
    target := ← get "target" >>= readTarget
    impact := ← get "impact" >>=
      readStr (workflowError "impact must be low, standard, or high")
    reason := ← text "reason"
    policy := ← get "policy" >>= ApprovalPolicy.fromDict
    operationId := ← get "operation_id" >>=
      readOptionalText .approvalWorkflowError "operation_id" }

/-- Source: `approval_engine.py` `ApprovalRequest.from_dict`. -/
def fromDict (doc : Json) : Py ApprovalRequest := do
  requireKeys doc required (workflowError "approval request schema is not supported")
  let args ← readArgs doc
  args.make

theorem required_nodup : required.Nodup := by decide

theorem valid_toDict (r : ApprovalRequest) : valid r.toDict := by
  have hprincipals := valid_arr_map fun (p : ApprovalPrincipal) (_ : p ∈ r.principals) =>
    p.valid_toDict
  have hpolicy := r.policy.valid_toDict
  rw [valid] at hprincipals
  refine ⟨required_nodup, ?_⟩
  simp only [membersValid, valid, hprincipals, hpolicy, valid_ofOption,
    SchemaVersion.valid_toJson, and_self]

/-- **A request is read from any document with its members.** -/
theorem fromDict_of {doc : Json} {r : ApprovalRequest}
    (h : HasExactly doc (normalMembers r.members)) : fromDict doc = .ok r := by
  have hkeys : (normalMembers r.members).map (·.1) = required := rfl
  have hprincipals : (r.principals.map (normal ∘ ApprovalPrincipal.toDict)).mapM
      ApprovalPrincipal.fromDict = .ok r.principals := mapM_read fun p _ => p.fromDict_normal
  have hhas := h.has
  simp only [normalMembers, members, List.map_cons, List.map_nil, SchemaVersion.normal_toJson,
    normal_ofOption, has_cons, has_nil, and_true] at hhas
  obtain ⟨h₁, h₂, h₃, h₄, h₅, h₆, h₇, h₈, h₉, h₁₀, h₁₁, h₁₂, h₁₃, h₁₄⟩ := hhas
  simp only [normal, elemsNormal_eq_map, List.map_map] at h₂ h₃ h₄ h₅ h₆ h₇ h₈ h₉ h₁₀ h₁₁ h₁₂
  have hargs : readArgs doc = .ok r.args := by
    simp only [readArgs, getItem, h₁, h₂, h₃, h₄, h₅, h₆, h₇, h₈, h₉, h₁₀, h₁₁, h₁₂, h₁₃, h₁₄,
      getOrRaise_some, ok_bind, readList_arr, hprincipals, SchemaVersion.ofJson_toJson,
      readText_str, readStr_str, readTarget_str, ApprovalPolicy.fromDict_normal,
      readOptionalText_ofOption, pure_eq_ok]
  rw [fromDict, requireKeys_of h hkeys, ok_bind, hargs, ok_bind, make_args]

theorem fromDict_normal (r : ApprovalRequest) : fromDict (normal r.toDict) = .ok r :=
  fromDict_of (hasExactly_normal r.valid_toDict.1)

/-- The text that is hashed for the fingerprint. -/
def hashed (r : ApprovalRequest) : List Char := chars r.toDict

/-- **The text hashed for a request's fingerprint binds the request.** -/
theorem eq_of_hashed {r r' : ApprovalRequest} (h : r.hashed = r'.hashed) : r = r' := by
  have hread := r.fromDict_normal
  rw [normal_eq_of_write_eq r.valid_toDict r'.valid_toDict (congrArg String.ofList h),
    r'.fromDict_normal] at hread
  exact (Except.ok.inj hread).symm

end ApprovalRequest

/-! ## Events -/

/-- One detail of an event's document. -/
def readDetail : Json → Py (String × String)
  | .arr [key, value] => do
      let key ← readText .approvalWorkflowError "event detail key" key
      let value ← readText .approvalWorkflowError "event detail value" value
      return (key, value)
  | _ => .error (workflowError "approval event detail is invalid")

theorem mapM_readDetail (details : List (String × String)) :
    (details.map fun d => Json.strings [d.1, d.2]).mapM readDetail = .ok details :=
  mapM_read fun _ _ => rfl

namespace ApprovalEvent

/-- The members of the payload. -/
def payloadMembers (e : ApprovalEvent) : List (String × Json) :=
  [("schema_version", e.schemaVersion.toJson),
    ("event_id", .str e.eventId),
    ("request_id", .str e.requestId),
    ("sequence", .int e.sequence),
    ("event_type", .str e.eventType.text),
    ("occurred_at", .str e.occurredAt.text),
    ("actor_id", .str e.actorId),
    ("actor_role", .ofOption e.actorRole),
    ("reason", .str e.reason),
    ("details", pairs e.details),
    ("previous_event_fingerprint", .ofOption e.previousEventFingerprint)]

theorem payload_eq (e : ApprovalEvent) : e.payload = .obj e.payloadMembers := rfl

/-- The payload with the fingerprint. -/
def members (e : ApprovalEvent) : List (String × Json) :=
  e.payloadMembers ++ [("fingerprint", .str e.fingerprint)]

/-- Source: `approval_engine.py` `ApprovalEvent.to_dict`. -/
def toDict (e : ApprovalEvent) : Json := .obj e.members

/-- The keys of an event's document. -/
def required : List String :=
  ["schema_version", "event_id", "request_id", "sequence", "event_type", "occurred_at", "actor_id",
    "actor_role", "reason", "details", "previous_event_fingerprint", "fingerprint"]

/-- The arguments `from_dict` hands to the constructor. -/
def readArgs (doc : Json) : Py EventArgs := do
  let get := getItem doc
  let text := fun field => get field >>= readText .approvalWorkflowError field
  let optional := fun field => get field >>= readOptionalText .approvalWorkflowError field
  let detailDocs ← get "details" >>=
    readList (workflowError "approval event details must be a list")
  let details ← detailDocs.mapM readDetail
  return {
    schemaVersion := ← get "schema_version" >>=
      SchemaVersion.ofJson (workflowError "unsupported approval event schema")
    eventId := ← text "event_id"
    requestId := ← text "request_id"
    sequence := ← get "sequence" >>= readInt (workflowError "event sequence must be nonnegative")
    eventType := ← get "event_type" >>=
      readStr (workflowError "unsupported approval event type")
    occurredAt := ← text "occurred_at"
    actorId := ← text "actor_id"
    actorRole := ← optional "actor_role"
    reason := ← text "reason"
    details := details
    previousEventFingerprint := ← optional "previous_event_fingerprint" }

/-- Source: `approval_engine.py` `ApprovalEvent.from_dict`. -/
def fromDict (doc : Json) : Py ApprovalEvent := do
  requireKeys doc required (workflowError "approval event schema is not supported")
  let args ← readArgs doc
  let event ← args.make
  verify doc "fingerprint" event.fingerprint
    (workflowError "approval event fingerprint verification failed")
  return event

theorem required_nodup : required.Nodup := by decide

theorem map_members (e : ApprovalEvent) : e.members.map (·.1) = required := rfl

theorem valid_toDict (e : ApprovalEvent) : valid e.toDict := by
  refine ⟨required_nodup, ?_⟩
  simp [members, payloadMembers, membersValid, valid]

theorem valid_payload (e : ApprovalEvent) : valid (.obj e.payloadMembers) := by
  refine ⟨required_nodup.sublist (List.sublist_append_left _ ["fingerprint"]), ?_⟩
  simp [payloadMembers, membersValid, valid]

/-- An event's document has no nested object to sort. -/
theorem normalMembers_members (e : ApprovalEvent) : normalMembers e.members = e.members := by
  simp [normalMembers, members, payloadMembers, normal]

theorem normalMembers_payload (e : ApprovalEvent) :
    normalMembers e.payloadMembers = e.payloadMembers := by
  simp [normalMembers, payloadMembers, normal]

theorem readArgs_of {doc : Json} {e : ApprovalEvent} (h : Has doc e.payloadMembers) :
    readArgs doc = .ok e.args := by
  simp only [payloadMembers, has_cons, has_nil, and_true] at h
  obtain ⟨h₁, h₂, h₃, h₄, h₅, h₆, h₇, h₈, h₉, h₁₀, h₁₁⟩ := h
  simp only [readArgs, getItem, h₁, h₂, h₃, h₄, h₅, h₆, h₇, h₈, h₉, h₁₀, h₁₁, getOrRaise_some,
    ok_bind, pairs, readList_arr, mapM_readDetail, SchemaVersion.ofJson_toJson, readText_str,
    readInt_int, readStr_str, readOptionalText_ofOption, pure_eq_ok]

/-- **An event's document, written and read, gives the event.** -/
theorem fromDict_normal (e : ApprovalEvent) : fromDict (normal e.toDict) = .ok e := by
  have hdoc := hasExactly_normal e.valid_toDict.1
  rw [normalMembers_members] at hdoc
  have hfingerprint := hdoc.has ("fingerprint", .str e.fingerprint)
    (List.mem_append_right _ (List.mem_singleton_self _))
  rw [toDict, fromDict, requireKeys_of hdoc e.map_members, ok_bind,
    readArgs_of (Has.append_left hdoc.has), ok_bind, make_args, ok_bind,
    verify_of hfingerprint]
  rfl

/-- The text that is hashed for the fingerprint. -/
def hashed (e : ApprovalEvent) : List Char := chars e.payload

/-- **The text hashed for an event's fingerprint binds the event.** -/
theorem eq_of_hashed {e e' : ApprovalEvent} (h : e.hashed = e'.hashed) : e = e' := by
  have hread : ∀ (e : ApprovalEvent) (doc : Json), Has doc (normalMembers e.payloadMembers) →
      readArgs doc = .ok e.args := by
    intro e doc hdoc
    rw [normalMembers_payload] at hdoc
    exact readArgs_of hdoc
  exact args_injective (eq_of_write_eq valid_payload hread (congrArg String.ofList h))

end ApprovalEvent

/-! ## Workflows -/

namespace ApprovalWorkflow

/-- A workflow is rebuilt from its own fields. -/
theorem make_fields (w : ApprovalWorkflow) : make w.request w.events = .ok w := by
  rw [make, attempt_of w.accepted, ok_bind]
  rfl

/-- The members of a workflow's document. -/
def members (w : ApprovalWorkflow) : List (String × Json) :=
  [("request", w.request.toDict),
    ("events", .arr (w.events.map ApprovalEvent.toDict)),
    ("workflow_fingerprint", .str w.fingerprint)]

/-- Source: `approval_engine.py` `ApprovalWorkflow.to_dict`. -/
def toDict (w : ApprovalWorkflow) : Json := .obj w.members

/-- Source: `approval_engine.py` `ApprovalWorkflow.to_json`. -/
def toJson (w : ApprovalWorkflow) : String := write w.toDict

/-- The keys of a workflow's document. -/
def required : List String := ["request", "events", "workflow_fingerprint"]

/-- Source: `approval_engine.py` `ApprovalWorkflow.from_dict`. -/
def fromDict (doc : Json) : Py ApprovalWorkflow := do
  requireKeys doc required (workflowError "approval workflow schema is not supported")
  let get := getItem doc
  let requestDoc ← get "request"
  require (isObject requestDoc = true) (workflowError "approval request must be an object")
  let eventDocs ← get "events" >>= readList (workflowError "approval events must be a list")
  let request ← ApprovalRequest.fromDict requestDoc
  let events ← eventDocs.mapM ApprovalEvent.fromDict
  let workflow ← make request events
  verify doc "workflow_fingerprint" workflow.fingerprint
    (workflowError "approval workflow fingerprint verification failed")
  return workflow

/-- Source: `approval_engine.py` `ApprovalWorkflow.from_json`. -/
def fromJson (text : String) : Py ApprovalWorkflow := do
  let decoded ← getOrRaise (loads text) (workflowError "approval workflow is not valid JSON")
  fromDict decoded

theorem required_nodup : required.Nodup := by decide

theorem valid_toDict (w : ApprovalWorkflow) : valid w.toDict := by
  have hevents := valid_arr_map fun (e : ApprovalEvent) (_ : e ∈ w.events) => e.valid_toDict
  have hrequest := w.request.valid_toDict
  refine ⟨required_nodup, ?_⟩
  simp only [members, membersValid, hrequest, hevents, true_and]
  exact ⟨trivial, trivial⟩

/-- **A workflow is read from any document with its members.** -/
theorem fromDict_of {doc : Json} {w : ApprovalWorkflow}
    (h : HasExactly doc (normalMembers w.members)) : fromDict doc = .ok w := by
  have hkeys : (normalMembers w.members).map (·.1) = required := rfl
  have hobject : isObject (normal w.request.toDict) = true := rfl
  have hevents : (w.events.map (normal ∘ ApprovalEvent.toDict)).mapM ApprovalEvent.fromDict =
      .ok w.events := mapM_read fun e _ => e.fromDict_normal
  have hhas := h.has
  simp only [normalMembers, members, List.map_cons, List.map_nil, has_cons, has_nil, and_true]
    at hhas
  obtain ⟨h₁, h₂, h₃⟩ := hhas
  simp only [normal, elemsNormal_eq_map, List.map_map] at h₂ h₃
  rw [fromDict, requireKeys_of h hkeys]
  simp only [getItem, h₁, h₂, getOrRaise_some, ok_bind, require_of hobject, readList_arr,
    w.request.fromDict_normal, hevents, make_fields, verify_of h₃, pure_eq_ok]

/-- **A written workflow reads back as itself.** -/
theorem fromJson_toJson (w : ApprovalWorkflow) : fromJson w.toJson = .ok w := by
  rw [fromJson, toJson, loads_write w.valid_toDict, getOrRaise_some, ok_bind]
  exact fromDict_of (hasExactly_normal w.valid_toDict.1)

/-! ### Fingerprints -/

/-- What is hashed for the fingerprint of a workflow. -/
def payload (w : ApprovalWorkflow) : List (String × Json) :=
  [("request_fingerprint", .str w.request.fingerprint),
    ("event_fingerprints", .strings (w.events.map ApprovalEvent.fingerprint))]

/-- The texts hashed for the fingerprint of a workflow and those of its request and events. -/
def hashed (w : ApprovalWorkflow) : List (List Char) :=
  chars (.obj w.payload) :: w.request.hashed :: w.events.map ApprovalEvent.hashed

theorem valid_payload (w : ApprovalWorkflow) : valid (.obj w.payload) := by
  refine ⟨by rw [payload]; simp, ?_⟩
  simp only [payload, membersValid, valid, valid_strings, and_self]

theorem ext_fields {w w' : ApprovalWorkflow} (hrequest : w.request = w'.request)
    (hevents : w.events = w'.events) : w = w' := by
  obtain ⟨_, _, _⟩ := w
  obtain ⟨_, _, _⟩ := w'
  subst hrequest hevents
  rfl

/-- **The fingerprint of a workflow binds it**, unless two of the texts hashed collide. -/
theorem eq_of_fingerprint {w w' : ApprovalWorkflow}
    (h : NoCollision hexOf (w.hashed ++ w'.hashed)) (hfp : w.fingerprint = w'.fingerprint) :
    w = w' := by
  have htext : chars (.obj w.payload) = chars (.obj w'.payload) :=
    h _ (by simp [hashed]) _ (by simp [hashed]) hfp
  have hnormal := normal_eq_of_write_eq w.valid_payload w'.valid_payload
    (congrArg String.ofList htext)
  have hget := get?_normal_eq w.valid_payload.1 w'.valid_payload.1 hnormal
  have hrequest := hget "request_fingerprint"
  have hevents := hget "event_fingerprints"
  simp only [payload, get?, List.find?_cons, String.reduceEq, decide_false, decide_true,
    Option.map_some, Option.some.injEq, normal, normal_strings, str.injEq] at hrequest hevents
  apply ext_fields
  · apply ApprovalRequest.eq_of_hashed
    exact h _ (by simp [hashed]) _ (by simp [hashed]) hrequest
  · refine eq_of_map_eq (strings_injective hevents) fun e he e' he' hfp => ?_
    apply ApprovalEvent.eq_of_hashed
    refine h _ ?_ _ ?_ hfp
    · exact List.mem_append_left _
        (List.mem_cons_of_mem _ (List.mem_cons_of_mem _ (List.mem_map_of_mem he)))
    · exact List.mem_append_right _
        (List.mem_cons_of_mem _ (List.mem_cons_of_mem _ (List.mem_map_of_mem he')))

/-- A document that is read carries the fingerprint of what is read from it. -/
theorem carries_of_fromDict {doc : Json} {w : ApprovalWorkflow} (h : fromDict doc = .ok w) :
    doc.get? "workflow_fingerprint" = some (.str w.fingerprint) := by
  simp only [fromDict, bind_eq_ok, verify_eq_ok, pure_eq_ok, Except.ok.injEq] at h
  obtain ⟨-, -, -, -, -, -, -, -, -, -, -, -, w, -, -, hcarried, rfl⟩ := h
  exact hcarried

end ApprovalWorkflow

end NightRecon.WhiteEngine.ApprovalEngine
