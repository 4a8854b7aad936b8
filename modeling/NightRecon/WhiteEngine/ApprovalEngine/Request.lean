import Mathlib.Data.Finset.Card
import NightRecon.SharedCore.EngagementPolicy
import NightRecon.SharedCore.TargetNormalForm
import NightRecon.WhiteEngine.Reading

/-!
# Approval requests

`nightrecon_white_engine/approval_engine.py`: principals, approval policies and requests.  Each is
a structure that carries what its constructor checks; the constructors are the functions `make`.

* `ApprovalPrincipal` — a principal and the roles it holds directly;
* `ApprovalPolicy` — how many approvals are needed, from which roles, and what else is allowed;
* `ApprovalRequest` — one action of one engagement, with its principals and its policy; the target
  is in its normal form (`target_normal`);
* `ApprovalRequest.fingerprint` — the digest events and grants are bound to.
-/

namespace NightRecon.WhiteEngine.ApprovalEngine

open NightRecon.Lib
open NightRecon.Lib.Checks
open NightRecon.Lib.Text
open NightRecon.Lib.Datetime
open NightRecon.Lib.Sha256
open NightRecon.SharedCore.Authorization
open NightRecon.SharedCore.EngagementPolicy (Impact isCapability)
open NightRecon.WhiteEngine.Fields
open NightRecon.WhiteEngine.Reading (SchemaVersion)

def workflowError (message : String) : Exn := ⟨.approvalWorkflowError, message⟩

/-- `_role`, as the check of one value of a tuple. -/
def checkRole (field value : String) : Py (PLift (isIdentifier value = true)) :=
  checkIdentifier .approvalWorkflowError value field

/-- A sorted tuple of roles without duplicates. -/
abbrev Roles (minimum : Nat) := SortedUnique (fun r => isIdentifier r = true) minimum

/-! ## Principals -/

/-- Source: `approval_engine.py` `ApprovalPrincipal`. -/
structure ApprovalPrincipal where
  principalId : String
  roles : Roles 1
  principalId_valid : isIdentifier principalId = true
  deriving DecidableEq

namespace ApprovalPrincipal

/-- Source: `approval_engine.py` `ApprovalPrincipal.__post_init__`. -/
def make (principalId : String) (roles : List String) : Py ApprovalPrincipal := do
  let h ← checkIdentifier .approvalWorkflowError principalId "principal_id"
  let roles ← sortedUnique .approvalWorkflowError (checkRole "roles") roles "roles" 1
  return ⟨principalId, roles, h.down⟩

/-- Source: `approval_engine.py` `ApprovalPrincipal.to_dict`. -/
def toDict (p : ApprovalPrincipal) : Json :=
  .obj [("principal_id", .str p.principalId), ("roles", .strings p.roles.values)]

end ApprovalPrincipal

/-! ## Policies -/

inductive Mode where
  | single
  | dual
  | quorum
  deriving DecidableEq

namespace Mode

def text : Mode → String
  | .single => "single"
  | .dual => "dual"
  | .quorum => "quorum"

/-- Membership in `_VALID_MODES`. -/
def ofText (s : String) : Option Mode :=
  if s = "single" then some .single
  else if s = "dual" then some .dual
  else if s = "quorum" then some .quorum
  else none

/-- The numbers of approvals a mode admits. -/
def admits : Mode → Nat → Prop
  | .single, n => n = 1
  | .dual, n => n = 2
  | .quorum, n => 2 ≤ n

instance (m : Mode) (n : Nat) : Decidable (m.admits n) := by
  cases m <;> unfold admits <;> infer_instance

/-- What is said of a number of approvals a mode does not admit. -/
def requirement : Mode → String
  | .single => "single approval requires exactly one approval"
  | .dual => "dual approval requires exactly two approvals"
  | .quorum => "quorum approval requires at least two approvals"

end Mode

/-- Source: `approval_engine.py` `ApprovalPolicy`. -/
structure ApprovalPolicy where
  mode : Mode
  requiredApprovals : Nat
  eligibleRoles : Roles 1
  requesterMayApprove : Bool
  allowDelegation : Bool
  escalationAfterSeconds : Option Nat
  escalationRoles : Roles 0
  requiredApprovals_admitted : mode.admits requiredApprovals
  escalationAfterSeconds_pos : ∀ n ∈ escalationAfterSeconds, 1 ≤ n
  deriving DecidableEq

namespace ApprovalPolicy

/-- Source: `approval_engine.py` `ApprovalPolicy.__post_init__`. -/
def make (mode : String) (requiredApprovals : Int) (eligibleRoles : List String)
    (requesterMayApprove allowDelegation : Bool) (escalationAfterSeconds : Option Int)
    (escalationRoles : List String) : Py ApprovalPolicy := do
  let mode ← getOrRaise (Mode.ofText mode)
    (workflowError "approval mode must be single, dual, or quorum")
  raiseIf (requiredApprovals < 1) (workflowError "required_approvals must be positive")
  let h₁ ← prove (mode.admits requiredApprovals.toNat) (workflowError mode.requirement)
  let eligible ← sortedUnique .approvalWorkflowError (checkRole "eligible_roles") eligibleRoles
    "eligible_roles" 1
  let escalations ← sortedUnique .approvalWorkflowError (checkRole "escalation_roles")
    escalationRoles "escalation_roles" 0
  let h₂ ← prove (∀ n ∈ escalationAfterSeconds.map Int.toNat, 1 ≤ n)
    (workflowError "escalation_after_seconds must be a positive integer")
  return ⟨mode, requiredApprovals.toNat, eligible, requesterMayApprove, allowDelegation,
    escalationAfterSeconds.map Int.toNat, escalations, h₁.down, h₂.down⟩

/-- At least one approval is needed. -/
theorem requiredApprovals_pos (p : ApprovalPolicy) : 1 ≤ p.requiredApprovals := by
  have h := p.requiredApprovals_admitted
  cases hm : p.mode <;> rw [hm] at h <;> simp only [Mode.admits] at h <;> omega

/-- Source: `approval_engine.py` `ApprovalPolicy.to_dict`. -/
def toDict (p : ApprovalPolicy) : Json :=
  .obj [("mode", .str p.mode.text),
    ("required_approvals", .int p.requiredApprovals),
    ("eligible_roles", .strings p.eligibleRoles.values),
    ("requester_may_approve", .bool p.requesterMayApprove),
    ("allow_delegation", .bool p.allowDelegation),
    ("escalation_after_seconds",
      match p.escalationAfterSeconds with
      | none => .null
      | some n => .int n),
    ("escalation_roles", .strings p.escalationRoles.values)]

end ApprovalPolicy

/-! ## Requests -/

/-- The arguments of the request constructor. -/
structure RequestArgs where
  schemaVersion : SchemaVersion := .int
  requestId : String
  engagementId : String
  policyBundleFingerprint : String
  requestedAt : String
  expiresAt : String
  requestedBy : String
  principals : List ApprovalPrincipal
  capability : String
  target : String
  impact : String
  reason : String
  policy : ApprovalPolicy
  operationId : Option String

/-- The roles of a principal that may approve. -/
def eligible (policy : ApprovalPolicy) (p : ApprovalPrincipal) : List String :=
  p.roles.values.filter fun role => role ∈ policy.eligibleRoles.values

/-- The principals that may approve a request. -/
def eligiblePrincipals (policy : ApprovalPolicy) (requestedBy : String)
    (principals : List ApprovalPrincipal) : Finset String :=
  ((principals.filter fun p => eligible policy p ≠ [] ∧
    (policy.requesterMayApprove ∨ p.principalId ≠ requestedBy)).map (·.principalId)).toFinset

/-- Source: `approval_engine.py` `ApprovalRequest`. -/
structure ApprovalRequest where
  schemaVersion : SchemaVersion
  requestId : String
  engagementId : String
  policyBundleFingerprint : String
  requestedAt : Timestamp
  expiresAt : Timestamp
  requestedBy : String
  principals : List ApprovalPrincipal
  capability : String
  target : String
  impact : Impact
  reason : String
  policy : ApprovalPolicy
  operationId : Option String
  requestId_valid : isIdentifier requestId = true
  engagementId_valid : isIdentifier engagementId = true
  policyBundleFingerprint_valid : isSha256Hex policyBundleFingerprint
  window : requestedAt.time < expiresAt.time
  requestedBy_valid : isIdentifier requestedBy = true
  operationId_valid : ∀ o ∈ operationId, isIdentifier o = true
  principals_sorted : sortedBy (·.principalId) principals = principals
  principals_nodup : (principals.map (·.principalId)).Nodup
  requestedBy_mem : requestedBy ∈ principals.map (·.principalId)
  capability_valid : isCapability capability = true
  target_normal : ∃ type, parseTarget target = .ok ⟨target, type⟩
  reason_required : requiredText reason
  enough_eligible :
    policy.requiredApprovals ≤ (eligiblePrincipals policy requestedBy principals).card

namespace ApprovalRequest

/-- Source: `approval_engine.py` `ApprovalRequest.principal`. -/
def principal (r : ApprovalRequest) (principalId : String) : Py ApprovalPrincipal :=
  getOrRaise (r.principals.find? fun p => p.principalId = principalId)
    (workflowError ("unknown approval principal: " ++ principalId))

theorem principal_eq_ok {r : ApprovalRequest} {principalId : String} {p : ApprovalPrincipal}
    (h : r.principal principalId = .ok p) : p ∈ r.principals ∧ p.principalId = principalId := by
  have hfind := getOrRaise_eq_ok.mp h
  exact ⟨List.mem_of_find?_eq_some hfind, by simpa using List.find?_some hfind⟩

/-- Source: `approval_engine.py` `ApprovalRequest.to_dict`. -/
def toDict (r : ApprovalRequest) : Json :=
  .obj [("schema_version", r.schemaVersion.toJson),
    ("request_id", .str r.requestId),
    ("engagement_id", .str r.engagementId),
    ("policy_bundle_fingerprint", .str r.policyBundleFingerprint),
    ("requested_at", .str r.requestedAt.text),
    ("expires_at", .str r.expiresAt.text),
    ("requested_by", .str r.requestedBy),
    ("principals", .arr (r.principals.map ApprovalPrincipal.toDict)),
    ("capability", .str r.capability),
    ("target", .str r.target),
    ("impact", .str r.impact.text),
    ("reason", .str r.reason),
    ("policy", r.policy.toDict),
    ("operation_id", .ofOption r.operationId)]

/-- Source: `approval_engine.py` `ApprovalRequest.fingerprint`. -/
def fingerprint (r : ApprovalRequest) : String := Fields.fingerprint r.toDict

end ApprovalRequest

/-- `parse_target(target).value`, with the proof that it is in normal form. -/
def normalTarget (target : String) : Py {v : String // ∃ type, parseTarget v = .ok ⟨v, type⟩} :=
  match h : parseTarget target with
  | .ok t => .ok ⟨t.value, t.targetType, parseTarget_value h⟩
  | .error e => .error e

theorem normalTarget_of {target : String} (h : ∃ type, parseTarget target = .ok ⟨target, type⟩) :
    normalTarget target = .ok ⟨target, h⟩ := by
  obtain ⟨type, hparse⟩ := h
  unfold normalTarget
  split
  · next t ht =>
    rw [hparse] at ht
    simp only [Except.ok.injEq] at ht
    subst ht
    rfl
  · next e he =>
    rw [hparse] at he
    exact absurd he (by simp)

/-- The check of an optional identifier. -/
def checkOptional (value : Option String) (field : String) :
    Py (PLift (∀ v ∈ value, isIdentifier v = true)) :=
  match value with
  | none => .ok ⟨noIdentifier⟩
  | some v => do
      let h ← checkIdentifier .approvalWorkflowError v field
      return ⟨fun _ hw => Option.mem_some.mp hw ▸ h.down⟩

theorem checkOptional_of {value : Option String} {field : String}
    (h : ∀ v ∈ value, isIdentifier v = true) : checkOptional value field = .ok ⟨h⟩ := by
  cases value with
  | none => rfl
  | some v =>
    rw [checkOptional, checkIdentifier_of (h v rfl), ok_bind]
    rfl

/-- The constructor's checks, in order.
Source: `approval_engine.py` `ApprovalRequest.__post_init__`. -/
def RequestArgs.make (a : RequestArgs) : Py ApprovalRequest := do
  let check := checkIdentifier .approvalWorkflowError
  let h₁ ← check a.requestId "request_id"
  let h₂ ← check a.engagementId "engagement_id"
  let h₃ ← checkSha256 .approvalWorkflowError a.policyBundleFingerprint
    "policy_bundle_fingerprint"
  let requestedAt ← iso8601 .approvalWorkflowError a.requestedAt "requested_at"
  let expiresAt ← iso8601 .approvalWorkflowError a.expiresAt "expires_at"
  let h₄ ← prove (requestedAt.time < expiresAt.time)
    (workflowError "expires_at must be later than requested_at")
  let h₅ ← check a.requestedBy "requested_by"
  let h₆ ← checkOptional a.operationId "operation_id"
  raiseIf (a.principals = []) (workflowError "principals must be a nonempty tuple")
  let principals := sortedBy (·.principalId) a.principals
  let h₇ ← prove (principals.map (·.principalId)).Nodup
    (workflowError "principal_id values must be unique")
  let h₈ ← prove (a.requestedBy ∈ principals.map (·.principalId))
    (workflowError "requested_by must identify a principal")
  let h₉ ← prove (isCapability a.capability = true) (workflowError "capability is invalid")
  let ⟨target, h₁₀⟩ ← normalTarget a.target
  let impact ← getOrRaise (Impact.ofText a.impact)
    (workflowError "impact must be low, standard, or high")
  let h₁₁ ← checkText .approvalWorkflowError a.reason "reason"
  let h₁₂ ← prove (a.policy.requiredApprovals ≤
      (eligiblePrincipals a.policy a.requestedBy principals).card)
    (workflowError "not enough eligible principals for required approvals")
  return ⟨a.schemaVersion, a.requestId, a.engagementId, a.policyBundleFingerprint, requestedAt,
    expiresAt, a.requestedBy, principals, a.capability, target, impact, a.reason, a.policy,
    a.operationId,
    h₁.down, h₂.down, h₃.down, h₄.down, h₅.down, h₆.down,
    sortedBy_eq_self (sortedBy_pairwise _ _), h₇.down, h₈.down, h₉.down, h₁₀, h₁₁.down, h₁₂.down⟩

end NightRecon.WhiteEngine.ApprovalEngine
