import NightRecon.Documents
import NightRecon.Lib.Datetime
import NightRecon.SharedCore.Authorization
import Mathlib.Data.Finset.Basic

/-!
# Execution policies and action decisions

`nightrecon_shared_core/engagement_policy.py`, without its file store.

* `EngagementExecutionPolicy` — a policy that passed its constructor, with what the constructor
  checked as fields; `PolicyArgs.make` is the constructor, `make_args` says that a policy is
  rebuilt from its own fields;
* `toDict`, `fromDict` — the JSON form, `fromDict_toDict`;
* `evaluateAction`, `evaluateReservedAction` — the two chains of gates, each as the first gate that
  decides (`gate`, `reservedGate`) wrapped by the argument checks;
* `evaluateReservedAction_agrees_iff` — the lease re-check agrees with the full check on a fresh
  budget exactly where the impact ceiling is not the deciding gate.
-/

namespace NightRecon.SharedCore.EngagementPolicy

open NightRecon.Lib
open NightRecon.Lib.Checks
open NightRecon.Lib.Text
open NightRecon.Lib.Datetime
open NightRecon.Documents
open NightRecon.SharedCore.Authorization

/-! ## Impacts and capabilities -/

inductive Impact where
  | low
  | standard
  | high
  deriving DecidableEq

/-- `_IMPACT_RANK`. -/
def Impact.rank : Impact → Nat
  | .low => 0
  | .standard => 1
  | .high => 2

def Impact.text : Impact → String
  | .low => "low"
  | .standard => "standard"
  | .high => "high"

/-- Membership in `_VALID_IMPACTS`. -/
def Impact.ofText (s : String) : Option Impact :=
  if s = "low" then some .low
  else if s = "standard" then some .standard
  else if s = "high" then some .high
  else none

@[simp] theorem Impact.ofText_text (i : Impact) : Impact.ofText i.text = some i := by
  cases i <;> rfl

theorem Impact.text_of_ofText {s : String} {i : Impact} (h : Impact.ofText s = some i) :
    i.text = s := by
  unfold Impact.ofText at h
  split at h
  · cases h; simp [Impact.text, *]
  split at h
  · cases h; simp [Impact.text, *]
  split at h
  · cases h; simp [Impact.text, *]
  · cases h

/-- `_CAPABILITY_PATTERN.fullmatch`. -/
def isCapability (s : String) : Bool :=
  match s.toList with
  | [] => false
  | c :: cs =>
      isLower c && cs.length ≤ 63 &&
        cs.all fun c => isLower c || isDigit c || c == '_' || c == '.' || c == '-'

/-- Source: `engagement_policy.py` `_capabilities`. -/
def capabilities (values : List String) (field : String) : Py (List String) := do
  raiseIf (values = []) (valueError (field ++ " must contain at least one capability"))
  raiseIf (¬ values.Nodup) (valueError (field ++ " must not contain duplicates"))
  raiseIf (∃ v ∈ values, isCapability v = false)
    (valueError (field ++ " contains an invalid capability"))
  return sortedStr values

/-- The check `_iso8601`, with the reading `_parse_time` gives. -/
def iso8601 (value field : String) : Py Timestamp := do
  let _ ← requireText value field
  require (fromisoformat (replaceZ value)).isSome (valueError (field ++ " must be ISO-8601"))
  getOrRaise (Timestamp.ofText value) (valueError (field ++ " must include a timezone"))

theorem iso8601_eq_ok {value field : String} {t : Timestamp} :
    iso8601 value field = .ok t ↔ Timestamp.ofText value = some t := by
  unfold iso8601
  simp only [bind_eq_ok, requireText_eq_ok, require_eq_ok, getOrRaise_eq_ok]
  constructor
  · rintro ⟨-, -, -, -, h⟩
    exact h
  · intro h
    have htext := Timestamp.text_of_ofText h
    have hparsed : (fromisoformat (replaceZ value)).isSome := by
      rw [← htext, t.parsed]
      rfl
    exact ⟨value, ⟨htext ▸ t.required, rfl⟩, (), hparsed, h⟩

@[simp] theorem iso8601_text (t : Timestamp) (field : String) : iso8601 t.text field = .ok t := by
  simp [iso8601_eq_ok]

/-! ## The policy -/

/-- The arguments of the policy constructor. -/
structure PolicyArgs where
  engagementId : String
  scope : List String
  validFrom : String
  validUntil : String
  maxActions : Int
  permittedCapabilities : List String
  maxImpact : String
  approvalRequiredCapabilities : List String
  revoked : Bool
  actionsUsed : Int
  deriving DecidableEq

/-- Source: `engagement_policy.py` `EngagementExecutionPolicy`. -/
structure EngagementExecutionPolicy where
  engagementId : String
  scope : List String
  validFrom : Timestamp
  validUntil : Timestamp
  maxActions : Nat
  permittedCapabilities : List String
  maxImpact : Impact
  approvalRequiredCapabilities : List String
  revoked : Bool
  actionsUsed : Nat
  engagementId_required : requiredText engagementId
  scope_parses : (Scope.fromValues scope).toOption.isSome
  window : validFrom.time < validUntil.time
  maxActions_pos : 1 ≤ maxActions
  actionsUsed_le : actionsUsed ≤ maxActions
  permitted_valid :
    (capabilities permittedCapabilities "permitted_capabilities").toOption.isSome
  required_nodup : approvalRequiredCapabilities.Nodup
  required_permitted : ∀ c ∈ approvalRequiredCapabilities, c ∈ permittedCapabilities

/-- The constructor's checks, in order.  The scope is parsed for its errors and not kept.
Source: `engagement_policy.py` `EngagementExecutionPolicy.__post_init__`. -/
def PolicyArgs.make (a : PolicyArgs) : Py EngagementExecutionPolicy := do
  let ⟨h₁⟩ ← prove (requiredText a.engagementId)
    (valueError "engagement_id must be a nonblank, trimmed string")
  raiseIf (a.scope = []) (valueError "scope must contain at least one target rule")
  let ⟨h₂⟩ ← attempt (Scope.fromValues a.scope)
  let validFrom ← iso8601 a.validFrom "valid_from"
  let validUntil ← iso8601 a.validUntil "valid_until"
  let ⟨h₃⟩ ← prove (validFrom.time < validUntil.time)
    (valueError "valid_until must be later than valid_from")
  let ⟨h₄⟩ ← prove (1 ≤ a.maxActions.toNat) (valueError "max_actions must be a positive integer")
  let ⟨h₅⟩ ← prove (0 ≤ a.actionsUsed ∧ a.actionsUsed.toNat ≤ a.maxActions.toNat)
    (valueError "actions_used must be between zero and max_actions")
  let ⟨h₆⟩ ← attempt (capabilities a.permittedCapabilities "permitted_capabilities")
  let maxImpact ← getOrRaise (Impact.ofText a.maxImpact)
    (valueError "max_impact must be low, standard, or high")
  let ⟨h₇⟩ ← prove a.approvalRequiredCapabilities.Nodup
    (valueError "approval_required_capabilities must not contain duplicates")
  let ⟨h₈⟩ ← prove (∀ c ∈ a.approvalRequiredCapabilities, c ∈ a.permittedCapabilities)
    (valueError "approval-required capabilities must also be permitted")
  return ⟨a.engagementId, a.scope, validFrom, validUntil, a.maxActions.toNat,
    a.permittedCapabilities, maxImpact, a.approvalRequiredCapabilities, a.revoked,
    a.actionsUsed.toNat, h₁, h₂, h₃, h₄, h₅.2, h₆, h₇, h₈⟩

namespace EngagementExecutionPolicy

/-- The arguments a policy was built from. -/
@[reducible] def args (p : EngagementExecutionPolicy) : PolicyArgs where
  engagementId := p.engagementId
  scope := p.scope
  validFrom := p.validFrom.text
  validUntil := p.validUntil.text
  maxActions := p.maxActions
  permittedCapabilities := p.permittedCapabilities
  maxImpact := p.maxImpact.text
  approvalRequiredCapabilities := p.approvalRequiredCapabilities
  revoked := p.revoked
  actionsUsed := p.actionsUsed

theorem scope_ne_nil (p : EngagementExecutionPolicy) : p.scope ≠ [] := by
  intro h
  have := p.scope_parses
  rw [h] at this
  simp [Scope.fromValues, raiseIf, Except.toOption] at this

/-- **A policy is rebuilt from its own fields.** -/
theorem make_args (p : EngagementExecutionPolicy) : p.args.make = .ok p := by
  have hmax : 1 ≤ (p.maxActions : Int).toNat := p.maxActions_pos
  have hused : 0 ≤ (p.actionsUsed : Int) ∧
      (p.actionsUsed : Int).toNat ≤ (p.maxActions : Int).toNat :=
    ⟨Int.natCast_nonneg _, p.actionsUsed_le⟩
  unfold PolicyArgs.make
  rw [prove_of p.engagementId_required, ok_bind]
  simp only [ok_bind, raiseIf_of_not p.scope_ne_nil]
  rw [attempt_of p.scope_parses, ok_bind]
  simp only [iso8601_text, ok_bind]
  rw [prove_of p.window, ok_bind, prove_of hmax, ok_bind, prove_of hused, ok_bind,
    attempt_of p.permitted_valid, ok_bind]
  simp only [Impact.ofText_text, getOrRaise, ok_bind]
  rw [prove_of p.required_nodup, ok_bind, prove_of p.required_permitted, ok_bind]
  rfl

theorem args_injective {p q : EngagementExecutionPolicy} (h : p.args = q.args) : p = q := by
  have hmake := p.make_args
  rw [h, q.make_args] at hmake
  exact (Except.ok.inj hmake).symm

/-- Policies are compared by their fields. -/
instance : DecidableEq EngagementExecutionPolicy := fun p q =>
  decidable_of_iff (p.args = q.args) ⟨args_injective, fun h => h ▸ rfl⟩

/-- **The constructor keeps its arguments.** -/
theorem args_of_make {a : PolicyArgs} {p : EngagementExecutionPolicy} (h : a.make = .ok p) :
    p.args = a := by
  unfold PolicyArgs.make at h
  simp only [bind_eq_ok, prove_eq_ok, attempt_eq_ok, raiseIf_eq_ok, iso8601_eq_ok, getOrRaise_eq_ok, pure_eq_ok,
    Except.ok.injEq, true_and] at h
  obtain ⟨-, -, -, -, validFrom, hfrom, validUntil, huntil, -, ⟨hpos⟩, ⟨hnonneg, -⟩, -, impact,
    himpact, -, -, rfl⟩ := h
  have hmax : (a.maxActions.toNat : Int) = a.maxActions := Int.toNat_of_nonneg (by omega)
  have hused : (a.actionsUsed.toNat : Int) = a.actionsUsed := Int.toNat_of_nonneg hnonneg
  simp only [args, Timestamp.text_of_ofText hfrom, Timestamp.text_of_ofText huntil, hmax, hused,
    Impact.text_of_ofText himpact]

theorem make_eq_ok {a : PolicyArgs} {p : EngagementExecutionPolicy} :
    a.make = .ok p ↔ p.args = a :=
  ⟨args_of_make, fun h => h ▸ p.make_args⟩

/-- The policy with its authorization revoked: `replace(policy, revoked=True)`. -/
def revoke (p : EngagementExecutionPolicy) : EngagementExecutionPolicy :=
  { p with revoked := true }

/-- The policy with another usage count: `replace(policy, actions_used=n)`. -/
def withUsed (p : EngagementExecutionPolicy) (n : Nat) (h : n ≤ p.maxActions) :
    EngagementExecutionPolicy :=
  { p with actionsUsed := n, actionsUsed_le := h }

@[simp] theorem revoke_revoked (p : EngagementExecutionPolicy) : p.revoke.revoked = true := rfl
@[simp] theorem revoke_actionsUsed (p : EngagementExecutionPolicy) :
    p.revoke.actionsUsed = p.actionsUsed := rfl
@[simp] theorem revoke_maxActions (p : EngagementExecutionPolicy) :
    p.revoke.maxActions = p.maxActions := rfl
@[simp] theorem revoke_engagementId (p : EngagementExecutionPolicy) :
    p.revoke.engagementId = p.engagementId := rfl
@[simp] theorem withUsed_revoked (p : EngagementExecutionPolicy) (n : Nat) (h) :
    (p.withUsed n h).revoked = p.revoked := rfl
@[simp] theorem withUsed_actionsUsed (p : EngagementExecutionPolicy) (n : Nat) (h) :
    (p.withUsed n h).actionsUsed = n := rfl
@[simp] theorem withUsed_maxActions (p : EngagementExecutionPolicy) (n : Nat) (h) :
    (p.withUsed n h).maxActions = p.maxActions := rfl
@[simp] theorem withUsed_engagementId (p : EngagementExecutionPolicy) (n : Nat) (h) :
    (p.withUsed n h).engagementId = p.engagementId := rfl

/-- The same policy with its whole budget left. -/
def fresh (p : EngagementExecutionPolicy) : EngagementExecutionPolicy :=
  p.withUsed 0 (Nat.zero_le _)

/-! ## The JSON form -/

/-- Source: `engagement_policy.py` `EngagementExecutionPolicy.to_dict`. -/
def toDict (p : EngagementExecutionPolicy) : Json :=
  .obj [("engagement_id", .str p.engagementId),
    ("scope", .strings p.scope),
    ("valid_from", .str p.validFrom.text),
    ("valid_until", .str p.validUntil.text),
    ("max_actions", .int p.maxActions),
    ("permitted_capabilities", .strings p.permittedCapabilities),
    ("max_impact", .str p.maxImpact.text),
    ("approval_required_capabilities", .strings p.approvalRequiredCapabilities),
    ("revoked", .bool p.revoked),
    ("actions_used", .int p.actionsUsed),
    ("schema_version", .int 1)]

end EngagementExecutionPolicy

/-- The fields of the first schema, which had no impact ceiling. -/
def legacyRequired : List String :=
  ["schema_version", "engagement_id", "scope", "valid_from", "valid_until", "max_actions",
    "permitted_capabilities", "approval_required_capabilities", "revoked", "actions_used"]

/-- Source: `engagement_policy.py` `EngagementExecutionPolicy.from_dict`. -/
def fromDict (payload : Json) : Py EngagementExecutionPolicy := do
  let keys ← getOrRaise (keys? payload)
    (valueError "engagement execution policy must be an object")
  require (keys = legacyRequired.toFinset ∨ keys = ("max_impact" :: legacyRequired).toFinset)
    (valueError "engagement execution policy schema is not supported")
  let get := getItem payload
  let schemaVersion ← get "schema_version"
  require (equalsOne schemaVersion)
    (valueError "unsupported engagement execution policy schema version")
  let args : PolicyArgs := {
    engagementId := ← get "engagement_id" >>= asStr
    scope := ← get "scope" >>= asStrings
    validFrom := ← get "valid_from" >>= asStr
    validUntil := ← get "valid_until" >>= asStr
    maxActions := ← get "max_actions" >>= asInt
    permittedCapabilities := ← get "permitted_capabilities" >>= asStrings
    maxImpact := ← asStr ((payload.get? "max_impact").getD (.str "high"))
    approvalRequiredCapabilities := ← get "approval_required_capabilities" >>= asStrings
    revoked := truthy (← get "revoked")
    actionsUsed := ← get "actions_used" >>= asInt }
  args.make

theorem policyKeys_current :
    ["engagement_id", "scope", "valid_from", "valid_until", "max_actions",
      "permitted_capabilities", "max_impact", "approval_required_capabilities", "revoked",
      "actions_used", "schema_version"].toFinset = ("max_impact" :: legacyRequired).toFinset := by
  decide

/-- **Reading back a written policy gives the policy.** -/
theorem fromDict_toDict (p : EngagementExecutionPolicy) : fromDict p.toDict = .ok p := by
  have hkeys := policyKeys_current
  have hmake := p.make_args
  simp only [EngagementExecutionPolicy.args] at hmake
  simp only [fromDict, EngagementExecutionPolicy.toDict, keys?, List.map_cons, List.map_nil, hkeys,
    getItem, getOrRaise, ok_bind, or_true, require_of, Json.get?, List.find?_cons, String.reduceEq,
    decide_false, decide_true, Option.map_some, equalsOne, asStr, asInt, asStrings_strings, truthy,
    Option.getD_some, hmake]

/-- **What a policy read from JSON says is what the JSON says.** -/
theorem fromDict_args {payload : Json} {p : EngagementExecutionPolicy}
    (h : fromDict payload = .ok p) :
    payload.get? "engagement_id" = some (.str p.engagementId) ∧
      payload.get? "max_actions" = some (.int p.maxActions) ∧
      payload.get? "actions_used" = some (.int p.actionsUsed) ∧
      ∃ revoked, payload.get? "revoked" = some revoked ∧ p.revoked = truthy revoked := by
  unfold fromDict at h
  simp only [bind_eq_ok, require_eq_ok, getItem_eq_ok, getOrRaise_eq_ok,
    asStr_eq_ok, asInt_eq_ok, EngagementExecutionPolicy.make_eq_ok, exists_eq_right,
    exists_const] at h
  obtain ⟨-, -, -, -, -, -, engagementId, hid, scope, -, validFrom, -, validUntil, -, maxActions,
    hmax, permitted, -, maxImpact, -, required, -, revoked, hrevoked, actionsUsed, hused, hargs⟩ := h
  simp only [EngagementExecutionPolicy.args, PolicyArgs.mk.injEq] at hargs
  obtain ⟨hid', -, -, -, hmax', -, -, -, hrevoked', hused'⟩ := hargs
  exact ⟨hid' ▸ hid, hmax' ▸ hmax, hused' ▸ hused, revoked, hrevoked, hrevoked'⟩

/-! ## Decisions -/

inductive ReasonCode where
  | authorized
  | authorizedReservedAction
  | engagementNotActive
  | authorizationRevoked
  | authorizationNotStarted
  | authorizationExpired
  | capabilityNotPermitted
  | impactExceedsPolicy
  | targetOutOfScope
  | actionBudgetExhausted
  | approvalRequired
  deriving DecidableEq

def ReasonCode.text : ReasonCode → String
  | .authorized => "authorized"
  | .authorizedReservedAction => "authorized_reserved_action"
  | .engagementNotActive => "engagement_not_active"
  | .authorizationRevoked => "authorization_revoked"
  | .authorizationNotStarted => "authorization_not_started"
  | .authorizationExpired => "authorization_expired"
  | .capabilityNotPermitted => "capability_not_permitted"
  | .impactExceedsPolicy => "impact_exceeds_policy"
  | .targetOutOfScope => "target_out_of_scope"
  | .actionBudgetExhausted => "action_budget_exhausted"
  | .approvalRequired => "approval_required"

def ReasonCode.reason : ReasonCode → String
  | .authorized => "action is authorized by the active engagement policy"
  | .authorizedReservedAction =>
      "reserved action remains authorized by the active engagement policy"
  | .engagementNotActive => "engagement status is not active"
  | .authorizationRevoked => "engagement authorization has been revoked"
  | .authorizationNotStarted => "authorization validity window has not started"
  | .authorizationExpired => "authorization validity window has expired"
  | .capabilityNotPermitted => "capability is not permitted by the engagement policy"
  | .impactExceedsPolicy => "action impact exceeds the engagement policy ceiling"
  | .targetOutOfScope => "target is outside the engagement scope"
  | .actionBudgetExhausted => "engagement action budget is exhausted"
  | .approvalRequired => "action requires explicit operator approval"

/-- Source: `engagement_policy.py` `AuthorizationDecision`. -/
structure AuthorizationDecision where
  engagementId : String
  allowed : Bool
  reasonCode : ReasonCode
  reason : String
  capability : String
  target : String
  impact : Impact
  approvalPresent : Bool
  actionsUsed : Nat
  maxActions : Nat
  remainingActions : Nat
  deriving DecidableEq

/-- The action an authorization is asked for.  `now` is the argument when one was passed and the
clock reading otherwise. -/
structure ActionRequest where
  capability : String
  target : String
  impact : String
  approvalPresent : Bool
  now : DateTime

/-- A request whose arguments passed the checks both functions make. -/
structure CheckedRequest where
  engagementStatus : Option String
  capability : String
  target : Target
  impact : Impact
  approvalPresent : Bool
  current : Int

/-- The argument checks in front of either chain of gates. -/
def ActionRequest.check (r : ActionRequest) (engagementStatus : Option String) :
    Py CheckedRequest := do
  let _ ← requireText r.capability "capability"
  require (isCapability r.capability) (valueError "capability is invalid")
  let target ← parseTarget r.target
  let impact ← getOrRaise (Impact.ofText r.impact)
    (valueError "impact must be low, standard, or high")
  let offset ← getOrRaise r.now.offset (valueError "now must include a timezone")
  return ⟨engagementStatus, r.capability, target, impact, r.approvalPresent, r.now.wall - offset⟩

/-- `Scope.from_values(list(policy.scope)).is_authorized(target)`; the scope of a policy parses. -/
def inScope (policy : EngagementExecutionPolicy) (target : Target) : Bool :=
  match Scope.fromValues policy.scope with
  | .ok scope => scope.isAuthorized target
  | .error _ => false

/-- The last gate: a high impact or a listed capability needs an approval. -/
def needsApproval (policy : EngagementExecutionPolicy) (r : CheckedRequest) : Prop :=
  (r.impact = .high ∨ r.capability ∈ policy.approvalRequiredCapabilities) ∧
    r.approvalPresent = false

instance (policy : EngagementExecutionPolicy) (r : CheckedRequest) :
    Decidable (needsApproval policy r) := inferInstanceAs (Decidable (_ ∧ _))

/-- The gates of a new action, in order.
Source: `engagement_policy.py` `evaluate_action`. -/
def gate (policy : EngagementExecutionPolicy) (r : CheckedRequest) : Bool × ReasonCode :=
  if r.engagementStatus ≠ some "active" then (false, .engagementNotActive)
  else if policy.revoked then (false, .authorizationRevoked)
  else if r.current < policy.validFrom.time then (false, .authorizationNotStarted)
  else if policy.validUntil.time < r.current then (false, .authorizationExpired)
  else if r.capability ∉ policy.permittedCapabilities then (false, .capabilityNotPermitted)
  else if policy.maxImpact.rank < r.impact.rank then (false, .impactExceedsPolicy)
  else if inScope policy r.target = false then (false, .targetOutOfScope)
  else if policy.maxActions ≤ policy.actionsUsed then (false, .actionBudgetExhausted)
  else if needsApproval policy r then (false, .approvalRequired)
  else (true, .authorized)

/-- The gates of an action that was reserved before, in order.
Source: `engagement_policy.py` `evaluate_reserved_action`. -/
def reservedGate (policy : EngagementExecutionPolicy) (r : CheckedRequest) : Bool × ReasonCode :=
  if r.engagementStatus ≠ some "active" then (false, .engagementNotActive)
  else if policy.revoked then (false, .authorizationRevoked)
  else if r.current < policy.validFrom.time then (false, .authorizationNotStarted)
  else if policy.validUntil.time < r.current then (false, .authorizationExpired)
  else if r.capability ∉ policy.permittedCapabilities then (false, .capabilityNotPermitted)
  else if inScope policy r.target = false then (false, .targetOutOfScope)
  else if needsApproval policy r then (false, .approvalRequired)
  else (true, .authorizedReservedAction)

/-- The decision record of a gate's verdict. -/
def decision (policy : EngagementExecutionPolicy) (r : CheckedRequest)
    (verdict : Bool × ReasonCode) : AuthorizationDecision where
  engagementId := policy.engagementId
  allowed := verdict.1
  reasonCode := verdict.2
  reason := verdict.2.reason
  capability := r.capability
  target := r.target.value
  impact := r.impact
  approvalPresent := r.approvalPresent
  actionsUsed := policy.actionsUsed
  maxActions := policy.maxActions
  remainingActions := policy.maxActions - policy.actionsUsed

/-- Source: `engagement_policy.py` `evaluate_action`. -/
def evaluateAction (policy : EngagementExecutionPolicy) (engagementStatus : Option String)
    (request : ActionRequest) : Py AuthorizationDecision := do
  let r ← request.check engagementStatus
  return decision policy r (gate policy r)

/-- Source: `engagement_policy.py` `evaluate_reserved_action`. -/
def evaluateReservedAction (policy : EngagementExecutionPolicy) (engagementStatus : Option String)
    (request : ActionRequest) : Py AuthorizationDecision := do
  let r ← request.check engagementStatus
  return decision policy r (reservedGate policy r)

/-! ### What an allowed action passed -/

/-- The gates every allowed action passed, new or reserved. -/
structure Passed (policy : EngagementExecutionPolicy) (r : CheckedRequest) : Prop where
  active : r.engagementStatus = some "active"
  notRevoked : policy.revoked = false
  started : policy.validFrom.time ≤ r.current
  notExpired : r.current ≤ policy.validUntil.time
  permitted : r.capability ∈ policy.permittedCapabilities
  inScope : inScope policy r.target = true
  approved : ¬ needsApproval policy r

theorem gate_allowed_iff {policy : EngagementExecutionPolicy} {r : CheckedRequest} :
    (gate policy r).1 = true ↔ Passed policy r ∧ r.impact.rank ≤ policy.maxImpact.rank ∧
      policy.actionsUsed < policy.maxActions := by
  unfold gate
  constructor
  · intro h
    by_cases h₁ : r.engagementStatus = some "active"
    case neg => simp [h₁] at h
    by_cases h₂ : policy.revoked = true
    case pos => simp [h₁, h₂] at h
    by_cases h₃ : r.current < policy.validFrom.time
    case pos => simp [h₁, h₂, h₃] at h
    by_cases h₄ : policy.validUntil.time < r.current
    case pos => simp [h₁, h₂, h₃, h₄] at h
    by_cases h₅ : r.capability ∈ policy.permittedCapabilities
    case neg => simp [h₁, h₂, h₃, h₄, h₅] at h
    by_cases h₆ : policy.maxImpact.rank < r.impact.rank
    case pos => simp [h₁, h₂, h₃, h₄, h₅, h₆] at h
    by_cases h₇ : inScope policy r.target = false
    case pos => simp [h₁, h₂, h₃, h₄, h₅, h₆, h₇] at h
    by_cases h₈ : policy.maxActions ≤ policy.actionsUsed
    case pos => simp [h₁, h₂, h₃, h₄, h₅, h₆, h₇, h₈] at h
    by_cases h₉ : needsApproval policy r
    case pos => simp [h₁, h₂, h₃, h₄, h₅, h₆, h₇, h₈, h₉] at h
    exact ⟨⟨h₁, by simpa using h₂, not_lt.mp h₃, not_lt.mp h₄, h₅, by simpa using h₇, h₉⟩,
      not_lt.mp h₆, not_le.mp h₈⟩
  · rintro ⟨⟨h₁, h₂, h₃, h₄, h₅, h₆, h₇⟩, h₈, h₉⟩
    simp [h₁, h₂, h₅, h₆, h₇, not_lt.mpr h₃, not_lt.mpr h₄, not_lt.mpr h₈, not_le.mpr h₉]

theorem reservedGate_allowed_iff {policy : EngagementExecutionPolicy} {r : CheckedRequest} :
    (reservedGate policy r).1 = true ↔ Passed policy r := by
  unfold reservedGate
  constructor
  · intro h
    by_cases h₁ : r.engagementStatus = some "active"
    case neg => simp [h₁] at h
    by_cases h₂ : policy.revoked = true
    case pos => simp [h₁, h₂] at h
    by_cases h₃ : r.current < policy.validFrom.time
    case pos => simp [h₁, h₂, h₃] at h
    by_cases h₄ : policy.validUntil.time < r.current
    case pos => simp [h₁, h₂, h₃, h₄] at h
    by_cases h₅ : r.capability ∈ policy.permittedCapabilities
    case neg => simp [h₁, h₂, h₃, h₄, h₅] at h
    by_cases h₆ : inScope policy r.target = false
    case pos => simp [h₁, h₂, h₃, h₄, h₅, h₆] at h
    by_cases h₇ : needsApproval policy r
    case pos => simp [h₁, h₂, h₃, h₄, h₅, h₆, h₇] at h
    exact ⟨h₁, by simpa using h₂, not_lt.mp h₃, not_lt.mp h₄, h₅, by simpa using h₆, h₇⟩
  · rintro ⟨h₁, h₂, h₃, h₄, h₅, h₆, h₇⟩
    simp [h₁, h₂, h₅, h₆, h₇, not_lt.mpr h₃, not_lt.mpr h₄]

/-- An allowed new action had budget left. -/
theorem evaluateAction_allowed_budget {policy : EngagementExecutionPolicy}
    {engagementStatus : Option String} {request : ActionRequest} {d : AuthorizationDecision}
    (h : evaluateAction policy engagementStatus request = .ok d) (hd : d.allowed = true) :
    policy.actionsUsed < policy.maxActions := by
  unfold evaluateAction at h
  simp only [bind_eq_ok, pure_eq_ok, Except.ok.injEq] at h
  obtain ⟨r, -, rfl⟩ := h
  exact (gate_allowed_iff.mp hd).2.2

/-- An allowed new action was asked for under an unrevoked policy. -/
theorem evaluateAction_allowed_notRevoked {policy : EngagementExecutionPolicy}
    {engagementStatus : Option String} {request : ActionRequest} {d : AuthorizationDecision}
    (h : evaluateAction policy engagementStatus request = .ok d) (hd : d.allowed = true) :
    policy.revoked = false := by
  unfold evaluateAction at h
  simp only [bind_eq_ok, pure_eq_ok, Except.ok.injEq] at h
  obtain ⟨r, -, rfl⟩ := h
  exact (gate_allowed_iff.mp hd).1.notRevoked

/-- So was an allowed reserved action. -/
theorem evaluateReservedAction_allowed_notRevoked {policy : EngagementExecutionPolicy}
    {engagementStatus : Option String} {request : ActionRequest} {d : AuthorizationDecision}
    (h : evaluateReservedAction policy engagementStatus request = .ok d)
    (hd : d.allowed = true) : policy.revoked = false := by
  unfold evaluateReservedAction at h
  simp only [bind_eq_ok, pure_eq_ok, Except.ok.injEq] at h
  obtain ⟨r, -, rfl⟩ := h
  exact (reservedGate_allowed_iff.mp hd).notRevoked

/-! ### The lease re-check against the full check -/

@[simp] theorem inScope_fresh (policy : EngagementExecutionPolicy) (target : Target) :
    inScope policy.fresh target = inScope policy target := rfl

@[simp] theorem needsApproval_fresh (policy : EngagementExecutionPolicy) (r : CheckedRequest) :
    needsApproval policy.fresh r ↔ needsApproval policy r := Iff.rfl

/-- The request reaches the impact ceiling and is above it: the gates in front of the ceiling let
it through, and its impact ranks higher than the policy allows. -/
structure HitsCeiling (policy : EngagementExecutionPolicy) (r : CheckedRequest) : Prop where
  active : r.engagementStatus = some "active"
  notRevoked : policy.revoked = false
  started : policy.validFrom.time ≤ r.current
  notExpired : r.current ≤ policy.validUntil.time
  permitted : r.capability ∈ policy.permittedCapabilities
  above : policy.maxImpact.rank < r.impact.rank

/-- At the ceiling the full check denies with the ceiling's code, which the lease re-check never
gives. -/
theorem HitsCeiling.gate {policy : EngagementExecutionPolicy} {r : CheckedRequest}
    (h : HitsCeiling policy r) : gate policy.fresh r = (false, .impactExceedsPolicy) := by
  obtain ⟨h₁, h₂, h₃, h₄, h₅, h₆⟩ := h
  simp [EngagementPolicy.gate, EngagementExecutionPolicy.fresh,
    EngagementExecutionPolicy.withUsed, h₁, h₂, h₅, h₆, not_lt.mpr h₃, not_lt.mpr h₄]

theorem reservedGate_ne_impact (policy : EngagementExecutionPolicy) (r : CheckedRequest) :
    (reservedGate policy r).2 ≠ .impactExceedsPolicy := by
  unfold reservedGate
  repeat' split
  all_goals simp

/-- Two verdicts that both allow, or both deny for one reason. -/
def SameVerdict (reserved full : Bool × ReasonCode) : Prop :=
  reserved.1 = full.1 ∧ (full.1 = false → reserved.2 = full.2)

/-- **On a fresh budget the two chains of gates differ in the impact ceiling only.** -/
theorem sameVerdict_iff {policy : EngagementExecutionPolicy} {r : CheckedRequest} :
    SameVerdict (reservedGate policy r) (gate policy.fresh r) ↔ ¬ HitsCeiling policy r := by
  constructor
  · rintro ⟨-, hcode⟩ hc
    rw [hc.gate] at hcode
    exact reservedGate_ne_impact policy r (hcode rfl)
  · intro hc
    have hmax : ¬ policy.maxActions ≤ 0 := by have := policy.maxActions_pos; omega
    have hgate : gate policy.fresh r =
        if r.engagementStatus ≠ some "active" then (false, .engagementNotActive)
        else if policy.revoked then (false, .authorizationRevoked)
        else if r.current < policy.validFrom.time then (false, .authorizationNotStarted)
        else if policy.validUntil.time < r.current then (false, .authorizationExpired)
        else if r.capability ∉ policy.permittedCapabilities then (false, .capabilityNotPermitted)
        else if policy.maxImpact.rank < r.impact.rank then (false, .impactExceedsPolicy)
        else if inScope policy r.target = false then (false, .targetOutOfScope)
        else if needsApproval policy r then (false, .approvalRequired)
        else (true, .authorized) := by
      have hused : ¬ policy.fresh.maxActions ≤ policy.fresh.actionsUsed := hmax
      simp only [gate, hused, if_false]
      rfl
    rw [hgate]
    unfold reservedGate SameVerdict
    by_cases h₁ : r.engagementStatus = some "active"
    case neg => simp [h₁]
    by_cases h₂ : policy.revoked = true
    case pos => simp [h₁, h₂]
    by_cases h₃ : r.current < policy.validFrom.time
    case pos => simp [h₁, h₂, h₃]
    by_cases h₄ : policy.validUntil.time < r.current
    case pos => simp [h₁, h₂, h₃, h₄]
    by_cases h₅ : r.capability ∈ policy.permittedCapabilities
    case neg => simp [h₁, h₂, h₃, h₄, h₅]
    have h₆ : ¬ policy.maxImpact.rank < r.impact.rank := fun h =>
      hc ⟨h₁, by simpa using h₂, not_lt.mp h₃, not_lt.mp h₄, h₅, h⟩
    by_cases h₇ : inScope policy r.target = false
    case pos => simp [h₁, h₂, h₃, h₄, h₅, h₆, h₇]
    by_cases h₈ : needsApproval policy r
    case pos => simp [h₁, h₂, h₃, h₄, h₅, h₆, h₇, h₈]
    simp [h₁, h₂, h₃, h₄, h₅, h₆, h₇, h₈]

/-- Both calls raise, or both decide and both allow or deny for one reason. -/
inductive Agree : Py AuthorizationDecision → Py AuthorizationDecision → Prop where
  | raises (e : Exn) : Agree (.error e) (.error e)
  | decides (d d' : AuthorizationDecision) (allowed : d.allowed = d'.allowed)
      (reason : d'.allowed = false → d.reasonCode = d'.reasonCode) : Agree (.ok d) (.ok d')

theorem Agree.map_allowed {reserved full : Py AuthorizationDecision} (h : Agree reserved full) :
    reserved.map (·.allowed) = full.map (·.allowed) := by
  cases h with
  | raises e => rfl
  | decides d d' allowed => simp [Except.map, allowed]

/-- A request with valid arguments that reaches the impact ceiling and is above it. -/
def AboveImpactCeiling (policy : EngagementExecutionPolicy) (engagementStatus : Option String)
    (request : ActionRequest) : Prop :=
  ∃ r, request.check engagementStatus = .ok r ∧ HitsCeiling policy r

/-- **The lease re-check agrees with the full check on an unused budget exactly where the impact
ceiling is not the gate that decides.** -/
theorem evaluateReservedAction_agrees_iff (policy : EngagementExecutionPolicy)
    (engagementStatus : Option String) (request : ActionRequest) :
    Agree (evaluateReservedAction policy engagementStatus request)
        (evaluateAction policy.fresh engagementStatus request) ↔
      ¬ AboveImpactCeiling policy engagementStatus request := by
  unfold evaluateReservedAction evaluateAction AboveImpactCeiling
  cases hr : request.check engagementStatus with
  | error e =>
    simp only [error_bind, reduceCtorEq, false_and, exists_false, not_false_eq_true, iff_true]
    exact .raises e
  | ok r =>
    simp only [ok_bind, pure_eq_ok, Except.ok.injEq, exists_eq_left', ← sameVerdict_iff]
    constructor
    · rintro ⟨⟩
      rename_i hallowed hreason
      exact ⟨hallowed, hreason⟩
    · rintro ⟨hallowed, hreason⟩
      exact .decides _ _ hallowed hreason

/-- A policy with the ceiling `low`, in force through 2030. -/
def lowCeilingArgs : PolicyArgs where
  engagementId := "e"
  scope := ["10.0.0.0/8"]
  validFrom := "2030-01-01T00:00:00+00:00"
  validUntil := "2030-12-31T00:00:00+00:00"
  maxActions := 1
  permittedCapabilities := ["scan"]
  maxImpact := "low"
  approvalRequiredCapabilities := []
  revoked := false
  actionsUsed := 0

/-- A request of the impact `standard` inside the scope and the window of `lowCeilingArgs`. -/
def standardRequest : ActionRequest where
  capability := "scan"
  target := "10.0.0.1"
  impact := "standard"
  approvalPresent := false
  now := (fromisoformat "2030-06-01T00:00:00+00:00").getD ⟨0, some 0⟩

/-- The lease re-check allows what the full check denies: the impact `standard` under the ceiling
`low`. -/
theorem evaluateReservedAction_above_ceiling :
    ∃ policy, lowCeilingArgs.make = .ok policy ∧
      ¬ Agree (evaluateReservedAction policy (some "active") standardRequest)
        (evaluateAction policy.fresh (some "active") standardRequest) := by
  have hallowed : (lowCeilingArgs.make >>= fun p =>
      evaluateReservedAction p (some "active") standardRequest).map (·.allowed) = .ok true := by
    decide +kernel
  have hdenied : (lowCeilingArgs.make >>= fun p =>
      evaluateAction p.fresh (some "active") standardRequest).map (·.allowed) = .ok false := by
    decide +kernel
  cases hpolicy : lowCeilingArgs.make with
  | error e => rw [hpolicy] at hallowed; cases hallowed
  | ok policy =>
    rw [hpolicy, ok_bind] at hallowed hdenied
    refine ⟨policy, rfl, fun hagree => ?_⟩
    have hsame := hagree.map_allowed
    rw [hallowed, hdenied] at hsame
    cases hsame

end NightRecon.SharedCore.EngagementPolicy
