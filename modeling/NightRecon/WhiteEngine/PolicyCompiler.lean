import NightRecon.SharedCore.EngagementPolicy
import NightRecon.WhiteEngine.EngagementAuthoring

/-!
# Compiling rules of engagement into a policy

`nightrecon_white_engine/policy_compiler.py`: an approved engagement becomes an execution policy
that preserves or narrows what was approved.

* `networkForTarget`, `subtractNetwork`, `ruleValues`, `effectiveScope` — the exclusions taken out
  of the allowed rules, one network after another;
* `CompiledPolicyBundle`, `BundleArgs.make` — the policy with the engagement it was compiled from;
* `compileEngagementPolicy` — the compiler.
-/

namespace NightRecon.WhiteEngine.PolicyCompiler

open NightRecon.Lib
open NightRecon.Lib.Checks
open NightRecon.Lib.Ipaddress
open NightRecon.Lib.Json
open NightRecon.Lib.Sha256
open NightRecon.Lib.Text
open NightRecon.Documents
open NightRecon.SharedCore.Authorization
open NightRecon.SharedCore.EngagementPolicy
  (EngagementExecutionPolicy Impact PolicyArgs)
open NightRecon.WhiteEngine.EngagementDomain hiding PolicyArgs
open NightRecon.WhiteEngine.Reading

def compilationError (message : String) : Exn := ⟨.policyCompilationError, message⟩

/-- Source: `policy_compiler.py` `_INTRUSIVENESS_TO_IMPACT`. -/
def intrusivenessToImpact : Intrusiveness → Option Impact
  | .passive => some .low
  | .safeActive => some .standard
  | .intrusive => some .high
  | .destructive => none

/-! ## Scopes -/

/-- The network a target covers.  A value that does not parse gives none; the values of targets
built by `parseTarget` always parse.
Source: `policy_compiler.py` `_network_for_target`. -/
def networkForTarget (target : Target) : Option IpNetwork :=
  match target.targetType with
  | .cidr => ipNetwork target.value
  | .ipv4 | .ipv6 =>
      (ipAddress target.value).bind fun address =>
        ipNetwork (address.str ++ if address.version = .v4 then "/32" else "/128")
  | .hostname => none

/-- Source: `policy_compiler.py` `_subtract_network`. -/
def subtractNetwork (allowed excluded : IpNetwork) : Py (List IpNetwork) :=
  if allowed.version ≠ excluded.version ∨ ¬ allowed.overlaps excluded then .ok [allowed]
  else if allowed.subnetOf excluded then .ok []
  else if excluded.subnetOf allowed then
    getOrRaise (allowed.addressExclude excluded)
      ⟨.assertionError, "Error performing exclusion"⟩
  else .error (compilationError "scope exclusion cannot be represented exactly")

/-- The pieces of a network after one more exclusion. -/
def subtractFrom (pieces : List IpNetwork) (excluded : IpNetwork) : Py (List IpNetwork) := do
  let next ← pieces.mapM fun piece => subtractNetwork piece excluded
  return next.flatten

/-- What is left of a network after all exclusions.  The source leaves its loop when no piece is
left, as the turns after that change nothing. -/
def subtractAll (source : IpNetwork) (excluded : List IpNetwork) : Py (List IpNetwork) :=
  excluded.foldlM subtractFrom [source]

/-- What one allowed rule adds to the effective scope.
Source: `policy_compiler.py` `_effective_scope`. -/
def ruleValues (excludedHostnames : List String) (excludedNetworks : List IpNetwork)
    (target : Target) : Py (List String) :=
  let notAddress := valueError
    ("'" ++ target.value ++ "' does not appear to be an IPv4 or IPv6 address")
  let notNetwork := valueError
    ("'" ++ target.value ++ "' does not appear to be an IPv4 or IPv6 network")
  match target.targetType with
  | .hostname => .ok (if target.value ∈ excludedHostnames then [] else [target.value])
  | .ipv4 | .ipv6 => do
      let address ← getOrRaise (ipAddress target.value) notAddress
      return if ∃ n ∈ excludedNetworks, n.contains address then [] else [address.str]
  | .cidr => do
      let source ← getOrRaise (ipNetwork target.value) notNetwork
      let pieces ← subtractAll source excludedNetworks
      return pieces.map IpNetwork.str

/-- Source: `policy_compiler.py` `_effective_scope`. -/
def effectiveScope (allowedValues excludedValues : List String) : Py (List String) := do
  let allowed ← allowedValues.mapM parseTarget
  let excluded ← excludedValues.mapM parseTarget
  let excludedHostnames := (excluded.filter fun t => t.targetType = .hostname).map (·.value)
  let values ← allowed.mapM (ruleValues excludedHostnames (excluded.filterMap networkForTarget))
  raiseIf (values.flatten = [])
    (compilationError "ROE exclusions remove the entire effective scope")
  return sortedStr values.flatten.dedup

/-! ## Bundles -/

/-- The arguments of the bundle constructor.  It does not look at the versions of the engagement and
of its rules. -/
structure BundleArgs where
  engagementId : String
  engagementVersion : Json
  engagementFingerprint : String
  roeVersion : Json
  roeFingerprint : String
  policy : EngagementExecutionPolicy
  compilerVersion : SchemaVersion
  schemaVersion : SchemaVersion

/-- Source: `policy_compiler.py` `CompiledPolicyBundle`. -/
structure CompiledPolicyBundle where
  engagementId : String
  engagementVersion : Json
  engagementFingerprint : String
  roeVersion : Json
  roeFingerprint : String
  policy : EngagementExecutionPolicy
  compilerVersion : SchemaVersion
  schemaVersion : SchemaVersion
  policy_engagement : policy.engagementId = engagementId
  engagementFingerprint_valid : isSha256Hex engagementFingerprint
  roeFingerprint_valid : isSha256Hex roeFingerprint

/-- Source: `policy_compiler.py` `CompiledPolicyBundle.__post_init__`. -/
def BundleArgs.make (a : BundleArgs) : Py CompiledPolicyBundle := do
  let h₁ ← prove (a.policy.engagementId = a.engagementId)
    (compilationError "compiled policy engagement does not match bundle")
  let h₂ ← prove (isSha256Hex a.engagementFingerprint)
    (compilationError "engagement_fingerprint must be a lowercase SHA-256")
  let h₃ ← prove (isSha256Hex a.roeFingerprint)
    (compilationError "roe_fingerprint must be a lowercase SHA-256")
  return ⟨a.engagementId, a.engagementVersion, a.engagementFingerprint, a.roeVersion,
    a.roeFingerprint, a.policy, a.compilerVersion, a.schemaVersion, h₁.down, h₂.down, h₃.down⟩

/-! ## The compiler -/

/-- The arguments the compiler builds the policy from. -/
def policyArgs (engagement : EngagementDefinition) (scope : List String) (maxImpact : Impact) :
    PolicyArgs where
  engagementId := engagement.engagementId
  scope := scope
  validFrom := engagement.roe.validFrom.text
  validUntil := engagement.roe.validUntil.text
  maxActions := engagement.roe.maxActions
  permittedCapabilities := sortedStr engagement.roe.allowedTechniques.values
  maxImpact := maxImpact.text
  approvalRequiredCapabilities := []
  revoked := false
  actionsUsed := 0

/-- `try: … except ValueError as exc: raise PolicyCompilationError(…) from exc`, around the
construction of the policy. -/
def rewrapPolicy {α : Type} : Py α → Py α
  | .ok a => .ok a
  | .error e => .error (if e.cls.isValueError then
      compilationError ("ROE cannot be represented safely as shared-core policy: " ++ e.message)
    else e)

/-- Source: `policy_compiler.py` `compile_engagement_policy`. -/
def compileEngagementPolicy (engagement : EngagementDefinition) : Py CompiledPolicyBundle := do
  let roe := engagement.roe
  let maxImpact ← getOrRaise (intrusivenessToImpact roe.maxIntrusiveness)
    (compilationError ("destructive intrusiveness is not representable by the shared-core " ++
      "execution policy and cannot be compiled"))
  let scope ← effectiveScope roe.scope.allowed.values roe.scope.excluded.values
  let policy ← rewrapPolicy (policyArgs engagement scope maxImpact).make
  let args : BundleArgs := {
    engagementId := engagement.engagementId
    engagementVersion := .int engagement.version
    engagementFingerprint := engagement.fingerprint
    roeVersion := .int roe.version
    roeFingerprint := roe.fingerprint
    policy := policy
    compilerVersion := .int
    schemaVersion := .int }
  args.make

/-! ## Spec lemmas -/

theorem rewrapPolicy_eq_ok {α : Type} {x : Py α} {a : α} : rewrapPolicy x = .ok a ↔ x = .ok a := by
  cases x <;> simp [rewrapPolicy]

/-- **What a compilation that returns has done.** -/
theorem compile_eq_ok {engagement : EngagementDefinition} {bundle : CompiledPolicyBundle} :
    compileEngagementPolicy engagement = .ok bundle ↔
      ∃ maxImpact scope,
        intrusivenessToImpact engagement.roe.maxIntrusiveness = some maxImpact ∧
        effectiveScope engagement.roe.scope.allowed.values
          engagement.roe.scope.excluded.values = .ok scope ∧
        (policyArgs engagement scope maxImpact).make = .ok bundle.policy ∧
        BundleArgs.make ⟨engagement.engagementId, .int engagement.version, engagement.fingerprint,
          .int engagement.roe.version, engagement.roe.fingerprint, bundle.policy, .int, .int⟩ =
            .ok bundle := by
  have hpolicy : ∀ {a : BundleArgs} {b : CompiledPolicyBundle}, a.make = .ok b →
      b.policy = a.policy := by
    intro a b h
    simp only [BundleArgs.make, bind_eq_ok, pure_eq_ok, Except.ok.injEq] at h
    obtain ⟨-, -, -, -, -, -, rfl⟩ := h
    rfl
  unfold compileEngagementPolicy
  simp only [bind_eq_ok, getOrRaise_eq_ok, rewrapPolicy_eq_ok]
  constructor
  · rintro ⟨maxImpact, himpact, scope, hscope, policy, hmake, hbundle⟩
    obtain rfl : bundle.policy = policy := hpolicy hbundle
    exact ⟨maxImpact, scope, himpact, hscope, hmake, hbundle⟩
  · rintro ⟨maxImpact, scope, himpact, hscope, hmake, hbundle⟩
    exact ⟨maxImpact, himpact, scope, hscope, bundle.policy, hmake, hbundle⟩

/-- The scope of a compiled policy is the effective scope. -/
theorem scope_of_compile {engagement : EngagementDefinition} {bundle : CompiledPolicyBundle}
    (h : compileEngagementPolicy engagement = .ok bundle) :
    effectiveScope engagement.roe.scope.allowed.values engagement.roe.scope.excluded.values =
      .ok bundle.policy.scope := by
  obtain ⟨maxImpact, scope, -, hscope, hmake, -⟩ := compile_eq_ok.mp h
  have hargs := EngagementExecutionPolicy.args_of_make hmake
  have hkept : bundle.policy.scope = scope := congrArg PolicyArgs.scope hargs
  rw [hkept]
  exact hscope

end NightRecon.WhiteEngine.PolicyCompiler
