import NightRecon.Lib.Commitment
import NightRecon.WhiteEngine.CompilerAcceptance

/-!
# Compiled bundles as documents

`nightrecon_white_engine/policy_compiler.py`, continued: a compiled policy travels with fingerprints
of itself, of the engagement and of its rules.

* `CompiledPolicyBundle.toJson`, `fromJson` — the canonical text and its reader;
* `fromJson_toJson` — a bundle whose versions can be written reads back as itself;
* `eq_of_bundleFingerprint` — its fingerprint binds a bundle;
* `compiledBundle_sealed` — nothing but the compiled bundle is read under its fingerprint, and only
  the engagement itself compiles to it.
-/

namespace NightRecon.WhiteEngine.PolicyCompiler

open NightRecon.Lib
open NightRecon.Lib.Checks
open NightRecon.Lib.Commitment
open NightRecon.Lib.Json
open NightRecon.Lib.Sha256
open NightRecon.Documents
open NightRecon.DocumentMembers
open NightRecon.SharedCore.EngagementPolicy (EngagementExecutionPolicy policyKeys_current)
open NightRecon.WhiteEngine.EngagementDomain hiding PolicyArgs
open NightRecon.WhiteEngine.Reading

/-! ## Policies in documents -/

/-- The members of a policy's document. -/
def policyMembers (p : EngagementExecutionPolicy) : List (String × Json) :=
  [("engagement_id", .str p.engagementId),
    ("scope", .strings p.scope),
    ("valid_from", .str p.validFrom.text),
    ("valid_until", .str p.validUntil.text),
    ("max_actions", .int p.maxActions),
    ("permitted_capabilities", .strings p.permittedCapabilities),
    ("max_impact", .str p.maxImpact.text),
    ("approval_required_capabilities", .strings p.approvalRequiredCapabilities),
    ("revoked", .bool p.revoked),
    ("actions_used", .int p.actionsUsed),
    ("schema_version", .int 1)]

theorem toDict_eq (p : EngagementExecutionPolicy) : p.toDict = .obj (policyMembers p) := rfl

theorem policyMembers_nodup (p : EngagementExecutionPolicy) :
    ((policyMembers p).map (·.1)).Nodup := by
  simp [policyMembers]

theorem valid_policy (p : EngagementExecutionPolicy) : valid p.toDict := by
  rw [toDict_eq]
  refine ⟨policyMembers_nodup p, ?_⟩
  simp only [policyMembers, membersValid, valid, valid_strings, and_self]

theorem normalMembers_policy (p : EngagementExecutionPolicy) :
    normalMembers (policyMembers p) = policyMembers p := by
  simp only [normalMembers, policyMembers, List.map_cons, List.map_nil, normal, normal_strings]

/-- A policy is read from any document with its members. -/
theorem policy_fromDict_of {doc : Json} {p : EngagementExecutionPolicy}
    (h : HasExactly doc (normalMembers (policyMembers p))) :
    SharedCore.EngagementPolicy.fromDict doc = .ok p := by
  have hmake := p.make_args
  simp only [EngagementExecutionPolicy.args] at hmake
  rw [normalMembers_policy] at h
  have hkeys := h.keys
  simp only [policyMembers, List.map_cons, List.map_nil, policyKeys_current] at hkeys
  have hhas := h.has
  simp only [policyMembers, has_cons, has_nil, and_true] at hhas
  obtain ⟨h₁, h₂, h₃, h₄, h₅, h₆, h₇, h₈, h₉, h₁₀, h₁₁⟩ := hhas
  simp only [SharedCore.EngagementPolicy.fromDict, hkeys, getItem, h₁, h₂, h₃, h₄, h₅, h₆, h₇, h₈,
    h₉, h₁₀, h₁₁, getOrRaise_some, ok_bind, or_true, require_of, equalsOne, asStr, asInt,
    asStrings_strings, truthy, Option.getD_some, hmake]

theorem policy_fromDict_normal (p : EngagementExecutionPolicy) :
    SharedCore.EngagementPolicy.fromDict (normal p.toDict) = .ok p :=
  policy_fromDict_of (hasExactly_normal (policyMembers_nodup p))

/-! ## The bundle as a document -/

namespace CompiledPolicyBundle

/-- Source: `policy_compiler.py` `CompiledPolicyBundle.policy_fingerprint`. -/
def policyFingerprint (b : CompiledPolicyBundle) : String := Fields.fingerprint b.policy.toDict

/-- Source: `policy_compiler.py` `CompiledPolicyBundle._bundle_payload`. -/
def bundlePayload (b : CompiledPolicyBundle) : List (String × Json) :=
  [("schema_version", b.schemaVersion.toJson),
    ("compiler_version", b.compilerVersion.toJson),
    ("engagement_id", .str b.engagementId),
    ("engagement_version", b.engagementVersion),
    ("engagement_fingerprint", .str b.engagementFingerprint),
    ("roe_version", b.roeVersion),
    ("roe_fingerprint", .str b.roeFingerprint),
    ("policy_fingerprint", .str b.policyFingerprint),
    ("policy", b.policy.toDict)]

/-- The text hashed for the fingerprint of a bundle. -/
def hashed (b : CompiledPolicyBundle) : List Char := chars (.obj b.bundlePayload)

/-- Source: `policy_compiler.py` `CompiledPolicyBundle.bundle_fingerprint`. -/
def bundleFingerprint (b : CompiledPolicyBundle) : String := hexOf b.hashed

/-- The payload with the fingerprint. -/
def members (b : CompiledPolicyBundle) : List (String × Json) :=
  b.bundlePayload ++ [("bundle_fingerprint", .str b.bundleFingerprint)]

/-- Source: `policy_compiler.py` `CompiledPolicyBundle.to_dict`. -/
def toDict (b : CompiledPolicyBundle) : Json := .obj b.members

/-- Source: `policy_compiler.py` `CompiledPolicyBundle.to_json`. -/
def toJson (b : CompiledPolicyBundle) : String := write b.toDict

/-- The keys of a bundle's document. -/
def required : List String :=
  ["schema_version", "compiler_version", "engagement_id", "engagement_version",
    "engagement_fingerprint", "roe_version", "roe_fingerprint", "policy_fingerprint", "policy",
    "bundle_fingerprint"]

/-- `try: … except ValueError as exc: raise PolicyCompilationError(str(exc)) from exc`. -/
def rewrapRead {α : Type} : Py α → Py α
  | .ok a => .ok a
  | .error e => .error (if e.cls.isValueError then compilationError e.message else e)

/-- A member as a text.  What is no text fails the constructor's checks as the empty text does. -/
def textOf : Json → String
  | .str s => s
  | _ => ""

/-- The arguments `from_dict` hands to the constructor. -/
def readArgs (doc : Json) (policy : EngagementExecutionPolicy) : Py BundleArgs := do
  let get := getItem doc
  let schemaVersion ← get "schema_version" >>=
    SchemaVersion.ofJson (compilationError "unsupported compiled policy bundle schema")
  let compilerVersion ← get "compiler_version" >>=
    SchemaVersion.ofJson (compilationError "unsupported policy compiler version")
  return {
    engagementId := textOf (← get "engagement_id")
    engagementVersion := ← get "engagement_version"
    engagementFingerprint := textOf (← get "engagement_fingerprint")
    roeVersion := ← get "roe_version"
    roeFingerprint := textOf (← get "roe_fingerprint")
    policy := policy
    compilerVersion := compilerVersion
    schemaVersion := schemaVersion }

/-- Source: `policy_compiler.py` `CompiledPolicyBundle.from_dict`. -/
def fromDict (doc : Json) : Py CompiledPolicyBundle := do
  requireKeys doc required (compilationError "compiled policy bundle schema is not supported")
  let policyDoc ← getItem doc "policy"
  require (isObject policyDoc = true) (compilationError "compiled policy must be an object")
  let policy ← rewrapRead (SharedCore.EngagementPolicy.fromDict policyDoc)
  let args ← readArgs doc policy
  let bundle ← args.make
  verify doc "policy_fingerprint" bundle.policyFingerprint
    (compilationError "compiled policy fingerprint verification failed")
  verify doc "bundle_fingerprint" bundle.bundleFingerprint
    (compilationError "compiled policy bundle fingerprint verification failed")
  return bundle

/-- Source: `policy_compiler.py` `CompiledPolicyBundle.from_json`. -/
def fromJson (payload : String) : Py CompiledPolicyBundle := do
  let decoded ← getOrRaise (loads payload)
    (compilationError "compiled policy bundle is not valid JSON")
  fromDict decoded

/-- Source: `policy_compiler.py` `CompiledPolicyBundle.verify_integrity`. -/
def verifyIntegrity (b : CompiledPolicyBundle) : Bool :=
  (b.toDict.get? "policy_fingerprint").any (isStr b.policyFingerprint) &&
    (b.toDict.get? "bundle_fingerprint").any (isStr b.bundleFingerprint)

/-! ### Rebuilding -/

/-- The arguments a bundle was built from. -/
@[reducible] def args (b : CompiledPolicyBundle) : BundleArgs :=
  ⟨b.engagementId, b.engagementVersion, b.engagementFingerprint, b.roeVersion, b.roeFingerprint,
    b.policy, b.compilerVersion, b.schemaVersion⟩

theorem make_args (b : CompiledPolicyBundle) : b.args.make = .ok b := by
  unfold BundleArgs.make
  rw [prove_of b.policy_engagement, ok_bind, prove_of b.engagementFingerprint_valid, ok_bind,
    prove_of b.roeFingerprint_valid, ok_bind]
  rfl

theorem args_of_make {a : BundleArgs} {b : CompiledPolicyBundle} (h : a.make = .ok b) :
    b.args = a := by
  simp only [BundleArgs.make, bind_eq_ok, pure_eq_ok, Except.ok.injEq] at h
  obtain ⟨-, -, -, -, -, -, rfl⟩ := h
  rfl

theorem args_injective {b b' : CompiledPolicyBundle} (h : b.args = b'.args) : b = b' := by
  have hmake := b.make_args
  rw [h, b'.make_args] at hmake
  exact (Except.ok.inj hmake).symm

/-! ### Reading back -/

/-- The versions of a bundle are JSON values that can be written. -/
def Written (b : CompiledPolicyBundle) : Prop := valid b.engagementVersion ∧ valid b.roeVersion

theorem required_nodup : required.Nodup := by simp [required]

theorem valid_toDict {b : CompiledPolicyBundle} (h : b.Written) : valid b.toDict := by
  have hpolicy := valid_policy b.policy
  refine ⟨required_nodup, ?_⟩
  simp only [members, bundlePayload, List.cons_append, List.nil_append, membersValid,
    SchemaVersion.valid_toJson, hpolicy, h.1, h.2, true_and]
  simp only [valid, and_self]

theorem valid_payload {b : CompiledPolicyBundle} (h : b.Written) :
    valid (.obj b.bundlePayload) := by
  have hpolicy := valid_policy b.policy
  refine ⟨by simp [bundlePayload], ?_⟩
  simp only [bundlePayload, membersValid, SchemaVersion.valid_toJson, hpolicy, h.1, h.2, true_and]
  simp only [valid, and_self]

/-- **A written bundle reads back as itself**, when its versions are read back as they are. -/
theorem fromJson_toJson {b : CompiledPolicyBundle} (h : b.Written)
    (hengagement : normal b.engagementVersion = b.engagementVersion)
    (hroe : normal b.roeVersion = b.roeVersion) : fromJson b.toJson = .ok b := by
  have hdoc : HasExactly (normal b.toDict) (normalMembers b.members) :=
    hasExactly_normal (valid_toDict h).1
  have hkeys : (normalMembers b.members).map (·.1) = required := rfl
  have hobject : isObject (normal b.policy.toDict) = true := rfl
  have hhas := hdoc.has
  simp only [normalMembers, members, bundlePayload, List.cons_append, List.nil_append,
    List.map_cons, List.map_nil, SchemaVersion.normal_toJson, hengagement, hroe, has_cons, has_nil,
    and_true] at hhas
  obtain ⟨h₁, h₂, h₃, h₄, h₅, h₆, h₇, h₈, h₉, h₁₀⟩ := hhas
  simp only [normal] at h₃ h₅ h₇ h₈ h₁₀
  have hread : readArgs (normal b.toDict) b.policy = .ok b.args := by
    simp only [readArgs, getItem, h₁, h₂, h₃, h₄, h₅, h₆, h₇, getOrRaise_some, ok_bind, textOf,
      SchemaVersion.ofJson_toJson, pure_eq_ok]
  rw [fromJson, toJson, loads_write (valid_toDict h), getOrRaise_some, ok_bind, fromDict,
    requireKeys_of hdoc hkeys, ok_bind, getItem, h₉, getOrRaise_some, ok_bind, require_of hobject,
    ok_bind, policy_fromDict_normal, rewrapRead, ok_bind, hread, ok_bind, make_args, ok_bind,
    verify_of h₈, ok_bind, verify_of h₁₀]
  rfl

/-- The hook of the source never fails: it compares a bundle with the document written from it. -/
theorem verifyIntegrity_true (b : CompiledPolicyBundle) : b.verifyIntegrity = true := by
  simp [verifyIntegrity, toDict, members, bundlePayload, get?, isStr]

/-- A document that is read carries the fingerprint of the bundle. -/
theorem carries_of_fromDict {doc : Json} {b : CompiledPolicyBundle} (h : fromDict doc = .ok b) :
    doc.get? "bundle_fingerprint" = some (.str b.bundleFingerprint) := by
  simp only [fromDict, bind_eq_ok, verify_eq_ok, pure_eq_ok, Except.ok.injEq] at h
  obtain ⟨-, -, -, -, -, -, -, -, -, -, bundle, -, -, -, -, hcarried, rfl⟩ := h
  exact hcarried

/-- The members of a value that can be written can be written. -/
theorem valid_of_get? {doc j : Json} {key : String} (h : valid doc) (hget : doc.get? key = some j) :
    valid j := by
  cases doc with
  | obj members =>
    obtain ⟨m, hm, rfl⟩ := Option.map_eq_some_iff.mp hget
    exact membersValid_iff.mp h.2 m (List.mem_of_find?_eq_some hm)
  | _ => simp [get?] at hget

theorem versions_of_readArgs {doc : Json} {policy : EngagementExecutionPolicy} {a : BundleArgs}
    (h : readArgs doc policy = .ok a) :
    doc.get? "engagement_version" = some a.engagementVersion ∧
      doc.get? "roe_version" = some a.roeVersion := by
  simp only [readArgs, bind_eq_ok, getItem_eq_ok, pure_eq_ok, Except.ok.injEq] at h
  obtain ⟨-, -, -, -, -, -, engagementVersion, hengagement, -, -, roeVersion, hroe, -, -, rfl⟩ := h
  exact ⟨hengagement, hroe⟩

/-- What is read from a document that can be written can be written. -/
theorem written_of_fromDict {doc : Json} {b : CompiledPolicyBundle} (hvalid : valid doc)
    (h : fromDict doc = .ok b) : b.Written := by
  simp only [fromDict, bind_eq_ok, pure_eq_ok, Except.ok.injEq] at h
  obtain ⟨-, -, -, -, -, -, policy, -, args, hread, bundle, hmake, -, -, -, -, rfl⟩ := h
  obtain ⟨hengagement, hroe⟩ := versions_of_readArgs hread
  rw [← args_of_make hmake] at hengagement hroe
  exact ⟨valid_of_get? hvalid hengagement, valid_of_get? hvalid hroe⟩

/-! ### Binding -/

/-- **The fingerprint of a bundle binds it**, up to the order of members in its versions. -/
theorem eq_of_bundleFingerprint {b b' : CompiledPolicyBundle} (h : b.Written) (h' : b'.Written)
    (hcollision : NoCollision hexOf [b.hashed, b'.hashed])
    (hfp : b.bundleFingerprint = b'.bundleFingerprint) :
    normal b.engagementVersion = normal b'.engagementVersion ∧
      normal b.roeVersion = normal b'.roeVersion ∧
      (b.engagementVersion = b'.engagementVersion → b.roeVersion = b'.roeVersion → b = b') := by
  have htext : b.hashed = b'.hashed := hcollision _ (by simp) _ (by simp) hfp
  have hnormal : normal (.obj b.bundlePayload) = normal (.obj b'.bundlePayload) :=
    normal_eq_of_write_eq (valid_payload h) (valid_payload h') (congrArg String.ofList htext)
  have hget := get?_normal_eq (valid_payload h).1 (valid_payload h').1 hnormal
  have h₁ := hget "schema_version"
  have h₂ := hget "compiler_version"
  have h₃ := hget "engagement_id"
  have h₄ := hget "engagement_version"
  have h₅ := hget "engagement_fingerprint"
  have h₆ := hget "roe_version"
  have h₇ := hget "roe_fingerprint"
  have h₈ := hget "policy"
  simp only [bundlePayload, get?, List.find?_cons, String.reduceEq, decide_true, decide_false,
    Option.map_some, Option.some.injEq, SchemaVersion.normal_toJson] at h₁ h₂ h₃ h₄ h₅ h₆ h₇ h₈
  simp only [normal, Json.str.injEq] at h₃ h₅ h₇
  have hpolicy : b.policy = b'.policy := by
    have hread := policy_fromDict_normal b.policy
    rw [h₈, policy_fromDict_normal] at hread
    exact (Except.ok.inj hread).symm
  refine ⟨h₄, h₆, fun hengagement hroe => args_injective ?_⟩
  simp only [args, hengagement, hroe, SchemaVersion.toJson_injective h₁,
    SchemaVersion.toJson_injective h₂, h₃, h₅, h₇, hpolicy]

end CompiledPolicyBundle

/-! ## Compiled bundles -/

/-- An integer is the only value that is written as it. -/
theorem eq_int_of_normal {j : Json} {n : Int} (h : normal j = normal (.int n)) : j = .int n := by
  cases j with
  | int m => simpa [normal] using h
  | _ => simp [normal] at h

/-- What a compiled bundle says of the engagement. -/
theorem args_of_compile {engagement : EngagementDefinition} {bundle : CompiledPolicyBundle}
    (h : compileEngagementPolicy engagement = .ok bundle) :
    bundle.args = ⟨engagement.engagementId, .int engagement.version, engagement.fingerprint,
      .int engagement.roe.version, engagement.roe.fingerprint, bundle.policy, .int, .int⟩ := by
  obtain ⟨maxImpact, scope, -, -, -, hmake⟩ := compile_eq_ok.mp h
  exact CompiledPolicyBundle.args_of_make hmake

theorem versions_of_compile {engagement : EngagementDefinition} {bundle : CompiledPolicyBundle}
    (h : compileEngagementPolicy engagement = .ok bundle) :
    bundle.engagementVersion = .int engagement.version ∧
      bundle.roeVersion = .int engagement.roe.version :=
  ⟨congrArg BundleArgs.engagementVersion (args_of_compile h),
    congrArg BundleArgs.roeVersion (args_of_compile h)⟩

theorem written_of_compile {engagement : EngagementDefinition} {bundle : CompiledPolicyBundle}
    (h : compileEngagementPolicy engagement = .ok bundle) : bundle.Written := by
  obtain ⟨hengagement, hroe⟩ := versions_of_compile h
  simp only [CompiledPolicyBundle.Written, hengagement, hroe, valid, and_self]

/-- No other bundle has the fingerprint of a compiled one. -/
theorem eq_of_compile_fingerprint {engagement : EngagementDefinition}
    {bundle bundle' : CompiledPolicyBundle} (h : compileEngagementPolicy engagement = .ok bundle)
    (hwritten : bundle'.Written) (hcollision : NoCollision hexOf [bundle.hashed, bundle'.hashed])
    (hfp : bundle.bundleFingerprint = bundle'.bundleFingerprint) : bundle = bundle' := by
  obtain ⟨hengagement, hroe⟩ := versions_of_compile h
  obtain ⟨hengagement', hroe', heq⟩ := CompiledPolicyBundle.eq_of_bundleFingerprint
    (written_of_compile h) hwritten hcollision hfp
  rw [hengagement] at hengagement'
  rw [hroe] at hroe'
  apply heq
  · rw [hengagement, eq_int_of_normal hengagement'.symm]
  · rw [hroe, eq_int_of_normal hroe'.symm]

/-- **A compiled bundle is sealed**: it reads back as itself, nothing else is read under its
fingerprint, and only the engagement itself compiles to it, as long as no two of the texts hashed
collide. -/
theorem compiledBundle_sealed {engagement : EngagementDefinition} {bundle : CompiledPolicyBundle}
    (h : compileEngagementPolicy engagement = .ok bundle) :
    bundle.verifyIntegrity = true ∧
      CompiledPolicyBundle.fromJson bundle.toJson = .ok bundle ∧
      (∀ doc bundle', valid doc → CompiledPolicyBundle.fromDict doc = .ok bundle' →
        doc.get? "bundle_fingerprint" = some (.str bundle.bundleFingerprint) →
        NoCollision hexOf [bundle.hashed, bundle'.hashed] → bundle' = bundle) ∧
      (∀ engagement' bundle', compileEngagementPolicy engagement' = .ok bundle' →
        bundle.bundleFingerprint = bundle'.bundleFingerprint →
        NoCollision hexOf [bundle.hashed, bundle'.hashed, engagement.hashed, engagement'.hashed] →
        engagement' = engagement) := by
  obtain ⟨hengagement, hroe⟩ := versions_of_compile h
  refine ⟨bundle.verifyIntegrity_true, ?_, ?_, ?_⟩
  · apply CompiledPolicyBundle.fromJson_toJson (written_of_compile h)
    · simp only [hengagement, normal]
    · simp only [hroe, normal]
  · intro doc bundle' hvalid hread hcarried hcollision
    have hwritten := CompiledPolicyBundle.written_of_fromDict hvalid hread
    have hown := CompiledPolicyBundle.carries_of_fromDict hread
    rw [hcarried] at hown
    have hfp := Json.str.inj (Option.some.inj hown)
    exact (eq_of_compile_fingerprint h hwritten hcollision hfp).symm
  · intro engagement' bundle' h' hfp hcollision
    -- The bundle names the fingerprint of the engagement it was compiled from.
    have hbundle : bundle = bundle' :=
      eq_of_compile_fingerprint h (written_of_compile h') (hcollision.mono (by simp)) hfp
    have hsource := congrArg BundleArgs.engagementFingerprint (args_of_compile h)
    have hsource' := congrArg BundleArgs.engagementFingerprint (args_of_compile h')
    rw [← hbundle] at hsource'
    exact EngagementDefinition.eq_of_fingerprint (hcollision.mono (by simp))
      (hsource'.symm.trans hsource)

theorem compiledBundle_sealed_sample : ∃ bundle,
    compileEngagementPolicy sampleEngagement = .ok bundle ∧
      CompiledPolicyBundle.fromJson bundle.toJson = .ok bundle := by
  obtain ⟨bundle, hbundle⟩ := compile_of_compilable sampleEngagement_unzoned.1
    sampleEngagement_unzoned.2 sampleEngagement_compilable
  exact ⟨bundle, hbundle, (compiledBundle_sealed hbundle).2.1⟩

end NightRecon.WhiteEngine.PolicyCompiler
