import NightRecon.TaskAutomation.Policy

/-!
# Approvals of objectives

`tools/task_automation/objectives.py`: an owner signs what an objective may do, and the controller
verifies the signature and every bound before it believes any of it.

* `verifyEnvelope` — a signed document, its key and the role of the key;
* `Limits`, `Approval`, `verifyApproval` — the bounds of an objective, and the approval of one;
* `Approved`, `approved_of_verifyApproval` — what holds of an approval that is verified.
-/

namespace NightRecon.TaskAutomation

open NightRecon.Lib
open NightRecon.Lib.Checks
open NightRecon.Lib.Text

/-! ## Envelopes -/

/-- Source: `objectives.py` `TrustKey`. -/
structure TrustKey where
  owner : String
  role : String
  publicKey : List UInt8

/-- `b"nightrecon-objective-approval-v1\x00"`. -/
def approvalDomain : List UInt8 := Json.encode "nightrecon-objective-approval-v1".toList ++ [0]

/-- The largest number of a document that is written exactly. -/
def maxInteger : Nat := 2 ^ 53 - 1

section Documents

-- `signed` is what the signature library answers: whether the base64 text decodes to a signature of
-- the bytes by the public key
variable (signed : List UInt8 → String → List UInt8 → Bool) (casefold : String → String)

/-- A signed document: its payload, its key and the name of the key.
Source: `objectives.py` `verify_envelope`. -/
def verifyEnvelope (raw domain : List UInt8) (trusted : List (String × TrustKey))
    (requiredRole : String) : Py (Json × TrustKey × String) := do
  let envelope ← json 1048576 raw
  let envelope ← keys ["key_id", "payload", "signature"] envelope
  let keyId ← text 128 (field envelope "key_id")
  let key ← getOrRaise (trusted.lookup keyId) (rejected "untrusted signing key")
  require (key.role = requiredRole) (rejected "incorrect signing role")
  match field envelope "payload", field envelope "signature" with
  | .obj members, .str signature => do
      require (signed key.publicKey signature (domain ++ canonical (.obj members)) = true)
        (rejected "signature verification failed")
      return (.obj members, key, keyId)
  | .obj _, _ => throw (rejected "invalid signature type")
  | _, _ => throw (rejected "signed object required")

/-! ## Approvals -/

/-- Source: `objectives.py` `Limits`. -/
structure Limits where
  maxBatches : Nat
  maxRepairsPerBatch : Nat
  maxAttempts : Nat
  maxWallSeconds : Nat
  maxTokens : Nat
  maxCostMicrousd : Nat
  deriving DecidableEq

/-- Source: `objectives.py` `Approval`. -/
structure Approval where
  objectiveId : String
  owner : String
  digest : String
  task : Task
  approvedAt : Nat
  expiresAt : Nat
  limits : Limits
  releaseAuthorized : Bool
  releaseTag : Option String
  artifactNames : List String
  signingKeyIds : List String

/-- `issue-{number}-r{revision}`. -/
def objectiveName (task : Task) : String :=
  "issue-" ++ toString task.issueNumber ++ "-r" ++ toString task.revision

/-- The members of an approval. -/
def approvalFields : List String :=
  ["schema_version", "objective_id", "owner", "repository", "task", "policy_digest", "approved_at",
    "expires_at", "limits", "release", "allow_safety_control_changes"]

/-- The limits of an approval. -/
def readLimits (policy : Policy) (value : Json) : Py Limits := do
  let values ← keys ["max_batches", "max_repairs_per_batch", "max_attempts", "max_wall_seconds",
    "max_tokens", "max_cost_microusd"] value
  let maxBatches ← integer 1 20 (field values "max_batches")
  let maxRepairs ← integer 0 policy.maxRepairAttempts (field values "max_repairs_per_batch")
  let maxAttempts ← integer 1 60 (field values "max_attempts")
  let maxWallSeconds ← integer 1 (policy.maxRuntimeMinutes * 60) (field values "max_wall_seconds")
  let maxTokens ← integer 1 2000000 (field values "max_tokens")
  let maxCost ← integer 1 100000000 (field values "max_cost_microusd")
  return ⟨maxBatches.1, maxRepairs.1, maxAttempts.1, maxWallSeconds.1, maxTokens.1, maxCost.1⟩

/-- `v[0-9]+\.[0-9]+\.[0-9]+`. -/
def isReleaseTag (s : String) : Bool :=
  match s.toList with
  | 'v' :: rest =>
      (rest.splitOn '.').length = 3 && (rest.splitOn '.').all fun part =>
        part ≠ [] && part.all isDigit
  | _ => false

/-- What an approval says of a release: the tag, the artifacts and the keys that sign them. -/
structure ReleaseTerms where
  authorized : Bool
  tag : Option String
  artifactNames : List String
  signingKeyIds : List String

/-- The name of an artifact: a path without a directory. -/
def artifactName (name : String) : Py Unit := do
  checkPath casefold false name
  raiseIf ('/' ∈ name.toList) (rejected "release artifact must be a basename")

/-- The tag of a release. -/
def releaseTag : Json → Py String
  | .str tag => do
      require (isReleaseTag tag = true) (rejected "invalid release tag")
      return tag
  | _ => throw (rejected "invalid release tag")

/-- The release of an approval. -/
def readRelease (value : Json) : Py ReleaseTerms := do
  let release ← keys ["authorized", "tag", "artifact_names", "signing_key_ids"] value
  match field release "authorized" with
  | .bool true => do
      let tag ← releaseTag (field release "tag")
      let names ← strings 20 (field release "artifact_names")
      names.forM (artifactName casefold)
      let signing ← strings 20 (field release "signing_key_ids")
      return ⟨true, some tag, names, signing⟩
  | .bool false => do
      require (field release "tag" = .null) (rejected "unauthorized release fields")
      match field release "artifact_names", field release "signing_key_ids" with
      | .arr [], .arr [] => return ⟨false, none, [], []⟩
      | _, _ => throw (rejected "unauthorized release fields")
  | _ => throw (rejected "invalid release authorization")

/-- Source: `objectives.py` `verify_approval`. -/
def verifyApproval (raw : List UInt8) (policy : Policy) (owners : List (String × TrustKey))
    (now : Int) : Py Approval := do
  let (data, key, _) ← verifyEnvelope signed raw approvalDomain owners "owner"
  let data ← keys approvalFields data
  require (field data "schema_version" = .int 1) (rejected "unsupported approval version")
  require (field data "owner" = .str key.owner ∧ key.owner ∈ policy.allowedSubmitters)
    (rejected "approval owner mismatch")
  require (field data "repository" = .str "kostekdolata/NightRecon")
    (rejected "approval repository mismatch")
  require (field data "policy_digest" = .str policy.digest) (rejected "approval policy mismatch")
  require (field data "allow_safety_control_changes" = .bool false) (rejected
    "safety/control-plane changes require a separate reviewed infrastructure path")
  let task ← parseTask casefold (canonical (field data "task")) policy
  require (field data "objective_id" = .str (objectiveName task))
    (rejected "objective identity mismatch")
  let approved ← integer 0 maxInteger (field data "approved_at")
  let expires ← integer 1 maxInteger (field data "expires_at")
  require (0 ≤ now ∧ now ≤ maxInteger) (rejected "invalid integer")
  require ((approved.1 : Int) ≤ now ∧ now < expires.1 ∧ (expires.1 : Int) - approved.1 ≤ 604800)
    (rejected "approval not active or exceeds seven-day lifetime")
  let limits ← readLimits policy (field data "limits")
  let release ← readRelease casefold (field data "release")
  return { objectiveId := objectiveName task
           owner := key.owner
           digest := digest (canonical data)
           task := task
           approvedAt := approved.1
           expiresAt := expires.1
           limits := limits
           releaseAuthorized := release.authorized
           releaseTag := release.tag
           artifactNames := release.artifactNames
           signingKeyIds := release.signingKeyIds }

end Documents

/-! ## What an approval promises -/

/-- The limits are within what any approval and the policy allow. -/
structure Limits.Within (limits : Limits) (policy : Policy) : Prop where
  batches : 1 ≤ limits.maxBatches ∧ limits.maxBatches ≤ 20
  repairs : limits.maxRepairsPerBatch ≤ policy.maxRepairAttempts
  attempts : 1 ≤ limits.maxAttempts ∧ limits.maxAttempts ≤ 60
  wallSeconds : 1 ≤ limits.maxWallSeconds ∧ limits.maxWallSeconds ≤ policy.maxRuntimeMinutes * 60
  tokens : 1 ≤ limits.maxTokens ∧ limits.maxTokens ≤ 2000000
  cost : 1 ≤ limits.maxCostMicrousd ∧ limits.maxCostMicrousd ≤ 100000000

/-- What holds of an approval that is verified at a time. -/
structure Approved (casefold : String → String) (policy : Policy) (a : Approval) (now : Int) :
    Prop where
  objectiveId : a.objectiveId = objectiveName a.task
  granted : Granted casefold policy a.task
  submitter : a.owner ∈ policy.allowedSubmitters
  active : (a.approvedAt : Int) ≤ now ∧ now < a.expiresAt ∧ a.expiresAt ≤ a.approvedAt + 604800
  limits : a.limits.Within policy

section Facts

variable {signed : List UInt8 → String → List UInt8 → Bool} {casefold : String → String}
  {policy : Policy}

theorem within_of_readLimits {value : Json} {limits : Limits}
    (h : readLimits policy value = .ok limits) : limits.Within policy := by
  unfold readLimits at h
  obtain ⟨values, -, h⟩ := bind_eq_ok.mp h
  obtain ⟨maxBatches, -, h⟩ := bind_eq_ok.mp h
  obtain ⟨maxRepairs, -, h⟩ := bind_eq_ok.mp h
  obtain ⟨maxAttempts, -, h⟩ := bind_eq_ok.mp h
  obtain ⟨maxWallSeconds, -, h⟩ := bind_eq_ok.mp h
  obtain ⟨maxTokens, -, h⟩ := bind_eq_ok.mp h
  obtain ⟨maxCost, -, h⟩ := bind_eq_ok.mp h
  obtain rfl := Except.ok.inj h
  exact ⟨maxBatches.2, maxRepairs.2.2, maxAttempts.2, maxWallSeconds.2, maxTokens.2, maxCost.2⟩

/-- **What a verified approval promises.** -/
theorem approved_of_verifyApproval {raw : List UInt8} {owners : List (String × TrustKey)}
    {now : Int} {a : Approval} (h : verifyApproval signed casefold raw policy owners now = .ok a) :
    Approved casefold policy a now := by
  unfold verifyApproval at h
  obtain ⟨⟨data, key, keyId⟩, -, h⟩ := bind_eq_ok.mp h
  obtain ⟨data, -, h⟩ := bind_eq_ok.mp h
  obtain ⟨-, h⟩ := require_bind_eq_ok.mp h
  obtain ⟨howner, h⟩ := require_bind_eq_ok.mp h
  obtain ⟨-, h⟩ := require_bind_eq_ok.mp h
  obtain ⟨-, h⟩ := require_bind_eq_ok.mp h
  obtain ⟨-, h⟩ := require_bind_eq_ok.mp h
  obtain ⟨task, htask, h⟩ := bind_eq_ok.mp h
  obtain ⟨-, h⟩ := require_bind_eq_ok.mp h
  obtain ⟨approved, -, h⟩ := bind_eq_ok.mp h
  obtain ⟨expires, -, h⟩ := bind_eq_ok.mp h
  obtain ⟨-, h⟩ := require_bind_eq_ok.mp h
  obtain ⟨hactive, h⟩ := require_bind_eq_ok.mp h
  obtain ⟨limits, hlimits, h⟩ := bind_eq_ok.mp h
  obtain ⟨release, -, h⟩ := bind_eq_ok.mp h
  obtain rfl := Except.ok.inj h
  refine ⟨rfl, granted_of_parseTask htask, howner.2, ⟨hactive.1, hactive.2.1, ?_⟩,
    within_of_readLimits hlimits⟩
  have hlifetime := hactive.2.2
  show expires.1 ≤ approved.1 + 604800
  omega

end Facts

end NightRecon.TaskAutomation
