import NightRecon.DocumentMembers
import NightRecon.TaskAutomation.Objectives

/-!
# The record of an objective

The dictionary that `tools/task_automation/queue.py` stores for every objective, as the canonical
text that is authenticated.

* `ObjectiveState`, `ObjectiveRecord` — the record, the values that adapters put into it kept as
  JSON;
* `ObjectiveRecord.Stored` — these values are as they are read back: valid, their members in order;
* `fromJson_of`, `read_text` — **what is stored is read back**.
-/

namespace NightRecon.TaskAutomation

open NightRecon.Lib
open NightRecon.Lib.Checks
open NightRecon.Documents
open NightRecon.DocumentMembers

inductive ObjectiveState where
  | pending
  | admitted
  | running
  | validating
  | repairing
  | blocked
  | failed
  | completed
  deriving DecidableEq

namespace ObjectiveState

def text : ObjectiveState → String
  | .pending => "pending"
  | .admitted => "admitted"
  | .running => "running"
  | .validating => "validating"
  | .repairing => "repairing"
  | .blocked => "blocked"
  | .failed => "failed"
  | .completed => "completed"

def all : List ObjectiveState :=
  [.pending, .admitted, .running, .validating, .repairing, .blocked, .failed, .completed]

def ofText (s : String) : Option ObjectiveState := all.find? fun state => state.text = s

@[simp] theorem ofText_text (state : ObjectiveState) : ofText state.text = some state := by
  cases state <;> decide

/-- The objective is over. -/
def Terminal (state : ObjectiveState) : Prop := state = .completed ∨ state = .failed ∨ state = .blocked

instance (state : ObjectiveState) : Decidable state.Terminal := inferInstanceAs (Decidable (_ ∨ _))

end ObjectiveState

/-! ## Records -/

/-- What may be released. -/
structure ReleasePermissions where
  authorized : Bool
  tag : Option String
  artifactNames : List String
  signingKeyIds : List String

/-- The record of an objective. -/
structure ObjectiveRecord where
  objectiveId : String
  approvalDigest : String
  owner : String
  permittedPaths : List String
  acceptanceCriteria : List String
  resourceLimits : Limits
  releasePermissions : ReleasePermissions
  branch : String
  baseSha : String
  parentSha : String
  state : ObjectiveState
  version : Int
  batch : Int
  repairs : Int
  attempts : Int
  reservedTokens : Int
  reservedCostMicrousd : Int
  startedAt : Int
  deadline : Int
  leaseOwner : Option String
  leaseGeneration : Int
  leaseUntil : Int
  intent : Json
  commits : List Json
  reason : Option String
  plan : Json
  mergeSha : Option String
  releaseResult : Json

/-! ## Documents -/

def Limits.members (limits : Limits) : List (String × Json) :=
  [("max_batches", .int limits.maxBatches), ("max_repairs_per_batch", .int limits.maxRepairsPerBatch),
    ("max_attempts", .int limits.maxAttempts), ("max_wall_seconds", .int limits.maxWallSeconds),
    ("max_tokens", .int limits.maxTokens), ("max_cost_microusd", .int limits.maxCostMicrousd)]

def ReleasePermissions.members (release : ReleasePermissions) : List (String × Json) :=
  [("authorized", .bool release.authorized), ("tag", .ofOption release.tag),
    ("artifact_names", .strings release.artifactNames),
    ("signing_key_ids", .strings release.signingKeyIds)]

namespace ObjectiveRecord

def members (r : ObjectiveRecord) : List (String × Json) :=
  [("objective_id", .str r.objectiveId), ("approval_digest", .str r.approvalDigest),
    ("owner", .str r.owner), ("permitted_paths", .strings r.permittedPaths),
    ("acceptance_criteria", .strings r.acceptanceCriteria),
    ("resource_limits", .obj r.resourceLimits.members),
    ("release_permissions", .obj r.releasePermissions.members), ("branch", .str r.branch),
    ("base_sha", .str r.baseSha), ("parent_sha", .str r.parentSha), ("state", .str r.state.text),
    ("version", .int r.version), ("batch", .int r.batch), ("repairs", .int r.repairs),
    ("attempts", .int r.attempts), ("reserved_tokens", .int r.reservedTokens),
    ("reserved_cost_microusd", .int r.reservedCostMicrousd), ("started_at", .int r.startedAt),
    ("deadline", .int r.deadline), ("lease_owner", .ofOption r.leaseOwner),
    ("lease_generation", .int r.leaseGeneration), ("lease_until", .int r.leaseUntil),
    ("intent", r.intent), ("commits", .arr r.commits), ("reason", .ofOption r.reason),
    ("plan", r.plan), ("merge_sha", .ofOption r.mergeSha), ("release_result", r.releaseResult)]

def toJson (r : ObjectiveRecord) : Json := .obj r.members

/-- The canonical text of a record. -/
def text (r : ObjectiveRecord) : String := Json.dumps r.toJson

/-- A number that is not negative. -/
def asNat : Json → Py Nat
  | .int (.ofNat n) => .ok n
  | _ => .error (valueError "a number is required")

def asBool : Json → Py Bool
  | .bool b => .ok b
  | _ => .error (valueError "a truth value is required")

def asState : Json → Py ObjectiveState
  | .str s => getOrRaise (ObjectiveState.ofText s) (valueError "a state is required")
  | _ => .error (valueError "a state is required")

def readLimits (data : Json) : Py Limits := do
  let number := fun key => getItem data key >>= asNat
  return {
    maxBatches := ← number "max_batches"
    maxRepairsPerBatch := ← number "max_repairs_per_batch"
    maxAttempts := ← number "max_attempts"
    maxWallSeconds := ← number "max_wall_seconds"
    maxTokens := ← number "max_tokens"
    maxCostMicrousd := ← number "max_cost_microusd" }

def readRelease (data : Json) : Py ReleasePermissions := do
  return {
    authorized := ← getItem data "authorized" >>= asBool
    tag := ← getItem data "tag" >>= asOptionalStr
    artifactNames := ← getItem data "artifact_names" >>= asStrings
    signingKeyIds := ← getItem data "signing_key_ids" >>= asStrings }

/-- The record that a document is. -/
def fromJson (data : Json) : Py ObjectiveRecord := do
  let number := fun key => getItem data key >>= asInt
  let name := fun key => getItem data key >>= asStr
  return {
    objectiveId := ← name "objective_id"
    approvalDigest := ← name "approval_digest"
    owner := ← name "owner"
    permittedPaths := ← getItem data "permitted_paths" >>= asStrings
    acceptanceCriteria := ← getItem data "acceptance_criteria" >>= asStrings
    resourceLimits := ← getItem data "resource_limits" >>= readLimits
    releasePermissions := ← getItem data "release_permissions" >>= readRelease
    branch := ← name "branch"
    baseSha := ← name "base_sha"
    parentSha := ← name "parent_sha"
    state := ← getItem data "state" >>= asState
    version := ← number "version"
    batch := ← number "batch"
    repairs := ← number "repairs"
    attempts := ← number "attempts"
    reservedTokens := ← number "reserved_tokens"
    reservedCostMicrousd := ← number "reserved_cost_microusd"
    startedAt := ← number "started_at"
    deadline := ← number "deadline"
    leaseOwner := ← getItem data "lease_owner" >>= asOptionalStr
    leaseGeneration := ← number "lease_generation"
    leaseUntil := ← number "lease_until"
    intent := ← getItem data "intent"
    commits := ← getItem data "commits" >>= fun commits => asArr (some commits) "a list is required"
    reason := ← getItem data "reason" >>= asOptionalStr
    plan := ← getItem data "plan"
    mergeSha := ← getItem data "merge_sha" >>= asOptionalStr
    releaseResult := ← getItem data "release_result" }

/-- `json.loads(text)`. -/
def read (text : String) : Py ObjectiveRecord := do
  let data ← getOrRaise (Json.loads text) (valueError "invalid JSON")
  fromJson data

/-! ## What is read back -/

/-- A value as it is read back: its keys differ, and its members are in order. -/
def AsRead (j : Json) : Prop := j.valid ∧ j.normal = j

/-- The values of the record are as they are read back. -/
structure Stored (r : ObjectiveRecord) : Prop where
  intent : AsRead r.intent
  commits : ∀ j ∈ r.commits, AsRead j
  plan : AsRead r.plan
  releaseResult : AsRead r.releaseResult

variable {r : ObjectiveRecord}

theorem Stored.commits_normal (h : r.Stored) : (Json.arr r.commits).normal = .arr r.commits := by
  have hmap : r.commits.map Json.normal = r.commits := by
    refine (List.map_congr_left fun j hj => ?_).trans (List.map_id _)
    exact (h.commits j hj).2
  rw [Json.normal, Json.elemsNormal_eq_map, hmap]

theorem Stored.valid_toJson (h : r.Stored) : r.toJson.valid := by
  have hcommits : (Json.arr r.commits).valid := by
    rw [Json.valid, Json.elemsValid_iff]
    exact fun j hj => (h.commits j hj).1
  have hlimits : (Json.obj r.resourceLimits.members).valid := by
    refine ⟨by simp [Limits.members], ?_⟩
    simp [Limits.members, Json.membersValid, Json.valid]
  have hrelease : (Json.obj r.releasePermissions.members).valid := by
    refine ⟨by simp [ReleasePermissions.members], ?_⟩
    simp [ReleasePermissions.members, Json.membersValid, Json.valid]
  refine ⟨by simp [members], ?_⟩
  simp only [members, Json.membersValid, Json.valid_strings, Json.valid_ofOption, h.intent.1,
    h.plan.1, h.releaseResult.1, hcommits, hlimits, hrelease, and_true]
  simp only [Json.valid, and_true]

theorem readLimits_of {doc : Json} {limits : Limits} (h : Has doc limits.members) :
    readLimits doc = .ok limits := by
  simp only [Limits.members, has_cons, has_nil, and_true] at h
  obtain ⟨h₁, h₂, h₃, h₄, h₅, h₆⟩ := h
  unfold readLimits getItem
  simp only [h₁, h₂, h₃, h₄, h₅, h₆, getOrRaise_some, ok_bind]
  rfl

theorem readRelease_of {doc : Json} {release : ReleasePermissions}
    (h : Has doc release.members) : readRelease doc = .ok release := by
  simp only [ReleasePermissions.members, has_cons, has_nil, and_true] at h
  obtain ⟨h₁, h₂, h₃, h₄⟩ := h
  unfold readRelease getItem
  simp only [h₁, h₂, h₃, h₄, getOrRaise_some, ok_bind, asOptionalStr_ofOption, asStrings_strings]
  rfl

theorem readLimits_normal (limits : Limits) :
    readLimits (Json.obj limits.members).normal = .ok limits := by
  have hhas := (@hasExactly_normal limits.members (by simp [Limits.members])).has
  apply readLimits_of
  simpa [normalMembers, Limits.members, Json.normal] using hhas

theorem readRelease_normal (release : ReleasePermissions) :
    readRelease (Json.obj release.members).normal = .ok release := by
  have hhas := (@hasExactly_normal release.members
    (by simp [ReleasePermissions.members])).has
  apply readRelease_of
  simpa [normalMembers, ReleasePermissions.members, Json.normal] using hhas

/-- **A record is read from any document with its members.** -/
theorem fromJson_of {doc : Json} (h : r.Stored) (hdoc : Has doc (normalMembers r.members)) :
    fromJson doc = .ok r := by
  have hstr : ∀ s : String, (Json.str s).normal = .str s := fun _ => rfl
  have hint : ∀ n : Int, (Json.int n).normal = .int n := fun _ => rfl
  have hstate : ∀ state : ObjectiveState, asState (.str state.text) = .ok state := by
    intro state
    rw [asState, ObjectiveState.ofText_text, getOrRaise_some]
  simp only [normalMembers, members, List.map_cons, List.map_nil, has_cons, has_nil, and_true,
    hstr, hint, Json.normal_strings, Json.normal_ofOption, h.intent.2, h.commits_normal, h.plan.2,
    h.releaseResult.2] at hdoc
  obtain ⟨h₁, h₂, h₃, h₄, h₅, h₆, h₇, h₈, h₉, h₁₀, h₁₁, h₁₂, h₁₃, h₁₄, h₁₅, h₁₆, h₁₇, h₁₈, h₁₉, h₂₀,
    h₂₁, h₂₂, h₂₃, h₂₄, h₂₅, h₂₆, h₂₇, h₂₈⟩ := hdoc
  unfold fromJson getItem
  simp only [h₁, h₂, h₃, h₄, h₅, h₆, h₇, h₈, h₉, h₁₀, h₁₁, h₁₂, h₁₃, h₁₄, h₁₅, h₁₆, h₁₇, h₁₈, h₁₉,
    h₂₀, h₂₁, h₂₂, h₂₃, h₂₄, h₂₅, h₂₆, h₂₇, h₂₈, getOrRaise_some, ok_bind, asStrings_strings,
    asOptionalStr_ofOption, readLimits_normal, readRelease_normal, hstate, asArr]
  rfl

/-- **What is stored is read back.** -/
theorem read_text (h : r.Stored) : read r.text = .ok r := by
  unfold read text
  rw [Json.loads_dumps h.valid_toJson, getOrRaise_some, ok_bind]
  exact fromJson_of h (hasExactly_normal h.valid_toJson.1).has

end ObjectiveRecord

end NightRecon.TaskAutomation
