import NightRecon.TaskAutomation.Guards
import NightRecon.Lib.Commitment
import NightRecon.Lib.Scopes

/-!
# Policies and tasks

`tools/task_automation/controller.py`: the policy an operator pins by its digest, and the task
documents it admits.

* `pathName`, `covers`, `overlaps` — repository paths, and the scopes they are in;
* `loadPolicy`, `parseTask` — what is read and what is rejected;
* `granted_of_parseTask` — what the policy has granted a task that is parsed;
* `policy_eq_of_digest_eq` — without a collision of the digest a policy is known by its digest;
* `permitted_of_task_scope`, `unprotected_of_task_scope` — **a path in the scope of a task is in the
  scope of its policy, and protected by none**.
-/

namespace NightRecon.TaskAutomation

open NightRecon.Lib
open NightRecon.Lib.Checks
open NightRecon.Lib.Commitment (NoCollision)
open NightRecon.Lib.Sha256
open NightRecon.Lib.Text

/-! ## Paths and scopes -/

/-- Device names no path may use.  Source: `controller.py` `path_name`. -/
def reserved : List String :=
  ["con", "prn", "aux", "nul"] ++
    ["com", "lpt"].flatMap fun name => (List.range' 1 9).map fun n => name ++ toString n

/-- `[A-Za-z0-9_.-]`. -/
def isPathChar (c : Char) : Bool := isAlnum c || c == '_' || c == '.' || c == '-'

section Paths

variable (casefold : String → String)

/-- A part of a portable path. -/
def PartName (part : List Char) : Prop :=
  (part ≠ [] ∧ part.all isPathChar = true) ∧ part ≠ ['.'] ∧ part ≠ ['.', '.'] ∧
    part.getLast? ≠ some '.' ∧ casefold (String.ofList part) ≠ ".git" ∧
    casefold (String.ofList ((part.splitOn '.').headD [])) ∉ reserved

instance (part : List Char) : Decidable (PartName casefold part) := by
  unfold PartName
  infer_instance

/-- The parts a value is split into; as a scope it may end in a slash. -/
def pathParts (asScope : Bool) (value : String) : List (List Char) :=
  let path := if asScope = true ∧ value.toList.getLast? = some '/' then value.toList.dropLast
    else value.toList
  path.splitOn '/'

/-- A portable path, or a scope made of one. -/
def IsPath (asScope : Bool) (value : String) : Prop :=
  (0 < value.length ∧ value.length ≤ 512) ∧ ∀ part ∈ pathParts asScope value, PartName casefold part

instance (asScope : Bool) (value : String) : Decidable (IsPath casefold asScope value) :=
  inferInstanceAs (Decidable (_ ∧ _))

/-- Source: `controller.py` `path_name`. -/
def pathName (asScope : Bool) : Json → Py String
  | .str value => do
      require (0 < value.length ∧ value.length ≤ 512) (rejected "invalid path")
      require (∀ part ∈ pathParts asScope value, PartName casefold part)
        (rejected "non-canonical path")
      return value
  | _ => throw (rejected "invalid path")

/-- `path_name` called for its check. -/
def checkPath (asScope : Bool) (path : String) : Py Unit := do
  let _ ← pathName casefold asScope (.str path)
  return ()

/-- Source: `controller.py` `_covers`. -/
def covers (scope path : String) : Prop :=
  Scopes.Covers '/' (casefold scope).toList (casefold path).toList

instance (scope path : String) : Decidable (covers casefold scope path) :=
  inferInstanceAs (Decidable (Scopes.Covers _ _ _))

/-- Source: `controller.py` `_overlaps`. -/
def overlaps (left right : String) : Prop := covers casefold left right ∨ covers casefold right left

instance (left right : String) : Decidable (overlaps casefold left right) :=
  inferInstanceAs (Decidable (_ ∨ _))

/-- `any(_covers(scope, path) for scope in scopes)`. -/
def inScopes (scopes : List String) (path : String) : Prop :=
  ∃ scope ∈ scopes, covers casefold scope path

instance (scopes : List String) (path : String) : Decidable (inScopes casefold scopes path) :=
  inferInstanceAs (Decidable (∃ scope ∈ scopes, _))

end Paths

variable {casefold : String → String}

theorem pathName_eq_ok {asScope : Bool} {value : Json} {s : String} :
    pathName casefold asScope value = .ok s ↔ value = .str s ∧ IsPath casefold asScope s := by
  constructor
  · intro h
    cases value with
    | str t =>
      obtain ⟨hlength, hrest⟩ := require_bind_eq_ok.mp h
      obtain ⟨hparts, ht⟩ := require_bind_eq_ok.mp hrest
      obtain rfl := Except.ok.inj ht
      exact ⟨rfl, hlength, hparts⟩
    | _ => exact nomatch h
  · rintro ⟨rfl, hlength, hparts⟩
    exact require_bind_eq_ok.mpr ⟨hlength, require_bind_eq_ok.mpr ⟨hparts, rfl⟩⟩

theorem checkPath_eq_ok {asScope : Bool} {path : String} :
    checkPath casefold asScope path = .ok () ↔ IsPath casefold asScope path := by
  rw [checkPath, bind_eq_ok]
  constructor
  · rintro ⟨s, hs, -⟩
    obtain ⟨hstr, hvalid⟩ := pathName_eq_ok.mp hs
    exact (Json.str.inj hstr) ▸ hvalid
  · exact fun hvalid => ⟨path, pathName_eq_ok.mpr ⟨rfl, hvalid⟩, rfl⟩

/-! ## Policies -/

/-- Source: `controller.py` `Policy`. -/
structure Policy where
  digest : String
  baseSha : String
  branchPrefix : String
  allowedSubmitters : List String
  allowedRoles : List String
  permittedPaths : List String
  protectedPaths : List String
  permittedOperations : List String
  allowedModes : List String
  maxTaskBytes : Nat
  maxChangedFiles : Nat
  maxChangedBytes : Nat
  maxRepairAttempts : Nat
  maxRuntimeMinutes : Nat
  requiredChecks : List String
  allowedSkipIds : List String

/-- Source: `controller.py` `REQUIRED_CHECKS`. -/
def requiredChecks : List String :=
  ["python-suite", "controller-tests", "python-syntax", "dependency-check", "red-launcher-smoke",
    "red-package-boundary"]

/-- The protected paths every policy has to name. -/
def mandatoryProtection : List String :=
  [".github/", "tools/", "AGENTS.md", "tests/test_task_automation.py",
    "tests/test_objective_controller.py", "tests/test_objective_inventory.py",
    "docs/AUTONOMOUS_DEVELOPMENT.md"]

/-- The capabilities a policy has to declare disabled. -/
def capabilityFlags : List String :=
  ["execution_enabled", "publishing_enabled", "external_assessments_enabled"]

/-- The members of a policy document. -/
def policyFields : List String :=
  ["base_sha", "branch_prefix", "allowed_submitters", "allowed_roles", "permitted_paths",
    "protected_paths", "permitted_operations", "allowed_modes", "max_task_bytes",
    "max_changed_files", "max_changed_bytes", "max_repair_attempts", "max_runtime_minutes",
    "required_checks", "allowed_skip_ids", "schema_version"] ++ capabilityFlags

/-- `[a-z0-9_]`. -/
def isWordChar (c : Char) : Bool := isLower c || isDigit c || c == '_'

/-- `test_[a-z0-9_]+`. -/
def isTestName (part : List Char) : Bool :=
  "test_".toList.isPrefixOf part && part.length != 5 && (part.drop 5).all isWordChar

/-- `test_[a-z0-9_]+\.[A-Za-z0-9_]+\.test_[a-z0-9_]+`. -/
def isSkipId (s : String) : Bool :=
  match s.toList.splitOn '.' with
  | [file, cls, name] =>
      isTestName file && !cls.isEmpty && cls.all (fun c => isAlnum c || c == '_') &&
        isTestName name
  | _ => false

/-- `[A-Za-z0-9][A-Za-z0-9-]{0,38}`. -/
def isLogin (s : String) : Bool :=
  match s.toList with
  | c :: rest => isAlnum c && rest.length ≤ 38 && rest.all fun c => isAlnum c || c == '-'
  | [] => false

/-- `[a-z][a-z0-9-]{0,63}`. -/
def isCheckName (s : String) : Bool :=
  match s.toList with
  | c :: rest =>
      isLower c && rest.length ≤ 63 && rest.all fun c => isLower c || isDigit c || c == '-'
  | [] => false

/-- A member of a list of skipped tests. -/
def skipId : Json → Py String
  | .str s => return s
  | _ => throw (rejected "invalid skip ID type")

/-- The tests a policy allows to be skipped. -/
def skipIds : Json → Py (List String)
  | .arr elems => do
      require (elems.length ≤ 64) (rejected "invalid skip allowlist")
      let ids ← elems.mapM skipId
      require ids.Nodup (rejected "duplicate skip ID")
      require (∀ id ∈ ids, isSkipId id = true) (rejected "invalid skip test ID")
      return ids
  | _ => throw (rejected "invalid skip allowlist")

section Documents

variable (casefold : String → String)

/-- Source: `controller.py` `load_policy`. -/
def loadPolicy (raw : List UInt8) (expectedDigest : String) : Py Policy := do
  let _ ← sha 64 (.str expectedDigest)
  require (digest raw = expectedDigest) (rejected "policy digest mismatch")
  let data ← json 65536 raw
  let data ← keys policyFields data
  require (field data "schema_version" = .int 1) (rejected "unsupported policy version")
  require (∀ flag ∈ capabilityFlags, field data flag = .bool false)
    (rejected "Batch 1 capabilities must be disabled")
  let baseSha ← sha 40 (field data "base_sha")
  require (field data "branch_prefix" = .str "codex/task-") (rejected "unsafe branch prefix")
  let allowedSubmitters ← strings 64 (field data "allowed_submitters")
  let allowedRoles ← strings 64 (field data "allowed_roles")
  let permittedPaths ← strings 64 (field data "permitted_paths")
  let protectedPaths ← strings 64 (field data "protected_paths")
  let permittedOperations ← strings 64 (field data "permitted_operations")
  let allowedModes ← strings 64 (field data "allowed_modes")
  let checks ← strings 64 (field data "required_checks")
  let allowedSkipIds ← skipIds (field data "allowed_skip_ids")
  require (allowedRoles ⊆ ["admin", "maintain"]) (rejected "unsafe role")
  require (∀ user ∈ allowedSubmitters, isLogin user = true) (rejected "invalid submitter")
  permittedPaths.forM (checkPath casefold true)
  protectedPaths.forM (checkPath casefold true)
  require (mandatoryProtection ⊆ protectedPaths) (rejected "missing mandatory control protection")
  require (permittedOperations ⊆ ["add", "modify", "delete"]) (rejected "unknown operation")
  require (allowedModes = ["100644"]) (rejected "unsafe file modes")
  require (∀ check ∈ checks, isCheckName check = true) (rejected "invalid check identifier")
  require (requiredChecks ⊆ checks) (rejected "missing baseline validation")
  let maxTaskBytes ← integer 1 16384 (field data "max_task_bytes")
  let maxChangedFiles ← integer 1 100 (field data "max_changed_files")
  let maxChangedBytes ← integer 1 1048576 (field data "max_changed_bytes")
  let maxRuntimeMinutes ← integer 1 120 (field data "max_runtime_minutes")
  let maxRepairAttempts ← integer 0 2 (field data "max_repair_attempts")
  return { digest := expectedDigest
           baseSha := baseSha
           branchPrefix := "codex/task-"
           allowedSubmitters := allowedSubmitters
           allowedRoles := allowedRoles
           permittedPaths := permittedPaths
           protectedPaths := protectedPaths
           permittedOperations := permittedOperations
           allowedModes := allowedModes
           maxTaskBytes := maxTaskBytes.1
           maxChangedFiles := maxChangedFiles.1
           maxChangedBytes := maxChangedBytes.1
           maxRepairAttempts := maxRepairAttempts.1
           maxRuntimeMinutes := maxRuntimeMinutes.1
           requiredChecks := checks
           allowedSkipIds := allowedSkipIds }

/-- Source: `controller.py` `Task`, with what `parse_task` checks of it. -/
structure Task where
  issueNumber : Nat
  revision : Nat
  baseSha : String
  objective : String
  acceptanceCriteria : List String
  permittedPaths : List String
  permittedOperations : List String
  digest : String
  policyDigest : String
  issue_range : 1 ≤ issueNumber ∧ issueNumber ≤ 2147483647
  revision_range : 1 ≤ revision ∧ revision ≤ 999999
  digest_hex : IsHex 64 digest

/-- Source: `controller.py` `Task.task_id`. -/
def Task.taskId (task : Task) : String :=
  "issue-" ++ toString task.issueNumber ++ ":r" ++ toString task.revision ++ ":" ++ task.digest

/-- The branch of an issue's revision; the digest is shortened to twelve characters. -/
def branchName (issue revision digest : String) : String :=
  "codex/task-" ++ issue ++ "-r" ++ revision ++ "-" ++ String.ofList (digest.toList.take 12)

/-- Source: `controller.py` `Task.branch`. -/
def Task.branch (task : Task) : String :=
  branchName (toString task.issueNumber) (toString task.revision) task.digest

/-- The members of a task document. -/
def taskFields : List String :=
  ["schema_version", "issue_number", "revision", "base_sha", "objective", "acceptance_criteria",
    "permitted_paths", "permitted_operations"]

/-- A scope a task asks for: a path in the policy's scope that overlaps no protected one. -/
def taskPath (policy : Policy) (path : String) : Py Unit := do
  checkPath casefold true path
  require (inScopes casefold policy.permittedPaths path) (rejected "task path outside policy")
  require (¬ ∃ scope ∈ policy.protectedPaths, overlaps casefold scope path)
    (rejected "task path overlaps protected control")

/-- Source: `controller.py` `parse_task`. -/
def parseTask (raw : List UInt8) (policy : Policy) : Py Task := do
  let data ← json policy.maxTaskBytes raw
  let data ← keys taskFields data
  require (field data "schema_version" = .int 1) (rejected "unsupported task version")
  let issueNumber ← integer 1 2147483647 (field data "issue_number")
  let revision ← integer 1 999999 (field data "revision")
  let baseSha ← sha 40 (field data "base_sha")
  require (baseSha = policy.baseSha) (rejected "unapproved base commit")
  let objective ← text 4096 (field data "objective")
  let acceptanceCriteria ← strings 20 (field data "acceptance_criteria")
  let permittedPaths ← strings 20 (field data "permitted_paths")
  let permittedOperations ← strings 20 (field data "permitted_operations")
  require (permittedOperations ⊆ policy.permittedOperations) (rejected "unapproved task operation")
  permittedPaths.forM (taskPath casefold policy)
  return { issueNumber := issueNumber.1
           revision := revision.1
           baseSha := baseSha
           objective := objective
           acceptanceCriteria := acceptanceCriteria
           permittedPaths := permittedPaths
           permittedOperations := permittedOperations
           digest := digest (canonical data)
           policyDigest := policy.digest
           issue_range := issueNumber.2
           revision_range := revision.2
           digest_hex := isHex_digest _ }

end Documents

/-! ## What is read -/

variable {raw raw' : List UInt8} {policy policy' : Policy} {task : Task} {expectedDigest : String}

/-- A policy is the one its bytes give, and carries their digest. -/
theorem digest_of_loadPolicy (h : loadPolicy casefold raw expectedDigest = .ok policy) :
    digest raw = expectedDigest ∧ policy.digest = expectedDigest := by
  unfold loadPolicy at h
  obtain ⟨_, _, h⟩ := bind_eq_ok.mp h
  obtain ⟨hdigest, h⟩ := require_bind_eq_ok.mp h
  refine ⟨hdigest, ?_⟩
  repeat obtain ⟨_, _, h⟩ := bind_eq_ok.mp h
  exact congrArg Policy.digest (Except.ok.inj h).symm

/-- **Without a collision of the digest a policy is known by its digest.** -/
theorem policy_eq_of_digest_eq (hsha : NoCollision digest [raw, raw'])
    {expectedDigest' : String} (h : loadPolicy casefold raw expectedDigest = .ok policy)
    (h' : loadPolicy casefold raw' expectedDigest' = .ok policy')
    (heq : policy.digest = policy'.digest) : policy = policy' := by
  obtain ⟨hraw, hdigest⟩ := digest_of_loadPolicy h
  obtain ⟨hraw', hdigest'⟩ := digest_of_loadPolicy h'
  have hexpected : expectedDigest = expectedDigest' := hdigest.symm.trans (heq.trans hdigest')
  have hsame : raw = raw' := by
    refine hsha raw List.mem_cons_self raw' (List.mem_cons_of_mem _ List.mem_cons_self) ?_
    exact hraw.trans (hexpected.trans hraw'.symm)
  subst hexpected hsame
  exact Except.ok.inj (h.symm.trans h')

/-- What a policy grants a task. -/
structure Granted (casefold : String → String) (policy : Policy) (task : Task) : Prop where
  policyDigest : task.policyDigest = policy.digest
  baseSha : task.baseSha = policy.baseSha
  operations : task.permittedOperations ⊆ policy.permittedOperations
  permitted : ∀ inner ∈ task.permittedPaths, inScopes casefold policy.permittedPaths inner
  unprotected : ∀ inner ∈ task.permittedPaths,
    ∀ scope ∈ policy.protectedPaths, ¬ overlaps casefold scope inner

theorem taskPath_eq_ok {path : String} :
    taskPath casefold policy path = .ok () ↔ IsPath casefold true path ∧
      inScopes casefold policy.permittedPaths path ∧
        ∀ scope ∈ policy.protectedPaths, ¬ overlaps casefold scope path := by
  rw [taskPath, unit_bind_eq_ok, checkPath_eq_ok, require_bind_eq_ok, require_eq_ok]
  simp only [not_exists, not_and]

/-- **The tasks that are admitted have been granted what they ask for.** -/
theorem granted_of_parseTask (h : parseTask casefold raw policy = .ok task) :
    Granted casefold policy task := by
  unfold parseTask at h
  obtain ⟨data, _, h⟩ := bind_eq_ok.mp h
  obtain ⟨data, _, h⟩ := bind_eq_ok.mp h
  obtain ⟨_, h⟩ := require_bind_eq_ok.mp h
  obtain ⟨issueNumber, _, h⟩ := bind_eq_ok.mp h
  obtain ⟨revision, _, h⟩ := bind_eq_ok.mp h
  obtain ⟨baseSha, _, h⟩ := bind_eq_ok.mp h
  obtain ⟨hbase, h⟩ := require_bind_eq_ok.mp h
  obtain ⟨objective, _, h⟩ := bind_eq_ok.mp h
  obtain ⟨acceptanceCriteria, _, h⟩ := bind_eq_ok.mp h
  obtain ⟨permittedPaths, _, h⟩ := bind_eq_ok.mp h
  obtain ⟨permittedOperations, _, h⟩ := bind_eq_ok.mp h
  obtain ⟨hoperations, h⟩ := require_bind_eq_ok.mp h
  obtain ⟨hpaths, h⟩ := unit_bind_eq_ok.mp h
  obtain rfl := Except.ok.inj h
  have hscopes := fun inner hinner => taskPath_eq_ok.mp (Collect.forM_eq_ok.mp hpaths inner hinner)
  exact {
    policyDigest := rfl
    baseSha := hbase
    operations := hoperations
    permitted := fun inner hinner => (hscopes inner hinner).2.1
    unprotected := fun inner hinner => (hscopes inner hinner).2.2 }

/-! ## Containment of scopes -/

/-- **A path in the scope of a task is in the scope of its policy.** -/
theorem permitted_of_task_scope (h : Granted casefold policy task) {path : String}
    (hpath : inScopes casefold task.permittedPaths path) :
    inScopes casefold policy.permittedPaths path := by
  obtain ⟨inner, hinner, hcovers⟩ := hpath
  obtain ⟨scope, hscope, houter⟩ := h.permitted inner hinner
  exact ⟨scope, hscope, Scopes.covers_trans houter hcovers⟩

/-- **No protected scope has a path in the scope of a task.** -/
theorem unprotected_of_task_scope (h : Granted casefold policy task) {path : String}
    (hpath : inScopes casefold task.permittedPaths path) :
    ¬ inScopes casefold policy.protectedPaths path := by
  obtain ⟨inner, hinner, hcovers⟩ := hpath
  rintro ⟨scope, hscope, hprotected⟩
  exact h.unprotected inner hinner scope hscope (Scopes.overlaps_of_covers hprotected hcovers)

end NightRecon.TaskAutomation
