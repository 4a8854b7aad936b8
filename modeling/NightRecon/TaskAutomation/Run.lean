import NightRecon.TaskAutomation.Candidate

/-!
# Runs of the task controller

`tools/task_automation/controller.py` `admit` and `transition`.

* `Observation`, `Check` — a check as it arrives and as it is read; `Observation.validate` reads it;
* `Run`, `admitRun`, `transition` — the state machine;
* `Step`, `step_of_transition` — **what a transition can do**, one constructor for each kind;
* `Sound` — what holds of every run, `sound_of_admit` and `Sound.step`;
* `Reachable`, `sound_of_reachable` — the runs that `admitRun` and `transition` produce;
* `transition_start`, `transition_freeze`, `transition_complete` — transitions that succeed.
-/

namespace NightRecon.TaskAutomation

open NightRecon.Lib
open NightRecon.Lib.Checks

/-! ## States -/

inductive State where
  | pending
  | admitted
  | running
  | validating
  | repairing
  | blocked
  | failed
  | completed
  deriving DecidableEq

def State.value : State → String
  | .pending => "pending"
  | .admitted => "admitted"
  | .running => "running"
  | .validating => "validating"
  | .repairing => "repairing"
  | .blocked => "blocked"
  | .failed => "failed"
  | .completed => "completed"

/-- The members of the enumeration. -/
def State.members : List State :=
  [.pending, .admitted, .running, .validating, .repairing, .blocked, .failed, .completed]

/-- `State(target)`. -/
def State.ofValue? (target : String) : Option State :=
  State.members.find? fun state => state.value = target

/-- Source: `controller.py` `_EDGES`. -/
def edges : State → List State
  | .pending => [.admitted, .blocked, .failed]
  | .admitted => [.running, .blocked, .failed]
  | .running => [.validating, .blocked, .failed]
  | .validating => [.repairing, .completed, .blocked, .failed]
  | .repairing => [.validating, .blocked, .failed]
  | .blocked | .failed | .completed => []

/-- A state without a transition. -/
def State.isTerminal (state : State) : Bool := (edges state).isEmpty

/-! ## Checks -/

/-- The fields of a check as they arrive. -/
structure Observation where
  name : Json
  status : Json
  exitCode : Json
  candidateDigest : Json
  testsRun : Json
  passed : Json
  failed : Json
  errors : Json
  skipped : Json
  skipIds : Json

/-- Source: `controller.py` `Check`. -/
@[ext] structure Check where
  name : String
  status : String
  exitCode : Option Int
  candidateDigest : String
  testsRun : Option Int
  passed : Option Int
  failed : Option Int
  errors : Option Int
  skipped : Option Int
  skipIds : List String

/-- A number or `None`. -/
def optionalInt : Option Int → Json
  | none => .null
  | some n => .int n

/-- The fields of a check. -/
def Check.observation (check : Check) : Observation :=
  { name := .str check.name
    status := .str check.status
    exitCode := optionalInt check.exitCode
    candidateDigest := .str check.candidateDigest
    testsRun := optionalInt check.testsRun
    passed := optionalInt check.passed
    failed := optionalInt check.failed
    errors := optionalInt check.errors
    skipped := optionalInt check.skipped
    skipIds := .strings check.skipIds }

/-- The name of a check. -/
def checkName : Json → Py String
  | .str s => do
      require (isCheckName s = true) (rejected "invalid check name")
      return s
  | _ => throw (rejected "invalid check name")

/-- The states of a check that has run. -/
def executed : List String := ["passed", "failed"]

def checkStatus : Json → Py String
  | .str s => do
      require (s ∈ ["passed", "failed", "blocked", "not_run"]) (rejected "invalid check status")
      return s
  | _ => throw (rejected "invalid check status")

/-- The exit code of a check that has run. -/
def readExitCode (status : String) (value : Json) : Py (Option Int) :=
  if status ∈ executed then do
    let code ← integer 0 255 value
    require (code.1 = 0 ↔ status = "passed") (rejected "check exit/status mismatch")
    return some code.1
  else do
    require (value = .null) (rejected "non-executed check has exit code")
    return none

/-- A skipped test. -/
def skippedTest : Json → Py String
  | .str s => return s
  | _ => throw (rejected "invalid skipped test IDs")

def skippedTests : Json → Py (List String)
  | .arr elems => do
      require (elems.length ≤ 64) (rejected "invalid skipped test IDs")
      let ids ← elems.mapM skippedTest
      require ids.Nodup (rejected "duplicate skipped test ID")
      return ids
  | _ => throw (rejected "invalid skipped test IDs")

/-- The test counts of a check. -/
structure Counts where
  testsRun : Nat
  passed : Nat
  failed : Nat
  errors : Nat
  skipped : Nat

/-- The counts of an observation, when it has any. -/
def Observation.counts (o : Observation) (status : String) (skipIds : List String) :
    Py (Option Counts) :=
  if o.testsRun = .null ∧ o.passed = .null ∧ o.failed = .null ∧ o.errors = .null ∧
      o.skipped = .null then do
    require (skipIds = []) (rejected "skipped IDs without test counts")
    return none
  else do
    let testsRun ← integer 0 1000000 o.testsRun
    let passed ← integer 0 1000000 o.passed
    let failed ← integer 0 1000000 o.failed
    let errors ← integer 0 1000000 o.errors
    let skipped ← integer 0 1000000 o.skipped
    require (testsRun.1 = passed.1 + failed.1 + errors.1 + skipped.1)
      (rejected "inconsistent test counts")
    require (status = "passed" → 0 < passed.1 ∧ (failed.1 = 0 ∧ errors.1 = 0) ∧
        skipped.1 = skipIds.length)
      (rejected "passing check has failed/skipped/empty tests")
    require (status ∈ executed) (rejected "unexecuted test counts")
    return some ⟨testsRun.1, passed.1, failed.1, errors.1, skipped.1⟩

/-- The check an observation describes.  Source: `controller.py` `Check.validate`. -/
def Observation.validate (o : Observation) : Py Check := do
  let name ← checkName o.name
  let candidateDigest ← sha 64 o.candidateDigest
  let status ← checkStatus o.status
  let code ← readExitCode status o.exitCode
  let skipIds ← skippedTests o.skipIds
  let counts ← o.counts status skipIds
  return { name := name
           status := status
           exitCode := code
           candidateDigest := candidateDigest
           testsRun := counts.map fun c => c.testsRun
           passed := counts.map fun c => c.passed
           failed := counts.map fun c => c.failed
           errors := counts.map fun c => c.errors
           skipped := counts.map fun c => c.skipped
           skipIds := skipIds }

/-- Source: `controller.py` `Check.validate`. -/
def Check.validate (check : Check) : Py Unit := do
  let _ ← check.observation.validate
  return ()

/-! ### The checks that are read -/

/-- An exit code that goes with a status. -/
def ExitFits (status : String) (code : Option Int) : Prop :=
  (status ∈ executed ∧ ∃ n : Nat, n ≤ 255 ∧ code = some (n : Int) ∧ (n = 0 ↔ status = "passed")) ∨
    status ∉ executed ∧ code = none

/-- Counts that add up, and are those of a check with that status. -/
structure CountsFit (status : String) (skipIds : List String) (counts : Counts) : Prop where
  bounds : counts.testsRun ≤ 1000000 ∧ counts.passed ≤ 1000000 ∧ counts.failed ≤ 1000000 ∧
    counts.errors ≤ 1000000 ∧ counts.skipped ≤ 1000000
  sum : counts.testsRun = counts.passed + counts.failed + counts.errors + counts.skipped
  passing : status = "passed" → 0 < counts.passed ∧ (counts.failed = 0 ∧ counts.errors = 0) ∧
    counts.skipped = skipIds.length
  ran : status ∈ executed

/-- The counts of a check, when it has any. -/
def Counted (status : String) (skipIds : List String) : Option Counts → Prop
  | none => skipIds = []
  | some counts => CountsFit status skipIds counts

/-- A check whose fields are those of one observation. -/
structure Check.Valid (check : Check) : Prop where
  name : isCheckName check.name = true
  digest : IsHex 64 check.candidateDigest
  status : check.status ∈ ["passed", "failed", "blocked", "not_run"]
  exit : ExitFits check.status check.exitCode
  skips : check.skipIds.length ≤ 64 ∧ check.skipIds.Nodup
  counts : ∃ counts : Option Counts, Counted check.status check.skipIds counts ∧
    check.testsRun = counts.map (fun c => (c.testsRun : Int)) ∧
    check.passed = counts.map (fun c => (c.passed : Int)) ∧
    check.failed = counts.map (fun c => (c.failed : Int)) ∧
    check.errors = counts.map (fun c => (c.errors : Int)) ∧
    check.skipped = counts.map (fun c => (c.skipped : Int))

theorem checkName_eq_ok {j : Json} {s : String} :
    checkName j = .ok s ↔ j = .str s ∧ isCheckName s = true := by
  constructor
  · intro h
    cases j with
    | str t =>
      obtain ⟨hname, ht⟩ := require_bind_eq_ok.mp h
      obtain rfl := Except.ok.inj ht
      exact ⟨rfl, hname⟩
    | _ => exact nomatch h
  · rintro ⟨rfl, hname⟩
    exact require_bind_eq_ok.mpr ⟨hname, rfl⟩

theorem checkStatus_eq_ok {j : Json} {s : String} :
    checkStatus j = .ok s ↔ j = .str s ∧ s ∈ ["passed", "failed", "blocked", "not_run"] := by
  constructor
  · intro h
    cases j with
    | str t =>
      obtain ⟨hstatus, ht⟩ := require_bind_eq_ok.mp h
      obtain rfl := Except.ok.inj ht
      exact ⟨rfl, hstatus⟩
    | _ => exact nomatch h
  · rintro ⟨rfl, hstatus⟩
    exact require_bind_eq_ok.mpr ⟨hstatus, rfl⟩

theorem readExitCode_eq_ok {status : String} {j : Json} {code : Option Int} :
    readExitCode status j = .ok code ↔ j = optionalInt code ∧ ExitFits status code := by
  by_cases hran : status ∈ executed
  · rw [readExitCode, if_pos hran, bind_eq_ok]
    constructor
    · rintro ⟨n, hn, hrest⟩
      obtain ⟨hzero, hcode⟩ := require_bind_eq_ok.mp hrest
      obtain rfl := Except.ok.inj hcode
      exact ⟨integer_eq_ok.mp hn, .inl ⟨hran, n.1, n.2.2, rfl, hzero⟩⟩
    · rintro ⟨rfl, ⟨-, n, hn, rfl, hzero⟩ | ⟨hnot, -⟩⟩
      · exact ⟨⟨n, Nat.zero_le n, hn⟩, integer_eq_ok.mpr rfl, require_bind_eq_ok.mpr ⟨hzero, rfl⟩⟩
      · exact absurd hran hnot
  · rw [readExitCode, if_neg hran, require_bind_eq_ok, pure_eq_ok, Except.ok.injEq]
    constructor
    · rintro ⟨rfl, rfl⟩
      exact ⟨rfl, .inr ⟨hran, rfl⟩⟩
    · rintro ⟨rfl, ⟨hexecuted, -⟩ | ⟨-, rfl⟩⟩
      · exact absurd hexecuted hran
      · exact ⟨rfl, rfl⟩

theorem mapM_skippedTest_eq_ok {elems : List Json} {ids : List String} :
    elems.mapM skippedTest = .ok ids ↔ elems = ids.map .str := by
  induction elems generalizing ids with
  | nil =>
    cases ids with
    | nil => exact iff_of_true rfl rfl
    | cons s ids => exact iff_of_false (fun h => nomatch h) fun h => nomatch h
  | cons j elems ih =>
    rw [List.mapM_cons, bind_eq_ok]
    constructor
    · rintro ⟨s, hs, hrest⟩
      obtain ⟨ids', hids', hr⟩ := bind_eq_ok.mp hrest
      obtain rfl := Except.ok.inj hr
      cases j with
      | str t =>
        obtain rfl := Except.ok.inj hs
        rw [List.map_cons, ih.mp hids']
      | _ => exact nomatch hs
    · intro helems
      cases ids with
      | nil => exact nomatch helems
      | cons s ids =>
        obtain ⟨rfl, hrest⟩ := List.cons.inj helems
        exact ⟨s, rfl, bind_eq_ok.mpr ⟨ids, ih.mpr hrest, rfl⟩⟩

theorem skippedTests_eq_ok {j : Json} {ids : List String} :
    skippedTests j = .ok ids ↔ j = .strings ids ∧ ids.length ≤ 64 ∧ ids.Nodup := by
  constructor
  · intro h
    cases j with
    | arr elems =>
      obtain ⟨hlength, hrest⟩ := require_bind_eq_ok.mp h
      obtain ⟨ids', hids, hrest⟩ := bind_eq_ok.mp hrest
      obtain ⟨hnodup, hr⟩ := require_bind_eq_ok.mp hrest
      obtain rfl := Except.ok.inj hr
      obtain rfl := mapM_skippedTest_eq_ok.mp hids
      rw [List.length_map] at hlength
      exact ⟨rfl, hlength, hnodup⟩
    | _ => exact nomatch h
  · rintro ⟨rfl, hlength, hnodup⟩
    refine require_bind_eq_ok.mpr ⟨by rwa [List.length_map], ?_⟩
    exact bind_eq_ok.mpr ⟨ids, mapM_skippedTest_eq_ok.mpr rfl, require_bind_eq_ok.mpr ⟨hnodup, rfl⟩⟩

theorem counts_eq_ok {o : Observation} {status : String} {skipIds : List String}
    {counts : Option Counts} :
    o.counts status skipIds = .ok counts ↔
      (o.testsRun = optionalInt (counts.map fun c => (c.testsRun : Int)) ∧
        o.passed = optionalInt (counts.map fun c => (c.passed : Int)) ∧
        o.failed = optionalInt (counts.map fun c => (c.failed : Int)) ∧
        o.errors = optionalInt (counts.map fun c => (c.errors : Int)) ∧
        o.skipped = optionalInt (counts.map fun c => (c.skipped : Int))) ∧
          Counted status skipIds counts := by
  unfold Observation.counts
  split
  · rename_i hnull
    rw [require_bind_eq_ok, pure_eq_ok, Except.ok.injEq]
    constructor
    · rintro ⟨hskips, rfl⟩
      exact ⟨hnull, hskips⟩
    · rintro ⟨hfields, hcounted⟩
      cases counts with
      | none => exact ⟨hcounted, rfl⟩
      | some c =>
        have hclash := hnull.1.symm.trans hfields.1
        cases hclash
  · rename_i hsome
    simp only [bind_eq_ok, require_eq_ok, pure_eq_ok, Except.ok.injEq, integer_eq_ok]
    constructor
    · rintro ⟨testsRun, htests, passed, hpassed, failed, hfailed, errors, herrors, skipped, hskipped,
        -, hsum, -, hpassing, -, hran, rfl⟩
      refine ⟨⟨htests, hpassed, hfailed, herrors, hskipped⟩, ?_⟩
      exact ⟨⟨testsRun.2.2, passed.2.2, failed.2.2, errors.2.2, skipped.2.2⟩, hsum, hpassing, hran⟩
    · rintro ⟨hfields, hcounted⟩
      cases counts with
      | none => exact absurd hfields hsome
      | some c =>
        obtain ⟨⟨htests, hpassed, hfailed, herrors, hskipped⟩, hsum, hpassing, hran⟩ := hcounted
        exact ⟨⟨_, Nat.zero_le _, htests⟩, hfields.1, ⟨_, Nat.zero_le _, hpassed⟩, hfields.2.1,
          ⟨_, Nat.zero_le _, hfailed⟩, hfields.2.2.1, ⟨_, Nat.zero_le _, herrors⟩, hfields.2.2.2.1,
          ⟨_, Nat.zero_le _, hskipped⟩, hfields.2.2.2.2, (), hsum, (), hpassing, (), hran, rfl⟩

/-- **The check that is read is the one whose fields arrived.** -/
theorem observation_validate_eq_ok {o : Observation} {check : Check} :
    o.validate = .ok check ↔ o = check.observation ∧ check.Valid := by
  simp only [Observation.validate, bind_eq_ok, checkName_eq_ok, sha_eq_ok, checkStatus_eq_ok,
    readExitCode_eq_ok, skippedTests_eq_ok, counts_eq_ok, pure_eq_ok, Except.ok.injEq]
  obtain ⟨name, status, code, candidateDigest, testsRun, passed, failed, errors, skipped, skips⟩ := o
  constructor
  · rintro ⟨_, ⟨rfl, hname⟩, _, ⟨rfl, hdigest⟩, _, ⟨rfl, hstatus⟩, _, ⟨rfl, hexit⟩, _,
      ⟨rfl, hskips⟩, counts, ⟨⟨rfl, rfl, rfl, rfl, rfl⟩, hcounted⟩, rfl⟩
    exact ⟨rfl, hname, hdigest, hstatus, hexit, hskips, counts, hcounted, rfl, rfl, rfl, rfl, rfl⟩
  · rintro ⟨ho, hname, hdigest, hstatus, hexit, hskips, counts, hcounted, htests, hpassed, hfailed,
      herrors, hskipped⟩
    obtain ⟨rfl, rfl, rfl, rfl, rfl, rfl, rfl, rfl, rfl, rfl⟩ := Observation.mk.inj ho
    refine ⟨_, ⟨rfl, hname⟩, _, ⟨rfl, hdigest⟩, _, ⟨rfl, hstatus⟩, _, ⟨rfl, hexit⟩, _,
      ⟨rfl, hskips⟩, counts, ⟨⟨?_, ?_, ?_, ?_, ?_⟩, hcounted⟩, ?_⟩
    · exact congrArg optionalInt htests
    · exact congrArg optionalInt hpassed
    · exact congrArg optionalInt hfailed
    · exact congrArg optionalInt herrors
    · exact congrArg optionalInt hskipped
    · rw [← htests, ← hpassed, ← hfailed, ← herrors, ← hskipped]

theorem optionalInt_inj {a b : Option Int} (h : optionalInt a = optionalInt b) : a = b := by
  cases a with
  | none =>
    cases b with
    | none => rfl
    | some n => exact nomatch h
  | some m =>
    cases b with
    | none => exact nomatch h
    | some n => exact congrArg some (Json.int.inj h)

/-- A check is known by its fields. -/
theorem observation_inj {check check' : Check} (h : check.observation = check'.observation) :
    check = check' := by
  obtain ⟨hname, hstatus, hcode, hdigest, htests, hpassed, hfailed, herrors, hskipped, hskips⟩ :=
    Observation.mk.inj h
  have hids : check.skipIds = check'.skipIds :=
    List.map_injective_iff.mpr (fun _ _ => Json.str.inj) (Json.arr.inj hskips)
  exact Check.ext (Json.str.inj hname) (Json.str.inj hstatus) (optionalInt_inj hcode)
    (Json.str.inj hdigest) (optionalInt_inj htests) (optionalInt_inj hpassed)
    (optionalInt_inj hfailed) (optionalInt_inj herrors) (optionalInt_inj hskipped) hids

theorem check_validate_eq_ok {check : Check} : check.validate = .ok () ↔ check.Valid := by
  rw [Check.validate, bind_eq_ok]
  constructor
  · rintro ⟨read, hread, -⟩
    obtain ⟨hsame, hvalid⟩ := observation_validate_eq_ok.mp hread
    rwa [observation_inj hsame]
  · exact fun hvalid => ⟨check, observation_validate_eq_ok.mpr ⟨rfl, hvalid⟩, rfl⟩

/-! ## Runs -/

/-- Source: `controller.py` `Run`. -/
structure Run where
  taskId : String
  branch : String
  baseSha : String
  policyDigest : String
  state : State
  repairAttempts : Nat
  candidate : Option Candidate
  checks : List Check
  reason : Option String

/-- Source: `controller.py` `Run.pending`. -/
def Run.pending (task : Task) : Run :=
  { taskId := task.taskId
    branch := task.branch
    baseSha := task.baseSha
    policyDigest := task.policyDigest
    state := .pending
    repairAttempts := 0
    candidate := none
    checks := []
    reason := none }

/-- Source: `controller.py` `VerifiedIdentity`. -/
structure VerifiedIdentity where
  login : String
  role : String
  repository : String

/-- What `admitRun` is told by its caller. -/
structure Admission where
  identity : VerifiedIdentity
  repository : String
  observedBaseSha : String
  observedIssueNumber : Int
  existingBranches : List String

/-- `branch.removeprefix("refs/heads/")`. -/
def branchOfRef (ref : String) : String :=
  if "refs/heads/".toList.isPrefixOf ref.toList then String.ofList (ref.toList.drop 11) else ref

/-- Source: `controller.py` `admit`. -/
def admitRun (casefold : String → String) (task : Task) (policy : Policy) (admission : Admission) :
    Py Run := do
  require (task.policyDigest = policy.digest) (rejected "task policy changed")
  require (admission.identity.repository = admission.repository ∧
      admission.repository = "kostekdolata/NightRecon") (rejected "repository identity mismatch")
  require (casefold admission.identity.login ∈ policy.allowedSubmitters.map casefold ∧
      admission.identity.role ∈ policy.allowedRoles) (rejected "unauthorized submitter")
  require (admission.observedBaseSha = task.baseSha ∧ task.baseSha = policy.baseSha)
    (rejected "base verification failed")
  require (admission.observedIssueNumber = task.issueNumber) (rejected "issue identity mismatch")
  require (∀ ref ∈ admission.existingBranches, casefold (branchOfRef ref) ≠ casefold task.branch)
    (rejected "task branch already exists")
  return { Run.pending task with state := .admitted }

/-- The checks that have to count their tests. -/
def countedChecks : List String := ["python-suite", "controller-tests", "red-package-boundary"]

/-- The evidence a caller of `transition` brings. -/
structure Evidence where
  candidate : Option Candidate
  checks : List Check
  reason : Option String

/-- A run is blocked or has failed. -/
def terminate (run : Run) (state : State) (evidence : Evidence) : Py Run := do
  let _ ← text 1024 (.ofOption evidence.reason)
  require (evidence.candidate.isNone = true ∧ evidence.checks.isEmpty = true)
    (rejected "terminal transition cannot replace evidence")
  return { run with state := state, reason := evidence.reason }

/-- A candidate is frozen. -/
def freeze (run : Run) (evidence : Evidence) : Py Run := do
  let candidate ← getOrRaise evidence.candidate
    (rejected "new candidate required without stale checks")
  require (evidence.checks.isEmpty = true) (rejected "new candidate required without stale checks")
  require (candidate.taskId = run.taskId ∧ candidate.branch = run.branch ∧
      candidate.baseSha = run.baseSha ∧ candidate.policyDigest = run.policyDigest)
    (rejected "candidate binding mismatch")
  return { run with state := .validating, candidate := some candidate, checks := [] }

/-- One check is looked at. -/
def observe (policy : Policy) (digest : String) (names : List String) (check : Check) :
    Py (List String) := do
  check.validate
  require (check.name ∉ names) (rejected "duplicate check observation")
  require (check.candidateDigest = digest) (rejected "stale check observation")
  require (check.skipIds ⊆ policy.allowedSkipIds) (rejected "unexpected skipped tests")
  return names ++ [check.name]

/-- The frozen candidate has been validated, and is done or is repaired. -/
def conclude (run : Run) (state : State) (policy : Policy) (evidence : Evidence) : Py Run := do
  require (evidence.candidate.isNone = true) (rejected "use the frozen candidate")
  let frozen ← getOrRaise run.candidate (rejected "use the frozen candidate")
  let names ← evidence.checks.foldlM (observe policy frozen.digest) []
  if state = .completed then do
    require (frozen.scopeValid = true) (rejected "candidate scope failed")
    require (policy.requiredChecks ⊆ names) (rejected "missing required checks")
    require (∀ check ∈ evidence.checks, check.status = "passed") (rejected "unresolved validation")
    require (∀ check ∈ evidence.checks, check.name ∈ countedChecks → check.testsRun ≠ none)
      (rejected "test count evidence required")
    return { run with state := state, checks := evidence.checks }
  else do
    require (frozen.scopeValid = false ∨ ∃ check ∈ evidence.checks, check.status = "failed")
      (rejected "repair requires a failed check or scope failure")
    require (run.repairAttempts < policy.maxRepairAttempts) (rejected "repair limit reached")
    return { run with state := state, checks := evidence.checks
                      repairAttempts := run.repairAttempts + 1 }

/-- Source: `controller.py` `transition`. -/
def transition (run : Run) (target : String) (policy : Policy) (evidence : Evidence) :
    Py Run := do
  require (run.policyDigest = policy.digest ∧ run.baseSha = policy.baseSha)
    (rejected "run policy/base mismatch")
  let state ← getOrRaise (State.ofValue? target) (rejected "unknown state")
  require (state ∈ edges run.state) (rejected "illegal state transition")
  require (state ≠ .admitted) (rejected "admission requires verified identity via admit")
  let _ ← integer 0 policy.maxRepairAttempts (.int run.repairAttempts)
  if state = .blocked ∨ state = .failed then terminate run state evidence
  else do
    require (evidence.reason = none) (rejected "reason only permitted on blocked/failed states")
    if state = .validating then freeze run evidence
    else if state = .completed ∨ state = .repairing then conclude run state policy evidence
    else do
      require (evidence.candidate.isNone = true ∧ evidence.checks.isEmpty = true)
        (rejected "unexpected evidence")
      return { run with state := state }

/-! ## What a transition can do -/

/-- Checks that have been looked at together. -/
structure Observed (policy : Policy) (digest : String) (checks : List Check) : Prop where
  names : (checks.map (·.name)).Nodup
  valid : ∀ check ∈ checks, check.Valid
  bound : ∀ check ∈ checks, check.candidateDigest = digest
  skips : ∀ check ∈ checks, check.skipIds ⊆ policy.allowedSkipIds

/-- What completes a run. -/
structure Complete (policy : Policy) (candidate : Candidate) (checks : List Check) : Prop where
  scopeValid : candidate.scopeValid = true
  required : policy.requiredChecks ⊆ checks.map (·.name)
  passed : ∀ check ∈ checks, check.status = "passed"
  counted : ∀ check ∈ checks, check.name ∈ countedChecks → check.testsRun ≠ none

/-- What asks for a repair. -/
def Unresolved (candidate : Candidate) (checks : List Check) : Prop :=
  candidate.scopeValid = false ∨ ∃ check ∈ checks, check.status = "failed"

/-- A candidate of the run. -/
def BoundTo (run : Run) (candidate : Candidate) : Prop :=
  candidate.taskId = run.taskId ∧ candidate.branch = run.branch ∧
    candidate.baseSha = run.baseSha ∧ candidate.policyDigest = run.policyDigest

/-- The transitions of a run under its policy. -/
inductive Step (policy : Policy) : Run → Evidence → Run → Prop where
  | stop {run : Run} {evidence : Evidence} {state : State} {reason : String}
      (hstate : state = .blocked ∨ state = .failed) (hedge : state ∈ edges run.state)
      (hreason : evidence.reason = some reason) (htext : IsText 1024 reason) :
      Step policy run evidence { run with state := state, reason := some reason }
  | start {run : Run} {evidence : Evidence} (hedge : run.state = .admitted) :
      Step policy run evidence { run with state := .running }
  | freeze {run : Run} {evidence : Evidence} {candidate : Candidate}
      (hedge : run.state = .running ∨ run.state = .repairing)
      (hcandidate : evidence.candidate = some candidate) (hbound : BoundTo run candidate) :
      Step policy run evidence
        { run with state := .validating, candidate := some candidate, checks := [] }
  | complete {run : Run} {evidence : Evidence} {candidate : Candidate}
      (hedge : run.state = .validating) (hcandidate : run.candidate = some candidate)
      (hobserved : Observed policy candidate.digest evidence.checks)
      (hcomplete : Complete policy candidate evidence.checks) :
      Step policy run evidence { run with state := .completed, checks := evidence.checks }
  | repair {run : Run} {evidence : Evidence} {candidate : Candidate}
      (hedge : run.state = .validating) (hcandidate : run.candidate = some candidate)
      (hobserved : Observed policy candidate.digest evidence.checks)
      (hunresolved : Unresolved candidate evidence.checks)
      (hattempts : run.repairAttempts < policy.maxRepairAttempts) :
      Step policy run evidence { run with state := .repairing, checks := evidence.checks
                                          repairAttempts := run.repairAttempts + 1 }

variable {policy : Policy} {run run' : Run} {evidence : Evidence} {target : String}

theorem observe_eq_ok {digest : String} {names names' : List String} {check : Check} :
    observe policy digest names check = .ok names' ↔ check.Valid ∧
      check.name ∉ names ∧ check.candidateDigest = digest ∧
        check.skipIds ⊆ policy.allowedSkipIds ∧ names ++ [check.name] = names' := by
  rw [observe, unit_bind_eq_ok, check_validate_eq_ok, require_bind_eq_ok, require_bind_eq_ok, require_bind_eq_ok,
    pure_eq_ok, Except.ok.injEq]

/-- The loop over the checks, after some names. -/
theorem foldlM_observe {digest : String} {checks : List Check} {names names' : List String} :
    checks.foldlM (observe policy digest) names = .ok names' ↔
      Observed policy digest checks ∧ (∀ check ∈ checks, check.name ∉ names) ∧
        names' = names ++ checks.map (·.name) := by
  induction checks generalizing names with
  | nil =>
    rw [List.foldlM_nil, pure_eq_ok, Except.ok.injEq]
    constructor
    · rintro rfl
      exact ⟨⟨List.nodup_nil, nofun, nofun, nofun⟩, nofun, (List.append_nil _).symm⟩
    · rintro ⟨-, -, rfl⟩
      exact (List.append_nil _).symm
  | cons check checks ih =>
    rw [List.foldlM_cons, bind_eq_ok]
    constructor
    · rintro ⟨names₁, hturn, hrest⟩
      obtain ⟨hvalid, hnew, hdigest, hskips, rfl⟩ := observe_eq_ok.mp hturn
      obtain ⟨hobserved, hnames, rfl⟩ := ih.mp hrest
      have hdistinct : check.name ∉ checks.map (·.name) := by
        rw [List.mem_map]
        rintro ⟨other, hother, heq⟩
        exact hnames other hother (heq ▸ List.mem_append_right _ (List.mem_singleton_self _))
      refine ⟨⟨List.nodup_cons.mpr ⟨hdistinct, hobserved.names⟩,
        List.forall_mem_cons.mpr ⟨hvalid, hobserved.valid⟩,
        List.forall_mem_cons.mpr ⟨hdigest, hobserved.bound⟩,
        List.forall_mem_cons.mpr ⟨hskips, hobserved.skips⟩⟩,
        List.forall_mem_cons.mpr ⟨hnew, fun other hother hmem =>
          hnames other hother (List.mem_append_left _ hmem)⟩, ?_⟩
      rw [List.map_cons, List.append_assoc, List.singleton_append]
    · rintro ⟨⟨hnodup, hvalid, hbound, hskips⟩, hnew, rfl⟩
      rw [List.map_cons, List.nodup_cons] at hnodup
      rw [List.forall_mem_cons] at hvalid hbound hskips hnew
      refine ⟨_, observe_eq_ok.mpr ⟨hvalid.1, hnew.1, hbound.1, hskips.1, rfl⟩, ih.mpr ?_⟩
      refine ⟨⟨hnodup.2, hvalid.2, hbound.2, hskips.2⟩, fun other hother hmem => ?_, ?_⟩
      · rcases List.mem_append.mp hmem with hmem | hmem
        · exact hnew.2 other hother hmem
        · rw [List.mem_singleton] at hmem
          exact hnodup.1 (hmem ▸ List.mem_map_of_mem hother)
      · rw [List.map_cons, List.append_assoc, List.singleton_append]

theorem terminate_eq_ok {state : State} (h : terminate run state evidence = .ok run') :
    ∃ reason, evidence.reason = some reason ∧ IsText 1024 reason ∧
      run' = { run with state := state, reason := some reason } := by
  obtain ⟨reason, htext, h⟩ := bind_eq_ok.mp h
  obtain ⟨hreason, htext⟩ := text_eq_ok.mp htext
  obtain ⟨-, h⟩ := require_bind_eq_ok.mp h
  obtain rfl := Except.ok.inj h
  have hsome : evidence.reason = some reason := by
    cases hevidence : evidence.reason with
    | none =>
      rw [hevidence] at hreason
      exact nomatch hreason
    | some s =>
      rw [hevidence] at hreason
      exact congrArg some (Json.str.inj hreason)
  exact ⟨reason, hsome, htext, by rw [hsome]⟩

theorem freeze_eq_ok (h : freeze run evidence = .ok run') :
    ∃ candidate, evidence.candidate = some candidate ∧ BoundTo run candidate ∧
      run' = { run with state := .validating, candidate := some candidate, checks := [] } := by
  obtain ⟨candidate, hcandidate, h⟩ := bind_eq_ok.mp h
  obtain ⟨-, h⟩ := require_bind_eq_ok.mp h
  obtain ⟨hbound, h⟩ := require_bind_eq_ok.mp h
  exact ⟨candidate, getOrRaise_eq_ok.mp hcandidate, hbound, (Except.ok.inj h).symm⟩

/-- **What a transition can do.** -/
theorem step_of_transition (h : transition run target policy evidence = .ok run') :
    Step policy run evidence run' := by
  unfold transition at h
  obtain ⟨-, h⟩ := require_bind_eq_ok.mp h
  obtain ⟨state, -, h⟩ := bind_eq_ok.mp h
  obtain ⟨hedge, h⟩ := require_bind_eq_ok.mp h
  obtain ⟨hadmitted, h⟩ := require_bind_eq_ok.mp h
  obtain ⟨_, -, h⟩ := bind_eq_ok.mp h
  split at h
  · rename_i hstop
    obtain ⟨reason, hreason, htext, rfl⟩ := terminate_eq_ok h
    exact .stop hstop hedge hreason htext
  obtain ⟨-, h⟩ := require_bind_eq_ok.mp h
  split at h
  · rename_i _ hvalidating
    obtain ⟨candidate, hcandidate, hbound, rfl⟩ := freeze_eq_ok h
    subst hvalidating
    have hfrom : run.state = .running ∨ run.state = .repairing := by
      cases hstate : run.state <;> simp [hstate, edges] at hedge ⊢
    exact .freeze hfrom hcandidate hbound
  split at h
  · rename_i _ _ hconclude
    have hfrom : run.state = .validating := by
      cases hstate : run.state <;> rcases hconclude with rfl | rfl <;>
        simp [hstate, edges] at hedge ⊢
    obtain ⟨-, h⟩ := require_bind_eq_ok.mp h
    obtain ⟨frozen, hfrozen, h⟩ := bind_eq_ok.mp h
    obtain ⟨names, hnames, h⟩ := bind_eq_ok.mp h
    have hfrozen := getOrRaise_eq_ok.mp hfrozen
    obtain ⟨hobserved, -, rfl⟩ := foldlM_observe.mp hnames
    split at h
    · rename_i hcompleted
      obtain ⟨hscope, h⟩ := require_bind_eq_ok.mp h
      obtain ⟨hrequired, h⟩ := require_bind_eq_ok.mp h
      obtain ⟨hpassed, h⟩ := require_bind_eq_ok.mp h
      obtain ⟨hcounted, h⟩ := require_bind_eq_ok.mp h
      obtain rfl := Except.ok.inj h
      subst hcompleted
      exact .complete hfrom hfrozen hobserved ⟨hscope, hrequired, hpassed, hcounted⟩
    · rename_i hcompleted
      obtain ⟨hunresolved, h⟩ := require_bind_eq_ok.mp h
      obtain ⟨hattempts, h⟩ := require_bind_eq_ok.mp h
      obtain rfl := Except.ok.inj h
      obtain rfl := hconclude.resolve_left hcompleted
      exact .repair hfrom hfrozen hobserved hunresolved hattempts
  · rename_i hstop hvalidating hconclude
    obtain ⟨-, h⟩ := require_bind_eq_ok.mp h
    obtain rfl := Except.ok.inj h
    have hrunning : state = .running ∧ run.state = .admitted := by
      cases hstate : run.state <;> cases state <;> simp_all [edges]
    obtain ⟨rfl, hfrom⟩ := hrunning
    exact .start hfrom

/-! ## What holds of every run -/

/-- A run under its policy. -/
structure Sound (policy : Policy) (run : Run) : Prop where
  policyDigest : run.policyDigest = policy.digest
  baseSha : run.baseSha = policy.baseSha
  attempts : run.repairAttempts ≤ policy.maxRepairAttempts
  bound : ∀ candidate, run.candidate = some candidate → BoundTo run candidate
  unchecked : run.candidate = none → run.checks = []
  observed : ∀ candidate, run.candidate = some candidate →
    Observed policy candidate.digest run.checks
  early : run.state ∈ [.pending, .admitted, .running] → run.candidate = none
  late : run.state ∈ [.validating, .repairing, .completed] → ∃ candidate,
    run.candidate = some candidate
  fresh : run.state = .validating → run.checks = []
  repairing : run.state = .repairing → 0 < run.repairAttempts ∧
    ∀ candidate, run.candidate = some candidate → Unresolved candidate run.checks
  completed : run.state = .completed →
    ∀ candidate, run.candidate = some candidate → Complete policy candidate run.checks
  reason : run.state ∈ [.blocked, .failed] → ∃ reason, run.reason = some reason ∧ IsText 1024 reason
  noReason : run.state ∉ [.blocked, .failed] → run.reason = none

theorem observed_nil (policy : Policy) (digest : String) : Observed policy digest [] :=
  ⟨List.nodup_nil, nofun, nofun, nofun⟩

/-- A run begins sound. -/
theorem sound_of_admit {casefold : String → String} {task : Task} {admission : Admission}
    (h : admitRun casefold task policy admission = .ok run) : Sound policy run := by
  obtain ⟨hpolicy, h⟩ := require_bind_eq_ok.mp h
  obtain ⟨-, h⟩ := require_bind_eq_ok.mp h
  obtain ⟨-, h⟩ := require_bind_eq_ok.mp h
  obtain ⟨hbase, h⟩ := require_bind_eq_ok.mp h
  obtain ⟨-, h⟩ := require_bind_eq_ok.mp h
  obtain ⟨-, h⟩ := require_bind_eq_ok.mp h
  obtain rfl := Except.ok.inj h
  exact {
    policyDigest := hpolicy
    baseSha := hbase.2
    attempts := Nat.zero_le _
    bound := nofun
    unchecked := fun _ => rfl
    observed := nofun
    early := fun _ => rfl
    late := fun hstate => by simp at hstate
    fresh := fun _ => rfl
    repairing := nofun
    completed := nofun
    reason := fun hstate => by simp at hstate
    noReason := fun _ => rfl }

/-- **A transition keeps a run sound.** -/
theorem Sound.step (hrun : Sound policy run) (h : Step policy run evidence run') :
    Sound policy run' := by
  cases h with
  | @stop state reason hstate hedge hreason htext =>
    exact {
      policyDigest := hrun.policyDigest
      baseSha := hrun.baseSha
      attempts := hrun.attempts
      bound := hrun.bound
      unchecked := hrun.unchecked
      observed := hrun.observed
      early := fun hearly => by rcases hstate with rfl | rfl <;> simp at hearly
      late := fun hlate => by rcases hstate with rfl | rfl <;> simp at hlate
      fresh := fun hfresh => by rcases hstate with rfl | rfl <;> simp at hfresh
      repairing := fun hrepair => by rcases hstate with rfl | rfl <;> simp at hrepair
      completed := fun hcompleted => by rcases hstate with rfl | rfl <;> simp at hcompleted
      reason := fun _ => ⟨reason, rfl, htext⟩
      noReason := fun hnot => by rcases hstate with rfl | rfl <;> simp at hnot }
  | start hedge =>
    have hnone : run.candidate = none := hrun.early (by simp [hedge])
    exact {
      policyDigest := hrun.policyDigest
      baseSha := hrun.baseSha
      attempts := hrun.attempts
      bound := hrun.bound
      unchecked := hrun.unchecked
      observed := hrun.observed
      early := fun _ => hnone
      late := fun hlate => by simp at hlate
      fresh := nofun
      repairing := nofun
      completed := nofun
      reason := fun hreason => by simp at hreason
      noReason := fun _ => hrun.noReason (by simp [hedge]) }
  | @freeze candidate hedge hcandidate hbound =>
    exact {
      policyDigest := hrun.policyDigest
      baseSha := hrun.baseSha
      attempts := hrun.attempts
      bound := fun _ heq => Option.some.inj heq ▸ hbound
      unchecked := nofun
      observed := fun c _ => observed_nil policy c.digest
      early := fun hearly => by simp at hearly
      late := fun _ => ⟨candidate, rfl⟩
      fresh := fun _ => rfl
      repairing := nofun
      completed := nofun
      reason := fun hreason => by simp at hreason
      noReason := fun _ => hrun.noReason (by rcases hedge with h | h <;> simp [h]) }
  | @complete candidate hedge hcandidate hobserved hcomplete =>
    have hsame : ∀ c, run.candidate = some c → c = candidate := fun c hc =>
      Option.some.inj (hc.symm.trans hcandidate)
    exact {
      policyDigest := hrun.policyDigest
      baseSha := hrun.baseSha
      attempts := hrun.attempts
      bound := hrun.bound
      unchecked := fun hnone => nomatch hnone.symm.trans hcandidate
      observed := fun c hc => hsame c hc ▸ hobserved
      early := fun hearly => by simp at hearly
      late := fun _ => ⟨candidate, hcandidate⟩
      fresh := nofun
      repairing := nofun
      completed := fun _ c hc => hsame c hc ▸ hcomplete
      reason := fun hreason => by simp at hreason
      noReason := fun _ => hrun.noReason (by simp [hedge]) }
  | @repair candidate hedge hcandidate hobserved hunresolved hattempts =>
    have hsame : ∀ c, run.candidate = some c → c = candidate := fun c hc =>
      Option.some.inj (hc.symm.trans hcandidate)
    exact {
      policyDigest := hrun.policyDigest
      baseSha := hrun.baseSha
      attempts := hattempts
      bound := hrun.bound
      unchecked := fun hnone => nomatch hnone.symm.trans hcandidate
      observed := fun c hc => hsame c hc ▸ hobserved
      early := fun hearly => by simp at hearly
      late := fun _ => ⟨candidate, hcandidate⟩
      fresh := nofun
      repairing := fun _ => ⟨Nat.succ_pos _, fun c hc => hsame c hc ▸ hunresolved⟩
      completed := nofun
      reason := fun hreason => by simp at hreason
      noReason := fun _ => hrun.noReason (by simp [hedge]) }

/-- The runs that `admitRun` and `transition` produce from candidates of some kind. -/
inductive Reachable (casefold : String → String) (policy : Policy) (allowed : Candidate → Prop) :
    Run → Prop where
  | admission {task : Task} {admission : Admission} {run : Run}
      (h : admitRun casefold task policy admission = .ok run) : Reachable casefold policy allowed run
  | step {run run' : Run} {target : String} {evidence : Evidence}
      (hrun : Reachable casefold policy allowed run)
      (hallowed : ∀ candidate, evidence.candidate = some candidate → allowed candidate)
      (h : transition run target policy evidence = .ok run') : Reachable casefold policy allowed run'

/-- **Every run is sound.** -/
theorem sound_of_reachable {casefold : String → String} {allowed : Candidate → Prop}
    (h : Reachable casefold policy allowed run) : Sound policy run := by
  induction h with
  | admission h => exact sound_of_admit h
  | step _ _ h ih => exact ih.step (step_of_transition h)

/-- A terminal state is not left. -/
theorem transition_terminal (hterminal : run.state.isTerminal = true) :
    transition run target policy evidence ≠ .ok run' := by
  intro h
  unfold transition at h
  obtain ⟨-, h⟩ := require_bind_eq_ok.mp h
  obtain ⟨state, -, h⟩ := bind_eq_ok.mp h
  obtain ⟨hedge, -⟩ := require_bind_eq_ok.mp h
  rw [List.isEmpty_iff.mp hterminal] at hedge
  exact absurd hedge List.not_mem_nil

/-- The candidate changes only when a new one is frozen. -/
theorem candidate_of_step (h : Step policy run evidence run') :
    run'.state = .validating ∨ run'.candidate = run.candidate := by
  cases h with
  | freeze => exact .inl rfl
  | _ => exact .inr rfl

/-! ## Transitions that succeed -/

variable {candidate : Candidate} {checks : List Check}

theorem integer_attempts (hrun : Sound policy run) :
    integer 0 policy.maxRepairAttempts (.int run.repairAttempts) =
      .ok ⟨run.repairAttempts, Nat.zero_le _, hrun.attempts⟩ :=
  integer_eq_ok.mpr rfl

theorem transition_start (hrun : Sound policy run) (hstate : run.state = .admitted) :
    transition run "running" policy ⟨none, [], none⟩ = .ok { run with state := .running } := by
  refine require_bind_eq_ok.mpr ⟨⟨hrun.policyDigest, hrun.baseSha⟩, ?_⟩
  refine bind_eq_ok.mpr ⟨.running, getOrRaise_eq_ok.mpr (by decide), ?_⟩
  refine require_bind_eq_ok.mpr ⟨by simp [hstate, edges], ?_⟩
  refine require_bind_eq_ok.mpr ⟨by decide, bind_eq_ok.mpr ⟨_, integer_attempts hrun, ?_⟩⟩
  rfl

theorem transition_freeze (hrun : Sound policy run)
    (hstate : run.state = .running ∨ run.state = .repairing) (hbound : BoundTo run candidate) :
    transition run "validating" policy ⟨some candidate, [], none⟩ =
      .ok { run with state := .validating, candidate := some candidate, checks := [] } := by
  refine require_bind_eq_ok.mpr ⟨⟨hrun.policyDigest, hrun.baseSha⟩, ?_⟩
  refine bind_eq_ok.mpr ⟨.validating, getOrRaise_eq_ok.mpr (by decide), ?_⟩
  refine require_bind_eq_ok.mpr ⟨by rcases hstate with h | h <;> simp [h, edges], ?_⟩
  refine require_bind_eq_ok.mpr ⟨by decide, bind_eq_ok.mpr ⟨_, integer_attempts hrun, ?_⟩⟩
  refine require_bind_eq_ok.mpr ⟨rfl, bind_eq_ok.mpr ⟨candidate, rfl, ?_⟩⟩
  exact require_bind_eq_ok.mpr ⟨rfl, require_bind_eq_ok.mpr ⟨hbound, rfl⟩⟩

theorem transition_complete (hrun : Sound policy run) (hstate : run.state = .validating)
    (hcandidate : run.candidate = some candidate)
    (hobserved : Observed policy candidate.digest checks)
    (hcomplete : Complete policy candidate checks) :
    transition run "completed" policy ⟨none, checks, none⟩ =
      .ok { run with state := .completed, checks := checks } := by
  refine require_bind_eq_ok.mpr ⟨⟨hrun.policyDigest, hrun.baseSha⟩, ?_⟩
  refine bind_eq_ok.mpr ⟨.completed, getOrRaise_eq_ok.mpr (by decide), ?_⟩
  refine require_bind_eq_ok.mpr ⟨by simp [hstate, edges], ?_⟩
  refine require_bind_eq_ok.mpr ⟨by decide, bind_eq_ok.mpr ⟨_, integer_attempts hrun, ?_⟩⟩
  refine require_bind_eq_ok.mpr ⟨rfl, require_bind_eq_ok.mpr ⟨rfl, ?_⟩⟩
  refine bind_eq_ok.mpr ⟨candidate, getOrRaise_eq_ok.mpr hcandidate, ?_⟩
  refine bind_eq_ok.mpr ⟨_, foldlM_observe.mpr ⟨hobserved, fun _ _ => List.not_mem_nil, rfl⟩, ?_⟩
  refine require_bind_eq_ok.mpr ⟨hcomplete.scopeValid, ?_⟩
  refine require_bind_eq_ok.mpr ⟨hcomplete.required, ?_⟩
  refine require_bind_eq_ok.mpr ⟨hcomplete.passed, ?_⟩
  exact require_bind_eq_ok.mpr ⟨hcomplete.counted, rfl⟩

end NightRecon.TaskAutomation
