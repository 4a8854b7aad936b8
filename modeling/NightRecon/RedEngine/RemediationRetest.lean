import NightRecon.Documents
import NightRecon.Lib.Dict
import NightRecon.Lib.FileBacked
import NightRecon.Lib.JsonRoundTrip
import NightRecon.Lib.Machine

/-!
# Remediation findings and their retests

`nightrecon_red_engine/remediation_retest.py`: findings with a status and the result of the last
retest, in memory and in a JSON file that is replaced after every change.

* `RemediationFinding`, `toDict`, `fromDict`, `load`, `fileText` — findings and their file;
* `create`, `transition`, `recordRetest`, `recordEvidenceRetest`, `Call`, `step` — the calls; a
  replacement of the file is given its outcome;
* `Retest`, `track` — a run with the retests made so far, in memory and on file;
* `Describes` — the last fields of a finding are those of one retest; `Agrees` — each finding
  describes the last retest of it;
* `retest_run` — **runs**, when a plain retest is made only of findings without evidence on record;
  `stale_evidence` — what happens otherwise.
-/

namespace NightRecon.RedEngine.RemediationRetest

open NightRecon.Lib
open NightRecon.Lib.Checks
open NightRecon.Lib.FileBacked
open NightRecon.Lib.Machine
open NightRecon.Lib.Text
open NightRecon.Documents

/-! ## Findings -/

/-- Source: `remediation_retest.py` `RemediationStatus`. -/
inductive RemediationStatus where
  | «open»
  | inProgress
  | readyForRetest
  | verified
  | regressed
  | accepted
  deriving DecidableEq

namespace RemediationStatus

def value : RemediationStatus → String
  | .open => "open"
  | .inProgress => "in-progress"
  | .readyForRetest => "ready-for-retest"
  | .verified => "verified"
  | .regressed => "regressed"
  | .accepted => "accepted"

def all : List RemediationStatus :=
  [.open, .inProgress, .readyForRetest, .verified, .regressed, .accepted]

/-- `RemediationStatus(value)`. -/
def ofJson : Json → Option RemediationStatus
  | .str s => all.find? fun status => status.value = s
  | _ => none

@[simp] theorem ofJson_value (status : RemediationStatus) :
    ofJson (.str status.value) = some status := by
  cases status <;> decide

/-- Source: `remediation_retest.py` `_TRANSITIONS`. -/
def transitions : RemediationStatus → List RemediationStatus
  | .open => [.inProgress, .accepted]
  | .inProgress => [.readyForRetest, .accepted]
  | .readyForRetest => [.inProgress, .accepted]
  | .verified => []
  | .regressed => [.inProgress, .accepted]
  | .accepted => []

end RemediationStatus

/-- A nonblank, trimmed text. -/
abbrev RequiredText := {s : String // requiredText s}

/-- Source: `remediation_retest.py` `_required`. -/
def required (value : Json) (field : String) : Py RequiredText :=
  match value with
  | .str s =>
      if h : requiredText s then .ok ⟨s, h⟩
      else .error (valueError (field ++ " must be a nonblank, trimmed string"))
  | _ => .error (valueError (field ++ " must be a nonblank, trimmed string"))

theorem required_text (s : RequiredText) (field : String) : required (.str s.1) field = .ok s :=
  dif_pos s.2

/-- The fields without a check are whatever the file holds; `None` is `null`.
Source: `remediation_retest.py` `RemediationFinding`. -/
structure RemediationFinding where
  engagementId : RequiredText
  findingId : RequiredText
  title : RequiredText
  remediation : RequiredText
  status : RemediationStatus
  createdAt : Json
  updatedAt : Json
  lastValidationId : Json
  lastRetestState : Json
  lastValidationEvidenceId : Json
  lastCleanupEvidenceId : Json
  lastCleanupState : Json

/-- The members of a finding in the file. -/
def RemediationFinding.members (f : RemediationFinding) : List (String × Json) :=
  [("engagement_id", .str f.engagementId), ("finding_id", .str f.findingId),
    ("title", .str f.title), ("remediation", .str f.remediation),
    ("status", .str f.status.value), ("created_at", f.createdAt), ("updated_at", f.updatedAt),
    ("last_validation_id", f.lastValidationId), ("last_retest_state", f.lastRetestState),
    ("last_validation_evidence_id", f.lastValidationEvidenceId),
    ("last_cleanup_evidence_id", f.lastCleanupEvidenceId),
    ("last_cleanup_state", f.lastCleanupState)]

def RemediationFinding.toDict (f : RemediationFinding) : Json := .obj f.members

/-- The names of the fields. -/
def fieldNames : Finset String :=
  {"engagement_id", "finding_id", "title", "remediation", "status", "created_at", "updated_at",
    "last_validation_id", "last_retest_state", "last_validation_evidence_id",
    "last_cleanup_evidence_id", "last_cleanup_state"}

/-- An argument without a default. -/
def argument (item : Json) (field : String) : Py Json :=
  getOrRaise (item.get? field) (typeError ("missing a required argument: " ++ field))

/-- An argument whose default is `None`. -/
def optional (item : Json) (field : String) : Json := (item.get? field).getD .null

/-- One item of the file.  Source: the loop of `remediation_retest.py` `RemediationStore._load`. -/
def fromDict (item : Json) : Py RemediationFinding := do
  let keys ← getOrRaise (keys? item) (typeError "a finding has to be an object")
  let status ← getItem item "status"
  let status ← getOrRaise (RemediationStatus.ofJson status)
    (valueError "not a valid RemediationStatus")
  require (keys ⊆ fieldNames) (typeError "got an unexpected keyword argument")
  let engagementId ← argument item "engagement_id"
  let findingId ← argument item "finding_id"
  let title ← argument item "title"
  let remediation ← argument item "remediation"
  let createdAt ← argument item "created_at"
  let updatedAt ← argument item "updated_at"
  let engagementId ← required engagementId "engagement_id"
  let findingId ← required findingId "finding_id"
  let title ← required title "title"
  let remediation ← required remediation "remediation"
  return { engagementId, findingId, title, remediation, status, createdAt, updatedAt
           lastValidationId := optional item "last_validation_id"
           lastRetestState := optional item "last_retest_state"
           lastValidationEvidenceId := optional item "last_validation_evidence_id"
           lastCleanupEvidenceId := optional item "last_cleanup_evidence_id"
           lastCleanupState := optional item "last_cleanup_state" }

/-! ## The file -/

/-- The findings by identifier. -/
abbrev Findings := Dict String RemediationFinding

/-- The members of the document `_persist` writes. -/
def documentMembers (findings : Findings) : List (String × Json) :=
  [("schema_version", .int 1),
    ("findings", .arr (findings.sortedValues.map RemediationFinding.toDict))]

/-- The text `_persist` writes. -/
def fileText (findings : Findings) : String :=
  Json.dumps (.obj (documentMembers findings)) ++ "\n"

/-- Source: `remediation_retest.py` `RemediationStore._load`. -/
def load (file : Option String) : Py Findings :=
  match file with
  | none => .ok ∅
  | some text => do
      let payload ← getOrRaise (Json.loads text)
        (valueError "remediation store is not valid UTF-8 JSON")
      require (keys? payload = some {"schema_version", "findings"})
        (valueError "remediation store schema is not supported")
      require ((payload.get? "schema_version").any equalsOne)
        (valueError "remediation store schema version is not supported")
      let findings ← getItem payload "findings"
      let items ← asTuple findings
      Dict.readInto fromDict (·.findingId.1)
        (valueError "remediation store contains duplicate finding IDs") items

/-! ## The calls -/

/-- The time a call is made at: what `isoformat` gives, and whether there is a time zone. -/
structure Now where
  isoformat : String
  aware : Bool

/-- The time a call writes into the finding. -/
def timestamp (now : Now) : Py Json := do
  require (now.aware = true) (valueError "now must include a timezone")
  return .str now.isoformat

/-- Source: `controlled_validation.py` `ValidationState`. -/
inductive ValidationState where
  | denied
  | confirmed
  | notConfirmed
  | error
  deriving DecidableEq

def ValidationState.value : ValidationState → String
  | .denied => "denied"
  | .confirmed => "confirmed"
  | .notConfirmed => "not-confirmed"
  | .error => "error"

/-- What a retest takes from a validation.
Source: `controlled_validation.py` `ControlledValidationResult`. -/
structure ControlledValidationResult where
  engagementId : String
  validationId : String
  state : ValidationState
  deriving DecidableEq

/-- The arguments of `record_evidence_retest`. -/
structure RetestEvidence where
  engagementId : String
  validationId : String
  validationState : String
  validationEvidenceId : String
  cleanupEvidenceId : String
  cleanupState : String
  deriving DecidableEq

/-- Source: `remediation_retest.py` `RetestOutcome`. -/
structure RetestOutcome where
  findingId : String
  previousStatus : String
  resultingStatus : String
  validationId : String
  validationState : String
  conclusive : Bool
  interpretation : String
  deriving DecidableEq

/-- Source: `remediation_retest.py` `_resolve_retest_state`. -/
def resolveRetestState (validationState : String) : Option RemediationStatus × Bool × String :=
  if validationState = ValidationState.notConfirmed.value then
    (some .verified, true, "The previously validated condition was not reproduced.")
  else if validationState = ValidationState.confirmed.value then
    (some .regressed, true, "The previously validated condition is still present.")
  else (none, false, "Retest was inconclusive; finding remains ready for retest.")

/-- Source: `remediation_retest.py` `get`. -/
def getFinding (findingId : String) (findings : Findings) : Py RemediationFinding :=
  getOrRaise (findings.lookup findingId) (valueError ("finding not found: " ++ findingId))

/-- What a call does to the memory before the file is written: the findings, when they change, and
what is returned. -/
abbrev Change (α : Type) := Findings → Py (Option Findings × α)

/-- Source: `remediation_retest.py` `create`. -/
def create (engagementId findingId title remediation : String) (now : Now) :
    Change RemediationFinding := fun findings => do
  raiseIf (findingId ∈ findings) (valueError ("finding already exists: " ++ findingId))
  let timestamp ← timestamp now
  let engagementId ← required (.str engagementId) "engagement_id"
  let findingText ← required (.str findingId) "finding_id"
  let title ← required (.str title) "title"
  let remediation ← required (.str remediation) "remediation"
  let finding : RemediationFinding :=
    { engagementId, findingId := findingText, title, remediation, status := .open
      createdAt := timestamp, updatedAt := timestamp, lastValidationId := .null
      lastRetestState := .null, lastValidationEvidenceId := .null, lastCleanupEvidenceId := .null
      lastCleanupState := .null }
  return (some (findings.insert findingId finding), finding)

/-- Source: `remediation_retest.py` `transition`. -/
def transition (findingId : String) (status : RemediationStatus) (now : Now) :
    Change RemediationFinding := fun findings => do
  let finding ← getFinding findingId findings
  if status = finding.status then return (none, finding)
  else
    require (status ∈ finding.status.transitions)
      (valueError ("invalid remediation transition: " ++ finding.status.value ++ " -> " ++
        status.value))
    let updatedAt ← timestamp now
    let updated := { finding with status, updatedAt }
    return (some (findings.insert findingId updated), updated)

/-- What both kinds of retest return. -/
def retestOutcome (findingId validationId validationState : String)
    (previous : RemediationStatus) : RetestOutcome :=
  let (resolved, conclusive, interpretation) := resolveRetestState validationState
  { findingId, previousStatus := previous.value
    resultingStatus := (resolved.getD previous).value
    validationId, validationState, conclusive, interpretation }

/-- Source: `remediation_retest.py` `record_retest`. -/
def recordRetest (findingId : String) (result : ControlledValidationResult) (now : Now) :
    Change RetestOutcome := fun findings => do
  let finding ← getFinding findingId findings
  require (finding.status = .readyForRetest)
    (valueError "finding must be ready-for-retest before recording a retest")
  raiseIf (result.engagementId ≠ finding.engagementId.1)
    (valueError "retest result belongs to a different engagement")
  let updatedAt ← timestamp now
  let resolved := (resolveRetestState result.state.value).1
  let updated := { finding with
    status := resolved.getD finding.status
    updatedAt
    lastValidationId := .str result.validationId
    lastRetestState := .str result.state.value }
  return (some (findings.insert findingId updated),
    retestOutcome findingId result.validationId result.state.value finding.status)

/-- Source: `remediation_retest.py` `record_evidence_retest`. -/
def recordEvidenceRetest (findingId : String) (evidence : RetestEvidence) (now : Now) :
    Change RetestOutcome := fun findings => do
  let finding ← getFinding findingId findings
  require (finding.status = .readyForRetest)
    (valueError "finding must be ready-for-retest before recording a retest")
  raiseIf (evidence.engagementId ≠ finding.engagementId.1)
    (valueError "retest evidence belongs to a different engagement")
  let _ ← required (.str evidence.validationId) "validation_id"
  let _ ← required (.str evidence.validationState) "validation_state"
  let _ ← required (.str evidence.validationEvidenceId) "validation_evidence_id"
  let _ ← required (.str evidence.cleanupEvidenceId) "cleanup_evidence_id"
  let _ ← required (.str evidence.cleanupState) "cleanup_state"
  require (evidence.cleanupState = "not-required" ∨ evidence.cleanupState = "completed")
    (valueError "retest cleanup evidence must be complete before state transition")
  let updatedAt ← timestamp now
  let resolved := (resolveRetestState evidence.validationState).1
  let updated := { finding with
    status := resolved.getD finding.status
    updatedAt
    lastValidationId := .str evidence.validationId
    lastRetestState := .str evidence.validationState
    lastValidationEvidenceId := .str evidence.validationEvidenceId
    lastCleanupEvidenceId := .str evidence.cleanupEvidenceId
    lastCleanupState := .str evidence.cleanupState }
  return (some (findings.insert findingId updated),
    retestOutcome findingId evidence.validationId evidence.validationState finding.status)

/-- The calls that may change a finding. -/
inductive Operation where
  | create (engagementId findingId title remediation : String) (now : Now)
  | transition (findingId : String) (status : RemediationStatus) (now : Now)
  | recordRetest (findingId : String) (result : ControlledValidationResult) (now : Now)
  | recordEvidenceRetest (findingId : String) (evidence : RetestEvidence) (now : Now)

/-- What a call returns. -/
inductive Answer where
  | finding (finding : RemediationFinding)
  | outcome (outcome : RetestOutcome)
  | opened

/-- The value of a change, as an answer. -/
def Change.answer {α : Type} (change : Change α) (f : α → Answer) : Change Answer := fun findings =>
  (change findings).map fun r => (r.1, f r.2)

def Operation.change : Operation → Change Answer
  | .create engagementId findingId title remediation now =>
      (RemediationRetest.create engagementId findingId title remediation now).answer .finding
  | .transition findingId status now =>
      (RemediationRetest.transition findingId status now).answer .finding
  | .recordRetest findingId result now =>
      (RemediationRetest.recordRetest findingId result now).answer .outcome
  | .recordEvidenceRetest findingId evidence now =>
      (RemediationRetest.recordEvidenceRetest findingId evidence now).answer .outcome

/-- An operation with the outcome of the write it may make, or a new store on the file. -/
inductive Call where
  | operate (operation : Operation) (write : Py Unit)
  | reopen

/-- Source: `remediation_retest.py` `RemediationStore`. -/
abbrev RemediationStore := FileBacked Findings String

/-- Source: `remediation_retest.py` `_persist`. -/
def persist (write : Py Unit) : Proc Exn RemediationStore Unit :=
  FileBacked.persist (fun findings => .ok (fileText findings)) write

/-- The memory is changed first, and stays changed when the write raises. -/
def operate (operation : Operation) (write : Py Unit) : Proc Exn RemediationStore Answer := do
  let s ← Proc.get
  let (findings, answer) ← Proc.ofExcept (operation.change s.memory)
  match findings with
  | none => return answer
  | some findings =>
      Proc.modify (setMemory findings)
      persist write
      return answer

/-- A new store reads the file. -/
def reopen : Proc Exn RemediationStore Answer := do
  let s ← Proc.get
  let findings ← Proc.ofExcept (load s.file)
  Proc.modify (setMemory findings)
  return .opened

def body : Call → Proc Exn RemediationStore Answer
  | .operate operation write => RemediationRetest.operate operation write
  | .reopen => RemediationRetest.reopen

/-- One call. -/
def step (s : RemediationStore) (call : Call) : RemediationStore × Py Answer :=
  ((body call s).2, (body call s).1)

/-! ## Retests -/

/-- A retest: the validation, and the evidence and the cleanup when they are on record. -/
structure Retest where
  validationId : String
  state : String
  evidence : Option (String × String × String)
  deriving DecidableEq

/-- The retest an operation makes, and of which finding. -/
def Operation.retest : Operation → Option (String × Retest)
  | .recordRetest findingId result _ =>
      some (findingId, ⟨result.validationId, result.state.value, none⟩)
  | .recordEvidenceRetest findingId evidence _ =>
      some (findingId, ⟨evidence.validationId, evidence.validationState,
        some (evidence.validationEvidenceId, evidence.cleanupEvidenceId, evidence.cleanupState)⟩)
  | _ => none

/-- The last retest of each finding. -/
abbrev Log := String → Option Retest

def Log.note (log : Log) : Option (String × Retest) → Log
  | none => log
  | some (findingId, retest) => fun id => if id = findingId then some retest else log id

/-- The last fields of a finding are those of this retest, and where the status is a conclusion it
is the one from this retest. -/
structure Describes (f : RemediationFinding) (last : Option Retest) : Prop where
  validationId : f.lastValidationId = .ofOption (last.map (·.validationId))
  state : f.lastRetestState = .ofOption (last.map (·.state))
  validationEvidenceId :
    f.lastValidationEvidenceId = .ofOption ((last.bind (·.evidence)).map (·.1))
  cleanupEvidenceId :
    f.lastCleanupEvidenceId = .ofOption ((last.bind (·.evidence)).map (·.2.1))
  cleanupState : f.lastCleanupState = .ofOption ((last.bind (·.evidence)).map (·.2.2))
  conclusion : f.status = .verified ∨ f.status = .regressed →
    ∃ retest, last = some retest ∧ (resolveRetestState retest.state).1 = some f.status

/-- A store with the last retests of the findings in memory and of those on file. -/
structure Tracked where
  store : RemediationStore
  last : Log
  filed : Log

/-- No file, and nothing in memory. -/
def start : Tracked := ⟨⟨∅, none⟩, fun _ => none, fun _ => none⟩

/-- The last retests in memory and on file after a call: a retest is made when the operation changes
the memory, and is on file when the write is successful. -/
def logs (t : Tracked) : Call → Log × Log
  | .operate operation write =>
      match operation.change t.store.memory with
      | .ok (some _, _) =>
          (t.last.note operation.retest,
            if write.isOk then t.last.note operation.retest else t.filed)
      | _ => (t.last, t.filed)
  | .reopen => (if (load t.store.file).isOk then t.filed else t.last, t.filed)

/-- One call of a run with its retests. -/
def track (t : Tracked) (call : Call) : Tracked × Py Answer :=
  (⟨(step t.store call).1, (logs t call).1, (logs t call).2⟩, (step t.store call).2)

/-! ## Findings that describe the last retest -/

/-- The times of a finding are texts. -/
def Timed (f : RemediationFinding) : Prop :=
  ∃ created updated, f.createdAt = .str created ∧ f.updatedAt = .str updated

theorem timestamp_eq_ok {now : Now} {time : Json} (h : timestamp now = .ok time) :
    time = .str now.isoformat := by
  rw [timestamp, require_bind_eq_ok] at h
  exact (Except.ok.inj h.2).symm

theorem required_eq_ok {s field : String} {text : RequiredText}
    (h : required (.str s) field = .ok text) : text.1 = s := by
  rw [required] at h
  by_cases hs : requiredText s
  · rw [dif_pos hs] at h
    rw [← Except.ok.inj h]
  · rw [dif_neg hs] at h
    cases h

/-- Every finding is filed under its identifier and describes the last retest of it, and there is
no retest of anything else. -/
structure Agrees (findings : Findings) (log : Log) : Prop where
  present : ∀ id f, findings.lookup id = some f →
    f.findingId.1 = id ∧ Timed f ∧ Describes f (log id)
  absent : ∀ id, findings.lookup id = none → log id = none

theorem agrees_empty {log : Log} (h : ∀ id, log id = none) : Agrees ∅ log := by
  refine ⟨fun id f hf => ?_, fun id _ => h id⟩
  rw [Finmap.lookup_empty] at hf
  cases hf

/-- One finding is replaced, and only its retest is noted. -/
theorem Agrees.insert {findings : Findings} {log log' : Log} (h : Agrees findings log)
    {f : RemediationFinding} {id : String} (hid : f.findingId.1 = id) (htimed : Timed f)
    (hdescribes : Describes f (log' id)) (helse : ∀ k, k ≠ id → log' k = log k) :
    Agrees (findings.insert id f) log' := by
  refine ⟨fun k g hg => ?_, fun k hk => ?_⟩
  · rw [Dict.lookup_insert_eq] at hg
    split at hg
    · next heq =>
      obtain rfl := Option.some.inj hg
      rw [heq]
      exact ⟨hid, htimed, hdescribes⟩
    · next hne =>
      rw [helse k hne]
      exact h.present k g hg
  · rw [Dict.lookup_insert_eq] at hk
    split at hk
    · cases hk
    · next hne =>
      rw [helse k hne]
      exact h.absent k hk

/-- A plain retest is made only of a finding that has no evidence on record. -/
def Fresh (findings : Findings) : Operation → Prop
  | .recordRetest findingId _ _ => ∀ f, findings.lookup findingId = some f →
      f.status = .readyForRetest → f.lastValidationEvidenceId = .null ∧
        f.lastCleanupEvidenceId = .null ∧ f.lastCleanupState = .null
  | _ => True

/-- The status after a retest is its conclusion, or the finding is still ready for one. -/
theorem conclusion_of_retest {retest : Retest} {status : RemediationStatus}
    (h : (resolveRetestState retest.state).1.getD .readyForRetest = status)
    (hconcluded : status = .verified ∨ status = .regressed) :
    ∃ r, some retest = some r ∧ (resolveRetestState r.state).1 = some status := by
  refine ⟨retest, rfl, ?_⟩
  cases hresolved : (resolveRetestState retest.state).1 with
  | some resolved =>
    rw [hresolved] at h
    exact congrArg some h
  | none =>
    rw [hresolved] at h
    subst h
    rcases hconcluded with h | h <;> cases h

theorem mem_transitions {status status' : RemediationStatus} (h : status' ∈ status.transitions) :
    status' ≠ .verified ∧ status' ≠ .regressed := by
  cases status <;> simp [RemediationStatus.transitions] at h <;> rcases h with rfl | rfl <;>
    exact ⟨nofun, nofun⟩

theorem create_agrees {engagementId findingId title remediation : String} {now : Now}
    {findings findings' : Findings} {answer : RemediationFinding} {log : Log}
    (h : Agrees findings log)
    (hchange : create engagementId findingId title remediation now findings =
      .ok (some findings', answer)) : Agrees findings' log := by
  simp only [create, bind_eq_ok, raiseIf_eq_ok, pure_eq_ok, Except.ok.injEq, Prod.mk.injEq,
    Option.some.injEq] at hchange
  obtain ⟨_, hnew, time, htime, _, -, findingText, hid, _, -, _, -, rfl, -⟩ := hchange
  have hnone : log findingId = none := h.absent findingId (Finmap.lookup_eq_none.mpr hnew)
  obtain rfl := timestamp_eq_ok htime
  refine h.insert (required_eq_ok hid) ⟨_, _, rfl, rfl⟩ ?_ fun _ _ => rfl
  rw [hnone]
  exact ⟨rfl, rfl, rfl, rfl, rfl, fun hstatus => by rcases hstatus with h | h <;> cases h⟩

theorem transition_agrees {findingId : String} {status : RemediationStatus} {now : Now}
    {findings findings' : Findings} {answer : RemediationFinding} {log : Log}
    (h : Agrees findings log)
    (hchange : transition findingId status now findings = .ok (some findings', answer)) :
    Agrees findings' log := by
  rw [transition, bind_eq_ok] at hchange
  obtain ⟨f, hf, hchange⟩ := hchange
  rw [getFinding, getOrRaise_eq_ok] at hf
  split at hchange
  · cases hchange
  · simp only [bind_eq_ok, require_eq_ok, pure_eq_ok, Except.ok.injEq, Prod.mk.injEq,
      Option.some.injEq] at hchange
    obtain ⟨_, hallowed, time, htime, rfl, -⟩ := hchange
    obtain rfl := timestamp_eq_ok htime
    obtain ⟨hid, ⟨created, -, hcreated, -⟩, hdescribes⟩ := h.present findingId f hf
    obtain ⟨hverified, hregressed⟩ := mem_transitions hallowed
    refine h.insert hid ⟨created, _, hcreated, rfl⟩ ?_ fun _ _ => rfl
    refine ⟨hdescribes.validationId, hdescribes.state, hdescribes.validationEvidenceId,
      hdescribes.cleanupEvidenceId, hdescribes.cleanupState, ?_⟩
    rintro (heq | heq)
    · exact absurd heq hverified
    · exact absurd heq hregressed

theorem recordRetest_agrees {findingId : String} {result : ControlledValidationResult} {now : Now}
    {findings findings' : Findings} {answer : RetestOutcome} {log : Log} (h : Agrees findings log)
    (hfresh : Fresh findings (.recordRetest findingId result now))
    (hchange : recordRetest findingId result now findings = .ok (some findings', answer)) :
    Agrees findings' (log.note (Operation.recordRetest findingId result now).retest) := by
  simp only [recordRetest, bind_eq_ok, raiseIf_eq_ok, require_eq_ok, pure_eq_ok, Except.ok.injEq,
    Prod.mk.injEq, Option.some.injEq, getFinding, getOrRaise_eq_ok] at hchange
  obtain ⟨f, hf, _, hready, _, -, time, htime, rfl, -⟩ := hchange
  obtain rfl := timestamp_eq_ok htime
  obtain ⟨hid, ⟨created, -, hcreated, -⟩, -⟩ := h.present findingId f hf
  obtain ⟨hevidence, hcleanup, hstate⟩ := hfresh f hf hready
  have hlast : (log.note (Operation.recordRetest findingId result now).retest) findingId =
      some ⟨result.validationId, result.state.value, none⟩ := if_pos rfl
  refine h.insert hid ⟨created, _, hcreated, rfl⟩ ?_ fun k hk => if_neg hk
  rw [hlast]
  refine ⟨rfl, rfl, hevidence, hcleanup, hstate, fun hconcluded => ?_⟩
  dsimp only at hconcluded ⊢
  rw [hready] at hconcluded ⊢
  exact conclusion_of_retest rfl hconcluded

theorem recordEvidenceRetest_agrees {findingId : String} {evidence : RetestEvidence} {now : Now}
    {findings findings' : Findings} {answer : RetestOutcome} {log : Log} (h : Agrees findings log)
    (hchange : recordEvidenceRetest findingId evidence now findings =
      .ok (some findings', answer)) :
    Agrees findings'
      (log.note (Operation.recordEvidenceRetest findingId evidence now).retest) := by
  simp only [recordEvidenceRetest, bind_eq_ok, raiseIf_eq_ok, require_eq_ok, pure_eq_ok,
    Except.ok.injEq, Prod.mk.injEq, Option.some.injEq, getFinding, getOrRaise_eq_ok] at hchange
  obtain ⟨f, hf, _, hready, _, -, _, -, _, -, _, -, _, -, _, -, _, -, time, htime, rfl, -⟩ :=
    hchange
  obtain rfl := timestamp_eq_ok htime
  obtain ⟨hid, ⟨created, -, hcreated, -⟩, -⟩ := h.present findingId f hf
  have hlast : (log.note (Operation.recordEvidenceRetest findingId evidence now).retest)
      findingId = some ⟨evidence.validationId, evidence.validationState,
        some (evidence.validationEvidenceId, evidence.cleanupEvidenceId,
          evidence.cleanupState)⟩ := if_pos rfl
  refine h.insert hid ⟨created, _, hcreated, rfl⟩ ?_ fun k hk => if_neg hk
  rw [hlast]
  refine ⟨rfl, rfl, rfl, rfl, rfl, fun hconcluded => ?_⟩
  dsimp only at hconcluded ⊢
  rw [hready] at hconcluded ⊢
  exact conclusion_of_retest rfl hconcluded

theorem answer_eq_ok {α : Type} {change : Change α} {f : α → Answer} {findings : Findings}
    {findings' : Option Findings} {answer : Answer}
    (h : change.answer f findings = .ok (findings', answer)) :
    ∃ a, change findings = .ok (findings', a) := by
  unfold Change.answer at h
  cases hc : change findings with
  | error e =>
    rw [hc] at h
    cases h
  | ok r =>
    rw [hc] at h
    obtain ⟨rfl, -⟩ := Prod.mk.inj (Except.ok.inj h)
    exact ⟨r.2, rfl⟩

/-- **An operation keeps the findings in agreement with the retests.** -/
theorem change_agrees {operation : Operation} {findings findings' : Findings} {answer : Answer}
    {log : Log} (h : Agrees findings log) (hfresh : Fresh findings operation)
    (hchange : operation.change findings = .ok (some findings', answer)) :
    Agrees findings' (log.note operation.retest) := by
  cases operation with
  | create engagementId findingId title remediation now =>
    obtain ⟨a, hchange⟩ := answer_eq_ok hchange
    exact create_agrees h hchange
  | transition findingId status now =>
    obtain ⟨a, hchange⟩ := answer_eq_ok hchange
    exact transition_agrees h hchange
  | recordRetest findingId result now =>
    obtain ⟨a, hchange⟩ := answer_eq_ok hchange
    exact recordRetest_agrees h hfresh hchange
  | recordEvidenceRetest findingId evidence now =>
    obtain ⟨a, hchange⟩ := answer_eq_ok hchange
    exact recordEvidenceRetest_agrees h hchange

/-! ## The file read back -/

theorem members_keys (f : RemediationFinding) : (f.members.map (·.1)).Nodup := by
  show ["engagement_id", "finding_id", "title", "remediation", "status", "created_at",
    "updated_at", "last_validation_id", "last_retest_state", "last_validation_evidence_id",
    "last_cleanup_evidence_id", "last_cleanup_state"].Nodup
  decide

theorem normal_ofOption (o : Option String) : Json.normal (.ofOption o) = .ofOption o := by
  cases o <;> rfl

theorem valid_ofOption (o : Option String) : Json.valid (.ofOption o) := by
  cases o <;> exact trivial

/-- Every member of the finding is a text or `null`. -/
def TextsOnly (f : RemediationFinding) : Prop := ∀ m ∈ f.members, ∃ o, m.2 = Json.ofOption o

theorem textsOnly_of_describes {f : RemediationFinding} {last : Option Retest} (ht : Timed f)
    (h : Describes f last) : TextsOnly f := by
  obtain ⟨created, updated, hcreated, hupdated⟩ := ht
  simp only [TextsOnly, RemediationFinding.members, List.forall_mem_cons, List.not_mem_nil,
    false_implies, implies_true, and_true, hcreated, hupdated, h.validationId, h.state,
    h.validationEvidenceId, h.cleanupEvidenceId, h.cleanupState]
  exact ⟨⟨some _, rfl⟩, ⟨some _, rfl⟩, ⟨some _, rfl⟩, ⟨some _, rfl⟩, ⟨some _, rfl⟩,
    ⟨some _, rfl⟩, ⟨some _, rfl⟩, ⟨_, rfl⟩, ⟨_, rfl⟩, ⟨_, rfl⟩, ⟨_, rfl⟩, ⟨_, rfl⟩⟩

theorem valid_toDict {f : RemediationFinding} (h : TextsOnly f) : Json.valid f.toDict := by
  refine ⟨members_keys f, Json.membersValid_iff.mpr fun m hm => ?_⟩
  obtain ⟨o, ho⟩ := h m hm
  rw [ho]
  exact valid_ofOption o

/-- **A finding that was written reads as it was.** -/
theorem fromDict_normal {f : RemediationFinding} (h : TextsOnly f) :
    fromDict (Json.normal f.toDict) = .ok f := by
  have hget : ∀ m ∈ f.members, f.toDict.get? m.1 = some m.2 →
      (Json.normal f.toDict).get? m.1 = some m.2 := by
    intro m hm hfound
    obtain ⟨o, ho⟩ := h m hm
    rw [RemediationFinding.toDict, Json.get?_normal (members_keys f),
      ← RemediationFinding.toDict, hfound, ho, Option.map_some, normal_ofOption]
  have hkeys : ∃ keys, keys? (Json.normal f.toDict) = some keys ∧ keys ⊆ fieldNames := by
    obtain ⟨sorted, hsorted, hperm⟩ := Json.keys_normal f.members
    refine ⟨_, congrArg keys? hsorted, ?_⟩
    rw [List.toFinset_eq_of_perm _ _ hperm]
    exact (by decide : ["engagement_id", "finding_id", "title", "remediation", "status",
      "created_at", "updated_at", "last_validation_id", "last_retest_state",
      "last_validation_evidence_id", "last_cleanup_evidence_id",
      "last_cleanup_state"].toFinset ⊆ fieldNames)
  obtain ⟨keys, hkeys, hnames⟩ := hkeys
  simp only [RemediationFinding.members, List.forall_mem_cons] at hget
  obtain ⟨hengagement, hfinding, htitle, hremediation, hstatus, hcreated, hupdated, hvalidation,
    hstate, hevidence, hcleanup, hcleanupState, -⟩ := hget
  simp only [fromDict, hkeys, getItem, argument, optional, hengagement rfl, hfinding rfl,
    htitle rfl, hremediation rfl, hstatus rfl, hcreated rfl, hupdated rfl, hvalidation rfl,
    hstate rfl, hevidence rfl, hcleanup rfl, hcleanupState rfl, getOrRaise_some, ok_bind,
    RemediationStatus.ofJson_value, require_of hnames, required_text, Option.getD_some]
  rfl

/-- **The file reads back as the findings it was written from.** -/
theorem load_fileText {findings : Findings}
    (h : ∀ id f, findings.lookup id = some f → f.findingId.1 = id ∧ TextsOnly f) :
    load (some (fileText findings)) = .ok findings := by
  have hkeys : ((documentMembers findings).map (·.1)).Nodup := by
    show ["schema_version", "findings"].Nodup
    decide
  have hvalid : Json.valid (.obj (documentMembers findings)) := by
    refine ⟨hkeys, trivial, ?_, trivial⟩
    rw [Json.valid, Json.elemsValid_iff]
    intro j hj
    obtain ⟨f, hf, rfl⟩ := List.mem_map.mp hj
    obtain ⟨id, hid⟩ := Dict.mem_sortedValues.mp hf
    exact valid_toDict (h id f hid).2
  have hget := Json.get?_normal hkeys
  have hset : keys? (Json.normal (.obj (documentMembers findings))) =
      some {"schema_version", "findings"} := by
    obtain ⟨sorted, hsorted, hperm⟩ := Json.keys_normal (documentMembers findings)
    rw [hsorted, keys?, List.toFinset_eq_of_perm _ _ hperm]
    exact congrArg some (by decide : ["schema_version", "findings"].toFinset = _)
  have hversion : ((Json.normal (.obj (documentMembers findings))).get? "schema_version").any
      equalsOne = true := by
    rw [hget]
    rfl
  have hitems : (Json.normal (.obj (documentMembers findings))).get? "findings" =
      some (.arr (findings.sortedValues.map fun f => Json.normal f.toDict)) := by
    rw [hget]
    show some (Json.normal (.arr (findings.sortedValues.map RemediationFinding.toDict))) = _
    rw [Json.normal, Json.elemsNormal_eq_map, List.map_map]
    rfl
  rw [load, fileText, Json.loads_dumps_line hvalid, getOrRaise_some, ok_bind, require_of hset,
    ok_bind, require_of hversion, ok_bind, getItem, hitems, getOrRaise_some, ok_bind, asTuple,
    ok_bind]
  exact Dict.readInto_sortedValues (fun id f hf => fromDict_normal (h id f hf).2)
    fun id f hf => (h id f hf).1

/-! ## Runs -/

/-- What is on file agrees with the retests on file. -/
def FileAgrees (file : Option String) (filed : Log) : Prop :=
  match file with
  | none => ∀ id, filed id = none
  | some text => ∃ findings, text = fileText findings ∧ Agrees findings filed

/-- Reading the file gives findings that agree with the retests on file. -/
theorem FileAgrees.load {file : Option String} {filed : Log} (h : FileAgrees file filed) :
    ∃ findings, load file = .ok findings ∧ Agrees findings filed := by
  cases file with
  | none => exact ⟨∅, rfl, agrees_empty h⟩
  | some text =>
    obtain ⟨findings, rfl, hagrees⟩ := h
    refine ⟨findings, load_fileText fun id f hf => ?_, hagrees⟩
    obtain ⟨hid, htimed, hdescribes⟩ := hagrees.present id f hf
    exact ⟨hid, textsOnly_of_describes htimed hdescribes⟩

/-- Memory and file both agree with the retests made. -/
structure Sound (t : Tracked) : Prop where
  memory : Agrees t.store.memory t.last
  file : FileAgrees t.store.file t.filed

theorem sound_start : Sound start := ⟨agrees_empty fun _ => rfl, fun _ => rfl⟩

/-- The condition on a call: a plain retest is made of a finding without evidence on record. -/
def FreshCall (t : Tracked) : Call → Prop
  | .operate operation _ => Fresh t.store.memory operation
  | .reopen => True

theorem step_operate (s : RemediationStore) (operation : Operation) (write : Py Unit) :
    step s (.operate operation write) =
      match operation.change s.memory, write with
      | .error e, _ => (s, .error e)
      | .ok (none, answer), _ => (s, .ok answer)
      | .ok (some findings, answer), .ok _ => (⟨findings, some (fileText findings)⟩, .ok answer)
      | .ok (some findings, _), .error e => (⟨findings, s.file⟩, .error e) := by
  simp only [step, body, operate, persist, FileBacked.persist, Proc.bind_apply, Proc.get_apply,
    Proc.ofExcept_apply]
  rcases operation.change s.memory with e | ⟨_ | findings, answer⟩
  · rfl
  · rfl
  · cases write <;> rfl

/-- **One call keeps memory and file in agreement with the retests.** -/
theorem track_sound {t : Tracked} (h : Sound t) {call : Call} (hfresh : FreshCall t call) :
    Sound (track t call).1 := by
  cases call with
  | operate operation write =>
    unfold track
    rw [step_operate, logs]
    cases hchange : operation.change t.store.memory with
    | error e => exact ⟨h.memory, h.file⟩
    | ok r =>
      obtain ⟨_ | findings, answer⟩ := r
      · exact ⟨h.memory, h.file⟩
      · have hagrees := change_agrees h.memory hfresh hchange
        cases write with
        | ok u => exact ⟨hagrees, findings, rfl, hagrees⟩
        | error e => exact ⟨hagrees, h.file⟩
  | reopen =>
    obtain ⟨findings, hload, hagrees⟩ := h.file.load
    have hstep : step t.store .reopen = (⟨findings, t.store.file⟩, .ok .opened) := by
      simp only [step, body, reopen, Proc.bind_apply, Proc.get_apply, Proc.ofExcept_apply, hload]
      rfl
    unfold track
    rw [hstep, logs, hload]
    exact ⟨hagrees, h.file⟩

/-- **The last fields describe one retest, the last one.**  Over every run from an empty store, with
any writes failing and the store opened again at any time: when every plain retest is made of a
finding that has no evidence on record, each finding in memory describes the last retest of it, and
a status `verified` or `regressed` is the conclusion of that retest. -/
theorem retest_run (calls : List Call) (h : Throughout track FreshCall start calls)
    (id : String) (f : RemediationFinding)
    (hf : (final track start calls).store.memory.lookup id = some f) :
    Describes f ((final track start calls).last id) :=
  ((invariant_of_throughout (I := Sound) (fun _ _ hfresh hsound => track_sound hsound hfresh)
    sound_start h).memory.present id f hf).2.2

/-- A finding that was made ready for a retest. -/
def readyCalls : List Call :=
  let now : Now := ⟨"2026-03-01T12:00:00+00:00", true⟩
  [.operate (.create "E-1" "F-1" "Open admin page" "Restrict access" now) (.ok ()),
    .operate (.transition "F-1" .inProgress now) (.ok ()),
    .operate (.transition "F-1" .readyForRetest now) (.ok ())]

/-- A plain retest of it. -/
def plainRetest : Call :=
  .operate (.recordRetest "F-1" ⟨"E-1", "V-2", .notConfirmed⟩
    ⟨"2026-03-02T12:00:00+00:00", true⟩) (.ok ())

/-- A retest of it whose evidence is on record, and which is inconclusive. -/
def evidenceRetest : Call :=
  .operate (.recordEvidenceRetest "F-1"
    ⟨"E-1", "V-1", "error", "EV-1", "CL-1", "completed"⟩
    ⟨"2026-03-01T18:00:00+00:00", true⟩) (.ok ())

theorem throughout_plainRetest :
    Throughout track FreshCall start (readyCalls ++ [plainRetest]) := by
  refine throughout_cons trivial (throughout_cons trivial (throughout_cons trivial
    (throughout_cons ?_ (throughout_nil _))))
  intro f hf _
  obtain rfl := Option.some.inj hf
  exact ⟨rfl, rfl, rfl⟩

theorem retest_run_plain : ∃ f,
    (final track start (readyCalls ++ [plainRetest])).store.memory.lookup "F-1" = some f ∧
      f.status = .verified ∧
      Describes f ((final track start (readyCalls ++ [plainRetest])).last "F-1") :=
  ⟨_, rfl, rfl, retest_run _ throughout_plainRetest "F-1" _ rfl⟩

/-- **Otherwise the fields mix two retests.**  A plain retest of a finding with evidence on record
keeps that evidence beside the new validation. -/
theorem stale_evidence {findings findings' : Findings} {findingId : String}
    {result : ControlledValidationResult} {now : Now} {answer : RetestOutcome} {log : Log}
    (hstale : ¬ Fresh findings (.recordRetest findingId result now))
    (hchange : recordRetest findingId result now findings = .ok (some findings', answer)) :
    ∃ f, findings'.lookup findingId = some f ∧
      ¬ Describes f (log.note (Operation.recordRetest findingId result now).retest findingId) := by
  simp only [recordRetest, bind_eq_ok, raiseIf_eq_ok, require_eq_ok, pure_eq_ok, Except.ok.injEq,
    Prod.mk.injEq, Option.some.injEq, getFinding, getOrRaise_eq_ok] at hchange
  obtain ⟨f, hf, _, hready, _, -, time, -, rfl, -⟩ := hchange
  refine ⟨_, Finmap.lookup_insert _, fun hdescribes => hstale ?_⟩
  intro g hg _
  obtain rfl : f = g := Option.some.inj (hf.symm.trans hg)
  have hlast : (log.note (Operation.recordRetest findingId result now).retest) findingId =
      some ⟨result.validationId, result.state.value, none⟩ := if_pos rfl
  rw [hlast] at hdescribes
  exact ⟨hdescribes.validationEvidenceId, hdescribes.cleanupEvidenceId, hdescribes.cleanupState⟩

/-- An inconclusive retest with evidence and a plain retest after it: the finding is verified by the
second, with the evidence and the cleanup of the first. -/
theorem mixed_retests : ¬ ∀ (calls : List Call) (id : String) (f : RemediationFinding),
    (final track start calls).store.memory.lookup id = some f →
      Describes f ((final track start calls).last id) := by
  intro h
  have hdescribes := h (readyCalls ++ [evidenceRetest, plainRetest]) "F-1" _ rfl
  have hevidence : Json.str "EV-1" = .null := hdescribes.validationEvidenceId
  cases hevidence

end NightRecon.RedEngine.RemediationRetest
