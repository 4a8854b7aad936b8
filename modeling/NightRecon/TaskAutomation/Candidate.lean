import NightRecon.TaskAutomation.Policy
import NightRecon.Lib.Keyed
import NightRecon.Lib.Records

/-!
# Candidates

`tools/task_automation/controller.py` `_snapshot` and `inspect_candidate`: two complete inventories
are compared, and what the task or its policy does not allow is listed.

* `FileMap` — an inventory; `snapshot`, `Snapshotted` — what it has to satisfy, `snapshot_eq_ok`;
* `inspectCandidate` — the comparison; `inspectCandidate_eq_ok` gives its result without the loop;
* `differing` — the paths at which two inventories differ, and `scopeValid_iff`: **a candidate is
  valid exactly when each of them is in scope and the limits hold**;
* `scope_containment` — the scope of a task and of the candidates it is valid for.
-/

namespace NightRecon.TaskAutomation

open NightRecon.Lib
open NightRecon.Lib.Checks
open NightRecon.Lib.Collect (forM_eq_ok)
open NightRecon.Lib.Text

/-! ## Inventories -/

/-- Source: `controller.py` `FileEntry`. -/
structure FileEntry where
  mode : String
  content : List UInt8
  deriving DecidableEq

/-- A mapping from paths to entries. -/
structure FileMap where
  entries : List (String × FileEntry)
  distinct : (entries.map (·.1)).Nodup

def FileMap.paths (files : FileMap) : List String := files.entries.map (·.1)

def FileMap.get (files : FileMap) (path : String) : Option FileEntry :=
  (files.entries.find? fun item => item.1 = path).map (·.2)

theorem FileMap.get_eq_some {files : FileMap} {path : String} {entry : FileEntry} :
    files.get path = some entry ↔ (path, entry) ∈ files.entries := by
  rw [FileMap.get, Option.map_eq_some_iff]
  constructor
  · rintro ⟨item, hfind, rfl⟩
    obtain ⟨hmem, rfl⟩ := (Keyed.find?_eq_some_iff files.distinct).mp hfind
    exact hmem
  · intro hmem
    exact ⟨(path, entry), (Keyed.find?_eq_some_iff files.distinct).mpr ⟨hmem, rfl⟩, rfl⟩

theorem FileMap.get_eq_none {files : FileMap} {path : String} :
    files.get path = none ↔ path ∉ files.paths := by
  rw [FileMap.get, Option.map_eq_none_iff, List.find?_eq_none, FileMap.paths, List.mem_map]
  constructor
  · rintro h ⟨item, hitem, rfl⟩
    exact h item hitem (decide_eq_true rfl)
  · intro h item hitem heq
    exact h ⟨item, hitem, of_decide_eq_true heq⟩

/-- The modes Git knows. -/
def fileModes : List String := ["100644", "100755", "120000", "160000"]

/-- What is hashed of an entry: its path, its mode and the digest of its content. -/
def fileRecord (item : String × FileEntry) : String × String × String :=
  (item.1, item.2.mode, digest item.2.content)

/-- The proper ancestors of a path. -/
def ancestors (path : String) : List String :=
  let parts := path.toList.splitOn '/'
  (List.range' 1 (parts.length - 1)).map fun i =>
    String.ofList (List.intercalate ['/'] (parts.take i))

/-- What the loop of `snapshot` has collected. -/
structure Scan where
  seen : List String
  total : Nat
  records : List (String × String × String)

section Snapshots

variable (casefold : String → String)

/-- One turn of the loop. -/
def scanEntry (scan : Scan) (item : String × FileEntry) : Py Scan := do
  require (casefold item.1 ∉ scan.seen) (rejected "case-colliding snapshot paths")
  require (item.2.mode ∈ fileModes) (rejected "unsupported Git file mode")
  require (scan.total + item.2.content.length ≤ 67108864) (rejected "snapshot byte limit")
  return { seen := scan.seen ++ [casefold item.1]
           total := scan.total + item.2.content.length
           records := scan.records ++ [fileRecord item] }

/-- Source: `controller.py` `_snapshot`. -/
def snapshot (files : FileMap) : Py (List (String × String × String)) := do
  require (files.entries.length ≤ 20000) (rejected "snapshot entry limit")
  files.paths.forM (checkPath casefold false)
  let scan ← (sortedBy (·.1) files.entries).foldlM (scanEntry casefold) ⟨[], 0, []⟩
  require (∀ path ∈ scan.seen, ∀ ancestor ∈ ancestors path, ancestor ∉ scan.seen)
    (rejected "file/symlink ancestor in snapshot")
  return scan.records

/-- An inventory of portable paths, none of which is another's ancestor. -/
structure Snapshotted (files : FileMap) : Prop where
  count : files.entries.length ≤ 20000
  path : ∀ item ∈ files.entries, IsPath casefold false item.1
  folded : (files.entries.map fun item => casefold item.1).Nodup
  mode : ∀ item ∈ files.entries, item.2.mode ∈ fileModes
  bytes : (files.entries.map fun item => item.2.content.length).sum ≤ 67108864
  ancestor : ∀ item ∈ files.entries, ∀ ancestor ∈ ancestors (casefold item.1),
    ∀ other ∈ files.entries, casefold other.1 ≠ ancestor

/-- The records of an inventory. -/
def fileRecords (files : FileMap) : List (String × String × String) :=
  (sortedBy (·.1) files.entries).map fileRecord

end Snapshots

variable {casefold : String → String}

theorem scanEntry_eq_ok {scan scan' : Scan} {item : String × FileEntry} :
    scanEntry casefold scan item = .ok scan' ↔ casefold item.1 ∉ scan.seen ∧
      item.2.mode ∈ fileModes ∧ scan.total + item.2.content.length ≤ 67108864 ∧
        ⟨scan.seen ++ [casefold item.1], scan.total + item.2.content.length,
          scan.records ++ [fileRecord item]⟩ = scan' := by
  rw [scanEntry, require_bind_eq_ok, require_bind_eq_ok, require_bind_eq_ok, pure_eq_ok,
    Except.ok.injEq]

/-- The loop goes through the entries without a collision. -/
theorem scan_eq_ok {l : List (String × FileEntry)} {scan scan' : Scan}
    (htotal : scan.total ≤ 67108864) :
    l.foldlM (scanEntry casefold) scan = .ok scan' ↔
      (l.map fun item => casefold item.1).Nodup ∧ (∀ item ∈ l, casefold item.1 ∉ scan.seen) ∧
        (∀ item ∈ l, item.2.mode ∈ fileModes) ∧
          scan.total + (l.map fun item => item.2.content.length).sum ≤ 67108864 ∧
            scan' = ⟨scan.seen ++ l.map fun item => casefold item.1,
              scan.total + (l.map fun item => item.2.content.length).sum,
              scan.records ++ l.map fileRecord⟩ := by
  induction l generalizing scan with
  | nil =>
    rw [List.foldlM_nil, pure_eq_ok, Except.ok.injEq]
    simp [htotal, eq_comm]
  | cons item l ih =>
    rw [List.foldlM_cons, bind_eq_ok]
    simp only [List.map_cons, List.nodup_cons, List.forall_mem_cons, List.sum_cons, List.mem_map,
      not_exists, not_and]
    constructor
    · rintro ⟨scan₁, hturn, hrest⟩
      obtain ⟨hnew, hmode, hbytes, rfl⟩ := scanEntry_eq_ok.mp hturn
      obtain ⟨hnodup, hseen, hmodes, hsum, rfl⟩ := (ih hbytes).mp hrest
      simp only [List.mem_append, List.mem_singleton, not_or] at hseen
      refine ⟨⟨fun other hother => (hseen other hother).2, hnodup⟩,
        ⟨hnew, fun other hother => (hseen other hother).1⟩, ⟨hmode, hmodes⟩, by dsimp only at hsum; omega, ?_⟩
      simp [Nat.add_assoc]
    · rintro ⟨⟨hdistinct, hnodup⟩, ⟨hnew, hseen⟩, ⟨hmode, hmodes⟩, hsum, rfl⟩
      have hbytes : scan.total + item.2.content.length ≤ 67108864 := by omega
      refine ⟨_, scanEntry_eq_ok.mpr ⟨hnew, hmode, hbytes, rfl⟩, (ih hbytes).mpr ?_⟩
      refine ⟨hnodup, fun other hother => ?_, hmodes, by dsimp only at hsum ⊢; omega, ?_⟩
      · simp only [List.mem_append, List.mem_singleton, not_or]
        exact ⟨hseen other hother, hdistinct other hother⟩
      · simp [Nat.add_assoc]

/-- **What a snapshot checks, and what it returns.** -/
theorem snapshot_eq_ok {files : FileMap} {records : List (String × String × String)} :
    snapshot casefold files = .ok records ↔
      Snapshotted casefold files ∧ records = fileRecords files := by
  have hperm : (sortedBy (·.1) files.entries).Perm files.entries := sortedBy_perm _ _
  have hfolded := hperm.map fun item => casefold item.1
  have hbytes := hperm.map fun item => item.2.content.length
  have hpath : (∀ path ∈ files.paths, checkPath casefold false path = .ok ()) ↔
      ∀ item ∈ files.entries, IsPath casefold false item.1 := by
    simp only [checkPath_eq_ok, FileMap.paths, List.forall_mem_map]
  rw [snapshot, require_bind_eq_ok, unit_bind_eq_ok, forM_eq_ok, hpath, bind_eq_ok]
  constructor
  · rintro ⟨hcount, hpaths, scan, hscan, hrest⟩
    obtain ⟨hancestor, hrecords⟩ := require_bind_eq_ok.mp hrest
    obtain ⟨hnodup, -, hmodes, hsum, rfl⟩ := (scan_eq_ok (Nat.zero_le _)).mp hscan
    obtain rfl := Except.ok.inj hrecords
    simp only [List.nil_append, Nat.zero_add] at hancestor hsum ⊢
    refine ⟨?_, rfl⟩
    exact {
      count := hcount
      path := hpaths
      folded := hfolded.nodup_iff.mp hnodup
      mode := fun item hitem => hmodes item (hperm.mem_iff.mpr hitem)
      bytes := hbytes.sum_eq ▸ hsum
      ancestor := fun item hitem ancestor hancestor' other hother heq =>
        hancestor _ (hfolded.mem_iff.mpr (List.mem_map_of_mem hitem)) ancestor hancestor'
          (heq ▸ hfolded.mem_iff.mpr (List.mem_map_of_mem hother)) }
  · rintro ⟨h, rfl⟩
    refine ⟨h.count, h.path, _, (scan_eq_ok (Nat.zero_le _)).mpr
      ⟨hfolded.nodup_iff.mpr h.folded, fun _ _ => List.not_mem_nil,
        fun item hitem => h.mode item (hperm.mem_iff.mp hitem), ?_, rfl⟩, ?_⟩
    · rw [Nat.zero_add, hbytes.sum_eq]
      exact h.bytes
    · refine require_bind_eq_ok.mpr ⟨?_, rfl⟩
      intro path hmem ancestor hancestor hseen
      rw [List.nil_append, hfolded.mem_iff, List.mem_map] at hmem hseen
      obtain ⟨item, hitem, rfl⟩ := hmem
      obtain ⟨other, hother, rfl⟩ := hseen
      exact h.ancestor item hitem _ hancestor other hother rfl

/-! ## Comparing two inventories -/

inductive Operation where
  | add
  | delete
  | modify
  deriving DecidableEq

def Operation.value : Operation → String
  | .add => "add"
  | .delete => "delete"
  | .modify => "modify"

/-- Source: `controller.py` `Change`. -/
structure Change where
  path : String
  operation : Operation
  oldMode : Option String
  newMode : Option String

/-- Source: `controller.py` `Candidate`. -/
structure Candidate where
  taskId : String
  branch : String
  baseSha : String
  policyDigest : String
  digest : String
  changes : List Change
  violations : List String

/-- Source: `controller.py` `Candidate.scope_valid`. -/
def Candidate.scopeValid (candidate : Candidate) : Bool := candidate.violations.isEmpty

theorem Candidate.scopeValid_eq {candidate : Candidate} :
    candidate.scopeValid = true ↔ candidate.violations = [] := List.isEmpty_iff

/-- A violation, when there is one. -/
def flag (c : Prop) [Decidable c] (violation : String) : List String :=
  if c then [violation] else []

@[simp] theorem flag_eq_nil {c : Prop} [Decidable c] {violation : String} :
    flag c violation = [] ↔ ¬ c := by
  by_cases hc : c
  · simp [flag, hc]
  · simp [flag, hc]

section Comparing

variable (casefold : String → String) (task : Task) (policy : Policy) (base candidate : FileMap)

def operationAt (path : String) : Operation :=
  if base.get path = none then .add else if candidate.get path = none then .delete else .modify

/-- The entries at a path, before and after. -/
def entriesAt (path : String) : List FileEntry :=
  (base.get path).toList ++ (candidate.get path).toList

def changeAt (path : String) : Change :=
  { path := path
    operation := operationAt base candidate path
    oldMode := (base.get path).map (·.mode)
    newMode := (candidate.get path).map (·.mode) }

def bytesAt (path : String) : Nat :=
  ((entriesAt base candidate path).map fun entry => entry.content.length).sum

/-- What is wrong with a change. -/
def violationsAt (path : String) : List String :=
  flag ((operationAt base candidate path).value ∉ task.permittedOperations)
      ("operation_not_permitted:" ++ path) ++
    flag (¬ inScopes casefold policy.permittedPaths path) ("outside_policy:" ++ path) ++
    flag (¬ inScopes casefold task.permittedPaths path) ("outside_task:" ++ path) ++
    flag (inScopes casefold policy.protectedPaths path) ("protected_path:" ++ path) ++
    flag (∃ entry ∈ entriesAt base candidate path, entry.mode ∉ policy.allowedModes)
      ("unsafe_mode:" ++ path) ++
    flag (∃ old ∈ (base.get path).toList, ∃ new ∈ (candidate.get path).toList, old.mode ≠ new.mode)
      ("mode_change:" ++ path)

/-- What the loop of `inspect_candidate` has found. -/
structure Findings where
  changes : List Change
  violations : List String
  changedBytes : Nat

/-- One turn of the loop. -/
def inspectPath (findings : Findings) (path : String) : Findings :=
  if base.get path = candidate.get path then findings
  else
    { changes := findings.changes ++ [changeAt base candidate path]
      violations := findings.violations ++ violationsAt casefold task policy base candidate path
      changedBytes := findings.changedBytes + bytesAt base candidate path }

/-- The paths of either inventory, in order. -/
def allPaths : List String := sortedStr (base.paths ++ candidate.paths).dedup

/-- A list of records as it is hashed. -/
def recordsJson (records : List (String × String × String)) : Json :=
  .arr (records.map fun r => .arr [.str r.1, .str r.2.1, .str r.2.2])

/-- What the digest of a candidate binds. -/
def binding (before after : List (String × String × String)) : Json :=
  .obj [("task_id", .str task.taskId), ("base_sha", .str task.baseSha),
    ("policy", .str policy.digest), ("before", recordsJson before), ("after", recordsJson after)]

/-- Source: `controller.py` `inspect_candidate`. -/
def inspectCandidate : Py Candidate := do
  require (task.policyDigest = policy.digest) (rejected "candidate policy mismatch")
  let before ← snapshot casefold base
  let after ← snapshot casefold candidate
  let findings := (allPaths base candidate).foldl
    (inspectPath casefold task policy base candidate) ⟨[], [], 0⟩
  let violations := findings.violations ++
    flag (findings.changes = []) "empty_candidate" ++
    flag (policy.maxChangedFiles < findings.changes.length) "changed_file_limit" ++
    flag (policy.maxChangedBytes < findings.changedBytes) "changed_byte_limit"
  return { taskId := task.taskId
           branch := task.branch
           baseSha := task.baseSha
           policyDigest := policy.digest
           digest := digest (canonical (binding task policy before after))
           changes := findings.changes
           violations := violations }

/-! ## The result without the loop -/

/-- The paths at which two inventories differ, in order. -/
def changedPaths : List String :=
  (allPaths base candidate).filter fun path => base.get path ≠ candidate.get path

/-- The violations of a candidate as a whole. -/
def limitViolations : List String :=
  flag (changedPaths base candidate = []) "empty_candidate" ++
    flag (policy.maxChangedFiles < (changedPaths base candidate).length) "changed_file_limit" ++
    flag (policy.maxChangedBytes < ((changedPaths base candidate).map
      (bytesAt base candidate)).sum) "changed_byte_limit"

/-- The candidate two inventories give. -/
def comparison : Candidate :=
  { taskId := task.taskId
    branch := task.branch
    baseSha := task.baseSha
    policyDigest := policy.digest
    digest := digest (canonical (binding task policy (fileRecords base) (fileRecords candidate)))
    changes := (changedPaths base candidate).map (changeAt base candidate)
    violations := (changedPaths base candidate).flatMap
      (violationsAt casefold task policy base candidate) ++ limitViolations policy base candidate }

end Comparing

variable {task : Task} {policy : Policy} {base candidate : FileMap} {result : Candidate}

/-- The loop over a list of paths. -/
theorem foldl_inspectPath (l : List String) (findings : Findings) :
    l.foldl (inspectPath casefold task policy base candidate) findings =
      let changed := l.filter fun path => base.get path ≠ candidate.get path
      { changes := findings.changes ++ changed.map (changeAt base candidate)
        violations := findings.violations ++
          changed.flatMap (violationsAt casefold task policy base candidate)
        changedBytes := findings.changedBytes + (changed.map (bytesAt base candidate)).sum } := by
  induction l generalizing findings with
  | nil => simp
  | cons path l ih =>
    rw [List.foldl_cons, ih, inspectPath]
    by_cases hsame : base.get path = candidate.get path
    · rw [if_pos hsame, List.filter_cons_of_neg (by simp [hsame])]
    · rw [if_neg hsame, List.filter_cons_of_pos (by simp [hsame])]
      simp [Nat.add_assoc]

/-- **The comparison a successful inspection returns.** -/
theorem inspectCandidate_eq_ok :
    inspectCandidate casefold task policy base candidate = .ok result ↔
      task.policyDigest = policy.digest ∧ Snapshotted casefold base ∧
        Snapshotted casefold candidate ∧
          result = comparison casefold task policy base candidate := by
  rw [inspectCandidate, require_bind_eq_ok, bind_eq_ok]
  refine and_congr_right fun _ => ?_
  simp only [bind_eq_ok, snapshot_eq_ok, foldl_inspectPath]
  constructor
  · rintro ⟨_, ⟨hbase, rfl⟩, _, ⟨hcandidate, rfl⟩, hresult⟩
    refine ⟨hbase, hcandidate, (Except.ok.inj hresult).symm.trans ?_⟩
    simp [comparison, limitViolations, changedPaths]
  · rintro ⟨hbase, hcandidate, rfl⟩
    refine ⟨_, ⟨hbase, rfl⟩, _, ⟨hcandidate, rfl⟩, congrArg Except.ok ?_⟩
    simp [comparison, limitViolations, changedPaths]

/-! ## What a valid candidate changes -/

/-- The paths at which two inventories differ. -/
def differing (base candidate : FileMap) : Finset String := (changedPaths base candidate).toFinset

theorem changedPaths_nodup (base candidate : FileMap) : (changedPaths base candidate).Nodup :=
  (sortedStr_nodup.mpr (List.nodup_dedup _)).filter _

theorem mem_changedPaths {path : String} :
    path ∈ changedPaths base candidate ↔ base.get path ≠ candidate.get path := by
  rw [changedPaths, List.mem_filter, decide_eq_true_iff, allPaths, mem_sortedStr, List.mem_dedup,
    List.mem_append]
  refine ⟨And.right, fun hne => ⟨?_, hne⟩⟩
  by_contra hnone
  rw [not_or] at hnone
  exact hne ((FileMap.get_eq_none.mpr hnone.1).trans (FileMap.get_eq_none.mpr hnone.2).symm)

theorem mem_differing {path : String} :
    path ∈ differing base candidate ↔ base.get path ≠ candidate.get path := by
  rw [differing, List.mem_toFinset, mem_changedPaths]

theorem card_differing : (differing base candidate).card = (changedPaths base candidate).length :=
  List.toFinset_card_of_nodup (changedPaths_nodup base candidate)

theorem sum_differing (f : String → Nat) :
    ∑ path ∈ differing base candidate, f path = ((changedPaths base candidate).map f).sum :=
  List.sum_toFinset f (changedPaths_nodup base candidate)

/-- A change that the task and its policy allow. -/
structure InScope (casefold : String → String) (task : Task) (policy : Policy)
    (base candidate : FileMap) (path : String) : Prop where
  operation : (operationAt base candidate path).value ∈ task.permittedOperations
  policyScope : inScopes casefold policy.permittedPaths path
  taskScope : inScopes casefold task.permittedPaths path
  unprotected : ¬ inScopes casefold policy.protectedPaths path
  modes : ∀ entry ∈ entriesAt base candidate path, entry.mode ∈ policy.allowedModes
  modeKept : ∀ old ∈ base.get path, ∀ new ∈ candidate.get path, old.mode = new.mode

theorem violationsAt_eq_nil {path : String} :
    violationsAt casefold task policy base candidate path = [] ↔
      InScope casefold task policy base candidate path := by
  simp only [violationsAt, List.append_eq_nil_iff, flag_eq_nil, not_not, not_exists, not_and,
    Option.mem_toList]
  constructor
  · rintro ⟨⟨⟨⟨⟨hoperation, hpolicy⟩, htask⟩, hprotected⟩, hmodes⟩, hkept⟩
    exact ⟨hoperation, hpolicy, htask, hprotected, hmodes, hkept⟩
  · rintro ⟨hoperation, hpolicy, htask, hprotected, hmodes, hkept⟩
    exact ⟨⟨⟨⟨⟨hoperation, hpolicy⟩, htask⟩, hprotected⟩, hmodes⟩, hkept⟩

/-- The limits on a candidate as a whole. -/
structure WithinLimits (policy : Policy) (base candidate : FileMap) : Prop where
  nonempty : (differing base candidate).Nonempty
  files : (differing base candidate).card ≤ policy.maxChangedFiles
  bytes : ∑ path ∈ differing base candidate, bytesAt base candidate path ≤ policy.maxChangedBytes

theorem limitViolations_eq_nil :
    limitViolations policy base candidate = [] ↔ WithinLimits policy base candidate := by
  simp only [limitViolations, List.append_eq_nil_iff, flag_eq_nil, not_lt, ← card_differing,
    ← sum_differing]
  have hne : ¬ changedPaths base candidate = [] ↔ (differing base candidate).Nonempty := by
    rw [differing, List.toFinset_nonempty_iff]
  rw [hne]
  constructor
  · rintro ⟨⟨hnonempty, hfiles⟩, hbytes⟩
    exact ⟨hnonempty, hfiles, hbytes⟩
  · rintro ⟨hnonempty, hfiles, hbytes⟩
    exact ⟨⟨hnonempty, hfiles⟩, hbytes⟩

/-- **A candidate is valid exactly when each change is in scope and the limits hold.** -/
theorem scopeValid_iff (h : inspectCandidate casefold task policy base candidate = .ok result) :
    result.scopeValid = true ↔
      (∀ path, base.get path ≠ candidate.get path →
        InScope casefold task policy base candidate path) ∧ WithinLimits policy base candidate := by
  obtain ⟨-, -, -, rfl⟩ := inspectCandidate_eq_ok.mp h
  rw [Candidate.scopeValid_eq, comparison, List.append_eq_nil_iff, limitViolations_eq_nil,
    List.flatMap_eq_nil_iff]
  simp only [mem_changedPaths, violationsAt_eq_nil]

/-! ## Containment -/

/-- **A task asks only for what its policy permits and does not protect, and a valid candidate
changes only what the task asks for.** -/
theorem scope_containment (casefold : String → String) (policy : Policy) :
    (∀ raw task, parseTask casefold raw policy = .ok task →
      ∀ path, inScopes casefold task.permittedPaths path →
        inScopes casefold policy.permittedPaths path ∧
          ¬ inScopes casefold policy.protectedPaths path) ∧
      ∀ task base candidate result,
        inspectCandidate casefold task policy base candidate = .ok result →
          result.scopeValid = true →
            (∀ path, base.get path ≠ candidate.get path →
              InScope casefold task policy base candidate path) ∧
              WithinLimits policy base candidate := by
  constructor
  · intro raw task hparse path hpath
    have hgranted := granted_of_parseTask hparse
    exact ⟨permitted_of_task_scope hgranted hpath, unprotected_of_task_scope hgranted hpath⟩
  · intro task base candidate result hinspect hvalid
    exact (scopeValid_iff hinspect).mp hvalid

/-! ### A change to the documentation -/

/-- A policy that permits the documentation. -/
def docsPolicy : Policy :=
  { digest := "0".pushn '0' 63
    baseSha := "0".pushn 'a' 39
    branchPrefix := "codex/task-"
    allowedSubmitters := ["maintainer"]
    allowedRoles := ["maintain"]
    permittedPaths := ["docs/"]
    protectedPaths := mandatoryProtection
    permittedOperations := ["add", "modify", "delete"]
    allowedModes := ["100644"]
    maxTaskBytes := 16384
    maxChangedFiles := 10
    maxChangedBytes := 1048576
    maxRepairAttempts := 2
    maxRuntimeMinutes := 60
    requiredChecks := requiredChecks
    allowedSkipIds := [] }

/-- The members of a task that asks for one directory of it. -/
def docsMembers : List (String × Json) :=
  [("schema_version", .int 1), ("issue_number", .int 7), ("revision", .int 1),
    ("base_sha", .str docsPolicy.baseSha), ("objective", .str "Revise the guide."),
    ("acceptance_criteria", .strings ["The guide is revised."]),
    ("permitted_paths", .strings ["docs/guide/"]),
    ("permitted_operations", .strings ["add", "modify", "delete"])]

theorem plain_docsMembers : (Json.obj docsMembers).plain := by
  refine ⟨by decide, ?_⟩
  simp [docsMembers, Json.strings, Json.membersPlain, Json.elemsPlain, Json.plain]

/-- The task it gives. -/
def docsTask : Task :=
  { issueNumber := 7
    revision := 1
    baseSha := docsPolicy.baseSha
    objective := "Revise the guide."
    acceptanceCriteria := ["The guide is revised."]
    permittedPaths := ["docs/guide/"]
    permittedOperations := ["add", "modify", "delete"]
    digest := digest (canonical (Json.obj docsMembers).normal)
    policyDigest := docsPolicy.digest
    issue_range := by decide
    revision_range := by decide
    digest_hex := isHex_digest _ }

theorem parseTask_docsMembers :
    parseTask asciiLower (canonical (.obj docsMembers)) docsPolicy = .ok docsTask := by
  have hdistinct : (docsMembers.map (·.1)).Nodup := by decide
  have hkeys : keys taskFields (Json.obj docsMembers).normal = .ok (Json.obj docsMembers).normal :=
    keys_normal (by decide) (by decide)
  rw [parseTask, json_canonical plain_docsMembers (by decide +kernel), ok_bind, hkeys, ok_bind]
  simp only [field_normal hdistinct]
  refine require_bind_eq_ok.mpr ⟨rfl, ?_⟩
  refine bind_eq_ok.mpr ⟨⟨7, by decide⟩, integer_eq_ok.mpr rfl, ?_⟩
  refine bind_eq_ok.mpr ⟨⟨1, by decide⟩, integer_eq_ok.mpr rfl, ?_⟩
  refine bind_eq_ok.mpr ⟨docsPolicy.baseSha, sha_eq_ok.mpr ⟨rfl, by decide +kernel⟩, ?_⟩
  refine require_bind_eq_ok.mpr ⟨rfl, ?_⟩
  refine bind_eq_ok.mpr ⟨docsTask.objective, text_eq_ok.mpr ⟨rfl, by decide +kernel⟩, ?_⟩
  refine bind_eq_ok.mpr ⟨docsTask.acceptanceCriteria, strings_eq_ok.mpr ?_, ?_⟩
  · exact ⟨Json.normal_strings _, by decide, by decide +kernel, by decide⟩
  refine bind_eq_ok.mpr ⟨docsTask.permittedPaths, strings_eq_ok.mpr ?_, ?_⟩
  · exact ⟨Json.normal_strings _, by decide, by decide +kernel, by decide⟩
  refine bind_eq_ok.mpr ⟨docsTask.permittedOperations, strings_eq_ok.mpr ?_, ?_⟩
  · exact ⟨Json.normal_strings _, by decide, by decide +kernel, by decide⟩
  refine require_bind_eq_ok.mpr ⟨by decide, ?_⟩
  refine unit_bind_eq_ok.mpr ⟨forM_eq_ok.mpr ?_, rfl⟩
  intro path hpath
  obtain rfl := List.mem_singleton.mp hpath
  exact taskPath_eq_ok.mpr ⟨by decide +kernel, by decide +kernel, by decide +kernel⟩

/-- An inventory with one page of the guide. -/
def guide (content : List UInt8) : FileMap :=
  ⟨[("docs/guide/page.md", ⟨"100644", content⟩)], List.nodup_singleton _⟩

theorem snapshotted_guide {content : List UInt8} (h : content.length ≤ 67108864) :
    Snapshotted asciiLower (guide content) where
  count := Nat.le_of_ble_eq_true rfl
  path item hitem := by
    obtain rfl := List.mem_singleton.mp hitem
    have hpath : IsPath asciiLower false "docs/guide/page.md" := by decide +kernel
    exact hpath
  folded := List.nodup_singleton _
  mode item hitem := by
    obtain rfl := List.mem_singleton.mp hitem
    exact List.mem_cons_self
  bytes := h
  ancestor item hitem ancestor hancestor other hother := by
    obtain rfl := List.mem_singleton.mp hitem
    obtain rfl := List.mem_singleton.mp hother
    have hnone : ∀ ancestor ∈ ancestors (asciiLower "docs/guide/page.md"),
        asciiLower "docs/guide/page.md" ≠ ancestor := by decide +kernel
    exact hnone ancestor hancestor

theorem inspectCandidate_guide :
    inspectCandidate asciiLower docsTask docsPolicy (guide [65]) (guide [66]) =
      .ok (comparison asciiLower docsTask docsPolicy (guide [65]) (guide [66])) :=
  inspectCandidate_eq_ok.mpr ⟨rfl, snapshotted_guide (by decide), snapshotted_guide (by decide), rfl⟩

theorem scopeValid_guide :
    (comparison asciiLower docsTask docsPolicy (guide [65]) (guide [66])).scopeValid = true := by
  decide +kernel

theorem scope_containment_guide :
    (inScopes asciiLower docsPolicy.permittedPaths "docs/guide/page.md" ∧
      ¬ inScopes asciiLower docsPolicy.protectedPaths "docs/guide/page.md") ∧
        WithinLimits docsPolicy (guide [65]) (guide [66]) :=
  ⟨(scope_containment asciiLower docsPolicy).1 _ _ parseTask_docsMembers "docs/guide/page.md"
      (by decide +kernel),
    ((scope_containment asciiLower docsPolicy).2 _ _ _ _ inspectCandidate_guide
      scopeValid_guide).2⟩

end NightRecon.TaskAutomation
