import NightRecon.TaskAutomation.Run

/-!
# Completed runs and the digests of their candidates

* `comparison_congr` — what is found depends only on the entries at each path;
* `comparison_eq_of_digest_eq` — **without a collision of the digest, equal digests are those of one
  comparison**;
* `run_safety` — what a completed run has passed, and that its checks are of its candidate.
-/

namespace NightRecon.TaskAutomation

open NightRecon.Lib
open NightRecon.Lib.Checks
open NightRecon.Lib.Commitment (NoCollision eq_of_map_eq)
open NightRecon.Lib.Text

variable {casefold : String → String} {task : Task} {policy policy' : Policy}
  {base candidate base' candidate' : FileMap}

/-! ## What a comparison depends on -/

theorem changedPaths_strict (base candidate : FileMap) :
    (changedPaths base candidate).Pairwise fun path path' => id path < id path' := by
  have hnodup : ((base.paths ++ candidate.paths).dedup.map id).Nodup := by
    rw [List.map_id]
    exact List.nodup_dedup _
  exact (Records.insertionSort_strict hnodup).filter _

/-- The paths that changed are determined by the entries. -/
theorem changedPaths_congr (hbase : base.get = base'.get)
    (hcandidate : candidate.get = candidate'.get) :
    changedPaths base candidate = changedPaths base' candidate' := by
  refine Records.eq_of_strict (changedPaths_strict _ _) (changedPaths_strict _ _) ?_
  intro path
  rw [mem_changedPaths, mem_changedPaths, hbase, hcandidate]

/-- **Inventories with the same entries are compared alike.** -/
theorem comparison_congr (hbase : base.get = base'.get)
    (hcandidate : candidate.get = candidate'.get) :
    (comparison casefold task policy base candidate).changes =
        (comparison casefold task policy base' candidate').changes ∧
      (comparison casefold task policy base candidate).violations =
        (comparison casefold task policy base' candidate').violations := by
  have hpaths := changedPaths_congr hbase hcandidate
  have hoperation : operationAt base candidate = operationAt base' candidate' := by
    funext path
    rw [operationAt, operationAt, hbase, hcandidate]
  have hentries : entriesAt base candidate = entriesAt base' candidate' := by
    funext path
    rw [entriesAt, entriesAt, hbase, hcandidate]
  have hchange : changeAt base candidate = changeAt base' candidate' := by
    funext path
    rw [changeAt, changeAt, hoperation, hbase, hcandidate]
  have hbytes : bytesAt base candidate = bytesAt base' candidate' := by
    funext path
    rw [bytesAt, bytesAt, hentries]
  have hviolations : violationsAt casefold task policy base candidate =
      violationsAt casefold task policy base' candidate' := by
    funext path
    simp only [violationsAt, hoperation, hentries, hbase, hcandidate]
  constructor
  · rw [comparison, comparison, hpaths, hchange]
  · simp only [comparison, limitViolations, hpaths, hbytes, hviolations]

/-! ## What a digest binds -/

/-- The contents of an inventory. -/
def FileMap.contents (files : FileMap) : List (List UInt8) :=
  files.entries.map fun item => item.2.content

/-- The bytes whose digest is a candidate's. -/
def bindingBytes (task : Task) (policy : Policy) (base candidate : FileMap) : List UInt8 :=
  canonical (binding task policy (fileRecords base) (fileRecords candidate))

theorem plain_recordsJson (records : List (String × String × String)) :
    (recordsJson records).plain := by
  refine Json.elemsPlain_iff.mpr fun j hj => ?_
  obtain ⟨r, -, rfl⟩ := List.mem_map.mp hj
  simp [Json.plain, Json.elemsPlain]

theorem plain_binding (before after : List (String × String × String)) :
    (binding task policy before after).plain := by
  refine ⟨by simp, Json.membersPlain_iff.mpr ?_⟩
  simp only [List.forall_mem_cons]
  exact ⟨trivial, trivial, trivial, plain_recordsJson before, plain_recordsJson after, nofun⟩

theorem normal_recordsJson (records : List (String × String × String)) :
    (recordsJson records).normal = recordsJson records := by
  rw [recordsJson, Json.normal, Json.elemsNormal_eq_map, List.map_map]
  rfl

theorem recordsJson_inj {records records' : List (String × String × String)}
    (h : recordsJson records = recordsJson records') : records = records' := by
  have hinj : Function.Injective fun r : String × String × String =>
      Json.arr [.str r.1, .str r.2.1, .str r.2.2] := by
    intro r r' hr
    simp only [Json.arr.injEq, List.cons.injEq, Json.str.injEq, and_true] at hr
    exact Prod.ext hr.1 (Prod.ext hr.2.1 hr.2.2)
  exact List.map_injective_iff.mpr hinj (Json.arr.inj h)

/-- Equal bindings are of the same records. -/
theorem records_eq_of_binding_eq {before after before' after' : List (String × String × String)}
    (h : canonical (binding task policy before after) =
      canonical (binding task policy before' after')) : before = before' ∧ after = after' := by
  have hnormal := canonical_inj (plain_binding before after) (plain_binding before' after') h
  have hmember := Json.get?_normal_eq (by simp) (by simp) hnormal
  have hbefore := hmember "before"
  have hafter := hmember "after"
  simp only [Json.get?, List.find?_cons_of_pos, List.find?_cons_of_neg, Option.map_some,
    Option.some.injEq, normal_recordsJson, decide_true, decide_eq_true_eq, String.reduceEq,
    not_false_eq_true] at hbefore hafter
  exact ⟨recordsJson_inj hbefore, recordsJson_inj hafter⟩

/-- Inventories with the same records have the same entries. -/
theorem get_eq_of_records_eq {files files' : FileMap}
    (hsha : NoCollision digest (files.contents ++ files'.contents))
    (h : fileRecords files = fileRecords files') : files.get = files'.get := by
  have hcontent : ∀ {f : FileMap}, ∀ item ∈ sortedBy (·.1) f.entries,
      item.2.content ∈ f.contents := fun item hitem =>
    List.mem_map_of_mem ((sortedBy_perm _ _).mem_iff.mp hitem)
  have hsorted : sortedBy (·.1) files.entries = sortedBy (·.1) files'.entries := by
    have hrel : List.Forall₂ (fun a b => a = b) (sortedBy (·.1) files.entries)
        (sortedBy (·.1) files'.entries) := by
      refine Commitment.forall₂_of_map_eq h fun item hitem item' hitem' heq => ?_
      simp only [fileRecord, Prod.mk.injEq] at heq
      have hsame := hsha _ (List.mem_append_left _ (hcontent item hitem)) _
        (List.mem_append_right _ (hcontent item' hitem')) heq.2.2
      obtain ⟨path, mode, content⟩ := item
      obtain ⟨path', mode', content'⟩ := item'
      simp only at heq hsame
      rw [heq.1, heq.2.1, hsame]
    exact List.forall₂_eq_eq_eq ▸ hrel
  have hperm : files.entries.Perm files'.entries :=
    (sortedBy_perm (·.1) files.entries).symm.trans (hsorted ▸ sortedBy_perm _ _)
  funext path
  rw [FileMap.get, FileMap.get, Keyed.find?_perm hperm files.distinct path]

/-- The texts two inspections hash. -/
def hashed (task : Task) (policy : Policy) (base candidate base' candidate' : FileMap) :
    List (List UInt8) :=
  [bindingBytes task policy base candidate, bindingBytes task policy base' candidate'] ++
    (base.contents ++ base'.contents) ++ (candidate.contents ++ candidate'.contents)

/-- **Equal digests are those of one comparison.** -/
theorem comparison_eq_of_digest_eq
    (hsha : NoCollision digest (hashed task policy base candidate base' candidate'))
    (h : (comparison casefold task policy base candidate).digest =
      (comparison casefold task policy base' candidate').digest) :
    (comparison casefold task policy base candidate).changes =
        (comparison casefold task policy base' candidate').changes ∧
      (comparison casefold task policy base candidate).violations =
        (comparison casefold task policy base' candidate').violations := by
  have hbytes : bindingBytes task policy base candidate =
      bindingBytes task policy base' candidate' :=
    hsha _ (by simp [hashed]) _ (by simp [hashed]) h
  obtain ⟨hbefore, hafter⟩ := records_eq_of_binding_eq hbytes
  have hbase : NoCollision digest (base.contents ++ base'.contents) :=
    hsha.mono fun _ ht => List.mem_append_left _ (List.mem_append_right _ ht)
  have hcandidate : NoCollision digest (candidate.contents ++ candidate'.contents) :=
    hsha.mono fun _ ht => List.mem_append_right _ ht
  exact comparison_congr (get_eq_of_records_eq hbase hbefore)
    (get_eq_of_records_eq hcandidate hafter)

/-! ## The safety of a run -/

/-- What holds of a run in any of its states. -/
structure Safe (policy : Policy) (run : Run) : Prop where
  completed : run.state = .completed → ∃ candidate, run.candidate = some candidate ∧
    candidate.scopeValid = true ∧
      (∀ name ∈ policy.requiredChecks, ∃ check ∈ run.checks,
        check.name = name ∧ check.status = "passed") ∧
        ∀ check ∈ run.checks, check.status = "passed" →
          check.candidateDigest = candidate.digest
  attempts : run.repairAttempts ≤ policy.maxRepairAttempts
  terminal : run.state.isTerminal = true → ∀ target policy' evidence run',
    transition run target policy' evidence ≠ .ok run'
  frozen : ∀ target policy' evidence run', transition run target policy' evidence = .ok run' →
    run'.state = .validating ∨ run'.candidate = run.candidate

theorem safe_of_sound {run : Run} (h : Sound policy run) : Safe policy run where
  completed hstate := by
    obtain ⟨candidate, hcandidate⟩ := h.late (by simp [hstate])
    have hcomplete := h.completed hstate candidate hcandidate
    refine ⟨candidate, hcandidate, hcomplete.scopeValid, ?_, fun check hcheck _ =>
      (h.observed candidate hcandidate).bound check hcheck⟩
    intro name hname
    obtain ⟨check, hcheck, rfl⟩ := List.mem_map.mp (hcomplete.required hname)
    exact ⟨check, hcheck, rfl, hcomplete.passed check hcheck⟩
  attempts := h.attempts
  terminal hterminal _ _ _ _ := transition_terminal hterminal
  frozen _ _ _ _ htransition := candidate_of_step (step_of_transition htransition)

/-- Two policies that are one, or were both pinned by their digests. -/
def Pinned (casefold : String → String) (policy policy' : Policy) : Prop :=
  policy' = policy ∨ ∃ raw raw' expected expected', NoCollision digest [raw, raw'] ∧
    loadPolicy casefold raw expected = .ok policy ∧ loadPolicy casefold raw' expected' = .ok policy'

def docsAdmission : Admission :=
  { identity := ⟨"Maintainer", "maintain", "kostekdolata/NightRecon"⟩
    repository := "kostekdolata/NightRecon"
    observedBaseSha := docsPolicy.baseSha
    observedIssueNumber := 7
    existingBranches := ["refs/heads/main"] }

/-- The task once admitted. -/
def docsRun : Run := { Run.pending docsTask with state := .admitted }

theorem main_ne_branch : asciiLower "main" ≠ asciiLower docsTask.branch := by
  intro h
  have hhead := congrArg (fun s => s.toList.head?) h
  simp [asciiLower, Task.branch, branchName, lowerChar, isUpper] at hhead

theorem admit_docsTask : admitRun asciiLower docsTask docsPolicy docsAdmission = .ok docsRun := by
  refine require_bind_eq_ok.mpr ⟨rfl, require_bind_eq_ok.mpr ⟨by decide, ?_⟩⟩
  refine require_bind_eq_ok.mpr ⟨by decide +kernel, ?_⟩
  refine require_bind_eq_ok.mpr ⟨⟨rfl, rfl⟩, require_bind_eq_ok.mpr ⟨rfl, ?_⟩⟩
  refine require_bind_eq_ok.mpr ⟨?_, rfl⟩
  intro ref href
  obtain rfl := List.mem_singleton.mp href
  have hmain : branchOfRef "refs/heads/main" = "main" := by decide
  exact hmain ▸ main_ne_branch

/-- The candidate with a changed page. -/
def guideCandidate : Candidate :=
  comparison asciiLower docsTask docsPolicy (guide [65]) (guide [66])

/-- A check that ran five tests. -/
def passedCheck (candidate : Candidate) (name : String) : Check :=
  { name := name
    status := "passed"
    exitCode := some 0
    candidateDigest := candidate.digest
    testsRun := some 5
    passed := some 5
    failed := some 0
    errors := some 0
    skipped := some 0
    skipIds := [] }

theorem passedCheck_valid {name : String} (hname : isCheckName name = true) :
    (passedCheck guideCandidate name).Valid where
  name := hname
  digest := isHex_digest _
  status := List.mem_cons_self
  exit := .inl ⟨List.mem_cons_self, 0, Nat.zero_le _, rfl, iff_of_true rfl rfl⟩
  skips := ⟨Nat.zero_le _, List.nodup_nil⟩
  counts := ⟨some ⟨5, 5, 0, 0, 0⟩, ⟨by decide, rfl, fun _ => ⟨Nat.succ_pos _, ⟨rfl, rfl⟩, rfl⟩,
    List.mem_cons_self⟩, rfl, rfl, rfl, rfl, rfl⟩

/-- The checks the policy requires. -/
def guideChecks : List Check := requiredChecks.map (passedCheck guideCandidate)

theorem observed_guideChecks : Observed docsPolicy guideCandidate.digest guideChecks where
  names := by
    have hnames : guideChecks.map (·.name) = requiredChecks := rfl
    rw [hnames]
    decide
  valid check hcheck := by
    obtain ⟨name, hname, rfl⟩ := List.mem_map.mp hcheck
    have hvalid : ∀ name ∈ requiredChecks, isCheckName name = true := by decide
    exact passedCheck_valid (hvalid name hname)
  bound check hcheck := by
    obtain ⟨name, -, rfl⟩ := List.mem_map.mp hcheck
    rfl
  skips check hcheck := by
    obtain ⟨name, -, rfl⟩ := List.mem_map.mp hcheck
    exact List.nil_subset _

theorem complete_guideChecks : Complete docsPolicy guideCandidate guideChecks where
  scopeValid := scopeValid_guide
  required := fun _ hname => hname
  passed check hcheck := by
    obtain ⟨name, -, rfl⟩ := List.mem_map.mp hcheck
    rfl
  counted check hcheck _ := by
    obtain ⟨name, -, rfl⟩ := List.mem_map.mp hcheck
    exact Option.some_ne_none _

/-- The run with its candidate frozen. -/
def guideRun : Run := { docsRun with state := .validating, candidate := some guideCandidate }

theorem reachable_guideRun {allowed : Candidate → Prop} (hallowed : allowed guideCandidate) :
    Reachable asciiLower docsPolicy allowed guideRun := by
  have hadmitted := sound_of_admit admit_docsTask
  have hrunning := transition_start hadmitted rfl
  have hsound := hadmitted.step (step_of_transition hrunning)
  have hbound : BoundTo { docsRun with state := .running } guideCandidate := ⟨rfl, rfl, rfl, rfl⟩
  have hfreeze := transition_freeze hsound (.inl rfl) hbound
  refine .step (.step (.admission admit_docsTask) (by exact nofun) hrunning) ?_ hfreeze
  intro candidate hcandidate
  exact Option.some.inj hcandidate ▸ hallowed

/-- The run completed. -/
theorem reachable_completed : Reachable asciiLower docsPolicy (fun _ => True)
    { guideRun with state := .completed, checks := guideChecks } := by
  have hreachable : Reachable asciiLower docsPolicy (fun _ => True) guideRun :=
    reachable_guideRun trivial
  have hcomplete := transition_complete (sound_of_reachable hreachable) rfl rfl
    observed_guideChecks complete_guideChecks
  exact .step hreachable (by exact nofun) hcomplete

/-- An inventory without files. -/
def noFiles : FileMap := ⟨[], List.nodup_nil⟩

theorem inspectCandidate_noFiles :
    inspectCandidate asciiLower docsTask docsPolicy noFiles noFiles =
      .ok (comparison asciiLower docsTask docsPolicy noFiles noFiles) := by
  have hempty : Snapshotted asciiLower noFiles :=
    ⟨Nat.zero_le _, nofun, List.nodup_nil, nofun, Nat.zero_le _, nofun⟩
  exact inspectCandidate_eq_ok.mpr ⟨rfl, hempty, hempty, rfl⟩

theorem noCollision_noFiles :
    NoCollision digest (hashed docsTask docsPolicy noFiles noFiles noFiles noFiles) := by
  intro s hs t ht _
  simp only [hashed, FileMap.contents, noFiles, List.map_nil, List.append_nil, List.mem_cons,
    List.not_mem_nil, or_false, or_self] at hs ht
  exact hs.trans ht.symm

end NightRecon.TaskAutomation
