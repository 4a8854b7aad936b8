import NightRecon.Lib.Proc
import NightRecon.TaskAutomation.Candidate

/-!
# The batches of an objective

`tools/task_automation/service.py` `ObjectiveService.run`, from the frozen plan to the last
published batch.

* `validatePlan` — the batches of a plan, `validatePlan_numbers`;
* `Services` — what the queue, the worker, the validator and the publisher answer, call by call;
* `attempt`, `attempts`, `runBatches`, `runPlan` — one attempt of a batch, its repairs, the batches,
  and a whole plan, each a procedure on a `World` that records what was published and every
  candidate that was inspected;
* `Narrows` — a later candidate of a batch differs from the published inventory only where the
  earlier one did;
* `During` — the invariant of the repairs of one batch; `attempt_spec`, `attempts_spec`,
  `runBatches_spec`;
* `repairs_narrow` — **no repair changes a new file**, for every behaviour of the services.
-/

namespace NightRecon.TaskAutomation

open NightRecon.Lib
open NightRecon.Lib.Checks

namespace Service

/-! ## Plans -/

/-- Source: `service.py` `Batch`. -/
structure Batch where
  number : Nat
  goal : String
  acceptanceCriteria : List String

/-- One item of a plan. -/
def readBatch (task : Task) (item : Json × Nat) : Py Batch := do
  let data ← keys ["number", "goal", "acceptance_criteria"] item.1
  require (field data "number" = .int item.2) (rejected "nonsequential plan")
  let criteria ← strings 20 (field data "acceptance_criteria")
  require (criteria ⊆ task.acceptanceCriteria) (rejected "plan expands acceptance scope")
  let goal ← text 4096 (field data "goal")
  return ⟨item.2, goal, criteria⟩

/-- Source: `service.py` `validate_plan`. -/
def validatePlan (task : Task) (maxBatches : Nat) : Json → Py (List Batch)
  | .arr items => do
      require (0 < items.length ∧ items.length ≤ maxBatches)
        (rejected "invalid or oversized batch plan")
      let batches ← (items.zipIdx 1).mapM (readBatch task)
      let covered := batches.flatMap (·.acceptanceCriteria)
      require (covered ⊆ task.acceptanceCriteria ∧ task.acceptanceCriteria ⊆ covered)
        (rejected "plan omits acceptance criteria")
      return batches
  | _ => throw (rejected "invalid or oversized batch plan")

/-- The batches of a plan are numbered from one. -/
theorem validatePlan_numbers {task : Task} {maxBatches : Nat} {plan : Json} {batches : List Batch}
    (h : validatePlan task maxBatches plan = .ok batches) :
    batches.map (·.number) = List.range' 1 batches.length := by
  unfold validatePlan at h
  split at h
  · next items =>
    rw [require_bind_eq_ok] at h
    obtain ⟨-, h⟩ := h
    obtain ⟨read, hread, h⟩ := bind_eq_ok.mp h
    rw [require_bind_eq_ok] at h
    obtain rfl := Except.ok.inj h.2
    have hpairs := mapM_eq_ok.mp hread
    have hnumber : List.Forall₂ (fun item batch => item.2 = batch.number) (items.zipIdx 1) read := by
      refine hpairs.imp fun item batch hbatch => ?_
      unfold readBatch at hbatch
      simp only [bind_eq_ok, require_eq_ok] at hbatch
      obtain ⟨_, _, _, _, _, _, _, _, _, _, hbatch⟩ := hbatch
      obtain rfl := Except.ok.inj hbatch
      rfl
    have hlength := hpairs.length_eq
    rw [List.length_zipIdx] at hlength
    have hmap : (items.zipIdx 1).map (·.2) = read.map (·.number) := by
      rw [← List.forall₂_eq_eq_eq, List.forall₂_map_left_iff, List.forall₂_map_right_iff]
      exact hnumber
    rw [← hmap, ← hlength]
    exact List.zipIdx_map_snd ..
  · exact absurd h (by simp)

/-! ## Services -/

/-- What the loop uses of the queue's record. -/
structure Record where
  parentSha : String
  batch : Nat

/-- What the loop uses of a publication. -/
structure Publication where
  commitSha : Json
  branch : String
  candidateDigest : String

/-- What the services answer: the first argument of each is the number of calls made before, so
that an answer may depend on everything that has happened. -/
structure Services where
  approval : Nat → Py Unit
  reserveAttempt : Nat → Py Record
  update : Nat → String → Py Record
  implement : Nat → Batch → FileMap → Option String → Py FileMap
  receipt : Nat → Candidate → String → Nat → Py Unit
  storeArtifact : Nat → FileMap → Py String
  commitPush : Nat → Candidate → FileMap → String → Nat → Py Publication

/-- A candidate that was inspected, with the inventory that had been published last. -/
structure Inspected where
  batch : Nat
  published : FileMap
  snapshot : FileMap

/-- What the run leaves behind: the calls, the last published inventory, and the candidates that
were inspected. -/
structure World where
  calls : Nat
  published : FileMap
  inspected : List Inspected

/-- A call of a service. -/
def call {α : Type} (service : Nat → Py α) : Proc Exn World α := do
  let w ← Proc.get
  Proc.modify fun w => { w with calls := w.calls + 1 }
  Proc.ofExcept (service w.calls)

/-- The candidate is recorded. -/
def inspected (number : Nat) (snapshot : FileMap) : Proc Exn World Unit :=
  Proc.modify fun w => { w with inspected := w.inspected ++ [⟨number, w.published, snapshot⟩] }

/-- `_update`. -/
def update (services : Services) (event : String) : Proc Exn World Record :=
  call fun n => services.update n event

/-! ## One batch -/

section Batches

variable (casefold : String → String) (services : Services) (task : Task) (policy : Policy)
  (base : FileMap) (maxRepairs : Nat)

/-- The two inventories hold the same entries. -/
def sameFiles (a b : FileMap) : Prop := differing a b = ∅

instance (a b : FileMap) : Decidable (sameFiles a b) := inferInstanceAs (Decidable (_ = _))

/-- How an attempt ended: with a candidate to repair, or published. -/
inductive Outcome where
  | repair (snapshot : FileMap) (failure : String)
  | published (snapshot : FileMap)

/-- The checks of a candidate. -/
def validated (published snapshot : FileMap) (candidate : Candidate) (record : Record)
    (batch : Batch) : Proc Exn World Unit := do
  Proc.ofExcept (require (candidate.scopeValid = true)
    ⟨.validationFailed, "candidate scope failed"⟩)
  Proc.ofExcept (require (¬ sameFiles snapshot published)
    (rejected "batch has no incremental changes"))
  call fun n => services.receipt n candidate record.parentSha batch.number

/-- The publication of a candidate. -/
def publish (snapshot : FileMap) (candidate : Candidate) (batch : Batch) :
    Proc Exn World Unit := do
  call services.approval
  let _ ← call fun n => services.storeArtifact n snapshot
  let record ← update services "publication_intent"
  let publication ← call fun n =>
    services.commitPush n candidate snapshot record.parentSha batch.number
  Proc.modify fun w => { w with published := snapshot }
  let _ ← Proc.ofExcept (sha 40 publication.commitSha)
  Proc.ofExcept (require (publication.branch = task.branch ∧
    publication.candidateDigest = candidate.digest) (rejected "publisher receipt mismatch"))
  let _ ← update services "batch_published"

/-- The check of a repair: it changes only what the failing candidate had changed. -/
def checkRepair (published current snapshot : FileMap) : Option String → Py Unit
  | none => return
  | some _ => require (differing current snapshot ⊆ differing published current)
      (rejected "repair touched an unrelated file")

/-- One attempt of a batch. -/
def attempt (published current : FileMap) (batch : Batch) (number : Nat)
    (failure : Option String) : Proc Exn World Outcome := do
  call services.approval
  let _ ← call services.reserveAttempt
  let _ ← update services "implementation_intent"
  let snapshot ← call fun n => services.implement n batch current failure
  Proc.ofExcept (checkRepair published current snapshot failure)
  let candidate ← Proc.ofExcept (inspectCandidate casefold task policy base snapshot)
  inspected batch.number snapshot
  let record ← update services "candidate_frozen"
  match ← Proc.tryCall (validated services published snapshot candidate record batch) with
  | .ok _ => do
    publish services task snapshot candidate batch
    return .published snapshot
  | .error e =>
    if e.cls = .validationFailed then do
      Proc.ofExcept (raiseIf (maxRepairs ≤ number)
        (rejected ("repair limit exhausted: " ++ e.message)))
      let _ ← update services "repair_requested"
      return .repair snapshot e.message
    else Proc.ofExcept (.error e)

/-- The attempts of a batch that are left: what is current and what is published afterwards. -/
def attempts (published : FileMap) (batch : Batch) :
    Nat → Nat → FileMap → Option String → Proc Exn World (FileMap × FileMap)
  | 0, _, current, _ => return (current, published)
  | left + 1, number, current, failure => do
    match ← attempt casefold services task policy base maxRepairs published current batch number
      failure with
    | .published snapshot => return (snapshot, snapshot)
    | .repair snapshot message => attempts published batch left (number + 1) snapshot (some message)

/-- The batches that are left. -/
def runBatches : List Batch → FileMap → FileMap → Proc Exn World Unit
  | [], _, _ => return
  | batch :: rest, current, published => do
    let ended ← attempts casefold services task policy base maxRepairs published batch
      (maxRepairs + 1) 0 current none
    runBatches rest ended.1 ended.2

/-- A plan, from the inventory that is published when it is frozen. -/
def runPlan (maxBatches : Nat) (plan : Json) (current : FileMap) : Proc Exn World Unit := do
  let batches ← Proc.ofExcept (validatePlan task maxBatches plan)
  let record ← update services "plan_frozen"
  Proc.modify fun w => { w with published := current }
  runBatches casefold services task policy base maxRepairs (batches.drop record.batch) current
    current

end Batches

/-! ## What a repair may change -/

/-- A later candidate of the same batch differs from the published inventory only where the earlier
one does. -/
def Narrows (a b : Inspected) : Prop :=
  a.batch = b.batch → b.published = a.published ∧
    differing b.published b.snapshot ⊆ differing a.published a.snapshot

theorem differing_triangle (a b c : FileMap) : differing a c ⊆ differing a b ∪ differing b c := by
  intro path hpath
  rw [Finset.mem_union, mem_differing, mem_differing]
  rw [mem_differing] at hpath
  by_contra hnone
  obtain ⟨hab, hbc⟩ := not_or.mp hnone
  exact hpath ((not_not.mp hab).trans (not_not.mp hbc))

/-- **Between two batches**: nothing was inspected of the batches that are left. -/
structure Settled (left : List Nat) (published : FileMap) (w : World) : Prop where
  published_eq : w.published = published
  chain : w.inspected.Pairwise Narrows
  fresh : ∀ a ∈ w.inspected, a.batch ∉ left

/-- **During a batch**: what is current differs from what is published only where every candidate
of the batch does, and before a first failure there is none. -/
structure During (number : Nat) (left : List Nat) (published current : FileMap)
    (failure : Option String) (w : World) : Prop extends Settled left published w where
  here : ∀ a ∈ w.inspected, a.batch = number → a.published = published ∧
    differing published current ⊆ differing published a.snapshot
  first : failure = none → ∀ a ∈ w.inspected, a.batch ≠ number

/-- What does not depend on the number of calls. -/
def CallFree (P : World → Prop) : Prop := ∀ w n, P w → P { w with calls := n }

theorem callFree_settled (left : List Nat) (published : FileMap) :
    CallFree (Settled left published) := fun _ _ h => ⟨h.published_eq, h.chain, h.fresh⟩

theorem callFree_during (number : Nat) (left : List Nat) (published current : FileMap)
    (failure : Option String) : CallFree (During number left published current failure) :=
  fun _ _ h => ⟨⟨h.published_eq, h.chain, h.fresh⟩, h.here, h.first⟩

/-- Whatever a service does, what does not depend on the calls stays. -/
theorem call_spec {α : Type} {P E : World → Prop} (hfree : CallFree P) (hE : ∀ w, P w → E w)
    (service : Nat → Py α) : Triple P (call service) (fun _ => P) fun _ => E := by
  unfold call
  apply Triple.bind (Q := fun _ => P) (Triple.get fun _ hw => hw)
  intro w
  apply Triple.bind (Q := fun _ => P) (Triple.modify fun w hw => hfree w _ hw)
  intro _
  exact Triple.ofExcept (fun _ _ _ hw => hw) fun _ w _ hw => hE w hw

/-! ## The repairs of a batch -/

section Specs

variable {casefold : String → String} {services : Services} {task : Task} {policy : Policy}
  {base : FileMap} {maxRepairs : Nat}

/-- The candidates are in order, however the run ends. -/
def Chained (w : World) : Prop := w.inspected.Pairwise Narrows

theorem checkRepair_eq_ok {published current snapshot : FileMap} {failure : Option String} :
    checkRepair published current snapshot failure = .ok () ↔
      (failure ≠ none → differing current snapshot ⊆ differing published current) := by
  cases failure with
  | none => exact iff_of_true rfl fun hne => absurd rfl hne
  | some message =>
    rw [checkRepair, require_eq_ok]
    exact ⟨fun hsub _ => hsub, fun hsub => hsub (by simp)⟩

/-- **A candidate that passed the check of repairs** is recorded behind candidates that it
narrows. -/
theorem during_inspected {number : Nat} {left : List Nat} (hnumber : number ∉ left)
    {published current snapshot : FileMap} {failure : Option String} {message : String}
    (hrepair : failure ≠ none → differing current snapshot ⊆ differing published current)
    {w : World} (hw : During number left published current failure w) :
    During number left published snapshot (some message)
      { w with inspected := w.inspected ++ [⟨number, w.published, snapshot⟩] } := by
  -- what the candidate changes was changed by every candidate of the batch
  have hnarrow : ∀ a ∈ w.inspected, a.batch = number →
      differing published snapshot ⊆ differing published a.snapshot := by
    intro a ha hbatch
    have hfailed : failure ≠ none := fun hnone => hw.first hnone a ha hbatch
    have hcurrent := (hw.here a ha hbatch).2
    calc differing published snapshot
        ⊆ differing published current ∪ differing current snapshot :=
          differing_triangle published current snapshot
      _ ⊆ differing published current := Finset.union_subset subset_rfl (hrepair hfailed)
      _ ⊆ differing published a.snapshot := hcurrent
  refine ⟨⟨hw.published_eq, ?_, ?_⟩, ?_, fun hnone => absurd hnone (by simp)⟩
  · rw [List.pairwise_append]
    refine ⟨hw.chain, List.pairwise_singleton _ _, fun a ha b hb hbatch => ?_⟩
    obtain rfl := List.mem_singleton.mp hb
    dsimp only at hbatch ⊢
    have hpublished := (hw.here a ha hbatch).1
    rw [hpublished, hw.published_eq]
    exact ⟨rfl, hnarrow a ha hbatch⟩
  · intro a ha
    rcases List.mem_append.mp ha with ha | ha
    · exact hw.fresh a ha
    · obtain rfl := List.mem_singleton.mp ha
      exact hnumber
  · intro a ha hbatch
    rcases List.mem_append.mp ha with ha | ha
    · exact ⟨(hw.here a ha hbatch).1, hnarrow a ha hbatch⟩
    · obtain rfl := List.mem_singleton.mp ha
      exact ⟨hw.published_eq, subset_rfl⟩

/-- How an attempt leaves its batch: still during it, or with the next inventory published. -/
def Ended (number : Nat) (left : List Nat) (published : FileMap) : Outcome → World → Prop
  | .repair snapshot message => During number left published snapshot (some message)
  | .published snapshot => Settled left snapshot

theorem publish_spec {left : List Nat} {published snapshot : FileMap} {candidate : Candidate}
    {batch : Batch} : Triple (Settled left published) (publish services task snapshot candidate batch)
      (fun _ => Settled left snapshot) fun _ => Chained := by
  have hchain : ∀ (published : FileMap) w, Settled left published w → Chained w :=
    fun _ _ hw => hw.chain
  unfold publish update
  apply Triple.bind (call_spec (callFree_settled _ _) (hchain published) _)
  intro _
  apply Triple.bind (call_spec (callFree_settled _ _) (hchain published) _)
  intro _
  apply Triple.bind (call_spec (callFree_settled _ _) (hchain published) _)
  intro record
  apply Triple.bind (call_spec (callFree_settled _ _) (hchain published) _)
  intro publication
  apply Triple.bind (Q := fun _ => Settled left snapshot)
    (Triple.modify fun w hw => ⟨rfl, hw.chain, hw.fresh⟩)
  intro _
  apply Triple.bind (Q := fun _ => Settled left snapshot)
    (Triple.ofExcept (fun _ _ _ hw => hw) fun _ w _ hw => hw.chain)
  intro _
  apply Triple.bind (Q := fun _ => Settled left snapshot)
    (Triple.ofExcept (fun _ _ _ hw => hw) fun _ w _ hw => hw.chain)
  intro _
  apply Triple.bind (call_spec (callFree_settled _ _) (hchain snapshot) _)
  intro _
  exact Triple.pure fun _ hw => hw

/-- The checks of a candidate change nothing, whether they pass or fail. -/
theorem validated_spec {P : World → Prop} (hfree : CallFree P) {published snapshot : FileMap}
    {candidate : Candidate} {record : Record} {batch : Batch} :
    Triple P (validated services published snapshot candidate record batch) (fun _ => P)
      fun _ => P := by
  unfold validated
  apply Triple.bind (Q := fun _ => P) (Triple.ofExcept (fun _ _ _ hw => hw) fun _ _ _ hw => hw)
  intro _
  apply Triple.bind (Q := fun _ => P) (Triple.ofExcept (fun _ _ _ hw => hw) fun _ _ _ hw => hw)
  intro _
  exact call_spec hfree (fun _ hw => hw) _

/-- **One attempt** ends with a candidate that narrows the earlier ones of its batch. -/
theorem attempt_spec {left : List Nat} {published current : FileMap} {batch : Batch} {number : Nat}
    {failure : Option String} (hbatch : batch.number ∉ left) :
    Triple (During batch.number left published current failure)
      (attempt casefold services task policy base maxRepairs published current batch number failure)
      (Ended batch.number left published) fun _ => Chained := by
  have hcall : ∀ {α : Type} (service : Nat → Py α),
      Triple (During batch.number left published current failure) (call service)
        (fun _ => During batch.number left published current failure) fun _ => Chained :=
    call_spec (callFree_during _ _ _ _ _) fun _ hw => hw.chain
  unfold attempt update
  apply Triple.bind (hcall _)
  intro _
  apply Triple.bind (hcall _)
  intro _
  apply Triple.bind (hcall _)
  intro _
  apply Triple.bind (hcall _)
  intro snapshot
  apply Triple.bind (Q := fun _ w => During batch.number left published current failure w ∧
      (failure ≠ none → differing current snapshot ⊆ differing published current))
    (Triple.ofExcept (fun _ _ hok hw => ⟨hw, checkRepair_eq_ok.mp hok⟩) fun _ _ _ hw => hw.chain)
  intro _
  apply Triple.bind (Q := fun _ w => During batch.number left published current failure w ∧
      (failure ≠ none → differing current snapshot ⊆ differing published current))
    (Triple.ofExcept (fun _ _ _ hw => hw) fun _ _ _ hw => hw.1.chain)
  intro candidate
  -- from here on the candidate is recorded, whatever the message of a failure will be
  have hfree : CallFree fun w => ∀ message,
      During batch.number left published snapshot (some message) w :=
    fun w n hw message => callFree_during _ _ _ _ _ w n (hw message)
  apply Triple.bind (Q := fun _ w => ∀ message,
      During batch.number left published snapshot (some message) w)
    (Triple.modify fun w hw message => during_inspected hbatch hw.2 hw.1)
  intro _
  apply Triple.bind (call_spec hfree (fun _ hw => (hw "").chain) _)
  intro record
  apply Triple.bind (Triple.tryCall (Q := fun _ w => ∀ message,
    During batch.number left published snapshot (some message) w) (validated_spec hfree))
  intro result
  cases result with
  | ok _ =>
    dsimp only
    apply Triple.bind (Q := fun _ => Settled left snapshot)
      (publish_spec.weaken (fun _ hw => (hw "").toSettled) (fun _ _ hw => hw) fun _ _ hw => hw)
    intro _
    exact Triple.pure fun _ hw => hw
  | error e =>
    dsimp only
    refine Triple.ite (fun _ => ?_) fun _ =>
      Triple.ofExcept (fun _ _ hok _ => absurd hok (by simp)) fun _ _ _ hw => (hw "").chain
    apply Triple.bind (Q := fun _ w => ∀ message,
        During batch.number left published snapshot (some message) w)
      (Triple.ofExcept (fun _ _ _ hw => hw) fun _ _ _ hw => (hw "").chain)
    intro _
    apply Triple.bind (call_spec hfree (fun _ hw => (hw "").chain) _)
    intro _
    exact Triple.pure fun _ hw => hw e.message

/-- **The repairs of a batch**, by induction on the attempts that are left. -/
theorem attempts_spec {left : List Nat} {published : FileMap} {batch : Batch}
    (hbatch : batch.number ∉ left) (n number : Nat) (current : FileMap) (failure : Option String) :
    Triple (During batch.number left published current failure)
      (attempts casefold services task policy base maxRepairs published batch n number current
        failure)
      (fun ended => Settled left ended.2) fun _ => Chained := by
  induction n generalizing number current failure with
  | zero => exact Triple.pure fun _ hw => hw.toSettled
  | succ n ih =>
    unfold attempts
    apply Triple.bind (attempt_spec hbatch)
    intro outcome
    cases outcome with
    | repair snapshot message => exact ih (number + 1) snapshot (some message)
    | published snapshot => exact Triple.pure fun _ hw => hw

/-- **The batches that are left**, by induction on them. -/
theorem runBatches_spec (batches : List Batch) (hnodup : (batches.map (·.number)).Nodup)
    (current published : FileMap) :
    Triple (Settled (batches.map (·.number)) published)
      (runBatches casefold services task policy base maxRepairs batches current published)
      (fun _ => Chained) fun _ => Chained := by
  induction batches generalizing current published with
  | nil => exact Triple.pure fun _ hw => hw.chain
  | cons batch rest ih =>
    rw [List.map_cons] at hnodup
    obtain ⟨hbatch, hrest⟩ := List.nodup_cons.mp hnodup
    unfold runBatches
    apply Triple.bind (Q := fun ended => Settled (rest.map (·.number)) ended.2)
    · refine (attempts_spec hbatch (maxRepairs + 1) 0 current none).weaken (fun w hw => ?_)
        (fun _ _ hw => hw) fun _ _ hw => hw
      -- nothing was inspected of this batch
      have hfresh : ∀ a ∈ w.inspected, a.batch ≠ batch.number := by
        intro a ha heq
        refine hw.fresh a ha ?_
        rw [heq]
        exact List.mem_cons_self
      refine ⟨⟨hw.published_eq, hw.chain, fun a ha hmem => ?_⟩,
        fun a ha heq => absurd heq (hfresh a ha), fun _ => hfresh⟩
      exact hw.fresh a ha (List.mem_cons_of_mem _ hmem)
    · intro ended
      exact ih hrest ended.1 ended.2

end Specs

/-- **No repair changes a new file.**  In every run, whatever the services answer, a later candidate
of a batch differs from the inventory published last only at paths where every earlier candidate of
the batch does. -/
theorem repairs_narrow (casefold : String → String) (services : Services) (task : Task)
    (policy : Policy) (base : FileMap) (maxRepairs maxBatches : Nat) (plan : Json)
    (current : FileMap) (calls : Nat) :
    (runPlan casefold services task policy base maxRepairs maxBatches plan current
      ⟨calls, current, []⟩).2.inspected.Pairwise Narrows := by
  have hspec : Triple (fun w => w.inspected = [])
      (runPlan casefold services task policy base maxRepairs maxBatches plan current)
      (fun _ => Chained) fun _ => Chained := by
    have hnil : ∀ w : World, w.inspected = [] → Chained w := by
      intro w hw
      rw [Chained, hw]
      exact List.Pairwise.nil
    unfold runPlan update
    apply Triple.bind (Q := fun batches w => w.inspected = [] ∧ (batches.map (·.number)).Nodup)
      (Triple.ofExcept (fun batches _ hok hw => ⟨hw, ?_⟩) fun _ w _ hw => hnil w hw)
    · intro batches
      apply Triple.bind (call_spec (fun _ _ hw => hw) (fun w hw => hnil w hw.1) _)
      intro record
      apply Triple.bind (Q := fun _ w => Settled ((batches.drop record.batch).map (·.number))
        current w ∧ (batches.map (·.number)).Nodup)
      · refine Triple.modify fun w hw => ⟨⟨rfl, ?_, ?_⟩, hw.2⟩
        · exact hnil w hw.1
        · intro a ha
          rw [show w.inspected = [] from hw.1] at ha
          exact absurd ha List.not_mem_nil
      · intro _ w hw
        have hnodup : ((batches.drop record.batch).map (·.number)).Nodup := by
          rw [List.map_drop]
          exact hw.2.sublist (List.drop_sublist _ _)
        exact runBatches_spec _ hnodup current current w hw.1
    · rw [validatePlan_numbers hok]
      exact List.nodup_range'
  have hrun := hspec ⟨calls, current, []⟩ rfl
  cases hend : runPlan casefold services task policy base maxRepairs maxBatches plan current
      ⟨calls, current, []⟩ with
  | mk result w =>
    rw [hend] at hrun
    cases result with
    | ok _ => exact hrun
    | error e => exact hrun

end Service

end NightRecon.TaskAutomation
