import NightRecon.SharedCore.WorkspaceMerge
import NightRecon.SharedCore.WorkspacePolicy

/-!
# Engagement metadata over a run of workspace operations

Every operation of `nightrecon_shared_core/workspace.py`, appending evidence to its store, and
opening the workspace again from its files.

* `StoreStep` — the things an operation can do to the engagement store; `storeStep` says every
  operation does one of them;
* `Written` — the operations whose new metadata, if they have any, reaches the file;
* `metadata_run` — over every run of such operations metadata that is stored stays as it is, but
  for status changes by `update_status` along `_STATUS_TRANSITIONS`; `lost_status` is a run with
  another operation.
-/

namespace NightRecon.SharedCore.Workspace

open NightRecon.Lib
open NightRecon.Lib.Checks
open NightRecon.Lib.FileBacked
open NightRecon.Lib.Machine
open NightRecon.Lib.Text
open NightRecon.SharedCore.Contracts
open NightRecon.SharedCore.FileStore
open NightRecon.SharedCore.Store
open NightRecon.SharedCore.Store.InMemoryEngagementStore

/-! ## Operations -/

/-- A call on the workspace, an append to its store, or opening it again. -/
inductive Operation where
  | call (c : Call)
  | append (r : EvidenceRecord) (write : Py Unit)
  | reopen

/-- One operation.  A workspace that does not open again stays as it was. -/
def operate (w : LocalWorkspace) : Operation → LocalWorkspace × Py Unit
  | .call c => ((step w c).1, (step w c).2.map fun _ => ())
  | .append r write =>
      ((onStore (FileStore.append r write) w).2, (onStore (FileStore.append r write) w).1)
  | .reopen =>
      match openWorkspace w.store.file w.policyStore.file w.audit with
      | .ok w' => (w', .ok ())
      | .error x => (w, .error x)

/-! ## What an operation can do to the engagement store -/

/-- What an operation does to the engagement store. -/
inductive StoreStep (s : FileEngagementStore) : Operation → FileEngagementStore → Prop where
  | same (o : Operation) : StoreStep s o s
  | created (m : EngagementMetadata) (write : Py Unit)
      (h : m.engagementId ∉ s.memory.engagementSet) :
      StoreStep s (.call (.createEngagement m write))
        (FileStore.persist write (s.setMemory (s.memory.putMetadata m))).2
  | updated (write : Py Unit) (old : EngagementMetadata) (new : EngagementStatus)
      (h : s.memory.metadataById.lookup old.engagementId = some old)
      (hedge : new ∈ statusTransitions old.status) :
      StoreStep s (.call (.updateStatus old.engagementId new.text write))
        (FileStore.persist write (s.setMemory (s.memory.putMetadata (old.withStatus new)))).2
  | merged (e : EngagementEnvelope) (write : Py Unit) (h : ¬ Refused s.memory e) :
      StoreStep s (.call (.mergeEnvelope e write)) (FileStore.appendEnvelope e write s).2
  | appended (r : EvidenceRecord) (write : Py Unit) (h : s.memory.existing r = none) :
      StoreStep s (.append r write) (FileStore.persist write (s.setMemory (s.memory.putRecord r))).2
  | reopened (m : InMemoryEngagementStore) (h : load s.file = .ok m) :
      StoreStep s .reopen ⟨m, s.file⟩

/-- Nothing done to the policies touches the engagement store. -/
theorem keeps_onPolicies {α : Type} (p : Proc Exn PolicyStore.FileEngagementPolicyStore α) :
    Keeps (·.store) (onPolicies p) := .zoom fun _ _ => rfl

theorem keeps_executionPolicy (engagementId : String) :
    Keeps (·.store) (executionPolicy engagementId) :=
  .bind (.of_id (keeps_requireEngagement _)) fun _ => keeps_onPolicies _

theorem keeps_setExecutionPolicy (policy : EngagementPolicy.EngagementExecutionPolicy)
    (write : Py Unit) : Keeps (·.store) (setExecutionPolicy policy write) :=
  .bind (.of_id (keeps_requireEngagement _)) fun _ => .bind (keeps_onPolicies _) fun _ => .pure _

theorem keeps_revokeExecution (engagementId : String) (write : Py Unit) :
    Keeps (·.store) (revokeExecution engagementId write) :=
  .bind (.of_id (keeps_requireEngagement _)) fun _ => keeps_onPolicies _

theorem keeps_store_appendAudit (d : EngagementPolicy.AuthorizationDecision)
    (occurredAt : Datetime.DateTime) (write : Py Unit) :
    Keeps (·.store) (appendAuthorizationAudit d occurredAt write) :=
  .bind (.ofExcept _) fun _ => .bind (.ofExcept _) fun _ _ => rfl

theorem keeps_authorizeAction (engagementId : String) (request : EngagementPolicy.ActionRequest)
    (consume : Bool) (occurredAt : Datetime.DateTime) (policyWrite auditWrite : Py Unit) :
    Keeps (·.store)
      (authorizeAction engagementId request consume occurredAt policyWrite auditWrite) :=
  .bind (keeps_executionPolicy _) fun _ => .bind (.of_id (keeps_envelope _)) fun _ =>
    .bind (.ofExcept _) fun _ => .ite
      (.bind (keeps_onPolicies _) fun _ => .bind (keeps_store_appendAudit _ _ _) fun _ => .pure _)
      (.bind (keeps_store_appendAudit _ _ _) fun _ => .pure _)

/-- Metadata is stored for an engagement that has none. -/
theorem setMetadata_new {s : FileEngagementStore} {m : EngagementMetadata} (write : Py Unit)
    (h : s.memory.metadataById.lookup m.engagementId = none) :
    FileStore.setMetadata m write s =
      FileStore.persist write (s.setMemory (s.memory.putMetadata m)) := by
  have hblank : ¬ strip m.engagementId = "" := by
    rw [m.engagementId_required.2]
    exact m.engagementId_required.1
  have hbefore : s.memory.metadata m.engagementId = .ok none := by
    rw [metadata, requireNonblank, raiseIf_of_not hblank, ok_bind, h]
    rfl
  have hset : s.memory.setMetadata m = .ok (s.memory.putMetadata m) := by
    rw [InMemoryEngagementStore.setMetadata, h]
  unfold FileStore.setMetadata
  simp only [Proc.bind_apply, Proc.get_apply, Proc.ofExcept_apply, hbefore]
  rw [mutate_ok hset rfl]
  simp

/-- Metadata that differs from the stored one replaces it. -/
theorem replaceMetadata_changed {s : FileEngagementStore} {m old : EngagementMetadata}
    (write : Py Unit) (h : s.memory.metadataById.lookup m.engagementId = some old) (hne : old ≠ m) :
    FileStore.replaceMetadata m write s =
      FileStore.persist write (s.setMemory (s.memory.putMetadata m)) := by
  have hblank : ¬ strip m.engagementId = "" := by
    rw [m.engagementId_required.2]
    exact m.engagementId_required.1
  have hbefore : s.memory.metadata m.engagementId = .ok (some old) := by
    rw [metadata, requireNonblank, raiseIf_of_not hblank, ok_bind, h]
    rfl
  have hreplace : s.memory.replaceMetadata m = .ok (s.memory.putMetadata m) := by
    rw [InMemoryEngagementStore.replaceMetadata,
      require_of (Finmap.mem_of_lookup_eq_some h), ok_bind]
    rfl
  unfold FileStore.replaceMetadata
  simp only [Proc.bind_apply, Proc.get_apply, Proc.ofExcept_apply, hbefore]
  rw [mutate_ok hreplace rfl]
  simp [hne]

section Steps

variable (w : LocalWorkspace)

/-- An engagement that does not exist is created. -/
theorem createEngagement_new {m : EngagementMetadata} (write : Py Unit)
    (h : m.engagementId ∉ w.store.memory.engagementSet) : (createEngagement m write w).2.store =
      (FileStore.persist write (w.store.setMemory (w.store.memory.putMetadata m))).2 := by
  have hnone : w.store.memory.metadataById.lookup m.engagementId = none := by
    cases hold : w.store.memory.metadataById.lookup m.engagementId with
    | none => rfl
    | some old => exact absurd (mem_engagementSet_of_metadata hold) h
  have hstate : (createEngagement m write w).2 = (onStore (FileStore.setMetadata m write) w).2 := by
    have hguard : (Proc.ofExcept (raiseIf (m.engagementId ∈ w.store.memory.engagementSet)
        (valueError ("engagement already exists: " ++ m.engagementId))) :
        Proc Exn LocalWorkspace Unit) w = (.ok (), w) := by
      rw [Proc.ofExcept_apply, raiseIf_of_not h]
    unfold createEngagement
    rw [Proc.bind_of_ok (Proc.get_apply w), Proc.bind_of_ok hguard]
    exact Keeps.bind_state (fun _ => keeps_summary _) w
  rw [hstate, onStore, Proc.zoom_apply, setMetadata_new write hnone]

theorem storeStep_createEngagement (m : EngagementMetadata) (write : Py Unit) :
    StoreStep w.store (.call (.createEngagement m write)) (createEngagement m write w).2.store := by
  by_cases hmem : m.engagementId ∈ w.store.memory.engagementSet
  · have hstate : (createEngagement m write w).2 = w := by
      simp only [createEngagement, Proc.bind_apply, Proc.get_apply, Proc.ofExcept_apply, raiseIf,
        if_pos hmem]
    rw [hstate]
    exact .same _
  · rw [createEngagement_new w write hmem]
    exact .created m write hmem

theorem exportEnvelope_metadata {s : InMemoryEngagementStore} {engagementId : String}
    {e : EngagementEnvelope} (h : s.exportEnvelope engagementId = .ok e) :
    e.metadata = s.metadataById.lookup engagementId := by
  unfold exportEnvelope metadata records at h
  simp only [bind_eq_ok, pure_eq_ok, Except.ok.injEq] at h
  obtain ⟨_, ⟨u, -, rfl⟩, _, ⟨u', -, rfl⟩, hmake⟩ := h
  exact (make_eq_ok hmake).2.2

/-- The envelope a workspace shows carries the stored metadata. -/
theorem envelope_metadata {w w' : LocalWorkspace} {engagementId : String} {e : EngagementEnvelope}
    (h : envelope engagementId w = (.ok e, w')) :
    e.metadata = w.store.memory.metadataById.lookup engagementId := by
  unfold envelope at h
  cases hexists : requireEngagement engagementId w with
  | mk r w₁ =>
    obtain rfl := (keeps_requireEngagement engagementId).state_eq hexists
    cases r with
    | error x =>
      rw [Proc.bind_of_error hexists] at h
      cases h
    | ok u =>
      rw [Proc.bind_of_ok hexists, Proc.bind_of_ok (Proc.get_apply w₁), Proc.ofExcept_apply] at h
      exact exportEnvelope_metadata (Prod.mk.inj h).1

/-- An edge of the transition table leads to another status. -/
theorem ne_of_transition {old new : EngagementStatus} (h : new ∈ statusTransitions old) :
    new ≠ old := by
  rintro rfl
  revert h
  cases new <;> decide

/-- The envelope of an engagement that exists. -/
theorem envelope_stored {engagementId : String} (hid : requiredText engagementId)
    (h : engagementId ∈ w.store.memory.engagementSet) :
    envelope engagementId w = (.ok (w.store.memory.envelopeOf engagementId hid), w) := by
  have hexists : requireEngagement engagementId w = (.ok (), w) := by
    unfold requireEngagement
    rw [Proc.bind_of_ok (Proc.get_apply w), Proc.ofExcept_apply, require_of h]
  unfold envelope
  rw [Proc.bind_of_ok hexists, Proc.bind_of_ok (Proc.get_apply w), Proc.ofExcept_apply,
    exportEnvelope_of_required hid]

/-- The status of stored metadata is moved along an edge. -/
theorem updateStatus_edge {old : EngagementMetadata} {new : EngagementStatus} (write : Py Unit)
    (h : w.store.memory.metadataById.lookup old.engagementId = some old)
    (hedge : new ∈ statusTransitions old.status) :
    (updateStatus old.engagementId new.text write w).2.store =
      (FileStore.persist write
        (w.store.setMemory (w.store.memory.putMetadata (old.withStatus new)))).2 := by
  have henvelope := envelope_stored w old.engagementId_required (mem_engagementSet_of_metadata h)
  have hget : (Proc.ofExcept (getOrRaise
      (w.store.memory.envelopeOf old.engagementId old.engagementId_required).metadata
      (valueError "engagement metadata is required to update status")) :
      Proc Exn LocalWorkspace EngagementMetadata) w = (.ok old, w) := by
    show (getOrRaise (w.store.memory.metadataById.lookup old.engagementId) _, w) = _
    rw [h]
    rfl
  have hsame : new.text ≠ old.status.text := by
    intro heq
    have hstatus := congrArg EngagementStatus.ofText heq
    rw [EngagementStatus.ofText_text, EngagementStatus.ofText_text, Option.some.injEq] at hstatus
    exact ne_of_transition hedge hstatus
  have hfind : (statusTransitions old.status).find? (·.text = new.text) = some new := by
    revert hedge
    cases old.status <;> cases new <;> decide
  have hne : old ≠ old.withStatus new := by
    intro heq
    exact ne_of_transition hedge (congrArg EngagementMetadata.status heq).symm
  have hreplace := replaceMetadata_changed (m := old.withStatus new) write h hne
  have hstate := Keeps.bind_state (p := onStore
    (FileStore.replaceMetadata (old.withStatus new) write))
    (fun _ => keeps_summary old.engagementId) w
  rw [onStore, Proc.zoom_apply, hreplace] at hstate
  unfold updateStatus
  rw [Proc.bind_of_ok henvelope, Proc.bind_of_ok hget, if_neg hsame, hfind]
  exact congrArg LocalWorkspace.store hstate

theorem storeStep_updateStatus (engagementId status : String) (write : Py Unit) :
    StoreStep w.store (.call (.updateStatus engagementId status write))
      (updateStatus engagementId status write w).2.store := by
  by_cases hupdated : ∃ old new, w.store.memory.metadataById.lookup engagementId = some old ∧
      new ∈ statusTransitions old.status ∧ new.text = status
  · obtain ⟨old, new, hold, hedge, rfl⟩ := hupdated
    obtain rfl := w.store.memory.metadata_keyed _ _ hold
    rw [updateStatus_edge w write hold hedge]
    exact .updated write old new hold hedge
  · have hstate : (updateStatus engagementId status write w).2 = w := by
      unfold updateStatus
      cases henvelope : envelope engagementId w with
      | mk r w₁ =>
        rw [(keeps_envelope engagementId).state_eq henvelope] at henvelope
        cases r with
        | error x => rw [Proc.bind_of_error henvelope]
        | ok e =>
          rw [Proc.bind_of_ok henvelope]
          have hmetadata := envelope_metadata henvelope
          cases hold : e.metadata with
          | none => rfl
          | some old =>
            rw [hold] at hmetadata
            have hget : (Proc.ofExcept (getOrRaise (some old)
                (valueError "engagement metadata is required to update status")) :
                Proc Exn LocalWorkspace EngagementMetadata) w = (.ok old, w) := rfl
            rw [Proc.bind_of_ok hget]
            by_cases hsame : status = old.status.text
            · rw [if_pos hsame]
              exact keeps_summary engagementId w
            · rw [if_neg hsame]
              cases hfind : (statusTransitions old.status).find? (·.text = status) with
              | none => rfl
              | some new =>
                have htext := List.find?_some hfind
                exact absurd ⟨old, new, hmetadata.symm, List.mem_of_find?_eq_some hfind,
                  of_decide_eq_true htext⟩ hupdated
    rw [hstate]
    exact .same _

theorem storeStep_mergeEnvelope (e : EngagementEnvelope) (write : Py Unit) :
    StoreStep w.store (.call (.mergeEnvelope e write)) (mergeEnvelope e write w).2.store := by
  by_cases h : Refused w.store.memory e
  · obtain ⟨report, hmerge, -⟩ := mergeEnvelope_refused write h
    rw [hmerge]
    exact .same _
  · rw [mergeEnvelope_state write h]
    exact .merged e write h

theorem storeStep_append (r : EvidenceRecord) (write : Py Unit) :
    StoreStep w.store (.append r write) (FileStore.append r write w.store).2 := by
  cases h : w.store.memory.existing r with
  | none =>
    rw [append_new h]
    exact .appended r write h
  | some r' =>
    rw [append_stored h]
    exact .same _

/-- A call that keeps the engagement store. -/
theorem storeStep_of_keeps {α : Type} {p : Proc Exn LocalWorkspace α} (h : Keeps (·.store) p)
    (o : Operation) : StoreStep w.store o (p w).2.store := by
  have hstore : (p w).2.store = w.store := h w
  rw [hstore]
  exact .same o

/-- The answer a call's result is wrapped into does not show in the state. -/
theorem wrapped_state {α β : Type} (p : Proc Exn LocalWorkspace α) (wrap : α → β) :
    ((do return wrap (← p)) w : Py β × LocalWorkspace).2 = (p w).2 :=
  Keeps.bind_state (fun _ => .pure _) w

/-- **Every operation does one of the six things** to the engagement store. -/
theorem storeStep (o : Operation) : StoreStep w.store o (operate w o).1.store := by
  cases o with
  | call c =>
    show StoreStep w.store (.call c) (procedure c w).2.store
    cases c with
    | createEngagement m write =>
      rw [procedure, wrapped_state]
      exact storeStep_createEngagement w m write
    | updateStatus e status write =>
      rw [procedure, wrapped_state]
      exact storeStep_updateStatus w e status write
    | mergeEnvelope e write =>
      rw [procedure, wrapped_state]
      exact storeStep_mergeEnvelope w e write
    | setExecutionPolicy policy write =>
      rw [procedure, wrapped_state]
      exact storeStep_of_keeps w (keeps_setExecutionPolicy policy write) _
    | revokeExecution e write =>
      rw [procedure, wrapped_state]
      exact storeStep_of_keeps w (keeps_revokeExecution e write) _
    | authorizeAction e request consume occurredAt policyWrite auditWrite =>
      rw [procedure, wrapped_state]
      exact storeStep_of_keeps w (keeps_authorizeAction e request consume occurredAt policyWrite
        auditWrite) _
  | append r write => exact storeStep_append w r write
  | reopen =>
    show StoreStep w.store .reopen _
    unfold operate
    cases hopen : openWorkspace w.store.file w.policyStore.file w.audit with
    | error x => exact .same _
    | ok w' =>
      unfold openWorkspace at hopen
      simp only [bind_eq_ok, pure_eq_ok, Except.ok.injEq] at hopen
      obtain ⟨m, hm, policies, -, rfl⟩ := hopen
      exact .reopened m hm

end Steps

/-! ## Metadata over a run -/

/-- New metadata the operation stores reaches the file. -/
def Written (s : FileEngagementStore) : Operation → Prop
  | .call (.createEngagement m write) =>
      m.engagementId ∈ s.memory.engagementSet ∨ write = .ok ()
  | .call (.updateStatus engagementId status write) =>
      (∀ old, s.memory.metadataById.lookup engagementId = some old →
        ∀ new ∈ statusTransitions old.status, new.text ≠ status) ∨ write = .ok ()
  | .call (.mergeEnvelope e write) =>
      Refused s.memory e ∨
        (∀ new ∈ e.metadata, s.memory.metadataById.lookup e.engagementId = some new) ∨
        write = .ok ()
  | _ => True

/-- What becomes of stored metadata in one operation: nothing, or a status along an edge of the
transition table, by `update_status`. -/
def MetadataStep (o : Operation) (old new : EngagementMetadata) : Prop :=
  new = old ∨ ∃ status write, o = .call (.updateStatus old.engagementId status.text write) ∧
    status ∈ statusTransitions old.status ∧ new = old.withStatus status

/-- Metadata that is stored stays stored, and becomes what `MetadataStep` allows. -/
def KeepsMetadata (o : Operation) (m m' : InMemoryEngagementStore) : Prop :=
  ∀ k old, m.metadataById.lookup k = some old →
    ∃ new, m'.metadataById.lookup k = some new ∧ MetadataStep o old new

theorem KeepsMetadata.of_eq {o : Operation} {m m' : InMemoryEngagementStore}
    (h : m'.metadataById = m.metadataById) : KeepsMetadata o m m' := by
  intro k old hold
  exact ⟨old, by rw [h, hold], .inl rfl⟩

/-- Whatever the file loads as has the metadata of the memory. -/
def MetadataOnFile (s : FileEngagementStore) : Prop :=
  ∀ m, load s.file = .ok m → m.metadataById = s.memory.metadataById

/-- A write keeps the file in step, whether it is made or not. -/
theorem MetadataOnFile.persist {s : FileEngagementStore} (h : MetadataOnFile s)
    (write : Py Unit) : MetadataOnFile (FileStore.persist write s).2 := by
  cases hpersist : FileStore.persist write s with
  | mk r s' =>
    cases r with
    | ok u =>
      obtain ⟨-, document, hdocument, rfl⟩ := persist_ok hpersist
      intro m hm
      exact (load_payload hdocument hm).metadata
    | error x =>
      rw [persist_error hpersist]
      exact h

/-- A write that is made brings the file in step. -/
theorem metadataOnFile_persist (s : FileEngagementStore) :
    MetadataOnFile (FileStore.persist (.ok ()) s).2 := by
  obtain ⟨document, hdocument⟩ := payload_ok s.memory
  rw [FileStore.persist, persist_of_ok hdocument]
  intro m hm
  exact (load_payload hdocument hm).metadata

theorem MetadataOnFile.setMemory {s : FileEngagementStore} (h : MetadataOnFile s)
    {m : InMemoryEngagementStore} (hm : m.metadataById = s.memory.metadataById) :
    MetadataOnFile (s.setMemory m) := by
  intro m' hm'
  rw [setMemory_memory, hm]
  exact h m' hm'

/-- The metadata of a merged store, when the envelope brings none that is new. -/
theorem merged_metadata {m : InMemoryEngagementStore} {e : EngagementEnvelope}
    (h : ∀ new ∈ e.metadata, m.metadataById.lookup e.engagementId = some new) :
    (merged m e).metadataById = m.metadataById := by
  apply Finmap.ext_lookup
  intro k
  rw [lookup_metadata_merged]
  cases hnew : metadataAt e k with
  | none => rfl
  | some new =>
    unfold metadataAt at hnew
    by_cases hk : k = e.engagementId
    · rw [if_pos hk] at hnew
      rw [hk, h new hnew, Option.some_or]
    · rw [if_neg hk] at hnew
      cases hnew

/-- **One operation** whose new metadata reaches the file changes stored metadata only along an
edge. -/
theorem metadataStep {s s' : FileEngagementStore} {o : Operation} (h : StoreStep s o s')
    (hwritten : Written s o) (hfile : MetadataOnFile s) :
    KeepsMetadata o s.memory s'.memory ∧ MetadataOnFile s' := by
  cases h with
  | same o => exact ⟨.of_eq rfl, hfile⟩
  | created m write hnew =>
    obtain rfl := hwritten.resolve_left hnew
    refine ⟨?_, metadataOnFile_persist _⟩
    intro k old hold
    rw [FileStore.persist, persist_memory, setMemory_memory]
    refine ⟨old, ?_, .inl rfl⟩
    show (s.memory.metadataById.insert _ m).lookup k = some old
    rw [Dict.lookup_insert_eq, if_neg, hold]
    rintro rfl
    exact hnew (mem_engagementSet_of_metadata hold)
  | updated write old new hold hedge =>
    obtain rfl := hwritten.resolve_left fun hno => hno old hold new hedge rfl
    refine ⟨?_, metadataOnFile_persist _⟩
    intro k old' hold'
    rw [FileStore.persist, persist_memory, setMemory_memory]
    show ∃ new', (s.memory.metadataById.insert old.engagementId (old.withStatus new)).lookup k =
      some new' ∧ _
    rw [Dict.lookup_insert_eq]
    by_cases hk : k = old.engagementId
    · subst hk
      rw [hold, Option.some.injEq] at hold'
      subst hold'
      exact ⟨_, if_pos rfl, .inr ⟨new, .ok (), rfl, hedge, rfl⟩⟩
    · exact ⟨old', by rw [if_neg hk, hold'], .inl rfl⟩
  | merged e write hrefused =>
    refine ⟨?_, ?_⟩
    · intro k old hold
      rw [appendEnvelope_merged write s hrefused]
      refine ⟨old, ?_, .inl rfl⟩
      rw [lookup_metadata_merged]
      cases hnew : metadataAt e k with
      | none => exact hold
      | some new => rw [Option.some_or, metadata_of_not_refused hrefused hnew hold]
    · by_cases hknown : Known s.memory e
      · rw [appendEnvelope_known hrefused hknown]
        exact hfile.setMemory (merged_metadata hknown.1)
      · rw [appendEnvelope_new hrefused hknown]
        rcases hwritten.resolve_left hrefused with hmetadata | rfl
        · exact (hfile.setMemory (merged_metadata hmetadata)).persist write
        · exact metadataOnFile_persist _
  | appended r write hnew =>
    refine ⟨?_, (hfile.setMemory (m := s.memory.putRecord r) rfl).persist write⟩
    rw [FileStore.persist, persist_memory, setMemory_memory]
    exact .of_eq rfl
  | reopened m hm =>
    refine ⟨.of_eq (hfile m hm), ?_⟩
    intro m' hm'
    have hload : load s.file = .ok m' := hm'
    rw [hm, Except.ok.injEq] at hload
    rw [hload]

/-- Statuses along edges of the transition table. -/
def StatusPath : EngagementStatus → EngagementStatus → Prop :=
  Relation.ReflTransGen fun a b => b ∈ statusTransitions a

/-- The metadata stored under `k` is `old`, with a status reached from its own. -/
def StatusOf (old : EngagementMetadata) (k : String) (w : LocalWorkspace) : Prop :=
  ∃ status, StatusPath old.status status ∧
    w.store.memory.metadataById.lookup k = some (old.withStatus status)

theorem StatusOf.step {old : EngagementMetadata} {k : String} {w w' : LocalWorkspace}
    {o : Operation} (h : StatusOf old k w)
    (hkeeps : KeepsMetadata o w.store.memory w'.store.memory) : StatusOf old k w' := by
  obtain ⟨status, hpath, hlookup⟩ := h
  obtain ⟨new, hnew, hstep⟩ := hkeeps k _ hlookup
  rcases hstep with rfl | ⟨status', write, -, hedge, rfl⟩
  · exact ⟨status, hpath, hnew⟩
  · exact ⟨status', hpath.tail hedge, hnew⟩

/-- **Metadata over a run.**  From the files a workspace opens with, over every run of operations
whose new metadata reaches the file: in each operation metadata that is stored stays as it is, but
for a status that `update_status` moves along an edge of the transition table; and between any two
moments only its status has changed, along a path of such edges. -/
theorem metadata_run {engagementFile policyFile : Option Json}
    {audit : List AuthorizationAuditRecord} {w : LocalWorkspace}
    (hopen : openWorkspace engagementFile policyFile audit = .ok w) {operations : List Operation}
    (h : Throughout operate (fun w o => Written w.store o) w operations) :
    (∀ before o after, operations = before ++ o :: after →
      KeepsMetadata o (final operate w before).store.memory
        (operate (final operate w before) o).1.store.memory) ∧
    (∀ before after, operations = before ++ after →
      ∀ k old, (final operate w before).store.memory.metadataById.lookup k = some old →
        StatusOf old k (final operate w operations)) := by
  have hfile : MetadataOnFile w.store := by
    unfold openWorkspace at hopen
    simp only [bind_eq_ok, pure_eq_ok, Except.ok.injEq] at hopen
    obtain ⟨m, hm, policies, -, rfl⟩ := hopen
    intro m' hm'
    have hload : load engagementFile = .ok m' := hm'
    rw [hm, Except.ok.injEq] at hload
    rw [hload]
  have hinv : ∀ before after, operations = before ++ after →
      MetadataOnFile (final operate w before).store := by
    rintro before after rfl
    refine invariant_of_throughout (I := fun w => MetadataOnFile w.store) ?_ hfile h.prefix
    intro w' o hwritten hI
    exact (metadataStep (storeStep w' o) hwritten hI).2
  have hstep : ∀ before o after, operations = before ++ o :: after →
      KeepsMetadata o (final operate w before).store.memory
        (operate (final operate w before) o).1.store.memory := by
    intro before o after hsplit
    exact (metadataStep (storeStep _ o) (h before o after hsplit)
      (hinv before (o :: after) hsplit)).1
  refine ⟨hstep, ?_⟩
  rintro before after rfl k old hold
  have hrun : MetadataOnFile (final operate (final operate w before) after).store ∧
      StatusOf old k (final operate (final operate w before) after) := by
    refine invariant_of_throughout (I := fun w' => MetadataOnFile w'.store ∧ StatusOf old k w')
      ?_ ⟨hinv before after rfl, old.status, .refl, hold⟩ h.suffix
    rintro w' o hwritten ⟨hI, hstatus⟩
    obtain ⟨hkeeps, hI'⟩ := metadataStep (storeStep w' o) hwritten hI
    exact ⟨hI', hstatus.step hkeeps⟩
  rw [final_append]
  exact hrun.2

/-- A planned engagement. -/
def plannedArgs : MetadataArgs where
  engagementId := "e"
  name := "n"
  createdAt := "2030-01-01T00:00:00Z"
  authorizationReference := "a"
  status := "planned"
  description := none

theorem planned : ∃ m : EngagementMetadata, m.status = .planned := by
  have hmake : plannedArgs.make.toOption.map (·.status) = some .planned := by decide +kernel
  obtain ⟨m, -, hm⟩ := Option.map_eq_some_iff.mp hmake
  exact ⟨m, hm⟩

/-- A workspace without files. -/
def newWorkspace : LocalWorkspace := ⟨⟨.empty, none⟩, ⟨∅, none⟩, []⟩

theorem openWorkspace_new : openWorkspace none none [] = .ok newWorkspace := rfl

/-- An engagement is created, activated and read back from disk. -/
theorem metadata_run_sample : ∃ m : EngagementMetadata, ∀ before after,
    [.call (.createEngagement m (.ok ())), .call (.updateStatus m.engagementId "active" (.ok ())),
      .reopen] = before ++ after →
    ∀ k old, (final operate newWorkspace before).store.memory.metadataById.lookup k = some old →
      StatusOf old k (final operate newWorkspace
        [.call (.createEngagement m (.ok ())),
          .call (.updateStatus m.engagementId "active" (.ok ())), .reopen]) := by
  obtain ⟨m, -⟩ := planned
  have hwritten : Throughout operate (fun w o => Written w.store o) newWorkspace
      [.call (.createEngagement m (.ok ())), .call (.updateStatus m.engagementId "active" (.ok ())),
        .reopen] := by
    apply throughout_cons
    · exact Or.inr rfl
    · apply throughout_cons
      · exact Or.inr rfl
      · exact throughout_cons trivial (throughout_nil _)
  exact ⟨m, (metadata_run openWorkspace_new hwritten).2⟩

/-- The write of a status change fails and the workspace is opened again: the status of the memory
was never on disk. -/
theorem lost_status : ¬ ∀ (before : List Operation) (o : Operation),
    KeepsMetadata o (final operate newWorkspace before).store.memory
      (operate (final operate newWorkspace before) o).1.store.memory := by
  intro hall
  obtain ⟨m, hplanned⟩ := planned
  have hkeeps := hall [.call (.createEngagement m (.ok ())),
    .call (.updateStatus m.engagementId EngagementStatus.active.text
      (.error ⟨.osError, "disk full"⟩))] .reopen
  rw [final_cons, final_cons, final_nil] at hkeeps
  -- the engagement is created and written
  have hnew : m.engagementId ∉ newWorkspace.store.memory.engagementSet := by
    simp [newWorkspace, engagementSet, InMemoryEngagementStore.empty]
  obtain ⟨document, hdocument⟩ := payload_ok (newWorkspace.store.memory.putMetadata m)
  have hstore₁ : (operate newWorkspace (.call (.createEngagement m (.ok ())))).1.store =
      ⟨newWorkspace.store.memory.putMetadata m, some document⟩ := by
    show (procedure _ newWorkspace).2.store = _
    rw [procedure, wrapped_state, createEngagement_new _ _ hnew, FileStore.persist,
      persist_of_ok (s := newWorkspace.store.setMemory (newWorkspace.store.memory.putMetadata m))
        hdocument]
    rfl
  have hpolicies₁ : (operate newWorkspace
      (.call (.createEngagement m (.ok ())))).1.policyStore = newWorkspace.policyStore := by
    show (procedure _ newWorkspace).2.policyStore = _
    rw [procedure, wrapped_state]
    exact keeps_createEngagement m (.ok ()) newWorkspace
  generalize (operate newWorkspace (.call (.createEngagement m (.ok ())))).1 = w₁ at *
  -- the change of its status reaches the memory only
  have hold : w₁.store.memory.metadataById.lookup m.engagementId = some m := by
    rw [hstore₁]
    exact Finmap.lookup_insert _
  have hedge : EngagementStatus.active ∈ statusTransitions m.status := by
    rw [hplanned]
    decide
  have hstore₂ : (operate w₁ (.call (.updateStatus m.engagementId EngagementStatus.active.text
      (.error ⟨.osError, "disk full"⟩)))).1.store =
      ⟨w₁.store.memory.putMetadata (m.withStatus .active), some document⟩ := by
    show (procedure _ w₁).2.store = _
    rw [procedure, wrapped_state, updateStatus_edge _ _ hold hedge, FileStore.persist,
      persist_failed, hstore₁]
    rfl
  have hpolicies₂ : (operate w₁ (.call (.updateStatus m.engagementId
      EngagementStatus.active.text (.error ⟨.osError, "disk full"⟩)))).1.policyStore =
      newWorkspace.policyStore := by
    show (procedure _ w₁).2.policyStore = _
    rw [procedure, wrapped_state, ← hpolicies₁]
    exact keeps_updateStatus _ _ _ w₁
  generalize (operate w₁ (.call (.updateStatus m.engagementId EngagementStatus.active.text
    (.error ⟨.osError, "disk full"⟩)))).1 = w₂ at *
  -- what is read back is what was written first
  have hclean : ∀ k r, (newWorkspace.store.memory.putMetadata m).recordsByKey.lookup k = some r →
      r.TuplesClean := by
    intro k r hr
    have hnone : (newWorkspace.store.memory.putMetadata m).recordsByKey.lookup k = none :=
      Finmap.lookup_empty k
    rw [hnone] at hr
    cases hr
  obtain ⟨m₃, hload, hreread⟩ := load_payload_of_clean hdocument hclean
  have hopen : openWorkspace w₂.store.file w₂.policyStore.file w₂.audit =
      .ok ⟨⟨m₃, some document⟩, newWorkspace.policyStore, w₂.audit⟩ := by
    rw [hstore₂, hpolicies₂, openWorkspace, hload]
    rfl
  have hmemory : (operate w₂ .reopen).1.store.memory = m₃ := by
    unfold operate
    rw [hopen]
  have hactive : w₂.store.memory.metadataById.lookup m.engagementId =
      some (m.withStatus .active) := by
    rw [hstore₂]
    exact Finmap.lookup_insert _
  obtain ⟨new, hnew₃, hstep⟩ := hkeeps _ _ hactive
  have hread : m₃.metadataById.lookup m.engagementId = some m := by
    rw [hreread.metadata]
    exact Finmap.lookup_insert _
  rw [hmemory, hread, Option.some.injEq] at hnew₃
  subst hnew₃
  rcases hstep with heq | ⟨status, write, ho, -⟩
  · have hstatus := congrArg EngagementMetadata.status heq
    rw [hplanned] at hstatus
    cases hstatus
  · cases ho

end NightRecon.SharedCore.Workspace
