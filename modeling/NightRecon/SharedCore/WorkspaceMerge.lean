import NightRecon.Lib.Keyed
import NightRecon.SharedCore.FileAppend
import NightRecon.SharedCore.Workspace

/-!
# Merging envelopes into a workspace

`merge_envelope` of `nightrecon_shared_core/workspace.py`.

* `lookup_merged` — a merged store holds the envelope's record under a key, or else its own;
* `merged_merged`, `merged_comm` — merging twice is merging once, and two envelopes that can be
  merged in either order give equal stores;
* `mergeEnvelope_refused`, `mergeEnvelope_accepted` — what a merge does;
* `merge_envelope` — which merges are applied, with what result, and how they compose.
-/

namespace NightRecon.SharedCore.Workspace

open NightRecon.Lib
open NightRecon.Lib.Checks
open NightRecon.Lib.FileBacked
open NightRecon.Lib.Text
open NightRecon.SharedCore.Contracts
open NightRecon.SharedCore.FileStore
open NightRecon.SharedCore.Store
open NightRecon.SharedCore.Store.InMemoryEngagementStore

/-! ## The algebra of merging -/

/-- A store is what its two dictionaries show. -/
theorem store_ext {m m' : InMemoryEngagementStore} (hmetadata : m.metadataById = m'.metadataById)
    (hrecords : m.recordsByKey = m'.recordsByKey) : m = m' := by
  cases m
  cases m'
  simp only at hmetadata hrecords
  subst hmetadata hrecords
  rfl

/-- The record of an envelope under a key. -/
def recordAt (e : EngagementEnvelope) (k : String × String) : Option EvidenceRecord :=
  if k.1 = e.engagementId then recordIn e k.2 else none

/-- The metadata of an envelope under an engagement identifier. -/
def metadataAt (e : EngagementEnvelope) (k : String) : Option EngagementMetadata :=
  if k = e.engagementId then e.metadata else none

/-- **A merged store is the union.** -/
theorem lookup_merged (m : InMemoryEngagementStore) (e : EngagementEnvelope)
    (k : String × String) :
    (merged m e).recordsByKey.lookup k = (recordAt e k).or (m.recordsByKey.lookup k) := by
  rw [merged, lookup_records_put, recordAt]
  by_cases hk : k.1 = e.engagementId
  · rw [if_pos hk, if_pos hk]
  · rw [if_neg hk, if_neg hk, Option.none_or]

theorem lookup_metadata_merged (m : InMemoryEngagementStore) (e : EngagementEnvelope)
    (k : String) :
    (merged m e).metadataById.lookup k = (metadataAt e k).or (m.metadataById.lookup k) := by
  rw [merged, lookup_metadata_put, metadataAt]
  by_cases hk : k = e.engagementId
  · rw [if_pos hk, if_pos hk]
  · rw [if_neg hk, if_neg hk, Option.none_or]

/-- A record of an envelope is found under its own identifiers. -/
theorem recordAt_eq_some {e : EngagementEnvelope} {k : String × String} {r : EvidenceRecord} :
    recordAt e k = some r ↔ r ∈ e.records ∧ (r.engagementId, r.evidenceId) = k := by
  unfold recordAt recordIn
  constructor
  · intro h
    by_cases hk : k.1 = e.engagementId
    · rw [if_pos hk] at h
      have hmem := List.mem_of_find?_eq_some h
      have hid := List.find?_some h
      refine ⟨hmem, ?_⟩
      rw [e.records_belong r hmem, of_decide_eq_true hid, ← hk]
    · rw [if_neg hk] at h
      cases h
  · rintro ⟨hmem, rfl⟩
    rw [if_pos (e.records_belong r hmem)]
    exact (Keyed.find?_eq_some_iff e.ids_nodup).mpr ⟨hmem, rfl⟩

/-- What an accepted envelope and the store have in common is equal. -/
theorem same_of_not_refused {m : InMemoryEngagementStore} {e : EngagementEnvelope}
    (h : ¬ Refused m e) {k : String × String} {r r' : EvidenceRecord}
    (hr : recordAt e k = some r) (hr' : m.recordsByKey.lookup k = some r') : r'.Same r := by
  obtain ⟨hmem, rfl⟩ := recordAt_eq_some.mp hr
  exact (not_refused_iff.mp h).2 r hmem r' hr'

theorem metadata_of_not_refused {m : InMemoryEngagementStore} {e : EngagementEnvelope}
    (h : ¬ Refused m e) {k : String} {new old : EngagementMetadata}
    (hnew : metadataAt e k = some new) (hold : m.metadataById.lookup k = some old) : old = new := by
  unfold metadataAt at hnew
  by_cases hk : k = e.engagementId
  · subst hk
    rw [if_pos rfl] at hnew
    exact (not_refused_iff.mp h).1 new hnew old hold
  · rw [if_neg hk] at hnew
    cases hnew

/-- **Merging an envelope twice is merging it once.** -/
theorem merged_merged (m : InMemoryEngagementStore) (e : EngagementEnvelope) :
    merged (merged m e) e = merged m e := by
  apply store_ext
  · apply Finmap.ext_lookup
    intro k
    rw [lookup_metadata_merged, lookup_metadata_merged]
    cases metadataAt e k <;> rfl
  · apply Finmap.ext_lookup
    intro k
    rw [lookup_merged, lookup_merged]
    cases recordAt e k <;> rfl

/-- A merged envelope is known. -/
theorem known_merged (m : InMemoryEngagementStore) (e : EngagementEnvelope) :
    ¬ Refused (merged m e) e ∧ Known (merged m e) e := by
  have hmetadata : ∀ new ∈ e.metadata,
      (merged m e).metadataById.lookup e.engagementId = some new := by
    intro new hnew
    rw [lookup_metadata_merged, metadataAt, if_pos rfl, hnew, Option.some_or]
  have hrecords : ∀ r ∈ e.records, (merged m e).existing r = some r := by
    intro r hr
    rw [existing, lookup_merged, recordAt_eq_some.mpr ⟨hr, rfl⟩, Option.some_or]
  refine ⟨not_refused_iff.mpr ⟨?_, ?_⟩, hmetadata, ?_⟩
  · intro new hnew old hold
    rw [hmetadata new hnew] at hold
    exact (Option.some.inj hold).symm
  · intro r hr r' hr'
    rw [hrecords r hr] at hr'
    obtain rfl := Option.some.inj hr'
    exact .refl _
  · intro r hr
    rw [hrecords r hr]
    rfl

/-- **Two envelopes that can be merged in either order give equal stores.** -/
theorem merged_comm {m : InMemoryEngagementStore} {e₁ e₂ : EngagementEnvelope}
    (h₁₂ : ¬ Refused (merged m e₁) e₂) :
    Related EvidenceRecord.Same (merged (merged m e₁) e₂) (merged (merged m e₂) e₁) := by
  refine ⟨?_, ?_⟩
  · apply Finmap.ext_lookup
    intro k
    rw [lookup_metadata_merged, lookup_metadata_merged, lookup_metadata_merged,
      lookup_metadata_merged]
    cases hnew₁ : metadataAt e₁ k with
    | none => cases metadataAt e₂ k <;> rfl
    | some new₁ =>
      cases hnew₂ : metadataAt e₂ k with
      | none => rfl
      | some new₂ =>
        have hold : (merged m e₁).metadataById.lookup k = some new₁ := by
          rw [lookup_metadata_merged, hnew₁, Option.some_or]
        rw [Option.some_or, Option.some_or, metadata_of_not_refused h₁₂ hnew₂ hold]
  · intro k
    have hold : ∀ r₁, recordAt e₁ k = some r₁ →
        (merged m e₁).recordsByKey.lookup k = some r₁ := by
      intro r₁ hr₁
      rw [lookup_merged, hr₁, Option.some_or]
    rw [lookup_merged, lookup_merged, lookup_merged, lookup_merged]
    cases hr₁ : recordAt e₁ k with
    | none =>
      cases recordAt e₂ k with
      | some r₂ => exact .some (.refl r₂)
      | none =>
        simp only [Option.none_or]
        cases m.recordsByKey.lookup k with
        | none => exact .none
        | some r => exact .some (.refl r)
    | some r₁ =>
      cases hr₂ : recordAt e₂ k with
      | none => exact .some (.refl r₁)
      | some r₂ => exact .some (same_of_not_refused h₁₂ hr₂ (hold r₁ hr₁)).symm

/-! ## What a merge does -/

section Merge

variable {w : LocalWorkspace} {e : EngagementEnvelope} (write : Py Unit)

/-- The envelope of an engagement that does not exist. -/
def emptyEnvelope {engagementId : String} (h : requiredText engagementId) :
    EngagementEnvelope where
  engagementId := engagementId
  records := []
  metadata := none
  engagementId_required := h
  records_belong := fun _ h => absurd h List.not_mem_nil
  metadata_belongs := fun _ h => absurd h (Option.not_mem_none _)
  ids_nodup := List.nodup_nil

/-- The merge starts from what is stored. -/
theorem currentEnvelope_eq (e : EngagementEnvelope) (w : LocalWorkspace) :
    ∃ current, currentEnvelope e w = (.ok current, w) ∧
      current.metadata = w.store.memory.metadataById.lookup e.engagementId ∧
      ∀ r ∈ e.records, recordIn current r.evidenceId = w.store.memory.existing r := by
  have hexisting : ∀ r ∈ e.records, w.store.memory.existing r =
      w.store.memory.recordsByKey.lookup (e.engagementId, r.evidenceId) := by
    intro r hr
    rw [existing, e.records_belong r hr]
  by_cases hmem : e.engagementId ∈ w.store.memory.engagementSet
  · refine ⟨w.store.memory.envelopeOf e.engagementId e.engagementId_required, ?_, rfl, ?_⟩
    · simp only [currentEnvelope, Proc.bind_apply, Proc.get_apply, Proc.ofExcept_apply,
        if_pos hmem, exportEnvelope_of_required e.engagementId_required]
    · intro r hr
      rw [hexisting r hr, recordIn_envelopeOf]
  · have hmake : EngagementEnvelope.make e.engagementId [] none =
        .ok (emptyEnvelope e.engagementId_required) :=
      (emptyEnvelope e.engagementId_required).make_fields
    refine ⟨emptyEnvelope e.engagementId_required, ?_, ?_, ?_⟩
    · simp only [currentEnvelope, Proc.bind_apply, Proc.get_apply, Proc.ofExcept_apply,
        if_neg hmem, hmake]
    · cases hold : w.store.memory.metadataById.lookup e.engagementId with
      | none => rfl
      | some old => exact absurd (mem_engagementSet_of_metadata hold) hmem
    · intro r hr
      rw [hexisting r hr]
      cases hold : w.store.memory.recordsByKey.lookup (e.engagementId, r.evidenceId) with
      | none => rfl
      | some old => exact absurd (mem_engagementSet_of_lookup hold) hmem

/-- The two conflicts a merge looks for are those the store refuses. -/
theorem conflict_iff {current : EngagementEnvelope}
    (hmetadata : current.metadata = w.store.memory.metadataById.lookup e.engagementId)
    (hrecords : ∀ r ∈ e.records, recordIn current r.evidenceId = w.store.memory.existing r) :
    (decide (∃ m ∈ current.metadata, ∃ m' ∈ e.metadata, m ≠ m') = true ∨
      e.records.filter (fun r => (recordIn current r.evidenceId).any fun r' => !decide (r'.Same r))
        ≠ []) ↔ Refused w.store.memory e := by
  unfold Refused
  apply or_congr
  · rw [decide_eq_true_iff, hmetadata]
    constructor
    · rintro ⟨old, hold, new, hnew, hne⟩
      exact ⟨new, hnew, old, hold, hne⟩
    · rintro ⟨new, hnew, old, hold, hne⟩
      exact ⟨old, hold, new, hnew, hne⟩
  · rw [ne_eq, List.eq_nil_iff_forall_not_mem]
    push Not
    simp only [List.mem_filter]
    constructor
    · rintro ⟨r, hr, hconflict⟩
      rw [hrecords r hr] at hconflict
      exact ⟨r, hr, hconflict⟩
    · rintro ⟨r, hr, hconflict⟩
      refine ⟨r, hr, ?_⟩
      rw [hrecords r hr]
      exact hconflict

/-- The new records of an envelope, and those that are stored. -/
def newRecords (m : InMemoryEngagementStore) (e : EngagementEnvelope) : List EvidenceRecord :=
  e.records.filter fun r => (m.existing r).isNone

def presentRecords (m : InMemoryEngagementStore) (e : EngagementEnvelope) : List EvidenceRecord :=
  e.records.filter fun r => (m.existing r).isSome

/-- A refused merge reports the conflict and changes nothing. -/
theorem mergeEnvelope_refused (h : Refused w.store.memory e) :
    ∃ report, mergeEnvelope e write w = (.ok report, w) ∧ report.applied = false := by
  obtain ⟨current, hcurrent, hmetadata, hrecords⟩ := currentEnvelope_eq e w
  have hconflict := (conflict_iff hmetadata hrecords).mpr h
  unfold mergeEnvelope
  rw [Proc.bind_of_ok hcurrent]
  rw [if_pos hconflict]
  exact ⟨_, rfl, rfl⟩

/-- A merge that is not refused appends the envelope, and reports what was new and what was
there. -/
theorem mergeEnvelope_accepted (h : ¬ Refused w.store.memory e) :
    (∀ s, FileStore.appendEnvelope e write w.store = (.ok (), s) →
      ∃ report, mergeEnvelope e write w = (.ok report, { w with store := s }) ∧
        report.applied = true ∧ report.engagementId = e.engagementId ∧
        report.addedRecords = (newRecords w.store.memory e).length ∧
        report.identicalRecords = (presentRecords w.store.memory e).length) ∧
    (∀ x s, FileStore.appendEnvelope e write w.store = (.error x, s) →
      mergeEnvelope e write w = (.error x, { w with store := s })) := by
  obtain ⟨current, hcurrent, hmetadata, hrecords⟩ := currentEnvelope_eq e w
  have hconflict := mt (conflict_iff hmetadata hrecords).mp h
  have hadded : e.records.filter (fun r => (recordIn current r.evidenceId).isNone) =
      newRecords w.store.memory e := by
    apply List.filter_congr
    intro r hr
    rw [hrecords r hr]
  have hidentical : e.records.filter (fun r =>
      (recordIn current r.evidenceId).any fun r' => decide (r'.Same r)) =
        presentRecords w.store.memory e := by
    apply List.filter_congr
    intro r hr
    rw [hrecords r hr]
    cases hold : w.store.memory.existing r with
    | none => rfl
    | some old => exact decide_eq_true ((not_refused_iff.mp h).2 r hr old hold)
  refine ⟨?_, ?_⟩
  · intro s hs
    have hstore : onStore (FileStore.appendEnvelope e write) w = (.ok (), { w with store := s }) := by
      rw [onStore, Proc.zoom_apply, hs]
    unfold mergeEnvelope
    rw [Proc.bind_of_ok hcurrent]
    rw [if_neg hconflict, Proc.bind_of_ok hstore]
    simp only [Proc.bind_apply, Proc.get_apply, Proc.ofExcept_apply,
      exportEnvelope_of_required e.engagementId_required, Proc.pure_apply]
    exact ⟨_, rfl, rfl, rfl, congrArg List.length hadded, congrArg List.length hidentical⟩
  · intro x s hs
    have hstore : onStore (FileStore.appendEnvelope e write) w = (.error x, { w with store := s }) := by
      rw [onStore, Proc.zoom_apply, hs]
    unfold mergeEnvelope
    rw [Proc.bind_of_ok hcurrent]
    rw [if_neg hconflict, Proc.bind_of_error hstore]

/-- The memory after an envelope that is not refused is the merged one, however the write ends. -/
theorem appendEnvelope_merged (s : FileEngagementStore) (h : ¬ Refused s.memory e) :
    (FileStore.appendEnvelope e write s).2.memory = merged s.memory e := by
  by_cases hknown : Known s.memory e
  · rw [appendEnvelope_known h hknown, setMemory_memory]
  · rw [appendEnvelope_new h hknown, FileStore.persist, persist_memory, setMemory_memory]

/-- A merge that is not refused changes the engagement store only. -/
theorem mergeEnvelope_state (h : ¬ Refused w.store.memory e) :
    (mergeEnvelope e write w).2 =
      { w with store := (FileStore.appendEnvelope e write w.store).2 } := by
  obtain ⟨hok, herror⟩ := mergeEnvelope_accepted write h
  cases happend : FileStore.appendEnvelope e write w.store with
  | mk r s =>
    cases r with
    | ok u =>
      obtain ⟨report, hmerge, -⟩ := hok s happend
      rw [hmerge]
    | error x => rw [herror x s happend]

theorem mergeEnvelope_memory (h : ¬ Refused w.store.memory e) :
    (mergeEnvelope e write w).2.store.memory = merged w.store.memory e := by
  rw [mergeEnvelope_state write h]
  exact appendEnvelope_merged write w.store h

/-- Merging an envelope again changes nothing, in memory or on disk. -/
theorem mergeEnvelope_again (write' : Py Unit) :
    (mergeEnvelope e write' (mergeEnvelope e write w).2).2 = (mergeEnvelope e write w).2 := by
  by_cases h : Refused w.store.memory e
  · obtain ⟨report, hmerge, -⟩ := mergeEnvelope_refused write h
    obtain ⟨report', hmerge', -⟩ := mergeEnvelope_refused write' h
    rw [hmerge, hmerge']
  · have hmemory := mergeEnvelope_memory write h
    generalize (mergeEnvelope e write w).2 = w' at hmemory
    obtain ⟨hrefused, hknown⟩ := known_merged w.store.memory e
    rw [← hmemory] at hrefused hknown
    rw [mergeEnvelope_state write' hrefused, appendEnvelope_known hrefused hknown]
    show ({ w' with store := w'.store.setMemory (merged w'.store.memory e) } : LocalWorkspace) = w'
    rw [hmemory, merged_merged, ← hmemory, setMemory_self]

/-- What a returned report says. -/
theorem mergeEnvelope_report {report : MergeReport}
    (hreport : (mergeEnvelope e write w).1 = .ok report) :
    report.applied = true ↔ ¬ Refused w.store.memory e := by
  by_cases h : Refused w.store.memory e
  · obtain ⟨report', hmerge, happlied⟩ := mergeEnvelope_refused write h
    rw [hmerge, Except.ok.injEq] at hreport
    rw [← hreport, happlied]
    exact iff_of_false Bool.false_ne_true (not_not.mpr h)
  · obtain ⟨hok, herror⟩ := mergeEnvelope_accepted write h
    cases happend : FileStore.appendEnvelope e write w.store with
    | mk r s =>
      cases r with
      | ok u =>
        obtain ⟨report', hmerge, happlied, -⟩ := hok s happend
        rw [hmerge, Except.ok.injEq] at hreport
        rw [← hreport, happlied]
        exact iff_of_true rfl h
      | error x =>
        rw [herror x s happend] at hreport
        cases hreport

end Merge

/-- **Merging an envelope.**  For every workspace, envelope and outcome of the file write:

* a refused merge (stored metadata that differs, or a stored record with the same identifier and
  different content) reports that it was not applied and changes nothing;
* any other merge stores exactly the union of both, what they have in common being equal, and
  when its write succeeds reports that it was applied, how many records were new and how many were
  there; no other report says that a merge was applied;
* merging the envelope again changes nothing;
* two envelopes that can be merged in either order give equal stores in both orders. -/
theorem merge_envelope (w : LocalWorkspace) (e : EngagementEnvelope) (write : Py Unit) :
    (Refused w.store.memory e →
      ∃ report, mergeEnvelope e write w = (.ok report, w) ∧ report.applied = false) ∧
    (¬ Refused w.store.memory e →
      (∀ k, (mergeEnvelope e write w).2.store.memory.recordsByKey.lookup k =
        (recordAt e k).or (w.store.memory.recordsByKey.lookup k)) ∧
      (∀ k, (mergeEnvelope e write w).2.store.memory.metadataById.lookup k =
        (metadataAt e k).or (w.store.memory.metadataById.lookup k)) ∧
      (∀ k r r', recordAt e k = some r → w.store.memory.recordsByKey.lookup k = some r' →
        r'.Same r) ∧
      (∀ k new old, metadataAt e k = some new → w.store.memory.metadataById.lookup k = some old →
        old = new) ∧
      (write = .ok () → ∃ report, (mergeEnvelope e write w).1 = .ok report ∧
        report.applied = true ∧ report.addedRecords = (newRecords w.store.memory e).length ∧
        report.identicalRecords = (presentRecords w.store.memory e).length)) ∧
    (∀ report, (mergeEnvelope e write w).1 = .ok report →
      (report.applied = true ↔ ¬ Refused w.store.memory e)) ∧
    (∀ write', (mergeEnvelope e write' (mergeEnvelope e write w).2).2 =
      (mergeEnvelope e write w).2) ∧
    (∀ e' write', ¬ Refused w.store.memory e → ¬ Refused w.store.memory e' →
      ¬ Refused (mergeEnvelope e write w).2.store.memory e' →
      ¬ Refused (mergeEnvelope e' write' w).2.store.memory e →
      Related EvidenceRecord.Same
        (mergeEnvelope e' write' (mergeEnvelope e write w).2).2.store.memory
        (mergeEnvelope e write (mergeEnvelope e' write' w).2).2.store.memory) := by
  refine ⟨mergeEnvelope_refused write, ?_, fun _ => mergeEnvelope_report write,
    mergeEnvelope_again write, ?_⟩
  · intro h
    refine ⟨?_, ?_, fun k r r' => same_of_not_refused h, fun k new old =>
      metadata_of_not_refused h, ?_⟩
    · intro k
      rw [mergeEnvelope_memory write h, lookup_merged]
    · intro k
      rw [mergeEnvelope_memory write h, lookup_metadata_merged]
    · rintro rfl
      obtain ⟨hok, -⟩ := mergeEnvelope_accepted (.ok ()) h
      have happend : ∃ s, FileStore.appendEnvelope e (.ok ()) w.store = (.ok (), s) := by
        by_cases hknown : Known w.store.memory e
        · exact ⟨_, appendEnvelope_known h hknown⟩
        · obtain ⟨document, hdocument⟩ := payload_ok (merged w.store.memory e)
          rw [appendEnvelope_new h hknown]
          exact ⟨_, FileBacked.persist_of_ok (s := w.store.setMemory _) hdocument⟩
      obtain ⟨s, hs⟩ := happend
      obtain ⟨report, hmerge, happlied, -, hadded, hidentical⟩ := hok s hs
      exact ⟨report, by rw [hmerge], happlied, hadded, hidentical⟩
  · intro e' write' h h' h₁₂ h₂₁
    rw [mergeEnvelope_memory write' h₁₂, mergeEnvelope_memory write h,
      mergeEnvelope_memory write h₂₁, mergeEnvelope_memory write' h']
    rw [mergeEnvelope_memory write h] at h₁₂
    exact merged_comm h₁₂

end NightRecon.SharedCore.Workspace
