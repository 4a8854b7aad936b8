import NightRecon.Lib.Dict
import NightRecon.SharedCore.Contracts

/-!
# The in-memory engagement store

`nightrecon_shared_core/store.py`.  The store keeps its records under the pair of their two
identifiers and its metadata under the engagement identifier; both facts are fields of the
structure, so no operation can file a record under a foreign key.

* `setMetadata`, `replaceMetadata`, `append`, `appendEnvelope` — the mutating operations;
* `records`, `exportEnvelope`, `engagements` — the views, sorted by identifier.
-/

namespace NightRecon.SharedCore.Store

open NightRecon.Lib
open NightRecon.Lib.Checks
open NightRecon.Lib.Text
open NightRecon.SharedCore.Contracts

def evidenceConflictError (evidenceId : String) : Exn :=
  ⟨.evidenceConflictError, "conflicting evidence_id already exists: " ++ evidenceId⟩

def metadataConflictError (engagementId : String) : Exn :=
  ⟨.metadataConflictError, "conflicting engagement metadata already exists: " ++ engagementId⟩

/-- Source: `store.py` `InMemoryEngagementStore`. -/
structure InMemoryEngagementStore where
  recordsByKey : Dict (String × String) EvidenceRecord
  metadataById : Dict String EngagementMetadata
  records_keyed : ∀ k r, recordsByKey.lookup k = some r → k = (r.engagementId, r.evidenceId)
  metadata_keyed : ∀ k m, metadataById.lookup k = some m → k = m.engagementId

namespace InMemoryEngagementStore

/-- The store a constructor call gives. -/
def empty : InMemoryEngagementStore where
  recordsByKey := ∅
  metadataById := ∅
  records_keyed := by simp
  metadata_keyed := by simp

/-- `self._metadata[metadata.engagement_id] = metadata`. -/
def putMetadata (s : InMemoryEngagementStore) (m : EngagementMetadata) :
    InMemoryEngagementStore where
  recordsByKey := s.recordsByKey
  metadataById := s.metadataById.insert m.engagementId m
  records_keyed := s.records_keyed
  metadata_keyed := by
    intro k m' h
    rw [Dict.lookup_insert_eq] at h
    split at h
    · rename_i hk
      rw [← Option.some_inj.mp h]
      exact hk
    · exact s.metadata_keyed k m' h

/-- `self._records[(record.engagement_id, record.evidence_id)] = record`. -/
def putRecord (s : InMemoryEngagementStore) (r : EvidenceRecord) : InMemoryEngagementStore where
  recordsByKey := s.recordsByKey.insert (r.engagementId, r.evidenceId) r
  metadataById := s.metadataById
  metadata_keyed := s.metadata_keyed
  records_keyed := by
    intro k r' h
    rw [Dict.lookup_insert_eq] at h
    split at h
    · rename_i hk
      rw [← Option.some_inj.mp h]
      exact hk
    · exact s.records_keyed k r' h

/-- The stored record under the identifiers of another. -/
def existing (s : InMemoryEngagementStore) (r : EvidenceRecord) : Option EvidenceRecord :=
  s.recordsByKey.lookup (r.engagementId, r.evidenceId)

/-- The check of the two views on their argument. -/
def requireNonblank (engagementId : String) : Py Unit :=
  raiseIf (strip engagementId = "") (valueError "engagement_id must be a nonblank string")

/-- Source: `store.py` `metadata`. -/
def metadata (s : InMemoryEngagementStore) (engagementId : String) :
    Py (Option EngagementMetadata) := do
  requireNonblank engagementId
  return s.metadataById.lookup engagementId

/-- The evidence identifiers of an engagement, sorted. -/
def evidenceIds (s : InMemoryEngagementStore) (engagementId : String) : List String :=
  ((s.recordsByKey.keys.filter fun k => k.1 = engagementId).image Prod.snd).sort (· ≤ ·)

/-- The records of an engagement, sorted by evidence identifier. -/
def recordsOf (s : InMemoryEngagementStore) (engagementId : String) : List EvidenceRecord :=
  (s.evidenceIds engagementId).filterMap fun evidenceId =>
    s.recordsByKey.lookup (engagementId, evidenceId)

/-- Source: `store.py` `records`, without its two optional filters. -/
def records (s : InMemoryEngagementStore) (engagementId : String) : Py (List EvidenceRecord) := do
  requireNonblank engagementId
  return s.recordsOf engagementId

/-- Source: `store.py` `export_envelope`. -/
def exportEnvelope (s : InMemoryEngagementStore) (engagementId : String) :
    Py EngagementEnvelope := do
  let metadata ← s.metadata engagementId
  let records ← s.records engagementId
  EngagementEnvelope.make engagementId records metadata

/-- The engagements with metadata or a record. -/
def engagementSet (s : InMemoryEngagementStore) : Finset String :=
  s.metadataById.keys ∪ s.recordsByKey.keys.image Prod.fst

/-- Source: `store.py` `engagements`. -/
def engagements (s : InMemoryEngagementStore) : List String := s.engagementSet.sort (· ≤ ·)

/-! ## The mutating operations -/

/-- Source: `store.py` `set_metadata`. -/
def setMetadata (s : InMemoryEngagementStore) (m : EngagementMetadata) :
    Py InMemoryEngagementStore :=
  match s.metadataById.lookup m.engagementId with
  | none => .ok (s.putMetadata m)
  | some existing =>
      if existing = m then .ok s else .error (metadataConflictError m.engagementId)

/-- Source: `store.py` `replace_metadata`. -/
def replaceMetadata (s : InMemoryEngagementStore) (m : EngagementMetadata) :
    Py InMemoryEngagementStore := do
  require (m.engagementId ∈ s.metadataById)
    (valueError ("engagement metadata not found: " ++ m.engagementId))
  return s.putMetadata m

/-- Source: `store.py` `append`. -/
def append (s : InMemoryEngagementStore) (r : EvidenceRecord) : Py InMemoryEngagementStore :=
  match s.existing r with
  | none => .ok (s.putRecord r)
  | some r' => if r'.Same r then .ok s else .error (evidenceConflictError r.evidenceId)

/-- Whether a stored record differs from a given one with its identifiers. -/
def conflicts (s : InMemoryEngagementStore) (r : EvidenceRecord) : Bool :=
  (s.existing r).any fun r' => !decide (r'.Same r)

/-- The records of an envelope stored one after another. -/
def putRecords (s : InMemoryEngagementStore) (l : List EvidenceRecord) : InMemoryEngagementStore :=
  l.foldl putRecord s

/-- The metadata of an envelope stored, when it has any. -/
def putMetadata? (s : InMemoryEngagementStore) (m : Option EngagementMetadata) :
    InMemoryEngagementStore :=
  (m.map s.putMetadata).getD s

/-- All checks come before the first change.
Source: `store.py` `append_envelope`. -/
def appendEnvelope (s : InMemoryEngagementStore) (e : EngagementEnvelope) :
    Py InMemoryEngagementStore := do
  raiseIf (∃ m ∈ e.metadata, ∃ m' ∈ s.metadataById.lookup e.engagementId, m' ≠ m)
    (metadataConflictError e.engagementId)
  match e.records.find? s.conflicts with
  | some r => throw (evidenceConflictError r.evidenceId)
  | none => return (s.putMetadata? e.metadata).putRecords e.records

/-! ## What the mutations store -/

@[simp] theorem putRecords_metadataById (s : InMemoryEngagementStore) (l : List EvidenceRecord) :
    (s.putRecords l).metadataById = s.metadataById := by
  induction l generalizing s with
  | nil => rfl
  | cons r l ih => exact ih (s.putRecord r)

@[simp] theorem putMetadata?_recordsByKey (s : InMemoryEngagementStore)
    (m : Option EngagementMetadata) : (s.putMetadata? m).recordsByKey = s.recordsByKey := by
  cases m <;> rfl

/-- Records under distinct keys are all found after they were stored. -/
theorem lookup_putRecords (s : InMemoryEngagementStore) (l : List EvidenceRecord)
    (h : (l.map fun r => (r.engagementId, r.evidenceId)).Nodup) (k : String × String) :
    (s.putRecords l).recordsByKey.lookup k =
      (l.find? fun r => (r.engagementId, r.evidenceId) = k).or (s.recordsByKey.lookup k) := by
  induction l generalizing s with
  | nil => rfl
  | cons r l ih =>
    rw [List.map_cons, List.nodup_cons] at h
    have hput : (s.putRecord r).recordsByKey.lookup k =
        if k = (r.engagementId, r.evidenceId) then some r else s.recordsByKey.lookup k :=
      Dict.lookup_insert_eq _ _ _ _
    show ((s.putRecord r).putRecords l).recordsByKey.lookup k = _
    rw [ih (s.putRecord r) h.2, hput, List.find?_cons]
    by_cases hk : (r.engagementId, r.evidenceId) = k
    · have hnone : l.find? (fun r' => decide ((r'.engagementId, r'.evidenceId) = k)) = none := by
        rw [List.find?_eq_none]
        intro r' hr' heq
        apply h.1
        rw [hk, ← of_decide_eq_true heq]
        exact List.mem_map_of_mem hr'
      rw [hnone, if_pos hk.symm, decide_eq_true hk]
      rfl
    · rw [if_neg (Ne.symm hk), decide_eq_false hk]

/-- The record of an envelope under an evidence identifier. -/
def recordIn (e : EngagementEnvelope) (evidenceId : String) : Option EvidenceRecord :=
  e.records.find? (·.evidenceId = evidenceId)

theorem conflicts_eq_false {s : InMemoryEngagementStore} {r : EvidenceRecord} :
    s.conflicts r = false ↔ ∀ r' ∈ s.existing r, r'.Same r := by
  unfold conflicts
  cases s.existing r <;> simp

/-- **What an envelope does to the store**: it is taken when nothing stored differs from it. -/
theorem appendEnvelope_eq_ok {s s' : InMemoryEngagementStore} {e : EngagementEnvelope} :
    s.appendEnvelope e = .ok s' ↔
      (∀ m ∈ e.metadata, ∀ m' ∈ s.metadataById.lookup e.engagementId, m' = m) ∧
        (∀ r ∈ e.records, ∀ r' ∈ s.existing r, r'.Same r) ∧
        s' = (s.putMetadata? e.metadata).putRecords e.records := by
  unfold appendEnvelope
  rw [raiseIf_bind_eq_ok]
  apply and_congr
  · push Not
    exact Iff.rfl
  · cases hfind : e.records.find? s.conflicts with
    | some r =>
      simp only [throw_eq_error, reduceCtorEq, false_iff, not_and]
      intro hall
      have hr := List.find?_some hfind
      rw [conflicts_eq_false.mpr (hall r (List.mem_of_find?_eq_some hfind))] at hr
      exact absurd hr Bool.false_ne_true
    | none =>
      rw [List.find?_eq_none] at hfind
      have hall : ∀ r ∈ e.records, ∀ r' ∈ s.existing r, r'.Same r := by
        intro r hr
        exact conflicts_eq_false.mp (Bool.not_eq_true _ ▸ hfind r hr)
      simp only [pure_eq_ok, Except.ok.injEq]
      exact ⟨fun h => ⟨hall, h.symm⟩, fun h => h.2.symm⟩

/-- The metadata after an envelope was stored. -/
theorem lookup_metadata_put (s : InMemoryEngagementStore) (e : EngagementEnvelope) (k : String) :
    ((s.putMetadata? e.metadata).putRecords e.records).metadataById.lookup k =
      if k = e.engagementId then e.metadata.or (s.metadataById.lookup k)
      else s.metadataById.lookup k := by
  rw [putRecords_metadataById]
  cases hm : e.metadata with
  | none =>
    show s.metadataById.lookup k = _
    split <;> rfl
  | some m =>
    show (s.metadataById.insert m.engagementId m).lookup k = _
    rw [Dict.lookup_insert_eq, e.metadata_belongs m hm]
    rfl

/-- The records after an envelope was stored. -/
theorem lookup_records_put (s : InMemoryEngagementStore) (e : EngagementEnvelope)
    (k : String × String) :
    ((s.putMetadata? e.metadata).putRecords e.records).recordsByKey.lookup k =
      if k.1 = e.engagementId then (recordIn e k.2).or (s.recordsByKey.lookup k)
      else s.recordsByKey.lookup k := by
  have hkeys : (e.records.map fun r => (r.engagementId, r.evidenceId)).Nodup := by
    have hids := e.ids_nodup.map (f := fun id => (e.engagementId, id))
      fun a b h => (Prod.mk.inj h).2
    rw [List.map_map] at hids
    rwa [List.map_congr_left fun r hr => by
      rw [Function.comp_apply, ← e.records_belong r hr]] at hids
  rw [lookup_putRecords _ _ hkeys, putMetadata?_recordsByKey]
  by_cases hk : k.1 = e.engagementId
  · rw [if_pos hk, recordIn]
    congr 1
    apply List.find?_congr
    intro r hr
    rw [decide_eq_decide, Prod.ext_iff, hk]
    exact and_iff_right (e.records_belong r hr)
  · have hnone : e.records.find? (fun r => decide ((r.engagementId, r.evidenceId) = k)) = none := by
      rw [List.find?_eq_none]
      intro r hr heq
      rw [← of_decide_eq_true heq] at hk
      exact hk (e.records_belong r hr)
    rw [if_neg hk, hnone, Option.none_or]

/-! ## What the views show -/

theorem mem_evidenceIds {s : InMemoryEngagementStore} {engagementId evidenceId : String} :
    evidenceId ∈ s.evidenceIds engagementId ↔ (engagementId, evidenceId) ∈ s.recordsByKey := by
  unfold evidenceIds
  simp only [Finset.mem_sort, Finset.mem_image, Finset.mem_filter, Finmap.mem_keys, Prod.exists,
    exists_eq_right]

theorem mem_recordsOf {s : InMemoryEngagementStore} {engagementId : String} {r : EvidenceRecord} :
    r ∈ s.recordsOf engagementId ↔
      r.engagementId = engagementId ∧ s.existing r = some r := by
  unfold recordsOf existing
  rw [List.mem_filterMap]
  constructor
  · rintro ⟨evidenceId, -, hlookup⟩
    obtain ⟨rfl, rfl⟩ := Prod.mk.inj (s.records_keyed _ r hlookup)
    exact ⟨rfl, hlookup⟩
  · rintro ⟨rfl, hlookup⟩
    exact ⟨r.evidenceId, mem_evidenceIds.mpr (Finmap.mem_of_lookup_eq_some hlookup), hlookup⟩

theorem map_evidenceId_recordsOf (s : InMemoryEngagementStore) (engagementId : String) :
    (s.recordsOf engagementId).map (·.evidenceId) = s.evidenceIds engagementId := by
  have hsome : ∀ evidenceId ∈ s.evidenceIds engagementId,
      (s.recordsByKey.lookup (engagementId, evidenceId)).map (·.evidenceId) =
        some evidenceId := by
    intro evidenceId hmem
    obtain ⟨r, hr⟩ := Finmap.mem_iff.mp (mem_evidenceIds.mp hmem)
    have hkey := s.records_keyed _ r hr
    rw [hr, Option.map_some, ← (Prod.mk.inj hkey).2]
  unfold recordsOf
  rw [List.map_filterMap, List.filterMap_congr hsome]
  exact List.filterMap_some

theorem recordsOf_ids_nodup (s : InMemoryEngagementStore) (engagementId : String) :
    ((s.recordsOf engagementId).map (·.evidenceId)).Nodup := by
  rw [map_evidenceId_recordsOf]
  exact Finset.sort_nodup _ _

/-- The envelope of an engagement. -/
def envelopeOf (s : InMemoryEngagementStore) (engagementId : String)
    (h : requiredText engagementId) : EngagementEnvelope where
  engagementId := engagementId
  records := s.recordsOf engagementId
  metadata := s.metadataById.lookup engagementId
  engagementId_required := h
  records_belong := fun _ hr => (mem_recordsOf.mp hr).1
  metadata_belongs := fun m hm => (s.metadata_keyed engagementId m hm).symm
  ids_nodup := s.recordsOf_ids_nodup engagementId

/-- **Exporting an engagement with a valid identifier succeeds and gives its envelope.** -/
theorem exportEnvelope_of_required {s : InMemoryEngagementStore} {engagementId : String}
    (h : requiredText engagementId) :
    s.exportEnvelope engagementId = .ok (s.envelopeOf engagementId h) := by
  have hblank : ¬ strip engagementId = "" := by
    rw [h.2]
    exact h.1
  unfold exportEnvelope metadata records requireNonblank
  simp only [raiseIf_of_not hblank, ok_bind, pure_eq_ok]
  exact (s.envelopeOf engagementId h).make_fields

end InMemoryEngagementStore

end NightRecon.SharedCore.Store
