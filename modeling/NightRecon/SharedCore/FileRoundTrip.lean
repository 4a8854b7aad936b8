import NightRecon.SharedCore.FileStore
import NightRecon.SharedCore.SecretKeys

/-!
# Reading an engagement file back

What `_load` of `nightrecon_shared_core/file_store.py` makes of a document that `_persist` wrote.

* `Rereads` — an envelope and what its document reads back as; `RereadOf` — the same for stores;
* `load_payload` — a written file that loads gives the metadata of the store and its records, each
  read back from its own document;
* `load_payload_of_clean` — it loads when every record's tuples are clean;
* `written_iff` — which records and which files read back; `hidden_key` is one that does not.
-/

namespace NightRecon.SharedCore.FileStore

open NightRecon.Lib
open NightRecon.Lib.Checks
open NightRecon.Lib.Text
open NightRecon.Documents
open NightRecon.SharedCore.Contracts
open NightRecon.SharedCore.Store
open NightRecon.SharedCore.Store.InMemoryEngagementStore

/-! ## Envelopes -/

/-- The document of `r` reads back as `r'`. -/
def RecordRereads (r r' : EvidenceRecord) : Prop := EvidenceRecord.fromDict r.toDict = .ok r'

/-- The document of `e` reads back as `e'`: same identifier and metadata, and each record read back
from its own document. -/
structure Rereads (e e' : EngagementEnvelope) : Prop where
  engagementId : e'.engagementId = e.engagementId
  metadata : e'.metadata = e.metadata
  records : List.Forall₂ RecordRereads e.records e'.records

theorem fromDict_toDict_make (e : EngagementEnvelope) : EngagementEnvelope.fromDict e.toDict = (do
    let records ← (e.records.map EvidenceRecord.toDict).mapM EvidenceRecord.fromDict
    EngagementEnvelope.make e.engagementId records e.metadata) := by
  have hkeys : ["schema_version", "engagement_id", "metadata", "records"].toFinset =
      {"schema_version", "engagement_id", "metadata", "records"} := by decide
  simp only [EngagementEnvelope.fromDict, EngagementEnvelope.toDict, keys?, List.map_cons,
    List.map_nil, hkeys, getItem, getOrRaise, ok_bind, require_of, or_true, asArr, Json.get?,
    List.find?_cons, String.reduceEq, decide_false, decide_true, Option.map_some, pure_eq_ok,
    equalsOne, asStr, Option.getD_some]
  cases hm : e.metadata with
  | none => rfl
  | some m =>
    have hread := m.fromDict_toDict
    simp only [EngagementMetadata.toDict] at hread
    simp [EngagementMetadata.toDict, hread, Functor.map, Except.map]

theorem forall₂_reread {l l' : List EvidenceRecord} :
    (l.map EvidenceRecord.toDict).mapM EvidenceRecord.fromDict = .ok l' ↔
      List.Forall₂ RecordRereads l l' := by
  rw [mapM_eq_ok, List.forall₂_map_left_iff]
  exact Iff.rfl

theorem make_eq_ok {engagementId : String} {records : List EvidenceRecord}
    {metadata : Option EngagementMetadata} {e : EngagementEnvelope}
    (h : EngagementEnvelope.make engagementId records metadata = .ok e) :
    e.engagementId = engagementId ∧ e.records = records ∧ e.metadata = metadata := by
  unfold EngagementEnvelope.make at h
  simp only [bind_eq_ok, pure_eq_ok, Except.ok.injEq] at h
  obtain ⟨-, -, -, -, -, -, -, -, rfl⟩ := h
  exact ⟨rfl, rfl, rfl⟩

/-- What the document of an envelope reads back as when it does. -/
theorem rereads_of_fromDict {e e' : EngagementEnvelope}
    (h : EngagementEnvelope.fromDict e.toDict = .ok e') : Rereads e e' := by
  rw [fromDict_toDict_make, bind_eq_ok] at h
  obtain ⟨records, hrecords, hmake⟩ := h
  obtain ⟨hid, rfl, hmetadata⟩ := make_eq_ok hmake
  exact ⟨hid, hmetadata, forall₂_reread.mp hrecords⟩

/-- A record keeps its identifiers when it is read back. -/
theorem RecordRereads.ids {r r' : EvidenceRecord} (h : RecordRereads r r') :
    r'.engagementId = r.engagementId ∧ r'.evidenceId = r.evidenceId := by
  obtain ⟨-, hheader, -⟩ := EvidenceRecord.fromDict_toDict_eq_ok h
  simp only [EvidenceRecord.header, Prod.mk.injEq, List.cons.injEq] at hheader
  exact ⟨hheader.1.1, hheader.1.2.1⟩

/-- An envelope of records with clean tuples reads back. -/
theorem fromDict_of_clean {e : EngagementEnvelope} (h : ∀ r ∈ e.records, r.TuplesClean) :
    ∃ e', EngagementEnvelope.fromDict e.toDict = .ok e' := by
  obtain ⟨l, hl⟩ : ∃ l, List.Forall₂ RecordRereads e.records l := by
    have hread : ∀ r ∈ e.records, ∃ r', RecordRereads r r' := by
      intro r hr
      obtain ⟨r', hr', -⟩ := EvidenceRecord.fromDict_toDict_of_clean (h r hr)
      exact ⟨r', hr'⟩
    generalize e.records = records at hread
    induction records with
    | nil => exact ⟨[], .nil⟩
    | cons r records ih =>
      obtain ⟨r', hr'⟩ := hread r List.mem_cons_self
      obtain ⟨l, hl⟩ := ih fun r hr => hread r (List.mem_cons_of_mem _ hr)
      exact ⟨r' :: l, .cons hr' hl⟩
  have hids : l.map (·.evidenceId) = e.records.map (·.evidenceId) :=
    map_eq_of_forall₂ hl fun _ _ h => h.ids.2
  have hbelong : ∀ r' ∈ l, r'.engagementId = e.engagementId := by
    intro r' hr'
    have hmem := List.mem_map_of_mem (f := (·.engagementId)) hr'
    rw [map_eq_of_forall₂ hl fun _ _ h => h.ids.1] at hmem
    obtain ⟨r, hr, heq⟩ := List.mem_map.mp hmem
    rw [← heq, e.records_belong r hr]
  rw [fromDict_toDict_make, forall₂_reread.mpr hl, ok_bind]
  unfold EngagementEnvelope.make
  rw [prove_of e.engagementId_required, ok_bind, prove_of hbelong, ok_bind,
    prove_of e.metadata_belongs, ok_bind, prove_of (hids ▸ e.ids_nodup), ok_bind]
  exact ⟨_, rfl⟩

/-- The records of an envelope that was read back are found under the same identifiers. -/
theorem Rereads.recordIn {e e' : EngagementEnvelope} (h : Rereads e e') (evidenceId : String) :
    Option.Rel RecordRereads (InMemoryEngagementStore.recordIn e evidenceId)
      (InMemoryEngagementStore.recordIn e' evidenceId) := by
  unfold InMemoryEngagementStore.recordIn
  have hrecords := h.records
  generalize e.records = l, e'.records = l' at hrecords
  induction hrecords with
  | nil => exact .none
  | @cons r r' l l' hr hl ih =>
    rw [List.find?_cons, List.find?_cons, hr.ids.2]
    by_cases hid : r.evidenceId = evidenceId
    · rw [decide_eq_true hid]
      exact .some hr
    · rw [decide_eq_false hid]
      exact ih

/-! ## Stores -/

/-- The memory `m` holds what the records and the metadata of `s` read back as. -/
structure RereadOf (s m : InMemoryEngagementStore) : Prop where
  metadata : m.metadataById = s.metadataById
  records : ∀ k, Option.Rel RecordRereads (s.recordsByKey.lookup k) (m.recordsByKey.lookup k)

/-- Every engagement of a store has a valid identifier. -/
theorem required_of_mem {s : InMemoryEngagementStore} {engagementId : String}
    (h : engagementId ∈ s.engagementSet) : requiredText engagementId := by
  rw [engagementSet, Finset.mem_union, Finmap.mem_keys, Finset.mem_image] at h
  rcases h with h | ⟨k, hk, rfl⟩
  · obtain ⟨m, hm⟩ := Finmap.mem_iff.mp h
    rw [s.metadata_keyed _ m hm]
    exact m.engagementId_required
  · obtain ⟨r, hr⟩ := Finmap.mem_iff.mp (Finmap.mem_keys.mp hk)
    rw [s.records_keyed _ r hr]
    exact r.engagementId_required

theorem mem_engagementSet_of_lookup {s : InMemoryEngagementStore} {k : String × String}
    {r : EvidenceRecord} (h : s.recordsByKey.lookup k = some r) : k.1 ∈ s.engagementSet :=
  Finset.mem_union_right _ (Finset.mem_image_of_mem Prod.fst
    (Finmap.mem_keys.mpr (Finmap.mem_of_lookup_eq_some h)))

theorem mem_engagementSet_of_metadata {s : InMemoryEngagementStore} {k : String}
    {m : EngagementMetadata} (h : s.metadataById.lookup k = some m) : k ∈ s.engagementSet :=
  Finset.mem_union_left _ (Finmap.mem_keys.mpr (Finmap.mem_of_lookup_eq_some h))

/-- The records of the exported envelope are the stored ones. -/
theorem recordIn_envelopeOf (s : InMemoryEngagementStore) (engagementId : String)
    (h : requiredText engagementId) (evidenceId : String) :
    InMemoryEngagementStore.recordIn (s.envelopeOf engagementId h) evidenceId =
      s.recordsByKey.lookup (engagementId, evidenceId) := by
  show (s.recordsOf engagementId).find? (fun r => decide (r.evidenceId = evidenceId)) = _
  cases hlookup : s.recordsByKey.lookup (engagementId, evidenceId) with
  | none =>
    rw [List.find?_eq_none]
    intro r hr hid
    obtain ⟨hr₁, hr₂⟩ := mem_recordsOf.mp hr
    rw [existing, hr₁, of_decide_eq_true hid, hlookup] at hr₂
    exact absurd hr₂ (Option.some_ne_none r).symm
  | some r =>
    obtain ⟨hr₁, hr₂⟩ := Prod.mk.inj (s.records_keyed _ r hlookup)
    have hmem : r ∈ s.recordsOf engagementId :=
      mem_recordsOf.mpr ⟨hr₁.symm, by rw [existing, ← hr₁, ← hr₂]; exact hlookup⟩
    cases hfind : (s.recordsOf engagementId).find?
        (fun r => decide (r.evidenceId = evidenceId)) with
    | none =>
      rw [List.find?_eq_none] at hfind
      exact absurd (decide_eq_true hr₂.symm) (hfind r hmem)
    | some r' =>
      obtain ⟨hr₁', hr₂'⟩ := mem_recordsOf.mp (List.mem_of_find?_eq_some hfind)
      have hid := List.find?_some hfind
      rw [existing, hr₁', of_decide_eq_true hid, hlookup] at hr₂'
      exact hr₂'.symm

/-- The envelopes `_persist` writes. -/
theorem payload_eq_ok {s : InMemoryEngagementStore} {doc : Json} (h : payload s = .ok doc) :
    ∃ envelopes, List.Forall₂ (fun engagementId (e : EngagementEnvelope) =>
        ∃ hid : requiredText engagementId, e = s.envelopeOf engagementId hid)
      s.engagements envelopes ∧
      doc = .obj [("schema_version", .int 1),
        ("engagements", .arr (envelopes.map EngagementEnvelope.toDict))] := by
  unfold payload at h
  rw [bind_eq_ok] at h
  obtain ⟨envelopes, henvelopes, hdoc⟩ := h
  refine ⟨envelopes, ?_, (Except.ok.inj hdoc).symm⟩
  rw [mapM_eq_ok] at henvelopes
  have hrequired : ∀ id ∈ s.engagements, requiredText id := by
    intro id hmem
    exact required_of_mem ((Finset.mem_sort _).mp hmem)
  refine ((List.forall₂_and_left _ _).mpr ⟨hrequired, henvelopes⟩).imp ?_
  rintro engagementId e ⟨hid, hexport⟩
  rw [exportEnvelope_of_required hid, Except.ok.injEq] at hexport
  exact ⟨hid, hexport.symm⟩

/-- Serialising never raises. -/
theorem payload_ok (s : InMemoryEngagementStore) : ∃ doc, payload s = .ok doc := by
  have hexport : ∀ l : List String, (∀ id ∈ l, requiredText id) →
      ∃ envelopes, l.mapM s.exportEnvelope = .ok envelopes := by
    intro l
    induction l with
    | nil => exact fun _ => ⟨[], rfl⟩
    | cons id l ih =>
      intro hl
      obtain ⟨envelopes, hrest⟩ := ih fun id hid => hl id (List.mem_cons_of_mem _ hid)
      refine ⟨s.envelopeOf id (hl id List.mem_cons_self) :: envelopes, ?_⟩
      rw [List.mapM_cons, exportEnvelope_of_required (hl id List.mem_cons_self), ok_bind, hrest]
      rfl
  obtain ⟨envelopes, h⟩ := hexport s.engagements fun id hid =>
    required_of_mem ((Finset.mem_sort _).mp hid)
  unfold payload
  rw [h]
  exact ⟨_, rfl⟩

/-! ### The reading loop -/

/-- What the reading loop has collected when it has read the engagements `done` of `s`. -/
structure ReadSoFar (s : InMemoryEngagementStore) (done : List String)
    (acc : Finset String × InMemoryEngagementStore) : Prop where
  seen : acc.1 = done.toFinset
  metadata : ∀ k, acc.2.metadataById.lookup k =
    if k ∈ done then s.metadataById.lookup k else none
  records : ∀ k, if k.1 ∈ done
    then Option.Rel RecordRereads (s.recordsByKey.lookup k) (acc.2.recordsByKey.lookup k)
    else acc.2.recordsByKey.lookup k = none

/-- Nothing that was read so far conflicts with an envelope of another engagement. -/
theorem ReadSoFar.appendEnvelope {s : InMemoryEngagementStore} {done : List String}
    {acc : Finset String × InMemoryEngagementStore} (h : ReadSoFar s done acc)
    {engagementId : String} (hid : requiredText engagementId) (hnew : engagementId ∉ done)
    {e : EngagementEnvelope} (he : Rereads (s.envelopeOf engagementId hid) e) :
    ∃ memory, acc.2.appendEnvelope e = .ok memory ∧
      ReadSoFar s (done ++ [engagementId]) (insert engagementId acc.1, memory) := by
  have heid : e.engagementId = engagementId := he.engagementId
  have hnometadata : acc.2.metadataById.lookup e.engagementId = none := by
    rw [h.metadata, heid, if_neg hnew]
  have hnorecord : ∀ k : String × String, k.1 = e.engagementId →
      acc.2.recordsByKey.lookup k = none := by
    intro k hk
    have hrecords := h.records k
    rwa [hk, heid, if_neg hnew] at hrecords
  refine ⟨_, appendEnvelope_eq_ok.mpr ⟨?_, ?_, rfl⟩, ?_, ?_, ?_⟩
  · intro m _ m' hm'
    rw [hnometadata] at hm'
    exact absurd hm' (Option.not_mem_none _)
  · intro r hr r' hr'
    rw [existing, hnorecord _ (e.records_belong r hr)] at hr'
    exact absurd hr' (Option.not_mem_none _)
  · show insert engagementId acc.1 = _
    rw [h.seen, List.toFinset_append, List.toFinset_cons, List.toFinset_nil, Finset.union_comm]
    rfl
  · intro k
    rw [lookup_metadata_put, h.metadata, heid]
    by_cases hk : k = engagementId
    · have hmem : k ∈ done ++ [engagementId] := by simp [hk]
      rw [if_pos hk, if_pos hmem, hk, if_neg hnew, Option.or_none, he.metadata]
      rfl
    · rw [if_neg hk]
      simp [hk]
  · intro k
    rw [lookup_records_put, heid]
    by_cases hk : k.1 = engagementId
    · have hmem : k.1 ∈ done ++ [engagementId] := by simp [hk]
      have hrel := he.recordIn k.2
      rw [recordIn_envelopeOf] at hrel
      rw [if_pos hmem, if_pos hk, hnorecord k (hk.trans heid.symm), Option.or_none, ← Prod.eta k]
      rw [hk]
      exact hrel
    · have hiff : k.1 ∈ done ++ [engagementId] ↔ k.1 ∈ done := by simp [hk]
      rw [if_neg hk]
      simp only [hiff]
      exact h.records k

theorem readSoFar_nil (s : InMemoryEngagementStore) : ReadSoFar s [] (∅, .empty) where
  seen := rfl
  metadata k := by
    rw [if_neg List.not_mem_nil]
    exact Finmap.lookup_empty k
  records k := by
    rw [if_neg List.not_mem_nil]
    exact Finmap.lookup_empty k

/-- When every engagement has been read, the loop holds all of the store. -/
theorem ReadSoFar.rereadOf {s : InMemoryEngagementStore} {done : List String}
    {acc : Finset String × InMemoryEngagementStore} (h : ReadSoFar s done acc)
    (hall : ∀ id ∈ s.engagementSet, id ∈ done) : RereadOf s acc.2 := by
  refine ⟨?_, ?_⟩
  · apply Finmap.ext_lookup
    intro k
    rw [h.metadata]
    by_cases hk : k ∈ done
    · rw [if_pos hk]
    · rw [if_neg hk]
      cases hm : s.metadataById.lookup k with
      | none => rfl
      | some m => exact absurd (hall k (mem_engagementSet_of_metadata hm)) hk
  · intro k
    have hrecords := h.records k
    by_cases hk : k.1 ∈ done
    · rwa [if_pos hk] at hrecords
    · rw [if_neg hk] at hrecords
      rw [hrecords]
      cases hr : s.recordsByKey.lookup k with
      | none => exact .none
      | some r => exact absurd (hall k.1 (mem_engagementSet_of_lookup hr)) hk

/-- One turn of the loop on the document of an engagement not read before. -/
theorem loadItem_eq_ok {s : InMemoryEngagementStore} {done : List String}
    {acc acc' : Finset String × InMemoryEngagementStore} (h : ReadSoFar s done acc)
    {engagementId : String} (hid : requiredText engagementId) (hnew : engagementId ∉ done)
    (hitem : loadItem acc (s.envelopeOf engagementId hid).toDict = .ok acc') :
    ReadSoFar s (done ++ [engagementId]) acc' := by
  unfold loadItem at hitem
  simp only [bind_eq_ok, raiseIf_eq_ok, pure_eq_ok, Except.ok.injEq] at hitem
  obtain ⟨e, hread, -, -, memory, happend, rfl⟩ := hitem
  have he := rereads_of_fromDict hread
  obtain ⟨memory', happend', hsofar⟩ := h.appendEnvelope hid hnew he
  rw [happend, Except.ok.injEq] at happend'
  have heid : e.engagementId = engagementId := he.engagementId
  rw [heid, happend']
  exact hsofar

/-- The loop over documents of engagements that are all new. -/
theorem foldlM_loadItem {s : InMemoryEngagementStore} {ids : List String}
    {envelopes : List EngagementEnvelope}
    (henvelopes : List.Forall₂ (fun engagementId (e : EngagementEnvelope) =>
      ∃ hid : requiredText engagementId, e = s.envelopeOf engagementId hid) ids envelopes)
    {done : List String} {acc acc' : Finset String × InMemoryEngagementStore}
    (h : ReadSoFar s done acc) (hnew : ∀ id ∈ ids, id ∉ done) (hids : ids.Nodup)
    (hloop : (envelopes.map EngagementEnvelope.toDict).foldlM loadItem acc = .ok acc') :
    ReadSoFar s (done ++ ids) acc' := by
  induction henvelopes generalizing done acc with
  | nil =>
    obtain rfl := Except.ok.inj hloop
    rwa [List.append_nil]
  | @cons id e ids envelopes he hrest ih =>
    obtain ⟨hid, rfl⟩ := he
    rw [List.map_cons, List.foldlM_cons, bind_eq_ok] at hloop
    obtain ⟨acc₁, hitem, hloop⟩ := hloop
    rw [List.nodup_cons] at hids
    have h₁ := loadItem_eq_ok h hid (hnew id List.mem_cons_self) hitem
    have hnew₁ : ∀ id' ∈ ids, id' ∉ done ++ [id] := by
      intro id' hmem hdone
      rcases List.mem_append.mp hdone with hdone | hdone
      · exact hnew id' (List.mem_cons_of_mem _ hmem) hdone
      · exact hids.1 (List.mem_singleton.mp hdone ▸ hmem)
    have h₂ := ih h₁ hnew₁ hids.2 hloop
    rwa [List.append_assoc] at h₂

/-- What `_load` does with a written document. -/
theorem load_written (envelopes : List EngagementEnvelope) :
    load (some (.obj [("schema_version", .int 1),
      ("engagements", .arr (envelopes.map EngagementEnvelope.toDict))])) = (do
        let (_, memory) ← (envelopes.map EngagementEnvelope.toDict).foldlM loadItem (∅, .empty)
        return memory) := by
  have hkeys : (["schema_version", "engagements"].toFinset : Finset String) =
      {"schema_version", "engagements"} := by decide
  simp only [load, keys?, List.map_cons, List.map_nil, hkeys, require_of, ok_bind, Json.get?,
    List.find?_cons, String.reduceEq, decide_false, decide_true, Option.map_some, Option.any_some,
    equalsOne, asArr]

/-- **A written file that loads gives the store back**, its records read back from their own
documents. -/
theorem load_payload {s m : InMemoryEngagementStore} {doc : Json} (hdoc : payload s = .ok doc)
    (hload : load (some doc) = .ok m) : RereadOf s m := by
  obtain ⟨envelopes, henvelopes, rfl⟩ := payload_eq_ok hdoc
  rw [load_written, bind_eq_ok] at hload
  obtain ⟨acc, hloop, hm⟩ := hload
  obtain rfl := Except.ok.inj hm
  have hread := foldlM_loadItem henvelopes (readSoFar_nil s) (fun _ _ => List.not_mem_nil)
    (Finset.sort_nodup _ _) hloop
  rw [List.nil_append] at hread
  exact hread.rereadOf fun id hid => (Finset.mem_sort _).mpr hid

/-- **A written file loads when every record's tuples are clean.** -/
theorem load_payload_of_clean {s : InMemoryEngagementStore} {doc : Json}
    (hdoc : payload s = .ok doc)
    (hclean : ∀ k r, s.recordsByKey.lookup k = some r → r.TuplesClean) :
    ∃ m, load (some doc) = .ok m ∧ RereadOf s m := by
  have hloads : ∃ m, load (some doc) = .ok m := by
    obtain ⟨envelopes, henvelopes, rfl⟩ := payload_eq_ok hdoc
    have hloop : ∀ (ids : List String) (envelopes : List EngagementEnvelope)
        (done : List String) (acc : Finset String × InMemoryEngagementStore),
        List.Forall₂ (fun engagementId (e : EngagementEnvelope) =>
          ∃ hid : requiredText engagementId, e = s.envelopeOf engagementId hid) ids envelopes →
        ReadSoFar s done acc → (∀ id ∈ ids, id ∉ done) → ids.Nodup →
        ∃ acc', (envelopes.map EngagementEnvelope.toDict).foldlM loadItem acc = .ok acc' := by
      intro ids envelopes done acc henvelopes
      induction henvelopes generalizing done acc with
      | nil => exact fun _ _ _ => ⟨acc, rfl⟩
      | @cons id e ids envelopes he hrest ih =>
        intro h hnew hids
        obtain ⟨hid, rfl⟩ := he
        rw [List.nodup_cons] at hids
        have hrecords : ∀ r ∈ (s.envelopeOf id hid).records, r.TuplesClean := by
          intro r hr
          exact hclean _ r (mem_recordsOf.mp hr).2
        obtain ⟨e, hread⟩ := fromDict_of_clean hrecords
        have he := rereads_of_fromDict hread
        have heid : e.engagementId = id := he.engagementId
        obtain ⟨memory, happend, h₁⟩ := h.appendEnvelope hid (hnew id List.mem_cons_self) he
        have hseen : e.engagementId ∉ acc.1 := by
          rw [heid, h.seen, List.mem_toFinset]
          exact hnew id List.mem_cons_self
        have hitem : loadItem acc (s.envelopeOf id hid).toDict = .ok (insert id acc.1, memory) := by
          rw [loadItem, hread, ok_bind, raiseIf_of_not hseen, ok_bind, happend, heid]
          rfl
        rw [List.map_cons, List.foldlM_cons, hitem, ok_bind]
        apply ih _ _ h₁ _ hids.2
        intro id' hmem hdone
        rcases List.mem_append.mp hdone with hdone | hdone
        · exact hnew id' (List.mem_cons_of_mem _ hmem) hdone
        · exact hids.1 (List.mem_singleton.mp hdone ▸ hmem)
    obtain ⟨acc, hacc⟩ := hloop _ _ [] _ henvelopes (readSoFar_nil s)
      (fun _ _ => List.not_mem_nil) (Finset.sort_nodup _ _)
    rw [load_written, hacc]
    exact ⟨acc.2, rfl⟩
  obtain ⟨m, hm⟩ := hloads
  exact ⟨m, hm, load_payload hdoc hm⟩

/-! ## Which files load -/

/-- **Written evidence and the secret filter.**  The JSON of an accepted record has no secret-like
key and reads back exactly when nothing below a tuple of its data has one; and a file written from
accepted records loads exactly when that holds of all of them. -/
theorem written_iff (r : EvidenceRecord) (s : InMemoryEngagementStore) :
    ((secretFree r.toDict = true ∧ ∃ r', EvidenceRecord.fromDict r.toDict = .ok r') ↔
      r.TuplesClean) ∧
    (∀ doc, payload s = .ok doc → ((∃ m, load (some doc) = .ok m) ↔
      ∀ k r, s.recordsByKey.lookup k = some r → r.TuplesClean)) := by
  refine ⟨?_, ?_⟩
  · rw [EvidenceRecord.secretFree_toDict, membersSecretFree_iff r.data "$" r.data_accepted]
    constructor
    · exact fun h => h.1
    · intro h
      obtain ⟨r', hr', -⟩ := EvidenceRecord.fromDict_toDict_of_clean h
      exact ⟨h, r', hr'⟩
  · intro doc hdoc
    constructor
    · rintro ⟨m, hm⟩ k r hr
      have hrel := (load_payload hdoc hm).records k
      rw [hr] at hrel
      generalize m.recordsByKey.lookup k = found at hrel
      cases hrel with
      | some hread => exact (EvidenceRecord.fromDict_toDict_eq_ok hread).1
    · intro hclean
      obtain ⟨m, hm, -⟩ := load_payload_of_clean hdoc hclean
      exact ⟨m, hm⟩

/-- A record with a secret-like key inside a tuple. -/
def tupleArgs : RecordArgs where
  engagementId := "e"
  evidenceId := "r"
  sourceNight := "red"
  evidenceType := "note"
  observedAt := "2030-01-01T00:00:00Z"
  provenance := "manual"
  data := [("a", .tuple [.dict [("password", .str "x")]])]
  limitations := []

/-- That record is accepted, written with the key, and not read back. -/
theorem hidden_key : ¬ ∀ r : EvidenceRecord, secretFree r.toDict = true ∧
    ∃ r', EvidenceRecord.fromDict r.toDict = .ok r' := by
  intro hall
  have hrecord : tupleArgs.make.toOption.map (fun r => secretFree r.toDict) = some false := by
    decide +kernel
  obtain ⟨r, -, hr⟩ := Option.map_eq_some_iff.mp hrecord
  exact absurd (hall r).1 (Bool.eq_false_iff.mp hr)

end NightRecon.SharedCore.FileStore
