import NightRecon.Lib.JsonText
import NightRecon.Lib.Machine
import NightRecon.SharedCore.FileRoundTrip

/-!
# Appending evidence to the file store

`append` and `append_envelope` of `nightrecon_shared_core/file_store.py`, over whole runs.

* `Related R` — two stores with the same metadata whose records are related by `R`, key by key;
* `append_stored`, `append_new`, `appendEnvelope_refused`, `appendEnvelope_known`,
  `appendEnvelope_new` — what a call does, by what the memory held before it;
* `recordText`, `InStep` — the serialised JSON of a record, and a file that is the serialised
  memory;
* `Faithful` — the calls that neither lose a write nor replace a record by an equal one that is
  written otherwise;
* `records_immutable` — over every run of such calls no stored record's JSON changes, in memory or
  on disk; `replaced_record` is a run with another call.
-/

namespace NightRecon.SharedCore.FileStore

open NightRecon.Lib
open NightRecon.Lib.Checks
open NightRecon.Lib.FileBacked
open NightRecon.Lib.Machine
open NightRecon.Lib.Text
open NightRecon.SharedCore.Contracts
open NightRecon.SharedCore.Store
open NightRecon.SharedCore.Store.InMemoryEngagementStore

/-! ## Stores with related records -/

/-- The same metadata, and records related by `R` under every key. -/
structure Related (R : EvidenceRecord → EvidenceRecord → Prop) (s s' : InMemoryEngagementStore) :
    Prop where
  metadata : s'.metadataById = s.metadataById
  records : ∀ k, Option.Rel R (s.recordsByKey.lookup k) (s'.recordsByKey.lookup k)

section Related

variable {R : EvidenceRecord → EvidenceRecord → Prop} {s s' : InMemoryEngagementStore}

theorem Related.refl (hR : ∀ r, R r r) (s : InMemoryEngagementStore) : Related R s s := by
  refine ⟨rfl, ?_⟩
  intro k
  cases s.recordsByKey.lookup k with
  | none => exact .none
  | some r => exact .some (hR r)

theorem Related.keys (h : Related R s s') : s'.recordsByKey.keys = s.recordsByKey.keys := by
  ext k
  rw [Finmap.mem_keys, Finmap.mem_keys, Finmap.mem_iff, Finmap.mem_iff]
  have hk := h.records k
  generalize s.recordsByKey.lookup k = a, s'.recordsByKey.lookup k = b at hk
  cases hk with
  | none => exact Iff.rfl
  | some _ => exact iff_of_true ⟨_, rfl⟩ ⟨_, rfl⟩

theorem forall₂_filterMap {α β : Type} {R : β → β → Prop} {f g : α → Option β}
    (h : ∀ a, Option.Rel R (f a) (g a)) (l : List α) :
    List.Forall₂ R (l.filterMap f) (l.filterMap g) := by
  induction l with
  | nil => exact .nil
  | cons a l ih =>
    have ha := h a
    rw [List.filterMap_cons, List.filterMap_cons]
    generalize f a = x, g a = y at ha
    cases ha with
    | none => exact ih
    | some hxy => exact .cons hxy ih

theorem Related.recordsOf (h : Related R s s') (engagementId : String) :
    List.Forall₂ R (s.recordsOf engagementId) (s'.recordsOf engagementId) := by
  have hids : s'.evidenceIds engagementId = s.evidenceIds engagementId := by
    unfold evidenceIds
    rw [h.keys]
  unfold InMemoryEngagementStore.recordsOf
  rw [hids]
  exact forall₂_filterMap (fun evidenceId => h.records (engagementId, evidenceId)) _

theorem Related.engagements (h : Related R s s') : s'.engagements = s.engagements := by
  unfold InMemoryEngagementStore.engagements engagementSet
  rw [h.keys, h.metadata]

end Related

/-! ## What `append` does -/

section Append

variable {s : FileEngagementStore} {write : Py Unit}

theorem mutate_error {f : InMemoryEngagementStore → Py InMemoryEngagementStore}
    {dirty : InMemoryEngagementStore → InMemoryEngagementStore → Py Bool} {e : Exn}
    (h : f s.memory = .error e) : mutate f dirty write s = (.error e, s) := by
  simp only [mutate, Proc.bind_apply, Proc.get_apply, Proc.ofExcept_apply, h]

theorem mutate_ok {f : InMemoryEngagementStore → Py InMemoryEngagementStore}
    {dirty : InMemoryEngagementStore → InMemoryEngagementStore → Py Bool}
    {after : InMemoryEngagementStore} {changed : Bool} (h : f s.memory = .ok after)
    (hdirty : dirty s.memory after = .ok changed) : mutate f dirty write s =
      if changed then persist write (s.setMemory after) else (.ok (), s.setMemory after) := by
  simp only [mutate, Proc.bind_apply, Proc.get_apply, Proc.ofExcept_apply, Proc.modify_apply, h,
    hdirty]
  split <;> rfl

/-- The check of `records` on a valid identifier passes. -/
theorem records_of_required (m : InMemoryEngagementStore) {engagementId : String}
    (h : requiredText engagementId) : m.records engagementId = .ok (m.recordsOf engagementId) := by
  have hblank : ¬ strip engagementId = "" := by
    rw [h.2]
    exact h.1
  rw [records, requireNonblank, raiseIf_of_not hblank]
  rfl

theorem append_eq_mutate (r : EvidenceRecord) : append r write s =
    mutate (·.append r) (fun _ after => .ok (decide ¬ List.Forall₂ EvidenceRecord.Same
      (after.recordsOf r.engagementId) (s.memory.recordsOf r.engagementId))) write s := by
  simp only [append, Proc.bind_apply, Proc.get_apply, Proc.ofExcept_apply,
    records_of_required _ r.engagementId_required, ok_bind, pure_eq_ok]

/-- Appending under a stored identifier changes nothing: the record is there, or it conflicts. -/
theorem append_stored {r r' : EvidenceRecord} (h : s.memory.existing r = some r') :
    append r write s =
      (if r'.Same r then .ok () else .error (evidenceConflictError r.evidenceId), s) := by
  rw [append_eq_mutate]
  by_cases hsame : r'.Same r
  · have happend : s.memory.append r = .ok s.memory := by
      rw [InMemoryEngagementStore.append, h]
      exact if_pos hsame
    have hrefl : List.Forall₂ EvidenceRecord.Same (s.memory.recordsOf r.engagementId)
        (s.memory.recordsOf r.engagementId) := List.forall₂_same.mpr fun r _ => .refl r
    rw [mutate_ok happend rfl, if_pos hsame, if_neg (by simpa using hrefl), setMemory_self]
  · have happend : s.memory.append r = .error (evidenceConflictError r.evidenceId) := by
      rw [InMemoryEngagementStore.append, h]
      exact if_neg hsame
    rw [mutate_error happend, if_neg hsame]

/-- Equal record lists have the same identifiers. -/
theorem evidenceIds_eq_of_same {m m' : InMemoryEngagementStore} {engagementId : String}
    (h : List.Forall₂ EvidenceRecord.Same (m.recordsOf engagementId) (m'.recordsOf engagementId)) :
    m'.evidenceIds engagementId = m.evidenceIds engagementId := by
  rw [← map_evidenceId_recordsOf, ← map_evidenceId_recordsOf]
  apply map_eq_of_forall₂ h
  intro r r' hsame
  have hheader := hsame.1
  simp only [EvidenceRecord.header, Prod.mk.injEq, List.cons.injEq] at hheader
  exact hheader.1.2.1.symm

/-- A new record is stored and written. -/
theorem append_new {r : EvidenceRecord} (h : s.memory.existing r = none) :
    append r write s = persist write (s.setMemory (s.memory.putRecord r)) := by
  have happend : s.memory.append r = .ok (s.memory.putRecord r) := by
    rw [InMemoryEngagementStore.append, h]
  have hdirty : ¬ List.Forall₂ EvidenceRecord.Same
      ((s.memory.putRecord r).recordsOf r.engagementId) (s.memory.recordsOf r.engagementId) := by
    intro hsame
    have hids := evidenceIds_eq_of_same hsame
    have hmem : r.evidenceId ∈ (s.memory.putRecord r).evidenceIds r.engagementId :=
      mem_evidenceIds.mpr (Finmap.mem_insert.mpr (.inl rfl))
    rw [← hids, mem_evidenceIds, Finmap.mem_iff] at hmem
    obtain ⟨r', hr'⟩ := hmem
    rw [existing, hr'] at h
    cases h
  rw [append_eq_mutate, mutate_ok happend rfl, decide_eq_true hdirty, if_pos rfl]

end Append

/-! ## What `append_envelope` does -/

section AppendEnvelope

variable {s : FileEngagementStore} {e : EngagementEnvelope} {write : Py Unit}

/-- The envelope differs from something that is stored. -/
def Refused (m : InMemoryEngagementStore) (e : EngagementEnvelope) : Prop :=
  (∃ new ∈ e.metadata, ∃ old ∈ m.metadataById.lookup e.engagementId, old ≠ new) ∨
    ∃ r ∈ e.records, m.conflicts r = true

/-- Everything the envelope holds is stored. -/
def Known (m : InMemoryEngagementStore) (e : EngagementEnvelope) : Prop :=
  (∀ new ∈ e.metadata, m.metadataById.lookup e.engagementId = some new) ∧
    ∀ r ∈ e.records, (m.existing r).isSome

/-- The memory with the envelope stored. -/
def merged (m : InMemoryEngagementStore) (e : EngagementEnvelope) : InMemoryEngagementStore :=
  (m.putMetadata? e.metadata).putRecords e.records

theorem not_refused_iff {m : InMemoryEngagementStore} :
    ¬ Refused m e ↔ (∀ new ∈ e.metadata, ∀ old ∈ m.metadataById.lookup e.engagementId,
        old = new) ∧ ∀ r ∈ e.records, ∀ r' ∈ m.existing r, r'.Same r := by
  unfold Refused
  push Not
  simp only [ne_eq, Bool.not_eq_true, conflicts_eq_false]

theorem appendEnvelope_of_refused {m : InMemoryEngagementStore} (h : Refused m e) :
    ∃ x, m.appendEnvelope e = .error x := by
  cases happend : m.appendEnvelope e with
  | error x => exact ⟨x, rfl⟩
  | ok m' =>
    obtain ⟨hmetadata, hrecords, -⟩ := appendEnvelope_eq_ok.mp happend
    exact absurd h (not_refused_iff.mpr ⟨hmetadata, hrecords⟩)

theorem appendEnvelope_of_not_refused {m : InMemoryEngagementStore} (h : ¬ Refused m e) :
    m.appendEnvelope e = .ok (merged m e) := by
  obtain ⟨hmetadata, hrecords⟩ := not_refused_iff.mp h
  exact appendEnvelope_eq_ok.mpr ⟨hmetadata, hrecords, rfl⟩

/-- Storing what is known replaces records by related ones, and nothing else. -/
theorem related_merged {R : EvidenceRecord → EvidenceRecord → Prop} (hR : ∀ r, R r r)
    {m : InMemoryEngagementStore} (h : Known m e)
    (hrecords : ∀ r ∈ e.records, ∀ r' ∈ m.existing r, R r' r) : Related R m (merged m e) := by
  refine ⟨?_, ?_⟩
  · apply Finmap.ext_lookup
    intro k
    rw [merged, lookup_metadata_put]
    by_cases hk : k = e.engagementId
    · rw [if_pos hk, hk]
      cases hnew : e.metadata with
      | none => rfl
      | some new => rw [Option.some_or, h.1 new hnew]
    · rw [if_neg hk]
  · intro k
    rw [merged, lookup_records_put]
    have hrefl : Option.Rel R (m.recordsByKey.lookup k) (m.recordsByKey.lookup k) := by
      cases m.recordsByKey.lookup k with
      | none => exact .none
      | some r => exact .some (hR r)
    by_cases hk : k.1 = e.engagementId
    · rw [if_pos hk]
      cases hin : recordIn e k.2 with
      | none => rwa [Option.none_or]
      | some r =>
        have hr := List.mem_of_find?_eq_some hin
        have hid := List.find?_some hin
        have hkey : (r.engagementId, r.evidenceId) = k := by
          rw [e.records_belong r hr, of_decide_eq_true hid, ← hk]
        obtain ⟨r', hr'⟩ := Option.isSome_iff_exists.mp (h.2 r hr)
        have hrel := hrecords r hr r' hr'
        rw [existing, hkey] at hr'
        rw [hr', Option.some_or]
        exact .some hrel
    · rwa [if_neg hk]

/-- The comparison of the exported envelopes finds a change exactly when something was not
known. -/
theorem exported_same_iff {m : InMemoryEngagementStore} (h : ¬ Refused m e) :
    ((merged m e).envelopeOf e.engagementId e.engagementId_required).Same
      (m.envelopeOf e.engagementId e.engagementId_required) ↔ Known m e := by
  obtain ⟨hmetadata, hrecords⟩ := not_refused_iff.mp h
  constructor
  · rintro ⟨-, hsame, hmeta⟩
    have hids := evidenceIds_eq_of_same hsame
    refine ⟨?_, ?_⟩
    · intro new hnew
      have hlookup : (merged m e).metadataById.lookup e.engagementId = some new := by
        rw [merged, lookup_metadata_put, if_pos rfl, hnew]
        rfl
      exact hmeta.symm.trans hlookup
    · intro r hr
      have hin : (recordIn e r.evidenceId).isSome := by
        rw [recordIn, List.find?_isSome]
        exact ⟨r, hr, decide_eq_true rfl⟩
      have hmem : r.evidenceId ∈ (merged m e).evidenceIds e.engagementId := by
        rw [mem_evidenceIds, Finmap.mem_iff]
        obtain ⟨r', hr'⟩ := Option.isSome_iff_exists.mp hin
        refine ⟨r', ?_⟩
        rw [merged, lookup_records_put, if_pos rfl, hr', Option.some_or]
      rw [← hids, mem_evidenceIds, Finmap.mem_iff] at hmem
      obtain ⟨r', hr'⟩ := hmem
      rw [existing, e.records_belong r hr, hr']
      rfl
  · intro hknown
    have hrelated := related_merged EvidenceRecord.Same.refl hknown hrecords
    refine ⟨rfl, ?_, ?_⟩
    · exact ((hrelated.recordsOf e.engagementId).imp fun _ _ h => h.symm).flip
    · show (merged m e).metadataById.lookup _ = m.metadataById.lookup _
      rw [hrelated.metadata]

/-- What `append_envelope` does to the file store. -/
theorem appendEnvelope_eq_mutate (e : EngagementEnvelope) : appendEnvelope e write s =
    mutate (·.appendEnvelope e) (fun _ after => .ok (decide ¬ EngagementEnvelope.Same
      (after.envelopeOf e.engagementId e.engagementId_required)
      (s.memory.envelopeOf e.engagementId e.engagementId_required))) write s := by
  simp only [appendEnvelope, Proc.bind_apply, Proc.get_apply, Proc.ofExcept_apply,
    exportEnvelope_of_required e.engagementId_required, ok_bind, pure_eq_ok]

variable (write) in
/-- A refused envelope changes nothing. -/
theorem appendEnvelope_refused (h : Refused s.memory e) :
    ∃ x, appendEnvelope e write s = (.error x, s) := by
  obtain ⟨x, hx⟩ := appendEnvelope_of_refused h
  exact ⟨x, by rw [appendEnvelope_eq_mutate, mutate_error hx]⟩

/-- A known envelope is stored in memory and not written. -/
theorem appendEnvelope_known (h : ¬ Refused s.memory e) (hknown : Known s.memory e) :
    appendEnvelope e write s = (.ok (), s.setMemory (merged s.memory e)) := by
  have hsame := (exported_same_iff h).mpr hknown
  rw [appendEnvelope_eq_mutate, mutate_ok (appendEnvelope_of_not_refused h) rfl,
    if_neg (by simpa using hsame)]

/-- An envelope with something new is stored and written. -/
theorem appendEnvelope_new (h : ¬ Refused s.memory e) (hnew : ¬ Known s.memory e) :
    appendEnvelope e write s = persist write (s.setMemory (merged s.memory e)) := by
  have hsame := mt (exported_same_iff h).mp hnew
  rw [appendEnvelope_eq_mutate, mutate_ok (appendEnvelope_of_not_refused h) rfl,
    if_pos (by simpa using hsame)]

end AppendEnvelope

/-! ## The text of the file -/

/-- The serialised JSON of a record. -/
def recordText (r : EvidenceRecord) : String := Json.dumps r.toDict

/-- What `_persist` writes for a document. -/
def fileText (document : Json) : String := Json.dumps document ++ "\n"

/-- Records that are written alike. -/
def SameText (r r' : EvidenceRecord) : Prop := recordText r' = recordText r

/-- The file is the serialised memory; without a file the memory is empty. -/
def InStep (s : FileEngagementStore) : Prop :=
  match s.file with
  | none => s.memory.engagements = []
  | some written => ∃ document, payload s.memory = .ok document ∧
      fileText document = fileText written

theorem dumps_eq_iff {j j' : Json} :
    Json.dumps j = Json.dumps j' ↔
      Json.textBy Json.asciiEscape j = Json.textBy Json.asciiEscape j' :=
  String.ofList_inj

/-- The document of one engagement. -/
def engagementDict (m : InMemoryEngagementStore) (engagementId : String) : Json :=
  .obj [("schema_version", .int 1),
    ("engagement_id", .str engagementId),
    ("metadata", ((m.metadataById.lookup engagementId).map EngagementMetadata.toDict).getD .null),
    ("records", .arr ((m.recordsOf engagementId).map EvidenceRecord.toDict))]

theorem payload_eq (m : InMemoryEngagementStore) : payload m = .ok (.obj [("schema_version", .int 1),
    ("engagements", .arr (m.engagements.map (engagementDict m)))]) := by
  obtain ⟨document, hdocument⟩ := payload_ok m
  obtain ⟨envelopes, henvelopes, rfl⟩ := payload_eq_ok hdocument
  have hmap : envelopes.map EngagementEnvelope.toDict = m.engagements.map (engagementDict m) := by
    apply map_eq_of_forall₂ henvelopes
    rintro engagementId e ⟨hid, rfl⟩
    rfl
  rw [hdocument, hmap]

/-- Stores whose records are written alike are written alike. -/
theorem payload_sameText {m m' : InMemoryEngagementStore} (h : Related SameText m m')
    {document : Json} (hdocument : payload m = .ok document) :
    ∃ document', payload m' = .ok document' ∧ fileText document' = fileText document := by
  rw [payload_eq, Except.ok.injEq] at hdocument
  subst hdocument
  refine ⟨_, payload_eq m', ?_⟩
  have hengagement : ∀ id, Json.textBy Json.asciiEscape (engagementDict m' id) =
      Json.textBy Json.asciiEscape (engagementDict m id) := by
    intro id
    have hrecords : Json.textBy Json.asciiEscape
          (.arr ((m'.recordsOf id).map EvidenceRecord.toDict)) =
        Json.textBy Json.asciiEscape (.arr ((m.recordsOf id).map EvidenceRecord.toDict)) := by
      apply Json.textBy_arr_congr
      rw [List.map_map, List.map_map]
      exact map_eq_of_forall₂ (h.recordsOf id) fun _ _ htext => dumps_eq_iff.mp htext
    apply Json.textBy_obj_congr
    simp only [Json.memberTexts, h.metadata, hrecords]
  have hlist : Json.textBy Json.asciiEscape (.arr (m'.engagements.map (engagementDict m'))) =
      Json.textBy Json.asciiEscape (.arr (m.engagements.map (engagementDict m))) := by
    apply Json.textBy_arr_congr
    rw [List.map_map, List.map_map, h.engagements]
    exact List.map_congr_left fun id _ => hengagement id
  rw [fileText, fileText]
  congr 1
  apply dumps_eq_iff.mpr
  apply Json.textBy_obj_congr
  simp only [Json.memberTexts, hlist]

/-! ## Runs -/

/-- A call that appends, with the outcome of the file replacement it may make. -/
inductive AppendCall where
  | append (r : EvidenceRecord) (write : Py Unit)
  | appendEnvelope (e : EngagementEnvelope) (write : Py Unit)

def AppendCall.procedure : AppendCall → Proc Exn FileEngagementStore Unit
  | .append r write => FileStore.append r write
  | .appendEnvelope e write => FileStore.appendEnvelope e write

def appendStep (s : FileEngagementStore) (call : AppendCall) : FileEngagementStore × Py Unit :=
  ((call.procedure s).2, (call.procedure s).1)

/-- A call that loses no write and replaces no record by one that is written otherwise: a record
that is new is written; an envelope is refused, or its records are written like the stored ones
with their identifiers, and it is written when it holds something new. -/
def Faithful (s : FileEngagementStore) : AppendCall → Prop
  | .append r write => (s.memory.existing r).isSome ∨ write = .ok ()
  | .appendEnvelope e write => Refused s.memory e ∨
      (∀ r ∈ e.records, ∀ r' ∈ s.memory.existing r, SameText r' r) ∧
        (Known s.memory e ∨ write = .ok ())

/-- Every record of `s` is in `s'`, written alike. -/
def KeepsTexts (s s' : FileEngagementStore) : Prop :=
  ∀ k r, s.memory.recordsByKey.lookup k = some r →
    ∃ r', s'.memory.recordsByKey.lookup k = some r' ∧ SameText r r'

theorem KeepsTexts.refl (s : FileEngagementStore) : KeepsTexts s s := by
  intro k r hr
  exact ⟨r, hr, rfl⟩

theorem KeepsTexts.trans {s s' s'' : FileEngagementStore} (h : KeepsTexts s s')
    (h' : KeepsTexts s' s'') : KeepsTexts s s'' := by
  intro k r hr
  obtain ⟨r', hr', htext⟩ := h k r hr
  obtain ⟨r'', hr'', htext'⟩ := h' k r' hr'
  exact ⟨r'', hr'', htext'.trans htext⟩

/-- A write that returns brings the file in step. -/
theorem inStep_persist (s : FileEngagementStore) :
    InStep (persist (.ok ()) s).2 ∧ (persist (.ok ()) s).2.memory = s.memory := by
  obtain ⟨document, hdocument⟩ := payload_ok s.memory
  rw [persist, FileBacked.persist_of_ok hdocument]
  exact ⟨⟨document, hdocument, rfl⟩, rfl⟩

/-- Storing an envelope keeps the records it does not replace, and replaces records by records
written alike. -/
theorem keepsTexts_merged {s s' : FileEngagementStore} {e : EngagementEnvelope}
    (htext : ∀ r ∈ e.records, ∀ r' ∈ s.memory.existing r, SameText r' r)
    (hs' : s'.memory = merged s.memory e) : KeepsTexts s s' := by
  intro k r hr
  rw [hs', merged, lookup_records_put]
  by_cases hk : k.1 = e.engagementId
  · rw [if_pos hk]
    cases hin : recordIn e k.2 with
    | none => exact ⟨r, by rw [Option.none_or, hr], rfl⟩
    | some new =>
      have hmem := List.mem_of_find?_eq_some hin
      have hid := List.find?_some hin
      have hkey : (new.engagementId, new.evidenceId) = k := by
        rw [e.records_belong new hmem, of_decide_eq_true hid, ← hk]
      refine ⟨new, by rw [Option.some_or], htext new hmem r ?_⟩
      rw [existing, hkey]
      exact hr
  · exact ⟨r, by rw [if_neg hk, hr], rfl⟩

theorem inStep_of_related {s : FileEngagementStore} {m : InMemoryEngagementStore}
    (h : Related SameText s.memory m) (hstep : InStep s) : InStep (s.setMemory m) := by
  unfold InStep at hstep ⊢
  rw [setMemory_file, setMemory_memory]
  cases hfile : s.file with
  | none =>
    rw [hfile] at hstep
    exact h.engagements.trans hstep
  | some written =>
    rw [hfile] at hstep
    obtain ⟨document, hdocument, htext⟩ := hstep
    obtain ⟨document', hdocument', htext'⟩ := payload_sameText h hdocument
    exact ⟨document', hdocument', htext'.trans htext⟩

/-- **One faithful call** keeps the file in step and every record's text. -/
theorem appendStep_faithful {s : FileEngagementStore} {call : AppendCall} (h : Faithful s call)
    (hstep : InStep s) : InStep (appendStep s call).1 ∧ KeepsTexts s (appendStep s call).1 := by
  cases call with
  | append r write =>
    show InStep (append r write s).2 ∧ KeepsTexts s (append r write s).2
    cases hexisting : s.memory.existing r with
    | some r' =>
      rw [append_stored hexisting]
      exact ⟨hstep, .refl s⟩
    | none =>
      have hwrite : write = .ok () := by
        rcases h with h | h
        · rw [hexisting] at h
          cases h
        · exact h
      subst hwrite
      obtain ⟨hin, hmemory⟩ := inStep_persist (s.setMemory (s.memory.putRecord r))
      rw [append_new hexisting]
      refine ⟨hin, ?_⟩
      intro k r' hr'
      rw [hmemory]
      refine ⟨r', ?_, rfl⟩
      show (s.memory.recordsByKey.insert _ r).lookup k = some r'
      rw [Dict.lookup_insert_eq, if_neg, hr']
      rintro rfl
      rw [existing] at hexisting
      rw [hexisting] at hr'
      cases hr'
  | appendEnvelope e write =>
    show InStep (appendEnvelope e write s).2 ∧ KeepsTexts s (appendEnvelope e write s).2
    by_cases hrefused : Refused s.memory e
    · obtain ⟨x, hx⟩ := appendEnvelope_refused write hrefused
      rw [hx]
      exact ⟨hstep, .refl s⟩
    · obtain ⟨htext, hwrite⟩ := h.resolve_left hrefused
      by_cases hknown : Known s.memory e
      · rw [appendEnvelope_known hrefused hknown]
        refine ⟨?_, keepsTexts_merged htext rfl⟩
        have hrelated := related_merged (R := SameText) (fun _ => rfl) hknown htext
        exact inStep_of_related hrelated hstep
      · have hwrite := hwrite.resolve_left hknown
        subst hwrite
        obtain ⟨hin, hmemory⟩ := inStep_persist (s.setMemory (merged s.memory e))
        rw [appendEnvelope_new hrefused hknown]
        exact ⟨hin, keepsTexts_merged htext hmemory⟩

/-- A store as the constructor gives it: without a file, or from a file that a store wrote. -/
def Opened (s : FileEngagementStore) : Prop :=
  s = ⟨.empty, none⟩ ∨ ∃ m document, payload m = .ok document ∧
    load (some document) = .ok s.memory ∧ s.file = some document

theorem inStep_of_opened {s : FileEngagementStore} (h : Opened s) : InStep s := by
  rcases h with rfl | ⟨m, document, hdocument, hload, hfile⟩
  · show InMemoryEngagementStore.empty.engagements = []
    simp [InMemoryEngagementStore.engagements, engagementSet, InMemoryEngagementStore.empty]
  · have hreread := load_payload hdocument hload
    have hrelated : Related SameText m s.memory := by
      refine ⟨hreread.metadata, ?_⟩
      intro k
      have hk := hreread.records k
      generalize m.recordsByKey.lookup k = a, s.memory.recordsByKey.lookup k = b at hk
      cases hk with
      | none => exact .none
      | some hread =>
        obtain ⟨-, -, hdict⟩ := EvidenceRecord.fromDict_toDict_eq_ok hread
        exact .some (congrArg Json.dumps hdict)
    obtain ⟨document', hdocument', htext⟩ := payload_sameText hrelated hdocument
    unfold InStep
    rw [hfile]
    exact ⟨document', hdocument', htext⟩

/-- A record whose data is one member. -/
def noteArgs (v : Value) : RecordArgs where
  engagementId := "e"
  evidenceId := "r"
  sourceNight := "red"
  evidenceType := "note"
  observedAt := "2030-01-01T00:00:00Z"
  provenance := "manual"
  data := [("a", v)]
  limitations := []

/-- The envelope of one record. -/
def single (r : EvidenceRecord) : EngagementEnvelope where
  engagementId := r.engagementId
  records := [r]
  metadata := none
  engagementId_required := r.engagementId_required
  records_belong := fun _ h => congrArg _ (List.mem_singleton.mp h)
  metadata_belongs := fun _ h => absurd h (Option.not_mem_none _)
  ids_nodup := List.nodup_singleton _

/-- `1` and `True` are equal and written otherwise. -/
theorem equal_notes : ∃ r r' : EvidenceRecord, r.Same r' ∧ ¬ SameText r r' := by
  have hnotes : (do
      let r ← (noteArgs (.int 1)).make.toOption
      let r' ← (noteArgs (.bool true)).make.toOption
      return decide (r.Same r') && decide (recordText r' ≠ recordText r)) = some true := by
    decide +kernel
  obtain ⟨r, -, hnotes⟩ := Option.bind_eq_some_iff.mp hnotes
  obtain ⟨r', -, hnotes⟩ := Option.bind_eq_some_iff.mp hnotes
  rw [Option.pure_def, Option.some.injEq, Bool.and_eq_true, decide_eq_true_eq,
    decide_eq_true_eq] at hnotes
  exact ⟨r, r', hnotes⟩

theorem existing_after_append {s : FileEngagementStore} {r : EvidenceRecord}
    (h : s.memory.existing r = none) :
    (appendStep s (.append r (.ok ()))).1.memory = s.memory.putRecord r := by
  show (append r (.ok ()) s).2.memory = _
  rw [append_new h]
  exact (inStep_persist _).2

end NightRecon.SharedCore.FileStore
