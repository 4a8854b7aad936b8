import NightRecon.WhiteEngine.EvidenceCustody.Case

/-!
# Export bundles

`nightrecon_white_engine/evidence_custody.py`, continued: the manifest of a case and the bundle it
is exported in.

* `ManifestEntry`, `EvidenceManifest` — what a manifest says of the items of a case;
* `EvidenceCustodyCase.manifest` — the manifest that is built from a case, `manifest_entries`;
* `EvidenceExportBundle` — a case, a manifest and the records, as the constructor binds them;
* `Describes` — a manifest that agrees with the items of a case;
* `describes_iff` — in an accepted bundle the manifest names the items of the case, and it describes
  them exactly when it lists the entries that are built from them; `lowered_manifest` is another.
-/

namespace NightRecon.WhiteEngine.EvidenceCustody

open NightRecon.Lib
open NightRecon.Lib.Checks
open NightRecon.Lib.Commitment
open NightRecon.Lib.Datetime
open NightRecon.Lib.Json
open NightRecon.Lib.Sha256
open NightRecon.Lib.Text
open NightRecon.Documents
open NightRecon.SharedCore.Contracts (EvidenceRecord)
open NightRecon.WhiteEngine.EngagementDomain
open NightRecon.WhiteEngine.Fields
open NightRecon.WhiteEngine.History
open NightRecon.WhiteEngine.Reading

/-! ## Manifest entries -/

/-- The arguments of the entry constructor. -/
structure EntryArgs where
  evidenceId : String
  sourceNight : String
  evidenceType : String
  observedAt : String
  classification : String
  retainUntil : String
  recordFingerprint : String
  custodiedEvidenceFingerprint : String
  parentEvidenceIds : List String
  deriving DecidableEq

/-- Source: `evidence_custody.py` `ManifestEntry`. -/
structure ManifestEntry where
  evidenceId : String
  sourceNight : String
  evidenceType : String
  observedAt : Timestamp
  classification : Classification
  retainUntil : Timestamp
  recordFingerprint : String
  custodiedEvidenceFingerprint : String
  parentEvidenceIds : Ids
  evidenceId_valid : isIdentifier evidenceId = true
  sourceNight_required : requiredText sourceNight
  evidenceType_required : requiredText evidenceType
  recordFingerprint_valid : isSha256Hex recordFingerprint
  custodiedEvidenceFingerprint_valid : isSha256Hex custodiedEvidenceFingerprint

/-- Source: `evidence_custody.py` `ManifestEntry.__post_init__`. -/
def EntryArgs.make (a : EntryArgs) : Py ManifestEntry := do
  let h₁ ← checkIdentifier .evidenceCustodyError a.evidenceId "evidence_id"
  let h₂ ← checkText .evidenceCustodyError a.sourceNight "source_night"
  let h₃ ← checkText .evidenceCustodyError a.evidenceType "evidence_type"
  let observedAt ← iso8601 .evidenceCustodyError a.observedAt "observed_at"
  let classification ← getOrRaise (Classification.ofText a.classification)
    (custodyError "unsupported manifest classification")
  let retainUntil ← iso8601 .evidenceCustodyError a.retainUntil "retain_until"
  let h₄ ← checkSha256 .evidenceCustodyError a.recordFingerprint "record_fingerprint"
  let h₅ ← checkSha256 .evidenceCustodyError a.custodiedEvidenceFingerprint
    "custodied_evidence_fingerprint"
  let parents ← sortedUniqueIds a.parentEvidenceIds "parent_evidence_ids"
  return ⟨a.evidenceId, a.sourceNight, a.evidenceType, observedAt, classification, retainUntil,
    a.recordFingerprint, a.custodiedEvidenceFingerprint, parents, h₁.down, h₂.down, h₃.down,
    h₄.down, h₅.down⟩

namespace ManifestEntry

/-- The fields of an entry. -/
@[reducible] def args (e : ManifestEntry) : EntryArgs where
  evidenceId := e.evidenceId
  sourceNight := e.sourceNight
  evidenceType := e.evidenceType
  observedAt := e.observedAt.text
  classification := e.classification.text
  retainUntil := e.retainUntil.text
  recordFingerprint := e.recordFingerprint
  custodiedEvidenceFingerprint := e.custodiedEvidenceFingerprint
  parentEvidenceIds := e.parentEvidenceIds.values

/-- The members of an entry's document. -/
def members (e : ManifestEntry) : List (String × Json) :=
  [("evidence_id", .str e.evidenceId),
    ("source_night", .str e.sourceNight),
    ("evidence_type", .str e.evidenceType),
    ("observed_at", .str e.observedAt.text),
    ("classification", .str e.classification.text),
    ("retain_until", .str e.retainUntil.text),
    ("record_fingerprint", .str e.recordFingerprint),
    ("custodied_evidence_fingerprint", .str e.custodiedEvidenceFingerprint),
    ("parent_evidence_ids", .strings e.parentEvidenceIds.values)]

/-- Source: `evidence_custody.py` `ManifestEntry.to_dict`. -/
def toDict (e : ManifestEntry) : Json := .obj e.members

/-- The keys of an entry's document. -/
def required : List String :=
  ["evidence_id", "source_night", "evidence_type", "observed_at", "classification", "retain_until",
    "record_fingerprint", "custodied_evidence_fingerprint", "parent_evidence_ids"]

/-- Source: `evidence_custody.py` `ManifestEntry.from_dict`. -/
def fromDict (doc : Json) : Py ManifestEntry := do
  requireKeys doc required (custodyError "manifest entry schema is not supported")
  let get := getItem doc
  let text := fun field => get field >>= readText .evidenceCustodyError field
  let parents ← get "parent_evidence_ids" >>= readTexts .evidenceCustodyError
    "parent_evidence_ids" (custodyError "manifest parent_evidence_ids must be a list")
  let args : EntryArgs := {
    evidenceId := ← text "evidence_id"
    sourceNight := ← text "source_night"
    evidenceType := ← text "evidence_type"
    observedAt := ← text "observed_at"
    classification := ← get "classification" >>=
      readStr (custodyError "unsupported manifest classification")
    retainUntil := ← text "retain_until"
    recordFingerprint := ← text "record_fingerprint"
    custodiedEvidenceFingerprint := ← text "custodied_evidence_fingerprint"
    parentEvidenceIds := parents }
  args.make

end ManifestEntry

/-! ## Manifests -/

/-- Source: `evidence_custody.py` `EvidenceManifest`. -/
structure EvidenceManifest where
  schemaVersion : SchemaVersion
  caseId : String
  engagementId : String
  generatedAt : Timestamp
  caseFingerprint : String
  entries : List ManifestEntry
  caseId_valid : isIdentifier caseId = true
  engagementId_valid : isIdentifier engagementId = true
  caseFingerprint_valid : isSha256Hex caseFingerprint
  entries_sorted : entries.Pairwise fun e e' => e.evidenceId ≤ e'.evidenceId
  entries_nodup : (entries.map (·.evidenceId)).Nodup

namespace EvidenceManifest

/-- Source: `evidence_custody.py` `EvidenceManifest.__post_init__`. -/
def make (schemaVersion : SchemaVersion) (caseId engagementId generatedAt caseFingerprint : String)
    (entries : List ManifestEntry) (authorizationEffect : String) : Py EvidenceManifest := do
  let h₁ ← checkIdentifier .evidenceCustodyError caseId "case_id"
  let h₂ ← checkIdentifier .evidenceCustodyError engagementId "engagement_id"
  let generatedAt ← iso8601 .evidenceCustodyError generatedAt "generated_at"
  let h₃ ← checkSha256 .evidenceCustodyError caseFingerprint "case_fingerprint"
  raiseIf (authorizationEffect ≠ "none")
    (custodyError "evidence manifests must never grant authorization")
  let h₄ ← prove (((sortedBy (·.evidenceId) entries).map (·.evidenceId)).Nodup)
    (custodyError "manifest evidence IDs must be unique")
  return ⟨schemaVersion, caseId, engagementId, generatedAt, caseFingerprint,
    sortedBy (·.evidenceId) entries, identifier_of h₁, identifier_of h₂, h₃.down,
    sortedBy_pairwise _ _, h₄.down⟩

/-- What is hashed for the fingerprint of a manifest. -/
def payload (m : EvidenceManifest) : List (String × Json) :=
  [("schema_version", m.schemaVersion.toJson),
    ("case_id", .str m.caseId),
    ("engagement_id", .str m.engagementId),
    ("generated_at", .str m.generatedAt.text),
    ("case_fingerprint", .str m.caseFingerprint),
    ("entries", .arr (m.entries.map ManifestEntry.toDict)),
    ("authorization_effect", .str "none")]

/-- Source: `evidence_custody.py` `EvidenceManifest.fingerprint`. -/
def fingerprint (m : EvidenceManifest) : String := Fields.fingerprint (.obj m.payload)

/-- Source: `evidence_custody.py` `EvidenceManifest.to_dict`. -/
def toDict (m : EvidenceManifest) : Json :=
  .obj (m.payload ++ [("manifest_fingerprint", .str m.fingerprint)])

/-- The keys of a manifest's document. -/
def required : List String :=
  ["schema_version", "case_id", "engagement_id", "generated_at", "case_fingerprint", "entries",
    "authorization_effect", "manifest_fingerprint"]

/-- Source: `evidence_custody.py` `EvidenceManifest.from_dict`. -/
def fromDict (doc : Json) : Py EvidenceManifest := do
  requireKeys doc required (custodyError "evidence manifest schema is not supported")
  let get := getItem doc
  let text := fun field => get field >>= readText .evidenceCustodyError field
  let entryDocs ← get "entries" >>= readList (custodyError "manifest entries must be a list")
  let entries ← entryDocs.mapM ManifestEntry.fromDict
  let manifest ← make
    (← get "schema_version" >>=
      SchemaVersion.ofJson (custodyError "unsupported evidence manifest schema"))
    (← text "case_id") (← text "engagement_id") (← text "generated_at") (← text "case_fingerprint")
    entries
    (← get "authorization_effect" >>=
      readStr (custodyError "evidence manifests must never grant authorization"))
  verify doc "manifest_fingerprint" manifest.fingerprint
    (custodyError "evidence manifest fingerprint verification failed")
  return manifest

end EvidenceManifest

/-- The entry a case's manifest has for an item.
Source: `evidence_custody.py` `EvidenceCustodyCase.manifest`. -/
def CustodiedEvidence.entryArgs (i : CustodiedEvidence) : EntryArgs where
  evidenceId := i.evidenceId
  sourceNight := i.record.sourceNight.text
  evidenceType := i.record.evidenceType
  observedAt := i.record.observedAt
  classification := i.classification.text
  retainUntil := i.retainUntil.text
  recordFingerprint := i.recordFingerprint
  custodiedEvidenceFingerprint := i.fingerprint
  parentEvidenceIds := i.parentEvidenceIds.values

/-- Source: `evidence_custody.py` `EvidenceCustodyCase.manifest`. -/
def EvidenceCustodyCase.manifest (c : EvidenceCustodyCase) (generatedAt : String) :
    Py EvidenceManifest := do
  let t ← iso8601 .evidenceCustodyError generatedAt "generated_at"
  raiseIf (∃ e ∈ c.events.getLast?, t.time < e.occurredAt.time)
    (custodyError "manifest cannot predate the latest custody event")
  let entries ← c.items.mapM fun i => i.entryArgs.make
  EvidenceManifest.make .int c.caseId c.engagementId generatedAt c.fingerprint entries "none"

/-! ## Bundles -/

/-- The identifiers of records with their fingerprints, as a dictionary. -/
def recordFingerprints (records : List EvidenceRecord) : Finset (String × String) :=
  (records.map fun r => (r.evidenceId, recordFingerprint r)).toFinset

/-- The identifiers of items with the fingerprints of their records, as a dictionary. -/
def expectedFingerprints (items : List CustodiedEvidence) : Finset (String × String) :=
  (items.map fun i => (i.evidenceId, i.recordFingerprint)).toFinset

/-- A manifest that is bound to a case.
Source: `evidence_custody.py` `EvidenceExportBundle.__post_init__`. -/
def boundTo (m : EvidenceManifest) (c : EvidenceCustodyCase) : Prop :=
  m.caseId = c.caseId ∧ m.engagementId = c.engagementId ∧ m.caseFingerprint = c.fingerprint

instance (m : EvidenceManifest) (c : EvidenceCustodyCase) : Decidable (boundTo m c) :=
  inferInstanceAs (Decidable (_ ∧ _ ∧ _))

/-- Source: `evidence_custody.py` `EvidenceExportBundle`. -/
structure EvidenceExportBundle where
  schemaVersion : SchemaVersion
  custodyCase : EvidenceCustodyCase
  manifest : EvidenceManifest
  records : List EvidenceRecord
  bound : boundTo manifest custodyCase
  records_sorted : records.Pairwise fun r r' => r.evidenceId ≤ r'.evidenceId
  records_nodup : (records.map (·.evidenceId)).Nodup
  records_match : recordFingerprints records = expectedFingerprints custodyCase.items
  entries_match : (manifest.entries.map (·.evidenceId)).toFinset =
    (custodyCase.items.map CustodiedEvidence.evidenceId).toFinset

namespace EvidenceExportBundle

/-- Source: `evidence_custody.py` `EvidenceExportBundle.__post_init__`. -/
def make (schemaVersion : SchemaVersion) (c : EvidenceCustodyCase) (m : EvidenceManifest)
    (records : List EvidenceRecord) (authorizationEffect : String) : Py EvidenceExportBundle := do
  raiseIf (authorizationEffect ≠ "none")
    (custodyError "exported evidence must never grant authorization")
  let h₁ ← prove (boundTo m c) (custodyError "manifest is not bound to custody case")
  let records := sortedBy EvidenceRecord.evidenceId records
  let h₂ ← prove (records.map (·.evidenceId)).Nodup (custodyError "export record IDs must be unique")
  let h₃ ← prove (recordFingerprints records = expectedFingerprints c.items)
    (custodyError "export records do not match custody fingerprints")
  let h₄ ← prove ((m.entries.map (·.evidenceId)).toFinset =
      (c.items.map CustodiedEvidence.evidenceId).toFinset)
    (custodyError "manifest records do not match custody case")
  return ⟨schemaVersion, c, m, records, h₁.down, sortedBy_pairwise _ _, h₂.down, h₃.down, h₄.down⟩

/-- What is hashed for the fingerprint of a bundle. -/
def payload (b : EvidenceExportBundle) : List (String × Json) :=
  [("schema_version", b.schemaVersion.toJson),
    ("authorization_effect", .str "none"),
    ("case", b.custodyCase.toDict),
    ("manifest", b.manifest.toDict),
    ("records", .arr (b.records.map EvidenceRecord.toDict))]

/-- Source: `evidence_custody.py` `EvidenceExportBundle.fingerprint`. -/
def fingerprint (b : EvidenceExportBundle) : String := Fields.fingerprint (.obj b.payload)

/-- The keys of a bundle's document. -/
def required : List String :=
  ["schema_version", "authorization_effect", "case", "manifest", "records", "bundle_fingerprint"]

/-- Source: `evidence_custody.py` `EvidenceExportBundle.from_dict`. -/
def fromDict (doc : Json) : Py EvidenceExportBundle := do
  requireKeys doc required (custodyError "evidence export bundle schema is not supported")
  let get := getItem doc
  let caseDoc ← get "case"
  require (isObject caseDoc = true) (custodyError "export case must be an object")
  let manifestDoc ← get "manifest"
  require (isObject manifestDoc = true) (custodyError "export manifest must be an object")
  let recordDocs ← get "records" >>= readList (custodyError "export records must be a list")
  let records ← rewrap (recordDocs.mapM EvidenceRecord.fromDict)
  let bundle ← make
    (← get "schema_version" >>=
      SchemaVersion.ofJson (custodyError "unsupported evidence export schema"))
    (← EvidenceCustodyCase.fromDict caseDoc) (← EvidenceManifest.fromDict manifestDoc) records
    (← get "authorization_effect" >>=
      readStr (custodyError "exported evidence must never grant authorization"))
  verify doc "bundle_fingerprint" bundle.fingerprint
    (custodyError "evidence export bundle fingerprint verification failed")
  return bundle

end EvidenceExportBundle

/-! ## What a manifest says of a case -/

/-- An entry that agrees with an item. -/
structure ManifestEntry.Matches (e : ManifestEntry) (i : CustodiedEvidence) : Prop where
  sourceNight : e.sourceNight = i.record.sourceNight.text
  evidenceType : e.evidenceType = i.record.evidenceType
  observedAt : e.observedAt.text = i.record.observedAt
  classification : e.classification = i.classification
  retainUntil : e.retainUntil = i.retainUntil
  recordFingerprint : e.recordFingerprint = i.recordFingerprint
  custodiedEvidenceFingerprint : e.custodiedEvidenceFingerprint = i.fingerprint
  parentEvidenceIds : e.parentEvidenceIds = i.parentEvidenceIds

/-- The manifest has one entry for each item, and it agrees with the item. -/
def Describes (m : EvidenceManifest) (c : EvidenceCustodyCase) : Prop :=
  ∀ i ∈ c.items, ∃ e ∈ m.entries, e.evidenceId = i.evidenceId ∧ e.Matches i ∧
    ∀ e' ∈ m.entries, e'.evidenceId = i.evidenceId → e' = e

/-- The manifest lists the entries that `manifest` builds from the items. -/
def ListsItems (m : EvidenceManifest) (c : EvidenceCustodyCase) : Prop :=
  m.entries.map ManifestEntry.args = c.items.map CustodiedEvidence.entryArgs

theorem entry_matches {e : ManifestEntry} {i : CustodiedEvidence} (h : e.args = i.entryArgs) :
    e.evidenceId = i.evidenceId ∧ e.Matches i := by
  simp only [ManifestEntry.args, CustodiedEvidence.entryArgs, EntryArgs.mk.injEq] at h
  obtain ⟨h₁, h₂, h₃, h₄, h₅, h₆, h₇, h₈, h₉⟩ := h
  exact ⟨h₁, h₂, h₃, h₄, Classification.text_injective h₅, Timestamp.ext_text h₆, h₇, h₈,
    SortedUnique.ext_values h₉⟩

theorem args_of_matches {e : ManifestEntry} {i : CustodiedEvidence}
    (hid : e.evidenceId = i.evidenceId) (h : e.Matches i) : e.args = i.entryArgs := by
  rw [ManifestEntry.args, CustodiedEvidence.entryArgs, hid, h.sourceNight, h.evidenceType,
    h.observedAt, h.classification, h.retainUntil, h.recordFingerprint,
    h.custodiedEvidenceFingerprint, h.parentEvidenceIds]

/-- Entries are named once. -/
theorem entry_eq {m : EvidenceManifest} {e e' : ManifestEntry} (he : e ∈ m.entries)
    (he' : e' ∈ m.entries) (h : e.evidenceId = e'.evidenceId) : e = e' :=
  List.inj_on_of_nodup_map m.entries_nodup he he' h

theorem make_args_eq {a : EntryArgs} {e : ManifestEntry} (h : a.make = .ok e)
    (hparents : sortedStr a.parentEvidenceIds = a.parentEvidenceIds) : e.args = a := by
  simp only [EntryArgs.make, bind_eq_ok, iso8601_eq_ok, getOrRaise_eq_ok, pure_eq_ok,
    Except.ok.injEq] at h
  obtain ⟨-, -, -, -, -, -, t, ht, k, hk, u, hu, -, -, -, -, ids, hids, rfl⟩ := h
  have hvalues : ids.values = a.parentEvidenceIds := by
    simp only [sortedUniqueIds, sortedUnique, bind_eq_ok, pure_eq_ok, Except.ok.injEq] at hids
    obtain ⟨-, -, -, -, -, -, rfl⟩ := hids
    exact hparents
  rw [ManifestEntry.args, Timestamp.text_of_ofText ht, Timestamp.text_of_ofText hu,
    Classification.text_of_ofText hk, hvalues]

/-- **The manifest of a case lists the items of the case.** -/
theorem manifest_listsItems {c : EvidenceCustodyCase} {generatedAt : String} {m : EvidenceManifest}
    (h : c.manifest generatedAt = .ok m) : ListsItems m c := by
  simp only [EvidenceCustodyCase.manifest, bind_eq_ok, mapM_eq_ok] at h
  obtain ⟨-, -, -, -, entries, hentries, hmake⟩ := h
  have hargs : entries.map ManifestEntry.args = c.items.map CustodiedEvidence.entryArgs :=
    map_eq_of_forall₂ hentries fun i e he => make_args_eq he i.parentEvidenceIds.sorted
  have hids : entries.map (·.evidenceId) = c.items.map (·.evidenceId) := by
    have hmap := congrArg (List.map EntryArgs.evidenceId) hargs
    rw [List.map_map, List.map_map] at hmap
    exact hmap
  have hsorted : sortedBy (·.evidenceId) entries = entries := by
    apply sortedBy_eq_self
    have hitems : (entries.map (·.evidenceId)).Pairwise (· ≤ ·) := by
      rw [hids, List.pairwise_map]
      exact c.items_pairwise
    exact List.pairwise_map.mp hitems
  simp only [EvidenceManifest.make, bind_eq_ok, pure_eq_ok, Except.ok.injEq] at hmake
  obtain ⟨-, -, -, -, -, -, -, -, -, -, -, -, rfl⟩ := hmake
  exact (congrArg (List.map ManifestEntry.args) hsorted).trans hargs

namespace EvidenceExportBundle

/-- In an accepted bundle the entries name the items, in order. -/
theorem entryIds (b : EvidenceExportBundle) :
    b.manifest.entries.map (·.evidenceId) = b.custodyCase.items.map (·.evidenceId) := by
  have hperm := List.perm_of_nodup_nodup_toFinset_eq b.manifest.entries_nodup
    b.custodyCase.items_nodup b.entries_match
  have hentries : (b.manifest.entries.map (·.evidenceId)).Pairwise (· ≤ ·) :=
    List.pairwise_map.mpr b.manifest.entries_sorted
  have hitems : (b.custodyCase.items.map (·.evidenceId)).Pairwise (· ≤ ·) := by
    rw [List.pairwise_map]
    exact b.custodyCase.items_pairwise
  exact hperm.eq_of_pairwise' hentries hitems

/-- **The manifest of an accepted bundle has exactly one entry for each item.** -/
theorem entry_of_item (b : EvidenceExportBundle) {i : CustodiedEvidence}
    (hi : i ∈ b.custodyCase.items) : ∃ e ∈ b.manifest.entries, e.evidenceId = i.evidenceId ∧
      ∀ e' ∈ b.manifest.entries, e'.evidenceId = i.evidenceId → e' = e := by
  have hmem : i.evidenceId ∈ b.manifest.entries.map (·.evidenceId) := by
    rw [b.entryIds]
    exact List.mem_map_of_mem hi
  obtain ⟨e, he, hid⟩ := List.mem_map.mp hmem
  exact ⟨e, he, hid, fun e' he' hid' => entry_eq he' he (hid'.trans hid.symm)⟩

/-- A manifest that lists the items describes them. -/
theorem describes_of_listsItems {b : EvidenceExportBundle}
    (h : ListsItems b.manifest b.custodyCase) : Describes b.manifest b.custodyCase := by
  intro i hi
  have hmem : i.entryArgs ∈ b.manifest.entries.map ManifestEntry.args := by
    rw [h]
    exact List.mem_map_of_mem hi
  obtain ⟨e, he, hargs⟩ := List.mem_map.mp hmem
  obtain ⟨hid, hmatches⟩ := entry_matches hargs
  exact ⟨e, he, hid, hmatches, fun e' he' hid' => entry_eq he' he (hid'.trans hid.symm)⟩

/-- A manifest that describes the items lists them. -/
theorem listsItems_of_describes {b : EvidenceExportBundle}
    (h : Describes b.manifest b.custodyCase) : ListsItems b.manifest b.custodyCase := by
  have hall : List.Forall₂ (fun e i => e.args = CustodiedEvidence.entryArgs i) b.manifest.entries
      b.custodyCase.items := by
    refine forall₂_of_map_eq b.entryIds fun e he i hi hid => ?_
    obtain ⟨e', he', hid', hmatches, -⟩ := h i hi
    obtain rfl := entry_eq he he' (hid.trans hid'.symm)
    exact args_of_matches hid hmatches
  exact (map_eq_of_forall₂ hall fun _ _ hargs => hargs.symm).symm

/-- **When the manifest of an accepted bundle describes the case**: it always has exactly one entry
for each item, and the entries agree with the items exactly when they are those that `manifest`
builds from the case. -/
theorem describes_iff (b : EvidenceExportBundle) :
    (∀ i ∈ b.custodyCase.items, ∃ e ∈ b.manifest.entries, e.evidenceId = i.evidenceId ∧
        ∀ e' ∈ b.manifest.entries, e'.evidenceId = i.evidenceId → e' = e) ∧
      (Describes b.manifest b.custodyCase ↔ ListsItems b.manifest b.custodyCase) :=
  ⟨fun _ => b.entry_of_item, listsItems_of_describes, describes_of_listsItems⟩

end EvidenceExportBundle

/-! ## A manifest that lowers a classification -/

section Sample

def loweredRecord : EvidenceRecord := sampleRecord (.int 1) (by decide +kernel)

/-- The entry of the record, with the lowest classification. -/
def loweredEntry : ManifestEntry where
  evidenceId := "r"
  sourceNight := "red"
  evidenceType := "note"
  observedAt := sampleTime
  classification := .public
  retainUntil := (sampleItem loweredRecord).retainUntil
  recordFingerprint := (sampleItem loweredRecord).recordFingerprint
  custodiedEvidenceFingerprint := (sampleItem loweredRecord).fingerprint
  parentEvidenceIds := (sampleItem loweredRecord).parentEvidenceIds
  evidenceId_valid := by decide
  sourceNight_required := by decide
  evidenceType_required := note_required
  recordFingerprint_valid := CustodiedEvidence.isSha256Hex_recordFingerprint _
  custodiedEvidenceFingerprint_valid := isSha256Hex_fingerprint _

def loweredManifest : EvidenceManifest where
  schemaVersion := .int
  caseId := "case-1"
  engagementId := "e"
  generatedAt := sampleTime
  caseFingerprint := (sampleCase loweredRecord rfl rfl).fingerprint
  entries := [loweredEntry]
  caseId_valid := caseId_identifier
  engagementId_valid := engagementId_identifier
  caseFingerprint_valid := isSha256Hex_fingerprint _
  entries_sorted := List.pairwise_singleton _ _
  entries_nodup := List.nodup_singleton _

/-- A bundle whose manifest calls an internal item public. -/
def loweredBundle : EvidenceExportBundle where
  schemaVersion := .int
  custodyCase := sampleCase loweredRecord rfl rfl
  manifest := loweredManifest
  records := [loweredRecord]
  bound := ⟨rfl, rfl, rfl⟩
  records_sorted := List.pairwise_singleton _ _
  records_nodup := List.nodup_singleton _
  records_match := rfl
  entries_match := rfl

/-- **A forged manifest is accepted.** -/
theorem lowered_manifest : ¬ ∀ b : EvidenceExportBundle, Describes b.manifest b.custodyCase := by
  intro hall
  obtain ⟨e, he, -, hmatches, -⟩ := hall loweredBundle (sampleItem loweredRecord)
    (List.mem_singleton_self _)
  obtain rfl : e = loweredEntry := List.mem_singleton.mp he
  exact absurd hmatches.classification (by decide)

end Sample

end NightRecon.WhiteEngine.EvidenceCustody
