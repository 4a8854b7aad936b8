import Mathlib.Data.List.Forall2
import NightRecon.Lib.Commitment
import NightRecon.WhiteEngine.EvidenceCustody.Event

/-!
# Custody cases

`nightrecon_white_engine/evidence_custody.py`, continued: the items of one engagement with the
history of their custody.

* `replayStep` — the rules `_validate_events` applies to one event, as a step of a state machine;
* `EvidenceCustodyCase` — items and a history that passed the replay, `EvidenceCustodyCase.make`;
* `EvidenceCustodyCase.Same` — the language's `==`;
* `EvidenceCustodyCase.fromJson_toJson` — a written case whose evidence data are JSON values reads
  back as an equal case with the same fingerprint;
* `EvidenceCustodyCase.same_of_fingerprint` — two such cases with one fingerprint are equal, unless
  two of the texts hashed for them collide.
-/

namespace NightRecon.WhiteEngine.EvidenceCustody

open NightRecon.Lib
open NightRecon.Lib.Checks
open NightRecon.Lib.Commitment
open NightRecon.Lib.Datetime
open NightRecon.Lib.Json
open NightRecon.Lib.Sha256
open NightRecon.Lib.Text
open NightRecon.Documents
open NightRecon.DocumentMembers
open NightRecon.SharedCore.Contracts (EvidenceRecord isSecretKey rejectSecretKeys)
open NightRecon.WhiteEngine.EngagementDomain
open NightRecon.WhiteEngine.Fields
open NightRecon.WhiteEngine.History
open NightRecon.WhiteEngine.Reading

/-! ## The replay -/

/-- What the replay looks at in an item. -/
structure Terms where
  evidenceId : String
  retainedFrom : String
  parentEvidenceIds : List String
  deriving DecidableEq

/-- The terms of an item. -/
def CustodiedEvidence.terms (i : CustodiedEvidence) : Terms :=
  ⟨i.evidenceId, i.retainedFrom.text, i.parentEvidenceIds.values⟩

/-- What `_validate_events` keeps. -/
structure Replay where
  link : Link
  origins : Finset String
  custodians : String → Option String

def Replay.start : Replay := ⟨.start, ∅, fun _ => none⟩

def words : Words := ⟨.evidenceCustodyError, "custody", "case"⟩

/-- The identifiers of a decoded list, sorted.  A list with anything but strings never matches the
parents of an item; where its elements cannot even be sorted, the source raises a `TypeError`. -/
def decodedIds : Json → Option (List String)
  | .arr elems => (elems.mapM fun j => (asStr j).toOption).map sortedStr
  | _ => none

/-- The lineage an origin event records.
Source: `evidence_custody.py` `_validate_events`, origin events. -/
def checkLineage (s : Replay) (item : Terms) (e : CustodyEvent) : Py Unit :=
  let parents := item.parentEvidenceIds
  if e.eventType = .derived then
    match parents, e.detail "parent_evidence_ids" with
    | _ :: _, some encoded => do
        let decoded ← getOrRaise (loads encoded) (custodyError "derived parent evidence is invalid")
        raiseIf (decodedIds decoded ≠ some parents)
          (custodyError "derived parent evidence does not match item")
        raiseIf (∃ p ∈ parents, p ∉ s.origins)
          (custodyError "derived evidence parents must already be in custody")
    | _, _ => .error (custodyError "derived evidence requires parent evidence")
  else
    raiseIf (parents ≠ [] ∨ (e.detail "parent_evidence_ids").isSome = true)
      (custodyError "ingested evidence cannot claim derivation parents")

/-- Source: `evidence_custody.py` `_validate_events`, origin events. -/
def applyOrigin (terms : List Terms) (s : Replay) (e : CustodyEvent) : Py Replay := do
  let evidenceId ← getOrRaise e.evidenceId
    (custodyError "evidence origin event requires evidence_id")
  raiseIf (evidenceId ∈ s.origins) (custodyError "evidence has more than one origin event")
  let item ← getOrRaise (terms.find? fun t => t.evidenceId = evidenceId)
    (custodyError "custody event references unknown evidence")
  raiseIf (item.retainedFrom ≠ e.occurredAt.text)
    (custodyError "evidence retention start must match origin event")
  let custodian ← getOrRaise (e.detail "custodian_id")
    (custodyError "evidence origin event requires custodian_id")
  let _ ← checkIdentifier .evidenceCustodyError custodian "custodian_id"
  checkLineage s item e
  return { s with
    origins := insert evidenceId s.origins
    custodians := Function.update s.custodians evidenceId (some custodian) }

/-- Source: `evidence_custody.py` `_validate_events`, transfers. -/
def applyTransfer (s : Replay) (e : CustodyEvent) : Py Replay := do
  let evidenceId ← getOrRaise e.evidenceId (custodyError "transfer event requires evidence_id")
  let custodian ← getOrRaise (s.custodians evidenceId)
    (custodyError "cannot transfer evidence before origin custody")
  let incomplete := custodyError "transfer event requires from/to custodians"
  let fromId ← getOrRaise (e.detail "from_custodian") incomplete
  let toId ← getOrRaise (e.detail "to_custodian") incomplete
  let _ ← checkIdentifier .evidenceCustodyError fromId "from_custodian"
  let _ ← checkIdentifier .evidenceCustodyError toId "to_custodian"
  raiseIf (fromId = toId) (custodyError "custody transfer requires different custodians")
  raiseIf (custodian ≠ fromId) (custodyError "custody transfer source does not hold evidence")
  raiseIf (e.actorId ≠ fromId) (custodyError "custody transfer actor must be current custodian")
  return { s with custodians := Function.update s.custodians evidenceId (some toId) }

/-- Source: `evidence_custody.py` `_validate_events`, exports. -/
def applyExport (s : Replay) (e : CustodyEvent) : Py Replay := do
  raiseIf (e.evidenceId ≠ none)
    (custodyError "case export event must not target one evidence item")
  let destination ← getOrRaise (e.detail "destination")
    (custodyError "export event requires destination label")
  let _ ← checkText .evidenceCustodyError destination "destination"
  return s

/-- The rules for one event, by its type.
Source: `evidence_custody.py` `EvidenceCustodyCase._validate_events`. -/
def applyEvent (terms : List Terms) (s : Replay) (e : CustodyEvent) : Py Replay :=
  match e.eventType with
  | .ingested | .derived => applyOrigin terms s e
  | .transferred => applyTransfer s e
  | .exported => applyExport s e

/-- One turn of the loop.
Source: `evidence_custody.py` `EvidenceCustodyCase._validate_events`. -/
def replayStep (caseId engagementId : String) (terms : List Terms) (s : Replay)
    (e : CustodyEvent) : Py Replay := do
  let link ← checkLink words caseId engagementId s.link e.entry
  let s ← applyEvent terms s e
  return { s with link := link }

/-- The events replayed from the start. -/
def replay (caseId engagementId : String) (terms : List Terms) (events : List CustodyEvent) :
    Py Replay :=
  events.foldlM (replayStep caseId engagementId terms) .start

/-- Source: `evidence_custody.py` `EvidenceCustodyCase._validate_events`. -/
def validateEvents (caseId engagementId : String) (terms : List Terms)
    (events : List CustodyEvent) : Py Unit := do
  let s ← replay caseId engagementId terms events
  raiseIf (s.origins ≠ (terms.map Terms.evidenceId).toFinset)
    (custodyError "every custody item requires exactly one origin event")

/-! ## Cases -/

/-- The items in the order of their identifiers. -/
def sortedItems (items : List CustodiedEvidence) : List CustodiedEvidence :=
  sortedBy CustodiedEvidence.evidenceId items

theorem sortedItems_sortedItems (items : List CustodiedEvidence) :
    sortedItems (sortedItems items) = sortedItems items :=
  sortedBy_eq_self (sortedBy_pairwise _ _)

/-- Source: `evidence_custody.py` `EvidenceCustodyCase`. -/
structure EvidenceCustodyCase where
  schemaVersion : SchemaVersion
  caseId : String
  engagementId : String
  dataHandling : DataHandlingPolicy
  items : List CustodiedEvidence
  events : List CustodyEvent
  caseId_valid : isIdentifier caseId = true
  engagementId_valid : isIdentifier engagementId = true
  items_nonempty : items ≠ []
  items_sorted : sortedItems items = items
  items_nodup : (items.map (·.evidenceId)).Nodup
  items_belong : ∀ i ∈ items, i.record.engagementId = engagementId
  items_classified : ∀ i ∈ items, dataHandling.classification.rank ≤ i.classification.rank
  parents_known : ∀ i ∈ items, ∀ p ∈ i.parentEvidenceIds.values, p ∈ items.map (·.evidenceId)
  events_nonempty : events ≠ []
  accepted : (validateEvents caseId engagementId (items.map CustodiedEvidence.terms) events).toOption.isSome =
    true

namespace EvidenceCustodyCase

/-- The constructor's checks, in order, on items that are sorted already.
Source: `evidence_custody.py` `EvidenceCustodyCase.__post_init__`. -/
def build (schemaVersion : SchemaVersion) (caseId engagementId : String)
    (dataHandling : DataHandlingPolicy) (items : List CustodiedEvidence)
    (hsorted : sortedItems items = items) (events : List CustodyEvent) :
    Py EvidenceCustodyCase := do
  let h₁ ← checkIdentifier .evidenceCustodyError caseId "case_id"
  let h₂ ← checkIdentifier .evidenceCustodyError engagementId "engagement_id"
  let h₃ ← prove (items ≠ []) (custodyError "custody case requires at least one evidence item")
  let h₄ ← prove (items.map (·.evidenceId)).Nodup
    (custodyError "custody evidence IDs must be unique")
  let h₅ ← prove (∀ i ∈ items, i.record.engagementId = engagementId)
    (custodyError "all custody evidence must belong to the case engagement")
  let h₆ ← prove (∀ i ∈ items, dataHandling.classification.rank ≤ i.classification.rank)
    (custodyError "evidence classification cannot be below engagement policy")
  let h₇ ← prove (∀ i ∈ items, ∀ p ∈ i.parentEvidenceIds.values, p ∈ items.map (·.evidenceId))
    (custodyError "derived evidence references unknown parents")
  let h₈ ← prove (events ≠ []) (custodyError "custody case requires at least one event")
  let h₉ ← attempt (validateEvents caseId engagementId (items.map CustodiedEvidence.terms) events)
  return ⟨schemaVersion, caseId, engagementId, dataHandling, items, events, identifier_of h₁,
    identifier_of h₂,
    h₃.down, hsorted, h₄.down, h₅.down, h₆.down, h₇.down, h₈.down, h₉.down⟩

/-- Source: `evidence_custody.py` `EvidenceCustodyCase.__post_init__`. -/
def make (schemaVersion : SchemaVersion) (caseId engagementId : String)
    (dataHandling : DataHandlingPolicy) (items : List CustodiedEvidence)
    (events : List CustodyEvent) : Py EvidenceCustodyCase :=
  build schemaVersion caseId engagementId dataHandling (sortedItems items)
    (sortedItems_sortedItems items) events

theorem build_fields (c : EvidenceCustodyCase) : build c.schemaVersion c.caseId c.engagementId
    c.dataHandling c.items c.items_sorted c.events = .ok c := by
  unfold build
  rw [checkIdentifier_of c.caseId_valid, ok_bind, checkIdentifier_of c.engagementId_valid,
    ok_bind, prove_of c.items_nonempty, ok_bind, prove_of c.items_nodup, ok_bind,
    prove_of c.items_belong, ok_bind, prove_of c.items_classified, ok_bind,
    prove_of c.parents_known, ok_bind, prove_of c.events_nonempty, ok_bind,
    attempt_of c.accepted, ok_bind]
  rfl

/-- **A case is rebuilt from its own fields.** -/
theorem make_fields (c : EvidenceCustodyCase) :
    make c.schemaVersion c.caseId c.engagementId c.dataHandling c.items c.events = .ok c := by
  have hbuild : ∀ (l : List CustodiedEvidence) (hl : sortedItems l = l), l = c.items →
      build c.schemaVersion c.caseId c.engagementId c.dataHandling l hl c.events = .ok c := by
    rintro l hl rfl
    exact c.build_fields
  exact hbuild _ _ c.items_sorted

/-- The items are in the order of their identifiers. -/
theorem items_pairwise (c : EvidenceCustodyCase) :
    c.items.Pairwise fun i i' => i.evidenceId ≤ i'.evidenceId := by
  have hsorted := sortedBy_pairwise CustodiedEvidence.evidenceId c.items
  rwa [← sortedItems, c.items_sorted] at hsorted

/-- Source: `evidence_custody.py` `EvidenceCustodyCase.item`. -/
def item (c : EvidenceCustodyCase) (evidenceId : String) : Py CustodiedEvidence :=
  getOrRaise (c.items.find? fun i => i.evidenceId = evidenceId)
    (custodyError ("evidence not found in custody case: " ++ evidenceId))

/-- The language's `==` on cases. -/
def Same (c c' : EvidenceCustodyCase) : Prop :=
  (c.caseId = c'.caseId ∧ c.engagementId = c'.engagementId ∧ c.dataHandling = c'.dataHandling) ∧
    List.Forall₂ CustodiedEvidence.Same c.items c'.items ∧
    c.events.map CustodyEvent.content = c'.events.map CustodyEvent.content

instance (c c' : EvidenceCustodyCase) : Decidable (c.Same c') :=
  inferInstanceAs (Decidable ((_ ∧ _ ∧ _) ∧ _ ∧ _))

/-! ### Documents -/

/-- Source: `evidence_custody.py` `EvidenceCustodyCase.data_handling_fingerprint`. -/
def dataHandlingFingerprint (c : EvidenceCustodyCase) : String :=
  Fields.fingerprint c.dataHandling.toDict

/-- What is hashed for the fingerprint of a case. -/
def payload (c : EvidenceCustodyCase) : List (String × Json) :=
  [("schema_version", c.schemaVersion.toJson),
    ("case_id", .str c.caseId),
    ("engagement_id", .str c.engagementId),
    ("data_handling", c.dataHandling.toDict),
    ("data_handling_fingerprint", .str c.dataHandlingFingerprint),
    ("item_fingerprints", .strings (c.items.map CustodiedEvidence.fingerprint)),
    ("event_fingerprints", .strings (c.events.map CustodyEvent.fingerprint)),
    ("authorization_effect", .str "none")]

/-- Source: `evidence_custody.py` `EvidenceCustodyCase.fingerprint`. -/
def fingerprint (c : EvidenceCustodyCase) : String := Fields.fingerprint (.obj c.payload)

/-- The members of a case's document. -/
def members (c : EvidenceCustodyCase) : List (String × Json) :=
  [("schema_version", c.schemaVersion.toJson),
    ("case_id", .str c.caseId),
    ("engagement_id", .str c.engagementId),
    ("data_handling", c.dataHandling.toDict),
    ("data_handling_fingerprint", .str c.dataHandlingFingerprint),
    ("items", .arr (c.items.map CustodiedEvidence.toDict)),
    ("events", .arr (c.events.map CustodyEvent.toDict)),
    ("authorization_effect", .str "none"),
    ("case_fingerprint", .str c.fingerprint)]

/-- Source: `evidence_custody.py` `EvidenceCustodyCase.to_dict`. -/
def toDict (c : EvidenceCustodyCase) : Json := .obj c.members

/-- Source: `evidence_custody.py` `EvidenceCustodyCase.to_json`. -/
def toJson (c : EvidenceCustodyCase) : String := write c.toDict

/-- The keys of a case's document. -/
def required : List String :=
  ["schema_version", "case_id", "engagement_id", "data_handling", "data_handling_fingerprint",
    "items", "events", "authorization_effect", "case_fingerprint"]

/-- Source: `evidence_custody.py` `EvidenceCustodyCase.from_dict`. -/
def fromDict (doc : Json) : Py EvidenceCustodyCase := do
  requireKeys doc required (custodyError "evidence custody case schema is not supported")
  let get := getItem doc
  require (isStr "none" (← get "authorization_effect") = true)
    (custodyError "evidence custody state must not grant authorization")
  let policyDoc ← get "data_handling"
  require (isObject policyDoc = true) (custodyError "data_handling must be an object")
  let itemDocs ← get "items" >>= readList (custodyError "items must be a list")
  let eventDocs ← get "events" >>= readList (custodyError "events must be a list")
  let policy ← rewrap (DataHandlingPolicy.fromDict policyDoc)
  verify doc "data_handling_fingerprint" (Fields.fingerprint policy.toDict)
    (custodyError "data handling fingerprint verification failed")
  let items ← itemDocs.mapM CustodiedEvidence.fromDict
  let events ← eventDocs.mapM CustodyEvent.fromDict
  let result ← make
    (← get "schema_version" >>=
      SchemaVersion.ofJson (custodyError "unsupported evidence custody case schema"))
    (← get "case_id" >>= readText .evidenceCustodyError "case_id")
    (← get "engagement_id" >>= readText .evidenceCustodyError "engagement_id") policy items events
  verify doc "case_fingerprint" result.fingerprint
    (custodyError "evidence custody case fingerprint verification failed")
  return result

/-- Source: `evidence_custody.py` `EvidenceCustodyCase.from_json`. -/
def fromJson (text : String) : Py EvidenceCustodyCase := do
  let decoded ← getOrRaise (loads text) (custodyError "evidence custody case is not valid JSON")
  fromDict decoded

/-- The evidence data of the case are JSON values. -/
def IsJson (c : EvidenceCustodyCase) : Prop := ∀ i ∈ c.items, i.IsJson

theorem required_nodup : required.Nodup := by decide

theorem valid_toDict {c : EvidenceCustodyCase} (h : c.IsJson) : valid c.toDict := by
  have hitems := valid_arr_map (f := CustodiedEvidence.toDict) fun i hi =>
    CustodiedEvidence.valid_toDict (h i hi)
  have hevents := valid_arr_map fun (e : CustodyEvent) (_ : e ∈ c.events) => e.valid_toDict
  have hpolicy := c.dataHandling.valid_toDict
  refine ⟨required_nodup, ?_⟩
  rw [valid] at hitems hevents
  simp only [members, membersValid, hpolicy, valid, hitems, hevents, SchemaVersion.valid_toJson,
    and_self]

/-! ### Reading back -/

/-- The items that are read back. -/
def rereadItems (c : EvidenceCustodyCase) (h : c.IsJson) : List CustodiedEvidence :=
  c.items.pmap CustodiedEvidence.reread h

/-- What reading back does not change of an item is not changed of the items. -/
theorem map_rereadItems {β : Type} {c : EvidenceCustodyCase} (h : c.IsJson)
    {g : CustodiedEvidence → β} (hg : ∀ i hi, g (CustodiedEvidence.reread i hi) = g i) :
    (c.rereadItems h).map g = c.items.map g := by
  have hmap : ∀ (l : List CustodiedEvidence) (hl : ∀ i ∈ l, i.IsJson),
      (l.pmap CustodiedEvidence.reread hl).map g = l.map g := by
    intro l
    induction l with
    | nil => exact fun _ => rfl
    | cons i l ih =>
      intro hl
      rw [List.pmap_cons, List.map_cons, List.map_cons, hg, ih]
  exact hmap c.items h

theorem mem_rereadItems {c : EvidenceCustodyCase} {h : c.IsJson} {i' : CustodiedEvidence}
    (hi' : i' ∈ c.rereadItems h) : ∃ i, ∃ hi : i ∈ c.items, i.reread (h i hi) = i' :=
  List.mem_pmap.mp hi'

theorem rereadItems_ne_nil {c : EvidenceCustodyCase} (h : c.IsJson) : c.rereadItems h ≠ [] := by
  intro hnil
  have hmap := map_rereadItems (g := CustodiedEvidence.evidenceId) h fun _ _ => rfl
  rw [hnil, List.map_nil] at hmap
  exact c.items_nonempty (List.map_eq_nil_iff.mp hmap.symm)

theorem sortedItems_rereadItems {c : EvidenceCustodyCase} (h : c.IsJson) :
    sortedItems (c.rereadItems h) = c.rereadItems h := by
  have hpairwise := sortedBy_pairwise CustodiedEvidence.evidenceId c.items
  rw [← sortedItems, c.items_sorted, ← List.pairwise_map,
    ← map_rereadItems (g := CustodiedEvidence.evidenceId) h fun _ _ => rfl,
    List.pairwise_map] at hpairwise
  exact sortedBy_eq_self hpairwise

/-- The case that is read back from the text of a case. -/
def reread (c : EvidenceCustodyCase) (h : c.IsJson) : EvidenceCustodyCase where
  schemaVersion := c.schemaVersion
  caseId := c.caseId
  engagementId := c.engagementId
  dataHandling := c.dataHandling
  items := c.rereadItems h
  events := c.events
  caseId_valid := c.caseId_valid
  engagementId_valid := c.engagementId_valid
  items_nonempty := rereadItems_ne_nil h
  items_sorted := sortedItems_rereadItems h
  items_nodup := by
    rw [map_rereadItems h fun _ _ => rfl]
    exact c.items_nodup
  items_belong := by
    intro i' hi'
    obtain ⟨i, hi, rfl⟩ := mem_rereadItems hi'
    exact c.items_belong i hi
  items_classified := by
    intro i' hi'
    obtain ⟨i, hi, rfl⟩ := mem_rereadItems hi'
    exact c.items_classified i hi
  parents_known := by
    intro i' hi'
    obtain ⟨i, hi, rfl⟩ := mem_rereadItems hi'
    rw [map_rereadItems h fun _ _ => rfl]
    exact c.parents_known i hi
  events_nonempty := c.events_nonempty
  accepted := by
    rw [map_rereadItems h fun _ _ => rfl]
    exact c.accepted

/-- Items are related to what they are read back as. -/
theorem forall₂_rereadItems {R : CustodiedEvidence → CustodiedEvidence → Prop}
    {c : EvidenceCustodyCase} (h : c.IsJson) (hR : ∀ i hi, R i (CustodiedEvidence.reread i hi)) :
    List.Forall₂ R c.items (c.rereadItems h) := by
  have hall : ∀ (l : List CustodiedEvidence) (hl : ∀ i ∈ l, i.IsJson),
      List.Forall₂ R l (l.pmap CustodiedEvidence.reread hl) := by
    intro l
    induction l with
    | nil => exact fun _ => .nil
    | cons i l ih => exact fun hl => .cons (hR i _) (ih _)
  exact hall c.items h

/-- **What is read back is equal to what was written.** -/
theorem reread_same {c : EvidenceCustodyCase} (h : c.IsJson) : (c.reread h).Same c := by
  refine ⟨⟨rfl, rfl, rfl⟩, ?_, rfl⟩
  exact (forall₂_rereadItems (R := fun i i' => i'.Same i) h fun _ hi =>
    CustodiedEvidence.reread_same hi).flip

/-- What is read back has the fingerprint of what was written. -/
theorem fingerprint_reread {c : EvidenceCustodyCase} (h : c.IsJson) :
    (c.reread h).fingerprint = c.fingerprint := by
  have hitems := map_rereadItems h fun _ hi => CustodiedEvidence.fingerprint_reread hi
  have hpayload : (c.reread h).payload = c.payload := by
    simp only [payload, reread, hitems, dataHandlingFingerprint]
  rw [fingerprint, hpayload, fingerprint]

/-- **A case is read from any document with its members.** -/
theorem fromDict_of {doc : Json} {c : EvidenceCustodyCase} (h : c.IsJson)
    (hdoc : HasExactly doc (normalMembers c.members)) : fromDict doc = .ok (c.reread h) := by
  have hkeys : (normalMembers c.members).map (·.1) = required := rfl
  have hpolicy : DataHandlingPolicy.fromDict (normal c.dataHandling.toDict) =
      .ok c.dataHandling :=
    DataHandlingPolicy.fromDict_of (hasExactly_normal c.dataHandling.valid_toDict.1)
  have hobject : isObject (normal c.dataHandling.toDict) = true := rfl
  have hnone : isStr "none" (.str "none") = true := rfl
  have hitems : (c.items.map (normal ∘ CustodiedEvidence.toDict)).mapM
      CustodiedEvidence.fromDict = .ok (c.rereadItems h) := by
    rw [mapM_eq_ok, List.forall₂_map_left_iff]
    exact forall₂_rereadItems h fun i hi => CustodiedEvidence.fromDict_of hi
      (hasExactly_normal (CustodiedEvidence.valid_toDict hi).1)
  have hevents : (c.events.map (normal ∘ CustodyEvent.toDict)).mapM CustodyEvent.fromDict =
      .ok c.events := mapM_read fun e _ => e.fromDict_normal
  have hmake := (c.reread h).make_fields
  simp only [reread] at hmake
  have hhas := hdoc.has
  simp only [normalMembers, members, List.map_cons, List.map_nil, SchemaVersion.normal_toJson,
    has_cons, has_nil, and_true] at hhas
  obtain ⟨h₁, h₂, h₃, h₄, h₅, h₆, h₇, h₈, h₉⟩ := hhas
  simp only [normal, elemsNormal_eq_map, List.map_map] at h₂ h₃ h₅ h₆ h₇ h₈ h₉
  rw [← fingerprint_reread h] at h₉
  rw [dataHandlingFingerprint] at h₅
  rw [fromDict, requireKeys_of hdoc hkeys]
  simp only [getItem, h₁, h₂, h₃, h₄, h₆, h₇, h₈, getOrRaise_some, ok_bind, require_of hnone,
    require_of hobject, readList_arr, hpolicy, rewrap_ok, verify_of h₅, hitems, hevents,
    SchemaVersion.ofJson_toJson, readText_str, hmake]
  rw [← reread, verify_of h₉]
  rfl

/-- **A written case reads back as an equal case**, when its evidence data are JSON values. -/
theorem fromJson_toJson {c : EvidenceCustodyCase} (h : c.IsJson) :
    fromJson c.toJson = .ok (c.reread h) := by
  rw [fromJson, toJson, loads_write (valid_toDict h), getOrRaise_some, ok_bind]
  exact fromDict_of h (hasExactly_normal (valid_toDict h).1)

/-! ### Fingerprints -/

/-- The texts hashed for the fingerprint of a case and those of its items and events. -/
def hashed (c : EvidenceCustodyCase) : List (List Char) :=
  chars (.obj c.payload) ::
    (c.items.map CustodiedEvidence.hashed ++ c.events.map CustodyEvent.hashed)

theorem valid_payload (c : EvidenceCustodyCase) : valid (.obj c.payload) := by
  refine ⟨by rw [payload]; simp, ?_⟩
  simp only [payload, membersValid, c.dataHandling.valid_toDict, valid,
    SchemaVersion.valid_toJson, valid_strings, and_self]

/-- Items whose texts do not collide are bound by their fingerprints. -/
theorem item_same {texts : List (List Char)} (h : NoCollision hexOf texts)
    {i i' : CustodiedEvidence} (hi : i.IsJson) (hi' : i'.IsJson) (hmem : i.hashed ∈ texts)
    (hmem' : i'.hashed ∈ texts) (hfp : i.fingerprint = i'.fingerprint) : i.Same i' :=
  CustodiedEvidence.same_of_hashed hi hi' (h _ hmem _ hmem' hfp)

/-- Events whose texts do not collide are bound by their fingerprints. -/
theorem event_eq {texts : List (List Char)} (h : NoCollision hexOf texts) {e e' : CustodyEvent}
    (hmem : e.hashed ∈ texts) (hmem' : e'.hashed ∈ texts) (hfp : e.fingerprint = e'.fingerprint) :
    e = e' :=
  CustodyEvent.eq_of_hashed (h _ hmem _ hmem' hfp)

theorem event_hashed_mem {c : EvidenceCustodyCase} {e : CustodyEvent} (he : e ∈ c.events) :
    e.hashed ∈ c.hashed :=
  List.mem_cons_of_mem _ (List.mem_append_right _ (List.mem_map_of_mem he))

theorem item_hashed_mem {c : EvidenceCustodyCase} {i : CustodiedEvidence} (hi : i ∈ c.items) :
    i.hashed ∈ c.hashed :=
  List.mem_cons_of_mem _ (List.mem_append_left _ (List.mem_map_of_mem hi))

/-- The payloads of two cases with one fingerprint have the same members. -/
theorem payload_get? {c c' : EvidenceCustodyCase} (h : NoCollision hexOf (c.hashed ++ c'.hashed))
    (hfp : c.fingerprint = c'.fingerprint) (k : String) :
    (get? (.obj c.payload) k).map normal = (get? (.obj c'.payload) k).map normal := by
  have htext : chars (.obj c.payload) = chars (.obj c'.payload) :=
    h _ (by simp [hashed]) _ (by simp [hashed]) hfp
  have hnormal := normal_eq_of_write_eq c.valid_payload c'.valid_payload
    (congrArg String.ofList htext)
  exact get?_normal_eq c.valid_payload.1 c'.valid_payload.1 hnormal k

/-- **The fingerprint of a case binds its history**, unless two of the texts hashed collide. -/
theorem events_of_fingerprint {c c' : EvidenceCustodyCase}
    (h : NoCollision hexOf (c.hashed ++ c'.hashed)) (hfp : c.fingerprint = c'.fingerprint) :
    c.events = c'.events := by
  have hevents := payload_get? h hfp "event_fingerprints"
  simp only [payload, get?, List.find?_cons, String.reduceEq, decide_false, decide_true,
    Option.map_some, Option.some.injEq, normal_strings] at hevents
  refine eq_of_map_eq (strings_injective hevents) fun e he e' he' => ?_
  apply event_eq h
  · exact List.mem_append_left _ (event_hashed_mem he)
  · exact List.mem_append_right _ (event_hashed_mem he')

/-- **The fingerprint of a case binds it**, when the evidence data are JSON values and no two of
the texts hashed collide. -/
theorem same_of_fingerprint {c c' : EvidenceCustodyCase} (hc : c.IsJson) (hc' : c'.IsJson)
    (h : NoCollision hexOf (c.hashed ++ c'.hashed)) (hfp : c.fingerprint = c'.fingerprint) :
    c.Same c' := by
  have hcase := payload_get? h hfp "case_id"
  have hengagement := payload_get? h hfp "engagement_id"
  have hpolicy := payload_get? h hfp "data_handling"
  have hitems := payload_get? h hfp "item_fingerprints"
  simp only [payload, get?, List.find?_cons, String.reduceEq, decide_false, decide_true,
    Option.map_some, Option.some.injEq, normal_strings] at hcase hengagement hpolicy hitems
  simp only [normal, str.injEq] at hcase hengagement
  refine ⟨⟨hcase, hengagement, DataHandlingPolicy.eq_of_normal_eq hpolicy⟩, ?_, ?_⟩
  · refine forall₂_of_map_eq (strings_injective hitems) fun i hi i' hi' hfp => ?_
    apply item_same h (hc i hi) (hc' i' hi') _ _ hfp
    · exact List.mem_append_left _ (item_hashed_mem hi)
    · exact List.mem_append_right _ (item_hashed_mem hi')
  · rw [events_of_fingerprint h hfp]

/-- A document that is read carries the fingerprint of what is read from it. -/
theorem carries_of_fromDict {doc : Json} {c : EvidenceCustodyCase} (h : fromDict doc = .ok c) :
    doc.get? "case_fingerprint" = some (.str c.fingerprint) := by
  simp only [fromDict, bind_eq_ok, verify_eq_ok, pure_eq_ok, Except.ok.injEq] at h
  obtain ⟨-, -, -, -, -, -, -, -, -, -, -, -, -, -, -, -, -, -, -, -, -, -, -, -, -,
    -, -, -, c, -, -, hcarried, rfl⟩ := h
  exact hcarried

end EvidenceCustodyCase

/-! ## A case of one record -/

section Sample

theorem sampleTime_reads : (Timestamp.ofText "2030-01-01T00:00:00Z").isSome = true := by
  decide +kernel

def sampleTime : Timestamp := .read "2030-01-01T00:00:00Z" sampleTime_reads

theorem eventId_identifier : isIdentifier "event-0" = true := by
  decide

theorem caseId_identifier : isIdentifier "case-1" = true := by
  decide

theorem engagementId_identifier : isIdentifier "e" = true := by
  decide

theorem note_required : requiredText "note" := by
  decide

/-- A record with this data. -/
def sampleRecord (v : Value) (h : (rejectSecretKeys (.dict [("a", v)]) "$").toOption.isSome = true) :
    EvidenceRecord where
  engagementId := "e"
  evidenceId := "r"
  sourceNight := .red
  evidenceType := "note"
  observedAt := "2030-01-01T00:00:00Z"
  provenance := "manual"
  data := [("a", v)]
  limitations := []
  engagementId_required := by decide
  evidenceId_required := by decide
  evidenceType_required := note_required
  provenance_required := by decide
  observedAt_iso := by decide +kernel
  data_secretFree := h
  limitations_required := fun _ h => absurd h List.not_mem_nil

/-- A month of retention, and export allowed. -/
def samplePolicy : DataHandlingPolicy :=
  ⟨.internal, 30, true, none, by decide, fun _ h => absurd h (Option.not_mem_none _)⟩

def sampleItem (r : EvidenceRecord) : CustodiedEvidence where
  schemaVersion := .int
  record := r
  classification := .internal
  retainedFrom := sampleTime
  retainUntil := .read "2030-01-31T00:00:00+00:00" (by decide +kernel)
  exportAllowed := true
  parentEvidenceIds := ⟨[], sortedStr_nil, List.nodup_nil, identifiers_nil, le_refl 0⟩
  window := by decide +kernel
  not_own_parent := List.not_mem_nil

def sampleEvent : CustodyEvent where
  schemaVersion := .int
  eventId := "event-0"
  caseId := "case-1"
  engagementId := "e"
  sequence := 0
  eventType := .ingested
  occurredAt := sampleTime
  actorId := "analyst"
  reason := "collected on site"
  evidenceId := some "r"
  details := ⟨[("custodian_id", "analyst")], rfl, List.nodup_singleton _,
    fun _ h => List.mem_singleton.mp h ▸ (by decide : requiredText "custodian_id" ∧
      requiredText "analyst" ∧ isSecretKey "custodian_id" = false)⟩
  previousEventFingerprint := none
  eventId_valid := eventId_identifier
  caseId_valid := caseId_identifier
  engagementId_valid := engagementId_identifier
  actorId_valid := by decide
  reason_required := by decide
  evidenceId_valid := fun _ h => Option.mem_some.mp h ▸ (by decide)
  previous_valid := noSha256

theorem sampleItem_terms {r : EvidenceRecord} (hid : r.evidenceId = "r") :
    (sampleItem r).terms = ⟨"r", sampleTime.text, []⟩ := by
  rw [CustodiedEvidence.terms, CustodiedEvidence.evidenceId, sampleItem, hid]

/-- A case that has taken in one record. -/
def sampleCase (r : EvidenceRecord) (hid : r.evidenceId = "r") (hengagement : r.engagementId = "e") :
    EvidenceCustodyCase where
  schemaVersion := .int
  caseId := "case-1"
  engagementId := "e"
  dataHandling := samplePolicy
  items := [sampleItem r]
  events := [sampleEvent]
  caseId_valid := caseId_identifier
  engagementId_valid := engagementId_identifier
  items_nonempty := List.cons_ne_nil _ _
  items_sorted := rfl
  items_nodup := List.nodup_singleton _
  items_belong := fun _ h => List.mem_singleton.mp h ▸ hengagement
  items_classified := fun _ h => List.mem_singleton.mp h ▸ le_refl _
  parents_known := by
    intro i hi p hp
    rw [List.mem_singleton.mp hi] at hp
    exact absurd hp List.not_mem_nil
  events_nonempty := List.cons_ne_nil _ _
  accepted := by
    rw [List.map_singleton, sampleItem_terms hid]
    decide +kernel

end Sample

end NightRecon.WhiteEngine.EvidenceCustody
