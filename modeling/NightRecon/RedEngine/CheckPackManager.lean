import NightRecon.Lib.JsonStrict
import NightRecon.Lib.Records
import NightRecon.RedEngine.CheckFeedState
import NightRecon.RedEngine.CheckPackStore

/-!
# Plans and synchronisation of check packs

`nightrecon_red_engine/check_pack_manager.py` and the fetching of `check_feed.py`: what a feed asks of
a store, and the synchronisation that does it.

* `Outcome` — what happens while one pack is fetched and installed;
* `fetchCheckPackArtifact`, `installPackFromVerifiedFeed` — one pack;
* `planVerifiedCheckFeed`, `syncVerifiedCheckFeed` — the plan and the synchronisation;
* `SamePack` — the files of one pack are the same; `installSignedPack_cases` — an installation, on
  any files;
* `Agrees` — what the plan of an entry says of its result; `plan_then_sync` — every feed.

`urlparse` and `load` are any functions, as is `jsonErrorMessage`, the text of a decoding error.
-/

namespace NightRecon.RedEngine.CheckPackManager

open NightRecon.Lib
open NightRecon.Lib.Checks
open NightRecon.Lib.Json (decodeUtf8)
open NightRecon.Lib.Records
open NightRecon.Lib.Text
open NightRecon.Documents
open NightRecon.RedEngine.CheckFeedState (CheckFeedPackEntry CheckPackFeed)
open NightRecon.RedEngine.CheckPackStore

/-- The trusted keys by their identifiers. -/
abbrev Keys := Dict String (List UInt8)

/-! ## Fetching -/

/-- What happens while one pack is fetched and installed: the body of the response, or the exception
of the request, and the outcomes of replacing the pack file and the state file. -/
structure Outcome where
  response : Py (List UInt8)
  packWrite : Py Unit
  stateWrite : Py Unit

/-- Source: `check_feed.py` `VerifiedCheckPackArtifact`. -/
structure VerifiedCheckPackArtifact where
  pack : CheckPack
  signedText : String
  sha256 : String

def maxPackBytes : Nat := 4000000

/-- `hashlib.sha256(data).hexdigest()`. -/
def digestOfBytes (data : List UInt8) : String :=
  Sha256.hexdigest (Sha256.sha256 (data.map UInt8.toNat))

/-- `hmac.compare_digest` of two texts. -/
def compareDigest (a b : String) : Py Bool := do
  require (∀ c ∈ a.toList ++ b.toList, c.toNat < 128)
    (typeError "comparing strings with non-ASCII characters is not supported")
  return a = b

/-- The bytes of a response, bounded.  Source: `check_feed.py` `_download_bounded`. -/
def downloadBounded (response : Py (List UInt8)) (maxBytes : Nat) (label : String) :
    Py (List UInt8) := do
  let body ← response
  let data := body.take (maxBytes + 1)
  raiseIf (maxBytes < data.length) (valueError (label ++ " download exceeds size limit."))
  return data

/-- The member of a document is this text. -/
def hasText (document : Json) (key value : String) : Bool :=
  match document.get? key with
  | some (.str found) => found = value
  | _ => false

section Fetch

variable (urlparse : String → Py (String × String)) (jsonErrorMessage : String → String)
  (load : String → Keys → Py CheckPack)

/-- Source: `check_feed.py` `_require_https_url`. -/
def requireHttpsUrl (url label : String) : Py Unit := do
  let (scheme, netloc) ← urlparse url
  raiseIf (asciiLower scheme ≠ "https" ∨ netloc = "")
    (valueError (label ++ " URL must use HTTPS."))

/-- Source: `check_feed.py` `fetch_check_pack_artifact`. -/
def fetchCheckPackArtifact (entry : CheckFeedPackEntry) (trustedPackKeys : Keys)
    (response : Py (List UInt8)) : Py VerifiedCheckPackArtifact := do
  require (entry.signerKeyId ∈ trustedPackKeys)
    (valueError ("Untrusted check-pack signer: " ++ entry.signerKeyId))
  requireHttpsUrl urlparse entry.url "check-pack"
  let data ← downloadBounded response maxPackBytes "check-pack"
  let same ← compareDigest (digestOfBytes data) entry.sha256
  require (same = true) (valueError "Downloaded check-pack SHA-256 does not match feed.")
  let chars ← getOrRaise (decodeUtf8 data) (valueError "Check-pack response is not valid UTF-8.")
  let text := String.ofList chars
  let document ← getOrRaise (Json.loads text)
    (valueError ("Invalid signed check-pack JSON: " ++ jsonErrorMessage text))
  require ((keys? document).isSome ∧ hasText document "key_id" entry.signerKeyId = true)
    (valueError "Check-pack signer does not match feed entry.")
  let pack ← load text trustedPackKeys
  raiseIf (pack.packId ≠ entry.packId) (valueError "Check-pack ID does not match feed entry.")
  raiseIf (pack.version ≠ entry.version)
    (valueError "Check-pack version does not match feed entry.")
  return ⟨pack, text, digestOfBytes data⟩

/-- Source: `check_pack_manager.py` `install_pack_from_verified_feed`. -/
def installPackFromVerifiedFeed (feed : CheckPackFeed) (packId : String) (packTrustedKeys : Keys)
    (outcome : Outcome) : Proc Exn Files InstalledCheckPackRecord := do
  let entry ← Proc.ofExcept (getOrRaise (feed.packs.find? fun e => e.packId = packId)
    (valueError ("Check pack '" ++ packId ++ "' is not advertised by feed '" ++ feed.feedId ++
      "'.")))
  let artifact ← Proc.ofExcept (fetchCheckPackArtifact urlparse jsonErrorMessage load entry
    packTrustedKeys outcome.response)
  let record ← installSignedPack load artifact.signedText packTrustedKeys outcome.packWrite
    outcome.stateWrite
  Proc.ofExcept (raiseIf (record.packId ≠ entry.packId ∨ record.version ≠ entry.version ∨
    record.sha256 ≠ artifact.sha256)
    (valueError "Installed check-pack metadata does not match feed entry."))
  return record

end Fetch

/-! ## Looking at the store -/

/-- Source: `check_pack_store.py` `active_version`. -/
def activeVersion (packId : String) (s : Files) : Py (Option String) := do
  validateId packId
  let state ← readState packId s
  return (activeText state).filter fun v => v ≠ ""

/-- The versions that have a pack file. -/
def packVersions (packId : String) (s : Files) : Finset String :=
  (s.packs.keys.filter fun k => k.1 = packId).image Prod.snd

/-- The same, in the order of the file names. -/
def storedVersions (packId : String) (s : Files) : List String :=
  ((packVersions packId s).sort (· ≤ ·)).insertionSort
    fun v w => v ++ ".signed.json" ≤ w ++ ".signed.json"

/-- The record of a pack file. -/
def recordOf (packId version text : String) : InstalledCheckPackRecord where
  packId := packId
  version := version
  signerKeyId := (extractSignerKeyId text).toOption.getD ""
  sha256 := digest text

/-- Source: `check_pack_store.py` `list_versions`. -/
def listVersions (packId : String) (s : Files) : Py (List InstalledCheckPackRecord) := do
  validateId packId
  return (storedVersions packId s).filterMap fun version =>
    (s.packs.lookup (packId, version)).map (recordOf packId version)

/-- Source: `check_pack_manager.py` `_find_installed_record`. -/
def findInstalledRecord (packId version : String) (s : Files) :
    Py (Option InstalledCheckPackRecord) := do
  let records ← listVersions packId s
  return records.find? fun record => record.version = version

/-! ## The plan -/

inductive PlanStatus where
  | conflict
  | invalidLocalState
  | unchanged
  | activationAvailable
  | installAvailable
  | changeAvailable
  deriving DecidableEq

/-- Source: `check_pack_manager.py` `CheckPackUpdatePlan`. -/
structure CheckPackUpdatePlan where
  packId : String
  advertisedVersion : String
  activeVersion : Option String
  status : PlanStatus
  downloadRequired : Bool
  error : String

def conflictMessage : String :=
  "Feed attempts to mutate an immutable installed check-pack version."

def missingMessage : String := "Active immutable check-pack metadata is missing."

/-- The status of an entry, by the active version and the stored record of the advertised one. -/
def planStatus (entry : CheckFeedPackEntry) (active : Option String)
    (advertised : Option InstalledCheckPackRecord) : PlanStatus :=
  match advertised with
  | some record =>
      if record.sha256 ≠ entry.sha256 then .conflict
      else if active = some entry.version then .unchanged
      else .activationAvailable
  | none =>
      if active = some entry.version then .invalidLocalState
      else if active = none then .installAvailable
      else .changeAvailable

/-- A download is required when nothing is stored. -/
def PlanStatus.downloadRequired (status : PlanStatus) : Bool :=
  status = .installAvailable || status = .changeAvailable

def PlanStatus.error : PlanStatus → String
  | .conflict => conflictMessage
  | .invalidLocalState => missingMessage
  | _ => ""

/-- The plan of an entry. -/
def planOf (entry : CheckFeedPackEntry) (active : Option String)
    (advertised : Option InstalledCheckPackRecord) : CheckPackUpdatePlan :=
  let status := planStatus entry active advertised
  ⟨entry.packId, entry.version, active, status, status.downloadRequired, status.error⟩

/-- One turn of the loop. -/
def planEntry (s : Files) (entry : CheckFeedPackEntry) : Py CheckPackUpdatePlan := do
  let active ← CheckPackManager.activeVersion entry.packId s
  let records ← listVersions entry.packId s
  let installed := collect (fun record => record.version) records
  return planOf entry active (installed.find? fun record => record.version = entry.version)

/-- Source: `check_pack_manager.py` `plan_verified_check_feed`. -/
def planVerifiedCheckFeed (feed : CheckPackFeed) (s : Files) : Py (List CheckPackUpdatePlan) :=
  feed.packs.mapM (planEntry s)

/-! ## The synchronisation -/

inductive SyncStatus where
  | failed
  | unchanged
  | installed
  | updated
  deriving DecidableEq

/-- Source: `check_pack_manager.py` `CheckPackSyncResult`. -/
structure CheckPackSyncResult where
  packId : String
  advertisedVersion : String
  previousVersion : Option String
  activeVersion : Option String
  status : SyncStatus
  error : String

/-- `exc.__class__.__name__`. -/
def className : ExnClass → String
  | .valueError => "ValueError"
  | .typeError => "TypeError"
  | .keyError => "KeyError"
  | .indexError => "IndexError"
  | .overflowError => "OverflowError"
  | .assertionError => "AssertionError"
  | .attributeError => "AttributeError"
  | .permissionError => "PermissionError"
  | .osError => "OSError"
  | .integrityError => "IntegrityError"
  | .policyCompilationError => "PolicyCompilationError"
  | .approvalWorkflowError => "ApprovalWorkflowError"
  | .auditTrailError => "AuditTrailError"
  | .evidenceCustodyError => "EvidenceCustodyError"
  | .evidenceConflictError => "EvidenceConflictError"
  | .metadataConflictError => "MetadataConflictError"
  | .rejected => "Rejected"
  | .validationFailed => "ValidationFailed"
  | .adapterError => "Exception"
  | .persistenceExecutionError => "PersistenceExecutionError"
  | .eofError => "EOFError"
  | .keyboardInterrupt => "KeyboardInterrupt"
  | .httpException => "HTTPException"
  | .structError => "error"
  | .recursionError => "RecursionError"
  | .lookupError => "LookupError"
  | .unicodeError => "UnicodeError"
  | .cookieError => "CookieError"

/-- `str(exc) or exc.__class__.__name__`. -/
def errorText (e : Exn) : String := if e.message = "" then className e.cls else e.message

/-- The result of an entry whose version is the active one. -/
def activeResult (entry : CheckFeedPackEntry) (record : Option InstalledCheckPackRecord) :
    CheckPackSyncResult :=
  let result := fun status error =>
    (⟨entry.packId, entry.version, some entry.version, some entry.version, status, error⟩ :
      CheckPackSyncResult)
  match record with
  | none => result .failed missingMessage
  | some record =>
      if record.sha256 ≠ entry.sha256 then result .failed conflictMessage else result .unchanged ""

/-- The result of an entry that was to be installed. -/
def installResult (entry : CheckFeedPackEntry) (previous : Option String) :
    Py InstalledCheckPackRecord → CheckPackSyncResult
  | .error e => ⟨entry.packId, entry.version, previous, previous, .failed, errorText e⟩
  | .ok record =>
      ⟨entry.packId, entry.version, previous, some record.version,
        if previous = none then .installed else .updated, ""⟩

section Sync

variable (urlparse : String → Py (String × String)) (jsonErrorMessage : String → String)
  (load : String → Keys → Py CheckPack)

/-- One turn of the loop. -/
def syncEntry (feed : CheckPackFeed) (packTrustedKeys : Keys) (outcome : Outcome)
    (entry : CheckFeedPackEntry) : Proc Exn Files CheckPackSyncResult := do
  let s ← Proc.get
  let previous ← Proc.ofExcept (CheckPackManager.activeVersion entry.packId s)
  if previous = some entry.version then
    let record ← Proc.ofExcept (findInstalledRecord entry.packId entry.version s)
    return activeResult entry record
  else
    let installed ← Proc.tryCall (installPackFromVerifiedFeed urlparse jsonErrorMessage load feed
      entry.packId packTrustedKeys outcome)
    return installResult entry previous installed

/-- The loop over the entries. -/
def syncEntries (feed : CheckPackFeed) (packTrustedKeys : Keys) (outcomes : String → Outcome) :
    List CheckFeedPackEntry → Proc Exn Files (List CheckPackSyncResult)
  | [] => return []
  | entry :: entries => do
      let result ← syncEntry urlparse jsonErrorMessage load feed packTrustedKeys
        (outcomes entry.packId) entry
      let results ← syncEntries feed packTrustedKeys outcomes entries
      return result :: results

/-- `outcomes` gives what happens for each pack.
Source: `check_pack_manager.py` `sync_verified_check_feed`. -/
def syncVerifiedCheckFeed (feed : CheckPackFeed) (packTrustedKeys : Keys)
    (outcomes : String → Outcome) : Proc Exn Files (List CheckPackSyncResult) :=
  syncEntries urlparse jsonErrorMessage load feed packTrustedKeys outcomes feed.packs

end Sync

/-! ## The files of one pack -/

/-- The files of one pack are the same. -/
structure SamePack (packId : String) (s s' : Files) : Prop where
  state : s'.states.lookup packId = s.states.lookup packId
  packs : ∀ v, s'.packs.lookup (packId, v) = s.packs.lookup (packId, v)

theorem samePack_self (packId : String) (s : Files) : SamePack packId s s := ⟨rfl, fun _ => rfl⟩

theorem SamePack.trans {packId : String} {s s' s'' : Files} (h : SamePack packId s s')
    (h' : SamePack packId s' s'') : SamePack packId s s'' :=
  ⟨h'.state.trans h.state, fun v => (h'.packs v).trans (h.packs v)⟩

/-- The active version is read from the state file. -/
theorem activeVersion_congr {packId : String} {s s' : Files}
    (h : s'.states.lookup packId = s.states.lookup packId) :
    activeVersion packId s' = activeVersion packId s := by
  rw [activeVersion, activeVersion, readState, readState, h]

theorem mem_packVersions {packId : String} {s : Files} {v : String} :
    v ∈ packVersions packId s ↔ (s.packs.lookup (packId, v)).isSome = true := by
  rw [packVersions, Finset.mem_image, Finmap.lookup_isSome]
  constructor
  · rintro ⟨⟨id, w⟩, hk, rfl⟩
    obtain ⟨hmem, hid⟩ := Finset.mem_filter.mp hk
    obtain rfl : id = packId := hid
    exact Finmap.mem_keys.mp hmem
  · intro hmem
    exact ⟨(packId, v), Finset.mem_filter.mpr ⟨Finmap.mem_keys.mpr hmem, rfl⟩, rfl⟩

theorem mem_storedVersions {packId : String} {s : Files} {v : String} :
    v ∈ storedVersions packId s ↔ (s.packs.lookup (packId, v)).isSome = true := by
  rw [storedVersions, List.mem_insertionSort, Finset.mem_sort, mem_packVersions]

theorem storedVersions_nodup (packId : String) (s : Files) : (storedVersions packId s).Nodup :=
  (List.perm_insertionSort _ _).nodup_iff.mpr (Finset.sort_nodup _ _)

/-- **The records of a pack, looked up by version, are its files.** -/
theorem listVersions_eq {packId : String} {s : Files}
    {records : List InstalledCheckPackRecord} (h : listVersions packId s = .ok records) :
    (records.map fun r => r.version).Nodup ∧ ∀ v,
      records.find? (fun r => r.version = v) =
        (s.packs.lookup (packId, v)).map (recordOf packId v) := by
  simp only [listVersions, bind_eq_ok, pure_eq_ok, Except.ok.injEq] at h
  obtain ⟨-, -, rfl⟩ := h
  have hmem : ∀ r, r ∈ (storedVersions packId s).filterMap (fun version =>
      (s.packs.lookup (packId, version)).map (recordOf packId version)) ↔
      ∃ t, s.packs.lookup (packId, r.version) = some t ∧ r = recordOf packId r.version t := by
    intro r
    rw [List.mem_filterMap]
    constructor
    · rintro ⟨v, -, hr⟩
      obtain ⟨t, ht, rfl⟩ := Option.map_eq_some_iff.mp hr
      exact ⟨t, ht, rfl⟩
    · rintro ⟨t, ht, hr⟩
      refine ⟨r.version, mem_storedVersions.mpr (by rw [ht]; rfl), ?_⟩
      rw [ht, Option.map_some, ← hr]
  have hnodup : (((storedVersions packId s).filterMap fun version =>
      (s.packs.lookup (packId, version)).map (recordOf packId version)).map
      fun r => r.version).Nodup := by
    refine List.Nodup.map_on ?_ ?_
    · intro r hr r' hr' hversion
      obtain ⟨t, ht, hr⟩ := (hmem r).mp hr
      obtain ⟨t', ht', hr'⟩ := (hmem r').mp hr'
      rw [hr, hr']
      rw [← hversion, ht] at ht'
      rw [hversion, Option.some.inj ht']
    · refine (storedVersions_nodup packId s).filterMap fun v v' r hv hv' => ?_
      obtain ⟨t, -, rfl⟩ := Option.map_eq_some_iff.mp hv
      obtain ⟨t', -, heq⟩ := Option.map_eq_some_iff.mp hv'
      exact (congrArg (fun r : InstalledCheckPackRecord => r.version) heq).symm
  refine ⟨hnodup, fun v => Option.ext fun r => ?_⟩
  rw [Keyed.find?_eq_some_iff hnodup, hmem, Option.map_eq_some_iff]
  constructor
  · rintro ⟨⟨t, ht, hr⟩, rfl⟩
    exact ⟨t, ht, hr.symm⟩
  · rintro ⟨t, ht, rfl⟩
    exact ⟨⟨t, ht, rfl⟩, rfl⟩

/-- The records are read from the pack files. -/
theorem listVersions_congr {packId : String} {s s' : Files} (h : SamePack packId s s') :
    listVersions packId s' = listVersions packId s := by
  have hversions : packVersions packId s' = packVersions packId s := by
    ext v
    rw [mem_packVersions, mem_packVersions, h.packs]
  rw [listVersions, listVersions, storedVersions, storedVersions, hversions]
  simp only [h.packs]

theorem planEntry_congr {entry : CheckFeedPackEntry} {s s' : Files}
    (h : SamePack entry.packId s s') : planEntry s' entry = planEntry s entry := by
  rw [planEntry, planEntry, activeVersion_congr h.state, listVersions_congr h]

/-- The stored record of the version an entry advertises. -/
def storedRecord (s : Files) (entry : CheckFeedPackEntry) : Option InstalledCheckPackRecord :=
  (s.packs.lookup (entry.packId, entry.version)).map (recordOf entry.packId entry.version)

section Entry

variable {entry : CheckFeedPackEntry} {s : Files} (hid : isSafeId entry.packId = true)

include hid

theorem exists_listVersions : ∃ records, listVersions entry.packId s = .ok records := by
  rw [listVersions, validateId, require_of hid]
  exact ⟨_, rfl⟩

theorem findInstalledRecord_eq :
    findInstalledRecord entry.packId entry.version s = .ok (storedRecord s entry) := by
  obtain ⟨records, hrecords⟩ := exists_listVersions (s := s) hid
  rw [findInstalledRecord, hrecords, ok_bind, (listVersions_eq hrecords).2]
  rfl

/-- The plan depends on the active version and the stored record. -/
theorem planEntry_eq {active : Option String}
    (hactive : activeVersion entry.packId s = .ok active) :
    planEntry s entry = .ok (planOf entry active (storedRecord s entry)) := by
  obtain ⟨records, hrecords⟩ := exists_listVersions (s := s) hid
  obtain ⟨hnodup, hfind⟩ := listVersions_eq hrecords
  rw [planEntry, hactive, ok_bind, hrecords, ok_bind, collect_eq_self hnodup]
  show Except.ok (planOf entry active (records.find? fun r => r.version = entry.version)) = _
  rw [hfind]
  rfl

end Entry

/-! ## One installation, on any files -/

theorem storePack_cases {s s' : Files} {packId version text : String} {write r : Py Unit}
    (h : storePack packId version text write s = (r, s')) :
    s'.states = s.states ∧ (∀ id, id ≠ packId → SamePack id s s') ∧
      ∀ t, s.packs.lookup (packId, version) = some t →
        s' = s ∧ (r = .ok () → digest t = digest text) := by
  simp only [storePack, Proc.bind_apply, Proc.get_apply] at h
  cases hfile : s.packs.lookup (packId, version) with
  | some existing =>
    rw [hfile] at h
    obtain ⟨hr, rfl⟩ := Prod.mk.inj h
    refine ⟨rfl, fun id _ => samePack_self id _, fun t ht => ⟨rfl, fun hok => ?_⟩⟩
    obtain rfl := Option.some.inj ht
    rw [hok] at hr
    exact not_not.mp (raiseIf_eq_ok.mp hr)
  | none =>
    rw [hfile] at h
    rcases Proc.ofExcept_cases h with ⟨e, rfl, rfl⟩ | ⟨u, -, hwritten⟩
    · exact ⟨rfl, fun id _ => samePack_self id _,
        fun t ht => absurd ht.symm (Option.some_ne_none t)⟩
    · obtain ⟨rfl, rfl⟩ := Prod.mk.inj hwritten
      refine ⟨rfl, fun id hne => ⟨rfl, fun v => ?_⟩,
        fun t ht => absurd ht.symm (Option.some_ne_none t)⟩
      exact Finmap.lookup_insert_of_ne _ fun heq => hne (congrArg Prod.fst heq)

theorem activeVersion_of {packId version : String} {s : Files} {state : Json}
    (hid : isSafeId packId = true) (hversion : version ≠ "")
    (hread : readState packId s = .ok state) (hactive : activeText state = some version) :
    activeVersion packId s = .ok (some version) := by
  rw [activeVersion, validateId, require_of hid, ok_bind, hread, ok_bind, hactive]
  show Except.ok ((some version).filter fun v => v ≠ "") = .ok (some version)
  rw [Option.filter_some, if_pos (decide_eq_true hversion)]

theorem activate_cases {s s' : Files} {packId version : String} {write r : Py Unit}
    (hid : isSafeId packId = true) (hversion : version ≠ "")
    (h : activate packId version write s = (r, s')) :
    s'.packs = s.packs ∧ (∀ id, id ≠ packId → s'.states.lookup id = s.states.lookup id) ∧
      ((∃ e, r = .error e) ∧ s' = s ∨
        r = .ok () ∧ activeVersion packId s' = .ok (some version)) := by
  have hget : (Proc.get : Proc Exn Files Files) s = (.ok s, s) := rfl
  rw [activate, Proc.bind_of_ok hget] at h
  rcases Proc.ofExcept_cases h with ⟨e, rfl, rfl⟩ | ⟨state, hread, h⟩
  · exact ⟨rfl, fun _ _ => rfl, .inl ⟨⟨e, rfl⟩, rfl⟩⟩
  rcases Proc.ofExcept_cases h with ⟨e, rfl, rfl⟩ | ⟨history, -, h⟩
  · exact ⟨rfl, fun _ _ => rfl, .inl ⟨⟨e, rfl⟩, rfl⟩⟩
  by_cases hsame : activeText state = some version
  · rw [if_pos hsame] at h
    obtain ⟨rfl, rfl⟩ := Prod.mk.inj h
    exact ⟨rfl, fun _ _ => rfl, .inr ⟨rfl, activeVersion_of hid hversion hread hsame⟩⟩
  · rw [if_neg hsame] at h
    rcases Proc.ofExcept_cases h with ⟨e, rfl, rfl⟩ | ⟨u, -, hwritten⟩
    · exact ⟨rfl, fun _ _ => rfl, .inl ⟨⟨e, rfl⟩, rfl⟩⟩
    · obtain ⟨rfl, rfl⟩ := Prod.mk.inj hwritten
      refine ⟨rfl, fun id hne => Finmap.lookup_insert_of_ne _ hne, .inr ⟨rfl, ?_⟩⟩
      exact activeVersion_of hid hversion (readState_written (Finmap.lookup_insert _)) rfl

section Install

variable {urlparse : String → Py (String × String)} {jsonErrorMessage : String → String}
  {load : String → Keys → Py CheckPack} {keys : Keys}

/-- What an installation does: only the pack of the text changes, a version that is stored with
another digest is refused, and either no state file changes or the version is active. -/
structure Installs (load : String → Keys → Py CheckPack) (text : String) (keys : Keys)
    (s s' : Files) (r : Py InstalledCheckPackRecord) : Prop where
  elsewhere : ∀ id, (∀ pack, load text keys = .ok pack → pack.packId ≠ id) → SamePack id s s'
  immutable : ∀ pack t, load text keys = .ok pack →
    s.packs.lookup (pack.packId, pack.version) = some t → digest t ≠ digest text →
    (∃ e, r = .error e) ∧ s' = s
  outcome : (∃ e, r = .error e) ∧ s'.states = s.states ∨
    ∃ record pack, r = .ok record ∧ load text keys = .ok pack ∧ record.packId = pack.packId ∧
      record.version = pack.version ∧ record.sha256 = digest text ∧
      activeVersion pack.packId s' = .ok (some pack.version)

theorem installs_nothing {text : String} (s : Files) (e : Exn) :
    Installs load text keys s s (.error e) :=
  ⟨fun id _ => samePack_self id s, fun _ _ _ _ _ => ⟨⟨e, rfl⟩, rfl⟩, .inl ⟨⟨e, rfl⟩, rfl⟩⟩

theorem installSignedPack_cases {s s' : Files} {text : String} {packWrite stateWrite : Py Unit}
    {r : Py InstalledCheckPackRecord}
    (h : installSignedPack load text keys packWrite stateWrite s = (r, s')) :
    Installs load text keys s s' r := by
  unfold installSignedPack at h
  rcases Proc.ofExcept_cases h with ⟨e, rfl, rfl⟩ | ⟨pack, hload, h⟩
  · exact installs_nothing _ e
  rcases Proc.ofExcept_cases h with ⟨e, rfl, rfl⟩ | ⟨signer, -, h⟩
  · exact installs_nothing _ e
  rcases Proc.ofExcept_cases h with ⟨e, rfl, rfl⟩ | ⟨u, hsafe, h⟩
  · exact installs_nothing _ e
  have hid : isSafeId pack.packId = true := require_eq_ok.mp hsafe
  rcases Proc.ofExcept_cases h with ⟨e, rfl, rfl⟩ | ⟨u', hsafe', h⟩
  · exact installs_nothing _ e
  have hversion : pack.version ≠ "" := ne_of_isSafeVersion (require_eq_ok.mp hsafe')
  have hpack : ∀ other, load text keys = .ok other → other = pack := fun other hother =>
    Except.ok.inj (hother.symm.trans hload)
  rcases Proc.bind_cases h with ⟨e, hstore, rfl⟩ | ⟨u₁, s₁, hstore, h⟩
  · obtain ⟨hstates, helsewhere, hstored⟩ := storePack_cases hstore
    refine ⟨fun id hne => helsewhere id (hne pack hload).symm, fun other t hother ht _ => ?_,
      .inl ⟨⟨e, rfl⟩, hstates⟩⟩
    obtain rfl := hpack other hother
    exact ⟨⟨e, rfl⟩, (hstored t ht).1⟩
  obtain ⟨hstates, helsewhere, hstored⟩ := storePack_cases hstore
  have himmutable : ∀ other t, load text keys = .ok other →
      s.packs.lookup (other.packId, other.version) = some t → ¬ digest t ≠ digest text := by
    intro other t hother ht hne
    obtain rfl := hpack other hother
    exact hne ((hstored t ht).2 rfl)
  have hframe : ∀ s₂ : Files, s₂.packs = s₁.packs →
      (∀ id, id ≠ pack.packId → s₂.states.lookup id = s₁.states.lookup id) →
      ∀ id, (∀ other, load text keys = .ok other → other.packId ≠ id) → SamePack id s s₂ := by
    intro s₂ hpacks hothers id hne
    have hne : id ≠ pack.packId := (hne pack hload).symm
    refine (helsewhere id hne).trans ⟨hothers id hne, fun v => ?_⟩
    rw [hpacks]
  rcases Proc.bind_cases h with ⟨e, hactivate, rfl⟩ | ⟨u₂, s₂, hactivate, h⟩
  · obtain ⟨hpacks, hothers, ⟨-, rfl⟩ | ⟨hok, -⟩⟩ := activate_cases hid hversion hactivate
    · exact ⟨hframe _ hpacks hothers, fun other t hother ht hne =>
        absurd hne (himmutable other t hother ht), .inl ⟨⟨e, rfl⟩, hstates⟩⟩
    · cases hok
  · obtain ⟨rfl, rfl⟩ := Prod.mk.inj h
    obtain ⟨hpacks, hothers, ⟨⟨e, herror⟩, -⟩ | ⟨-, hactive⟩⟩ :=
      activate_cases hid hversion hactivate
    · cases herror
    · exact ⟨hframe _ hpacks hothers, fun other t hother ht hne =>
        absurd hne (himmutable other t hother ht),
        .inr ⟨_, pack, rfl, hload, rfl, rfl, rfl, hactive⟩⟩

/-- A text has the digest of the bytes it was decoded from. -/
theorem digest_of_decoded {data : List UInt8} {chars : List Char}
    (h : decodeUtf8 data = some chars) : digest (String.ofList chars) = digestOfBytes data := by
  have hbytes : Sha256.utf8 chars = (Json.encode chars).map UInt8.toNat := by
    rw [Sha256.utf8, Json.encode, List.map_flatMap]
  rw [digest, String.toList_ofList, Sha256.hexOf, hbytes, Json.encode_of_decodeUtf8 h,
    digestOfBytes]

/-- What is fetched has the digest, the identifier and the version the entry advertises. -/
theorem fetchCheckPackArtifact_spec {entry : CheckFeedPackEntry} {response : Py (List UInt8)}
    {artifact : VerifiedCheckPackArtifact}
    (h : fetchCheckPackArtifact urlparse jsonErrorMessage load entry keys response =
      .ok artifact) :
    (∃ pack, load artifact.signedText keys = .ok pack ∧ pack.packId = entry.packId ∧
      pack.version = entry.version) ∧
    digest artifact.signedText = entry.sha256 ∧ artifact.sha256 = entry.sha256 := by
  simp only [fetchCheckPackArtifact, compareDigest, bind_eq_ok, require_eq_ok, raiseIf_eq_ok,
    getOrRaise_eq_ok, pure_eq_ok, Except.ok.injEq, not_not] at h
  obtain ⟨-, -, -, -, data, -, same, ⟨-, -, rfl⟩, -, hsame, chars, hchars, document, -, -, -, pack,
    hload, -, hid, -, hversion, rfl⟩ := h
  have hsame : digestOfBytes data = entry.sha256 := of_decide_eq_true hsame
  exact ⟨⟨pack, hload, hid, hversion⟩, (digest_of_decoded hchars).trans hsame, hsame⟩

/-- What installing an entry does: only its pack changes, a version that is stored with another
digest is refused, and either no state file changes or the advertised version is active. -/
structure Follows (entry : CheckFeedPackEntry) (s s' : Files) (r : Py InstalledCheckPackRecord) :
    Prop where
  elsewhere : ∀ id, id ≠ entry.packId → SamePack id s s'
  immutable : ∀ t, s.packs.lookup (entry.packId, entry.version) = some t →
    digest t ≠ entry.sha256 → (∃ e, r = .error e) ∧ s' = s
  outcome : (∃ e, r = .error e) ∧ s'.states = s.states ∨
    ∃ record, r = .ok record ∧ record.version = entry.version ∧
      activeVersion entry.packId s' = .ok (some entry.version)

theorem follows_nothing (entry : CheckFeedPackEntry) (s : Files) (e : Exn) :
    Follows entry s s (.error e) :=
  ⟨fun id _ => samePack_self id s, fun _ _ _ => ⟨⟨e, rfl⟩, rfl⟩, .inl ⟨⟨e, rfl⟩, rfl⟩⟩

theorem installPack_cases {feed : CheckPackFeed} {entry : CheckFeedPackEntry}
    (hdistinct : (feed.packs.map fun e => e.packId).Nodup) (hentry : entry ∈ feed.packs)
    {outcome : Outcome} {s s' : Files} {r : Py InstalledCheckPackRecord}
    (h : installPackFromVerifiedFeed urlparse jsonErrorMessage load feed entry.packId keys outcome
      s = (r, s')) : Follows entry s s' r := by
  have hfind : feed.packs.find? (fun e => e.packId = entry.packId) = some entry :=
    (Keyed.find?_eq_some_iff hdistinct).mpr ⟨hentry, rfl⟩
  rw [installPackFromVerifiedFeed, hfind] at h
  rcases Proc.ofExcept_cases h with ⟨e, rfl, rfl⟩ | ⟨entry', hentry', h⟩
  · exact follows_nothing entry _ e
  obtain rfl : entry = entry' := Except.ok.inj hentry'
  rcases Proc.ofExcept_cases h with ⟨e, rfl, rfl⟩ | ⟨artifact, hfetch, h⟩
  · exact follows_nothing entry _ e
  obtain ⟨⟨pack, hload, hid, hversion⟩, hdigest, hsha⟩ := fetchCheckPackArtifact_spec hfetch
  have hothers : ∀ id, id ≠ entry.packId →
      ∀ other, load artifact.signedText keys = .ok other → other.packId ≠ id := by
    intro id hne other hother heq
    obtain rfl : other = pack := Except.ok.inj (hother.symm.trans hload)
    exact hne (heq.symm.trans hid)
  rcases Proc.bind_cases h with ⟨e, hinstall, rfl⟩ | ⟨record, s₁, hinstall, h⟩
  · obtain ⟨helsewhere, himmutable, hstates | ⟨record, _, hok, -⟩⟩ :=
      installSignedPack_cases hinstall
    · refine ⟨fun id hne => helsewhere id (hothers id hne), fun t ht hne => ?_,
        .inl ⟨⟨e, rfl⟩, hstates.2⟩⟩
      rw [← hid, ← hversion] at ht
      rw [← hdigest] at hne
      exact ⟨⟨e, rfl⟩, (himmutable pack t hload ht hne).2⟩
    · cases hok
  · obtain ⟨helsewhere, himmutable, ⟨⟨e, herror⟩, -⟩ |
      ⟨record', pack', hrecord, hload', hrecordId, hrecordVersion, hrecordSha, hactive⟩⟩ :=
      installSignedPack_cases hinstall
    · cases herror
    obtain rfl : record = record' := Except.ok.inj hrecord
    obtain rfl : pack = pack' := Except.ok.inj (hload.symm.trans hload')
    -- the record is the one of the entry, so the last check lets it pass
    have hmatches : ¬ (record.packId ≠ entry.packId ∨ record.version ≠ entry.version ∨
        record.sha256 ≠ artifact.sha256) := by
      rw [hrecordId, hrecordVersion, hrecordSha, hid, hversion, hdigest, hsha]
      simp
    rw [raiseIf_of_not hmatches] at h
    obtain ⟨rfl, rfl⟩ := Prod.mk.inj h
    refine ⟨fun id hne => helsewhere id (hothers id hne), fun t ht hne => ?_,
      .inr ⟨record, rfl, hrecordVersion.trans hversion, ?_⟩⟩
    · rw [← hid, ← hversion] at ht
      rw [← hdigest] at hne
      obtain ⟨⟨e, herror⟩, -⟩ := himmutable pack t hload ht hne
      cases herror
    · rw [← hid, ← hversion]
      exact hactive

/-! ## One entry -/

/-- What the plan of an entry says of its result. -/
structure Agrees (s s' : Files) (plan : CheckPackUpdatePlan) (result : CheckPackSyncResult) :
    Prop where
  packId : result.packId = plan.packId
  advertisedVersion : result.advertisedVersion = plan.advertisedVersion
  previousVersion : result.previousVersion = plan.activeVersion
  unchanged : plan.status = .unchanged ↔ result.status = .unchanged
  refused : plan.status = .conflict ∨ plan.status = .invalidLocalState →
    result.status = .failed ∧ SamePack plan.packId s s'
  installed : result.status = .installed →
    (plan.status = .installAvailable ∨ plan.status = .activationAvailable) ∧
      plan.activeVersion = none
  updated : result.status = .updated →
    (plan.status = .changeAvailable ∨ plan.status = .activationAvailable) ∧
      plan.activeVersion ≠ none
  active : activeVersion plan.packId s' = .ok result.activeVersion

/-- The result of an entry may be looked at with the other packs changed. -/
theorem Agrees.framed {s₀ s s' s₁ : Files} {plan : CheckPackUpdatePlan}
    {result : CheckPackSyncResult} (h : Agrees s s' plan result)
    (hbefore : SamePack plan.packId s₀ s) (hafter : SamePack plan.packId s' s₁) :
    Agrees s₀ s₁ plan result :=
  { h with
    refused := fun hplan =>
      ⟨(h.refused hplan).1, (hbefore.trans (h.refused hplan).2).trans hafter⟩
    active := (activeVersion_congr hafter.state).trans h.active }

/-- An entry whose version is active. -/
theorem agrees_active {entry : CheckFeedPackEntry} {s : Files}
    (hactive : activeVersion entry.packId s = .ok (some entry.version)) :
    Agrees s s (planOf entry (some entry.version) (storedRecord s entry))
      (activeResult entry (storedRecord s entry)) := by
  cases hstored : storedRecord s entry with
  | none =>
    have hstatus : planStatus entry (some entry.version) none = .invalidLocalState := if_pos rfl
    refine ⟨rfl, rfl, rfl, ?_, fun _ => ⟨rfl, samePack_self _ s⟩, nofun, nofun, hactive⟩
    simp [planOf, hstatus, activeResult]
  | some record =>
    by_cases hsha : record.sha256 = entry.sha256
    · have hstatus : planStatus entry (some entry.version) (some record) = .unchanged := by
        rw [planStatus, if_neg (not_not.mpr hsha), if_pos rfl]
      have hresult : (activeResult entry (some record)).status = .unchanged := by
        rw [activeResult, if_neg (not_not.mpr hsha)]
      refine ⟨?_, ?_, ?_, ?_, ?_, ?_, ?_, ?_⟩ <;>
        simp [planOf, hstatus, activeResult, hsha, hactive]
    · have hstatus : planStatus entry (some entry.version) (some record) = .conflict := if_pos hsha
      refine ⟨?_, ?_, ?_, ?_, fun _ => ⟨?_, samePack_self _ s⟩, ?_, ?_, ?_⟩ <;>
        simp [planOf, hstatus, activeResult, hsha, hactive]

/-- The plan of an entry whose version is not active. -/
theorem planStatus_of_ne {entry : CheckFeedPackEntry} {active : Option String}
    (hne : active ≠ some entry.version) (stored : Option InstalledCheckPackRecord) :
    (planStatus entry active stored = .conflict ∧
      ∃ record, stored = some record ∧ record.sha256 ≠ entry.sha256) ∨
    planStatus entry active stored = .activationAvailable ∨
    (planStatus entry active stored = .installAvailable ∧ active = none) ∨
    planStatus entry active stored = .changeAvailable ∧ active ≠ none := by
  cases stored with
  | none =>
    rw [planStatus, if_neg hne]
    by_cases hnone : active = none
    · exact .inr (.inr (.inl ⟨if_pos hnone, hnone⟩))
    · exact .inr (.inr (.inr ⟨if_neg hnone, hnone⟩))
  | some record =>
    rw [planStatus]
    by_cases hsha : record.sha256 ≠ entry.sha256
    · exact .inl ⟨if_pos hsha, record, rfl, hsha⟩
    · rw [if_neg hsha, if_neg hne]
      exact .inr (.inl rfl)

/-- An entry that is to be installed. -/
theorem agrees_install {entry : CheckFeedPackEntry} {s s' : Files} {active : Option String}
    {r : Py InstalledCheckPackRecord} (hactive : activeVersion entry.packId s = .ok active)
    (hne : active ≠ some entry.version) (h : Follows entry s s' r) :
    Agrees s s' (planOf entry active (storedRecord s entry)) (installResult entry active r) := by
  have hplan := planStatus_of_ne hne (storedRecord s entry)
  have hconflict : (planOf entry active (storedRecord s entry)).status = .conflict ∨
      (planOf entry active (storedRecord s entry)).status = .invalidLocalState →
      (∃ e, r = .error e) ∧ s' = s := by
    intro hstatus
    rcases hplan with ⟨-, record, hrecord, hsha⟩ | hplan
    · obtain ⟨t, ht, rfl⟩ := Option.map_eq_some_iff.mp hrecord
      exact h.immutable t ht hsha
    · have hstatus : planStatus entry active (storedRecord s entry) = .conflict ∨
        planStatus entry active (storedRecord s entry) = .invalidLocalState := hstatus
      rcases hplan with hplan | ⟨hplan, -⟩ | ⟨hplan, -⟩ <;>
        · rw [hplan] at hstatus
          rcases hstatus with hstatus | hstatus <;> cases hstatus
  have hchanged : planStatus entry active (storedRecord s entry) ≠ .unchanged := by
    rcases hplan with ⟨hplan, -⟩ | hplan | ⟨hplan, -⟩ | ⟨hplan, -⟩ <;> rw [hplan] <;> nofun
  rcases h.outcome with ⟨⟨e, rfl⟩, hstates⟩ | ⟨record, rfl, hversion, hnow⟩
  · refine ⟨rfl, rfl, rfl, ⟨fun hplan => absurd hplan hchanged, nofun⟩, fun hstatus => ⟨rfl, ?_⟩,
      nofun, nofun, ?_⟩
    · rw [(hconflict hstatus).2]
      exact samePack_self _ s
    · exact (activeVersion_congr (by rw [hstates])).trans hactive
  · have hgoes : ¬ ((planOf entry active (storedRecord s entry)).status = .conflict ∨
        (planOf entry active (storedRecord s entry)).status = .invalidLocalState) := by
      intro hstatus
      obtain ⟨⟨e, herror⟩, -⟩ := hconflict hstatus
      cases herror
    have hresult : (installResult entry active (.ok record)).status =
        if active = none then .installed else .updated := rfl
    refine ⟨rfl, rfl, rfl, ⟨fun hplan => absurd hplan hchanged, fun hstatus => ?_⟩,
      fun hstatus => absurd hstatus hgoes, fun hstatus => ?_, fun hstatus => ?_, ?_⟩
    · rw [hresult] at hstatus
      split at hstatus <;> cases hstatus
    · have hnone : active = none := by
        by_contra hsome
        rw [hresult, if_neg hsome] at hstatus
        cases hstatus
      refine ⟨?_, hnone⟩
      rcases hplan with ⟨hplan, -⟩ | hplan | ⟨hplan, -⟩ | ⟨-, hsome⟩
      · exact absurd (.inl hplan) hgoes
      · exact .inr hplan
      · exact .inl hplan
      · exact absurd hnone hsome
    · have hsome : active ≠ none := by
        intro hnone
        rw [hresult, if_pos hnone] at hstatus
        cases hstatus
      refine ⟨?_, hsome⟩
      rcases hplan with ⟨hplan, -⟩ | hplan | ⟨-, hnone⟩ | ⟨hplan, -⟩
      · exact absurd (.inl hplan) hgoes
      · exact .inr hplan
      · exact absurd hnone hsome
      · exact .inl hplan
    · show activeVersion entry.packId s' = .ok (some record.version)
      rw [hversion]
      exact hnow

variable (urlparse jsonErrorMessage load keys)

/-- **One entry**: its result agrees with its plan, and no other pack changes. -/
theorem syncEntry_agrees {feed : CheckPackFeed} {entry : CheckFeedPackEntry}
    (hdistinct : (feed.packs.map fun e => e.packId).Nodup) (hentry : entry ∈ feed.packs)
    (hid : isSafeId entry.packId = true) (outcome : Outcome) {s : Files} {active : Option String}
    (hactive : activeVersion entry.packId s = .ok active) :
    ∃ result s', syncEntry urlparse jsonErrorMessage load feed keys outcome entry s =
        (.ok result, s') ∧
      Agrees s s' (planOf entry active (storedRecord s entry)) result ∧
      ∀ id, id ≠ entry.packId → SamePack id s s' := by
  have hget : (Proc.get : Proc Exn Files Files) s = (.ok s, s) := rfl
  have hread : (Proc.ofExcept (activeVersion entry.packId s) : Proc Exn Files _) s =
      (.ok active, s) := by
    rw [Proc.ofExcept_apply, hactive]
  rw [syncEntry, Proc.bind_of_ok hget, Proc.bind_of_ok hread]
  by_cases hsame : active = some entry.version
  · subst hsame
    rw [if_pos rfl, findInstalledRecord_eq hid]
    exact ⟨_, s, rfl, agrees_active hactive, fun id _ => samePack_self id s⟩
  · rw [if_neg hsame]
    cases hrun : installPackFromVerifiedFeed urlparse jsonErrorMessage load feed entry.packId keys
        outcome s with
    | mk r s' =>
      have hfollows := installPack_cases hdistinct hentry hrun
      have htry : Proc.tryCall (installPackFromVerifiedFeed urlparse jsonErrorMessage load feed
          entry.packId keys outcome) s = (.ok r, s') := by
        rw [Proc.tryCall, hrun]
      rw [Proc.bind_of_ok htry]
      exact ⟨_, s', rfl, agrees_install hactive hsame hfollows, hfollows.elsewhere⟩

/-! ## The whole feed -/

theorem plans_congr {entries : List CheckFeedPackEntry} {s s' : Files}
    (h : ∀ e ∈ entries, SamePack e.packId s s') :
    entries.mapM (planEntry s') = entries.mapM (planEntry s) := by
  induction entries with
  | nil => rfl
  | cons entry entries ih =>
    rw [List.mapM_cons, List.mapM_cons, planEntry_congr (h entry List.mem_cons_self),
      ih fun e he => h e (List.mem_cons_of_mem _ he)]

/-- There is one plan for each entry, for its pack and version. -/
theorem plans_keys {entries : List CheckFeedPackEntry} {s : Files}
    {plans : List CheckPackUpdatePlan} (h : entries.mapM (planEntry s) = .ok plans) :
    plans.map (fun p => (p.packId, p.advertisedVersion)) =
      entries.map fun e => (e.packId, e.version) := by
  have hpairs := mapM_eq_ok.mp h
  induction hpairs with
  | nil => rfl
  | @cons entry plan entries plans hplan _ ih =>
    simp only [planEntry, bind_eq_ok, pure_eq_ok, Except.ok.injEq] at hplan
    obtain ⟨active, -, records, -, rfl⟩ := hplan
    rw [List.map_cons, List.map_cons, ih (mapM_eq_ok.mpr ‹_›), planOf]

/-- **The loop**: when every entry has a plan the results agree with the plans, and otherwise the
synchronisation raises what the plan raises. -/
theorem syncEntries_agrees {feed : CheckPackFeed}
    (hdistinct : (feed.packs.map fun e => e.packId).Nodup)
    (hstorable : ∀ e ∈ feed.packs, isSafeId e.packId = true) (outcomes : String → Outcome)
    {entries : List CheckFeedPackEntry} (hmem : ∀ e ∈ entries, e ∈ feed.packs)
    (hnodup : (entries.map fun e => e.packId).Nodup) (s : Files) :
    (∀ e, entries.mapM (planEntry s) = .error e →
      (syncEntries urlparse jsonErrorMessage load feed keys outcomes entries s).1 = .error e) ∧
    ∀ plans, entries.mapM (planEntry s) = .ok plans →
      ∃ results s', syncEntries urlparse jsonErrorMessage load feed keys outcomes entries s =
          (.ok results, s') ∧
        List.Forall₂ (Agrees s s') plans results ∧
        ∀ id, id ∉ entries.map (fun e => e.packId) → SamePack id s s' := by
  induction entries generalizing s with
  | nil =>
    refine ⟨nofun, fun plans h => ?_⟩
    obtain rfl : [] = plans := Except.ok.inj h
    exact ⟨[], s, rfl, .nil, fun id _ => samePack_self id s⟩
  | cons entry entries ih =>
    have hentry := hmem entry List.mem_cons_self
    have hid := hstorable entry hentry
    rw [List.map_cons, List.nodup_cons] at hnodup
    cases hactive : activeVersion entry.packId s with
    | error e =>
      have hget : (Proc.get : Proc Exn Files Files) s = (.ok s, s) := rfl
      have hplan : planEntry s entry = .error e := by rw [planEntry, hactive]; rfl
      have hsync : syncEntry urlparse jsonErrorMessage load feed keys (outcomes entry.packId) entry
          s = (.error e, s) := by
        rw [syncEntry, Proc.bind_of_ok hget, hactive]
        rfl
      rw [List.mapM_cons, hplan]
      refine ⟨fun e' h => ?_, nofun⟩
      obtain rfl : e = e' := Except.error.inj h
      rw [syncEntries, Proc.bind_of_error hsync]
    | ok active =>
      obtain ⟨result, s₁, hsync, hagrees, helsewhere⟩ :=
        syncEntry_agrees urlparse jsonErrorMessage load keys hdistinct hentry hid
          (outcomes entry.packId) hactive
      have hothers : ∀ e ∈ entries, SamePack e.packId s s₁ := fun e he =>
        helsewhere _ fun heq => hnodup.1 (heq ▸ List.mem_map_of_mem he)
      have hrest := plans_congr hothers
      obtain ⟨herror, hok⟩ := ih (fun e he => hmem e (List.mem_cons_of_mem _ he)) hnodup.2 s₁
      rw [hrest] at herror hok
      rw [List.mapM_cons, planEntry_eq hid hactive, syncEntries, Proc.bind_of_ok hsync]
      cases hplans : entries.mapM (planEntry s) with
      | error e =>
        refine ⟨fun e' h => ?_, nofun⟩
        obtain rfl : e = e' := Except.error.inj h
        cases hrun : syncEntries urlparse jsonErrorMessage load feed keys outcomes entries s₁ with
        | mk r s' =>
          have hraised := herror e hplans
          rw [hrun] at hraised
          rw [Proc.bind_of_error (hrun.trans (congrArg (·, s') hraised))]
      | ok plans =>
        refine ⟨nofun, fun plans' h => ?_⟩
        obtain rfl : planOf entry active (storedRecord s entry) :: plans = plans' :=
          Except.ok.inj h
        obtain ⟨results, s', hrun, hresults, hrestElsewhere⟩ := hok plans hplans
        rw [Proc.bind_of_ok hrun]
        have hlater : SamePack entry.packId s₁ s' := hrestElsewhere _ hnodup.1
        refine ⟨result :: results, s', rfl, .cons (hagrees.framed (samePack_self _ s) hlater) ?_,
          fun id hne => ?_⟩
        · have hframe : ∀ plan ∈ plans, SamePack plan.packId s s₁ := by
            intro plan hplan
            have hmem : (plan.packId, plan.advertisedVersion) ∈
                entries.map fun e => (e.packId, e.version) :=
              plans_keys hplans ▸ List.mem_map_of_mem hplan
            obtain ⟨e, he, heq⟩ := List.mem_map.mp hmem
            exact (Prod.mk.inj heq).1 ▸ hothers e he
          have hboth := (List.forall₂_and_left _ _).mpr ⟨hframe, hresults⟩
          exact hboth.imp fun plan result h => h.2.framed h.1 (samePack_self _ s')
        · rw [List.map_cons, List.mem_cons, not_or] at hne
          exact (helsewhere id hne.1).trans (hrestElsewhere id hne.2)

end Install

/-- A pack that was activated and has lost its file, and one that was never stored. -/
def alphaEntry : CheckFeedPackEntry := ⟨"alpha", "1", "https://host/alpha", "", "key"⟩

def betaEntry : CheckFeedPackEntry := ⟨"beta", "2", "https://host/beta", "", "key"⟩

def twoPacks : CheckPackFeed where
  schemaVersion := 1
  feedId := "feed"
  generatedAt := ""
  packs := [alphaEntry, betaEntry]

def lostAlpha : Files :=
  ⟨∅, (∅ : Dict String String).insert "alpha" (Json.dumps (stateDocument "1" []))⟩

theorem plan_twoPacks : planVerifiedCheckFeed twoPacks lostAlpha =
    .ok [planOf alphaEntry (some "1") none, planOf betaEntry none none] := by
  have halpha : activeVersion "alpha" lostAlpha = .ok (some "1") :=
    activeVersion_of (by decide) (by decide) (readState_written (Finmap.lookup_insert _)) rfl
  have hbeta : activeVersion "beta" lostAlpha = .ok none := by
    have hread : readState "beta" lostAlpha = .ok (.obj []) :=
      readState_missing (Finmap.lookup_insert_of_ne _ (by decide))
    rw [activeVersion, validateId, require_of (by decide), ok_bind, hread]
    rfl
  have hplanAlpha : planEntry lostAlpha alphaEntry = _ := planEntry_eq (by decide) halpha
  have hplanBeta : planEntry lostAlpha betaEntry = _ := planEntry_eq (by decide) hbeta
  show [alphaEntry, betaEntry].mapM (planEntry lostAlpha) = _
  rw [List.mapM_cons, List.mapM_cons, hplanAlpha, hplanBeta]
  rfl

end NightRecon.RedEngine.CheckPackManager
