import NightRecon.Documents
import NightRecon.Lib.JsonRoundTrip
import NightRecon.RedEngine.InventoryReports

/-!
# The inventory file

`nightrecon_red_engine/asset_inventory_store.py`: the inventory saved as a JSON document and loaded
by a strict reader.

* `save`, `load` — the document, with sorted keys, and its reader;
* `Storable` — what the reader asks of an asset; `load_save` — an inventory of storable assets is
  loaded as it was saved;
* `WellFormed` — what a report has to carry for its assets to be storable; `storable_run`;
* `inventory_run` — **every sequence of reports**; `blank_time_unloadable` — a report that is not
  well formed.
-/

namespace NightRecon.RedEngine.Inventory

open NightRecon.Lib
open NightRecon.Lib.Checks
open NightRecon.Lib.Ipaddress
open NightRecon.Lib.Machine
open NightRecon.Lib.Records
open NightRecon.Lib.Text
open NightRecon.Documents

/-! ## Saving -/

/-- The members of `asdict(service)`. -/
def AssetServiceRecord.members (s : AssetServiceRecord) : List (String × Json) :=
  [("port", .int s.port), ("service", .str s.service), ("product", .str s.product),
    ("version", .str s.version), ("protocol_version", .str s.protocolVersion),
    ("platform", .str s.platform), ("fingerprint_source", .str s.fingerprintSource),
    ("fingerprint_confidence", .str s.fingerprintConfidence),
    ("tls_certificate_sha256", .str s.tlsCertificateSha256)]

/-- A boolean or `null`. -/
def boolOrNull : Option Bool → Json
  | none => .null
  | some b => .bool b

/-- The members of `asdict(asset)`. -/
def AssetRecord.members (a : AssetRecord) : List (String × Json) :=
  [("address", .str a.address), ("first_seen", .str a.firstSeen), ("last_seen", .str a.lastSeen),
    ("last_checked_at", .str a.lastCheckedAt), ("hostnames", .strings a.hostnames),
    ("os_platform", .str a.osPlatform), ("os_family", .str a.osFamily),
    ("os_confidence", .str a.osConfidence), ("os_candidates", .strings a.osCandidates),
    ("os_evidence_count", .int a.osEvidenceCount),
    ("last_discovery_responsive", boolOrNull a.lastDiscoveryResponsive),
    ("discovery_methods", .strings a.discoveryMethods),
    ("services", .arr (a.services.map fun s => .obj s.members)),
    ("source_session_ids", .strings a.sourceSessionIds)]

/-- The members of `asdict(inventory)`. -/
def AssetInventory.members (inventory : AssetInventory) : List (String × Json) :=
  [("assets", .arr (inventory.assets.map fun a => .obj a.members)),
    ("schema_version", .int inventory.schemaVersion), ("updated_at", .str inventory.updatedAt)]

/-- The document the file holds, with sorted keys.
Source: `asset_inventory_store.py` `AssetInventoryStore.save`. -/
def save (inventory : AssetInventory) : Json := Json.normal (.obj inventory.members)

/-! ## Loading -/

def invalidInventory : Exn := valueError "Invalid asset inventory JSON."

/-- Source: `asset_inventory_store.py` `_required_text`. -/
def requiredMember (data : Json) (key : String) : Py String :=
  match data.get? key with
  | some (.str value) => if strip value = "" then .error invalidInventory else .ok value
  | _ => .error invalidInventory

/-- Source: `asset_inventory_store.py` `_optional_text`. -/
def optionalMember (data : Json) (key : String) : Py String :=
  match data.get? key with
  | none | some .null => .ok ""
  | some (.str value) => .ok value
  | _ => .error invalidInventory

def stringItem : Json → Py String
  | .str value => .ok value
  | _ => .error invalidInventory

/-- Source: `asset_inventory_store.py` `_string_tuple`. -/
def stringTuple (data : Json) (key : String) : Py (List String) :=
  match data.get? key with
  | none => .ok []
  | some (.arr items) => items.mapM stringItem
  | _ => .error invalidInventory

/-- Source: `asset_inventory_store.py` `_optional_nonnegative_int`. -/
def optionalNonnegativeInt (data : Json) (key : String) : Py Int :=
  match data.get? key with
  | none | some .null => .ok 0
  | some (.int n) => if n < 0 then .error invalidInventory else .ok n
  | _ => .error invalidInventory

/-- Source: `asset_inventory_store.py` `_optional_bool`. -/
def optionalBool (data : Json) (key : String) : Py (Option Bool) :=
  match data.get? key with
  | none | some .null => .ok none
  | some (.bool b) => .ok (some b)
  | _ => .error invalidInventory

/-- A port, which is no boolean and in range. -/
def portMember (data : Json) : Py Int :=
  match data.get? "port" with
  | some (.int port) => if 1 ≤ port ∧ port ≤ 65535 then .ok port else .error invalidInventory
  | _ => .error invalidInventory

/-- The elements of a list, which is empty when it is missing. -/
def listMember (data : Json) (key : String) : Py (List Json) :=
  match data.get? key with
  | none => .ok []
  | some (.arr items) => .ok items
  | _ => .error invalidInventory

/-- Source: `asset_inventory_store.py` `_parse_service`. -/
def parseService (data : Json) : Py AssetServiceRecord := do
  require (keys? data).isSome invalidInventory
  let port ← portMember data
  let service ← requiredMember data "service"
  let product ← optionalMember data "product"
  let version ← optionalMember data "version"
  let protocolVersion ← optionalMember data "protocol_version"
  let platform ← optionalMember data "platform"
  let fingerprintSource ← optionalMember data "fingerprint_source"
  let fingerprintConfidence ← optionalMember data "fingerprint_confidence"
  let tlsCertificateSha256 ← optionalMember data "tls_certificate_sha256"
  return { port, service, product, version, protocolVersion, platform, fingerprintSource
           fingerprintConfidence, tlsCertificateSha256 }

/-- Source: `asset_inventory_store.py` `_parse_asset`. -/
def parseAsset (data : Json) : Py AssetRecord := do
  require (keys? data).isSome invalidInventory
  let services ← listMember data "services"
  let address ← requiredMember data "address"
  let firstSeen ← requiredMember data "first_seen"
  let lastSeen ← requiredMember data "last_seen"
  let lastCheckedAt ← requiredMember data "last_checked_at"
  let hostnames ← stringTuple data "hostnames"
  let osPlatform ← optionalMember data "os_platform"
  let osFamily ← optionalMember data "os_family"
  let osConfidence ← optionalMember data "os_confidence"
  let osCandidates ← stringTuple data "os_candidates"
  let osEvidenceCount ← optionalNonnegativeInt data "os_evidence_count"
  let lastDiscoveryResponsive ← optionalBool data "last_discovery_responsive"
  let discoveryMethods ← stringTuple data "discovery_methods"
  let services ← services.mapM parseService
  let sourceSessionIds ← stringTuple data "source_session_ids"
  return { address, firstSeen, lastSeen, lastCheckedAt, hostnames, osPlatform, osFamily
           osConfidence, osCandidates, osEvidenceCount, lastDiscoveryResponsive, discoveryMethods
           services, sourceSessionIds }

/-- Source: `asset_inventory_store.py` `_parse_inventory`. -/
def parseInventory (data : Json) : Py AssetInventory := do
  require (keys? data).isSome invalidInventory
  let schemaVersion := (data.get? "schema_version").getD (.int 1)
  require (equalsOne schemaVersion)
    (valueError ("Unsupported asset inventory schema version: " ++ schemaVersion.write))
  let rawAssets ← listMember data "assets"
  let assets ← rawAssets.mapM parseAsset
  match data.get? "updated_at" with
  | none => return ⟨assets, 1, ""⟩
  | some (.str updatedAt) => return ⟨assets, 1, updatedAt⟩
  | _ => .error invalidInventory

/-- The inventory in the file, an empty one when there is no file.
Source: `asset_inventory_store.py` `AssetInventoryStore.load`. -/
def load (file : Option Json) : Py AssetInventory :=
  match file with
  | none => .ok emptyInventory
  | some data => parseInventory data

/-! ## What was saved is loaded -/

/-- What the reader asks of a service. -/
structure StorableService (s : AssetServiceRecord) : Prop where
  port : 1 ≤ s.port ∧ s.port ≤ 65535
  service : strip s.service ≠ ""

/-- What the reader asks of an asset. -/
structure Storable (a : AssetRecord) : Prop where
  address : strip a.address ≠ ""
  firstSeen : strip a.firstSeen ≠ ""
  lastSeen : strip a.lastSeen ≠ ""
  lastCheckedAt : strip a.lastCheckedAt ≠ ""
  evidence : 0 ≤ a.osEvidenceCount
  services : ∀ s ∈ a.services, StorableService s

section Members

variable {data : Json} {key : String}

theorem requiredMember_of {value : String} (h : data.get? key = some (.str value))
    (hvalue : strip value ≠ "") : requiredMember data key = .ok value := by
  rw [requiredMember, h]
  exact if_neg hvalue

theorem optionalMember_of {value : String} (h : data.get? key = some (.str value)) :
    optionalMember data key = .ok value := by
  rw [optionalMember, h]

theorem stringTuple_of {values : List String} (h : data.get? key = some (.strings values)) :
    stringTuple data key = .ok values := by
  rw [stringTuple, h]
  show (values.map Json.str).mapM stringItem = .ok values
  rw [mapM_eq_ok, List.forall₂_map_left_iff]
  exact List.forall₂_same.mpr fun _ _ => rfl

theorem optionalBool_of {value : Option Bool} (h : data.get? key = some (boolOrNull value)) :
    optionalBool data key = .ok value := by
  rw [optionalBool, h]
  cases value <;> rfl

theorem optionalNonnegativeInt_of {n : Int} (h : data.get? key = some (.int n)) (hn : 0 ≤ n) :
    optionalNonnegativeInt data key = .ok n := by
  rw [optionalNonnegativeInt, h]
  exact if_neg (not_lt.mpr hn)

end Members

/-- The members of a saved object are the saved members. -/
theorem get?_saved {members : List (String × Json)} (h : (members.map (·.1)).Nodup)
    {m : String × Json} (hm : m ∈ members) :
    (Json.normal (.obj members)).get? m.1 = some (Json.normal m.2) := by
  rw [Json.get?_normal h, Json.get?, (Keyed.find?_eq_some_iff h).mpr ⟨hm, rfl⟩]
  rfl

theorem isObject_saved (members : List (String × Json)) :
    (keys? (Json.normal (.obj members))).isSome = true := by
  obtain ⟨sorted, hsorted, -⟩ := Json.keys_normal members
  rw [hsorted]
  rfl

/-- A saved list is the list of its saved elements. -/
theorem normal_arr_map {α : Type} (f : α → Json) (l : List α) :
    Json.normal (.arr (l.map f)) = .arr (l.map fun a => Json.normal (f a)) := by
  rw [Json.normal, Json.elemsNormal_eq_map, List.map_map]
  rfl

theorem service_keys (s : AssetServiceRecord) : (s.members.map (·.1)).Nodup := by
  show ["port", "service", "product", "version", "protocol_version", "platform",
    "fingerprint_source", "fingerprint_confidence", "tls_certificate_sha256"].Nodup
  decide

theorem asset_keys (a : AssetRecord) : (a.members.map (·.1)).Nodup := by
  show ["address", "first_seen", "last_seen", "last_checked_at", "hostnames", "os_platform",
    "os_family", "os_confidence", "os_candidates", "os_evidence_count",
    "last_discovery_responsive", "discovery_methods", "services", "source_session_ids"].Nodup
  decide

theorem inventory_keys (inventory : AssetInventory) : (inventory.members.map (·.1)).Nodup := by
  show ["assets", "schema_version", "updated_at"].Nodup
  decide

theorem parseService_saved {s : AssetServiceRecord} (h : StorableService s) :
    parseService (Json.normal (.obj s.members)) = .ok s := by
  have hget := fun m hm => get?_saved (m := m) (service_keys s) hm
  simp only [AssetServiceRecord.members, List.forall_mem_cons] at hget
  obtain ⟨hport, hservice, hproduct, hversion, hprotocol, hplatform, hsource, hconfidence, htls,
    -⟩ := hget
  have hport : portMember (Json.normal (.obj s.members)) = .ok s.port := by
    rw [portMember, AssetServiceRecord.members, hport]
    exact if_pos h.port
  rw [parseService, require_of (isObject_saved _), hport]
  simp only [AssetServiceRecord.members, ok_bind, requiredMember_of hservice h.service,
    optionalMember_of hproduct, optionalMember_of hversion, optionalMember_of hprotocol,
    optionalMember_of hplatform, optionalMember_of hsource, optionalMember_of hconfidence,
    optionalMember_of htls]
  rfl

theorem mapM_saved {α : Type} (read : Json → Py α) (write : α → Json) {l : List α}
    (h : ∀ a ∈ l, read (write a) = .ok a) : (l.map write).mapM read = .ok l := by
  rw [mapM_eq_ok, List.forall₂_map_left_iff]
  exact List.forall₂_same.mpr h

theorem parseAsset_saved {a : AssetRecord} (h : Storable a) :
    parseAsset (Json.normal (.obj a.members)) = .ok a := by
  have hget := fun m hm => get?_saved (m := m) (asset_keys a) hm
  simp only [AssetRecord.members, List.forall_mem_cons, Json.normal_strings,
    normal_arr_map] at hget
  obtain ⟨haddress, hfirst, hlast, hchecked, hhostnames, hplatform, hfamily, hconfidence,
    hcandidates, hevidence, hresponsive, hmethods, hservices, hsessions, -⟩ := hget
  have hlist : listMember (Json.normal (.obj a.members)) "services" =
      .ok (a.services.map fun s => Json.normal (.obj s.members)) := by
    rw [listMember, AssetRecord.members, hservices]
  have hresponsive : optionalBool (Json.normal (.obj a.members)) "last_discovery_responsive" =
      .ok a.lastDiscoveryResponsive := by
    refine optionalBool_of ?_
    rw [AssetRecord.members, hresponsive]
    cases a.lastDiscoveryResponsive <;> rfl
  have hparsed := mapM_saved parseService
    (fun s : AssetServiceRecord => Json.normal (.obj s.members))
    fun s hs => parseService_saved (h.services s hs)
  rw [parseAsset, require_of (isObject_saved _), ok_bind, hlist, ok_bind, hresponsive]
  simp only [AssetRecord.members, ok_bind, requiredMember_of haddress h.address,
    requiredMember_of hfirst h.firstSeen, requiredMember_of hlast h.lastSeen,
    requiredMember_of hchecked h.lastCheckedAt, stringTuple_of hhostnames,
    optionalMember_of hplatform, optionalMember_of hfamily, optionalMember_of hconfidence,
    stringTuple_of hcandidates, optionalNonnegativeInt_of hevidence h.evidence,
    stringTuple_of hmethods, hparsed, stringTuple_of hsessions]
  rfl

/-- **An inventory of storable assets is loaded as it was saved.** -/
theorem load_save {inventory : AssetInventory} (hversion : inventory.schemaVersion = 1)
    (h : ∀ a ∈ inventory.assets, Storable a) : load (some (save inventory)) = .ok inventory := by
  have hget := fun m hm => get?_saved (m := m) (inventory_keys inventory) hm
  simp only [AssetInventory.members, List.forall_mem_cons, normal_arr_map] at hget
  obtain ⟨hassets, hschema, hupdated, -⟩ := hget
  have hlist : listMember (save inventory) "assets" =
      .ok (inventory.assets.map fun a => Json.normal (.obj a.members)) := by
    rw [listMember, save, AssetInventory.members, hassets]
  have hschema : (save inventory).get? "schema_version" = some (.int 1) := by
    rw [save, AssetInventory.members, hschema, hversion]
    rfl
  have hupdated : (save inventory).get? "updated_at" = some (.str inventory.updatedAt) :=
    hupdated
  have hparsed := mapM_saved parseAsset
    (fun a : AssetRecord => Json.normal (.obj a.members))
    fun a ha => parseAsset_saved (h a ha)
  have hobject : (keys? (save inventory)).isSome = true := isObject_saved _
  rw [load, parseInventory, require_of hobject, ok_bind, hschema, hlist, hupdated]
  show (List.mapM parseAsset (inventory.assets.map fun a => Json.normal (.obj a.members))).bind
    (fun assets => .ok ⟨assets, 1, inventory.updatedAt⟩) = .ok inventory
  rw [hparsed, ← hversion]
  rfl

/-! ## Reports whose assets are storable -/

/-- A blank text has white space only. -/
theorem isSpace_of_blank {s : String} (h : strip s = "") : ∀ c ∈ s.toList, isSpace c = true := by
  have hchars : stripChars s.toList = [] := by
    rw [← toList_strip, h]
    rfl
  have hdrop : s.toList.dropWhile isSpace = [] := by
    by_contra hne
    obtain ⟨c, rest, heq⟩ := List.exists_cons_of_ne_nil hne
    have hc : isSpace c = false := by
      have hhead := List.head_dropWhile_not isSpace hne
      simpa only [heq, List.head_cons] using hhead
    rw [stripChars, heq, List.rdropWhile_eq_nil_iff] at hchars
    have hspace := hchars c List.mem_cons_self
    rw [hc] at hspace
    cases hspace
  exact List.dropWhile_eq_nil_iff.mp hdrop

/-- The text of an address is not blank. -/
theorem not_blank_of_ipAddress {s : String} (h : (ipAddress s).isSome = true) :
    strip s ≠ "" := by
  intro hblank
  have hspace := isSpace_of_blank hblank
  have hmem : ∀ c, isSpace c = false → c ∉ s.toList := fun c hc hin => by
    have := hspace c hin
    rw [hc] at this
    cases this
  have hv4 : parseAddress4 s.toList = none := by
    rw [parseAddress4, parseIpv4, List.splitOn_eq_singleton (hmem '.' (by decide))]
    rfl
  have hv6 : parseAddress6 s.toList = none := by
    rw [parseAddress6, splitZone, List.splitOn_eq_singleton (hmem '%' (by decide))]
    show (parseIpv6 s.toList).bind _ = none
    rw [parseIpv6, List.splitOn_eq_singleton (hmem ':' (by decide))]
    rfl
  rw [ipAddress, hv4, hv6] at h
  split at h <;> cases h

/-- What the scanners put into a report: a time, and for a scan open ports in range and services
with a name. -/
def Report.WellFormed : Report → Prop
  | .discovery report => strip report.createdAt ≠ ""
  | .scan report => strip report.createdAt ≠ "" ∧
      (∀ r ∈ report.results, r.isOpen = true → 1 ≤ r.port ∧ r.port ≤ 65535) ∧
      ∀ s ∈ report.services, strip s.service ≠ ""

/-- What the reader asks of an asset, its address apart. -/
structure Timed (a : AssetRecord) : Prop where
  firstSeen : strip a.firstSeen ≠ ""
  lastSeen : strip a.lastSeen ≠ ""
  lastCheckedAt : strip a.lastCheckedAt ≠ ""
  evidence : 0 ≤ a.osEvidenceCount
  services : ∀ s ∈ a.services, StorableService s

theorem Timed.storable {a : AssetRecord} (h : Timed a) (haddress : (ipAddress a.address).isSome) :
    Storable a :=
  ⟨not_blank_of_ipAddress haddress, h.firstSeen, h.lastSeen, h.lastCheckedAt, h.evidence,
    h.services⟩

section WellFormed

variable {report : TcpScanReport} (h : (Report.scan report).WellFormed)

include h

/-- The service of an open port is storable, detected or not. -/
theorem observedService_storable {address : String} {port : Int}
    (hport : port ∈ openPorts report address) :
    StorableService (observedService report address port) := by
  obtain ⟨-, hports, hservices⟩ := h
  refine ⟨?_, ?_⟩
  · obtain ⟨r, hr, rfl⟩ := List.mem_map.mp hport
    obtain ⟨hr, hopen⟩ := List.mem_filter.mp hr
    rw [observedService_port]
    exact hports r (List.mem_filter.mp hr).1 hopen
  · rw [observedService]
    cases hfound : report.services.reverse.find? fun s => s.address = address ∧ s.port = port with
    | none =>
      show strip "unknown" ≠ ""
      decide
    | some detected =>
      exact hservices detected (List.mem_reverse.mp (List.mem_of_find?_eq_some hfound))

theorem scanHost_timed {address : String} {a : AssetRecord} (ha : Timed a) :
    Timed (scanHost report address a).1 := by
  refine ⟨ha.firstSeen, ?_, h.1, ?_, fun s hs => ?_⟩
  · show strip (if openPorts report address = [] then a.lastSeen else report.createdAt) ≠ ""
    split
    · exact ha.lastSeen
    · exact h.1
  · show 0 ≤ (observedOs report address).elim a.osEvidenceCount (·.evidence.length)
    cases observedOs report address with
    | none => exact ha.evidence
    | some os => exact Int.natCast_nonneg _
  · have hs : s ∈ sortedServices (scanPorts report address a).1 := hs
    refine foldl_scanPort_all (P := StorableService) (fun port => observedService_storable h) _ ?_ s
      ((List.mem_insertionSort _).mp hs)
    exact fun s hs => ha.services s (mem_of_mem_collect hs)

theorem newAsset_timed (address : String) : Timed (newAsset report address) :=
  ⟨h.1, h.1, h.1, le_refl 0, fun _ hs => absurd hs List.not_mem_nil⟩

end WellFormed

theorem discoverHost_timed {report : HostDiscoveryReport}
    (h : (Report.discovery report).WellFormed) (result : HostDiscoveryResult) {a : AssetRecord}
    (ha : Timed a) : Timed (discoverHost report result a).1 := by
  refine ⟨ha.firstSeen, ?_, h, ha.evidence, ha.services⟩
  show strip (if result.responsive then report.createdAt else a.lastSeen) ≠ ""
  split
  · exact h
  · exact ha.lastSeen

theorem discoveredAsset_timed {report : HostDiscoveryReport}
    (h : (Report.discovery report).WellFormed) (result : HostDiscoveryResult) :
    Timed (discoveredAsset report result) :=
  ⟨h, h, h, le_refl 0, fun _ hs => absurd hs List.not_mem_nil⟩

/-- **A well-formed report keeps every asset storable.** -/
theorem step_timed {inventory : AssetInventory} {report : Report} (hkept : Kept inventory)
    (hreport : report.WellFormed) (h : ∀ a ∈ inventory.assets, Timed a) :
    ∀ a ∈ (step inventory report).1.assets, Timed a := by
  unfold step
  cases happly : report.apply inventory with
  | error e => exact h
  | ok update =>
    obtain ⟨⟨assets, hfollows, hperm⟩, -⟩ :=
      apply_follows happly hkept (G := Timed) (R := fun _ _ => True) (fun _ => trivial)
        (fun _ _ _ _ _ => trivial)
        (fun r hr state address => by
          subst hr
          exact scanAddress_follows (fun _ => trivial)
            (fun address => scanHost_timed hreport (newAsset_timed hreport address))
            (fun _ ha => scanHost_timed hreport ha) (fun _ _ => trivial) state address)
        (fun r hr state result => by
          subst hr
          exact discoverResult_follows (fun _ => trivial) (discoveredAsset_timed hreport)
            (fun result _ ha => discoverHost_timed hreport result ha) (fun _ _ _ => trivial)
            state result)
    exact fun a ha => hfollows.good h a (hperm.mem_iff.mp ha)

theorem timed_run {reports : List Report} (h : ∀ r ∈ reports, r.WellFormed) :
    ∀ a ∈ (final step emptyInventory reports).assets, Timed a := by
  induction reports using List.reverseRecOn with
  | nil => exact fun a ha => absurd ha List.not_mem_nil
  | append_singleton reports report ih =>
    rw [final_concat]
    refine step_timed (kept_run kept_empty reports) (h report (by simp)) (ih fun r hr => ?_)
    exact h r (List.mem_append_left _ hr)

/-! ## Every sequence of reports -/

/-- **Every sequence of reports**: addresses are unique and sorted, as are the ports of every asset;
no asset is lost, keeps its address and the time it was first seen, and its hostnames and sessions
only grow; a scan with nothing of a port but that it is filtered leaves its service; and when the
reports are well formed, the inventory that was saved is the one that is loaded. -/
theorem inventory_run (before after : List Report) :
    let earlier := final step emptyInventory before
    let later := final step emptyInventory (before ++ after)
    ((later.assets.map addressOf).Nodup ∧ SortedByAddress later.assets ∧
      ∀ a ∈ later.assets, Ordered a) ∧
    (∀ a ∈ earlier.assets, ∃ a' ∈ later.assets, Evolves a a') ∧
    (∀ report update, applyScanReport later report = .ok update →
      ∀ a ∈ later.assets, ∀ s ∈ a.services, OnlyFiltered report a.address s.port →
      ∃ a' ∈ update.inventory.assets, a'.address = a.address ∧ s ∈ a'.services) ∧
    ((∀ r ∈ before ++ after, r.WellFormed) → load (some (save later)) = .ok later) := by
  intro earlier later
  have hkept : Kept later := kept_run kept_empty (before ++ after)
  refine ⟨⟨hkept.distinct, hkept.sorted, hkept.ordered⟩, ?_, ?_, fun hreports => ?_⟩
  · have hrun := evolves_run (kept_run kept_empty before) after
    rw [← final_append] at hrun
    exact hrun
  · exact fun report update h a ha s hs hfiltered => apply_filtered h hkept ha hs hfiltered
  · refine load_save hkept.version fun a ha => ?_
    exact (timed_run hreports a ha).storable (hkept.parses a ha)

/-- A host found by a report without a time. -/
def untimedReport : HostDiscoveryReport where
  sessionId := "scan-1"
  createdAt := ""
  results := [⟨"10.0.0.1", true, "icmp", ""⟩]

/-- The reader refuses the inventory a report without a time gives. -/
theorem blank_time_unloadable : ¬ ∀ reports : List Report,
    load (some (save (final step emptyInventory reports))) =
      .ok (final step emptyInventory reports) := by
  intro h
  have hload := h [.discovery untimedReport]
  have hrefused : (load (some (save (final step emptyInventory
      [.discovery untimedReport])))).isOk = false := by decide +kernel
  rw [hload] at hrefused
  cases hrefused

end NightRecon.RedEngine.Inventory
