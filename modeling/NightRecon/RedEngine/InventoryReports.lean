import NightRecon.Lib.Machine
import NightRecon.RedEngine.InventoryChanges

/-!
# Runs of reports

`nightrecon_red_engine/asset_inventory.py`: host-discovery reports, and what any sequence of
discovery and scan reports keeps of an inventory.

* `HostDiscoveryReport`, `discoverHost`, `applyDiscoveryReport` — the merge of a discovery report;
* `Report`, `step` — one report of either kind; a report that raises leaves the inventory;
* `Evolves` — what does not change of an asset, or only grows; `Ordered` — the services of an asset
  are in strict order of their ports; `OnlyFiltered` — a report says of a port that it is filtered;
* `scan_follows`, `discovery_follows` — what one report keeps of each asset;
* `Kept`, `kept_run`, `evolves_run` — whole runs.
-/

namespace NightRecon.RedEngine.Inventory

open NightRecon.Lib
open NightRecon.Lib.Checks
open NightRecon.Lib.Ipaddress
open NightRecon.Lib.Machine
open NightRecon.Lib.Records

/-! ## Host discovery -/

/-- What an inventory takes from a probe.  Source: `host_discovery.py` `HostDiscoveryResult`. -/
structure HostDiscoveryResult where
  address : String
  responsive : Bool
  method : String
  hostname : String

/-- Source: `discovery_report.py` `HostDiscoveryReport`. -/
structure HostDiscoveryReport where
  sessionId : String
  createdAt : String
  results : List HostDiscoveryResult

section Discovery

variable (report : HostDiscoveryReport) (result : HostDiscoveryResult)

/-- The record of a responsive host that was not known. -/
def discoveredAsset : AssetRecord where
  address := result.address
  firstSeen := report.createdAt
  lastSeen := report.createdAt
  lastCheckedAt := report.createdAt
  hostnames := if result.hostname = "" then [] else [result.hostname]
  osPlatform := ""
  osFamily := ""
  osConfidence := ""
  osCandidates := []
  osEvidenceCount := 0
  lastDiscoveryResponsive := some true
  discoveryMethods := [result.method]
  services := []
  sourceSessionIds := [report.sessionId]

/-- The change of one host from responsive to unresponsive, or back. -/
def responsiveChange (existing : AssetRecord) : List AssetChange :=
  if existing.lastDiscoveryResponsive = some (!result.responsive) then
    [⟨result.address, if result.responsive then "host-responsive" else "host-unresponsive", none,
      "", ""⟩]
  else []

/-- The hostname of a known host is new. -/
def resultNameIsNew (existing : AssetRecord) : Bool :=
  result.hostname ≠ "" && result.hostname ∉ existing.hostnames

/-- One known host. -/
def discoverHost (existing : AssetRecord) : AssetRecord × List AssetChange :=
  ({ existing with
      lastSeen := if result.responsive then report.createdAt else existing.lastSeen
      lastCheckedAt := report.createdAt
      hostnames := if resultNameIsNew result existing then
        existing.hostnames ++ [result.hostname] else existing.hostnames
      lastDiscoveryResponsive := some result.responsive
      discoveryMethods := appendUnique existing.discoveryMethods result.method
      sourceSessionIds := appendUnique existing.sourceSessionIds report.sessionId },
    (if resultNameIsNew result existing then
      [⟨result.address, "hostname-added", none, "", result.hostname⟩] else []) ++
      responsiveChange result existing)

/-- What a result stores and the changes it reports; nothing for an unknown host that does not
respond. -/
def discoverExisting : Option AssetRecord → Option (AssetRecord × List AssetChange)
  | some existing => some (discoverHost report result existing)
  | none =>
      if result.responsive then
        some (discoveredAsset report result, [⟨result.address, "new-asset", none, "", ""⟩])
      else none

end Discovery

/-- One result. -/
def discoverResult (report : HostDiscoveryReport) (state : List AssetRecord × List AssetChange)
    (result : HostDiscoveryResult) : List AssetRecord × List AssetChange :=
  match discoverExisting report result (assetAt state.1 result.address) with
  | none => state
  | some (record, changes) => (put (·.address) state.1 record, state.2 ++ changes)

/-- Source: `asset_inventory.py` `apply_discovery_report`. -/
def applyDiscoveryReport (inventory : AssetInventory) (report : HostDiscoveryReport) :
    Py AssetInventoryUpdate := do
  let discovered := report.results.foldl (discoverResult report)
    (collect (·.address) inventory.assets, [])
  let assets ← sortedAssets discovered.1
  return ⟨⟨assets, inventory.schemaVersion, report.createdAt⟩, discovered.2⟩

/-! ## What becomes of one asset -/

/-- What does not change of an asset, or only grows. -/
structure Evolves (old new : AssetRecord) : Prop where
  address : new.address = old.address
  firstSeen : new.firstSeen = old.firstSeen
  hostnames : old.hostnames <+: new.hostnames
  sourceSessionIds : old.sourceSessionIds <+: new.sourceSessionIds

theorem evolves_self (a : AssetRecord) : Evolves a a :=
  ⟨rfl, rfl, List.prefix_rfl, List.prefix_rfl⟩

theorem Evolves.trans {a b c : AssetRecord} (h : Evolves a b) (h' : Evolves b c) : Evolves a c :=
  ⟨h'.address.trans h.address, h'.firstSeen.trans h.firstSeen, h.hostnames.trans h'.hostnames,
    h.sourceSessionIds.trans h'.sourceSessionIds⟩

/-- The services of an asset are in strict order of their ports. -/
def Ordered (a : AssetRecord) : Prop := a.services.Pairwise fun s s' => s.port < s'.port

theorem appendUnique_prefix (values : List String) (value : String) :
    values <+: appendUnique values value := by
  unfold appendUnique
  split
  · exact List.prefix_rfl
  · exact List.prefix_append _ _

theorem scanHost_evolves (report : TcpScanReport) (address : String) (a : AssetRecord) :
    Evolves a (scanHost report address a).1 := by
  refine ⟨rfl, rfl, ?_, appendUnique_prefix _ _⟩
  show a.hostnames <+: if hostnameIsNew report a.hostnames then a.hostnames ++ [report.target]
    else a.hostnames
  split
  · exact List.prefix_append _ _
  · exact List.prefix_rfl

theorem discoverHost_evolves (report : HostDiscoveryReport) (result : HostDiscoveryResult)
    (a : AssetRecord) : Evolves a (discoverHost report result a).1 := by
  refine ⟨rfl, rfl, ?_, appendUnique_prefix _ _⟩
  show a.hostnames <+: if resultNameIsNew result a then a.hostnames ++ [result.hostname]
    else a.hostnames
  split
  · exact List.prefix_append _ _
  · exact List.prefix_rfl

/-- The report has nothing of a port of an address but that it is filtered. -/
def OnlyFiltered (report : TcpScanReport) (address : String) (port : Int) : Prop :=
  ∀ r ∈ report.results, r.address = address → r.port = port →
    r.isOpen = false ∧ r.state = "filtered"

section Ports

variable {report : TcpScanReport} {address : String} {port : Int}

theorem OnlyFiltered.not_open (h : OnlyFiltered report address port) :
    port ∉ openPorts report address := by
  intro hmem
  obtain ⟨r, hr, rfl⟩ := List.mem_map.mp hmem
  obtain ⟨hr, hopen⟩ := List.mem_filter.mp hr
  obtain ⟨hresult, haddress⟩ := List.mem_filter.mp hr
  obtain ⟨hclosed, -⟩ := h r hresult (of_decide_eq_true haddress) rfl
  exact absurd hopen (by simp [hclosed])

theorem OnlyFiltered.not_closed (h : OnlyFiltered report address port) :
    port ∉ explicitlyClosedPorts report address := by
  intro hmem
  obtain ⟨r, hr, rfl⟩ := List.mem_map.mp hmem
  obtain ⟨hr, hclosed⟩ := List.mem_filter.mp hr
  obtain ⟨hresult, haddress⟩ := List.mem_filter.mp hr
  obtain ⟨-, hstate⟩ := h r hresult (of_decide_eq_true haddress) rfl
  rw [hstate] at hclosed
  exact absurd hclosed (by simp)

/-- The loop over the ports leaves the service of a filtered port. -/
theorem foldl_scanPort_filtered (h : OnlyFiltered report address port)
    {old : List AssetServiceRecord} (ports : List Int)
    (state : List AssetServiceRecord × List AssetChange) :
    serviceAt (ports.foldl (scanPort report address old) state).1 port =
      serviceAt state.1 port := by
  induction ports generalizing state with
  | nil => rfl
  | cons port' ports ih =>
    rw [List.foldl_cons, ih]
    unfold scanPort
    split
    · next hopen =>
      have hne : ¬ port' = port := fun heq => h.not_open (heq ▸ hopen)
      refine (find?_put _ _ _).trans ?_
      rw [observedService_port, if_neg hne]
      rfl
    · split
      · rfl
      · split
        · next hclosed =>
          have hne : ¬ port = port' := fun heq => h.not_closed (heq ▸ hclosed)
          refine (find?_discard _ _ _).trans ?_
          rw [if_neg hne]
          rfl
        · rfl

/-- **A filtered port keeps its service.** -/
theorem scanHost_filtered {a : AssetRecord} (ha : Ordered a) {s : AssetServiceRecord}
    (hs : s ∈ a.services) (h : OnlyFiltered report address s.port) :
    s ∈ (scanHost report address a).1.services := by
  have hfound := (storedService_eq ha s).mpr hs
  have hkept : serviceAt (scanPorts report address a).1 s.port = some s := by
    rw [scanPorts, foldl_scanPort_filtered h]
    exact hfound
  exact (List.mem_insertionSort _).mpr (List.mem_of_find?_eq_some hkept)

/-- The services of a port loop are those there were and those observed on open ports. -/
theorem foldl_scanPort_all {P : AssetServiceRecord → Prop}
    (hobserved : ∀ port ∈ openPorts report address, P (observedService report address port))
    {old : List AssetServiceRecord} (ports : List Int)
    {state : List AssetServiceRecord × List AssetChange} (h : ∀ s ∈ state.1, P s) :
    ∀ s ∈ (ports.foldl (scanPort report address old) state).1, P s := by
  induction ports generalizing state with
  | nil => exact h
  | cons port' ports ih =>
    rw [List.foldl_cons]
    apply ih
    unfold scanPort
    split
    · next hopen =>
      intro s hs
      rcases mem_put hs with rfl | hs
      · exact hobserved port' hopen
      · exact h s hs
    · split
      · exact h
      · split
        · exact fun s hs => h s (List.mem_filter.mp hs).1
        · exact h

end Ports

/-! ## What becomes of the assets -/

/-- The addresses of the assets. -/
abbrev addressOf (a : AssetRecord) : String := a.address

/-- One resolved address, for any two properties the merge of a host keeps. -/
theorem scanAddress_follows {report : TcpScanReport} {G : AssetRecord → Prop}
    {R : AssetRecord → AssetRecord → Prop} (hself : ∀ a, R a a)
    (hnew : ∀ address, G (scanHost report address (newAsset report address)).1)
    (hgood : ∀ a, G a → G (scanHost report a.address a).1)
    (hR : ∀ a, G a → R a (scanHost report a.address a).1)
    (state : List AssetRecord × List AssetChange) (address : String) :
    Follows addressOf G R state.1 (scanAddress report state address).1 := by
  unfold scanAddress
  cases hat : assetAt state.1 address with
  | none =>
    by_cases hopen : openPorts report address = []
    · rw [scanExisting, if_pos hopen]
      exact follows_self hself _
    · rw [scanExisting, if_neg hopen]
      refine follows_put hself (fun _ => hnew address) fun _ b hb => ?_
      have hb : assetAt state.1 address = some b := hb
      rw [hat] at hb
      cases hb
  | some a =>
    have haddress : a.address = address := assetAt_address hat
    have hmem : a ∈ state.1 := List.mem_of_find?_eq_some hat
    subst haddress
    refine follows_put hself (fun hall => hgood a (hall a hmem)) fun hall b hb => ?_
    have hb : assetAt state.1 a.address = some b := hb
    obtain rfl : a = b := Option.some.inj (hat.symm.trans hb)
    exact hR a (hall a hmem)

/-- One result, for any two properties the merge of a host keeps. -/
theorem discoverResult_follows {report : HostDiscoveryReport} {G : AssetRecord → Prop}
    {R : AssetRecord → AssetRecord → Prop} (hself : ∀ a, R a a)
    (hnew : ∀ result, G (discoveredAsset report result))
    (hgood : ∀ result a, G a → G (discoverHost report result a).1)
    (hR : ∀ result a, G a → R a (discoverHost report result a).1)
    (state : List AssetRecord × List AssetChange) (result : HostDiscoveryResult) :
    Follows addressOf G R state.1 (discoverResult report state result).1 := by
  unfold discoverResult
  cases hat : assetAt state.1 result.address with
  | none =>
    cases hresponsive : result.responsive with
    | false =>
      rw [discoverExisting, hresponsive]
      exact follows_self hself _
    | true =>
      rw [discoverExisting, hresponsive]
      refine follows_put hself (fun _ => hnew result) fun _ b hb => ?_
      have hb : assetAt state.1 result.address = some b := hb
      rw [hat] at hb
      cases hb
  | some a =>
    have haddress : a.address = result.address := assetAt_address hat
    have hmem : a ∈ state.1 := List.mem_of_find?_eq_some hat
    refine follows_put hself (fun hall => hgood result a (hall a hmem)) fun hall b hb => ?_
    have hb : assetAt state.1 a.address = some b := hb
    rw [haddress] at hb
    obtain rfl : a = b := Option.some.inj (hat.symm.trans hb)
    exact hR result a (hall a hmem)

/-! ## Reports -/

/-- A report of either kind. -/
inductive Report where
  | discovery (report : HostDiscoveryReport)
  | scan (report : TcpScanReport)

/-- The merge of a report. -/
def Report.apply (inventory : AssetInventory) : Report → Py AssetInventoryUpdate
  | .discovery report => applyDiscoveryReport inventory report
  | .scan report => applyScanReport inventory report

/-- The inventory after a report; one that raises leaves it. -/
def step (inventory : AssetInventory) (report : Report) :
    AssetInventory × Py AssetInventoryUpdate :=
  match report.apply inventory with
  | .ok update => (update.inventory, .ok update)
  | .error e => (inventory, .error e)

/-- Source: `asset_inventory.py` `AssetInventory.empty`. -/
def emptyInventory : AssetInventory := ⟨[], 1, ""⟩

/-- Addresses in the order of their versions and numbers. -/
def SortedByAddress (assets : List AssetRecord) : Prop :=
  assets.Pairwise fun a b => ∃ x y, ipAddress a.address = some x ∧
    ipAddress b.address = some y ∧ addressLe x y = true

/-- What every sequence of reports keeps of an inventory. -/
structure Kept (inventory : AssetInventory) : Prop where
  distinct : (inventory.assets.map addressOf).Nodup
  sorted : SortedByAddress inventory.assets
  parses : ∀ a ∈ inventory.assets, (ipAddress a.address).isSome = true
  ordered : ∀ a ∈ inventory.assets, Ordered a
  version : inventory.schemaVersion = 1

theorem kept_empty : Kept emptyInventory :=
  ⟨List.nodup_nil, List.Pairwise.nil, fun _ h => absurd h List.not_mem_nil,
    fun _ h => absurd h List.not_mem_nil, rfl⟩

theorem addressLe_total (a b : IpAddress) : addressLe a b = true ∨ addressLe b a = true := by
  unfold addressLe
  simp only [Bool.or_eq_true, Bool.and_eq_true, decide_eq_true_eq]
  omega

theorem addressLe_trans {a b c : IpAddress} (h : addressLe a b = true)
    (h' : addressLe b c = true) : addressLe a c = true := by
  unfold addressLe at *
  simp only [Bool.or_eq_true, Bool.and_eq_true, decide_eq_true_eq] at *
  omega

/-- Sorting gives the assets in the order of their addresses, which all parse. -/
theorem sortedAssets_sorted {assets sorted : List AssetRecord}
    (h : sortedAssets assets = .ok sorted) :
    SortedByAddress sorted ∧ ∀ a ∈ sorted, (ipAddress a.address).isSome = true := by
  simp only [sortedAssets, bind_eq_ok, pure_eq_ok, Except.ok.injEq] at h
  obtain ⟨keyed, hkeyed, rfl⟩ := h
  have hparses : ∀ e ∈ keyed, ipAddress e.2.address = some e.1 := by
    have hpairs := mapM_eq_ok.mp hkeyed
    induction hpairs with
    | nil => exact fun e he => absurd he List.not_mem_nil
    | @cons a e' assets keyed ha _ ih =>
      intro e he
      rcases List.mem_cons.mp he with rfl | he
      · simp only [assetAddressSortKey, bind_eq_ok, getOrRaise_eq_ok, pure_eq_ok,
          Except.ok.injEq] at ha
        obtain ⟨x, hx, rfl⟩ := ha
        exact hx
      · exact ih (mapM_eq_ok.mpr ‹_›) e he
  have htotal : Std.Total fun x y : IpAddress × AssetRecord => addressLe x.1 y.1 = true :=
    ⟨fun x y => addressLe_total _ _⟩
  have htrans : IsTrans (IpAddress × AssetRecord) fun x y => addressLe x.1 y.1 = true :=
    ⟨fun _ _ _ hxy hyz => addressLe_trans hxy hyz⟩
  have hsorted := List.pairwise_insertionSort
    (fun x y : IpAddress × AssetRecord => addressLe x.1 y.1 = true) keyed
  refine ⟨?_, fun a ha => ?_⟩
  · rw [SortedByAddress, List.pairwise_map]
    refine hsorted.imp_of_mem fun {x y} hx hy hxy => ?_
    exact ⟨x.1, y.1, hparses x ((List.mem_insertionSort _).mp hx),
      hparses y ((List.mem_insertionSort _).mp hy), hxy⟩
  · obtain ⟨e, he, rfl⟩ := List.mem_map.mp ha
    rw [hparses e ((List.mem_insertionSort _).mp he)]
    rfl

/-- **One report**, for any two properties its loop keeps: what there was is followed by what there
is. -/
theorem apply_follows {inventory : AssetInventory} {report : Report} {update : AssetInventoryUpdate}
    (h : report.apply inventory = .ok update) (hkept : Kept inventory)
    {G : AssetRecord → Prop} {R : AssetRecord → AssetRecord → Prop} (hself : ∀ a, R a a)
    (htrans : ∀ a b c, R a b → R b c → R a c)
    (hscan : ∀ r, report = .scan r → ∀ state address,
      Follows addressOf G R state.1 (scanAddress r state address).1)
    (hdiscovery : ∀ r, report = .discovery r → ∀ state result,
      Follows addressOf G R state.1 (discoverResult r state result).1) :
    (∃ assets, Follows addressOf G R inventory.assets assets ∧
      update.inventory.assets.Perm assets) ∧
      SortedByAddress update.inventory.assets ∧
      (∀ a ∈ update.inventory.assets, (ipAddress a.address).isSome = true) ∧
      update.inventory.schemaVersion = inventory.schemaVersion := by
  have hcollect : collect (·.address) inventory.assets = inventory.assets :=
    collect_eq_self hkept.distinct
  cases report with
  | discovery r =>
    simp only [Report.apply, applyDiscoveryReport, bind_eq_ok, pure_eq_ok, Except.ok.injEq,
      hcollect] at h
    obtain ⟨sorted, hsorted, rfl⟩ := h
    obtain ⟨hpairwise, hparses⟩ := sortedAssets_sorted hsorted
    refine ⟨⟨_, ?_, sortedAssets_perm hsorted⟩, hpairwise, hparses, rfl⟩
    show Follows addressOf G R (inventory.assets, ([] : List AssetChange)).1 _
    exact foldl_follows hself htrans (hdiscovery r rfl) r.results _
  | scan r =>
    simp only [Report.apply, applyScanReport, bind_eq_ok, pure_eq_ok, Except.ok.injEq,
      hcollect] at h
    obtain ⟨sorted, hsorted, rfl⟩ := h
    obtain ⟨hpairwise, hparses⟩ := sortedAssets_sorted hsorted
    refine ⟨⟨_, ?_, sortedAssets_perm hsorted⟩, hpairwise, hparses, rfl⟩
    show Follows addressOf G R (inventory.assets, ([] : List AssetChange)).1 _
    exact foldl_follows hself htrans (hscan r rfl) r.resolvedAddresses _

/-- What there was is followed by what there is. -/
theorem exists_of_follows {G : AssetRecord → Prop} {R : AssetRecord → AssetRecord → Prop}
    {l l' l'' : List AssetRecord} (h : Follows addressOf G R l l') (hperm : l''.Perm l')
    (hdistinct : (l.map addressOf).Nodup) (hgood : ∀ a ∈ l, G a) {a : AssetRecord}
    (ha : a ∈ l) : ∃ a' ∈ l'', R a a' := by
  have hfind : l.find? (fun b => addressOf b = a.address) = some a :=
    (Keyed.find?_eq_some_iff hdistinct).mpr ⟨ha, rfl⟩
  obtain ⟨a', ha', hR⟩ := h.kept hgood _ a hfind
  exact ⟨a', hperm.mem_iff.mpr (List.mem_of_find?_eq_some ha'), hR⟩

theorem ordered_of_nil {a : AssetRecord} (h : a.services = []) : Ordered a := by
  rw [Ordered, h]
  exact List.Pairwise.nil

/-- **One scan report**: assets evolve, and keep the services of filtered ports. -/
theorem scan_follows (report : TcpScanReport) (state : List AssetRecord × List AssetChange)
    (address : String) :
    Follows addressOf Ordered (fun a a' => Evolves a a' ∧ ∀ s ∈ a.services,
      OnlyFiltered report a.address s.port → s ∈ a'.services) state.1
      (scanAddress report state address).1 :=
  scanAddress_follows (fun a => ⟨evolves_self a, fun _ hs _ => hs⟩)
    (fun _ => scanHost_sorted) (fun _ _ => scanHost_sorted)
    (fun a ha => ⟨scanHost_evolves report a.address a, fun _ hs h => scanHost_filtered ha hs h⟩)
    state address

/-- **One discovery result**: assets evolve, and keep their services. -/
theorem discovery_follows (report : HostDiscoveryReport)
    (state : List AssetRecord × List AssetChange) (result : HostDiscoveryResult) :
    Follows addressOf Ordered Evolves state.1 (discoverResult report state result).1 :=
  discoverResult_follows evolves_self (fun _ => ordered_of_nil rfl) (fun _ _ ha => ha)
    (fun result a _ => discoverHost_evolves report result a) state result

/-- **One report keeps the inventory, and every asset evolves.** -/
theorem apply_kept {inventory : AssetInventory} {report : Report} {update : AssetInventoryUpdate}
    (h : report.apply inventory = .ok update) (hkept : Kept inventory) :
    Kept update.inventory ∧
      ∀ a ∈ inventory.assets, ∃ a' ∈ update.inventory.assets, Evolves a a' := by
  obtain ⟨⟨assets, hfollows, hperm⟩, hsorted, hparses, hversion⟩ :=
    apply_follows h hkept (G := Ordered) (R := Evolves) evolves_self
      (fun _ _ _ hab hbc => hab.trans hbc)
      (fun r _ state address => (scan_follows r state address).imp fun _ _ hR => hR.1)
      (fun r _ state result => discovery_follows r state result)
  refine ⟨⟨?_, hsorted, hparses, fun a ha => ?_, ?_⟩, fun a ha => ?_⟩
  · exact (hperm.map addressOf).nodup_iff.mpr (hfollows.distinct hkept.distinct)
  · exact hfollows.good hkept.ordered a (hperm.mem_iff.mp ha)
  · rw [hversion, hkept.version]
  · exact exists_of_follows hfollows hperm hkept.distinct hkept.ordered ha

/-- A scan report keeps the services of the ports it has nothing of but that they are filtered. -/
theorem apply_filtered {inventory : AssetInventory} {report : TcpScanReport}
    {update : AssetInventoryUpdate} (h : applyScanReport inventory report = .ok update)
    (hkept : Kept inventory) {a : AssetRecord} (ha : a ∈ inventory.assets)
    {s : AssetServiceRecord} (hs : s ∈ a.services)
    (hfiltered : OnlyFiltered report a.address s.port) :
    ∃ a' ∈ update.inventory.assets, a'.address = a.address ∧ s ∈ a'.services := by
  have htrans : ∀ a b c : AssetRecord,
      (Evolves a b ∧ ∀ s ∈ a.services, OnlyFiltered report a.address s.port → s ∈ b.services) →
      (Evolves b c ∧ ∀ s ∈ b.services, OnlyFiltered report b.address s.port → s ∈ c.services) →
      Evolves a c ∧ ∀ s ∈ a.services, OnlyFiltered report a.address s.port → s ∈ c.services := by
    rintro a b c ⟨hab, hs⟩ ⟨hbc, hs'⟩
    refine ⟨hab.trans hbc, fun s hmem hfiltered => hs' s (hs s hmem hfiltered) ?_⟩
    rw [hab.address]
    exact hfiltered
  have h : (Report.scan report).apply inventory = .ok update := h
  obtain ⟨⟨assets, hfollows, hperm⟩, -⟩ :=
    apply_follows h hkept (G := Ordered)
      (fun a => ⟨evolves_self a, fun _ hs _ => hs⟩) htrans
      (fun r hr state address => by
        obtain rfl := Report.scan.inj hr
        exact scan_follows report state address)
      (fun r hr => by cases hr)
  obtain ⟨a', ha', hevolves, hservices⟩ :=
    exists_of_follows hfollows hperm hkept.distinct hkept.ordered ha
  exact ⟨a', ha', hevolves.address, hservices s hs hfiltered⟩

/-! ## Runs -/

theorem step_kept {inventory : AssetInventory} (hkept : Kept inventory) (report : Report) :
    Kept (step inventory report).1 ∧
      ∀ a ∈ inventory.assets, ∃ a' ∈ (step inventory report).1.assets, Evolves a a' := by
  unfold step
  cases h : report.apply inventory with
  | error e => exact ⟨hkept, fun a ha => ⟨a, ha, evolves_self a⟩⟩
  | ok update => exact apply_kept h hkept

/-- **Every sequence of reports keeps the inventory.** -/
theorem kept_run {inventory : AssetInventory} (hkept : Kept inventory) (reports : List Report) :
    Kept (final step inventory reports) :=
  invariant (I := Kept) (fun _ report h => (step_kept h report).1) hkept reports

/-- **Every asset evolves over every sequence of reports.** -/
theorem evolves_run {inventory : AssetInventory} (hkept : Kept inventory) (reports : List Report) :
    ∀ a ∈ inventory.assets, ∃ a' ∈ (final step inventory reports).assets, Evolves a a' := by
  induction reports using List.reverseRecOn with
  | nil => exact fun a ha => ⟨a, ha, evolves_self a⟩
  | append_singleton reports report ih =>
    intro a ha
    obtain ⟨b, hb, hab⟩ := ih a ha
    rw [final_concat]
    obtain ⟨c, hc, hbc⟩ := (step_kept (kept_run hkept reports) report).2 b hb
    exact ⟨c, hc, hab.trans hbc⟩

end NightRecon.RedEngine.Inventory
