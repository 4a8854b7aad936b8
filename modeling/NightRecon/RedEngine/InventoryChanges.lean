import NightRecon.RedEngine.Inventory

/-!
# Unreported changes of the inventory

Which differences a scan report stores without reporting them.

* `View`, `view` — the stored services and operating system of an asset;
* `Quiet` — no compared field of a known host differs, so nothing is reported;
* `Stored` — no stored field differs;
* `scanHost_view_iff` — a quiet host keeps its view exactly when it is stored;
* `scan_reported_iff` — the same of a whole report;
* `certificate_unreported` — a new TLS certificate is stored and not reported.
-/

namespace NightRecon.RedEngine.Inventory

open NightRecon.Lib
open NightRecon.Lib.Checks
open NightRecon.Lib.Ipaddress
open NightRecon.Lib.Records

/-! ## What is compared and what is stored -/

/-- The fields of a stored asset that describe its services and its operating system. -/
structure View where
  services : List AssetServiceRecord
  osPlatform : String
  osFamily : String
  osConfidence : String
  osCandidates : List String
  osEvidenceCount : Int
  deriving DecidableEq

def view (asset : AssetRecord) : View :=
  ⟨asset.services, asset.osPlatform, asset.osFamily, asset.osConfidence, asset.osCandidates,
    asset.osEvidenceCount⟩

section Host

variable (report : TcpScanReport) (address : String) (asset : AssetRecord)

/-- The service stored last for a port. -/
def storedService (port : Int) : Option AssetServiceRecord :=
  serviceAt (collect (·.port) asset.services) port

/-- Two records of a service agree in all that is compared. -/
def Compares (a b : AssetServiceRecord) : Prop :=
  a.service = b.service ∧ softwareText a = softwareText b ∧ fingerprintText a = fingerprintText b

/-- **Nothing that is compared differs.** -/
structure Quiet : Prop where
  opened : ∀ port ∈ openPorts report address, ∃ previous, storedService asset port = some previous ∧
    Compares previous (observedService report address port)
  closed : ∀ port ∈ explicitlyClosedPorts report address, port ∉ openPorts report address →
    storedService asset port = none
  hostname : hostnameIsNew report asset.hostnames = false
  os : ∀ observed, observedOs report address = some observed →
    osText asset.osPlatform asset.osFamily asset.osConfidence asset.osCandidates
        asset.osEvidenceCount =
      osText observed.platform observed.family observed.confidence observed.candidates
        observed.evidence.length

/-- **Nothing that is stored differs.** -/
structure Stored : Prop where
  sorted : asset.services.Pairwise fun a b => a.port < b.port
  services : ∀ port ∈ openPorts report address,
    observedService report address port ∈ asset.services
  os : ∀ observed, observedOs report address = some observed →
    asset.osPlatform = observed.platform ∧ asset.osFamily = observed.family ∧
      asset.osConfidence = observed.confidence ∧ asset.osCandidates = observed.candidates ∧
        asset.osEvidenceCount = observed.evidence.length

end Host

section Ports

variable {report : TcpScanReport} {address : String}

theorem textChange_eq_nil {changeType : String} {port : Option Int} {before after : String} :
    textChange address changeType port before after = [] ↔ before = after := by
  unfold textChange
  by_cases h : before = after
  · simp [h]
  · have hfilled : before ≠ "" ∨ after ≠ "" := by
      by_contra hempty
      obtain ⟨hbefore, hafter⟩ := not_or.mp hempty
      exact h ((not_not.mp hbefore).trans (not_not.mp hafter).symm)
    simp [h, hfilled]

theorem serviceChanges_eq_nil {previous observed : AssetServiceRecord} :
    serviceChanges address previous observed = [] ↔ Compares previous observed := by
  unfold serviceChanges Compares
  rw [List.append_eq_nil_iff, List.append_eq_nil_iff, textChange_eq_nil, textChange_eq_nil,
    and_assoc]
  by_cases h : previous.service = observed.service <;> simp [h]

theorem observedService_port (port : Int) : (observedService report address port).port = port := by
  unfold observedService serviceRecord
  split <;> rfl

theorem openPorts_subset {port : Int} (h : port ∈ openPorts report address) :
    port ∈ requestedPorts report address := by
  obtain ⟨r, hr, rfl⟩ := List.mem_map.mp h
  rw [requestedPorts, List.mem_insertionSort, List.mem_dedup]
  exact List.mem_map_of_mem (List.mem_filter.mp hr).1

theorem closedPorts_subset {port : Int} (h : port ∈ explicitlyClosedPorts report address) :
    port ∈ requestedPorts report address := by
  obtain ⟨r, hr, rfl⟩ := List.mem_map.mp h
  rw [requestedPorts, List.mem_insertionSort, List.mem_dedup]
  exact List.mem_map_of_mem (List.mem_filter.mp hr).1

/-- One port reports nothing about it that is compared. -/
def QuietPort (report : TcpScanReport) (address : String) (old : List AssetServiceRecord)
    (port : Int) : Prop :=
  if port ∈ openPorts report address then
    ∃ previous, serviceAt old port = some previous ∧
      Compares previous (observedService report address port)
  else port ∈ explicitlyClosedPorts report address → serviceAt old port = none

/-- **One port.**  It reports nothing exactly when it is quiet; a quiet port that is open is
stored, and any other is left alone. -/
theorem scanPort_changes {old : List AssetServiceRecord}
    {state : List AssetServiceRecord × List AssetChange} {port : Int} :
    (scanPort report address old state port).2 = [] ↔
      state.2 = [] ∧ QuietPort report address old port := by
  unfold scanPort QuietPort
  by_cases hopen : port ∈ openPorts report address
  · rw [if_pos hopen, if_pos hopen, List.append_eq_nil_iff]
    refine and_congr_right fun _ => ?_
    rcases serviceAt old port with _ | previous
    · simp
    · simp [serviceChanges_eq_nil]
  · rw [if_neg hopen, if_neg hopen]
    rcases serviceAt old port with _ | previous
    · simp
    · by_cases hclosed : port ∈ explicitlyClosedPorts report address
      · simp [hclosed]
      · simp [hclosed]

theorem scanPort_services {old : List AssetServiceRecord}
    {state : List AssetServiceRecord × List AssetChange} {port : Int}
    (h : QuietPort report address old port) (port' : Int) :
    serviceAt (scanPort report address old state port).1 port' =
      if port' = port ∧ port ∈ openPorts report address then
        some (observedService report address port)
      else serviceAt state.1 port' := by
  unfold scanPort
  unfold QuietPort at h
  by_cases hopen : port ∈ openPorts report address
  · rw [if_pos hopen]
    refine (find?_put _ _ _).trans ?_
    rw [observedService_port]
    by_cases hp : port = port'
    · rw [if_pos hp, if_pos ⟨hp.symm, hopen⟩]
    · rw [if_neg hp, if_neg fun hboth => hp hboth.1.symm]
      rfl
  · rw [if_neg hopen] at h
    rw [if_neg hopen, if_neg fun hboth => hopen hboth.2]
    rcases hold : serviceAt old port with _ | previous
    · rfl
    · have hopened : port ∉ explicitlyClosedPorts report address := by
        intro hclosed
        rw [hold] at h
        exact Option.some_ne_none previous (h hclosed)
      simp only [if_neg hopened]

theorem scanPort_distinct {old : List AssetServiceRecord}
    {state : List AssetServiceRecord × List AssetChange} (h : (state.1.map (·.port)).Nodup)
    (port : Int) : ((scanPort report address old state port).1.map (·.port)).Nodup := by
  unfold scanPort
  split
  · exact keys_put_nodup h _
  · split
    · exact h
    · split
      · exact keys_discard_nodup h _
      · exact h

/-- **The loop over the ports** reports nothing exactly when every port is quiet. -/
theorem foldl_scanPort_changes {old : List AssetServiceRecord} (ports : List Int)
    (state : List AssetServiceRecord × List AssetChange) :
    (ports.foldl (scanPort report address old) state).2 = [] ↔
      state.2 = [] ∧ ∀ port ∈ ports, QuietPort report address old port := by
  induction ports generalizing state with
  | nil => simp
  | cons port ports ih =>
    rw [List.foldl_cons, ih, scanPort_changes, and_assoc, List.forall_mem_cons]

theorem foldl_scanPort_services {old : List AssetServiceRecord} {ports : List Int}
    (h : ∀ port ∈ ports, QuietPort report address old port)
    (state : List AssetServiceRecord × List AssetChange) (port : Int) :
    serviceAt (ports.foldl (scanPort report address old) state).1 port =
      if port ∈ ports ∧ port ∈ openPorts report address then
        some (observedService report address port)
      else serviceAt state.1 port := by
  induction ports generalizing state with
  | nil => simp
  | cons p ports ih =>
    obtain ⟨hp, hports⟩ := List.forall_mem_cons.mp h
    rw [List.foldl_cons, ih hports, scanPort_services hp]
    by_cases hrest : port ∈ ports ∧ port ∈ openPorts report address
    · rw [if_pos hrest, if_pos ⟨List.mem_cons_of_mem p hrest.1, hrest.2⟩]
    · rw [if_neg hrest]
      by_cases hthis : port = p ∧ p ∈ openPorts report address
      · obtain ⟨rfl, hopen⟩ := hthis
        rw [if_pos ⟨rfl, hopen⟩, if_pos ⟨List.mem_cons_self, hopen⟩]
      · rw [if_neg hthis, if_neg]
        rintro ⟨hmem, hopen⟩
        rcases List.mem_cons.mp hmem with rfl | hmem
        · exact hthis ⟨rfl, hopen⟩
        · exact hrest ⟨hmem, hopen⟩

theorem foldl_scanPort_distinct {old : List AssetServiceRecord} (ports : List Int)
    {state : List AssetServiceRecord × List AssetChange} (h : (state.1.map (·.port)).Nodup) :
    ((ports.foldl (scanPort report address old) state).1.map (·.port)).Nodup := by
  induction ports generalizing state with
  | nil => exact h
  | cons port ports ih =>
    rw [List.foldl_cons]
    exact ih (scanPort_distinct h port)

/-! ## One host -/

variable {asset : AssetRecord}

theorem quietPorts_iff :
    (∀ port ∈ requestedPorts report address,
        QuietPort report address (collect (·.port) asset.services) port) ↔
      (∀ port ∈ openPorts report address, ∃ previous, storedService asset port = some previous ∧
        Compares previous (observedService report address port)) ∧
      ∀ port ∈ explicitlyClosedPorts report address, port ∉ openPorts report address →
        storedService asset port = none := by
  constructor
  · intro h
    refine ⟨fun port hopen => ?_, fun port hclosed hopen => ?_⟩
    · have hquiet := h port (openPorts_subset hopen)
      rwa [QuietPort, if_pos hopen] at hquiet
    · have hquiet := h port (closedPorts_subset hclosed)
      rw [QuietPort, if_neg hopen] at hquiet
      exact hquiet hclosed
  · rintro ⟨hopened, hclosed⟩ port -
    unfold QuietPort
    split
    · next hopen => exact hopened port hopen
    · next hopen => exact fun h => hclosed port h hopen

/-- **A host reports nothing exactly when it is quiet.** -/
theorem scanHost_changes : (scanHost report address asset).2 = [] ↔ Quiet report address asset := by
  have hports : (scanPorts report address asset).2 = [] ↔
      (∀ port ∈ openPorts report address, ∃ previous, storedService asset port = some previous ∧
        Compares previous (observedService report address port)) ∧
      ∀ port ∈ explicitlyClosedPorts report address, port ∉ openPorts report address →
        storedService asset port = none := by
    rw [← quietPorts_iff]
    exact (foldl_scanPort_changes _ _).trans (and_iff_right rfl)
  have hos : osChanges report address asset = [] ↔
      ∀ observed, observedOs report address = some observed →
        osText asset.osPlatform asset.osFamily asset.osConfidence asset.osCandidates
            asset.osEvidenceCount =
          osText observed.platform observed.family observed.confidence observed.candidates
            observed.evidence.length := by
    unfold osChanges
    rcases observedOs report address with _ | observed
    · simp
    · simp [textChange_eq_nil]
  have hname : (if hostnameIsNew report asset.hostnames = true then
      [(⟨address, "hostname-added", none, "", report.target⟩ : AssetChange)] else []) = [] ↔
        hostnameIsNew report asset.hostnames = false := by
    by_cases h : hostnameIsNew report asset.hostnames = true <;> simp [h]
  show (_ ++ _ ++ _) = [] ↔ _
  rw [List.append_eq_nil_iff, List.append_eq_nil_iff, hports, hname, hos]
  constructor
  · rintro ⟨⟨⟨hopened, hclosed⟩, hhost⟩, hsystem⟩
    exact ⟨hopened, hclosed, hhost, hsystem⟩
  · rintro ⟨hopened, hclosed, hhost, hsystem⟩
    exact ⟨⟨⟨hopened, hclosed⟩, hhost⟩, hsystem⟩

/-- The services of a scanned host are in strict port order. -/
theorem scanHost_sorted :
    (scanHost report address asset).1.services.Pairwise fun a b => a.port < b.port :=
  insertionSort_strict (foldl_scanPort_distinct _ (collect_nodup _))

/-- The services of a quiet host afterwards. -/
theorem mem_scanHost_services (h : Quiet report address asset) (service : AssetServiceRecord) :
    service ∈ (scanHost report address asset).1.services ↔
      (if service.port ∈ openPorts report address then
        some (observedService report address service.port)
      else storedService asset service.port) = some service := by
  have hquiet := quietPorts_iff.mpr ⟨h.opened, h.closed⟩
  have hdistinct : ((scanPorts report address asset).1.map (·.port)).Nodup :=
    foldl_scanPort_distinct _ (collect_nodup _)
  have hfind := foldl_scanPort_services hquiet (collect (·.port) asset.services, []) service.port
  have hrequested : service.port ∈ requestedPorts report address ∧
      service.port ∈ openPorts report address ↔ service.port ∈ openPorts report address :=
    and_iff_right_of_imp openPorts_subset
  have hmem : service ∈ (scanPorts report address asset).1 ↔
      serviceAt (scanPorts report address asset).1 service.port = some service := by
    rw [serviceAt, Keyed.find?_eq_some_iff hdistinct, and_iff_left rfl]
  rw [← storedService] at hfind
  simp only [hrequested] at hfind
  rw [← hfind]
  exact (List.mem_insertionSort _).trans hmem

/-- A host whose services are in strict port order stores each service under its port. -/
theorem storedService_eq (h : asset.services.Pairwise fun a b => a.port < b.port)
    (service : AssetServiceRecord) :
    storedService asset service.port = some service ↔ service ∈ asset.services := by
  have hdistinct := keys_nodup_of_strict h
  rw [storedService, collect_eq_self hdistinct, serviceAt, Keyed.find?_eq_some_iff hdistinct,
    and_iff_left rfl]

theorem scanHost_services_iff (h : Quiet report address asset) :
    (scanHost report address asset).1.services = asset.services ↔
      (asset.services.Pairwise fun a b => a.port < b.port) ∧
        ∀ port ∈ openPorts report address,
          observedService report address port ∈ asset.services := by
  constructor
  · intro heq
    refine ⟨heq ▸ scanHost_sorted, fun port hopen => ?_⟩
    rw [← heq, mem_scanHost_services h, observedService_port, if_pos hopen]
  · rintro ⟨hsorted, hobserved⟩
    refine eq_of_strict scanHost_sorted hsorted fun service => ?_
    rw [mem_scanHost_services h]
    by_cases hopen : service.port ∈ openPorts report address
    · rw [if_pos hopen, Option.some.injEq]
      have hport : (observedService report address service.port).port = service.port :=
        observedService_port service.port
      have hstored := (storedService_eq hsorted _).mpr (hobserved _ hopen)
      rw [hport] at hstored
      rw [← storedService_eq hsorted, hstored, Option.some.injEq]
    · rw [if_neg hopen, storedService_eq hsorted]

/-- **A quiet host keeps its view exactly when it is stored.** -/
theorem scanHost_view_iff (h : Quiet report address asset) :
    view (scanHost report address asset).1 = view asset ↔ Stored report address asset := by
  have hos : ((scanHost report address asset).1.osPlatform = asset.osPlatform ∧
      (scanHost report address asset).1.osFamily = asset.osFamily ∧
      (scanHost report address asset).1.osConfidence = asset.osConfidence ∧
      (scanHost report address asset).1.osCandidates = asset.osCandidates ∧
      (scanHost report address asset).1.osEvidenceCount = asset.osEvidenceCount) ↔
      ∀ observed, observedOs report address = some observed →
        asset.osPlatform = observed.platform ∧ asset.osFamily = observed.family ∧
          asset.osConfidence = observed.confidence ∧ asset.osCandidates = observed.candidates ∧
            asset.osEvidenceCount = observed.evidence.length := by
    unfold scanHost
    rcases observedOs report address with _ | observed
    · simp
    · simp [eq_comm]
  rw [view, view, View.mk.injEq, hos, scanHost_services_iff h]
  constructor
  · rintro ⟨⟨hsorted, hobserved⟩, hsystem⟩
    exact ⟨hsorted, hobserved, hsystem⟩
  · rintro ⟨hsorted, hobserved, hsystem⟩
    exact ⟨⟨hsorted, hobserved⟩, hsystem⟩

/-- **A quiet host is quiet and stored from then on.** -/
theorem scanHost_settles (h : Quiet report address asset) :
    Quiet report address (scanHost report address asset).1 ∧
      Stored report address (scanHost report address asset).1 := by
  have hobserved : ∀ port ∈ openPorts report address,
      observedService report address port ∈ (scanHost report address asset).1.services := by
    intro port hopen
    rw [mem_scanHost_services h, observedService_port, if_pos hopen]
  have hos : ∀ observed, observedOs report address = some observed →
      (scanHost report address asset).1.osPlatform = observed.platform ∧
        (scanHost report address asset).1.osFamily = observed.family ∧
          (scanHost report address asset).1.osConfidence = observed.confidence ∧
            (scanHost report address asset).1.osCandidates = observed.candidates ∧
              (scanHost report address asset).1.osEvidenceCount = observed.evidence.length := by
    intro observed hsome
    unfold scanHost
    rw [hsome]
    exact ⟨rfl, rfl, rfl, rfl, rfl⟩
  refine ⟨⟨fun port hopen => ?_, fun port hclosed hopen => ?_, ?_, fun observed hsome => ?_⟩,
    scanHost_sorted, hobserved, hos⟩
  · have hstored := (storedService_eq scanHost_sorted _).mpr (hobserved port hopen)
    rw [observedService_port] at hstored
    exact ⟨_, hstored, rfl, rfl, rfl⟩
  · rcases hstored : storedService (scanHost report address asset).1 port with _ | service
    · rfl
    · have hport : service.port = port := of_decide_eq_true
        (List.find?_some (p := fun s : AssetServiceRecord => s.port = port) hstored)
      subst hport
      have hmem := (storedService_eq scanHost_sorted _).mp hstored
      rw [mem_scanHost_services h, if_neg hopen, h.closed _ hclosed hopen] at hmem
      exact absurd hmem.symm (Option.some_ne_none service)
  · show hostnameIsNew report (if hostnameIsNew report asset.hostnames = true then _ else _) = false
    rw [if_neg (Bool.not_eq_true _ |>.mpr h.hostname)]
    exact h.hostname
  · obtain ⟨h₁, h₂, h₃, h₄, h₅⟩ := hos observed hsome
    rw [h₁, h₂, h₃, h₄, h₅]

end Ports

/-! ## One address -/

section Addresses

variable (report : TcpScanReport)

/-- No change is reported for an address. -/
def Unreported (changes : List AssetChange) (address : String) : Prop :=
  ∀ c ∈ changes, c.address ≠ address

/-- The report says nothing about the address in this state. -/
def Silent (address : String) (existing : Option AssetRecord) : Prop :=
  ∀ r, scanExisting report address existing = some r → r.2 = []

/-- The record of the address after the report was merged once. -/
def after (address : String) (existing : Option AssetRecord) : Option AssetRecord :=
  (scanExisting report address existing).elim existing fun r => some r.1

variable {report} {address : String}

theorem silent_some {asset : AssetRecord} :
    Silent report address (some asset) ↔ Quiet report address asset := by
  rw [← scanHost_changes]
  constructor
  · exact fun h => h _ rfl
  · rintro h r hr
    rwa [← Option.some.inj hr]

theorem silent_none : Silent report address none ↔ openPorts report address = [] := by
  unfold Silent scanExisting
  by_cases h : openPorts report address = []
  · simp [h]
  · simp [h]

theorem after_none (h : Silent report address none) : after report address none = none := by
  rw [after, scanExisting, if_pos (silent_none.mp h)]
  rfl

/-- **A silent address is silent from then on, and keeps its view.** -/
theorem silent_after {existing : Option AssetRecord} (h : Silent report address existing) :
    Silent report address (after report address existing) ∧
      (after report address (after report address existing)).map view =
        (after report address existing).map view := by
  cases existing with
  | none => rw [after_none h, after_none h]; exact ⟨h, rfl⟩
  | some asset =>
    obtain ⟨hquiet, hstored⟩ := scanHost_settles (silent_some.mp h)
    exact ⟨silent_some.mpr hquiet, congrArg some ((scanHost_view_iff hquiet).mpr hstored)⟩

theorem textChange_address {changeType : String} {port : Option Int} {before after : String}
    {c : AssetChange} (h : c ∈ textChange address changeType port before after) :
    c.address = address := by
  unfold textChange at h
  split at h
  · rw [List.mem_singleton.mp h]
  · exact absurd h List.not_mem_nil

theorem serviceChanges_address {previous observed : AssetServiceRecord} {c : AssetChange}
    (h : c ∈ serviceChanges address previous observed) : c.address = address := by
  unfold serviceChanges at h
  rcases List.mem_append.mp h with h | h
  · rcases List.mem_append.mp h with h | h
    · split at h
      · rw [List.mem_singleton.mp h]
      · exact absurd h List.not_mem_nil
    · exact textChange_address h
  · exact textChange_address h

theorem scanPort_address {old : List AssetServiceRecord}
    {state : List AssetServiceRecord × List AssetChange} {port : Int}
    (h : ∀ c ∈ state.2, c.address = address) :
    ∀ c ∈ (scanPort report address old state port).2, c.address = address := by
  have hone : ∀ {c₀ : AssetChange}, c₀.address = address →
      ∀ c ∈ state.2 ++ [c₀], c.address = address := by
    intro c₀ hc₀ c hc
    rcases List.mem_append.mp hc with hc | hc
    · exact h c hc
    · exact List.mem_singleton.mp hc ▸ hc₀
  unfold scanPort
  split
  · rcases serviceAt old port with _ | previous
    · exact hone rfl
    · intro c hc
      rcases List.mem_append.mp hc with hc | hc
      · exact h c hc
      · exact serviceChanges_address hc
  · split
    · exact h
    · split
      · exact hone rfl
      · exact h

/-- Every change of a host names its address. -/
theorem scanHost_address {asset : AssetRecord} :
    ∀ c ∈ (scanHost report address asset).2, c.address = address := by
  have hports : ∀ (ports : List Int) (state : List AssetServiceRecord × List AssetChange),
      (∀ c ∈ state.2, c.address = address) →
        ∀ c ∈ (ports.foldl (scanPort report address (collect (·.port) asset.services)) state).2,
          c.address = address := by
    intro ports
    induction ports with
    | nil => exact fun _ h => h
    | cons port ports ih => exact fun state h => ih _ (scanPort_address h)
  intro c hc
  rcases List.mem_append.mp hc with hc | hc
  · rcases List.mem_append.mp hc with hc | hc
    · exact hports _ (_, []) (fun _ hnone => absurd hnone List.not_mem_nil) c hc
    · split at hc
      · rw [List.mem_singleton.mp hc]
      · exact absurd hc List.not_mem_nil
  · unfold osChanges at hc
    rcases hos : observedOs report address with _ | observed
    · rw [hos] at hc
      exact absurd hc List.not_mem_nil
    · rw [hos] at hc
      exact textChange_address hc

/-- What is stored for an address is a record of it, and every change names it. -/
theorem scanExisting_address {existing : Option AssetRecord}
    (hexisting : ∀ asset, existing = some asset → asset.address = address)
    {r : AssetRecord × List AssetChange} (h : scanExisting report address existing = some r) :
    r.1.address = address ∧ ∀ c ∈ r.2, c.address = address := by
  unfold scanExisting at h
  cases existing with
  | some asset =>
    rw [← Option.some.inj h]
    exact ⟨hexisting asset rfl, scanHost_address⟩
  | none =>
    dsimp only at h
    split at h
    · cases h
    · rw [← Option.some.inj h]
      refine ⟨rfl, fun c hc => ?_⟩
      rcases List.mem_cons.mp hc with rfl | hc
      · rfl
      · exact scanHost_address c hc

/-! ## All addresses -/

theorem assetAt_address {assets : List AssetRecord} {asset : AssetRecord}
    (h : assetAt assets address = some asset) : asset.address = address :=
  of_decide_eq_true (List.find?_some (p := fun a : AssetRecord => a.address = address) h)

/-- **One resolved address**: its own record is the one after the report, the others stay. -/
theorem scanAddress_assetAt (state : List AssetRecord × List AssetChange) (address' : String) :
    assetAt (scanAddress report state address').1 address =
      if address = address' then after report address (assetAt state.1 address)
      else assetAt state.1 address := by
  unfold scanAddress
  rcases hscan : scanExisting report address' (assetAt state.1 address') with _ | ⟨record, changes⟩
  · by_cases h : address = address'
    · subst h
      rw [if_pos rfl, after, hscan]
      rfl
    · rw [if_neg h]
  · have haddress := (scanExisting_address (fun _ hsome => assetAt_address hsome) hscan).1
    refine (find?_put _ _ _).trans ?_
    rw [haddress]
    by_cases h : address = address'
    · subst h
      rw [if_pos rfl, if_pos rfl, after, hscan]
      rfl
    · rw [if_neg (Ne.symm h), if_neg h]
      rfl

theorem scanAddress_unreported (state : List AssetRecord × List AssetChange) (address' : String) :
    Unreported (scanAddress report state address').2 address ↔
      Unreported state.2 address ∧
        (address = address' → Silent report address (assetAt state.1 address)) := by
  unfold scanAddress
  rcases hscan : scanExisting report address' (assetAt state.1 address') with _ | ⟨record, changes⟩
  · refine (and_iff_left ?_).symm
    rintro rfl r hr
    rw [hscan] at hr
    cases hr
  · have hchanges := (scanExisting_address (fun _ hsome => assetAt_address hsome) hscan).2
    have hsplit : Unreported (state.2 ++ changes) address ↔
        Unreported state.2 address ∧ Unreported changes address := List.forall_mem_append
    refine hsplit.trans (and_congr_right fun _ => ?_)
    constructor
    · rintro hnone rfl r hr
      rw [← Option.some.inj (hscan.symm.trans hr)]
      exact List.eq_nil_iff_forall_not_mem.mpr fun c hc => hnone c hc (hchanges c hc)
    · rintro hsilent c hc heq
      obtain rfl : address = address' := heq.symm.trans (hchanges c hc)
      have hnil : changes = [] := hsilent rfl _ hscan
      rw [hnil] at hc
      exact List.not_mem_nil hc

/-- **The loop over the addresses.**  Nothing is reported for an address exactly when it is silent,
and then its view is the one after one merge. -/
theorem foldl_scanAddress (addresses : List String) (state : List AssetRecord × List AssetChange) :
    (Unreported (addresses.foldl (scanAddress report) state).2 address ↔
      Unreported state.2 address ∧
        (address ∈ addresses → Silent report address (assetAt state.1 address))) ∧
    (Unreported (addresses.foldl (scanAddress report) state).2 address →
      (assetAt (addresses.foldl (scanAddress report) state).1 address).map view =
        if address ∈ addresses then
          (after report address (assetAt state.1 address)).map view
        else (assetAt state.1 address).map view) := by
  induction addresses generalizing state with
  | nil => simp
  | cons address' addresses ih =>
    obtain ⟨hreported, hview⟩ := ih (scanAddress report state address')
    rw [scanAddress_unreported, scanAddress_assetAt] at hreported
    rw [scanAddress_assetAt] at hview
    rw [List.foldl_cons]
    by_cases h : address = address'
    · subst h
      simp only [if_true, true_implies] at hreported hview
      have hmem : address ∈ address :: addresses := List.mem_cons_self
      refine ⟨?_, fun hunreported => ?_⟩
      · rw [hreported]
        constructor
        · exact fun hall => ⟨hall.1.1, fun _ => hall.1.2⟩
        · exact fun hall => ⟨⟨hall.1, hall.2 hmem⟩, fun _ => (silent_after (hall.2 hmem)).1⟩
      · rw [if_pos hmem, hview hunreported, (silent_after (hreported.mp hunreported).1.2).2,
          ite_self]
    · simp only [if_neg h] at hreported hview
      have hmem : address ∈ address' :: addresses ↔ address ∈ addresses :=
        List.mem_cons.trans (or_iff_right h)
      refine ⟨?_, fun hunreported => ?_⟩
      · rw [hreported, hmem, and_iff_left fun heq => absurd heq h]
      · simp only [hmem]
        exact hview hunreported

theorem foldl_scanAddress_distinct (addresses : List String)
    {state : List AssetRecord × List AssetChange} (h : (state.1.map (·.address)).Nodup) :
    ((addresses.foldl (scanAddress report) state).1.map (·.address)).Nodup := by
  induction addresses generalizing state with
  | nil => exact h
  | cons address' addresses ih =>
    rw [List.foldl_cons]
    apply ih
    unfold scanAddress
    split
    · exact h
    · exact keys_put_nodup h _

theorem sortedAssets_perm {assets sorted : List AssetRecord}
    (h : sortedAssets assets = .ok sorted) : sorted.Perm assets := by
  simp only [sortedAssets, bind_eq_ok, pure_eq_ok, Except.ok.injEq] at h
  obtain ⟨keyed, hkeyed, rfl⟩ := h
  have hsame : keyed.map Prod.snd = assets := by
    have hkey : ∀ (asset : AssetRecord) (entry : IpAddress × AssetRecord),
        assetAddressSortKey asset = .ok entry → entry.2 = id asset := by
      intro asset entry hentry
      simp only [assetAddressSortKey, bind_eq_ok, pure_eq_ok, Except.ok.injEq] at hentry
      obtain ⟨_, -, rfl⟩ := hentry
      rfl
    rw [map_eq_of_forall₂ (mapM_eq_ok.mp hkeyed) hkey, List.map_id]
  exact hsame ▸ (List.perm_insertionSort _ keyed).map Prod.snd

/-- The record of an address in an inventory: the last one counts. -/
def recordOf (inventory : AssetInventory) (address : String) : Option AssetRecord :=
  assetAt inventory.assets.reverse address

/-- **What is not reported.**  A report that says nothing of an address leaves its stored services
and operating system as they were, exactly when a known host of that address in which nothing
compared differs is one in which nothing stored differs. -/
theorem scan_reported_iff {inventory : AssetInventory} {update : AssetInventoryUpdate}
    (h : applyScanReport inventory report = .ok update) (address : String) :
    (Unreported update.changes address →
      (recordOf update.inventory address).map view = (recordOf inventory address).map view) ↔
    (address ∈ report.resolvedAddresses → ∀ asset, recordOf inventory address = some asset →
      Quiet report address asset → Stored report address asset) := by
  simp only [applyScanReport, bind_eq_ok, pure_eq_ok, Except.ok.injEq] at h
  obtain ⟨sorted, hsorted, rfl⟩ := h
  have hstart :
      assetAt (collect (·.address) inventory.assets) address = recordOf inventory address :=
    find?_collect inventory.assets address
  have hdistinct : ((report.resolvedAddresses.foldl (scanAddress report)
      (collect (·.address) inventory.assets, [])).1.map (·.address)).Nodup :=
    foldl_scanAddress_distinct report.resolvedAddresses (collect_nodup _)
  have hperm := sortedAssets_perm hsorted
  have hend : recordOf ⟨sorted, inventory.schemaVersion, report.createdAt⟩ address =
      assetAt (report.resolvedAddresses.foldl (scanAddress report)
        (collect (·.address) inventory.assets, [])).1 address :=
    (Keyed.find?_perm ((hperm.symm.trans sorted.reverse_perm.symm)) hdistinct address).symm
  obtain ⟨hreported, hview⟩ := @foldl_scanAddress report address
    report.resolvedAddresses (collect (·.address) inventory.assets, [])
  rw [hstart] at hreported hview
  rw [hend]
  dsimp only at hreported hview ⊢
  by_cases hmem : address ∈ report.resolvedAddresses
  · rw [if_pos hmem] at hview
    rw [hreported.trans (and_iff_right fun c hc => absurd hc List.not_mem_nil)] at hview ⊢
    simp only [hmem, true_implies] at hview ⊢
    rcases hexisting : recordOf inventory address with _ | asset
    · rw [hexisting] at hview
      constructor
      · rintro - asset hasset
        cases hasset
      · intro _ hsilent
        rw [hview hsilent, after_none hsilent]
    · rw [hexisting] at hview
      have hafter : (after report address (some asset)).map view =
        some (view (scanHost report address asset).1) := rfl
      rw [hafter] at hview
      constructor
      · intro hkeeps asset' hasset' hquiet
        rw [← Option.some.inj hasset'] at hquiet ⊢
        have hsilent := silent_some.mpr hquiet
        have hsame := (hview hsilent).symm.trans (hkeeps hsilent)
        exact (scanHost_view_iff hquiet).mp (Option.some.inj hsame)
      · intro hstored hsilent
        have hquiet := silent_some.mp hsilent
        rw [hview hsilent, (scanHost_view_iff hquiet).mpr (hstored asset rfl hquiet)]
        rfl
  · rw [if_neg hmem] at hview
    constructor
    · exact fun _ hmem' => absurd hmem' hmem
    · exact fun _ hunreported => hview hunreported

end Addresses

/-! ## A new certificate -/

/-- A web server with the digest of its certificate. -/
def webServer (certificate : String) : AssetServiceRecord :=
  ⟨443, "https", "nginx", "1.24", "", "", "", "", certificate⟩

def oldCertificate : String := "9b2f6d0c51e84a37c6d0f1b3a8e5274496c1d7e0f3b25a8869d4c7e1f0a3b5d2"

def newCertificate : String := "1f7c3e9a5b8d02461f7c3e9a5b8d02461f7c3e9a5b8d02461f7c3e9a5b8d0246"

/-- An inventory of one web server. -/
def webInventory (certificate : String) : AssetInventory :=
  ⟨[⟨"192.0.2.10", "t0", "t0", "t0", [], "", "", "", [], 0, none, [], [webServer certificate],
    ["s0"]⟩], 1, "t0"⟩

/-- A scan of the web server. -/
def webReport (certificate : String) : TcpScanReport :=
  ⟨"s1", "t1", "192.0.2.10", "ip", ["192.0.2.10"], [⟨"192.0.2.10", 443, true, "open"⟩],
    [⟨"192.0.2.10", 443, "https", some ⟨"nginx", "1.24"⟩, none, certificate⟩], []⟩

theorem certificate_unreported : ¬ ∀ (inventory : AssetInventory) (report : TcpScanReport)
    (update : AssetInventoryUpdate), applyScanReport inventory report = .ok update →
      ∀ address, Unreported update.changes address →
        (recordOf update.inventory address).map view = (recordOf inventory address).map view := by
  intro hall
  have hruns : ((applyScanReport (webInventory oldCertificate)
      (webReport newCertificate)).toOption.map fun u =>
        (u.changes.isEmpty, (recordOf u.inventory "192.0.2.10").map view)) =
      some (true, some ⟨[webServer newCertificate], "", "", "", [], 0⟩) := by decide +kernel
  obtain ⟨update, hupdate, hresult⟩ := Option.map_eq_some_iff.mp hruns
  obtain ⟨hsilent, hview⟩ := Prod.mk.inj hresult
  have hnone : Unreported update.changes "192.0.2.10" := by
    rw [List.isEmpty_iff.mp hsilent]
    exact fun c hc => absurd hc List.not_mem_nil
  have hsame := hall _ _ update (eq_ok_of_toOption hupdate) "192.0.2.10" hnone
  rw [hview] at hsame
  exact absurd hsame (by decide +kernel)

theorem webServer_reported :
    ∃ update,
      applyScanReport (webInventory oldCertificate) (webReport newCertificate) = .ok update ∧
      ((Unreported update.changes "192.0.2.10" →
        (recordOf update.inventory "192.0.2.10").map view =
          (recordOf (webInventory oldCertificate) "192.0.2.10").map view) ↔
      ("192.0.2.10" ∈ (webReport newCertificate).resolvedAddresses → ∀ asset,
        recordOf (webInventory oldCertificate) "192.0.2.10" = some asset →
          Quiet (webReport newCertificate) "192.0.2.10" asset →
            Stored (webReport newCertificate) "192.0.2.10" asset)) := by
  have hruns : (applyScanReport (webInventory oldCertificate)
      (webReport newCertificate)).toOption.isSome = true := by decide +kernel
  obtain ⟨update, hupdate⟩ := Option.isSome_iff_exists.mp hruns
  exact ⟨update, eq_ok_of_toOption hupdate,
    scan_reported_iff (eq_ok_of_toOption hupdate) "192.0.2.10"⟩

end NightRecon.RedEngine.Inventory
