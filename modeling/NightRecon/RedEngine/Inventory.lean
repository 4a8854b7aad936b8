import NightRecon.Exceptions
import NightRecon.Lib.Ipaddress
import NightRecon.Lib.Records

/-!
# Asset inventory

`nightrecon_red_engine/asset_inventory.py`: a scan report merged into the persistent inventory, and
the changes that are reported for it.

* `AssetServiceRecord`, `AssetRecord`, `AssetInventory` — what is stored; `AssetChange` — what is
  reported;
* `serviceRecord`, `softwareText`, `fingerprintText`, `osText` — the record of an observed service,
  and the texts by which records are compared;
* `scanPort`, `scanHost`, `scanAddress` — the loops; `applyScanReport`.
-/

namespace NightRecon.RedEngine.Inventory

open NightRecon.Lib
open NightRecon.Lib.Checks
open NightRecon.Lib.Ipaddress
open NightRecon.Lib.Records

/-! ## Records -/

/-- Source: `asset_inventory.py` `AssetServiceRecord`. -/
structure AssetServiceRecord where
  port : Int
  service : String
  product : String
  version : String
  protocolVersion : String
  platform : String
  fingerprintSource : String
  fingerprintConfidence : String
  tlsCertificateSha256 : String
  deriving DecidableEq

/-- Source: `asset_inventory.py` `AssetRecord`. -/
structure AssetRecord where
  address : String
  firstSeen : String
  lastSeen : String
  lastCheckedAt : String
  hostnames : List String
  osPlatform : String
  osFamily : String
  osConfidence : String
  osCandidates : List String
  osEvidenceCount : Int
  lastDiscoveryResponsive : Option Bool
  discoveryMethods : List String
  services : List AssetServiceRecord
  sourceSessionIds : List String

/-- Source: `asset_inventory.py` `AssetChange`. -/
structure AssetChange where
  address : String
  changeType : String
  port : Option Int
  before : String
  after : String

/-- Source: `asset_inventory.py` `AssetInventory`. -/
structure AssetInventory where
  assets : List AssetRecord
  schemaVersion : Int
  updatedAt : String

/-- Source: `asset_inventory.py` `AssetInventoryUpdate`. -/
structure AssetInventoryUpdate where
  inventory : AssetInventory
  changes : List AssetChange

/-! ## Reports -/

/-- Source: `tcp_scanner.py` `TcpPortResult`. -/
structure TcpPortResult where
  address : String
  port : Int
  isOpen : Bool
  state : String

/-- Source: `software_identity.py` `SoftwareIdentity`. -/
structure SoftwareIdentity where
  product : String
  version : String

/-- Source: `service_fingerprint.py` `ServiceFingerprint`. -/
structure ServiceFingerprint where
  protocolVersion : String
  product : String
  version : String
  platform : String
  source : String
  confidence : String

/-- Source: `service_detection.py` `ServiceDetectionResult`. -/
structure ServiceDetectionResult where
  address : String
  port : Int
  service : String
  softwareIdentity : Option SoftwareIdentity
  serviceFingerprint : Option ServiceFingerprint
  tlsCertificateSha256 : String

/-- Source: `os_fingerprint.py` `OperatingSystemEvidence`. -/
structure OperatingSystemEvidence where
  address : String
  port : Int
  service : String
  platform : String
  family : String
  source : String
  evidence : String

/-- Source: `os_fingerprint.py` `OperatingSystemFingerprint`. -/
structure OperatingSystemFingerprint where
  platform : String
  family : String
  confidence : String
  evidence : List OperatingSystemEvidence
  candidates : List String

/-- Source: `report.py` `TcpScanReport`, without the assessments. -/
structure TcpScanReport where
  sessionId : String
  createdAt : String
  target : String
  targetType : String
  resolvedAddresses : List String
  results : List TcpPortResult
  services : List ServiceDetectionResult
  operatingSystemFingerprints : List (String × OperatingSystemFingerprint)

/-! ## Records of services and texts -/

/-- The software of a detected service: its identity, and its fingerprint where that is empty. -/
def detectedProduct (detected : ServiceDetectionResult) : String :=
  let product := detected.softwareIdentity.elim "" (·.product)
  if product = "" then detected.serviceFingerprint.elim "" (·.product) else product

def detectedVersion (detected : ServiceDetectionResult) : String :=
  let version := detected.softwareIdentity.elim "" (·.version)
  if version = "" then detected.serviceFingerprint.elim "" (·.version) else version

/-- Source: `asset_inventory.py` `_service_record`. -/
def serviceRecord (port : Int) : Option ServiceDetectionResult → AssetServiceRecord
  | none => ⟨port, "unknown", "", "", "", "", "", "", ""⟩
  | some detected =>
      { port
        service := detected.service
        product := detectedProduct detected
        version := detectedVersion detected
        protocolVersion := detected.serviceFingerprint.elim "" (·.protocolVersion)
        platform := detected.serviceFingerprint.elim "" (·.platform)
        fingerprintSource := detected.serviceFingerprint.elim "" (·.source)
        fingerprintConfidence := detected.serviceFingerprint.elim "" (·.confidence)
        tlsCertificateSha256 := detected.tlsCertificateSha256 }

/-- Source: `asset_inventory.py` `_software_text`. -/
def softwareText (service : AssetServiceRecord) : String :=
  if service.product ≠ "" ∧ service.version ≠ "" then service.product ++ " " ++ service.version
  else if service.product ≠ "" then service.product else service.version

/-- Source: `asset_inventory.py` `_fingerprint_text`. -/
def fingerprintText (service : AssetServiceRecord) : String :=
  " | ".intercalate ([service.protocolVersion, service.platform, service.fingerprintSource,
    service.fingerprintConfidence].filter (· ≠ ""))

/-- Source: `asset_inventory.py` `_os_text`. -/
def osText (platform family confidence : String) (candidates : List String)
    (evidenceCount : Int) : String :=
  " | ".intercalate (
    (if platform = "" then [] else ["platform=" ++ platform]) ++
    (if family = "" then [] else ["family=" ++ family]) ++
    (if confidence = "" then [] else ["confidence=" ++ confidence]) ++
    (if candidates = [] then [] else ["candidates=" ++ ",".intercalate candidates]) ++
    (if evidenceCount = 0 then [] else ["evidence=" ++ toString evidenceCount]))

/-- Source: `asset_inventory.py` `_append_unique`. -/
def appendUnique (values : List String) (value : String) : List String :=
  if value = "" ∨ value ∈ values then values else values ++ [value]

/-! ## One report -/

section Report

variable (report : TcpScanReport) (address : String)

def portResults : List TcpPortResult := report.results.filter (·.address = address)

def openPorts : List Int := ((portResults report address).filter (·.isOpen)).map (·.port)

def explicitlyClosedPorts : List Int :=
  ((portResults report address).filter fun r => !r.isOpen && (r.state = "" || r.state = "closed")
    ).map (·.port)

/-- `sorted(requested_ports)`. -/
def requestedPorts : List Int :=
  ((portResults report address).map (·.port)).dedup.insertionSort (· ≤ ·)

/-- What the report says of a port: the last detection counts. -/
def observedService (port : Int) : AssetServiceRecord :=
  serviceRecord port
    (report.services.reverse.find? fun s => s.address = address ∧ s.port = port)

/-- The fingerprint of the host: the last one counts. -/
def observedOs : Option OperatingSystemFingerprint :=
  (report.operatingSystemFingerprints.reverse.find? (·.1 = address)).map (·.2)

/-- A change of one text field. -/
def textChange (changeType : String) (port : Option Int) (before after : String) :
    List AssetChange :=
  if before ≠ after ∧ (before ≠ "" ∨ after ≠ "") then [⟨address, changeType, port, before, after⟩]
  else []

/-- The changes of an open port that was known. -/
def serviceChanges (previous observed : AssetServiceRecord) : List AssetChange :=
  (if previous.service ≠ observed.service then
    [⟨address, "service-changed", some observed.port, previous.service, observed.service⟩]
  else []) ++
  textChange address "software-changed" (some observed.port) (softwareText previous)
    (softwareText observed) ++
  textChange address "fingerprint-changed" (some observed.port) (fingerprintText previous)
    (fingerprintText observed)

/-- The service stored for a port. -/
def serviceAt (services : List AssetServiceRecord) (port : Int) : Option AssetServiceRecord :=
  services.find? (·.port = port)

/-- One requested port. -/
def scanPort (oldServices : List AssetServiceRecord)
    (state : List AssetServiceRecord × List AssetChange) (port : Int) :
    List AssetServiceRecord × List AssetChange :=
  if port ∈ openPorts report address then
    let observed := observedService report address port
    (put (·.port) state.1 observed,
      state.2 ++ (serviceAt oldServices port).elim
        [⟨address, "port-opened", some port, "", observed.service⟩]
        fun previous => serviceChanges address previous observed)
  else
    match serviceAt oldServices port with
    | none => state
    | some previous =>
        if port ∈ explicitlyClosedPorts report address then
          (discard (·.port) state.1 port,
            state.2 ++ [⟨address, "port-closed", some port, previous.service, ""⟩])
        else state

/-- `sorted(services, key=lambda item: item.port)`. -/
def sortedServices (services : List AssetServiceRecord) : List AssetServiceRecord :=
  services.insertionSort fun a b => a.port ≤ b.port

/-- The loop over the ports. -/
def scanPorts (existing : AssetRecord) : List AssetServiceRecord × List AssetChange :=
  let oldServices := collect (·.port) existing.services
  (requestedPorts report address).foldl (scanPort report address oldServices) (oldServices, [])

/-- The hostname of the target is new. -/
def hostnameIsNew (hostnames : List String) : Bool :=
  report.targetType = "hostname" && report.target ∉ hostnames

/-- The change of the operating system. -/
def osChanges (existing : AssetRecord) : List AssetChange :=
  (observedOs report address).elim [] fun observed =>
    textChange address "os-fingerprint-changed" none
      (osText existing.osPlatform existing.osFamily existing.osConfidence existing.osCandidates
        existing.osEvidenceCount)
      (osText observed.platform observed.family observed.confidence observed.candidates
        observed.evidence.length)

/-- One known host. -/
def scanHost (existing : AssetRecord) : AssetRecord × List AssetChange :=
  let ports := scanPorts report address existing
  let os := observedOs report address
  ({ existing with
      lastSeen := if openPorts report address = [] then existing.lastSeen else report.createdAt
      lastCheckedAt := report.createdAt
      hostnames := if hostnameIsNew report existing.hostnames then
        existing.hostnames ++ [report.target] else existing.hostnames
      osPlatform := os.elim existing.osPlatform (·.platform)
      osFamily := os.elim existing.osFamily (·.family)
      osConfidence := os.elim existing.osConfidence (·.confidence)
      osCandidates := os.elim existing.osCandidates (·.candidates)
      osEvidenceCount := os.elim existing.osEvidenceCount (·.evidence.length)
      services := sortedServices ports.1
      sourceSessionIds := appendUnique existing.sourceSessionIds report.sessionId },
    ports.2 ++
      (if hostnameIsNew report existing.hostnames then
        [⟨address, "hostname-added", none, "", report.target⟩] else []) ++
      osChanges report address existing)

/-- The record of a host that was not known. -/
def newAsset : AssetRecord where
  address := address
  firstSeen := report.createdAt
  lastSeen := report.createdAt
  lastCheckedAt := report.createdAt
  hostnames := if report.targetType = "hostname" then [report.target] else []
  osPlatform := ""
  osFamily := ""
  osConfidence := ""
  osCandidates := []
  osEvidenceCount := 0
  lastDiscoveryResponsive := none
  discoveryMethods := []
  services := []
  sourceSessionIds := [report.sessionId]

/-- What a report stores for one address and the changes it reports; nothing for an unknown host
without an open port. -/
def scanExisting : Option AssetRecord → Option (AssetRecord × List AssetChange)
  | some existing => some (scanHost report address existing)
  | none =>
      if openPorts report address = [] then none
      else
        let scanned := scanHost report address (newAsset report address)
        some (scanned.1, ⟨address, "new-asset", none, "", ""⟩ :: scanned.2)

/-- `assets.get(address)`. -/
def assetAt (assets : List AssetRecord) (address : String) : Option AssetRecord :=
  assets.find? (·.address = address)

/-- One resolved address. -/
def scanAddress (state : List AssetRecord × List AssetChange) (address : String) :
    List AssetRecord × List AssetChange :=
  match scanExisting report address (assetAt state.1 address) with
  | none => state
  | some (record, changes) => (put (·.address) state.1 record, state.2 ++ changes)

end Report

/-- Source: `asset_inventory.py` `_asset_address_sort_key`. -/
def assetAddressSortKey (asset : AssetRecord) : Py (IpAddress × AssetRecord) := do
  let address ← getOrRaise (ipAddress asset.address)
    (valueError ("'" ++ asset.address ++ "' does not appear to be an IPv4 or IPv6 address"))
  return (address, asset)

/-- The order of addresses: by version and number. -/
def addressLe (a b : IpAddress) : Bool :=
  a.version.bits < b.version.bits || (a.version.bits = b.version.bits && a.value ≤ b.value)

/-- Source: `asset_inventory.py` `_sorted_assets`. -/
def sortedAssets (assets : List AssetRecord) : Py (List AssetRecord) := do
  let keyed ← assets.mapM assetAddressSortKey
  return (keyed.insertionSort fun x y => addressLe x.1 y.1 = true).map Prod.snd

/-- Source: `asset_inventory.py` `apply_scan_report`. -/
def applyScanReport (inventory : AssetInventory) (report : TcpScanReport) :
    Py AssetInventoryUpdate := do
  let scanned := report.resolvedAddresses.foldl (scanAddress report)
    (collect (·.address) inventory.assets, [])
  let assets ← sortedAssets scanned.1
  return ⟨⟨assets, inventory.schemaVersion, report.createdAt⟩, scanned.2⟩

end NightRecon.RedEngine.Inventory
