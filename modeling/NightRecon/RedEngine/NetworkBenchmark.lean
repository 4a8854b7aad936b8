import NightRecon.Exceptions
import NightRecon.Lib.Chronology
import NightRecon.Lib.Dict
import NightRecon.Lib.Ipaddress
import NightRecon.Lib.JsonRoundTrip
import NightRecon.Lib.Sha256

/-!
# Benchmarks of network observations

`nightrecon_red_engine/network_benchmark.py`: what was observed in a lab is compared with what was
expected of it.

* `NetworkBenchmarkExpectation`, `Observations` — what is expected, and what was observed;
* `Checked`, `compare`, `benchmarkNetworkObservations` — the observations with their addresses in
  normal form, and the comparison;
* `Covered` — every expectation has an observation that matches it;
* `OnePlatform` — no address is given two platforms; `benchmark_law_iff`.
-/

namespace NightRecon.RedEngine.NetworkBenchmark

open NightRecon.Lib
open NightRecon.Lib.Checks
open NightRecon.Lib.Ipaddress
open NightRecon.Lib.Sha256
open NightRecon.Lib.Text

/-- Source: `network_benchmark.py` `_canonical_address`. -/
def canonicalAddress (address : String) : Py String := do
  let parsed ← getOrRaise (ipAddress address)
    (valueError ("'" ++ address ++ "' does not appear to be an IPv4 or IPv6 address"))
  return parsed.str

/-! ## Expectations -/

structure ExpectedTcpExposure where
  address : String
  port : Int
  port_valid : 1 ≤ port ∧ port ≤ 65535

structure ExpectedUdpExposure where
  address : String
  port : Int
  port_valid : 1 ≤ port ∧ port ≤ 65535

structure ExpectedService where
  address : String
  port : Int
  service : String
  port_valid : 1 ≤ port ∧ port ≤ 65535

structure ExpectedOperatingSystem where
  address : String
  platform : String
  platform_nonblank : strip platform ≠ ""

/-- Source: `network_benchmark.py` `ExpectedTcpExposure.__post_init__`. -/
def ExpectedTcpExposure.make (address : String) (port : Int) : Py ExpectedTcpExposure := do
  let address ← canonicalAddress address
  let hport ← prove (1 ≤ port ∧ port ≤ 65535)
    (valueError "TCP benchmark port must be between 1 and 65535")
  return ⟨address, port, hport.down⟩

/-- Source: `network_benchmark.py` `ExpectedUdpExposure.__post_init__`. -/
def ExpectedUdpExposure.make (address : String) (port : Int) : Py ExpectedUdpExposure := do
  let address ← canonicalAddress address
  let hport ← prove (1 ≤ port ∧ port ≤ 65535)
    (valueError "UDP benchmark port must be between 1 and 65535")
  return ⟨address, port, hport.down⟩

/-- Source: `network_benchmark.py` `ExpectedService.__post_init__`. -/
def ExpectedService.make (lower : String → String) (address : String) (port : Int)
    (service : String) : Py ExpectedService := do
  let address ← canonicalAddress address
  let hport ← prove (1 ≤ port ∧ port ≤ 65535)
    (valueError "service benchmark port must be between 1 and 65535")
  raiseIf (strip service = "") (valueError "service benchmark name must be nonblank")
  return ⟨address, port, lower (strip service), hport.down⟩

/-- Source: `network_benchmark.py` `ExpectedOperatingSystem.__post_init__`. -/
def ExpectedOperatingSystem.make (address platform : String) : Py ExpectedOperatingSystem := do
  let address ← canonicalAddress address
  let hplatform ← prove (strip platform ≠ "") (valueError "OS benchmark platform must be nonblank")
  return ⟨address, strip platform, by rw [strip_strip]; exact hplatform.down⟩

/-- What two expectations of a kind are compared by. -/
def ExpectedTcpExposure.fields (x : ExpectedTcpExposure) : String × Int := (x.address, x.port)

def ExpectedUdpExposure.fields (x : ExpectedUdpExposure) : String × Int := (x.address, x.port)

def ExpectedService.fields (x : ExpectedService) : String × Int × String :=
  (x.address, x.port, x.service)

def ExpectedOperatingSystem.fields (x : ExpectedOperatingSystem) : String × String :=
  (x.address, x.platform)

/-- The expectations of one field differ and are of authorized addresses. -/
def FieldValid {α κ : Type} (authorized : List String) (fields : α → κ) (address : α → String)
    (values : List α) : Prop :=
  (values.map fields).Nodup ∧ ∀ x ∈ values, address x ∈ authorized

structure NetworkBenchmarkExpectation where
  authorizedAddresses : List String
  tcpOpen : List ExpectedTcpExposure
  udpOpen : List ExpectedUdpExposure
  services : List ExpectedService
  operatingSystems : List ExpectedOperatingSystem
  authorized_ne : authorizedAddresses ≠ []
  authorized_nodup : authorizedAddresses.Nodup
  tcp_valid : FieldValid authorizedAddresses ExpectedTcpExposure.fields (·.address) tcpOpen
  udp_valid : FieldValid authorizedAddresses ExpectedUdpExposure.fields (·.address) udpOpen
  services_valid : FieldValid authorizedAddresses ExpectedService.fields (·.address) services
  os_valid : FieldValid authorizedAddresses ExpectedOperatingSystem.fields (·.address)
    operatingSystems

/-- The check of one field. -/
def checkField {α κ : Type} [DecidableEq κ] (name : String) (authorized : List String)
    (fields : α → κ) (address : α → String) (values : List α) :
    Py (PLift (FieldValid authorized fields address values)) := do
  let hunique ← prove (values.map fields).Nodup
    (valueError (name ++ " expectations must be unique"))
  let hinside ← prove (∀ x ∈ values, address x ∈ authorized)
    (valueError (name ++ " expectation is outside authorized_addresses"))
  return ⟨⟨hunique.down, hinside.down⟩⟩

/-- The order of addresses: by version and number. -/
def addressKey (text : String) : Nat ×ₗ Nat :=
  match ipAddress text with
  | some a => toLex (if a.version = .v4 then 4 else 6, a.value)
  | none => toLex (0, 0)

def sortedAddresses (l : List String) : List String :=
  l.insertionSort fun a b => addressKey a ≤ addressKey b

theorem sortedAddresses_perm (l : List String) : (sortedAddresses l).Perm l :=
  List.perm_insertionSort _ l

/-- Source: `network_benchmark.py` `NetworkBenchmarkExpectation.__post_init__`. -/
def NetworkBenchmarkExpectation.make (authorizedAddresses : List String)
    (tcpOpen : List ExpectedTcpExposure) (udpOpen : List ExpectedUdpExposure)
    (services : List ExpectedService) (operatingSystems : List ExpectedOperatingSystem) :
    Py NetworkBenchmarkExpectation := do
  raiseIf (authorizedAddresses = []) (valueError "authorized_addresses must not be empty")
  let normalized ← authorizedAddresses.mapM canonicalAddress
  let hnodup ← prove normalized.Nodup
    (valueError "authorized_addresses must not contain duplicates")
  -- the normal forms are as many as the addresses
  let hsome ← prove (sortedAddresses normalized ≠ [])
    (valueError "authorized_addresses must not be empty")
  let htcp ← checkField "tcp_open" (sortedAddresses normalized) ExpectedTcpExposure.fields
    (·.address) tcpOpen
  let hudp ← checkField "udp_open" (sortedAddresses normalized) ExpectedUdpExposure.fields
    (·.address) udpOpen
  let hservices ← checkField "services" (sortedAddresses normalized) ExpectedService.fields
    (·.address) services
  let hos ← checkField "operating_systems" (sortedAddresses normalized)
    ExpectedOperatingSystem.fields (·.address) operatingSystems
  return ⟨sortedAddresses normalized, tcpOpen, udpOpen, services, operatingSystems, hsome.down,
    (sortedAddresses_perm _).nodup_iff.mpr hnodup.down, htcp.down, hudp.down, hservices.down,
    hos.down⟩

/-! ## Observations -/

structure TcpPortResult where
  address : String
  port : Int
  isOpen : Bool
  deriving DecidableEq

structure UdpPortResult where
  address : String
  port : Int
  state : String
  deriving DecidableEq

structure ServiceDetectionResult where
  address : String
  port : Int
  service : String
  errorCode : Int
  deriving DecidableEq

structure OperatingSystemFingerprint where
  platform : String
  confidence : String
  deriving DecidableEq

structure HostOperatingSystemFingerprint where
  address : String
  fingerprint : OperatingSystemFingerprint
  deriving DecidableEq

structure Observations where
  tcpResults : List TcpPortResult
  udpResults : List UdpPortResult
  services : List ServiceDetectionResult
  operatingSystemFingerprints : List HostOperatingSystemFingerprint

/-- A service observation that is compared. -/
def ServiceDetectionResult.Named (r : ServiceDetectionResult) : Prop :=
  r.errorCode = 0 ∧ strip r.service ≠ ""

instance (r : ServiceDetectionResult) : Decidable r.Named :=
  inferInstanceAs (Decidable (r.errorCode = 0 ∧ strip r.service ≠ ""))

/-- A fingerprint that names a platform. -/
def HostOperatingSystemFingerprint.Named (r : HostOperatingSystemFingerprint) : Prop :=
  r.fingerprint.confidence ≠ "conflicting" ∧ strip r.fingerprint.platform ≠ ""

instance (r : HostOperatingSystemFingerprint) : Decidable r.Named :=
  inferInstanceAs (Decidable (r.fingerprint.confidence ≠ "conflicting" ∧
    strip r.fingerprint.platform ≠ ""))

/-- The observations with their addresses in normal form. -/
structure Checked where
  tcp : List (String × TcpPortResult)
  udp : List (String × UdpPortResult)
  services : List (String × ServiceDetectionResult)
  fingerprints : List (String × HostOperatingSystemFingerprint)
  deriving DecidableEq

/-- The addresses of a list of observations in normal form. -/
def checkAddresses {α : Type} (address : α → String) (l : List α) : Py (List (String × α)) :=
  l.mapM fun x => do
    let canonical ← canonicalAddress (address x)
    return (canonical, x)

def Observations.check (o : Observations) : Py Checked := do
  let tcp ← checkAddresses (·.address) o.tcpResults
  let udp ← checkAddresses (·.address) o.udpResults
  let services ← checkAddresses (·.address) (o.services.filter fun r => r.Named)
  let fingerprints ← checkAddresses (·.address) o.operatingSystemFingerprints
  return ⟨tcp, udp, services, fingerprints⟩

/-! ## The comparison -/

structure NetworkBenchmarkResult where
  expectedTcpOpen : Nat
  matchedTcpOpen : Nat
  missedTcpOpen : Nat
  inventedTcpOpen : Nat
  expectedUdpOpen : Nat
  matchedUdpOpen : Nat
  missedUdpOpen : Nat
  inventedUdpOpen : Nat
  ambiguousUdpExpectedOpen : Nat
  expectedServices : Nat
  matchedServices : Nat
  missedServices : Nat
  inventedServices : Nat
  expectedOperatingSystems : Nat
  matchedOperatingSystems : Nat
  missedOperatingSystems : Nat
  conflictingOperatingSystems : Nat
  scopeViolationCount : Nat
  scopeViolations : List String
  durationMs : Rat
  comparisonSha256 : String

/-- Source: `network_benchmark.py` `NetworkBenchmarkResult.expected_coverage_complete`. -/
def NetworkBenchmarkResult.expectedCoverageComplete (r : NetworkBenchmarkResult) : Bool :=
  r.missedTcpOpen = 0 ∧ r.missedUdpOpen = 0 ∧ r.missedServices = 0 ∧
    r.missedOperatingSystems = 0

/-- Source: `network_benchmark.py` `NetworkBenchmarkResult.unexpected_evidence_present`. -/
def NetworkBenchmarkResult.unexpectedEvidencePresent (r : NetworkBenchmarkResult) : Bool :=
  0 < r.inventedTcpOpen ∨ 0 < r.inventedUdpOpen ∨ 0 < r.inventedServices ∨
    0 < r.conflictingOperatingSystems ∨ 0 < r.scopeViolationCount

section Compare

variable (lower : String → String) (e : NetworkBenchmarkExpectation) (c : Checked)

def expectedTcp : Finset (String × Int) := (e.tcpOpen.map (·.fields)).toFinset

def actualTcp : Finset (String × Int) :=
  ((c.tcp.filter fun p => p.2.isOpen).map fun p => (p.1, p.2.port)).toFinset

def expectedUdp : Finset (String × Int) := (e.udpOpen.map (·.fields)).toFinset

/-- The UDP ports that are in a state. -/
def udpIn (state : String) : Finset (String × Int) :=
  ((c.udp.filter fun p => p.2.state = state).map fun p => (p.1, p.2.port)).toFinset

def actualUdp : Finset (String × Int) := udpIn c "open"

def ambiguousUdp : Finset (String × Int) := udpIn c "open|filtered"

def expectedServices : Finset (String × Int × String) :=
  (e.services.map fun x => (x.address, x.port, lower (strip x.service))).toFinset

def actualServices : Finset (String × Int × String) :=
  (c.services.map fun p => (p.1, p.2.port, lower (strip p.2.service))).toFinset

/-- The address of an expectation and its platform. -/
def expectedPlatform (x : ExpectedOperatingSystem) : Option (String × String) :=
  some (x.address, lower (strip x.platform))

/-- The address of a fingerprint that names a platform, and the platform. -/
def actualPlatform (p : String × HostOperatingSystemFingerprint) : Option (String × String) :=
  if p.2.Named then some (p.1, lower (strip p.2.fingerprint.platform)) else none

/-- A dictionary by address: the last expectation of an address stays. -/
def expectedOs : List (String × String) :=
  Chronology.lastValues (expectedPlatform lower) e.operatingSystems

/-- A dictionary by address: the last platform of an address stays. -/
def actualOs : List (String × String) :=
  Chronology.lastValues (actualPlatform lower) c.fingerprints

def conflictingOs : Nat :=
  (c.fingerprints.filter fun p => p.2.fingerprint.confidence = "conflicting").length

/-- The observed addresses, each with the kind of the observation. -/
def Checked.kinds : List (String × String) :=
  c.tcp.map (fun p => ("tcp", p.1)) ++ c.udp.map (fun p => ("udp", p.1)) ++
    c.services.map (fun p => ("service", p.1)) ++ c.fingerprints.map (fun p => ("os", p.1))

def scopeViolations : Finset String :=
  ((c.kinds.filter fun p => p.2 ∉ e.authorizedAddresses).map fun p =>
    p.1 ++ ":" ++ p.2).toFinset

/-! ### The text that is hashed -/

/-- Elements are compared by a key that tells them apart. -/
def keyLe {α κ : Type} [LinearOrder κ] (key : α ↪ κ) (a b : α) : Prop := key a ≤ key b

section Key

variable {α κ : Type} [LinearOrder κ] (key : α ↪ κ)

instance : DecidableRel (keyLe key) := fun a b => inferInstanceAs (Decidable (key a ≤ key b))

instance : IsTrans α (keyLe key) := ⟨fun a b c (hab : key a ≤ key b) (hbc : key b ≤ key c) =>
  show key a ≤ key c from hab.trans hbc⟩

instance : Std.Antisymm (keyLe key) := ⟨fun a b (hab : key a ≤ key b) (hba : key b ≤ key a) =>
  key.injective (le_antisymm hab hba)⟩

instance : Std.Total (keyLe key) := ⟨fun a b => le_total (key a) (key b)⟩

/-- `sorted(values, key=key)` of a set. -/
def sortedSet (s : Finset α) : List α := s.sort (keyLe key)

end Key

/-- An address and a port are compared as texts. -/
def pairKey : String × Int ↪ String ×ₗ String where
  toFun p := toLex (p.1, toString p.2)
  inj' := by
    intro p q h
    obtain ⟨h₁, h₂⟩ := Prod.ext_iff.mp (toLex.injective h)
    exact Prod.ext h₁ (Int.repr_injective h₂)

/-- An address, a port and a service are compared as texts. -/
def serviceKey : String × Int × String ↪ String ×ₗ String ×ₗ String where
  toFun p := toLex (p.1, toLex (toString p.2.1, p.2.2))
  inj' := by
    intro p q h
    obtain ⟨h₁, h₂⟩ := Prod.ext_iff.mp (toLex.injective h)
    obtain ⟨h₂, h₃⟩ := Prod.ext_iff.mp (toLex.injective h₂)
    exact Prod.ext h₁ (Prod.ext (Int.repr_injective h₂) h₃)

/-- An address and a platform are compared in this order. -/
def itemKey : String × String ↪ String ×ₗ String := toLex.toEmbedding

def pairRow (p : String × Int) : Json := .arr [.str p.1, .int p.2]

def serviceRow (p : String × Int × String) : Json := .arr [.str p.1, .int p.2.1, .str p.2.2]

def itemRow (p : String × String) : Json := Json.strings [p.1, p.2]

def expectationPayload : List (String × Json) :=
  [("authorized_addresses", Json.strings e.authorizedAddresses),
    ("tcp_open", .arr ((sortedSet pairKey (expectedTcp e)).map pairRow)),
    ("udp_open", .arr ((sortedSet pairKey (expectedUdp e)).map pairRow)),
    ("services", .arr ((sortedSet serviceKey (expectedServices lower e)).map serviceRow)),
    ("operating_systems", .arr ((sortedSet itemKey (expectedOs lower e).toFinset).map itemRow))]

def observedPayload : List (String × Json) :=
  [("tcp_open", .arr ((sortedSet pairKey (actualTcp c)).map pairRow)),
    ("udp_open", .arr ((sortedSet pairKey (actualUdp c)).map pairRow)),
    ("udp_open_filtered", .arr ((sortedSet pairKey (ambiguousUdp c)).map pairRow)),
    ("services", .arr ((sortedSet serviceKey (actualServices lower c)).map serviceRow)),
    ("operating_systems", .arr ((sortedSet itemKey (actualOs lower c).toFinset).map itemRow)),
    ("conflicting_operating_systems", .int (conflictingOs c)),
    ("scope_violations",
      Json.strings (sortedSet (Function.Embedding.refl String) (scopeViolations e c)))]

def fingerprintPayload : List (String × Json) :=
  [("expectation", .obj (expectationPayload lower e)),
    ("observed", .obj (observedPayload lower e c))]

/-- The text that is hashed. -/
def fingerprintText : String := Json.dumps (.obj (fingerprintPayload lower e c))

/-- The comparison of checked observations with an expectation. -/
def compare (durationMs : Rat) : NetworkBenchmarkResult where
  expectedTcpOpen := (expectedTcp e).card
  matchedTcpOpen := (expectedTcp e ∩ actualTcp c).card
  missedTcpOpen := (expectedTcp e \ actualTcp c).card
  inventedTcpOpen := (actualTcp c \ expectedTcp e).card
  expectedUdpOpen := (expectedUdp e).card
  matchedUdpOpen := (expectedUdp e ∩ actualUdp c).card
  missedUdpOpen := (expectedUdp e \ actualUdp c).card
  inventedUdpOpen := (actualUdp c \ expectedUdp e).card
  ambiguousUdpExpectedOpen := (expectedUdp e ∩ ambiguousUdp c).card
  expectedServices := (expectedServices lower e).card
  matchedServices := (expectedServices lower e ∩ actualServices lower c).card
  missedServices := (expectedServices lower e \ actualServices lower c).card
  inventedServices := (actualServices lower c \ expectedServices lower e).card
  expectedOperatingSystems := (expectedOs lower e).length
  matchedOperatingSystems := ((expectedOs lower e).filter fun p => p ∈ actualOs lower c).length
  missedOperatingSystems := ((expectedOs lower e).filter fun p => p ∉ actualOs lower c).length
  conflictingOperatingSystems := conflictingOs c
  scopeViolationCount := (scopeViolations e c).card
  scopeViolations := sortedSet (Function.Embedding.refl String) (scopeViolations e c)
  durationMs := durationMs
  comparisonSha256 := hexOf (fingerprintText lower e c).toList

end Compare

/-- Source: `network_benchmark.py` `benchmark_network_observations`. -/
def benchmarkNetworkObservations (lower : String → String) (e : NetworkBenchmarkExpectation)
    (o : Observations) (durationMs : Rat) : Py NetworkBenchmarkResult := do
  raiseIf (durationMs < 0) (valueError "duration_ms must not be negative")
  let c ← o.check
  return compare lower e c durationMs

/-! ## Coverage -/

/-- **Every expectation has an observation that matches it.** -/
structure Covered (lower : String → String) (e : NetworkBenchmarkExpectation) (o : Observations) :
    Prop where
  tcp : ∀ x ∈ e.tcpOpen, ∃ r ∈ o.tcpResults, r.isOpen = true ∧
    canonicalAddress r.address = .ok x.address ∧ r.port = x.port
  udp : ∀ x ∈ e.udpOpen, ∃ r ∈ o.udpResults, r.state = "open" ∧
    canonicalAddress r.address = .ok x.address ∧ r.port = x.port
  services : ∀ x ∈ e.services, ∃ r ∈ o.services, r.Named ∧
    canonicalAddress r.address = .ok x.address ∧ r.port = x.port ∧
    lower (strip r.service) = lower (strip x.service)
  operatingSystems : ∀ x ∈ e.operatingSystems, ∃ r ∈ o.operatingSystemFingerprints, r.Named ∧
    canonicalAddress r.address = .ok x.address ∧
    lower (strip r.fingerprint.platform) = lower (strip x.platform)

/-- **No address is given two platforms**, neither by the expectations nor by the fingerprints. -/
structure OnePlatform (lower : String → String) (e : NetworkBenchmarkExpectation)
    (o : Observations) : Prop where
  expected : ∀ x ∈ e.operatingSystems, ∀ y ∈ e.operatingSystems, x.address = y.address →
    lower (strip x.platform) = lower (strip y.platform)
  observed : ∀ r ∈ o.operatingSystemFingerprints, ∀ s ∈ o.operatingSystemFingerprints,
    r.Named → s.Named → canonicalAddress r.address = canonicalAddress s.address →
    lower (strip r.fingerprint.platform) = lower (strip s.fingerprint.platform)

section Checking

variable {α : Type} {address : α → String} {l l' : List α} {r : List (String × α)}

theorem mem_checkAddresses (h : checkAddresses address l = .ok r) {p : String × α} :
    p ∈ r ↔ p.2 ∈ l ∧ canonicalAddress (address p.2) = .ok p.1 := by
  rw [checkAddresses, mapM_eq_ok] at h
  induction h with
  | nil => simp
  | @cons a q l r ha hl ih =>
    obtain ⟨canonical, hcanonical, hq⟩ := bind_eq_ok.mp ha
    obtain rfl : (canonical, a) = q := Except.ok.inj hq
    rw [List.mem_cons, ih, List.mem_cons]
    constructor
    · rintro (rfl | ⟨hmem, hp⟩)
      · exact ⟨.inl rfl, hcanonical⟩
      · exact ⟨.inr hmem, hp⟩
    · rintro ⟨heq | hmem, hp⟩
      · left
        rw [heq, hcanonical] at hp
        exact Prod.ext (Except.ok.inj hp).symm heq
      · exact .inr ⟨hmem, hp⟩

/-- Checking keeps the observations. -/
theorem map_snd_checked (h : checkAddresses address l = .ok r) : r.map Prod.snd = l := by
  rw [checkAddresses, mapM_eq_ok] at h
  have hsame := map_eq_of_forall₂ (f := id) (g := Prod.snd) h (by
    intro a p hp
    obtain ⟨canonical, -, hp⟩ := bind_eq_ok.mp hp
    rw [← Except.ok.inj hp]
    rfl)
  rw [hsame, List.map_id]

theorem exists_checked (h : checkAddresses address l = .ok r) {x : α} (hx : x ∈ l) :
    ∃ canonical, (canonical, x) ∈ r := by
  rw [← map_snd_checked h, List.mem_map] at hx
  obtain ⟨p, hp, rfl⟩ := hx
  exact ⟨p.1, hp⟩

/-- Checked observations are checked again as they are. -/
theorem checkAddresses_map_snd (h : ∀ p ∈ r, canonicalAddress (address p.2) = .ok p.1) :
    checkAddresses address (r.map Prod.snd) = .ok r := by
  induction r with
  | nil => rfl
  | cons p r ih =>
    have hp := h p List.mem_cons_self
    have hr := ih fun q hq => h q (List.mem_cons_of_mem _ hq)
    rw [checkAddresses] at hr ⊢
    rw [List.map_cons, List.mapM_cons, hp, ok_bind, hr]
    rfl

theorem checkAddresses_perm (hperm : l.Perm l') (h : checkAddresses address l = .ok r) :
    ∃ r', checkAddresses address l' = .ok r' ∧ r.Perm r' := by
  rw [checkAddresses, mapM_eq_ok] at h
  obtain ⟨r', hforall, hr⟩ := List.perm_comp_forall₂ hperm.symm h
  refine ⟨r', ?_, hr.symm⟩
  rw [checkAddresses, mapM_eq_ok]
  exact hforall

end Checking

/-- The same observations in another order. -/
structure Observations.Permuted (o o' : Observations) : Prop where
  tcp : o.tcpResults.Perm o'.tcpResults
  udp : o.udpResults.Perm o'.udpResults
  services : o.services.Perm o'.services
  fingerprints : o.operatingSystemFingerprints.Perm o'.operatingSystemFingerprints

structure Checked.Permuted (c c' : Checked) : Prop where
  tcp : c.tcp.Perm c'.tcp
  udp : c.udp.Perm c'.udp
  services : c.services.Perm c'.services
  fingerprints : c.fingerprints.Perm c'.fingerprints

/-- The same expectations in another order. -/
structure NetworkBenchmarkExpectation.Permuted (e e' : NetworkBenchmarkExpectation) : Prop where
  authorized : e.authorizedAddresses = e'.authorizedAddresses
  tcp : e.tcpOpen.Perm e'.tcpOpen
  udp : e.udpOpen.Perm e'.udpOpen
  services : e.services.Perm e'.services
  operatingSystems : e.operatingSystems.Perm e'.operatingSystems

section Checks

variable {o o' : Observations} {c : Checked}

/-- What checking the observations gives. -/
theorem check_eq_ok (h : o.check = .ok c) :
    checkAddresses (·.address) o.tcpResults = .ok c.tcp ∧
      checkAddresses (·.address) o.udpResults = .ok c.udp ∧
      checkAddresses (·.address) (o.services.filter fun r => r.Named) = .ok c.services ∧
      checkAddresses (·.address) o.operatingSystemFingerprints = .ok c.fingerprints := by
  rw [Observations.check] at h
  obtain ⟨tcp, htcp, h⟩ := bind_eq_ok.mp h
  obtain ⟨udp, hudp, h⟩ := bind_eq_ok.mp h
  obtain ⟨services, hservices, h⟩ := bind_eq_ok.mp h
  obtain ⟨fingerprints, hfingerprints, h⟩ := bind_eq_ok.mp h
  obtain rfl := Except.ok.inj h
  exact ⟨htcp, hudp, hservices, hfingerprints⟩

theorem check_perm (hperm : o.Permuted o') (h : o.check = .ok c) :
    ∃ c', o'.check = .ok c' ∧ c.Permuted c' := by
  obtain ⟨htcp, hudp, hservices, hfingerprints⟩ := check_eq_ok h
  obtain ⟨tcp, htcp', hptcp⟩ := checkAddresses_perm hperm.tcp htcp
  obtain ⟨udp, hudp', hpudp⟩ := checkAddresses_perm hperm.udp hudp
  obtain ⟨services, hservices', hpservices⟩ :=
    checkAddresses_perm (hperm.services.filter _) hservices
  obtain ⟨fingerprints, hfingerprints', hpfingerprints⟩ :=
    checkAddresses_perm hperm.fingerprints hfingerprints
  refine ⟨⟨tcp, udp, services, fingerprints⟩, ?_, ⟨hptcp, hpudp, hpservices, hpfingerprints⟩⟩
  rw [Observations.check, htcp', ok_bind, hudp', ok_bind, hservices', ok_bind, hfingerprints',
    ok_bind]
  rfl

end Checks

/-! ## The order of the input -/

section Order

variable {lower : String → String} {e e' : NetworkBenchmarkExpectation} {o : Observations}
  {c c' : Checked}

theorem actualPlatform_eq_some {p : String × HostOperatingSystemFingerprint} {k v : String} :
    actualPlatform lower p = some (k, v) ↔
      p.2.Named ∧ p.1 = k ∧ lower (strip p.2.fingerprint.platform) = v := by
  rw [actualPlatform]
  split_ifs with hnamed
  · rw [Option.some.injEq, Prod.mk.injEq]
    exact ⟨fun h => ⟨hnamed, h⟩, fun h => h.2⟩
  · exact iff_of_false (fun h => by cases h) fun h => hnamed h.1

/-- Platforms that agree are what both dictionaries need. -/
theorem onePlatform_iff (h : o.check = .ok c) : OnePlatform lower e o ↔
    Chronology.Agree (expectedPlatform lower) e.operatingSystems ∧
      Chronology.Agree (actualPlatform lower) c.fingerprints := by
  have hmem := @mem_checkAddresses _ _ _ _ (check_eq_ok h).2.2.2
  constructor
  · rintro ⟨hexpected, hobserved⟩
    refine ⟨?_, ?_⟩
    · intro x hx y hy k v w hv hw
      simp only [expectedPlatform, Option.some.injEq, Prod.mk.injEq] at hv hw
      rw [← hv.2, ← hw.2]
      exact hexpected x hx y hy (hv.1.trans hw.1.symm)
    · intro p hp q hq k v w hv hw
      obtain ⟨hp, hpc⟩ := hmem.mp hp
      obtain ⟨hq, hqc⟩ := hmem.mp hq
      obtain ⟨hpn, hpk, rfl⟩ := actualPlatform_eq_some.mp hv
      obtain ⟨hqn, hqk, rfl⟩ := actualPlatform_eq_some.mp hw
      refine hobserved p.2 hp q.2 hq hpn hqn ?_
      rw [hpc, hqc, hpk, hqk]
  · rintro ⟨hexpected, hobserved⟩
    refine ⟨?_, ?_⟩
    · intro x hx y hy haddress
      refine hexpected x hx y hy x.address _ _ rfl ?_
      rw [expectedPlatform, haddress]
    · intro r hr s hs hrn hsn haddress
      obtain ⟨a, ha⟩ := exists_checked (check_eq_ok h).2.2.2 hr
      obtain ⟨b, hb⟩ := exists_checked (check_eq_ok h).2.2.2 hs
      have hab : a = b := by
        have hra := (hmem.mp ha).2
        have hsb := (hmem.mp hb).2
        dsimp only at hra hsb
        rw [haddress, hsb] at hra
        exact (Except.ok.inj hra).symm
      exact hobserved _ ha _ hb a _ _ (actualPlatform_eq_some.mpr ⟨hrn, rfl, rfl⟩)
        (actualPlatform_eq_some.mpr ⟨hsn, hab.symm, rfl⟩)

/-- A set without misses is one whose elements are all matched. -/
theorem missed_eq_zero {α : Type} [DecidableEq α] {s t : Finset α} :
    (s \ t).card = 0 ↔ ∀ x ∈ s, x ∈ t := by
  rw [Finset.card_eq_zero, Finset.sdiff_eq_empty_iff_subset]
  rfl

/-- The missed TCP ports. -/
theorem missedTcp_eq_zero (h : o.check = .ok c) : (expectedTcp e \ actualTcp c).card = 0 ↔
    ∀ x ∈ e.tcpOpen, ∃ r ∈ o.tcpResults, r.isOpen = true ∧
      canonicalAddress r.address = .ok x.address ∧ r.port = x.port := by
  have hmem := @mem_checkAddresses _ _ _ _ (check_eq_ok h).1
  rw [missed_eq_zero]
  simp only [expectedTcp, actualTcp, List.mem_toFinset, List.mem_map, List.mem_filter,
    forall_exists_index, and_imp, forall_apply_eq_imp_iff₂, ExpectedTcpExposure.fields,
    Prod.mk.injEq]
  refine forall₂_congr fun x _ => ?_
  constructor
  · rintro ⟨p, ⟨hp, hopen⟩, haddress, hport⟩
    obtain ⟨hr, hcanonical⟩ := hmem.mp hp
    exact ⟨p.2, hr, hopen, by rw [hcanonical, haddress], hport⟩
  · rintro ⟨r, hr, hopen, hcanonical, hport⟩
    exact ⟨(x.address, r), ⟨hmem.mpr ⟨hr, hcanonical⟩, hopen⟩, rfl, hport⟩

/-- The missed UDP ports. -/
theorem missedUdp_eq_zero (h : o.check = .ok c) : (expectedUdp e \ actualUdp c).card = 0 ↔
    ∀ x ∈ e.udpOpen, ∃ r ∈ o.udpResults, r.state = "open" ∧
      canonicalAddress r.address = .ok x.address ∧ r.port = x.port := by
  have hmem := @mem_checkAddresses _ _ _ _ (check_eq_ok h).2.1
  rw [missed_eq_zero]
  simp only [expectedUdp, actualUdp, udpIn, List.mem_toFinset, List.mem_map, List.mem_filter,
    forall_exists_index, and_imp, forall_apply_eq_imp_iff₂, ExpectedUdpExposure.fields,
    Prod.mk.injEq, decide_eq_true_eq]
  refine forall₂_congr fun x _ => ?_
  constructor
  · rintro ⟨p, ⟨hp, hopen⟩, haddress, hport⟩
    obtain ⟨hr, hcanonical⟩ := hmem.mp hp
    exact ⟨p.2, hr, hopen, by rw [hcanonical, haddress], hport⟩
  · rintro ⟨r, hr, hopen, hcanonical, hport⟩
    exact ⟨(x.address, r), ⟨hmem.mpr ⟨hr, hcanonical⟩, hopen⟩, rfl, hport⟩

/-- The missed services. -/
theorem missedServices_eq_zero (h : o.check = .ok c) :
    (expectedServices lower e \ actualServices lower c).card = 0 ↔
      ∀ x ∈ e.services, ∃ r ∈ o.services, r.Named ∧
        canonicalAddress r.address = .ok x.address ∧ r.port = x.port ∧
        lower (strip r.service) = lower (strip x.service) := by
  have hmem := @mem_checkAddresses _ _ _ _ (check_eq_ok h).2.2.1
  rw [missed_eq_zero]
  simp only [expectedServices, actualServices, List.mem_toFinset, List.mem_map,
    forall_exists_index, and_imp, forall_apply_eq_imp_iff₂, Prod.mk.injEq]
  refine forall₂_congr fun x _ => ?_
  constructor
  · rintro ⟨p, hp, haddress, hport, hservice⟩
    obtain ⟨hr, hcanonical⟩ := hmem.mp hp
    obtain ⟨hr, hnamed⟩ := List.mem_filter.mp hr
    exact ⟨p.2, hr, of_decide_eq_true hnamed, by rw [hcanonical, haddress], hport, hservice⟩
  · rintro ⟨r, hr, hnamed, hcanonical, hport, hservice⟩
    exact ⟨(x.address, r), hmem.mpr ⟨List.mem_filter.mpr ⟨hr, decide_eq_true hnamed⟩, hcanonical⟩,
      rfl, hport, hservice⟩

/-- The missed operating systems, where no address is given two platforms. -/
theorem missedOs_eq_zero (h : o.check = .ok c) (hone : OnePlatform lower e o) :
    ((expectedOs lower e).filter fun p => p ∉ actualOs lower c).length = 0 ↔
      ∀ x ∈ e.operatingSystems, ∃ r ∈ o.operatingSystemFingerprints, r.Named ∧
        canonicalAddress r.address = .ok x.address ∧
        lower (strip r.fingerprint.platform) = lower (strip x.platform) := by
  have hmem := @mem_checkAddresses _ _ _ _ (check_eq_ok h).2.2.2
  obtain ⟨hexpected, hobserved⟩ := (onePlatform_iff h).mp hone
  rw [List.length_eq_zero_iff, List.filter_eq_nil_iff]
  have hall : (∀ p ∈ expectedOs lower e, ¬ decide (p ∉ actualOs lower c) = true) ↔
      ∀ x ∈ e.operatingSystems, (x.address, lower (strip x.platform)) ∈ actualOs lower c := by
    constructor
    · intro hmatched x hx
      have hin : (x.address, lower (strip x.platform)) ∈ expectedOs lower e :=
        (Chronology.mem_lastValues_iff hexpected).mpr ⟨x, hx, rfl⟩
      have hnot := hmatched _ hin
      rwa [decide_eq_true_eq, not_not] at hnot
    · rintro hmatched ⟨k, v⟩ hp
      obtain ⟨x, hx, hxe⟩ := (Chronology.mem_lastValues_iff hexpected).mp hp
      rw [decide_eq_true_eq, not_not, ← Option.some.inj hxe]
      exact hmatched x hx
  rw [hall]
  refine forall₂_congr fun x _ => ?_
  rw [actualOs, Chronology.mem_lastValues_iff hobserved]
  constructor
  · rintro ⟨p, hp, hplatform⟩
    obtain ⟨hnamed, haddress, hplatform⟩ := actualPlatform_eq_some.mp hplatform
    obtain ⟨hr, hcanonical⟩ := hmem.mp hp
    exact ⟨p.2, hr, hnamed, by rw [hcanonical, haddress], hplatform⟩
  · rintro ⟨r, hr, hnamed, hcanonical, hplatform⟩
    exact ⟨(x.address, r), hmem.mpr ⟨hr, hcanonical⟩,
      actualPlatform_eq_some.mpr ⟨hnamed, rfl, hplatform⟩⟩

/-- **Coverage is complete exactly when every expectation is matched**, where no address is given
two platforms. -/
theorem coverage_iff (h : o.check = .ok c) (hone : OnePlatform lower e o) (durationMs : Rat) :
    (compare lower e c durationMs).expectedCoverageComplete = true ↔ Covered lower e o := by
  rw [NetworkBenchmarkResult.expectedCoverageComplete, decide_eq_true_eq]
  show (expectedTcp e \ actualTcp c).card = 0 ∧ (expectedUdp e \ actualUdp c).card = 0 ∧
    (expectedServices lower e \ actualServices lower c).card = 0 ∧
    ((expectedOs lower e).filter fun p => p ∉ actualOs lower c).length = 0 ↔ _
  rw [missedTcp_eq_zero h, missedUdp_eq_zero h, missedServices_eq_zero h, missedOs_eq_zero h hone]
  constructor
  · rintro ⟨htcp, hudp, hservices, hos⟩
    exact ⟨htcp, hudp, hservices, hos⟩
  · rintro ⟨htcp, hudp, hservices, hos⟩
    exact ⟨htcp, hudp, hservices, hos⟩

/-- **The comparison does not see the order**, where no address is given two platforms. -/
theorem compare_perm (he : e.Permuted e') (hc : c.Permuted c')
    (hexpected : Chronology.Agree (expectedPlatform lower) e.operatingSystems)
    (hobserved : Chronology.Agree (actualPlatform lower) c.fingerprints) (durationMs : Rat) :
    compare lower e c durationMs = compare lower e' c' durationMs := by
  have htcp : expectedTcp e = expectedTcp e' := List.toFinset_eq_of_perm _ _ (he.tcp.map _)
  have hudp : expectedUdp e = expectedUdp e' := List.toFinset_eq_of_perm _ _ (he.udp.map _)
  have hservices : expectedServices lower e = expectedServices lower e' :=
    List.toFinset_eq_of_perm _ _ (he.services.map _)
  have hos : (expectedOs lower e).Perm (expectedOs lower e') :=
    Chronology.lastValues_perm he.operatingSystems hexpected
  have htcp' : actualTcp c = actualTcp c' :=
    List.toFinset_eq_of_perm _ _ ((hc.tcp.filter _).map _)
  have hudp' : ∀ state, udpIn c state = udpIn c' state := fun state =>
    List.toFinset_eq_of_perm _ _ ((hc.udp.filter _).map _)
  have hservices' : actualServices lower c = actualServices lower c' :=
    List.toFinset_eq_of_perm _ _ (hc.services.map _)
  have hos' : (actualOs lower c).Perm (actualOs lower c') :=
    Chronology.lastValues_perm hc.fingerprints hobserved
  have hconflicting : conflictingOs c = conflictingOs c' := (hc.fingerprints.filter _).length_eq
  have hkinds : c.kinds.Perm c'.kinds :=
    (((hc.tcp.map _).append (hc.udp.map _)).append (hc.services.map _)).append
      (hc.fingerprints.map _)
  have hscope : scopeViolations e c = scopeViolations e' c' := by
    rw [scopeViolations, scopeViolations, he.authorized]
    exact List.toFinset_eq_of_perm _ _ ((hkinds.filter _).map _)
  have hitems : (expectedOs lower e).toFinset = (expectedOs lower e').toFinset :=
    List.toFinset_eq_of_perm _ _ hos
  have hitems' : (actualOs lower c).toFinset = (actualOs lower c').toFinset :=
    List.toFinset_eq_of_perm _ _ hos'
  have hmatched : ((expectedOs lower e).filter fun p => p ∈ actualOs lower c).length =
      ((expectedOs lower e').filter fun p => p ∈ actualOs lower c').length := by
    simp only [hos'.mem_iff]
    exact (hos.filter _).length_eq
  have hmissed : ((expectedOs lower e).filter fun p => p ∉ actualOs lower c).length =
      ((expectedOs lower e').filter fun p => p ∉ actualOs lower c').length := by
    simp only [hos'.mem_iff]
    exact (hos.filter _).length_eq
  have htext : fingerprintText lower e c = fingerprintText lower e' c' := by
    simp only [fingerprintText, fingerprintPayload, expectationPayload, observedPayload,
      actualUdp, ambiguousUdp, htcp, hudp, hservices, htcp', hudp', hservices', hconflicting,
      hscope, hitems, hitems', he.authorized]
  simp only [compare, actualUdp, ambiguousUdp, htcp, hudp, hservices, htcp', hudp', hservices',
    hconflicting, hscope, hmatched, hmissed, htext, hos.length_eq]

end Order

/-! ## What the text tells apart -/

section Text

variable {lower : String → String} {e e' : NetworkBenchmarkExpectation} {c c' : Checked}

theorem mem_sortedSet {α κ : Type} [LinearOrder κ] {key : α ↪ κ} {s : Finset α} {a : α} :
    a ∈ sortedSet key s ↔ a ∈ s :=
  Finset.mem_sort _

theorem pairRow_normal (p : String × Int) : (pairRow p).normal = pairRow p := by
  simp [pairRow, Json.normal, Json.elemsNormal]

theorem pairRow_injective : Function.Injective pairRow := by
  intro p q h
  simp only [pairRow, Json.arr.injEq, List.cons.injEq, Json.str.injEq, Json.int.injEq,
    and_true] at h
  exact Prod.ext h.1 h.2

theorem serviceRow_normal (p : String × Int × String) : (serviceRow p).normal = serviceRow p := by
  simp [serviceRow, Json.normal, Json.elemsNormal]

theorem serviceRow_injective : Function.Injective serviceRow := by
  intro p q h
  simp only [serviceRow, Json.arr.injEq, List.cons.injEq, Json.str.injEq, Json.int.injEq,
    and_true] at h
  exact Prod.ext h.1 (Prod.ext h.2.1 h.2.2)

theorem itemRow_normal (p : String × String) : (itemRow p).normal = itemRow p :=
  Json.normal_strings _

theorem itemRow_injective : Function.Injective itemRow := by
  intro p q h
  simp only [itemRow, Json.strings, List.map_cons, List.map_nil, Json.arr.injEq, List.cons.injEq,
    Json.str.injEq, and_true] at h
  exact Prod.ext h.1 h.2

/-- Rows that are written alike are rows of one set. -/
theorem set_of_rows {α κ : Type} [LinearOrder κ] {key : α ↪ κ} {row : α → Json}
    (hnormal : ∀ a, (row a).normal = row a) (hinjective : Function.Injective row) {s t : Finset α}
    (h : (Json.arr ((sortedSet key s).map row)).normal =
      (Json.arr ((sortedSet key t).map row)).normal) : s = t := by
  have hrows : ∀ l : List α, (Json.arr (l.map row)).normal = .arr (l.map row) := by
    intro l
    have hrow : Json.normal ∘ row = row := funext hnormal
    rw [Json.normal, Json.elemsNormal_eq_map, List.map_map, hrow]
  rw [hrows, hrows, Json.arr.injEq] at h
  have hlists := List.map_injective_iff.mpr hinjective h
  ext a
  rw [← @mem_sortedSet _ _ _ key, hlists, mem_sortedSet]

theorem pairRow_valid (p : String × Int) : (pairRow p).valid := by
  simp [pairRow, Json.valid, Json.elemsValid]

theorem serviceRow_valid (p : String × Int × String) : (serviceRow p).valid := by
  simp [serviceRow, Json.valid, Json.elemsValid]

theorem itemRow_valid (p : String × String) : (itemRow p).valid := Json.valid_strings _

/-- Rows that are valid make a valid list. -/
theorem rows_valid {α : Type} {row : α → Json} (h : ∀ a, (row a).valid) (l : List α) :
    (Json.arr (l.map row)).valid := by
  rw [Json.valid, Json.elemsValid_iff]
  intro j hj
  obtain ⟨a, -, rfl⟩ := List.mem_map.mp hj
  exact h a

theorem expectationPayload_valid : (Json.obj (expectationPayload lower e)).valid := by
  refine ⟨by simp [expectationPayload], ?_⟩
  simp [expectationPayload, Json.membersValid, rows_valid pairRow_valid,
    rows_valid serviceRow_valid, rows_valid itemRow_valid]

theorem observedPayload_valid : (Json.obj (observedPayload lower e c)).valid := by
  have hint : ∀ n : Int, (Json.int n).valid := fun _ => trivial
  refine ⟨by simp [observedPayload], ?_⟩
  simp [observedPayload, Json.membersValid, hint, rows_valid pairRow_valid,
    rows_valid serviceRow_valid, rows_valid itemRow_valid]

theorem fingerprintPayload_valid : (Json.obj (fingerprintPayload lower e c)).valid := by
  refine ⟨by simp [fingerprintPayload], ?_⟩
  simp only [fingerprintPayload, Json.membersValid]
  exact ⟨expectationPayload_valid, observedPayload_valid, trivial⟩

/-- Two comparisons are of the same sets. -/
structure SameSets (lower : String → String) (e e' : NetworkBenchmarkExpectation)
    (c c' : Checked) : Prop where
  expectedTcp : expectedTcp e = expectedTcp e'
  expectedUdp : expectedUdp e = expectedUdp e'
  expectedServices : expectedServices lower e = expectedServices lower e'
  expectedOs : (expectedOs lower e).toFinset = (expectedOs lower e').toFinset
  actualTcp : actualTcp c = actualTcp c'
  actualUdp : actualUdp c = actualUdp c'
  ambiguousUdp : ambiguousUdp c = ambiguousUdp c'
  actualServices : actualServices lower c = actualServices lower c'
  actualOs : (actualOs lower c).toFinset = (actualOs lower c').toFinset
  conflictingOs : conflictingOs c = conflictingOs c'

/-- **The text tells the sets apart** that are compared. -/
theorem sameSets_of_text (h : fingerprintText lower e c = fingerprintText lower e' c') :
    SameSets lower e e' c c' := by
  have hnormal := Json.normal_eq_of_dumps_eq fingerprintPayload_valid fingerprintPayload_valid h
  have hmember := Json.get?_normal_eq fingerprintPayload_valid.1 fingerprintPayload_valid.1 hnormal
  have hexpectation := Json.get?_normal_eq expectationPayload_valid.1 expectationPayload_valid.1
    (Option.some.inj (hmember "expectation"))
  have hobserved := Json.get?_normal_eq observedPayload_valid.1 observedPayload_valid.1
    (Option.some.inj (hmember "observed"))
  have hpairs {s t : Finset (String × Int)} :=
    @set_of_rows _ _ _ pairKey _ pairRow_normal pairRow_injective s t
  have hservices {s t : Finset (String × Int × String)} :=
    @set_of_rows _ _ _ serviceKey _ serviceRow_normal serviceRow_injective s t
  have hitems {s t : Finset (String × String)} :=
    @set_of_rows _ _ _ itemKey _ itemRow_normal itemRow_injective s t
  exact {
    expectedTcp := hpairs (Option.some.inj (hexpectation "tcp_open"))
    expectedUdp := hpairs (Option.some.inj (hexpectation "udp_open"))
    expectedServices := hservices (Option.some.inj (hexpectation "services"))
    expectedOs := hitems (Option.some.inj (hexpectation "operating_systems"))
    actualTcp := hpairs (Option.some.inj (hobserved "tcp_open"))
    actualUdp := hpairs (Option.some.inj (hobserved "udp_open"))
    ambiguousUdp := hpairs (Option.some.inj (hobserved "udp_open_filtered"))
    actualServices := hservices (Option.some.inj (hobserved "services"))
    actualOs := hitems (Option.some.inj (hobserved "operating_systems"))
    conflictingOs := Int.ofNat.inj
      (Json.int.inj (Option.some.inj (hobserved "conflicting_operating_systems"))) }

/-- A dictionary by address gives every address one platform. -/
theorem lastValues_nodup {α : Type} (f : α → Option (String × String)) (l : List α) :
    (Chronology.lastValues f l).Nodup :=
  (Chronology.keys_lastValues_nodup f l).of_map _

/-- **Comparisons of the same sets count alike.** -/
theorem counts_of_sameSets (h : SameSets lower e e' c c') :
    (expectedOs lower e).length = (expectedOs lower e').length ∧
      ((expectedOs lower e).filter fun p => p ∈ actualOs lower c).length =
        ((expectedOs lower e').filter fun p => p ∈ actualOs lower c').length ∧
      ((expectedOs lower e).filter fun p => p ∉ actualOs lower c).length =
        ((expectedOs lower e').filter fun p => p ∉ actualOs lower c').length := by
  have hperm : (expectedOs lower e).Perm (expectedOs lower e') :=
    List.perm_of_nodup_nodup_toFinset_eq (lastValues_nodup _ _) (lastValues_nodup _ _) h.expectedOs
  have hmem : ∀ p, p ∈ actualOs lower c ↔ p ∈ actualOs lower c' := by
    intro p
    rw [← List.mem_toFinset, h.actualOs, List.mem_toFinset]
  simp only [hmem]
  exact ⟨hperm.length_eq, (hperm.filter _).length_eq, (hperm.filter _).length_eq⟩

end Text

/-! ## The law -/

/-- Expectations of operating systems in another order. -/
def NetworkBenchmarkExpectation.withOperatingSystems (e : NetworkBenchmarkExpectation)
    (l : List ExpectedOperatingSystem) (h : e.operatingSystems.Perm l) :
    NetworkBenchmarkExpectation :=
  { e with
    operatingSystems := l
    os_valid := ⟨(h.map _).nodup_iff.mp e.os_valid.1,
      fun x hx => e.os_valid.2 x (h.mem_iff.mpr hx)⟩ }

/-- Among the texts of the permuted inputs, no two different ones have the same digest. -/
def Distinguished (lower : String → String) (e : NetworkBenchmarkExpectation) (o : Observations) :
    Prop :=
  ∀ e₁ e₂ o₁ o₂ c₁ c₂, e.Permuted e₁ → e.Permuted e₂ → o.Permuted o₁ → o.Permuted o₂ →
    o₁.check = .ok c₁ → o₂.check = .ok c₂ →
    hexOf (fingerprintText lower e₁ c₁).toList = hexOf (fingerprintText lower e₂ c₂).toList →
    fingerprintText lower e₁ c₁ = fingerprintText lower e₂ c₂

section Law

variable {lower : String → String} {e : NetworkBenchmarkExpectation} {o : Observations}
  {durationMs : Rat} {result : NetworkBenchmarkResult}

theorem NetworkBenchmarkExpectation.Permuted.refl (e : NetworkBenchmarkExpectation) :
    e.Permuted e := ⟨rfl, .refl _, .refl _, .refl _, .refl _⟩

theorem Observations.Permuted.refl (o : Observations) : o.Permuted o :=
  ⟨.refl _, .refl _, .refl _, .refl _⟩

theorem benchmark_eq_ok : benchmarkNetworkObservations lower e o durationMs = .ok result ↔
    ¬ durationMs < 0 ∧ ∃ c, o.check = .ok c ∧ compare lower e c durationMs = result := by
  rw [benchmarkNetworkObservations, raiseIf_bind_eq_ok, bind_eq_ok]
  simp only [pure_eq_ok, Except.ok.injEq]

/-- **When coverage is what it says and the order does not matter.**  Unless two of the texts hashed
collide, the coverage of a benchmark is complete exactly when every expectation is matched, and its
result is the same in every order of its input, exactly when no address is given two platforms. -/
theorem benchmark_law_iff (h : benchmarkNetworkObservations lower e o durationMs = .ok result)
    (hdistinguished : Distinguished lower e o) :
    ((result.expectedCoverageComplete = true ↔ Covered lower e o) ∧
      ∀ e' o', e.Permuted e' → o.Permuted o' →
        benchmarkNetworkObservations lower e' o' durationMs = .ok result) ↔
      OnePlatform lower e o := by
  obtain ⟨hduration, c, hc, rfl⟩ := benchmark_eq_ok.mp h
  constructor
  · rintro ⟨-, hperm⟩
    rw [onePlatform_iff hc]
    -- a permuted input has the same digest, so the same text
    have htext : ∀ e' o' c', e.Permuted e' → o.Permuted o' → o'.check = .ok c' →
        fingerprintText lower e' c' = fingerprintText lower e c := by
      intro e' o' c' he ho hc'
      obtain ⟨-, c'', hc'', hcompare⟩ := benchmark_eq_ok.mp (hperm e' o' he ho)
      obtain rfl : c' = c'' := Except.ok.inj (hc'.symm.trans hc'')
      exact hdistinguished e' e o' o c' c he (.refl e) ho (.refl o) hc' hc
        (congrArg NetworkBenchmarkResult.comparisonSha256 hcompare)
    refine ⟨Chronology.agree_of_perm fun l hl => ?_, Chronology.agree_of_perm fun l hl => ?_⟩
    · have hsame := (sameSets_of_text (htext (e.withOperatingSystems l hl) o c
        ⟨rfl, .refl _, .refl _, .refl _, hl⟩ (.refl o) hc)).expectedOs
      intro p hp
      show p ∈ expectedOs lower e
      rw [← List.mem_toFinset, ← hsame, List.mem_toFinset]
      exact hp
    · obtain ⟨htcp, hudp, hservices, hfingerprints⟩ := check_eq_ok hc
      have hl' : checkAddresses (·.address) (l.map Prod.snd) = .ok l :=
        checkAddresses_map_snd fun p hp =>
          ((mem_checkAddresses hfingerprints).mp (hl.mem_iff.mpr hp)).2
      have hperm' : o.operatingSystemFingerprints.Perm (l.map Prod.snd) := by
        rw [← map_snd_checked hfingerprints]
        exact hl.map _
      have hcheck : Observations.check { o with operatingSystemFingerprints := l.map Prod.snd } =
          .ok { c with fingerprints := l } := by
        rw [Observations.check, htcp, ok_bind, hudp, ok_bind, hservices, ok_bind, hl', ok_bind]
        rfl
      have hpermuted : o.Permuted { o with operatingSystemFingerprints := l.map Prod.snd } :=
        ⟨.refl _, .refl _, .refl _, hperm'⟩
      have hsame := (sameSets_of_text (htext e _ _ (.refl e) hpermuted hcheck)).actualOs
      intro p hp
      show p ∈ actualOs lower c
      rw [← List.mem_toFinset, ← hsame, List.mem_toFinset]
      exact hp
  · intro hone
    refine ⟨coverage_iff hc hone durationMs, ?_⟩
    intro e' o' he ho
    obtain ⟨c', hc', hcc'⟩ := check_perm ho hc
    obtain ⟨hexpected, hobserved⟩ := (onePlatform_iff hc).mp hone
    exact benchmark_eq_ok.mpr
      ⟨hduration, c', hc', (compare_perm he hcc' hexpected hobserved durationMs).symm⟩

end Law

/-! ### A lab of one host -/

/-- Expectations of the operating systems of one host. -/
def hostExpectation (l : List ExpectedOperatingSystem) (hnodup : (l.map (·.fields)).Nodup)
    (hhost : ∀ x ∈ l, x.address = "10.0.0.1") : NetworkBenchmarkExpectation where
  authorizedAddresses := ["10.0.0.1"]
  tcpOpen := []
  udpOpen := []
  services := []
  operatingSystems := l
  authorized_ne := List.cons_ne_nil _ _
  authorized_nodup := List.nodup_singleton _
  tcp_valid := ⟨List.nodup_nil, fun _ hx => absurd hx List.not_mem_nil⟩
  udp_valid := ⟨List.nodup_nil, fun _ hx => absurd hx List.not_mem_nil⟩
  services_valid := ⟨List.nodup_nil, fun _ hx => absurd hx List.not_mem_nil⟩
  os_valid := ⟨hnodup, fun x hx => List.mem_singleton.mpr (hhost x hx)⟩

def windowsExpected : ExpectedOperatingSystem := ⟨"10.0.0.1", "Windows", by decide⟩

def linuxExpected : ExpectedOperatingSystem := ⟨"10.0.0.1", "Linux", by decide⟩

/-- One host that is found to be a Windows host. -/
def windowsObserved : Observations :=
  ⟨[], [], [], [⟨"10.0.0.1", ⟨"Windows", "high"⟩⟩]⟩

def windowsChecked : Checked :=
  ⟨[], [], [], [("10.0.0.1", ⟨"10.0.0.1", ⟨"Windows", "high"⟩⟩)]⟩

theorem check_windowsObserved : windowsObserved.check = .ok windowsChecked := by
  decide +kernel

/-- What one host is expected to be. -/
def oneExpected : NetworkBenchmarkExpectation :=
  hostExpectation [windowsExpected] (List.nodup_singleton _) fun _ hx =>
    List.mem_singleton.mp hx ▸ rfl

/-- One expectation and one observation have one order. -/
theorem distinguished_one : Distinguished asciiLower oneExpected windowsObserved := by
  intro e₁ e₂ o₁ o₂ c₁ c₂ he₁ he₂ ho₁ ho₂ hc₁ hc₂ _
  have hexpectation : ∀ e', oneExpected.Permuted e' → ∀ c,
      fingerprintText asciiLower e' c = fingerprintText asciiLower oneExpected c := by
    rintro ⟨authorized, tcp, udp, services, os, _, _, _, _, _, _⟩ he' c
    obtain ⟨rfl, htcp, hudp, hservices, hos⟩ := he'
    obtain rfl := htcp.nil_eq
    obtain rfl := hudp.nil_eq
    obtain rfl := hservices.nil_eq
    obtain rfl := hos.singleton_eq
    rfl
  have hobservations : ∀ o', windowsObserved.Permuted o' → o' = windowsObserved := by
    rintro ⟨tcp, udp, services, fingerprints⟩ ⟨htcp, hudp, hservices, hfingerprints⟩
    obtain rfl := htcp.nil_eq
    obtain rfl := hudp.nil_eq
    obtain rfl := hservices.nil_eq
    obtain rfl := hfingerprints.singleton_eq
    rfl
  rw [hobservations o₁ ho₁] at hc₁
  rw [hobservations o₂ ho₂] at hc₂
  obtain rfl := Except.ok.inj (hc₁.symm.trans hc₂)
  rw [hexpectation e₁ he₁, hexpectation e₂ he₂]

/-- A host that is what it is expected to be. -/
theorem one_benchmark :
    ((compare asciiLower oneExpected windowsChecked 1).expectedCoverageComplete = true ↔
      Covered asciiLower oneExpected windowsObserved) ∧
    ∀ e' o', oneExpected.Permuted e' → windowsObserved.Permuted o' →
      benchmarkNetworkObservations asciiLower e' o' 1 =
        .ok (compare asciiLower oneExpected windowsChecked 1) := by
  have hresult : benchmarkNetworkObservations asciiLower oneExpected windowsObserved 1 =
      .ok (compare asciiLower oneExpected windowsChecked 1) :=
    benchmark_eq_ok.mpr ⟨by decide, windowsChecked, check_windowsObserved, rfl⟩
  refine (benchmark_law_iff hresult distinguished_one).mpr ⟨?_, ?_⟩
  · intro x hx y hy _
    rw [List.mem_singleton.mp hx, List.mem_singleton.mp hy]
  · intro r hr s hs _ _ _
    rw [List.mem_singleton.mp hr, List.mem_singleton.mp hs]

/-- One host that is expected to be both. -/
def bothExpected : NetworkBenchmarkExpectation :=
  hostExpectation [linuxExpected, windowsExpected] (by decide) fun _ hx => by
    rcases List.mem_pair.mp hx with rfl | rfl <;> rfl

/-- The first of two expectations of a host is not compared. -/
theorem first_platform_lost : ¬ ∀ (lower : String → String) (e : NetworkBenchmarkExpectation)
    (o : Observations) (durationMs : Rat) (result : NetworkBenchmarkResult),
    benchmarkNetworkObservations lower e o durationMs = .ok result →
      (result.expectedCoverageComplete = true ↔ Covered lower e o) ∧
        ∀ e' o', e.Permuted e' → o.Permuted o' →
          benchmarkNetworkObservations lower e' o' durationMs = .ok result := by
  intro h
  have hresult : benchmarkNetworkObservations asciiLower bothExpected windowsObserved 1 =
      .ok (compare asciiLower bothExpected windowsChecked 1) :=
    benchmark_eq_ok.mpr ⟨by decide, windowsChecked, check_windowsObserved, rfl⟩
  have hcovered := (h asciiLower bothExpected windowsObserved 1 _ hresult).1.mp (by decide +kernel)
  obtain ⟨r, hr, -, -, hplatform⟩ := hcovered.operatingSystems linuxExpected List.mem_cons_self
  rw [List.mem_singleton.mp hr] at hplatform
  exact absurd hplatform (by decide +kernel)

end NightRecon.RedEngine.NetworkBenchmark
