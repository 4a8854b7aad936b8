import NightRecon.Lib.Isoformat
import NightRecon.Lib.Urllib
import NightRecon.RedEngine.NetworkBenchmark

/-!
# Provenance of network benchmarks

`nightrecon_red_engine/network_benchmark_provenance.py`: the result of a benchmark is bound to the
metadata of a lab, and its counts are exported next to the binding.

* `SuppliedResult` — a result as it is handed in, whose counts may be any integers;
* `recordNetworkBenchmarkProvenance`, `verifyNetworkBenchmarkProvenance`, and what is reported;
* `record_eq_ok` — a record depends on the digest and the scope violations of the result only;
* `counts_of_text` — results with one digest text have one set of counts;
* `exported_metrics_iff` — a record exports the counts it was made of exactly for the results whose
  counts are those of their digest.
-/

namespace NightRecon.RedEngine.BenchmarkProvenance

open NightRecon.Lib
open NightRecon.Lib.Checks
open NightRecon.Lib.Datetime
open NightRecon.Lib.Sha256
open NightRecon.Lib.Text
open NightRecon.RedEngine.NetworkBenchmark

/-! ## Results -/

/-- The counts of a result but that of the scope violations. -/
structure Counts where
  expectedTcpOpen : Int
  matchedTcpOpen : Int
  missedTcpOpen : Int
  inventedTcpOpen : Int
  expectedUdpOpen : Int
  matchedUdpOpen : Int
  missedUdpOpen : Int
  inventedUdpOpen : Int
  ambiguousUdpExpectedOpen : Int
  expectedServices : Int
  matchedServices : Int
  missedServices : Int
  inventedServices : Int
  expectedOperatingSystems : Int
  matchedOperatingSystems : Int
  missedOperatingSystems : Int
  conflictingOperatingSystems : Int
  deriving DecidableEq

/-- A result that is handed in. -/
structure SuppliedResult where
  counts : Counts
  scopeViolationCount : Int
  scopeViolations : List String
  comparisonSha256 : String

/-- The counts of a result that was returned. -/
def countsOf (r : NetworkBenchmarkResult) : Counts where
  expectedTcpOpen := r.expectedTcpOpen
  matchedTcpOpen := r.matchedTcpOpen
  missedTcpOpen := r.missedTcpOpen
  inventedTcpOpen := r.inventedTcpOpen
  expectedUdpOpen := r.expectedUdpOpen
  matchedUdpOpen := r.matchedUdpOpen
  missedUdpOpen := r.missedUdpOpen
  inventedUdpOpen := r.inventedUdpOpen
  ambiguousUdpExpectedOpen := r.ambiguousUdpExpectedOpen
  expectedServices := r.expectedServices
  matchedServices := r.matchedServices
  missedServices := r.missedServices
  inventedServices := r.inventedServices
  expectedOperatingSystems := r.expectedOperatingSystems
  matchedOperatingSystems := r.matchedOperatingSystems
  missedOperatingSystems := r.missedOperatingSystems
  conflictingOperatingSystems := r.conflictingOperatingSystems

/-- A result that was returned, handed in. -/
def supplied (r : NetworkBenchmarkResult) : SuppliedResult where
  counts := countsOf r
  scopeViolationCount := r.scopeViolationCount
  scopeViolations := r.scopeViolations
  comparisonSha256 := r.comparisonSha256

/-! ## Records -/

/-- The metadata that a record is made with. -/
structure LabMetadata where
  labRunId : String
  authorizationReference : String
  environmentSha256 : String
  groundTruthSha256 : String
  configurationSha256 : String
  observedAt : String
  comparatorName : Option String
  comparatorVersion : Option String

/-- Source: `network_benchmark_provenance.py` `NetworkBenchmarkProvenance`. -/
structure NetworkBenchmarkProvenance where
  labRunId : String
  authorizationReference : String
  environmentSha256 : String
  groundTruthSha256 : String
  configurationSha256 : String
  benchmarkSha256 : String
  observedAt : String
  comparatorName : Option String
  comparatorVersion : Option String
  evidenceFingerprint : String
  scopeViolationCount : Int
  deriving DecidableEq

/-- The metadata of a record. -/
def NetworkBenchmarkProvenance.metadata (p : NetworkBenchmarkProvenance) : LabMetadata where
  labRunId := p.labRunId
  authorizationReference := p.authorizationReference
  environmentSha256 := p.environmentSha256
  groundTruthSha256 := p.groundTruthSha256
  configurationSha256 := p.configurationSha256
  observedAt := p.observedAt
  comparatorName := p.comparatorName
  comparatorVersion := p.comparatorVersion

/-- A letter or a digit in front, and at most `rest` characters behind. -/
def matchesName (others : String) (rest : Nat) (s : String) : Bool :=
  match s.toList with
  | [] => false
  | c :: l => isAlnum c && l.length ≤ rest && l.all fun d => isAlnum d || others.toList.contains d

/-- `_ID.fullmatch(value)`. -/
def isId (s : String) : Bool := matchesName "_.:-" 127 s

/-- `_LABEL.fullmatch(value)`. -/
def isLabel (s : String) : Bool := matchesName " ._+:/()-" 95 s

/-- A hexadecimal digit of either case. -/
def isHex (c : Char) : Bool := isDigit c || ('a' ≤ c && c ≤ 'f') || ('A' ≤ c && c ≤ 'F')

/-- `_SHA.fullmatch(value)`. -/
def isSha (s : String) : Bool := s.toList.length = 64 && s.toList.all isHex

/-- Source: `network_benchmark_provenance.py` `_sha`. -/
def sha (value field : String) : Py String := do
  require (isSha value = true) (valueError (field ++ " must be a SHA-256 hex digest"))
  return asciiLower value

/-- The address of a label, with the kinds it may be of. -/
def labelAddress (item : String) : Option String :=
  let kind := String.ofList (Urllib.before ':' item.toList)
  if ':' ∈ item.toList ∧ kind ∈ ["tcp", "udp", "service", "os"] then
    some (String.ofList (Urllib.after ':' item.toList))
  else none

/-- The check of one scope violation. -/
def checkLabel (item : String) : Py Unit := do
  let address ← getOrRaise (labelAddress item)
    (valueError "Scope violations must be valid evidence labels")
  let parsed ← getOrRaise (Ipaddress.ipAddress address)
    (valueError "Scope violations must be valid evidence labels")
  raiseIf (address ≠ parsed.str)
    (valueError "Scope violations must be canonical evidence labels")

/-- A date and time with its UTC offset. -/
def asStamp (observedAt : String) : Py DateTime := do
  let stamp ← getOrRaise (fromisoformat observedAt)
    (valueError "observed_at must be a timezone-aware ISO timestamp")
  require (stamp.offset.isSome = true)
    (valueError "observed_at must be a timezone-aware ISO timestamp")
  return stamp

/-- The checks of the metadata but its digests; gives the time stamp. -/
def checkMetadata (m : LabMetadata) : Py DateTime := do
  require (isId m.labRunId = true ∧ isId m.authorizationReference = true)
    (valueError "Invalid lab run or authorization reference")
  let stamp ← asStamp m.observedAt
  require (m.comparatorName.isNone = m.comparatorVersion.isNone)
    (valueError "Comparator name and version must be supplied together")
  require (m.comparatorName.all isLabel = true ∧ m.comparatorVersion.all isLabel = true)
    (valueError "Comparator metadata must be short, non-secret labels")
  return stamp

/-- The checks of the scope violations. -/
def checkScope (result : SuppliedResult) : Py Unit := do
  raiseIf (result.scopeViolationCount < 0) (valueError "Invalid scope violation count")
  raiseIf ((result.scopeViolations.length : Int) ≠ result.scopeViolationCount)
    (valueError "Scope violation count does not match evidence")
  require result.scopeViolations.Nodup
    (valueError "Scope violations must be unique evidence labels")
  result.scopeViolations.forM checkLabel

def fingerprintInput (m : LabMetadata) (environment truth configuration benchmark : String)
    (result : SuppliedResult) : Json :=
  .obj [("schema", .int 2), ("authorization_reference", .str m.authorizationReference),
    ("environment_sha256", .str environment), ("ground_truth_sha256", .str truth),
    ("configuration_sha256", .str configuration), ("benchmark_sha256", .str benchmark),
    ("comparator_name", .ofOption m.comparatorName),
    ("comparator_version", .ofOption m.comparatorVersion),
    ("scope_violation_count", .int result.scopeViolationCount),
    ("scope_violations", .strings result.scopeViolations)]

/-- Source: `network_benchmark_provenance.py` `record_network_benchmark_provenance`. -/
def recordNetworkBenchmarkProvenance (result : SuppliedResult) (m : LabMetadata) :
    Py NetworkBenchmarkProvenance := do
  let stamp ← checkMetadata m
  checkScope result
  let environment ← sha m.environmentSha256 "environment_sha256"
  let truth ← sha m.groundTruthSha256 "ground_truth_sha256"
  let configuration ← sha m.configurationSha256 "configuration_sha256"
  let benchmark ← sha result.comparisonSha256 "benchmark_sha256"
  let input := fingerprintInput m environment truth configuration benchmark result
  return {
    labRunId := m.labRunId
    authorizationReference := m.authorizationReference
    environmentSha256 := environment
    groundTruthSha256 := truth
    configurationSha256 := configuration
    benchmarkSha256 := benchmark
    observedAt := isoformat stamp
    comparatorName := m.comparatorName
    comparatorVersion := m.comparatorVersion
    evidenceFingerprint := hexOf (Json.dumps input).toList
    scopeViolationCount := result.scopeViolationCount }

/-- Source: `network_benchmark_provenance.py` `verify_network_benchmark_provenance`. -/
def verifyNetworkBenchmarkProvenance (provenance : NetworkBenchmarkProvenance)
    (result : SuppliedResult) : Bool :=
  match recordNetworkBenchmarkProvenance result provenance.metadata with
  | .ok expected => provenance = expected
  | .error _ => false

/-! ## Reports -/

/-- Source: `network_benchmark_provenance.py` `report_network_benchmark_provenance_status`. -/
def reportNetworkBenchmarkProvenanceStatus (provenance : NetworkBenchmarkProvenance)
    (result : SuppliedResult) : Json :=
  let consistent := verifyNetworkBenchmarkProvenance provenance result
  let status :=
    if !consistent then "inconsistent"
    else if provenance.scopeViolationCount ≠ 0 then "scope_violations_observed"
    else "consistent_unverified"
  .obj [("schema", .int 1), ("type", .str "network-benchmark-provenance-status"),
    ("status", .str status), ("consistent", .bool consistent),
    ("evidence_fingerprint",
      if consistent then .str provenance.evidenceFingerprint else .null),
    ("scope_violation_count",
      if consistent then .int provenance.scopeViolationCount else .null),
    ("authorization_effect", .str "none"),
    ("interpretation", .str ("Offline consistency is not independent proof of authorization, " ++
      "target scope, ground truth, specialist-tool parity, or safe execution."))]

/-- The metrics of a result. -/
def metricsOf (result : SuppliedResult) : List (String × Json) :=
  [("expected_tcp_open", .int result.counts.expectedTcpOpen),
    ("matched_tcp_open", .int result.counts.matchedTcpOpen),
    ("missed_tcp_open", .int result.counts.missedTcpOpen),
    ("invented_tcp_open", .int result.counts.inventedTcpOpen),
    ("expected_udp_open", .int result.counts.expectedUdpOpen),
    ("matched_udp_open", .int result.counts.matchedUdpOpen),
    ("missed_udp_open", .int result.counts.missedUdpOpen),
    ("invented_udp_open", .int result.counts.inventedUdpOpen),
    ("ambiguous_udp_expected_open", .int result.counts.ambiguousUdpExpectedOpen),
    ("expected_services", .int result.counts.expectedServices),
    ("matched_services", .int result.counts.matchedServices),
    ("missed_services", .int result.counts.missedServices),
    ("invented_services", .int result.counts.inventedServices),
    ("expected_operating_systems", .int result.counts.expectedOperatingSystems),
    ("matched_operating_systems", .int result.counts.matchedOperatingSystems),
    ("missed_operating_systems", .int result.counts.missedOperatingSystems),
    ("conflicting_operating_systems", .int result.counts.conflictingOperatingSystems),
    ("scope_violation_count", .int result.scopeViolationCount)]

/-- Source: `network_benchmark_provenance.py` `report_network_benchmark_evidence_summary`. -/
def reportNetworkBenchmarkEvidenceSummary (provenance : NetworkBenchmarkProvenance)
    (result : SuppliedResult) : Json :=
  let consistent := verifyNetworkBenchmarkProvenance provenance result
  .obj [("schema", .int 1), ("type", .str "network-benchmark-evidence-summary"),
    ("provenance_status", reportNetworkBenchmarkProvenanceStatus provenance result),
    ("metrics", if consistent then .obj (metricsOf result) else .null),
    ("authorization_effect", .str "none"),
    ("interpretation", .str ("Counts are descriptive observations from an operator-supplied " ++
      "lab comparison, not independent verification, specialist-tool parity, " ++
      "exploitability, or permission to scan."))]

/-- The metrics that are exported. -/
def exportedMetrics (provenance : NetworkBenchmarkProvenance) (result : SuppliedResult) :
    Option Json :=
  (reportNetworkBenchmarkEvidenceSummary provenance result).get? "metrics"

/-! ## What a record is made of -/

section Record

variable {result result' : SuppliedResult} {m : LabMetadata} {p : NetworkBenchmarkProvenance}

/-- The record of a result, from the time stamp of its metadata. -/
def provenanceOf (m : LabMetadata) (stamp : DateTime) (result : SuppliedResult) :
    NetworkBenchmarkProvenance where
  labRunId := m.labRunId
  authorizationReference := m.authorizationReference
  environmentSha256 := asciiLower m.environmentSha256
  groundTruthSha256 := asciiLower m.groundTruthSha256
  configurationSha256 := asciiLower m.configurationSha256
  benchmarkSha256 := asciiLower result.comparisonSha256
  observedAt := isoformat stamp
  comparatorName := m.comparatorName
  comparatorVersion := m.comparatorVersion
  evidenceFingerprint := hexOf (Json.dumps (fingerprintInput m (asciiLower m.environmentSha256)
    (asciiLower m.groundTruthSha256) (asciiLower m.configurationSha256)
    (asciiLower result.comparisonSha256) result)).toList
  scopeViolationCount := result.scopeViolationCount

theorem sha_eq_ok {value field digest : String} :
    sha value field = .ok digest ↔ isSha value = true ∧ asciiLower value = digest := by
  rw [sha, require_bind_eq_ok, pure_eq_ok, Except.ok.injEq]

/-- **When a record is made**, and which one. -/
theorem record_eq_ok : recordNetworkBenchmarkProvenance result m = .ok p ↔
    ∃ stamp, checkMetadata m = .ok stamp ∧ checkScope result = .ok () ∧
      isSha m.environmentSha256 = true ∧ isSha m.groundTruthSha256 = true ∧
      isSha m.configurationSha256 = true ∧ isSha result.comparisonSha256 = true ∧
      provenanceOf m stamp result = p := by
  unfold recordNetworkBenchmarkProvenance
  simp only [bind_eq_ok, sha_eq_ok, pure_eq_ok, Except.ok.injEq]
  constructor
  · rintro ⟨stamp, hstamp, ⟨⟩, hscope, _, ⟨henvironment, rfl⟩, _, ⟨htruth, rfl⟩, _,
      ⟨hconfiguration, rfl⟩, _, ⟨hbenchmark, rfl⟩, rfl⟩
    exact ⟨stamp, hstamp, hscope, henvironment, htruth, hconfiguration, hbenchmark, rfl⟩
  · rintro ⟨stamp, hstamp, hscope, henvironment, htruth, hconfiguration, hbenchmark, rfl⟩
    exact ⟨stamp, hstamp, (), hscope, _, ⟨henvironment, rfl⟩, _, ⟨htruth, rfl⟩, _,
      ⟨hconfiguration, rfl⟩, _, ⟨hbenchmark, rfl⟩, rfl⟩

theorem verify_iff : verifyNetworkBenchmarkProvenance p result = true ↔
    recordNetworkBenchmarkProvenance result p.metadata = .ok p := by
  unfold verifyNetworkBenchmarkProvenance
  split
  · rename_i expected heq
    rw [decide_eq_true_iff, heq, Except.ok.injEq]
    exact eq_comm
  · rename_i heq
    rw [heq]
    exact iff_of_false Bool.false_ne_true fun h => by cases h

/-- A record that verifies for one result verifies for the one it was made of. -/
theorem verify_recorded (hrecord : recordNetworkBenchmarkProvenance result m = .ok p)
    (hverify : verifyNetworkBenchmarkProvenance p result' = true) :
    verifyNetworkBenchmarkProvenance p result = true := by
  obtain ⟨stamp, -, hscope, -, -, -, hbenchmark, rfl⟩ := record_eq_ok.mp hrecord
  obtain ⟨stamp', hstamp', -, henvironment, htruth, hconfiguration, -, hsame⟩ :=
    record_eq_ok.mp (verify_iff.mp hverify)
  refine verify_iff.mpr (record_eq_ok.mpr ⟨stamp', hstamp', hscope, henvironment, htruth,
    hconfiguration, hbenchmark, ?_⟩)
  -- the digests are written in lower case, and the time as it was when it was read
  have htime := congrArg NetworkBenchmarkProvenance.observedAt hsame
  simp only [provenanceOf] at htime
  simp only [provenanceOf, NetworkBenchmarkProvenance.metadata, fingerprintInput,
    asciiLower_asciiLower, htime]

/-- A record that verifies has the digest of the result, and the number of its violations. -/
theorem verified_digest (hverify : verifyNetworkBenchmarkProvenance p result = true) :
    p.benchmarkSha256 = asciiLower result.comparisonSha256 ∧
      p.scopeViolationCount = result.scopeViolationCount := by
  obtain ⟨stamp, -, -, -, -, -, -, hsame⟩ := record_eq_ok.mp (verify_iff.mp hverify)
  rw [← hsame]
  exact ⟨rfl, rfl⟩

/-- The counts of a result play no part. -/
theorem verify_withCounts (counts : Counts) :
    verifyNetworkBenchmarkProvenance p { result with counts := counts } =
      verifyNetworkBenchmarkProvenance p result := rfl

theorem exportedMetrics_of_verified (hverify : verifyNetworkBenchmarkProvenance p result = true) :
    exportedMetrics p result = some (.obj (metricsOf result)) := by
  simp [exportedMetrics, reportNetworkBenchmarkEvidenceSummary, Json.get?, hverify]

/-- Metrics are the counts. -/
theorem metricsOf_inj : metricsOf result = metricsOf result' ↔
    result.counts = result'.counts ∧ result.scopeViolationCount = result'.scopeViolationCount := by
  constructor
  · intro h
    simp only [metricsOf, List.cons.injEq, Prod.mk.injEq, Json.int.injEq, true_and, and_true] at h
    refine ⟨?_, by tauto⟩
    cases hcounts : result.counts
    cases hcounts' : result'.counts
    simp only [hcounts, hcounts'] at h
    simp only [Counts.mk.injEq]
    tauto
  · rintro ⟨hcounts, hscope⟩
    rw [metricsOf, metricsOf, hcounts, hscope]

end Record

/-! ## What a digest says -/

section Digest

variable {lower : String → String} {e e' : NetworkBenchmarkExpectation} {o : Observations}
  {c c' : Checked} {durationMs : Rat} {r : NetworkBenchmarkResult} {r₂ : SuppliedResult}

/-- **One text has one set of counts.** -/
theorem counts_of_text (h : fingerprintText lower e c = fingerprintText lower e' c')
    (durationMs durationMs' : Rat) :
    countsOf (NetworkBenchmark.compare lower e c durationMs) =
      countsOf (NetworkBenchmark.compare lower e' c' durationMs') := by
  have hsame := sameSets_of_text h
  obtain ⟨hlength, hmatched, hmissed⟩ := counts_of_sameSets hsame
  simp only [countsOf, NetworkBenchmark.compare, hsame.expectedTcp, hsame.expectedUdp, hsame.expectedServices,
    hsame.actualTcp, hsame.actualUdp, hsame.ambiguousUdp, hsame.actualServices,
    hsame.conflictingOs, hlength, hmatched, hmissed]

/-- The counts of a result are those of observations that have its digest. -/
def Genuine (lower : String → String) (r : SuppliedResult) : Prop :=
  ∃ e o durationMs r', benchmarkNetworkObservations lower e o durationMs = .ok r' ∧
    r'.comparisonSha256 = asciiLower r.comparisonSha256 ∧ countsOf r' = r.counts

/-- Another text has the digest of a result. -/
def Collides (lower : String → String) (e : NetworkBenchmarkExpectation) (o : Observations) :
    Prop :=
  ∃ (e' : NetworkBenchmarkExpectation) (o' : Observations) (c c' : Checked), o.check = .ok c ∧ o'.check = .ok c' ∧
    fingerprintText lower e c ≠ fingerprintText lower e' c' ∧
    hexOf (fingerprintText lower e c).toList = hexOf (fingerprintText lower e' c').toList

/-- A digest is written in lower case. -/
theorem asciiLower_hexOf (text : List Char) : asciiLower (hexOf text) = hexOf text := by
  have hdigits : ("0123456789abcdef".toList.all fun d => !isUpper d) = true := by
    decide +kernel
  rw [List.all_eq_true] at hdigits
  have hlower : (hexOf text).toList.map lowerChar = (hexOf text).toList := by
    refine (List.map_congr_left fun d hd => ?_).trans (List.map_id _)
    have hdigit := hdigits d ((isSha256Hex_hexOf text).2 d hd)
    rw [Bool.not_eq_true'] at hdigit
    exact lowerChar_of_not_upper hdigit
  rw [asciiLower, hlower, String.ofList_toList]

/-- **When the counts exported are the counts recorded.**  A record that verifies for a result
exports the counts of the benchmark it was made of exactly when the counts of the result are those
of its digest, unless another text has the digest of the benchmark. -/
theorem exported_metrics_iff
    (hbenchmark : benchmarkNetworkObservations lower e o durationMs = .ok r) {m : LabMetadata}
    {p : NetworkBenchmarkProvenance}
    (hrecord : recordNetworkBenchmarkProvenance (supplied r) m = .ok p)
    (hverify : verifyNetworkBenchmarkProvenance p r₂ = true) :
    (exportedMetrics p r₂ = exportedMetrics p (supplied r) ↔ Genuine lower r₂) ∨
      Collides lower e o := by
  have hrecorded := verify_recorded hrecord hverify
  obtain ⟨hdigest, hscope⟩ := verified_digest hverify
  obtain ⟨hdigest', hscope'⟩ := verified_digest hrecorded
  rw [exportedMetrics_of_verified hverify, exportedMetrics_of_verified hrecorded,
    Option.some.injEq, Json.obj.injEq, metricsOf_inj]
  obtain ⟨-, c, hc, rfl⟩ := benchmark_eq_ok.mp hbenchmark
  -- the digest of the result is the digest of the benchmark
  have hsame : hexOf (fingerprintText lower e c).toList = asciiLower r₂.comparisonSha256 := by
    rw [← hdigest, hdigest']
    exact (asciiLower_hexOf _).symm
  by_cases hcollides : Collides lower e o
  · exact .inr hcollides
  refine .inl ⟨?_, ?_⟩
  · rintro ⟨hcounts, -⟩
    exact ⟨e, o, durationMs, _, hbenchmark, hsame, hcounts.symm⟩
  · rintro ⟨e', o', durationMs', r', hbenchmark', hdigest'', hcounts⟩
    obtain ⟨-, c', hc', rfl⟩ := benchmark_eq_ok.mp hbenchmark'
    have htext : fingerprintText lower e c = fingerprintText lower e' c' := by
      by_contra hne
      exact hcollides ⟨e', o', c, c', hc, hc', hne, hsame.trans hdigest''.symm⟩
    refine ⟨?_, hscope.symm.trans hscope'⟩
    rw [← hcounts]
    exact counts_of_text htext.symm _ _

end Digest

/-! ### A lab of one host -/

def digestOfZeros : String := String.ofList (List.replicate 64 '0')

/-- A run in a lab of one host. -/
def labMetadata : LabMetadata :=
  ⟨"lab-1", "auth-1", digestOfZeros, digestOfZeros, digestOfZeros, "2024-01-01T00:00:00+00:00",
    none, none⟩

def labStamp : DateTime :=
  (fromisoformat labMetadata.observedAt).getD ⟨0, none⟩

def oneResult : NetworkBenchmarkResult :=
  NetworkBenchmark.compare asciiLower oneExpected windowsChecked 1

def oneProvenance : NetworkBenchmarkProvenance :=
  provenanceOf labMetadata labStamp (supplied oneResult)

/-- The result, with a port that was never matched. -/
def alteredResult : SuppliedResult :=
  { supplied oneResult with counts := { countsOf oneResult with matchedTcpOpen := 1 } }

theorem benchmark_one :
    benchmarkNetworkObservations asciiLower oneExpected windowsObserved 1 = .ok oneResult :=
  benchmark_eq_ok.mpr ⟨by decide, windowsChecked, check_windowsObserved, rfl⟩

theorem isSha_hexOf (text : List Char) : isSha (hexOf text) = true := by
  obtain ⟨hlength, hdigits⟩ := isSha256Hex_hexOf text
  have hhex : ("0123456789abcdef".toList.all isHex) = true := by decide +kernel
  rw [isSha, Bool.and_eq_true, decide_eq_true_iff, List.all_eq_true]
  exact ⟨hlength, fun c hc => List.all_eq_true.mp hhex c (hdigits c hc)⟩

theorem record_one :
    recordNetworkBenchmarkProvenance (supplied oneResult) labMetadata = .ok oneProvenance := by
  have hzeros : isSha digestOfZeros = true := by decide +kernel
  have hscope : checkScope (supplied oneResult) = .ok () := by
    have hviolations : (supplied oneResult).scopeViolations = [] := by decide +kernel
    have hcount : (supplied oneResult).scopeViolationCount = 0 := by decide +kernel
    rw [checkScope, hviolations, hcount]
    rfl
  exact record_eq_ok.mpr ⟨labStamp, by rfl, hscope, hzeros, hzeros, hzeros, isSha_hexOf _, rfl⟩

theorem verify_one : verifyNetworkBenchmarkProvenance oneProvenance (supplied oneResult) = true := by
  have hzeros : asciiLower digestOfZeros = digestOfZeros := by decide +kernel
  have htime : isoformat labStamp = labMetadata.observedAt := by decide +kernel
  have hmetadata : oneProvenance.metadata = labMetadata := by
    simp only [oneProvenance, provenanceOf, NetworkBenchmarkProvenance.metadata, htime, labMetadata,
      hzeros]
  rw [verify_iff, hmetadata]
  exact record_one

/-- The result that was recorded. -/
theorem one_exported :
    (exportedMetrics oneProvenance (supplied oneResult) =
        exportedMetrics oneProvenance (supplied oneResult) ↔
      Genuine asciiLower (supplied oneResult)) ∨
      Collides asciiLower oneExpected windowsObserved :=
  exported_metrics_iff benchmark_one record_one verify_one

/-- A port that was never matched is exported as consistent with a record. -/
theorem altered_counts_exported :
    ¬ ∀ (lower : String → String) (e : NetworkBenchmarkExpectation) (o : Observations)
      (durationMs : Rat) (r : NetworkBenchmarkResult) (m : LabMetadata)
      (p : NetworkBenchmarkProvenance) (r₂ : SuppliedResult),
      benchmarkNetworkObservations lower e o durationMs = .ok r →
      recordNetworkBenchmarkProvenance (supplied r) m = .ok p →
      verifyNetworkBenchmarkProvenance p r₂ = true →
      exportedMetrics p r₂ = exportedMetrics p (supplied r) := by
  intro h
  have hverify : verifyNetworkBenchmarkProvenance oneProvenance alteredResult = true := by
    rw [alteredResult, verify_withCounts]
    exact verify_one
  have hsame := h _ _ _ _ _ _ _ alteredResult benchmark_one record_one hverify
  rw [exportedMetrics_of_verified hverify, exportedMetrics_of_verified verify_one,
    Option.some.injEq, Json.obj.injEq, metricsOf_inj] at hsame
  have hmatched : (1 : Int) = 0 := congrArg Counts.matchedTcpOpen hsame.1
  exact absurd hmatched (by decide)

end NightRecon.RedEngine.BenchmarkProvenance
