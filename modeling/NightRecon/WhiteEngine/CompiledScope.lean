import NightRecon.Lib.Collect
import NightRecon.Lib.IpaddressExclude
import NightRecon.Lib.IpaddressRoundTrip
import NightRecon.SharedCore.TargetNormalForm
import NightRecon.WhiteEngine.PolicyCompiler

/-!
# What a compiled scope authorizes

`nightrecon_white_engine/policy_compiler.py`, continued: the fragments that are left of the allowed
rules authorize what an allowed rule authorizes on its own and no exclusion touches.

* `Target.Covers`, `Touches` — the addresses of a target, and two targets that have an address or
  the host name in common: what a scope means, apart from how it is compiled;
* `Pieces` — the invariant of the subtraction: the pieces cover the rest of the source, and every
  block of the rest lies inside one of them; `pieces_subtractAll`;
* `ruleValues_authorize` — the values one rule adds authorize what the rule authorizes outside the
  exclusions;
* `effectiveScope_authorizes` — so does the effective scope.
-/

namespace NightRecon.WhiteEngine.PolicyCompiler

open NightRecon.Lib
open NightRecon.Lib.Checks
open NightRecon.Lib.Cidr
open NightRecon.Lib.Collect
open NightRecon.Lib.Ipaddress
open NightRecon.Lib.Text
open NightRecon.SharedCore.Authorization
open NightRecon.WhiteEngine.EngagementDomain hiding PolicyArgs

/-! ## What targets mean -/

/-- The addresses of a target: a host name has none. -/
def Covers (t : Target) (version : IpVersion) (a : Nat) : Prop :=
  match t.targetType with
  | .hostname => False
  | .ipv4 | .ipv6 => ∃ address, ipAddress t.value = some address ∧ address.version = version ∧
      address.value = a
  | .cidr => ∃ network, ipNetwork t.value = some network ∧ network.version = version ∧
      a ∈ network.block

/-- Two targets are one host name, or have an address in common. -/
def Touches (x t : Target) : Prop :=
  (x.targetType = .hostname ∧ t.targetType = .hostname ∧ x.value = t.value) ∨
    ∃ version a, Covers x version a ∧ Covers t version a

/-! ## Parsed targets -/

/-- What parsing says of the value of a target. -/
theorem parse_shape {value : String} {t : Target} (h : parseTarget value = .ok t) :
    match t.targetType with
    | .hostname => True
    | .ipv4 => ∃ a, ipAddress t.value = some a ∧ a.version = .v4
    | .ipv6 => ∃ a, ipAddress t.value = some a ∧ a.version = .v6
    | .cidr => ∃ n, ipNetwork t.value = some n := by
  unfold parseTarget at h
  dsimp only at h
  generalize strip value = s at h
  split at h
  · cases h
  split at h
  · split at h
    · next n hn =>
      cases h
      exact ⟨n, hn⟩
    · cases h
  split at h
  · next a ha =>
    cases h
    cases hv : a.version with
    | v4 => simpa [hv] using ⟨a, ha, hv⟩
    | v6 => simpa [hv] using ⟨a, ha, hv⟩
  split at h
  · cases h
    trivial
  · cases h

/-- Whether a target is an address, with the address. -/
def IsAddress (t : Target) (a : IpAddress) : Prop :=
  (t.targetType = .ipv4 ∨ t.targetType = .ipv6) ∧ ipAddress t.value = some a

/-- Whether a target is a network, with the network. -/
def IsNetwork (t : Target) (n : IpNetwork) : Prop :=
  t.targetType = .cidr ∧ ipNetwork t.value = some n

/-- **A parsed target is a host name, an address or a network.** -/
theorem parse_cases {value : String} {t : Target} (h : parseTarget value = .ok t) :
    t.targetType = .hostname ∨ (∃ a, IsAddress t a) ∨ ∃ n, IsNetwork t n := by
  have hshape := parse_shape h
  cases htype : t.targetType with
  | hostname => exact .inl rfl
  | ipv4 =>
    rw [htype] at hshape
    obtain ⟨a, ha, -⟩ := hshape
    exact .inr (.inl ⟨a, .inl htype, ha⟩)
  | ipv6 =>
    rw [htype] at hshape
    obtain ⟨a, ha, -⟩ := hshape
    exact .inr (.inl ⟨a, .inr htype, ha⟩)
  | cidr =>
    rw [htype] at hshape
    obtain ⟨n, hn⟩ := hshape
    exact .inr (.inr ⟨n, htype, hn⟩)

theorem covers_hostname {t : Target} (h : t.targetType = .hostname) (version : IpVersion)
    (a : Nat) : ¬ Covers t version a := by
  simp [Covers, h]

theorem covers_address {t : Target} {address : IpAddress} (h : IsAddress t address)
    (version : IpVersion) (a : Nat) :
    Covers t version a ↔ address.version = version ∧ address.value = a := by
  obtain ⟨htype | htype, hread⟩ := h
  · simp [Covers, htype, hread]
  · simp [Covers, htype, hread]

theorem covers_network {t : Target} {n : IpNetwork} (h : IsNetwork t n) (version : IpVersion)
    (a : Nat) : Covers t version a ↔ n.version = version ∧ a ∈ n.block := by
  simp [Covers, h.1, h.2]

/-! ## Matching -/

theorem matchesRule_hostname {rule t : Target} (h : t.targetType = .hostname) :
    matchesRule rule t = true ↔ rule.targetType = .hostname ∧ rule.value = t.value := by
  simp [matchesRule, h]

theorem matchesRule_address {rule t : Target} {a : IpAddress} (h : IsAddress t a) :
    matchesRule rule t = true ↔
      IsAddress rule a ∨ ∃ n, IsNetwork rule n ∧ n.contains a := by
  obtain ⟨htype, hread⟩ := h
  -- The rule does not see which of the two kinds of address the target is.
  have hkind : matchesRule rule t = matchesRule rule ⟨t.value, .ipv4⟩ := by
    rcases htype with htype | htype <;> simp only [matchesRule, htype]
  rw [hkind]
  cases hrule : rule.targetType with
  | hostname => simp [matchesRule, IsAddress, IsNetwork, hread, hrule]
  | ipv4 => simp [matchesRule, IsAddress, IsNetwork, hread, hrule]
  | ipv6 => simp [matchesRule, IsAddress, IsNetwork, hread, hrule]
  | cidr =>
    cases hn : ipNetwork rule.value with
    | none => simp [matchesRule, IsAddress, IsNetwork, hread, hrule, hn]
    | some n => simp [matchesRule, IsAddress, IsNetwork, hread, hrule, hn]

theorem matchesRule_network {rule t : Target} {m : IpNetwork} (h : IsNetwork t m) :
    matchesRule rule t = true ↔
      ∃ n, IsNetwork rule n ∧ n.version = m.version ∧ m.subnetOf n := by
  obtain ⟨htype, hread⟩ := h
  by_cases hrule : rule.targetType = .cidr
  · cases hn : ipNetwork rule.value with
    | none => simp [matchesRule, IsNetwork, htype, hread, hrule, hn]
    | some n =>
      by_cases hv : n.version = m.version
      · simp [matchesRule, IsNetwork, htype, hread, hrule, hn, hv]
      · simp [matchesRule, IsNetwork, htype, hread, hrule, hn, hv]
  · simp [matchesRule, IsNetwork, htype, hread, hrule]

/-! ## The subtraction -/

/-- The pieces left of a source when the addresses in `gone` are taken out. -/
structure Pieces (source : IpNetwork) (gone : Nat → Prop) (pieces : List IpNetwork) : Prop where
  kind : ∀ p ∈ pieces, p.version = source.version ∧ p.zone = none
  mem : ∀ a, (∃ p ∈ pieces, a ∈ p.block) ↔ a ∈ source.block ∧ ¬ gone a
  whole : ∀ t : Block, t ⊆ source.block → (∀ a ∈ t, ¬ gone a) → ∃ p ∈ pieces, t ⊆ p.block

/-- The addresses of an exclusion, as far as they are of the version. -/
def InNetwork (version : IpVersion) (n : IpNetwork) (a : Nat) : Prop :=
  n.version = version ∧ a ∈ n.block

theorem pieces_start {source : IpNetwork} (h : source.zone = none) :
    Pieces source (fun _ => False) [source] where
  kind p hp := by
    rw [List.mem_singleton.mp hp]
    exact ⟨rfl, h⟩
  mem a := by simp
  whole t ht _ := ⟨source, List.mem_singleton_self _, ht⟩

/-- Nothing of a network is in a disjoint one. -/
theorem not_inNetwork {allowed excluded : IpNetwork}
    (h : allowed.version ≠ excluded.version ∨ ¬ allowed.overlaps excluded) {a : Nat}
    (ha : a ∈ allowed.block) : ¬ InNetwork allowed.version excluded a := by
  rintro ⟨hv, hmem⟩
  rcases h with hne | hno
  · exact hne hv.symm
  · rw [IpNetwork.overlaps_iff] at hno
    exact hno ⟨hv.symm, fun hd => hd a ha hmem⟩

/-- **What one exclusion leaves of one network.** -/
theorem pieces_subtractNetwork {allowed excluded : IpNetwork} {ps : List IpNetwork}
    (hz : allowed.zone = none) (h : subtractNetwork allowed excluded = .ok ps) :
    Pieces allowed (InNetwork allowed.version excluded) ps := by
  unfold subtractNetwork at h
  split_ifs at h with hapart hinside haround
  · -- nothing in common
    cases h
    refine ⟨?_, ?_, fun t ht _ => ⟨allowed, List.mem_singleton_self _, ht⟩⟩
    · intro p hp
      rw [List.mem_singleton.mp hp]
      exact ⟨rfl, hz⟩
    · intro a
      have hnot := fun ha : a ∈ allowed.block => not_inNetwork hapart ha
      simp only [List.mem_singleton, exists_eq_left]
      exact ⟨fun ha => ⟨ha, hnot ha⟩, fun ha => ha.1⟩
  all_goals
    have hv : excluded.version = allowed.version := by
      by_contra hne
      exact hapart (.inl fun heq => hne heq.symm)
  · -- the whole network is taken out
    cases h
    have hsub := IpNetwork.block_subset_of_subnetOf hinside
    refine ⟨fun p hp => absurd hp List.not_mem_nil, ?_, ?_⟩
    · intro a
      simp only [List.not_mem_nil, false_and, exists_false, false_iff, not_and, not_not]
      exact fun ha => ⟨hv, Block.mem_of_subset hsub ha⟩
    · intro t ht hgone
      have hfirst := Block.mem_of_subset (Block.subset_trans ht hsub) t.first_mem
      exact absurd ⟨hv, hfirst⟩ (hgone _ t.first_mem)
  · -- a part is taken out
    have hsub := IpNetwork.block_subset_of_subnetOf haround
    rw [getOrRaise_eq_ok] at h
    obtain ⟨hblocks, hkind⟩ := IpNetwork.addressExclude_blocks h hv haround
    have hpiece : ∀ P : Block → Prop, (∃ p ∈ ps, P p.block) ↔
        ∃ b ∈ Block.exclude allowed.block excluded.block, P b := by
      intro P
      rw [← hblocks]
      simp
    refine ⟨hkind, ?_, ?_⟩
    · intro a
      rw [hpiece fun b => a ∈ b, Block.mem_exclude hsub]
      simp [InNetwork, hv]
    · intro t ht hgone
      rw [hpiece fun b => t ⊆ b]
      exact Block.subset_exclude hsub ht fun a ha hmem => hgone a ha ⟨hv, hmem⟩

/-- The exclusion of one more network keeps the invariant. -/
theorem pieces_subtractFrom {source excluded : IpNetwork} {gone : Nat → Prop}
    {pieces next : List IpNetwork} (h : Pieces source gone pieces)
    (hnext : subtractFrom pieces excluded = .ok next) :
    Pieces source (fun a => gone a ∨ InNetwork source.version excluded a) next := by
  simp only [subtractFrom, bind_eq_ok, pure_eq_ok, Except.ok.injEq] at hnext
  obtain ⟨parts, hparts, rfl⟩ := hnext
  have hpart : ∀ ps ∈ parts, ∃ p ∈ pieces, Pieces p (InNetwork source.version excluded) ps := by
    intro ps hps
    obtain ⟨p, hp, hsubtract⟩ := mem_of_mapM hparts hps
    have hkept := pieces_subtractNetwork (h.kind p hp).2 hsubtract
    rw [(h.kind p hp).1] at hkept
    exact ⟨p, hp, hkept⟩
  have hturn : ∀ p ∈ pieces, ∃ ps ∈ parts, Pieces p (InNetwork source.version excluded) ps := by
    intro p hp
    obtain ⟨ps, hps, hsubtract⟩ := mapM_turn hparts hp
    have hkept := pieces_subtractNetwork (h.kind p hp).2 hsubtract
    rw [(h.kind p hp).1] at hkept
    exact ⟨ps, hps, hkept⟩
  refine ⟨?_, ?_, ?_⟩
  · intro q hq
    obtain ⟨ps, hps, hq⟩ := List.mem_flatten.mp hq
    obtain ⟨p, hp, hkept⟩ := hpart ps hps
    obtain ⟨hversion, hzone⟩ := hkept.kind q hq
    exact ⟨hversion.trans (h.kind p hp).1, hzone⟩
  · intro a
    constructor
    · rintro ⟨q, hq, ha⟩
      obtain ⟨ps, hps, hq⟩ := List.mem_flatten.mp hq
      obtain ⟨p, hp, hkept⟩ := hpart ps hps
      obtain ⟨hap, hexcluded⟩ := (hkept.mem a).mp ⟨q, hq, ha⟩
      obtain ⟨hsource, hgone⟩ := (h.mem a).mp ⟨p, hp, hap⟩
      exact ⟨hsource, fun hor => hor.elim hgone hexcluded⟩
    · rintro ⟨hsource, hnot⟩
      obtain ⟨p, hp, hap⟩ := (h.mem a).mpr ⟨hsource, fun hgone => hnot (.inl hgone)⟩
      obtain ⟨ps, hps, hkept⟩ := hturn p hp
      obtain ⟨q, hq, ha⟩ := (hkept.mem a).mpr ⟨hap, fun hexcluded => hnot (.inr hexcluded)⟩
      exact ⟨q, List.mem_flatten.mpr ⟨ps, hps, hq⟩, ha⟩
  · intro t ht hnot
    obtain ⟨p, hp, htp⟩ := h.whole t ht fun a ha hgone => hnot a ha (.inl hgone)
    obtain ⟨ps, hps, hkept⟩ := hturn p hp
    obtain ⟨q, hq, htq⟩ := hkept.whole t htp fun a ha hexcluded => hnot a ha (.inr hexcluded)
    exact ⟨q, List.mem_flatten.mpr ⟨ps, hps, hq⟩, htq⟩

/-- **What all exclusions leave of a network.** -/
theorem pieces_subtractAll {source : IpNetwork} {excluded ps : List IpNetwork}
    (hz : source.zone = none) (h : subtractAll source excluded = .ok ps) :
    Pieces source (fun a => ∃ e ∈ excluded, InNetwork source.version e a) ps := by
  have hloop := foldlM_induct
    (P := fun done pieces => Pieces source (fun a => ∃ e ∈ done, InNetwork source.version e a) pieces)
    ?_ excluded [] [source] ps ?_ h
  · simpa using hloop
  · intro done e pieces next hpieces hnext
    have hkept := pieces_subtractFrom hpieces hnext
    simpa [or_and_right, exists_or] using hkept
  · simpa using pieces_start hz

/-! ## The values of one rule -/

/-- Some value of the list authorizes the target, as a rule of its own. -/
def Authorizes (values : List String) (t : Target) : Prop :=
  ∃ v ∈ values, ∃ rule, parseTarget v = .ok rule ∧ matchesRule rule t = true

/-- What the compiler keeps of the exclusions touches the target. -/
def Excluded (hostnames : List String) (networks : List IpNetwork) (t : Target) : Prop :=
  (t.targetType = .hostname ∧ t.value ∈ hostnames) ∨
    ∃ n ∈ networks, ∃ a, Covers t n.version a ∧ a ∈ n.block

/-- The text of an unzoned address is a rule for the address. -/
theorem parse_addressStr {a : IpAddress} (hz : a.zone = none) :
    ∃ rule, parseTarget a.str = .ok rule ∧ IsAddress rule a := by
  obtain ⟨hne, hspace⟩ := chars_noSpace hz
  have hread := ipAddress_str (zoneReadable_of_none hz)
  have hslash := (parseAddress_chars (zoneReadable_of_none hz)).1
  have hstr : a.str.toList = a.chars := by simp [IpAddress.str]
  have hempty : a.str ≠ "" := by
    intro h
    rw [h] at hstr
    exact hne hstr.symm
  have hstrip : strip a.str = a.str := by
    apply strip_eq_self
    rw [hstr]
    exact hspace
  rw [← hstr] at hslash
  refine ⟨⟨a.str, if a.version = .v4 then .ipv4 else .ipv6⟩, ?_, ?_, hread⟩
  · unfold parseTarget
    simp [hstrip, hempty, hslash, hread]
  · by_cases hv : a.version = .v4
    · exact .inl (by simp [hv])
    · exact .inr (by simp [hv])

/-- The text of an unzoned network is a rule for the network. -/
theorem parse_networkStr {n : IpNetwork} (hz : n.zone = none) :
    ∃ rule, parseTarget n.str = .ok rule ∧ IsNetwork rule n := by
  have hzone : n.networkAddress.zone = none := hz
  obtain ⟨-, hspace⟩ := chars_noSpace hzone
  have hread := ipNetwork_str (zoneReadable_of_none hzone)
  have hstr : n.str.toList = n.networkAddress.chars ++ '/' :: decChars n.prefixlen := by
    simp [IpNetwork.str]
  have hslash : '/' ∈ n.str.toList := by simp [hstr]
  have hempty : n.str ≠ "" := by
    intro h
    rw [h] at hslash
    exact absurd hslash (by simp)
  have hdigits : ∀ c ∈ decChars n.prefixlen, isSpace c = false := by
    have hle := n.prefixlen_le
    have hbits := bits_le n.version
    have hall := isDigit_decChars (by omega : n.prefixlen < 1000)
    exact fun c hc => isSpace_of_isDigit (List.all_eq_true.mp hall c hc)
  have hstrip : strip n.str = n.str := by
    apply strip_eq_self
    intro c hc
    rw [hstr, List.mem_append, List.mem_cons] at hc
    rcases hc with hc | rfl | hc
    · exact hspace c hc
    · rfl
    · exact hdigits c hc
  refine ⟨⟨n.str, .cidr⟩, ?_, rfl, hread⟩
  unfold parseTarget
  simp [hstrip, hempty, hslash, hread]

theorem ruleValues_hostname {hostnames : List String} {networks : List IpNetwork} {rule : Target}
    (h : rule.targetType = .hostname) :
    ruleValues hostnames networks rule =
      .ok (if rule.value ∈ hostnames then [] else [rule.value]) := by
  simp only [ruleValues, h]

theorem ruleValues_address {hostnames : List String} {networks : List IpNetwork} {rule : Target}
    {a : IpAddress} (h : IsAddress rule a) :
    ruleValues hostnames networks rule =
      .ok (if ∃ n ∈ networks, n.contains a then [] else [a.str]) := by
  obtain ⟨htype | htype, hread⟩ := h
  · simp only [ruleValues, htype, hread, getOrRaise_some, ok_bind, pure_eq_ok]
  · simp only [ruleValues, htype, hread, getOrRaise_some, ok_bind, pure_eq_ok]

theorem ruleValues_network {hostnames : List String} {networks : List IpNetwork} {rule : Target}
    {source : IpNetwork} (h : IsNetwork rule source) {vs : List String} :
    ruleValues hostnames networks rule = .ok vs ↔
      ∃ ps, subtractAll source networks = .ok ps ∧ vs = ps.map IpNetwork.str := by
  obtain ⟨htype, hread⟩ := h
  simp only [ruleValues, htype, hread, getOrRaise_some, ok_bind]
  rw [bind_eq_ok]
  simp only [pure_eq_ok, Except.ok.injEq, @eq_comm _ vs]

/-- Whether a network left of an address rule holds the address. -/
theorem excluded_address {hostnames : List String} {networks : List IpNetwork} {t : Target}
    {a : IpAddress} (h : IsAddress t a) :
    Excluded hostnames networks t ↔ ∃ n ∈ networks, n.contains a := by
  have htype : t.targetType ≠ .hostname := by
    rcases h.1 with htype | htype
    · simp [htype]
    · simp [htype]
  simp only [Excluded, htype, false_and, false_or, covers_address h, IpNetwork.contains]
  constructor
  · rintro ⟨n, hn, x, ⟨hv, rfl⟩, hmem⟩
    exact ⟨n, hn, hv.symm, hmem⟩
  · rintro ⟨n, hn, hv, hmem⟩
    exact ⟨n, hn, a.value, ⟨hv.symm, rfl⟩, hmem⟩

theorem excluded_network {hostnames : List String} {networks : List IpNetwork} {t : Target}
    {m : IpNetwork} (h : IsNetwork t m) :
    Excluded hostnames networks t ↔
      ∃ a ∈ m.block, ∃ n ∈ networks, InNetwork m.version n a := by
  have htype : t.targetType ≠ .hostname := by simp [h.1]
  simp only [Excluded, htype, false_and, false_or, covers_network h, InNetwork]
  constructor
  · rintro ⟨n, hn, a, ⟨hv, ha⟩, hmem⟩
    exact ⟨a, ha, n, hn, hv.symm, hmem⟩
  · rintro ⟨a, ha, n, hn, hv, hmem⟩
    exact ⟨n, hn, a, ⟨hv.symm, ha⟩, hmem⟩

theorem excluded_hostname {hostnames : List String} {networks : List IpNetwork} {t : Target}
    (h : t.targetType = .hostname) : Excluded hostnames networks t ↔ t.value ∈ hostnames := by
  simp [Excluded, h, covers_hostname h]

/-! ## What a rule of each kind matches -/

theorem matches_hostname_rule {rule t : Target} {value : String} (h : rule.targetType = .hostname)
    (ht : parseTarget value = .ok t) :
    matchesRule rule t = true ↔ t.targetType = .hostname ∧ rule.value = t.value := by
  rcases parse_cases ht with htype | ⟨a, ha⟩ | ⟨m, hm⟩
  · simp [matchesRule_hostname htype, h, htype]
  · have hne : t.targetType ≠ .hostname := by
      rcases ha.1 with htype | htype
      · simp [htype]
      · simp [htype]
    simp [matchesRule_address ha, IsAddress, IsNetwork, h, hne]
  · simp [matchesRule_network hm, IsNetwork, h, hm.1]

theorem matches_address_rule {rule t : Target} {value : String} {a : IpAddress}
    (h : IsAddress rule a) (ht : parseTarget value = .ok t) :
    matchesRule rule t = true ↔ IsAddress t a := by
  have hhost : rule.targetType ≠ .hostname := by
    rcases h.1 with htype | htype
    · simp [htype]
    · simp [htype]
  have hcidr : rule.targetType ≠ .cidr := by
    rcases h.1 with htype | htype
    · simp [htype]
    · simp [htype]
  rcases parse_cases ht with htype | ⟨b, hb⟩ | ⟨m, hm⟩
  · simp [matchesRule_hostname htype, hhost, IsAddress, htype]
  · rw [matchesRule_address hb]
    constructor
    · rintro (hrule | ⟨n, hn, -⟩)
      · have hsame : a = b := Option.some.inj (h.2.symm.trans hrule.2)
        rw [hsame]
        exact hb
      · exact absurd hn.1 hcidr
    · intro hta
      have hsame : a = b := Option.some.inj (hta.2.symm.trans hb.2)
      rw [← hsame]
      exact .inl h
  · simp [matchesRule_network hm, IsNetwork, hcidr, IsAddress, hm.1]

/-- What an unzoned network matches, among the targets without a zone. -/
theorem matches_network_rule {rule t : Target} {value : String} {n : IpNetwork}
    (h : IsNetwork rule n) (hz : n.zone = none) (ht : parseTarget value = .ok t)
    (hpercent : '%' ∉ t.value.toList) :
    matchesRule rule t = true ↔ (∃ a, IsAddress t a ∧ n.contains a) ∨
      ∃ m, IsNetwork t m ∧ m.version = n.version ∧ m.block ⊆ n.block := by
  have hsame : ∀ {k : IpNetwork}, IsNetwork rule k → k = n :=
    fun hk => Option.some.inj (hk.2.symm.trans h.2)
  rcases parse_cases ht with htype | ⟨a, ha⟩ | ⟨m, hm⟩
  · simp [matchesRule_hostname htype, h.1, IsAddress, IsNetwork, htype]
  · have hcidr : t.targetType ≠ .cidr := by
      rcases ha.1 with htype | htype
      · simp [htype]
      · simp [htype]
    rw [matchesRule_address ha]
    constructor
    · rintro (hrule | ⟨k, hk, hcontains⟩)
      · rcases hrule.1 with htype | htype
        · exact absurd (htype.symm.trans h.1) (by simp)
        · exact absurd (htype.symm.trans h.1) (by simp)
      · rw [hsame hk] at hcontains
        exact .inl ⟨a, ha, hcontains⟩
    · rintro (⟨b, hb, hcontains⟩ | ⟨m, hm, -⟩)
      · obtain rfl : a = b := Option.some.inj (ha.2.symm.trans hb.2)
        exact .inr ⟨n, h, hcontains⟩
      · exact absurd hm.1 hcidr
  · have hmz : m.zone = none := zone_of_ipNetwork hpercent hm.2
    rw [matchesRule_network hm]
    constructor
    · rintro ⟨k, hk, hv, hsub⟩
      rw [hsame hk] at hv hsub
      exact .inr ⟨m, hm, hv.symm, IpNetwork.block_subset_of_subnetOf hsub⟩
    · rintro (⟨a, ha, -⟩ | ⟨m', hm', hv, hsub⟩)
      · rcases ha.1 with htype | htype
        · exact absurd (htype.symm.trans hm.1) (by simp)
        · exact absurd (htype.symm.trans hm.1) (by simp)
      · obtain rfl : m = m' := Option.some.inj (hm.2.symm.trans hm'.2)
        exact ⟨n, h, hv.symm, IpNetwork.subnetOf_of_block_subset hsub (hz.trans hmz.symm)⟩

/-! ## What the pieces of a network hold -/

section Pieces

variable {source : IpNetwork} {networks ps : List IpNetwork}

theorem Pieces.contains_iff
    (h : Pieces source (fun a => ∃ e ∈ networks, InNetwork source.version e a) ps)
    (a : IpAddress) :
    (∃ p ∈ ps, p.contains a) ↔ source.contains a ∧ ¬ ∃ n ∈ networks, n.contains a := by
  constructor
  · rintro ⟨p, hp, hv, hmem⟩
    obtain ⟨hsource, hnot⟩ := (h.mem a.value).mp ⟨p, hp, hmem⟩
    have hversion : source.version = a.version := (h.kind p hp).1.symm.trans hv
    refine ⟨⟨hversion, hsource⟩, ?_⟩
    rintro ⟨n, hn, hnv, hin⟩
    exact hnot ⟨n, hn, hnv.trans hversion.symm, hin⟩
  · rintro ⟨⟨hv, hsource⟩, hnot⟩
    have hout : ¬ ∃ e ∈ networks, InNetwork source.version e a.value := by
      rintro ⟨n, hn, hnv, hin⟩
      exact hnot ⟨n, hn, hnv.trans hv, hin⟩
    obtain ⟨p, hp, hmem⟩ := (h.mem a.value).mpr ⟨hsource, hout⟩
    exact ⟨p, hp, (h.kind p hp).1.trans hv, hmem⟩

theorem Pieces.subset_iff
    (h : Pieces source (fun a => ∃ e ∈ networks, InNetwork source.version e a) ps)
    (m : IpNetwork) :
    (∃ p ∈ ps, m.version = p.version ∧ m.block ⊆ p.block) ↔
      (m.version = source.version ∧ m.block ⊆ source.block) ∧
        ¬ ∃ a ∈ m.block, ∃ n ∈ networks, InNetwork m.version n a := by
  constructor
  · rintro ⟨p, hp, hv, hsub⟩
    have hversion : m.version = source.version := hv.trans (h.kind p hp).1
    have hrest : ∀ a ∈ m.block, a ∈ source.block ∧
        ¬ ∃ e ∈ networks, InNetwork source.version e a :=
      fun a ha => (h.mem a).mp ⟨p, hp, Block.mem_of_subset hsub ha⟩
    refine ⟨⟨hversion, Block.subset_iff.mpr fun a ha => (hrest a ha).1⟩, ?_⟩
    rintro ⟨a, ha, hn⟩
    rw [hversion] at hn
    exact (hrest a ha).2 hn
  · rintro ⟨⟨hv, hsub⟩, hnot⟩
    have hout : ∀ a ∈ m.block, ¬ ∃ e ∈ networks, InNetwork source.version e a := by
      intro a ha hn
      rw [← hv] at hn
      exact hnot ⟨a, ha, hn⟩
    obtain ⟨p, hp, hinside⟩ := h.whole m.block hsub hout
    exact ⟨p, hp, hv.trans (h.kind p hp).1.symm, hinside⟩

end Pieces

/-! ## What the values of one rule authorize -/

theorem authorizes_nil (t : Target) : ¬ Authorizes [] t := by
  rintro ⟨v, hv, -⟩
  exact absurd hv List.not_mem_nil

theorem authorizes_singleton {v : String} {rule t : Target} (h : parseTarget v = .ok rule) :
    Authorizes [v] t ↔ matchesRule rule t = true := by
  simp [Authorizes, h]

/-- The texts of networks authorize what one of the networks matches. -/
theorem authorizes_networks {ps : List IpNetwork} {t : Target} {value : String}
    (hz : ∀ p ∈ ps, p.zone = none) (ht : parseTarget value = .ok t)
    (hpercent : '%' ∉ t.value.toList) :
    Authorizes (ps.map IpNetwork.str) t ↔
      (∃ a, IsAddress t a ∧ ∃ p ∈ ps, p.contains a) ∨
        ∃ m, IsNetwork t m ∧ ∃ p ∈ ps, m.version = p.version ∧ m.block ⊆ p.block := by
  constructor
  · rintro ⟨v, hv, rule, hrule, hmatch⟩
    obtain ⟨p, hp, rfl⟩ := List.mem_map.mp hv
    obtain ⟨rule', hrule', hnetwork⟩ := parse_networkStr (hz p hp)
    obtain rfl : rule' = rule := Except.ok.inj (hrule'.symm.trans hrule)
    rcases (matches_network_rule hnetwork (hz p hp) ht hpercent).mp hmatch with
      ⟨a, ha, hin⟩ | ⟨m, hm, hv, hsub⟩
    · exact .inl ⟨a, ha, p, hp, hin⟩
    · exact .inr ⟨m, hm, p, hp, hv, hsub⟩
  · intro h
    have hpiece : ∃ p ∈ ps, (∃ a, IsAddress t a ∧ p.contains a) ∨
        ∃ m, IsNetwork t m ∧ m.version = p.version ∧ m.block ⊆ p.block := by
      rcases h with ⟨a, ha, p, hp, hin⟩ | ⟨m, hm, p, hp, hin⟩
      · exact ⟨p, hp, .inl ⟨a, ha, hin⟩⟩
      · exact ⟨p, hp, .inr ⟨m, hm, hin⟩⟩
    obtain ⟨p, hp, hin⟩ := hpiece
    obtain ⟨rule, hrule, hnetwork⟩ := parse_networkStr (hz p hp)
    exact ⟨p.str, List.mem_map_of_mem hp, rule, hrule,
      (matches_network_rule hnetwork (hz p hp) ht hpercent).mpr hin⟩

/-- **The values one rule adds authorize what the rule authorizes outside the exclusions.** -/
theorem ruleValues_authorize {hostnames : List String} {networks : List IpNetwork}
    {rule t : Target} {vs : List String} {ruleText value : String}
    (hrule : parseTarget ruleText = .ok rule) (hunzoned : '%' ∉ rule.value.toList)
    (h : ruleValues hostnames networks rule = .ok vs) (ht : parseTarget value = .ok t)
    (hpercent : '%' ∉ t.value.toList) :
    Authorizes vs t ↔ matchesRule rule t = true ∧ ¬ Excluded hostnames networks t := by
  rcases parse_cases hrule with htype | ⟨a, ha⟩ | ⟨source, hsource⟩
  · -- a host name is kept unless it is excluded
    rw [ruleValues_hostname htype] at h
    obtain rfl := Except.ok.inj h
    rw [matches_hostname_rule htype ht]
    split_ifs with hmem
    · refine iff_of_false (authorizes_nil t) ?_
      rintro ⟨⟨hhost, hvalue⟩, hnot⟩
      rw [excluded_hostname hhost, ← hvalue] at hnot
      exact hnot hmem
    · rw [authorizes_singleton (parseTarget_value hrule), matches_hostname_rule htype ht]
      constructor
      · rintro ⟨hhost, hvalue⟩
        refine ⟨⟨hhost, hvalue⟩, ?_⟩
        rw [excluded_hostname hhost, ← hvalue]
        exact hmem
      · exact fun hboth => hboth.1
  · -- an address is kept unless an excluded network has it
    rw [ruleValues_address ha] at h
    obtain rfl := Except.ok.inj h
    rw [matches_address_rule ha ht]
    split_ifs with hin
    · refine iff_of_false (authorizes_nil t) ?_
      rintro ⟨hta, hnot⟩
      exact hnot ((excluded_address hta).mpr hin)
    · obtain ⟨rule', hrule', ha'⟩ := parse_addressStr (zone_of_ipAddress hunzoned ha.2)
      rw [authorizes_singleton hrule', matches_address_rule ha' ht]
      constructor
      · exact fun hta => ⟨hta, fun hex => hin ((excluded_address hta).mp hex)⟩
      · exact fun hboth => hboth.1
  · -- a network is cut into pieces
    have hz : source.zone = none := zone_of_ipNetwork hunzoned hsource.2
    obtain ⟨ps, hps, rfl⟩ := (ruleValues_network hsource).mp h
    have hpieces := pieces_subtractAll hz hps
    rw [authorizes_networks (fun p hp => (hpieces.kind p hp).2) ht hpercent,
      matches_network_rule hsource hz ht hpercent]
    constructor
    · rintro (⟨a, ha, hin⟩ | ⟨m, hm, hin⟩)
      · obtain ⟨hcontains, hnot⟩ := (hpieces.contains_iff a).mp hin
        exact ⟨.inl ⟨a, ha, hcontains⟩, fun hex => hnot ((excluded_address ha).mp hex)⟩
      · obtain ⟨hsub, hnot⟩ := (hpieces.subset_iff m).mp hin
        exact ⟨.inr ⟨m, hm, hsub⟩, fun hex => hnot ((excluded_network hm).mp hex)⟩
    · rintro ⟨⟨a, ha, hcontains⟩ | ⟨m, hm, hsub⟩, hnot⟩
      · rw [excluded_address ha] at hnot
        exact .inl ⟨a, ha, (hpieces.contains_iff a).mpr ⟨hcontains, hnot⟩⟩
      · rw [excluded_network hm] at hnot
        exact .inr ⟨m, hm, (hpieces.subset_iff m).mpr ⟨hsub, hnot⟩⟩

/-! ## The exclusions -/

/-- The network of a target has the addresses of the target. -/
theorem covers_iff_network {x : Target} {value : String} (h : parseTarget value = .ok x)
    (version : IpVersion) (a : Nat) :
    Covers x version a ↔ ∃ n, networkForTarget x = some n ∧ n.version = version ∧ a ∈ n.block := by
  rcases parse_cases h with htype | ⟨address, haddress⟩ | ⟨n, hn⟩
  · simp [covers_hostname htype, networkForTarget, htype]
  · have hnetwork : networkForTarget x = some (hostNetwork address) := by
      have hread := ipNetwork_host (zoneReadable_of_ipAddress haddress.2)
      rcases haddress.1 with htype | htype
      · simp only [networkForTarget, htype, haddress.2, Option.bind_some]
        exact hread
      · simp only [networkForTarget, htype, haddress.2, Option.bind_some]
        exact hread
    rw [covers_address haddress, hnetwork]
    constructor
    · rintro ⟨hv, ha⟩
      exact ⟨hostNetwork address, rfl, hv, mem_hostNetwork.mpr ha⟩
    · rintro ⟨n, hn, hv, ha⟩
      obtain rfl := Option.some.inj hn
      exact ⟨hv, mem_hostNetwork.mp ha⟩
  · rw [covers_network hn]
    have hnetwork : networkForTarget x = some n := by
      simp only [networkForTarget, hn.1, hn.2]
    rw [hnetwork]
    constructor
    · exact fun hin => ⟨n, rfl, hin⟩
    · rintro ⟨n', hn', hin⟩
      obtain rfl := Option.some.inj hn'
      exact hin

/-- The host names among the exclusions. -/
def hostnamesOf (excluded : List Target) : List String :=
  (excluded.filter fun t => t.targetType = .hostname).map (·.value)

/-- **What the compiler keeps of the exclusions is what they touch.** -/
theorem excluded_iff_touches {values : List String} {excluded : List Target}
    (h : values.mapM parseTarget = .ok excluded) (t : Target) :
    Excluded (hostnamesOf excluded) (excluded.filterMap networkForTarget) t ↔
      ∃ x ∈ excluded, Touches x t := by
  have hparsed : ∀ x ∈ excluded, ∃ value, parseTarget value = .ok x := by
    intro x hx
    obtain ⟨value, -, hvalue⟩ := mem_of_mapM h hx
    exact ⟨value, hvalue⟩
  constructor
  · rintro (⟨htype, hmem⟩ | ⟨n, hn, a, hcovers, ha⟩)
    · obtain ⟨x, hx, hvalue⟩ := List.mem_map.mp hmem
      obtain ⟨hx, hhost⟩ := List.mem_filter.mp hx
      exact ⟨x, hx, .inl ⟨of_decide_eq_true hhost, htype, hvalue⟩⟩
    · obtain ⟨x, hx, hnetwork⟩ := List.mem_filterMap.mp hn
      obtain ⟨value, hvalue⟩ := hparsed x hx
      have hxcovers := (covers_iff_network hvalue n.version a).mpr ⟨n, hnetwork, rfl, ha⟩
      exact ⟨x, hx, .inr ⟨n.version, a, hxcovers, hcovers⟩⟩
  · rintro ⟨x, hx, ⟨hhost, htype, hvalue⟩ | ⟨version, a, hxcovers, hcovers⟩⟩
    · refine .inl ⟨htype, ?_⟩
      rw [← hvalue]
      exact List.mem_map_of_mem (List.mem_filter.mpr ⟨hx, decide_eq_true hhost⟩)
    · obtain ⟨value, hvalue⟩ := hparsed x hx
      obtain ⟨n, hnetwork, hv, ha⟩ := (covers_iff_network hvalue version a).mp hxcovers
      subst hv
      exact .inr ⟨n, List.mem_filterMap.mpr ⟨x, hx, hnetwork⟩, a, hcovers, ha⟩

/-! ## The effective scope -/

/-- **What a compiled scope was compiled from.** -/
theorem effectiveScope_eq_ok {allowedValues excludedValues scope : List String} :
    effectiveScope allowedValues excludedValues = .ok scope ↔
      ∃ allowed excluded values, allowedValues.mapM parseTarget = .ok allowed ∧
        excludedValues.mapM parseTarget = .ok excluded ∧
        allowed.mapM (ruleValues (hostnamesOf excluded) (excluded.filterMap networkForTarget)) =
          .ok values ∧
        values.flatten ≠ [] ∧ scope = sortedStr values.flatten.dedup := by
  unfold effectiveScope
  simp only [bind_eq_ok, raiseIf_eq_ok, pure_eq_ok, Except.ok.injEq, exists_const]
  constructor
  · rintro ⟨allowed, hallowed, excluded, hexcluded, values, hvalues, hne, rfl⟩
    exact ⟨allowed, excluded, values, hallowed, hexcluded, hvalues, hne, rfl⟩
  · rintro ⟨allowed, excluded, values, hallowed, hexcluded, hvalues, hne, rfl⟩
    exact ⟨allowed, hallowed, excluded, hexcluded, values, hvalues, hne, rfl⟩

/-- The characters of a parsed value that is no host name, and the lower case of a host name. -/
theorem percent_of_parse {value : String} {t : Target} (h : parseTarget value = .ok t)
    (hpercent : '%' ∉ value.toList) : '%' ∉ t.value.toList := by
  have hstrip : '%' ∉ (strip value).toList := by
    rw [toList_strip]
    intro hmem
    apply hpercent
    have hprefix := (List.rdropWhile_prefix isSpace (l := value.toList.dropWhile isSpace)).subset hmem
    exact (List.dropWhile_suffix isSpace).subset hprefix
  unfold parseTarget at h
  dsimp only at h
  generalize strip value = s at h hstrip
  split at h
  · cases h
  split at h
  · split at h
    · cases h
      exact hstrip
    · cases h
  split at h
  · cases h
    exact hstrip
  split at h
  · cases h
    intro hmem
    rw [toList_asciiLower] at hmem
    obtain ⟨c, hc, hlower⟩ := List.mem_map.mp hmem
    rw [lowerChar_eq_iff rfl rfl] at hlower
    subst hlower
    exact hstrip hc
  · cases h

/-- **The effective scope authorizes what an allowed rule authorizes and no exclusion touches.** -/
theorem effectiveScope_authorizes {allowedValues excludedValues scope : List String}
    (h : effectiveScope allowedValues excludedValues = .ok scope)
    (hunzoned : ∀ v ∈ allowedValues, '%' ∉ v.toList) {value : String} {t : Target}
    (ht : parseTarget value = .ok t) (hpercent : '%' ∉ value.toList) :
    Authorizes scope t ↔ Authorizes allowedValues t ∧
      ∀ v ∈ excludedValues, ∀ x, parseTarget v = .ok x → ¬ Touches x t := by
  obtain ⟨allowed, excluded, values, hallowed, hexcluded, hvalues, -, rfl⟩ :=
    effectiveScope_eq_ok.mp h
  have htz := percent_of_parse ht hpercent
  have htouches := excluded_iff_touches hexcluded t
  have hrule : ∀ rule ∈ allowed, ∀ vs,
      ruleValues (hostnamesOf excluded) (excluded.filterMap networkForTarget) rule = .ok vs →
      (Authorizes vs t ↔ matchesRule rule t = true ∧ ¬ ∃ x ∈ excluded, Touches x t) := by
    intro rule hmem vs hvs
    obtain ⟨v, hv, hparse⟩ := mem_of_mapM hallowed hmem
    have hrz := percent_of_parse hparse (hunzoned v hv)
    rw [ruleValues_authorize hparse hrz hvs ht htz, htouches]
  have hnone : (¬ ∃ x ∈ excluded, Touches x t) ↔
      ∀ v ∈ excludedValues, ∀ x, parseTarget v = .ok x → ¬ Touches x t := by
    constructor
    · intro hnot v hv x hx hxt
      obtain ⟨x', hx', hparse⟩ := mapM_turn hexcluded hv
      obtain rfl : x' = x := Except.ok.inj (hparse.symm.trans hx)
      exact hnot ⟨x', hx', hxt⟩
    · rintro hall ⟨x, hx, hxt⟩
      obtain ⟨v, hv, hparse⟩ := mem_of_mapM hexcluded hx
      exact hall v hv x hparse hxt
  rw [← hnone]
  constructor
  · rintro ⟨v, hv, piece, hpiece, hmatch⟩
    rw [mem_sortedStr, List.mem_dedup] at hv
    obtain ⟨vs, hvs, hv⟩ := List.mem_flatten.mp hv
    obtain ⟨rule, hmem, hturn⟩ := mem_of_mapM hvalues hvs
    obtain ⟨hrulematch, hnot⟩ := (hrule rule hmem vs hturn).mp ⟨v, hv, piece, hpiece, hmatch⟩
    obtain ⟨ruleText, hruleText, hparse⟩ := mem_of_mapM hallowed hmem
    exact ⟨⟨ruleText, hruleText, rule, hparse, hrulematch⟩, hnot⟩
  · rintro ⟨⟨ruleText, hruleText, rule, hparse, hrulematch⟩, hnot⟩
    obtain ⟨rule', hmem, hparse'⟩ := mapM_turn hallowed hruleText
    obtain rfl : rule' = rule := Except.ok.inj (hparse'.symm.trans hparse)
    obtain ⟨vs, hvs, hturn⟩ := mapM_turn hvalues hmem
    obtain ⟨v, hv, hauthorized⟩ := (hrule rule' hmem vs hturn).mpr ⟨hrulematch, hnot⟩
    refine ⟨v, ?_, hauthorized⟩
    rw [mem_sortedStr, List.mem_dedup]
    exact List.mem_flatten.mpr ⟨vs, hvs, hv⟩

/-- A scope authorizes what its values authorize as rules. -/
theorem isAuthorized_iff_authorizes {values : List String} {scope : Scope}
    (h : Scope.fromValues values = .ok scope) (t : Target) :
    scope.isAuthorized t = true ↔ Authorizes values t := by
  have hparsed := (Scope.fromValues_eq_ok.mp h).2
  have hmap := mapM_eq_ok.mpr hparsed
  rw [Scope.isAuthorized_iff]
  constructor
  · rintro ⟨rule, hrule, hmatch⟩
    obtain ⟨v, hv, hparse⟩ := mem_of_mapM hmap hrule
    exact ⟨v, hv, rule, hparse, hmatch⟩
  · rintro ⟨v, hv, rule, hparse, hmatch⟩
    obtain ⟨rule', hrule', hparse'⟩ := mapM_turn hmap hv
    obtain rfl : rule' = rule := Except.ok.inj (hparse'.symm.trans hparse)
    exact ⟨rule', hrule', hmatch⟩

end NightRecon.WhiteEngine.PolicyCompiler
