import NightRecon.WhiteEngine.CompiledScope

/-!
# When an engagement is compiled, and into what

`nightrecon_white_engine/policy_compiler.py`, continued: the compiler preserves what was approved,
and it fails only where it has to.

* `subtractAll_returns` — among networks without a zone the subtraction never gets stuck;
* `Remains`, `ruleValues_ne_nil` — an allowed rule of which something is left adds a value;
* `effectiveScope_returns` — a scope is compiled exactly when something is left of it;
* `compile_returns_iff` — an engagement is compiled exactly when its intrusiveness and its
  techniques can be said in a policy and something is left of its scope;
* `compiledScope_authorizes_iff` — a compiled policy authorizes a target exactly when some allowed
  rule does and no excluded rule touches it.
-/

namespace NightRecon.WhiteEngine.PolicyCompiler

open NightRecon.Lib
open NightRecon.Lib.Checks
open NightRecon.Lib.Cidr
open NightRecon.Lib.Collect
open NightRecon.Lib.Datetime
open NightRecon.Lib.Ipaddress
open NightRecon.Lib.Sha256
open NightRecon.Lib.Text
open NightRecon.SharedCore.Authorization
open NightRecon.SharedCore.EngagementPolicy
  (EngagementExecutionPolicy Impact PolicyArgs capabilities isCapability)
open NightRecon.WhiteEngine.EngagementDomain hiding PolicyArgs
open NightRecon.WhiteEngine.Fields

/-! ## The subtraction returns -/

/-- Aligned networks never overlap in part. -/
theorem subtractNetwork_returns {allowed excluded : IpNetwork} (ha : allowed.zone = none)
    (he : excluded.zone = none) : ∃ ps, subtractNetwork allowed excluded = .ok ps := by
  unfold subtractNetwork
  split_ifs with hapart hinside haround
  · exact ⟨_, rfl⟩
  · exact ⟨_, rfl⟩
  · have hv : excluded.version = allowed.version := by
      by_contra hne
      exact hapart (.inl fun heq => hne heq.symm)
    obtain ⟨ps, hps⟩ := Option.isSome_iff_exists.mp (IpNetwork.addressExclude_isSome hv he haround)
    rw [hps]
    exact ⟨ps, rfl⟩
  · exfalso
    simp only [not_or, not_not, IpNetwork.overlaps_iff] at hapart
    obtain ⟨-, -, hmeet⟩ := hapart
    rcases Block.subset_or_subset_or_disjoint allowed.block excluded.block with hsub | hsub | hd
    · exact hinside (IpNetwork.subnetOf_of_block_subset hsub (he.trans ha.symm))
    · exact haround (IpNetwork.subnetOf_of_block_subset hsub (ha.trans he.symm))
    · exact hmeet hd

theorem subtractFrom_returns {pieces : List IpNetwork} {excluded : IpNetwork}
    (hp : ∀ p ∈ pieces, p.zone = none) (he : excluded.zone = none) :
    ∃ next, subtractFrom pieces excluded = .ok next ∧ ∀ p ∈ next, p.zone = none := by
  obtain ⟨parts, hparts⟩ := mapM_returns (f := fun p => subtractNetwork p excluded) fun p hmem =>
    subtractNetwork_returns (hp p hmem) he
  refine ⟨parts.flatten, ?_, ?_⟩
  · rw [subtractFrom, hparts, ok_bind]
    rfl
  · intro q hq
    obtain ⟨ps, hps, hq⟩ := List.mem_flatten.mp hq
    obtain ⟨p, hmem, hturn⟩ := mem_of_mapM hparts hps
    exact ((pieces_subtractNetwork (hp p hmem) hturn).kind q hq).2

/-- **Networks without a zone are always taken out of one another.** -/
theorem subtractAll_returns {source : IpNetwork} {excluded : List IpNetwork}
    (hz : source.zone = none) (he : ∀ e ∈ excluded, e.zone = none) :
    ∃ ps, subtractAll source excluded = .ok ps := by
  have hloop : ∀ (l pieces : List IpNetwork), (∀ e ∈ l, e.zone = none) →
      (∀ p ∈ pieces, p.zone = none) → ∃ ps, l.foldlM subtractFrom pieces = .ok ps := by
    intro l
    induction l with
    | nil => exact fun pieces _ _ => ⟨pieces, rfl⟩
    | cons e l ih =>
      intro pieces hl hpieces
      obtain ⟨next, hnext, hunzoned⟩ := subtractFrom_returns hpieces (hl e List.mem_cons_self)
      obtain ⟨ps, hps⟩ := ih next (fun e' he' => hl e' (List.mem_cons_of_mem _ he')) hunzoned
      rw [List.foldlM_cons, hnext, ok_bind]
      exact ⟨ps, hps⟩
  apply hloop excluded [source] he
  intro p hp
  rw [List.mem_singleton.mp hp]
  exact hz

/-! ## What is left of a rule -/

/-- Something is left of a rule: its host name is not excluded, or one of its addresses is not. -/
def Remains (excludedValues : List String) (rule : Target) : Prop :=
  (rule.targetType = .hostname ∧ ∀ v ∈ excludedValues, ∀ x, parseTarget v = .ok x →
      ¬ (x.targetType = .hostname ∧ x.value = rule.value)) ∨
    ∃ version a, Covers rule version a ∧
      ∀ v ∈ excludedValues, ∀ x, parseTarget v = .ok x → ¬ Covers x version a

/-- **A rule adds a value exactly when something is left of it.** -/
theorem ruleValues_ne_nil {hostnames : List String} {networks : List IpNetwork} {rule : Target}
    {vs : List String} {value : String} (hrule : parseTarget value = .ok rule)
    (hunzoned : '%' ∉ rule.value.toList) (h : ruleValues hostnames networks rule = .ok vs) :
    vs ≠ [] ↔ (rule.targetType = .hostname ∧ rule.value ∉ hostnames) ∨
      ∃ version a, Covers rule version a ∧
        ¬ ∃ n ∈ networks, n.version = version ∧ a ∈ n.block := by
  rcases parse_cases hrule with htype | ⟨address, haddress⟩ | ⟨source, hsource⟩
  · rw [ruleValues_hostname htype] at h
    obtain rfl := Except.ok.inj h
    simp [htype, covers_hostname htype]
  · have hhost : rule.targetType ≠ .hostname := by
      rcases haddress.1 with htype | htype
      · simp [htype]
      · simp [htype]
    rw [ruleValues_address haddress] at h
    obtain rfl := Except.ok.inj h
    simp only [hhost, false_and, false_or, covers_address haddress]
    split_ifs with hin
    · refine iff_of_false (by simp) ?_
      rintro ⟨version, a, ⟨rfl, rfl⟩, hnot⟩
      exact hnot hin
    · exact iff_of_true (by simp) ⟨_, _, ⟨rfl, rfl⟩, hin⟩
  · have hhost : rule.targetType ≠ .hostname := by simp [hsource.1]
    have hz : source.zone = none := zone_of_ipNetwork hunzoned hsource.2
    obtain ⟨ps, hps, rfl⟩ := (ruleValues_network hsource).mp h
    have hpieces := pieces_subtractAll hz hps
    simp only [hhost, false_and, false_or, covers_network hsource, ne_eq, List.map_eq_nil_iff]
    constructor
    · intro hne
      obtain ⟨p, rest, rfl⟩ := List.exists_cons_of_ne_nil hne
      obtain ⟨hin, hnot⟩ := (hpieces.mem p.block.first).mp ⟨p, List.mem_cons_self, p.block.first_mem⟩
      exact ⟨source.version, p.block.first, ⟨rfl, hin⟩, hnot⟩
    · rintro ⟨version, a, ⟨rfl, hin⟩, hnot⟩ hnil
      obtain ⟨p, hp, -⟩ := (hpieces.mem a).mpr ⟨hin, hnot⟩
      rw [hnil] at hp
      exact absurd hp List.not_mem_nil

/-- Every value a rule adds is a rule again. -/
theorem ruleValues_parse {hostnames : List String} {networks : List IpNetwork} {rule : Target}
    {vs : List String} {value : String} (hrule : parseTarget value = .ok rule)
    (hunzoned : '%' ∉ rule.value.toList) (h : ruleValues hostnames networks rule = .ok vs) :
    ∀ v ∈ vs, ∃ t, parseTarget v = .ok t := by
  rcases parse_cases hrule with htype | ⟨address, haddress⟩ | ⟨source, hsource⟩
  · rw [ruleValues_hostname htype] at h
    obtain rfl := Except.ok.inj h
    split_ifs
    · exact fun v hv => absurd hv List.not_mem_nil
    · intro v hv
      rw [List.mem_singleton.mp hv]
      exact ⟨rule, parseTarget_value hrule⟩
  · obtain ⟨t, ht, -⟩ := parse_addressStr (zone_of_ipAddress hunzoned haddress.2)
    rw [ruleValues_address haddress] at h
    obtain rfl := Except.ok.inj h
    split_ifs
    · exact fun v hv => absurd hv List.not_mem_nil
    · intro v hv
      rw [List.mem_singleton.mp hv]
      exact ⟨t, ht⟩
  · obtain ⟨ps, hps, rfl⟩ := (ruleValues_network hsource).mp h
    have hpieces := pieces_subtractAll (zone_of_ipNetwork hunzoned hsource.2) hps
    intro v hv
    obtain ⟨p, hp, rfl⟩ := List.mem_map.mp hv
    obtain ⟨t, ht, -⟩ := parse_networkStr (hpieces.kind p hp).2
    exact ⟨t, ht⟩

/-- Among rules and exclusions without a zone, every rule has its values. -/
theorem ruleValues_returns {hostnames : List String} {networks : List IpNetwork} {rule : Target}
    {value : String} (hrule : parseTarget value = .ok rule) (hunzoned : '%' ∉ rule.value.toList)
    (hnetworks : ∀ n ∈ networks, n.zone = none) :
    ∃ vs, ruleValues hostnames networks rule = .ok vs := by
  rcases parse_cases hrule with htype | ⟨address, haddress⟩ | ⟨source, hsource⟩
  · exact ⟨_, ruleValues_hostname htype⟩
  · exact ⟨_, ruleValues_address haddress⟩
  · have hz : source.zone = none := zone_of_ipNetwork hunzoned hsource.2
    obtain ⟨ps, hps⟩ := subtractAll_returns hz hnetworks
    exact ⟨ps.map IpNetwork.str, (ruleValues_network hsource).mpr ⟨ps, hps, rfl⟩⟩

/-- The network of a target without a zone has none. -/
theorem zone_of_networkForTarget {x : Target} {n : IpNetwork} {value : String}
    (h : parseTarget value = .ok x) (hpercent : '%' ∉ x.value.toList)
    (hn : networkForTarget x = some n) : n.zone = none := by
  rcases parse_cases h with htype | ⟨address, haddress⟩ | ⟨m, hm⟩
  · simp [networkForTarget, htype] at hn
  · have hread := ipNetwork_host (zoneReadable_of_ipAddress haddress.2)
    have hz := zone_of_ipAddress hpercent haddress.2
    have hhost : n = hostNetwork address := by
      rcases haddress.1 with htype | htype
      · simp only [networkForTarget, htype, haddress.2, Option.bind_some] at hn
        exact Option.some.inj (hn.symm.trans hread)
      · simp only [networkForTarget, htype, haddress.2, Option.bind_some] at hn
        exact Option.some.inj (hn.symm.trans hread)
    have hzone := congrArg IpAddress.zone (networkAddress_hostNetwork address)
    rw [hhost]
    exact hzone.trans hz
  · simp only [networkForTarget, hm.1] at hn
    exact zone_of_ipNetwork hpercent hn

/-! ## The effective scope returns -/

section Scope

variable {allowedValues excludedValues : List String}

/-- What the compiler keeps of the exclusions leaves of a rule what they leave. -/
theorem remains_iff {excluded : List Target} (hexcluded : excludedValues.mapM parseTarget =
    .ok excluded) (rule : Target) :
    Remains excludedValues rule ↔
      (rule.targetType = .hostname ∧ rule.value ∉ hostnamesOf excluded) ∨
        ∃ version a, Covers rule version a ∧
          ¬ ∃ n ∈ excluded.filterMap networkForTarget, n.version = version ∧ a ∈ n.block := by
  have hname : (∀ v ∈ excludedValues, ∀ x, parseTarget v = .ok x →
      ¬ (x.targetType = .hostname ∧ x.value = rule.value)) ↔
        rule.value ∉ hostnamesOf excluded := by
    constructor
    · intro hnot hmem
      obtain ⟨x, hx, hvalue⟩ := List.mem_map.mp hmem
      obtain ⟨hx, hhost⟩ := List.mem_filter.mp hx
      obtain ⟨v, hv, hparse⟩ := mem_of_mapM hexcluded hx
      exact hnot v hv x hparse ⟨of_decide_eq_true hhost, hvalue⟩
    · rintro hnot v hv x hparse ⟨hhost, hvalue⟩
      obtain ⟨x', hx', hparse'⟩ := mapM_turn hexcluded hv
      obtain rfl : x' = x := Except.ok.inj (hparse'.symm.trans hparse)
      apply hnot
      rw [← hvalue]
      exact List.mem_map_of_mem (List.mem_filter.mpr ⟨hx', decide_eq_true hhost⟩)
  have hcovers : ∀ version a, (∀ v ∈ excludedValues, ∀ x, parseTarget v = .ok x →
      ¬ Covers x version a) ↔
        ¬ ∃ n ∈ excluded.filterMap networkForTarget, n.version = version ∧ a ∈ n.block := by
    intro version a
    constructor
    · rintro hnot ⟨n, hn, hin⟩
      obtain ⟨x, hx, hnetwork⟩ := List.mem_filterMap.mp hn
      obtain ⟨v, hv, hparse⟩ := mem_of_mapM hexcluded hx
      exact hnot v hv x hparse ((covers_iff_network hparse version a).mpr ⟨n, hnetwork, hin⟩)
    · rintro hnot v hv x hparse hx
      obtain ⟨x', hx', hparse'⟩ := mapM_turn hexcluded hv
      obtain rfl : x' = x := Except.ok.inj (hparse'.symm.trans hparse)
      obtain ⟨n, hnetwork, hin⟩ := (covers_iff_network hparse version a).mp hx
      exact hnot ⟨n, List.mem_filterMap.mpr ⟨x', hx', hnetwork⟩, hin⟩
  simp only [Remains, hname, hcovers]

/-- **A scope is compiled exactly when something is left of an allowed rule**, and then all its
values are rules. -/
theorem effectiveScope_returns (hallowed : ∀ v ∈ allowedValues, ∃ t, parseTarget v = .ok t)
    (hexcluded : ∀ v ∈ excludedValues, ∃ t, parseTarget v = .ok t)
    (hunzoned : ∀ v ∈ allowedValues, '%' ∉ v.toList)
    (hexunzoned : ∀ v ∈ excludedValues, '%' ∉ v.toList) :
    (∃ scope, effectiveScope allowedValues excludedValues = .ok scope) ↔
      ∃ v ∈ allowedValues, ∃ rule, parseTarget v = .ok rule ∧ Remains excludedValues rule := by
  obtain ⟨allowed, hA⟩ := mapM_returns hallowed
  obtain ⟨excluded, hX⟩ := mapM_returns hexcluded
  have hnetworks : ∀ n ∈ excluded.filterMap networkForTarget, n.zone = none := by
    intro n hn
    obtain ⟨x, hx, hnetwork⟩ := List.mem_filterMap.mp hn
    obtain ⟨v, hv, hparse⟩ := mem_of_mapM hX hx
    exact zone_of_networkForTarget hparse (percent_of_parse hparse (hexunzoned v hv)) hnetwork
  have hreturns : ∀ rule ∈ allowed, ∃ vs,
      ruleValues (hostnamesOf excluded) (excluded.filterMap networkForTarget) rule = .ok vs := by
    intro rule hrule
    obtain ⟨v, hv, hparse⟩ := mem_of_mapM hA hrule
    exact ruleValues_returns hparse (percent_of_parse hparse (hunzoned v hv)) hnetworks
  obtain ⟨values, hV⟩ := mapM_returns hreturns
  constructor
  · rintro ⟨scope, hscope⟩
    obtain ⟨allowed', excluded', values', hA', hX', hV', hne, -⟩ := effectiveScope_eq_ok.mp hscope
    obtain rfl : allowed' = allowed := Except.ok.inj (hA'.symm.trans hA)
    obtain rfl : excluded' = excluded := Except.ok.inj (hX'.symm.trans hX)
    obtain ⟨value, rest, hcons⟩ := List.exists_cons_of_ne_nil hne
    have hmem : value ∈ values'.flatten := by
      rw [hcons]
      exact List.mem_cons_self
    obtain ⟨vs, hvs, hvalue⟩ := List.mem_flatten.mp hmem
    obtain ⟨rule, hrule, hturn⟩ := mem_of_mapM hV' hvs
    obtain ⟨v, hv, hparse⟩ := mem_of_mapM hA hrule
    have hleft := (ruleValues_ne_nil hparse (percent_of_parse hparse (hunzoned v hv)) hturn).mp
      (List.ne_nil_of_mem hvalue)
    exact ⟨v, hv, rule, hparse, (remains_iff hX rule).mpr hleft⟩
  · rintro ⟨v, hv, rule, hparse, hremains⟩
    obtain ⟨rule', hrule, hparse'⟩ := mapM_turn hA hv
    obtain rfl : rule' = rule := Except.ok.inj (hparse'.symm.trans hparse)
    obtain ⟨vs, hvs, hturn⟩ := mapM_turn hV hrule
    have hleft := (ruleValues_ne_nil hparse (percent_of_parse hparse (hunzoned v hv)) hturn).mpr
      ((remains_iff hX rule').mp hremains)
    refine ⟨_, effectiveScope_eq_ok.mpr ⟨allowed, excluded, values, hA, hX, hV, ?_, rfl⟩⟩
    intro hnil
    obtain ⟨value, rest, rfl⟩ := List.exists_cons_of_ne_nil hleft
    have hmem : value ∈ values.flatten := List.mem_flatten.mpr ⟨_, hvs, List.mem_cons_self⟩
    rw [hnil] at hmem
    exact absurd hmem List.not_mem_nil

/-- The values of an effective scope make a scope. -/
theorem effectiveScope_parses {scope : List String} (hunzoned : ∀ v ∈ allowedValues, '%' ∉ v.toList)
    (h : effectiveScope allowedValues excludedValues = .ok scope) :
    (Scope.fromValues scope).toOption.isSome = true := by
  obtain ⟨allowed, excluded, values, hA, -, hV, hne, rfl⟩ := effectiveScope_eq_ok.mp h
  have hparse : ∀ v ∈ sortedStr values.flatten.dedup, ∃ t, parseTarget v = .ok t := by
    intro v hv
    rw [mem_sortedStr, List.mem_dedup] at hv
    obtain ⟨vs, hvs, hv⟩ := List.mem_flatten.mp hv
    obtain ⟨rule, hrule, hturn⟩ := mem_of_mapM hV hvs
    obtain ⟨ruleText, hruleText, hparse⟩ := mem_of_mapM hA hrule
    exact ruleValues_parse hparse (percent_of_parse hparse (hunzoned _ hruleText)) hturn v hv
  obtain ⟨rules, hrules⟩ := mapM_returns hparse
  have hsome : sortedStr values.flatten.dedup ≠ [] := by
    intro hnil
    obtain ⟨value, rest, hcons⟩ := List.exists_cons_of_ne_nil hne
    have hmem : value ∈ sortedStr values.flatten.dedup := by
      rw [mem_sortedStr, List.mem_dedup, hcons]
      exact List.mem_cons_self
    rw [hnil] at hmem
    exact absurd hmem List.not_mem_nil
  have hfrom : Scope.fromValues (sortedStr values.flatten.dedup) = .ok ⟨rules⟩ :=
    Scope.fromValues_eq_ok.mpr ⟨hsome, mapM_eq_ok.mp hrules⟩
  rw [hfrom]
  rfl

end Scope

/-! ## The policy is built -/

/-- When a list of capabilities is accepted. -/
theorem capabilities_isSome_iff {values : List String} {field : String} :
    (capabilities values field).toOption.isSome = true ↔
      values ≠ [] ∧ values.Nodup ∧ ∀ v ∈ values, isCapability v = true := by
  have hok : (capabilities values field).toOption.isSome = true ↔
      ∃ sorted, capabilities values field = .ok sorted := by
    cases capabilities values field with
    | ok a => exact iff_of_true rfl ⟨a, rfl⟩
    | error e => simp [Except.toOption]
  rw [hok]
  unfold capabilities
  simp only [raiseIf_bind_eq_ok, pure_eq_ok, Except.ok.injEq, not_not]
  constructor
  · rintro ⟨sorted, hne, hnodup, hvalid, -⟩
    refine ⟨hne, hnodup, fun v hv => ?_⟩
    by_contra hnot
    exact hvalid ⟨v, hv, by simpa using hnot⟩
  · rintro ⟨hne, hnodup, hvalid⟩
    refine ⟨_, hne, hnodup, ?_, rfl⟩
    rintro ⟨v, hv, hfalse⟩
    rw [hvalid v hv] at hfalse
    cases hfalse

/-- **The policy of an engagement is built** when its scope makes a scope and its techniques are
capabilities. -/
theorem policyArgs_make {engagement : EngagementDefinition} {scope : List String}
    {maxImpact : Impact} (hscope : (Scope.fromValues scope).toOption.isSome = true) :
    (∃ policy, (policyArgs engagement scope maxImpact).make = .ok policy) ↔
      ∀ t ∈ engagement.roe.allowedTechniques.values, isCapability t = true := by
  have hsorted := engagement.roe.allowedTechniques.sorted
  constructor
  · rintro ⟨policy, hpolicy⟩ t ht
    have hargs := EngagementExecutionPolicy.args_of_make hpolicy
    have hpermitted : policy.permittedCapabilities = engagement.roe.allowedTechniques.values :=
      (congrArg PolicyArgs.permittedCapabilities hargs).trans hsorted
    have hvalid := (capabilities_isSome_iff.mp policy.permitted_valid).2.2
    rw [hpermitted] at hvalid
    exact hvalid t ht
  · intro hvalid
    have hpermitted : (capabilities engagement.roe.allowedTechniques.values
        "permitted_capabilities").toOption.isSome = true := by
      refine capabilities_isSome_iff.mpr ⟨?_, engagement.roe.allowedTechniques.nodup, hvalid⟩
      intro hnil
      have henough := engagement.roe.allowedTechniques.enough
      rw [hnil] at henough
      exact absurd henough (by simp)
    let policy : EngagementExecutionPolicy :=
      { engagementId := engagement.engagementId
        scope := scope
        validFrom := engagement.roe.validFrom
        validUntil := engagement.roe.validUntil
        maxActions := engagement.roe.maxActions
        permittedCapabilities := engagement.roe.allowedTechniques.values
        maxImpact := maxImpact
        approvalRequiredCapabilities := []
        revoked := false
        actionsUsed := 0
        engagementId_required := requiredText_of_isIdentifier engagement.engagementId_valid
        scope_parses := hscope
        window := engagement.roe.window
        maxActions_pos := engagement.roe.maxActions_pos
        actionsUsed_le := Nat.zero_le _
        permitted_valid := hpermitted
        required_nodup := List.nodup_nil
        required_permitted := fun c hc => absurd hc List.not_mem_nil }
    refine ⟨policy, EngagementExecutionPolicy.make_eq_ok.mpr ?_⟩
    unfold policyArgs
    rw [hsorted]
    rfl

/-! ## The engagement is compiled -/

/-- The values of a scope definition parse. -/
theorem scope_parses (s : ScopeDefinition) :
    (∀ v ∈ s.allowed.values, ∃ t, parseTarget v = .ok t) ∧
      ∀ v ∈ s.excluded.values, ∃ t, parseTarget v = .ok t := by
  have hparsed : ∀ {values : List String} {scope : Scope}, Scope.fromValues values = .ok scope →
      ∀ v ∈ values, ∃ t, parseTarget v = .ok t := by
    intro values scope h v hv
    obtain ⟨t, -, ht⟩ := mapM_turn (mapM_eq_ok.mpr (Scope.fromValues_eq_ok.mp h).2) hv
    exact ⟨t, ht⟩
  obtain ⟨allowed, hallowed⟩ := Option.isSome_iff_exists.mp s.allowed_parse
  refine ⟨hparsed (eq_ok_of_toOption hallowed), ?_⟩
  obtain ⟨excluded, hexcluded⟩ := Option.isSome_iff_exists.mp s.excluded_parse
  have hread := eq_ok_of_toOption hexcluded
  unfold excludedScope at hread
  split_ifs at hread with hnil
  · rw [hnil]
    exact fun v hv => absurd hv List.not_mem_nil
  · obtain ⟨scope, hscope, -⟩ := map_eq_ok.mp hread
    exact hparsed hscope

/-- The bundle of a compiled policy is built. -/
theorem bundle_make {engagement : EngagementDefinition} {scope : List String} {maxImpact : Impact}
    {policy : EngagementExecutionPolicy}
    (h : (policyArgs engagement scope maxImpact).make = .ok policy) :
    ∃ bundle : CompiledPolicyBundle, bundle.policy = policy ∧
      BundleArgs.make ⟨engagement.engagementId, .int engagement.version, engagement.fingerprint,
        .int engagement.roe.version, engagement.roe.fingerprint, policy, .int, .int⟩ =
          .ok bundle := by
  have hid : policy.engagementId = engagement.engagementId :=
    congrArg PolicyArgs.engagementId (EngagementExecutionPolicy.args_of_make h)
  have hengagement : isSha256Hex engagement.fingerprint := isSha256Hex_fingerprint _
  have hroe : isSha256Hex engagement.roe.fingerprint := isSha256Hex_fingerprint _
  refine ⟨⟨engagement.engagementId, .int engagement.version, engagement.fingerprint,
    .int engagement.roe.version, engagement.roe.fingerprint, policy, .int, .int, hid, hengagement,
    hroe⟩, rfl, ?_⟩
  unfold BundleArgs.make
  rw [prove_of hid, ok_bind, prove_of hengagement, ok_bind, prove_of hroe, ok_bind]
  rfl

/-- What an engagement needs to be compiled. -/
structure Compilable (engagement : EngagementDefinition) : Prop where
  intrusiveness : engagement.roe.maxIntrusiveness ≠ .destructive
  techniques : ∀ t ∈ engagement.roe.allowedTechniques.values, isCapability t = true
  remains : ∃ v ∈ engagement.roe.scope.allowed.values, ∃ rule, parseTarget v = .ok rule ∧
    Remains engagement.roe.scope.excluded.values rule

section Compile

variable {engagement : EngagementDefinition}
  (hunzoned : ∀ v ∈ engagement.roe.scope.allowed.values, '%' ∉ v.toList)
  (hexunzoned : ∀ v ∈ engagement.roe.scope.excluded.values, '%' ∉ v.toList)

include hunzoned hexunzoned

theorem compile_of_compilable (h : Compilable engagement) :
    ∃ bundle, compileEngagementPolicy engagement = .ok bundle := by
  obtain ⟨hallowed, hexcluded⟩ := scope_parses engagement.roe.scope
  obtain ⟨scope, hscope⟩ :=
    (effectiveScope_returns hallowed hexcluded hunzoned hexunzoned).mpr h.remains
  obtain ⟨maxImpact, himpact⟩ : ∃ i, intrusivenessToImpact engagement.roe.maxIntrusiveness = some i := by
    cases hi : engagement.roe.maxIntrusiveness with
    | passive => exact ⟨_, rfl⟩
    | safeActive => exact ⟨_, rfl⟩
    | intrusive => exact ⟨_, rfl⟩
    | destructive => exact absurd hi h.intrusiveness
  obtain ⟨policy, hpolicy⟩ :=
    (@policyArgs_make engagement scope maxImpact (effectiveScope_parses hunzoned hscope)).mpr
      h.techniques
  obtain ⟨bundle, rfl, hbundle⟩ := bundle_make hpolicy
  exact ⟨bundle, compile_eq_ok.mpr ⟨maxImpact, scope, himpact, hscope, hpolicy, hbundle⟩⟩

theorem compilable_of_compile {bundle : CompiledPolicyBundle}
    (h : compileEngagementPolicy engagement = .ok bundle) : Compilable engagement := by
  obtain ⟨hallowed, hexcluded⟩ := scope_parses engagement.roe.scope
  obtain ⟨maxImpact, scope, himpact, hscope, hpolicy, -⟩ := compile_eq_ok.mp h
  refine ⟨?_, ?_, ?_⟩
  · intro hdestructive
    rw [hdestructive] at himpact
    cases himpact
  · exact (policyArgs_make (effectiveScope_parses hunzoned hscope)).mp ⟨_, hpolicy⟩
  · exact (effectiveScope_returns hallowed hexcluded hunzoned hexunzoned).mp ⟨scope, hscope⟩

end Compile

/-! ### An engagement with one exclusion -/

section Sample

theorem sampleStart_reads : (Timestamp.ofText "2030-01-01T00:00:00Z").isSome = true := by
  decide +kernel

theorem sampleEnd_reads : (Timestamp.ofText "2030-01-31T00:00:00Z").isSome = true := by
  decide +kernel

theorem sampleVersion_pos : 1 ≤ 1 := le_rfl

theorem sampleNone_required : ∀ s ∈ (none : Option String), requiredText s := by
  simp

theorem sampleRetention_bounds : 1 ≤ 30 ∧ 30 ≤ 3650 := by
  omega

theorem sampleId_identifier : isIdentifier "engagement-1" = true := by
  decide

theorem sampleNetwork_reads : (ipNetwork "10.0.0.0/8").map (fun n => (n.version, n.block)) =
    some (.v4, ⟨24, 10⟩) := by
  decide +kernel

theorem sampleExclusion_reads : (ipNetwork "10.1.0.0/16").map (fun n => (n.version, n.block)) =
    some (.v4, ⟨16, 2561⟩) := by
  decide +kernel

/-- A network without one of its subnetworks. -/
def sampleScope : ScopeDefinition where
  allowed := ⟨["10.0.0.0/8"], rfl, by simp, by decide, by simp⟩
  excluded := ⟨["10.1.0.0/16"], rfl, by simp, by decide, by simp⟩
  allowed_parse := by decide +kernel
  excluded_parse := by decide +kernel

def sampleRules : RulesOfEngagement where
  schemaVersion := .int
  engagementId := "engagement-1"
  version := 1
  title := "Assessment"
  createdAt := .read "2030-01-01T00:00:00Z" sampleStart_reads
  validFrom := .read "2030-01-01T00:00:00Z" sampleStart_reads
  validUntil := .read "2030-01-31T00:00:00Z" sampleEnd_reads
  scope := sampleScope
  allowedTechniques := ⟨["scan.ports"], rfl, by simp, by decide, by simp⟩
  prohibitedTechniques := ⟨[], sortedStr_nil, List.nodup_nil, by simp, by simp⟩
  maxIntrusiveness := .safeActive
  maxActions := 100
  dataHandling := ⟨.internal, 30, true, none, sampleRetention_bounds, sampleNone_required⟩
  deviationRequiresApproval := true
  notes := none
  engagementId_valid := sampleId_identifier
  version_pos := sampleVersion_pos
  title_required := by decide
  window := by decide +kernel
  no_overlap := by simp
  maxActions_pos := by simp
  notes_required := sampleNone_required

def sampleContact : EngagementContact :=
  ⟨"owner", "Owner", "operator", none, none, by decide, by decide, by decide, sampleNone_required,
    sampleNone_required⟩

def sampleEngagement : EngagementDefinition where
  schemaVersion := .int
  engagementId := "engagement-1"
  version := 1
  name := "Assessment"
  createdAt := .read "2030-01-01T00:00:00Z" sampleStart_reads
  status := .active
  ownerContactId := "owner"
  contacts := [sampleContact]
  roe := sampleRules
  description := none
  engagementId_valid := sampleId_identifier
  version_pos := sampleVersion_pos
  name_required := by decide
  ownerContactId_valid := by decide
  contacts_ne_nil := by simp
  contacts_sorted := rfl
  contacts_nodup := by simp
  owner_mem := by simp [sampleContact]
  roe_engagement := rfl
  description_required := sampleNone_required

theorem sampleEngagement_unzoned :
    (∀ v ∈ sampleEngagement.roe.scope.allowed.values, '%' ∉ v.toList) ∧
      ∀ v ∈ sampleEngagement.roe.scope.excluded.values, '%' ∉ v.toList := by
  decide

theorem sampleEngagement_compilable : Compilable sampleEngagement where
  intrusiveness := by simp [sampleEngagement, sampleRules]
  techniques := by decide
  remains := by
    have hrule : parseTarget "10.0.0.0/8" = .ok ⟨"10.0.0.0/8", .cidr⟩ := by decide +kernel
    have hexclusion : parseTarget "10.1.0.0/16" = .ok ⟨"10.1.0.0/16", .cidr⟩ := by decide +kernel
    refine ⟨"10.0.0.0/8", List.mem_singleton_self _, _, hrule, .inr ⟨.v4, 167772160, ?_, ?_⟩⟩
    · obtain ⟨n, hn, hblock⟩ := Option.map_eq_some_iff.mp sampleNetwork_reads
      simp only [Prod.mk.injEq] at hblock
      refine ⟨n, hn, hblock.1, ?_⟩
      rw [hblock.2]
      decide
    · intro v hv x hx hcovers
      rw [List.mem_singleton.mp hv, hexclusion] at hx
      obtain rfl := Except.ok.inj hx
      obtain ⟨m, hm, hblock⟩ := Option.map_eq_some_iff.mp sampleExclusion_reads
      simp only [Prod.mk.injEq] at hblock
      obtain ⟨m', hm', -, hin⟩ := hcovers
      obtain rfl : m = m' := Option.some.inj (hm.symm.trans hm')
      rw [hblock.2] at hin
      exact absurd hin (by decide)

end Sample

/-! ### The main results -/

/-- **An engagement is compiled exactly when a policy can say what was approved and something is left
of the scope**, for rules and exclusions without a zone. -/
theorem compile_returns_iff {engagement : EngagementDefinition}
    (hunzoned : ∀ v ∈ engagement.roe.scope.allowed.values, '%' ∉ v.toList)
    (hexunzoned : ∀ v ∈ engagement.roe.scope.excluded.values, '%' ∉ v.toList) :
    (∃ bundle, compileEngagementPolicy engagement = .ok bundle) ↔ Compilable engagement :=
  ⟨fun ⟨_, h⟩ => compilable_of_compile hunzoned hexunzoned h,
    compile_of_compilable hunzoned hexunzoned⟩

theorem compile_returns_sample :
    (∃ bundle, compileEngagementPolicy sampleEngagement = .ok bundle) ↔
      Compilable sampleEngagement :=
  compile_returns_iff sampleEngagement_unzoned.1 sampleEngagement_unzoned.2

/-- **A compiled policy authorizes a target exactly when some allowed rule does and no excluded
rule touches it**, for rules and targets without a zone. -/
theorem compiledScope_authorizes_iff {engagement : EngagementDefinition}
    {bundle : CompiledPolicyBundle} (h : compileEngagementPolicy engagement = .ok bundle)
    (hunzoned : ∀ v ∈ engagement.roe.scope.allowed.values, '%' ∉ v.toList) {value : String}
    {t : Target} (ht : parseTarget value = .ok t) (hpercent : '%' ∉ value.toList) :
    ∃ scope, Scope.fromValues bundle.policy.scope = .ok scope ∧
      (scope.isAuthorized t = true ↔
        Authorizes engagement.roe.scope.allowed.values t ∧
          ∀ v ∈ engagement.roe.scope.excluded.values, ∀ x, parseTarget v = .ok x →
            ¬ Touches x t) := by
  obtain ⟨scope, hscope⟩ := Option.isSome_iff_exists.mp bundle.policy.scope_parses
  have hfrom := eq_ok_of_toOption hscope
  refine ⟨scope, hfrom, ?_⟩
  rw [isAuthorized_iff_authorizes hfrom]
  exact effectiveScope_authorizes (scope_of_compile h) hunzoned ht hpercent

/-- The engagement with one exclusion, and an address outside the exclusion. -/
theorem compiledScope_authorizes_sample :
    ∃ bundle scope, compileEngagementPolicy sampleEngagement = .ok bundle ∧
      Scope.fromValues bundle.policy.scope = .ok scope ∧
      (scope.isAuthorized ⟨"10.2.3.4", .ipv4⟩ = true ↔
        Authorizes sampleEngagement.roe.scope.allowed.values ⟨"10.2.3.4", .ipv4⟩ ∧
          ∀ v ∈ sampleEngagement.roe.scope.excluded.values, ∀ x, parseTarget v = .ok x →
            ¬ Touches x ⟨"10.2.3.4", .ipv4⟩) := by
  have htarget : parseTarget "10.2.3.4" = .ok ⟨"10.2.3.4", .ipv4⟩ := by decide +kernel
  obtain ⟨bundle, hbundle⟩ := compile_of_compilable sampleEngagement_unzoned.1
    sampleEngagement_unzoned.2 sampleEngagement_compilable
  obtain ⟨scope, hscope, hiff⟩ := compiledScope_authorizes_iff hbundle sampleEngagement_unzoned.1
    htarget (by decide)
  exact ⟨bundle, scope, hbundle, hscope, hiff⟩

end NightRecon.WhiteEngine.PolicyCompiler
