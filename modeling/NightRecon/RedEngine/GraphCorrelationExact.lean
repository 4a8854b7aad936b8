import NightRecon.RedEngine.GraphCorrelationRules

/-!
# Correlation is exact

The loop over the keys of a cloud resource, the pairs of all four rules, and the correlated graph.

* `Matched`, `matchCloudKey_matched` — what is known after some keys of a cloud resource;
* `has_correlateClouds` — the loop over the cloud resources finds the pairs of its rule;
* `has_correlatedPairs` — the pairs found are the pairs prescribed;
* `correlation_exact` — the correlated graph has the edges prescribed, and no other new edge.
-/

namespace NightRecon.RedEngine.GraphCorrelation

open NightRecon.Lib
open NightRecon.Lib.Assoc
open NightRecon.Lib.Checks
open NightRecon.Lib.Collect
open NightRecon.Lib.Records (eq_of_strict)
open NightRecon.Lib.Text
open NightRecon.RedEngine.GraphBuilder

/-! ## The keys of a cloud resource -/

section Clouds

variable {py : Builtins} {g : IdentityGraph} {limits : CrossSurfaceCorrelationLimits} {t : Tables}
  {p p' : Progress}

/-- After some keys of a cloud resource: the assets found are those a key names alone, each with
the proofs that do. -/
structure Matched (g : IdentityGraph) (t : Tables) (p : Progress)
    (done : List (String × String)) (m : CloudMatches) : Prop where
  pairs : m.progress.pairProofs = p.pairProofs
  distinct : (keys m.resolved).Nodup
  found : ∀ id, id ∈ keys m.resolved ↔
    ∃ a ∈ g.nodes, a.nodeId = id ∧ ∃ key ∈ done, cloudCandidates t key = [a]
  target : ∀ a ∈ g.nodes, (find (a, []) m.resolved a.nodeId).1 = a
  proofs : ∀ a ∈ g.nodes, ∀ proof, proof ∈ (find (a, []) m.resolved a.nodeId).2 ↔
    ∃ key ∈ done, cloudCandidates t key = [a] ∧ proof = cloudProof key
  ambiguous : m.ambiguous = true ↔ ∃ key ∈ done, 2 ≤ (cloudCandidates t key).length

theorem exists_mem_concat {α : Type} {P : α → Prop} {l : List α} {a : α} :
    (∃ b ∈ l ++ [a], P b) ↔ (∃ b ∈ l, P b) ∨ P a := by
  simp only [List.mem_append, List.mem_singleton, or_and_right, exists_or, exists_eq_left]

/-- A key that names no asset alone changes nothing that is known of the assets. -/
theorem Matched.skip {done : List (String × String)} {m m' : CloudMatches}
    {key : String × String} (h : Matched g t p done m) (hresolved : m'.resolved = m.resolved)
    (hpairs : m'.progress.pairProofs = m.progress.pairProofs)
    (hkey : ∀ a, cloudCandidates t key ≠ [a])
    (hambiguous : m'.ambiguous = true ↔
      m.ambiguous = true ∨ 2 ≤ (cloudCandidates t key).length) :
    Matched g t p (done ++ [key]) m' where
  pairs := hpairs.trans h.pairs
  distinct := hresolved ▸ h.distinct
  found id := by
    rw [hresolved, h.found]
    refine exists_congr fun a => and_congr_right fun _ => and_congr_right fun _ => ?_
    rw [exists_mem_concat, or_iff_left (hkey a)]
  target := hresolved ▸ h.target
  proofs a ha proof := by
    rw [hresolved, h.proofs a ha, exists_mem_concat, or_iff_left fun hone => hkey a hone.1]
  ambiguous := by rw [hambiguous, h.ambiguous, exists_mem_concat]

/-- A key that names one asset alone. -/
theorem Matched.resolve {done : List (String × String)} {m m' : CloudMatches}
    {key : String × String} {target : GraphNode} (h : Matched g t p done m)
    (hnode : target ∈ g.nodes) (hkey : cloudCandidates t key = [target])
    (hresolved : m'.resolved = GraphCorrelation.resolve m.resolved target (cloudProof key))
    (hprogress : m'.progress = m.progress) (hambiguous : m'.ambiguous = m.ambiguous) :
    Matched g t p (done ++ [key]) m' where
  pairs := hprogress ▸ h.pairs
  distinct := by
    rw [hresolved]
    exact keys_assign_nodup h.distinct _ _
  found id := by
    rw [hresolved, GraphCorrelation.resolve, mem_keys_assign, h.found]
    constructor
    · rintro (rfl | ⟨a, ha, hid, hdone⟩)
      · exact ⟨target, hnode, rfl, exists_mem_concat.mpr (.inr hkey)⟩
      · exact ⟨a, ha, hid, exists_mem_concat.mpr (.inl hdone)⟩
    · rintro ⟨a, ha, rfl, hdone⟩
      rcases exists_mem_concat.mp hdone with hdone | hlast
      · exact .inr ⟨a, ha, rfl, hdone⟩
      · obtain rfl := List.singleton_inj.mp (hkey.symm.trans hlast)
        exact .inl rfl
  target a ha := by
    rw [hresolved, GraphCorrelation.resolve, find_assign]
    by_cases hid : a.nodeId = target.nodeId
    · rw [if_pos hid, g.node_ext ha hnode hid]
      exact h.target target hnode
    · rw [if_neg hid]
      exact h.target a ha
  proofs a ha proof := by
    rw [hresolved, GraphCorrelation.resolve, find_assign, exists_mem_concat]
    by_cases hid : a.nodeId = target.nodeId
    · obtain rfl := g.node_ext ha hnode hid
      rw [if_pos rfl, List.mem_append, h.proofs a ha, List.mem_singleton, and_iff_right hkey]
    · have hother : ¬ (cloudCandidates t key = [a] ∧ proof = cloudProof key) := by
        rintro ⟨hone, -⟩
        exact hid (congrArg GraphNode.nodeId (List.singleton_inj.mp (hone.symm.trans hkey)))
      rw [if_neg hid, h.proofs a ha, or_iff_left hother]
  ambiguous := by
    have hone : ¬ 2 ≤ (cloudCandidates t key).length := by simp [hkey]
    rw [hambiguous, h.ambiguous, exists_mem_concat, or_iff_left hone]

variable (ht : Added py .empty g.nodes t)

include ht

theorem mem_cloudCandidates {key : String × String} {n : GraphNode} :
    n ∈ cloudCandidates t key ↔ n ∈ g.nodes ∧ NamesCloud py key n := by
  rw [cloud_candidates ht, List.mem_filter, decide_eq_true_eq]

/-- **One key of a cloud resource.** -/
theorem matchCloudKey_matched {resource : GraphNode} {done : List (String × String)}
    {m m' : CloudMatches} {key : String × String} (h : Matched g t p done m)
    (hturn : matchCloudKey limits t resource m key = .ok m') :
    Matched g t p (done ++ [key]) m' := by
  unfold matchCloudKey at hturn
  split at hturn
  next hnone =>
    rw [← Except.ok.inj hturn]
    refine h.skip rfl rfl (fun a => ?_) ?_
    · rw [hnone]
      exact List.cons_ne_nil a [] ∘ Eq.symm
    · simp [hnone]
  next target hone =>
    have hmem : target ∈ cloudCandidates t key := hone ▸ List.mem_singleton_self target
    rw [← Except.ok.inj hturn]
    exact h.resolve ((mem_cloudCandidates ht).mp hmem).1 hone rfl rfl rfl
  next hnone hone =>
    rw [bind_eq_ok] at hturn
    obtain ⟨progress, hadd, hturn⟩ := hturn
    rw [← Except.ok.inj hturn]
    refine h.skip rfl (addUnresolved_pairs hadd) hone ?_
    have hlength : 2 ≤ (cloudCandidates t key).length := by
      rcases hfound : cloudCandidates t key with _ | ⟨a, _ | ⟨a', rest⟩⟩
      · exact absurd hfound hnone
      · exact absurd hfound (hone a)
      · exact Nat.le_add_left 2 rest.length
    simp [hlength]

theorem matched_of {resource : GraphNode} {proofs : List (String × String)} {m : CloudMatches}
    (h : proofs.foldlM (matchCloudKey limits t resource) ⟨[], [], false, p⟩ = .ok m) :
    Matched g t p proofs m := by
  have hstart : Matched g t p [] ⟨[], [], false, p⟩ := by
    refine ⟨rfl, List.nodup_nil, fun id => ?_, fun a _ => rfl, fun a _ proof => ?_, ?_⟩
    · simp [keys]
    · simp [find]
    · simp
  exact foldlM_induct (P := fun done m => Matched g t p done m)
    (fun _ _ _ _ hdone hturn => matchCloudKey_matched ht hdone hturn) proofs [] _ m hstart h

/-- Without ambiguity a key names an asset alone or not at all. -/
theorem Matched.alone {proofs : List (String × String)} {m : CloudMatches}
    (h : Matched g t p proofs m) (hclear : ¬ m.ambiguous = true) {key : String × String}
    (hkey : key ∈ proofs) {a : GraphNode} (ha : a ∈ g.nodes) (hnames : NamesCloud py key a) :
    cloudCandidates t key = [a] := by
  have hmem : a ∈ cloudCandidates t key := (mem_cloudCandidates ht).mpr ⟨ha, hnames⟩
  have hshort : ¬ 2 ≤ (cloudCandidates t key).length := fun hlong =>
    hclear (h.ambiguous.mpr ⟨key, hkey, hlong⟩)
  have hpos : 0 < (cloudCandidates t key).length := List.length_pos_of_mem hmem
  obtain ⟨b, hb⟩ := List.length_eq_one_iff.mp (by omega : (cloudCandidates t key).length = 1)
  rw [hb] at hmem ⊢
  rw [List.mem_singleton.mp hmem]

/-- An ambiguous key leaves nothing unanimous. -/
theorem not_unanimous_of_ambiguous {proofs : List (String × String)} {m : CloudMatches}
    (h : Matched g t p proofs m) (hambiguous : m.ambiguous = true) (key : String × String)
    (asset : GraphNode) : ¬ Unanimous py g proofs key asset := by
  rintro ⟨-, -, -, hall⟩
  obtain ⟨key', hkey', hlong⟩ := h.ambiguous.mp hambiguous
  have hnodup : (cloudCandidates t key').Nodup := by
    rw [cloud_candidates ht]
    exact (nodes_nodup g).filter _
  have heach : ∀ n ∈ cloudCandidates t key', n = asset := by
    intro n hn
    obtain ⟨hnode, hnames⟩ := (mem_cloudCandidates ht).mp hn
    exact hall key' hkey' n hnode hnames
  rcases hfound : cloudCandidates t key' with _ | ⟨a, _ | ⟨a', rest⟩⟩
  · simp [hfound] at hlong
  · simp [hfound] at hlong
  · rw [hfound] at hnodup heach
    obtain ⟨ha, hrest⟩ := List.forall_mem_cons.mp heach
    obtain rfl : a = a' := ha.trans (List.forall_mem_cons.mp hrest).1.symm
    exact (List.nodup_cons.mp hnodup).1 List.mem_cons_self

/-- The assets found are named by a key. -/
theorem Matched.named {proofs : List (String × String)} {m : CloudMatches}
    (h : Matched g t p proofs m) {id : String} (hid : id ∈ keys m.resolved) :
    ∃ a ∈ g.nodes, a.nodeId = id ∧ ∃ key ∈ proofs, NamesCloud py key a := by
  obtain ⟨a, ha, hid, key, hkey, hone⟩ := (h.found id).mp hid
  have hmem : a ∈ cloudCandidates t key := hone ▸ List.mem_singleton_self a
  exact ⟨a, ha, hid, key, hkey, ((mem_cloudCandidates ht).mp hmem).2⟩

omit ht in
theorem reportNoMatches_pairs {resource : GraphNode} {noMatches : List String}
    (h : reportNoMatches limits resource p noMatches = .ok p') : p'.pairProofs = p.pairProofs :=
  foldlM_keeps (fun _ _ _ hturn => addUnresolved_pairs hturn) h

omit ht in
/-- The proofs of one asset are added. -/
theorem has_addPairs {target resource : GraphNode} {proofs : List String} (b : PairKey × String) :
    Has ((sortedStr proofs).foldl (fun p proof =>
        addPair p target resource .exactCloudNetworkKey proof) p) b ↔
      Has p b ∨ ∃ proof ∈ proofs, b = pairOf target resource .exactCloudNetworkKey proof := by
  have hturn : ∀ (p : Progress) (proof : String) (b : PairKey × String),
      Has (addPair p target resource .exactCloudNetworkKey proof) b ↔
        Has p b ∨ b = pairOf target resource .exactCloudNetworkKey proof :=
    fun _ _ b => has_addPair b
  rw [foldl_collects hturn]
  simp only [mem_sortedStr]

/-- The proofs of the one asset found are the unanimous ones. -/
theorem mem_found_iff {resource target : GraphNode} {id : String} {found : List String}
    {proofs : List (String × String)} {m : CloudMatches} (hm : Matched g t p proofs m)
    (hclear : ¬ m.ambiguous = true) (hresolved : m.resolved = [(id, target, found)])
    (b : PairKey × String) :
    (∃ proof ∈ found, b = pairOf target resource .exactCloudNetworkKey proof) ↔
      CloudAdds py g resource proofs b := by
  have hkeys : ∀ {id'}, id' ∈ keys m.resolved → id' = id := by
    intro id' hid'
    rw [hresolved] at hid'
    exact List.mem_singleton.mp hid'
  have hid : id ∈ keys m.resolved := by
    rw [hresolved]
    exact List.mem_cons_self
  obtain ⟨a, ha, rfl, -⟩ := hm.named ht hid
  have hentry : find (a, []) m.resolved a.nodeId = (target, found) := by
    rw [hresolved, find, if_pos rfl]
  have htarget : target = a := by
    rw [← hm.target a ha, hentry]
  have hproofs : ∀ proof, proof ∈ found ↔
      ∃ key ∈ proofs, cloudCandidates t key = [a] ∧ proof = cloudProof key := by
    intro proof
    rw [← hm.proofs a ha, hentry]
  have hone : ∀ q ∈ proofs, ∀ n ∈ g.nodes, NamesCloud py q n → n = a := by
    intro q hq n hn hnames
    have := (hm.found _).mpr ⟨n, hn, rfl, q, hq, hm.alone ht hclear hq hn hnames⟩
    exact g.node_ext hn ha (hkeys this)
  rw [htarget]
  constructor
  · rintro ⟨proof, hproof, rfl⟩
    obtain ⟨key, hkey, hcandidates, rfl⟩ := (hproofs proof).mp hproof
    have hmem : a ∈ cloudCandidates t key := hcandidates ▸ List.mem_singleton_self a
    exact ⟨key, a, ⟨hkey, ha, ((mem_cloudCandidates ht).mp hmem).2, hone⟩, rfl⟩
  · rintro ⟨key, asset, ⟨hkey, hnode, hnames, -⟩, rfl⟩
    obtain rfl := hone key hkey asset hnode hnames
    exact ⟨cloudProof key,
      (hproofs _).mpr ⟨key, hkey, hm.alone ht hclear hkey hnode hnames, rfl⟩, rfl⟩

/-- **What follows from the matches of a cloud resource.** -/
theorem has_concludeCloud {resource : GraphNode} {proofs : List (String × String)}
    {m : CloudMatches} (hm : Matched g t p proofs m)
    (h : concludeCloud limits resource m = .ok p') (b : PairKey × String) :
    Has p' b ↔ Has p b ∨ CloudAdds py g resource proofs b := by
  unfold concludeCloud at h
  by_cases hambiguous : m.ambiguous = true
  · have hnone : ¬ CloudAdds py g resource proofs b := by
      rintro ⟨key, asset, hunanimous, -⟩
      exact not_unanimous_of_ambiguous ht hm hambiguous key asset hunanimous
    rw [if_pos hambiguous] at h
    rw [← Except.ok.inj h, has_of_pairs hm.pairs, or_iff_left hnone]
  · have hkeyed : ∀ {key asset}, Unanimous py g proofs key asset →
        asset.nodeId ∈ keys m.resolved := by
      rintro key asset ⟨hkey, hnode, hnames, -⟩
      exact (hm.found _).mpr
        ⟨asset, hnode, rfl, key, hkey, hm.alone ht hambiguous hkey hnode hnames⟩
    rw [if_neg hambiguous] at h
    rcases hresolved : m.resolved with _ | ⟨⟨id, target, found⟩, _ | ⟨e', rest⟩⟩
    · have hnone : ¬ CloudAdds py g resource proofs b := by
        rintro ⟨key, asset, hunanimous, -⟩
        have := hkeyed hunanimous
        rw [hresolved] at this
        exact List.not_mem_nil this
      rw [hresolved] at h
      rw [has_of_pairs (reportNoMatches_pairs h), has_of_pairs hm.pairs, or_iff_left hnone]
    · rw [hresolved] at h
      rw [has_of_pairs (reportNoMatches_pairs h), has_addPairs, has_of_pairs hm.pairs]
      exact or_congr_right (mem_found_iff ht hm hambiguous hresolved b)
    · have hnone : ¬ CloudAdds py g resource proofs b := by
        rintro ⟨key, asset, ⟨-, -, -, hall⟩, -⟩
        have hdistinct := hm.distinct
        have hnamed : ∀ id ∈ keys m.resolved, id = asset.nodeId := by
          intro id hid
          obtain ⟨a, ha, rfl, key', hkey', hnames⟩ := hm.named ht hid
          rw [hall key' hkey' a ha hnames]
        rw [hresolved] at hdistinct hnamed
        obtain ⟨hfirst, hrest⟩ := List.forall_mem_cons.mp hnamed
        have hsame : id = e'.1 := hfirst.trans (List.forall_mem_cons.mp hrest).1.symm
        exact (List.nodup_cons.mp hdistinct).1 (hsame ▸ List.mem_cons_self)
      rw [hresolved] at h
      rw [has_of_pairs (addUnresolved_pairs h), has_of_pairs hm.pairs, or_iff_left hnone]

theorem has_correlateCloud {resource : GraphNode}
    (h : correlateCloud py limits t p resource = .ok p') (b : PairKey × String) :
    Has p' b ↔ Has p b ∨ ∃ proofs, cloudNetworkProofs py resource = .ok proofs ∧
      CloudAdds py g resource proofs b := by
  unfold correlateCloud at h
  rw [bind_eq_ok] at h
  obtain ⟨proofs, hproofs, h⟩ := h
  have honly : (∃ proofs', cloudNetworkProofs py resource = .ok proofs' ∧
      CloudAdds py g resource proofs' b) ↔ CloudAdds py g resource proofs b := by
    constructor
    · rintro ⟨proofs', hproofs', hadds⟩
      obtain rfl := Except.ok.inj (hproofs.symm.trans hproofs')
      exact hadds
    · exact fun hadds => ⟨proofs, hproofs, hadds⟩
  rw [honly]
  split at h
  next hempty =>
    have hnone : ¬ CloudAdds py g resource proofs b := by
      rintro ⟨key, asset, ⟨hkey, -⟩, -⟩
      rw [hempty] at hkey
      exact List.not_mem_nil hkey
    rw [← Except.ok.inj h, or_iff_left hnone]
  next hfilled =>
    rw [bind_eq_ok] at h
    obtain ⟨m, hloop, h⟩ := h
    exact has_concludeCloud ht (matched_of ht hloop) h b

theorem has_correlateClouds (h : correlateClouds py limits t p = .ok p') (b : PairKey × String) :
    Has p' b ↔ Has p b ∨ ∃ resource ∈ g.nodes, ∃ proofs,
      cloudNetworkProofs py resource = .ok proofs ∧ CloudAdds py g resource proofs b := by
  have hturn : ∀ (p : Progress) (resource : GraphNode) (p' : Progress),
      correlateCloud py limits t p resource = .ok p' → ∀ b, Has p' b ↔ Has p b ∨
        ∃ proofs, cloudNetworkProofs py resource = .ok proofs ∧
          CloudAdds py g resource proofs b :=
    fun _ _ _ hone b => has_correlateCloud ht hone b
  unfold correlateClouds at h
  rw [foldlM_collects hturn h b]
  refine or_congr_right ⟨?_, ?_⟩
  · rintro ⟨resource, hmem, hadds⟩
    rw [(sortedBy_perm _ _).mem_iff, ht.cloudResources] at hmem
    exact ⟨resource, (List.mem_filter.mp hmem).1, hadds⟩
  · rintro ⟨resource, hnode, proofs, hproofs, hadds⟩
    refine ⟨resource, ?_, proofs, hproofs, hadds⟩
    rw [(sortedBy_perm _ _).mem_iff, ht.cloudResources]
    refine List.mem_filter.mpr ⟨hnode, ?_⟩
    by_contra hother
    rw [cloudNetworkProofs, if_neg hother] at hproofs
    obtain ⟨key, asset, ⟨hkey, -⟩, -⟩ := hadds
    rw [← Except.ok.inj hproofs] at hkey
    exact List.not_mem_nil hkey

end Clouds

/-! ## All four rules -/

/-- The rules for the identities that are not a cloud provider's. -/
abbrev Prescribes (py : Builtins) (g : IdentityGraph) :=
  Prescribed py (fun n => n.property "cloud_provider" "" = "") g

/-- **The pairs found are the pairs prescribed.** -/
theorem has_correlatedPairs {py : Builtins} {limits : CrossSurfaceCorrelationLimits}
    {g : IdentityGraph} {p : Progress} (h : correlatedPairs py limits g = .ok p)
    (b : PairKey × String) :
    Has p b ↔ ∃ s t basis proof, Prescribes py g s t basis proof ∧ b = pairOf s t basis proof := by
  unfold correlatedPairs at h
  simp only [bind_eq_ok] at h
  obtain ⟨t, htables, p₁, h₁, p₂, h₂, p₃, h₃, h₄⟩ := h
  have ht := tables_of htables
  have hempty : ¬ Has .empty b := Finset.notMem_empty _
  rw [has_correlateCloudIdentities ht h₄, has_correlateClouds ht h₃, has_correlateSurfaces ht h₂,
    has_correlateIdentities ht h₁, or_iff_right hempty]
  constructor
  · rintro (((⟨identity, hnode, hkind, hostname, hhostname, asset, hasset, rfl⟩ |
      ⟨surface, hnode, host, port, horigin, asset, hasset, service, hservice, rfl⟩) |
      ⟨resource, hnode, proofs, hproofs, key, asset, ⟨hkey, ha, hnames, hall⟩, rfl⟩) |
      ⟨cloudIdentity, hnode, hkind, tenantId, objectId, hparts, htenant, hobject, directory,
        hdirectory, rfl⟩)
    · exact ⟨_, _, _, _, .identityToAsset identity asset hostname hnode hkind.1 hkind.2 hhostname
        hasset, rfl⟩
    · exact ⟨_, _, _, _, .serviceToSurface service surface asset host port hnode horigin hasset
        hservice, rfl⟩
    · exact ⟨_, _, _, _, .assetToCloud asset resource proofs key hnode hproofs hkey ha hnames hall,
        rfl⟩
    · exact ⟨_, _, _, _, .directoryToCloud directory cloudIdentity tenantId objectId hnode hkind
        hparts htenant hobject hdirectory, rfl⟩
  · rintro ⟨source, target, basis, proof, hprescribed, rfl⟩
    cases hprescribed with
    | identityToAsset _ hnode hkind heligible hhostname hasset =>
      exact .inl (.inl (.inl ⟨source, hnode, ⟨hkind, heligible⟩, proof, hhostname, target, hasset,
        rfl⟩))
    | serviceToSurface asset host port hnode horigin hasset hservice =>
      exact .inl (.inl (.inr ⟨target, hnode, host, port, horigin, asset, hasset, source, hservice,
        rfl⟩))
    | assetToCloud proofs key hnode hproofs hkey ha hnames hall =>
      exact .inl (.inr ⟨target, hnode, proofs, hproofs, key, source, ⟨hkey, ha, hnames, hall⟩,
        rfl⟩)
    | directoryToCloud tenantId objectId hnode hkind hparts htenant hobject hdirectory =>
      exact .inr ⟨target, hnode, hkind, tenantId, objectId, hparts, htenant, hobject, source,
        hdirectory, rfl⟩

/-! ## The correlated graph -/

section Exact

variable {py : Builtins} {limits : CrossSurfaceCorrelationLimits} {g : IdentityGraph}

/-- The digests are those of the proofs prescribed for the pair. -/
def Proves (py : Builtins) (g : IdentityGraph) (s t : GraphNode) (basis : Basis)
    (hashes : Finset String) : Prop :=
  ∀ d, d ∈ hashes ↔ ∃ proof, Prescribes py g s t basis proof ∧ d = opaqueKey proof

/-- The edge joins a prescribed pair, and carries the digests of its proofs. -/
structure Joins (py : Builtins) (g : IdentityGraph) (e : GraphEdge) (s t : GraphNode)
    (basis : Basis) : Prop where
  prescribed : ∃ proof, Prescribes py g s t basis proof
  source : e.sourceNodeId = s.nodeId
  target : e.targetNodeId = t.nodeId
  edge : ∃ hashes, Proves py g s t basis hashes ∧
    correlationEdge py (s.nodeId, t.nodeId, basis) hashes = .ok e

theorem correlationEdge_ends {s t : GraphNode} {basis : Basis} {hashes : Finset String}
    {e : GraphEdge} (h : correlationEdge py (s.nodeId, t.nodeId, basis) hashes = .ok e) :
    e.sourceNodeId = s.nodeId ∧ e.targetNodeId = t.nodeId := by
  unfold correlationEdge at h
  rw [bind_eq_ok] at h
  obtain ⟨provenance, -, h⟩ := h
  obtain ⟨hsource, htarget, -⟩ := GraphEdge.create_eq_ok h
  exact ⟨hsource.trans s.nodeId_trimmed, htarget.trans t.nodeId_trimmed⟩

/-- Pairs of nodes are told apart by the identifiers. -/
theorem has_pair_iff {p : Progress} (h : correlatedPairs py limits g = .ok p) {s t : GraphNode}
    (hs : s ∈ g.nodes) (ht : t ∈ g.nodes) (basis : Basis) (d : String) :
    Has p ((s.nodeId, t.nodeId, basis), d) ↔
      ∃ proof, Prescribes py g s t basis proof ∧ d = opaqueKey proof := by
  rw [has_correlatedPairs h]
  constructor
  · rintro ⟨s', t', basis', proof, hprescribed, heq⟩
    obtain ⟨hkey, rfl⟩ := Prod.mk.inj heq
    obtain ⟨hsource, hrest⟩ := Prod.mk.inj hkey
    obtain ⟨htarget, rfl⟩ := Prod.mk.inj hrest
    obtain rfl := g.node_ext hs hprescribed.mem.1 hsource
    obtain rfl := g.node_ext ht hprescribed.mem.2 htarget
    exact ⟨proof, hprescribed, rfl⟩
  · rintro ⟨proof, hprescribed, rfl⟩
    exact ⟨s, t, basis, proof, hprescribed, rfl⟩

/-- **The pairs of the loop with their digests.** -/
theorem mem_pairProofs_iff {p : Progress} (h : correlatedPairs py limits g = .ok p)
    {entry : PairKey × Finset String} :
    entry ∈ p.pairProofs ↔ ∃ s t basis, entry.1 = (s.nodeId, t.nodeId, basis) ∧
      (∃ proof, Prescribes py g s t basis proof) ∧ Proves py g s t basis entry.2 := by
  constructor
  · intro hentry
    obtain ⟨-, hfind⟩ := (mem_iff (d := ∅) p.pairs_distinct).mp hentry
    have hhas : ∀ d, d ∈ entry.2 ↔ Has p (entry.1, d) := by
      intro d
      rw [Has, hfind]
    obtain ⟨d, hd⟩ := p.pairs_proved entry hentry
    obtain ⟨s, t, basis, proof, hprescribed, heq⟩ := (has_correlatedPairs h _).mp ((hhas d).mp hd)
    obtain ⟨hkey, -⟩ := Prod.mk.inj heq
    refine ⟨s, t, basis, hkey, ⟨proof, hprescribed⟩, fun d => ?_⟩
    rw [hhas, hkey, has_pair_iff h hprescribed.mem.1 hprescribed.mem.2]
  · rintro ⟨s, t, basis, hkey, ⟨proof, hprescribed⟩, hproves⟩
    have hhas : ∀ d, d ∈ find ∅ p.pairProofs entry.1 ↔ d ∈ entry.2 := by
      intro d
      rw [hproves, ← has_pair_iff h hprescribed.mem.1 hprescribed.mem.2, hkey]
      rfl
    have hmem : entry.1 ∈ keys p.pairProofs := by
      by_contra hnew
      have hd := (hhas (opaqueKey proof)).mpr ((hproves _).mpr ⟨proof, hprescribed, rfl⟩)
      rw [find_eq_default hnew] at hd
      exact Finset.notMem_empty _ hd
    exact (mem_iff p.pairs_distinct).mpr ⟨hmem, Finset.ext hhas⟩

theorem addCorrelation_eq_ok {l : GraphBuildLimits} {s s' : IdentityGraphBuilder × List String}
    {entry : PairKey × Finset String} (h : addCorrelation py l s entry = .ok s') :
    s'.1.nodes = s.1.nodes ∧
      ∃ e, correlationEdge py entry.1 entry.2 = .ok e ∧
        ∀ e', e' ∈ s'.1.edges ↔ e' ∈ s.1.edges ∨ e = e' := by
  simp only [addCorrelation, bind_eq_ok, pure_eq_ok, Except.ok.injEq] at h
  obtain ⟨e, hedge, b, hadd, rfl⟩ := h
  obtain ⟨hnodes, hedges⟩ := addEdge_eq_ok hadd
  exact ⟨hnodes, e, hedge, hedges⟩

/-- **The loop over the pairs** adds their edges. -/
theorem addCorrelations_edges {l : GraphBuildLimits} {entries : List (PairKey × Finset String)}
    {s s' : IdentityGraphBuilder × List String}
    (h : entries.foldlM (addCorrelation py l) s = .ok s') (e : GraphEdge) :
    e ∈ s'.1.edges ↔
      e ∈ s.1.edges ∨ ∃ entry ∈ entries, correlationEdge py entry.1 entry.2 = .ok e := by
  have hturn : ∀ (s : IdentityGraphBuilder × List String) (entry : PairKey × Finset String)
      (s' : IdentityGraphBuilder × List String), addCorrelation py l s entry = .ok s' →
        ∀ e, e ∈ s'.1.edges ↔ e ∈ s.1.edges ∨ correlationEdge py entry.1 entry.2 = .ok e := by
    intro s entry s' hone e
    obtain ⟨-, e', hedge, hmem⟩ := addCorrelation_eq_ok hone
    rw [hmem, hedge, Except.ok.injEq]
  exact foldlM_collects hturn h e

/-- The graph copied into a builder. -/
theorem copy_eq_ok {l : GraphBuildLimits} {b b' : IdentityGraphBuilder}
    (hnodes : g.nodes.foldlM (addNode l) .empty = .ok b)
    (hedges : g.edges.foldlM (addEdge l) b = .ok b') :
    (∀ n, n ∈ b'.nodes ↔ n ∈ g.nodes) ∧ ∀ e, e ∈ b'.edges ↔ e ∈ g.edges := by
  have hnode : ∀ (b : IdentityGraphBuilder) (n : GraphNode) (b' : IdentityGraphBuilder),
      addNode l b n = .ok b' → ∀ m, m ∈ b'.nodes ↔ m ∈ b.nodes ∨ n = m :=
    fun _ _ _ hadd => (addNode_eq_ok hadd).2
  have hedge : ∀ (b : IdentityGraphBuilder) (e : GraphEdge) (b' : IdentityGraphBuilder),
      addEdge l b e = .ok b' → ∀ e', e' ∈ b'.edges ↔ e' ∈ b.edges ∨ e = e' :=
    fun _ _ _ hadd => (addEdge_eq_ok hadd).2
  have hempty : b.edges = [] := foldlM_keeps (fun _ _ _ hadd => (addNode_eq_ok hadd).1) hnodes
  have hsame : b'.nodes = b.nodes := foldlM_keeps (fun _ _ _ hadd => (addEdge_eq_ok hadd).1) hedges
  constructor
  · intro n
    rw [hsame, foldlM_collects hnode hnodes n, exists_eq_right]
    exact or_iff_right List.not_mem_nil
  · intro e
    rw [foldlM_collects hedge hedges e, hempty, exists_eq_right]
    exact or_iff_right List.not_mem_nil

/-- **Correlation is exact.**  The correlated graph has the nodes there were and the edges there
were; every other edge joins a prescribed pair, and every prescribed pair has its edge. -/
theorem correlation_exact {r : CrossSurfaceCorrelationResult}
    (h : correlateExactCrossSurfaceEvidence py limits g = .ok r) :
    r.graph.nodes = g.nodes ∧
      (∀ e, e ∈ r.graph.edges ↔ e ∈ g.edges ∨ ∃ s t basis, Joins py g e s t basis) ∧
      ∀ s t basis proof, Prescribes py g s t basis proof →
        ∃ e ∈ r.graph.edges, Joins py g e s t basis := by
  simp only [correlateExactCrossSurfaceEvidence, bind_eq_ok, pure_eq_ok, Except.ok.injEq] at h
  obtain ⟨b, hnodes, b', hedges, p, hp, -, -, ⟨c, correlated⟩, hloop, rfl⟩ := h
  obtain ⟨hcopied, hkept⟩ := copy_eq_ok hnodes hedges
  have hsame : c.nodes = b'.nodes :=
    foldlM_keeps (fun _ _ _ hturn => (addCorrelation_eq_ok hturn).1) hloop
  have hadded := addCorrelations_edges hloop
  have hsorted : ∀ entry, entry ∈ p.pairProofs.insertionSort
      (fun a b => PairKey.le a.1 b.1 = true) ↔ entry ∈ p.pairProofs :=
    fun _ => (List.perm_insertionSort _ _).mem_iff
  have hjoined : ∀ e, e ∈ c.edges ↔ e ∈ g.edges ∨ ∃ s t basis, Joins py g e s t basis := by
    intro e
    rw [hadded e, hkept]
    refine or_congr_right ⟨?_, ?_⟩
    · rintro ⟨⟨key, hashes⟩, hentry, hedge⟩
      rw [hsorted, mem_pairProofs_iff hp] at hentry
      obtain ⟨s, t, basis, rfl, hprescribed, hproves⟩ := hentry
      obtain ⟨hsource, htarget⟩ := correlationEdge_ends hedge
      exact ⟨s, t, basis, hprescribed, hsource, htarget, hashes, hproves, hedge⟩
    · rintro ⟨s, t, basis, hprescribed, -, -, hashes, hproves, hedge⟩
      refine ⟨((s.nodeId, t.nodeId, basis), hashes), ?_, hedge⟩
      rw [hsorted, mem_pairProofs_iff hp]
      exact ⟨s, t, basis, rfl, hprescribed, hproves⟩
  have hbuilt : ∀ e, e ∈ (build c).edges ↔ e ∈ c.edges := fun e => (sortedBy_perm _ _).mem_iff
  refine ⟨?_, fun e => (hbuilt e).trans (hjoined e), ?_⟩
  · refine eq_of_strict (build c).nodes_sorted g.nodes_sorted fun n => ?_
    rw [← hcopied, ← hsame]
    exact (sortedBy_perm _ _).mem_iff
  · intro s t basis proof hprescribed
    obtain ⟨hs, ht⟩ := hprescribed.mem
    have hhas : Has p (pairOf s t basis proof) :=
      (has_pair_iff hp hs ht basis _).mpr ⟨proof, hprescribed, rfl⟩
    have hproves : Proves py g s t basis (find ∅ p.pairProofs (s.nodeId, t.nodeId, basis)) :=
      fun d => has_pair_iff hp hs ht basis d
    have hentry : ((s.nodeId, t.nodeId, basis), find ∅ p.pairProofs (s.nodeId, t.nodeId, basis)) ∈
        p.pairProofs :=
      (mem_pairProofs_iff hp).mpr ⟨s, t, basis, rfl, ⟨proof, hprescribed⟩, hproves⟩
    obtain ⟨s₁, s₂, hone⟩ := foldlM_turn hloop ((hsorted _).mpr hentry)
    obtain ⟨-, e, hedge, -⟩ := addCorrelation_eq_ok hone
    obtain ⟨hsource, htarget⟩ := correlationEdge_ends hedge
    have hjoins : Joins py g e s t basis :=
      ⟨⟨proof, hprescribed⟩, hsource, htarget, _, hproves, hedge⟩
    exact ⟨e, (hbuilt e).mpr ((hjoined e).mpr (.inr ⟨s, t, basis, hjoins⟩)), hjoins⟩

end Exact

/-! ## Two graphs -/

/-- The functions of the language on ASCII text without numbers. -/
def asciiBuiltins : Builtins := ⟨asciiLower, asciiLower, fun _ => none⟩

def fileServer : GraphNode :=
  ⟨"gr-fs01", .asset, "fs01", "fs01", [⟨"inventory", "scan-1", ""⟩], [("hostnames", "fs01.corp")],
    by decide +kernel, by decide⟩

/-- An identity of the directory with the name of the file server. -/
def directoryBackup : GraphNode :=
  ⟨"gr-svc", .identity, "svc-backup", "svc-backup", [⟨"inventory", "scan-1", ""⟩],
    [("dns_hostname", "fs01.corp")], by decide +kernel, by decide⟩

/-- An identity of a cloud provider with the name of the file server. -/
def cloudBackup : GraphNode :=
  ⟨"gr-svc", .identity, "svc-backup", "svc-backup", [⟨"inventory", "scan-1", ""⟩],
    [("cloud_provider", "aws"), ("dns_hostname", "fs01.corp")], by decide +kernel, by decide⟩

/-- The file server and one identity. -/
def backupGraph (identity : GraphNode) (h : "gr-fs01" < identity.nodeId) : IdentityGraph :=
  ⟨[fileServer, identity], [], List.pairwise_pair.mpr h, List.Pairwise.nil,
    fun _ he => absurd he List.not_mem_nil⟩

def directoryGraph : IdentityGraph := backupGraph directoryBackup (by decide +kernel)

def cloudGraph : IdentityGraph := backupGraph cloudBackup (by decide +kernel)

theorem directoryGraph_exact : ∃ r,
    correlateExactCrossSurfaceEvidence asciiBuiltins ⟨4, 4⟩ directoryGraph = .ok r ∧
      r.graph.nodes = directoryGraph.nodes ∧
      (∀ e, e ∈ r.graph.edges ↔
        e ∈ directoryGraph.edges ∨ ∃ s t basis, Joins asciiBuiltins directoryGraph e s t basis) ∧
      ∀ s t basis proof, Prescribes asciiBuiltins directoryGraph s t basis proof →
        ∃ e ∈ r.graph.edges, Joins asciiBuiltins directoryGraph e s t basis := by
  have hreturns : (correlateExactCrossSurfaceEvidence asciiBuiltins ⟨4, 4⟩
    directoryGraph).toOption.isSome = true := by decide +kernel
  obtain ⟨r, hr⟩ := Option.isSome_iff_exists.mp hreturns
  exact ⟨r, eq_ok_of_toOption hr, correlation_exact (eq_ok_of_toOption hr)⟩

/-- The name of a cloud identity is matched with nothing. -/
theorem cloud_identity_unmatched : ¬ ∀ (py : Builtins) (limits : CrossSurfaceCorrelationLimits)
    (g : IdentityGraph) (r : CrossSurfaceCorrelationResult),
    correlateExactCrossSurfaceEvidence py limits g = .ok r →
      ∀ s t basis proof, Prescribed py (fun _ => True) g s t basis proof →
        ∃ e ∈ r.graph.edges, e.sourceNodeId = s.nodeId ∧ e.targetNodeId = t.nodeId := by
  intro hall
  have hreturns : ((correlateExactCrossSurfaceEvidence asciiBuiltins ⟨4, 4⟩
    cloudGraph).toOption.map fun r => r.graph.edges) = some [] := by decide +kernel
  obtain ⟨r, hr, hedges⟩ := Option.map_eq_some_iff.mp hreturns
  have hnamed : NamedBy asciiBuiltins "fs01.corp" fileServer := by decide +kernel
  have honly : Only cloudGraph (NamedBy asciiBuiltins "fs01.corp") fileServer := by
    refine ⟨List.mem_cons_self, hnamed, fun m hm hm' => ?_⟩
    rcases List.mem_pair.mp hm with rfl | rfl
    · rfl
    · exact absurd hm'.1.1 (by decide)
  have hprescribed : Prescribed asciiBuiltins (fun _ => True) cloudGraph cloudBackup fileServer
      .exactHostname "fs01.corp" :=
    .identityToAsset cloudBackup fileServer "fs01.corp"
      (List.mem_cons_of_mem _ List.mem_cons_self) rfl trivial (by decide +kernel) honly
  obtain ⟨e, he, -⟩ := hall _ _ _ r (eq_ok_of_toOption hr) _ _ _ _ hprescribed
  rw [hedges] at he
  exact List.not_mem_nil he

end NightRecon.RedEngine.GraphCorrelation
