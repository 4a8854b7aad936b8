import NightRecon.Lib.Keyed
import NightRecon.RedEngine.GraphCorrelationExact

/-!
# Correlation is stable

The correlation of a graph whose nodes and edges come in any order, and of its own output.

* `correlateInOrder` — the correlation of nodes and edges in the order given;
  `correlate_eq_inOrder` — that of a graph is the one in the order of the identifiers;
* `SameTables`, `correlatedPairs_perm` — the tables of the nodes do not see their order, so the
  rules do the same;
* `SameFacts`, `addCorrelations_perm` — nor does the builder;
* `addCorrelations_again` — correlations that are there are not added again;
* `correlation_stable` — **correlating again, or in another order, changes nothing**.
-/

namespace NightRecon.RedEngine.GraphCorrelation

open NightRecon.Lib
open NightRecon.Lib.Assoc
open NightRecon.Lib.Checks
open NightRecon.Lib.Records (eq_of_strict)
open NightRecon.Lib.Text
open NightRecon.RedEngine.GraphBuilder

variable {py : Builtins} {limits : CrossSurfaceCorrelationLimits}

/-! ## Nodes and edges in any order -/

/-- The limits of the builder for so many nodes and edges. -/
def limitsFor (limits : CrossSurfaceCorrelationLimits) (nodes : List GraphNode)
    (edges : List GraphEdge) : GraphBuildLimits :=
  ⟨max nodes.length 1, edges.length + limits.maxEdges,
    Nat.lt_of_lt_of_le Nat.one_pos (le_max_right _ _)⟩

/-- All four rules on nodes in the order given. -/
def pairsInOrder (py : Builtins) (limits : CrossSurfaceCorrelationLimits)
    (nodes : List GraphNode) : Py Progress := do
  let t ← nodes.foldlM (classify py) .empty
  let p ← correlateIdentities py limits t .empty
  let p ← correlateSurfaces py limits t p
  let p ← correlateClouds py limits t p
  correlateCloudIdentities limits t p

/-- The pairs in the order of their keys. -/
def sortedPairs (p : Progress) : List (PairKey × Finset String) :=
  p.pairProofs.insertionSort fun a b => PairKey.le a.1 b.1 = true

/-- The correlation of nodes and edges in the order given.
Source: `graph_correlation.py` `correlate_exact_cross_surface_evidence`. -/
def correlateInOrder (py : Builtins) (limits : CrossSurfaceCorrelationLimits)
    (nodes : List GraphNode) (edges : List GraphEdge) : Py CrossSurfaceCorrelationResult := do
  let b ← nodes.foldlM (addNode (limitsFor limits nodes edges)) .empty
  let b ← edges.foldlM (addEdge (limitsFor limits nodes edges)) b
  let p ← pairsInOrder py limits nodes
  raiseIf (limits.maxEdges < p.pairProofs.length)
    (valueError "cross-surface correlation edge limit exceeded")
  let (b, correlated) ← (sortedPairs p).foldlM
    (addCorrelation py (limitsFor limits nodes edges)) (b, [])
  return ⟨build b, sortedStr correlated, p.unresolved.insertionSort fun u v => u.le v = true⟩

theorem correlate_eq_inOrder (g : IdentityGraph) :
    correlateExactCrossSurfaceEvidence py limits g =
      correlateInOrder py limits g.nodes g.edges := rfl

/-! ## The tables -/

section Tables

variable {nodes nodes' : List GraphNode} {t t' : Tables}

/-- Records with differing keys are sorted into one list, whatever order they come in. -/
theorem sortedBy_eq_of_perm {α : Type} {key : α → String} {l l' : List α} (h : l.Perm l')
    (hnodup : (l.map key).Nodup) : sortedBy key l = sortedBy key l' := by
  refine eq_of_strict (sortedBy_strict hnodup)
    (sortedBy_strict ((h.map key).nodup_iff.mp hnodup)) fun a => ?_
  rw [(sortedBy_perm key l).mem_iff, (sortedBy_perm key l').mem_iff, h.mem_iff]

theorem filter_map_nodup {p : GraphNode → Bool} (h : (nodes.map (·.nodeId)).Nodup) :
    ((nodes.filter p).map (·.nodeId)).Nodup :=
  h.sublist (List.filter_sublist.map _)

/-- Tables that give every rule the same. -/
structure SameTables (t t' : Tables) : Prop where
  hostname : candidates t.assetsByHostname = candidates t'.assetsByHostname
  address : candidates t.assetsByAddress = candidates t'.assetsByAddress
  service : candidates t.networkServices = candidates t'.networkServices
  entra : candidates t.entraIdentitiesByKey = candidates t'.entraIdentitiesByKey
  identities : sortedBy (·.nodeId) t.identities = sortedBy (·.nodeId) t'.identities
  webSurfaces : sortedBy (·.nodeId) t.webSurfaces = sortedBy (·.nodeId) t'.webSurfaces
  cloudResources : sortedBy (·.nodeId) t.cloudResources = sortedBy (·.nodeId) t'.cloudResources
  cloudIdentities : sortedBy (·.nodeId) t.cloudIdentities = sortedBy (·.nodeId) t'.cloudIdentities

/-- **The tables do not see the order of the nodes.** -/
theorem sameTables_of_perm (hperm : nodes.Perm nodes') (hnodup : (nodes.map (·.nodeId)).Nodup)
    (h : Added py .empty nodes t) (h' : Added py .empty nodes' t') : SameTables t t' := by
  have hsorted : ∀ p : GraphNode → Bool,
      sortedBy (·.nodeId) (nodes.filter p) = sortedBy (·.nodeId) (nodes'.filter p) :=
    fun p => sortedBy_eq_of_perm (hperm.filter p) (filter_map_nodup hnodup)
  have hfound : ∀ {κ : Type} [DecidableEq κ] (table table' : List (κ × List GraphNode))
      (p : κ → GraphNode → Bool), (∀ k, find [] table k = [] ++ nodes.filter (p k)) →
      (∀ k, find [] table' k = [] ++ nodes'.filter (p k)) →
        candidates table = candidates table' := by
    intro κ _ table table' p ht ht'
    funext k
    rw [candidates, candidates, ht, ht']
    exact hsorted (p k)
  refine ⟨?_, ?_, ?_, ?_, ?_, ?_, ?_, ?_⟩
  · exact hfound _ _ _ h.hostname h'.hostname
  · exact hfound _ _ _ h.address h'.address
  · exact hfound _ _ _ h.service h'.service
  · exact hfound _ _ _ h.entra h'.entra
  · rw [h.identities, h'.identities]
    exact hsorted _
  · rw [h.webSurfaces, h'.webSurfaces]
    exact hsorted _
  · rw [h.cloudResources, h'.cloudResources]
    exact hsorted _
  · rw [h.cloudIdentities, h'.cloudIdentities]
    exact hsorted _

variable (h : SameTables t t')

include h

theorem correlateIdentities_congr :
    correlateIdentities py limits t = correlateIdentities py limits t' := by
  have hturn : correlateHostname limits t = correlateHostname limits t' := by
    funext identity p hostname
    unfold correlateHostname
    rw [h.hostname]
  funext p
  unfold correlateIdentities
  rw [h.identities, hturn]

theorem correlateSurfaces_congr :
    correlateSurfaces py limits t = correlateSurfaces py limits t' := by
  have horigin : originCandidates t = originCandidates t' := by
    funext host
    unfold originCandidates
    rw [h.address, h.hostname]
  have hturn : correlateSurface py limits t = correlateSurface py limits t' := by
    funext p surface
    unfold correlateSurface
    rw [horigin, h.service]
  funext p
  unfold correlateSurfaces
  rw [h.webSurfaces, hturn]

theorem correlateClouds_congr :
    correlateClouds py limits t = correlateClouds py limits t' := by
  have hcandidates : cloudCandidates t = cloudCandidates t' := by
    funext key
    unfold cloudCandidates
    rw [h.address, h.hostname]
  have hkey : matchCloudKey limits t = matchCloudKey limits t' := by
    funext resource m key
    unfold matchCloudKey
    rw [hcandidates]
  have hturn : correlateCloud py limits t = correlateCloud py limits t' := by
    funext p resource
    unfold correlateCloud
    rw [hkey]
  funext p
  unfold correlateClouds
  rw [h.cloudResources, hturn]

theorem correlateCloudIdentities_congr :
    correlateCloudIdentities limits t = correlateCloudIdentities limits t' := by
  have hturn : correlateCloudIdentity limits t = correlateCloudIdentity limits t' := by
    funext p cloudIdentity
    unfold correlateCloudIdentity
    rw [h.entra]
  funext p
  unfold correlateCloudIdentities
  rw [h.cloudIdentities, hturn]

end Tables

/-! ## The rules -/

/-- The node is entered into any tables. -/
def Classifies (py : Builtins) (n : GraphNode) : Prop :=
  ∀ t, ∃ t', classify py t n = .ok t'

/-- Whether a node is entered does not depend on the tables. -/
theorem classifies_of {t t' : Tables} {n : GraphNode} (h : classify py t n = .ok t') :
    Classifies py n := by
  intro s
  unfold classify at h ⊢
  split at h
  · exact ⟨_, rfl⟩
  · exact ⟨_, rfl⟩
  · unfold classifyService at h ⊢
    split at h
    · exact ⟨_, rfl⟩
    · rw [bind_eq_ok] at h
      obtain ⟨endpoint, hendpoint, -⟩ := h
      rw [hendpoint]
      exact ⟨_, rfl⟩
  · exact ⟨_, rfl⟩

theorem classify_all_iff {nodes : List GraphNode} :
    ∀ {t : Tables}, (∃ t', nodes.foldlM (classify py) t = .ok t') ↔
      ∀ n ∈ nodes, Classifies py n := by
  induction nodes with
  | nil => exact fun {t} => iff_of_true ⟨t, rfl⟩ fun _ h => absurd h List.not_mem_nil
  | cons n nodes ih =>
    intro t
    rw [List.forall_mem_cons]
    constructor
    · rintro ⟨t', h⟩
      rw [List.foldlM_cons, bind_eq_ok] at h
      obtain ⟨s, hs, h⟩ := h
      exact ⟨classifies_of hs, ih.mp ⟨t', h⟩⟩
    · rintro ⟨hn, hrest⟩
      obtain ⟨s, hs⟩ := hn t
      obtain ⟨t', h⟩ : ∃ t', nodes.foldlM (classify py) s = .ok t' := ih.mpr hrest
      refine ⟨t', ?_⟩
      rw [List.foldlM_cons, hs]
      exact h

/-- **The rules find the same pairs whatever order the nodes come in.** -/
theorem pairsInOrder_perm {nodes nodes' : List GraphNode} {p : Progress} (hperm : nodes.Perm nodes')
    (hnodup : (nodes.map (·.nodeId)).Nodup) (h : pairsInOrder py limits nodes = .ok p) :
    pairsInOrder py limits nodes' = .ok p := by
  unfold pairsInOrder at h ⊢
  rw [bind_eq_ok] at h
  obtain ⟨t, ht, h⟩ := h
  have hall := classify_all_iff.mp ⟨t, ht⟩
  obtain ⟨t', ht'⟩ := classify_all_iff.mpr fun n hn => hall n (hperm.mem_iff.mpr hn)
  have hsame := sameTables_of_perm hperm hnodup (tables_of ht) (tables_of ht')
  rw [ht', ok_bind, ← correlateIdentities_congr hsame, ← correlateSurfaces_congr hsame,
    ← correlateClouds_congr hsame, ← correlateCloudIdentities_congr hsame]
  exact h

/-! ## The builder -/

/-- Builders with the same nodes and edges. -/
structure SameFacts (b b' : IdentityGraphBuilder) : Prop where
  nodes : b.nodes.Perm b'.nodes
  edges : b.edges.Perm b'.edges

variable {l : GraphBuildLimits} {b b' : IdentityGraphBuilder}

/-- They build one graph. -/
theorem build_eq_of_same (h : SameFacts b b') : build b = build b' := by
  have hnodes := sortedBy_eq_of_perm h.nodes b.nodes_distinct
  have hedges := sortedBy_eq_of_perm h.edges b.edges_distinct
  unfold build
  simp only [IdentityGraph.mk.injEq]
  exact ⟨hnodes, hedges⟩

/-- Nodes with differing identifiers are copied into the builder. -/
theorem copyNodes {nodes : List GraphNode} :
    ∀ b : IdentityGraphBuilder, ((b.nodes ++ nodes).map (·.nodeId)).Nodup →
      (b.nodes ++ nodes).length ≤ l.maxNodes →
      ∃ b', nodes.foldlM (addNode l) b = .ok b' ∧ b'.nodes = b.nodes ++ nodes ∧
        b'.edges = b.edges := by
  induction nodes with
  | nil => exact fun b _ _ => ⟨b, rfl, (List.append_nil _).symm, rfl⟩
  | cons n nodes ih =>
    intro b hnodup hroom
    have hnew : b.nodes.find? (fun m => m.nodeId = n.nodeId) = none := by
      refine List.find?_eq_none.mpr fun m hm hid => ?_
      rw [List.map_append, List.nodup_append] at hnodup
      exact hnodup.2.2 _ (List.mem_map_of_mem hm) _ (List.mem_map_of_mem List.mem_cons_self)
        (of_decide_eq_true hid)
    have hfits : ¬l.maxNodes ≤ b.nodes.length := by
      rw [List.length_append, List.length_cons] at hroom
      omega
    obtain ⟨b₁, hadd, hnodes, hedges⟩ : ∃ b₁, addNode l b n = .ok b₁ ∧
        b₁.nodes = b.nodes ++ [n] ∧ b₁.edges = b.edges := by
      unfold addNode
      split
      · next existing hfind => exact absurd (hnew.symm.trans hfind) (Option.some_ne_none _).symm
      · rw [raiseIf_of_not hfits]
        exact ⟨_, rfl, rfl, rfl⟩
    have hsplit : b₁.nodes ++ nodes = b.nodes ++ n :: nodes := by
      rw [hnodes, List.append_assoc, List.singleton_append]
    obtain ⟨b', hrest, hnodes', hedges'⟩ := ih b₁ (hsplit ▸ hnodup) (hsplit ▸ hroom)
    refine ⟨b', ?_, hnodes'.trans hsplit, hedges'.trans hedges⟩
    rw [List.foldlM_cons, hadd]
    exact hrest

/-- What adding an edge does: nothing to one that is there, and a new one goes to the end. -/
theorem addEdge_cases (l : GraphBuildLimits) (b : IdentityGraphBuilder) (e : GraphEdge)
    (hbetween : Between b.nodes e) :
    (e ∈ b.edges → addEdge l b e = .ok b) ∧
      (b.edges.find? (fun e' => e'.edgeId = e.edgeId) = none → b.edges.length < l.maxEdges →
        ∃ b', addEdge l b e = .ok b' ∧ b'.nodes = b.nodes ∧ b'.edges = b.edges ++ [e]) := by
  unfold addEdge
  rw [prove_of hbetween.1, ok_bind, prove_of hbetween.2, ok_bind]
  constructor
  · intro he
    have hfind := (Keyed.find?_eq_some_iff b.edges_distinct).mpr ⟨he, rfl⟩
    split
    · next existing hfind' =>
      obtain rfl := Option.some.inj (hfind.symm.trans hfind')
      rw [raiseIf_of_not (not_not.mpr rfl)]
      rfl
    · next hfind' => exact absurd (hfind.symm.trans hfind') (Option.some_ne_none _)
  · intro hnew hroom
    split
    · next existing hfind => exact absurd (hnew.symm.trans hfind) (Option.some_ne_none _).symm
    · rw [raiseIf_of_not (Nat.not_le_of_lt hroom)]
      exact ⟨_, rfl, rfl, rfl⟩

/-- Edges between the nodes, with differing identifiers, are copied into the builder. -/
theorem copyEdges {edges : List GraphEdge} :
    ∀ b : IdentityGraphBuilder, ((b.edges ++ edges).map (·.edgeId)).Nodup →
      (∀ e ∈ edges, Between b.nodes e) → (b.edges ++ edges).length ≤ l.maxEdges →
      ∃ b', edges.foldlM (addEdge l) b = .ok b' ∧ b'.nodes = b.nodes ∧
        b'.edges = b.edges ++ edges := by
  induction edges with
  | nil => exact fun b _ _ _ => ⟨b, rfl, rfl, (List.append_nil _).symm⟩
  | cons e edges ih =>
    intro b hnodup hbetween hroom
    obtain ⟨he, hrest⟩ := List.forall_mem_cons.mp hbetween
    have hnew : b.edges.find? (fun e' => e'.edgeId = e.edgeId) = none := by
      refine List.find?_eq_none.mpr fun m hm hid => ?_
      rw [List.map_append, List.nodup_append] at hnodup
      exact hnodup.2.2 _ (List.mem_map_of_mem hm) _ (List.mem_map_of_mem List.mem_cons_self)
        (of_decide_eq_true hid)
    have hfits : b.edges.length < l.maxEdges := by
      rw [List.length_append, List.length_cons] at hroom
      omega
    obtain ⟨b₁, hadd, hnodes, hedges⟩ := (addEdge_cases l b e he).2 hnew hfits
    have hsplit : b₁.edges ++ edges = b.edges ++ e :: edges := by
      rw [hedges, List.append_assoc, List.singleton_append]
    obtain ⟨b', hcopy, hnodes', hedges'⟩ := ih b₁ (hsplit ▸ hnodup) (hnodes ▸ hrest)
      (hsplit ▸ hroom)
    refine ⟨b', ?_, hnodes'.trans hnodes, hedges'.trans hsplit⟩
    rw [List.foldlM_cons, hadd]
    exact hcopy

theorem between_of_perm {nodes nodes' : List GraphNode} (h : nodes.Perm nodes') {e : GraphEdge}
    (he : Between nodes e) : Between nodes' e := by
  obtain ⟨⟨n, hn, hsource⟩, m, hm, htarget⟩ := he
  exact ⟨⟨n, h.mem_iff.mp hn, hsource⟩, m, h.mem_iff.mp hm, htarget⟩

/-- **A graph is copied whole**, in whatever order its nodes and edges come. -/
theorem copy_inOrder {g : IdentityGraph} {nodes : List GraphNode} {edges : List GraphEdge}
    (hnodes : g.nodes.Perm nodes) (hedges : g.edges.Perm edges)
    (hmaxNodes : nodes.length ≤ l.maxNodes) (hmaxEdges : edges.length ≤ l.maxEdges) :
    ∃ b b', nodes.foldlM (addNode l) .empty = .ok b ∧ edges.foldlM (addEdge l) b = .ok b' ∧
      b'.nodes = nodes ∧ b'.edges = edges := by
  have hnodup : (nodes.map (·.nodeId)).Nodup :=
    (hnodes.map _).nodup_iff.mp (Records.keys_nodup_of_strict g.nodes_sorted)
  have hdistinct : (edges.map (·.edgeId)).Nodup :=
    (hedges.map _).nodup_iff.mp (Records.keys_nodup_of_strict g.edges_sorted)
  obtain ⟨b, hb, hbnodes, hbedges⟩ := copyNodes .empty hnodup hmaxNodes
  have hbetween : ∀ e ∈ edges, Between b.nodes e := by
    intro e he
    rw [hbnodes]
    exact between_of_perm hnodes (g.edges_between e (hedges.mem_iff.mpr he))
  have hempty : b.edges ++ edges = edges := by
    rw [hbedges]
    rfl
  obtain ⟨b', hb', hnodes', hedges'⟩ := copyEdges b (hempty.symm ▸ hdistinct) hbetween
    (hempty.symm ▸ hmaxEdges)
  exact ⟨b, b', hb, hb', hnodes'.trans hbnodes, hedges'.trans hempty⟩

/-- Builders with the same facts take an edge alike. -/
theorem addEdge_same {c : IdentityGraphBuilder} {e : GraphEdge} (hsame : SameFacts b b')
    (h : addEdge l b e = .ok c) : ∃ c', addEdge l b' e = .ok c' ∧ SameFacts c c' := by
  have hbetween : Between b.nodes e := by
    unfold addEdge at h
    rw [bind_eq_ok] at h
    obtain ⟨hsource, -, h⟩ := h
    rw [bind_eq_ok] at h
    obtain ⟨htarget, -, h⟩ := h
    exact ⟨hsource.down, htarget.down⟩
  have hbetween' := between_of_perm hsame.nodes hbetween
  by_cases he : e ∈ b.edges
  · obtain rfl := Except.ok.inj (((addEdge_cases l b e hbetween).1 he).symm.trans h)
    exact ⟨b', (addEdge_cases l b' e hbetween').1 (hsame.edges.mem_iff.mp he), hsame⟩
  · have hnew : b.edges.find? (fun e' => e'.edgeId = e.edgeId) = none ∧
        b.edges.length < l.maxEdges := by
      unfold addEdge at h
      rw [prove_of hbetween.1, ok_bind, prove_of hbetween.2, ok_bind] at h
      split at h
      · next existing hfind =>
        simp only [raiseIf_bind_eq_ok, not_not] at h
        exact absurd (h.1 ▸ List.mem_of_find?_eq_some hfind) he
      · next hfind =>
        simp only [raiseIf_bind_eq_ok] at h
        exact ⟨hfind, Nat.lt_of_not_le h.1⟩
    have hnew' : b'.edges.find? (fun e' => e'.edgeId = e.edgeId) = none := by
      rw [← Keyed.find?_perm hsame.edges b.edges_distinct]
      exact hnew.1
    obtain ⟨c₁, hc₁, hnodes₁, hedges₁⟩ := (addEdge_cases l b e hbetween).2 hnew.1 hnew.2
    obtain ⟨c', hc', hnodes', hedges'⟩ := (addEdge_cases l b' e hbetween').2 hnew'
      (hsame.edges.length_eq ▸ hnew.2)
    obtain rfl := Except.ok.inj (hc₁.symm.trans h)
    refine ⟨c', hc', ?_, ?_⟩
    · rw [hnodes₁, hnodes']
      exact hsame.nodes
    · rw [hedges₁, hedges']
      exact hsame.edges.append_right [e]

/-- **Correlations are added alike to the same facts.** -/
theorem addCorrelations_perm {entries : List (PairKey × Finset String)} :
    ∀ {b b' c : IdentityGraphBuilder} {ids ids' : List String}, SameFacts b b' →
      entries.foldlM (addCorrelation py l) (b, ids) = .ok (c, ids') →
      ∃ c', entries.foldlM (addCorrelation py l) (b', ids) = .ok (c', ids') ∧ SameFacts c c' := by
  induction entries with
  | nil =>
    intro b b' c ids ids' hsame h
    obtain ⟨rfl, rfl⟩ := Prod.mk.inj (Except.ok.inj h)
    exact ⟨b', rfl, hsame⟩
  | cons entry entries ih =>
    intro b b' c ids ids' hsame h
    rw [List.foldlM_cons, bind_eq_ok] at h
    obtain ⟨⟨c₁, ids₁⟩, hfirst, h⟩ := h
    simp only [addCorrelation, bind_eq_ok, pure_eq_ok, Except.ok.injEq, Prod.mk.injEq] at hfirst
    obtain ⟨e, hedge, c₀, hadd, rfl, rfl⟩ := hfirst
    obtain ⟨c₁', hadd', hsame'⟩ := addEdge_same hsame hadd
    obtain ⟨c', hrest, hlast⟩ := ih hsame' h
    refine ⟨c', ?_, hlast⟩
    rw [List.foldlM_cons, addCorrelation, hedge, ok_bind, hadd', ok_bind]
    exact hrest

/-- **Correlations that are there are not added again**, whatever the limits. -/
theorem addCorrelations_again {entries : List (PairKey × Finset String)} {l' : GraphBuildLimits}
    {b' : IdentityGraphBuilder} :
    ∀ {b c : IdentityGraphBuilder} {ids ids' : List String},
      entries.foldlM (addCorrelation py l) (b, ids) = .ok (c, ids') →
      (∀ e ∈ c.edges, e ∈ b'.edges) →
        entries.foldlM (addCorrelation py l') (b', ids) = .ok (b', ids') := by
  induction entries with
  | nil =>
    intro b c ids ids' h _
    obtain ⟨-, rfl⟩ := Prod.mk.inj (Except.ok.inj h)
    rfl
  | cons entry entries ih =>
    intro b c ids ids' h hthere
    rw [List.foldlM_cons, bind_eq_ok] at h
    obtain ⟨⟨c₁, ids₁⟩, hfirst, h⟩ := h
    simp only [addCorrelation, bind_eq_ok, pure_eq_ok, Except.ok.injEq, Prod.mk.injEq] at hfirst
    obtain ⟨e, hedge, c₀, hadd, rfl, rfl⟩ := hfirst
    have hin : e ∈ c.edges :=
      (addCorrelations_edges h e).mpr (.inl (((addEdge_eq_ok hadd).2 e).mpr (.inr rfl)))
    have he := hthere e hin
    rw [List.foldlM_cons, addCorrelation, hedge, ok_bind,
      (addEdge_cases l' b' e (b'.edges_between e he)).1 he, ok_bind]
    exact ih h hthere

/-! ## Correlating again, and in another order -/

/-- **Correlation is stable.**  Correlating the correlated graph gives the same graph, correlations
and unresolved matches; so does correlating the nodes and edges in any other order. -/
theorem correlation_stable {g : IdentityGraph} {r : CrossSurfaceCorrelationResult}
    (h : correlateExactCrossSurfaceEvidence py limits g = .ok r) :
    correlateExactCrossSurfaceEvidence py limits r.graph = .ok r ∧
      ∀ nodes edges, g.nodes.Perm nodes → g.edges.Perm edges →
        correlateInOrder py limits nodes edges = .ok r := by
  have hsameNodes := (correlation_exact h).1
  have hids : (g.nodes.map (·.nodeId)).Nodup := Records.keys_nodup_of_strict g.nodes_sorted
  rw [correlate_eq_inOrder] at h ⊢
  unfold correlateInOrder at h
  simp only [bind_eq_ok, raiseIf_eq_ok, pure_eq_ok, Except.ok.injEq] at h
  obtain ⟨b, hnodes, b', hedges, p, hp, _, hlimit, ⟨c, correlated⟩, hloop, rfl⟩ := h
  obtain ⟨b₀, b₁, hb₀, hb₁, hcopyNodes, hcopyEdges⟩ := copy_inOrder (g := g)
    (l := limitsFor limits g.nodes g.edges) (.refl _) (.refl _) (le_max_left _ _)
    (Nat.le_add_right _ _)
  obtain rfl := Except.ok.inj (hb₀.symm.trans hnodes)
  obtain rfl := Except.ok.inj (hb₁.symm.trans hedges)
  constructor
  · -- the second run copies the correlated graph and finds every correlation there
    obtain ⟨d, d', hd, hd', hdnodes, hdedges⟩ := copy_inOrder (g := build c) (.refl _) (.refl _)
      (l := limitsFor limits (build c).nodes (build c).edges) (le_max_left _ _)
      (Nat.le_add_right _ _)
    have hsame : SameFacts c d' := by
      constructor
      · rw [hdnodes]
        exact (sortedBy_perm _ _).symm
      · rw [hdedges]
        exact (sortedBy_perm _ _).symm
    have hagain : (sortedPairs p).foldlM
        (addCorrelation py (limitsFor limits (build c).nodes (build c).edges)) (d', []) =
          .ok (d', correlated) :=
      addCorrelations_again hloop fun e he => hsame.edges.mem_iff.mp he
    have hpairs : pairsInOrder py limits (build c).nodes = .ok p := by
      rw [hsameNodes]
      exact hp
    unfold correlateInOrder
    rw [hd, ok_bind, hd', ok_bind, hpairs, ok_bind, raiseIf_of_not hlimit, ok_bind, hagain,
      ok_bind, build_eq_of_same hsame]
    rfl
  · intro nodes edges hperm hpermEdges
    have hlimits : limitsFor limits nodes edges = limitsFor limits g.nodes g.edges := by
      unfold limitsFor
      simp only [hperm.length_eq, hpermEdges.length_eq]
    obtain ⟨d, d', hd, hd', hdnodes, hdedges⟩ := copy_inOrder (g := g)
      (l := limitsFor limits g.nodes g.edges) hperm hpermEdges
      (hperm.length_eq ▸ le_max_left _ _) (hpermEdges.length_eq ▸ Nat.le_add_right _ _)
    have hsame : SameFacts b₁ d' := by
      constructor
      · rw [hcopyNodes, hdnodes]
        exact hperm
      · rw [hcopyEdges, hdedges]
        exact hpermEdges
    obtain ⟨c', hloop', hlast⟩ := addCorrelations_perm hsame hloop
    unfold correlateInOrder
    rw [hlimits, hd, ok_bind, hd', ok_bind, pairsInOrder_perm hperm hids hp, ok_bind,
      raiseIf_of_not hlimit, ok_bind, hloop', ok_bind, build_eq_of_same hlast]
    rfl

theorem directoryGraph_stable : ∃ r,
    correlateExactCrossSurfaceEvidence asciiBuiltins ⟨4, 4⟩ directoryGraph = .ok r ∧
      correlateExactCrossSurfaceEvidence asciiBuiltins ⟨4, 4⟩ r.graph = .ok r ∧
      correlateInOrder asciiBuiltins ⟨4, 4⟩ [directoryBackup, fileServer] [] = .ok r := by
  have hreturns : (correlateExactCrossSurfaceEvidence asciiBuiltins ⟨4, 4⟩
    directoryGraph).toOption.isSome = true := by decide +kernel
  obtain ⟨r, hr⟩ := Option.isSome_iff_exists.mp hreturns
  obtain ⟨hagain, horder⟩ := correlation_stable (eq_ok_of_toOption hr)
  exact ⟨r, eq_ok_of_toOption hr, hagain, horder _ _ (List.Perm.swap _ _ _) (List.Perm.refl _)⟩

end NightRecon.RedEngine.GraphCorrelation
