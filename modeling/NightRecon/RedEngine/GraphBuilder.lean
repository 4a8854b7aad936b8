import NightRecon.Exceptions
import NightRecon.Lib.Assoc
import NightRecon.Lib.Collect
import NightRecon.Lib.Records
import NightRecon.Lib.Sha256

/-!
# Identity graphs

`nightrecon_red_engine/graph_models.py` and `graph_builder.py`: nodes and edges with opaque
identifiers, and the builder that assembles them.

* `GraphNode`, `GraphEdge` — the facts; `GraphNode.create`, `GraphEdge.create`;
* `IdentityGraph` — a snapshot the builder gives: nodes and edges in the order of their
  identifiers, each identifier once, and every edge between nodes of the graph;
* `IdentityGraphBuilder`, `addNode`, `addEdge`, `build` — the builder;
* `addNode_eq_ok`, `addEdge_eq_ok` — what an addition that is accepted does.

`lower` is the case mapping `str.lower`, of which nothing is assumed.
-/

namespace NightRecon.RedEngine.GraphBuilder

open NightRecon.Lib
open NightRecon.Lib.Assoc
open NightRecon.Lib.Checks
open NightRecon.Lib.Collect
open NightRecon.Lib.Records
open NightRecon.Lib.Text

/-! ## Nodes and edges -/

/-- Source: `graph_models.py` `GraphNodeKind`. -/
inductive GraphNodeKind where
  | asset
  | service
  | identity
  | group
  | permission
  | vulnerability
  | criticalAsset
  | assessmentFinding
  deriving DecidableEq

def GraphNodeKind.value : GraphNodeKind → String
  | .asset => "asset"
  | .service => "service"
  | .identity => "identity"
  | .group => "group"
  | .permission => "permission"
  | .vulnerability => "vulnerability"
  | .criticalAsset => "critical-asset"
  | .assessmentFinding => "assessment-finding"

/-- Source: `graph_models.py` `GraphEvidenceState`. -/
inductive GraphEvidenceState where
  | observed
  | inferred
  deriving DecidableEq

def GraphEvidenceState.value : GraphEvidenceState → String
  | .observed => "observed"
  | .inferred => "inferred"

/-- Source: `graph_models.py` `GraphProvenance`. -/
structure GraphProvenance where
  sourceType : String
  sourceId : String
  observedAt : String
  deriving DecidableEq

/-- Source: `graph_models.py` `GraphProvenance.__post_init__`. -/
def GraphProvenance.make (sourceType sourceId observedAt : String) : Py GraphProvenance := do
  raiseIf (strip sourceType = "") (valueError "source_type must not be empty")
  raiseIf (strip sourceId = "") (valueError "source_id must not be empty")
  return ⟨sourceType, sourceId, observedAt⟩

/-- Source: `graph_models.py` `stable_graph_id`. -/
def stableGraphId (lower : String → String) (parts : List String) : Py String := do
  let normalized := parts.map fun part => lower (strip part)
  raiseIf (normalized = [] ∨ "" ∈ normalized)
    (valueError "stable graph identifiers require non-empty parts")
  return "gr-" ++ Sha256.hexOf ("\x1f".intercalate normalized).toList

/-- One property entered under its normal key. -/
def readProperty (lower : String → String) (normalized : List (String × String))
    (property : String × String) : Py (List (String × String)) := do
  let key := lower (strip property.1)
  raiseIf (key = "") (valueError "graph property keys must not be empty")
  raiseIf (key ∈ keys normalized) (valueError ("duplicate graph property: " ++ key))
  return normalized ++ [(key, strip property.2)]

/-- Source: `graph_models.py` `_normalize_properties`. -/
def normalizeProperties (lower : String → String) (properties : List (String × String)) :
    Py (List (String × String)) := do
  let normalized ← properties.foldlM (readProperty lower) []
  return sortedBy Prod.fst normalized

/-- The order of provenance records: by type, identifier and time. -/
def GraphProvenance.le (p q : GraphProvenance) : Bool :=
  p.sourceType < q.sourceType || (p.sourceType = q.sourceType &&
    (p.sourceId < q.sourceId || (p.sourceId = q.sourceId && p.observedAt ≤ q.observedAt)))

/-- Source: `graph_models.py` `_normalize_provenance`. -/
def normalizeProvenance (provenance : List GraphProvenance) : List GraphProvenance :=
  ((provenance.map fun p => ⟨strip p.sourceType, strip p.sourceId, strip p.observedAt⟩).dedup
    ).insertionSort fun p q => p.le q = true

/-- A node; its identifier is trimmed and no property key occurs twice.
Source: `graph_models.py` `GraphNode`. -/
structure GraphNode where
  nodeId : String
  kind : GraphNodeKind
  naturalKey : String
  label : String
  provenance : List GraphProvenance
  properties : List (String × String)
  nodeId_trimmed : strip nodeId = nodeId
  properties_distinct : (keys properties).Nodup

theorem GraphNode.ext_data {n m : GraphNode} (hid : n.nodeId = m.nodeId) (hkind : n.kind = m.kind)
    (hkey : n.naturalKey = m.naturalKey) (hlabel : n.label = m.label)
    (hprovenance : n.provenance = m.provenance) (hproperties : n.properties = m.properties) :
    n = m := by
  cases n
  cases m
  simp only [GraphNode.mk.injEq]
  exact ⟨hid, hkind, hkey, hlabel, hprovenance, hproperties⟩

instance : DecidableEq GraphNode := fun n m =>
  decidable_of_iff (n.nodeId = m.nodeId ∧ n.kind = m.kind ∧ n.naturalKey = m.naturalKey ∧
    n.label = m.label ∧ n.provenance = m.provenance ∧ n.properties = m.properties)
    ⟨fun ⟨h₁, h₂, h₃, h₄, h₅, h₆⟩ => GraphNode.ext_data h₁ h₂ h₃ h₄ h₅ h₆,
      fun h => h ▸ ⟨rfl, rfl, rfl, rfl, rfl, rfl⟩⟩

/-- `properties.get(key, d)`. -/
def GraphNode.property (n : GraphNode) (key : String) (d : String) : String :=
  find d n.properties key

/-- A stable identifier has no white space. -/
theorem strip_stableGraphId {lower : String → String} {parts : List String} {id : String}
    (h : stableGraphId lower parts = .ok id) : strip id = id := by
  simp only [stableGraphId, raiseIf_bind_eq_ok, pure_eq_ok, Except.ok.injEq] at h
  obtain ⟨-, rfl⟩ := h
  apply strip_eq_self
  intro c hc
  rw [String.toList_append, List.mem_append] at hc
  rcases hc with hc | hc
  · have hprefix : "gr-".toList.all (fun d => !isSpace d) = true := rfl
    exact Bool.not_eq_true' _ |>.mp (List.all_eq_true.mp hprefix c hc)
  · have hhex : "0123456789abcdef".toList.all (fun d => !isSpace d) = true := rfl
    have hmem := (Sha256.isSha256Hex_hexOf _).2 c hc
    exact Bool.not_eq_true' _ |>.mp (List.all_eq_true.mp hhex c hmem)

theorem normalizeProperties_distinct {lower : String → String}
    {properties normalized : List (String × String)}
    (h : normalizeProperties lower properties = .ok normalized) : (keys normalized).Nodup := by
  simp only [normalizeProperties, bind_eq_ok, pure_eq_ok, Except.ok.injEq] at h
  obtain ⟨l, hl, rfl⟩ := h
  have hnodup : (keys l).Nodup := by
    refine foldlM_induct (P := fun _ l => (keys l).Nodup) ?_ properties [] [] l List.nodup_nil hl
    intro done property s s' hs hstep
    simp only [readProperty, raiseIf_bind_eq_ok, pure_eq_ok, Except.ok.injEq] at hstep
    obtain ⟨-, hnew, rfl⟩ := hstep
    rw [keys, List.map_append]
    refine List.Nodup.append hs (List.nodup_singleton _) ?_
    intro k hk hk'
    obtain rfl : k = lower (strip property.1) := List.mem_singleton.mp hk'
    exact hnew hk
  exact ((sortedBy_perm Prod.fst l).map _).nodup_iff.mpr hnodup

/-- Source: `graph_models.py` `GraphNode.create`. -/
def GraphNode.create (lower : String → String) (kind : GraphNodeKind) (naturalKey label : String)
    (provenance : List GraphProvenance) (properties : List (String × String)) :
    Py GraphNode := do
  raiseIf (strip naturalKey = "") (valueError "natural_key must not be empty")
  raiseIf (strip label = "") (valueError "label must not be empty")
  raiseIf (provenance = []) (valueError "graph nodes require provenance")
  match hproperties : normalizeProperties lower properties,
      hid : stableGraphId lower ["node", kind.value, strip naturalKey] with
  | .error e, _ => .error e
  | .ok _, .error e => .error e
  | .ok normalized, .ok nodeId =>
      return ⟨nodeId, kind, strip naturalKey, strip label, normalizeProvenance provenance,
        normalized, strip_stableGraphId hid, normalizeProperties_distinct hproperties⟩

/-- Source: `graph_models.py` `GraphEdge`. -/
structure GraphEdge where
  edgeId : String
  sourceNodeId : String
  targetNodeId : String
  relationship : String
  evidenceState : GraphEvidenceState
  provenance : List GraphProvenance
  properties : List (String × String)
  deriving DecidableEq

/-- Source: `graph_models.py` `GraphEdge.create`. -/
def GraphEdge.create (lower : String → String) (sourceNodeId targetNodeId relationship : String)
    (evidenceState : GraphEvidenceState) (provenance : List GraphProvenance)
    (properties : List (String × String)) : Py GraphEdge := do
  let source := strip sourceNodeId
  let target := strip targetNodeId
  let relation := lower (strip relationship)
  raiseIf (source = "" ∨ target = "")
    (valueError "graph edges require source and target node identifiers")
  raiseIf (relation = "") (valueError "relationship must not be empty")
  raiseIf (source = target) (valueError "self-referential graph edges are not allowed")
  raiseIf (provenance = []) (valueError "graph edges require provenance")
  let normalized ← normalizeProperties lower properties
  let edgeId ← stableGraphId lower ["edge", source, target, relation, evidenceState.value]
  return ⟨edgeId, source, target, relation, evidenceState, normalizeProvenance provenance,
    normalized⟩

theorem GraphEdge.create_eq_ok {lower : String → String} {source target relationship : String}
    {state : GraphEvidenceState} {provenance : List GraphProvenance}
    {properties : List (String × String)} {e : GraphEdge}
    (h : GraphEdge.create lower source target relationship state provenance properties = .ok e) :
    e.sourceNodeId = strip source ∧ e.targetNodeId = strip target ∧
      e.relationship = lower (strip relationship) ∧ e.evidenceState = state := by
  simp only [GraphEdge.create, bind_eq_ok, pure_eq_ok, Except.ok.injEq] at h
  obtain ⟨-, -, -, -, -, -, -, -, _, -, _, -, rfl⟩ := h
  exact ⟨rfl, rfl, rfl, rfl⟩

/-! ## The builder -/

/-- Source: `graph_builder.py` `GraphBuildLimits`. -/
structure GraphBuildLimits where
  maxNodes : Nat
  maxEdges : Nat
  maxNodes_pos : 0 < maxNodes

/-- An edge runs between two nodes of a list. -/
def Between (nodes : List GraphNode) (e : GraphEdge) : Prop :=
  (∃ n ∈ nodes, n.nodeId = e.sourceNodeId) ∧ ∃ n ∈ nodes, n.nodeId = e.targetNodeId

/-- A graph snapshot.
Source: `graph_models.py` `IdentityGraph`, as `graph_builder.py` `build` gives it. -/
structure IdentityGraph where
  nodes : List GraphNode
  edges : List GraphEdge
  nodes_sorted : nodes.Pairwise fun a b => a.nodeId < b.nodeId
  edges_sorted : edges.Pairwise fun a b => a.edgeId < b.edgeId
  edges_between : ∀ e ∈ edges, Between nodes e

/-- The dictionaries of the builder, in the order of insertion.
Source: `graph_builder.py` `IdentityGraphBuilder`. -/
structure IdentityGraphBuilder where
  nodes : List GraphNode
  edges : List GraphEdge
  nodes_distinct : (nodes.map (·.nodeId)).Nodup
  edges_distinct : (edges.map (·.edgeId)).Nodup
  edges_between : ∀ e ∈ edges, Between nodes e

def IdentityGraphBuilder.empty : IdentityGraphBuilder :=
  ⟨[], [], List.nodup_nil, List.nodup_nil, fun _ h => absurd h List.not_mem_nil⟩

theorem Between.append {nodes : List GraphNode} {e : GraphEdge} (h : Between nodes e)
    (more : List GraphNode) : Between (nodes ++ more) e := by
  obtain ⟨⟨n, hn, hsource⟩, m, hm, htarget⟩ := h
  exact ⟨⟨n, List.mem_append_left _ hn, hsource⟩, m, List.mem_append_left _ hm, htarget⟩

theorem nodup_concat_of_find? {α : Type} {key : α → String} {l : List α} (h : (l.map key).Nodup)
    {a : α} (hnew : l.find? (fun b => key b = key a) = none) : ((l ++ [a]).map key).Nodup := by
  rw [List.map_append, List.map_singleton]
  refine List.Nodup.append h (List.nodup_singleton _) ?_
  intro k hk hk'
  obtain ⟨b, hb, rfl⟩ := List.mem_map.mp hk
  have hne := List.find?_eq_none.mp hnew b hb
  exact hne (decide_eq_true (List.mem_singleton.mp hk'))

/-- Source: `graph_builder.py` `add_node`. -/
def addNode (limits : GraphBuildLimits) (b : IdentityGraphBuilder) (node : GraphNode) :
    Py IdentityGraphBuilder :=
  match hfind : b.nodes.find? (fun n => n.nodeId = node.nodeId) with
  | some existing => do
      raiseIf (existing ≠ node) (valueError ("conflicting graph node: " ++ node.nodeId))
      return b
  | none => do
      raiseIf (limits.maxNodes ≤ b.nodes.length) (valueError "graph node limit exceeded")
      return ⟨b.nodes ++ [node], b.edges, nodup_concat_of_find? b.nodes_distinct hfind,
        b.edges_distinct, fun e he => (b.edges_between e he).append [node]⟩

theorem edges_between_concat {nodes : List GraphNode} {edges : List GraphEdge}
    (h : ∀ e ∈ edges, Between nodes e) {edge : GraphEdge} (hedge : Between nodes edge) :
    ∀ e ∈ edges ++ [edge], Between nodes e := by
  intro e he
  rcases List.mem_append.mp he with he | he
  · exact h e he
  · exact List.mem_singleton.mp he ▸ hedge

/-- Source: `graph_builder.py` `add_edge`. -/
def addEdge (limits : GraphBuildLimits) (b : IdentityGraphBuilder) (edge : GraphEdge) :
    Py IdentityGraphBuilder := do
  let hsource ← prove (∃ n ∈ b.nodes, n.nodeId = edge.sourceNodeId)
    (valueError "graph edge source node is missing")
  let htarget ← prove (∃ n ∈ b.nodes, n.nodeId = edge.targetNodeId)
    (valueError "graph edge target node is missing")
  match hfind : b.edges.find? (fun e => e.edgeId = edge.edgeId) with
  | some existing =>
      raiseIf (existing ≠ edge) (valueError ("conflicting graph edge: " ++ edge.edgeId))
      return b
  | none =>
      raiseIf (limits.maxEdges ≤ b.edges.length) (valueError "graph edge limit exceeded")
      return ⟨b.nodes, b.edges ++ [edge], b.nodes_distinct,
        nodup_concat_of_find? b.edges_distinct hfind,
        edges_between_concat b.edges_between ⟨hsource.down, htarget.down⟩⟩

/-- Sorting records with differing keys puts them in strict order. -/
theorem sortedBy_strict {α : Type} {key : α → String} {l : List α} (h : (l.map key).Nodup) :
    (sortedBy key l).Pairwise fun a b => key a < key b := insertionSort_strict h

/-- Source: `graph_builder.py` `build`. -/
def build (b : IdentityGraphBuilder) : IdentityGraph where
  nodes := sortedBy (·.nodeId) b.nodes
  edges := sortedBy (·.edgeId) b.edges
  nodes_sorted := sortedBy_strict b.nodes_distinct
  edges_sorted := sortedBy_strict b.edges_distinct
  edges_between := by
    intro e he
    obtain ⟨⟨n, hn, hsource⟩, m, hm, htarget⟩ :=
      b.edges_between e ((sortedBy_perm _ _).mem_iff.mp he)
    exact ⟨⟨n, (sortedBy_perm _ _).mem_iff.mpr hn, hsource⟩,
      m, (sortedBy_perm _ _).mem_iff.mpr hm, htarget⟩

/-! ## What an addition does -/

/-- **An accepted node is in the builder, with the nodes there were.** -/
theorem addNode_eq_ok {limits : GraphBuildLimits} {b b' : IdentityGraphBuilder} {node : GraphNode}
    (h : addNode limits b node = .ok b') :
    b'.edges = b.edges ∧ ∀ n, n ∈ b'.nodes ↔ n ∈ b.nodes ∨ node = n := by
  unfold addNode at h
  split at h
  · next existing hfind =>
    simp only [raiseIf_bind_eq_ok, pure_eq_ok, Except.ok.injEq, not_not] at h
    obtain ⟨rfl, rfl⟩ := h
    refine ⟨rfl, fun n => ⟨.inl, ?_⟩⟩
    rintro (hn | rfl)
    · exact hn
    · exact List.mem_of_find?_eq_some hfind
  · simp only [raiseIf_bind_eq_ok, pure_eq_ok, Except.ok.injEq] at h
    obtain ⟨-, rfl⟩ := h
    refine ⟨rfl, fun n => ?_⟩
    rw [List.mem_append, List.mem_singleton, eq_comm (a := n)]

/-- **An accepted edge is in the builder, with the edges there were.** -/
theorem addEdge_eq_ok {limits : GraphBuildLimits} {b b' : IdentityGraphBuilder} {edge : GraphEdge}
    (h : addEdge limits b edge = .ok b') :
    b'.nodes = b.nodes ∧ ∀ e, e ∈ b'.edges ↔ e ∈ b.edges ∨ edge = e := by
  unfold addEdge at h
  rw [bind_eq_ok] at h
  obtain ⟨hsource, -, h⟩ := h
  rw [bind_eq_ok] at h
  obtain ⟨htarget, -, h⟩ := h
  split at h
  · next existing hfind =>
    simp only [raiseIf_bind_eq_ok, pure_eq_ok, Except.ok.injEq, not_not] at h
    obtain ⟨rfl, rfl⟩ := h
    refine ⟨rfl, fun e => ⟨.inl, ?_⟩⟩
    rintro (he | rfl)
    · exact he
    · exact List.mem_of_find?_eq_some hfind
  · simp only [raiseIf_bind_eq_ok, pure_eq_ok, Except.ok.injEq] at h
    obtain ⟨-, rfl⟩ := h
    refine ⟨rfl, fun e => ?_⟩
    rw [List.mem_append, List.mem_singleton, eq_comm (a := e)]

/-- The identifiers of a graph tell its nodes apart. -/
theorem IdentityGraph.node_ext (g : IdentityGraph) {n m : GraphNode} (hn : n ∈ g.nodes)
    (hm : m ∈ g.nodes) (h : n.nodeId = m.nodeId) : n = m := by
  have hnodup : (g.nodes.map (·.nodeId)).Nodup :=
    List.pairwise_map.mpr (g.nodes_sorted.imp fun hab => hab.ne)
  exact List.inj_on_of_nodup_map hnodup hn hm h

end NightRecon.RedEngine.GraphBuilder
