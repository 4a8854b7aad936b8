import NightRecon.RedEngine.GraphBuilder
import NightRecon.Lib.Keyed

/-!
# Read-only indexes over a graph

`nightrecon_red_engine/graph_index.py`: the look-ups that the graph queries share, over the nodes
and edges of a graph in whatever order it holds them.

* `IdentityGraphIndex` — the nodes and edges; `node`, `nodesByKind`, `outgoingEdges`,
  `incomingEdges`, `neighbors` — the look-ups;
* `atLeastOne` — a limit of a query;
* `Distinct` — the identifiers tell nodes and edges apart; `node_eq_some` — then a look-up finds
  the node of an identifier;
* `neighbors_eq_ok`, `mem_neighborNodes` — the neighbours of a node.
-/

namespace NightRecon.RedEngine.GraphIndex

open NightRecon.Lib
open NightRecon.Lib.Checks
open NightRecon.Lib.Text
open NightRecon.RedEngine.GraphBuilder

/-- Source: `graph_index.py` `IdentityGraphIndex`. -/
structure IdentityGraphIndex where
  nodes : List GraphNode
  edges : List GraphEdge

variable (lower : String → String) (index : IdentityGraphIndex)

/-- Source: `graph_index.py` `node`. -/
def IdentityGraphIndex.node (nodeId : String) : Option GraphNode :=
  index.nodes.find? fun n => n.nodeId = nodeId

/-- Source: `graph_index.py` `nodes_by_kind`. -/
def IdentityGraphIndex.nodesByKind (kind : GraphNodeKind) : List GraphNode :=
  index.nodes.filter fun n => n.kind = kind

/-- `relation` is the relationship trimmed and in lower case; the empty one is every relation.
Source: `graph_index.py` `outgoing_edges`. -/
def IdentityGraphIndex.outgoingEdges (nodeId relation : String) : List GraphEdge :=
  index.edges.filter fun e =>
    e.sourceNodeId = nodeId ∧ (relation = "" ∨ e.relationship = relation)

/-- Source: `graph_index.py` `incoming_edges`. -/
def IdentityGraphIndex.incomingEdges (nodeId relation : String) : List GraphEdge :=
  index.edges.filter fun e =>
    e.targetNodeId = nodeId ∧ (relation = "" ∨ e.relationship = relation)

/-- The identifiers of the neighbours. -/
def IdentityGraphIndex.neighborIds (nodeId relation direction : String) : List String :=
  (if direction ∈ ["outgoing", "both"] then
    (index.outgoingEdges nodeId relation).map (·.targetNodeId) else []) ++
  if direction ∈ ["incoming", "both"] then
    (index.incomingEdges nodeId relation).map (·.sourceNodeId) else []

/-- The neighbours in the order of the graph. -/
def IdentityGraphIndex.neighborNodes (nodeId relation direction : String) : List GraphNode :=
  index.nodes.filter fun n => n.nodeId ∈ index.neighborIds nodeId relation direction

/-- Source: `graph_index.py` `neighbors`. -/
def IdentityGraphIndex.neighbors (nodeId relationship direction : String) :
    Py (List GraphNode) := do
  raiseIf (direction ∉ ["outgoing", "incoming", "both"])
    (valueError "direction must be outgoing, incoming, or both.")
  return index.neighborNodes nodeId (lower (strip relationship)) direction

/-- A limit of a graph query that must be positive. -/
def atLeastOne (value : Int) (message : String) : Py { n : Nat // 1 ≤ n } := do
  let h ← prove (1 ≤ value) (valueError message)
  return ⟨value.toNat, Int.toNat_le_toNat h.down⟩

/-! ## Look-ups -/

/-- No two nodes and no two edges share an identifier. -/
structure IdentityGraphIndex.Distinct : Prop where
  nodes : (index.nodes.map (·.nodeId)).Nodup
  edges : (index.edges.map (·.edgeId)).Nodup

variable {lower} {index}

/-- **A look-up finds the node of the identifier.** -/
theorem IdentityGraphIndex.node_eq_some (h : index.Distinct) {nodeId : String} {n : GraphNode} :
    index.node nodeId = some n ↔ n ∈ index.nodes ∧ n.nodeId = nodeId :=
  Keyed.find?_eq_some_iff h.nodes

theorem IdentityGraphIndex.mem_of_node {nodeId : String} {n : GraphNode}
    (h : index.node nodeId = some n) : n ∈ index.nodes ∧ n.nodeId = nodeId := by
  have hid := List.find?_some h
  exact ⟨List.mem_of_find?_eq_some h, of_decide_eq_true hid⟩

theorem IdentityGraphIndex.mem_outgoingEdges {nodeId relation : String} {e : GraphEdge} :
    e ∈ index.outgoingEdges nodeId relation ↔ e ∈ index.edges ∧ e.sourceNodeId = nodeId ∧
      (relation = "" ∨ e.relationship = relation) := by
  rw [IdentityGraphIndex.outgoingEdges, List.mem_filter, decide_eq_true_eq]

theorem IdentityGraphIndex.mem_incomingEdges {nodeId relation : String} {e : GraphEdge} :
    e ∈ index.incomingEdges nodeId relation ↔ e ∈ index.edges ∧ e.targetNodeId = nodeId ∧
      (relation = "" ∨ e.relationship = relation) := by
  rw [IdentityGraphIndex.incomingEdges, List.mem_filter, decide_eq_true_eq]

theorem IdentityGraphIndex.neighbors_eq_ok {nodeId relationship direction : String}
    {ns : List GraphNode} :
    index.neighbors lower nodeId relationship direction = .ok ns ↔
      direction ∈ ["outgoing", "incoming", "both"] ∧
        index.neighborNodes nodeId (lower (strip relationship)) direction = ns := by
  simp only [IdentityGraphIndex.neighbors, raiseIf_bind_eq_ok, pure_eq_ok, Except.ok.injEq,
    not_not]

theorem IdentityGraphIndex.mem_neighborNodes {nodeId relation direction : String}
    {n : GraphNode} :
    n ∈ index.neighborNodes nodeId relation direction ↔
      n ∈ index.nodes ∧ n.nodeId ∈ index.neighborIds nodeId relation direction := by
  rw [IdentityGraphIndex.neighborNodes, List.mem_filter, decide_eq_true_eq]

end NightRecon.RedEngine.GraphIndex
