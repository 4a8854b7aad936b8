import NightRecon.Lib.Layers
import NightRecon.RedEngine.GraphIndex

/-!
# Traversal of a graph

`nightrecon_red_engine/graph_traversal.py`: the bounded breadth-first traversal from one node.

* `traverseIdentityGraph` — the traversal;
* `Follows` — one step along an allowed relationship in the chosen direction;
* `traversal_faithful_iff` — **the traversal reports what it has visited, and how far it came,
  unless the node ceiling lies inside a layer**: there it reports the depth of the layer before.
-/

namespace NightRecon.RedEngine.GraphTraversal

open NightRecon.Lib
open NightRecon.Lib.Checks
open NightRecon.Lib.Layers
open NightRecon.Lib.Text
open NightRecon.RedEngine.GraphBuilder
open NightRecon.RedEngine.GraphIndex

/-- Source: `graph_traversal.py` `GraphTraversalLimits`. -/
structure GraphTraversalLimits where
  maxDepth : Nat
  maxNodes : Nat
  maxNodes_pos : 1 ≤ maxNodes

/-- The limits of a traversal that is given none. -/
def GraphTraversalLimits.default : GraphTraversalLimits where
  maxDepth := 4
  maxNodes := 256
  maxNodes_pos := by omega

/-- Source: `graph_traversal.py` `GraphTraversalLimits.__post_init__`. -/
def GraphTraversalLimits.make (maxDepth maxNodes : Int) : Py GraphTraversalLimits := do
  raiseIf (maxDepth < 0) (valueError "max_depth must be at least 0.")
  let hnodes ← prove (1 ≤ maxNodes) (valueError "max_nodes must be at least 1.")
  return ⟨maxDepth.toNat, maxNodes.toNat, Int.lt_toNat.mpr hnodes.down⟩

/-- Source: `graph_traversal.py` `GraphTraversalResult`. -/
structure GraphTraversalResult where
  startNodeId : String
  visited : List GraphNode
  depthReached : Nat
  truncated : Bool

/-- The neighbours of an identifier along a relation in normal form. -/
def nearby (graph : IdentityGraphIndex) (relation direction nodeId : String) : List GraphNode :=
  graph.neighborNodes nodeId relation direction

/-- The start is always asked for its neighbours, so that an unknown direction always raises.
Source: `graph_traversal.py` `traverse_identity_graph`. -/
def traverseIdentityGraph (lower : String → String) (graph : IdentityGraphIndex)
    (startNodeId relationship direction : String) (limits : Option GraphTraversalLimits) :
    Py GraphTraversalResult := do
  let activeLimits := limits.getD .default
  match graph.node startNodeId with
  | none => .error (valueError ("start node is missing from graph: " ++ startNodeId))
  | some start =>
      let _ ← graph.neighbors lower start.nodeId relationship direction
      let r := traverse GraphNode.nodeId (nearby graph (lower (strip relationship)) direction)
        activeLimits.maxNodes activeLimits.maxDepth [start] [start] 0
      return ⟨start.nodeId, r.visited, r.depthReached, r.truncated⟩

/-! ## What the traversal should report -/

variable (lower : String → String) (graph : IdentityGraphIndex) (relationship direction : String)

/-- An edge with an allowed relationship leads from one identifier to another, in the direction. -/
def Follows (i j : String) : Prop :=
  (∃ n ∈ graph.nodes, n.nodeId = j) ∧ ∃ e ∈ graph.edges,
    (lower (strip relationship) = "" ∨ e.relationship = lower (strip relationship)) ∧
    ((direction ≠ "incoming" ∧ e.sourceNodeId = i ∧ e.targetNodeId = j) ∨
      (direction ≠ "outgoing" ∧ e.targetNodeId = i ∧ e.sourceNodeId = j))

/-- The identifiers at most `d` steps from an identifier. -/
def within (startNodeId : String) (d : Nat) : Finset String :=
  ball GraphNode.nodeId (nearby graph (lower (strip relationship)) direction) startNodeId d

/-- The breadth-first distance of an identifier. -/
def HasDistance (startNodeId nodeId : String) (d : Nat) : Prop :=
  nodeId ∈ within lower graph relationship direction startNodeId d ∧
    ∀ i < d, nodeId ∉ within lower graph relationship direction startNodeId i

/-- What the result of a traversal says: when it is not truncated, everything that can be reached;
when the node ceiling leaves room for all of them, the nodes within the depth limit, nearer ones
first; and always the greatest distance that it came. -/
structure Reports (startNodeId : String) (limits : GraphTraversalLimits)
    (r : GraphTraversalResult) : Prop where
  reachable : r.truncated = false → ∀ nodeId, nodeId ∈ r.visited.map (·.nodeId) ↔
    Relation.ReflTransGen (Follows lower graph relationship direction) startNodeId nodeId
  nearest : (within lower graph relationship direction startNodeId limits.maxDepth).card ≤
      limits.maxNodes →
    (∀ nodeId, nodeId ∈ r.visited.map (·.nodeId) ↔
      nodeId ∈ within lower graph relationship direction startNodeId limits.maxDepth) ∧
    (r.visited.map (·.nodeId)).Pairwise fun i j => ∀ d,
      j ∈ within lower graph relationship direction startNodeId d →
        i ∈ within lower graph relationship direction startNodeId d
  deepest : (∃ nodeId ∈ r.visited.map (·.nodeId),
      HasDistance lower graph relationship direction startNodeId nodeId r.depthReached) ∧
    ∀ nodeId ∈ r.visited.map (·.nodeId),
      nodeId ∈ within lower graph relationship direction startNodeId r.depthReached

variable {lower} {graph} {relationship} {direction}

theorem adjacent_iff (hdirection : direction ∈ ["outgoing", "incoming", "both"]) {i j : String} :
    Adjacent GraphNode.nodeId (nearby graph (lower (strip relationship)) direction) i j ↔
      Follows lower graph relationship direction i j := by
  have hout : direction ∈ ["outgoing", "both"] ↔ direction ≠ "incoming" := by
    simp only [List.mem_cons, List.not_mem_nil, or_false] at hdirection ⊢
    rcases hdirection with rfl | rfl | rfl <;> decide
  have hin : direction ∈ ["incoming", "both"] ↔ direction ≠ "outgoing" := by
    simp only [List.mem_cons, List.not_mem_nil, or_false] at hdirection ⊢
    rcases hdirection with rfl | rfl | rfl <;> decide
  have hids : j ∈ graph.neighborIds i (lower (strip relationship)) direction ↔
      ∃ e ∈ graph.edges,
        (lower (strip relationship) = "" ∨ e.relationship = lower (strip relationship)) ∧
        ((direction ≠ "incoming" ∧ e.sourceNodeId = i ∧ e.targetNodeId = j) ∨
          (direction ≠ "outgoing" ∧ e.targetNodeId = i ∧ e.sourceNodeId = j)) := by
    unfold IdentityGraphIndex.neighborIds
    rw [List.mem_append, List.mem_ite_nil_right, List.mem_ite_nil_right, hout, hin]
    simp only [List.mem_map, IdentityGraphIndex.mem_outgoingEdges,
      IdentityGraphIndex.mem_incomingEdges]
    constructor
    · rintro (⟨hdir, e, ⟨he, rfl, hrel⟩, rfl⟩ | ⟨hdir, e, ⟨he, rfl, hrel⟩, rfl⟩)
      · exact ⟨e, he, hrel, Or.inl ⟨hdir, rfl, rfl⟩⟩
      · exact ⟨e, he, hrel, Or.inr ⟨hdir, rfl, rfl⟩⟩
    · rintro ⟨e, he, hrel, ⟨hdir, rfl, rfl⟩ | ⟨hdir, rfl, rfl⟩⟩
      · exact Or.inl ⟨hdir, e, ⟨he, rfl, hrel⟩, rfl⟩
      · exact Or.inr ⟨hdir, e, ⟨he, rfl, hrel⟩, rfl⟩
  unfold Adjacent nearby Follows
  rw [List.mem_map, ← hids]
  constructor
  · rintro ⟨n, hn, rfl⟩
    obtain ⟨hmem, hnear⟩ := IdentityGraphIndex.mem_neighborNodes.mp hn
    exact ⟨⟨n, hmem, rfl⟩, hnear⟩
  · rintro ⟨⟨n, hmem, rfl⟩, hnear⟩
    exact ⟨n, IdentityGraphIndex.mem_neighborNodes.mpr ⟨hmem, hnear⟩, rfl⟩

/-- One step further within. -/
theorem mem_within_succ (hdirection : direction ∈ ["outgoing", "incoming", "both"])
    {startNodeId nodeId : String} {d : Nat} :
    nodeId ∈ within lower graph relationship direction startNodeId (d + 1) ↔
      nodeId ∈ within lower graph relationship direction startNodeId d ∨
        ∃ i ∈ within lower graph relationship direction startNodeId d,
          Follows lower graph relationship direction i nodeId := by
  unfold within
  simp only [mem_ball_succ, adjacent_iff hdirection]

/-- **The traversal reports what it should unless its node ceiling lies inside a layer** before the
depth limit. -/
theorem traversal_reports_iff (hdirection : direction ∈ ["outgoing", "incoming", "both"])
    {startNodeId : String} {start : GraphNode} (hstart : graph.node startNodeId = some start)
    (limits : Option GraphTraversalLimits) :
    ∃ r, traverseIdentityGraph lower graph startNodeId relationship direction limits = .ok r ∧
      (Reports lower graph relationship direction startNodeId (limits.getD .default) r ↔
        ¬∃ d < (limits.getD .default).maxDepth,
          (within lower graph relationship direction startNodeId d).card <
              (limits.getD .default).maxNodes ∧
            (limits.getD .default).maxNodes <
              (within lower graph relationship direction startNodeId (d + 1)).card) := by
  obtain ⟨-, rfl⟩ := IdentityGraphIndex.mem_of_node hstart
  have hnear : graph.neighbors lower start.nodeId relationship direction =
      .ok (graph.neighborNodes start.nodeId (lower (strip relationship)) direction) :=
    IdentityGraphIndex.neighbors_eq_ok.mpr ⟨hdirection, rfl⟩
  unfold traverseIdentityGraph
  rw [hstart]
  dsimp only
  rw [hnear]
  refine ⟨_, rfl, ?_⟩
  refine Iff.trans ?_ (traverse_faithful_iff (limits.getD .default).maxNodes_pos)
  have hfollows : Adjacent GraphNode.nodeId (nearby graph (lower (strip relationship)) direction) =
      Follows lower graph relationship direction := by
    ext i j
    exact adjacent_iff hdirection
  constructor
  · rintro ⟨hreachable, hnearest, hdeepest⟩
    refine ⟨?_, hnearest, hdeepest⟩
    rw [hfollows]
    exact hreachable
  · rintro ⟨hreachable, hnearest, hdeepest⟩
    refine ⟨?_, hnearest, hdeepest⟩
    rw [← hfollows]
    exact hreachable

/-- An asset that an inventory lists. -/
def inventoryAsset (nodeId : String) (h : strip nodeId = nodeId) : GraphNode :=
  ⟨nodeId, .asset, nodeId, nodeId, [⟨"inventory", "scan-1", ""⟩], [], h, List.nodup_nil⟩

/-- A hub that reaches two assets. -/
def hub : IdentityGraphIndex where
  nodes := [inventoryAsset "gr-hub" (by decide +kernel),
    inventoryAsset "gr-left" (by decide +kernel), inventoryAsset "gr-right" (by decide +kernel)]
  edges := [
    ⟨"gr-1", "gr-hub", "gr-left", "reaches", .observed, [⟨"inventory", "scan-1", ""⟩], []⟩,
    ⟨"gr-2", "gr-hub", "gr-right", "reaches", .observed, [⟨"inventory", "scan-1", ""⟩], []⟩]

/-- Two of the three assets are visited, one of them a step away; the depth reported is zero. -/
theorem hub_depth_understated :
    ∃ r, traverseIdentityGraph id hub "gr-hub" "" "both" (some ⟨4, 2, by omega⟩) = .ok r ∧
      r.visited.map (·.nodeId) = ["gr-hub", "gr-left"] ∧ r.depthReached = 0 ∧
      ¬Reports id hub "" "both" "gr-hub" ⟨4, 2, by omega⟩ r := by
  refine ⟨_, rfl, by decide +kernel, by decide +kernel, fun h => ?_⟩
  have hfar := h.deepest.2 "gr-left" (by decide +kernel)
  exact absurd hfar (by decide +kernel)

theorem hub_reports :
    ∃ r, traverseIdentityGraph id hub "gr-hub" "" "both" (some ⟨4, 3, by omega⟩) = .ok r ∧
      (Reports id hub "" "both" "gr-hub" ⟨4, 3, by omega⟩ r ↔
        ¬∃ d < 4, (within id hub "" "both" "gr-hub" d).card < 3 ∧
          3 < (within id hub "" "both" "gr-hub" (d + 1)).card) :=
  traversal_reports_iff (by decide) rfl (some ⟨4, 3, by omega⟩)

end NightRecon.RedEngine.GraphTraversal
