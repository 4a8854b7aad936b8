import NightRecon.RedEngine.GraphBuilder

/-!
# Graph snapshots and their consistency

`nightrecon_red_engine/graph_validation.py`: the consistency of a graph snapshot that anybody may
have put together from created nodes and edges.

* `GraphSnapshot` — the nodes and edges; `Created` — nodes come from `GraphNode.create`;
* `validateIdentityGraph`, `assertValidIdentityGraph` — the issues of a snapshot;
* `assertValid_distinct`, `assertValid_edges_distinct` — in a consistent snapshot an identifier names
  one node, or one edge.
-/

namespace NightRecon.RedEngine.GraphValidation

open NightRecon.Lib
open NightRecon.Lib.Checks
open NightRecon.Lib.Records
open NightRecon.Lib.Text
open NightRecon.RedEngine.GraphBuilder

/-! ## Snapshots -/

/-- The node comes from the constructor. -/
def Created (n : GraphNode) : Prop :=
  ∃ lower kind naturalKey label provenance properties,
    GraphNode.create lower kind naturalKey label provenance properties = .ok n

/-- Nodes and edges, in any order.  Source: `graph_models.py` `IdentityGraph`. -/
structure GraphSnapshot where
  nodes : List GraphNode
  edges : List GraphEdge
  created : ∀ n ∈ nodes, Created n

/-- The identifier of a created node is not blank. -/
theorem Created.nodeId_required {n : GraphNode} (h : Created n) : requiredText n.nodeId := by
  obtain ⟨lower, kind, naturalKey, label, provenance, properties, h⟩ := h
  refine ⟨?_, n.nodeId_trimmed⟩
  simp only [GraphNode.create, raiseIf_bind_eq_ok] at h
  obtain ⟨-, -, -, h⟩ := h
  split at h
  · cases h
  · cases h
  · next normalized nodeId hproperties hid =>
    simp only [pure_eq_ok, Except.ok.injEq] at h
    subst h
    simp only [stableGraphId, raiseIf_bind_eq_ok, pure_eq_ok, Except.ok.injEq] at hid
    obtain ⟨-, rfl⟩ := hid
    intro hempty
    have hchars := congrArg String.toList hempty
    rw [String.toList_append] at hchars
    exact absurd (List.append_eq_nil_iff.mp hchars).1 (by decide)

/-! ## Issues -/

/-- Source: `graph_validation.py` `GraphValidationIssue`. -/
structure GraphValidationIssue where
  code : String
  subjectId : String
  message : String
  deriving DecidableEq

/-- `sorted(issues, key=…)`. -/
def GraphValidationIssue.le (a b : GraphValidationIssue) : Bool :=
  a.code < b.code || (a.code = b.code &&
    (a.subjectId < b.subjectId || (a.subjectId = b.subjectId && a.message ≤ b.message)))

/-- The kinds a relationship runs between, where they are fixed. -/
def allowedKinds : String → Option (List GraphNodeKind × List GraphNodeKind)
  | "exposes" => some ([.asset], [.service])
  | "matched-vulnerability" => some ([.service], [.vulnerability])
  | "has-assessment-finding" => some ([.service], [.assessmentFinding])
  | "member-of" => some ([.identity, .group], [.group])
  | "has-permission" => some ([.identity, .group], [.permission])
  | "applies-to" => some ([.permission], [.asset, .service, .criticalAsset])
  | "classified-as-critical" => some ([.asset], [.criticalAsset])
  | _ => none

/-- Source: `graph_validation.py` `_validate_relationship`. -/
def validateRelationship (edge : GraphEdge) (sourceKind targetKind : GraphNodeKind) :
    List GraphValidationIssue :=
  ((allowedKinds edge.relationship).elim [] fun expected =>
    if sourceKind ∉ expected.1 ∨ targetKind ∉ expected.2 then
      [⟨"invalid-relationship-kinds", edge.edgeId,
        edge.relationship ++ " has invalid source/target node kinds."⟩]
    else []) ++
  if edge.relationship ∈ ["exposes", "matched-vulnerability", "has-assessment-finding"] ∧
      edge.evidenceState ≠ .observed then
    [⟨"invalid-evidence-state", edge.edgeId,
      edge.relationship ++ " must remain observed evidence."⟩]
  else []

/-- An issue when the condition holds. -/
def issueIf (c : Prop) [Decidable c] (code subjectId message : String) :
    List GraphValidationIssue :=
  if c then [⟨code, subjectId, message⟩] else []

/-- The issues of one edge; `seen` are the identifiers of the edges before it. -/
def edgeIssues (nodesById : List GraphNode) (seen : List String) (edge : GraphEdge) :
    List GraphValidationIssue :=
  let source := nodesById.find? fun n => n.nodeId = edge.sourceNodeId
  let target := nodesById.find? fun n => n.nodeId = edge.targetNodeId
  issueIf (edge.edgeId ∈ seen) "duplicate-edge-id" edge.edgeId
    "Graph contains duplicate edge identifiers." ++
  issueIf (source = none) "missing-edge-source" edge.edgeId "Graph edge source node is missing." ++
  issueIf (target = none) "missing-edge-target" edge.edgeId "Graph edge target node is missing." ++
  issueIf (edge.provenance = []) "missing-edge-provenance" edge.edgeId
    "Graph edge has no provenance." ++
  match source, target with
  | some source, some target => validateRelationship edge source.kind target.kind
  | _, _ => []

/-- The loop over the edges. -/
def edgesIssues (nodesById : List GraphNode) (seen : List String) :
    List GraphEdge → List GraphValidationIssue
  | [] => []
  | edge :: edges =>
      edgeIssues nodesById seen edge ++ edgesIssues nodesById (edge.edgeId :: seen) edges

/-- Source: `graph_validation.py` `validate_identity_graph`. -/
def validateIdentityGraph (graph : GraphSnapshot) : List GraphValidationIssue :=
  let nodesById := collect (fun n : GraphNode => n.nodeId) graph.nodes
  (issueIf (nodesById.length ≠ graph.nodes.length) "duplicate-node-id" "graph"
      "Graph contains duplicate node identifiers." ++
    graph.nodes.flatMap (fun n => issueIf (n.provenance = []) "missing-node-provenance" n.nodeId
      "Graph node has no provenance.") ++
    edgesIssues nodesById [] graph.edges).insertionSort fun a b => a.le b = true

/-- Source: `graph_validation.py` `assert_valid_identity_graph`. -/
def assertValidIdentityGraph (graph : GraphSnapshot) : Py Unit :=
  let issues := validateIdentityGraph graph
  raiseIf (issues ≠ []) (valueError ("identity graph validation failed: " ++
    "; ".intercalate (issues.map fun issue => issue.code ++ ":" ++ issue.subjectId)))

/-! ## Consistent snapshots -/

/-- As many records as keys: no key occurs twice. -/
theorem nodup_of_collect_length {α κ : Type} [DecidableEq κ] {key : α → κ} {l : List α}
    (h : (collect key l).length = l.length) : (l.map key).Nodup := by
  have hperm : ((collect key l).map key).Subperm (l.map key) := by
    refine (collect_nodup l).subperm fun k hk => ?_
    obtain ⟨a, ha, rfl⟩ := List.mem_map.mp hk
    exact List.mem_map_of_mem (mem_of_mem_collect ha)
  have hlength : (l.map key).length ≤ ((collect key l).map key).length := by
    rw [List.length_map, List.length_map, h]
  exact (hperm.perm_of_length_le hlength).nodup_iff.mp (collect_nodup l)

/-- **In a consistent snapshot an identifier names one node.** -/
theorem assertValid_distinct {graph : GraphSnapshot}
    (h : assertValidIdentityGraph graph = .ok ()) : (graph.nodes.map (·.nodeId)).Nodup := by
  have hnone : validateIdentityGraph graph = [] := not_not.mp (raiseIf_eq_ok.mp h)
  have hlength : issueIf ((collect (fun n : GraphNode => n.nodeId) graph.nodes).length ≠
      graph.nodes.length) "duplicate-node-id" "graph"
      "Graph contains duplicate node identifiers." = [] := by
    have hperm := (List.perm_insertionSort _ _).symm.trans (List.Perm.of_eq hnone)
    have happend := List.append_eq_nil_iff.mp hperm.eq_nil
    exact (List.append_eq_nil_iff.mp happend.1).1
  refine nodup_of_collect_length (not_not.mp fun hne => ?_)
  rw [issueIf, if_pos hne] at hlength
  cases hlength

/-- No issue of an edge repeats an identifier. -/
theorem edgesIssues_nodup {nodesById : List GraphNode} (edges : List GraphEdge) :
    ∀ seen : List String, edgesIssues nodesById seen edges = [] →
      (edges.map (·.edgeId)).Nodup ∧ ∀ e ∈ edges, e.edgeId ∉ seen := by
  induction edges with
  | nil => exact fun _ _ => ⟨List.nodup_nil, fun _ h => absurd h List.not_mem_nil⟩
  | cons edge edges ih =>
    intro seen h
    obtain ⟨hedge, hrest⟩ := List.append_eq_nil_iff.mp h
    obtain ⟨hnodup, hseen⟩ := ih (edge.edgeId :: seen) hrest
    have hnew : edge.edgeId ∉ seen := by
      intro hin
      unfold edgeIssues issueIf at hedge
      rw [if_pos hin] at hedge
      cases hedge
    refine ⟨List.nodup_cons.mpr ⟨fun hin => ?_, hnodup⟩, fun e he => ?_⟩
    · obtain ⟨e, he, hid⟩ := List.mem_map.mp hin
      exact hseen e he (hid ▸ List.mem_cons_self)
    · rcases List.mem_cons.mp he with rfl | he
      · exact hnew
      · exact fun hin => hseen e he (List.mem_cons_of_mem _ hin)

/-- In a consistent snapshot an identifier names one edge. -/
theorem assertValid_edges_distinct {graph : GraphSnapshot}
    (h : assertValidIdentityGraph graph = .ok ()) : (graph.edges.map (·.edgeId)).Nodup := by
  have hnone : validateIdentityGraph graph = [] := not_not.mp (raiseIf_eq_ok.mp h)
  have hperm := (List.perm_insertionSort _ _).symm.trans (List.Perm.of_eq hnone)
  exact (edgesIssues_nodup graph.edges [] (List.append_eq_nil_iff.mp hperm.eq_nil).2).1

end NightRecon.RedEngine.GraphValidation
