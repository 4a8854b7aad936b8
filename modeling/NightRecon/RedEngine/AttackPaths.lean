import NightRecon.RedEngine.GraphPaths
import NightRecon.RedEngine.ValidationEligibility

/-!
# The cross-domain attack path atlas

`nightrecon_red_engine/attack_path_atlas.py`: the bounded enumeration of the directed paths from
selected start nodes to critical assets, and how often nodes and edges take part in them.

* `selectedStarts`, `selectedTargets` — the nodes the atlas starts from and ends at;
* `atlasExploration` — the exploration below one start after the other, under one budget;
* `participation` — the counts; `buildCrossDomainAttackPathAtlas` — the atlas;
* `IsReviewPath` — a simple path to a critical asset that meets no critical asset before;
* `ReviewsPaths` — what an atlas should say;
* `atlas_reviews_paths` — **an atlas says it unless a path runs through a critical asset that the
  target ceiling left out**, and where only the ceilings on starts and targets were reported, such a
  path is what goes wrong.
-/

namespace NightRecon.RedEngine.AttackPaths

open NightRecon.Lib
open NightRecon.Lib.Checks
open NightRecon.Lib.Text
open NightRecon.Lib.Walks
open NightRecon.RedEngine.GraphBuilder
open NightRecon.RedEngine.GraphIndex
open NightRecon.RedEngine.GraphPaths
open NightRecon.RedEngine.GraphValidation
open NightRecon.RedEngine.ValidationEligibility

/-! ## Records -/

/-- Source: `attack_path_atlas.py` `AttackPathAtlasLimits`. -/
structure AttackPathAtlasLimits where
  maxStarts : Nat
  maxTargets : Nat
  maxDepth : Nat
  maxPaths : Nat
  maxExpansions : Nat
  positive : 1 ≤ maxStarts ∧ 1 ≤ maxTargets ∧ 1 ≤ maxDepth ∧ 1 ≤ maxPaths ∧ 1 ≤ maxExpansions

/-- The limits of an atlas that is given none. -/
def AttackPathAtlasLimits.default : AttackPathAtlasLimits where
  maxStarts := 128
  maxTargets := 64
  maxDepth := 6
  maxPaths := 512
  maxExpansions := 20000
  positive := by omega

/-- Source: `attack_path_atlas.py` `AttackPathAtlasLimits.__post_init__`. -/
def AttackPathAtlasLimits.make (maxStarts maxTargets maxDepth maxPaths maxExpansions : Int) :
    Py AttackPathAtlasLimits := do
  let starts ← atLeastOne maxStarts "max_starts must be a positive integer"
  let targets ← atLeastOne maxTargets "max_targets must be a positive integer"
  let depth ← atLeastOne maxDepth "max_depth must be a positive integer"
  let paths ← atLeastOne maxPaths "max_paths must be a positive integer"
  let expansions ← atLeastOne maxExpansions "max_expansions must be a positive integer"
  return ⟨starts.1, targets.1, depth.1, paths.1, expansions.1, starts.2, targets.2, depth.2,
    paths.2, expansions.2⟩

/-- Source: `attack_path_atlas.py` `AttackPathProvenanceSource`. -/
structure AttackPathProvenanceSource where
  sourceType : String
  sourceId : String
  deriving DecidableEq

def AttackPathProvenanceSource.le (p q : AttackPathProvenanceSource) : Bool :=
  p.sourceType < q.sourceType || (p.sourceType = q.sourceType && p.sourceId ≤ q.sourceId)

/-- Source: `attack_path_atlas.py` `AttackPathAtlasPath`. -/
structure AttackPathAtlasPath where
  pathId : String
  startNodeId : String
  targetNodeId : String
  nodeIds : List String
  edgeIds : List String
  relationships : List String
  observedHops : Nat
  inferredHops : Nat
  evidenceIds : List String
  provenanceSources : List AttackPathProvenanceSource
  deriving DecidableEq

def AttackPathAtlasPath.hopCount (a : AttackPathAtlasPath) : Nat := a.edgeIds.length

/-- Source: `attack_path_atlas.py` `AttackPathParticipation`. -/
structure AttackPathParticipation where
  subjectId : String
  subjectType : String
  pathCount : Nat
  pathIds : List String
  deriving DecidableEq

/-- Source: `attack_path_atlas.py` `ATLAS_INTERPRETATION`. -/
def atlasInterpretation : String :=
  "Structural evidence review only; path presence and repeated participation " ++
    "do not establish exploitability, likelihood, impact, or risk."

/-- Source: `attack_path_atlas.py` `AttackPathAtlas`. -/
structure AttackPathAtlas where
  startNodeIds : List String
  targetNodeIds : List String
  paths : List AttackPathAtlasPath
  nodeParticipation : List AttackPathParticipation
  edgeParticipation : List AttackPathParticipation
  expansions : Nat
  truncated : Bool
  truncationReasons : List String
  interpretation : String

/-! ## One path -/

/-- Source: `attack_path_atlas.py` `_path_id`. -/
def pathId (edgeIds : List String) : Py String := do
  raiseIf (edgeIds = []) (valueError "atlas paths require at least one edge")
  return "atlas-" ++ Sha256.hexOf ("\x1f".intercalate edgeIds).toList

/-- Source: `attack_path_atlas.py` `_evidence_ids`, the same as `edgeEvidenceIds`. -/
def evidenceIds (edges : List GraphEdge) : List String := edgeEvidenceIds edges

/-- Source: `attack_path_atlas.py` `_provenance_sources`. -/
def provenanceSources (edges : List GraphEdge) : List AttackPathProvenanceSource :=
  ((edges.flatMap fun e => e.provenance.map fun p =>
    (⟨p.sourceType, p.sourceId⟩ : AttackPathProvenanceSource)).dedup).insertionSort
      fun p q => p.le q = true

/-- The identifiers of the edges of a path. -/
def edgeIdsOf (p : GraphPath) : List String := p.edges.map (·.edgeId)

/-- The record of a path that was found. -/
def atlasPath (p : GraphPath) : Py AttackPathAtlasPath := do
  let id ← pathId (edgeIdsOf p)
  let observedHops := p.edges.countP fun e => e.evidenceState = .observed
  return {
    pathId := id
    startNodeId := p.nodes.head?.elim "" (·.nodeId)
    targetNodeId := p.nodes.getLast?.elim "" (·.nodeId)
    nodeIds := p.nodes.map (·.nodeId)
    edgeIds := edgeIdsOf p
    relationships := p.edges.map (·.relationship)
    observedHops := observedHops
    inferredHops := p.edges.length - observedHops
    evidenceIds := evidenceIds p.edges
    provenanceSources := provenanceSources p.edges }

/-- The order of the listed paths: inferred hops, hops, start, target, edges. -/
def AttackPathAtlasPath.le (a b : AttackPathAtlasPath) : Bool :=
  a.inferredHops < b.inferredHops || (a.inferredHops = b.inferredHops &&
    (a.hopCount < b.hopCount || (a.hopCount = b.hopCount &&
      (a.startNodeId < b.startNodeId || (a.startNodeId = b.startNodeId &&
        (a.targetNodeId < b.targetNodeId || (a.targetNodeId = b.targetNodeId &&
          decide (a.edgeIds ≤ b.edgeIds))))))))

/-! ## Participation -/

/-- The nodes a path counts for, its ends left out, or its edges. -/
def AttackPathAtlasPath.subjects (nodes : Bool) (a : AttackPathAtlasPath) : List String :=
  if nodes then a.nodeIds.dropLast.drop 1 else a.edgeIds

/-- More paths first, then by identifier. -/
def AttackPathParticipation.le (a b : AttackPathParticipation) : Bool :=
  b.pathCount < a.pathCount || (a.pathCount = b.pathCount && a.subjectId ≤ b.subjectId)

/-- The record of one subject. -/
def participant (paths : List AttackPathAtlasPath) (nodes : Bool) (subjectId : String) :
    AttackPathParticipation :=
  let pathIds := ((paths.filter fun a => subjectId ∈ a.subjects nodes).map (·.pathId)).dedup
  ⟨subjectId, if nodes then "node" else "edge", pathIds.length, sortedStr pathIds⟩

/-- Source: `attack_path_atlas.py` `_participation`. -/
def participation (paths : List AttackPathAtlasPath) (nodes : Bool) :
    List AttackPathParticipation :=
  (((paths.flatMap (·.subjects nodes)).dedup).map (participant paths nodes)).insertionSort
    fun a b => a.le b = true

/-! ## The selection -/

/-- The order of the selected nodes: kind, natural key, identifier. -/
def nodeLe (casefold : String → String) (a b : GraphNode) : Bool :=
  a.kind.value < b.kind.value || (a.kind.value = b.kind.value &&
    (casefold a.naturalKey < casefold b.naturalKey ||
      (casefold a.naturalKey = casefold b.naturalKey && a.nodeId ≤ b.nodeId)))

/-- Source: `attack_path_atlas.py` `_ordered_nodes`. -/
def orderedNodes (casefold : String → String) (nodes : List GraphNode) : List GraphNode :=
  nodes.insertionSort fun a b => nodeLe casefold a b = true

/-- The nodes of the start kinds, in order. -/
def startNodes (casefold : String → String) (index : IdentityGraphIndex)
    (startKinds : List GraphNodeKind) : List GraphNode :=
  orderedNodes casefold (index.nodes.filter fun n => n.kind ∈ startKinds)

/-- The critical assets, in order. -/
def targetNodes (casefold : String → String) (index : IdentityGraphIndex) : List GraphNode :=
  orderedNodes casefold (index.nodesByKind .criticalAsset)

/-- The start nodes within the ceiling. -/
def selectedStarts (casefold : String → String) (index : IdentityGraphIndex)
    (startKinds : List GraphNodeKind) (active : AttackPathAtlasLimits) : List GraphNode :=
  (startNodes casefold index startKinds).take active.maxStarts

/-- The critical assets within the ceiling. -/
def selectedTargets (casefold : String → String) (index : IdentityGraphIndex)
    (active : AttackPathAtlasLimits) : List GraphNode :=
  (targetNodes casefold index).take active.maxTargets

/-- Source: `attack_path_atlas.py` `_DEFAULT_START_KINDS`. -/
def defaultStartKinds : List GraphNodeKind := [.identity, .group, .asset, .service]

/-! ## The exploration -/

/-- A path whose edges have been seen. -/
def seenPath (found : List GraphPath) (p : GraphPath) : Bool :=
  found.any fun q => edgeIdsOf q = edgeIdsOf p

/-- A node that is one of the targets. -/
def isTargetId (targetIds : List String) (n : GraphNode) : Bool := n.nodeId ∈ targetIds

/-- The forest that the atlas explores. -/
def atlasTree (index : IdentityGraphIndex) (allowed targetIds : List String) :
    Exploration.Tree GraphPath :=
  pathTree index allowed (isTargetId targetIds) seenPath

/-- The text of a cut. -/
def cutReason : Exploration.Cut → String
  | .depth => "path depth ceiling reached"
  | .found => "path count ceiling reached"
  | .expansions => "global expansion ceiling reached"

def startCeilingReason : String := "start node ceiling reached"

def targetCeilingReason : String := "critical target ceiling reached"

/-- The kinds that an atlas may start from. -/
def checkStartKinds (startKinds : List GraphNodeKind) : Py Unit := do
  raiseIf (startKinds = []) (valueError "start_kinds must not be empty")
  raiseIf (¬startKinds.Nodup) (valueError "start_kinds must not contain duplicates")
  raiseIf (.criticalAsset ∈ startKinds) (valueError "critical-asset cannot be a start kind")

/-- The relationships that an atlas follows. -/
def followed (lower : String → String) (relationships : List String) : List String :=
  sortedStr (relationships.map lower)

/-- The relationships that an atlas accepts. -/
def checkRelationships (lower : String → String) (relationships : List String) :
    Py (List String) := do
  raiseIf (¬∀ item ∈ relationships, requiredText item)
    (valueError "relationships must contain unique nonblank strings")
  raiseIf (¬(relationships.map lower).Nodup)
    (valueError "relationships must contain unique nonblank strings")
  return followed lower relationships

/-- The exploration below one start after the other; without a target, none at all. -/
def atlasExploration (index : IdentityGraphIndex) (allowed : List String)
    (starts targets : List GraphNode) (active : AttackPathAtlasLimits) :
    Exploration.State GraphPath :=
  let targetIds := targets.map (·.nodeId)
  if targetIds = [] then ⟨[], [], [], 0, false⟩
  else Exploration.exploreAll (atlasTree index allowed targetIds)
    ⟨active.maxDepth, active.maxPaths, active.maxExpansions⟩ ⟨[], [], [], 0, false⟩
    (starts.map GraphPath.single)

/-- The index over a snapshot. -/
def indexOf (graph : GraphSnapshot) : IdentityGraphIndex := ⟨graph.nodes, graph.edges⟩

/-- The reasons for which an atlas is truncated. -/
def truncationReasons (casefold : String → String) (index : IdentityGraphIndex)
    (startKinds : List GraphNodeKind) (active : AttackPathAtlasLimits)
    (cuts : List Exploration.Cut) : List String :=
  (if active.maxStarts < (startNodes casefold index startKinds).length then [startCeilingReason]
    else []) ++
  (if active.maxTargets < (targetNodes casefold index).length then [targetCeilingReason] else []) ++
  cuts.map cutReason

/-- Source: `attack_path_atlas.py` `build_cross_domain_attack_path_atlas`. -/
def buildCrossDomainAttackPathAtlas (lower casefold : String → String) (graph : GraphSnapshot)
    (startKinds : List GraphNodeKind) (relationships : List String)
    (limits : Option AttackPathAtlasLimits) : Py AttackPathAtlas := do
  assertValidIdentityGraph graph
  let active := limits.getD .default
  checkStartKinds startKinds
  let allowed ← checkRelationships lower relationships
  let starts := selectedStarts casefold (indexOf graph) startKinds active
  let targets := selectedTargets casefold (indexOf graph) active
  let s := atlasExploration (indexOf graph) allowed starts targets active
  let paths ← s.found.mapM atlasPath
  let orderedPaths := paths.insertionSort fun a b => a.le b = true
  let reasons := truncationReasons casefold (indexOf graph) startKinds active s.cuts
  return {
    startNodeIds := starts.map (·.nodeId)
    targetNodeIds := targets.map (·.nodeId)
    paths := orderedPaths
    nodeParticipation := participation orderedPaths true
    edgeParticipation := participation orderedPaths false
    expansions := s.expansions
    truncated := reasons ≠ []
    truncationReasons := reasons
    interpretation := atlasInterpretation }

/-! ## What an atlas should say -/

/-- A simple path from one of the starts to a critical asset, with none before its end. -/
def IsReviewPath (index : IdentityGraphIndex) (allowed : List String) (starts : List GraphNode)
    (p : GraphPath) : Prop :=
  ∃ start ∈ starts, ∃ target, IsSimplePath index allowed start target p ∧
    target.kind = .criticalAsset ∧ ∀ n ∈ p.nodes.dropLast, n.kind ≠ .criticalAsset

/-- A path within the depth limit that passes a critical asset which the atlas does not select on
its way to the first one that it does. -/
def Detour (index : IdentityGraphIndex) (allowed : List String) (starts targets : List GraphNode)
    (maxDepth : Nat) : Prop :=
  ∃ p, ∃ start ∈ starts, ∃ target ∈ targets, IsSimplePath index allowed start target p ∧
    p.hopCount ≤ maxDepth ∧ (∀ n ∈ p.nodes.dropLast, n ∉ targets) ∧
    ∃ n ∈ p.nodes.dropLast, n.kind = .criticalAsset

/-- The records count the listed paths that a subject takes part in. -/
structure Counts (paths : List AttackPathAtlasPath) (subjects : AttackPathAtlasPath → List String)
    (records : List AttackPathParticipation) : Prop where
  distinct : (records.map (·.subjectId)).Nodup
  listed : ∀ id, id ∈ records.map (·.subjectId) ↔ ∃ a ∈ paths, id ∈ subjects a
  count : ∀ r ∈ records, r.pathCount = (paths.filter fun a => r.subjectId ∈ subjects a).length

/-- What an atlas says: it lists review paths, each once, and all of them when it is not truncated;
it counts the interior nodes and the edges of the listed paths; it keeps its limits. -/
structure ReviewsPaths (index : IdentityGraphIndex) (allowed : List String)
    (starts : List GraphNode) (active : AttackPathAtlasLimits) (a : AttackPathAtlas) : Prop where
  only : ∀ r ∈ a.paths, ∃ p, IsReviewPath index allowed starts p ∧ atlasPath p = .ok r
  once : (a.paths.map (·.edgeIds)).Nodup
  whole : a.truncated = false → ∀ p, IsReviewPath index allowed starts p →
    ∃ r ∈ a.paths, atlasPath p = .ok r
  nodes : Counts a.paths (fun r => r.nodeIds.dropLast.drop 1) a.nodeParticipation
  edges : Counts a.paths (·.edgeIds) a.edgeParticipation
  limits : a.startNodeIds.length ≤ active.maxStarts ∧ a.targetNodeIds.length ≤ active.maxTargets ∧
    a.paths.length ≤ active.maxPaths ∧ (∀ r ∈ a.paths, r.hopCount ≤ active.maxDepth) ∧
    a.expansions ≤ active.maxExpansions

/-- No two lists of edges of the graph have one path identifier. -/
def PathIdsDiffer (graph : GraphSnapshot) : Prop :=
  ∀ ids ids' : List String, ids ⊆ graph.edges.map (·.edgeId) → ids' ⊆ graph.edges.map (·.edgeId) →
    ids.Nodup → ids'.Nodup → ∀ i, pathId ids = .ok i → pathId ids' = .ok i → ids = ids'

/-! ## Paths and their edges -/

variable {index : IdentityGraphIndex} {allowed targetIds : List String}

theorem joins_end_unique (hdistinct : index.Distinct) :
    ∀ b e c b' c', Joins index allowed b e c → Joins index allowed b' e c' → c = c' := by
  rintro b e c b' c' ⟨-, -, -, hc, htarget⟩ ⟨-, -, -, hc', htarget'⟩
  exact List.inj_on_of_nodup_map hdistinct.nodes hc hc' (htarget.symm.trans htarget')

/-- The edges of a path lie in the graph. -/
theorem walk_edges {start target : GraphNode} {ns : List GraphNode} {es : List GraphEdge}
    (h : Walk (Joins index allowed) start ns es target) : ∀ e ∈ es, e ∈ index.edges := by
  induction h with
  | start => exact fun _ he => absurd he List.not_mem_nil
  | snoc _ hjoins ih =>
    intro e he
    rcases List.mem_append.mp he with he | he
    · exact ih e he
    · rw [List.mem_singleton.mp he]
      exact hjoins.1

/-- The nodes of a path lie in the graph. -/
theorem walk_nodes {start target : GraphNode} (hstart : start ∈ index.nodes) {ns : List GraphNode}
    {es : List GraphEdge} (h : Walk (Joins index allowed) start ns es target) :
    ∀ n ∈ ns, n ∈ index.nodes := by
  induction h with
  | start =>
    intro n hn
    rwa [List.mem_singleton.mp hn]
  | snoc _ hjoins ih =>
    intro n hn
    rcases List.mem_append.mp hn with hn | hn
    · exact ih n hn
    · rw [List.mem_singleton.mp hn]
      exact hjoins.2.2.2.1

/-- The nodes after the start are the ends of the edges. -/
theorem walk_ends {start target : GraphNode} {ns : List GraphNode} {es : List GraphEdge}
    (h : Walk (Joins index allowed) start ns es target) :
    ns.map (·.nodeId) = start.nodeId :: es.map (·.targetNodeId) := by
  induction h with
  | start => rfl
  | snoc _ hjoins ih =>
    rw [List.map_append, ih, List.map_append, List.map_singleton, List.map_singleton,
      List.cons_append, hjoins.2.2.2.2]

/-- A simple path uses an edge once. -/
theorem edgeIds_nodup (hdistinct : index.Distinct) {start target : GraphNode} {p : GraphPath}
    (h : IsSimplePath index allowed start target p) : (edgeIdsOf p).Nodup := by
  have hnodes := h.distinct
  rw [walk_ends h.walk] at hnodes
  have hedges : p.edges.Nodup := List.Nodup.of_map _ (List.nodup_cons.mp hnodes).2
  refine hedges.map_on ?_
  intro e he e' he' hid
  exact List.inj_on_of_nodup_map hdistinct.edges (walk_edges h.walk e he)
    (walk_edges h.walk e' he') hid

/-- **The identifiers of its edges tell a path**, if it has any. -/
theorem path_eq_of_edgeIds (hdistinct : index.Distinct) {start target start' target' : GraphNode}
    {p q : GraphPath} (hstart : start ∈ index.nodes) (hstart' : start' ∈ index.nodes)
    (hp : IsSimplePath index allowed start target p)
    (hq : IsSimplePath index allowed start' target' q) (hne : p.edges ≠ [])
    (hids : edgeIdsOf p = edgeIdsOf q) : start = start' ∧ p = q := by
  obtain ⟨ns, es⟩ := p
  obtain ⟨ns', es'⟩ := q
  obtain rfl : es = es' := Keyed.eq_of_map_key_eq hdistinct.edges (walk_edges hp.walk)
    (walk_edges hq.walk) hids
  obtain ⟨e, rest, rfl⟩ := List.exists_cons_of_ne_nil hne
  obtain ⟨_, hfirst⟩ := hp.walk.first_step e rfl
  obtain ⟨_, hfirst'⟩ := hq.walk.first_step e rfl
  obtain rfl : start = start' := List.inj_on_of_nodup_map hdistinct.nodes hstart hstart'
    (hfirst.2.2.1.symm.trans hfirst'.2.2.1)
  obtain ⟨rfl, -⟩ := hp.walk.nodes_unique (joins_end_unique hdistinct) hq.walk
  exact ⟨rfl, rfl⟩

/-! ## The exploration -/

/-- A goal of the atlas below a start: a simple path to the first target it meets. -/
def IsHit (index : IdentityGraphIndex) (allowed targetIds : List String) (start : GraphNode)
    (p : GraphPath) : Prop :=
  ∃ target, IsSimplePath index allowed start target p ∧ isTargetId targetIds target = true ∧
    ∀ n ∈ p.nodes.dropLast, isTargetId targetIds n = false

/-- The nodes an atlas may start from. -/
structure Starts (index : IdentityGraphIndex) (targetIds : List String) (starts : List GraphNode) :
    Prop where
  nodup : starts.Nodup
  mem : ∀ n ∈ starts, n ∈ index.nodes
  away : ∀ n ∈ starts, isTargetId targetIds n = false

variable {starts : List GraphNode}

theorem goal_iff_hit (hdistinct : index.Distinct) (hstarts : Starts index targetIds starts)
    {start : GraphNode} (hstart : start ∈ starts) {q : GraphPath} :
    Exploration.Goal (atlasTree index allowed targetIds) (.single start) q ↔
      IsHit index allowed targetIds start q :=
  goal_iff hdistinct (hstarts.away start hstart)

theorem IsHit.edges_ne_nil (hstarts : Starts index targetIds starts) {start : GraphNode}
    (hstart : start ∈ starts) {q : GraphPath} (h : IsHit index allowed targetIds start q) :
    q.edges ≠ [] := by
  obtain ⟨target, hsimple, htarget, -⟩ := h
  have hne : start ≠ target := by
    rintro rfl
    rw [hstarts.away _ hstart] at htarget
    cases htarget
  obtain ⟨_, _, _, _, -, hedges, -, -⟩ := hsimple.walk.last_step hne
  rw [hedges]
  exact List.append_ne_nil_of_right_ne_nil _ (List.cons_ne_nil _ _)

/-- The edges of a hit tell it, whatever it starts from. -/
theorem IsHit.eq_of_edgeIds (hdistinct : index.Distinct) (hstarts : Starts index targetIds starts)
    {start start' : GraphNode} (hstart : start ∈ starts) (hstart' : start' ∈ starts)
    {p q : GraphPath} (hp : IsHit index allowed targetIds start p)
    (hq : IsHit index allowed targetIds start' q) (hids : edgeIdsOf p = edgeIdsOf q) :
    start = start' ∧ p = q := by
  have hne := hp.edges_ne_nil hstarts hstart
  obtain ⟨_, hsimple, -, -⟩ := hp
  obtain ⟨_, hsimple', -, -⟩ := hq
  exact path_eq_of_edgeIds hdistinct (hstarts.mem _ hstart) (hstarts.mem _ hstart') hsimple
    hsimple' hne hids

theorem atlasTree_isForest (hdistinct : index.Distinct) (hstarts : Starts index targetIds starts) :
    Exploration.IsForest (atlasTree index allowed targetIds)
      (· ∈ starts.map GraphPath.single) := by
  refine pathTree_isForest hdistinct ?_
  rintro found q hfound ⟨root, hroot, hq⟩ hseen
  obtain ⟨start, hstart, rfl⟩ := List.mem_map.mp hroot
  have hq' := (goal_iff_hit hdistinct hstarts hstart).mp hq
  obtain ⟨p, hp, hids⟩ := List.any_eq_true.mp hseen
  obtain ⟨root', hroot', hgoal⟩ := hfound p hp
  obtain ⟨start', hstart', rfl⟩ := List.mem_map.mp hroot'
  have hp' := (goal_iff_hit hdistinct hstarts hstart').mp hgoal
  obtain ⟨-, rfl⟩ := hp'.eq_of_edgeIds hdistinct hstarts hstart' hstart hq' (of_decide_eq_true hids)
  exact hp

/-- **What the exploration of the atlas finds**: hits below its starts, told apart by their edges,
within the limits; and all of them when nothing was cut. -/
theorem atlasExploration_spec (hdistinct : index.Distinct) {targets : List GraphNode}
    (hstarts : Starts index (targets.map (·.nodeId)) starts) (active : AttackPathAtlasLimits)
    {s : Exploration.State GraphPath}
    (hs : atlasExploration index allowed starts targets active = s) :
    (∀ q ∈ s.found, ∃ start ∈ starts, IsHit index allowed (targets.map (·.nodeId)) start q ∧
      q.hopCount ≤ active.maxDepth) ∧
    s.found.Nodup ∧ s.found.length ≤ active.maxPaths ∧ s.expansions ≤ active.maxExpansions ∧
    (s.cuts = [] → ∀ start ∈ starts, ∀ q,
      IsHit index allowed (targets.map (·.nodeId)) start q → q ∈ s.found) := by
  subst hs
  unfold atlasExploration
  by_cases hnone : targets.map (·.nodeId) = []
  · dsimp only
    rw [if_pos hnone]
    refine ⟨fun _ h => absurd h List.not_mem_nil, List.nodup_nil, Nat.zero_le _, Nat.zero_le _, ?_⟩
    rintro - start - q ⟨target, -, htarget, -⟩
    rw [isTargetId, hnone] at htarget
    exact absurd (of_decide_eq_true htarget) List.not_mem_nil
  dsimp only
  rw [if_neg hnone]
  have hforest : Exploration.IsForest (atlasTree index allowed (targets.map (·.nodeId)))
      (· ∈ starts.map GraphPath.single) := atlasTree_isForest hdistinct hstarts
  have hapart : ∀ root ∈ starts.map GraphPath.single, ∀ root' ∈ starts.map GraphPath.single,
      ∀ q, Exploration.Goal (atlasTree index allowed (targets.map (·.nodeId))) root q →
        Exploration.Goal (atlasTree index allowed (targets.map (·.nodeId))) root' q →
          root = root' := by
    intro root hroot root' hroot' q hq hq'
    obtain ⟨start, hstart, rfl⟩ := List.mem_map.mp hroot
    obtain ⟨start', hstart', rfl⟩ := List.mem_map.mp hroot'
    obtain ⟨heq, -⟩ := ((goal_iff_hit hdistinct hstarts hstart).mp hq).eq_of_edgeIds hdistinct
      hstarts hstart hstart' ((goal_iff_hit hdistinct hstarts hstart').mp hq') rfl
    rw [heq]
  have hsingle : (starts.map GraphPath.single).Nodup := by
    refine hstarts.nodup.map fun n m heq => ?_
    exact List.head_eq_of_cons_eq (congrArg GraphPath.nodes heq)
  have hswept := Exploration.exploreAll_spec (l := ⟨active.maxDepth, active.maxPaths,
    active.maxExpansions⟩) hforest hapart (starts.map GraphPath.single) [] ⟨[], [], [], 0, false⟩
    rfl hsingle ⟨fun _ h => absurd h List.not_mem_nil, List.nodup_nil, Nat.zero_le _,
      Nat.zero_le _, fun h => absurd h Bool.false_ne_true, fun _ _ h => absurd h List.not_mem_nil⟩
  refine ⟨fun q hq => ?_, hswept.nodup, hswept.length, hswept.expansions,
    fun hcuts start hstart q hq => ?_⟩
  · obtain ⟨root, hroot, hgoal, hlevel⟩ := hswept.sound q hq
    obtain ⟨start, hstart, rfl⟩ := List.mem_map.mp hroot
    exact ⟨start, hstart, (goal_iff_hit hdistinct hstarts hstart).mp hgoal, hlevel⟩
  · exact hswept.complete hcuts _ (List.mem_map_of_mem hstart) q
      ((goal_iff_hit hdistinct hstarts hstart).mpr hq)

/-! ## Participation -/

/-- **The counts are right** where the listed paths have differing identifiers. -/
theorem participation_counts {paths : List AttackPathAtlasPath}
    (hpaths : (paths.map (·.pathId)).Nodup) (nodes : Bool) :
    Counts paths (·.subjects nodes) (participation paths nodes) := by
  have hperm : (participation paths nodes).Perm
      (((paths.flatMap (·.subjects nodes)).dedup).map (participant paths nodes)) :=
    List.perm_insertionSort _ _
  have hids : (((paths.flatMap (·.subjects nodes)).dedup).map (participant paths nodes)).map
      (·.subjectId) = (paths.flatMap (·.subjects nodes)).dedup := by
    rw [List.map_map]
    exact List.map_id _
  refine ⟨?_, fun id => ?_, fun r hr => ?_⟩
  · rw [(hperm.map _).nodup_iff, hids]
    exact List.nodup_dedup _
  · rw [(hperm.map _).mem_iff, hids, List.mem_dedup, List.mem_flatMap]
  · obtain ⟨id, -, rfl⟩ := List.mem_map.mp (hperm.mem_iff.mp hr)
    have hsub : ((paths.filter fun a => id ∈ a.subjects nodes).map (·.pathId)).Nodup :=
      hpaths.sublist (List.filter_sublist.map _)
    show (((paths.filter fun a => id ∈ a.subjects nodes).map (·.pathId)).dedup).length = _
    rw [hsub.dedup, List.length_map]
    rfl

/-! ## The atlas -/

variable {lower casefold : String → String} {graph : GraphSnapshot}
  {startKinds : List GraphNodeKind} {relationships : List String}
  {limits : Option AttackPathAtlasLimits} {a : AttackPathAtlas}

/-- What an atlas is made of: the paths that its exploration found, put in order. -/
structure BuiltFrom (casefold : String → String) (graph : GraphSnapshot)
    (startKinds : List GraphNodeKind) (active : AttackPathAtlasLimits)
    (s : Exploration.State GraphPath) (a : AttackPathAtlas) : Prop where
  startNodeIds : a.startNodeIds =
    (selectedStarts casefold (indexOf graph) startKinds active).map (·.nodeId)
  targetNodeIds : a.targetNodeIds =
    (selectedTargets casefold (indexOf graph) active).map (·.nodeId)
  paths : ∃ records, s.found.mapM atlasPath = .ok records ∧ a.paths.Perm records
  nodes : a.nodeParticipation = participation a.paths true
  edges : a.edgeParticipation = participation a.paths false
  expansions : a.expansions = s.expansions
  reasons : a.truncationReasons =
    truncationReasons casefold (indexOf graph) startKinds active s.cuts
  truncated : a.truncated = false ↔ a.truncationReasons = []

theorem build_eq_ok
    (h : buildCrossDomainAttackPathAtlas lower casefold graph startKinds relationships limits =
      .ok a) :
    assertValidIdentityGraph graph = .ok () ∧ .criticalAsset ∉ startKinds ∧
      BuiltFrom casefold graph startKinds (limits.getD .default)
        (atlasExploration (indexOf graph) (followed lower relationships)
          (selectedStarts casefold (indexOf graph) startKinds (limits.getD .default))
          (selectedTargets casefold (indexOf graph) (limits.getD .default))
          (limits.getD .default)) a := by
  unfold buildCrossDomainAttackPathAtlas at h
  rw [unit_bind_eq_ok] at h
  obtain ⟨hvalid, h⟩ := h
  dsimp only at h
  rw [unit_bind_eq_ok] at h
  obtain ⟨hkinds, h⟩ := h
  rw [bind_eq_ok] at h
  obtain ⟨allowed, hallowed, h⟩ := h
  rw [bind_eq_ok] at h
  obtain ⟨records, hrecords, h⟩ := h
  simp only [pure_eq_ok, Except.ok.injEq] at h
  simp only [checkStartKinds, raiseIf_bind_eq_ok, raiseIf_eq_ok] at hkinds
  simp only [checkRelationships, raiseIf_bind_eq_ok, pure_eq_ok, Except.ok.injEq] at hallowed
  obtain ⟨-, -, rfl⟩ := hallowed
  subst h
  refine ⟨hvalid, hkinds.2.2, rfl, rfl, ⟨records, hrecords, List.perm_insertionSort _ _⟩, rfl, rfl,
    rfl, rfl, ?_⟩
  exact decide_eq_false_iff_not.trans not_not

theorem indexOf_distinct (h : assertValidIdentityGraph graph = .ok ()) :
    (indexOf graph).Distinct :=
  ⟨assertValid_distinct h, assertValid_edges_distinct h⟩

theorem orderedNodes_perm (casefold : String → String) (nodes : List GraphNode) :
    (orderedNodes casefold nodes).Perm nodes := List.perm_insertionSort _ _

theorem mem_targetNodes {n : GraphNode} :
    n ∈ targetNodes casefold index ↔ n ∈ index.nodes ∧ n.kind = .criticalAsset := by
  unfold targetNodes IdentityGraphIndex.nodesByKind
  rw [(orderedNodes_perm casefold _).mem_iff, List.mem_filter, decide_eq_true_eq]

theorem mem_selectedTargets {active : AttackPathAtlasLimits} {n : GraphNode}
    (h : n ∈ selectedTargets casefold index active) :
    n ∈ index.nodes ∧ n.kind = .criticalAsset :=
  mem_targetNodes.mp (List.mem_of_mem_take h)

/-- A node of the graph is a target when its identifier is one. -/
theorem isTargetId_iff (hdistinct : index.Distinct) {active : AttackPathAtlasLimits} {n : GraphNode}
    (hn : n ∈ index.nodes) :
    isTargetId ((selectedTargets casefold index active).map (·.nodeId)) n = true ↔
      n ∈ selectedTargets casefold index active := by
  unfold isTargetId
  rw [decide_eq_true_eq]
  constructor
  · intro hin
    obtain ⟨t, ht, hid⟩ := List.mem_map.mp hin
    have heq := List.inj_on_of_nodup_map hdistinct.nodes (mem_selectedTargets ht).1 hn hid
    exact heq ▸ ht
  · intro hin
    exact List.mem_map_of_mem hin

theorem starts_of_selected (hdistinct : index.Distinct) (hkinds : .criticalAsset ∉ startKinds)
    (active : AttackPathAtlasLimits) :
    Starts index ((selectedTargets casefold index active).map (·.nodeId))
      (selectedStarts casefold index startKinds active) := by
  have hmem : ∀ n ∈ selectedStarts casefold index startKinds active,
      n ∈ index.nodes ∧ n.kind ∈ startKinds := by
    intro n hn
    have hin := (orderedNodes_perm casefold _).mem_iff.mp (List.mem_of_mem_take hn)
    rw [List.mem_filter, decide_eq_true_eq] at hin
    exact hin
  refine ⟨?_, fun n hn => (hmem n hn).1, fun n hn => eq_false_of_ne_true fun htarget => ?_⟩
  · have hnodes : index.nodes.Nodup := List.Nodup.of_map _ hdistinct.nodes
    have hsorted := (orderedNodes_perm casefold _).nodup_iff.mpr
      (hnodes.filter fun n => n.kind ∈ startKinds)
    exact hsorted.sublist (List.take_sublist _ _)
  · have hkind := (mem_selectedTargets ((isTargetId_iff hdistinct (hmem n hn).1).mp htarget)).2
    exact hkinds (hkind ▸ (hmem n hn).2)

/-- The record of a path that has edges. -/
theorem atlasPath_eq_ok {p : GraphPath} {r : AttackPathAtlasPath} (h : atlasPath p = .ok r) :
    pathId (edgeIdsOf p) = .ok r.pathId ∧ r.edgeIds = edgeIdsOf p ∧
      r.nodeIds = p.nodes.map (·.nodeId) := by
  unfold atlasPath at h
  rw [bind_eq_ok] at h
  obtain ⟨id, hid, h⟩ := h
  simp only [pure_eq_ok, Except.ok.injEq] at h
  subst h
  exact ⟨hid, rfl, rfl⟩

/-- A hit is a review path unless it passes a critical asset. -/
theorem reviewPath_of_hit (hdistinct : index.Distinct) {active : AttackPathAtlasLimits}
    (hstarts : Starts index ((selectedTargets casefold index active).map (·.nodeId)) starts)
    {start : GraphNode} (hstart : start ∈ starts) {p : GraphPath}
    (h : IsHit index allowed ((selectedTargets casefold index active).map (·.nodeId)) start p)
    (hdepth : p.hopCount ≤ active.maxDepth) :
    IsReviewPath index allowed starts p ∨
      Detour index allowed starts (selectedTargets casefold index active) active.maxDepth := by
  obtain ⟨target, hsimple, htarget, haway⟩ := h
  have hnodes := walk_nodes (hstarts.mem start hstart) hsimple.walk
  have hselected := (isTargetId_iff hdistinct (hnodes _ hsimple.walk.mem_last)).mp htarget
  by_cases hpass : ∃ n ∈ p.nodes.dropLast, n.kind = .criticalAsset
  · refine Or.inr ⟨p, start, hstart, target, hselected, hsimple, hdepth, fun n hn hin => ?_, hpass⟩
    have hid := (isTargetId_iff hdistinct (hnodes n (List.dropLast_subset _ hn))).mpr hin
    rw [haway n hn] at hid
    cases hid
  · refine Or.inl ⟨start, hstart, target, hsimple, (mem_selectedTargets hselected).2, ?_⟩
    intro n hn hkind
    exact hpass ⟨n, hn, hkind⟩

/-- A path to a target without targets before its end is a hit. -/
theorem hit_of_path (hdistinct : index.Distinct) {active : AttackPathAtlasLimits}
    (hstarts : Starts index ((selectedTargets casefold index active).map (·.nodeId)) starts)
    {start target : GraphNode} (hstart : start ∈ starts) {p : GraphPath}
    (hsimple : IsSimplePath index allowed start target p)
    (htarget : target ∈ selectedTargets casefold index active)
    (haway : ∀ n ∈ p.nodes.dropLast, n ∉ selectedTargets casefold index active) :
    IsHit index allowed ((selectedTargets casefold index active).map (·.nodeId)) start p := by
  have hnodes := walk_nodes (hstarts.mem start hstart) hsimple.walk
  refine ⟨target, hsimple, (isTargetId_iff hdistinct (mem_selectedTargets htarget).1).mpr htarget,
    fun n hn => eq_false_of_ne_true fun hid => haway n hn ?_⟩
  exact (isTargetId_iff hdistinct (hnodes n (List.dropLast_subset _ hn))).mp hid

/-! ## What is listed -/

variable {active : AttackPathAtlasLimits} {s : Exploration.State GraphPath}

theorem BuiltFrom.found_of_listed (h : BuiltFrom casefold graph startKinds active s a)
    {r : AttackPathAtlasPath} (hr : r ∈ a.paths) : ∃ p ∈ s.found, atlasPath p = .ok r := by
  obtain ⟨records, hrecords, hperm⟩ := h.paths
  exact Collect.mem_of_mapM hrecords (hperm.mem_iff.mp hr)

theorem BuiltFrom.listed_of_found (h : BuiltFrom casefold graph startKinds active s a)
    {p : GraphPath} (hp : p ∈ s.found) : ∃ r ∈ a.paths, atlasPath p = .ok r := by
  obtain ⟨records, hrecords, hperm⟩ := h.paths
  obtain ⟨i, hi, rfl⟩ := List.mem_iff_getElem.mp hp
  have hpairs := mapM_eq_ok.mp hrecords
  have hlength := hpairs.length_eq
  refine ⟨records[i], hperm.mem_iff.mpr (List.getElem_mem _), ?_⟩
  exact List.Forall₂.get hpairs hi (hlength ▸ hi)

theorem BuiltFrom.edgeIds_perm (h : BuiltFrom casefold graph startKinds active s a) :
    (a.paths.map (·.edgeIds)).Perm (s.found.map edgeIdsOf) := by
  obtain ⟨records, hrecords, hperm⟩ := h.paths
  have heq : records.map (·.edgeIds) = s.found.map edgeIdsOf :=
    map_eq_of_forall₂ (mapM_eq_ok.mp hrecords) fun p r hr => (atlasPath_eq_ok hr).2.1
  exact heq ▸ hperm.map _

/-- What the exploration below the selected starts has to do with the graph. -/
structure Found (graph : GraphSnapshot) (casefold : String → String) (allowed : List String)
    (starts : List GraphNode) (active : AttackPathAtlasLimits) (s : Exploration.State GraphPath) :
    Prop where
  startable : Starts (indexOf graph)
    ((selectedTargets casefold (indexOf graph) active).map (·.nodeId)) starts
  hits : ∀ q ∈ s.found, ∃ start ∈ starts, IsHit (indexOf graph) allowed
    ((selectedTargets casefold (indexOf graph) active).map (·.nodeId)) start q ∧
      q.hopCount ≤ active.maxDepth
  nodup : s.found.Nodup
  length : s.found.length ≤ active.maxPaths
  expansions : s.expansions ≤ active.maxExpansions
  complete : s.cuts = [] → ∀ start ∈ starts, ∀ q, IsHit (indexOf graph) allowed
    ((selectedTargets casefold (indexOf graph) active).map (·.nodeId)) start q → q ∈ s.found

variable {allowed : List String} {starts : List GraphNode}

/-- The edges tell the listed paths apart. -/
theorem Found.edgeIds_nodup (hdistinct : (indexOf graph).Distinct)
    (h : Found graph casefold allowed starts active s) : (s.found.map edgeIdsOf).Nodup := by
  refine h.nodup.map_on ?_
  intro p hp q hq hids
  obtain ⟨start, hstart, hhit, -⟩ := h.hits p hp
  obtain ⟨start', hstart', hhit', -⟩ := h.hits q hq
  exact (hhit.eq_of_edgeIds hdistinct h.startable hstart hstart' hhit' hids).2

/-- The identifiers of the listed paths differ. -/
theorem BuiltFrom.pathIds_nodup (hdistinct : (indexOf graph).Distinct) (hhash : PathIdsDiffer graph)
    (hfound : Found graph casefold allowed starts active s)
    (h : BuiltFrom casefold graph startKinds active s a) : (a.paths.map (·.pathId)).Nodup := by
  have honce : (a.paths.map (·.edgeIds)).Nodup :=
    h.edgeIds_perm.nodup_iff.mpr (hfound.edgeIds_nodup hdistinct)
  have hknown : ∀ r ∈ a.paths, pathId r.edgeIds = .ok r.pathId ∧
      r.edgeIds ⊆ graph.edges.map (·.edgeId) ∧ r.edgeIds.Nodup := by
    intro r hr
    obtain ⟨p, hp, hrecord⟩ := h.found_of_listed hr
    obtain ⟨hid, hedges, -⟩ := atlasPath_eq_ok hrecord
    obtain ⟨start, hstart, ⟨target, hsimple, -, -⟩, -⟩ := hfound.hits p hp
    rw [hedges]
    refine ⟨hid, fun i hi => ?_, AttackPaths.edgeIds_nodup hdistinct hsimple⟩
    obtain ⟨e, he, rfl⟩ := List.mem_map.mp hi
    exact List.mem_map_of_mem (walk_edges hsimple.walk e he)
  refine (List.Nodup.of_map _ honce).map_on ?_
  intro r hr r' hr' hid
  obtain ⟨hpath, hsub, hnodup⟩ := hknown r hr
  obtain ⟨hpath', hsub', hnodup'⟩ := hknown r' hr'
  rw [← hid] at hpath'
  have hids := hhash _ _ hsub hsub' hnodup hnodup' _ hpath hpath'
  exact List.inj_on_of_nodup_map honce hr hr' hids

/-- No reason at all: everything was selected, and nothing was cut. -/
theorem truncationReasons_eq_nil {cuts : List Exploration.Cut}
    (h : truncationReasons casefold index startKinds active cuts = []) :
    (targetNodes casefold index).length ≤ active.maxTargets ∧ cuts = [] := by
  unfold truncationReasons at h
  obtain ⟨hceilings, hcuts⟩ := List.append_eq_nil_iff.mp h
  obtain ⟨-, htargets⟩ := List.append_eq_nil_iff.mp hceilings
  refine ⟨?_, List.map_eq_nil_iff.mp hcuts⟩
  by_contra hover
  rw [if_pos (Nat.lt_of_not_le hover)] at htargets
  cases htargets

/-- **An atlas without a detour says what it should.** -/
theorem BuiltFrom.reviews (hdistinct : (indexOf graph).Distinct) (hhash : PathIdsDiffer graph)
    (hfound : Found graph casefold allowed
      (selectedStarts casefold (indexOf graph) startKinds active) active s)
    (h : BuiltFrom casefold graph startKinds active s a)
    (hnone : ¬Detour (indexOf graph) allowed
      (selectedStarts casefold (indexOf graph) startKinds active)
      (selectedTargets casefold (indexOf graph) active) active.maxDepth) :
    ReviewsPaths (indexOf graph) allowed (selectedStarts casefold (indexOf graph) startKinds active)
      active a := by
  have hpathIds := h.pathIds_nodup hdistinct hhash hfound
  refine ⟨fun r hr => ?_, ?_, fun hwhole p hp => ?_, ?_, ?_, ?_, ?_, ?_, fun r hr => ?_, ?_⟩
  · obtain ⟨p, hp, hrecord⟩ := h.found_of_listed hr
    obtain ⟨start, hstart, hhit, hdepth⟩ := hfound.hits p hp
    rcases reviewPath_of_hit hdistinct hfound.startable hstart hhit hdepth with hreview | hdetour
    · exact ⟨p, hreview, hrecord⟩
    · exact absurd hdetour hnone
  · exact h.edgeIds_perm.nodup_iff.mpr (hfound.edgeIds_nodup hdistinct)
  · have hreasons := h.truncated.mp hwhole
    rw [h.reasons] at hreasons
    obtain ⟨hfits, hcuts⟩ := truncationReasons_eq_nil hreasons
    have hall : selectedTargets casefold (indexOf graph) active =
        targetNodes casefold (indexOf graph) := List.take_of_length_le hfits
    obtain ⟨start, hstart, target, hsimple, hkind, haway⟩ := hp
    have hnodes := walk_nodes (hfound.startable.mem start hstart) hsimple.walk
    refine h.listed_of_found (hfound.complete hcuts start hstart p
      (hit_of_path hdistinct hfound.startable hstart hsimple ?_ fun n hn hin => ?_))
    · rw [hall, mem_targetNodes]
      exact ⟨hnodes _ hsimple.walk.mem_last, hkind⟩
    · exact haway n hn (mem_selectedTargets hin).2
  · rw [h.nodes]
    exact participation_counts hpathIds true
  · rw [h.edges]
    exact participation_counts hpathIds false
  · rw [h.startNodeIds, List.length_map]
    exact List.length_take_le _ _
  · rw [h.targetNodeIds, List.length_map]
    exact List.length_take_le _ _
  · have hlength := h.edgeIds_perm.length_eq
    rw [List.length_map, List.length_map] at hlength
    rw [hlength]
    exact hfound.length
  · obtain ⟨p, hp, hrecord⟩ := h.found_of_listed hr
    obtain ⟨-, -, -, hdepth⟩ := hfound.hits p hp
    unfold AttackPathAtlasPath.hopCount
    rw [(atlasPath_eq_ok hrecord).2.1, edgeIdsOf, List.length_map]
    exact hdepth
  · rw [h.expansions]
    exact hfound.expansions

/-- **A detour goes wrong** where nothing but the ceilings on starts and targets was met. -/
theorem BuiltFrom.no_detour (hdistinct : (indexOf graph).Distinct)
    (hfound : Found graph casefold allowed
      (selectedStarts casefold (indexOf graph) startKinds active) active s)
    (h : BuiltFrom casefold graph startKinds active s a)
    (hreviews : ReviewsPaths (indexOf graph) allowed
      (selectedStarts casefold (indexOf graph) startKinds active) active a)
    (hreasons : ∀ reason ∈ a.truncationReasons,
      reason = startCeilingReason ∨ reason = targetCeilingReason) :
    ¬Detour (indexOf graph) allowed (selectedStarts casefold (indexOf graph) startKinds active)
      (selectedTargets casefold (indexOf graph) active) active.maxDepth := by
  rintro ⟨p, start, hstart, target, htarget, hsimple, hdepth, haway, n, hn, hkind⟩
  have hcuts : s.cuts = [] := by
    refine List.eq_nil_iff_forall_not_mem.mpr fun c hc => ?_
    have hin : cutReason c ∈ a.truncationReasons := by
      rw [h.reasons]
      exact List.mem_append_right _ (List.mem_map_of_mem hc)
    have hcut := hreasons _ hin
    cases c <;> exact absurd hcut (by decide)
  have hhit := hit_of_path hdistinct hfound.startable hstart hsimple htarget haway
  obtain ⟨r, hr, hrecord⟩ := h.listed_of_found (hfound.complete hcuts start hstart p hhit)
  obtain ⟨q, ⟨start', hstart', target', hsimple', hcritical, hnone⟩, hrecord'⟩ :=
    hreviews.only r hr
  have hids : edgeIdsOf p = edgeIdsOf q :=
    (atlasPath_eq_ok hrecord).2.1.symm.trans (atlasPath_eq_ok hrecord').2.1
  obtain ⟨-, rfl⟩ := path_eq_of_edgeIds hdistinct (hfound.startable.mem start hstart)
    (hfound.startable.mem start' hstart') hsimple hsimple' (hhit.edges_ne_nil hfound.startable hstart)
    hids
  exact hnone n hn hkind

/-- **The atlas**: it lists the review paths and counts who takes part in them unless some path runs
through a critical asset that the target ceiling left out; and with no other reason for truncation
than the ceilings on starts and targets, such a path does go wrong. -/
theorem atlas_reviews_paths (hhash : PathIdsDiffer graph)
    (h : buildCrossDomainAttackPathAtlas lower casefold graph startKinds relationships limits =
      .ok a) :
    (¬Detour (indexOf graph) (followed lower relationships)
        (selectedStarts casefold (indexOf graph) startKinds (limits.getD .default))
        (selectedTargets casefold (indexOf graph) (limits.getD .default))
        (limits.getD .default).maxDepth →
      ReviewsPaths (indexOf graph) (followed lower relationships)
        (selectedStarts casefold (indexOf graph) startKinds (limits.getD .default))
        (limits.getD .default) a) ∧
    (ReviewsPaths (indexOf graph) (followed lower relationships)
        (selectedStarts casefold (indexOf graph) startKinds (limits.getD .default))
        (limits.getD .default) a →
      (∀ reason ∈ a.truncationReasons,
        reason = startCeilingReason ∨ reason = targetCeilingReason) →
      ¬Detour (indexOf graph) (followed lower relationships)
        (selectedStarts casefold (indexOf graph) startKinds (limits.getD .default))
        (selectedTargets casefold (indexOf graph) (limits.getD .default))
        (limits.getD .default).maxDepth) := by
  obtain ⟨hvalid, hkinds, hbuilt⟩ := build_eq_ok h
  have hdistinct := indexOf_distinct hvalid
  have hstarts : Starts _ ((selectedTargets casefold _ (limits.getD .default)).map (·.nodeId))
      (selectedStarts casefold _ startKinds (limits.getD .default)) :=
    starts_of_selected hdistinct hkinds (limits.getD .default)
  obtain ⟨hhits, hnodup, hlength, hexpansions, hcomplete⟩ := atlasExploration_spec hdistinct hstarts
    (limits.getD .default) rfl
  have hfound : Found graph casefold (followed lower relationships)
      (selectedStarts casefold (indexOf graph) startKinds (limits.getD .default))
      (limits.getD .default) _ := ⟨hstarts, hhits, hnodup, hlength, hexpansions, hcomplete⟩
  exact ⟨hbuilt.reviews hdistinct hhash hfound, hbuilt.no_detour hdistinct hfound⟩

/-- Where every critical asset is selected there is no detour. -/
theorem not_detour_of_fits (hdistinct : (indexOf graph).Distinct)
    (hkinds : .criticalAsset ∉ startKinds)
    (hfits : (targetNodes casefold (indexOf graph)).length ≤ active.maxTargets) :
    ¬Detour (indexOf graph) allowed (selectedStarts casefold (indexOf graph) startKinds active)
      (selectedTargets casefold (indexOf graph) active) active.maxDepth := by
  rintro ⟨p, start, hstart, target, -, hsimple, -, haway, n, hn, hkind⟩
  have hstarts : Starts (indexOf graph)
      ((selectedTargets casefold (indexOf graph) active).map (·.nodeId)) _ :=
    starts_of_selected hdistinct hkinds active
  have hnode := walk_nodes (hstarts.mem start hstart) hsimple.walk n (List.dropLast_subset _ hn)
  refine haway n hn ?_
  rw [selectedTargets, List.take_of_length_le hfits, mem_targetNodes]
  exact ⟨hnode, hkind⟩

/-- The provenance of the nodes and edges below. -/
def reviewed : List GraphProvenance := [⟨"engagement-evidence", "record-1", ""⟩]

def host : GraphNode :=
  ⟨"gr-2381f5902d2ced6c97ad5daa1a52bd9aaa8ba3dac5948c978eae602381a77b5e", .asset, "host", "host", reviewed, [], by decide +kernel, List.nodup_nil⟩

def vault : GraphNode :=
  ⟨"gr-f5b49fa24905fa260e66b283b0e79ba78653e95beae80f5c4ccd34fd747a9db0", .criticalAsset, "vault", "vault", reviewed, [], by decide +kernel, List.nodup_nil⟩

def ledger : GraphNode :=
  ⟨"gr-5e342cbda4e8e4edf6cce78df5ada927cb73c0179cb9aedf22b079bd9f8f80e5", .criticalAsset, "ledger", "ledger", reviewed, [], by decide +kernel,
    List.nodup_nil⟩

def administersVault : GraphEdge :=
  ⟨"gr-3611320b56297a879d3c9c3deae54004ebefe2f1dcb7ecde5530d05c8a7f04bf", host.nodeId,
    vault.nodeId, "administers", .observed, reviewed, []⟩

def backsUpLedger : GraphEdge :=
  ⟨"gr-b13f05c3f9f2c7eb98e803aee071f66f2c9b955ff498baaf0698b9d2c4602808", vault.nodeId,
    ledger.nodeId, "backs-up", .observed, reviewed, []⟩

theorem created_host : Created host := ⟨id, .asset, "host", "host", reviewed, [], by decide +kernel⟩

theorem created_vault : Created vault :=
  ⟨id, .criticalAsset, "vault", "vault", reviewed, [], by decide +kernel⟩

theorem created_ledger : Created ledger :=
  ⟨id, .criticalAsset, "ledger", "ledger", reviewed, [], by decide +kernel⟩

/-- A host that administers a vault. -/
def vaultGraph : GraphSnapshot where
  nodes := [host, vault]
  edges := [administersVault]
  created := List.forall_mem_cons.mpr ⟨created_host, List.forall_mem_singleton.mpr created_vault⟩

/-- The vault backs a ledger up, and both are critical. -/
def ledgerGraph : GraphSnapshot where
  nodes := [host, ledger, vault]
  edges := [administersVault, backsUpLedger]
  created := List.forall_mem_cons.mpr ⟨created_host,
    List.forall_mem_cons.mpr ⟨created_ledger, List.forall_mem_singleton.mpr created_vault⟩⟩

/-- An atlas of one target. -/
def oneTarget : AttackPathAtlasLimits := ⟨128, 1, 6, 512, 20000, by omega⟩

/-- With room for one target, the ledger, the atlas lists a path through the vault. -/
theorem ledger_through_vault :
    ∃ a, buildCrossDomainAttackPathAtlas id id ledgerGraph [.asset] [] (some oneTarget) = .ok a ∧
      a.truncationReasons = [targetCeilingReason] ∧
      a.paths.map (·.nodeIds) = [[host.nodeId, vault.nodeId, ledger.nodeId]] ∧
      ¬ReviewsPaths (indexOf ledgerGraph) [] (selectedStarts id (indexOf ledgerGraph) [.asset]
        oneTarget) oneTarget a := by
  have hrun : (buildCrossDomainAttackPathAtlas id id ledgerGraph [.asset] []
      (some oneTarget)).toOption.map (fun a => (a.truncationReasons, a.paths.map (·.nodeIds))) =
      some ([targetCeilingReason], [[host.nodeId, vault.nodeId, ledger.nodeId]]) := by
    decide +kernel
  obtain ⟨a, ha, hread⟩ := Option.map_eq_some_iff.mp hrun
  obtain ⟨hreasons, hpaths⟩ := Prod.mk.inj hread
  refine ⟨a, eq_ok_of_toOption ha, hreasons, hpaths, fun h => ?_⟩
  obtain ⟨r, hr, hnodes⟩ : ∃ r ∈ a.paths, r.nodeIds = [host.nodeId, vault.nodeId, ledger.nodeId] :=
    List.mem_map.mp (hpaths ▸ List.mem_singleton_self _)
  obtain ⟨p, ⟨start, hstart, target, hsimple, -, haway⟩, hrecord⟩ := h.only r hr
  have hids := (atlasPath_eq_ok hrecord).2.2.symm.trans hnodes
  have hstart' : start ∈ (indexOf ledgerGraph).nodes := by
    have hin := (orderedNodes_perm id _).mem_iff.mp (List.mem_of_mem_take hstart)
    exact List.mem_of_mem_filter hin
  have hmem := walk_nodes hstart' hsimple.walk
  have hvault : vault ∈ p.nodes.dropLast := by
    obtain ⟨n, rest, hcons, -, hrest⟩ := List.map_eq_cons_iff.mp hids
    obtain ⟨m, rest', rfl, hm, hlast⟩ := List.map_eq_cons_iff.mp hrest
    obtain ⟨k, rest'', rfl, -, hnil⟩ := List.map_eq_cons_iff.mp hlast
    obtain rfl := List.map_eq_nil_iff.mp hnil
    rw [hcons] at hmem ⊢
    have hin : m ∈ [host, ledger, vault] := hmem m (by simp only [List.mem_cons, true_or, or_true])
    have hinjective : ([host, ledger, vault].map (·.nodeId)).Nodup := by decide +kernel
    obtain rfl : m = vault := List.inj_on_of_nodup_map hinjective hin
      (by simp only [List.mem_cons, true_or, or_true]) hm
    exact List.mem_cons_of_mem _ (List.mem_singleton_self _)
  exact haway vault hvault rfl

theorem vaultGraph_reviewed :
    ∃ a, buildCrossDomainAttackPathAtlas id id vaultGraph [.asset] [] none = .ok a ∧
      ReviewsPaths (indexOf vaultGraph) [] (selectedStarts id (indexOf vaultGraph) [.asset] .default)
        .default a := by
  have hrun : (buildCrossDomainAttackPathAtlas id id vaultGraph [.asset] []
      none).toOption.isSome = true := by
    decide +kernel
  obtain ⟨a, ha⟩ := Option.isSome_iff_exists.mp hrun
  have hhash : PathIdsDiffer vaultGraph := by
    have hsingle : ∀ ids : List String, ids ⊆ vaultGraph.edges.map (·.edgeId) → ids.Nodup →
        ∀ i, pathId ids = .ok i → ids = [administersVault.edgeId] := by
      intro ids hsub hnodup i hid
      cases ids with
      | nil => cases hid
      | cons e rest =>
        obtain ⟨hnew, -⟩ := List.nodup_cons.mp hnodup
        obtain rfl := List.mem_singleton.mp (hsub List.mem_cons_self)
        have hrest : rest = [] := by
          refine List.eq_nil_iff_forall_not_mem.mpr fun e' he' => ?_
          obtain rfl := List.mem_singleton.mp (hsub (List.mem_cons_of_mem _ he'))
          exact hnew he'
        rw [hrest]
    intro ids ids' hsub hsub' hnodup hnodup' i hid hid'
    rw [hsingle ids hsub hnodup i hid, hsingle ids' hsub' hnodup' i hid']
  refine ⟨a, eq_ok_of_toOption ha, (atlas_reviews_paths hhash (eq_ok_of_toOption ha)).1 ?_⟩
  exact not_detour_of_fits ⟨by decide +kernel, by decide +kernel⟩ (by decide) (by decide +kernel)

end NightRecon.RedEngine.AttackPaths
