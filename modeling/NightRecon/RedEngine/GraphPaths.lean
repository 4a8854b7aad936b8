import NightRecon.Lib.Exploration
import NightRecon.Lib.Walks
import NightRecon.RedEngine.GraphIndex

/-!
# Paths through a graph

`nightrecon_red_engine/graph_path.py`: the bounded enumeration of the simple directed paths from
one node to another.

* `GraphPath` — nodes and edges in order; `IsSimplePath` — what a simple directed path is;
* `extensions` — the paths that go one edge further; `pathTree` — the forest of partial paths that
  the queue explores, shared with the atlas;
* `findIdentityGraphPaths` — the query;
* `findIdentityGraphPaths_exact` — **a result that is not truncated lists every simple path once,
  shorter ones first, and a truncated one lists simple paths within the limits**.
-/

namespace NightRecon.RedEngine.GraphPaths

open NightRecon.Lib
open NightRecon.Lib.Checks
open NightRecon.Lib.Text
open NightRecon.Lib.Walks
open NightRecon.RedEngine.GraphBuilder
open NightRecon.RedEngine.GraphIndex

/-! ## Simple paths -/

/-- Source: `graph_path.py` `GraphPath`. -/
structure GraphPath where
  nodes : List GraphNode
  edges : List GraphEdge
  deriving DecidableEq

/-- Source: `graph_path.py` `GraphPath.hop_count`. -/
def GraphPath.hopCount (p : GraphPath) : Nat := p.edges.length

/-- An edge of the graph with an allowed relationship joins two nodes of the graph. -/
def Joins (index : IdentityGraphIndex) (allowed : List String) (n : GraphNode) (e : GraphEdge)
    (m : GraphNode) : Prop :=
  e ∈ index.edges ∧ (allowed = [] ∨ e.relationship ∈ allowed) ∧ e.sourceNodeId = n.nodeId ∧
    m ∈ index.nodes ∧ e.targetNodeId = m.nodeId

/-- A directed path that meets no node twice. -/
structure IsSimplePath (index : IdentityGraphIndex) (allowed : List String)
    (start target : GraphNode) (p : GraphPath) : Prop where
  walk : Walk (Joins index allowed) start p.nodes p.edges target
  distinct : (p.nodes.map (·.nodeId)).Nodup

/-! ## The forest of partial paths -/

/-- A partial path one edge further, unless the edge leads out of the graph or back. -/
def extend (index : IdentityGraphIndex) (p : GraphPath) (e : GraphEdge) : Option GraphPath :=
  match index.node e.targetNodeId with
  | none => none
  | some next =>
      if next.nodeId ∈ p.nodes.map (·.nodeId) then none
      else some ⟨p.nodes ++ [next], p.edges ++ [e]⟩

/-- The partial paths that go one allowed edge further, in the order of the edges. -/
def extensions (index : IdentityGraphIndex) (allowed : List String) (p : GraphPath) :
    List GraphPath :=
  match p.nodes.getLast? with
  | none => []
  | some current =>
      ((index.outgoingEdges current.nodeId "").filter fun e =>
        allowed = [] ∨ e.relationship ∈ allowed).filterMap (extend index p)

/-- The last node of a partial path is one the query looks for. -/
def arrived (isTarget : GraphNode → Bool) (p : GraphPath) : Bool :=
  p.nodes.getLast?.any isTarget

/-- The forest the queue explores. -/
def pathTree (index : IdentityGraphIndex) (allowed : List String) (isTarget : GraphNode → Bool)
    (known : List GraphPath → GraphPath → Bool) : Exploration.Tree GraphPath where
  children := extensions index allowed
  level p := p.hopCount
  goal := arrived isTarget
  known := known

variable {index : IdentityGraphIndex} {allowed : List String} {isTarget : GraphNode → Bool}
  {known : List GraphPath → GraphPath → Bool}

theorem extend_eq_some {p q : GraphPath} {e : GraphEdge} :
    extend index p e = some q ↔ ∃ next, index.node e.targetNodeId = some next ∧
      next.nodeId ∉ p.nodes.map (·.nodeId) ∧ q = ⟨p.nodes ++ [next], p.edges ++ [e]⟩ := by
  unfold extend
  cases index.node e.targetNodeId with
  | none => simp only [reduceCtorEq, false_and, exists_false]
  | some next =>
    dsimp only
    by_cases hback : next.nodeId ∈ p.nodes.map (·.nodeId)
    · rw [if_pos hback]
      simp only [reduceCtorEq, Option.some.injEq, exists_eq_left', hback, not_true_eq_false,
        false_and]
    · rw [if_neg hback]
      simp only [Option.some.injEq, exists_eq_left', hback, not_false_eq_true, true_and,
        eq_comm (a := q)]

/-- **The partial paths one step further.** -/
theorem mem_extensions (hdistinct : index.Distinct) {p q : GraphPath} {current : GraphNode}
    (hlast : p.nodes.getLast? = some current) :
    q ∈ extensions index allowed p ↔ ∃ e next, Joins index allowed current e next ∧
      next.nodeId ∉ p.nodes.map (·.nodeId) ∧ q = ⟨p.nodes ++ [next], p.edges ++ [e]⟩ := by
  unfold extensions
  rw [hlast]
  simp only [List.mem_filterMap, List.mem_filter, decide_eq_true_eq, extend_eq_some,
    IdentityGraphIndex.mem_outgoingEdges, true_or, and_true, IdentityGraphIndex.node_eq_some hdistinct]
  constructor
  · rintro ⟨e, ⟨⟨hedge, hsource⟩, hallowed⟩, next, ⟨hnext, htarget⟩, hnew, rfl⟩
    exact ⟨e, next, ⟨hedge, hallowed, hsource, hnext, htarget.symm⟩, hnew, rfl⟩
  · rintro ⟨e, next, ⟨hedge, hallowed, hsource, hnext, htarget⟩, hnew, rfl⟩
    exact ⟨e, ⟨⟨hedge, hsource⟩, hallowed⟩, next, ⟨hnext, htarget.symm⟩, hnew, rfl⟩

/-- A partial path is its parent with a node and an edge more. -/
theorem eq_of_mem_extensions {p q : GraphPath} (h : q ∈ extensions index allowed p) :
    ∃ e next, q = ⟨p.nodes ++ [next], p.edges ++ [e]⟩ := by
  unfold extensions at h
  cases hlast : p.nodes.getLast? with
  | none =>
    rw [hlast] at h
    exact absurd h List.not_mem_nil
  | some current =>
    rw [hlast] at h
    obtain ⟨e, -, hextend⟩ := List.mem_filterMap.mp h
    obtain ⟨next, -, -, rfl⟩ := extend_eq_some.mp hextend
    exact ⟨e, next, rfl⟩

/-- Differing edges give differing partial paths. -/
theorem extensions_nodup (hdistinct : index.Distinct) (p : GraphPath) :
    (extensions index allowed p).Nodup := by
  unfold extensions
  cases p.nodes.getLast? with
  | none => exact List.nodup_nil
  | some current =>
    have hedges : index.edges.Nodup := List.Nodup.of_map _ hdistinct.edges
    refine ((hedges.filter _).filter _).filterMap ?_
    intro e e' q hq hq'
    obtain ⟨_, -, -, rfl⟩ := extend_eq_some.mp (Option.mem_def.mp hq)
    obtain ⟨_, -, -, heq⟩ := extend_eq_some.mp (Option.mem_def.mp hq')
    exact List.head_eq_of_cons_eq (List.append_inj' (congrArg GraphPath.edges heq) rfl).2

theorem parent_unique {p p' q : GraphPath} (h : q ∈ extensions index allowed p)
    (h' : q ∈ extensions index allowed p') : p = p' := by
  obtain ⟨_, _, rfl⟩ := eq_of_mem_extensions h
  obtain ⟨_, _, heq⟩ := eq_of_mem_extensions h'
  have hnodes := (List.append_inj' (congrArg GraphPath.nodes heq) rfl).1
  have hedges := (List.append_inj' (congrArg GraphPath.edges heq) rfl).1
  cases p
  cases p'
  simp only at hnodes hedges
  rw [hnodes, hedges]

/-! ## Partial paths and simple paths -/

/-- The partial path of one node. -/
def GraphPath.single (start : GraphNode) : GraphPath := ⟨[start], []⟩

theorem nodup_concat {ns : List GraphNode} {n : GraphNode} :
    ((ns ++ [n]).map (·.nodeId)).Nodup ↔
      (ns.map (·.nodeId)).Nodup ∧ n.nodeId ∉ ns.map (·.nodeId) := by
  rw [List.map_append, List.map_singleton, List.nodup_append]
  constructor
  · rintro ⟨hns, -, hne⟩
    exact ⟨hns, fun hin => hne _ hin _ (List.mem_singleton_self _) rfl⟩
  · rintro ⟨hns, hnew⟩
    refine ⟨hns, List.nodup_singleton _, ?_⟩
    intro a ha b hb hab
    rw [hab, List.mem_singleton.mp hb] at ha
    exact hnew ha

/-- A partial path below the start that the queue holds: simple, and not at a target yet. -/
structure Partial (index : IdentityGraphIndex) (allowed : List String)
    (isTarget : GraphNode → Bool) (start last : GraphNode) (p : GraphPath) : Prop where
  simple : IsSimplePath index allowed start last p
  away : ∀ n ∈ p.nodes, isTarget n = false

theorem partial_of_open (hdistinct : index.Distinct) {start : GraphNode}
    (hstart : isTarget start = false) {p : GraphPath}
    (h : Exploration.Open (pathTree index allowed isTarget known) (.single start) p) :
    ∃ last, Partial index allowed isTarget start last p := by
  induction h with
  | root =>
    refine ⟨start, ⟨.start, List.nodup_singleton _⟩, ?_⟩
    intro n hn
    rw [List.mem_singleton.mp hn]
    exact hstart
  | child _ hchild hgoal ih =>
    obtain ⟨last, ⟨hwalk, hnodup⟩, haway⟩ := ih
    obtain ⟨e, next, hjoins, hnew, rfl⟩ := (mem_extensions hdistinct hwalk.getLast?).mp hchild
    refine ⟨next, ⟨hwalk.snoc hjoins, nodup_concat.mpr ⟨hnodup, hnew⟩⟩, ?_⟩
    intro n hn
    rcases List.mem_append.mp hn with hn | hn
    · exact haway n hn
    · rw [List.mem_singleton.mp hn]
      have harrived : ((_ : List GraphNode) ++ [next]).getLast?.any isTarget = false := hgoal
      rw [List.getLast?_concat] at harrived
      exact harrived

theorem open_of_partial (hdistinct : index.Distinct) {start last : GraphNode} {p : GraphPath}
    (h : Partial index allowed isTarget start last p) :
    Exploration.Open (pathTree index allowed isTarget known) (.single start) p := by
  obtain ⟨ns, es⟩ := p
  obtain ⟨⟨hwalk, hnodup⟩, haway⟩ := h
  dsimp only at hwalk hnodup haway
  induction hwalk with
  | start => exact .root
  | snoc hwalk hjoins ih =>
    obtain ⟨hnodup, hnew⟩ := nodup_concat.mp hnodup
    have hopen := ih (fun n hn => haway n (List.mem_append_left _ hn)) hnodup
    refine hopen.child ?_ ?_
    · exact (mem_extensions hdistinct hwalk.getLast?).mpr ⟨_, _, hjoins, hnew, rfl⟩
    · show ((_ : List GraphNode) ++ [_]).getLast?.any isTarget = false
      rw [List.getLast?_concat]
      exact haway _ (List.mem_append_right _ (List.mem_singleton_self _))

/-- **The goals of the forest** are the simple paths to a target with no target before its end. -/
theorem goal_iff (hdistinct : index.Distinct) {start : GraphNode} (hstart : isTarget start = false)
    {q : GraphPath} :
    Exploration.Goal (pathTree index allowed isTarget known) (.single start) q ↔
      ∃ target, IsSimplePath index allowed start target q ∧ isTarget target = true ∧
        ∀ n ∈ q.nodes.dropLast, isTarget n = false := by
  constructor
  · rintro ⟨p, hopen, hchild, hgoal⟩
    obtain ⟨last, ⟨hwalk, hnodup⟩, haway⟩ := partial_of_open hdistinct hstart hopen
    obtain ⟨e, next, hjoins, hnew, rfl⟩ := (mem_extensions hdistinct hwalk.getLast?).mp hchild
    refine ⟨next, ⟨hwalk.snoc hjoins, nodup_concat.mpr ⟨hnodup, hnew⟩⟩, ?_, ?_⟩
    · have harrived : (p.nodes ++ [next]).getLast?.any isTarget = true := hgoal
      rw [List.getLast?_concat] at harrived
      exact harrived
    · show ∀ n ∈ (p.nodes ++ [next]).dropLast, isTarget n = false
      rw [List.dropLast_concat]
      exact haway
  · rintro ⟨target, ⟨hwalk, hnodup⟩, htarget, haway⟩
    obtain ⟨ns, es⟩ := q
    have hne : start ≠ target := by
      rintro rfl
      rw [hstart] at htarget
      cases htarget
    obtain ⟨ns', es', last, e, rfl, rfl, hwalk', hjoins⟩ := hwalk.last_step hne
    rw [List.dropLast_concat] at haway
    obtain ⟨hnodup', hnew⟩ := nodup_concat.mp hnodup
    refine ⟨⟨ns', es'⟩, open_of_partial hdistinct ⟨⟨hwalk', hnodup'⟩, haway⟩, ?_, ?_⟩
    · exact (mem_extensions hdistinct hwalk'.getLast?).mpr ⟨e, target, hjoins, hnew, rfl⟩
    · show (ns' ++ [target]).getLast?.any isTarget = true
      rw [List.getLast?_concat]
      exact htarget

/-- The forest of partial paths below starts that are no targets. -/
theorem pathTree_isForest (hdistinct : index.Distinct) {roots : GraphPath → Prop}
    (hknown : ∀ found q, (∀ r ∈ found, ∃ root, roots root ∧
        Exploration.Goal (pathTree index allowed isTarget known) root r) →
      (∃ root, roots root ∧ Exploration.Goal (pathTree index allowed isTarget known) root q) →
        known found q = true → q ∈ found) :
    Exploration.IsForest (pathTree index allowed isTarget known) roots where
  level_child := by
    intro p q hq
    obtain ⟨e, next, rfl⟩ := eq_of_mem_extensions hq
    exact List.length_append
  children_nodup := extensions_nodup hdistinct
  parent := fun _ _ _ => parent_unique
  known_found := hknown

/-! ## The query -/

/-- Source: `graph_path.py` `GraphPathLimits`. -/
structure GraphPathLimits where
  maxDepth : Nat
  maxPaths : Nat
  maxExpansions : Nat
  maxDepth_pos : 1 ≤ maxDepth
  maxPaths_pos : 1 ≤ maxPaths
  maxExpansions_pos : 1 ≤ maxExpansions

/-- The limits of a query that gives none. -/
def GraphPathLimits.default : GraphPathLimits where
  maxDepth := 6
  maxPaths := 128
  maxExpansions := 10000
  maxDepth_pos := by omega
  maxPaths_pos := by omega
  maxExpansions_pos := by omega

/-- Source: `graph_path.py` `GraphPathLimits.__post_init__`. -/
def GraphPathLimits.make (maxDepth maxPaths maxExpansions : Int) : Py GraphPathLimits := do
  let depth ← atLeastOne maxDepth "max_depth must be at least 1"
  let paths ← atLeastOne maxPaths "max_paths must be at least 1"
  let expansions ← atLeastOne maxExpansions "max_expansions must be at least 1"
  return ⟨depth.1, paths.1, expansions.1, depth.2, paths.2, expansions.2⟩

/-- Source: `graph_path.py` `GraphPathQueryResult`. -/
structure GraphPathQueryResult where
  startNodeId : String
  targetNodeId : String
  paths : List GraphPath
  truncated : Bool

/-- The relationships a query follows, in normal form; none stands for all. -/
def allowedRelationships (lower : String → String) (relationships : List String) : List String :=
  (relationships.filter fun item => strip item ≠ "").map fun item => lower (strip item)

/-- The loop over the queue. -/
def enumerate (index : IdentityGraphIndex) (allowed : List String) (limits : GraphPathLimits)
    (start target : GraphNode) : Exploration.State GraphPath :=
  Exploration.explore
    (pathTree index allowed (fun n => n.nodeId = target.nodeId) fun _ _ => false)
    ⟨limits.maxDepth, limits.maxPaths, limits.maxExpansions⟩ limits.maxExpansions
    ⟨[.single start], [], [], 0, false⟩

/-- Source: `graph_path.py` `find_identity_graph_paths`. -/
def findIdentityGraphPaths (lower : String → String) (graph : IdentityGraphIndex)
    (startNodeId targetNodeId : String) (relationships : List String)
    (limits : Option GraphPathLimits) : Py GraphPathQueryResult :=
  let activeLimits := limits.getD .default
  match graph.node startNodeId, graph.node targetNodeId with
  | none, _ => .error (valueError ("start node is missing from graph: " ++ startNodeId))
  | some _, none => .error (valueError ("target node is missing from graph: " ++ targetNodeId))
  | some start, some target =>
      if start.nodeId = target.nodeId then
        .ok ⟨start.nodeId, target.nodeId, [.single start], false⟩
      else
        let s := enumerate graph (allowedRelationships lower relationships) activeLimits start target
        .ok ⟨start.nodeId, target.nodeId, s.found, s.cuts ≠ []⟩

/-- The goals of the query's forest are the simple paths to its target. -/
theorem goal_target_iff (hdistinct : index.Distinct) {start target : GraphNode}
    (hne : start.nodeId ≠ target.nodeId) (htarget : target ∈ index.nodes) {q : GraphPath} :
    Exploration.Goal (pathTree index allowed (fun n => n.nodeId = target.nodeId) known)
      (.single start) q ↔ IsSimplePath index allowed start target q := by
  have hstart : decide (start.nodeId = target.nodeId) = false := decide_eq_false hne
  rw [goal_iff hdistinct hstart]
  constructor
  · rintro ⟨last, hsimple, hlast, -⟩
    have hid : last.nodeId = target.nodeId := of_decide_eq_true hlast
    have hmem : last ∈ index.nodes := by
      obtain ⟨_, _, _, _, -, -, -, hjoins⟩ := hsimple.walk.last_step (by
        rintro rfl
        exact hne hid)
      exact hjoins.2.2.2.1
    rwa [List.inj_on_of_nodup_map hdistinct.nodes hmem htarget hid] at hsimple
  · intro hsimple
    refine ⟨target, hsimple, decide_eq_true rfl, fun n hn => decide_eq_false fun hid => ?_⟩
    obtain ⟨ns, _, _, _, hnodes, -, -, -⟩ := hsimple.walk.last_step (by
      rintro rfl
      exact hne rfl)
    have hnodup := hsimple.distinct
    rw [hnodes] at hn hnodup
    rw [List.dropLast_concat] at hn
    exact (nodup_concat.mp hnodup).2 (hid ▸ List.mem_map_of_mem hn)

/-- **The loop finds simple paths to the target, each once, and without a cut all of them.** -/
theorem enumerate_spec (hdistinct : index.Distinct) (limits : GraphPathLimits)
    {start target : GraphNode} (hne : start.nodeId ≠ target.nodeId)
    (htarget : target ∈ index.nodes) {s : Exploration.State GraphPath}
    (hs : enumerate index allowed limits start target = s) :
    (∀ p ∈ s.found, IsSimplePath index allowed start target p ∧ p.hopCount ≤ limits.maxDepth) ∧
      s.found.Nodup ∧ s.found.length ≤ limits.maxPaths ∧
      (s.found.Pairwise fun p q => p.hopCount ≤ q.hopCount) ∧
      (s.cuts = [] → ∀ p, IsSimplePath index allowed start target p → p ∈ s.found) := by
  have hforest : Exploration.IsForest (pathTree index allowed
      (fun n => n.nodeId = target.nodeId) fun _ _ => false) fun root => root = .single start := by
    refine pathTree_isForest hdistinct ?_
    intro found q _ _ hfalse
    cases hfalse
  obtain ⟨new, hfound, hgoals, hsorted, hnodup, hlength, -, hall⟩ :=
    Exploration.explore_spec (l := ⟨limits.maxDepth, limits.maxPaths, limits.maxExpansions⟩)
      hforest (s := ⟨[.single start], [], [], 0, false⟩)
      ⟨rfl, fun _ h => absurd h List.not_mem_nil, fun _ _ => List.not_mem_nil⟩ rfl rfl
      List.nodup_nil (Nat.zero_le _) limits.maxExpansions
  change (enumerate index allowed limits start target).found = [] ++ new at hfound
  change (enumerate index allowed limits start target).found.Nodup at hnodup
  change (enumerate index allowed limits start target).found.length ≤ _ at hlength
  change (enumerate index allowed limits start target).cuts = [] → _ at hall
  rw [hs] at hfound hnodup hlength hall
  rw [List.nil_append] at hfound
  subst hfound
  refine ⟨fun p hp => ?_, hnodup, hlength, hsorted, fun hnone p hp => ?_⟩
  · obtain ⟨hgoal, hlevel⟩ := hgoals p hp
    exact ⟨(goal_target_iff hdistinct hne htarget).mp hgoal, hlevel⟩
  · exact hall hnone p ((goal_target_iff hdistinct hne htarget).mpr hp)

variable {graph : IdentityGraphIndex}

/-- **Path discovery is exact**: between two different nodes of a graph the query returns simple
paths over allowed relationships, each once, shorter ones first and within the limits; and every
such path, of any length, when the result is not truncated. -/
theorem findIdentityGraphPaths_exact (lower : String → String) (hdistinct : graph.Distinct)
    {start target : GraphNode} (hstart : start ∈ graph.nodes) (htarget : target ∈ graph.nodes)
    (hne : start.nodeId ≠ target.nodeId) (relationships : List String)
    (limits : Option GraphPathLimits) :
    ∃ r, findIdentityGraphPaths lower graph start.nodeId target.nodeId relationships limits =
        .ok r ∧
      (∀ p ∈ r.paths, IsSimplePath graph (allowedRelationships lower relationships) start target p ∧
        p.hopCount ≤ (limits.getD .default).maxDepth) ∧
      r.paths.Nodup ∧ r.paths.length ≤ (limits.getD .default).maxPaths ∧
      (r.paths.Pairwise fun p q => p.hopCount ≤ q.hopCount) ∧
      (r.truncated = false → ∀ p,
        IsSimplePath graph (allowedRelationships lower relationships) start target p →
          p ∈ r.paths) := by
  have hstart' : graph.node start.nodeId = some start :=
    (IdentityGraphIndex.node_eq_some hdistinct).mpr ⟨hstart, rfl⟩
  have htarget' : graph.node target.nodeId = some target :=
    (IdentityGraphIndex.node_eq_some hdistinct).mpr ⟨htarget, rfl⟩
  let allowed := allowedRelationships lower relationships
  have hloop : enumerate graph allowed (limits.getD .default) start target = _ := rfl
  obtain ⟨hpaths, hnodup, hlength, hsorted, hall⟩ :=
    enumerate_spec hdistinct (limits.getD .default) hne htarget hloop
  unfold findIdentityGraphPaths
  rw [hstart', htarget']
  dsimp only
  rw [if_neg hne]
  refine ⟨_, rfl, hpaths, hnodup, hlength, hsorted, fun hwhole => hall ?_⟩
  exact Decidable.not_not.mp (of_decide_eq_false hwhole)

/-- An asset that an inventory lists. -/
def listedAsset (nodeId address : String) (h : strip nodeId = nodeId) : GraphNode :=
  ⟨nodeId, .asset, address, address, [⟨"inventory", "scan-1", ""⟩], [], h, List.nodup_nil⟩

/-- Two assets, each of which administers the other. -/
def administeredPair : IdentityGraphIndex where
  nodes := [listedAsset "gr-a" "10.0.0.5" (by decide +kernel),
    listedAsset "gr-b" "10.0.0.6" (by decide +kernel)]
  edges := [⟨"gr-ab", "gr-a", "gr-b", "administers", .observed, [⟨"inventory", "scan-1", ""⟩], []⟩,
    ⟨"gr-ba", "gr-b", "gr-a", "administers", .observed, [⟨"inventory", "scan-1", ""⟩], []⟩]

theorem administeredPair_paths :
    ∃ r, findIdentityGraphPaths id administeredPair "gr-a" "gr-b" ["administers"] none = .ok r ∧
      r.paths.Nodup ∧ (r.truncated = false → ∀ p, IsSimplePath administeredPair ["administers"]
        (listedAsset "gr-a" "10.0.0.5" (by decide +kernel))
        (listedAsset "gr-b" "10.0.0.6" (by decide +kernel)) p → p ∈ r.paths) := by
  have hallowed : allowedRelationships id ["administers"] = ["administers"] := by decide +kernel
  have hdistinct : administeredPair.Distinct := ⟨by decide, by decide⟩
  obtain ⟨r, hr, -, hnodup, -, -, hall⟩ := findIdentityGraphPaths_exact id hdistinct
    List.mem_cons_self (List.mem_cons_of_mem _ (List.mem_singleton_self _)) (by decide)
    ["administers"] none
  rw [hallowed] at hall
  exact ⟨r, hr, hnodup, hall⟩

end NightRecon.RedEngine.GraphPaths
