import Mathlib.Data.Finset.Card
import Mathlib.Data.Finset.Union
import Mathlib.Data.List.Nodup
import Mathlib.Logic.Relation

/-!
# Breadth-first traversal by layers

Items have keys, and a key has a list of neighbours.  A traversal keeps the items it has met in the
order in which it met them and goes from one layer to the next, to a depth and to a number of items
at most.

* `ball` — the keys at most so many steps away; `AtDistance`; `mem_ball_iff_reachable` — the balls
  together are what can be reached;
* `visit`, `expand`, `traverse` — one neighbour, one layer, the whole traversal;
* `expand_spec` — what one layer adds;
* `Outcome`, `traverse_outcome` — **a traversal ends with the item ceiling, with nothing left to
  visit, or at the depth limit**, and in each case it has visited a ball, up to the last layer.
-/

namespace NightRecon.Lib.Layers

variable {α κ : Type} [DecidableEq κ] (key : α → κ) (near : κ → List α)

/-! ## Balls -/

/-- The keys at most `d` steps from a key. -/
def ball (k : κ) : Nat → Finset κ
  | 0 => {k}
  | d + 1 => ball k d ∪ (ball k d).biUnion fun j => ((near j).map key).toFinset

/-- The key is `d` steps away and no fewer. -/
def AtDistance (k : κ) (d : Nat) (j : κ) : Prop :=
  j ∈ ball key near k d ∧ ∀ i < d, j ∉ ball key near k i

/-- One step leads from a key to a key. -/
def Adjacent (j k : κ) : Prop := k ∈ (near j).map key

variable {key near} {k j : κ} {d d' : Nat}

theorem mem_ball_succ :
    j ∈ ball key near k (d + 1) ↔
      j ∈ ball key near k d ∨ ∃ i ∈ ball key near k d, Adjacent key near i j := by
  rw [ball, Finset.mem_union, Finset.mem_biUnion]
  simp only [List.mem_toFinset, Adjacent]

theorem self_mem_ball (k : κ) (d : Nat) : k ∈ ball key near k d := by
  induction d with
  | zero => exact Finset.mem_singleton_self k
  | succ d ih => exact mem_ball_succ.mpr (Or.inl ih)

theorem ball_subset_succ : ball key near k d ⊆ ball key near k (d + 1) :=
  fun _ hj => mem_ball_succ.mpr (Or.inl hj)

theorem ball_mono (h : d ≤ d') : ball key near k d ⊆ ball key near k d' := by
  induction h with
  | refl => exact Finset.Subset.refl _
  | step _ ih => exact Finset.Subset.trans ih ball_subset_succ

/-- **The balls together are what can be reached.** -/
theorem mem_ball_iff_reachable :
    Relation.ReflTransGen (Adjacent key near) k j ↔ ∃ d, j ∈ ball key near k d := by
  constructor
  · intro h
    induction h with
    | refl => exact ⟨0, self_mem_ball k 0⟩
    | tail _ hstep ih =>
      obtain ⟨d, hd⟩ := ih
      exact ⟨d + 1, mem_ball_succ.mpr (Or.inr ⟨_, hd, hstep⟩)⟩
  · rintro ⟨d, hd⟩
    induction d generalizing j with
    | zero => rw [Finset.mem_singleton.mp hd]
    | succ d ih =>
      rcases mem_ball_succ.mp hd with hd | ⟨i, hi, hstep⟩
      · exact ih hd
      · exact (ih hi).tail hstep

/-- A layer without anything new is the last one. -/
theorem ball_eq_of_closed (h : ball key near k (d + 1) = ball key near k d) :
    ∀ d', ball key near k d' ⊆ ball key near k d := by
  intro d'
  induction d' with
  | zero => exact ball_mono (Nat.zero_le d)
  | succ d' ih =>
    intro j hj
    rcases mem_ball_succ.mp hj with hj | ⟨i, hi, hstep⟩
    · exact ih hj
    · rw [← h]
      exact mem_ball_succ.mpr (Or.inr ⟨i, ih hi, hstep⟩)

/-- What is one layer further is next to the layer. -/
theorem atDistance_succ :
    AtDistance key near k (d + 1) j ↔ j ∉ ball key near k d ∧
      ∃ i, AtDistance key near k d i ∧ Adjacent key near i j := by
  constructor
  · rintro ⟨hin, hout⟩
    have hnew := hout d (Nat.lt_succ_self d)
    refine ⟨hnew, ?_⟩
    rcases mem_ball_succ.mp hin with hold | ⟨i, hi, hstep⟩
    · exact absurd hold hnew
    · refine ⟨i, ⟨hi, fun e he hie => hout (e + 1) (Nat.succ_lt_succ he) ?_⟩, hstep⟩
      exact mem_ball_succ.mpr (Or.inr ⟨i, hie, hstep⟩)
  · rintro ⟨hnew, i, ⟨hi, -⟩, hstep⟩
    refine ⟨mem_ball_succ.mpr (Or.inr ⟨i, hi, hstep⟩), fun e he hje => hnew ?_⟩
    exact ball_mono (Nat.le_of_lt_succ he) hje

/-! ## The traversal -/

/-- One layer under way: what has been met, what was new, and whether the ceiling was met. -/
structure Layer (α : Type) where
  ordered : List α
  next : List α
  full : Bool

structure Result (α : Type) where
  visited : List α
  depthReached : Nat
  truncated : Bool

variable (key near)

/-- One neighbour; after the ceiling nothing is visited any more. -/
def visit (maxNodes : Nat) (s : Layer α) (a : α) : Layer α :=
  if s.full then s
  else if key a ∈ s.ordered.map key then s
  else if maxNodes ≤ s.ordered.length then { s with full := true }
  else { s with ordered := s.ordered ++ [a], next := s.next ++ [a] }

/-- The neighbours of a layer. -/
def around (frontier : List α) : List α := frontier.flatMap fun a => near (key a)

def expand (maxNodes : Nat) (frontier ordered : List α) : Layer α :=
  (around key near frontier).foldl (visit key maxNodes) ⟨ordered, [], false⟩

/-- The traversal from a layer; `fuel` is the number of layers that are left. -/
def traverse (maxNodes : Nat) : Nat → List α → List α → Nat → Result α
  | 0, frontier, ordered, depth =>
      ⟨ordered, depth, (around key near frontier).any fun a => key a ∉ ordered.map key⟩
  | fuel + 1, frontier, ordered, depth =>
      let s := expand key near maxNodes frontier ordered
      if s.full then ⟨s.ordered, depth, true⟩
      else if s.next = [] then ⟨s.ordered, depth, false⟩
      else traverse maxNodes fuel s.next s.ordered (depth + 1)

variable {key near}

/-! ## One layer -/

/-- What the neighbours `seen` so far have added to the items `ordered`. -/
structure Visited (key : α → κ) (maxNodes : Nat) (ordered seen : List α) (s : Layer α) :
    Prop where
  grows : s.ordered = ordered ++ s.next
  nodup : (s.ordered.map key).Nodup
  length : s.ordered.length ≤ maxNodes
  added : ∀ a ∈ s.next, a ∈ seen ∧ key a ∉ ordered.map key
  whole : s.full = false → ∀ a ∈ seen, key a ∈ s.ordered.map key
  beyond : s.full = true → s.ordered.length = maxNodes ∧ ∃ a ∈ seen, key a ∉ s.ordered.map key

theorem Visited.visit {maxNodes : Nat} {ordered seen : List α} {s : Layer α}
    (h : Visited key maxNodes ordered seen s) (a : α) :
    Visited key maxNodes ordered (seen ++ [a]) (visit key maxNodes s a) := by
  have hadded : ∀ b ∈ s.next, b ∈ seen ++ [a] ∧ key b ∉ ordered.map key := by
    intro b hb
    exact ⟨List.mem_append_left _ (h.added b hb).1, (h.added b hb).2⟩
  unfold Layers.visit
  by_cases hfull : s.full = true
  · rw [if_pos hfull]
    refine ⟨h.grows, h.nodup, h.length, hadded, fun hopen => ?_, fun _ => ?_⟩
    · rw [hfull] at hopen
      cases hopen
    · obtain ⟨hlength, b, hb, hnew⟩ := h.beyond hfull
      exact ⟨hlength, b, List.mem_append_left _ hb, hnew⟩
  rw [if_neg hfull]
  have hopen : s.full = false := eq_false_of_ne_true hfull
  by_cases hmet : key a ∈ s.ordered.map key
  · rw [if_pos hmet]
    refine ⟨h.grows, h.nodup, h.length, hadded, fun _ b hb => ?_, fun hover => absurd hover hfull⟩
    rcases List.mem_append.mp hb with hb | hb
    · exact h.whole hopen b hb
    · rwa [List.mem_singleton.mp hb]
  rw [if_neg hmet]
  by_cases hroom : maxNodes ≤ s.ordered.length
  · rw [if_pos hroom]
    refine ⟨h.grows, h.nodup, h.length, hadded, fun hno => ?_, fun _ => ?_⟩
    · cases hno
    · exact ⟨Nat.le_antisymm h.length hroom, a, List.mem_append_right _ (List.mem_singleton_self a),
        hmet⟩
  rw [if_neg hroom]
  refine ⟨?_, ?_, ?_, ?_, ?_, fun hover => absurd hover hfull⟩
  · show s.ordered ++ [a] = ordered ++ (s.next ++ [a])
    rw [h.grows, List.append_assoc]
  · show ((s.ordered ++ [a]).map key).Nodup
    rw [List.map_append, List.map_singleton, List.nodup_append]
    refine ⟨h.nodup, List.nodup_singleton _, ?_⟩
    intro i hi i' hi' heq
    rw [heq, List.mem_singleton.mp hi'] at hi
    exact hmet hi
  · show (s.ordered ++ [a]).length ≤ maxNodes
    rw [List.length_append]
    exact Nat.lt_of_not_le hroom
  · intro b hb
    rcases List.mem_append.mp hb with hb | hb
    · exact hadded b hb
    · rw [List.mem_singleton.mp hb]
      refine ⟨List.mem_append_right _ (List.mem_singleton_self a), fun hin => hmet ?_⟩
      rw [h.grows, List.map_append]
      exact List.mem_append_left _ hin
  · intro _ b hb
    show key b ∈ (s.ordered ++ [a]).map key
    rw [List.map_append]
    rcases List.mem_append.mp hb with hb | hb
    · exact List.mem_append_left _ (h.whole hopen b hb)
    · rw [List.mem_singleton.mp hb]
      exact List.mem_append_right _ (List.mem_singleton_self _)

/-- **What one layer adds.** -/
theorem expand_spec {maxNodes : Nat} {frontier ordered : List α} (hnodup : (ordered.map key).Nodup)
    (hlength : ordered.length ≤ maxNodes) :
    Visited key maxNodes ordered (around key near frontier)
      (expand key near maxNodes frontier ordered) := by
  have hrun : ∀ (rest seen : List α) (s : Layer α), Visited key maxNodes ordered seen s →
      Visited key maxNodes ordered (seen ++ rest) (rest.foldl (Layers.visit key maxNodes) s) := by
    intro rest
    induction rest with
    | nil =>
      intro seen s h
      rwa [List.append_nil]
    | cons a rest ih =>
      intro seen s h
      have hrest := ih (seen ++ [a]) _ (h.visit a)
      rwa [List.append_assoc, List.singleton_append] at hrest
  refine hrun _ [] ⟨ordered, [], false⟩ ⟨(List.append_nil _).symm, hnodup, hlength, ?_, ?_, ?_⟩
  · exact fun _ h => absurd h List.not_mem_nil
  · exact fun _ _ h => absurd h List.not_mem_nil
  · intro h
    cases h

/-! ## The whole traversal -/

/-- The layers up to a depth have been visited, and the last of them is the frontier. -/
structure Reached (key : α → κ) (near : κ → List α) (k : κ) (maxNodes depth : Nat)
    (frontier ordered : List α) : Prop where
  nodup : (ordered.map key).Nodup
  length : ordered.length ≤ maxNodes
  visited : ∀ j, j ∈ ordered.map key ↔ j ∈ ball key near k depth
  layer : ∀ j, j ∈ frontier.map key ↔ AtDistance key near k depth j
  nonempty : frontier ≠ []
  sorted : (ordered.map key).Pairwise fun i j => ∀ d, j ∈ ball key near k d →
    i ∈ ball key near k d

variable {maxNodes depth : Nat} {frontier ordered : List α}

theorem mem_around (h : Reached key near k maxNodes depth frontier ordered) :
    (∃ a ∈ around key near frontier, key a = j) ↔
      ∃ i, AtDistance key near k depth i ∧ Adjacent key near i j := by
  unfold around Adjacent
  simp only [List.mem_flatMap, List.mem_map]
  constructor
  · rintro ⟨a, ⟨b, hb, ha⟩, rfl⟩
    exact ⟨key b, (h.layer _).mp (List.mem_map_of_mem hb), a, ha, rfl⟩
  · rintro ⟨i, hi, a, ha, rfl⟩
    obtain ⟨b, hb, rfl⟩ := List.mem_map.mp ((h.layer i).mpr hi)
    exact ⟨a, ⟨b, hb, ha⟩, rfl⟩

/-- The neighbours of the layer that are new are the next layer. -/
theorem Reached.new_iff (h : Reached key near k maxNodes depth frontier ordered) :
    (∃ a ∈ around key near frontier, key a = j) ∧ j ∉ ordered.map key ↔
      AtDistance key near k (depth + 1) j := by
  rw [mem_around h, h.visited, atDistance_succ, and_comm]

theorem Reached.card (h : Reached key near k maxNodes depth frontier ordered) :
    (ball key near k depth).card = ordered.length := by
  have heq : (ordered.map key).toFinset = ball key near k depth := by
    ext j
    rw [List.mem_toFinset, h.visited]
  rw [← heq, List.toFinset_card_of_nodup h.nodup, List.length_map]

theorem mem_ball_succ_iff :
    j ∈ ball key near k (d + 1) ↔ j ∈ ball key near k d ∨ AtDistance key near k (d + 1) j := by
  constructor
  · intro h
    by_cases hin : j ∈ ball key near k d
    · exact Or.inl hin
    · refine Or.inr ⟨h, fun i hi hj => hin ?_⟩
      exact ball_mono (Nat.le_of_lt_succ hi) hj
  · rintro (h | h)
    · exact ball_subset_succ h
    · exact h.1

theorem AtDistance.le (h : AtDistance key near k d j) (hj : j ∈ ball key near k d') : d ≤ d' := by
  by_contra hlt
  exact h.2 d' (Nat.lt_of_not_le hlt) hj

/-- What a layer has met lies in the next ball. -/
theorem Reached.met (h : Reached key near k maxNodes depth frontier ordered) {s : Layer α}
    (hs : Visited key maxNodes ordered (around key near frontier) s) :
    (∀ j, j ∈ s.ordered.map key ↔ j ∈ ordered.map key ∨ j ∈ s.next.map key) ∧
      ∀ j ∈ s.next.map key, AtDistance key near k (depth + 1) j := by
  refine ⟨fun j => ?_, fun j hj => ?_⟩
  · rw [hs.grows, List.map_append, List.mem_append]
  · obtain ⟨a, ha, rfl⟩ := List.mem_map.mp hj
    exact h.new_iff.mp ⟨⟨a, (hs.added a ha).1, rfl⟩, (hs.added a ha).2⟩

/-- A layer that the ceiling did not cut meets the whole next ball. -/
theorem Reached.whole (h : Reached key near k maxNodes depth frontier ordered) {s : Layer α}
    (hs : Visited key maxNodes ordered (around key near frontier) s) (hopen : s.full = false) :
    ∀ j, j ∈ s.next.map key ↔ AtDistance key near k (depth + 1) j := by
  obtain ⟨hmet, hnext⟩ := h.met hs
  refine fun j => ⟨hnext j, fun hj => ?_⟩
  obtain ⟨⟨a, ha, rfl⟩, hnew⟩ := h.new_iff.mpr hj
  exact ((hmet _).mp (hs.whole hopen a ha)).resolve_left hnew

/-- **The next layer** is reached like the one before. -/
theorem Reached.step (h : Reached key near k maxNodes depth frontier ordered) {s : Layer α}
    (hs : Visited key maxNodes ordered (around key near frontier) s) (hopen : s.full = false)
    (hnext : s.next ≠ []) : Reached key near k maxNodes (depth + 1) s.next s.ordered := by
  have hlayer := h.whole hs hopen
  refine ⟨hs.nodup, hs.length, fun j => ?_, hlayer, hnext, ?_⟩
  · rw [(h.met hs).1, hlayer, h.visited, mem_ball_succ_iff]
  · rw [hs.grows, List.map_append, List.pairwise_append]
    refine ⟨h.sorted, List.pairwise_of_forall_mem_list fun i hi j hj d hd => ?_,
      fun i hi j hj d hd => ?_⟩
    · exact ball_mono (((hlayer j).mp hj).le hd) ((hlayer i).mp hi).1
    · have hle := ((hlayer j).mp hj).le hd
      exact ball_mono (Nat.le_of_succ_le hle) ((h.visited i).mp hi)

/-- The traversal met the item ceiling while it visited the layer after the depth it reports. -/
structure Full (key : α → κ) (near : κ → List α) (k : κ) (maxDepth maxNodes : Nat)
    (r : Result α) : Prop where
  depth : r.depthReached < maxDepth
  cut : r.truncated = true
  nodup : (r.visited.map key).Nodup
  length : r.visited.length = maxNodes
  beyond : maxNodes < (ball key near k (r.depthReached + 1)).card
  inside : ∀ j ∈ ball key near k r.depthReached, j ∈ r.visited.map key
  far : ∃ j, AtDistance key near k r.depthReached j

/-- The traversal visited a ball: the last one there is, or the one at the depth limit. -/
structure Whole (key : α → κ) (near : κ → List α) (k : κ) (maxDepth maxNodes : Nat)
    (r : Result α) : Prop where
  depth : r.depthReached ≤ maxDepth
  reached : ∃ frontier, Reached key near k maxNodes r.depthReached frontier r.visited
  closed : r.truncated = false ↔
    ball key near k (r.depthReached + 1) = ball key near k r.depthReached
  early : r.depthReached < maxDepth → r.truncated = false

theorem ball_closed_iff :
    ball key near k (d + 1) = ball key near k d ↔ ∀ j, ¬AtDistance key near k (d + 1) j := by
  constructor
  · intro h j hj
    exact hj.2 d (Nat.lt_succ_self d) (h ▸ hj.1)
  · intro h
    ext j
    rw [mem_ball_succ_iff]
    exact or_iff_left (h j)

/-- The ceiling was met among the neighbours of a layer. -/
theorem Reached.full (h : Reached key near k maxNodes depth frontier ordered) {s : Layer α}
    (hs : Visited key maxNodes ordered (around key near frontier) s) (hfull : s.full = true)
    {maxDepth : Nat} (hdepth : depth < maxDepth) :
    Full key near k maxDepth maxNodes ⟨s.ordered, depth, true⟩ := by
  obtain ⟨hmet, hnext⟩ := h.met hs
  obtain ⟨hlength, a, ha, hnew⟩ := hs.beyond hfull
  refine ⟨hdepth, rfl, hs.nodup, hlength, ?_, fun j hj => ?_, ?_⟩
  · have hout : AtDistance key near k (depth + 1) (key a) :=
      h.new_iff.mp ⟨⟨a, ha, rfl⟩, fun hin => hnew ((hmet _).mpr (Or.inl hin))⟩
    have hsub : insert (key a) (s.ordered.map key).toFinset ⊆ ball key near k (depth + 1) := by
      intro j hj
      rcases Finset.mem_insert.mp hj with rfl | hj
      · exact hout.1
      · rcases (hmet j).mp (List.mem_toFinset.mp hj) with hj | hj
        · exact ball_subset_succ ((h.visited j).mp hj)
        · exact (hnext j hj).1
    have hcard := Finset.card_le_card hsub
    rw [Finset.card_insert_of_notMem (fun hin => hnew (List.mem_toFinset.mp hin)),
      List.toFinset_card_of_nodup hs.nodup, List.length_map, hlength] at hcard
    exact hcard
  · exact (hmet j).mpr (Or.inl ((h.visited j).mpr hj))
  · obtain ⟨b, hb⟩ := List.exists_mem_of_ne_nil _ h.nonempty
    exact ⟨key b, (h.layer _).mp (List.mem_map_of_mem hb)⟩

/-- **How a traversal ends.** -/
theorem traverse_outcome {maxDepth : Nat} (fuel : Nat) :
    ∀ (frontier ordered : List α) (depth : Nat), depth + fuel = maxDepth →
      Reached key near k maxNodes depth frontier ordered →
      Full key near k maxDepth maxNodes (traverse key near maxNodes fuel frontier ordered depth) ∨
        Whole key near k maxDepth maxNodes
          (traverse key near maxNodes fuel frontier ordered depth) := by
  induction fuel with
  | zero =>
    intro frontier ordered depth hfuel h
    refine Or.inr ⟨hfuel.le, ⟨frontier, h⟩, ?_, fun hlt => absurd hfuel hlt.ne⟩
    rw [ball_closed_iff]
    show (around key near frontier).any (fun a => key a ∉ ordered.map key) = false ↔ _
    rw [List.any_eq_false]
    constructor
    · intro hnone j hj
      obtain ⟨⟨a, ha, rfl⟩, hnew⟩ := h.new_iff.mpr hj
      exact hnone a ha (decide_eq_true hnew)
    · intro hnone a ha hnew
      exact hnone _ (h.new_iff.mp ⟨⟨a, ha, rfl⟩, of_decide_eq_true hnew⟩)
  | succ fuel ih =>
    intro frontier ordered depth hfuel h
    have hs : Visited key maxNodes ordered (around key near frontier) _ :=
      expand_spec h.nodup h.length
    rw [traverse]
    by_cases hfull : (expand key near maxNodes frontier ordered).full = true
    · rw [if_pos hfull]
      exact Or.inl (h.full hs hfull (by omega))
    rw [if_neg hfull]
    have hopen := eq_false_of_ne_true hfull
    by_cases hnext : (expand key near maxNodes frontier ordered).next = []
    · rw [if_pos hnext]
      have hlayer := h.whole hs hopen
      have hgrows := hs.grows
      rw [hnext, List.append_nil] at hgrows
      rw [hgrows]
      refine Or.inr ⟨by dsimp only; omega, ⟨frontier, h⟩, iff_of_true rfl ?_, fun _ => rfl⟩
      rw [ball_closed_iff]
      intro j hj
      have hin := (hlayer j).mpr hj
      rw [hnext] at hin
      exact absurd hin List.not_mem_nil
    · rw [if_neg hnext]
      exact ih _ _ (depth + 1) (by omega) (h.step hs hopen hnext)

/-- A traversal starts from one item. -/
theorem reached_start {a : α} (hpos : 1 ≤ maxNodes) :
    Reached key near (key a) maxNodes 0 [a] [a] where
  nodup := List.nodup_singleton _
  length := hpos
  visited := by
    intro j
    rw [ball, Finset.mem_singleton, List.map_singleton, List.mem_singleton]
  layer := by
    intro j
    rw [List.map_singleton, List.mem_singleton]
    constructor
    · rintro rfl
      exact ⟨self_mem_ball _ 0, fun i hi => absurd hi (Nat.not_lt_zero i)⟩
    · rintro ⟨hj, -⟩
      exact Finset.mem_singleton.mp hj
  nonempty := List.cons_ne_nil _ _
  sorted := List.pairwise_singleton _ _

/-! ## What a traversal should say -/

/-- What the result of a traversal says about the balls. -/
structure Faithful (key : α → κ) (near : κ → List α) (k : κ) (maxDepth maxNodes : Nat)
    (r : Result α) : Prop where
  reachable : r.truncated = false →
    ∀ j, j ∈ r.visited.map key ↔ Relation.ReflTransGen (Adjacent key near) k j
  within : (ball key near k maxDepth).card ≤ maxNodes →
    (∀ j, j ∈ r.visited.map key ↔ j ∈ ball key near k maxDepth) ∧
      (r.visited.map key).Pairwise fun i j => ∀ d, j ∈ ball key near k d → i ∈ ball key near k d
  deepest : (∃ j ∈ r.visited.map key, AtDistance key near k r.depthReached j) ∧
    ∀ j ∈ r.visited.map key, j ∈ ball key near k r.depthReached

/-- The item ceiling lies inside a layer before the depth limit. -/
def CeilingInside (key : α → κ) (near : κ → List α) (k : κ) (maxDepth maxNodes : Nat) : Prop :=
  ∃ d < maxDepth, (ball key near k d).card < maxNodes ∧
    maxNodes < (ball key near k (d + 1)).card

variable {maxDepth : Nat} {r : Result α}

theorem Whole.faithful (h : Whole key near k maxDepth maxNodes r) :
    Faithful key near k maxDepth maxNodes r := by
  obtain ⟨frontier, hreached⟩ := h.reached
  refine ⟨fun hopen j => ?_, fun _ => ⟨fun j => ?_, hreached.sorted⟩, ?_, fun j hj => ?_⟩
  · rw [mem_ball_iff_reachable, hreached.visited]
    have hclosed := ball_eq_of_closed (h.closed.mp hopen)
    exact ⟨fun hj => ⟨_, hj⟩, fun ⟨d, hd⟩ => hclosed d hd⟩
  · rw [hreached.visited]
    refine ⟨fun hj => ball_mono h.depth hj, fun hj => ?_⟩
    rcases Nat.eq_or_lt_of_le h.depth with heq | hlt
    · exact heq ▸ hj
    · exact ball_eq_of_closed (h.closed.mp (h.early hlt)) _ hj
  · obtain ⟨a, ha⟩ := List.exists_mem_of_ne_nil _ hreached.nonempty
    have hat := (hreached.layer (key a)).mp (List.mem_map_of_mem ha)
    exact ⟨key a, (hreached.visited _).mpr hat.1, hat⟩
  · exact (hreached.visited j).mp hj

/-- No ball up to the depth limit exceeds the ceiling. -/
theorem Whole.not_ceilingInside (h : Whole key near k maxDepth maxNodes r) :
    ¬CeilingInside key near k maxDepth maxNodes := by
  obtain ⟨frontier, hreached⟩ := h.reached
  rintro ⟨d, hd, -, hover⟩
  have hsub : ball key near k (d + 1) ⊆ ball key near k r.depthReached := by
    rcases Nat.lt_or_ge d r.depthReached with hlt | hge
    · exact ball_mono hlt
    · exact ball_eq_of_closed (h.closed.mp (h.early (by omega))) _
  have hcard := Finset.card_le_card hsub
  rw [hreached.card] at hcard
  have hlength := hreached.length
  omega

/-- A traversal that the ceiling cut is faithful when it visited whole layers only. -/
theorem Full.faithful_iff (h : Full key near k maxDepth maxNodes r) :
    Faithful key near k maxDepth maxNodes r ↔ ¬CeilingInside key near k maxDepth maxNodes := by
  have hkeys : (r.visited.map key).toFinset.card = maxNodes := by
    rw [List.toFinset_card_of_nodup h.nodup, List.length_map, h.length]
  have hsub : ball key near k r.depthReached ⊆ (r.visited.map key).toFinset :=
    fun j hj => List.mem_toFinset.mpr (h.inside j hj)
  have hmono : ∀ {d d' : Nat}, d ≤ d' → ball key near k d ⊆ ball key near k d' :=
    fun hle => ball_mono hle
  constructor
  · rintro hfaithful ⟨d, hd, hunder, hover⟩
    have hsup : (r.visited.map key).toFinset ⊆ ball key near k r.depthReached :=
      fun j hj => hfaithful.deepest.2 j (List.mem_toFinset.mp hj)
    have hball : (ball key near k r.depthReached).card = maxNodes := by
      rw [← hkeys, Finset.Subset.antisymm hsup hsub]
    rcases Nat.lt_or_ge d r.depthReached with hlt | hge
    · have hstep : d + 1 ≤ r.depthReached := hlt
      have hcard := Finset.card_le_card (hmono hstep)
      omega
    · have hcard := Finset.card_le_card (hmono hge)
      omega
  · intro hnone
    have hover := h.beyond
    have hball : maxNodes ≤ (ball key near k r.depthReached).card := by
      by_contra hlt
      exact hnone ⟨r.depthReached, h.depth, by omega, hover⟩
    have heq := Finset.eq_of_subset_of_card_le hsub (by omega)
    refine ⟨fun hopen => ?_, fun hfits => ?_, ?_, fun j hj => ?_⟩
    · rw [h.cut] at hopen
      cases hopen
    · have hstep : r.depthReached + 1 ≤ maxDepth := h.depth
      have hcard := Finset.card_le_card (hmono hstep)
      omega
    · obtain ⟨j, hj⟩ := h.far
      exact ⟨j, h.inside j hj.1, hj⟩
    · rw [heq]
      exact List.mem_toFinset.mpr hj

/-- **A traversal says what it should unless its ceiling lies inside a layer.** -/
theorem traverse_faithful_iff {a : α} (hpos : 1 ≤ maxNodes) :
    Faithful key near (key a) maxDepth maxNodes
        (traverse key near maxNodes maxDepth [a] [a] 0) ↔
      ¬CeilingInside key near (key a) maxDepth maxNodes := by
  have hstart : Reached key near (key a) maxNodes 0 [a] [a] := reached_start hpos
  rcases traverse_outcome maxDepth [a] [a] 0 (Nat.zero_add maxDepth) hstart with hfull | hwhole
  · exact hfull.faithful_iff
  · exact iff_of_true hwhole.faithful hwhole.not_ceilingInside

end NightRecon.Lib.Layers
