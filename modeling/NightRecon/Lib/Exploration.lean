import Mathlib.Data.List.Nodup
import Mathlib.Data.List.Infix

/-!
# Bounded breadth-first exploration

A forest is explored level by level: an item is taken off the queue and each of its children is
followed.  A goal is recorded and not explored further; any other child joins the queue.  Three
limits cut the exploration, and every cut is noted.

* `Tree`, `Limits`, `State` — what is explored, under which limits, and how far it has come;
* `follow`, `followAll`, `explore` — one child, the children of one item, the whole exploration;
* `IsForest` — every item has one parent; `Open`, `Goal` — the items and the goals below a root;
* `Explored` — the invariant of the exploration, and `Explored.follow`, what one child keeps of it;
* `explore_spec` — **an exploration without a cut records every goal below its root**, and any
  exploration records goals only, each once and in the order of their levels;
* `exploreAll`, `exploreAll_spec` — the same below one root after the other, under one budget.
-/

namespace NightRecon.Lib.Exploration

variable {α : Type}

/-- Which limit was met. -/
inductive Cut where
  | depth
  | found
  | expansions
  deriving DecidableEq

structure Limits where
  maxDepth : Nat
  maxFound : Nat
  maxExpansions : Nat

/-- Children in order, the level of an item, the goals, and the goals that need no second record. -/
structure Tree (α : Type) where
  children : α → List α
  level : α → Nat
  goal : α → Bool
  known : List α → α → Bool

structure State (α : Type) where
  queue : List α
  found : List α
  cuts : List Cut
  expansions : Nat
  stopped : Bool

/-- A cut is noted once. -/
def note (cuts : List Cut) (c : Cut) : List Cut := if c ∈ cuts then cuts else cuts ++ [c]

theorem note_ne_nil (cuts : List Cut) (c : Cut) : note cuts c ≠ [] := by
  unfold note
  by_cases h : c ∈ cuts
  · rw [if_pos h]
    exact List.ne_nil_of_mem h
  · rw [if_neg h]
    exact List.append_ne_nil_of_right_ne_nil _ (List.cons_ne_nil _ _)

theorem note_subset (cuts : List Cut) (c : Cut) : cuts ⊆ note cuts c := by
  unfold note
  split
  · exact List.Subset.refl _
  · exact List.subset_append_left _ _

/-- Follow one child of an item of the level. -/
def follow (t : Tree α) (l : Limits) (level : Nat) (s : State α) (q : α) : State α :=
  if l.maxDepth ≤ level then { s with cuts := note s.cuts .depth }
  else if t.goal q then
    if t.known s.found q then s
    else if l.maxFound ≤ s.found.length then
      { s with cuts := note s.cuts .found, stopped := true }
    else { s with found := s.found ++ [q] }
  else if l.maxExpansions ≤ s.expansions + s.queue.length then
    { s with cuts := note s.cuts .expansions }
  else { s with queue := s.queue ++ [q] }

/-- Follow the children of an item, until the exploration stops. -/
def followAll (t : Tree α) (l : Limits) (level : Nat) : State α → List α → State α
  | s, [] => s
  | s, q :: qs =>
      let s' := follow t l level s q
      if s'.stopped then s' else followAll t l level s' qs

/-- The exploration; `fuel` is the number of expansions that are left. -/
def explore (t : Tree α) (l : Limits) : Nat → State α → State α
  | fuel, s =>
      match s.queue with
      | [] => s
      | p :: rest =>
          match fuel with
          | 0 => { s with cuts := note s.cuts .expansions, stopped := true }
          | fuel + 1 =>
              let s' := followAll t l (t.level p)
                { s with queue := rest, expansions := s.expansions + 1 } (t.children p)
              if s'.stopped then s' else explore t l fuel s'

/-! ## Forests -/

/-- The items below a root that are explored. -/
inductive Open (t : Tree α) (root : α) : α → Prop
  | root : Open t root root
  | child {p q : α} : Open t root p → q ∈ t.children p → t.goal q = false → Open t root q

/-- The goals below a root. -/
def Goal (t : Tree α) (root q : α) : Prop :=
  ∃ p, Open t root p ∧ q ∈ t.children p ∧ t.goal q = true

/-- Every item has one parent, which is one level above it, and lists it once; below the roots, a
goal that is known was found. -/
structure IsForest (t : Tree α) (roots : α → Prop) : Prop where
  level_child : ∀ p, ∀ q ∈ t.children p, t.level q = t.level p + 1
  children_nodup : ∀ p, (t.children p).Nodup
  parent : ∀ p p' q, q ∈ t.children p → q ∈ t.children p' → p = p'
  known_found : ∀ found q, (∀ r ∈ found, ∃ root, roots root ∧ Goal t root r) →
    (∃ root, roots root ∧ Goal t root q) → t.known found q = true → q ∈ found

variable {t : Tree α} {roots : α → Prop} {l : Limits} {root : α}

theorem Open.level_le (ht : IsForest t roots) {p : α} (h : Open t root p) :
    t.level root ≤ t.level p := by
  induction h with
  | root => exact le_rfl
  | child _ hchild _ ih =>
    rw [ht.level_child _ _ hchild]
    exact Nat.le_succ_of_le ih

/-- A root is nobody's child. -/
theorem Open.child_ne_root (ht : IsForest t roots) {p q : α} (h : Open t root p)
    (hchild : q ∈ t.children p) : q ≠ root := by
  rintro rfl
  have hle := h.level_le ht
  rw [ht.level_child _ _ hchild] at hle
  omega

/-! ## The invariant -/

/-- How far the exploration below `root` has come: `done` are the items it has taken off the queue,
`asked` the children it has followed, the last of them from an item of the level. -/
structure Explored (t : Tree α) (l : Limits) (root : α) (old done asked : List α) (level : Nat)
    (s : State α) : Prop where
  rooted : root ∈ done ++ s.queue
  opened : ∀ p ∈ done ++ s.queue, Open t root p
  distinct : (done ++ s.queue).Nodup
  origin : ∀ q ∈ done ++ s.queue, q = root ∨ q ∈ asked
  sorted : s.queue.Pairwise fun p q => t.level p ≤ t.level q
  near : ∀ p ∈ s.queue, level ≤ t.level p ∧ t.level p ≤ level + 1
  recorded : ∃ new, s.found = old ++ new ∧ (∀ q ∈ new, q ∈ asked) ∧ (∀ q ∈ new, Goal t root q) ∧
    (∀ q ∈ new, t.level q ≤ l.maxDepth ∧ t.level q ≤ level + 1) ∧
      new.Pairwise fun p q => t.level p ≤ t.level q
  found_nodup : s.found.Nodup
  found_length : s.found.length ≤ l.maxFound
  stopped : s.stopped = true → s.cuts ≠ []
  complete : s.cuts = [] → ∀ q ∈ asked,
    (t.goal q = true → q ∈ s.found) ∧ (t.goal q = false → q ∈ done ++ s.queue)

/-- A child that was followed without any effect but a note. -/
theorem Explored.cut {old done asked : List α} {level : Nat} {s : State α}
    (h : Explored t l root old done asked level s) (q : α) (c : Cut) (stopped : Bool) :
    Explored t l root old done (asked ++ [q]) level
      { s with cuts := note s.cuts c, stopped := stopped } := by
  obtain ⟨new, hfound, hasked, hrest⟩ := h.recorded
  refine ⟨h.rooted, h.opened, h.distinct, ?_, h.sorted, h.near, ?_, h.found_nodup, h.found_length,
    fun _ => note_ne_nil _ _, fun hnone => absurd hnone (note_ne_nil _ _)⟩
  · intro p hp
    exact (h.origin p hp).imp_right (List.mem_append_left _)
  · exact ⟨new, hfound, fun p hp => List.mem_append_left _ (hasked p hp), hrest⟩

/-- The goals and the items that were known stay known. -/
theorem Explored.complete_append {old done asked : List α} {level : Nat} {s : State α}
    (h : Explored t l root old done asked level s) {found queue : List α} {q : α}
    (hfound : s.found ⊆ found) (hqueue : s.queue ⊆ queue) (hgoal : t.goal q = true → q ∈ found)
    (hopen : t.goal q = false → q ∈ done ++ queue) :
    s.cuts = [] → ∀ r ∈ asked ++ [q],
      (t.goal r = true → r ∈ found) ∧ (t.goal r = false → r ∈ done ++ queue) := by
  intro hnone r hr
  rcases List.mem_append.mp hr with hr | hr
  · obtain ⟨hg, ho⟩ := h.complete hnone r hr
    refine ⟨fun hgr => hfound (hg hgr), fun hor => ?_⟩
    rcases List.mem_append.mp (ho hor) with hdone | hin
    · exact List.mem_append_left _ hdone
    · exact List.mem_append_right _ (hqueue hin)
  · rw [List.mem_singleton.mp hr]
    exact ⟨hgoal, hopen⟩

/-- A goal that is recorded. -/
theorem Explored.record {old done asked : List α} {p q : α} {s : State α}
    (h : Explored t l root old done asked (t.level p) s) (hlevel : t.level q = t.level p + 1)
    (hdepth : ¬l.maxDepth ≤ t.level p) (hgoal : Goal t root q) (hnew : q ∉ asked) (hold : q ∉ old)
    (hroom : ¬l.maxFound ≤ s.found.length) :
    Explored t l root old done (asked ++ [q]) (t.level p) { s with found := s.found ++ [q] } := by
  obtain ⟨new, hfound, hasked, hgoals, hlevels, hsorted⟩ := h.recorded
  have hfresh : q ∉ s.found := by
    rw [hfound]
    intro hin
    rcases List.mem_append.mp hin with hin | hin
    · exact hold hin
    · exact hnew (hasked q hin)
  refine ⟨h.rooted, h.opened, h.distinct, ?_, h.sorted, h.near, ⟨new ++ [q], ?_, ?_, ?_, ?_, ?_⟩,
    ?_, ?_, h.stopped, ?_⟩
  · intro r hr
    exact (h.origin r hr).imp_right (List.mem_append_left _)
  · show s.found ++ [q] = _
    rw [hfound, List.append_assoc]
  · intro r hr
    exact (List.mem_append.mp hr).elim (fun hr => List.mem_append_left _ (hasked r hr))
      (List.mem_append_right _)
  · intro r hr
    rcases List.mem_append.mp hr with hr | hr
    · exact hgoals r hr
    · rw [List.mem_singleton.mp hr]
      exact hgoal
  · intro r hr
    rcases List.mem_append.mp hr with hr | hr
    · exact hlevels r hr
    · rw [List.mem_singleton.mp hr, hlevel]
      omega
  · rw [List.pairwise_append]
    refine ⟨hsorted, List.pairwise_singleton _ _, ?_⟩
    intro r hr r' hr'
    rw [List.mem_singleton.mp hr', hlevel]
    exact (hlevels r hr).2
  · show (s.found ++ [q]).Nodup
    rw [List.nodup_append]
    refine ⟨h.found_nodup, List.nodup_singleton q, ?_⟩
    intro r hr r' hr' heq
    rw [heq, List.mem_singleton.mp hr'] at hr
    exact hfresh hr
  · show (s.found ++ [q]).length ≤ _
    rw [List.length_append]
    exact Nat.lt_of_not_le hroom
  · refine h.complete_append (List.subset_append_left _ _) (List.Subset.refl _)
      (fun _ => List.mem_append_right _ List.mem_cons_self) fun hnot => ?_
    obtain ⟨_, _, _, hisgoal⟩ := hgoal
    rw [hisgoal] at hnot
    cases hnot

/-- An item that joins the queue. -/
theorem Explored.enqueue {old done asked : List α} {p q : α} {s : State α}
    (h : Explored t l root old done asked (t.level p) s) (hlevel : t.level q = t.level p + 1)
    (hopen : Open t root q) (hclosed : t.goal q = false) (hunseen : q ∉ done ++ s.queue) :
    Explored t l root old done (asked ++ [q]) (t.level p) { s with queue := s.queue ++ [q] } := by
  obtain ⟨new, hfound, hasked, hrest⟩ := h.recorded
  have hsplit : done ++ (s.queue ++ [q]) = done ++ s.queue ++ [q] := (List.append_assoc _ _ _).symm
  refine ⟨?_, ?_, ?_, ?_, ?_, ?_,
    ⟨new, hfound, fun r hr => List.mem_append_left _ (hasked r hr), hrest⟩, h.found_nodup,
    h.found_length, h.stopped, h.complete_append (List.Subset.refl _)
      (List.subset_append_left _ _) ?_ ?_⟩
  · show root ∈ done ++ (s.queue ++ [q])
    rw [hsplit]
    exact List.mem_append_left _ h.rooted
  · show ∀ r ∈ done ++ (s.queue ++ [q]), Open t root r
    intro r hr
    rw [hsplit] at hr
    rcases List.mem_append.mp hr with hr | hr
    · exact h.opened r hr
    · rw [List.mem_singleton.mp hr]
      exact hopen
  · show (done ++ (s.queue ++ [q])).Nodup
    rw [hsplit, List.nodup_append]
    refine ⟨h.distinct, List.nodup_singleton q, ?_⟩
    intro r hr r' hr' heq
    rw [heq, List.mem_singleton.mp hr'] at hr
    exact hunseen hr
  · show ∀ r ∈ done ++ (s.queue ++ [q]), r = root ∨ r ∈ asked ++ [q]
    intro r hr
    rw [hsplit] at hr
    rcases List.mem_append.mp hr with hr | hr
    · exact (h.origin r hr).imp_right (List.mem_append_left _)
    · exact Or.inr (List.mem_append_right _ hr)
  · show (s.queue ++ [q]).Pairwise _
    rw [List.pairwise_append]
    refine ⟨h.sorted, List.pairwise_singleton _ _, ?_⟩
    intro r hr r' hr'
    rw [List.mem_singleton.mp hr', hlevel]
    exact (h.near r hr).2
  · intro r hr
    rcases List.mem_append.mp hr with hr | hr
    · exact h.near r hr
    · rw [List.mem_singleton.mp hr, hlevel]
      omega
  · intro hnot
    rw [hclosed] at hnot
    cases hnot
  · intro _
    rw [hsplit]
    exact List.mem_append_right _ List.mem_cons_self

/-- What the exploration may start from. -/
structure Startable (t : Tree α) (roots : α → Prop) (root : α) (old : List α) : Prop where
  rooted : roots root
  sound : ∀ r ∈ old, ∃ root, roots root ∧ Goal t root r
  fresh : ∀ r, Goal t root r → r ∉ old

theorem Explored.sound {old done asked : List α} {level : Nat} {s : State α}
    (h : Explored t l root old done asked level s) (hold : Startable t roots root old) :
    ∀ r ∈ s.found, ∃ root, roots root ∧ Goal t root r := by
  obtain ⟨new, hfound, -, hgoals, -⟩ := h.recorded
  intro r hr
  rw [hfound] at hr
  rcases List.mem_append.mp hr with hr | hr
  · exact hold.sound r hr
  · exact ⟨root, hold.rooted, hgoals r hr⟩

/-- **One child**: what follows it keeps the invariant. -/
theorem Explored.follow (ht : IsForest t roots) {old done asked : List α} {p q : α} {s : State α}
    (hold : Startable t roots root old) (h : Explored t l root old done asked (t.level p) s)
    (hp : p ∈ done) (hq : q ∈ t.children p) (hnew : q ∉ asked) :
    Explored t l root old done (asked ++ [q]) (t.level p) (follow t l (t.level p) s q) := by
  have hopen : Open t root p := h.opened p (List.mem_append_left _ hp)
  have hlevel := ht.level_child p q hq
  have hunseen : q ∉ done ++ s.queue := by
    intro hin
    rcases h.origin q hin with hroot | hasked
    · exact hopen.child_ne_root ht hq hroot
    · exact hnew hasked
  unfold Exploration.follow
  by_cases hdepth : l.maxDepth ≤ t.level p
  · rw [if_pos hdepth]
    exact h.cut q .depth s.stopped
  rw [if_neg hdepth]
  by_cases hgoal : t.goal q = true
  · rw [if_pos hgoal]
    have hisgoal : Goal t root q := ⟨p, hopen, hq, hgoal⟩
    by_cases hknown : t.known s.found q = true
    · rw [if_pos hknown]
      have hin := ht.known_found _ _ (h.sound hold) ⟨root, hold.rooted, hisgoal⟩ hknown
      obtain ⟨new, hfound, hasked, -⟩ := h.recorded
      rw [hfound] at hin
      rcases List.mem_append.mp hin with hin | hin
      · exact absurd hin (hold.fresh q hisgoal)
      · exact absurd (hasked q hin) hnew
    rw [if_neg hknown]
    by_cases hfull : l.maxFound ≤ s.found.length
    · rw [if_pos hfull]
      exact h.cut q .found true
    rw [if_neg hfull]
    exact h.record hlevel hdepth hisgoal hnew (hold.fresh q hisgoal) hfull
  rw [if_neg hgoal]
  have hclosed : t.goal q = false := eq_false_of_ne_true hgoal
  by_cases hroom : l.maxExpansions ≤ s.expansions + s.queue.length
  · rw [if_pos hroom]
    exact h.cut q .expansions s.stopped
  rw [if_neg hroom]
  exact h.enqueue hlevel (hopen.child hq hclosed) hclosed hunseen

/-- All the children of an item are followed, unless the exploration stops. -/
theorem Explored.followAll (ht : IsForest t roots) {old done : List α} {p : α}
    (hold : Startable t roots root old) (hp : p ∈ done) (qs : List α) :
    ∀ (asked : List α) (s : State α), Explored t l root old done asked (t.level p) s →
      s.stopped = false → (∀ q ∈ qs, q ∈ t.children p ∧ q ∉ asked) → qs.Nodup →
      ∃ asked', Explored t l root old done asked' (t.level p) (followAll t l (t.level p) s qs) ∧
        ((followAll t l (t.level p) s qs).stopped = false → asked' = asked ++ qs) := by
  induction qs with
  | nil =>
    intro asked s h hrunning _ _
    exact ⟨asked, h, fun _ => (List.append_nil _).symm⟩
  | cons q qs ih =>
    intro asked s h hrunning hqs hnodup
    obtain ⟨hq, hnew⟩ := hqs q List.mem_cons_self
    have hstep := h.follow ht hold hp hq hnew
    rw [Exploration.followAll]
    by_cases hstopped : (Exploration.follow t l (t.level p) s q).stopped = true
    · rw [if_pos hstopped]
      refine ⟨_, hstep, fun hgo => ?_⟩
      rw [hstopped] at hgo
      cases hgo
    · rw [if_neg hstopped]
      obtain ⟨hfresh, hrest⟩ := List.nodup_cons.mp hnodup
      obtain ⟨asked', h', hasked⟩ := ih (asked ++ [q]) _ hstep (eq_false_of_ne_true hstopped) (by
        intro r hr
        obtain ⟨hchild, hr'⟩ := hqs r (List.mem_cons_of_mem _ hr)
        refine ⟨hchild, fun hin => ?_⟩
        rcases List.mem_append.mp hin with hin | hin
        · exact hr' hin
        · rw [List.mem_singleton.mp hin] at hr
          exact hfresh hr) hrest
      refine ⟨asked', h', fun hgo => ?_⟩
      rw [hasked hgo, List.append_assoc, List.singleton_append]

/-- An item is taken off the queue. -/
theorem Explored.pop {old done asked rest : List α} {level : Nat} {p : α} {s : State α}
    (h : Explored t l root old done asked level s) (hqueue : s.queue = p :: rest) :
    Explored t l root old (done ++ [p]) asked (t.level p)
      { s with queue := rest, expansions := s.expansions + 1 } := by
  have hsplit : done ++ [p] ++ rest = done ++ s.queue := by
    rw [hqueue, List.append_assoc, List.singleton_append]
  have hnear := h.near
  have hsorted := h.sorted
  rw [hqueue] at hnear hsorted
  obtain ⟨hfirst, hsorted⟩ := List.pairwise_cons.mp hsorted
  have hlevel := hnear p List.mem_cons_self
  obtain ⟨new, hfound, hasked, hgoals, hlevels, hnew⟩ := h.recorded
  refine ⟨hsplit ▸ h.rooted, hsplit ▸ h.opened, hsplit ▸ h.distinct, hsplit ▸ h.origin, hsorted,
    ?_, ⟨new, hfound, hasked, hgoals, ?_, hnew⟩, h.found_nodup, h.found_length, h.stopped,
    hsplit ▸ h.complete⟩
  · intro r hr
    have hup := (hnear r (List.mem_cons_of_mem _ hr)).2
    exact ⟨hfirst r hr, by omega⟩
  · intro q hq
    have hup := hlevels q hq
    omega

/-- **The whole exploration** keeps the invariant, and without a cut it takes every item off the
queue. -/
theorem Explored.explore (ht : IsForest t roots) {old : List α} (hold : Startable t roots root old)
    (fuel : Nat) : ∀ (done : List α) (level : Nat) (s : State α),
      Explored t l root old done (done.flatMap t.children) level s → s.stopped = false →
      ∃ done' asked' level', Explored t l root old done' asked' level' (explore t l fuel s) ∧
        ((explore t l fuel s).cuts = [] →
          (explore t l fuel s).queue = [] ∧ asked' = done'.flatMap t.children) := by
  induction fuel with
  | zero =>
    intro done level s h hrunning
    rw [Exploration.explore]
    split
    · next hqueue => exact ⟨done, _, level, h, fun _ => ⟨hqueue, rfl⟩⟩
    · next p rest hqueue =>
      have hcut : note s.cuts .expansions ≠ [] := note_ne_nil _ _
      refine ⟨done, done.flatMap t.children, level, ?_, fun hnone => absurd hnone hcut⟩
      exact ⟨h.rooted, h.opened, h.distinct, h.origin, h.sorted, h.near, h.recorded,
        h.found_nodup, h.found_length, fun _ => hcut, fun hnone => absurd hnone hcut⟩
  | succ fuel ih =>
    intro done level s h hrunning
    rw [Exploration.explore]
    split
    · next hqueue => exact ⟨done, _, level, h, fun _ => ⟨hqueue, rfl⟩⟩
    · next p rest hqueue =>
      have hpop := h.pop hqueue
      have hdone : p ∉ done := by
        intro hin
        have hdistinct := h.distinct
        rw [hqueue] at hdistinct
        exact (List.nodup_append.mp hdistinct).2.2 p hin p List.mem_cons_self rfl
      obtain ⟨asked', hall, hasked⟩ := hpop.followAll ht hold
        (List.mem_append_right _ (List.mem_singleton_self p)) (t.children p) _ _ hrunning (by
          intro q hq
          refine ⟨hq, fun hin => ?_⟩
          obtain ⟨p', hp', hq'⟩ := List.mem_flatMap.mp hin
          exact hdone (ht.parent p p' q hq hq' ▸ hp')) (ht.children_nodup p)
      dsimp only
      by_cases hstopped : (Exploration.followAll t l (t.level p)
          { s with queue := rest, expansions := s.expansions + 1 } (t.children p)).stopped = true
      · rw [if_pos hstopped]
        exact ⟨_, _, _, hall, fun hnone => absurd hnone (hall.stopped hstopped)⟩
      · rw [if_neg hstopped]
        refine ih (done ++ [p]) (t.level p) _ ?_ (eq_false_of_ne_true hstopped)
        rw [List.flatMap_append, List.flatMap_singleton,
          ← hasked (eq_false_of_ne_true hstopped)]
        exact hall

/-! ## The result -/

/-- Every item below the root is taken off an empty queue. -/
theorem Explored.open_mem_done {old done : List α} {level : Nat} {s : State α}
    (h : Explored t l root old done (done.flatMap t.children) level s) (hnone : s.cuts = [])
    (hqueue : s.queue = []) {p : α} (hp : Open t root p) : p ∈ done := by
  have hdone : done ++ s.queue = done := by rw [hqueue, List.append_nil]
  induction hp with
  | root => exact hdone ▸ h.rooted
  | child hopen hchild hgoal ih =>
    have hin := (h.complete hnone _ (List.mem_flatMap.mpr ⟨_, ih, hchild⟩)).2 hgoal
    exact hdone ▸ hin

/-- **What an exploration finds**: goals below its root, each once, in the order of their levels
and within the limits; and all of them when nothing was cut. -/
theorem explore_spec (ht : IsForest t roots) {s : State α}
    (hold : Startable t roots root s.found) (hqueue : s.queue = [root])
    (hrunning : s.stopped = false) (hnodup : s.found.Nodup) (hlength : s.found.length ≤ l.maxFound)
    (fuel : Nat) :
    ∃ new, (explore t l fuel s).found = s.found ++ new ∧
      (∀ q ∈ new, Goal t root q ∧ t.level q ≤ l.maxDepth) ∧
      (new.Pairwise fun p q => t.level p ≤ t.level q) ∧
      (explore t l fuel s).found.Nodup ∧ (explore t l fuel s).found.length ≤ l.maxFound ∧
      ((explore t l fuel s).stopped = true → (explore t l fuel s).cuts ≠ []) ∧
      ((explore t l fuel s).cuts = [] → ∀ q, Goal t root q → q ∈ new) := by
  have hstart : Explored t l root s.found [] ([].flatMap t.children) (t.level root) s := by
    refine ⟨?_, ?_, ?_, ?_, ?_, ?_, ?_, hnodup, hlength, ?_, ?_⟩
    · rw [hqueue]
      exact List.mem_singleton_self root
    · intro p hp
      rw [hqueue] at hp
      rw [List.mem_singleton.mp hp]
      exact .root
    · rw [hqueue]
      exact List.nodup_singleton root
    · intro q hq
      rw [hqueue] at hq
      exact Or.inl (List.mem_singleton.mp hq)
    · rw [hqueue]
      exact List.pairwise_singleton _ _
    · intro p hp
      rw [hqueue] at hp
      rw [List.mem_singleton.mp hp]
      omega
    · refine ⟨[], (List.append_nil _).symm, ?_, ?_, ?_, List.Pairwise.nil⟩ <;>
        exact fun _ hq => absurd hq List.not_mem_nil
    · intro hstopped
      rw [hrunning] at hstopped
      cases hstopped
    · exact fun _ q hq => absurd hq List.not_mem_nil
  obtain ⟨done, asked, level, h, hend⟩ := hstart.explore ht hold fuel [] _ s hrunning
  obtain ⟨new, hfound, hasked, hgoals, hlevels, hsorted⟩ := h.recorded
  refine ⟨new, hfound, fun q hq => ⟨hgoals q hq, (hlevels q hq).1⟩, hsorted, h.found_nodup,
    h.found_length, h.stopped, fun hnone q hq => ?_⟩
  obtain ⟨hempty, rfl⟩ := hend hnone
  obtain ⟨p, hp, hchild, hgoal⟩ := hq
  have hmem : q ∈ done.flatMap t.children :=
    List.mem_flatMap.mpr ⟨p, h.open_mem_done hnone hempty hp, hchild⟩
  have hin := (h.complete hnone q hmem).1 hgoal
  rw [hfound] at hin
  rcases List.mem_append.mp hin with hin | hin
  · exact absurd hin (hold.fresh q ⟨p, hp, hchild, hgoal⟩)
  · exact hin

/-! ## The limits -/

theorem explore_nil {s : State α} (fuel : Nat) (h : s.queue = []) : explore t l fuel s = s := by
  unfold explore
  rw [h]

theorem explore_zero {s : State α} {p : α} {rest : List α} (h : s.queue = p :: rest) :
    explore t l 0 s = { s with cuts := note s.cuts .expansions, stopped := true } := by
  unfold explore
  rw [h]

theorem explore_succ {s : State α} {p : α} {rest : List α} (fuel : Nat)
    (h : s.queue = p :: rest) :
    explore t l (fuel + 1) s =
      if (followAll t l (t.level p) { s with queue := rest, expansions := s.expansions + 1 }
          (t.children p)).stopped
      then followAll t l (t.level p) { s with queue := rest, expansions := s.expansions + 1 }
        (t.children p)
      else explore t l fuel (followAll t l (t.level p)
        { s with queue := rest, expansions := s.expansions + 1 } (t.children p)) := by
  conv_lhs => unfold explore
  rw [h]

theorem follow_expansions (level : Nat) (s : State α) (q : α) :
    (follow t l level s q).expansions = s.expansions := by
  unfold follow
  split
  · rfl
  split
  · split
    · rfl
    split <;> rfl
  · split <;> rfl

theorem followAll_expansions (level : Nat) (qs : List α) : ∀ s : State α,
    (followAll t l level s qs).expansions = s.expansions := by
  induction qs with
  | nil => exact fun _ => rfl
  | cons q qs ih =>
    intro s
    rw [followAll]
    split
    · exact follow_expansions level s q
    · rw [ih, follow_expansions]

/-- No more items are expanded than the fuel allows. -/
theorem explore_expansions (fuel : Nat) : ∀ s : State α,
    (explore t l fuel s).expansions ≤ s.expansions + fuel := by
  induction fuel with
  | zero =>
    intro s
    cases hqueue : s.queue with
    | nil => rw [explore_nil 0 hqueue, Nat.add_zero]
    | cons p rest => rw [explore_zero hqueue, Nat.add_zero]
  | succ fuel ih =>
    intro s
    cases hqueue : s.queue with
    | nil =>
      rw [explore_nil _ hqueue]
      exact Nat.le_add_right _ _
    | cons p rest =>
      rw [explore_succ fuel hqueue]
      split
      · rw [followAll_expansions]
        show s.expansions + 1 ≤ s.expansions + (fuel + 1)
        omega
      · refine (ih _).trans ?_
        rw [followAll_expansions]
        show s.expansions + 1 + fuel ≤ s.expansions + (fuel + 1)
        omega

/-- Cuts that were noted stay. -/
theorem follow_cuts (level : Nat) (s : State α) (q : α) :
    s.cuts ⊆ (follow t l level s q).cuts := by
  unfold follow
  split
  · exact note_subset _ _
  split
  · split
    · exact List.Subset.refl _
    split
    · exact note_subset _ _
    · exact List.Subset.refl _
  · split
    · exact note_subset _ _
    · exact List.Subset.refl _

theorem followAll_cuts (level : Nat) (qs : List α) : ∀ s : State α,
    s.cuts ⊆ (followAll t l level s qs).cuts := by
  induction qs with
  | nil => exact fun _ => List.Subset.refl _
  | cons q qs ih =>
    intro s
    rw [followAll]
    split
    · exact follow_cuts level s q
    · exact List.Subset.trans (follow_cuts level s q) (ih _)

theorem explore_cuts (fuel : Nat) : ∀ s : State α, s.cuts ⊆ (explore t l fuel s).cuts := by
  induction fuel with
  | zero =>
    intro s
    cases hqueue : s.queue with
    | nil =>
      rw [explore_nil 0 hqueue]
      exact List.Subset.refl _
    | cons p rest =>
      rw [explore_zero hqueue]
      exact note_subset _ _
  | succ fuel ih =>
    intro s
    cases hqueue : s.queue with
    | nil =>
      rw [explore_nil _ hqueue]
      exact List.Subset.refl _
    | cons p rest =>
      rw [explore_succ fuel hqueue]
      have hall := followAll_cuts (t := t) (l := l) (t.level p) (t.children p)
        { s with queue := rest, expansions := s.expansions + 1 }
      split
      · exact hall
      · exact List.Subset.trans hall (ih _)

/-! ## Several roots -/

/-- The exploration below one root after the other, until it stops. -/
def exploreAll (t : Tree α) (l : Limits) : State α → List α → State α
  | s, [] => s
  | s, root :: rest =>
      if s.stopped then s
      else exploreAll t l
        (explore t l (l.maxExpansions - s.expansions) { s with queue := [root] }) rest

/-- What has been found below the roots that are done. -/
structure Swept (t : Tree α) (l : Limits) (done : List α) (s : State α) : Prop where
  sound : ∀ q ∈ s.found, ∃ root ∈ done, Goal t root q ∧ t.level q ≤ l.maxDepth
  nodup : s.found.Nodup
  length : s.found.length ≤ l.maxFound
  expansions : s.expansions ≤ l.maxExpansions
  stopped : s.stopped = true → s.cuts ≠ []
  complete : s.cuts = [] → ∀ root ∈ done, ∀ q, Goal t root q → q ∈ s.found

/-- One more root. -/
theorem Swept.explore {all done : List α} (ht : IsForest t (· ∈ all))
    (hapart : ∀ root ∈ all, ∀ root' ∈ all, ∀ q, Goal t root q → Goal t root' q → root = root')
    {s : State α}
    (h : Swept t l done s) (hdone : done ⊆ all) (hroot : root ∈ all) (hnew : root ∉ done)
    (hrunning : s.stopped = false) :
    Swept t l (done ++ [root])
      (explore t l (l.maxExpansions - s.expansions) { s with queue := [root] }) := by
  have hstart : Startable t (· ∈ all) root s.found := by
    refine ⟨hroot, fun q hq => ?_, fun q hq hin => ?_⟩
    · obtain ⟨root', hroot', hgoal, -⟩ := h.sound q hq
      exact ⟨root', hdone hroot', hgoal⟩
    · obtain ⟨root', hroot', hgoal, -⟩ := h.sound q hin
      exact hnew (hapart _ hroot _ (hdone hroot') _ hq hgoal ▸ hroot')
  obtain ⟨new, hfound, hgoals, -, hnodup, hlength, hstopped, hall⟩ :=
    explore_spec ht (s := { s with queue := [root] }) hstart rfl hrunning h.nodup h.length
      (l.maxExpansions - s.expansions)
  refine ⟨fun q hq => ?_, hnodup, hlength, ?_, hstopped, fun hnone root' hroot' q hq => ?_⟩
  · rw [hfound] at hq
    rcases List.mem_append.mp hq with hq | hq
    · obtain ⟨root', hroot', hgoal⟩ := h.sound q hq
      exact ⟨root', List.mem_append_left _ hroot', hgoal⟩
    · exact ⟨root, List.mem_append_right _ (List.mem_singleton_self root), hgoals q hq⟩
  · refine (explore_expansions _ _).trans ?_
    have hle := h.expansions
    show s.expansions + (l.maxExpansions - s.expansions) ≤ l.maxExpansions
    omega
  · rw [hfound]
    rcases List.mem_append.mp hroot' with hroot' | hroot'
    · have hcuts := explore_cuts (t := t) (l := l) (l.maxExpansions - s.expansions)
        { s with queue := [root] }
      rw [hnone] at hcuts
      exact List.mem_append_left _ (h.complete (List.subset_nil.mp hcuts) root' hroot' q hq)
    · rw [List.mem_singleton.mp hroot'] at hq
      exact List.mem_append_right _ (hall hnone q hq)

/-- **What the exploration below several roots finds.** -/
theorem exploreAll_spec {all : List α} (ht : IsForest t (· ∈ all))
    (hapart : ∀ root ∈ all, ∀ root' ∈ all, ∀ q, Goal t root q → Goal t root' q → root = root')
    (rest : List α) :
    ∀ (done : List α) (s : State α), done ++ rest = all → all.Nodup → Swept t l done s →
      Swept t l all (exploreAll t l s rest) := by
  induction rest with
  | nil =>
    intro done s hall _ h
    rw [List.append_nil] at hall
    exact hall ▸ h
  | cons root rest ih =>
    intro done s hall hnodup h
    rw [exploreAll]
    split
    · next hstopped =>
      have hcut := h.stopped hstopped
      refine ⟨fun q hq => ?_, h.nodup, h.length, h.expansions, h.stopped,
        fun hnone => absurd hnone hcut⟩
      obtain ⟨root', hroot', hgoal⟩ := h.sound q hq
      exact ⟨root', hall ▸ List.mem_append_left _ hroot', hgoal⟩
    · next hrunning =>
      have hnew : root ∉ done := by
        intro hin
        rw [← hall] at hnodup
        exact (List.nodup_append.mp hnodup).2.2 root hin root List.mem_cons_self rfl
      refine ih (done ++ [root]) _ ?_ hnodup (h.explore ht hapart ?_ ?_ hnew
        (eq_false_of_ne_true hrunning))
      · rw [List.append_assoc, List.singleton_append, hall]
      · rw [← hall]
        exact List.subset_append_left _ _
      · rw [← hall]
        exact List.mem_append_right _ List.mem_cons_self

end NightRecon.Lib.Exploration
