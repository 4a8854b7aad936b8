import Mathlib.Algebra.BigOperators.Group.List.Basic
import Mathlib.Data.List.Induction
import Mathlib.Data.List.Nodup
import Mathlib.Data.List.Perm.Basic
import Mathlib.Data.Option.Basic
import NightRecon.Lib.Keyed

/-!
# Groups by key

A loop that appends every element of a list to the group of its key.

* `Group` — a key with its elements, at least one; `addTo`, `groups` — one turn, and the loop;
* `Grouped`, `grouped_groups` — differing keys, and under each the elements that have it;
* `flatMap_items_perm`, `sum_groups` — together the groups hold every element once;
* `map_groups_perm` — what is read of the groups does not see the order of the list.
-/

namespace NightRecon.Lib.Grouping

variable {κ α β : Type}

/-- A key and the elements that have it. -/
structure Group (κ α : Type) where
  key : κ
  first : α
  rest : List α

def Group.items (g : Group κ α) : List α := g.first :: g.rest

theorem Group.items_ne_nil (g : Group κ α) : g.items ≠ [] := List.cons_ne_nil _ _

variable [DecidableEq κ] (key : α → κ)

/-- `grouped[key(a)].append(a)`. -/
def addTo : List (Group κ α) → α → List (Group κ α)
  | [], a => [⟨key a, a, []⟩]
  | g :: gs, a => if g.key = key a then { g with rest := g.rest ++ [a] } :: gs else g :: addTo gs a

/-- The groups of a list, in the order of their first elements. -/
def groups (l : List α) : List (Group κ α) := l.foldl (addTo key) []

variable {key} {l l' : List α} {gs : List (Group κ α)} {a : α}

theorem groups_concat (l : List α) (a : α) : groups key (l ++ [a]) = addTo key (groups key l) a := by
  rw [groups, List.foldl_append, List.foldl_cons, List.foldl_nil, groups]

/-! ## One turn -/

theorem mem_keys_addTo {k : κ} :
    k ∈ (addTo key gs a).map (·.key) ↔ k = key a ∨ k ∈ gs.map (·.key) := by
  induction gs with
  | nil => rw [addTo, List.map_singleton, List.mem_singleton, List.map_nil]; simp
  | cons g gs ih =>
    by_cases hg : g.key = key a
    · rw [addTo, if_pos hg, List.map_cons, List.map_cons, List.mem_cons]
      constructor
      · exact Or.inr
      · rintro (rfl | hmem)
        · exact .inl hg.symm
        · exact hmem
    · rw [addTo, if_neg hg, List.map_cons, List.map_cons, List.mem_cons, List.mem_cons, ih]
      exact or_left_comm

theorem keys_addTo_nodup (h : (gs.map (·.key)).Nodup) (a : α) :
    ((addTo key gs a).map (·.key)).Nodup := by
  induction gs with
  | nil => exact List.nodup_singleton _
  | cons g gs ih =>
    rw [List.map_cons, List.nodup_cons] at h
    by_cases hg : g.key = key a
    · rw [addTo, if_pos hg, List.map_cons, List.nodup_cons]
      exact h
    · rw [addTo, if_neg hg, List.map_cons, List.nodup_cons]
      refine ⟨fun hmem => ?_, ih h.2⟩
      rcases mem_keys_addTo.mp hmem with heq | hmem
      · exact hg heq
      · exact h.1 hmem

/-- A group after a turn is an old one of another key, the one of the key with one more element, or
a new one. -/
theorem mem_addTo (h : (gs.map (·.key)).Nodup) {g : Group κ α} (hg : g ∈ addTo key gs a) :
    (g ∈ gs ∧ g.key ≠ key a) ∨
      (∃ g' ∈ gs, g'.key = key a ∧ g = { g' with rest := g'.rest ++ [a] }) ∨
        (key a ∉ gs.map (·.key) ∧ g = ⟨key a, a, []⟩) := by
  induction gs with
  | nil =>
    rw [addTo, List.mem_singleton] at hg
    exact .inr (.inr ⟨List.not_mem_nil, hg⟩)
  | cons g' gs ih =>
    rw [List.map_cons, List.nodup_cons] at h
    by_cases hkey : g'.key = key a
    · rw [addTo, if_pos hkey] at hg
      rcases List.mem_cons.mp hg with rfl | hg
      · exact .inr (.inl ⟨g', List.mem_cons_self, hkey, rfl⟩)
      · refine .inl ⟨List.mem_cons_of_mem _ hg, fun heq => h.1 ?_⟩
        rw [hkey, ← heq]
        exact List.mem_map_of_mem hg
    · rw [addTo, if_neg hkey] at hg
      rcases List.mem_cons.mp hg with rfl | hg
      · exact .inl ⟨List.mem_cons_self, hkey⟩
      · rcases ih h.2 hg with ⟨hmem, hne⟩ | ⟨g'', hmem, heq, hgrown⟩ | ⟨hnew, heq⟩
        · exact .inl ⟨List.mem_cons_of_mem _ hmem, hne⟩
        · exact .inr (.inl ⟨g'', List.mem_cons_of_mem _ hmem, heq, hgrown⟩)
        · refine .inr (.inr ⟨?_, heq⟩)
          rw [List.map_cons, List.mem_cons, not_or]
          exact ⟨Ne.symm hkey, hnew⟩

/-! ## The groups of a list -/

/-- The groups have differing keys, those of the list, and each has the elements of its key. -/
structure Grouped (key : α → κ) (l : List α) (gs : List (Group κ α)) : Prop where
  nodup : (gs.map (·.key)).Nodup
  mem_keys : ∀ k, k ∈ gs.map (·.key) ↔ k ∈ l.map key
  items : ∀ g ∈ gs, g.items = l.filter fun b => key b = g.key

/-- **One turn.** -/
theorem Grouped.addTo (h : Grouped key l gs) (a : α) :
    Grouped key (l ++ [a]) (addTo key gs a) := by
  refine ⟨keys_addTo_nodup h.nodup a, fun k => ?_, fun g hg => ?_⟩
  · rw [mem_keys_addTo, h.mem_keys, List.map_append, List.mem_append, List.map_singleton,
      List.mem_singleton, or_comm]
  · have hlast : ∀ k, [a].filter (fun b => key b = k) = if key a = k then [a] else [] := by
      intro k
      by_cases hk : key a = k
      · rw [if_pos hk, List.filter_cons_of_pos (by simpa using hk), List.filter_nil]
      · rw [if_neg hk, List.filter_cons_of_neg (by simpa using hk), List.filter_nil]
    rw [List.filter_append, hlast]
    rcases mem_addTo h.nodup hg with ⟨hmem, hne⟩ | ⟨g', hmem, hkey, rfl⟩ | ⟨hnew, rfl⟩
    · rw [if_neg (Ne.symm hne), List.append_nil, h.items g hmem]
    · have hitems := h.items g' hmem
      dsimp only
      rw [if_pos hkey.symm, ← hitems]
      rfl
    · have hnone : l.filter (fun b => key b = key a) = [] := by
        rw [List.filter_eq_nil_iff]
        intro b hb
        rw [decide_eq_true_eq]
        intro heq
        exact hnew ((h.mem_keys (key a)).mpr (heq ▸ List.mem_map_of_mem hb))
      rw [if_pos rfl, hnone]
      rfl

/-- **The groups of a list**, by induction on it. -/
theorem grouped_groups (key : α → κ) (l : List α) : Grouped key l (groups key l) := by
  induction l using List.reverseRecOn with
  | nil => exact ⟨List.nodup_nil, fun _ => Iff.rfl, fun g hg => absurd hg List.not_mem_nil⟩
  | append_singleton l a ih =>
    rw [groups_concat]
    exact ih.addTo a

/-- Together the groups hold every element once. -/
theorem flatMap_items_perm (key : α → κ) (l : List α) :
    ((groups key l).flatMap Group.items).Perm l := by
  have hturn : ∀ (gs : List (Group κ α)) (a : α),
      ((addTo key gs a).flatMap Group.items).Perm (gs.flatMap Group.items ++ [a]) := by
    intro gs a
    induction gs with
    | nil => exact List.Perm.refl _
    | cons g gs ih =>
      by_cases hkey : g.key = key a
      · rw [addTo, if_pos hkey, List.flatMap_cons, List.flatMap_cons, List.append_assoc]
        have hitems : Group.items { g with rest := g.rest ++ [a] } = g.items ++ [a] := rfl
        rw [hitems, List.append_assoc]
        exact List.perm_append_comm.append_left _
      · rw [addTo, if_neg hkey, List.flatMap_cons, List.flatMap_cons, List.append_assoc]
        exact ih.append_left _
  induction l using List.reverseRecOn with
  | nil => exact List.Perm.refl _
  | append_singleton l a ih =>
    rw [groups_concat]
    exact (hturn _ a).trans (ih.append_right _)

/-- A sum over the groups is the sum over the list. -/
theorem sum_groups {M : Type} [AddCommMonoid M] (key : α → κ) (f : α → M) (l : List α) :
    ((groups key l).map fun g => (g.items.map f).sum).sum = (l.map f).sum := by
  have hflat : ((groups key l).flatMap Group.items).Perm l := flatMap_items_perm key l
  rw [← (hflat.map f).sum_eq, List.map_flatMap, List.flatMap, List.sum_flatten, List.map_map]
  rfl

/-- **What is read of the groups does not see the order of the list**, when it does not see the
order of the elements of a group. -/
theorem map_groups_perm {f : Group κ α → β} (hperm : l.Perm l')
    (hf : ∀ g ∈ groups key l, ∀ g' ∈ groups key l', g.key = g'.key → g.items.Perm g'.items →
      f g = f g') :
    ((groups key l).map f).Perm ((groups key l').map f) := by
  have h : Grouped key l (groups key l) := grouped_groups key l
  have h' : Grouped key l' (groups key l') := grouped_groups key l'
  generalize groups key l = gs at h hf
  generalize groups key l' = gs' at h' hf
  have hkeys : (gs.map (·.key)).Perm (gs'.map (·.key)) := by
    rw [List.perm_ext_iff_of_nodup h.nodup h'.nodup]
    intro k
    rw [h.mem_keys, h'.mem_keys, (hperm.map key).mem_iff]
  -- what is read of the group of a key
  have hread : ∀ g ∈ gs, ((gs.find? fun g' => g'.key = g.key).map f) = some (f g) := by
    intro g hg
    rw [(Keyed.find?_eq_some_iff h.nodup).mpr ⟨hg, rfl⟩, Option.map_some]
  have hread' : ∀ g' ∈ gs', ((gs.find? fun g => g.key = g'.key).map f) = some (f g') := by
    intro g' hg'
    obtain ⟨g, hg, hkey⟩ := List.mem_map.mp (hkeys.mem_iff.mpr (List.mem_map_of_mem hg'))
    have hitems : g.items.Perm g'.items := by
      rw [h.items g hg, h'.items g' hg', hkey]
      exact hperm.filter _
    rw [(Keyed.find?_eq_some_iff h.nodup).mpr ⟨hg, hkey⟩, Option.map_some,
      hf g hg g' hg' hkey hitems]
  rw [← List.map_perm_map_iff (fun _ _ => Option.some.inj), List.map_map, List.map_map]
  have hmap : gs.map (some ∘ f) =
      (gs.map (·.key)).map fun k => (gs.find? fun g => g.key = k).map f := by
    rw [List.map_map]
    exact List.map_congr_left fun g hg => (hread g hg).symm
  have hmap' : gs'.map (some ∘ f) =
      (gs'.map (·.key)).map fun k => (gs.find? fun g => g.key = k).map f := by
    rw [List.map_map]
    exact List.map_congr_left fun g hg => (hread' g hg).symm
  rw [hmap, hmap']
  exact hkeys.map _

end NightRecon.Lib.Grouping
