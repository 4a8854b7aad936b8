import Mathlib.Data.List.Basic
import Mathlib.Data.List.Nodup

/-!
# Walks in a multigraph

A walk is listed with its nodes and its edges, and grows at its end.  Edges are data of their own:
two nodes may be joined by several.

* `Walk` — the walks from a node; `Walk.getLast?`, `Walk.head?`, `Walk.length` — its shape;
* `Walk.snoc_inv` — the last step of a walk;
* `Walk.nodes_unique` — where an edge has one end, the edges of a walk tell its nodes;
* `Walk.first_step` — the first edge leaves the start.
-/

namespace NightRecon.Lib.Walks

variable {ν ε : Type} {joins : ν → ε → ν → Prop}

/-- The walks from `a` to the last node, with the nodes and the edges in order. -/
inductive Walk (joins : ν → ε → ν → Prop) (a : ν) : List ν → List ε → ν → Prop
  | start : Walk joins a [a] [] a
  | snoc {ns : List ν} {es : List ε} {b c : ν} {e : ε} :
      Walk joins a ns es b → joins b e c → Walk joins a (ns ++ [c]) (es ++ [e]) c

variable {a b : ν} {ns : List ν} {es : List ε}

theorem Walk.getLast? (h : Walk joins a ns es b) : ns.getLast? = some b := by
  cases h with
  | start => rfl
  | snoc _ _ => exact List.getLast?_concat

theorem Walk.head? (h : Walk joins a ns es b) : ns.head? = some a := by
  induction h with
  | start => rfl
  | snoc _ _ ih => rw [List.head?_append, ih, Option.some_or]

theorem Walk.length (h : Walk joins a ns es b) : ns.length = es.length + 1 := by
  induction h with
  | start => rfl
  | snoc _ _ ih => rw [List.length_append, List.length_append, ih]; rfl

theorem Walk.mem_last (h : Walk joins a ns es b) : b ∈ ns :=
  List.mem_of_getLast? h.getLast?

theorem Walk.mem_start (h : Walk joins a ns es b) : a ∈ ns :=
  List.mem_of_head? h.head?

theorem Walk.eq_start (h : Walk joins a ns [] b) : a = b := by
  generalize hes : ([] : List ε) = es at h
  cases h with
  | start => rfl
  | snoc _ _ => exact absurd hes.symm (List.append_ne_nil_of_right_ne_nil _ (List.cons_ne_nil _ _))

/-- The last step of a walk. -/
theorem Walk.snoc_inv {e : ε} (h : Walk joins a ns (es ++ [e]) b) :
    ∃ ns' b', ns = ns' ++ [b] ∧ Walk joins a ns' es b' ∧ joins b' e b := by
  generalize hes : es ++ [e] = es' at h
  cases h with
  | start => exact absurd hes (List.append_ne_nil_of_right_ne_nil _ (List.cons_ne_nil _ _))
  | snoc hwalk hjoin =>
    obtain ⟨rfl, hlast⟩ := List.append_inj' hes rfl
    obtain rfl : e = _ := List.head_eq_of_cons_eq hlast
    exact ⟨_, _, rfl, hwalk, hjoin⟩

/-- A walk that has ended somewhere else has a last step. -/
theorem Walk.last_step (h : Walk joins a ns es b) (hne : a ≠ b) :
    ∃ ns' es' b' e, ns = ns' ++ [b] ∧ es = es' ++ [e] ∧ Walk joins a ns' es' b' ∧
      joins b' e b := by
  cases h with
  | start => exact absurd rfl hne
  | snoc hwalk hjoin => exact ⟨_, _, _, _, rfl, rfl, hwalk, hjoin⟩

/-- **The edges of a walk tell its nodes**, where an edge has one end. -/
theorem Walk.nodes_unique (hend : ∀ b e c b' c', joins b e c → joins b' e c' → c = c')
    (h : Walk joins a ns es b) : ∀ {ns' : List ν} {b' : ν}, Walk joins a ns' es b' →
      ns = ns' ∧ b = b' := by
  induction h with
  | start =>
    intro ns' b' h'
    generalize hes : ([] : List ε) = es' at h'
    cases h' with
    | start => exact ⟨rfl, rfl⟩
    | snoc _ _ => exact absurd hes.symm (List.append_ne_nil_of_right_ne_nil _ (List.cons_ne_nil _ _))
  | snoc _ hjoin ih =>
    intro ns' b' h'
    obtain ⟨ns'', b'', rfl, hwalk, hjoin'⟩ := h'.snoc_inv
    obtain ⟨rfl, -⟩ := ih hwalk
    obtain rfl := hend _ _ _ _ _ hjoin hjoin'
    exact ⟨rfl, rfl⟩

/-- The first edge of a walk leaves its start. -/
theorem Walk.first_step (h : Walk joins a ns es b) : ∀ e ∈ es.head?, ∃ m, joins a e m := by
  induction h with
  | start => exact fun _ hnone => absurd hnone (Option.not_mem_none _)
  | snoc hwalk hjoin ih =>
    rename_i ns₀ es₀ b₀ c₀ e₀
    intro e he
    cases es₀ with
    | nil =>
      obtain rfl : e₀ = e := Option.some.inj he
      exact ⟨c₀, hwalk.eq_start ▸ hjoin⟩
    | cons e' es' => exact ih e he

end NightRecon.Lib.Walks
