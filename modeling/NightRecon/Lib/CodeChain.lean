import Mathlib

/-!
# Chains of authentication codes

A log whose links carry codes, each code covering the link's index, its body and the code before it.

* `Link`, `links` — a link, and the links of a list of bodies;
* `Verified` — every link has its index, the code before it and its own code; `verified_iff` says
  that this is so exactly of the links of the bodies;
* `prefix_of_known` — **what is verified and made of known links is a beginning of what is known**.
-/

namespace NightRecon.Lib.CodeChain

/-- A link of a chain. -/
@[ext]
structure Link (α μ : Type) where
  index : Int
  body : α
  previous : μ
  code : μ
  deriving DecidableEq

section Chains

variable {α μ : Type} (code : Int → α → μ → μ)

/-- The links of the bodies, from an index and a code on. -/
def links : Int → μ → List α → List (Link α μ)
  | _, _, [] => []
  | n, p, a :: l => ⟨n, a, p, code n a p⟩ :: links (n + 1) (code n a p) l

/-- The code of the last link. -/
def lastCode : Int → μ → List α → μ
  | _, p, [] => p
  | n, p, a :: l => lastCode (n + 1) (code n a p) l

/-- Every link has its index, the code before it and its own code. -/
def Verified : Int → μ → List (Link α μ) → Prop
  | _, _, [] => True
  | n, p, e :: l =>
      (e.index = n ∧ e.previous = p ∧ code e.index e.body e.previous = e.code) ∧
        Verified (n + 1) e.code l

end Chains

variable {α μ : Type} {code : Int → α → μ → μ}

@[simp] theorem links_nil (n : Int) (p : μ) : links code n p [] = [] := rfl

@[simp] theorem length_links (n : Int) (p : μ) (l : List α) :
    (links code n p l).length = l.length := by
  induction l generalizing n p with
  | nil => rfl
  | cons a l ih => rw [links, List.length_cons, ih, List.length_cons]

@[simp] theorem map_body_links (n : Int) (p : μ) (l : List α) :
    (links code n p l).map Link.body = l := by
  induction l generalizing n p with
  | nil => rfl
  | cons a l ih => rw [links, List.map_cons, ih]

theorem links_append (n : Int) (p : μ) (l l' : List α) :
    links code n p (l ++ l') =
      links code n p l ++ links code (n + l.length) (lastCode code n p l) l' := by
  induction l generalizing n p with
  | nil => simp [lastCode]
  | cons a l ih =>
    have hindex : n + 1 + (l.length : Int) = n + ((a :: l).length : Int) := by
      rw [List.length_cons]
      omega
    rw [List.cons_append, links, ih, links, lastCode, hindex, List.cons_append]

/-- One more body is one more link. -/
theorem links_concat (n : Int) (p : μ) (l : List α) (a : α) :
    links code n p (l ++ [a]) = links code n p l ++
      [⟨n + l.length, a, lastCode code n p l,
        code (n + l.length) a (lastCode code n p l)⟩] := by
  rw [links_append]
  rfl

theorem lastCode_concat (n : Int) (p : μ) (l : List α) (a : α) :
    lastCode code n p (l ++ [a]) = code (n + l.length) a (lastCode code n p l) := by
  induction l generalizing n p with
  | nil => simp [lastCode]
  | cons b l ih =>
    have hindex : n + ((b :: l).length : Int) = n + 1 + (l.length : Int) := by
      rw [List.length_cons]
      omega
    rw [List.cons_append, lastCode, lastCode, hindex, ih]

/-- The indices of the links. -/
theorem index_of_mem {n : Int} {p : μ} {l : List α} {e : Link α μ} (he : e ∈ links code n p l) :
    n ≤ e.index ∧ e.index < n + l.length := by
  induction l generalizing n p with
  | nil => exact absurd he List.not_mem_nil
  | cons a l ih =>
    rw [List.length_cons]
    rcases List.mem_cons.mp he with rfl | he
    · refine ⟨le_rfl, ?_⟩
      show n < n + ((l.length + 1 : Nat) : Int)
      omega
    · have hbounds := ih he
      omega

theorem index_of_verified {n : Int} {p : μ} {l : List (Link α μ)} (h : Verified code n p l) :
    ∀ e ∈ l, n ≤ e.index := by
  induction l generalizing n p with
  | nil => exact fun e he => absurd he List.not_mem_nil
  | cons e l ih =>
    obtain ⟨⟨hindex, -, -⟩, htail⟩ := h
    intro e' he'
    rcases List.mem_cons.mp he' with rfl | he'
    · exact hindex.ge
    · have hbound := ih htail e' he'
      omega

theorem code_of_verified {n : Int} {p : μ} {l : List (Link α μ)} (h : Verified code n p l) :
    ∀ e ∈ l, code e.index e.body e.previous = e.code := by
  induction l generalizing n p with
  | nil => exact fun e he => absurd he List.not_mem_nil
  | cons e l ih =>
    obtain ⟨⟨-, -, hcode⟩, htail⟩ := h
    intro e' he'
    rcases List.mem_cons.mp he' with rfl | he'
    · exact hcode
    · exact ih htail e' he'

/-- **What is verified is the chain of its bodies.** -/
theorem verified_iff {n : Int} {p : μ} {l : List (Link α μ)} :
    Verified code n p l ↔ l = links code n p (l.map Link.body) := by
  induction l generalizing n p with
  | nil => exact iff_of_true trivial rfl
  | cons e l ih =>
    obtain ⟨index, body, previous, c⟩ := e
    rw [List.map_cons, links, List.cons.injEq, Link.mk.injEq]
    constructor
    · rintro ⟨⟨hindex, hprevious, hcode⟩, htail⟩
      dsimp only at hindex hprevious hcode htail ⊢
      subst hindex hprevious hcode
      exact ⟨⟨rfl, rfl, rfl, rfl⟩, ih.mp htail⟩
    · rintro ⟨⟨hindex, -, hprevious, hcode⟩, htail⟩
      dsimp only at hindex hprevious hcode htail
      subst hindex hprevious hcode
      exact ⟨⟨rfl, rfl, rfl⟩, ih.mpr htail⟩

theorem verified_links (n : Int) (p : μ) (l : List α) : Verified code n p (links code n p l) := by
  rw [verified_iff, map_body_links]

/-- **What is verified and made of known links is a beginning of what is known.** -/
theorem prefix_of_known {n : Int} {p : μ} {l : List (Link α μ)} {known : List α}
    (h : Verified code n p l) (hknown : ∀ e ∈ l, e ∈ links code n p known) :
    l.map Link.body <+: known := by
  induction l generalizing n p known with
  | nil => exact List.nil_prefix
  | cons e l ih =>
    obtain ⟨⟨hindex, -, -⟩, htail⟩ := h
    cases known with
    | nil => exact absurd (hknown e List.mem_cons_self) List.not_mem_nil
    | cons a known =>
      -- only the first known link has the first index
      have hfirst : e = ⟨n, a, p, code n a p⟩ := by
        rcases List.mem_cons.mp (hknown e List.mem_cons_self) with he | he
        · exact he
        · have hbound := (index_of_mem he).1
          omega
      subst hfirst
      rw [List.map_cons]
      refine (List.prefix_cons_inj a).mpr (ih htail fun e' he' => ?_)
      rcases List.mem_cons.mp (hknown e' (List.mem_cons_of_mem _ he')) with rfl | hmem
      · have hbound := index_of_verified htail _ he'
        dsimp only at hbound
        omega
      · exact hmem

end NightRecon.Lib.CodeChain
