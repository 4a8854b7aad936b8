import Mathlib.Data.List.Basic
import Mathlib.Data.List.Forall2
import Mathlib.Data.List.Nodup

/-!
# Commitments by digest

A digest that has no collision among the texts it was applied to commits to them: lists of digests
that agree come from lists of texts that agree, and a list of digests that begins another comes from
a prefix.

* `NoCollision digest texts` — the digest is injective on the listed texts;
* `forall₂_of_map_eq` — lists with equal images are related element by element;
* `eq_of_map_eq`, `prefix_of_map_take` — the two uses for a function that is injective on the
  elements of the lists.
-/

namespace NightRecon.Lib.Commitment

variable {α β γ τ δ : Type}

/-! ## Digests without collisions -/

/-- No two different texts of the list have the same digest. -/
def NoCollision (digest : τ → δ) (texts : List τ) : Prop :=
  ∀ s ∈ texts, ∀ t ∈ texts, digest s = digest t → s = t

instance [DecidableEq τ] [DecidableEq δ] (digest : τ → δ) (texts : List τ) :
    Decidable (NoCollision digest texts) :=
  inferInstanceAs (Decidable (∀ s ∈ texts, ∀ t ∈ texts, digest s = digest t → s = t))

variable {digest : τ → δ} {texts texts' : List τ}

theorem NoCollision.mono (h : NoCollision digest texts') (hsub : texts ⊆ texts') :
    NoCollision digest texts :=
  fun s hs t ht => h s (hsub hs) t (hsub ht)

/-- Texts whose digests all differ do not collide. -/
theorem noCollision_of_nodup (h : (texts.map digest).Nodup) : NoCollision digest texts :=
  fun _ hs _ ht heq => List.inj_on_of_nodup_map h hs ht heq

/-! ## Lists of digests -/

/-- Lists with equal images are related element by element, when equal images are. -/
theorem forall₂_of_map_eq {R : α → β → Prop} {f : α → γ} {g : β → γ} {l : List α} {l' : List β}
    (h : l.map f = l'.map g) (hR : ∀ a ∈ l, ∀ b ∈ l', f a = g b → R a b) :
    List.Forall₂ R l l' := by
  induction l generalizing l' with
  | nil =>
    rw [List.map_nil, eq_comm, List.map_eq_nil_iff] at h
    subst h
    exact .nil
  | cons a l ih =>
    cases l' with
    | nil => exact absurd h (List.cons_ne_nil _ _)
    | cons b l' =>
      rw [List.map_cons, List.map_cons, List.cons.injEq] at h
      refine .cons (hR a List.mem_cons_self b List.mem_cons_self h.1) ?_
      exact ih h.2 fun x hx y hy => hR x (List.mem_cons_of_mem _ hx) y (List.mem_cons_of_mem _ hy)

theorem eq_of_map_eq {f : α → γ} {l l' : List α} (h : l.map f = l'.map f)
    (hf : ∀ a ∈ l, ∀ b ∈ l', f a = f b → a = b) : l = l' :=
  List.forall₂_eq_eq_eq ▸ forall₂_of_map_eq h hf

/-- **A list of digests that begins another comes from a prefix.** -/
theorem prefix_of_map_take {f : α → γ} {l l' : List α}
    (h : (l'.map f).take (l.map f).length = l.map f)
    (hf : ∀ a ∈ l, ∀ b ∈ l', f a = f b → a = b) : l <+: l' := by
  rw [List.length_map, ← List.map_take, eq_comm] at h
  have heq : l = l'.take l.length :=
    eq_of_map_eq h fun a ha b hb => hf a ha b (List.mem_of_mem_take hb)
  rw [heq]
  exact List.take_prefix _ _

end NightRecon.Lib.Commitment
