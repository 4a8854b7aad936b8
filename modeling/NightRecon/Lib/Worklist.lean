import NightRecon.Lib.Checks
import Mathlib.Data.List.Nodup
import Mathlib.Data.List.Infix
import Mathlib.Logic.Relation

/-!
# Worklists with a limit

Items are visited in the order in which they were queued.  A visit gives a page, and what a page
links is queued unless it was queued before or the limit is reached.

* `Work`, `offer`, `run` — the items that wait, all that were queued and the pages; one link; the
  visits;
* `offerAll_spec` — what the links of one page do to the queue;
* `Worked` — the invariant, kept by `Worked.step` and `Worked.run`;
* `Reported`, `Reported.reachable` — every page but the first is linked by an earlier one;
* `Finished`, `run_law` — what a run from one item gives; `Finished.closure` — below the limit the
  visited items are all that are reached from it; `run_visited`;
* `Asks`, `run_returns_iff` — the visits of a run, and when it returns.
-/

namespace NightRecon.Lib.Worklist

open NightRecon.Lib.Checks

variable {α β ε : Type}

structure Work (α β : Type) where
  pending : List α
  queued : List α
  done : List β

section Visits

variable [DecidableEq α]

/-- Queue one link. -/
def offer (limit : Nat) (w : Work α β) (a : α) : Work α β :=
  if a ∉ w.queued ∧ w.queued.length < limit then
    ⟨w.pending ++ [a], w.queued ++ [a], w.done⟩
  else w

/-- Visit the queued items; `fuel` is the number of pages that are left. -/
def run (limit : Nat) (visit : List β → α → Except ε β) (links : β → List α) :
    Nat → Work α β → Except ε (List β)
  | 0, w => return w.done
  | fuel + 1, w =>
    match w.pending with
    | [] => return w.done
    | a :: rest => do
      let page ← visit w.done a
      run limit visit links fuel
        ((links page).foldl (offer limit) ⟨rest, w.queued, w.done ++ [page]⟩)

/-! ## The links of a page -/

/-- **What the links of one page do**: some of them are queued, each once and within the limit, and
below the limit none is left out. -/
theorem offerAll_spec (limit : Nat) (l : List α) (w : Work α β) : ∃ new,
    l.foldl (offer limit) w = ⟨w.pending ++ new, w.queued ++ new, w.done⟩ ∧
      (∀ a ∈ new, a ∈ l) ∧ (w.queued.Nodup → (w.queued ++ new).Nodup) ∧
      (w.queued.length ≤ limit → (w.queued ++ new).length ≤ limit) ∧
      ((w.queued ++ new).length < limit → ∀ a ∈ l, a ∈ w.queued ++ new) := by
  induction l generalizing w with
  | nil =>
    refine ⟨[], ?_, fun a ha => ha, ?_, ?_, fun _ a ha => absurd ha List.not_mem_nil⟩
    · rw [List.foldl_nil, List.append_nil, List.append_nil]
    · rw [List.append_nil]
      exact id
    · rw [List.append_nil]
      exact id
  | cons a l ih =>
    rw [List.foldl_cons]
    by_cases hnew : a ∉ w.queued ∧ w.queued.length < limit
    · have hoffer : offer limit w a = ⟨w.pending ++ [a], w.queued ++ [a], w.done⟩ := if_pos hnew
      obtain ⟨new, hfold, hsub, hnodup, hlimit, hall⟩ := ih (offer limit w a)
      rw [hoffer] at hfold hnodup hlimit hall
      dsimp only at hfold hnodup hlimit hall
      have hassoc : w.queued ++ [a] ++ new = w.queued ++ a :: new := by
        rw [List.append_assoc, List.singleton_append]
      rw [hassoc] at hfold hnodup hlimit hall
      refine ⟨a :: new, ?_, ?_, ?_, ?_, ?_⟩
      · rw [hoffer, hfold, List.append_assoc, List.singleton_append]
      · intro b hb
        rcases List.mem_cons.mp hb with rfl | hb
        · exact List.mem_cons_self
        · exact List.mem_cons_of_mem _ (hsub b hb)
      · intro hw
        exact hnodup (hw.append (List.nodup_singleton a) (List.disjoint_singleton.mpr hnew.1))
      · intro _
        apply hlimit
        rw [List.length_append]
        exact hnew.2
      · intro hlt b hb
        rcases List.mem_cons.mp hb with rfl | hb
        · exact List.mem_append_right _ List.mem_cons_self
        · exact hall hlt b hb
    · have hoffer : offer limit w a = w := if_neg hnew
      obtain ⟨new, hfold, hsub, hnodup, hlimit, hall⟩ := ih w
      rw [hoffer]
      refine ⟨new, hfold, fun b hb => List.mem_cons_of_mem _ (hsub b hb), hnodup, hlimit, ?_⟩
      intro hlt b hb
      rcases List.mem_cons.mp hb with rfl | hb
      · -- below the limit only an item that was queued before is left out
        by_contra hnot
        rw [List.length_append] at hlt
        exact hnew ⟨fun hmem => hnot (List.mem_append_left _ hmem), by omega⟩
      · exact hall hlt b hb

end Visits

/-! ## The invariant -/

section Invariant

variable (item : β → α) (links : β → List α) (start : α)

/-- Every page but that of the start is linked by an earlier one. -/
def Reported (pages : List β) : Prop :=
  ∀ before page after, pages = before ++ page :: after →
    item page = start ∨ ∃ earlier ∈ before, item page ∈ links earlier

/-- A page links an item. -/
def Linked (pages : List β) (a b : α) : Prop := ∃ page ∈ pages, item page = a ∧ b ∈ links page

/-- How far the visits have come. -/
structure Worked (limit : Nat) (w : Work α β) : Prop where
  queue : w.queued = w.done.map item ++ w.pending
  start_mem : start ∈ w.queued
  nodup : w.queued.Nodup
  bound : w.queued.length ≤ limit
  reported : Reported item links start w.done
  waiting : ∀ a ∈ w.pending, a = start ∨ ∃ page ∈ w.done, a ∈ links page
  complete : w.queued.length < limit → ∀ page ∈ w.done, ∀ a ∈ links page, a ∈ w.queued

variable {item links start} {limit : Nat} {w : Work α β}

theorem Reported.concat {pages : List β} (h : Reported item links start pages) {page : β}
    (hpage : item page = start ∨ ∃ earlier ∈ pages, item page ∈ links earlier) :
    Reported item links start (pages ++ [page]) := by
  intro before q after heq
  rcases List.eq_nil_or_concat after with rfl | ⟨front, last, rfl⟩
  · obtain ⟨rfl, hq⟩ := List.append_inj' heq rfl
    obtain rfl := List.singleton_inj.mp hq
    exact hpage
  · rw [List.concat_eq_append, ← List.cons_append, ← List.append_assoc] at heq
    obtain ⟨hpages, -⟩ := List.append_inj' heq rfl
    exact h before q front hpages

/-- **Every page was reached from the start.** -/
theorem Reported.reachable {pages : List β} (h : Reported item links start pages) {page : β}
    (hpage : page ∈ pages) :
    Relation.ReflTransGen (Linked item links pages) start (item page) := by
  obtain ⟨before, after, heq⟩ := List.append_of_mem hpage
  -- the pages in front of a page are fewer than those in front of a later one
  induction hlength : before.length using Nat.strong_induction_on
    generalizing before page after with
  | _ n ih =>
    rcases h before page after heq with hstart | ⟨earlier, hearlier, hlink⟩
    · rw [hstart]
    · obtain ⟨front, between, rfl⟩ := List.append_of_mem hearlier
      have hfront : pages = front ++ earlier :: (between ++ page :: after) := by
        rw [heq, List.append_assoc, List.cons_append]
      have hmem : earlier ∈ pages := by
        rw [hfront]
        exact List.mem_append_right _ List.mem_cons_self
      have hshort : front.length < n := by
        rw [← hlength, List.length_append, List.length_cons]
        omega
      have hreached := ih front.length hshort hmem front _ hfront rfl
      exact hreached.tail ⟨earlier, hmem, rfl, hlink⟩

theorem Worked.initial (hlimit : 0 < limit) (a : α) :
    Worked item links a limit (⟨[a], [a], []⟩ : Work α β) := by
  refine ⟨rfl, List.mem_singleton.mpr rfl, List.nodup_singleton a, hlimit, ?_, ?_, ?_⟩
  · intro before page after heq
    exact absurd heq (List.append_ne_nil_of_right_ne_nil _ (List.cons_ne_nil _ _)).symm
  · intro b hb
    exact .inl (List.mem_singleton.mp hb)
  · intro _ page hpage
    exact absurd hpage List.not_mem_nil

section Steps

variable [DecidableEq α]

/-- **One visit keeps the invariant.** -/
theorem Worked.step {a : α} {rest : List α} {page : β} (h : Worked item links start limit w)
    (hpending : w.pending = a :: rest) (hitem : item page = a) :
    Worked item links start limit
      ((links page).foldl (offer limit) ⟨rest, w.queued, w.done ++ [page]⟩) := by
  obtain ⟨new, hfold, hsub, hnodup, hlimit, hall⟩ := offerAll_spec limit (links page)
    (⟨rest, w.queued, w.done ++ [page]⟩ : Work α β)
  rw [hfold]
  dsimp only at hnodup hlimit hall ⊢
  have hold : ∀ b, (∃ q ∈ w.done, b ∈ links q) → ∃ q ∈ w.done ++ [page], b ∈ links q := by
    rintro b ⟨q, hq, hb⟩
    exact ⟨q, List.mem_append_left _ hq, hb⟩
  refine ⟨?_, List.mem_append_left _ h.start_mem, hnodup h.nodup, hlimit h.bound, ?_, ?_, ?_⟩
  · rw [h.queue, hpending, List.map_append, List.map_cons, List.map_nil, hitem]
    simp only [List.append_assoc, List.cons_append, List.nil_append]
  · apply h.reported.concat
    rw [hitem]
    exact h.waiting a (by rw [hpending]; exact List.mem_cons_self)
  · intro b hb
    rcases List.mem_append.mp hb with hb | hb
    · have hwait := h.waiting b (by rw [hpending]; exact List.mem_cons_of_mem _ hb)
      exact hwait.imp_right (hold b)
    · exact .inr ⟨page, List.mem_append_right _ (List.mem_singleton.mpr rfl), hsub b hb⟩
  · intro hlt q hq b hb
    rcases List.mem_append.mp hq with hq | hq
    · have hless : w.queued.length < limit := by
        rw [List.length_append] at hlt
        omega
      exact List.mem_append_left _ (h.complete hless q hq b hb)
    · obtain rfl := List.mem_singleton.mp hq
      exact hall hlt b hb

end Steps

/-- What holds of the pages of a run. -/
structure Finished (item : β → α) (links : β → List α) (start : α) (limit : Nat)
    (pages : List β) : Prop where
  once : (pages.map item).Nodup
  bounded : pages.length ≤ limit
  reported : Reported item links start pages
  started : pages.length < limit → start ∈ pages.map item
  complete : pages.length < limit → ∀ page ∈ pages, ∀ a ∈ links page, a ∈ pages.map item

/-- **The visits keep the invariant to their end.** -/
theorem Worked.run [DecidableEq α] {visit : List β → α → Except ε β}
    (hvisit : ∀ pages a page, visit pages a = .ok page → item page = a) :
    ∀ (fuel : Nat) (w : Work α β) (pages : List β), Worked item links start limit w →
      limit ≤ w.done.length + fuel → Worklist.run limit visit links fuel w = .ok pages →
      Finished item links start limit pages := by
  intro fuel
  induction fuel with
  | zero =>
    intro w pages h hfuel hrun
    obtain rfl : w.done = pages := Except.ok.inj hrun
    have hlength := h.bound
    rw [h.queue, List.length_append, List.length_map] at hlength
    have hnodup := h.nodup
    rw [h.queue] at hnodup
    refine ⟨hnodup.of_append_left, by omega, h.reported, ?_, ?_⟩
    · intro hlt
      omega
    · intro hlt
      omega
  | succ fuel ih =>
    intro w pages h hfuel hrun
    rw [Worklist.run] at hrun
    cases hpending : w.pending with
    | nil =>
      rw [hpending] at hrun
      obtain rfl : w.done = pages := Except.ok.inj hrun
      have hqueue : w.queued = w.done.map item := by
        rw [h.queue, hpending, List.append_nil]
      have hlength : w.queued.length = w.done.length := by
        rw [hqueue, List.length_map]
      refine ⟨?_, ?_, h.reported, ?_, ?_⟩
      · rw [← hqueue]
        exact h.nodup
      · rw [← hlength]
        exact h.bound
      · intro _
        rw [← hqueue]
        exact h.start_mem
      · intro hlt
        rw [← hqueue]
        exact h.complete (by rw [hlength]; exact hlt)
    | cons a rest =>
      rw [hpending] at hrun
      obtain ⟨page, hpage, hrun⟩ := bind_eq_ok.mp hrun
      refine ih _ pages (h.step hpending (hvisit _ _ _ hpage)) ?_ hrun
      obtain ⟨new, hfold, -⟩ := offerAll_spec limit (links page)
        (⟨rest, w.queued, w.done ++ [page]⟩ : Work α β)
      rw [hfold]
      dsimp only
      rw [List.length_append, List.length_singleton]
      omega

end Invariant

/-! ## Runs from one item -/

section Runs

variable {item : β → α} {links : β → List α} {limit : Nat} {visit : List β → α → Except ε β}
variable {start : α} {pages : List β}

/-- **Below the limit the visited items are all that are reached from the start.** -/
theorem Finished.closure (h : Finished item links start limit pages) (hlt : pages.length < limit)
    (a : α) :
    a ∈ pages.map item ↔ Relation.ReflTransGen (Linked item links pages) start a := by
  constructor
  · intro ha
    obtain ⟨page, hpage, rfl⟩ := List.mem_map.mp ha
    exact h.reported.reachable hpage
  · intro hreach
    induction hreach with
    | refl => exact h.started hlt
    | tail _ hlink _ =>
      obtain ⟨page, hpage, -, hb⟩ := hlink
      exact h.complete hlt page hpage _ hb

variable [DecidableEq α]

/-- **What a run from one item gives.** -/
theorem run_law (hlimit : 0 < limit)
    (hvisit : ∀ pages a page, visit pages a = .ok page → item page = a)
    (h : run limit visit links limit ⟨[start], [start], []⟩ = .ok pages) :
    Finished item links start limit pages := by
  refine Worked.run hvisit limit _ pages (Worked.initial hlimit start) ?_ h
  rw [List.length_nil, Nat.zero_add]

/-- Every page of a run was given by a visit. -/
theorem run_visited {P : β → Prop} (hvisit : ∀ pages a page, visit pages a = .ok page → P page) :
    ∀ (fuel : Nat) (w : Work α β) (pages : List β), (∀ page ∈ w.done, P page) →
      run limit visit links fuel w = .ok pages → ∀ page ∈ pages, P page := by
  intro fuel
  induction fuel with
  | zero =>
    intro w pages hw hrun
    obtain rfl : w.done = pages := Except.ok.inj hrun
    exact hw
  | succ fuel ih =>
    intro w pages hw hrun
    rw [run] at hrun
    cases hpending : w.pending with
    | nil =>
      rw [hpending] at hrun
      obtain rfl : w.done = pages := Except.ok.inj hrun
      exact hw
    | cons a rest =>
      rw [hpending] at hrun
      obtain ⟨page, hpage, hrun⟩ := bind_eq_ok.mp hrun
      refine ih _ pages ?_ hrun
      obtain ⟨new, hfold, -⟩ := offerAll_spec limit (links page)
        (⟨rest, w.queued, w.done ++ [page]⟩ : Work α β)
      rw [hfold]
      intro q hq
      rcases List.mem_append.mp hq with hq | hq
      · exact hw q hq
      · rw [List.mem_singleton.mp hq]
        exact hvisit _ _ _ hpage

/-- **A run visits an item** after it has visited some pages. -/
inductive Asks (limit : Nat) (visit : List β → α → Except ε β) (links : β → List α) :
    Nat → Work α β → List β → α → Prop
  | here (fuel : Nat) (w : Work α β) (a : α) (rest : List α) (hpending : w.pending = a :: rest) :
    Asks limit visit links (fuel + 1) w w.done a
  | later (fuel : Nat) (w : Work α β) (a : α) (rest : List α) (page : β) (pages : List β) (b : α)
    (hpending : w.pending = a :: rest) (hpage : visit w.done a = .ok page)
    (hasks : Asks limit visit links fuel
      ((links page).foldl (offer limit) ⟨rest, w.queued, w.done ++ [page]⟩) pages b) :
    Asks limit visit links (fuel + 1) w pages b

/-- **A run returns exactly when each of its visits does.** -/
theorem run_returns_iff : ∀ (fuel : Nat) (w : Work α β),
    (∃ pages, run limit visit links fuel w = .ok pages) ↔
      ∀ pages a, Asks limit visit links fuel w pages a → ∃ page, visit pages a = .ok page := by
  intro fuel
  induction fuel with
  | zero =>
    intro w
    refine iff_of_true ⟨w.done, rfl⟩ ?_
    intro pages a hasks
    cases hasks
  | succ fuel ih =>
    intro w
    rw [run]
    cases hpending : w.pending with
    | nil =>
      refine iff_of_true ⟨w.done, rfl⟩ ?_
      intro pages a hasks
      cases hasks with
      | here _ _ _ rest h => rw [hpending] at h; cases h
      | later _ _ _ rest _ _ _ h => rw [hpending] at h; cases h
    | cons a rest =>
      dsimp only
      constructor
      · rintro ⟨pages, hrun⟩ earlier b hasks
        obtain ⟨page, hpage, hrun⟩ := bind_eq_ok.mp hrun
        cases hasks with
        | here _ _ _ rest' h =>
          rw [hpending] at h
          obtain ⟨rfl, -⟩ := List.cons.inj h
          exact ⟨page, hpage⟩
        | later _ _ a' rest' page' _ _ h hpage' hasks =>
          rw [hpending] at h
          obtain ⟨rfl, rfl⟩ := List.cons.inj h
          obtain rfl := Except.ok.inj (hpage.symm.trans hpage')
          exact (ih _).mp ⟨pages, hrun⟩ earlier b hasks
      · intro hall
        obtain ⟨page, hpage⟩ := hall w.done a (.here fuel w a rest hpending)
        obtain ⟨pages, hpages⟩ := (ih _).mpr fun earlier b hasks =>
          hall earlier b (.later fuel w a rest page earlier b hpending hpage hasks)
        exact ⟨pages, by rw [hpage, ok_bind, hpages]⟩

/-- Visits that give pages give a run. -/
theorem run_returns (hvisit : ∀ pages a, ∃ page, visit pages a = .ok page) (fuel : Nat)
    (w : Work α β) : ∃ pages, run limit visit links fuel w = .ok pages :=
  (run_returns_iff fuel w).mpr fun pages a _ => hvisit pages a

end Runs

end NightRecon.Lib.Worklist
