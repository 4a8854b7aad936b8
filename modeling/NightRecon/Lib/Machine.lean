import Mathlib.Data.List.Basic
import Mathlib.Data.List.Induction
import Mathlib.Data.List.Nodup

/-!
# Runs of a machine that answers calls

A machine is a function from a state and a call to the next state and a response.  A run is a
list of calls played one after another; its trace pairs every call with its response.

* `final`, `trace` — the state and the trace of a run;
* `run_induct` — what holds of the empty trace and is kept by every call holds of every run;
* `invariant` — the same for a property of states; `Throughout`, `invariant_of_throughout` — for
  runs whose calls all meet a condition;
* `count` — how many calls of a run were made in a state with a property;
* `trace_split` — a trace cut in the middle is two runs joined at the state between them.
-/

namespace NightRecon.Lib.Machine

variable {σ α β : Type}

/-- The state after a list of calls. -/
def final (step : σ → α → σ × β) (s : σ) (calls : List α) : σ :=
  calls.foldl (fun s a => (step s a).1) s

/-- The calls of a run with their responses. -/
def trace (step : σ → α → σ × β) : σ → List α → List (α × β)
  | _, [] => []
  | s, a :: calls => (a, (step s a).2) :: trace step (step s a).1 calls

variable {step : σ → α → σ × β}

@[simp] theorem final_nil (s : σ) : final step s [] = s := rfl

@[simp] theorem trace_nil (s : σ) : trace step s [] = [] := rfl

@[simp] theorem final_cons (s : σ) (a : α) (calls : List α) :
    final step s (a :: calls) = final step (step s a).1 calls := rfl

@[simp] theorem trace_cons (s : σ) (a : α) (calls : List α) :
    trace step s (a :: calls) = (a, (step s a).2) :: trace step (step s a).1 calls := rfl

theorem final_append (s : σ) (calls calls' : List α) :
    final step s (calls ++ calls') = final step (final step s calls) calls' := by
  simp [final, List.foldl_append]

theorem trace_append (s : σ) (calls calls' : List α) :
    trace step s (calls ++ calls') =
      trace step s calls ++ trace step (final step s calls) calls' := by
  induction calls generalizing s with
  | nil => rfl
  | cons a calls ih => simp [ih]

theorem trace_concat (s : σ) (calls : List α) (a : α) :
    trace step s (calls ++ [a]) =
      trace step s calls ++ [(a, (step (final step s calls) a).2)] := by
  rw [trace_append, trace_cons, trace_nil]

theorem final_concat (s : σ) (calls : List α) (a : α) :
    final step s (calls ++ [a]) = (step (final step s calls) a).1 := by
  rw [final_append, final_cons, final_nil]

/-- **Induction over a run.**  `P` relates the trace so far to the state reached. -/
theorem run_induct {P : List (α × β) → σ → Prop} {s : σ} (hinit : P [] s)
    (hstep : ∀ tr s a, P tr s → P (tr ++ [(a, (step s a).2)]) (step s a).1)
    (calls : List α) : P (trace step s calls) (final step s calls) := by
  induction calls using List.reverseRecOn with
  | nil => exact hinit
  | append_singleton calls a ih =>
    rw [trace_append, final_append]
    exact hstep _ _ _ ih

/-- **The invariant rule.**  A property of states that every call keeps holds at the end. -/
theorem invariant {I : σ → Prop} (hstep : ∀ s a, I s → I (step s a).1) {s : σ} (hs : I s)
    (calls : List α) : I (final step s calls) :=
  run_induct (P := fun _ s => I s) hs (fun _ s a h => hstep s a h) calls

/-- Every call of a run is made in a state in which it meets the condition `C`. -/
def Throughout (step : σ → α → σ × β) (C : σ → α → Prop) (s : σ) (calls : List α) : Prop :=
  ∀ before a after, calls = before ++ a :: after → C (final step s before) a

theorem throughout_nil {C : σ → α → Prop} (s : σ) : Throughout step C s [] := by
  intro before a after hcalls
  exact absurd hcalls (List.append_ne_nil_of_right_ne_nil _ (List.cons_ne_nil _ _)).symm

theorem throughout_cons {C : σ → α → Prop} {s : σ} {a : α} {calls : List α} (ha : C s a)
    (h : Throughout step C (step s a).1 calls) : Throughout step C s (a :: calls) := by
  intro before b after hcalls
  cases before with
  | nil =>
    obtain ⟨rfl, -⟩ := List.cons.inj hcalls
    exact ha
  | cons c before =>
    obtain ⟨rfl, hrest⟩ := List.cons.inj hcalls
    exact h before b after hrest

theorem Throughout.prefix {C : σ → α → Prop} {s : σ} {calls calls' : List α}
    (h : Throughout step C s (calls ++ calls')) : Throughout step C s calls := by
  intro before a after hcalls
  apply h before a (after ++ calls')
  rw [hcalls, List.append_assoc, List.cons_append]

theorem Throughout.suffix {C : σ → α → Prop} {s : σ} {calls calls' : List α}
    (h : Throughout step C s (calls ++ calls')) :
    Throughout step C (final step s calls) calls' := by
  intro before a after hcalls
  rw [← final_append]
  apply h (calls ++ before) a after
  rw [hcalls, List.append_assoc]

/-- **The invariant rule for runs that meet a condition.** -/
theorem invariant_of_throughout {C : σ → α → Prop} {I : σ → Prop}
    (hstep : ∀ s a, C s a → I s → I (step s a).1) {s : σ} (hs : I s) {calls : List α}
    (h : Throughout step C s calls) : I (final step s calls) := by
  induction calls using List.reverseRecOn with
  | nil => exact hs
  | append_singleton calls a ih =>
    rw [final_concat]
    exact hstep _ _ (h calls a [] rfl) (ih h.prefix)

/-- **Induction over a run that meets a condition.** -/
theorem run_induct_of_throughout {C : σ → α → Prop} {P : List (α × β) → σ → Prop} {s : σ}
    (hinit : P [] s)
    (hstep : ∀ tr s a, C s a → P tr s → P (tr ++ [(a, (step s a).2)]) (step s a).1)
    {calls : List α} (h : Throughout step C s calls) :
    P (trace step s calls) (final step s calls) := by
  induction calls using List.reverseRecOn with
  | nil => exact hinit
  | append_singleton calls a ih =>
    rw [trace_concat, final_concat]
    exact hstep _ _ _ (h calls a [] rfl) (ih h.prefix)

/-- A trace cut in two: the calls behind the cut were played from the state at the cut. -/
theorem trace_split {s : σ} {calls : List α} {pre post : List (α × β)}
    (h : trace step s calls = pre ++ post) :
    ∃ before after, calls = before ++ after ∧ trace step s before = pre ∧
      trace step (final step s before) after = post := by
  induction pre generalizing s calls with
  | nil => exact ⟨[], calls, rfl, rfl, h⟩
  | cons e pre ih =>
    cases calls with
    | nil => cases h
    | cons a calls =>
      rw [trace_cons, List.cons_append, List.cons.injEq] at h
      obtain ⟨before, after, hcalls, hpre, hpost⟩ := ih h.2
      refine ⟨a :: before, after, by rw [hcalls, List.cons_append], ?_, hpost⟩
      rw [trace_cons, hpre, h.1]

/-- A trace cut at one of its entries. -/
theorem trace_split_at {s : σ} {calls : List α} {pre post : List (α × β)} {e : α × β}
    (h : trace step s calls = pre ++ e :: post) :
    ∃ before after, calls = before ++ e.1 :: after ∧ trace step s before = pre ∧
      e.2 = (step (final step s before) e.1).2 ∧
      trace step (step (final step s before) e.1).1 after = post := by
  obtain ⟨before, after, hcalls, hpre, hpost⟩ := trace_split h
  cases after with
  | nil => cases hpost
  | cons a after =>
    rw [trace_cons, List.cons.injEq] at hpost
    obtain ⟨rfl, htail⟩ := hpost
    exact ⟨before, after, hcalls, hpre, rfl, htail⟩

/-- **Once and for all.**  When a call establishes `I`, every later call keeps it, and no state
with `I` answers a call in a bad way, then nothing bad comes after. -/
theorem never_after {I : σ → Prop} {good : α × β → Prop}
    (hkeep : ∀ s a, I s → I (step s a).1) (hgood : ∀ s a, I s → good (a, (step s a).2))
    {s : σ} (hs : I s) (calls : List α) : ∀ e ∈ trace step s calls, good e := by
  induction calls generalizing s with
  | nil => simp
  | cons a calls ih =>
    rw [trace_cons]
    intro e he
    rcases List.mem_cons.mp he with rfl | he
    · exact hgood s a hs
    · exact ih (hkeep s a hs) e he

/-! ## Counting -/

/-- The number of calls of a run that were made in a state with `p`. -/
def count (step : σ → α → σ × β) (p : σ → α → Bool) (s : σ) : List α → Nat
  | [] => 0
  | a :: calls => (p s a).toNat + count step p (step s a).1 calls

@[simp] theorem count_nil {p : σ → α → Bool} (s : σ) : count step p s [] = 0 := rfl

theorem count_concat {p : σ → α → Bool} (s : σ) (calls : List α) (a : α) :
    count step p s (calls ++ [a]) =
      count step p s calls + (p (final step s calls) a).toNat := by
  induction calls generalizing s with
  | nil => simp [count]
  | cons b calls ih =>
    rw [List.cons_append, count, ih, count, final_cons, Nat.add_assoc]

/-! ## Transactions -/

/-- The body of a transaction reads the state and either raises or gives a value with the state to
commit.  Raising rolls back. -/
def transaction {ε γ : Type} (body : σ → Except ε (γ × σ)) (s : σ) : σ × Except ε γ :=
  match body s with
  | .ok (c, s') => (s', .ok c)
  | .error e => (s, .error e)

theorem transaction_error {ε γ : Type} {body : σ → Except ε (γ × σ)} {s : σ} {e : ε}
    (h : (transaction body s).2 = .error e) : (transaction body s).1 = s := by
  unfold transaction at *
  split at h <;> simp_all

theorem transaction_ok {ε γ : Type} {body : σ → Except ε (γ × σ)} {s : σ} {c : γ}
    (h : (transaction body s).2 = .ok c) : body s = .ok (c, (transaction body s).1) := by
  unfold transaction at *
  split at h <;> simp_all

end NightRecon.Lib.Machine
