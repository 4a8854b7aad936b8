import NightRecon.Lib.Dict
import NightRecon.Lib.Machine
import NightRecon.Lib.Proc

/-!
# Stores that only grow

A store holds values under the keys they carry.  `create` stores a new value and refuses another
one under its key; `advance` replaces a stored value by one that passes a check against it.

* `Kind` — what such a store needs to know of its values; `create`, `advance` — its operations;
* `Call`, `step` — a machine that answers calls of the two;
* `create_spec`, `advance_spec` — what a call did, by how it ended;
* `kept` — when the check implies a preorder, every stored value is below what is stored under its
  key later.
-/

namespace NightRecon.Lib.AppendOnly

variable {α ε : Type}

/-- What a store needs to know of its values: the key, when a value counts as stored already, the
check of a replacement, and the errors. -/
structure Kind (α ε : Type) where
  key : α → String
  Same : α → α → Prop
  decidableSame : ∀ a b, Decidable (Same a b)
  check : α → α → Except ε Unit
  conflict : α → ε
  notFound : α → ε

namespace Kind

variable (k : Kind α ε)

/-- Store a new value; a value that is stored already stays. -/
def create (a : α) : Proc ε (Dict String α) Unit := do
  let stored ← Proc.get
  match stored.lookup (k.key a) with
  | none => Proc.modify fun d => d.insert (k.key a) a
  | some existing =>
      haveI := k.decidableSame existing a
      Proc.ofExcept (Checks.require (k.Same existing a) (k.conflict a))

/-- Replace a stored value. -/
def advance (a : α) : Proc ε (Dict String α) Unit := do
  let stored ← Proc.get
  let previous ← Proc.ofExcept (Checks.getOrRaise (stored.lookup (k.key a)) (k.notFound a))
  Proc.ofExcept (k.check previous a)
  Proc.modify fun d => d.insert (k.key a) a

/-- **What `create` did.** -/
theorem create_spec (a : α) (d : Dict String α) :
    (k.create a d = (.ok (), d.insert (k.key a) a) ∧ d.lookup (k.key a) = none) ∨
      ((k.create a d).2 = d) := by
  unfold create
  rw [Proc.bind_of_ok (Proc.get_apply d)]
  cases hd : d.lookup (k.key a) with
  | none => exact .inl ⟨rfl, rfl⟩
  | some existing => exact .inr rfl

/-- **What `advance` did.** -/
theorem advance_spec (a : α) (d : Dict String α) :
    (∃ previous, k.advance a d = (.ok (), d.insert (k.key a) a) ∧
        d.lookup (k.key a) = some previous ∧ k.check previous a = .ok ()) ∨
      ∃ e, k.advance a d = (.error e, d) := by
  unfold advance
  simp only [Proc.bind_apply, Proc.get_apply, Proc.ofExcept_apply, Proc.modify_apply]
  cases hd : d.lookup (k.key a) with
  | none => exact .inr ⟨_, rfl⟩
  | some previous =>
    rw [Checks.getOrRaise_some]
    cases hcheck : k.check previous a with
    | ok u => exact .inl ⟨previous, by simp only [hcheck], rfl, hcheck⟩
    | error e => exact .inr ⟨e, by simp only [hcheck]⟩

end Kind

/-! ## Runs -/

/-- A call of a store. -/
inductive Call (α : Type) where
  | create (value : α)
  | advance (value : α)

/-- The value a call was given. -/
def Call.value : Call α → α
  | .create a => a
  | .advance a => a

/-- A store that answers one call. -/
def step (k : Kind α ε) (d : Dict String α) : Call α → Dict String α × Except ε Unit
  | .create a => ((k.create a d).2, (k.create a d).1)
  | .advance a => ((k.advance a d).2, (k.advance a d).1)

variable {k : Kind α ε}

/-- **A rejected call changes nothing.** -/
theorem step_error {d : Dict String α} {call : Call α} {e : ε} (h : (step k d call).2 = .error e) :
    (step k d call).1 = d := by
  cases call with
  | create a =>
    rcases k.create_spec a d with ⟨hcreate, -⟩ | hsame
    · rw [step, hcreate] at h
      exact absurd h (by simp)
    · exact hsame
  | advance a =>
    rcases k.advance_spec a d with ⟨previous, hadvance, -, -⟩ | ⟨e', hadvance⟩
    · rw [step, hadvance] at h
      exact absurd h (by simp)
    · rw [step, hadvance]

/-- **What one call stores**: under each key what was there, or a value of the call that is new or
passed the check against what was there. -/
theorem step_lookup (d : Dict String α) (call : Call α) (key : String) :
    (step k d call).1.lookup key = d.lookup key ∨
      (step k d call).1.lookup key = some call.value ∧
        ∀ previous ∈ d.lookup key, k.check previous call.value = .ok () := by
  cases call with
  | create a =>
    rcases k.create_spec a d with ⟨hcreate, hnew⟩ | hsame
    · rw [step, hcreate, Dict.lookup_insert_eq]
      by_cases hkey : key = k.key a
      · refine .inr ⟨if_pos hkey, fun previous hprevious => ?_⟩
        rw [hkey, hnew] at hprevious
        exact absurd hprevious (Option.not_mem_none _)
      · exact .inl (if_neg hkey)
    · rw [step, hsame]
      exact .inl rfl
  | advance a =>
    rcases k.advance_spec a d with ⟨previous, hadvance, hstored, hcheck⟩ | ⟨e, hadvance⟩
    · rw [step, hadvance, Dict.lookup_insert_eq]
      by_cases hkey : key = k.key a
      · refine .inr ⟨if_pos hkey, fun previous' hprevious => ?_⟩
        rw [hkey, hstored, Option.mem_def, Option.some.injEq] at hprevious
        exact hprevious ▸ hcheck
      · exact .inl (if_neg hkey)
    · rw [step, hadvance]
      exact .inl rfl

/-- Everything a store holds has the property `P`. -/
def Holds (P : α → Prop) (d : Dict String α) : Prop := ∀ key, ∀ a ∈ d.lookup key, P a

theorem holds_empty (P : α → Prop) : Holds P ∅ := by
  intro key a ha
  rw [Finmap.lookup_empty] at ha
  exact absurd ha (Option.not_mem_none _)

theorem holds_step {P : α → Prop} {d : Dict String α} {call : Call α} (hd : Holds P d)
    (hcall : P call.value) : Holds P (step k d call).1 := by
  intro key a ha
  rcases step_lookup (k := k) d call key with hsame | ⟨hnew, -⟩
  · rw [hsame] at ha
    exact hd key a ha
  · rw [hnew, Option.mem_def, Option.some.injEq] at ha
    exact ha ▸ hcall

/-- Every value stored is below what is stored under its key in the other store. -/
def Below (R : α → α → Prop) (d d' : Dict String α) : Prop :=
  ∀ key, ∀ a ∈ d.lookup key, ∃ a' ∈ d'.lookup key, R a a'

section Kept

variable {R : α → α → Prop} {P : α → Prop}

theorem below_step (hrefl : ∀ a, R a a)
    (hcheck : ∀ a b, P a → P b → k.check a b = .ok () → R a b) {d : Dict String α}
    {call : Call α} (hd : Holds P d) (hcall : P call.value) : Below R d (step k d call).1 := by
  intro key a ha
  rcases step_lookup (k := k) d call key with hsame | ⟨hnew, hpassed⟩
  · rw [hsame]
    exact ⟨a, ha, hrefl a⟩
  · exact ⟨call.value, hnew, hcheck a call.value (hd key a ha) hcall (hpassed a ha)⟩

/-- **What is stored is kept**, over every run of calls with values of the kind `P`. -/
theorem kept (hrefl : ∀ a, R a a) (htrans : ∀ a b c, R a b → R b c → R a c)
    (hcheck : ∀ a b, P a → P b → k.check a b = .ok () → R a b) {d : Dict String α}
    (hd : Holds P d) {calls : List (Call α)} (hcalls : ∀ call ∈ calls, P call.value) :
    Below R d (Machine.final (step k) d calls) := by
  induction calls generalizing d with
  | nil => exact fun key a ha => ⟨a, ha, hrefl a⟩
  | cons call calls ih =>
    rw [List.forall_mem_cons] at hcalls
    rw [Machine.final_cons]
    have hrest := ih (holds_step (k := k) hd hcalls.1) hcalls.2
    intro key a ha
    obtain ⟨b, hb, hab⟩ := below_step hrefl hcheck hd hcalls.1 key a ha
    obtain ⟨c, hc, hbc⟩ := hrest key b hb
    exact ⟨c, hc, htrans a b c hab hbc⟩

theorem holds_final {d : Dict String α} (hd : Holds P d) {calls : List (Call α)}
    (hcalls : ∀ call ∈ calls, P call.value) : Holds P (Machine.final (step k) d calls) := by
  induction calls generalizing d with
  | nil => exact hd
  | cons call calls ih =>
    rw [List.forall_mem_cons] at hcalls
    exact ih (holds_step hd hcalls.1) hcalls.2

/-- What is stored at one moment of a run is kept until a later one. -/
theorem kept_between (hrefl : ∀ a, R a a) (htrans : ∀ a b c, R a b → R b c → R a c)
    (hcheck : ∀ a b, P a → P b → k.check a b = .ok () → R a b) {d : Dict String α}
    (hd : Holds P d) {before after : List (Call α)}
    (hcalls : ∀ call ∈ before ++ after, P call.value) :
    Below R (Machine.final (step k) d before) (Machine.final (step k) d (before ++ after)) := by
  rw [List.forall_mem_append] at hcalls
  rw [Machine.final_append]
  exact kept hrefl htrans hcheck (holds_final hd hcalls.1) hcalls.2

end Kept

end NightRecon.Lib.AppendOnly
