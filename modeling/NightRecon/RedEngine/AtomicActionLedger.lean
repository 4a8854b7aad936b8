import NightRecon.Exceptions
import NightRecon.Lib.Dict
import NightRecon.Lib.Machine

/-!
# The atomic action ledger

`nightrecon_red_engine/atomic_action_ledger.py`: a limit, a usage and a revocation flag for each
engagement, and the identifiers of the actions reserved.  Every call is one SQLite transaction.

* `LimitRow`, `Ledger` — the two tables; a row carries the constraints of its columns;
* `Call`, `step` — one committed or rolled back transaction of any caller;
* `Effect` — what a committed call does; `effect_of_ok` says every one does one of these things;
* `LimitRow.Tightens` — a row only ever gets stricter;
* `ledger_run` — limits, usage, revocation and uniqueness over every serialised interleaving.
-/

namespace NightRecon.RedEngine.AtomicActionLedger

open NightRecon.Lib
open NightRecon.Lib.Checks
open NightRecon.Lib.Machine

/-! ## The tables -/

/-- A row of `action_limits`, without its key: a positive limit, and integers of 64 bits. -/
structure LimitRow where
  actionLimit : Nat
  used : Nat
  revoked : Bool
  actionLimit_pos : 0 < actionLimit
  actionLimit_lt : actionLimit < 2 ^ 63
  used_lt : used < 2 ^ 63

/-- The database. -/
structure Ledger where
  actionLimits : Dict String LimitRow
  reservations : List (String × String)

/-- The database the constructor creates. -/
def Ledger.empty : Ledger := ⟨∅, []⟩

/-- Source: `atomic_action_ledger.py` `Reservation`. -/
structure Reservation where
  engagementId : String
  actionId : String
  used : Nat
  limit : Nat
  deriving DecidableEq

/-- Binding an integer that needs more than 64 bits raises. -/
def tooLarge : Exn := ⟨.overflowError, "Python int too large to convert to SQLite INTEGER"⟩

/-- `UPDATE action_limits SET action_limit=MIN(action_limit,?), used=MAX(used,?)`. -/
def LimitRow.merge (row : LimitRow) (limit used : Nat) (hpos : 0 < limit) (hused : used < 2 ^ 63) :
    LimitRow where
  actionLimit := min row.actionLimit limit
  used := max row.used used
  revoked := row.revoked
  actionLimit_pos := lt_min row.actionLimit_pos hpos
  actionLimit_lt := (min_le_left _ _).trans_lt row.actionLimit_lt
  used_lt := max_lt row.used_lt hused

/-- `INSERT … ON CONFLICT(engagement_id) DO UPDATE`. -/
def provisioned (existing : Option LimitRow) (limit : Nat) (revoked : Bool) (hpos : 0 < limit)
    (hlt : limit < 2 ^ 63) : LimitRow :=
  match existing with
  | none => ⟨limit, 0, revoked, hpos, hlt, by norm_num⟩
  | some row => { row.merge limit row.used hpos row.used_lt with revoked := row.revoked || revoked }

/-- `UPDATE action_limits SET used=used+1`, of a row with budget left. -/
def LimitRow.use (row : LimitRow) (h : row.used < row.actionLimit) : LimitRow :=
  { row with used := row.used + 1, used_lt := (Nat.succ_le_of_lt h).trans_lt row.actionLimit_lt }

/-- `UPDATE action_limits SET revoked=1`. -/
def LimitRow.revoke (row : LimitRow) : LimitRow := { row with revoked := true }

/-! ## The calls -/

/-- Source: `atomic_action_ledger.py` `provision`. -/
def provision (engagementId : String) (limit : Int) (revoked : Bool) (l : Ledger) :
    Py (Unit × Ledger) := do
  raiseIf (engagementId = "") (valueError "Invalid action ledger configuration")
  let h₁ ← prove (0 < limit.toNat) (valueError "Invalid action ledger configuration")
  let h₂ ← prove (limit.toNat < 2 ^ 63) tooLarge
  let row := provisioned (l.actionLimits.lookup engagementId) limit.toNat revoked h₁.down h₂.down
  return ((), { l with actionLimits := l.actionLimits.insert engagementId row })

/-- Source: `atomic_action_ledger.py` `revoke`. -/
def revoke (engagementId : String) (l : Ledger) : Py (Unit × Ledger) :=
  match l.actionLimits.lookup engagementId with
  | none => .ok ((), l)
  | some row => .ok ((), { l with actionLimits := l.actionLimits.insert engagementId row.revoke })

/-- The merge of the caller's view of the policy into a row. -/
def mergePolicy (policyLimit : Option Int) (policyUsed : Int) (row : Option LimitRow) :
    Py (Option LimitRow) :=
  match policyLimit with
  | none => .ok row
  | some limit => do
      let h₁ ← prove (0 < limit.toNat) (valueError "Invalid policy limit")
      raiseIf (2 ^ 63 ≤ limit.toNat) tooLarge
      let h₂ ← prove (policyUsed.toNat < 2 ^ 63) tooLarge
      return row.map fun row => row.merge limit.toNat policyUsed.toNat h₁.down h₂.down

/-- The caller's limit has been checked to be positive before the transaction begins, and is
checked again by the column's constraint.
Source: `atomic_action_ledger.py` `reserve`. -/
def reserve (engagementId actionId : String) (policyLimit : Option Int) (policyUsed : Int)
    (policyRevoked : Bool) (l : Ledger) : Py (Reservation × Ledger) := do
  raiseIf (engagementId = "" ∨ actionId = "" ∨ 128 < actionId.length)
    (valueError "Invalid reservation identity")
  raiseIf (∃ limit ∈ policyLimit, limit < 1) (valueError "Invalid policy limit")
  raiseIf (policyUsed < 0) (valueError "Invalid policy usage")
  raiseIf (policyRevoked = true) (permissionError "Engagement policy revoked")
  let merged ← mergePolicy policyLimit policyUsed (l.actionLimits.lookup engagementId)
  let row ← getOrRaise merged
    (permissionError "Engagement action ledger unavailable or revoked")
  raiseIf (row.revoked = true) (permissionError "Engagement action ledger unavailable or revoked")
  raiseIf ((engagementId, actionId) ∈ l.reservations)
    (permissionError "Action identifier already reserved")
  let h ← prove (row.used < row.actionLimit) (permissionError "Engagement action budget exhausted")
  return (⟨engagementId, actionId, row.used + 1, row.actionLimit⟩,
    { actionLimits := l.actionLimits.insert engagementId (row.use h.down)
      reservations := (engagementId, actionId) :: l.reservations })

/-- A call of one of the callers. -/
inductive Call where
  | provision (engagementId : String) (limit : Int) (revoked : Bool)
  | revoke (engagementId : String)
  | reserve (engagementId actionId : String) (policyLimit : Option Int) (policyUsed : Int)
      (policyRevoked : Bool)

/-- What a call returns. -/
inductive Answer where
  | none
  | reserved (reservation : Reservation)

/-- The transaction of a call. -/
def body (call : Call) (l : Ledger) : Py (Answer × Ledger) :=
  match call with
  | .provision e limit revoked => (provision e limit revoked l).map fun r => (.none, r.2)
  | .revoke e => (revoke e l).map fun r => (.none, r.2)
  | .reserve e a limit used revoked =>
      (reserve e a limit used revoked l).map fun r => (.reserved r.1, r.2)

/-- One call: its transaction is committed on return and rolled back on an exception. -/
def step (l : Ledger) (call : Call) : Ledger × Py Answer := transaction (body call) l

/-! ## What a committed call does -/

/-- A row that has become at least as strict. -/
structure LimitRow.Tightens (row row' : LimitRow) : Prop where
  limit : row'.actionLimit ≤ row.actionLimit
  used : row.used ≤ row'.used
  revoked : row.revoked = true → row'.revoked = true

theorem LimitRow.Tightens.refl (row : LimitRow) : row.Tightens row := ⟨le_rfl, le_rfl, id⟩

theorem LimitRow.Tightens.trans {a b c : LimitRow} (h : a.Tightens b) (h' : b.Tightens c) :
    a.Tightens c :=
  ⟨h'.limit.trans h.limit, h.used.trans h'.used, h'.revoked ∘ h.revoked⟩

theorem LimitRow.merge_tightens (row : LimitRow) (limit used : Nat) (hpos : 0 < limit)
    (hused : used < 2 ^ 63) : row.Tightens (row.merge limit used hpos hused) :=
  ⟨min_le_left _ _, le_max_left _ _, id⟩

theorem LimitRow.use_tightens (row : LimitRow) (h : row.used < row.actionLimit) :
    row.Tightens (row.use h) :=
  ⟨le_rfl, Nat.le_succ _, id⟩

/-- What a committed call makes of the ledger. -/
inductive Effect (l : Ledger) : Call → Answer → Ledger → Prop where
  | same (e : String) : Effect l (.revoke e) .none l
  | create (e : String) (limit : Int) (revoked : Bool) (row : LimitRow)
      (fresh : l.actionLimits.lookup e = none) (hlimit : row.actionLimit = limit.toNat) :
      Effect l (.provision e limit revoked) .none
        { l with actionLimits := l.actionLimits.insert e row }
  | tighten (e : String) (call : Call) (row row' : LimitRow)
      (hcall : (∃ limit revoked, call = .provision e limit revoked) ∨ call = .revoke e)
      (found : l.actionLimits.lookup e = some row) (h : row.Tightens row')
      (hrevoked : call = .revoke e → row'.revoked = true) :
      Effect l call .none { l with actionLimits := l.actionLimits.insert e row' }
  | reserve (e a : String) (limit : Option Int) (used : Int) (row merged : LimitRow)
      (found : l.actionLimits.lookup e = some row) (h : row.Tightens merged)
      (budget : merged.used < merged.actionLimit) (live : merged.revoked = false)
      (new : (e, a) ∉ l.reservations) :
      Effect l (.reserve e a limit used false)
        (.reserved ⟨e, a, merged.used + 1, merged.actionLimit⟩)
        { actionLimits := l.actionLimits.insert e (merged.use budget)
          reservations := (e, a) :: l.reservations }

/-- The caller's view tightens the row it is merged into. -/
theorem mergePolicy_eq_ok {policyLimit : Option Int} {policyUsed : Int}
    {existing : Option LimitRow} {merged : LimitRow}
    (h : mergePolicy policyLimit policyUsed existing = .ok (some merged)) :
    ∃ row, existing = some row ∧ row.Tightens merged := by
  unfold mergePolicy at h
  split at h
  · obtain rfl := Except.ok.inj h
    exact ⟨merged, rfl, .refl merged⟩
  · simp only [bind_eq_ok, prove_eq_ok, raiseIf_eq_ok, pure_eq_ok, Except.ok.injEq,
      Option.map_eq_some_iff, true_and] at h
    obtain ⟨hpos, -, -, hused, row, hrow, rfl⟩ := h
    exact ⟨row, hrow, row.merge_tightens _ _ _ _⟩

theorem reserve_effect {e a : String} {policyLimit : Option Int} {policyUsed : Int}
    {policyRevoked : Bool} {l l' : Ledger} {r : Reservation}
    (h : reserve e a policyLimit policyUsed policyRevoked l = .ok (r, l')) :
    Effect l (.reserve e a policyLimit policyUsed policyRevoked) (.reserved r) l' := by
  unfold reserve at h
  simp only [bind_eq_ok, prove_eq_ok, raiseIf_eq_ok, getOrRaise_eq_ok, pure_eq_ok,
    Except.ok.injEq, Prod.mk.injEq, true_and, Bool.not_eq_true] at h
  obtain ⟨-, -, -, -, -, -, -, hlive, merged, hmerged, row', rfl, -, hrevoked, -, hnew, hbudget,
    rfl, rfl⟩ := h
  obtain ⟨row, hrow, htightens⟩ := mergePolicy_eq_ok hmerged
  rw [hlive]
  exact .reserve e a policyLimit policyUsed row row' hrow htightens hbudget.down hrevoked hnew

/-- What a reservation under a policy makes of the row: the policy's limit and usage are merged
into it, and one more action is used. -/
theorem reserve_merged {e a : String} {limit used : Int} {policyRevoked : Bool} {l l' : Ledger}
    {r : Reservation} (h : reserve e a (some limit) used policyRevoked l = .ok (r, l')) :
    ∃ row row', l.actionLimits.lookup e = some row ∧
      row'.actionLimit = min row.actionLimit limit.toNat ∧
      row'.used = max row.used used.toNat + 1 ∧ row'.used ≤ row'.actionLimit ∧
      l'.actionLimits = l.actionLimits.insert e row' ∧
      l'.reservations = (e, a) :: l.reservations := by
  unfold reserve at h
  simp only [bind_eq_ok, prove_eq_ok, raiseIf_eq_ok, getOrRaise_eq_ok, pure_eq_ok,
    Except.ok.injEq, Prod.mk.injEq, true_and] at h
  obtain ⟨-, -, -, -, -, -, -, -, merged, hmerged, row', rfl, -, -, -, -, hbudget, -, rfl⟩ := h
  simp only [mergePolicy, bind_eq_ok, prove_eq_ok, raiseIf_eq_ok, pure_eq_ok, Except.ok.injEq,
    Option.map_eq_some_iff, true_and] at hmerged
  obtain ⟨hpos, -, -, hused, row, hrow, rfl⟩ := hmerged
  exact ⟨row, LimitRow.use _ hbudget.down, hrow, rfl, rfl, hbudget.down, rfl, rfl⟩

theorem provision_effect {e : String} {limit : Int} {revoked : Bool} {l l' : Ledger}
    (h : provision e limit revoked l = .ok ((), l')) :
    Effect l (.provision e limit revoked) .none l' := by
  unfold provision at h
  simp only [bind_eq_ok, prove_eq_ok, raiseIf_eq_ok, pure_eq_ok, Except.ok.injEq,
    Prod.mk.injEq, true_and] at h
  obtain ⟨-, -, hpos, hlt, rfl⟩ := h
  cases hrow : l.actionLimits.lookup e with
  | none => exact .create e limit revoked _ hrow rfl
  | some row =>
    refine .tighten e _ row _ (.inl ⟨limit, revoked, rfl⟩) hrow ⟨min_le_left _ _, ?_, ?_⟩ ?_
    · exact le_max_left _ _
    · intro hr
      exact Bool.or_eq_true_iff.mpr (.inl hr)
    · intro hcall
      cases hcall

theorem revoke_effect {e : String} {l l' : Ledger} (h : revoke e l = .ok ((), l')) :
    Effect l (.revoke e) .none l' := by
  unfold revoke at h
  split at h
  · obtain ⟨-, rfl⟩ := Prod.mk.inj (Except.ok.inj h)
    exact .same e
  · next row hrow =>
    obtain ⟨-, rfl⟩ := Prod.mk.inj (Except.ok.inj h)
    exact .tighten e _ row row.revoke (.inr rfl) hrow ⟨le_rfl, le_rfl, fun _ => rfl⟩ fun _ => rfl

/-- **Every call that returns has one of the effects.** -/
theorem effect_of_ok {l : Ledger} {call : Call} {answer : Answer}
    (h : (step l call).2 = .ok answer) : Effect l call answer (step l call).1 := by
  have hbody : body call l = .ok (answer, (step l call).1) := transaction_ok h
  generalize (step l call).1 = l' at hbody ⊢
  cases call with
  | provision e limit revoked =>
    obtain ⟨⟨u, l₁⟩, hr, heq⟩ := map_eq_ok.mp hbody
    obtain ⟨rfl, rfl⟩ := Prod.mk.inj heq
    exact provision_effect hr
  | revoke e =>
    obtain ⟨⟨u, l₁⟩, hr, heq⟩ := map_eq_ok.mp hbody
    obtain ⟨rfl, rfl⟩ := Prod.mk.inj heq
    exact revoke_effect hr
  | reserve e a limit used revoked =>
    obtain ⟨⟨r, l₁⟩, hr, heq⟩ := map_eq_ok.mp hbody
    obtain ⟨rfl, rfl⟩ := Prod.mk.inj heq
    exact reserve_effect hr

/-! ## What a call keeps -/

/-- Every row is still there and no less strict, and no reservation is gone. -/
structure Ledger.Tightens (l l' : Ledger) : Prop where
  rows : ∀ e row, l.actionLimits.lookup e = some row →
    ∃ row', l'.actionLimits.lookup e = some row' ∧ row.Tightens row'
  reservations : l.reservations ⊆ l'.reservations

theorem Ledger.Tightens.refl (l : Ledger) : l.Tightens l :=
  ⟨fun _ row h => ⟨row, h, .refl row⟩, List.Subset.refl _⟩

theorem Ledger.Tightens.trans {a b c : Ledger} (h : a.Tightens b) (h' : b.Tightens c) :
    a.Tightens c := by
  refine ⟨?_, List.Subset.trans h.reservations h'.reservations⟩
  intro e row hrow
  obtain ⟨row₁, hrow₁, htightens₁⟩ := h.rows e row hrow
  obtain ⟨row₂, hrow₂, htightens₂⟩ := h'.rows e row₁ hrow₁
  exact ⟨row₂, hrow₂, htightens₁.trans htightens₂⟩

/-- Overwriting one row by a stricter one, or by a new one, tightens the ledger. -/
theorem Ledger.tightens_insert {l : Ledger} {e : String} {row' : LimitRow}
    (h : ∀ row, l.actionLimits.lookup e = some row → row.Tightens row')
    {reservations : List (String × String)} (hsub : l.reservations ⊆ reservations) :
    l.Tightens ⟨l.actionLimits.insert e row', reservations⟩ := by
  refine ⟨?_, hsub⟩
  intro e₁ row hrow
  by_cases heq : e₁ = e
  · subst heq
    exact ⟨row', Finmap.lookup_insert _, h row hrow⟩
  · exact ⟨row, (Finmap.lookup_insert_of_ne _ heq).trans hrow, .refl row⟩

theorem Effect.tightens {l l' : Ledger} {call : Call} {answer : Answer}
    (h : Effect l call answer l') : l.Tightens l' := by
  cases h with
  | same e => exact .refl l
  | create e limit revoked row fresh hlimit =>
    apply Ledger.tightens_insert _ (List.Subset.refl _)
    intro row' hrow'
    rw [fresh] at hrow'
    cases hrow'
  | tighten e call row row' hcall found h hrevoked =>
    apply Ledger.tightens_insert _ (List.Subset.refl _)
    intro row₁ hrow₁
    rw [found, Option.some_inj] at hrow₁
    exact hrow₁ ▸ h
  | reserve e a limit used row merged found h budget live new =>
    apply Ledger.tightens_insert _ (List.subset_cons_self _ _)
    intro row₁ hrow₁
    rw [found, Option.some_inj] at hrow₁
    exact hrow₁ ▸ h.trans (merged.use_tightens budget)

/-- **No call loosens the ledger.** -/
theorem tightens_step (l : Ledger) (call : Call) : l.Tightens (step l call).1 := by
  cases hans : (step l call).2 with
  | error err =>
    have hsame : (step l call).1 = l := transaction_error hans
    rw [hsame]
    exact .refl l
  | ok answer => exact (effect_of_ok hans).tightens

theorem tightens_run (l : Ledger) (calls : List Call) : l.Tightens (final step l calls) :=
  invariant (I := l.Tightens) (fun l' call h => h.trans (tightens_step l' call)) (.refl l) calls

/-! ## The budget -/

/-- The reservation an entry of the trace made. -/
def reserved : Call × Py Answer → List (String × String)
  | (.reserve _ _ _ _ _, .ok (.reserved r)) => [(r.engagementId, r.actionId)]
  | _ => []

/-- The number of reservations of one engagement. -/
def reservationsOf (e : String) (made : List (String × String)) : Nat :=
  made.countP fun r => r.1 = e

/-- The limit an entry of the trace recorded for `e`. -/
def recorded (e : String) : Call × Py Answer → Option Nat
  | (.provision e' limit _, .ok _) => if e' = e then some limit.toNat else none
  | _ => none

/-- The first limit recorded for `e`: that of the row it starts with, or of the first call that
provisioned it. -/
def firstLimit (e : String) (l : Ledger) (tr : List (Call × Py Answer)) : Option Nat :=
  ((l.actionLimits.lookup e).map (·.actionLimit)).or (tr.findSome? (recorded e))

/-- The reservations made for an engagement against its row and the first limit recorded. -/
def Within (first : Option Nat) (current : Option LimitRow) (made : Nat) : Prop :=
  match current with
  | none => first = none ∧ made = 0
  | some row => ∃ limit, first = some limit ∧ row.actionLimit ≤ limit ∧ made ≤ row.used ∧
      made ≤ limit

/-- A call that made no reservation for `e` keeps its account when the row of `e` got stricter. -/
theorem Within.of_tightens {first : Option Nat} {row row' : LimitRow} {made : Nat}
    (h : Within first (some row) made) (ht : row.Tightens row') :
    Within first (some row') made := by
  obtain ⟨limit, hfirst, hlimit, hmade, hle⟩ := h
  exact ⟨limit, hfirst, ht.limit.trans hlimit, hmade.trans ht.used, hle⟩

theorem Within.or_of_some {first : Option Nat} {row : LimitRow} {made : Nat}
    (h : Within first (some row) made) (more : Option Nat) :
    Within (first.or more) (some row) made := by
  obtain ⟨limit, rfl, hrest⟩ := h
  exact ⟨limit, rfl, hrest⟩

/-- **The account of one call.** -/
theorem Effect.within {l l' : Ledger} {call : Call} {answer : Answer}
    (h : Effect l call answer l') {e : String} {first : Option Nat} {made : Nat}
    (hw : Within first (l.actionLimits.lookup e) made) :
    Within (first.or (recorded e (call, .ok answer))) (l'.actionLimits.lookup e)
      (made + reservationsOf e (reserved (call, .ok answer))) := by
  cases h with
  | same e' =>
    have hquiet : recorded e (.revoke e', .ok .none) = none := rfl
    rw [hquiet, Option.or_none]
    exact hw
  | create e' limit revoked row fresh hlimit =>
    show Within _ ((l.actionLimits.insert e' row).lookup e) made
    rw [Dict.lookup_insert_eq]
    by_cases heq : e = e'
    · subst heq
      rw [fresh] at hw
      obtain ⟨rfl, rfl⟩ := hw
      rw [if_pos rfl]
      have hfirst : recorded e (.provision e limit revoked, .ok .none) = some limit.toNat :=
        if_pos rfl
      exact ⟨limit.toNat, by rw [hfirst, Option.none_or], hlimit.le, Nat.zero_le _, Nat.zero_le _⟩
    · have hquiet : recorded e (.provision e' limit revoked, .ok .none) = none :=
        if_neg (Ne.symm heq)
      rw [if_neg heq, hquiet, Option.or_none]
      exact hw
  | tighten e' call row row' hcall found h hrevoked =>
    have hnone : reservationsOf e (reserved (call, .ok .none)) = 0 := by
      rcases hcall with ⟨limit, revoked, rfl⟩ | rfl <;> rfl
    show Within _ ((l.actionLimits.insert e' row').lookup e) _
    rw [hnone, Nat.add_zero, Dict.lookup_insert_eq]
    by_cases heq : e = e'
    · subst heq
      rw [found] at hw
      rw [if_pos rfl]
      exact (hw.of_tightens h).or_of_some _
    · have hquiet : recorded e (call, .ok .none) = none := by
        rcases hcall with ⟨limit, revoked, rfl⟩ | rfl
        · exact if_neg (Ne.symm heq)
        · rfl
      rw [if_neg heq, hquiet, Option.or_none]
      exact hw
  | reserve e' a limit used row merged found h budget live new =>
    have hquiet : ∀ answer, recorded e (.reserve e' a limit used false, answer) = none :=
      fun _ => rfl
    show Within _ ((l.actionLimits.insert e' (merged.use budget)).lookup e) _
    rw [hquiet, Option.or_none, Dict.lookup_insert_eq]
    by_cases heq : e = e'
    · subst heq
      rw [found] at hw
      obtain ⟨first', rfl, hlimit, hmade, hle⟩ := hw.of_tightens h
      have hone : reservationsOf e (reserved (.reserve e a limit used false,
          .ok (.reserved ⟨e, a, merged.used + 1, merged.actionLimit⟩))) = 1 := by
        simp [reserved, reservationsOf]
      have hbudget : made + 1 ≤ first' := by omega
      rw [hone, if_pos rfl]
      exact ⟨first', rfl, hlimit, Nat.succ_le_succ hmade, hbudget⟩
    · have hnone : reservationsOf e (reserved (.reserve e' a limit used false,
          .ok (.reserved ⟨e', a, merged.used + 1, merged.actionLimit⟩))) = 0 := by
        simp [reserved, reservationsOf, Ne.symm heq]
      rw [if_neg heq, hnone]
      exact hw

/-- What the calls so far left: the account of every engagement, and every reservation in the
table once. -/
structure Accounted (l₀ : Ledger) (tr : List (Call × Py Answer)) (l : Ledger) : Prop where
  within : ∀ e, Within (firstLimit e l₀ tr) (l.actionLimits.lookup e)
    (reservationsOf e (tr.flatMap reserved))
  table : l.reservations = (tr.flatMap reserved).reverse ++ l₀.reservations
  once : (tr.flatMap reserved).Nodup
  fresh : ∀ r ∈ tr.flatMap reserved, r ∉ l₀.reservations

theorem Effect.reserved_eq {l l' : Ledger} {call : Call} {answer : Answer}
    (h : Effect l call answer l') :
    l'.reservations = reserved (call, .ok answer) ++ l.reservations ∧
      (reserved (call, .ok answer)).Nodup ∧
      ∀ r ∈ reserved (call, .ok answer), r ∉ l.reservations := by
  cases h with
  | same e => exact ⟨rfl, List.nodup_nil, fun r h => absurd h List.not_mem_nil⟩
  | create e limit revoked row fresh hlimit =>
    exact ⟨rfl, List.nodup_nil, fun r h => absurd h List.not_mem_nil⟩
  | tighten e call row row' hcall found h hrevoked =>
    have hnone : reserved (call, .ok .none) = [] := by
      rcases hcall with ⟨limit, revoked, rfl⟩ | rfl <;> rfl
    rw [hnone]
    exact ⟨rfl, List.nodup_nil, fun r h => absurd h List.not_mem_nil⟩
  | reserve e a limit used row merged found h budget live new =>
    exact ⟨rfl, List.nodup_singleton _, fun r h => List.mem_singleton.mp h ▸ new⟩

theorem Accounted.step {l₀ l : Ledger} {tr : List (Call × Py Answer)} (h : Accounted l₀ tr l)
    (call : Call) :
    Accounted l₀ (tr ++ [(call, (AtomicActionLedger.step l call).2)])
      (AtomicActionLedger.step l call).1 := by
  have hfind : ∀ e, firstLimit e l₀ (tr ++ [(call, (AtomicActionLedger.step l call).2)]) =
      (firstLimit e l₀ tr).or (recorded e (call, (AtomicActionLedger.step l call).2)) := by
    intro e
    rw [firstLimit, firstLimit, List.findSome?_append, Option.or_assoc, List.findSome?_singleton]
  have hmade : (tr ++ [(call, (AtomicActionLedger.step l call).2)]).flatMap reserved =
      tr.flatMap reserved ++ reserved (call, (AtomicActionLedger.step l call).2) := by
    rw [List.flatMap_append, List.flatMap_singleton]
  cases hans : (AtomicActionLedger.step l call).2 with
  | error err =>
    have hsame : (AtomicActionLedger.step l call).1 = l := transaction_error hans
    have hnone : reserved (call, .error err) = [] := by cases call <;> rfl
    have hquiet : ∀ e, recorded e (call, .error err) = none := by
      intro e
      cases call <;> rfl
    rw [hans] at hfind hmade
    rw [hnone, List.append_nil] at hmade
    rw [hsame]
    refine ⟨?_, hmade ▸ h.table, hmade ▸ h.once, hmade ▸ h.fresh⟩
    intro e
    rw [hfind, hquiet, Option.or_none, hmade]
    exact h.within e
  | ok answer =>
    have heffect := effect_of_ok hans
    obtain ⟨htable, honce, hnew⟩ := heffect.reserved_eq
    rw [hans] at hfind hmade
    refine ⟨?_, ?_, ?_, ?_⟩
    · intro e
      rw [hfind, hmade, reservationsOf, List.countP_append]
      exact heffect.within (h.within e)
    · have hrev : (reserved (call, .ok answer)).reverse = reserved (call, .ok answer) := by
        cases call <;> cases answer <;> rfl
      rw [htable, h.table, hmade, List.reverse_append, hrev, List.append_assoc]
    · rw [hmade]
      refine List.Nodup.append h.once honce ?_
      intro r hr hr'
      apply hnew r hr'
      rw [h.table]
      exact List.mem_append_left _ (List.mem_reverse.mpr hr)
    · intro r hr hr₀
      rw [hmade] at hr
      rcases List.mem_append.mp hr with hr | hr
      · exact h.fresh r hr hr₀
      · apply hnew r hr
        rw [h.table]
        exact List.mem_append_right _ hr₀

theorem accounted_run (l : Ledger) (calls : List Call) :
    Accounted l (trace step l calls) (final step l calls) := by
  refine run_induct (P := fun tr l' => Accounted l tr l') ?_ ?_ calls
  · refine ⟨?_, rfl, List.nodup_nil, fun r h => absurd h List.not_mem_nil⟩
    intro e
    rw [firstLimit, List.findSome?_nil, Option.or_none]
    cases hrow : l.actionLimits.lookup e with
    | none => exact ⟨rfl, rfl⟩
    | some row => exact ⟨row.actionLimit, rfl, le_rfl, Nat.zero_le _, Nat.zero_le _⟩
  · intro tr l' call h
    exact h.step call

/-! ## The ledger over a whole run -/

/-- A reservation that was granted was granted under the limit in force, to a new action, for an
engagement that is not revoked. -/
theorem granted {l : Ledger} {e a : String} {limit : Option Int} {used : Int} {revoked : Bool}
    {r : Reservation} (h : (step l (.reserve e a limit used revoked)).2 = .ok (.reserved r)) :
    r.engagementId = e ∧ r.actionId = a ∧ r.used ≤ r.limit ∧ (e, a) ∉ l.reservations ∧
      (∃ row, (step l (.reserve e a limit used revoked)).1.actionLimits.lookup e = some row ∧
        row.actionLimit = r.limit ∧ row.used = r.used) ∧
      ∀ row, l.actionLimits.lookup e = some row → row.revoked = false := by
  have heffect := effect_of_ok h
  generalize (step l (.reserve e a limit used revoked)).1 = l' at heffect ⊢
  cases heffect with
  | reserve _ _ _ _ row merged found ht budget live new =>
    refine ⟨rfl, rfl, budget, new, ⟨merged.use budget, Finmap.lookup_insert _, rfl, rfl⟩, ?_⟩
    intro row' hrow'
    rw [found, Option.some_inj] at hrow'
    rw [← hrow']
    -- a revoked row would have stayed revoked through the merge
    cases hr : row.revoked with
    | false => rfl
    | true => exact absurd (ht.revoked hr) (by rw [live]; exact Bool.false_ne_true)

/-- **Limits, usage, revocation and uniqueness over every serialised interleaving.**  From one
state of a run to a later one no limit rises, no usage falls and no revocation is lifted; a granted
reservation is for a new action, within the limit then in force and not under a stored revocation;
the grants for an engagement never outnumber the first limit recorded for it; and a call that
raises changes no row. -/
theorem ledger_run (l : Ledger) (before after : List Call) :
    let l₁ := final step l before
    let l₂ := final step l (before ++ after)
    let tr := trace step l (before ++ after)
    (∀ e row, l₁.actionLimits.lookup e = some row → ∃ row',
      l₂.actionLimits.lookup e = some row' ∧ row'.actionLimit ≤ row.actionLimit ∧
        row.used ≤ row'.used ∧ (row.revoked = true → row'.revoked = true)) ∧
    (∀ e a limit used revoked r,
      (step l₂ (.reserve e a limit used revoked)).2 = .ok (.reserved r) →
        r.engagementId = e ∧ r.actionId = a ∧ r.used ≤ r.limit ∧
        (∃ row, (step l₂ (.reserve e a limit used revoked)).1.actionLimits.lookup e = some row ∧
          row.actionLimit = r.limit ∧ row.used = r.used) ∧
        (e, a) ∉ l.reservations ∧ (e, a) ∉ tr.flatMap reserved ∧
        (∀ row, l₁.actionLimits.lookup e = some row → row.revoked = false)) ∧
    (tr.flatMap reserved).Nodup ∧
    (∀ e, (firstLimit e l tr = none → reservationsOf e (tr.flatMap reserved) = 0) ∧
      ∀ limit, firstLimit e l tr = some limit →
        reservationsOf e (tr.flatMap reserved) ≤ limit) ∧
    (∀ call err, (step l₂ call).2 = .error err → (step l₂ call).1 = l₂) := by
  intro l₁ l₂ tr
  have hsplit : l₂ = final step l₁ after := final_append l before after
  have htightens : l₁.Tightens l₂ := hsplit ▸ tightens_run l₁ after
  have hacc : Accounted l tr l₂ := accounted_run l (before ++ after)
  refine ⟨?_, ?_, hacc.once, ?_, fun call err herr => transaction_error herr⟩
  · intro e row hrow
    obtain ⟨row', hrow', ht⟩ := htightens.rows e row hrow
    exact ⟨row', hrow', ht.limit, ht.used, ht.revoked⟩
  · intro e a limit used revoked r hr
    obtain ⟨he, ha, hle, hnew, hrow, hlive⟩ := granted hr
    rw [hacc.table] at hnew
    refine ⟨he, ha, hle, hrow, fun h => hnew (List.mem_append_right _ h), ?_, ?_⟩
    · intro hmem
      exact hnew (List.mem_append_left _ (List.mem_reverse.mpr hmem))
    · intro row hrow₁
      obtain ⟨row', hrow', ht⟩ := htightens.rows e row hrow₁
      cases hr₁ : row.revoked with
      | false => rfl
      | true =>
        have hlive' := hlive row' hrow'
        rw [ht.revoked hr₁] at hlive'
        cases hlive'
  · intro e
    have hwithin := hacc.within e
    cases hrow : l₂.actionLimits.lookup e with
    | none =>
      rw [hrow] at hwithin
      obtain ⟨hnone, hzero⟩ := hwithin
      exact ⟨fun _ => hzero, fun limit hlimit => by rw [hzero]; exact Nat.zero_le _⟩
    | some row =>
      rw [hrow] at hwithin
      obtain ⟨limit, hfirst, -, -, hle⟩ := hwithin
      refine ⟨?_, ?_⟩
      · intro hnone
        rw [hfirst] at hnone
        cases hnone
      · intro limit' hlimit'
        rw [hfirst, Option.some_inj] at hlimit'
        exact hlimit' ▸ hle

end NightRecon.RedEngine.AtomicActionLedger
