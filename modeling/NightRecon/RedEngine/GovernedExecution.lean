import NightRecon.RedEngine.AtomicActionLedger
import NightRecon.SharedCore.PolicyStore

/-!
# Governed executions beside plain ones

`nightrecon_red_engine/atomic_command_executor.py` `execute_atomically_governed`, its branch for
callers with a policy store and a ledger, and `consume_action` of the policy store, which the plain
runner calls.  The two count the actions of one engagement in two places.

* `consider`, `recheck` — what the branch decides on the stored policy, before and after the
  reservation in the ledger;
* `System`, `Call`, `step` — one store, one ledger and the executions in flight, each of which other
  calls may come between;
* `Synchronised` — no plain action once the ledger counts some, and no reservation under an
  outdated count;
* `governed_budget` — under it the actions allowed never exceed the policy's budget;
* `budget_overrun` — without it they do.
-/

namespace NightRecon.RedEngine.GovernedExecution

open NightRecon.Lib
open NightRecon.Lib.Checks
open NightRecon.Lib.Datetime
open NightRecon.Lib.FileBacked
open NightRecon.Lib.Machine
open NightRecon.Documents
open NightRecon.SharedCore.EngagementPolicy
open NightRecon.SharedCore.PolicyStore
open NightRecon.RedEngine.AtomicActionLedger (Ledger reservationsOf reserve_merged)

/-! ## One execution -/

/-- The arguments of `execute_atomically_governed` that decide whether the command runs. -/
structure Attempt where
  actionId : String
  engagementStatus : String
  capability : String
  target : String
  impact : String
  approved : Bool

/-- The action it asks for, at the time the policy is consulted. -/
def Attempt.request (a : Attempt) (now : DateTime) : ActionRequest :=
  ⟨a.capability, a.target, a.impact, a.approved, now⟩

/-- `FileEngagementPolicyStore(policy_store.path).policy(engagement_id)`. -/
def storedPolicy (engagementId : String) (file : Option Json) :
    Py (Option EngagementExecutionPolicy) := do
  let policies ← load file
  let _ ← requireText engagementId "engagement_id"
  return policies.lookup engagementId

/-- Before the reservation: the policy is read and has to allow the action.  `audit` is the outcome
of writing the decision to the audit log.
Source: `atomic_command_executor.py` `execute_atomically_governed`. -/
def consider (engagementId : String) (a : Attempt) (now : DateTime) (audit : Py Unit)
    (file : Option Json) : Py EngagementExecutionPolicy := do
  let found ← storedPolicy engagementId file
  let policy ← getOrRaise found (permissionError "Missing engagement policy")
  let decision ← evaluateAction policy (some a.engagementStatus) (a.request now)
  audit
  require (decision.allowed = true) (permissionError decision.reasonCode.text)
  return policy

/-- `ledger.reserve(…)` under the policy that was considered. -/
def reserve (engagementId : String) (a : Attempt) (policy : EngagementExecutionPolicy)
    (l : Ledger) : Py (AtomicActionLedger.Reservation × Ledger) :=
  AtomicActionLedger.reserve engagementId a.actionId (some policy.maxActions) policy.actionsUsed
    policy.revoked l

/-- After the reservation: the policy is read again and has to allow the reserved action.  `record`
is the outcome of writing the execution record.
Source: `atomic_command_executor.py` `execute_atomically_governed`. -/
def recheck (engagementId : String) (a : Attempt) (now : DateTime) (audit record : Py Unit)
    (file : Option Json) : Py Unit := do
  let found ← storedPolicy engagementId file
  let latest ← getOrRaise found
    (permissionError "Engagement policy unavailable after reservation")
  let final ← evaluateReservedAction latest (some a.engagementStatus) (a.request now)
  audit
  record
  require (final.allowed = true) (permissionError final.reasonCode.text)

/-! ## Every party on one engagement -/

/-- The store of the plain callers, with its file, the ledger, and the governed executions between
two of their stages. -/
structure System where
  store : FileEngagementPolicyStore
  ledger : Ledger
  considered : List (Attempt × EngagementExecutionPolicy)
  reserved : List Attempt

/-- A stage of one of the executions in flight, or a plain authorization. -/
inductive Call where
  | consume (write : Py Unit)
  | consider (a : Attempt) (now : DateTime) (audit : Py Unit)
  | reserve (n : Nat)
  | launch (n : Nat) (now : DateTime) (audit record : Py Unit)

/-- One call.  It answers `true` when it allowed an action: a plain authorization that was counted,
or a governed command that may start. -/
def step (e : String) (s : System) (call : Call) : System × Py Bool :=
  match call with
  | .consume write =>
      ({ s with store := (consumeAction e write s.store).2 },
        (consumeAction e write s.store).1.map fun _ => true)
  | .consider a now audit =>
      match consider e a now audit s.store.file with
      | .ok policy => ({ s with considered := (a, policy) :: s.considered }, .ok false)
      | .error err => (s, .error err)
  | .reserve n =>
      match s.considered[n]? with
      | none => (s, .ok false)
      | some (a, policy) =>
          match reserve e a policy s.ledger with
          | .ok (_, ledger) =>
              ({ s with ledger, considered := s.considered.eraseIdx n,
                        reserved := a :: s.reserved }, .ok false)
          | .error err => ({ s with considered := s.considered.eraseIdx n }, .error err)
  | .launch n now audit record =>
      match s.reserved[n]? with
      | none => (s, .ok false)
      | some a =>
          ({ s with reserved := s.reserved.eraseIdx n },
            (recheck e a now audit record s.store.file).map fun _ => true)

/-- Whether an entry of the trace allowed an action. -/
def allows (entry : Call × Py Bool) : Bool := entry.2.toOption.getD false

/-- The number of actions the calls of a run allowed, on either path. -/
def allowed (tr : List (Call × Py Bool)) : Nat := tr.countP allows

theorem allowed_concat (tr : List (Call × Py Bool)) (entry : Call × Py Bool) :
    allowed (tr ++ [entry]) = allowed tr + (allows entry).toNat := by
  rw [allowed, List.countP_append, List.countP_singleton]
  cases allows entry <;> rfl

/-- Before the first call: the policy is stored, the ledger has counted no action of the engagement
and no execution is in flight. -/
structure Start (e : String) (p : EngagementExecutionPolicy) (s : System) : Prop where
  stored : Stored s.store
  policy : s.store.memory.lookup e = some p
  uncounted : reservationsOf e s.ledger.reservations = 0
  considered : s.considered = []
  reserved : s.reserved = []

/-! ## The budget -/

/-- The two counts are kept in step: a plain action is counted only while the ledger counts none,
and a reservation is made under the count the store still has. -/
def Synchronised (e : String) (s : System) : Call → Prop
  | .consume _ => reservationsOf e s.ledger.reservations = 0
  | .reserve n => ∀ x ∈ s.considered[n]?, ∀ p ∈ s.store.memory.lookup e,
      x.2.actionsUsed = p.actionsUsed
  | .consider _ _ _ => True
  | .launch _ _ _ _ => True

/-- The ledger has counted nothing, or its row covers both counts and keeps to the limit. -/
def Covered (e : String) (limit used : Nat) (l : Ledger) : Prop :=
  reservationsOf e l.reservations = 0 ∨ ∃ row, l.actionLimits.lookup e = some row ∧
    used + reservationsOf e l.reservations ≤ row.used ∧ row.used ≤ row.actionLimit ∧
    row.actionLimit ≤ limit

/-- The account after some calls that allowed `n` actions, of a policy that started as `p₀`. -/
structure Accounted (e : String) (p₀ : EngagementExecutionPolicy) (n : Nat) (s : System)
    (p : EngagementExecutionPolicy) : Prop where
  stored : Stored s.store
  policy : s.store.memory.lookup e = some p
  limit : p.maxActions = p₀.maxActions
  considered : ∀ x ∈ s.considered, x.2.maxActions = p₀.maxActions
  counted : p₀.actionsUsed + n + s.reserved.length ≤
    p.actionsUsed + reservationsOf e s.ledger.reservations
  covered : Covered e p₀.maxActions p.actionsUsed s.ledger

/-- The account keeps to the budget. -/
theorem Accounted.within {e : String} {p₀ p : EngagementExecutionPolicy} {n : Nat} {s : System}
    (h : Accounted e p₀ n s p) : p₀.actionsUsed + n ≤ p₀.maxActions := by
  have hcounted := h.counted
  rcases h.covered with hnone | ⟨row, -, hcovers, hrow, hlimit⟩
  · have hbudget : p.actionsUsed ≤ p.maxActions := p.actionsUsed_le
    have hsame := h.limit
    omega
  · omega

theorem Start.accounted {e : String} {p : EngagementExecutionPolicy} {s : System}
    (h : Start e p s) : Accounted e p 0 s p := by
  refine ⟨h.stored, h.policy, rfl, ?_, ?_, .inl h.uncounted⟩
  · rw [h.considered]
    exact fun x hx => absurd hx List.not_mem_nil
  · rw [h.reserved, h.uncounted]
    exact le_rfl

/-- In step with its file, the store gives a fresh reader the policy it holds. -/
theorem storedPolicy_of_stored {e : String} {s : FileEngagementPolicyStore} (h : Stored s)
    {found : Option EngagementExecutionPolicy} (hread : storedPolicy e s.file = .ok found) :
    found = s.memory.lookup e := by
  simp only [storedPolicy, h.file, ok_bind, bind_eq_ok, pure_eq_ok, Except.ok.injEq] at hread
  obtain ⟨-, -, hfound⟩ := hread
  exact hfound.symm

theorem consider_eq_ok {e : String} {a : Attempt} {now : DateTime} {audit : Py Unit}
    {s : FileEngagementPolicyStore} (h : Stored s) {policy : EngagementExecutionPolicy}
    (hok : consider e a now audit s.file = .ok policy) : s.memory.lookup e = some policy := by
  simp only [consider, bind_eq_ok, getOrRaise_eq_ok, require_eq_ok, pure_eq_ok,
    Except.ok.injEq] at hok
  obtain ⟨found, hread, q, rfl, -, -, -, -, -, -, rfl⟩ := hok
  exact (storedPolicy_of_stored h hread).symm

/-- A plain authorization that returned was counted in the store, and one that raised changed
nothing. -/
theorem accounted_consume {e : String} {p₀ p : EngagementExecutionPolicy} {n : Nat} {s : System}
    (h : Accounted e p₀ n s p) (hsync : reservationsOf e s.ledger.reservations = 0)
    (write : Py Unit) :
    ∃ p', Accounted e p₀ (n + (allows (.consume write, (step e s (.consume write)).2)).toNat)
      (step e s (.consume write)).1 p' := by
  cases hconsume : consumeAction e write s.store with
  | mk r store =>
    rcases consumeAction_spec h.stored hconsume with ⟨⟨err, rfl⟩, rfl⟩ |
      ⟨q, hle, hq, rfl, hstored, hmemory⟩
    · refine ⟨p, ?_⟩
      simp only [step, hconsume, allows, Except.toOption]
      exact h
    · obtain rfl : q = p := Option.some.inj (hq.symm.trans h.policy)
      have hcounted := h.counted
      refine ⟨q.withUsed (q.actionsUsed + 1) hle, ?_⟩
      simp only [step, hconsume, allows, Except.toOption]
      refine ⟨hstored, ?_, h.limit, h.considered, ?_, .inl hsync⟩
      · exact hmemory ▸ Finmap.lookup_insert _
      · show p₀.actionsUsed + (n + 1) + s.reserved.length ≤
          (q.actionsUsed + 1) + reservationsOf e s.ledger.reservations
        omega

/-- The policy an execution considers is the one in the store. -/
theorem accounted_consider {e : String} {p₀ p : EngagementExecutionPolicy} {n : Nat} {s : System}
    (h : Accounted e p₀ n s p) (a : Attempt) (now : DateTime) (audit : Py Unit) :
    Accounted e p₀
      (n + (allows (.consider a now audit, (step e s (.consider a now audit)).2)).toNat)
      (step e s (.consider a now audit)).1 p := by
  cases hconsider : consider e a now audit s.store.file with
  | error err =>
    simp only [step, hconsider]
    exact h
  | ok policy =>
    have hpolicy := consider_eq_ok h.stored hconsider
    obtain rfl : policy = p := Option.some.inj (hpolicy.symm.trans h.policy)
    simp only [step, hconsider]
    refine ⟨h.stored, h.policy, h.limit, ?_, h.counted, h.covered⟩
    intro x hx
    rcases List.mem_cons.mp hx with rfl | hx
    · exact h.limit
    · exact h.considered x hx

theorem reservationsOf_cons (e a : String) (made : List (String × String)) :
    reservationsOf e ((e, a) :: made) = reservationsOf e made + 1 := by
  rw [reservationsOf, List.countP_cons_of_pos (by exact decide_eq_true rfl)]
  rfl

/-- A reservation under the stored count leaves a row that covers both counts. -/
theorem covered_reserve {e : String} {a : Attempt} {limit : Nat} {q : EngagementExecutionPolicy}
    {l l' : Ledger} {r : AtomicActionLedger.Reservation}
    (h : Covered e limit q.actionsUsed l) (hlimit : q.maxActions ≤ limit)
    (hok : reserve e a q l = .ok (r, l')) :
    Covered e limit q.actionsUsed l' ∧
      reservationsOf e l'.reservations = reservationsOf e l.reservations + 1 := by
  obtain ⟨row, row', hrow, hmin, hmax, hbudget, hlimits, hmade⟩ := reserve_merged hok
  have hone : reservationsOf e l'.reservations = reservationsOf e l.reservations + 1 := by
    rw [hmade, reservationsOf_cons]
  refine ⟨.inr ⟨row', ?_, ?_, hbudget, ?_⟩, hone⟩
  · exact hlimits ▸ Finmap.lookup_insert _
  · rw [hone, hmax, Int.toNat_natCast]
    rcases h with hnone | ⟨row₁, hrow₁, hcovers, -, -⟩
    · omega
    · obtain rfl : row₁ = row := Option.some.inj (hrow₁.symm.trans hrow)
      omega
  · rw [hmin, Int.toNat_natCast]
    exact (min_le_right _ _).trans hlimit

/-- A reservation is counted in the ledger before its command is allowed. -/
theorem accounted_reserve {e : String} {p₀ p : EngagementExecutionPolicy} {k : Nat} {s : System}
    (h : Accounted e p₀ k s p) {n : Nat} (hsync : Synchronised e s (.reserve n)) :
    Accounted e p₀ (k + (allows (.reserve n, (step e s (.reserve n)).2)).toNat)
      (step e s (.reserve n)).1 p := by
  have hrest : ∀ x ∈ s.considered.eraseIdx n, x.2.maxActions = p₀.maxActions :=
    fun x hx => h.considered x (List.mem_of_mem_eraseIdx hx)
  cases hn : s.considered[n]? with
  | none =>
    simp only [step, hn]
    exact h
  | some x =>
    obtain ⟨a, q⟩ := x
    have hused : q.actionsUsed = p.actionsUsed := hsync (a, q) hn p h.policy
    have hlimit : q.maxActions = p₀.maxActions := h.considered (a, q) (List.mem_of_getElem? hn)
    cases hreserve : reserve e a q s.ledger with
    | error err =>
      simp only [step, hn, hreserve]
      exact ⟨h.stored, h.policy, h.limit, hrest, h.counted, h.covered⟩
    | ok made =>
      obtain ⟨r, l⟩ := made
      obtain ⟨hcovered, hone⟩ := covered_reserve (hused ▸ h.covered) hlimit.le hreserve
      have hcounted := h.counted
      simp only [step, hn, hreserve]
      refine ⟨h.stored, h.policy, h.limit, hrest, ?_, hused ▸ hcovered⟩
      show p₀.actionsUsed + k + (s.reserved.length + 1) ≤
        p.actionsUsed + reservationsOf e l.reservations
      omega

/-- A command that may start gives up the reservation it held. -/
theorem accounted_launch {e : String} {p₀ p : EngagementExecutionPolicy} {k : Nat} {s : System}
    (h : Accounted e p₀ k s p) (n : Nat) (now : DateTime) (audit record : Py Unit) :
    Accounted e p₀
      (k + (allows (.launch n now audit record, (step e s (.launch n now audit record)).2)).toNat)
      (step e s (.launch n now audit record)).1 p := by
  cases hn : s.reserved[n]? with
  | none =>
    simp only [step, hn]
    exact h
  | some a =>
    obtain ⟨hlt, -⟩ := List.getElem?_eq_some_iff.mp hn
    have hlength : (s.reserved.eraseIdx n).length = s.reserved.length - 1 :=
      List.length_eraseIdx_of_lt hlt
    have hone : (allows (.launch n now audit record,
        (step e s (.launch n now audit record)).2)).toNat ≤ 1 := Bool.toNat_le _
    have hcounted := h.counted
    generalize hallows : (allows (.launch n now audit record,
      (step e s (.launch n now audit record)).2)).toNat = b at hone ⊢
    simp only [step, hn]
    refine ⟨h.stored, h.policy, h.limit, h.considered, ?_, h.covered⟩
    show p₀.actionsUsed + (k + b) + (s.reserved.eraseIdx n).length ≤
      p.actionsUsed + reservationsOf e s.ledger.reservations
    omega

/-- **Every synchronised call keeps the account.** -/
theorem accounted_step {e : String} {p₀ p : EngagementExecutionPolicy} {n : Nat} {s : System}
    (h : Accounted e p₀ n s p) {call : Call} (hsync : Synchronised e s call) :
    ∃ p', Accounted e p₀ (n + (allows (call, (step e s call).2)).toNat) (step e s call).1 p' := by
  cases call with
  | consume write => exact accounted_consume h hsync write
  | consider a now audit => exact ⟨p, accounted_consider h a now audit⟩
  | reserve m => exact ⟨p, accounted_reserve h hsync⟩
  | launch m now audit record => exact ⟨p, accounted_launch h m now audit record⟩

theorem accounted_run {e : String} {p₀ : EngagementExecutionPolicy} {s : System}
    (h : Start e p₀ s) {calls : List Call} (hsync : Throughout (step e) (Synchronised e) s calls) :
    ∃ p, Accounted e p₀ (allowed (trace (step e) s calls)) (final (step e) s calls) p := by
  induction calls using List.reverseRecOn with
  | nil => exact ⟨p₀, h.accounted⟩
  | append_singleton calls call ih =>
    obtain ⟨p, hp⟩ := ih hsync.prefix
    rw [trace_concat, final_concat, allowed_concat]
    exact accounted_step hp (hsync calls call [] rfl)

/-- A ledger provisioned for more actions than the policy allows, and the policy in its file. -/
def provisioned (policy : EngagementExecutionPolicy) : System where
  store := ⟨(∅ : Policies).insert policy.engagementId policy,
    some (payload ((∅ : Policies).insert policy.engagementId policy))⟩
  ledger := (AtomicActionLedger.step .empty (.provision "e" 5 false)).1
  considered := []
  reserved := []

theorem start_provisioned {policy : EngagementExecutionPolicy} (hid : policy.engagementId = "e") :
    Start "e" policy (provisioned policy) := by
  have hempty : Keyed (∅ : Policies) := by
    intro k p hp
    rw [Finmap.lookup_empty] at hp
    cases hp
  have hkeyed := hempty.insert policy
  have huncounted : reservationsOf "e"
      (AtomicActionLedger.step .empty (.provision "e" 5 false)).1.reservations = 0 := by
    decide +kernel
  refine ⟨⟨load_payload hkeyed, hkeyed⟩, ?_, huncounted, rfl, rfl⟩
  rw [← hid]
  exact Finmap.lookup_insert _

def lowImpactScan : Attempt where
  actionId := "a"
  engagementStatus := "active"
  capability := "scan"
  target := "10.0.0.1"
  impact := "low"
  approved := false

/-- One governed execution from end to end. -/
def governedOnce : List Call :=
  [.consider lowImpactScan standardRequest.now (.ok ()), .reserve 0,
    .launch 0 standardRequest.now (.ok ()) (.ok ())]

/-- A reservation right after the policy was considered is made under the stored count. -/
theorem synchronised_considered {e : String} {s : System} (h : Stored s.store)
    (hnone : s.considered = []) (a : Attempt) (now : DateTime) (audit : Py Unit) :
    Synchronised e (step e s (.consider a now audit)).1 (.reserve 0) := by
  cases hconsider : consider e a now audit s.store.file with
  | error err =>
    simp only [step, hconsider, Synchronised, hnone]
    exact fun x hx => absurd hx (Option.not_mem_none x)
  | ok policy =>
    have hpolicy := consider_eq_ok h hconsider
    simp only [step, hconsider, Synchronised, List.getElem?_cons_zero, Option.mem_some]
    rintro x rfl p hp
    rw [← Option.some.inj (hpolicy.symm.trans hp)]

end NightRecon.RedEngine.GovernedExecution
