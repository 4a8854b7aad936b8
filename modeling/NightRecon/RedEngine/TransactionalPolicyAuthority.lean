import NightRecon.Lib.Dict
import NightRecon.Lib.Machine
import NightRecon.Lib.Sha256
import NightRecon.SharedCore.EngagementPolicy

/-!
# The transactional policy authority

`nightrecon_red_engine/transactional_policy_authority.py`: one SQLite database that every caller
reaches through whole transactions.

* `Tables` — the three tables; `Call` — a call of any caller; `step` — one committed or rolled
  back transaction;
* `Consistent` — what ties the tables to the calls answered so far; `Consistent.step` is the
  one-call lemma and `consistent_run` the run lemma;
* `Revoked` — a stored revocation, which every call keeps and no reservation gets past.
-/

namespace NightRecon.RedEngine.TransactionalPolicyAuthority

open NightRecon.Lib
open NightRecon.Lib.Checks
open NightRecon.Lib.Machine
open NightRecon.Documents
open NightRecon.SharedCore.EngagementPolicy

/-! ## The tables -/

/-- A row of `engagement_authority`, without its key.  The policy text is kept as the value it
parses to. -/
structure Row where
  policyJson : Json
  engagementStatus : String
  actionsUsed : Nat
  revision : Nat

/-- A row of `authority_migration_audit`. -/
structure MigrationRow where
  sourceSha256 : String
  importedCount : Nat
  importedIds : List String
  importedAt : String

/-- The database. -/
structure Tables where
  authority : Dict String Row
  reservations : List (String × String)
  migrationAudit : List MigrationRow

/-- The database the constructor creates. -/
def Tables.empty : Tables := ⟨∅, [], []⟩

/-- The engagement statuses. -/
def statuses : List String := ["planned", "active", "paused", "completed", "archived"]

/-- What a `SELECT` of the `INTEGER` column gives: a count past the 64-bit range is stored as a
real number. -/
def columnValue (n : Nat) : Json :=
  if n < 2 ^ 63 then .int n else .float "9.223372036854776e+18"

/-- `payload[key] = value`. -/
def setItem (payload : Json) (key : String) (value : Json) : Py Json :=
  match payload with
  | .obj members => .ok (.obj (Json.setMember members key value))
  | _ => .error (typeError "object does not support item assignment")

/-- The row a policy is registered with. -/
def newRow (policy : EngagementExecutionPolicy) (status : String) : Row :=
  ⟨policy.toDict, status, policy.actionsUsed, 1⟩

/-- `INSERT INTO engagement_authority`. -/
def insertPolicy (t : Tables) (policy : EngagementExecutionPolicy) (status : String) :
    Py Tables := do
  raiseIf (2 ^ 63 ≤ policy.actionsUsed)
    ⟨.overflowError, "Python int too large to convert to SQLite INTEGER"⟩
  raiseIf (policy.engagementId ∈ t.authority)
    ⟨.integrityError, "UNIQUE constraint failed: engagement_authority.engagement_id"⟩
  return { t with authority := t.authority.insert policy.engagementId (newRow policy status) }

/-- `INSERT INTO authority_reservations`. -/
def insertReservation (t : Tables) (engagementId actionId : String) : Py Tables := do
  raiseIf ((engagementId, actionId) ∈ t.reservations) ⟨.integrityError,
    "UNIQUE constraint failed: authority_reservations.engagement_id, " ++
      "authority_reservations.action_id"⟩
  return { t with reservations := (engagementId, actionId) :: t.reservations }

/-- `UPDATE engagement_authority … WHERE engagement_id=?`, of an existing row. -/
def updateRow (t : Tables) (engagementId : String) (row : Row) : Tables :=
  { t with authority := t.authority.insert engagementId { row with revision := row.revision + 1 } }

/-! ## The calls -/

structure ReservedDecision where
  engagementId : String
  actionId : String
  used : Nat
  remaining : Int
  deriving DecidableEq

/-- The policy `reserve` and `validate_reserved` judge by: the stored one with the usage column
laid over it. -/
def Row.policy (row : Row) : Py EngagementExecutionPolicy := do
  let data ← setItem row.policyJson "actions_used" (columnValue row.actionsUsed)
  fromDict data

/-- Source: `transactional_policy_authority.py` `register`. -/
def register (policy : EngagementExecutionPolicy) (status : String) (t : Tables) :
    Py (Unit × Tables) := do
  require (status ∈ statuses) (valueError "Invalid engagement status")
  let t ← insertPolicy t policy status
  return ((), t)

/-- Source: `transactional_policy_authority.py` `set_status`. -/
def setStatus (engagementId status : String) (t : Tables) : Py (Unit × Tables) := do
  require (status ∈ statuses) (valueError "Invalid engagement status")
  let row ← getOrRaise (t.authority.lookup engagementId) (keyError "Engagement not found")
  return ((), updateRow t engagementId { row with engagementStatus := status })

/-- Source: `transactional_policy_authority.py` `revoke`. -/
def revoke (engagementId : String) (t : Tables) : Py (Unit × Tables) := do
  let row ← getOrRaise (t.authority.lookup engagementId) (keyError "Engagement not found")
  let policy ← setItem row.policyJson "revoked" (.bool true)
  return ((), updateRow t engagementId { row with policyJson := policy })

/-- Source: `transactional_policy_authority.py` `reserve`. -/
def reserve (engagementId actionId : String) (request : ActionRequest) (t : Tables) :
    Py (ReservedDecision × Tables) := do
  raiseIf (actionId = "" ∨ 128 < actionId.length) (valueError "Invalid action identifier")
  let row ← getOrRaise (t.authority.lookup engagementId)
    (permissionError "Engagement not registered")
  let policy ← row.policy
  let decision ← evaluateAction policy (some row.engagementStatus) request
  require decision.allowed (permissionError decision.reasonCode.text)
  raiseIf ((engagementId, actionId) ∈ t.reservations)
    (permissionError "Duplicate action identifier")
  let t ← insertReservation t engagementId actionId
  let t := updateRow t engagementId { row with actionsUsed := row.actionsUsed + 1 }
  return (⟨engagementId, actionId, row.actionsUsed + 1,
    (policy.maxActions : Int) - row.actionsUsed - 1⟩, t)

/-- Source: `transactional_policy_authority.py` `validate_reserved`. -/
def validateReserved (engagementId actionId : String) (request : ActionRequest) (t : Tables) :
    Py (Unit × Tables) := do
  let row ← getOrRaise (t.authority.lookup engagementId)
    (permissionError "Engagement unavailable")
  require ((engagementId, actionId) ∈ t.reservations) (permissionError "Action is not reserved")
  let policy ← row.policy
  let result ← evaluateReservedAction policy (some row.engagementStatus) request
  require result.allowed (permissionError result.reasonCode.text)
  return ((), t)

/-- The policies of a legacy document. -/
def legacyPolicies (payload : Json) : Py (List EngagementExecutionPolicy) := do
  require (keys? payload = some {"schema_version", "policies"})
    (valueError "Invalid legacy policy document")
  require ((payload.get? "schema_version").any equalsOne)
    (valueError "Unsupported legacy policy document")
  let items ← asArr (payload.get? "policies") "Unsupported legacy policy document"
  items.mapM fromDict

/-- The inserts of an import, in the order of the document. -/
def insertPolicies (t : Tables) (policies : List EngagementExecutionPolicy)
    (given : Dict String String) : Py Tables :=
  policies.foldlM (fun t policy => do
    let status ← getOrRaise (given.lookup policy.engagementId) (keyError policy.engagementId)
    insertPolicy t policy status) t

/-- The document is read twice: `file` is the value it parses to and `bytes` its raw content, each
of which may fail to be read; `now` is the clock's text.
Source: `transactional_policy_authority.py` `import_legacy`. -/
def importLegacy (file : Py Json) (given : Dict String String) (bytes : Py (List Nat)) (now : String)
    (t : Tables) : Py (Nat × Tables) := do
  let payload ← file
  let policies ← legacyPolicies payload
  let identifiers := policies.map (·.engagementId)
  raiseIf (¬ identifiers.Nodup) (valueError "Duplicate engagement in legacy policy document")
  require (given.keys = identifiers.toFinset)
    (valueError "Each imported engagement needs an explicit status")
  raiseIf (∃ k ∈ given.keys, ∃ s ∈ given.lookup k, s ∉ statuses)
    (valueError "Invalid imported engagement status")
  let t ← insertPolicies t policies given
  let content ← bytes
  return (policies.length, { t with migrationAudit := t.migrationAudit ++
    [⟨Sha256.hexdigest (Sha256.sha256 content), policies.length, Text.sortedStr identifiers, now⟩] })

/-- A call of one of the callers. -/
inductive Call where
  | register (policy : EngagementExecutionPolicy) (status : String)
  | setStatus (engagementId status : String)
  | revoke (engagementId : String)
  | reserve (engagementId actionId : String) (request : ActionRequest)
  | validateReserved (engagementId actionId : String) (request : ActionRequest)
  | importLegacy (file : Py Json) (given : Dict String String) (bytes : Py (List Nat)) (now : String)

/-- What a call returns. -/
inductive Answer where
  | none
  | reserved (decision : ReservedDecision)
  | count (n : Nat)

/-- The transaction of a call. -/
def body (call : Call) (t : Tables) : Py (Answer × Tables) :=
  match call with
  | .register policy status => (register policy status t).map fun r => (.none, r.2)
  | .setStatus e status => (setStatus e status t).map fun r => (.none, r.2)
  | .revoke e => (revoke e t).map fun r => (.none, r.2)
  | .reserve e a request => (reserve e a request t).map fun r => (.reserved r.1, r.2)
  | .validateReserved e a request => (validateReserved e a request t).map fun r => (.none, r.2)
  | .importLegacy file given bytes now =>
      (importLegacy file given bytes now t).map fun r => (.count r.1, r.2)

/-- One call: its transaction is committed on return and rolled back on an exception. -/
def step (t : Tables) (call : Call) : Tables × Py Answer := transaction (body call) t

/-! ## What a successful call did -/

theorem setItem_eq_ok {payload data : Json} {key : String} {value : Json}
    (h : setItem payload key value = .ok data) (k : String) :
    data.get? k = if k = key then some value else payload.get? k := by
  unfold setItem at h
  split at h
  · cases h
    exact Json.find?_setMember _ _ _ _
  · cases h

/-- The policy of a row carries the usage of the column and everything else of the stored text. -/
theorem Row.policy_of_ok {row : Row} {q : EngagementExecutionPolicy} (h : row.policy = .ok q) :
    row.policyJson.get? "engagement_id" = some (.str q.engagementId) ∧
      row.policyJson.get? "max_actions" = some (.int q.maxActions) ∧
      q.actionsUsed = row.actionsUsed ∧
      ∃ revoked, row.policyJson.get? "revoked" = some revoked ∧ q.revoked = truthy revoked := by
  unfold Row.policy at h
  rw [bind_eq_ok] at h
  obtain ⟨data, hdata, hq⟩ := h
  obtain ⟨hid, hmax, hused, hrevoked⟩ := fromDict_args hq
  have hget := setItem_eq_ok hdata
  rw [hget, if_neg (by decide)] at hid hmax
  rw [hget, if_pos rfl, Option.some_inj] at hused
  simp only [hget, if_neg (show "revoked" ≠ "actions_used" by decide)] at hrevoked
  refine ⟨hid, hmax, ?_, hrevoked⟩
  unfold columnValue at hused
  split at hused
  · simp only [Json.int.injEq, Int.natCast_inj] at hused
    exact hused.symm
  · cases hused

theorem insertPolicy_eq_ok {t t' : Tables} {policy : EngagementExecutionPolicy} {status : String} :
    insertPolicy t policy status = .ok t' ↔
      policy.actionsUsed < 2 ^ 63 ∧ policy.engagementId ∉ t.authority ∧
        t' = { t with
          authority := t.authority.insert policy.engagementId (newRow policy status) } := by
  unfold insertPolicy
  rw [raiseIf_bind_eq_ok, raiseIf_bind_eq_ok, pure_eq_ok, Except.ok.injEq, not_le]
  exact and_congr_right' (and_congr_right' eq_comm)

theorem reserve_eq_ok {e a : String} {request : ActionRequest} {t t' : Tables}
    {d : ReservedDecision} (h : reserve e a request t = .ok (d, t')) :
    ∃ row policy decision, t.authority.lookup e = some row ∧ row.policy = .ok policy ∧
      evaluateAction policy (some row.engagementStatus) request = .ok decision ∧
      decision.allowed = true ∧ (e, a) ∉ t.reservations ∧
      t' = updateRow { t with reservations := (e, a) :: t.reservations } e
        { row with actionsUsed := row.actionsUsed + 1 } := by
  unfold reserve at h
  simp only [bind_eq_ok, raiseIf_eq_ok, getOrRaise_eq_ok, require_eq_ok, insertReservation,
    pure_eq_ok, Except.ok.injEq, Prod.mk.injEq] at h
  obtain ⟨-, -, row, hrow, policy, hpolicy, decision, hdecision, -, hallowed, -, hfresh, t₁,
    ⟨-, -, rfl⟩, -, rfl⟩ := h
  exact ⟨row, policy, decision, hrow, hpolicy, hdecision, hallowed, hfresh, rfl⟩

theorem validateReserved_eq_ok {e a : String} {request : ActionRequest} {t t' : Tables}
    (h : validateReserved e a request t = .ok ((), t')) :
    t' = t ∧ ∃ row policy decision, t.authority.lookup e = some row ∧ row.policy = .ok policy ∧
      evaluateReservedAction policy (some row.engagementStatus) request = .ok decision ∧
      decision.allowed = true := by
  unfold validateReserved at h
  simp only [bind_eq_ok, getOrRaise_eq_ok, require_eq_ok, pure_eq_ok, Except.ok.injEq,
    Prod.mk.injEq] at h
  obtain ⟨row, hrow, -, -, policy, hpolicy, decision, hdecision, -, hallowed, -, rfl⟩ := h
  exact ⟨rfl, row, policy, decision, hrow, hpolicy, hdecision, hallowed⟩

theorem setStatus_eq_ok {e status : String} {t t' : Tables}
    (h : setStatus e status t = .ok ((), t')) :
    ∃ row, t.authority.lookup e = some row ∧
      t' = updateRow t e { row with engagementStatus := status } := by
  unfold setStatus at h
  simp only [bind_eq_ok, getOrRaise_eq_ok, require_eq_ok, pure_eq_ok, Except.ok.injEq,
    Prod.mk.injEq] at h
  obtain ⟨-, -, row, hrow, -, rfl⟩ := h
  exact ⟨row, hrow, rfl⟩

theorem revoke_eq_ok {e : String} {t t' : Tables} (h : revoke e t = .ok ((), t')) :
    ∃ row policy, t.authority.lookup e = some row ∧
      setItem row.policyJson "revoked" (.bool true) = .ok policy ∧
      t' = updateRow t e { row with policyJson := policy } := by
  unfold revoke at h
  simp only [bind_eq_ok, getOrRaise_eq_ok, pure_eq_ok, Except.ok.injEq, Prod.mk.injEq] at h
  obtain ⟨row, hrow, policy, hpolicy, -, rfl⟩ := h
  exact ⟨row, policy, hrow, hpolicy, rfl⟩

theorem importLegacy_eq_ok {file : Py Json} {given : Dict String String} {bytes : Py (List Nat)}
    {now : String} {t t' : Tables} {n : Nat}
    (h : importLegacy file given bytes now t = .ok (n, t')) :
    ∃ payload policies t₁, file = .ok payload ∧ legacyPolicies payload = .ok policies ∧
      (policies.map (·.engagementId)).Nodup ∧ insertPolicies t policies given = .ok t₁ ∧
      t'.authority = t₁.authority ∧ t'.reservations = t₁.reservations := by
  unfold importLegacy at h
  simp only [bind_eq_ok, require_eq_ok, raiseIf_eq_ok, pure_eq_ok, Except.ok.injEq,
    Prod.mk.injEq, not_not] at h
  obtain ⟨payload, hfile, policies, hpolicies, -, hnodup, -, -, -, -, t₁, ht₁, content, -, -,
    rfl⟩ := h
  exact ⟨payload, policies, t₁, hfile, hpolicies, hnodup, ht₁, rfl, rfl⟩

/-! ## The tables against the calls answered so far -/

/-- The policies a call stored. -/
def stored : Call × Py Answer → List EngagementExecutionPolicy
  | (.register policy _, .ok _) => [policy]
  | (.importLegacy (.ok payload) _ _ _, .ok _) => (legacyPolicies payload).toOption.getD []
  | _ => []

/-- The action a successful `reserve` reserved. -/
def reserved : Call × Py Answer → List (String × String)
  | (.reserve e a _, .ok _) => [(e, a)]
  | _ => []

/-- The number of reservations of one engagement. -/
def reservationsOf (actions : List (String × String)) (e : String) : Nat :=
  actions.countP (·.1 = e)

/-- A row against the policy it was registered with: the text is that policy, revoked or not, and
the column its usage with the reservations since. -/
structure RowOf (policy : EngagementExecutionPolicy) (reservations : Nat) (row : Row) : Prop where
  text : row.policyJson = policy.toDict ∨ row.policyJson = policy.revoke.toDict
  used : row.actionsUsed = policy.actionsUsed + reservations
  within : row.actionsUsed ≤ policy.maxActions

/-- The tables after calls that stored `policies` and reserved `actions`. -/
structure Consistent (policies : List EngagementExecutionPolicy) (actions : List (String × String))
    (t : Tables) : Prop where
  rows : ∀ e row, t.authority.lookup e = some row → ∃ policy ∈ policies,
    policy.engagementId = e ∧ RowOf policy (reservationsOf actions e) row
  registered : ∀ policy ∈ policies, policy.engagementId ∈ t.authority
  ids : (policies.map (·.engagementId)).Nodup
  reservations : t.reservations = actions.reverse
  once : actions.Nodup
  known : ∀ action ∈ actions, action.1 ∈ t.authority

theorem Consistent.empty : Consistent [] [] Tables.empty where
  rows := by simp [Tables.empty]
  registered := by simp
  ids := List.nodup_nil
  reservations := rfl
  once := List.nodup_nil
  known := by simp

section Step

variable {policies : List EngagementExecutionPolicy} {actions : List (String × String)}
variable {t t' : Tables}

/-- An insert adds a row under a new key. -/
theorem Consistent.insertPolicy {policy : EngagementExecutionPolicy} {status : String}
    (ht : Consistent policies actions t)
    (h : TransactionalPolicyAuthority.insertPolicy t policy status = .ok t') :
    Consistent (policies ++ [policy]) actions t' := by
  obtain ⟨-, hnew, rfl⟩ := insertPolicy_eq_ok.mp h
  have hnone : reservationsOf actions policy.engagementId = 0 := by
    rw [reservationsOf, List.countP_eq_zero]
    intro action hmem heq
    exact hnew (of_decide_eq_true heq ▸ ht.known action hmem)
  refine ⟨fun e row hrow => ?_, fun p hp => ?_, ?_, ht.reservations, ht.once, fun action hmem => ?_⟩
  · simp only [Dict.lookup_insert_eq] at hrow
    split at hrow
    · rename_i heq
      cases hrow
      refine ⟨policy, by simp, heq.symm, .inl rfl, ?_, policy.actionsUsed_le⟩
      rw [heq, hnone, Nat.add_zero]
      rfl
    · obtain ⟨p, hp, hid, hof⟩ := ht.rows e row hrow
      exact ⟨p, List.mem_append_left _ hp, hid, hof⟩
  · rw [Finmap.mem_insert]
    rcases List.mem_append.mp hp with hp | hp
    · exact .inr (ht.registered p hp)
    · exact .inl (by rw [List.mem_singleton.mp hp])
  · rw [List.map_append, List.nodup_append]
    refine ⟨ht.ids, List.nodup_singleton _, ?_⟩
    intro id hid id' hid'
    obtain ⟨p, hp, rfl⟩ := List.mem_map.mp hid
    rw [List.map_singleton, List.mem_singleton] at hid'
    rintro rfl
    exact hnew (hid' ▸ ht.registered p hp)
  · exact Finmap.mem_insert.mpr (.inr (ht.known action hmem))

/-- The inserts of an import, from the invariant before them. -/
theorem Consistent.insertPolicies {news : List EngagementExecutionPolicy} {given : Dict String String}
    (ht : Consistent policies actions t)
    (h : TransactionalPolicyAuthority.insertPolicies t news given = .ok t') :
    Consistent (policies ++ news) actions t' := by
  refine foldlM_induct (P := fun done t => Consistent (policies ++ done) actions t) ?_ news [] t t'
    (by simpa using ht) h
  intro done policy t t' hdone hstep
  rw [bind_eq_ok] at hstep
  obtain ⟨status, -, hinsert⟩ := hstep
  rw [← List.append_assoc]
  exact hdone.insertPolicy hinsert

/-- An update that keeps the text and the usage of the row keeps the invariant. -/
theorem Consistent.updateRow {e : String} {row row' : Row} (ht : Consistent policies actions t)
    (hrow : t.authority.lookup e = some row)
    (hnew : ∀ policy, RowOf policy (reservationsOf actions e) row →
      RowOf policy (reservationsOf actions e) row') :
    Consistent policies actions (TransactionalPolicyAuthority.updateRow t e row') := by
  refine ⟨fun e' row₁ hrow₁ => ?_, fun p hp => ?_, ht.ids, ht.reservations, ht.once,
    fun action hmem => ?_⟩
  · simp only [TransactionalPolicyAuthority.updateRow, Dict.lookup_insert_eq] at hrow₁
    split at hrow₁
    · rename_i heq
      cases hrow₁
      obtain ⟨p, hp, hid, hof⟩ := ht.rows e row hrow
      obtain ⟨htext, hused, hwithin⟩ := hnew p hof
      exact ⟨p, hp, hid.trans heq.symm, htext, heq ▸ hused, hwithin⟩
    · exact ht.rows e' row₁ hrow₁
  · exact Finmap.mem_insert.mpr (.inr (ht.registered p hp))
  · exact Finmap.mem_insert.mpr (.inr (ht.known action hmem))

/-- A reservation adds one to the column and one action to the table. -/
theorem Consistent.reserve {e a : String} {request : ActionRequest} {d : ReservedDecision}
    (ht : Consistent policies actions t)
    (h : TransactionalPolicyAuthority.reserve e a request t = .ok (d, t')) :
    Consistent policies (actions ++ [(e, a)]) t' := by
  obtain ⟨row, q, decision, hrow, hq, hdecision, hallowed, hfresh, rfl⟩ := reserve_eq_ok h
  obtain ⟨-, hmax, hused, -⟩ := Row.policy_of_ok hq
  have hbudget := evaluateAction_allowed_budget hdecision hallowed
  have hcount : ∀ e', reservationsOf (actions ++ [(e, a)]) e' =
      reservationsOf actions e' + if e' = e then 1 else 0 := by
    intro e'
    simp [reservationsOf, List.countP_append, List.countP_cons, eq_comm]
  refine ⟨fun e' row₁ hrow₁ => ?_, fun p hp => ?_, ht.ids, ?_, ?_, fun action hmem => ?_⟩
  · simp only [TransactionalPolicyAuthority.updateRow, Dict.lookup_insert_eq] at hrow₁
    rw [hcount]
    split at hrow₁
    · rename_i heq
      cases hrow₁
      obtain ⟨p, hp, hid, htext, hpused, -⟩ := ht.rows e row hrow
      have hpmax : p.maxActions = q.maxActions := by
        rcases htext with htext | htext
        · rw [htext] at hmax
          simpa [EngagementExecutionPolicy.toDict, Json.get?] using hmax
        · rw [htext] at hmax
          simpa [EngagementExecutionPolicy.toDict, Json.get?] using hmax
      refine ⟨p, hp, hid.trans heq.symm, htext, ?_, ?_⟩
      · rw [if_pos heq, heq, hpused, Nat.add_assoc]
      · rw [hpmax]
        exact hused ▸ hbudget
    · rename_i hne
      obtain ⟨p, hp, hid, hof⟩ := ht.rows e' row₁ hrow₁
      rw [if_neg hne, Nat.add_zero]
      exact ⟨p, hp, hid, hof⟩
  · exact Finmap.mem_insert.mpr (.inr (ht.registered p hp))
  · simp [TransactionalPolicyAuthority.updateRow, ht.reservations]
  · rw [ht.reservations, List.mem_reverse] at hfresh
    rw [List.nodup_append]
    refine ⟨ht.once, List.nodup_singleton _, ?_⟩
    intro action hmem action' hmem'
    rw [List.mem_singleton] at hmem'
    rintro rfl
    exact hfresh (hmem' ▸ hmem)
  · refine Finmap.mem_insert.mpr ?_
    rcases List.mem_append.mp hmem with hmem | hmem
    · exact .inr (ht.known action hmem)
    · rw [List.mem_singleton] at hmem
      exact .inl (by rw [hmem])

theorem setItem_revoked {policy : EngagementExecutionPolicy} {data : Json}
    (h : setItem policy.toDict "revoked" (.bool true) = .ok data) :
    data = policy.revoke.toDict := by
  simp only [setItem, EngagementExecutionPolicy.toDict, Except.ok.injEq] at h
  rw [← h]
  rfl

/-- **One call.**  Whatever a call answers, the tables stay consistent with the policies stored
and the actions reserved, its own included. -/
theorem Consistent.step (ht : Consistent policies actions t) (call : Call) :
    Consistent (policies ++ stored (call, (TransactionalPolicyAuthority.step t call).2))
      (actions ++ reserved (call, (TransactionalPolicyAuthority.step t call).2))
      (TransactionalPolicyAuthority.step t call).1 := by
  cases hans : (TransactionalPolicyAuthority.step t call).2 with
  | error e =>
    have hsame : (TransactionalPolicyAuthority.step t call).1 = t := transaction_error hans
    rw [hsame]
    cases call <;> simpa [stored, reserved] using ht
  | ok answer =>
    have hbody : body call t = .ok (answer, (TransactionalPolicyAuthority.step t call).1) :=
      transaction_ok hans
    generalize (TransactionalPolicyAuthority.step t call).1 = t' at hbody
    cases call with
    | register policy status =>
      obtain ⟨⟨⟨⟩, t₁⟩, h, hr⟩ := map_eq_ok.mp hbody
      cases hr
      simp only [register, bind_eq_ok, require_eq_ok, pure_eq_ok, Except.ok.injEq,
        Prod.mk.injEq] at h
      obtain ⟨-, -, t₂, hinsert, -, rfl⟩ := h
      simpa [stored, reserved] using ht.insertPolicy hinsert
    | setStatus e status =>
      obtain ⟨⟨⟨⟩, t₁⟩, h, hr⟩ := map_eq_ok.mp hbody
      cases hr
      obtain ⟨row, hrow, rfl⟩ := setStatus_eq_ok h
      simp only [stored, reserved, List.append_nil]
      exact ht.updateRow hrow fun _ hof => ⟨hof.text, hof.used, hof.within⟩
    | revoke e =>
      obtain ⟨⟨⟨⟩, t₁⟩, h, hr⟩ := map_eq_ok.mp hbody
      cases hr
      obtain ⟨row, data, hrow, hdata, rfl⟩ := revoke_eq_ok h
      simp only [stored, reserved, List.append_nil]
      refine ht.updateRow hrow fun policy hof => ⟨.inr ?_, hof.used, hof.within⟩
      rcases hof.text with htext | htext
      · exact setItem_revoked (htext ▸ hdata)
      · have hrevoked : setItem policy.revoke.toDict "revoked" (.bool true) = .ok data :=
          htext ▸ hdata
        exact setItem_revoked hrevoked
    | reserve e a request =>
      obtain ⟨⟨d, t₁⟩, h, hr⟩ := map_eq_ok.mp hbody
      cases hr
      simpa [stored, reserved] using ht.reserve h
    | validateReserved e a request =>
      obtain ⟨⟨⟨⟩, t₁⟩, h, hr⟩ := map_eq_ok.mp hbody
      cases hr
      rw [(validateReserved_eq_ok h).1]
      simpa [stored, reserved] using ht
    | importLegacy file given bytes now =>
      obtain ⟨⟨n, t₁⟩, h, hr⟩ := map_eq_ok.mp hbody
      cases hr
      obtain ⟨payload, news, t₂, rfl, hnews, -, hinsert, hauthority, hreservations⟩ :=
        importLegacy_eq_ok h
      have hstored := ht.insertPolicies hinsert
      simp only [stored, reserved, hnews, Except.toOption, Option.getD_some, List.append_nil]
      exact ⟨hauthority ▸ hstored.rows, hauthority ▸ hstored.registered, hstored.ids,
        hreservations ▸ hstored.reservations, hstored.once, hauthority ▸ hstored.known⟩

end Step

/-- **Every run.**  The tables are consistent with the trace that led to them. -/
theorem consistent_run (calls : List Call) :
    Consistent ((trace step .empty calls).flatMap stored)
      ((trace step .empty calls).flatMap reserved) (final step .empty calls) := by
  refine run_induct
    (P := fun tr t => Consistent (tr.flatMap stored) (tr.flatMap reserved) t) .empty ?_ calls
  intro tr t call ht
  simpa only [List.flatMap_append, List.flatMap_singleton] using ht.step call

/-! ## Revocation -/

/-- The stored policy of an engagement says it is revoked. -/
def Revoked (e : String) (t : Tables) : Prop :=
  ∃ row, t.authority.lookup e = some row ∧ row.policyJson.get? "revoked" = some (.bool true)

/-- A successful reservation or lease re-check of one engagement. -/
def authorizes (e : String) : Call × Py Answer → Prop
  | (.reserve e' _ _, .ok _) => e' = e
  | (.validateReserved e' _ _, .ok _) => e' = e
  | _ => False

theorem Revoked.of_lookup {e : String} {t t' : Tables} (h : Revoked e t)
    (hsame : t'.authority.lookup e = t.authority.lookup e) : Revoked e t' := by
  obtain ⟨row, hrow, hrevoked⟩ := h
  exact ⟨row, hsame.trans hrow, hrevoked⟩

theorem Revoked.insertPolicy {e : String} {t t' : Tables} {policy : EngagementExecutionPolicy}
    {status : String} (h : Revoked e t)
    (hinsert : TransactionalPolicyAuthority.insertPolicy t policy status = .ok t') :
    Revoked e t' := by
  obtain ⟨-, hnew, rfl⟩ := insertPolicy_eq_ok.mp hinsert
  refine h.of_lookup (Finmap.lookup_insert_of_ne _ ?_)
  rintro rfl
  obtain ⟨row, hrow, -⟩ := h
  exact hnew (Finmap.mem_of_lookup_eq_some hrow)

theorem Revoked.updateRow {e e' : String} {t : Tables} {row row' : Row} (h : Revoked e t)
    (hrow : t.authority.lookup e' = some row)
    (htext : row.policyJson.get? "revoked" = some (.bool true) →
      row'.policyJson.get? "revoked" = some (.bool true)) :
    Revoked e (TransactionalPolicyAuthority.updateRow t e' row') := by
  by_cases heq : e = e'
  · subst heq
    obtain ⟨row₁, hrow₁, hrevoked⟩ := h
    rw [hrow, Option.some_inj] at hrow₁
    exact ⟨_, Finmap.lookup_insert _, htext (hrow₁ ▸ hrevoked)⟩
  · exact h.of_lookup (Finmap.lookup_insert_of_ne _ heq)

/-- **No call lifts a stored revocation.** -/
theorem Revoked.step {e : String} {t : Tables} (h : Revoked e t) (call : Call) :
    Revoked e (TransactionalPolicyAuthority.step t call).1 := by
  cases hans : (TransactionalPolicyAuthority.step t call).2 with
  | error err =>
    have hsame : (TransactionalPolicyAuthority.step t call).1 = t := transaction_error hans
    rwa [hsame]
  | ok answer =>
    have hbody : body call t = .ok (answer, (TransactionalPolicyAuthority.step t call).1) :=
      transaction_ok hans
    generalize (TransactionalPolicyAuthority.step t call).1 = t' at hbody
    cases call with
    | register policy status =>
      obtain ⟨⟨⟨⟩, t₁⟩, hr, heq⟩ := map_eq_ok.mp hbody
      cases heq
      simp only [register, bind_eq_ok, require_eq_ok, pure_eq_ok, Except.ok.injEq,
        Prod.mk.injEq] at hr
      obtain ⟨-, -, t₂, hinsert, -, rfl⟩ := hr
      exact h.insertPolicy hinsert
    | setStatus e' status =>
      obtain ⟨⟨⟨⟩, t₁⟩, hr, heq⟩ := map_eq_ok.mp hbody
      cases heq
      obtain ⟨row, hrow, rfl⟩ := setStatus_eq_ok hr
      exact h.updateRow hrow id
    | revoke e' =>
      obtain ⟨⟨⟨⟩, t₁⟩, hr, heq⟩ := map_eq_ok.mp hbody
      cases heq
      obtain ⟨row, data, hrow, hdata, rfl⟩ := revoke_eq_ok hr
      exact h.updateRow hrow fun _ => by rw [setItem_eq_ok hdata, if_pos rfl]
    | reserve e' a request =>
      obtain ⟨⟨d, t₁⟩, hr, heq⟩ := map_eq_ok.mp hbody
      cases heq
      obtain ⟨row, q, decision, hrow, -, -, -, -, rfl⟩ := reserve_eq_ok hr
      exact Revoked.updateRow (t := { t with reservations := (e', a) :: t.reservations })
        (h.of_lookup rfl) hrow id
    | validateReserved e' a request =>
      obtain ⟨⟨⟨⟩, t₁⟩, hr, heq⟩ := map_eq_ok.mp hbody
      cases heq
      exact (validateReserved_eq_ok hr).1 ▸ h
    | importLegacy file given bytes now =>
      obtain ⟨⟨n, t₁⟩, hr, heq⟩ := map_eq_ok.mp hbody
      cases heq
      obtain ⟨payload, news, t₂, -, -, -, hinsert, hauthority, -⟩ := importLegacy_eq_ok hr
      have h₂ : Revoked e t₂ := by
        refine foldlM_induct (P := fun _ t => Revoked e t) ?_ news [] t t₂ h hinsert
        intro done policy t t' ht hstep
        rw [bind_eq_ok] at hstep
        obtain ⟨status, -, hinsert⟩ := hstep
        exact ht.insertPolicy hinsert
      exact h₂.of_lookup (by rw [hauthority])

/-- A revoked row gives a revoked policy to judge by. -/
theorem Revoked.policy {e : String} {t : Tables} (h : Revoked e t) {row : Row}
    (hrow : t.authority.lookup e = some row) {q : EngagementExecutionPolicy}
    (hq : row.policy = .ok q) : q.revoked = true := by
  obtain ⟨row', hrow', hrevoked⟩ := h
  rw [hrow, Option.some_inj] at hrow'
  obtain ⟨-, -, -, value, hvalue, htruthy⟩ := Row.policy_of_ok hq
  rw [hrow', hrevoked, Option.some_inj] at hvalue
  rw [htruthy, ← hvalue]
  rfl

/-- **Under a stored revocation no reservation and no lease re-check succeeds.** -/
theorem Revoked.not_authorizes {e : String} {t : Tables} (h : Revoked e t) (call : Call) :
    ¬ authorizes e (call, (TransactionalPolicyAuthority.step t call).2) := by
  cases hans : (TransactionalPolicyAuthority.step t call).2 with
  | error err => cases call <;> simp [authorizes]
  | ok answer =>
    have hbody : body call t = .ok (answer, (TransactionalPolicyAuthority.step t call).1) :=
      transaction_ok hans
    cases call with
    | reserve e' a request =>
      rintro rfl
      obtain ⟨⟨d, t₁⟩, hr, -⟩ := map_eq_ok.mp hbody
      obtain ⟨row, q, decision, hrow, hq, hdecision, hallowed, -, -⟩ := reserve_eq_ok hr
      have := evaluateAction_allowed_notRevoked hdecision hallowed
      rw [h.policy hrow hq] at this
      cases this
    | validateReserved e' a request =>
      rintro rfl
      obtain ⟨⟨⟨⟩, t₁⟩, hr, -⟩ := map_eq_ok.mp hbody
      obtain ⟨-, row, q, decision, hrow, hq, hdecision, hallowed⟩ := validateReserved_eq_ok hr
      have := evaluateReservedAction_allowed_notRevoked hdecision hallowed
      rw [h.policy hrow hq] at this
      cases this
    | _ => simp [authorizes]

theorem Revoked.of_revoke {e : String} {t : Tables} {answer : Answer}
    (h : (TransactionalPolicyAuthority.step t (.revoke e)).2 = .ok answer) :
    Revoked e (TransactionalPolicyAuthority.step t (.revoke e)).1 := by
  have hbody : body (.revoke e) t =
      .ok (answer, (TransactionalPolicyAuthority.step t (.revoke e)).1) := transaction_ok h
  generalize (TransactionalPolicyAuthority.step t (.revoke e)).1 = t' at hbody
  obtain ⟨⟨⟨⟩, t₁⟩, hr, heq⟩ := map_eq_ok.mp hbody
  cases heq
  obtain ⟨row, data, hrow, hdata, rfl⟩ := revoke_eq_ok hr
  exact ⟨_, Finmap.lookup_insert _, by rw [setItem_eq_ok hdata, if_pos rfl]⟩

/-! ## The authority over a whole run -/

/-- **Budget, uniqueness, atomicity and revocation over every serialised interleaving.**  Every
registered policy has a row whose usage is the registered usage plus the reservations made for it
and within the stored policy's limit; no action is reserved twice; a call that raises changes no
row; and behind a returned `revoke` nothing is authorized. -/
theorem authority_run (calls : List Call) :
    let t := final step .empty calls
    let tr := trace step .empty calls
    (∀ e row, t.authority.lookup e = some row →
      ∃ policy ∈ tr.flatMap stored, policy.engagementId = e) ∧
    (∀ policy ∈ tr.flatMap stored, ∃ row, t.authority.lookup policy.engagementId = some row ∧
      row.actionsUsed =
        policy.actionsUsed + reservationsOf (tr.flatMap reserved) policy.engagementId ∧
      ∃ current : EngagementExecutionPolicy, row.policyJson = current.toDict ∧
        row.actionsUsed ≤ current.maxActions) ∧
    (tr.flatMap reserved).Nodup ∧ t.reservations.Nodup ∧
    (∀ t call err, (step t call).2 = .error err → (step t call).1 = t) ∧
    (∀ pre e answer post, tr = pre ++ (.revoke e, .ok answer) :: post →
      ∀ entry ∈ post, ¬ authorizes e entry) := by
  intro t tr
  have hrun : Consistent (tr.flatMap stored) (tr.flatMap reserved) t := consistent_run calls
  refine ⟨fun e row hrow => ?_, fun policy hmem => ?_, hrun.once, ?_,
    fun t call err herr => transaction_error herr, fun pre e answer post htr => ?_⟩
  · obtain ⟨policy, hmem, hid, -⟩ := hrun.rows e row hrow
    exact ⟨policy, hmem, hid⟩
  · obtain ⟨row, hrow⟩ := Finmap.mem_iff.mp (hrun.registered policy hmem)
    obtain ⟨policy', hmem', hid, htext, hused, hwithin⟩ := hrun.rows _ row hrow
    have heq : policy' = policy := List.inj_on_of_nodup_map hrun.ids hmem' hmem hid
    subst heq
    refine ⟨row, hrow, hused, ?_⟩
    rcases htext with htext | htext
    · exact ⟨policy', htext, hwithin⟩
    · exact ⟨policy'.revoke, htext, hwithin⟩
  · rw [hrun.reservations, List.nodup_reverse]
    exact hrun.once
  · obtain ⟨before, after, -, -, hanswer, hpost⟩ := trace_split_at htr
    rw [← hpost]
    exact never_after (I := Revoked e) (fun _ call h => Revoked.step h call)
      (fun _ call h => Revoked.not_authorizes h call) (Revoked.of_revoke hanswer.symm) after

end NightRecon.RedEngine.TransactionalPolicyAuthority
