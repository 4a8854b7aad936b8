import NightRecon.Lib.CodeChain
import NightRecon.Lib.Machine
import NightRecon.TaskAutomation.ObjectiveRecord

/-!
# The queue of objectives

`tools/task_automation/queue.py` `ObjectiveQueue`: every objective has a record, and every change of
the record is an event whose authentication code covers the one before it.

* `Rows`, `Tables` — the rows of one objective, and all of them;
* `mac`, `authenticate`, `readRecord`, `writeRecord` — reading and writing inside a transaction;
* `claimRecord`, `updateRecord`, `expireRecord` — what the operations make of a record;
* `enqueueRows`, `claim`, `update`, `expire`, `reserveAttempt`, `commitAttempt` — the transactions
  on the rows of an objective; `reserve_attempt` reads in one and writes in another;
* `Call`, `Session`, `step` — the calls of all callers, in any order.
-/

namespace NightRecon.TaskAutomation

open NightRecon.Lib
open NightRecon.Lib.Checks
open NightRecon.Lib.CodeChain (Link)
open NightRecon.Lib.Sha256

namespace Queue

/-! ## Tables -/

/-- A row of `events`: the version, the event with its record, the code before it and its own. -/
abbrev EventRow := Link (String × String) String

/-- The rows of one objective; its events in the order of their versions. -/
structure Rows where
  approval : Option (String × List UInt8)
  objective : Option (String × String)
  events : List EventRow

/-- The rows by objective. -/
abbrev Tables := String → Rows

def emptyRows : Rows := ⟨none, none, []⟩

/-- `"0" * 64`. -/
def zeros : String := String.ofList (List.replicate 64 '0')

section Transactions

variable (key : List UInt8)

/-- The code of an event with its record.  Source: `queue.py` `ObjectiveQueue._mac`. -/
def mac (objectiveId : String) (version : Int) (body : String × String) (previous : String) :
    String :=
  let message := canonical (.obj [("id", .str objectiveId), ("version", .int version),
    ("event", .str body.1), ("record_sha256", .str (digest (Json.encode body.2.toList))),
    ("previous", .str previous)])
  hmacHex (key.map UInt8.toNat)
    ((Json.encode "nightrecon-queue-v1".toList ++ 0 :: message).map UInt8.toNat)

/-- The loop over the events; gives the code of the last one. -/
def authenticate (objectiveId : String) : Int → String → List EventRow → Py String
  | _, previous, [] => return previous
  | index, previous, e :: events => do
      require (mac key objectiveId e.index e.body previous = e.code ∧ e.index = index ∧
          e.previous = previous)
        (rejected "queue event authentication failed")
      authenticate objectiveId (index + 1) e.code events

/-- Source: `queue.py` `ObjectiveQueue._read`. -/
def readRecord (objectiveId : String) (rows : Rows) : Py ObjectiveRecord := do
  let row ← getOrRaise rows.objective (rejected "unknown objective")
  let events := rows.events.take 2001
  require (events ≠ [] ∧ events.length ≤ 2000) (rejected "missing or oversized queue history")
  let _ ← authenticate key objectiveId 0 zeros events
  require (events.getLast?.map (fun e => (e.body.2, e.code)) = some row)
    (rejected "queue state/history mismatch")
  let record ← ObjectiveRecord.read row.1
  require (record.version = (events.length : Int) - 1) (rejected "queue version mismatch")
  return record

/-- Source: `queue.py` `ObjectiveQueue._write`. -/
def writeRecord (rows : Rows) (record : ObjectiveRecord) (event : String) : Py Rows := do
  let previous := (rows.objective.map (·.2)).getD zeros
  let code := mac key record.objectiveId record.version (event, record.text) previous
  raiseIf (∃ e ∈ rows.events, e.index = record.version)
    ⟨.integrityError, "UNIQUE constraint failed: events.objective_id, events.version"⟩
  let e : EventRow := ⟨record.version, (event, record.text), previous, code⟩
  return ⟨rows.approval, some (record.text, code),
    rows.events.orderedInsert (fun a b => a.index ≤ b.index) e⟩

end Transactions

/-! ## Operations on a record -/

/-- A value as it is read back. -/
abbrev Datum := {j : Json // ObjectiveRecord.AsRead j}

/-- `None`. -/
def noDatum : Datum := ⟨.null, trivial, rfl⟩

/-- The changes of an update; a field that is not changed is absent. -/
structure Changes where
  state : Option String := none
  parentSha : Option String := none
  batch : Option Int := none
  repairs : Option Int := none
  attempts : Option Int := none
  reservedTokens : Option Int := none
  reservedCostMicrousd : Option Int := none
  intent : Option Datum := none
  commits : Option (List Datum) := none
  reason : Option (Option String) := none
  leaseUntil : Option Int := none
  plan : Option Datum := none
  mergeSha : Option (Option String) := none
  releaseResult : Option Datum := none

/-- `record | changes`, but for the state. -/
def Changes.on (c : Changes) (r : ObjectiveRecord) : ObjectiveRecord :=
  { r with
    parentSha := c.parentSha.getD r.parentSha
    batch := c.batch.getD r.batch
    repairs := c.repairs.getD r.repairs
    attempts := c.attempts.getD r.attempts
    reservedTokens := c.reservedTokens.getD r.reservedTokens
    reservedCostMicrousd := c.reservedCostMicrousd.getD r.reservedCostMicrousd
    intent := (c.intent.map (·.1)).getD r.intent
    commits := (c.commits.map (·.map (·.1))).getD r.commits
    reason := c.reason.getD r.reason
    leaseUntil := c.leaseUntil.getD r.leaseUntil
    plan := (c.plan.map (·.1)).getD r.plan
    mergeSha := c.mergeSha.getD r.mergeSha
    releaseResult := (c.releaseResult.map (·.1)).getD r.releaseResult }

/-- The record after a claim, and the event. -/
def claimRecord (record : ObjectiveRecord) (worker : String) (now leaseSeconds : Int) :
    Py (ObjectiveRecord × String) := do
  raiseIf record.state.Terminal (rejected "terminal objective")
  require (now < record.deadline) (rejected "objective deadline exceeded")
  require (record.leaseUntil ≤ now) (rejected "objective lease already held")
  -- a pending irreversible operation needs reconciliation
  if record.intent ≠ .null then
    return ({ record with
      state := .blocked
      reason := some "unresolved publication intent; reconcile remote state"
      version := record.version + 1 }, "reconciliation_required")
  else
    return ({ record with
      leaseOwner := some worker
      leaseGeneration := record.leaseGeneration + 1
      leaseUntil := min (now + leaseSeconds) record.deadline
      state := if record.state = .pending then .admitted else record.state
      version := record.version + 1 }, "claimed")

/-- The states an update may set. -/
def updateStates : List ObjectiveState :=
  [.admitted, .running, .validating, .repairing, .blocked, .failed, .completed]

/-- `edges[state]`. -/
def edges : ObjectiveState → Py (List ObjectiveState)
  | .admitted => return [.running, .blocked, .failed]
  | .running => return [.running, .validating, .blocked, .failed]
  | .validating =>
      return [.validating, .running, .repairing, .blocked, .failed, .completed]
  | .repairing => return [.repairing, .validating, .blocked, .failed]
  | state => throw (keyError state.text)

/-- Who updates a record, and what it was when they last saw it. -/
structure Fence where
  worker : String
  generation : Int
  version : Int

/-- The record after an update. -/
def updateRecord (record : ObjectiveRecord) (fence : Fence) (now : Int) (changes : Changes) :
    Py ObjectiveRecord := do
  raiseIf record.state.Terminal (rejected "terminal objective")
  require (record.leaseOwner = some fence.worker ∧ record.leaseGeneration = fence.generation ∧
      record.version = fence.version ∧ now < record.leaseUntil ∧ now < record.deadline)
    (rejected "stale lease/version or deadline")
  let new := changes.on record
  require (record.attempts ≤ new.attempts ∧ record.reservedTokens ≤ new.reservedTokens ∧
      record.reservedCostMicrousd ≤ new.reservedCostMicrousd)
    (rejected "resource counters cannot decrease")
  let limits := record.resourceLimits
  require (new.attempts ≤ limits.maxAttempts ∧ new.reservedTokens ≤ limits.maxTokens ∧
      new.reservedCostMicrousd ≤ limits.maxCostMicrousd)
    (rejected "resource reservation exceeds signed limits")
  require ((record.batch ≤ new.batch ∧ new.batch ≤ limits.maxBatches) ∧
      0 ≤ new.repairs ∧ new.repairs ≤ limits.maxRepairsPerBatch)
    (rejected "batch or repair limit exceeded")
  let state ← getOrRaise ((ObjectiveState.ofText (changes.state.getD record.state.text)).filter
    fun state => state ∈ updateStates) (rejected "invalid objective state")
  let targets ← edges record.state
  require (state ∈ targets) (rejected "illegal objective transition")
  if state = .blocked ∨ state = .failed then
    let _ ← text 1024 (.ofOption new.reason)
  require (new.leaseUntil ≤ record.deadline) (rejected "lease exceeds deadline")
  return { new with
    state := state
    version := new.version + 1 }

/-- The record after a recovery poll, when the poll changes it. -/
def expireRecord (record : ObjectiveRecord) (now : Int) : Option ObjectiveRecord :=
  let expired := record.deadline ≤ now
  let uncertain := record.intent ≠ .null ∧ 0 < record.leaseUntil ∧ record.leaseUntil ≤ now
  if ¬ record.state.Terminal ∧ (expired ∨ uncertain) then
    some { record with
      state := .blocked
      reason := some "objective deadline/lease exceeded; reconcile any pending intent"
      version := record.version + 1 }
  else none

/-- The record that an approval is queued with. -/
def firstRecord (approval : Approval) (now : Int) : ObjectiveRecord where
  objectiveId := approval.objectiveId
  approvalDigest := approval.digest
  owner := approval.owner
  permittedPaths := approval.task.permittedPaths
  acceptanceCriteria := approval.task.acceptanceCriteria
  resourceLimits := approval.limits
  releasePermissions := ⟨approval.releaseAuthorized, approval.releaseTag, approval.artifactNames,
    approval.signingKeyIds⟩
  branch := approval.task.branch
  baseSha := approval.task.baseSha
  parentSha := approval.task.baseSha
  state := .pending
  version := 0
  batch := 0
  repairs := 0
  attempts := 0
  reservedTokens := 0
  reservedCostMicrousd := 0
  startedAt := now
  deadline := min approval.expiresAt (now + approval.limits.maxWallSeconds)
  leaseOwner := none
  leaseGeneration := 0
  leaseUntil := 0
  intent := .null
  commits := []
  reason := none
  plan := .null
  mergeSha := none
  releaseResult := .null

/-! ## Transactions -/

section Operations

variable (key : List UInt8)

/-- A transaction that writes the record it gives. -/
def commit (rows : Rows) (record : ObjectiveRecord) (event : String) :
    Py (ObjectiveRecord × Rows) := do
  let rows ← writeRecord key rows record event
  return (record, rows)

/-- Source: `queue.py` `ObjectiveQueue.claim`. -/
def claim (objectiveId worker : String) (now leaseSeconds : Int) (rows : Rows) :
    Py (ObjectiveRecord × Rows) := do
  let _ ← text 128 (.str worker)
  require (0 ≤ now ∧ now ≤ maxInteger) (rejected "invalid integer")
  require (1 ≤ leaseSeconds ∧ leaseSeconds ≤ 300) (rejected "invalid integer")
  let record ← readRecord key objectiveId rows
  let (record, event) ← claimRecord record worker now leaseSeconds
  commit key rows record event

/-- Source: `queue.py` `ObjectiveQueue.update`. -/
def update (objectiveId : String) (fence : Fence) (now : Int) (event : String) (changes : Changes)
    (rows : Rows) : Py (ObjectiveRecord × Rows) := do
  let _ ← text 128 (.str event)
  let record ← readRecord key objectiveId rows
  let record ← updateRecord record fence now changes
  commit key rows record event

/-- Source: `queue.py` `ObjectiveQueue.expire`. -/
def expire (objectiveId : String) (now : Int) (rows : Rows) : Py (ObjectiveRecord × Rows) := do
  let record ← readRecord key objectiveId rows
  match expireRecord record now with
  | some record => commit key rows record "objective_timed_out"
  | none => return (record, rows)

/-- A reservation whose record has been read and whose update is still to come. -/
structure Reservation where
  objectiveId : String
  fence : Fence
  now : Int
  tokens : Int
  costMicrousd : Int
  changes : Changes

/-- The first transaction of `reserve_attempt`, and what it checks.
Source: `queue.py` `ObjectiveQueue.reserve_attempt`. -/
def reserveAttempt (approval : Approval) (fence : Fence) (now tokens costMicrousd : Int)
    (rows : Rows) : Py Reservation := do
  require (1 ≤ tokens ∧ tokens ≤ approval.limits.maxTokens) (rejected "invalid integer")
  require (1 ≤ costMicrousd ∧ costMicrousd ≤ approval.limits.maxCostMicrousd)
    (rejected "invalid integer")
  let record ← readRecord key approval.objectiveId rows
  let attempts := record.attempts + 1
  let reservedTokens := record.reservedTokens + tokens
  let reservedCost := record.reservedCostMicrousd + costMicrousd
  require (record.approvalDigest = approval.digest ∧ attempts ≤ approval.limits.maxAttempts ∧
      reservedTokens ≤ approval.limits.maxTokens ∧ reservedCost ≤ approval.limits.maxCostMicrousd)
    (rejected "objective resource budget exhausted")
  return ⟨approval.objectiveId, fence, now, tokens, costMicrousd,
    { attempts := some attempts
      reservedTokens := some reservedTokens
      reservedCostMicrousd := some reservedCost }⟩

/-- The second transaction of `reserve_attempt`. -/
def commitAttempt (reservation : Reservation) (rows : Rows) : Py (ObjectiveRecord × Rows) :=
  update key reservation.objectiveId reservation.fence reservation.now "attempt_budget_reserved"
    reservation.changes rows

variable (signed : List UInt8 → String → List UInt8 → Bool) (casefold : String → String)

/-- The transaction of `enqueue`, on the rows of the objective of its approval.
Source: `queue.py` `ObjectiveQueue.enqueue`. -/
def enqueueRows (raw : List UInt8) (approval : Approval) (policy : Policy)
    (owners : List (String × TrustKey)) (now : Int) (rows : Rows) : Py (ObjectiveRecord × Rows) :=
  match rows.approval with
  | some (stored, envelope) => do
      require (stored = approval.digest) (rejected "objective approval conflict")
      let existing ← verifyApproval signed casefold envelope policy owners now
      require (existing.digest = approval.digest) (rejected "stored approval changed")
      let record ← readRecord key approval.objectiveId rows
      return (record, rows)
  | none =>
      commit key { rows with approval := some (approval.digest, raw) } (firstRecord approval now)
        "approved"

end Operations

/-! ## Callers -/

/-- A call of the queue.  A reservation is made in two transactions, and other calls may come
between them. -/
inductive Call where
  | enqueue (raw : List UInt8) (policy : Policy) (owners : List (String × TrustKey)) (now : Int)
  | read (objectiveId : String)
  | claim (objectiveId worker : String) (now leaseSeconds : Int)
  | update (objectiveId : String) (fence : Fence) (now : Int) (event : String) (changes : Changes)
  | reserve (approval : Approval) (fence : Fence) (now tokens costMicrousd : Int)
  | commit (index : Nat)
  | expire (objectiveId : String) (now : Int)

/-- The reservations that are under way after a call. -/
def Call.ended : Call → List Reservation → List Reservation
  | .commit index, reserving => reserving.eraseIdx index
  | _, reserving => reserving

/-- What a call answers. -/
inductive Answer where
  | record (record : ObjectiveRecord)
  | reading (reservation : Reservation)
  | reserved (reservation : Reservation) (record : ObjectiveRecord)
  | nothing

/-- The tables, the reservations under way, and the records that callers have seen. -/
structure Session where
  tables : Tables
  reserving : List Reservation
  seen : List ObjectiveRecord

def emptySession : Session := ⟨fun _ => emptyRows, [], []⟩

section Steps

variable (key : List UInt8) (signed : List UInt8 → String → List UInt8 → Bool)
  (casefold : String → String)

/-- A transaction on the rows of an objective. -/
def transact (objectiveId : String) (body : Rows → Py (ObjectiveRecord × Rows)) (s : Session) :
    Py (ObjectiveRecord × Session) := do
  let (record, rows) ← body (s.tables objectiveId)
  return (record, { s with
    tables := Function.update s.tables objectiveId rows
    seen := record :: s.seen })

/-- A call, played to its end or up to its next transaction. -/
def play : Call → Session → Py (Answer × Session)
  | .enqueue raw policy owners now, s => do
      let approval ← verifyApproval signed casefold raw policy owners now
      let (record, s) ← transact approval.objectiveId
        (enqueueRows key signed casefold raw approval policy owners now) s
      return (.record record, s)
  | .read objectiveId, s => do
      let (record, s) ← transact objectiveId
        (fun rows => (·, rows) <$> readRecord key objectiveId rows) s
      return (.record record, s)
  | .claim objectiveId worker now leaseSeconds, s => do
      let (record, s) ← transact objectiveId (claim key objectiveId worker now leaseSeconds) s
      return (.record record, s)
  | .update objectiveId fence now event changes, s => do
      let (record, s) ← transact objectiveId (update key objectiveId fence now event changes) s
      return (.record record, s)
  | .reserve approval fence now tokens costMicrousd, s => do
      let reservation ← reserveAttempt key approval fence now tokens costMicrousd
        (s.tables approval.objectiveId)
      return (.reading reservation, { s with reserving := s.reserving ++ [reservation] })
  | .commit index, s =>
      match s.reserving[index]? with
      | some reservation => do
          let (record, s) ← transact reservation.objectiveId (commitAttempt key reservation) s
          return (.reserved reservation record, s)
      | none => return (.nothing, s)
  | .expire objectiveId now, s => do
      let (record, s) ← transact objectiveId (expire key objectiveId now) s
      return (.record record, s)

/-- A call of some caller; raising rolls back, and what ends a reservation ends it either way. -/
def step (s : Session) (call : Call) : Session × Py Answer :=
  let (s, answer) := Machine.transaction (play key signed casefold call) s
  ({ s with reserving := call.ended s.reserving }, answer)

end Steps

end Queue

end NightRecon.TaskAutomation
