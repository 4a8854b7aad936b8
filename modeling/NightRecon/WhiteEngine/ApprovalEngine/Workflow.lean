import NightRecon.Lib.JsonParse
import NightRecon.WhiteEngine.ApprovalEngine.Event

/-!
# Approval workflows

`nightrecon_white_engine/approval_engine.py`, continued: the history of a request and what may
happen to it.

* `checkLink` — the checks of one event against the chain before it;
* `replayStep` — the rules `_validate_history` applies to one event, as a step of a state machine;
* `ApprovalWorkflow` — a request with a history that passed both, `ApprovalWorkflow.make`;
* `statusAt`, `grant`, `grantMatches` — what a history says at an instant;
* `Operation` — the five operations.  Each is a draft of the event to append, made by the guards of
  the operation (`Operation.draft`), and the appending (`append`).

An instant argument that was read from a text is a `Timestamp`.
-/

namespace NightRecon.WhiteEngine.ApprovalEngine

open NightRecon.Lib
open NightRecon.Lib.Checks
open NightRecon.Lib.Text
open NightRecon.Lib.Datetime
open NightRecon.SharedCore.Authorization
open NightRecon.WhiteEngine.Fields

/-! ## The chain of events -/

/-- What the constructor's loop keeps: the position, the identifiers seen and the event before. -/
structure Chain where
  index : Nat
  seenIds : Finset String
  previous : Option ApprovalEvent

def Chain.start : Chain := ⟨0, ∅, none⟩

/-- One turn of the loop.
Source: `approval_engine.py` `ApprovalWorkflow.__post_init__`. -/
def checkLink (r : ApprovalRequest) (c : Chain) (e : ApprovalEvent) : Py Chain := do
  raiseIf (e.eventId ∈ c.seenIds) (workflowError "approval event IDs must be unique")
  raiseIf (e.requestId ≠ r.requestId) (workflowError "approval event belongs to another request")
  raiseIf (e.sequence ≠ c.index) (workflowError "approval event sequence is not contiguous")
  raiseIf (e.previousEventFingerprint ≠ c.previous.map ApprovalEvent.fingerprint)
    (workflowError "approval event chain verification failed")
  raiseIf (e.time < r.requestedAt.time) (workflowError "approval event predates the request")
  raiseIf (∃ p ∈ c.previous, e.time < p.time)
    (workflowError "approval events are not chronologically ordered")
  return ⟨c.index + 1, insert e.eventId c.seenIds, some e⟩

/-- The checks of the first event.
Source: `approval_engine.py` `ApprovalWorkflow.__post_init__`. -/
def checkOrigin (r : ApprovalRequest) (first : ApprovalEvent) : Py Unit := do
  raiseIf (first.eventType ≠ .requested)
    (workflowError "approval workflow must begin with requested event")
  raiseIf (first.detail "request_fingerprint" ≠ some r.fingerprint)
    (workflowError "requested event is not bound to request fingerprint")
  raiseIf (first.occurredAt.text ≠ r.requestedAt.text ∨ first.actorId ≠ r.requestedBy)
    (workflowError "requested event does not match request origin")

/-! ## Authority -/

/-- Source: `approval_engine.py` `_validate_history`, `direct_role`. -/
def directRole (r : ApprovalRequest) (actorId : String) (actorRole : Option String) : Py Bool :=
  match actorRole with
  | none => .ok false
  | some role => do
      let principal ← r.principal actorId
      return role ∈ principal.roles.values ∧ role ∈ r.policy.eligibleRoles.values

/-- The first delegation of a list that suits and is in force at an instant.  Both searches of the
source walk the history backwards with this loop. -/
def findDelegation (suits : ApprovalEvent → Bool) (t : Timestamp) :
    List ApprovalEvent → Py (Option ApprovalEvent)
  | [] => .ok none
  | e :: rest =>
      if e.eventType = .delegated ∧ suits e = true ∧ e.time ≤ t.time then
        match e.detail "valid_until" with
        | none => findDelegation suits t rest
        | some validUntil => do
            let validUntil ← parseTime validUntil
            if t.time < validUntil then return some e else findDelegation suits t rest
      else findDelegation suits t rest

/-- Source: `approval_engine.py` `_validate_history`, `delegated_source`. -/
def delegatedSource (priorEvents : List ApprovalEvent) (actorId : String)
    (actorRole : Option String) (occurredAt : Timestamp) : Py (Option String) :=
  match actorRole with
  | none => .ok none
  | some role => do
      let found ← findDelegation
        (fun e => e.detail "delegate_id" = some actorId ∧ e.detail "delegated_role" = some role)
        occurredAt priorEvents.reverse
      return found.map (·.actorId)

/-! ## The replay -/

/-- The states of `_validate_history`. -/
inductive HistoryState where
  | pending
  | approved
  | rejected
  | revoked
  deriving DecidableEq

/-- What `_validate_history` keeps. -/
structure Replay where
  state : HistoryState
  approvingActors : Finset String
  authoritySources : Finset String
  escalated : Bool
  priorEvents : List ApprovalEvent

def Replay.start (first : ApprovalEvent) : Replay := ⟨.pending, ∅, ∅, false, [first]⟩

/-- Source: `approval_engine.py` `_validate_history`, `expected_source`. -/
def expectedSource (r : ApprovalRequest) (s : Replay) (e : ApprovalEvent) :
    Py (Option String) := do
  let direct ← directRole r e.actorId e.actorRole
  if direct = true then return some e.actorId
  else delegatedSource s.priorEvents e.actorId e.actorRole e.occurredAt

/-- The authority a decision must name.
Source: `approval_engine.py` `_validate_history`, approvals and rejections. -/
def decisionSource (r : ApprovalRequest) (s : Replay) (e : ApprovalEvent) : Py String := do
  raiseIf (s.state ≠ .pending) (workflowError "approval decision is not valid in current state")
  let _ ← r.principal e.actorId
  raiseIf (r.policy.requesterMayApprove = false ∧ e.actorId = r.requestedBy)
    (workflowError "requester cannot decide their own approval request")
  let expected ← expectedSource r s e
  let source ← getOrRaise expected (workflowError "approval decision lacks eligible authority")
  raiseIf (e.detail "authority_source" ≠ some source)
    (workflowError "approval decision authority source is invalid")
  return source

/-- Source: `approval_engine.py` `_validate_history`, delegations. -/
def checkDelegation (r : ApprovalRequest) (s : Replay) (e : ApprovalEvent) : Py Unit := do
  raiseIf (s.state ≠ .pending) (workflowError "delegation is not valid in current state")
  raiseIf (r.policy.allowDelegation = false)
    (workflowError "approval workflow contains forbidden delegation")
  let incomplete := workflowError "approval delegation evidence is incomplete"
  let delegateId ← getOrRaise (e.detail "delegate_id") incomplete
  let delegatedRole ← getOrRaise (e.detail "delegated_role") incomplete
  let validUntil ← getOrRaise (e.detail "valid_until") incomplete
  raiseIf (e.detailKeys ≠ {"delegate_id", "delegated_role", "valid_until"}) incomplete
  let _ ← r.principal delegateId
  raiseIf (e.actorId = delegateId) (workflowError "delegator and delegate must differ")
  raiseIf (r.policy.requesterMayApprove = false ∧
      (e.actorId = r.requestedBy ∨ delegateId = r.requestedBy))
    (workflowError "separation of duties forbids requester delegation")
  let lacking := workflowError "delegation lacks direct eligible authority"
  raiseIf (e.actorRole ≠ some delegatedRole ∨ delegatedRole ∉ r.policy.eligibleRoles.values) lacking
  let direct ← directRole r e.actorId (some delegatedRole)
  require (direct = true) lacking
  let validUntil ← parseTime validUntil
  raiseIf (validUntil ≤ e.time ∨ r.expiresAt.time < validUntil)
    (workflowError "approval delegation validity is out of bounds")

/-- The instant from which an escalation is due: `requested_at + timedelta(seconds=seconds)`. -/
def escalationDueAt (r : ApprovalRequest) (seconds : Nat) : Py Int :=
  getOrRaise (r.requestedAt.after seconds) ⟨.overflowError, "date value out of range"⟩

/-- The role names of a decoded escalation.  A list with anything but strings never matches the
policy; where its elements cannot even be sorted, the source raises a `TypeError` for it. -/
def decodedRoles (decoded : Json) : Py (List String) :=
  let mismatch := workflowError "approval escalation roles do not match policy"
  match decoded with
  | .arr elems => elems.mapM fun
      | .str s => .ok s
      | _ => .error mismatch
  | _ => .error mismatch

/-- Source: `approval_engine.py` `_validate_history`, escalations. -/
def checkEscalation (r : ApprovalRequest) (s : Replay) (e : ApprovalEvent) : Py Unit := do
  raiseIf (s.state ≠ .pending) (workflowError "escalation is not valid in current state")
  let _ ← r.principal e.actorId
  let seconds ← getOrRaise r.policy.escalationAfterSeconds
    (workflowError "approval workflow contains unconfigured escalation")
  let due ← escalationDueAt r seconds
  raiseIf (e.time < due) (workflowError "approval escalation occurred before it was due")
  raiseIf (s.escalated = true) (workflowError "approval workflow was escalated more than once")
  let incomplete := workflowError "approval escalation evidence is incomplete"
  let encoded ← getOrRaise (e.detail "escalation_roles") incomplete
  raiseIf (e.detailKeys ≠ {"escalation_roles"}) incomplete
  let decoded ← getOrRaise (Json.loads encoded)
    (workflowError "approval escalation roles are invalid")
  let roles ← decodedRoles decoded
  raiseIf (sortedStr roles ≠ r.policy.escalationRoles.values)
    (workflowError "approval escalation roles do not match policy")

/-- Source: `approval_engine.py` `_validate_history`, revocations. -/
def checkRevocation (r : ApprovalRequest) (s : Replay) (e : ApprovalEvent) : Py Unit := do
  raiseIf (s.state ≠ .approved) (workflowError "revocation requires an approved workflow")
  let direct ← directRole r e.actorId e.actorRole
  require (direct = true) (workflowError "revocation requires direct eligible authority")

/-- The rules for one event, by its type.
Source: `approval_engine.py` `ApprovalWorkflow._validate_history`. -/
def applyEvent (r : ApprovalRequest) (s : Replay) (e : ApprovalEvent) : Py Replay :=
  match e.eventType with
  | .requested =>
      .error (workflowError "approval workflow contains duplicate requested event")
  | .approved => do
      let source ← decisionSource r s e
      raiseIf (e.actorId ∈ s.approvingActors)
        (workflowError "principal approved the request more than once")
      raiseIf (source ∈ s.authoritySources)
        (workflowError "approval authority source was counted more than once")
      let sources := insert source s.authoritySources
      return { s with
        approvingActors := insert e.actorId s.approvingActors
        authoritySources := sources
        state := if r.policy.requiredApprovals ≤ sources.card then .approved else s.state }
  | .rejected => do
      let _ ← decisionSource r s e
      return { s with state := .rejected }
  | .delegated => do
      checkDelegation r s e
      return s
  | .escalated => do
      checkEscalation r s e
      return { s with escalated := true }
  | .revoked => do
      checkRevocation r s e
      return { s with state := .revoked }

/-- One turn of the replay loop.
Source: `approval_engine.py` `ApprovalWorkflow._validate_history`. -/
def replayStep (r : ApprovalRequest) (s : Replay) (e : ApprovalEvent) : Py Replay := do
  raiseIf (r.expiresAt.time ≤ e.time)
    (workflowError "approval workflow contains a decision after request expiry")
  raiseIf (s.state = .rejected ∨ s.state = .revoked)
    (workflowError "approval workflow contains events after terminal state")
  raiseIf (s.state = .approved ∧ e.eventType ≠ .revoked)
    (workflowError "approved workflow may only be revoked")
  let s ← applyEvent r s e
  return { s with priorEvents := s.priorEvents ++ [e] }

/-! ## Workflows -/

/-- The constructor's checks.
Source: `approval_engine.py` `ApprovalWorkflow.__post_init__`. -/
def validate (r : ApprovalRequest) : List ApprovalEvent → Py Unit
  | [] => .error (workflowError "approval workflow requires events")
  | first :: rest => do
      let _ ← (first :: rest).foldlM (checkLink r) Chain.start
      checkOrigin r first
      let _ ← rest.foldlM (replayStep r) (Replay.start first)
      return ()

/-- Source: `approval_engine.py` `ApprovalWorkflow`. -/
structure ApprovalWorkflow where
  request : ApprovalRequest
  events : List ApprovalEvent
  accepted : (validate request events).toOption.isSome = true

/-- The statuses of a workflow. -/
inductive Status where
  | pending
  | approved
  | rejected
  | expired
  | revoked
  deriving DecidableEq

def Status.text : Status → String
  | .pending => "pending"
  | .approved => "approved"
  | .rejected => "rejected"
  | .expired => "expired"
  | .revoked => "revoked"

namespace ApprovalWorkflow

/-- Source: `approval_engine.py` `ApprovalWorkflow.__post_init__`. -/
def make (r : ApprovalRequest) (events : List ApprovalEvent) : Py ApprovalWorkflow := do
  let h ← attempt (validate r events)
  return ⟨r, events, h.down⟩

/-- Source: `approval_engine.py` `ApprovalWorkflow.create`. -/
def create (r : ApprovalRequest) (eventId : String) (actorId : Option String) (reason : String) :
    Py ApprovalWorkflow := do
  let actor := actorId.getD r.requestedBy
  let _ ← r.principal actor
  let event ← EventArgs.make {
    eventId := eventId
    requestId := r.requestId
    sequence := 0
    eventType := EventType.requested.text
    occurredAt := r.requestedAt.text
    actorId := actor
    actorRole := none
    reason := reason
    details := [("request_fingerprint", r.fingerprint)]
    previousEventFingerprint := none }
  make r [event]

/-- Source: `approval_engine.py` `ApprovalWorkflow.fingerprint`. -/
def fingerprint (w : ApprovalWorkflow) : String :=
  Fields.fingerprint (.obj [("request_fingerprint", .str w.request.fingerprint),
    ("event_fingerprints", .strings (w.events.map ApprovalEvent.fingerprint))])

/-! ### What a history says at an instant -/

/-- Whether an event is made at or before a cutoff. -/
def within (cutoff : Option Timestamp) (e : ApprovalEvent) : Bool :=
  match cutoff with
  | none => true
  | some t => e.time ≤ t.time

/-- Source: `approval_engine.py` `ApprovalWorkflow.approval_events`. -/
def approvalEvents (w : ApprovalWorkflow) (cutoff : Option Timestamp) : List ApprovalEvent :=
  w.events.filter fun e => e.eventType = .approved ∧ within cutoff e

/-- Source: `approval_engine.py` `ApprovalWorkflow.rejection_event`. -/
def rejectionEvent (w : ApprovalWorkflow) (cutoff : Option Timestamp) : Option ApprovalEvent :=
  w.events.find? fun e => e.eventType = .rejected ∧ within cutoff e

/-- Source: `approval_engine.py` `ApprovalWorkflow.revocation_event`. -/
def revocationEvent (w : ApprovalWorkflow) (cutoff : Option Timestamp) : Option ApprovalEvent :=
  w.events.find? fun e => e.eventType = .revoked ∧ within cutoff e

/-- Source: `approval_engine.py` `ApprovalWorkflow.escalated`. -/
def escalated (w : ApprovalWorkflow) (cutoff : Option Timestamp) : Bool :=
  w.events.any fun e => e.eventType = .escalated ∧ within cutoff e

/-- The status at an instant.
Source: `approval_engine.py` `ApprovalWorkflow.status`. -/
def statusAt (w : ApprovalWorkflow) (t : Timestamp) : Status :=
  if (w.revocationEvent (some t)).isSome then .revoked
  else if (w.rejectionEvent (some t)).isSome then .rejected
  else if w.request.expiresAt.time ≤ t.time then .expired
  else if w.request.policy.requiredApprovals ≤ (w.approvalEvents (some t)).length then .approved
  else .pending

/-- Source: `approval_engine.py` `ApprovalWorkflow.status`. -/
def status (w : ApprovalWorkflow) (text : String) : Py Status := do
  let t ← iso8601 .approvalWorkflowError text "at"
  return w.statusAt t

/-! ### Appending -/

/-- An event to append, without its identifier and reason. -/
structure Draft where
  eventType : EventType
  occurredAt : Timestamp
  actorId : String
  actorRole : Option String
  details : List (String × String)
  deriving DecidableEq

/-- Source: `approval_engine.py` `ApprovalWorkflow._append`. -/
def append (w : ApprovalWorkflow) (eventId : String) (draft : Draft) (reason : String) :
    Py ApprovalWorkflow := do
  let event ← EventArgs.make {
    eventId := eventId
    requestId := w.request.requestId
    sequence := w.events.length
    eventType := draft.eventType.text
    occurredAt := draft.occurredAt.text
    actorId := draft.actorId
    actorRole := draft.actorRole
    reason := reason
    details := draft.details
    previousEventFingerprint := w.events.getLast?.map ApprovalEvent.fingerprint }
  make w.request (w.events ++ [event])

/-! ### The guards of the operations -/

/-- Source: `approval_engine.py` `ApprovalWorkflow._ensure_pending`. -/
def ensurePending (w : ApprovalWorkflow) (t : Timestamp) : Py Unit :=
  raiseIf (w.statusAt t ≠ .pending)
    (workflowError ("approval request is not pending: " ++ (w.statusAt t).text))

/-- The role and the authority source of an actor: its first direct eligible role, or else its
latest eligible delegation in force.
Source: `approval_engine.py` `ApprovalWorkflow._eligible_authority`. -/
def eligibleAuthority (w : ApprovalWorkflow) (actorId : String) (t : Timestamp) :
    Py (String × String) := do
  let principal ← w.request.principal actorId
  match sortedStr (eligible w.request.policy principal) with
  | role :: _ => return (role, actorId)
  | [] =>
      let found ← findDelegation
        (fun e => e.detail "delegate_id" = some actorId ∧
          ∃ role ∈ e.detail "delegated_role", role ∈ w.request.policy.eligibleRoles.values)
        t w.events.reverse
      let e ← getOrRaise found
        (workflowError "principal does not hold eligible approval authority")
      return ((e.detail "delegated_role").getD "", e.actorId)

/-- The guards of `approve`.
Source: `approval_engine.py` `ApprovalWorkflow.approve`. -/
def draftApproval (w : ApprovalWorkflow) (actorId occurredAt : String) : Py Draft := do
  let t ← iso8601 .approvalWorkflowError occurredAt "occurred_at"
  w.ensurePending t
  raiseIf (w.request.policy.requesterMayApprove = false ∧ actorId = w.request.requestedBy)
    (workflowError "requester cannot approve this request")
  raiseIf (∃ e ∈ w.approvalEvents none, e.actorId = actorId)
    (workflowError "principal already approved this request")
  let (role, source) ← w.eligibleAuthority actorId t
  raiseIf (∃ e ∈ w.approvalEvents (some t), e.detail "authority_source" = some source)
    (workflowError "approval authority source already counted for this request")
  return ⟨.approved, t, actorId, some role, [("authority_source", source)]⟩

/-- The guards of `reject`.
Source: `approval_engine.py` `ApprovalWorkflow.reject`. -/
def draftRejection (w : ApprovalWorkflow) (actorId occurredAt : String) : Py Draft := do
  let t ← iso8601 .approvalWorkflowError occurredAt "occurred_at"
  w.ensurePending t
  raiseIf (w.request.policy.requesterMayApprove = false ∧ actorId = w.request.requestedBy)
    (workflowError "requester cannot reject their own request")
  let (role, source) ← w.eligibleAuthority actorId t
  return ⟨.rejected, t, actorId, some role, [("authority_source", source)]⟩

/-- The guards of `delegate`.
Source: `approval_engine.py` `ApprovalWorkflow.delegate`. -/
def draftDelegation (w : ApprovalWorkflow)
    (delegatorId delegateId delegatedRole occurredAt validUntil : String) : Py Draft := do
  let t ← iso8601 .approvalWorkflowError occurredAt "occurred_at"
  let u ← iso8601 .approvalWorkflowError validUntil "valid_until"
  w.ensurePending t
  raiseIf (w.request.policy.allowDelegation = false)
    (workflowError "approval delegation is disabled")
  raiseIf (delegatorId = delegateId) (workflowError "delegator and delegate must differ")
  raiseIf (w.request.policy.requesterMayApprove = false ∧
      (delegatorId = w.request.requestedBy ∨ delegateId = w.request.requestedBy))
    (workflowError "separation of duties forbids requester delegation")
  let delegator ← w.request.principal delegatorId
  let _ ← w.request.principal delegateId
  let _ ← checkRole "delegated_role" delegatedRole
  raiseIf (delegatedRole ∉ w.request.policy.eligibleRoles.values)
    (workflowError "delegated role is not approval-eligible")
  raiseIf (delegatedRole ∉ delegator.roles.values)
    (workflowError "delegator does not directly hold delegated role")
  raiseIf (u.time ≤ t.time)
    (workflowError "delegation valid_until must be later than occurred_at")
  raiseIf (w.request.expiresAt.time < u.time)
    (workflowError "delegation cannot outlive the approval request")
  return ⟨.delegated, t, delegatorId, some delegatedRole,
    [("delegate_id", delegateId), ("delegated_role", delegatedRole), ("valid_until", validUntil)]⟩

/-- Source: `approval_engine.py` `ApprovalWorkflow.escalation_due`. -/
def escalationDue (w : ApprovalWorkflow) (t : Timestamp) : Py Bool :=
  match w.request.policy.escalationAfterSeconds with
  | none => .ok false
  | some seconds =>
      if w.statusAt t ≠ .pending ∨ w.escalated (some t) = true then .ok false
      else do
        let due ← escalationDueAt w.request seconds
        return due ≤ t.time

/-- The guards of `escalate`.  The roles are ASCII, so the text is the one `json.dumps` writes with
its default escapes.
Source: `approval_engine.py` `ApprovalWorkflow.escalate`. -/
def draftEscalation (w : ApprovalWorkflow) (actorId occurredAt : String) : Py Draft := do
  let t ← iso8601 .approvalWorkflowError occurredAt "occurred_at"
  let _ ← w.request.principal actorId
  let due ← w.escalationDue t
  require (due = true) (workflowError "approval escalation is not due")
  return ⟨.escalated, t, actorId, none,
    [("escalation_roles", (Json.strings w.request.policy.escalationRoles.values).write)]⟩

/-- The guards of `revoke`.
Source: `approval_engine.py` `ApprovalWorkflow.revoke`. -/
def draftRevocation (w : ApprovalWorkflow) (actorId occurredAt : String) : Py Draft := do
  let t ← iso8601 .approvalWorkflowError occurredAt "occurred_at"
  raiseIf (w.statusAt t ≠ .approved)
    (workflowError "only a currently approved request can be revoked")
  let principal ← w.request.principal actorId
  match sortedStr (eligible w.request.policy principal) with
  | [] => .error (workflowError "revocation requires direct eligible authority")
  | role :: _ => return ⟨.revoked, t, actorId, some role, []⟩

end ApprovalWorkflow

/-! ## Operations -/

/-- A call of one of the five operations, with its arguments. -/
inductive Operation where
  | approve (eventId actorId occurredAt reason : String)
  | reject (eventId actorId occurredAt reason : String)
  | delegate (eventId delegatorId delegateId delegatedRole occurredAt validUntil reason : String)
  | escalate (eventId actorId occurredAt reason : String)
  | revoke (eventId actorId occurredAt reason : String)

namespace Operation

def eventId : Operation → String
  | approve eventId _ _ _ | reject eventId _ _ _ | delegate eventId _ _ _ _ _ _
  | escalate eventId _ _ _ | revoke eventId _ _ _ => eventId

def occurredAt : Operation → String
  | approve _ _ occurredAt _ | reject _ _ occurredAt _ | delegate _ _ _ _ occurredAt _ _
  | escalate _ _ occurredAt _ | revoke _ _ occurredAt _ => occurredAt

def reason : Operation → String
  | approve _ _ _ reason | reject _ _ _ reason | delegate _ _ _ _ _ _ reason
  | escalate _ _ _ reason | revoke _ _ _ reason => reason

/-- The guards of an operation, which draft the event to append. -/
def draft (w : ApprovalWorkflow) : Operation → Py ApprovalWorkflow.Draft
  | approve _ actorId occurredAt _ => w.draftApproval actorId occurredAt
  | reject _ actorId occurredAt _ => w.draftRejection actorId occurredAt
  | delegate _ delegatorId delegateId delegatedRole occurredAt validUntil _ =>
      w.draftDelegation delegatorId delegateId delegatedRole occurredAt validUntil
  | escalate _ actorId occurredAt _ => w.draftEscalation actorId occurredAt
  | revoke _ actorId occurredAt _ => w.draftRevocation actorId occurredAt

/-- An operation: its guards, then the appending.
Source: `approval_engine.py` `approve`, `reject`, `delegate`, `escalate`, `revoke`. -/
def run (w : ApprovalWorkflow) (op : Operation) : Py ApprovalWorkflow := do
  let draft ← op.draft w
  w.append op.eventId draft op.reason

end Operation

namespace ApprovalWorkflow

/-! ## Grants -/

/-- Source: `approval_engine.py` `ApprovalWorkflow.grant`. -/
def grant (w : ApprovalWorkflow) (text : String) : Py ApprovalGrant := do
  let t ← iso8601 .approvalWorkflowError text "at"
  raiseIf (w.statusAt t ≠ .approved)
    (workflowError "approval grant is unavailable unless request is approved")
  let approvals := w.approvalEvents (some t)
  let required := w.request.policy.requiredApprovals
  let deciding ← getOrRaise approvals[required - 1]? ⟨.indexError, "tuple index out of range"⟩
  GrantArgs.make {
    requestId := w.request.requestId
    engagementId := w.request.engagementId
    policyBundleFingerprint := w.request.policyBundleFingerprint
    capability := w.request.capability
    target := w.request.target
    impact := w.request.impact.text
    approvedAt := deciding.occurredAt.text
    expiresAt := w.request.expiresAt.text
    approverIds := (approvals.take required).map (·.actorId)
    workflowFingerprint := w.fingerprint }

/-- Source: `approval_engine.py` `ApprovalWorkflow.grant_matches`. -/
def grantMatches (w : ApprovalWorkflow) (g : ApprovalGrant)
    (engagementId policyBundleFingerprint capability target impact text : String) : Py Bool := do
  let t ← iso8601 .approvalWorkflowError text "at"
  match parseTarget target with
  | .error e => if e.cls.isValueError then return false else .error e
  | .ok target =>
      if w.statusAt t ≠ .approved then return false
      else
        match w.grant text with
        | .error e => if e.cls = .approvalWorkflowError then return false else .error e
        | .ok expected =>
            if g ≠ expected then return false
            else
              return g.requestId = w.request.requestId ∧
                g.engagementId = engagementId ∧ engagementId = w.request.engagementId ∧
                g.policyBundleFingerprint = policyBundleFingerprint ∧
                policyBundleFingerprint = w.request.policyBundleFingerprint ∧
                g.capability = capability ∧ capability = w.request.capability ∧
                g.target = target.value ∧ target.value = w.request.target ∧
                g.impact.text = impact ∧ impact = w.request.impact.text ∧
                t.time < g.expiresAt.time

end ApprovalWorkflow

end NightRecon.WhiteEngine.ApprovalEngine
