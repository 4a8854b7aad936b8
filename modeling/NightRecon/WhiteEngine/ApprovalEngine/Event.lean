import NightRecon.WhiteEngine.ApprovalEngine.Request

/-!
# Approval events and grants

`nightrecon_white_engine/approval_engine.py`, continued.

* `ApprovalEvent` — one entry of the history, linked to the entry before by its fingerprint;
* `EventArgs.make` — the event constructor; `make_eq` says which event it builds from arguments
  that pass its checks;
* `ApprovalEvent.detail` — a detail by its key; `ApprovalEvent.validUntil` — the instant at which a
  recorded delegation ends;
* `ApprovalGrant` — what an approved workflow hands out, bound to the action it approves.
-/

namespace NightRecon.WhiteEngine.ApprovalEngine

open NightRecon.Lib
open NightRecon.Lib.Checks
open NightRecon.Lib.Text
open NightRecon.Lib.Datetime
open NightRecon.Lib.Sha256
open NightRecon.SharedCore.Authorization
open NightRecon.SharedCore.EngagementPolicy (Impact isCapability)
open NightRecon.WhiteEngine.Fields
open NightRecon.WhiteEngine.Reading (SchemaVersion)

/-! ## Events -/

inductive EventType where
  | requested
  | approved
  | rejected
  | delegated
  | escalated
  | revoked
  deriving DecidableEq

namespace EventType

def text : EventType → String
  | .requested => "requested"
  | .approved => "approved"
  | .rejected => "rejected"
  | .delegated => "delegated"
  | .escalated => "escalated"
  | .revoked => "revoked"

/-- Membership in `_VALID_EVENT_TYPES`. -/
def ofText (s : String) : Option EventType :=
  [EventType.requested, .approved, .rejected, .delegated, .escalated, .revoked].find? fun t =>
    t.text = s

@[simp] theorem ofText_text (t : EventType) : ofText t.text = some t := by
  cases t <;> rfl

end EventType

/-- Source: `approval_engine.py` `ApprovalEvent`. -/
structure ApprovalEvent where
  schemaVersion : SchemaVersion
  eventId : String
  requestId : String
  sequence : Nat
  eventType : EventType
  occurredAt : Timestamp
  actorId : String
  actorRole : Option String
  reason : String
  details : List (String × String)
  previousEventFingerprint : Option String
  eventId_valid : isIdentifier eventId = true
  requestId_valid : isIdentifier requestId = true
  actorId_valid : isIdentifier actorId = true
  actorRole_valid : ∀ r ∈ actorRole, isIdentifier r = true
  reason_required : requiredText reason
  previous_valid : ∀ f ∈ previousEventFingerprint, isSha256Hex f
  details_sorted : sortedBy Prod.fst details = details
  details_nodup : (details.map Prod.fst).Nodup
  details_required : ∀ d ∈ details, requiredText d.1 ∧ requiredText d.2

namespace ApprovalEvent

/-- Source: `approval_engine.py` `ApprovalEvent._payload`. -/
def payload (e : ApprovalEvent) : Json :=
  .obj [("schema_version", e.schemaVersion.toJson),
    ("event_id", .str e.eventId),
    ("request_id", .str e.requestId),
    ("sequence", .int e.sequence),
    ("event_type", .str e.eventType.text),
    ("occurred_at", .str e.occurredAt.text),
    ("actor_id", .str e.actorId),
    ("actor_role", .ofOption e.actorRole),
    ("reason", .str e.reason),
    ("details", .arr (e.details.map fun d => .strings [d.1, d.2])),
    ("previous_event_fingerprint", .ofOption e.previousEventFingerprint)]

/-- Source: `approval_engine.py` `ApprovalEvent.fingerprint`. -/
def fingerprint (e : ApprovalEvent) : String := Fields.fingerprint e.payload

/-- Source: `approval_engine.py` `ApprovalEvent.detail`. -/
def detail (e : ApprovalEvent) (key : String) : Option String :=
  (e.details.find? fun d => d.1 = key).map (·.2)

/-- The keys of an event's details. -/
def detailKeys (e : ApprovalEvent) : Finset String := (e.details.map Prod.fst).toFinset

/-- The time of an event. -/
def time (e : ApprovalEvent) : Int := e.occurredAt.time

/-- The instant at which a recorded delegation ends. -/
def validUntil (e : ApprovalEvent) : Option Int :=
  (e.detail "valid_until").bind fun s => (parseTime s).toOption

end ApprovalEvent

/-- The arguments of the event constructor. -/
structure EventArgs where
  schemaVersion : SchemaVersion := .int
  eventId : String
  requestId : String
  sequence : Int
  eventType : String
  occurredAt : String
  actorId : String
  actorRole : Option String
  reason : String
  details : List (String × String)
  previousEventFingerprint : Option String
  deriving DecidableEq

namespace EventArgs

/-- The check of one detail. -/
def checkDetail (d : String × String) : Py (PLift (requiredText d.1 ∧ requiredText d.2)) := do
  let h₁ ← checkText .approvalWorkflowError d.1 "event detail key"
  let h₂ ← checkText .approvalWorkflowError d.2 "event detail value"
  return ⟨h₁.down, h₂.down⟩

/-- The check of an optional fingerprint. -/
def checkPrevious (previous : Option String) : Py (PLift (∀ f ∈ previous, isSha256Hex f)) :=
  match previous with
  | none => .ok ⟨noSha256⟩
  | some f => do
      let h ← checkSha256 .approvalWorkflowError f "previous_event_fingerprint"
      return ⟨fun _ hw => Option.mem_some.mp hw ▸ h.down⟩

theorem checkPrevious_of {previous : Option String} (h : ∀ f ∈ previous, isSha256Hex f) :
    checkPrevious previous = .ok ⟨h⟩ := by
  cases previous with
  | none => rfl
  | some f =>
    rw [checkPrevious, checkSha256_of (h f rfl), ok_bind]
    rfl

/-- The constructor's checks, in order.  The details are sorted as pairs; their keys turn out to be
distinct, so the order of the keys is the order of the pairs.
Source: `approval_engine.py` `ApprovalEvent.__post_init__`. -/
def make (a : EventArgs) : Py ApprovalEvent := do
  let h₁ ← checkIdentifier .approvalWorkflowError a.eventId "event_id"
  let h₂ ← checkIdentifier .approvalWorkflowError a.requestId "request_id"
  raiseIf (a.sequence < 0) (workflowError "event sequence must be nonnegative")
  let eventType ← getOrRaise (EventType.ofText a.eventType)
    (workflowError "unsupported approval event type")
  let occurredAt ← iso8601 .approvalWorkflowError a.occurredAt "occurred_at"
  let h₃ ← checkIdentifier .approvalWorkflowError a.actorId "actor_id"
  let h₄ ← checkOptional a.actorRole "actor_role"
  let h₅ ← checkText .approvalWorkflowError a.reason "reason"
  let h₆ ← checkPrevious a.previousEventFingerprint
  let details := sortedBy Prod.fst a.details
  raiseIf (¬ details.Nodup) (workflowError "event details must not contain duplicates")
  let h₇ ← prove (details.map Prod.fst).Nodup (workflowError "event detail keys must be unique")
  let h₈ ← proveAll checkDetail details
  return ⟨a.schemaVersion, a.eventId, a.requestId, a.sequence.toNat, eventType, occurredAt,
    a.actorId, a.actorRole, a.reason, details, a.previousEventFingerprint, h₁.down, h₂.down,
    h₃.down, h₄.down, h₅.down, h₆.down, sortedBy_eq_self (sortedBy_pairwise _ _), h₇.down, h₈.down⟩

end EventArgs

namespace ApprovalEvent

/-- The arguments an event was built from. -/
@[reducible] def args (e : ApprovalEvent) : EventArgs where
  schemaVersion := e.schemaVersion
  eventId := e.eventId
  requestId := e.requestId
  sequence := e.sequence
  eventType := e.eventType.text
  occurredAt := e.occurredAt.text
  actorId := e.actorId
  actorRole := e.actorRole
  reason := e.reason
  details := e.details
  previousEventFingerprint := e.previousEventFingerprint

/-- **An event is rebuilt from its own fields.** -/
theorem make_args (e : ApprovalEvent) : e.args.make = .ok e := by
  have hsequence : ¬ (e.sequence : Int) < 0 := by omega
  have hsorted := e.details_sorted
  have hnodup : (sortedBy Prod.fst e.details).Nodup := by
    rw [hsorted]
    exact e.details_nodup.of_map
  have hkeys : ((sortedBy Prod.fst e.details).map Prod.fst).Nodup := by
    rw [hsorted]
    exact e.details_nodup
  have hrequired : ∀ d ∈ sortedBy Prod.fst e.details, requiredText d.1 ∧ requiredText d.2 := by
    rw [hsorted]
    exact e.details_required
  have hdetail : ∀ (d : String × String) (h : requiredText d.1 ∧ requiredText d.2),
      EventArgs.checkDetail d = .ok ⟨h⟩ := by
    intro d h
    rw [EventArgs.checkDetail, checkText_of h.1, ok_bind, checkText_of h.2, ok_bind]
    rfl
  unfold EventArgs.make
  rw [checkIdentifier_of e.eventId_valid, ok_bind, checkIdentifier_of e.requestId_valid, ok_bind,
    raiseIf_of_not hsequence, ok_bind, EventType.ofText_text, getOrRaise, ok_bind, iso8601_text,
    ok_bind, checkIdentifier_of e.actorId_valid, ok_bind, checkOptional_of e.actorRole_valid,
    ok_bind, checkText_of e.reason_required, ok_bind,
    EventArgs.checkPrevious_of e.previous_valid, ok_bind]
  dsimp only
  rw [raiseIf_of_not (not_not.mpr hnodup), ok_bind, prove_of hkeys, ok_bind,
    proveAll_of hdetail hrequired, ok_bind]
  simp only [pure_eq_ok, Int.toNat_natCast, hsorted]

theorem args_injective {e e' : ApprovalEvent} (h : e.args = e'.args) : e = e' := by
  have hmake := e.make_args
  rw [h, e'.make_args] at hmake
  exact (Except.ok.inj hmake).symm

/-- Events are compared by their fields. -/
instance : DecidableEq ApprovalEvent := fun e e' =>
  decidable_of_iff (e.args = e'.args) ⟨args_injective, fun h => h ▸ rfl⟩

end ApprovalEvent

/-! ## Grants -/

/-- The arguments of the grant constructor. -/
structure GrantArgs where
  requestId : String
  engagementId : String
  policyBundleFingerprint : String
  capability : String
  target : String
  impact : String
  approvedAt : String
  expiresAt : String
  approverIds : List String
  workflowFingerprint : String
  deriving DecidableEq

/-- Source: `approval_engine.py` `ApprovalGrant`. -/
structure ApprovalGrant where
  requestId : String
  engagementId : String
  policyBundleFingerprint : String
  capability : String
  target : String
  impact : Impact
  approvedAt : Timestamp
  expiresAt : Timestamp
  approverIds : SortedUnique requiredText 1
  workflowFingerprint : String
  requestId_valid : isIdentifier requestId = true
  engagementId_valid : isIdentifier engagementId = true
  policyBundleFingerprint_valid : isSha256Hex policyBundleFingerprint
  capability_valid : isCapability capability = true
  target_normal : ∃ type, parseTarget target = .ok ⟨target, type⟩
  workflowFingerprint_valid : isSha256Hex workflowFingerprint

/-- Source: `approval_engine.py` `ApprovalGrant.__post_init__`. -/
def GrantArgs.make (a : GrantArgs) : Py ApprovalGrant := do
  let h₁ ← checkIdentifier .approvalWorkflowError a.requestId "request_id"
  let h₂ ← checkIdentifier .approvalWorkflowError a.engagementId "engagement_id"
  let h₃ ← checkSha256 .approvalWorkflowError a.policyBundleFingerprint
    "policy_bundle_fingerprint"
  let h₄ ← prove (isCapability a.capability = true) (workflowError "capability is invalid")
  let ⟨target, h₅⟩ ← normalTarget a.target
  let impact ← getOrRaise (Impact.ofText a.impact)
    (workflowError "impact must be low, standard, or high")
  let approvedAt ← iso8601 .approvalWorkflowError a.approvedAt "approved_at"
  let expiresAt ← iso8601 .approvalWorkflowError a.expiresAt "expires_at"
  let approvers ← sortedUnique .approvalWorkflowError
    (fun v => checkText .approvalWorkflowError v "approver_ids") a.approverIds "approver_ids" 1
  let h₆ ← checkSha256 .approvalWorkflowError a.workflowFingerprint "workflow_fingerprint"
  return ⟨a.requestId, a.engagementId, a.policyBundleFingerprint, a.capability, target, impact,
    approvedAt, expiresAt, approvers, a.workflowFingerprint, h₁.down, h₂.down, h₃.down, h₄.down,
    h₅, h₆.down⟩

namespace ApprovalGrant

/-- The fields of a grant. -/
def args (g : ApprovalGrant) : GrantArgs where
  requestId := g.requestId
  engagementId := g.engagementId
  policyBundleFingerprint := g.policyBundleFingerprint
  capability := g.capability
  target := g.target
  impact := g.impact.text
  approvedAt := g.approvedAt.text
  expiresAt := g.expiresAt.text
  approverIds := g.approverIds.values
  workflowFingerprint := g.workflowFingerprint

theorem args_injective {g g' : ApprovalGrant} (h : g.args = g'.args) : g = g' := by
  simp only [args, GrantArgs.mk.injEq] at h
  obtain ⟨h₁, h₂, h₃, h₄, h₅, h₆, h₇, h₈, h₉, h₁₀⟩ := h
  have himpact : g.impact = g'.impact := by
    have hsome := congrArg Impact.ofText h₆
    rw [Impact.ofText_text, Impact.ofText_text] at hsome
    exact Option.some.inj hsome
  obtain ⟨_, _, _, _, _, _, _, _, _, _, _, _, _, _, _, _⟩ := g
  obtain ⟨_, _, _, _, _, _, _, _, _, _, _, _, _, _, _, _⟩ := g'
  simp only at h₁ h₂ h₃ h₄ h₅ h₁₀ himpact
  have ht₇ := Timestamp.ext_text h₇
  have ht₈ := Timestamp.ext_text h₈
  have hs₉ := SortedUnique.ext_values h₉
  simp only at ht₇ ht₈ hs₉
  subst h₁ h₂ h₃ h₄ h₅ himpact ht₇ ht₈ hs₉ h₁₀
  rfl

/-- Grants are compared by their fields. -/
instance : DecidableEq ApprovalGrant := fun g g' =>
  decidable_of_iff (g.args = g'.args) ⟨args_injective, fun h => h ▸ rfl⟩

end ApprovalGrant

end NightRecon.WhiteEngine.ApprovalEngine
