import NightRecon.WhiteEngine.ApprovalEngine.Evidence

/-!
# The operations and the replay agree

The operations choose role, source and details by their own search; the replay of the constructor
searches the history by the role recorded in the event.

* `Draft.WellFormed`, `Draft.event` — the event a draft becomes;
* `append_accepted` — appending succeeds when the event is a turn of the replay;
* `eligibleAuthority_spec` — the search of the operations finds the authority the replay expects;
* `draft_lawful` — what the guards of an operation let through is a turn of the replay;
* `legal_operation_accepted` — so no legal operation fails in the replay, and the status is the
  announced one.
-/

namespace NightRecon.WhiteEngine.ApprovalEngine

open NightRecon.Lib
open NightRecon.Lib.Checks
open NightRecon.Lib.Text
open NightRecon.Lib.Datetime
open NightRecon.Lib.Sha256
open NightRecon.Lib.Chronicle
open NightRecon.WhiteEngine.Fields

namespace ApprovalWorkflow

/-! ## The event of a draft -/

/-- A draft whose texts pass the checks of the event constructor. -/
structure Draft.WellFormed (d : Draft) : Prop where
  actorId_valid : isIdentifier d.actorId = true
  actorRole_valid : ∀ r ∈ d.actorRole, isIdentifier r = true
  details_sorted : sortedBy Prod.fst d.details = d.details
  details_nodup : (d.details.map Prod.fst).Nodup
  details_required : ∀ x ∈ d.details, requiredText x.1 ∧ requiredText x.2

/-- An event made from a draft. -/
structure Draft.Matches (d : Draft) (e : ApprovalEvent) : Prop where
  eventType : e.eventType = d.eventType
  occurredAt : e.occurredAt = d.occurredAt
  actorId : e.actorId = d.actorId
  actorRole : e.actorRole = d.actorRole
  details : e.details = d.details

theorem Draft.Matches.detail {d : Draft} {e : ApprovalEvent} (h : d.Matches e) (key : String) :
    e.detail key = (d.details.find? fun x => x.1 = key).map (·.2) := by
  rw [ApprovalEvent.detail, h.details]

theorem previous_valid (w : ApprovalWorkflow) :
    ∀ f ∈ w.events.getLast?.map ApprovalEvent.fingerprint, isSha256Hex f := by
  intro f hf
  obtain ⟨e, -, rfl⟩ := Option.map_eq_some_iff.mp hf
  exact isSha256Hex_fingerprint _

/-- The event a well-formed draft becomes at the end of a history. -/
def Draft.event (d : Draft) (hd : d.WellFormed) (w : ApprovalWorkflow) {eventId reason : String}
    (hid : isIdentifier eventId = true) (hreason : requiredText reason) : ApprovalEvent :=
  ⟨.int, eventId, w.request.requestId, w.events.length, d.eventType, d.occurredAt, d.actorId,
    d.actorRole, reason, d.details, w.events.getLast?.map ApprovalEvent.fingerprint, hid,
    w.request.requestId_valid, hd.actorId_valid, hd.actorRole_valid, hreason, w.previous_valid,
    hd.details_sorted, hd.details_nodup, hd.details_required⟩

/-! ## Appending -/

theorem make_of_accepted {r : ApprovalRequest} {events : List ApprovalEvent}
    (h : (validate r events).toOption.isSome = true) : make r events = .ok ⟨r, events, h⟩ := by
  rw [make, attempt_of h, ok_bind]
  rfl

/-- An accepted history accepts a further event that links to it and is a turn of its replay. -/
theorem validate_concat (w : ApprovalWorkflow) {e : ApprovalEvent}
    (hlink : ∀ c, Linked w.request w.events c → ∃ c', checkLink w.request c e = .ok c')
    (hturn : ∀ s, Tracks w.request w.events s → ∃ s', replayStep w.request s e = .ok s') :
    validate w.request (w.events ++ [e]) = .ok () := by
  obtain ⟨first, rest, c, s, hevents, hc, horigin, hs⟩ := w.history
  obtain ⟨c', hc'⟩ := hlink c (linked_of_foldlM hc)
  obtain ⟨s', hs'⟩ := hturn s (hevents ▸ tracks_of_foldlM (checkOrigin_eq_ok.mp horigin).1 hs)
  rw [hevents] at hc ⊢
  rw [List.cons_append, validate_eq_ok]
  refine ⟨⟨c', ?_⟩, horigin, s', ?_⟩
  · rw [← List.cons_append, foldlM_concat, hc]
    exact hc'
  · rw [foldlM_concat, hs]
    exact hs'

/-- **Appending succeeds** when the draft is well formed and not earlier than the last event, its
identifier is new, and its event is a turn of the replay. -/
theorem append_accepted (w : ApprovalWorkflow) {draft : Draft} {eventId reason : String}
    (hdraft : draft.WellFormed) (hid : isIdentifier eventId = true)
    (hfresh : eventId ∉ w.events.map (·.eventId)) (hreason : requiredText reason)
    (hlast : ∀ p ∈ w.events.getLast?, p.time ≤ draft.occurredAt.time)
    (hopen : draft.occurredAt.time < w.request.expiresAt.time)
    (hturn : ∀ s e, Tracks w.request w.events s → draft.Matches e →
      ∃ s', Turn w.request s e s') :
    ∃ w' e, w.append eventId draft reason = .ok w' ∧ w'.request = w.request ∧
      w'.events = w.events ++ [e] ∧ e.eventId = eventId ∧ draft.Matches e := by
  have hmatches : draft.Matches (draft.event hdraft w hid hreason) := ⟨rfl, rfl, rfl, rfl, rfl⟩
  have hlink : ∀ c, Linked w.request w.events c →
      ∃ c', checkLink w.request c (draft.event hdraft w hid hreason) = .ok c' := by
    intro c hc
    obtain ⟨p, hp⟩ : ∃ p, w.events.getLast? = some p := by
      obtain ⟨first, rest, -, -, hevents, -⟩ := w.history
      exact ⟨_, List.getLast?_eq_some_getLast (hevents ▸ List.cons_ne_nil first rest)⟩
    have hafter := le_trans (hc.notBefore p (List.mem_of_getLast? hp)) (hlast p hp)
    refine ⟨_, checkLink_eq_ok.mpr ⟨fun h => hfresh ((hc.seenIds _).mp h), rfl, hc.index.symm, ?_,
      hafter, fun q hq => hlast q (hc.previous ▸ hq), rfl⟩⟩
    rw [hc.previous]
    rfl
  have hvalid := w.validate_concat hlink fun s hs => by
    obtain ⟨s', hs'⟩ := hturn s _ hs hmatches
    exact ⟨s', (replayStep_eq_ok hs.ends).mpr ⟨hopen, hs'⟩⟩
  have haccepted : (validate w.request
      (w.events ++ [draft.event hdraft w hid hreason])).toOption.isSome = true := by
    rw [hvalid]
    rfl
  have hevent := (draft.event hdraft w hid hreason).make_args
  refine ⟨⟨w.request, w.events ++ [draft.event hdraft w hid hreason], haccepted⟩, _, ?_, rfl, rfl,
    rfl, hmatches⟩
  unfold append
  have hargs : EventArgs.make {
      eventId := eventId
      requestId := w.request.requestId
      sequence := w.events.length
      eventType := draft.eventType.text
      occurredAt := draft.occurredAt.text
      actorId := draft.actorId
      actorRole := draft.actorRole
      reason := reason
      details := draft.details
      previousEventFingerprint := w.events.getLast?.map ApprovalEvent.fingerprint } =
      .ok (draft.event hdraft w hid hreason) := hevent
  rw [hargs, ok_bind, make_of_accepted haccepted]

/-! ## Creating -/

/-- The first event of a history. -/
def requestedEvent (r : ApprovalRequest) {eventId reason : String}
    (hid : isIdentifier eventId = true) (hreason : requiredText reason) : ApprovalEvent :=
  have hrequired : requiredText "request_fingerprint" ∧ requiredText r.fingerprint :=
    ⟨by decide, requiredText_of_isSha256Hex (isSha256Hex_fingerprint _)⟩
  ⟨.int, eventId, r.requestId, 0, .requested, r.requestedAt, r.requestedBy, none, reason,
    [("request_fingerprint", r.fingerprint)], none, hid, r.requestId_valid, r.requestedBy_valid,
    noIdentifier, hreason, noSha256, rfl, List.nodup_singleton _,
    fun _ h => List.mem_singleton.mp h ▸ hrequired⟩

theorem validate_requestedEvent (r : ApprovalRequest) {eventId reason : String}
    (hid : isIdentifier eventId = true) (hreason : requiredText reason) :
    validate r [requestedEvent r hid hreason] = .ok () := by
  have hlink := checkLink_eq_ok (r := r) (c := Chain.start) (e := requestedEvent r hid hreason)
    |>.mpr ⟨Finset.notMem_empty _, rfl, rfl, rfl, le_refl r.requestedAt.time,
      fun _ h => absurd h (Option.not_mem_none _), rfl⟩
  rw [validate_eq_ok]
  have hchain : ∃ c, [requestedEvent r hid hreason].foldlM (checkLink r) Chain.start = .ok c := by
    rw [List.foldlM_cons, hlink, ok_bind]
    exact ⟨_, rfl⟩
  exact ⟨hchain, checkOrigin_eq_ok.mpr ⟨rfl, rfl, rfl, rfl⟩, _, rfl⟩

/-- A workflow in which nothing has happened but its request. -/
def created (r : ApprovalRequest) {eventId reason : String}
    (hid : isIdentifier eventId = true) (hreason : requiredText reason) : ApprovalWorkflow :=
  ⟨r, [requestedEvent r hid hreason], by rw [validate_requestedEvent]; rfl⟩

/-- **A request can always be filed**, under a valid identifier and with a reason. -/
theorem create_eq (r : ApprovalRequest) {eventId reason : String}
    (hid : isIdentifier eventId = true) (hreason : requiredText reason) :
    create r eventId none reason = .ok (created r hid hreason) := by
  obtain ⟨p, hp⟩ : ∃ p, r.principal r.requestedBy = .ok p := by
    obtain ⟨q, hq, hid⟩ := List.mem_map.mp r.requestedBy_mem
    have hsome : (r.principals.find? fun p => p.principalId = r.requestedBy).isSome = true :=
      List.find?_isSome.mpr ⟨q, hq, decide_eq_true hid⟩
    obtain ⟨p, hp⟩ := Option.isSome_iff_exists.mp hsome
    exact ⟨p, getOrRaise_eq_ok.mpr hp⟩
  have hevent := (requestedEvent r hid hreason).make_args
  have hargs : EventArgs.make {
      eventId := eventId
      requestId := r.requestId
      sequence := 0
      eventType := EventType.requested.text
      occurredAt := r.requestedAt.text
      actorId := r.requestedBy
      actorRole := none
      reason := reason
      details := [("request_fingerprint", r.fingerprint)]
      previousEventFingerprint := none } = .ok (requestedEvent r hid hreason) := hevent
  unfold create
  dsimp only [Option.getD_none]
  rw [hp, ok_bind, hargs, ok_bind]
  exact make_of_accepted (created r hid hreason).accepted

/-! ## What is seen at the end -/

/-- At an instant not before the last event, the whole history is seen. -/
theorem upTo_of_last (w : ApprovalWorkflow) {t : Timestamp}
    (hlast : ∀ p ∈ w.events.getLast?, p.time ≤ t.time) :
    upTo ApprovalEvent.time t.time w.events = w.events := by
  apply upTo_eq_self
  intro e he
  have hp := List.getLast?_eq_some_getLast (List.ne_nil_of_mem he)
  exact le_trans (time_le_last w.chronological hp e he) (hlast _ hp)

theorem approvalEvents_none (w : ApprovalWorkflow) :
    w.approvalEvents none = approvals w.events := by
  simp [approvalEvents, approvals, within]

/-! ## The search of the operations -/

theorem find?_of_imp {α : Type} {l : List α} {p q : α → Bool} {a : α} (h : l.find? q = some a)
    (hp : p a = true) (himp : ∀ x ∈ l, p x = true → q x = true) : l.find? p = some a := by
  obtain ⟨-, before, after, hsplit, hnone⟩ := List.find?_eq_some_iff_append.mp h
  rw [List.find?_eq_some_iff_append]
  refine ⟨hp, before, after, hsplit, ?_⟩
  intro x hx
  have hmem : x ∈ l := hsplit ▸ List.mem_append_left _ hx
  by_contra hpx
  have hqx := himp x hmem (by simpa using hpx)
  have hnot := hnone x hx
  rw [hqx] at hnot
  exact absurd hnot (by decide)

theorem eligible_eq_nil {policy : ApprovalPolicy} {p : ApprovalPrincipal}
    (h : sortedStr (eligible policy p) = []) :
    ∀ role ∈ p.roles.values, role ∉ policy.eligibleRoles.values := by
  intro role hrole hmem
  have hin : role ∈ sortedStr (eligible policy p) := by
    rw [mem_sortedStr, eligible, List.mem_filter]
    exact ⟨hrole, decide_eq_true hmem⟩
  rw [h] at hin
  exact absurd hin List.not_mem_nil

theorem HoldsRole_of_eligible {r : ApprovalRequest} {actorId role : String}
    {p : ApprovalPrincipal} (hp : r.principal actorId = .ok p)
    (h : role ∈ sortedStr (eligible r.policy p)) : HoldsRole r actorId role := by
  rw [mem_sortedStr, eligible, List.mem_filter] at h
  exact ⟨p, hp, h.1, of_decide_eq_true h.2⟩

/-- The identifier of a principal of a request is valid. -/
theorem actorId_valid_of_principal {r : ApprovalRequest} {actorId : String}
    {p : ApprovalPrincipal} (hp : r.principal actorId = .ok p) : isIdentifier actorId = true := by
  obtain ⟨-, hid⟩ := ApprovalRequest.principal_eq_ok hp
  exact hid ▸ p.principalId_valid

/-- **The search of the operations finds the authority the replay expects.** -/
theorem eligibleAuthority_spec (w : ApprovalWorkflow) {s : Replay}
    (hs : Tracks w.request w.events s) {actorId role source : String} {t : Timestamp}
    (h : w.eligibleAuthority actorId t = .ok (role, source)) :
    isIdentifier actorId = true ∧ isIdentifier role = true ∧ isIdentifier source = true ∧
      (∃ p, w.request.principal actorId = .ok p) ∧
      ∀ e : ApprovalEvent, e.actorId = actorId → e.actorRole = some role → e.occurredAt = t →
        Authority w.request s.priorEvents e source := by
  unfold eligibleAuthority at h
  rw [bind_eq_ok] at h
  obtain ⟨p, hp, h⟩ := h
  have hactor := actorId_valid_of_principal hp
  split at h
  · next role' rest hsorted =>
    simp only [pure_eq_ok, Except.ok.injEq, Prod.mk.injEq] at h
    obtain ⟨rfl, rfl⟩ := h
    have hholds := HoldsRole_of_eligible hp (hsorted ▸ List.mem_cons_self)
    have hrole := w.request.policy.eligibleRoles.valid _ hholds.choose_spec.2.2
    refine ⟨hactor, hrole, hactor, ⟨p, hp⟩, ?_⟩
    intro e he herole ht
    exact ⟨_, herole, Or.inl ⟨he.symm ▸ hholds, he.symm⟩⟩
  · next hsorted =>
    have hrev : Ends w.events.reverse := by
      intro d hd htype
      exact hs.ends d (hs.prior.symm ▸ List.mem_reverse.mp hd) htype
    rw [findDelegation_eq hrev, ok_bind, bind_eq_ok] at h
    obtain ⟨d, hfind, h⟩ := h
    rw [getOrRaise_eq_ok] at hfind
    simp only [pure_eq_ok, Except.ok.injEq, Prod.mk.injEq] at h
    have hfound := List.find?_some hfind
    simp only [Bool.decide_and, Bool.and_eq_true, decide_eq_true_eq] at hfound
    obtain ⟨⟨hdelegate, role', hdrole, heligible⟩, hforce⟩ := hfound
    have hrole' : d.detail "delegated_role" = some role' := hdrole
    rw [hrole', Option.getD_some] at h
    obtain ⟨rfl, rfl⟩ := h
    refine ⟨hactor, w.request.policy.eligibleRoles.valid _ heligible, d.actorId_valid, ⟨p, hp⟩, ?_⟩
    rintro e rfl herole rfl
    have hnot : ¬ HoldsRole w.request e.actorId role' := by
      rintro ⟨q, hq, hqrole, hqeligible⟩
      rw [hp, Except.ok.injEq] at hq
      exact eligible_eq_nil hsorted role' (hq.symm ▸ hqrole) hqeligible
    -- the replay looks for this role only, and so stops at the same delegation
    refine ⟨role', herole, Or.inr ⟨hnot, d, ?_, rfl⟩⟩
    rw [hs.prior]
    apply find?_of_imp hfind
    · simp [gives, hdelegate, hrole', hforce]
    · intro x _ hx
      simp only [gives, Bool.decide_and, Bool.and_eq_true, decide_eq_true_eq] at hx ⊢
      exact ⟨⟨hx.1.1, role', hx.1.2, heligible⟩, hx.2⟩

/-! ## The guards and the replay -/

/-- A draft the replay of its workflow lets through. -/
structure Lawful (w : ApprovalWorkflow) (draft : Draft) : Prop where
  wellFormed : draft.WellFormed
  opens : draft.occurredAt.time < w.request.expiresAt.time
  turn : ∀ s e, Tracks w.request w.events s → draft.Matches e → ∃ s', Turn w.request s e s'

/-- A pending status at the end of a history is a pending replay, before the expiry. -/
theorem pending_of_statusAt {w : ApprovalWorkflow} {t : Timestamp}
    (hlast : ∀ p ∈ w.events.getLast?, p.time ≤ t.time) (h : w.statusAt t = .pending) :
    historyState w.request w.events = .pending ∧ t.time < w.request.expiresAt.time := by
  rwa [statusAt_eq_pending, w.upTo_of_last hlast] at h

theorem approved_of_statusAt {w : ApprovalWorkflow} {t : Timestamp}
    (hlast : ∀ p ∈ w.events.getLast?, p.time ≤ t.time) (h : w.statusAt t = .approved) :
    historyState w.request w.events = .approved ∧ t.time < w.request.expiresAt.time := by
  rwa [statusAt_eq_approved, w.upTo_of_last hlast] at h

/-- The draft of a decision. -/
theorem wellFormed_decision {type : EventType} {t : Timestamp} {actorId role source : String}
    (hactor : isIdentifier actorId = true) (hrole : isIdentifier role = true)
    (hsource : isIdentifier source = true) :
    (Draft.mk type t actorId (some role) [("authority_source", source)]).WellFormed where
  actorId_valid := hactor
  actorRole_valid := fun _ hr => Option.mem_some.mp hr ▸ hrole
  details_sorted := rfl
  details_nodup := List.nodup_singleton _
  details_required := by
    intro x hx
    rw [List.mem_singleton] at hx
    subst hx
    have hkey : requiredText "authority_source" := by decide
    exact ⟨hkey, requiredText_of_isIdentifier hsource⟩

/-- A decision with the authority the search found is one the replay accepts. -/
theorem decides_of_authority (w : ApprovalWorkflow) {type : EventType} {t : Timestamp}
    {actorId role source : String} {s : Replay} {e : ApprovalEvent}
    (hs : Tracks w.request w.events s) (hpending : historyState w.request w.events = .pending)
    (hseparate : w.request.policy.requesterMayApprove = false → actorId ≠ w.request.requestedBy)
    (hauthority : w.eligibleAuthority actorId t = .ok (role, source))
    (he : (Draft.mk type t actorId (some role) [("authority_source", source)]).Matches e) :
    Decides w.request s e source := by
  obtain ⟨-, -, -, ⟨p, hp⟩, hspec⟩ := w.eligibleAuthority_spec hs hauthority
  refine ⟨hs.state.trans hpending, ⟨p, he.actorId ▸ hp⟩, ?_,
    hspec e he.actorId he.actorRole he.occurredAt, ?_⟩
  · intro hreq
    rw [he.actorId]
    exact hseparate hreq
  · rw [he.detail]
    rfl

theorem draftApproval_spec (w : ApprovalWorkflow) {actorId occurredAt : String} {draft : Draft}
    (h : w.draftApproval actorId occurredAt = .ok draft)
    (hlast : ∀ p ∈ w.events.getLast?, p.time ≤ draft.occurredAt.time) :
    draft.eventType = .approved ∧
      historyState w.request w.events = .pending ∧ Lawful w draft := by
  unfold draftApproval at h
  simp only [bind_eq_ok, iso8601_eq_ok, ensurePending, raiseIf_eq_ok, pure_eq_ok,
    Except.ok.injEq, ne_eq, not_not, not_and] at h
  obtain ⟨t, ht, -, hstatus, -, hseparate, -, hactor, ⟨role, source⟩, hauthority, -, hused,
    rfl⟩ := h
  obtain ⟨hpending, hopen⟩ := pending_of_statusAt hlast hstatus
  obtain ⟨s, hs⟩ := w.tracks
  obtain ⟨hactorId, hrole, hsourceId, -, -⟩ := w.eligibleAuthority_spec hs hauthority
  refine ⟨rfl, hpending, wellFormed_decision hactorId hrole hsourceId, hopen, ?_⟩
  intro s e hs he
  have hdecides := w.decides_of_authority hs hpending hseparate hauthority he
  have hnewActor : e.actorId ∉ s.approvingActors := by
    rw [hs.actors, he.actorId, List.mem_map]
    rintro ⟨x, hx, hsame⟩
    exact hactor ⟨x, w.approvalEvents_none ▸ hx, hsame⟩
  have hnewSource : source ∉ s.authoritySources := by
    rw [hs.sources, List.mem_toFinset, List.mem_map]
    rintro ⟨x, hx, rfl⟩
    -- a counted source is named by its approval
    obtain ⟨before, after, hsplit⟩ := List.append_of_mem (List.mem_filter.mp hx).1
    have htype : x.eventType = .approved := of_decide_eq_true (List.mem_filter.mp hx).2
    have hnamed := (hs.evidence before x after hsplit htype).named
    refine hused ⟨x, ?_, hnamed⟩
    rw [approvalEvents_eq, w.upTo_of_last hlast]
    exact hx
  exact ⟨_, Turn.approve source he.eventType hdecides hnewActor hnewSource⟩

theorem draftRejection_spec (w : ApprovalWorkflow) {actorId occurredAt : String} {draft : Draft}
    (h : w.draftRejection actorId occurredAt = .ok draft)
    (hlast : ∀ p ∈ w.events.getLast?, p.time ≤ draft.occurredAt.time) :
    draft.eventType = .rejected ∧
      historyState w.request w.events = .pending ∧ Lawful w draft := by
  unfold draftRejection at h
  simp only [bind_eq_ok, iso8601_eq_ok, ensurePending, raiseIf_eq_ok, pure_eq_ok,
    Except.ok.injEq, ne_eq, not_not, not_and] at h
  obtain ⟨t, ht, -, hstatus, -, hseparate, ⟨role, source⟩, hauthority, rfl⟩ := h
  obtain ⟨hpending, hopen⟩ := pending_of_statusAt hlast hstatus
  obtain ⟨s, hs⟩ := w.tracks
  obtain ⟨hactorId, hrole, hsourceId, -, -⟩ := w.eligibleAuthority_spec hs hauthority
  refine ⟨rfl, hpending, wellFormed_decision hactorId hrole hsourceId, hopen, ?_⟩
  intro s e hs he
  have hdecides := w.decides_of_authority hs hpending hseparate hauthority he
  exact ⟨_, Turn.reject source he.eventType hdecides⟩

theorem draftDelegation_spec (w : ApprovalWorkflow)
    {delegatorId delegateId delegatedRole occurredAt validUntil : String} {draft : Draft}
    (h : w.draftDelegation delegatorId delegateId delegatedRole occurredAt validUntil = .ok draft)
    (hlast : ∀ p ∈ w.events.getLast?, p.time ≤ draft.occurredAt.time) :
    draft.eventType = .delegated ∧
      historyState w.request w.events = .pending ∧ Lawful w draft := by
  unfold draftDelegation at h
  simp only [bind_eq_ok, iso8601_eq_ok, ensurePending, raiseIf_eq_ok, pure_eq_ok,
    Except.ok.injEq, ne_eq, not_not, not_and, not_or, not_le, not_lt, Bool.not_eq_false] at h
  obtain ⟨t, ht, u, hu, -, hstatus, -, hallowed, -, hdiffer, -, hseparate, delegator, hdelegator,
    delegate, hdelegate, checked, hchecked, -, heligible, -, hholds, -, hafter, -, hbound, rfl⟩ := h
  obtain ⟨hpending, hopen⟩ := pending_of_statusAt hlast hstatus
  have hutext := Timestamp.text_of_ofText hu
  have hdelegatorId := actorId_valid_of_principal hdelegator
  have hdelegateId := actorId_valid_of_principal hdelegate
  refine ⟨rfl, hpending, ?_, hopen, ?_⟩
  · exact {
      actorId_valid := hdelegatorId
      actorRole_valid := fun _ hr => Option.mem_some.mp hr ▸ checked.down
      details_sorted := by
        apply sortedBy_eq_self
        simp only [List.pairwise_cons, List.mem_cons, List.not_mem_nil, or_false, forall_eq_or_imp,
          forall_eq, List.Pairwise.nil, and_true, false_imp_iff, implies_true]
        decide
      details_nodup := by simp
      details_required := by
        have hkeys : requiredText "delegate_id" ∧ requiredText "delegated_role" ∧
            requiredText "valid_until" := by decide
        intro x hx
        simp only [List.mem_cons, List.not_mem_nil, or_false] at hx
        rcases hx with rfl | rfl | rfl
        · exact ⟨hkeys.1, requiredText_of_isIdentifier hdelegateId⟩
        · exact ⟨hkeys.2.1, requiredText_of_isIdentifier checked.down⟩
        · exact ⟨hkeys.2.2, hutext ▸ u.required⟩ }
  · intro s e hs he
    have hholdsRole : HoldsRole w.request e.actorId delegatedRole := by
      rw [he.actorId]
      exact ⟨delegator, hdelegator, hholds, heligible⟩
    have hdelegates : Delegates w.request e delegateId delegatedRole validUntil u.time := {
      allowed := hallowed
      delegate := by rw [he.detail]; rfl
      delegatedRole := by rw [he.detail]; rfl
      ends := by rw [he.detail]; rfl
      keys := by rw [ApprovalEvent.detailKeys, he.details]; rfl
      delegatePrincipal := ⟨delegate, hdelegate⟩
      differ := by rw [he.actorId]; exact hdiffer
      separate := by rw [he.actorId]; exact hseparate
      actorRole := he.actorRole
      holds := hholdsRole
      reads := by rw [← hutext, parseTime_text]
      bounds := by rw [ApprovalEvent.time, he.occurredAt]; exact ⟨hafter, hbound⟩ }
    exact ⟨_, Turn.delegate delegateId delegatedRole validUntil u.time he.eventType
      (hs.state.trans hpending) hdelegates⟩

/-- The roles an escalation writes are read back. -/
theorem decodedRoles_strings (l : List String) : decodedRoles (Json.strings l) = .ok l := by
  unfold decodedRoles Json.strings
  dsimp only
  rw [mapM_eq_ok, List.forall₂_map_left_iff]
  exact List.forall₂_same.mpr fun _ _ => rfl

/-- The text of a written list is nonblank and trimmed. -/
theorem requiredText_strings (l : List String) : requiredText (Json.strings l).write := by
  apply requiredText_of_ends (c := '[') (d := ']')
    (m := List.intercalate [','] (Json.elemChars (l.map .str))) _ (by decide) (by decide)
  simp only [Json.write, String.toList_ofList, Json.strings, Json.chars, List.cons_append]

theorem draftEscalation_spec (w : ApprovalWorkflow) {actorId occurredAt : String} {draft : Draft}
    (h : w.draftEscalation actorId occurredAt = .ok draft)
    (hlast : ∀ p ∈ w.events.getLast?, p.time ≤ draft.occurredAt.time) :
    draft.eventType = .escalated ∧
      historyState w.request w.events = .pending ∧ Lawful w draft := by
  unfold draftEscalation at h
  simp only [bind_eq_ok, iso8601_eq_ok, require_eq_ok, pure_eq_ok, Except.ok.injEq] at h
  obtain ⟨t, ht, p, hp, due, hdue, -, rfl, rfl⟩ := h
  unfold escalationDue at hdue
  split at hdue
  · exact absurd hdue (by simp)
  next seconds hseconds =>
  split at hdue
  · exact absurd hdue (by simp)
  next hguard =>
  simp only [not_or, ne_eq, not_not, Bool.not_eq_true] at hguard
  obtain ⟨hstatus, hfirst⟩ := hguard
  obtain ⟨due, hdueAt, hle⟩ := bind_eq_ok.mp hdue
  simp only [pure_eq_ok, Except.ok.injEq, decide_eq_true_eq] at hle
  obtain ⟨hpending, hopen⟩ := pending_of_statusAt hlast hstatus
  refine ⟨rfl, hpending, ?_, hopen, ?_⟩
  · exact {
      actorId_valid := actorId_valid_of_principal hp
      actorRole_valid := fun _ hr => absurd hr (Option.not_mem_none _)
      details_sorted := rfl
      details_nodup := List.nodup_singleton _
      details_required := by
        intro x hx
        rw [List.mem_singleton] at hx
        subst hx
        have hkey : requiredText "escalation_roles" := by decide
        exact ⟨hkey, requiredText_strings _⟩ }
  · intro s e hs he
    have hnone : s.escalated = false := by
      rw [Bool.eq_false_iff, ne_eq, hs.escalated]
      rintro ⟨x, hx, htype⟩
      have hseen := w.upTo_of_last hlast
      rw [← hseen, mem_upTo] at hx
      have hany : w.escalated (some t) = true := by
        simp only [escalated, List.any_eq_true]
        exact ⟨x, hx.1, by simp [htype, within, hx.2]⟩
      rw [hfirst] at hany
      exact absurd hany Bool.false_ne_true
    have hescalates : Escalates w.request s e := {
      pending := hs.state.trans hpending
      principal := ⟨p, by rw [he.actorId]; exact hp⟩
      due := ⟨seconds, hseconds, due, hdueAt, by rw [ApprovalEvent.time, he.occurredAt]; exact hle⟩
      first := hnone
      roles := ⟨_, _, _, by rw [he.detail]; rfl, Json.loads_strings _, decodedRoles_strings _,
        w.request.policy.escalationRoles.sorted⟩
      keys := by rw [ApprovalEvent.detailKeys, he.details]; rfl }
    exact ⟨_, Turn.escalate he.eventType hescalates⟩

theorem draftRevocation_spec (w : ApprovalWorkflow) {actorId occurredAt : String} {draft : Draft}
    (h : w.draftRevocation actorId occurredAt = .ok draft)
    (hlast : ∀ p ∈ w.events.getLast?, p.time ≤ draft.occurredAt.time) :
    draft.eventType = .revoked ∧
      historyState w.request w.events = .approved ∧ Lawful w draft := by
  unfold draftRevocation at h
  simp only [bind_eq_ok, iso8601_eq_ok, raiseIf_eq_ok, ne_eq, not_not] at h
  obtain ⟨t, ht, -, hstatus, p, hp, h⟩ := h
  split at h
  · exact absurd h (by simp)
  next role rest hsorted =>
  simp only [pure_eq_ok, Except.ok.injEq] at h
  subst h
  obtain ⟨happroved, hopen⟩ := approved_of_statusAt hlast hstatus
  have hholds := HoldsRole_of_eligible hp (hsorted ▸ List.mem_cons_self)
  refine ⟨rfl, happroved, ?_, hopen, ?_⟩
  · exact {
      actorId_valid := actorId_valid_of_principal hp
      actorRole_valid := fun _ hr => Option.mem_some.mp hr ▸
        w.request.policy.eligibleRoles.valid _ hholds.choose_spec.2.2
      details_sorted := rfl
      details_nodup := List.nodup_nil
      details_required := fun _ hx => absurd hx List.not_mem_nil }
  · intro s e hs he
    exact ⟨_, Turn.revoke role he.eventType (hs.state.trans happroved) he.actorRole
      (by rw [he.actorId]; exact hholds)⟩

end ApprovalWorkflow

namespace Operation

open ApprovalWorkflow

/-- The kind of event an operation appends. -/
def eventType : Operation → EventType
  | approve .. => .approved
  | reject .. => .rejected
  | delegate .. => .delegated
  | escalate .. => .escalated
  | revoke .. => .revoked

/-- The state an operation is made in. -/
def expects : Operation → HistoryState
  | revoke .. => .approved
  | _ => .pending

/-- The status an operation leads to. -/
def announced (w : ApprovalWorkflow) : Operation → Status
  | approve .. =>
      if w.request.policy.requiredApprovals ≤ (w.approvalEvents none).length + 1 then .approved
      else .pending
  | reject .. => .rejected
  | delegate .. | escalate .. => .pending
  | revoke .. => .revoked

/-- The draft of an operation carries the instant the operation was called with. -/
theorem draft_occurredAt (w : ApprovalWorkflow) (op : Operation) {draft : Draft}
    (h : op.draft w = .ok draft) : Timestamp.ofText op.occurredAt = some draft.occurredAt := by
  cases op with
  | approve eventId actorId occurredAt reason =>
    simp only [Operation.draft, draftApproval, bind_eq_ok, iso8601_eq_ok, pure_eq_ok,
      Except.ok.injEq] at h
    obtain ⟨t, ht, -, -, -, -, -, -, -, -, -, -, rfl⟩ := h
    exact ht
  | reject eventId actorId occurredAt reason =>
    simp only [Operation.draft, draftRejection, bind_eq_ok, iso8601_eq_ok, pure_eq_ok,
      Except.ok.injEq] at h
    obtain ⟨t, ht, -, -, -, -, -, -, rfl⟩ := h
    exact ht
  | delegate eventId delegatorId delegateId delegatedRole occurredAt validUntil reason =>
    simp only [Operation.draft, draftDelegation, bind_eq_ok, iso8601_eq_ok, pure_eq_ok,
      Except.ok.injEq] at h
    obtain ⟨t, ht, -, -, -, -, -, -, -, -, -, -, -, -, -, -, -, -, -, -, -, -, -, -, -, -, rfl⟩ := h
    exact ht
  | escalate eventId actorId occurredAt reason =>
    simp only [Operation.draft, draftEscalation, bind_eq_ok, iso8601_eq_ok, pure_eq_ok,
      Except.ok.injEq] at h
    obtain ⟨t, ht, -, -, -, -, -, -, rfl⟩ := h
    exact ht
  | revoke eventId actorId occurredAt reason =>
    simp only [Operation.draft, draftRevocation, bind_eq_ok, iso8601_eq_ok] at h
    obtain ⟨t, ht, -, -, p, -, h⟩ := h
    split at h
    · exact absurd h (by simp)
    · obtain rfl := Except.ok.inj h
      exact ht

/-- **What the guards of an operation let through, the replay lets through.** -/
theorem draft_lawful (w : ApprovalWorkflow) (op : Operation) {draft : Draft}
    (h : op.draft w = .ok draft) (hlast : ∀ p ∈ w.events.getLast?, p.time ≤ draft.occurredAt.time) :
    draft.eventType = op.eventType ∧ historyState w.request w.events = op.expects ∧
      Lawful w draft := by
  cases op with
  | approve eventId actorId occurredAt reason => exact w.draftApproval_spec h hlast
  | reject eventId actorId occurredAt reason => exact w.draftRejection_spec h hlast
  | delegate eventId delegatorId delegateId delegatedRole occurredAt validUntil reason =>
    exact w.draftDelegation_spec h hlast
  | escalate eventId actorId occurredAt reason => exact w.draftEscalation_spec h hlast
  | revoke eventId actorId occurredAt reason => exact w.draftRevocation_spec h hlast

/-- The status behind the event of an operation is the announced one. -/
theorem statusAt_announced {w w' : ApprovalWorkflow} {op : Operation} {draft : Draft}
    {e : ApprovalEvent} (hrequest : w'.request = w.request) (hevents : w'.events = w.events ++ [e])
    (hmatches : draft.Matches e) (htype : draft.eventType = op.eventType)
    (hstate : historyState w.request w.events = op.expects) (hlawful : Lawful w draft) :
    w'.statusAt draft.occurredAt = op.announced w := by
  have hseen : upTo ApprovalEvent.time draft.occurredAt.time w'.events = w.events ++ [e] := by
    rw [← hevents]
    apply w'.upTo_of_last
    intro p hp
    rw [hevents, List.getLast?_append_of_ne_nil _ (List.cons_ne_nil e [])] at hp
    have hpe : e = p := Option.some.inj hp
    rw [← hpe, ApprovalEvent.time, hmatches.occurredAt]
  have hopen : ¬ w.request.expiresAt.time ≤ draft.occurredAt.time := not_le.mpr hlawful.opens
  have hetype : e.eventType = op.eventType := hmatches.eventType.trans htype
  rw [statusAt_eq, hseen, hrequest]
  cases op with
  | approve eventId actorId occurredAt reason =>
    rw [historyState_concat_approved hstate hetype, announced, approvalEvents_none]
    split_ifs <;> simp [statusOf, hopen]
  | reject eventId actorId occurredAt reason =>
    rw [historyState_concat_rejected hstate hetype]
    rfl
  | delegate eventId delegatorId delegateId delegatedRole occurredAt validUntil reason =>
    have hneutral := historyState_concat_of_neutral (r := w.request) (l := w.events) (e := e)
      (by simp [hetype, eventType]) (by simp [hetype, eventType]) (by simp [hetype, eventType])
    rw [hneutral, hstate]
    simp [statusOf, expects, announced, hopen]
  | escalate eventId actorId occurredAt reason =>
    have hneutral := historyState_concat_of_neutral (r := w.request) (l := w.events) (e := e)
      (by simp [hetype, eventType]) (by simp [hetype, eventType]) (by simp [hetype, eventType])
    rw [hneutral, hstate]
    simp [statusOf, expects, announced, hopen]
  | revoke eventId actorId occurredAt reason =>
    rw [historyState_concat_revoked hetype]
    rfl

/-- An operation whose guards pass, with a new identifier and a reason, at or after the last event:
it succeeds, appends the event of its draft, and leads to the announced status. -/
theorem run_of_draft (w : ApprovalWorkflow) (op : Operation) {draft : Draft}
    (hguards : op.draft w = .ok draft) (hid : isIdentifier op.eventId = true)
    (hfresh : op.eventId ∉ w.events.map (·.eventId)) (hreason : requiredText op.reason)
    (hlast : ∀ p ∈ w.events.getLast?, p.time ≤ draft.occurredAt.time) :
    ∃ w' e, op.run w = .ok w' ∧ w'.request = w.request ∧ w'.events = w.events ++ [e] ∧
      e.eventId = op.eventId ∧ draft.Matches e ∧ w'.statusAt draft.occurredAt = op.announced w := by
  obtain ⟨htype, hstate, hlawful⟩ := op.draft_lawful w hguards hlast
  obtain ⟨w', e, happend, hrequest, hevents, heid, hmatches⟩ := w.append_accepted hlawful.wellFormed hid
    hfresh hreason hlast hlawful.opens hlawful.turn
  have hstatus := statusAt_announced hrequest hevents hmatches htype hstate hlawful
  refine ⟨w', e, ?_, hrequest, hevents, heid, hmatches, hstatus⟩
  rw [run, hguards, ok_bind, happend]

/-- **No legal operation fails in the replay.**  When the guards of an operation pass, its event
identifier is valid and new, its reason is well formed and it is not earlier than the last event,
the constructor accepts the extended history, and the status is the one the operation announces. -/
theorem legal_operation_accepted (w : ApprovalWorkflow) (op : Operation) (draft : Draft)
    (hguards : op.draft w = .ok draft) (hid : isIdentifier op.eventId = true)
    (hfresh : op.eventId ∉ w.events.map (·.eventId)) (hreason : requiredText op.reason)
    (hlast : ∀ p ∈ w.events.getLast?, p.time ≤ draft.occurredAt.time) :
    ∃ w', op.run w = .ok w' ∧ w'.status op.occurredAt = .ok (op.announced w) := by
  obtain ⟨w', e, hrun, -, -, -, -, hstatus⟩ := op.run_of_draft w hguards hid hfresh hreason hlast
  have htime := op.draft_occurredAt w hguards
  have htext : op.occurredAt = draft.occurredAt.text := (Timestamp.text_of_ofText htime).symm
  exact ⟨w', hrun, by rw [htext, status_text, hstatus]⟩

end Operation

/-! ## A request and its approval -/

section Sample

open ApprovalWorkflow

/-- A principal with one role. -/
def samplePrincipal (principalId role : String) (hid : isIdentifier principalId = true)
    (hrole : isIdentifier role = true) : ApprovalPrincipal :=
  ⟨principalId, ⟨[role], rfl, List.nodup_singleton _,
    fun _ h => List.mem_singleton.mp h ▸ hrole, le_refl 1⟩, hid⟩

/-- A single approval by a lead. -/
def samplePolicy : ApprovalPolicy :=
  ⟨.single, 1, ⟨["lead"], rfl, List.nodup_singleton _, by decide, le_refl 1⟩, false, true, none,
    ⟨[], rfl, List.nodup_nil, by decide, Nat.zero_le _⟩, rfl, by decide⟩

/-- A request that one lead may approve. -/
def sampleRequest : ApprovalRequest where
  schemaVersion := .int
  requestId := "request-1"
  engagementId := "engagement-1"
  policyBundleFingerprint := hexOf []
  requestedAt := Timestamp.read "2030-01-01T00:00:00Z" (by decide +kernel)
  expiresAt := Timestamp.read "2030-02-01T00:00:00Z" (by decide +kernel)
  requestedBy := "tester"
  principals := [samplePrincipal "lead-1" "lead" (by decide) (by decide),
    samplePrincipal "tester" "operator" (by decide) (by decide)]
  capability := "scan"
  target := "10.0.0.1"
  impact := .low
  reason := "weekly scan"
  policy := samplePolicy
  operationId := none
  requestId_valid := by decide
  engagementId_valid := by decide
  policyBundleFingerprint_valid := isSha256Hex_hexOf _
  window := by decide +kernel
  requestedBy_valid := by decide
  operationId_valid := noIdentifier
  principals_sorted := by decide +kernel
  principals_nodup := by decide
  requestedBy_mem := by decide
  capability_valid := by decide
  target_normal := ⟨.ipv4, by decide +kernel⟩
  reason_required := by decide
  enough_eligible := by decide +kernel

/-- The request filed. -/
def sampleWorkflow : ApprovalWorkflow :=
  created sampleRequest (show isIdentifier "event-0" = true by decide)
    (show requiredText "approval requested" by decide)

/-- The approval of the lead. -/
def sampleApproval : Operation :=
  .approve "event-1" "lead-1" "2030-01-02T00:00:00Z" "covered by the engagement"

def sampleDraft : Draft :=
  ⟨.approved, Timestamp.read "2030-01-02T00:00:00Z" (by decide +kernel), "lead-1", some "lead",
    [("authority_source", "lead-1")]⟩

theorem sampleApproval_draft : sampleApproval.draft sampleWorkflow = .ok sampleDraft := by
  have hoption : (sampleApproval.draft sampleWorkflow).toOption = some sampleDraft := by
    decide +kernel
  exact eq_ok_of_toOption hoption

theorem legal_operation_accepted_sample : ∃ w', sampleApproval.run sampleWorkflow = .ok w' ∧
    w'.status "2030-01-02T00:00:00Z" = .ok .approved := by
  have hannounced : sampleApproval.announced sampleWorkflow = .approved := by decide +kernel
  have hlast : ∀ p ∈ sampleWorkflow.events.getLast?, p.time ≤ sampleDraft.occurredAt.time := by
    decide +kernel
  have haccepted := Operation.legal_operation_accepted sampleWorkflow sampleApproval sampleDraft
    sampleApproval_draft (by decide) (by decide) (by decide) hlast
  rwa [hannounced] at haccepted

end Sample

end NightRecon.WhiteEngine.ApprovalEngine
