import Mathlib.Data.Finset.Card
import NightRecon.WhiteEngine.ApprovalEngine.Replay

/-!
# What an accepted history guarantees

The constructor of a workflow replays its history; here is what a history that passed the replay is
like, whoever wrote its events.

* `historyState` — the state of a history by counting its events, as `status` does;
* `Tracks` — the replay computes the same, with the `Evidence` behind every approval; every turn
  keeps it (`tracks_step`), so it holds of every accepted history (`tracks`);
* `statusAt_eq` — the status at an instant is the state of what is seen then.
-/

namespace NightRecon.WhiteEngine.ApprovalEngine

open NightRecon.Lib
open NightRecon.Lib.Checks
open NightRecon.Lib.Datetime
open NightRecon.Lib.Chronicle
open NightRecon.WhiteEngine.Fields

/-! ## The state of a history -/

/-- The approvals of a list of events. -/
def approvals (l : List ApprovalEvent) : List ApprovalEvent :=
  l.filter fun e => e.eventType = .approved

/-- The source a decision names. -/
def ApprovalEvent.source (e : ApprovalEvent) : String := (e.detail "authority_source").getD ""

/-- The state of a history, by counting its events. -/
def historyState (r : ApprovalRequest) (l : List ApprovalEvent) : HistoryState :=
  if ∃ e ∈ l, e.eventType = .revoked then .revoked
  else if ∃ e ∈ l, e.eventType = .rejected then .rejected
  else if r.policy.requiredApprovals ≤ (approvals l).length then .approved
  else .pending

theorem approvals_append (l l' : List ApprovalEvent) :
    approvals (l ++ l') = approvals l ++ approvals l' :=
  List.filter_append ..

theorem approvals_concat_of {l : List ApprovalEvent} {e : ApprovalEvent}
    (h : e.eventType = .approved) : approvals (l ++ [e]) = approvals l ++ [e] := by
  simp [approvals, h]

theorem approvals_concat_of_ne {l : List ApprovalEvent} {e : ApprovalEvent}
    (h : e.eventType ≠ .approved) : approvals (l ++ [e]) = approvals l := by
  simp [approvals, h]

section HistoryState

variable {r : ApprovalRequest} {l : List ApprovalEvent} {e : ApprovalEvent}

/-- A history has a type of event when the one before has, or the last event is of it. -/
theorem exists_type_concat {type : EventType} :
    (∃ x ∈ l ++ [e], x.eventType = type) ↔ (∃ x ∈ l, x.eventType = type) ∨ e.eventType = type := by
  simp [or_and_right, exists_or]

theorem historyState_eq_pending :
    historyState r l = .pending ↔ (¬ ∃ x ∈ l, x.eventType = .revoked) ∧
      (¬ ∃ x ∈ l, x.eventType = .rejected) ∧
      (approvals l).length < r.policy.requiredApprovals := by
  unfold historyState
  split_ifs <;> simp_all

theorem historyState_eq_approved :
    historyState r l = .approved ↔ (¬ ∃ x ∈ l, x.eventType = .revoked) ∧
      (¬ ∃ x ∈ l, x.eventType = .rejected) ∧
      r.policy.requiredApprovals ≤ (approvals l).length := by
  unfold historyState
  split_ifs <;> simp_all

theorem historyState_nil : historyState r [] = .pending := by
  apply historyState_eq_pending.mpr
  have hpos := r.policy.requiredApprovals_pos
  refine ⟨by simp, by simp, ?_⟩
  simp only [approvals, List.filter_nil, List.length_nil]
  omega

/-- An event that decides nothing leaves the state as it was. -/
theorem historyState_concat_of_neutral (happroved : e.eventType ≠ .approved)
    (hrejected : e.eventType ≠ .rejected) (hrevoked : e.eventType ≠ .revoked) :
    historyState r (l ++ [e]) = historyState r l := by
  unfold historyState
  simp only [exists_type_concat, hrevoked, hrejected, or_false, approvals_concat_of_ne happroved]

theorem historyState_concat_revoked (h : e.eventType = .revoked) :
    historyState r (l ++ [e]) = .revoked := by
  unfold historyState
  rw [if_pos (exists_type_concat.mpr (Or.inr h))]

theorem historyState_concat_rejected (hl : historyState r l = .pending)
    (h : e.eventType = .rejected) : historyState r (l ++ [e]) = .rejected := by
  obtain ⟨hrevoked, -, -⟩ := historyState_eq_pending.mp hl
  have hnot : ¬ ∃ x ∈ l ++ [e], x.eventType = .revoked := by
    rw [exists_type_concat, h]
    simpa using hrevoked
  unfold historyState
  rw [if_neg hnot, if_pos (exists_type_concat.mpr (Or.inr h))]

theorem historyState_concat_approved (hl : historyState r l = .pending)
    (h : e.eventType = .approved) :
    historyState r (l ++ [e]) =
      if r.policy.requiredApprovals ≤ (approvals l).length + 1 then .approved else .pending := by
  obtain ⟨hrevoked, hrejected, -⟩ := historyState_eq_pending.mp hl
  unfold historyState
  rw [if_neg, if_neg, approvals_concat_of h, List.length_append, List.length_singleton]
  · rw [exists_type_concat, h]
    simpa using hrejected
  · rw [exists_type_concat, h]
    simpa using hrevoked

end HistoryState

/-! ## What the replay knows of a history -/

/-- What an approval rests on: the source it names is a principal that holds an eligible role
itself, and its actor is the source or held a delegation of the source, recorded before and in
force when it decided. -/
structure Evidence (r : ApprovalRequest) (before : List ApprovalEvent) (e : ApprovalEvent)
    (source : String) : Prop where
  named : e.detail "authority_source" = some source
  holds : ∃ p ∈ r.principals, p.principalId = source ∧
    ∃ role ∈ p.roles.values, role ∈ r.policy.eligibleRoles.values
  actor : e.actorId = source ∨ ∃ d ∈ before, d.eventType = .delegated ∧ d.actorId = source ∧
    d.detail "delegate_id" = some e.actorId ∧
    (∃ role ∈ r.policy.eligibleRoles.values, d.detail "delegated_role" = some role) ∧
    d.time ≤ e.time ∧ ∃ u ∈ d.validUntil, e.time < u
  separate : r.policy.requesterMayApprove = false →
    e.actorId ≠ r.requestedBy ∧ source ≠ r.requestedBy

/-- The state of the replay behind a list of events, and what is behind the events. -/
structure Tracks (r : ApprovalRequest) (done : List ApprovalEvent) (s : Replay) : Prop where
  prior : s.priorEvents = done
  state : s.state = historyState r done
  escalated : s.escalated = true ↔ ∃ e ∈ done, e.eventType = .escalated
  actors : ∀ i, i ∈ s.approvingActors ↔ i ∈ (approvals done).map (·.actorId)
  sources : s.authoritySources = ((approvals done).map (·.source)).toFinset
  actors_nodup : ((approvals done).map (·.actorId)).Nodup
  sources_nodup : ((approvals done).map (·.source)).Nodup
  delegations : ∀ d ∈ done, d.eventType = .delegated →
    ∃ delegateId role validUntil u, Delegates r d delegateId role validUntil u
  evidence : ∀ before e after, done = before ++ e :: after → e.eventType = .approved →
    Evidence r before e e.source

theorem holds_of_HoldsRole {r : ApprovalRequest} {actorId role : String}
    (h : HoldsRole r actorId role) : ∃ p ∈ r.principals, p.principalId = actorId ∧
      ∃ role ∈ p.roles.values, role ∈ r.policy.eligibleRoles.values := by
  obtain ⟨p, hp, hrole, heligible⟩ := h
  obtain ⟨hmem, hid⟩ := ApprovalRequest.principal_eq_ok hp
  exact ⟨p, hmem, hid, role, hrole, heligible⟩

namespace Tracks

variable {r : ApprovalRequest} {done : List ApprovalEvent} {s s' : Replay} {e : ApprovalEvent}

theorem ends (h : Tracks r done s) : Ends s.priorEvents := by
  intro d hd htype
  rw [h.prior] at hd
  obtain ⟨delegateId, role, validUntil, u, hdel⟩ := h.delegations d hd htype
  exact ⟨u, hdel.validUntil_eq⟩

/-- The sources counted are as many as the approvals. -/
theorem sources_card (h : Tracks r done s) :
    s.authoritySources.card = (approvals done).length := by
  rw [h.sources, List.toFinset_card_of_nodup h.sources_nodup, List.length_map]

/-- **A decision the replay accepts has its evidence.** -/
theorem evidence_of_decides (h : Tracks r done s) {source : String}
    (hdecides : Decides r s e source) : Evidence r done e source := by
  obtain ⟨role, hrole, ⟨hholds, rfl⟩ | ⟨-, d, hfind, rfl⟩⟩ := hdecides.authority
  · refine ⟨hdecides.named, holds_of_HoldsRole hholds, Or.inl rfl, fun hreq => ?_⟩
    exact ⟨hdecides.separate hreq, hdecides.separate hreq⟩
  · -- the source is the delegator, which held the role itself when it delegated
    have hd : d ∈ done := by
      have hmem := List.mem_of_find?_eq_some hfind
      rwa [List.mem_reverse, h.prior] at hmem
    have hfound := List.find?_some hfind
    simp only [gives, Bool.decide_and, Bool.and_eq_true, decide_eq_true_eq] at hfound
    obtain ⟨⟨hdelegate, hdrole⟩, htype, hbefore, hforce⟩ := hfound
    obtain ⟨delegateId, role', validUntil, u, hdel⟩ := h.delegations d hd htype
    have hrole' : role' = role := Option.some.inj (hdel.delegatedRole.symm.trans hdrole)
    have heligible : role ∈ r.policy.eligibleRoles.values :=
      hrole' ▸ hdel.holds.choose_spec.2.2
    refine ⟨hdecides.named, holds_of_HoldsRole hdel.holds, Or.inr ⟨d, hd, htype, rfl, hdelegate,
      ⟨role, heligible, hdrole⟩, hbefore, hforce⟩, fun hreq => ?_⟩
    exact ⟨hdecides.separate hreq, (hdel.separate hreq).1⟩

theorem source_of_decides {source : String} (hdecides : Decides r s e source) :
    e.source = source := by
  simp [ApprovalEvent.source, hdecides.named]

/-- The evidence behind a history with one more event. -/
theorem evidence_concat (h : Tracks r done s)
    (hnew : e.eventType = .approved → Evidence r done e e.source) :
    ∀ before x after, done ++ [e] = before ++ x :: after → x.eventType = .approved →
      Evidence r before x x.source := by
  intro before x after hsplit htype
  rcases List.eq_nil_or_concat after with rfl | ⟨after', y, rfl⟩
  · obtain ⟨rfl, hx⟩ := List.append_inj' hsplit rfl
    obtain rfl := (List.cons.inj hx).1
    exact hnew htype
  · rw [List.concat_eq_append, ← List.cons_append, ← List.append_assoc] at hsplit
    obtain ⟨hdone, -⟩ := List.append_inj' hsplit rfl
    exact h.evidence before x after' hdone htype

theorem delegations_concat (h : Tracks r done s)
    (hnew : e.eventType = .delegated →
      ∃ delegateId role validUntil u, Delegates r e delegateId role validUntil u) :
    ∀ d ∈ done ++ [e], d.eventType = .delegated →
      ∃ delegateId role validUntil u, Delegates r d delegateId role validUntil u := by
  intro d hd htype
  rcases List.mem_append.mp hd with hd | hd
  · exact h.delegations d hd htype
  · rw [List.mem_singleton] at hd
    subst hd
    exact hnew htype

theorem escalated_concat_of_ne (h : Tracks r done s) (hne : e.eventType ≠ .escalated) :
    s.escalated = true ↔ ∃ x ∈ done ++ [e], x.eventType = .escalated := by
  rw [exists_type_concat, h.escalated]
  simp [hne]

/-- An event that approves nothing: the approvals stay, the rest is given. -/
theorem concat_of_ne (h : Tracks r done s) (htype : e.eventType ≠ .approved)
    {state : HistoryState} {escalated : Bool} (hstate : state = historyState r (done ++ [e]))
    (hescalated : escalated = true ↔ ∃ x ∈ done ++ [e], x.eventType = .escalated)
    (hdelegates : e.eventType = .delegated →
      ∃ delegateId role validUntil u, Delegates r e delegateId role validUntil u) :
    Tracks r (done ++ [e]) { s with
      state := state, escalated := escalated, priorEvents := s.priorEvents ++ [e] } where
  prior := by rw [h.prior]
  state := hstate
  escalated := hescalated
  actors := by
    rw [approvals_concat_of_ne htype]
    exact h.actors
  sources := by
    rw [approvals_concat_of_ne htype]
    exact h.sources
  actors_nodup := by
    rw [approvals_concat_of_ne htype]
    exact h.actors_nodup
  sources_nodup := by
    rw [approvals_concat_of_ne htype]
    exact h.sources_nodup
  delegations := h.delegations_concat hdelegates
  evidence := h.evidence_concat fun happroved => absurd happroved htype

/-- An approval by a new actor in the name of a new source. -/
theorem concat_approved (h : Tracks r done s) {source : String} (htype : e.eventType = .approved)
    (hdecides : Decides r s e source) (hactor : e.actorId ∉ s.approvingActors)
    (hnew : source ∉ s.authoritySources) :
    Tracks r (done ++ [e]) {
      state :=
        if r.policy.requiredApprovals ≤ (insert source s.authoritySources).card then .approved
        else .pending
      approvingActors := insert e.actorId s.approvingActors
      authoritySources := insert source s.authoritySources
      escalated := s.escalated
      priorEvents := s.priorEvents ++ [e] } := by
  have hpending : historyState r done = .pending := h.state ▸ hdecides.pending
  have happrovals := approvals_concat_of (l := done) htype
  have hsource := source_of_decides hdecides
  have hcard : (insert source s.authoritySources).card = (approvals done).length + 1 := by
    rw [Finset.card_insert_of_notMem hnew, h.sources_card]
  have hactors : (approvals (done ++ [e])).map (·.actorId) =
      (approvals done).map (·.actorId) ++ [e.actorId] := by
    rw [happrovals, List.map_append, List.map_singleton]
  have hsources : (approvals (done ++ [e])).map (·.source) =
      (approvals done).map (·.source) ++ [source] := by
    rw [happrovals, List.map_append, List.map_singleton, hsource]
  refine {
    prior := by rw [h.prior]
    state := by rw [historyState_concat_approved hpending htype, hcard]
    escalated := h.escalated_concat_of_ne (by simp [htype])
    actors := ?_
    sources := ?_
    actors_nodup := ?_
    sources_nodup := ?_
    delegations := h.delegations_concat fun hdel => by simp [htype] at hdel
    evidence := h.evidence_concat fun _ => hsource.symm ▸ h.evidence_of_decides hdecides }
  · intro i
    rw [hactors, Finset.mem_insert, h.actors, List.mem_append, List.mem_singleton, or_comm]
  · ext i
    rw [hsources, Finset.mem_insert, h.sources, List.mem_toFinset, List.mem_toFinset,
      List.mem_append, List.mem_singleton, or_comm]
  · rw [hactors, ← List.concat_eq_append]
    exact h.actors_nodup.concat fun hmem => hactor ((h.actors _).mpr hmem)
  · rw [hsources, ← List.concat_eq_append]
    rw [h.sources, List.mem_toFinset] at hnew
    exact h.sources_nodup.concat hnew

end Tracks

/-- **One turn keeps track of the history.** -/
theorem tracks_step {r : ApprovalRequest} {done : List ApprovalEvent} {s s' : Replay}
    {e : ApprovalEvent} (h : Tracks r done s) (hturn : Turn r s e s') :
    Tracks r (done ++ [e]) s' := by
  cases hturn with
  | approve source type decides newActor newSource =>
    exact h.concat_approved type decides newActor newSource
  | reject source type decides =>
    have hpending : historyState r done = .pending := h.state ▸ decides.pending
    exact h.concat_of_ne (by simp [type]) (historyState_concat_rejected hpending type).symm
      (h.escalated_concat_of_ne (by simp [type])) (fun hdel => by simp [type] at hdel)
  | delegate delegateId role validUntil u type pending delegates =>
    have hstate : s.state = historyState r (done ++ [e]) := by
      rw [historyState_concat_of_neutral (by simp [type]) (by simp [type]) (by simp [type])]
      exact h.state
    exact h.concat_of_ne (by simp [type]) hstate (h.escalated_concat_of_ne (by simp [type]))
      (fun _ => ⟨delegateId, role, validUntil, u, delegates⟩)
  | escalate type escalates =>
    have hstate : s.state = historyState r (done ++ [e]) := by
      rw [historyState_concat_of_neutral (by simp [type]) (by simp [type]) (by simp [type])]
      exact h.state
    exact h.concat_of_ne (by simp [type]) hstate
      ⟨fun _ => exists_type_concat.mpr (Or.inr type), fun _ => rfl⟩
      (fun hdel => by simp [type] at hdel)
  | revoke role type approved actorRole holds =>
    exact h.concat_of_ne (by simp [type]) (historyState_concat_revoked type).symm
      (h.escalated_concat_of_ne (by simp [type])) (fun hdel => by simp [type] at hdel)

/-- The history of a request that was only made. -/
theorem tracks_start {r : ApprovalRequest} {first : ApprovalEvent}
    (htype : first.eventType = .requested) : Tracks r [first] (Replay.start first) := by
  have happrovals : approvals [first] = [] := by simp [approvals, htype]
  have hstate : historyState r [first] = .pending := by
    rw [← List.nil_append [first], historyState_concat_of_neutral (by simp [htype])
      (by simp [htype]) (by simp [htype]), historyState_nil]
  exact {
    prior := rfl
    state := hstate.symm
    escalated := by simp [Replay.start, htype]
    actors := by simp [Replay.start, happrovals]
    sources := by simp [Replay.start, happrovals]
    actors_nodup := by simp [happrovals]
    sources_nodup := by simp [happrovals]
    delegations := by simp [htype]
    evidence := by
      intro before e after hsplit happroved
      have hmem : e ∈ [first] := hsplit ▸ List.mem_append_right _ List.mem_cons_self
      rw [List.mem_singleton] at hmem
      subst hmem
      simp [htype] at happroved }

/-- **The replay keeps track of the history it has walked.** -/
theorem tracks_of_foldlM {r : ApprovalRequest} {first : ApprovalEvent} {rest : List ApprovalEvent}
    {s : Replay} (htype : first.eventType = .requested)
    (h : rest.foldlM (replayStep r) (Replay.start first) = .ok s) :
    Tracks r (first :: rest) s := by
  have hstep : ∀ (done : List ApprovalEvent) e s s', Tracks r done s → replayStep r s e = .ok s' →
      Tracks r (done ++ [e]) s' := by
    intro done e s s' hs hok
    exact tracks_step hs ((replayStep_eq_ok hs.ends).mp hok).2
  exact foldlM_induct hstep rest [first] _ s (tracks_start htype) h

theorem checkOrigin_eq_ok {r : ApprovalRequest} {first : ApprovalEvent} :
    checkOrigin r first = .ok () ↔ first.eventType = .requested ∧
      first.detail "request_fingerprint" = some r.fingerprint ∧
      first.occurredAt = r.requestedAt ∧ first.actorId = r.requestedBy := by
  have htext : first.occurredAt.text = r.requestedAt.text ↔ first.occurredAt = r.requestedAt :=
    ⟨Timestamp.ext_text, fun h => h ▸ rfl⟩
  unfold checkOrigin
  rw [raiseIf_bind_eq_ok, raiseIf_bind_eq_ok, raiseIf_eq_ok, ← htext]
  simp only [ne_eq, not_not, not_or]

theorem validate_eq_ok {r : ApprovalRequest} {first : ApprovalEvent} {rest : List ApprovalEvent} :
    validate r (first :: rest) = .ok () ↔
      (∃ c, (first :: rest).foldlM (checkLink r) Chain.start = .ok c) ∧
      checkOrigin r first = .ok () ∧
      ∃ s, rest.foldlM (replayStep r) (Replay.start first) = .ok s := by
  unfold validate
  constructor
  · intro h
    simp only [bind_eq_ok, pure_eq_ok] at h
    obtain ⟨c, hc, u, horigin, s, hs, -⟩ := h
    exact ⟨⟨c, hc⟩, horigin, s, hs⟩
  · rintro ⟨⟨c, hc⟩, horigin, s, hs⟩
    simp only [hc, horigin, hs, ok_bind, pure_eq_ok]

namespace ApprovalWorkflow

/-- What the constructor of a workflow has seen. -/
theorem history (w : ApprovalWorkflow) : ∃ first rest c s, w.events = first :: rest ∧
    w.events.foldlM (checkLink w.request) Chain.start = .ok c ∧
    checkOrigin w.request first = .ok () ∧
    rest.foldlM (replayStep w.request) (Replay.start first) = .ok s := by
  obtain ⟨r, events, haccepted⟩ := w
  cases events with
  | nil => exact absurd haccepted Bool.false_ne_true
  | cons first rest =>
    obtain ⟨u, hok⟩ : ∃ u, validate r (first :: rest) = .ok u := by
      cases hv : validate r (first :: rest) with
      | ok u => exact ⟨u, rfl⟩
      | error e =>
        rw [hv] at haccepted
        exact absurd haccepted Bool.false_ne_true
    obtain ⟨⟨c, hc⟩, horigin, s, hs⟩ := validate_eq_ok.mp hok
    exact ⟨first, rest, c, s, rfl, hc, horigin, hs⟩

theorem linked (w : ApprovalWorkflow) :
    ∃ c, w.events.foldlM (checkLink w.request) Chain.start = .ok c ∧
      Linked w.request w.events c := by
  obtain ⟨first, rest, c, s, -, hc, -, -⟩ := w.history
  exact ⟨c, hc, linked_of_foldlM hc⟩

theorem chronological (w : ApprovalWorkflow) : Chronological ApprovalEvent.time w.events := by
  obtain ⟨c, -, hlinked⟩ := w.linked
  exact hlinked.chronological

/-- **The replay of an accepted history knows what is behind it.** -/
theorem tracks (w : ApprovalWorkflow) : ∃ s, Tracks w.request w.events s := by
  obtain ⟨first, rest, c, s, hevents, -, horigin, hs⟩ := w.history
  rw [hevents]
  exact ⟨s, tracks_of_foldlM (checkOrigin_eq_ok.mp horigin).1 hs⟩

/-! ## The status and the history -/

/-- The approvals at an instant are the approvals of what is seen then. -/
theorem approvalEvents_eq (w : ApprovalWorkflow) (t : Timestamp) :
    w.approvalEvents (some t) = approvals (upTo ApprovalEvent.time t.time w.events) := by
  simp [approvalEvents, approvals, upTo, within, List.filter_filter]

theorem revocationEvent_isSome (w : ApprovalWorkflow) (t : Timestamp) :
    (w.revocationEvent (some t)).isSome = true ↔
      ∃ e ∈ upTo ApprovalEvent.time t.time w.events, e.eventType = .revoked := by
  simp only [revocationEvent, List.find?_isSome, within, mem_upTo, Bool.decide_and,
    Bool.and_eq_true, decide_eq_true_eq, and_assoc, and_comm (a := _ = EventType.revoked)]

theorem rejectionEvent_isSome (w : ApprovalWorkflow) (t : Timestamp) :
    (w.rejectionEvent (some t)).isSome = true ↔
      ∃ e ∈ upTo ApprovalEvent.time t.time w.events, e.eventType = .rejected := by
  simp only [rejectionEvent, List.find?_isSome, within, mem_upTo, Bool.decide_and,
    Bool.and_eq_true, decide_eq_true_eq, and_assoc, and_comm (a := _ = EventType.rejected)]

/-- The status of a state, before and after the expiry. -/
def statusOf (state : HistoryState) (expired : Prop) [Decidable expired] : Status :=
  match state with
  | .revoked => .revoked
  | .rejected => .rejected
  | .approved => if expired then .expired else .approved
  | .pending => if expired then .expired else .pending

/-- **The status is the state of what is seen, before and after the expiry.** -/
theorem statusAt_eq (w : ApprovalWorkflow) (t : Timestamp) :
    w.statusAt t =
      statusOf (historyState w.request (upTo ApprovalEvent.time t.time w.events))
        (w.request.expiresAt.time ≤ t.time) := by
  unfold statusAt historyState
  simp only [revocationEvent_isSome, rejectionEvent_isSome, approvalEvents_eq]
  by_cases hrevoked : ∃ e ∈ upTo ApprovalEvent.time t.time w.events, e.eventType = .revoked
  · simp only [hrevoked, if_true, statusOf]
  by_cases hrejected : ∃ e ∈ upTo ApprovalEvent.time t.time w.events, e.eventType = .rejected
  · simp only [hrevoked, hrejected, if_true, if_false, statusOf]
  simp only [hrevoked, hrejected, if_false]
  split_ifs <;> simp_all [statusOf]

@[simp] theorem status_text (w : ApprovalWorkflow) (t : Timestamp) :
    w.status t.text = .ok (w.statusAt t) := by
  simp [status]

theorem statusAt_eq_approved {w : ApprovalWorkflow} {t : Timestamp} :
    w.statusAt t = .approved ↔
      historyState w.request (upTo ApprovalEvent.time t.time w.events) = .approved ∧
      t.time < w.request.expiresAt.time := by
  rw [statusAt_eq]
  generalize historyState w.request _ = state
  by_cases hexpired : w.request.expiresAt.time ≤ t.time
  · cases state <;> simp [statusOf, hexpired]
  · cases state <;> simp [statusOf, hexpired, not_le.mp hexpired]

theorem statusAt_eq_pending {w : ApprovalWorkflow} {t : Timestamp} :
    w.statusAt t = .pending ↔
      historyState w.request (upTo ApprovalEvent.time t.time w.events) = .pending ∧
      t.time < w.request.expiresAt.time := by
  rw [statusAt_eq]
  generalize historyState w.request _ = state
  by_cases hexpired : w.request.expiresAt.time ≤ t.time
  · cases state <;> simp [statusOf, hexpired]
  · cases state <;> simp [statusOf, hexpired, not_le.mp hexpired]

theorem statusAt_eq_rejected {w : ApprovalWorkflow} {t : Timestamp} :
    w.statusAt t = .rejected ↔
      historyState w.request (upTo ApprovalEvent.time t.time w.events) = .rejected := by
  rw [statusAt_eq]
  generalize historyState w.request _ = state
  by_cases hexpired : w.request.expiresAt.time ≤ t.time <;> cases state <;>
    simp [statusOf, hexpired]

theorem statusAt_eq_revoked {w : ApprovalWorkflow} {t : Timestamp} :
    w.statusAt t = .revoked ↔
      historyState w.request (upTo ApprovalEvent.time t.time w.events) = .revoked := by
  rw [statusAt_eq]
  generalize historyState w.request _ = state
  by_cases hexpired : w.request.expiresAt.time ≤ t.time <;> cases state <;>
    simp [statusOf, hexpired]

/-- An expired status comes from the expiry, whatever the approvals. -/
theorem expired_of_statusAt {w : ApprovalWorkflow} {t : Timestamp} (h : w.statusAt t = .expired) :
    w.request.expiresAt.time ≤ t.time := by
  rw [statusAt_eq] at h
  by_contra hopen
  revert h
  generalize historyState w.request _ = state
  cases state <;> simp [statusOf, hopen]

end ApprovalWorkflow

end NightRecon.WhiteEngine.ApprovalEngine
