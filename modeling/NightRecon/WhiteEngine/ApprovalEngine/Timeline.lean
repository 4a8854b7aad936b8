import Mathlib.Logic.Relation
import NightRecon.WhiteEngine.ApprovalEngine.Operations

/-!
# The status of a workflow over time

* `status_approved_evidence` — what an approved status rests on;
* `turn_at` — every event of an accepted history behind the first is a turn of the replay; from it,
  what can follow a state (`rest_of_state`) and how a revocation comes about (`revocation_shape`);
* `Timeline` — the past stays, the status moves along given steps, terminal states are not left,
  and the grant is the same as long as the workflow is approved; `timeline` proves it for the steps
  the code makes, `timeline_listed_fails` refutes it without the step from pending to revoked.
-/

namespace NightRecon.WhiteEngine.ApprovalEngine

open NightRecon.Lib
open NightRecon.Lib.Checks
open NightRecon.Lib.Text
open NightRecon.Lib.Datetime
open NightRecon.Lib.Sha256
open NightRecon.Lib.Chronicle
open NightRecon.SharedCore.Authorization
open NightRecon.SharedCore.EngagementPolicy (Impact)
open NightRecon.WhiteEngine.Fields

namespace ApprovalWorkflow

/-! ## What an approved status rests on -/

/-- **What an approved status rests on.**  In any accepted history, at any instant at which it is
approved: enough approvals of different actors in the name of different sources, each with its
evidence; the request has not expired, and nothing before has rejected or revoked it. -/
theorem status_approved_evidence (w : ApprovalWorkflow) (t : Timestamp)
    (h : w.status t.text = .ok .approved) :
    w.request.policy.requiredApprovals ≤ (w.approvalEvents (some t)).length ∧
    ((w.approvalEvents (some t)).map (·.actorId)).Nodup ∧
    ((w.approvalEvents (some t)).map (·.detail "authority_source")).Nodup ∧
    (∀ before e after, w.events = before ++ e :: after → e ∈ w.approvalEvents (some t) →
      ∃ source, Evidence w.request before e source) ∧
    t.time < w.request.expiresAt.time ∧
    ∀ e ∈ w.events, e.time ≤ t.time → e.eventType ≠ .rejected ∧ e.eventType ≠ .revoked := by
  rw [status_text, Except.ok.injEq, statusAt_eq_approved, historyState_eq_approved] at h
  obtain ⟨⟨hrevoked, hrejected, hcount⟩, hopen⟩ := h
  obtain ⟨s, hs⟩ := w.tracks
  have hsub : (w.approvalEvents (some t)).Sublist (approvals w.events) := by
    rw [approvalEvents_eq]
    exact List.filter_sublist.filter _
  have hevidence : ∀ before e after, w.events = before ++ e :: after →
      e ∈ w.approvalEvents (some t) → Evidence w.request before e e.source := by
    intro before e after hsplit he
    have htype : e.eventType = .approved := of_decide_eq_true (List.mem_filter.mp (hsub.subset he)).2
    exact hs.evidence before e after hsplit htype
  refine ⟨approvalEvents_eq w t ▸ hcount, hs.actors_nodup.sublist (hsub.map _), ?_,
    fun before e after hsplit he => ⟨e.source, hevidence before e after hsplit he⟩, hopen, ?_⟩
  · -- every approval names its source, so the details differ where the sources do
    have hnamed : (w.approvalEvents (some t)).map (·.detail "authority_source") =
        ((w.approvalEvents (some t)).map (·.source)).map some := by
      rw [List.map_map]
      apply List.map_congr_left
      intro e he
      have hmem : e ∈ w.events := (List.mem_filter.mp (hsub.subset he)).1
      obtain ⟨before, after, hsplit⟩ := List.append_of_mem hmem
      exact (hevidence before e after hsplit he).named
    rw [hnamed]
    exact (hs.sources_nodup.sublist (hsub.map _)).map (Option.some_injective _)
  · intro e he hle
    have hseen : e ∈ upTo ApprovalEvent.time t.time w.events := mem_upTo.mpr ⟨he, hle⟩
    exact ⟨fun htype => hrejected ⟨e, hseen, htype⟩, fun htype => hrevoked ⟨e, hseen, htype⟩⟩

theorem status_approved_evidence_sample : ∃ (w : ApprovalWorkflow) (t : Timestamp),
    w.status t.text = .ok .approved ∧ 1 ≤ (w.approvalEvents (some t)).length ∧
    t.time < w.request.expiresAt.time := by
  have hlast : ∀ p ∈ sampleWorkflow.events.getLast?, p.time ≤ sampleDraft.occurredAt.time := by
    decide +kernel
  have hannounced : sampleApproval.announced sampleWorkflow = .approved := by decide +kernel
  obtain ⟨w, e, -, hrequest, -, -, -, hstatus⟩ := sampleApproval.run_of_draft sampleWorkflow
    sampleApproval_draft (by decide) (by decide) (by decide) hlast
  have happroved : w.status sampleDraft.occurredAt.text = .ok .approved := by
    rw [status_text, hstatus, hannounced]
  obtain ⟨hcount, -, -, -, hopen, -⟩ := w.status_approved_evidence sampleDraft.occurredAt happroved
  rw [hrequest] at hcount
  exact ⟨w, sampleDraft.occurredAt, happroved, hcount, hopen⟩

/-! ## What can follow a state -/

/-- **Every event behind the first is a turn of the replay**, before the expiry. -/
theorem turn_at (w : ApprovalWorkflow) {done after : List ApprovalEvent} {e : ApprovalEvent}
    (hne : done ≠ []) (hsplit : w.events = done ++ e :: after) :
    ∃ s s', Tracks w.request done s ∧ Turn w.request s e s' ∧
      e.time < w.request.expiresAt.time := by
  obtain ⟨first, rest, c, s, hevents, -, horigin, hs⟩ := w.history
  obtain ⟨x, before, rfl⟩ := List.exists_cons_of_ne_nil hne
  rw [hevents, List.cons_append, List.cons.injEq] at hsplit
  obtain ⟨rfl, rfl⟩ := hsplit
  rw [List.foldlM_append, bind_eq_ok] at hs
  obtain ⟨s₁, hbefore, hafter⟩ := hs
  have htracks := tracks_of_foldlM (checkOrigin_eq_ok.mp horigin).1 hbefore
  rw [List.foldlM_cons, bind_eq_ok] at hafter
  obtain ⟨s₂, hstep, -⟩ := hafter
  obtain ⟨hopen, hturn⟩ := (replayStep_eq_ok htracks.ends).mp hstep
  exact ⟨s₁, s₂, htracks, hturn, hopen⟩

/-- No event is made at or after the expiry. -/
theorem time_lt_expiresAt (w : ApprovalWorkflow) {e : ApprovalEvent} (he : e ∈ w.events) :
    e.time < w.request.expiresAt.time := by
  obtain ⟨first, rest, c, s, hevents, -, horigin, -⟩ := w.history
  obtain ⟨done, after, hsplit⟩ := List.append_of_mem he
  cases done with
  | nil =>
    rw [hsplit, List.nil_append, List.cons.injEq] at hevents
    obtain ⟨rfl, -⟩ := hevents
    rw [ApprovalEvent.time, (checkOrigin_eq_ok.mp horigin).2.2.1]
    exact w.request.window
  | cons x done =>
    obtain ⟨-, -, -, -, hopen⟩ := w.turn_at (List.cons_ne_nil x done) hsplit
    exact hopen

/-- The first event decides nothing. -/
theorem historyState_singleton (w : ApprovalWorkflow) {first : ApprovalEvent}
    {rest : List ApprovalEvent} (hevents : w.events = first :: rest) :
    historyState w.request [first] = .pending := by
  obtain ⟨first', rest', c, s, hevents', -, horigin, -⟩ := w.history
  rw [hevents', List.cons.injEq] at hevents
  obtain ⟨rfl, rfl⟩ := hevents
  exact (tracks_start (r := w.request) (checkOrigin_eq_ok.mp horigin).1).state.symm

/-- **What follows a state.**  Behind a beginning of the history that is no longer pending comes
nothing, or a revocation when it is approved. -/
theorem rest_of_state (w : ApprovalWorkflow) {done after : List ApprovalEvent}
    {e : ApprovalEvent} (hsplit : w.events = done ++ e :: after) :
    historyState w.request done = .pending ∨
      (historyState w.request done = .approved ∧ e.eventType = .revoked) := by
  cases done with
  | nil => exact Or.inl historyState_nil
  | cons x done =>
    obtain ⟨s, s', htracks, hturn, -⟩ := w.turn_at (List.cons_ne_nil x done) hsplit
    rw [← htracks.state]
    exact hturn.open

/-- **A revocation comes right behind the approval that decided**, and nothing comes behind it. -/
theorem revocation_shape (w : ApprovalWorkflow) {r : ApprovalEvent} (hr : r ∈ w.events)
    (htype : r.eventType = .revoked) :
    ∃ before d, w.events = before ++ [d, r] ∧ d.eventType = .approved ∧
      historyState w.request before = .pending ∧
      historyState w.request (before ++ [d]) = .approved := by
  obtain ⟨done, after, hsplit⟩ := List.append_of_mem hr
  -- nothing follows a revoked history
  obtain rfl : after = [] := by
    cases after with
    | nil => rfl
    | cons e after =>
      have hsplit' : w.events = (done ++ [r]) ++ e :: after := by rw [hsplit]; simp
      have hrevoked := historyState_concat_revoked (r := w.request) (l := done) htype
      rcases w.rest_of_state hsplit' with hstate | ⟨hstate, -⟩
      · rw [hrevoked] at hstate
        exact absurd hstate (by decide)
      · rw [hrevoked] at hstate
        exact absurd hstate (by decide)
  have hdone : done ≠ [] := by
    rintro rfl
    obtain ⟨first, rest, -, -, hevents, -, horigin, -⟩ := w.history
    rw [hsplit, List.nil_append, List.cons.injEq] at hevents
    obtain ⟨rfl, -⟩ := hevents
    rw [(checkOrigin_eq_ok.mp horigin).1] at htype
    exact absurd htype (by decide)
  have happroved : historyState w.request done = .approved := by
    obtain ⟨s, s', htracks, hturn, -⟩ := w.turn_at hdone hsplit
    rw [← htracks.state]
    cases hturn with
    | approve source type decides newActor newSource => simp [type] at htype
    | reject source type decides => simp [type] at htype
    | delegate delegateId role validUntil u type pending delegates => simp [type] at htype
    | escalate type escalates => simp [type] at htype
    | revoke role type approved actorRole holds => exact approved
  rcases List.eq_nil_or_concat done with rfl | ⟨before, d, rfl⟩
  · exact absurd rfl hdone
  rw [List.concat_eq_append] at *
  have hsplit' : w.events = before ++ d :: [r] := by rw [hsplit]; simp
  have hpending : historyState w.request before = .pending := by
    rcases w.rest_of_state hsplit' with hstate | ⟨-, hrevoked⟩
    · exact hstate
    · rw [historyState_concat_revoked hrevoked] at happroved
      exact absurd happroved (by decide)
  refine ⟨before, d, hsplit', ?_, hpending, happroved⟩
  by_contra hne
  have hcount := (historyState_eq_approved.mp happroved).2.2
  have hfew := (historyState_eq_pending.mp hpending).2.2
  rw [approvals_concat_of_ne hne] at hcount
  omega

/-! ## Moves -/

/-- The moves of a status. -/
inductive Moves : Status → Status → Prop
  | approve : Moves .pending .approved
  | reject : Moves .pending .rejected
  | expire : Moves .pending .expired
  | revoke : Moves .approved .revoked
  | lapse : Moves .approved .expired

/-- From one instant to a later one the status stays or makes a move. -/
def ListedStep (w : ApprovalWorkflow) (a b : Timestamp) : Prop :=
  a.time ≤ b.time ∧ (w.statusAt a = w.statusAt b ∨ Moves (w.statusAt a) (w.statusAt b))

/-- The workflow was revoked at the very instant of the approval that decided. -/
def RevokedAtOnce (w : ApprovalWorkflow) (t : Int) : Prop :=
  ∃ before d r, w.events = before ++ [d, r] ∧ d.eventType = .approved ∧ r.eventType = .revoked ∧
    d.time = t ∧ r.time = t

/-- A listed step, or the step from pending to revoked over an instant that saw both the deciding
approval and the revocation. -/
def Step (w : ApprovalWorkflow) (a b : Timestamp) : Prop :=
  ListedStep w a b ∨
    (w.statusAt a = .pending ∧ w.statusAt b = .revoked ∧
      ∃ t, a.time < t ∧ t ≤ b.time ∧ RevokedAtOnce w t)

/-- How a workflow fares over time, with the steps of its status as a parameter. -/
structure Timeline (w : ApprovalWorkflow) (step : Timestamp → Timestamp → Prop) : Prop where
  /-- An operation changes nothing before its own instant. -/
  past : ∀ (op : Operation) (w' : ApprovalWorkflow), op.run w = .ok w' →
    ∃ t, Timestamp.ofText op.occurredAt = some t ∧
      ∀ s : Timestamp, s.time < t.time → w'.status s.text = w.status s.text
  /-- The status moves along the steps. -/
  moves : ∀ a b : Timestamp, a.time ≤ b.time → Relation.ReflTransGen step a b
  /-- Rejected, revoked and expired are never left. -/
  terminal : ∀ a b : Timestamp, a.time ≤ b.time →
    w.statusAt a = .rejected ∨ w.statusAt a = .revoked ∨ w.statusAt a = .expired →
    w.statusAt b = w.statusAt a
  /-- The grant is the same as long as the workflow is approved, and matches its own action exactly
  then. -/
  grants : ∀ a : Timestamp, w.status a.text = .ok .approved → ∃ g, w.grant a.text = .ok g ∧
    ∀ b : Timestamp, (w.status b.text = .ok .approved → w.grant b.text = .ok g) ∧
      (w.grantMatches g w.request.engagementId w.request.policyBundleFingerprint
        w.request.capability w.request.target w.request.impact.text b.text = .ok true ↔
        w.status b.text = .ok .approved)

/-! ## The past -/

theorem make_occurredAt {a : EventArgs} {e : ApprovalEvent} (h : a.make = .ok e) :
    Timestamp.ofText a.occurredAt = some e.occurredAt := by
  unfold EventArgs.make at h
  simp only [bind_eq_ok, iso8601_eq_ok, pure_eq_ok, Except.ok.injEq] at h
  obtain ⟨-, -, -, -, -, -, type, -, t, ht, -, -, -, -, -, -, -, -, -, -, -, -, -, -, rfl⟩ := h
  exact ht

/-- What a successful operation did: it appended one event, made when it was called. -/
theorem run_shape {w w' : ApprovalWorkflow} {op : Operation} (h : op.run w = .ok w') :
    ∃ e, w'.request = w.request ∧ w'.events = w.events ++ [e] ∧
      Timestamp.ofText op.occurredAt = some e.occurredAt := by
  rw [Operation.run, bind_eq_ok] at h
  obtain ⟨draft, hdraft, happend⟩ := h
  have htime := op.draft_occurredAt w hdraft
  rw [append, bind_eq_ok] at happend
  obtain ⟨e, he, hmake⟩ := happend
  have hsame : draft.occurredAt = e.occurredAt := by
    have hread := make_occurredAt he
    rw [Timestamp.ofText_text, Option.some.injEq] at hread
    exact hread
  rw [make, bind_eq_ok] at hmake
  obtain ⟨haccepted, -, hw'⟩ := hmake
  obtain rfl := Except.ok.inj hw'
  exact ⟨e, rfl, rfl, hsame ▸ htime⟩

/-- **History is never rewritten.** -/
theorem past_stays {w w' : ApprovalWorkflow} {op : Operation} (h : op.run w = .ok w') :
    ∃ t, Timestamp.ofText op.occurredAt = some t ∧
      ∀ s : Timestamp, s.time < t.time → w'.status s.text = w.status s.text := by
  obtain ⟨e, hrequest, hevents, htime⟩ := run_shape h
  refine ⟨e.occurredAt, htime, fun s hs => ?_⟩
  have hunseen : upTo ApprovalEvent.time s.time w'.events =
      upTo ApprovalEvent.time s.time w.events := by
    rw [hevents]
    exact upTo_concat hs
  rw [status_text, status_text, statusAt_eq, statusAt_eq, hunseen, hrequest]

/-! ## The present -/

/-- At and after the expiry the whole history is seen. -/
theorem upTo_of_expired (w : ApprovalWorkflow) {t : Timestamp}
    (h : w.request.expiresAt.time ≤ t.time) :
    upTo ApprovalEvent.time t.time w.events = w.events :=
  upTo_eq_self fun _ he => le_trans (le_of_lt (w.time_lt_expiresAt he)) h

/-- What is seen later, behind what is seen now: the same, unless the state is pending, or it is
approved and the next event revokes it. -/
theorem upTo_later (w : ApprovalWorkflow) {a b : Timestamp} (hab : a.time ≤ b.time) :
    upTo ApprovalEvent.time b.time w.events = upTo ApprovalEvent.time a.time w.events ∨
      historyState w.request (upTo ApprovalEvent.time a.time w.events) = .pending ∨
      (historyState w.request (upTo ApprovalEvent.time a.time w.events) = .approved ∧
        historyState w.request (upTo ApprovalEvent.time b.time w.events) = .revoked) := by
  obtain ⟨more, hmore⟩ := upTo_mono w.chronological hab
  obtain ⟨rest, hrest⟩ := upTo_prefix w.chronological b.time
  cases more with
  | nil => exact Or.inl (by rw [← hmore, List.append_nil])
  | cons e more =>
    have hsplit : w.events = upTo ApprovalEvent.time a.time w.events ++ e :: (more ++ rest) := by
      conv_lhs => rw [← hrest, ← hmore]
      simp
    rcases w.rest_of_state hsplit with hpending | ⟨happroved, htype⟩
    · exact Or.inr (Or.inl hpending)
    · have hseen : e ∈ upTo ApprovalEvent.time b.time w.events := by
        rw [← hmore]
        exact List.mem_append_right _ List.mem_cons_self
      have hrevoked : historyState w.request (upTo ApprovalEvent.time b.time w.events) =
          .revoked := by
        unfold historyState
        rw [if_pos ⟨e, hseen, htype⟩]
      exact Or.inr (Or.inr ⟨happroved, hrevoked⟩)

/-- **Rejected, revoked and expired are never left.** -/
theorem terminal_stays (w : ApprovalWorkflow) {a b : Timestamp} (hab : a.time ≤ b.time)
    (h : w.statusAt a = .rejected ∨ w.statusAt a = .revoked ∨ w.statusAt a = .expired) :
    w.statusAt b = w.statusAt a := by
  rcases h with ha | ha | ha
  · have hstate := statusAt_eq_rejected.mp ha
    rcases w.upTo_later hab with hsame | hpending | ⟨happroved, -⟩
    · rw [ha, statusAt_eq_rejected, hsame, hstate]
    · rw [hstate] at hpending
      exact absurd hpending (by decide)
    · rw [hstate] at happroved
      exact absurd happroved (by decide)
  · have hstate := statusAt_eq_revoked.mp ha
    rcases w.upTo_later hab with hsame | hpending | ⟨happroved, -⟩
    · rw [ha, statusAt_eq_revoked, hsame, hstate]
    · rw [hstate] at hpending
      exact absurd hpending (by decide)
    · rw [hstate] at happroved
      exact absurd happroved (by decide)
  · have hexpired := expired_of_statusAt ha
    have hexpired' := le_trans hexpired hab
    rw [statusAt_eq, statusAt_eq, w.upTo_of_expired hexpired, w.upTo_of_expired hexpired']
    simp [hexpired, hexpired']

/-- From approved the status can only be revoked or expire. -/
theorem approved_later (w : ApprovalWorkflow) {a b : Timestamp} (hab : a.time ≤ b.time)
    (ha : w.statusAt a = .approved) :
    w.statusAt b = .approved ∨ w.statusAt b = .revoked ∨ w.statusAt b = .expired := by
  obtain ⟨hstate, -⟩ := statusAt_eq_approved.mp ha
  rcases w.upTo_later hab with hsame | hpending | ⟨-, hrevoked⟩
  · rw [statusAt_eq, hsame, hstate]
    by_cases hexpired : w.request.expiresAt.time ≤ b.time
    · exact Or.inr (Or.inr (if_pos hexpired))
    · exact Or.inl (if_neg hexpired)
  · rw [hstate] at hpending
    exact absurd hpending (by decide)
  · exact Or.inr (Or.inl (statusAt_eq_revoked.mpr hrevoked))

/-- From pending to revoked: through an instant at which the workflow was approved, unless the
revocation carries the instant of the deciding approval. -/
theorem pending_to_revoked (w : ApprovalWorkflow) {a b : Timestamp}
    (ha : w.statusAt a = .pending) (hb : w.statusAt b = .revoked) :
    Relation.ReflTransGen (Step w) a b := by
  obtain ⟨r, hr, hrtype⟩ : ∃ r ∈ upTo ApprovalEvent.time b.time w.events,
      r.eventType = .revoked := by
    have hstate := statusAt_eq_revoked.mp hb
    by_contra hnone
    unfold historyState at hstate
    rw [if_neg hnone] at hstate
    split_ifs at hstate
  obtain ⟨hmem, hrb⟩ := mem_upTo.mp hr
  obtain ⟨before, d, hevents, hdtype, -, happroved⟩ := w.revocation_shape hmem hrtype
  have hchron := w.chronological
  rw [hevents] at hchron
  have hdr : d.time ≤ r.time := by
    have htail := (List.pairwise_append.mp hchron).2.1
    exact List.rel_of_pairwise_cons htail (List.mem_singleton_self r)
  rcases lt_or_eq_of_le hdr with hlt | heq
  · -- the workflow is approved at the instant of the approval that decided
    have hc : w.statusAt d.occurredAt = .approved := by
      have hseen : upTo ApprovalEvent.time d.occurredAt.time w.events = before ++ [d] := by
        have hsplit : w.events = (before ++ [d]) ++ [r] := by rw [hevents]; simp
        have hinit : Chronological ApprovalEvent.time (before ++ [d]) :=
          (List.pairwise_append.mp (hsplit ▸ w.chronological)).1
        rw [hsplit, upTo_concat (t := d.occurredAt.time) hlt]
        apply upTo_eq_self
        intro x hx
        rcases List.mem_append.mp hx with hx | hx
        · exact le_last hinit x hx
        · rw [List.mem_singleton] at hx
          exact le_of_eq (congrArg ApprovalEvent.time hx)
      have hd : d ∈ w.events := by simp [hevents]
      rw [statusAt_eq_approved, hseen]
      exact ⟨happroved, w.time_lt_expiresAt hd⟩
    have hac : a.time ≤ d.occurredAt.time := by
      by_contra hlate
      rcases w.approved_later (le_of_not_ge hlate) hc with h | h | h <;> simp [h] at ha
    have hcb : d.occurredAt.time ≤ b.time := le_trans hdr hrb
    have hfirst : Step w a d.occurredAt := Or.inl ⟨hac, Or.inr (by rw [ha, hc]; exact .approve)⟩
    have hsecond : Step w d.occurredAt b := Or.inl ⟨hcb, Or.inr (by rw [hc, hb]; exact .revoke)⟩
    exact Relation.ReflTransGen.head hfirst (Relation.ReflTransGen.single hsecond)
  · have har : a.time < r.time := by
      by_contra hlate
      have hseen : r ∈ upTo ApprovalEvent.time a.time w.events :=
        mem_upTo.mpr ⟨hmem, not_lt.mp hlate⟩
      have hstate := (historyState_eq_pending.mp (statusAt_eq_pending.mp ha).1).1
      exact hstate ⟨r, hseen, hrtype⟩
    exact Relation.ReflTransGen.single
      (Or.inr ⟨ha, hb, r.time, har, hrb, before, d, r, hevents, hdtype, hrtype, heq, rfl⟩)

/-- **The status moves along the steps.** -/
theorem moves_along (w : ApprovalWorkflow) {a b : Timestamp} (hab : a.time ≤ b.time) :
    Relation.ReflTransGen (Step w) a b := by
  have hlisted : w.statusAt a = w.statusAt b ∨ Moves (w.statusAt a) (w.statusAt b) →
      Relation.ReflTransGen (Step w) a b :=
    fun h => Relation.ReflTransGen.single (Or.inl ⟨hab, h⟩)
  cases ha : w.statusAt a with
  | rejected => exact hlisted (Or.inl (w.terminal_stays hab (Or.inl ha)).symm)
  | revoked => exact hlisted (Or.inl (w.terminal_stays hab (Or.inr (Or.inl ha))).symm)
  | expired => exact hlisted (Or.inl (w.terminal_stays hab (Or.inr (Or.inr ha))).symm)
  | approved =>
    rcases w.approved_later hab ha with hb | hb | hb
    · exact hlisted (Or.inl (ha.trans hb.symm))
    · exact hlisted (Or.inr (by rw [ha, hb]; exact .revoke))
    · exact hlisted (Or.inr (by rw [ha, hb]; exact .lapse))
  | pending =>
    cases hb : w.statusAt b with
    | pending => exact hlisted (Or.inl (ha.trans hb.symm))
    | approved => exact hlisted (Or.inr (by rw [ha, hb]; exact .approve))
    | rejected => exact hlisted (Or.inr (by rw [ha, hb]; exact .reject))
    | expired => exact hlisted (Or.inr (by rw [ha, hb]; exact .expire))
    | revoked => exact w.pending_to_revoked ha hb

/-! ## The grant -/

/-- What is seen at two instants at which the workflow is approved is the same. -/
theorem upTo_of_approved (w : ApprovalWorkflow) {a b : Timestamp} (ha : w.statusAt a = .approved)
    (hb : w.statusAt b = .approved) :
    upTo ApprovalEvent.time a.time w.events = upTo ApprovalEvent.time b.time w.events := by
  have hstay : ∀ {a b : Timestamp}, a.time ≤ b.time → w.statusAt a = .approved →
      w.statusAt b = .approved →
      upTo ApprovalEvent.time a.time w.events = upTo ApprovalEvent.time b.time w.events := by
    intro a b hab ha hb
    have hstate := (statusAt_eq_approved.mp ha).1
    have hstate' := (statusAt_eq_approved.mp hb).1
    rcases w.upTo_later hab with hsame | hpending | ⟨-, hrevoked⟩
    · exact hsame.symm
    · rw [hstate] at hpending
      exact absurd hpending (by decide)
    · rw [hstate'] at hrevoked
      exact absurd hrevoked (by decide)
  rcases le_total a.time b.time with hab | hba
  · exact hstay hab ha hb
  · exact (hstay hba hb ha).symm

/-- **An approved workflow hands out a grant for its own action.** -/
theorem grant_spec (w : ApprovalWorkflow) {t : Timestamp} (h : w.statusAt t = .approved) :
    ∃ g, w.grant t.text = .ok g ∧ g.requestId = w.request.requestId ∧
      g.engagementId = w.request.engagementId ∧
      g.policyBundleFingerprint = w.request.policyBundleFingerprint ∧
      g.capability = w.request.capability ∧ g.target = w.request.target ∧
      g.impact = w.request.impact ∧ g.expiresAt = w.request.expiresAt := by
  obtain ⟨s, hs⟩ := w.tracks
  have hsub : (w.approvalEvents (some t)).Sublist (approvals w.events) := by
    rw [approvalEvents_eq]
    exact List.filter_sublist.filter _
  have hcount : w.request.policy.requiredApprovals ≤ (w.approvalEvents (some t)).length := by
    rw [approvalEvents_eq]
    exact (historyState_eq_approved.mp (statusAt_eq_approved.mp h).1).2.2
  have hpos := w.request.policy.requiredApprovals_pos
  obtain ⟨deciding, hdeciding⟩ : ∃ d,
      (w.approvalEvents (some t))[w.request.policy.requiredApprovals - 1]? = some d :=
    ⟨_, List.getElem?_eq_getElem (by omega)⟩
  have henough : 1 ≤ (((w.approvalEvents (some t)).take w.request.policy.requiredApprovals).map
      (·.actorId)).length := by
    rw [List.length_map, List.length_take]
    omega
  have hvalid : ∀ v ∈ ((w.approvalEvents (some t)).take w.request.policy.requiredApprovals).map
      (·.actorId), requiredText v := by
    intro v hv
    obtain ⟨e, -, rfl⟩ := List.mem_map.mp hv
    exact requiredText_of_isIdentifier e.actorId_valid
  obtain ⟨approvers, happrovers, -⟩ : ∃ s, sortedUnique .approvalWorkflowError
      (fun v => checkText .approvalWorkflowError v "approver_ids")
      (((w.approvalEvents (some t)).take w.request.policy.requiredApprovals).map (·.actorId))
      "approver_ids" 1 = .ok s ∧ s.values = sortedStr
        (((w.approvalEvents (some t)).take w.request.policy.requiredApprovals).map (·.actorId)) :=
    sortedUnique_of (fun v h => checkText_of h) henough
      (hs.actors_nodup.sublist (((List.take_sublist _ _).trans hsub).map _)) hvalid
  have hworkflow : isSha256Hex w.fingerprint := isSha256Hex_fingerprint _
  unfold grant
  rw [iso8601_text, ok_bind, raiseIf_of_not (not_not.mpr h), ok_bind]
  dsimp only
  rw [hdeciding, getOrRaise_some, ok_bind]
  unfold GrantArgs.make
  dsimp only
  rw [checkIdentifier_of w.request.requestId_valid, ok_bind,
    checkIdentifier_of w.request.engagementId_valid, ok_bind,
    checkSha256_of w.request.policyBundleFingerprint_valid, ok_bind,
    prove_of w.request.capability_valid, ok_bind, normalTarget_of w.request.target_normal, ok_bind]
  dsimp only
  rw [Impact.ofText_text, getOrRaise_some, ok_bind, iso8601_text, ok_bind, iso8601_text, ok_bind,
    happrovers, ok_bind, checkSha256_of hworkflow, ok_bind]
  exact ⟨_, rfl, rfl, rfl, rfl, rfl, rfl, rfl, rfl⟩

/-- **The grant is the same at every approved instant.** -/
theorem grant_eq (w : ApprovalWorkflow) {a b : Timestamp} (ha : w.statusAt a = .approved)
    (hb : w.statusAt b = .approved) : w.grant a.text = w.grant b.text := by
  unfold grant
  rw [iso8601_text, iso8601_text, ok_bind, ok_bind, raiseIf_of_not (not_not.mpr ha),
    raiseIf_of_not (not_not.mpr hb), approvalEvents_eq, approvalEvents_eq,
    w.upTo_of_approved ha hb]

/-- **The grant matches its own action exactly where the workflow is approved.** -/
theorem grantMatches_iff (w : ApprovalWorkflow) {a b : Timestamp} {g : ApprovalGrant}
    (ha : w.statusAt a = .approved) (hg : w.grant a.text = .ok g) :
    w.grantMatches g w.request.engagementId w.request.policyBundleFingerprint
      w.request.capability w.request.target w.request.impact.text b.text = .ok true ↔
      w.statusAt b = .approved := by
  obtain ⟨type, htarget⟩ := w.request.target_normal
  unfold grantMatches
  rw [iso8601_text, ok_bind, htarget]
  dsimp only
  constructor
  · intro h
    by_contra hnot
    rw [if_pos hnot] at h
    exact absurd h (by simp)
  · intro hb
    obtain ⟨g', hg', hid, hengagement, hbundle, hcapability, htarget', himpact, hexpires⟩ :=
      w.grant_spec hb
    obtain rfl : g = g' := by
      rw [w.grant_eq ha hb, hg'] at hg
      exact (Except.ok.inj hg).symm
    have hopen := (statusAt_eq_approved.mp hb).2
    rw [if_neg (not_not.mpr hb), hg']
    simp [hid, hengagement, hbundle, hcapability, htarget', himpact, hexpires, hopen]

/-- **A workflow over time.**  The past is never rewritten; the status moves along the listed moves
through instants at which it is attained, but over an instant that carries both the deciding
approval and the revocation it goes from pending to revoked; rejected, revoked and expired are
final; and one grant stands as long as the workflow is approved. -/
theorem timeline (w : ApprovalWorkflow) : Timeline w (Step w) where
  past := fun _ _ h => past_stays h
  moves := fun _ _ hab => w.moves_along hab
  terminal := fun _ _ hab h => w.terminal_stays hab h
  grants := by
    intro a ha
    rw [status_text, Except.ok.injEq] at ha
    obtain ⟨g, hg, -⟩ := w.grant_spec ha
    refine ⟨g, hg, fun b => ⟨fun hb => ?_, ?_⟩⟩
    · rw [status_text, Except.ok.injEq] at hb
      rw [← w.grant_eq ha hb, hg]
    · rw [status_text, Except.ok.injEq]
      exact w.grantMatches_iff ha hg

/-! ## An approval revoked at once -/

/-- The lead revokes at the instant of the approval. -/
def sampleRevocation : Operation :=
  .revoke "event-2" "lead-1" "2030-01-02T00:00:00Z" "approved by mistake"

def sampleRevocationDraft : Draft :=
  ⟨.revoked, sampleDraft.occurredAt, "lead-1", some "lead", []⟩

theorem sampleRevocation_draft {w : ApprovalWorkflow} (hrequest : w.request = sampleRequest)
    (hstatus : w.statusAt sampleDraft.occurredAt = .approved) :
    sampleRevocation.draft w = .ok sampleRevocationDraft := by
  have htime : iso8601 .approvalWorkflowError "2030-01-02T00:00:00Z" "occurred_at" =
      .ok sampleDraft.occurredAt :=
    iso8601_eq_ok.mpr (Timestamp.ofText_eq_read (by decide +kernel))
  obtain ⟨p, hp, hroles⟩ : ∃ p, sampleRequest.principal "lead-1" = .ok p ∧
      sortedStr (eligible sampleRequest.policy p) = ["lead"] :=
    ⟨samplePrincipal "lead-1" "lead" (by decide) (by decide), rfl, by decide⟩
  rw [sampleRevocation, Operation.draft, draftRevocation, htime, ok_bind, hstatus,
    raiseIf_of_not (not_not.mpr rfl), ok_bind, hrequest, hp, ok_bind, hroles]
  rfl

/-- A workflow approved and revoked at the same instant. -/
theorem exists_revokedAtOnce : ∃ (w : ApprovalWorkflow) (d r : ApprovalEvent),
    w.request = sampleRequest ∧ w.events = sampleWorkflow.events ++ [d] ++ [r] ∧
      d.time = sampleDraft.occurredAt.time ∧ r.time = sampleDraft.occurredAt.time ∧
      r.eventType = .revoked := by
  have hlast : ∀ p ∈ sampleWorkflow.events.getLast?, p.time ≤ sampleDraft.occurredAt.time := by
    decide +kernel
  have hannounced : sampleApproval.announced sampleWorkflow = .approved := by decide +kernel
  obtain ⟨w, d, -, hrequest, hevents, hid, hd, hstatus⟩ := sampleApproval.run_of_draft sampleWorkflow
    sampleApproval_draft (by decide) (by decide) (by decide) hlast
  have hdtime : d.time = sampleDraft.occurredAt.time := by rw [ApprovalEvent.time, hd.occurredAt]
  have hlast' : ∀ p ∈ w.events.getLast?, p.time ≤ sampleRevocationDraft.occurredAt.time := by
    intro p hp
    rw [hevents, List.getLast?_append_of_ne_nil _ (List.cons_ne_nil d [])] at hp
    obtain rfl : d = p := Option.some.inj hp
    exact le_of_eq hdtime
  have hfresh : sampleRevocation.eventId ∉ w.events.map (·.eventId) := by
    rw [hevents, List.map_append, List.map_singleton, hid]
    decide
  obtain ⟨w', r, -, hrequest', hevents', -, hr, -⟩ := sampleRevocation.run_of_draft w
    (sampleRevocation_draft hrequest (hstatus.trans hannounced)) (by decide) hfresh (by decide)
    hlast'
  refine ⟨w', d, r, hrequest'.trans hrequest, by rw [hevents', hevents], hdtime, ?_, hr.eventType⟩
  rw [ApprovalEvent.time, hr.occurredAt]
  rfl

/-- Such a workflow is pending before the instant and revoked from it on. -/
theorem statusAt_revokedAtOnce {w : ApprovalWorkflow} {d r : ApprovalEvent}
    (hrequest : w.request = sampleRequest)
    (hevents : w.events = sampleWorkflow.events ++ [d] ++ [r])
    (hd : d.time = sampleDraft.occurredAt.time) (hr : r.time = sampleDraft.occurredAt.time)
    (htype : r.eventType = .revoked) (t : Timestamp) :
    w.statusAt t = .pending ∨ (sampleDraft.occurredAt.time ≤ t.time ∧ w.statusAt t = .revoked) := by
  by_cases ht : sampleDraft.occurredAt.time ≤ t.time
  · have hseen : r ∈ upTo ApprovalEvent.time t.time w.events :=
      mem_upTo.mpr ⟨by simp [hevents], hr ▸ ht⟩
    have hrevoked : historyState w.request (upTo ApprovalEvent.time t.time w.events) =
        .revoked := by
      unfold historyState
      rw [if_pos ⟨r, hseen, htype⟩]
    exact Or.inr ⟨ht, statusAt_eq_revoked.mpr hrevoked⟩
  · have hbefore : t.time < sampleDraft.occurredAt.time := not_le.mp ht
    have hseen : upTo ApprovalEvent.time t.time w.events <+: sampleWorkflow.events := by
      rw [hevents, upTo_concat (hr ▸ hbefore), upTo_concat (hd ▸ hbefore)]
      exact upTo_prefix sampleWorkflow.chronological t.time
    have hopen : t.time < w.request.expiresAt.time := by
      have hexpiry : sampleDraft.occurredAt.time < sampleRequest.expiresAt.time := by
        decide +kernel
      rw [hrequest]
      exact lt_trans hbefore hexpiry
    have htypes : ∀ e ∈ upTo ApprovalEvent.time t.time w.events, e.eventType = .requested := by
      intro e he
      have hmem := hseen.subset he
      have hall : ∀ e ∈ sampleWorkflow.events, e.eventType = .requested := by decide
      exact hall e hmem
    have hnone : approvals (upTo ApprovalEvent.time t.time w.events) = [] := by
      apply List.filter_eq_nil_iff.mpr
      intro e he
      simp [htypes e he]
    have hpos := w.request.policy.requiredApprovals_pos
    refine Or.inl (statusAt_eq_pending.mpr ⟨historyState_eq_pending.mpr ⟨?_, ?_, ?_⟩, hopen⟩)
    · rintro ⟨e, he, hrevoked⟩
      simp [htypes e he] at hrevoked
    · rintro ⟨e, he, hrejected⟩
      simp [htypes e he] at hrejected
    · rw [hnone, List.length_nil]
      omega

/-- **The listed moves alone do not carry a workflow.**  One that is approved and revoked at the same
instant goes from pending to revoked, and is approved at no instant between. -/
theorem timeline_listed_fails : ¬ ∀ w : ApprovalWorkflow, Timeline w (ListedStep w) := by
  intro hall
  obtain ⟨w, d, r, hrequest, hevents, hd, hr, htype⟩ := exists_revokedAtOnce
  have hstatus := statusAt_revokedAtOnce hrequest hevents hd hr htype
  -- a chain of listed steps that starts pending stays pending
  have hstays : ∀ a b, Relation.ReflTransGen (ListedStep w) a b → w.statusAt a = .pending →
      w.statusAt b = .pending := by
    intro a b hchain ha
    induction hchain with
    | refl => exact ha
    | tail _ hstep ih =>
      rcases hstep.2 with hsame | hmove
      · exact hsame.symm.trans ih
      · rcases hstatus _ with hpending | ⟨-, hrevoked⟩
        · exact hpending
        · rw [ih, hrevoked] at hmove
          cases hmove
  have hbefore : sampleRequest.requestedAt.time < sampleDraft.occurredAt.time := by decide +kernel
  have ha : w.statusAt sampleRequest.requestedAt = .pending := by
    rcases hstatus sampleRequest.requestedAt with hpending | ⟨hle, -⟩
    · exact hpending
    · exact absurd hbefore (not_lt.mpr hle)
  have hb : w.statusAt sampleDraft.occurredAt = .revoked := by
    have hseen : r ∈ upTo ApprovalEvent.time sampleDraft.occurredAt.time w.events :=
      mem_upTo.mpr ⟨by simp [hevents], le_of_eq hr⟩
    rw [statusAt_eq_revoked]
    unfold historyState
    rw [if_pos ⟨r, hseen, htype⟩]
  have hchain := (hall w).moves sampleRequest.requestedAt sampleDraft.occurredAt
    (le_of_lt hbefore)
  rw [hstays _ _ hchain ha] at hb
  exact absurd hb (by decide)

end ApprovalWorkflow

end NightRecon.WhiteEngine.ApprovalEngine
