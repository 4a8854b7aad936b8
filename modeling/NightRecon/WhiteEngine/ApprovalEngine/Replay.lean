import NightRecon.Lib.Chronicle
import NightRecon.WhiteEngine.ApprovalEngine.Workflow

/-!
# The rules of the replay

The checks the constructor of a workflow makes of its events, read off the code once.

* `Linked` — what the loop over the chain knows behind a list of events, `checkLink_eq_ok`;
* `findDelegation_eq` — the search for a delegation in force;
* `Decides`, `Delegates`, `Escalates` — what is checked of a decision, a delegation and an
  escalation (`decisionSource_eq_ok`, `checkDelegation_eq_ok`, `checkEscalation_eq_ok`);
* `Turn` — everything one event can do to the replay, `replayStep_eq_ok`.
-/

namespace NightRecon.WhiteEngine.ApprovalEngine

open NightRecon.Lib
open NightRecon.Lib.Checks
open NightRecon.Lib.Text
open NightRecon.Lib.Datetime
open NightRecon.Lib.Chronicle
open NightRecon.WhiteEngine.Fields

/-! ## The chain -/

/-- What the constructor's loop knows behind a list of events. -/
structure Linked (r : ApprovalRequest) (done : List ApprovalEvent) (c : Chain) : Prop where
  index : c.index = done.length
  seenIds : ∀ i, i ∈ c.seenIds ↔ i ∈ done.map (·.eventId)
  previous : c.previous = done.getLast?
  notBefore : ∀ e ∈ done, r.requestedAt.time ≤ e.time
  chronological : Chronological ApprovalEvent.time done

theorem linked_start (r : ApprovalRequest) : Linked r [] Chain.start where
  index := rfl
  seenIds := by simp [Chain.start]
  previous := rfl
  notBefore := fun _ h => absurd h List.not_mem_nil
  chronological := List.Pairwise.nil

/-- The last event of a chronicle has the latest time. -/
theorem time_le_last {done : List ApprovalEvent} (h : Chronological ApprovalEvent.time done)
    {p : ApprovalEvent} (hp : p ∈ done.getLast?) : ∀ b ∈ done, b.time ≤ p.time := by
  obtain ⟨init, rfl⟩ : ∃ init, done = init ++ [p] := List.getLast?_eq_some_iff.mp hp
  intro b hb
  rcases List.mem_append.mp hb with hb | hb
  · exact le_last h b hb
  · rw [List.mem_singleton] at hb
    rw [hb]

/-- One link.  The last conjunct says what the loop goes on with. -/
theorem checkLink_eq_ok {r : ApprovalRequest} {c c' : Chain} {e : ApprovalEvent} :
    checkLink r c e = .ok c' ↔
      e.eventId ∉ c.seenIds ∧ e.requestId = r.requestId ∧ e.sequence = c.index ∧
      e.previousEventFingerprint = c.previous.map ApprovalEvent.fingerprint ∧
      r.requestedAt.time ≤ e.time ∧ (∀ p ∈ c.previous, p.time ≤ e.time) ∧
      c' = ⟨c.index + 1, insert e.eventId c.seenIds, some e⟩ := by
  unfold checkLink
  simp only [raiseIf_bind_eq_ok, pure_eq_ok, Except.ok.injEq, ne_eq, not_not, not_lt, not_exists,
    not_and, eq_comm (a := c')]

theorem linked_step {r : ApprovalRequest} {done : List ApprovalEvent} {c c' : Chain}
    {e : ApprovalEvent} (h : Linked r done c) (hstep : checkLink r c e = .ok c') :
    Linked r (done ++ [e]) c' := by
  obtain ⟨-, -, -, -, hafter, hprev, rfl⟩ := checkLink_eq_ok.mp hstep
  refine ⟨by simp [h.index], fun i => ?_, by simp, ?_, ?_⟩
  · simp only [Finset.mem_insert, h.seenIds, List.map_append, List.mem_append, List.map_cons,
      List.map_nil, List.mem_singleton]
    exact or_comm
  · intro b hb
    rcases List.mem_append.mp hb with hb | hb
    · exact h.notBefore b hb
    · rw [List.mem_singleton] at hb
      exact hb ▸ hafter
  · apply chronological_concat h.chronological
    intro b hb
    obtain ⟨p, hp⟩ : ∃ p, done.getLast? = some p :=
      ⟨_, List.getLast?_eq_some_getLast (List.ne_nil_of_mem hb)⟩
    exact le_trans (time_le_last h.chronological hp b hb) (hprev p (h.previous ▸ hp))

theorem linked_of_foldlM {r : ApprovalRequest} {events : List ApprovalEvent} {c : Chain}
    (h : events.foldlM (checkLink r) Chain.start = .ok c) : Linked r events c :=
  foldlM_induct (P := Linked r) (fun _ _ _ _ hP hstep => linked_step hP hstep) events []
    Chain.start c (linked_start r) h

/-! ## Delegations in force -/

/-- A delegation that is in force at an instant. -/
def InForce (t : Timestamp) (d : ApprovalEvent) : Prop :=
  d.eventType = .delegated ∧ d.time ≤ t.time ∧ ∃ u ∈ d.validUntil, t.time < u

instance (t : Timestamp) (d : ApprovalEvent) : Decidable (InForce t d) :=
  inferInstanceAs (Decidable (_ ∧ _ ∧ _))

/-- Every delegation of a list says when it ends. -/
def Ends (l : List ApprovalEvent) : Prop :=
  ∀ d ∈ l, d.eventType = .delegated → ∃ u, d.validUntil = some u

theorem validUntil_eq_some {d : ApprovalEvent} {u : Int} :
    d.validUntil = some u ↔ ∃ s, d.detail "valid_until" = some s ∧ parseTime s = .ok u := by
  unfold ApprovalEvent.validUntil
  rw [Option.bind_eq_some_iff]
  refine exists_congr fun s => and_congr_right fun _ => ?_
  cases hparse : parseTime s <;> simp [Except.toOption]

/-- **The search finds the first delegation in force that suits.** -/
theorem findDelegation_eq {suits : ApprovalEvent → Bool} {t : Timestamp} {l : List ApprovalEvent}
    (hl : Ends l) :
    findDelegation suits t l = .ok (l.find? fun d => suits d = true ∧ InForce t d) := by
  induction l with
  | nil => rfl
  | cons d l ih =>
    have ih := ih fun d hd => hl d (List.mem_cons_of_mem _ hd)
    rw [findDelegation, List.find?_cons]
    by_cases hd : d.eventType = .delegated ∧ suits d = true ∧ d.time ≤ t.time
    · obtain ⟨u, hu⟩ := hl d List.mem_cons_self hd.1
      obtain ⟨s, hs, hparse⟩ := validUntil_eq_some.mp hu
      rw [if_pos hd, hs]
      simp only [hparse, ok_bind]
      by_cases htu : t.time < u
      · have hforce : suits d = true ∧ InForce t d := ⟨hd.2.1, hd.1, hd.2.2, u, hu, htu⟩
        simp [htu, hforce]
      · have hnot : ¬ (suits d = true ∧ InForce t d) := by
          rintro ⟨-, -, -, v, hv, htv⟩
          have hvu : v = u := Option.some.inj (hv.symm.trans hu)
          exact htu (hvu ▸ htv)
        rw [if_neg htu, ih]
        simp [hnot]
    · have hnot : ¬ (suits d = true ∧ InForce t d) := fun h => hd ⟨h.2.1, h.1, h.2.2.1⟩
      rw [if_neg hd, ih]
      simp [hnot]

/-! ## Direct authority -/

/-- A principal that holds a role itself, and the role may approve. -/
def HoldsRole (r : ApprovalRequest) (actorId role : String) : Prop :=
  ∃ p, r.principal actorId = .ok p ∧ role ∈ p.roles.values ∧ role ∈ r.policy.eligibleRoles.values

theorem directRole_eq_true {r : ApprovalRequest} {actorId : String} {actorRole : Option String} :
    directRole r actorId actorRole = .ok true ↔ ∃ role ∈ actorRole, HoldsRole r actorId role := by
  unfold directRole
  cases actorRole with
  | none => simp
  | some role =>
    simp only [bind_eq_ok, pure_eq_ok, Except.ok.injEq, decide_eq_true_eq, Option.mem_def,
      Option.some.injEq, exists_eq_left', HoldsRole]

theorem directRole_eq_false {r : ApprovalRequest} {actorId : String} {actorRole : Option String}
    {p : ApprovalPrincipal} (hp : r.principal actorId = .ok p)
    (h : ¬ ∃ role ∈ actorRole, HoldsRole r actorId role) :
    directRole r actorId actorRole = .ok false := by
  have hcases : ∃ b, directRole r actorId actorRole = .ok b := by
    unfold directRole
    cases actorRole with
    | none => exact ⟨false, rfl⟩
    | some role =>
      rw [hp]
      exact ⟨_, rfl⟩
  obtain ⟨b, hb⟩ := hcases
  cases b with
  | false => exact hb
  | true => exact absurd (directRole_eq_true.mp hb) h

/-! ## Decisions -/

/-- The delegations that give an actor a role. -/
def gives (actorId role : String) (d : ApprovalEvent) : Bool :=
  d.detail "delegate_id" = some actorId ∧ d.detail "delegated_role" = some role

/-- Where the authority of a decision comes from: the actor holds the role itself, or the latest
delegation in force that gives it the role names the source. -/
def Authority (r : ApprovalRequest) (prior : List ApprovalEvent) (e : ApprovalEvent)
    (source : String) : Prop :=
  ∃ role ∈ e.actorRole,
    (HoldsRole r e.actorId role ∧ source = e.actorId) ∨
    (¬ HoldsRole r e.actorId role ∧ ∃ d,
      prior.reverse.find? (fun d => gives e.actorId role d = true ∧ InForce e.occurredAt d) =
        some d ∧ source = d.actorId)

/-- What the replay checks of a decision. -/
structure Decides (r : ApprovalRequest) (s : Replay) (e : ApprovalEvent) (source : String) :
    Prop where
  pending : s.state = .pending
  principal : ∃ p, r.principal e.actorId = .ok p
  separate : r.policy.requesterMayApprove = false → e.actorId ≠ r.requestedBy
  authority : Authority r s.priorEvents e source
  named : e.detail "authority_source" = some source

theorem delegatedSource_eq {prior : List ApprovalEvent} (hprior : Ends prior) {actorId : String}
    {role : String} {t : Timestamp} :
    delegatedSource prior actorId (some role) t =
      .ok ((prior.reverse.find? fun d => gives actorId role d = true ∧ InForce t d).map
        (·.actorId)) := by
  have hrev : Ends prior.reverse := fun d hd => hprior d (List.mem_reverse.mp hd)
  simp only [delegatedSource, findDelegation_eq hrev, ok_bind, pure_eq_ok]
  rfl

theorem expectedSource_eq_ok {r : ApprovalRequest} {s : Replay} {e : ApprovalEvent}
    {source : String} (hprior : Ends s.priorEvents) {p : ApprovalPrincipal}
    (hp : r.principal e.actorId = .ok p) :
    expectedSource r s e = .ok (some source) ↔ Authority r s.priorEvents e source := by
  unfold expectedSource Authority
  by_cases hdirect : ∃ role ∈ e.actorRole, HoldsRole r e.actorId role
  · have htrue := directRole_eq_true.mpr hdirect
    obtain ⟨role, hrole, hholds⟩ := hdirect
    simp only [htrue, ok_bind, if_true, pure_eq_ok, Except.ok.injEq, Option.some.injEq]
    constructor
    · rintro rfl
      exact ⟨role, hrole, Or.inl ⟨hholds, rfl⟩⟩
    · rintro ⟨role', hrole', ⟨-, rfl⟩ | ⟨hnot, -⟩⟩
      · rfl
      · have hsame : role = role' := Option.some.inj (hrole.symm.trans hrole')
        exact absurd (hsame ▸ hholds) hnot
  · have hfalse := directRole_eq_false hp hdirect
    simp only [hfalse, ok_bind, Bool.false_eq_true, if_false]
    cases hrole : e.actorRole with
    | none => simp [delegatedSource]
    | some role =>
      have hnot : ¬ HoldsRole r e.actorId role := fun hholds => hdirect ⟨role, hrole, hholds⟩
      simp only [delegatedSource_eq hprior, Except.ok.injEq, Option.map_eq_some_iff,
        Option.mem_def, Option.some.injEq, exists_eq_left', hnot, false_and, not_false_eq_true,
        true_and, false_or, eq_comm (a := source)]

/-- **What the replay checks of a decision is what `Decides` says.** -/
theorem decisionSource_eq_ok {r : ApprovalRequest} {s : Replay} {e : ApprovalEvent}
    {source : String} (hprior : Ends s.priorEvents) :
    decisionSource r s e = .ok source ↔ Decides r s e source := by
  unfold decisionSource
  constructor
  · intro h
    simp only [bind_eq_ok, raiseIf_eq_ok, getOrRaise_eq_ok, pure_eq_ok, Except.ok.injEq, ne_eq,
      not_not, not_and] at h
    obtain ⟨-, hpending, p, hp, -, hseparate, expected, hexpected, src, rfl, -, hnamed, rfl⟩ := h
    exact ⟨hpending, ⟨p, hp⟩, hseparate, (expectedSource_eq_ok hprior hp).mp hexpected, hnamed⟩
  · intro h
    obtain ⟨p, hp⟩ := h.principal
    have hexpected := (expectedSource_eq_ok hprior hp).mpr h.authority
    have hseparate : ¬ (r.policy.requesterMayApprove = false ∧ e.actorId = r.requestedBy) :=
      fun hreq => h.separate hreq.1 hreq.2
    rw [raiseIf_of_not (not_not.mpr h.pending), ok_bind, hp, ok_bind, raiseIf_of_not hseparate,
      ok_bind, hexpected, ok_bind, getOrRaise_some, ok_bind, raiseIf_of_not (not_not.mpr h.named)]
    rfl

/-! ## Delegations -/

/-- What the replay checks of a delegation. -/
structure Delegates (r : ApprovalRequest) (e : ApprovalEvent) (delegateId role : String)
    (validUntil : String) (u : Int) : Prop where
  allowed : r.policy.allowDelegation = true
  delegate : e.detail "delegate_id" = some delegateId
  delegatedRole : e.detail "delegated_role" = some role
  ends : e.detail "valid_until" = some validUntil
  keys : e.detailKeys = {"delegate_id", "delegated_role", "valid_until"}
  delegatePrincipal : ∃ p, r.principal delegateId = .ok p
  differ : e.actorId ≠ delegateId
  separate : r.policy.requesterMayApprove = false →
    e.actorId ≠ r.requestedBy ∧ delegateId ≠ r.requestedBy
  actorRole : e.actorRole = some role
  holds : HoldsRole r e.actorId role
  reads : parseTime validUntil = .ok u
  bounds : e.time < u ∧ u ≤ r.expiresAt.time

theorem checkDelegation_eq_ok {r : ApprovalRequest} {s : Replay} {e : ApprovalEvent} :
    checkDelegation r s e = .ok () ↔ s.state = .pending ∧
      ∃ delegateId role validUntil u, Delegates r e delegateId role validUntil u := by
  unfold checkDelegation
  constructor
  · intro h
    simp only [bind_eq_ok, raiseIf_eq_ok, require_eq_ok, getOrRaise_eq_ok, ne_eq, not_not, not_and,
      not_or, not_le, not_lt, Bool.not_eq_false] at h
    obtain ⟨-, hpending, -, hallowed, delegateId, hdelegate, role, hrole, validUntil, hends, -,
      hkeys, q, hq, -, hdiffer, -, hseparate, -, ⟨hactorRole, -⟩, direct, hdirect, -, rfl, u,
      hreads, hbounds⟩ := h
    obtain ⟨role', hmem, hholds⟩ := directRole_eq_true.mp hdirect
    rw [Option.mem_some] at hmem
    exact ⟨hpending, delegateId, role, validUntil, u, hallowed, hdelegate, hrole, hends, hkeys,
      ⟨q, hq⟩, hdiffer, hseparate, hactorRole, hmem ▸ hholds, hreads, hbounds⟩
  · rintro ⟨hpending, delegateId, role, validUntil, u, h⟩
    obtain ⟨q, hq⟩ := h.delegatePrincipal
    have hdirect : directRole r e.actorId (some role) = .ok true :=
      directRole_eq_true.mpr ⟨role, rfl, h.holds⟩
    have heligible : role ∈ r.policy.eligibleRoles.values := h.holds.choose_spec.2.2
    have hallowed : ¬ r.policy.allowDelegation = false := by simp [h.allowed]
    have hseparate : ¬ (r.policy.requesterMayApprove = false ∧
        (e.actorId = r.requestedBy ∨ delegateId = r.requestedBy)) := by
      rintro ⟨hreq, hsame | hsame⟩
      · exact (h.separate hreq).1 hsame
      · exact (h.separate hreq).2 hsame
    have hlacking : ¬ (e.actorRole ≠ some role ∨ role ∉ r.policy.eligibleRoles.values) := by
      simp [h.actorRole, heligible]
    have hbounds : ¬ (u ≤ e.time ∨ r.expiresAt.time < u) := by
      have := h.bounds
      omega
    rw [raiseIf_of_not (not_not.mpr hpending), ok_bind, raiseIf_of_not hallowed, ok_bind]
    dsimp only
    rw [h.delegate, getOrRaise_some, ok_bind, h.delegatedRole, getOrRaise_some, ok_bind, h.ends,
      getOrRaise_some, ok_bind, raiseIf_of_not (not_not.mpr h.keys), ok_bind, hq, ok_bind,
      raiseIf_of_not h.differ, ok_bind, raiseIf_of_not hseparate, ok_bind,
      raiseIf_of_not hlacking, ok_bind, hdirect, ok_bind, require_of rfl, ok_bind, h.reads, ok_bind,
      raiseIf_of_not hbounds]

/-- A checked delegation ends at the instant it was checked for. -/
theorem Delegates.validUntil_eq {r : ApprovalRequest} {e : ApprovalEvent}
    {delegateId role validUntil : String} {u : Int}
    (h : Delegates r e delegateId role validUntil u) : e.validUntil = some u :=
  validUntil_eq_some.mpr ⟨validUntil, h.ends, h.reads⟩

/-! ## Escalations and revocations -/

/-- What the replay checks of an escalation. -/
structure Escalates (r : ApprovalRequest) (s : Replay) (e : ApprovalEvent) : Prop where
  pending : s.state = .pending
  principal : ∃ p, r.principal e.actorId = .ok p
  due : ∃ seconds ∈ r.policy.escalationAfterSeconds, ∃ due,
    escalationDueAt r seconds = .ok due ∧ due ≤ e.time
  first : s.escalated = false
  roles : ∃ encoded decoded roles, e.detail "escalation_roles" = some encoded ∧
    Json.loads encoded = some decoded ∧ decodedRoles decoded = .ok roles ∧
    sortedStr roles = r.policy.escalationRoles.values
  keys : e.detailKeys = {"escalation_roles"}

theorem checkEscalation_eq_ok {r : ApprovalRequest} {s : Replay} {e : ApprovalEvent} :
    checkEscalation r s e = .ok () ↔ Escalates r s e := by
  unfold checkEscalation
  constructor
  · intro h
    simp only [bind_eq_ok, raiseIf_eq_ok, getOrRaise_eq_ok, ne_eq, not_not, not_lt,
      Bool.not_eq_true] at h
    obtain ⟨-, hpending, p, hp, seconds, hseconds, due, hdue, -, hafter, -, hfirst, encoded,
      hencoded, -, hkeys, decoded, hdecoded, roles, hroles, hsorted⟩ := h
    exact ⟨hpending, ⟨p, hp⟩, ⟨seconds, hseconds, due, hdue, hafter⟩, hfirst,
      ⟨encoded, decoded, roles, hencoded, hdecoded, hroles, hsorted⟩, hkeys⟩
  · intro h
    obtain ⟨p, hp⟩ := h.principal
    obtain ⟨seconds, hseconds, due, hdue, hafter⟩ := h.due
    obtain ⟨encoded, decoded, roles, hencoded, hdecoded, hroles, hsorted⟩ := h.roles
    have hseconds' : r.policy.escalationAfterSeconds = some seconds := hseconds
    have hfirst : ¬ s.escalated = true := by simp [h.first]
    rw [raiseIf_of_not (not_not.mpr h.pending), ok_bind, hp, ok_bind, hseconds', getOrRaise_some,
      ok_bind, hdue, ok_bind, raiseIf_of_not (not_lt.mpr hafter), ok_bind, raiseIf_of_not hfirst,
      ok_bind]
    dsimp only
    rw [hencoded, getOrRaise_some, ok_bind, raiseIf_of_not (not_not.mpr h.keys), ok_bind,
      hdecoded, getOrRaise_some, ok_bind, hroles, ok_bind, raiseIf_of_not (not_not.mpr hsorted)]

theorem checkRevocation_eq_ok {r : ApprovalRequest} {s : Replay} {e : ApprovalEvent} :
    checkRevocation r s e = .ok () ↔
      s.state = .approved ∧ ∃ role ∈ e.actorRole, HoldsRole r e.actorId role := by
  unfold checkRevocation
  rw [← directRole_eq_true]
  simp only [bind_eq_ok, raiseIf_eq_ok, require_eq_ok, ne_eq, not_not, exists_const]
  exact and_congr_right fun _ => exists_eq_right

/-! ## One turn -/

/-- Everything a successful turn of the replay can do. -/
inductive Turn (r : ApprovalRequest) (s : Replay) (e : ApprovalEvent) : Replay → Prop
  | approve (source : String) (type : e.eventType = .approved) (decides : Decides r s e source)
      (newActor : e.actorId ∉ s.approvingActors) (newSource : source ∉ s.authoritySources) :
      Turn r s e {
        state :=
          if r.policy.requiredApprovals ≤ (insert source s.authoritySources).card then .approved
          else .pending
        approvingActors := insert e.actorId s.approvingActors
        authoritySources := insert source s.authoritySources
        escalated := s.escalated
        priorEvents := s.priorEvents ++ [e] }
  | reject (source : String) (type : e.eventType = .rejected) (decides : Decides r s e source) :
      Turn r s e { s with state := .rejected, priorEvents := s.priorEvents ++ [e] }
  | delegate (delegateId role validUntil : String) (u : Int) (type : e.eventType = .delegated)
      (pending : s.state = .pending) (delegates : Delegates r e delegateId role validUntil u) :
      Turn r s e { s with priorEvents := s.priorEvents ++ [e] }
  | escalate (type : e.eventType = .escalated) (escalates : Escalates r s e) :
      Turn r s e { s with escalated := true, priorEvents := s.priorEvents ++ [e] }
  | revoke (role : String) (type : e.eventType = .revoked) (approved : s.state = .approved)
      (actorRole : e.actorRole = some role) (holds : HoldsRole r e.actorId role) :
      Turn r s e { s with state := .revoked, priorEvents := s.priorEvents ++ [e] }

/-- A turn starts from a state that is not terminal; from an approved one it is a revocation. -/
theorem Turn.open {r : ApprovalRequest} {s s' : Replay} {e : ApprovalEvent} (h : Turn r s e s') :
    s.state = .pending ∨ (s.state = .approved ∧ e.eventType = .revoked) := by
  cases h with
  | approve source type decides newActor newSource => exact Or.inl decides.pending
  | reject source type decides => exact Or.inl decides.pending
  | delegate delegateId role validUntil u type pending delegates => exact Or.inl pending
  | escalate type escalates => exact Or.inl escalates.pending
  | revoke role type approved actorRole holds => exact Or.inr ⟨approved, type⟩

/-- **One turn of the replay, read off the code.** -/
theorem replayStep_eq_ok {r : ApprovalRequest} {s s' : Replay} {e : ApprovalEvent}
    (hprior : Ends s.priorEvents) :
    replayStep r s e = .ok s' ↔ e.time < r.expiresAt.time ∧ Turn r s e s' := by
  unfold replayStep
  constructor
  · intro h
    rw [raiseIf_bind_eq_ok, raiseIf_bind_eq_ok, raiseIf_bind_eq_ok, bind_eq_ok] at h
    obtain ⟨hopen, -, -, s₁, happly, hs'⟩ := h
    obtain rfl := Except.ok.inj hs'
    refine ⟨not_le.mp hopen, ?_⟩
    unfold applyEvent at happly
    split at happly
    · exact absurd happly (by simp)
    · next htype =>
      simp only [bind_eq_ok, raiseIf_eq_ok, pure_eq_ok, Except.ok.injEq] at happly
      obtain ⟨source, hsource, -, hactor, -, hnew, rfl⟩ := happly
      have hdecides := (decisionSource_eq_ok hprior).mp hsource
      have hturn := Turn.approve source htype hdecides hactor hnew
      rw [← hdecides.pending] at hturn
      exact hturn
    · next htype =>
      simp only [bind_eq_ok, pure_eq_ok, Except.ok.injEq] at happly
      obtain ⟨source, hsource, rfl⟩ := happly
      exact Turn.reject source htype ((decisionSource_eq_ok hprior).mp hsource)
    · next htype =>
      simp only [bind_eq_ok, pure_eq_ok, Except.ok.injEq] at happly
      obtain ⟨u, hcheck, rfl⟩ := happly
      obtain ⟨hpending, delegateId, role, validUntil, ends, h⟩ := checkDelegation_eq_ok.mp hcheck
      exact Turn.delegate delegateId role validUntil ends htype hpending h
    · next htype =>
      simp only [bind_eq_ok, pure_eq_ok, Except.ok.injEq] at happly
      obtain ⟨u, hcheck, rfl⟩ := happly
      exact Turn.escalate htype (checkEscalation_eq_ok.mp hcheck)
    · next htype =>
      simp only [bind_eq_ok, pure_eq_ok, Except.ok.injEq] at happly
      obtain ⟨u, hcheck, rfl⟩ := happly
      obtain ⟨happroved, role, hrole, hholds⟩ := checkRevocation_eq_ok.mp hcheck
      exact Turn.revoke role htype happroved hrole hholds
  · rintro ⟨hopen, hturn⟩
    have hnotTerminal : ¬ (s.state = .rejected ∨ s.state = .revoked) := by
      rcases hturn.open with hstate | ⟨hstate, -⟩ <;> simp [hstate]
    have hnotApproved : ¬ (s.state = .approved ∧ e.eventType ≠ .revoked) := by
      rcases hturn.open with hstate | ⟨-, htype⟩
      · simp [hstate]
      · simp [htype]
    rw [raiseIf_of_not (not_le.mpr hopen), ok_bind, raiseIf_of_not hnotTerminal, ok_bind,
      raiseIf_of_not hnotApproved, ok_bind]
    cases hturn with
    | approve source type decides newActor newSource =>
      have hsource := (decisionSource_eq_ok hprior).mpr decides
      simp only [applyEvent, type, hsource, ok_bind, raiseIf_of_not newActor,
        raiseIf_of_not newSource, pure_eq_ok, decides.pending]
    | reject source type decides =>
      have hsource := (decisionSource_eq_ok hprior).mpr decides
      simp only [applyEvent, type, hsource, ok_bind, pure_eq_ok]
    | delegate delegateId role validUntil u type pending delegates =>
      have hcheck := checkDelegation_eq_ok.mpr ⟨pending, delegateId, role, validUntil, u, delegates⟩
      simp only [applyEvent, type, hcheck, ok_bind, pure_eq_ok]
    | escalate type escalates =>
      have hcheck := checkEscalation_eq_ok.mpr escalates
      simp only [applyEvent, type, hcheck, ok_bind, pure_eq_ok]
    | revoke role type approved actorRole holds =>
      have hcheck := checkRevocation_eq_ok.mpr ⟨approved, role, actorRole, holds⟩
      simp only [applyEvent, type, hcheck, ok_bind, pure_eq_ok]

end NightRecon.WhiteEngine.ApprovalEngine
