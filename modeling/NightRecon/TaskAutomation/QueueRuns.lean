import NightRecon.TaskAutomation.ObjectiveHistory

/-!
# Runs of the queue of objectives

Every caller's calls, in any order, with a reservation cut between its two transactions.

* `Kept` — what the transactions keep of an objective: the rows are those of a history that begins
  with a verified approval and that goes on by operations;
* `claim_spec`, `update_spec`, `expire_spec`, `enqueue_spec` — what an answer of each of them says;
* `Sound`, `sound_step` — the invariant of the session, and what a call does to the histories.
-/

namespace NightRecon.TaskAutomation

open NightRecon.Lib
open NightRecon.Lib.Checks
open NightRecon.Lib.Machine

namespace Queue

/-- One entry comes of the one before by an operation. -/
def Follows (e e' : Entry) : Prop := Advance e.2 e'.1 e'.2

section Transactions

variable (key : List UInt8) (signed : List UInt8 → String → List UInt8 → Bool)
  (casefold : String → String)

/-- The entry that an approval begins with, at a time when it was verified. -/
def Begins (rows : Rows) (e : Entry) : Prop :=
  ∃ raw policy owners now approval,
    verifyApproval signed casefold raw policy owners now = .ok approval ∧
      rows.approval = some (approval.digest, raw) ∧ e = ("approved", firstRecord approval now)

/-- What the transactions keep of the rows of an objective. -/
structure Kept (objectiveId : String) (rows : Rows) (h : List Entry) : Prop where
  represents : Represents key objectiveId rows h
  fresh : rows.approval = none ↔ h = []
  first : ∀ e ∈ h.head?, Begins signed casefold rows e
  chain : h.IsChain Follows

variable {key signed casefold} {objectiveId : String} {rows rows' : Rows} {h : List Entry}
  {e : Entry} {record : ObjectiveRecord} {event : String}

theorem kept_empty : Kept key signed casefold objectiveId emptyRows [] where
  represents := represents_empty
  fresh := iff_of_true rfl rfl
  first e he := absurd he (by simp)
  chain := .nil

/-- An objective that was read has a last record. -/
theorem Kept.last (hk : Kept key signed casefold objectiveId rows h)
    (hread : readRecord key objectiveId rows = .ok record) :
    ∃ l event, h = l ++ [(event, record)] ∧ l.length < 2000 :=
  readRecord_eq_ok hk.represents hread

/-- **An operation is committed as one more entry.** -/
theorem Kept.advance (hk : Kept key signed casefold objectiveId rows (h ++ [e]))
    (hadvance : Advance e.2 event record) :
    ∃ rows', Queue.commit key rows record event = .ok (record, rows') ∧
      Kept key signed casefold objectiveId rows' (h ++ [e] ++ [(event, record)]) := by
  have hlast : e ∈ h ++ [e] := List.mem_append_right _ List.mem_cons_self
  have hversion : record.version = (h ++ [e]).length := by
    rw [hadvance.version, hk.represents.version_last, List.length_append, List.length_singleton]
    rfl
  have hown : record.objectiveId = objectiveId :=
    (congrArg Terms.objectiveId hadvance.terms).trans (hk.represents.own e hlast)
  obtain ⟨rows', hwrite, happroval, hrepresents⟩ := writeRecord_of event hk.represents
    hversion hown (hadvance.stored (hk.represents.stored e hlast))
  refine ⟨rows', by rw [Queue.commit, hwrite]; rfl, hrepresents, ?_, ?_, ?_⟩
  · rw [happroval, hk.fresh]
    simp
  · intro e' he'
    obtain ⟨raw, policy, owners, now, approval, hverify, hrows, he⟩ := hk.first e' (by
      rw [List.head?_append_of_ne_nil _ (by simp)] at he'
      exact he')
    exact ⟨raw, policy, owners, now, approval, hverify, happroval ▸ hrows, he⟩
  · refine List.isChain_append.mpr ⟨hk.chain, .singleton _, ?_⟩
    intro x hx y hy
    rw [List.getLast?_concat] at hx
    obtain rfl := Option.some.inj hx
    obtain rfl := Option.some.inj hy
    exact hadvance

/-- What a committed operation leaves. -/
theorem Kept.of_commit {record' : ObjectiveRecord}
    (hk : Kept key signed casefold objectiveId rows (h ++ [e]))
    (hadvance : Advance e.2 event record)
    (hcommit : Queue.commit key rows record event = .ok (record', rows')) :
    record' = record ∧
      Kept key signed casefold objectiveId rows' (h ++ [e] ++ [(event, record)]) := by
  obtain ⟨rows₁, hrows₁, hkept⟩ := hk.advance hadvance
  obtain ⟨rfl, rfl⟩ := Prod.mk.inj (Except.ok.inj (hrows₁.symm.trans hcommit))
  exact ⟨rfl, hkept⟩

theorem claim_spec {worker : String} {now leaseSeconds : Int}
    (hk : Kept key signed casefold objectiveId rows h)
    (hclaim : claim key objectiveId worker now leaseSeconds rows = .ok (record, rows')) :
    ∃ l e event, (h = l ++ [e] ∧ l.length < 2000) ∧
      claimRecord e.2 worker now leaseSeconds = .ok (record, event) ∧
      Kept key signed casefold objectiveId rows' (h ++ [(event, record)]) := by
  unfold claim at hclaim
  obtain ⟨-, -, hclaim⟩ := bind_eq_ok.mp hclaim
  obtain ⟨-, hclaim⟩ := require_bind_eq_ok.mp hclaim
  obtain ⟨-, hclaim⟩ := require_bind_eq_ok.mp hclaim
  obtain ⟨r, hread, hclaim⟩ := bind_eq_ok.mp hclaim
  obtain ⟨⟨r', event⟩, hr', hclaim⟩ := bind_eq_ok.mp hclaim
  obtain ⟨l, event₀, rfl, hlength⟩ := hk.last hread
  obtain ⟨rfl, hkept⟩ := hk.of_commit (.claimed worker now leaseSeconds hr') hclaim
  exact ⟨l, (event₀, r), event, ⟨rfl, hlength⟩, hr', hkept⟩

theorem update_spec {fence : Fence} {now : Int} {changes : Changes}
    (hk : Kept key signed casefold objectiveId rows h)
    (hupdate : update key objectiveId fence now event changes rows = .ok (record, rows')) :
    ∃ l e, (h = l ++ [e] ∧ l.length < 2000) ∧ Updated e.2 fence now changes record ∧
      Kept key signed casefold objectiveId rows' (h ++ [(event, record)]) := by
  unfold update at hupdate
  obtain ⟨-, -, hupdate⟩ := bind_eq_ok.mp hupdate
  obtain ⟨r, hread, hupdate⟩ := bind_eq_ok.mp hupdate
  obtain ⟨r', hr', hupdate⟩ := bind_eq_ok.mp hupdate
  obtain ⟨l, event₀, rfl, hlength⟩ := hk.last hread
  obtain ⟨rfl, hkept⟩ := hk.of_commit (.updated fence now changes hr') hupdate
  exact ⟨l, (event₀, r), ⟨rfl, hlength⟩, updateRecord_eq_ok hr', hkept⟩

theorem expire_spec {now : Int} (hk : Kept key signed casefold objectiveId rows h)
    (hexpire : expire key objectiveId now rows = .ok (record, rows')) :
    ∃ l e, (h = l ++ [e] ∧ l.length < 2000) ∧
      ((expireRecord e.2 now = none ∧ record = e.2 ∧ rows' = rows) ∨
        (expireRecord e.2 now = some record ∧
          Kept key signed casefold objectiveId rows' (h ++ [("objective_timed_out", record)]))) := by
  unfold expire at hexpire
  obtain ⟨r, hread, hexpire⟩ := bind_eq_ok.mp hexpire
  obtain ⟨l, event₀, rfl, hlength⟩ := hk.last hread
  refine ⟨l, (event₀, r), ⟨rfl, hlength⟩, ?_⟩
  dsimp only
  cases hr' : expireRecord r now with
  | none =>
    rw [hr'] at hexpire
    obtain ⟨rfl, rfl⟩ := Prod.mk.inj (Except.ok.inj hexpire)
    exact .inl ⟨rfl, rfl, rfl⟩
  | some r' =>
    rw [hr'] at hexpire
    obtain ⟨rfl, hkept⟩ := hk.of_commit (.expired now hr') hexpire
    exact .inr ⟨rfl, hkept⟩

theorem enqueue_spec {raw : List UInt8} {approval : Approval} {policy : Policy}
    {owners : List (String × TrustKey)} {now : Int}
    (hverify : verifyApproval signed casefold raw policy owners now = .ok approval)
    (hk : Kept key signed casefold approval.objectiveId rows h)
    (henqueue : enqueueRows key signed casefold raw approval policy owners now rows =
      .ok (record, rows')) :
    (h = [] ∧ record = firstRecord approval now ∧
        Kept key signed casefold approval.objectiveId rows' [("approved", record)]) ∨
      (rows' = rows ∧ ∃ l event, h = l ++ [(event, record)] ∧ l.length < 2000) := by
  unfold enqueueRows at henqueue
  split at henqueue
  · obtain ⟨-, henqueue⟩ := require_bind_eq_ok.mp henqueue
    obtain ⟨existing, -, henqueue⟩ := bind_eq_ok.mp henqueue
    obtain ⟨-, henqueue⟩ := require_bind_eq_ok.mp henqueue
    obtain ⟨r, hread, henqueue⟩ := bind_eq_ok.mp henqueue
    obtain ⟨rfl, rfl⟩ := Prod.mk.inj (Except.ok.inj henqueue)
    exact .inr ⟨rfl, hk.last hread⟩
  · rename_i hnone
    obtain rfl := hk.fresh.mp hnone
    have hrepresents : Represents key approval.objectiveId
        { rows with approval := some (approval.digest, raw) } [] :=
      ⟨hk.represents.events, hk.represents.objective, rfl, hk.represents.own, hk.represents.stored⟩
    obtain ⟨rows₁, hwrite, happroval, hkept⟩ := @writeRecord_of _ _ _ _
      (firstRecord approval now) "approved" hrepresents rfl rfl (stored_firstRecord approval now)
    rw [commit, hwrite] at henqueue
    obtain ⟨rfl, rfl⟩ := Prod.mk.inj (Except.ok.inj henqueue)
    refine .inl ⟨rfl, rfl, hkept, ?_, ?_, .singleton _⟩
    · rw [happroval]
      simp
    · intro e he
      obtain rfl := Option.some.inj he
      exact ⟨raw, policy, owners, now, approval, hverify, happroval, rfl⟩

/-- An entry comes of the verified approval of its objective, and keeps within its limits. -/
theorem Kept.terms (hk : Kept key signed casefold objectiveId rows h) :
    ∀ e ∈ h, ∃ policy approval now, Approved casefold policy approval now ∧
      Terms.of e.2 = Terms.of (firstRecord approval now) ∧ Within e.2 := by
  cases h with
  | nil => exact fun e he => absurd he List.not_mem_nil
  | cons e l =>
    obtain ⟨raw, policy, owners, now, approval, hverify, -, rfl⟩ := hk.first e rfl
    have happroved := approved_of_verifyApproval hverify
    have hnow : 0 ≤ now := (Int.natCast_nonneg _).trans happroved.active.1
    suffices hall : ∀ e ∈ ("approved", firstRecord approval now) :: l,
        Terms.of e.2 = Terms.of (firstRecord approval now) ∧ Within e.2 from
      fun e he => ⟨policy, approval, now, happroved, hall e he⟩
    refine List.IsChain.induction (fun e : Entry =>
      Terms.of e.2 = Terms.of (firstRecord approval now) ∧ Within e.2) _ hk.chain ?_ ?_
    · rintro x y hxy ⟨hterms, hwithin⟩
      exact ⟨(Advance.terms hxy).trans hterms, Advance.within hxy hwithin⟩
    · rintro -
      exact ⟨rfl, within_firstRecord hnow⟩

/-- Later entries come after earlier ones. -/
theorem Kept.pairwise (hk : Kept key signed casefold objectiveId rows h) :
    h.Pairwise fun e e' => After e.2 e'.2 := by
  have htrans : IsTrans Entry fun e e' => After e.2 e'.2 := ⟨fun _ _ _ => After.trans⟩
  exact List.isChain_iff_pairwise.mp (hk.chain.imp fun _ _ hfollows => Advance.after hfollows)

end Transactions

/-! ## Sessions -/

/-- The entries of an objective. -/
def Session.history (s : Session) (objectiveId : String) : List Entry :=
  Queue.history (s.tables objectiveId)

section Sessions

variable (key : List UInt8) (signed : List UInt8 → String → List UInt8 → Bool)
  (casefold : String → String)

/-- The invariant of a session. -/
structure Sound (s : Session) : Prop where
  kept : ∀ id, Kept key signed casefold id (s.tables id) (s.history id)
  seen : ∀ r ∈ s.seen, ∃ event, (event, r) ∈ s.history r.objectiveId

/-- What a transaction that answers a record does: the record is the last entry of its objective,
and the other objectives are as they were. -/
structure Answered (s s' : Session) (objectiveId : String) (record : ObjectiveRecord) : Prop where
  sound : Sound key signed casefold s'
  readable : (s.history objectiveId).length ≤ 2000
  last : ∃ l event, s'.history objectiveId = l ++ [(event, record)]
  grows : s.history objectiveId <+: s'.history objectiveId
  others : ∀ id, id ≠ objectiveId → s'.tables id = s.tables id
  reserving : s'.reserving = s.reserving
  seen : s'.seen = record :: s.seen

/-- What a call that answers has done. -/
inductive Plays (s : Session) : Call → Answer → Session → Prop where
  | enqueue {raw policy owners now approval record s'}
      (hverify : verifyApproval signed casefold raw policy owners now = .ok approval)
      (h : Answered key signed casefold s s' approval.objectiveId record)
      (hhistory : s'.history approval.objectiveId = s.history approval.objectiveId ∨
        s.history approval.objectiveId = [] ∧ record = firstRecord approval now ∧
          s'.history approval.objectiveId = [("approved", record)]) :
      Plays s (.enqueue raw policy owners now) (.record record) s'
  | read {objectiveId record s'} (h : Answered key signed casefold s s' objectiveId record)
      (hhistory : s'.history objectiveId = s.history objectiveId) :
      Plays s (.read objectiveId) (.record record) s'
  | claim {objectiveId worker now leaseSeconds record s' l e event}
      (h : Answered key signed casefold s s' objectiveId record)
      (hlast : s.history objectiveId = l ++ [e])
      (hclaim : claimRecord e.2 worker now leaseSeconds = .ok (record, event))
      (hhistory : s'.history objectiveId = s.history objectiveId ++ [(event, record)]) :
      Plays s (.claim objectiveId worker now leaseSeconds) (.record record) s'
  | update {objectiveId fence now event changes record s' l e}
      (h : Answered key signed casefold s s' objectiveId record)
      (hlast : s.history objectiveId = l ++ [e])
      (hupdate : Updated e.2 fence now changes record)
      (hhistory : s'.history objectiveId = s.history objectiveId ++ [(event, record)]) :
      Plays s (.update objectiveId fence now event changes) (.record record) s'
  | reserve {approval fence now tokens costMicrousd l e reservation}
      (hlast : s.history approval.objectiveId = l ++ [e])
      (hreservation : reservation = ⟨approval.objectiveId, fence, now, tokens, costMicrousd,
        { attempts := some (e.2.attempts + 1)
          reservedTokens := some (e.2.reservedTokens + tokens)
          reservedCostMicrousd := some (e.2.reservedCostMicrousd + costMicrousd) }⟩) :
      Plays s (.reserve approval fence now tokens costMicrousd) (.reading reservation)
        { s with reserving := s.reserving ++ [reservation] }
  | commit {index reservation record s' l e} (hindex : s.reserving[index]? = some reservation)
      (h : Answered key signed casefold s s' reservation.objectiveId record)
      (hlast : s.history reservation.objectiveId = l ++ [e])
      (hupdate : Updated e.2 reservation.fence reservation.now reservation.changes record)
      (hhistory : s'.history reservation.objectiveId =
        s.history reservation.objectiveId ++ [("attempt_budget_reserved", record)]) :
      Plays s (.commit index) (.reserved reservation record) s'
  | idle {index} (hindex : s.reserving[index]? = none) : Plays s (.commit index) .nothing s
  | expire {objectiveId now record s' l e}
      (h : Answered key signed casefold s s' objectiveId record)
      (hlast : s.history objectiveId = l ++ [e])
      (hexpire : expireRecord e.2 now = none ∧ record = e.2 ∧
          s'.history objectiveId = s.history objectiveId ∨
        expireRecord e.2 now = some record ∧
          s'.history objectiveId = s.history objectiveId ++ [("objective_timed_out", record)]) :
      Plays s (.expire objectiveId now) (.record record) s'

variable {key signed casefold} {s s' : Session} {objectiveId : String} {record : ObjectiveRecord}

theorem sound_empty : Sound key signed casefold emptySession where
  kept _ := kept_empty
  seen _ hr := absurd hr List.not_mem_nil

theorem history_update (rows : Rows) (id : String) :
    Session.history { s with tables := Function.update s.tables objectiveId rows } id =
      if id = objectiveId then Queue.history rows else s.history id := by
  unfold Session.history
  dsimp only
  rw [Function.update_apply]
  split <;> rfl

theorem length_of_last {h l : List Entry} {e : Entry} (hlast : h = l ++ [e] ∧ l.length < 2000) :
    h.length ≤ 2000 := by
  rw [hlast.1, List.length_append, List.length_singleton]
  exact hlast.2

/-- A transaction on the rows of an objective. -/
theorem answered_of_transact {body : Rows → Py (ObjectiveRecord × Rows)}
    (hs : Sound key signed casefold s) (h : transact objectiveId body s = .ok (record, s')) :
    ∃ rows', body (s.tables objectiveId) = .ok (record, rows') ∧
      ∀ h', (s.history objectiveId).length ≤ 2000 → Kept key signed casefold objectiveId rows' h' →
        (∃ l event, h' = l ++ [(event, record)]) → s.history objectiveId <+: h' →
        Answered key signed casefold s s' objectiveId record ∧ s'.history objectiveId = h' := by
  unfold transact at h
  obtain ⟨⟨r, rows'⟩, hbody, h⟩ := bind_eq_ok.mp h
  obtain ⟨rfl, rfl⟩ := Prod.mk.inj (Except.ok.inj h)
  refine ⟨rows', hbody, fun h' hreadable hkept hlast hgrows => ?_⟩
  have hhistory : ∀ id, Session.history { s with
      tables := Function.update s.tables objectiveId rows'
      seen := r :: s.seen } id = if id = objectiveId then h' else s.history id := by
    intro id
    rw [← hkept.represents.history_eq]
    exact history_update rows' id
  have hself := (hhistory objectiveId).trans (if_pos rfl)
  have hgrown : ∀ id, s.history id <+: Session.history { s with
      tables := Function.update s.tables objectiveId rows'
      seen := r :: s.seen } id := by
    intro id
    rw [hhistory]
    split
    · rename_i hid
      exact hid ▸ hgrows
    · exact List.prefix_rfl
  refine ⟨⟨⟨fun id => ?_, fun r' hr' => ?_⟩, hreadable, ?_, hself ▸ hgrows, fun id hid => ?_, rfl,
    rfl⟩, hself⟩
  · rw [hhistory]
    by_cases hid : id = objectiveId
    · subst hid
      rw [if_pos rfl]
      dsimp only
      rw [Function.update_self]
      exact hkept
    · rw [if_neg hid]
      dsimp only
      rw [Function.update_of_ne hid]
      exact hs.kept id
  · rcases List.mem_cons.mp hr' with rfl | hr'
    · obtain ⟨l, event, rfl⟩ := hlast
      have hown : r'.objectiveId = objectiveId :=
        hkept.represents.own _ (List.mem_append_right _ List.mem_cons_self)
      refine ⟨event, ?_⟩
      rw [hown, hself]
      exact List.mem_append_right _ List.mem_cons_self
    · obtain ⟨event, hmem⟩ := hs.seen r' hr'
      exact ⟨event, (hgrown _).subset hmem⟩
  · rw [hself]
    exact hlast
  · exact Function.update_of_ne hid _ _

/-- **What a call that answers has done.** -/
theorem plays_of_play (hs : Sound key signed casefold s) {call : Call} {answer : Answer}
    (h : play key signed casefold call s = .ok (answer, s')) :
    Plays key signed casefold s call answer s' := by
  cases call with
  | enqueue raw policy owners now =>
    obtain ⟨approval, hverify, h⟩ := bind_eq_ok.mp h
    obtain ⟨⟨r, s₁⟩, htransact, h⟩ := bind_eq_ok.mp h
    obtain ⟨rfl, rfl⟩ := Prod.mk.inj (Except.ok.inj h)
    obtain ⟨rows', hbody, hanswered⟩ := answered_of_transact hs htransact
    rcases enqueue_spec hverify (hs.kept _) hbody with ⟨hnil, rfl, hkept⟩ | ⟨rfl, l, event, hlast⟩
    · obtain ⟨h, hhistory⟩ := hanswered _ (hnil ▸ Nat.zero_le _) hkept ⟨[], "approved", rfl⟩
        (hnil ▸ List.nil_prefix)
      exact .enqueue hverify h (.inr ⟨hnil, rfl, hhistory⟩)
    · obtain ⟨h, hhistory⟩ := hanswered _ (length_of_last hlast) (hs.kept _) ⟨l, event, hlast.1⟩
        List.prefix_rfl
      exact .enqueue hverify h (.inl hhistory)
  | read objectiveId =>
    obtain ⟨⟨r, s₁⟩, htransact, h⟩ := bind_eq_ok.mp h
    obtain ⟨rfl, rfl⟩ := Prod.mk.inj (Except.ok.inj h)
    obtain ⟨rows', hbody, hanswered⟩ := answered_of_transact hs htransact
    obtain ⟨r', hread, hpair⟩ := map_eq_ok.mp hbody
    obtain ⟨rfl, rfl⟩ := Prod.mk.inj hpair
    obtain ⟨l, event, hlast⟩ := (hs.kept objectiveId).last hread
    obtain ⟨h, hhistory⟩ := hanswered _ (length_of_last hlast) (hs.kept _) ⟨l, event, hlast.1⟩
      List.prefix_rfl
    exact .read h hhistory
  | claim objectiveId worker now leaseSeconds =>
    obtain ⟨⟨r, s₁⟩, htransact, h⟩ := bind_eq_ok.mp h
    obtain ⟨rfl, rfl⟩ := Prod.mk.inj (Except.ok.inj h)
    obtain ⟨rows', hbody, hanswered⟩ := answered_of_transact hs htransact
    obtain ⟨l, e, event, hlast, hclaim, hkept⟩ := claim_spec (hs.kept _) hbody
    obtain ⟨h, hhistory⟩ := hanswered _ (length_of_last hlast) hkept ⟨_, event, rfl⟩
      (List.prefix_append _ _)
    exact .claim h hlast.1 hclaim hhistory
  | update objectiveId fence now event changes =>
    obtain ⟨⟨r, s₁⟩, htransact, h⟩ := bind_eq_ok.mp h
    obtain ⟨rfl, rfl⟩ := Prod.mk.inj (Except.ok.inj h)
    obtain ⟨rows', hbody, hanswered⟩ := answered_of_transact hs htransact
    obtain ⟨l, e, hlast, hupdate, hkept⟩ := update_spec (hs.kept _) hbody
    obtain ⟨h, hhistory⟩ := hanswered _ (length_of_last hlast) hkept ⟨_, event, rfl⟩
      (List.prefix_append _ _)
    exact .update h hlast.1 hupdate hhistory
  | reserve approval fence now tokens costMicrousd =>
    obtain ⟨reservation, hreserve, h⟩ := bind_eq_ok.mp h
    obtain ⟨rfl, rfl⟩ := Prod.mk.inj (Except.ok.inj h)
    unfold reserveAttempt at hreserve
    obtain ⟨-, hreserve⟩ := require_bind_eq_ok.mp hreserve
    obtain ⟨-, hreserve⟩ := require_bind_eq_ok.mp hreserve
    obtain ⟨r, hread, hreserve⟩ := bind_eq_ok.mp hreserve
    obtain ⟨-, hreserve⟩ := require_bind_eq_ok.mp hreserve
    obtain ⟨l, event, hlast, -⟩ := (hs.kept _).last hread
    exact .reserve hlast (Except.ok.inj hreserve).symm
  | commit index =>
    rw [play] at h
    split at h
    · rename_i reservation hindex
      obtain ⟨⟨r, s₁⟩, htransact, h⟩ := bind_eq_ok.mp h
      obtain ⟨rfl, rfl⟩ := Prod.mk.inj (Except.ok.inj h)
      obtain ⟨rows', hbody, hanswered⟩ := answered_of_transact hs htransact
      obtain ⟨l, e, hlast, hupdate, hkept⟩ := update_spec (hs.kept _) hbody
      obtain ⟨h, hhistory⟩ := hanswered _ (length_of_last hlast) hkept ⟨_, _, rfl⟩
        (List.prefix_append _ _)
      exact .commit hindex h hlast.1 hupdate hhistory
    · rename_i hindex
      obtain ⟨rfl, rfl⟩ := Prod.mk.inj (Except.ok.inj h)
      exact .idle hindex
  | expire objectiveId now =>
    obtain ⟨⟨r, s₁⟩, htransact, h⟩ := bind_eq_ok.mp h
    obtain ⟨rfl, rfl⟩ := Prod.mk.inj (Except.ok.inj h)
    obtain ⟨rows', hbody, hanswered⟩ := answered_of_transact hs htransact
    obtain ⟨l, e, hlast, ⟨hnone, rfl, rfl⟩ | ⟨hsome, hkept⟩⟩ := expire_spec (hs.kept _) hbody
    · obtain ⟨h, hhistory⟩ := hanswered _ (length_of_last hlast) (hs.kept _) ⟨l, e.1, hlast.1⟩
        List.prefix_rfl
      exact .expire h hlast.1 (.inl ⟨hnone, rfl, hhistory⟩)
    · obtain ⟨h, hhistory⟩ := hanswered _ (length_of_last hlast) hkept ⟨_, _, rfl⟩
        (List.prefix_append _ _)
      exact .expire h hlast.1 (.inr ⟨hsome, hhistory⟩)

end Sessions

end Queue

end NightRecon.TaskAutomation
