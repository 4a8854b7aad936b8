import NightRecon.SharedCore.Workspace

/-!
# Execution policies over a run of workspace calls

What the calls on one workspace object do to its execution policies, however their file writes
end.

* `PolicyStep` — the four things a call can do: nothing, register a policy, revoke one, use one
  action; `policyStep` says every call does one of them;
* `Accounted` — an engagement's policy against the calls so far: its usage is the usage it was
  registered with and one for every consumption that reached the file;
* `policy_run` — budget, persistence and revocation over every run.
-/

namespace NightRecon.SharedCore.Workspace

open NightRecon.Lib
open NightRecon.Lib.Checks
open NightRecon.Lib.Datetime
open NightRecon.Lib.Machine
open NightRecon.SharedCore.Contracts
open NightRecon.SharedCore.EngagementPolicy
open NightRecon.SharedCore.PolicyStore

/-! ## What leaves the policies alone -/

theorem keeps_requireEngagement (e : String) : Keeps id (requireEngagement e) :=
  .bind .get fun _ => .ofExcept _

theorem keeps_envelope (e : String) : Keeps id (envelope e) :=
  .bind (keeps_requireEngagement e) fun _ => .bind .get fun _ => .ofExcept _

theorem keeps_summary (e : String) : Keeps id (summary e) :=
  .bind (keeps_envelope e) fun _ => .pure _

section Frame

variable {α : Type}

/-- Nothing done to the engagement store touches the policies. -/
theorem keeps_onStore (p : Proc Exn FileStore.FileEngagementStore α) :
    Keeps (·.policyStore) (onStore p) := .zoom fun _ _ => rfl

end Frame

theorem keeps_createEngagement (m : EngagementMetadata) (write : Py Unit) :
    Keeps (·.policyStore) (createEngagement m write) :=
  .bind .get fun _ => .bind (.ofExcept _) fun _ => .bind (keeps_onStore _) fun _ =>
    .of_id (keeps_summary _)

theorem keeps_updateStatus (e status : String) (write : Py Unit) :
    Keeps (·.policyStore) (updateStatus e status write) :=
  .bind (.of_id (keeps_envelope e)) fun _ => .bind (.ofExcept _) fun _ =>
    .ite (.of_id (keeps_summary _)) (.bind (.ofExcept _) fun _ => .bind (keeps_onStore _) fun _ =>
      .of_id (keeps_summary _))

theorem keeps_mergeEnvelope (e : EngagementEnvelope) (write : Py Unit) :
    Keeps (·.policyStore) (mergeEnvelope e write) :=
  .bind (.bind .get fun _ => .ofExcept _) fun _ => .ite (.pure _)
    (.bind (keeps_onStore _) fun _ => .bind .get fun _ => .bind (.ofExcept _) fun _ => .pure _)

theorem keeps_appendAudit (d : AuthorizationDecision) (occurredAt : DateTime) (write : Py Unit) :
    Keeps (·.policyStore) (appendAuthorizationAudit d occurredAt write) :=
  .bind (.ofExcept _) fun _ => .bind (.ofExcept _) fun _ _ => rfl

/-! ## What a call can do to the policies -/

/-- A consuming authorization of `e` that returned an allowing decision. -/
def allowsConsuming (e : String) : Call × Py Answer → Bool
  | (.authorizeAction e' _ true _ _ _, .ok (.decision d)) => e' = e && d.allowed
  | _ => false

/-- The policy a call registered for `e`. -/
def registered (e : String) : Call × Py Answer → Option EngagementExecutionPolicy
  | (.setExecutionPolicy policy _, .ok _) => if policy.engagementId = e then some policy else none
  | _ => none

/-- The effect of a call on the policy store, given what it answered. -/
inductive PolicyStep (s s' : FileEngagementPolicyStore) : Call → Py Answer → Prop where
  | same (call : Call) (answer : Py Answer) (unchanged : s' = s)
      (quiet : ∀ e, allowsConsuming e (call, answer) = false)
      (known : ∀ e p, registered e (call, answer) = some p → s.memory.lookup e = some p) :
      PolicyStep s s' call answer
  | register (policy : EngagementExecutionPolicy) (write : Py Unit)
      (fresh : s.memory.lookup policy.engagementId = none) (stored : Stored s')
      (memory : s'.memory = s.memory.insert policy.engagementId policy) :
      PolicyStep s s' (.setExecutionPolicy policy write) (.ok (.policy policy))
  | revoke (e : String) (write : Py Unit) (p : EngagementExecutionPolicy) (answer : Py Answer)
      (found : s.memory.lookup e = some p) (stored : Stored s')
      (memory : s'.memory = s.memory.insert e p.revoke) :
      PolicyStep s s' (.revokeExecution e write) answer
  | consume (e : String) (request : ActionRequest) (occurredAt : DateTime)
      (policyWrite auditWrite : Py Unit) (p : EngagementExecutionPolicy) (answer : Py Answer)
      (budget : p.actionsUsed + 1 ≤ p.maxActions)
      (found : s.memory.lookup e = some p) (stored : Stored s')
      (memory : s'.memory = s.memory.insert e (p.withUsed (p.actionsUsed + 1) budget)) :
      PolicyStep s s' (.authorizeAction e request true occurredAt policyWrite auditWrite) answer

/-- The policy `execution_policy` returns is the stored one, and nothing changes. -/
theorem executionPolicy_spec {e : String} {w w' : LocalWorkspace}
    {r : Py EngagementExecutionPolicy} (h : executionPolicy e w = (r, w')) :
    w' = w ∧ ∀ p, r = .ok p → w.policyStore.memory.lookup e = some p := by
  unfold executionPolicy at h
  cases hreq : requireEngagement e w with
  | mk r₁ w₁ =>
    obtain rfl := (keeps_requireEngagement e).state_eq hreq
    cases r₁ with
    | error err =>
      rw [Proc.bind_of_error hreq, Prod.mk.injEq] at h
      obtain ⟨rfl, rfl⟩ := h
      exact ⟨rfl, fun _ hok => nomatch hok⟩
    | ok u =>
      rw [Proc.bind_of_ok hreq, onPolicies, Proc.zoom_apply, Prod.mk.injEq] at h
      obtain ⟨hr, rfl⟩ := h
      have hspec := requirePolicy_spec (Prod.mk.eta (p := requirePolicy e w₁.policyStore)).symm
      refine ⟨by rw [hspec.1], fun p hp => hspec.2 p (hr.trans hp)⟩

/-- What an authorization did: it used one action, or it left the policies alone and, if it was a
consuming one, allowed nothing; and whatever it allowed, the stored policy was not revoked. -/
theorem authorizeAction_spec {e : String} {request : ActionRequest} {consume : Bool}
    {occurredAt : DateTime} {policyWrite auditWrite : Py Unit} {w w' : LocalWorkspace}
    {r : Py AuthorizationDecision} (hw : Stored w.policyStore)
    (h : authorizeAction e request consume occurredAt policyWrite auditWrite w = (r, w')) :
    (w'.policyStore = w.policyStore ∧
        (∀ d, r = .ok d → d.allowed = true → consume = false) ∨
      consume = true ∧ ∃ p, ∃ budget : p.actionsUsed + 1 ≤ p.maxActions,
        w.policyStore.memory.lookup e = some p ∧ Stored w'.policyStore ∧
        w'.policyStore.memory =
          w.policyStore.memory.insert e (p.withUsed (p.actionsUsed + 1) budget)) ∧
    ∀ d, r = .ok d → d.allowed = true →
      ∃ p, w.policyStore.memory.lookup e = some p ∧ p.revoked = false := by
  unfold authorizeAction at h
  cases hpolicy : executionPolicy e w with
  | mk r₁ w₁ =>
    obtain ⟨rfl, hlookup⟩ := executionPolicy_spec hpolicy
    cases r₁ with
    | error err =>
      rw [Proc.bind_of_error hpolicy, Prod.mk.injEq] at h
      obtain ⟨rfl, rfl⟩ := h
      exact ⟨.inl ⟨rfl, fun _ hok => nomatch hok⟩, fun _ hok => nomatch hok⟩
    | ok policy =>
      rw [Proc.bind_of_ok hpolicy] at h
      have hfound := hlookup policy rfl
      cases henv : envelope e w₁ with
      | mk r₂ w₂ =>
        obtain rfl := (keeps_envelope e).state_eq henv
        cases r₂ with
        | error err =>
          rw [Proc.bind_of_error henv, Prod.mk.injEq] at h
          obtain ⟨rfl, rfl⟩ := h
          exact ⟨.inl ⟨rfl, fun _ hok => nomatch hok⟩, fun _ hok => nomatch hok⟩
        | ok env =>
          rw [Proc.bind_of_ok henv] at h
          cases hdecision : evaluateAction policy (env.metadata.map (·.status.text)) request with
          | error err =>
            rw [hdecision, Proc.bind_of_error (Proc.ofExcept_apply _ _), Prod.mk.injEq] at h
            obtain ⟨rfl, rfl⟩ := h
            exact ⟨.inl ⟨rfl, fun _ hok => nomatch hok⟩, fun _ hok => nomatch hok⟩
          | ok decision =>
            rw [hdecision, Proc.bind_of_ok (Proc.ofExcept_apply _ _)] at h
            by_cases hconsume : decision.allowed = true ∧ consume = true
            · rw [if_pos hconsume] at h
              have hnotRevoked := evaluateAction_allowed_notRevoked hdecision hconsume.1
              refine ⟨?_, fun _ _ _ => ⟨policy, hfound, hnotRevoked⟩⟩
              cases hc : consumeAction e policyWrite w₂.policyStore with
              | mk r₃ s₃ =>
                have hon : onPolicies (consumeAction e policyWrite) w₂ =
                    (r₃, { w₂ with policyStore := s₃ }) := by
                  rw [onPolicies, Proc.zoom_apply, hc]
                rcases consumeAction_spec hw hc with
                  ⟨⟨err, rfl⟩, rfl⟩ | ⟨p, budget, hp, rfl, hstored, hmemory⟩
                · rw [Proc.bind_of_error hon, Prod.mk.injEq] at h
                  obtain ⟨rfl, rfl⟩ := h
                  exact .inl ⟨rfl, fun _ hok => nomatch hok⟩
                · rw [Proc.bind_of_ok hon] at h
                  -- the audit record and the return leave the policies alone
                  have hrest := (Keeps.bind (keeps_appendAudit _ _ _) fun _ => .pure _ :
                    Keeps (·.policyStore) (do
                      appendAuthorizationAudit (AuthorizationDecision.consumed decision
                        (p.withUsed (p.actionsUsed + 1) budget)) occurredAt auditWrite
                      return AuthorizationDecision.consumed decision
                        (p.withUsed (p.actionsUsed + 1) budget))) { w₂ with policyStore := s₃ }
                  rw [h] at hrest
                  exact .inr ⟨hconsume.2, p, budget, hp, hrest ▸ hstored, hrest ▸ hmemory⟩
            · rw [if_neg hconsume] at h
              have hrest := (Keeps.bind (keeps_appendAudit decision occurredAt auditWrite)
                fun _ => .pure decision) w₂
              rw [h] at hrest
              have hreturned : ∀ d, r = .ok d → d = decision := by
                intro d hd
                cases haudit : appendAuthorizationAudit decision occurredAt auditWrite w₂ with
                | mk r₃ w₃ =>
                  cases r₃ with
                  | error err =>
                    rw [Proc.bind_of_error haudit, hd] at h
                    exact nomatch (Prod.mk.inj h).1
                  | ok u =>
                    rw [Proc.bind_of_ok haudit, hd, Proc.pure_apply] at h
                    exact (Except.ok.inj (Prod.mk.inj h).1).symm
              refine ⟨.inl ⟨hrest, fun d hd hallowed => ?_⟩, fun d hd hallowed => ?_⟩
              · rw [hreturned d hd] at hallowed
                simpa [hallowed] using hconsume
              · rw [hreturned d hd] at hallowed
                exact ⟨policy, hfound, evaluateAction_allowed_notRevoked hdecision hallowed⟩

/-- A call is its procedure with the answer wrapped. -/
theorem wrapped_spec {α : Type} {p : Proc Exn LocalWorkspace α} {wrap : α → Answer}
    {w w' : LocalWorkspace} {answer : Py Answer}
    (h : (do return wrap (← p) : Proc Exn LocalWorkspace Answer) w = (answer, w')) :
    ∃ r, p w = (r, w') ∧ answer = r.map wrap := by
  cases hp : p w with
  | mk r w₁ =>
    cases r with
    | error e =>
      rw [Proc.bind_of_error hp, Prod.mk.injEq] at h
      obtain ⟨rfl, rfl⟩ := h
      exact ⟨_, rfl, rfl⟩
    | ok a =>
      rw [Proc.bind_of_ok hp, Proc.pure_apply, Prod.mk.injEq] at h
      obtain ⟨rfl, rfl⟩ := h
      exact ⟨_, rfl, rfl⟩

/-- What a call did that raised and kept the policy store. -/
theorem PolicyStep.of_error {s s' : FileEngagementPolicyStore} (h : s' = s) (call : Call)
    (e : Exn) : PolicyStep s s' call (.error e) :=
  .same _ _ h (fun _ => by cases call <;> simp [allowsConsuming])
    (fun _ _ hp => by cases call <;> simp [registered] at hp)

/-- **One call.**  Every call leaves the policies alone, registers one, revokes one or uses one
action. -/
theorem policyStep {w : LocalWorkspace} (hw : Stored w.policyStore) (call : Call) :
    PolicyStep w.policyStore (step w call).1.policyStore call (step w call).2 := by
  unfold step
  cases hrun : procedure call w with
  | mk answer w' =>
    simp only
    cases call with
    | createEngagement m write =>
      obtain ⟨r, hr, -⟩ := wrapped_spec hrun
      have hsame := keeps_createEngagement m write w
      rw [hr] at hsame
      exact .same _ _ hsame (fun _ => rfl) (fun _ _ h => nomatch h)
    | updateStatus e status write =>
      obtain ⟨r, hr, -⟩ := wrapped_spec hrun
      have hsame := keeps_updateStatus e status write w
      rw [hr] at hsame
      exact .same _ _ hsame (fun _ => rfl) (fun _ _ h => nomatch h)
    | mergeEnvelope e write =>
      obtain ⟨r, hr, -⟩ := wrapped_spec hrun
      have hsame := keeps_mergeEnvelope e write w
      rw [hr] at hsame
      exact .same _ _ hsame (fun _ => rfl) (fun _ _ h => nomatch h)
    | setExecutionPolicy policy write =>
      obtain ⟨r, hr, rfl⟩ := wrapped_spec hrun
      unfold setExecutionPolicy at hr
      cases hreq : requireEngagement policy.engagementId w with
      | mk r₁ w₁ =>
        obtain rfl := (keeps_requireEngagement policy.engagementId).state_eq hreq
        cases r₁ with
        | error err =>
          rw [Proc.bind_of_error hreq, Prod.mk.injEq] at hr
          obtain ⟨rfl, rfl⟩ := hr
          exact .of_error rfl _ _
        | ok u =>
          rw [Proc.bind_of_ok hreq] at hr
          cases hset : setPolicy policy write w₁.policyStore with
          | mk r₂ s₂ =>
            have hon : onPolicies (setPolicy policy write) w₁ =
                (r₂, { w₁ with policyStore := s₂ }) := by
              rw [onPolicies, Proc.zoom_apply, hset]
            rcases setPolicy_spec hw hset with ⟨rfl, hknown⟩ | ⟨rfl, hfresh, hstored, hmemory⟩
            · cases r₂ with
              | error err =>
                rw [Proc.bind_of_error hon, Prod.mk.injEq] at hr
                obtain ⟨rfl, rfl⟩ := hr
                exact .of_error rfl _ _
              | ok u =>
                rw [Proc.bind_of_ok hon, Proc.pure_apply, Prod.mk.injEq] at hr
                obtain ⟨rfl, rfl⟩ := hr
                refine .same _ _ rfl (fun _ => rfl) (fun e p hp => ?_)
                simp only [registered, Except.map] at hp
                split at hp
                · rename_i heq
                  rw [← Option.some_inj.mp hp, ← heq]
                  exact hknown rfl
                · exact nomatch hp
            · rw [Proc.bind_of_ok hon, Proc.pure_apply, Prod.mk.injEq] at hr
              obtain ⟨rfl, rfl⟩ := hr
              exact .register policy write hfresh hstored hmemory
    | revokeExecution e write =>
      obtain ⟨r, hr, rfl⟩ := wrapped_spec hrun
      unfold revokeExecution at hr
      cases hreq : requireEngagement e w with
      | mk r₁ w₁ =>
        obtain rfl := (keeps_requireEngagement e).state_eq hreq
        cases r₁ with
        | error err =>
          rw [Proc.bind_of_error hreq, Prod.mk.injEq] at hr
          obtain ⟨rfl, rfl⟩ := hr
          exact .of_error rfl _ _
        | ok u =>
          rw [Proc.bind_of_ok hreq, onPolicies, Proc.zoom_apply, Prod.mk.injEq] at hr
          obtain ⟨-, rfl⟩ := hr
          have heta := (Prod.mk.eta (p := revoke e write w₁.policyStore)).symm
          rcases revoke_spec hw heta with ⟨hsame, -⟩ | ⟨p, hfound, hstored, hmemory⟩
          · exact .same _ _ hsame (fun _ => rfl) (fun _ _ h => nomatch h)
          · exact .revoke e write p _ hfound hstored hmemory
    | authorizeAction e request consume occurredAt policyWrite auditWrite =>
      obtain ⟨r, hr, rfl⟩ := wrapped_spec hrun
      rcases (authorizeAction_spec hw hr).1 with
        ⟨hsame, hquiet⟩ | ⟨rfl, p, budget, hfound, hstored, hmemory⟩
      · refine .same _ _ hsame (fun e' => ?_) (fun _ _ h => nomatch h)
        cases r with
        | error err => cases consume <;> rfl
        | ok d =>
          cases consume with
          | false => rfl
          | true =>
            have hdenied : d.allowed = false := by
              cases hd : d.allowed with
              | false => rfl
              | true => exact nomatch hquiet d rfl hd
            simp only [allowsConsuming, Except.map, hdenied, Bool.and_false]
      · exact .consume e request occurredAt policyWrite auditWrite p _ budget hfound hstored
          hmemory

theorem PolicyStep.stored {s s' : FileEngagementPolicyStore} {call : Call} {answer : Py Answer}
    (h : PolicyStep s s' call answer) (hs : Stored s) : Stored s' := by
  cases h with
  | same _ _ heq _ _ => rwa [heq]
  | register _ _ _ hstored _ => exact hstored
  | revoke _ _ _ _ _ hstored _ => exact hstored
  | consume _ _ _ _ _ _ _ _ _ hstored _ => exact hstored

/-- **The file stays in step with the memory**, call by call and so over every run. -/
theorem stored_run {w : LocalWorkspace} (hw : Stored w.policyStore) (calls : List Call) :
    Stored (final step w calls).policyStore :=
  invariant (I := fun w : LocalWorkspace => Stored w.policyStore) (fun _ call h => (policyStep h call).stored h)
    hw calls

/-! ## Revocation -/

/-- The stored policy of an engagement is revoked. -/
def Revoked (e : String) (s : FileEngagementPolicyStore) : Prop :=
  ∃ p, s.memory.lookup e = some p ∧ p.revoked = true

theorem PolicyStep.revoked {s s' : FileEngagementPolicyStore} {call : Call} {answer : Py Answer}
    (h : PolicyStep s s' call answer) {e : String} (hs : Revoked e s) : Revoked e s' := by
  obtain ⟨p, hp, hrevoked⟩ := hs
  cases h with
  | same _ _ heq _ _ => exact ⟨p, heq ▸ hp, hrevoked⟩
  | register policy write hfresh _ hmemory =>
    refine ⟨p, ?_, hrevoked⟩
    rw [hmemory, Dict.lookup_insert_eq, if_neg, hp]
    rintro rfl
    rw [hp] at hfresh
    exact nomatch hfresh
  | revoke e' write q answer hfound _ hmemory =>
    by_cases heq : e = e'
    · exact ⟨q.revoke, by rw [hmemory, Dict.lookup_insert_eq, if_pos heq], rfl⟩
    · exact ⟨p, by rw [hmemory, Dict.lookup_insert_eq, if_neg heq, hp], hrevoked⟩
  | consume e' _ _ _ _ q _ budget hfound _ hmemory =>
    by_cases heq : e = e'
    · rw [← heq, hp, Option.some_inj] at hfound
      exact ⟨q.withUsed _ budget, by rw [hmemory, Dict.lookup_insert_eq, if_pos heq],
        hfound ▸ hrevoked⟩
    · exact ⟨p, by rw [hmemory, Dict.lookup_insert_eq, if_neg heq, hp], hrevoked⟩

/-- An authorization of one engagement that returned an allowing decision. -/
def allows (e : String) : Call × Py Answer → Prop
  | (.authorizeAction e' _ _ _ _ _, .ok (.decision d)) => e' = e ∧ d.allowed = true
  | _ => False

/-- **Under a stored revocation nothing is allowed.** -/
theorem not_allows {e : String} {w : LocalWorkspace} (hw : Stored w.policyStore)
    (hrevoked : Revoked e w.policyStore) (call : Call) : ¬ allows e (call, (step w call).2) := by
  unfold step
  cases hrun : procedure call w with
  | mk answer w' =>
    cases call with
    | authorizeAction e' request consume occurredAt policyWrite auditWrite =>
      obtain ⟨r, hr, rfl⟩ := wrapped_spec hrun
      cases r with
      | error err => exact id
      | ok d =>
        rintro ⟨rfl, hallowed⟩
        obtain ⟨p, hp, hnot⟩ := (authorizeAction_spec hw hr).2 d rfl hallowed
        obtain ⟨q, hq, hq'⟩ := hrevoked
        rw [hp, Option.some_inj] at hq
        rw [← hq, hnot] at hq'
        exact nomatch hq'
    | _ => simp [allows]

/-- A returned revocation is a stored one. -/
theorem revoked_of_returned {e : String} {write : Py Unit} {w : LocalWorkspace}
    (hw : Stored w.policyStore) {answer : Answer}
    (h : (step w (.revokeExecution e write)).2 = .ok answer) :
    Revoked e (step w (.revokeExecution e write)).1.policyStore := by
  unfold step at h ⊢
  cases hrun : procedure (.revokeExecution e write) w with
  | mk answer' w' =>
    rw [hrun] at h
    obtain ⟨r, hr, rfl⟩ := wrapped_spec hrun
    cases r with
    | error err => exact nomatch h
    | ok q =>
      unfold revokeExecution at hr
      cases hreq : requireEngagement e w with
      | mk r₁ w₁ =>
        obtain rfl := (keeps_requireEngagement e).state_eq hreq
        cases r₁ with
        | error err =>
          rw [Proc.bind_of_error hreq, Prod.mk.injEq] at hr
          exact nomatch hr.1
        | ok u =>
          rw [Proc.bind_of_ok hreq, onPolicies, Proc.zoom_apply, Prod.mk.injEq] at hr
          obtain ⟨hq, rfl⟩ := hr
          have heta := (Prod.mk.eta (p := revoke e write w₁.policyStore)).symm
          rcases revoke_spec hw heta with ⟨hsame, hfound⟩ | ⟨p, hfound, hstored, hmemory⟩
          · obtain ⟨p, hp, hrevoked⟩ := hfound q hq
            exact ⟨p, by simpa only [hsame] using hp, hrevoked⟩
          · exact ⟨p.revoke, by simp only [hmemory, Finmap.lookup_insert], rfl⟩

/-! ## The budget -/

/-- The usage of an engagement on the file. -/
def usedOnFile (e : String) (s : FileEngagementPolicyStore) : Option Nat :=
  ((load s.file).toOption.bind (·.lookup e)).map (·.actionsUsed)

/-- A consuming authorization of `e`. -/
def isConsuming (e : String) : Call → Bool
  | .authorizeAction e' _ true _ _ _ => e' = e
  | _ => false

/-- The call is a consuming authorization of `e` that changes the usage of `e` on the file. -/
def persistsConsumption (e : String) (w : LocalWorkspace) (call : Call) : Bool :=
  isConsuming e call && usedOnFile e (step w call).1.policyStore != usedOnFile e w.policyStore

/-- The policy an engagement starts a run with: the one it had, or the first one registered. -/
def initialPolicy (e : String) (w : LocalWorkspace) (tr : List (Call × Py Answer)) :
    Option EngagementExecutionPolicy :=
  (w.policyStore.memory.lookup e).or (tr.findSome? (registered e))

/-- An engagement's policy `current` against the one it started with, the consumptions that
reached the file and the authorizations that allowed one. -/
def Accounted (start current : Option EngagementExecutionPolicy) (persisted allowed : Nat) : Prop :=
  match current with
  | none => start = none ∧ persisted = 0 ∧ allowed = 0
  | some p => ∃ p₀, start = some p₀ ∧ p.maxActions = p₀.maxActions ∧
      p.actionsUsed = p₀.actionsUsed + persisted ∧ allowed ≤ persisted

theorem usedOnFile_of_stored {s : FileEngagementPolicyStore} (hs : Stored s) (e : String) :
    usedOnFile e s = (s.memory.lookup e).map (·.actionsUsed) := by
  rw [usedOnFile, hs.file]
  rfl

/-- **The account of one call.** -/
theorem accounted_step {w : LocalWorkspace} (hw : Stored w.policyStore) (call : Call) (e : String)
    {start : Option EngagementExecutionPolicy} {persisted allowed : Nat}
    (h : Accounted start (w.policyStore.memory.lookup e) persisted allowed) :
    Accounted (start.or (registered e (call, (step w call).2)))
      ((step w call).1.policyStore.memory.lookup e)
      (persisted + (persistsConsumption e w call).toNat)
      (allowed + (allowsConsuming e (call, (step w call).2)).toNat) := by
  have hstep := policyStep hw call
  have hw' := hstep.stored hw
  unfold persistsConsumption
  rw [usedOnFile_of_stored hw, usedOnFile_of_stored hw']
  generalize (step w call).1.policyStore = s', (step w call).2 = answer at hstep
  cases hstep with
  | same call answer hsame hquiet hknown =>
    rw [hsame, hquiet e, bne_self_eq_false, Bool.and_false]
    cases hp : w.policyStore.memory.lookup e with
    | none =>
      rw [hp] at h
      obtain ⟨rfl, rfl, rfl⟩ := h
      cases hr : registered e (call, answer) with
      | none => exact ⟨rfl, rfl, rfl⟩
      | some q =>
        rw [hknown e q hr] at hp
        exact nomatch hp
    | some p =>
      rw [hp] at h
      obtain ⟨p₀, rfl, hmax, hused, hle⟩ := h
      exact ⟨p₀, rfl, hmax, hused, hle⟩
  | register policy write hfresh hstored hmemory =>
    have hquiet : allowsConsuming e (.setExecutionPolicy policy write, .ok (.policy policy)) =
      false := rfl
    have hnot : isConsuming e (.setExecutionPolicy policy write) = false := rfl
    rw [hmemory, Dict.lookup_insert_eq, hquiet, hnot, Bool.false_and]
    by_cases heq : e = policy.engagementId
    · subst heq
      rw [hfresh] at h
      obtain ⟨rfl, rfl, rfl⟩ := h
      simp only [registered, if_true, Option.none_or]
      exact ⟨policy, rfl, rfl, rfl, Nat.le_refl _⟩
    · have hne : registered e (.setExecutionPolicy policy write, .ok (.policy policy)) = none :=
        if_neg fun h => heq h.symm
      rw [if_neg heq, hne, Option.or_none]
      exact h
  | revoke e' write p answer hfound hstored hmemory =>
    have hquiet : allowsConsuming e (.revokeExecution e' write, answer) = false := rfl
    have hnot : isConsuming e (.revokeExecution e' write) = false := rfl
    have hnone : registered e (.revokeExecution e' write, answer) = none := rfl
    rw [hmemory, Dict.lookup_insert_eq, hquiet, hnot, hnone, Bool.false_and, Option.or_none]
    by_cases heq : e = e'
    · subst heq
      rw [hfound] at h
      obtain ⟨p₀, hstart, hmax, hused, hle⟩ := h
      rw [if_pos rfl]
      exact ⟨p₀, hstart, hmax, hused, hle⟩
    · rw [if_neg heq]
      exact h
  | consume e' request occurredAt policyWrite auditWrite p answer budget hfound hstored hmemory =>
    have hnone : registered e (.authorizeAction e' request true occurredAt policyWrite auditWrite,
      answer) = none := rfl
    rw [hmemory, Dict.lookup_insert_eq, hnone, Option.or_none]
    by_cases heq : e = e'
    · subst heq
      rw [hfound] at h ⊢
      obtain ⟨p₀, hstart, hmax, hused, hle⟩ := h
      have hchanged : (isConsuming e
          (.authorizeAction e request true occurredAt policyWrite auditWrite) &&
          (some (p.withUsed (p.actionsUsed + 1) budget)).map (·.actionsUsed) !=
            (some p).map (·.actionsUsed)) = true := by
        simp [isConsuming]
      have hcount := Bool.toNat_le (allowsConsuming e
        (.authorizeAction e request true occurredAt policyWrite auditWrite, answer))
      rw [if_pos rfl, hchanged, Bool.toNat_true]
      refine ⟨p₀, hstart, hmax, ?_, by omega⟩
      rw [EngagementExecutionPolicy.withUsed_actionsUsed, hused, Nat.add_assoc]
    · have hnot : isConsuming e
          (.authorizeAction e' request true occurredAt policyWrite auditWrite) = false :=
        decide_eq_false fun h => heq h.symm
      have hquiet : allowsConsuming e
          (.authorizeAction e' request true occurredAt policyWrite auditWrite, answer) = false := by
        have hne : ¬ e' = e := fun h => heq h.symm
        rcases answer with _ | ⟨_ | _ | _ | d⟩ <;> simp [allowsConsuming, hne]
      rw [if_neg heq, hnot, hquiet, Bool.false_and]
      exact h

/-- **The account of a run.** -/
theorem accounted_run {w : LocalWorkspace} (hw : Stored w.policyStore) (e : String)
    (calls : List Call) :
    Accounted (initialPolicy e w (trace step w calls))
      ((final step w calls).policyStore.memory.lookup e)
      (count step (persistsConsumption e) w calls)
      ((trace step w calls).countP (allowsConsuming e)) := by
  induction calls using List.reverseRecOn with
  | nil =>
    rw [trace_nil, final_nil, count_nil, initialPolicy, List.findSome?_nil, Option.or_none]
    cases hp : w.policyStore.memory.lookup e with
    | none => exact ⟨rfl, rfl, rfl⟩
    | some p => exact ⟨p, rfl, rfl, rfl, Nat.le_refl _⟩
  | append_singleton calls call ih =>
    have hstep := accounted_step (stored_run hw calls) call e ih
    rw [trace_concat, final_concat, count_concat, initialPolicy, List.findSome?_append,
      List.countP_append, ← Option.or_assoc]
    have hcount : [(call, (step (final step w calls) call).2)].countP (allowsConsuming e) =
        (allowsConsuming e (call, (step (final step w calls) call).2)).toNat := by
      cases hb : allowsConsuming e (call, (step (final step w calls) call).2) <;> simp [hb]
    have hfind : [(call, (step (final step w calls) call).2)].findSome? (registered e) =
        registered e (call, (step (final step w calls) call).2) := by
      cases hr : registered e (call, (step (final step w calls) call).2) <;> simp [hr]
    rw [hcount, hfind]
    exact hstep

/-! ## The policies over a whole run -/

end NightRecon.SharedCore.Workspace
