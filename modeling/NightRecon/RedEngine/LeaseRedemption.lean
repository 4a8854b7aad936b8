import NightRecon.RedEngine.TransactionalPolicyAuthority

/-!
# Redeeming a reserved action

What `validate_reserved` of the transactional policy authority binds a lease to.  A reservation row
holds the engagement and the action identifier and nothing of the action it was granted for, so a
redemption is judged by the policy in force, on the action it is asked for now.

* `Granted` — a call of the run that reserved the action, and what it was granted for;
* `granted_of_mem` — every reservation in the table is one the run started with or granted;
* `redeemed` — what a successful redemption says about grant and policy;
* `redeemed_for_other` — the redeemed action need not be the granted one.
-/

namespace NightRecon.RedEngine.TransactionalPolicyAuthority

open NightRecon.Lib
open NightRecon.Lib.Checks
open NightRecon.Lib.Machine
open NightRecon.SharedCore.EngagementPolicy

/-! ## Grants -/

/-- Some call of the run reserved the action: the policy of that moment allowed the request. -/
def Granted (t₀ : Tables) (calls : List Call) (e a : String) : Prop :=
  ∃ before after request row policy decision, calls = before ++ .reserve e a request :: after ∧
    (final step t₀ before).authority.lookup e = some row ∧ row.policy = .ok policy ∧
    evaluateAction policy (some row.engagementStatus) request = .ok decision ∧
    decision.allowed = true

theorem Granted.concat {t₀ : Tables} {calls : List Call} {e a : String}
    (h : Granted t₀ calls e a) (call : Call) : Granted t₀ (calls ++ [call]) e a := by
  obtain ⟨before, after, request, row, policy, decision, rfl, hgrant⟩ := h
  exact ⟨before, after ++ [call], request, row, policy, decision, by simp, hgrant⟩

/-- A call adds no reservation but the one a successful `reserve` grants. -/
theorem reservations_step {t : Tables} {call : Call} {e a : String}
    (h : (e, a) ∈ (step t call).1.reservations) :
    (e, a) ∈ t.reservations ∨ ∃ request row policy decision, call = .reserve e a request ∧
      t.authority.lookup e = some row ∧ row.policy = .ok policy ∧
      evaluateAction policy (some row.engagementStatus) request = .ok decision ∧
      decision.allowed = true := by
  cases hans : (step t call).2 with
  | error err =>
    have hsame : (step t call).1 = t := transaction_error hans
    rw [hsame] at h
    exact .inl h
  | ok answer =>
    have hbody : body call t = .ok (answer, (step t call).1) := transaction_ok hans
    generalize (step t call).1 = t' at hbody h
    cases call with
    | register policy status =>
      obtain ⟨⟨u, t₁⟩, hr, heq⟩ := map_eq_ok.mp hbody
      obtain ⟨-, rfl⟩ := Prod.mk.inj heq
      simp only [register, bind_eq_ok, require_eq_ok, pure_eq_ok, Except.ok.injEq,
        Prod.mk.injEq] at hr
      obtain ⟨-, -, t₂, hinsert, -, rfl⟩ := hr
      obtain ⟨-, -, rfl⟩ := insertPolicy_eq_ok.mp hinsert
      exact .inl h
    | setStatus e' status =>
      obtain ⟨⟨u, t₁⟩, hr, heq⟩ := map_eq_ok.mp hbody
      obtain ⟨-, rfl⟩ := Prod.mk.inj heq
      obtain ⟨row, -, rfl⟩ := setStatus_eq_ok hr
      exact .inl h
    | revoke e' =>
      obtain ⟨⟨u, t₁⟩, hr, heq⟩ := map_eq_ok.mp hbody
      obtain ⟨-, rfl⟩ := Prod.mk.inj heq
      obtain ⟨row, data, -, -, rfl⟩ := revoke_eq_ok hr
      exact .inl h
    | reserve e' a' request =>
      obtain ⟨⟨d, t₁⟩, hr, heq⟩ := map_eq_ok.mp hbody
      obtain ⟨-, rfl⟩ := Prod.mk.inj heq
      obtain ⟨row, policy, decision, hrow, hpolicy, hdecision, hallowed, -, rfl⟩ :=
        reserve_eq_ok hr
      rcases List.mem_cons.mp h with heq | h
      · obtain ⟨rfl, rfl⟩ := Prod.mk.inj heq
        exact .inr ⟨request, row, policy, decision, rfl, hrow, hpolicy, hdecision, hallowed⟩
      · exact .inl h
    | validateReserved e' a' request =>
      obtain ⟨⟨u, t₁⟩, hr, heq⟩ := map_eq_ok.mp hbody
      obtain ⟨-, rfl⟩ := Prod.mk.inj heq
      obtain ⟨rfl, -⟩ := validateReserved_eq_ok hr
      exact .inl h
    | importLegacy file given bytes now =>
      obtain ⟨⟨n, t₁⟩, hr, heq⟩ := map_eq_ok.mp hbody
      obtain ⟨-, rfl⟩ := Prod.mk.inj heq
      obtain ⟨payload, news, t₂, -, -, -, hinsert, -, hreservations⟩ := importLegacy_eq_ok hr
      have hkept : t₂.reservations = t.reservations := by
        refine foldlM_induct (P := fun _ t' => t'.reservations = t.reservations) ?_ news [] t t₂
          rfl hinsert
        intro done policy t₃ t₄ hkept hstep
        rw [bind_eq_ok] at hstep
        obtain ⟨status, -, hinsert⟩ := hstep
        obtain ⟨-, -, rfl⟩ := insertPolicy_eq_ok.mp hinsert
        exact hkept
      rw [hreservations, hkept] at h
      exact .inl h

/-- **Every reservation of a run was there before or granted by it.** -/
theorem granted_of_mem {t₀ : Tables} {e a : String} (calls : List Call)
    (h : (e, a) ∈ (final step t₀ calls).reservations) :
    (e, a) ∈ t₀.reservations ∨ Granted t₀ calls e a := by
  induction calls using List.reverseRecOn with
  | nil => exact .inl h
  | append_singleton calls call ih =>
    rw [final_concat] at h
    rcases reservations_step h with h | ⟨request, row, policy, decision, rfl, hgrant⟩
    · rcases ih h with h | h
      · exact .inl h
      · exact .inr (h.concat call)
    · exact .inr ⟨calls, [], request, row, policy, decision, rfl, hgrant⟩

/-! ## Redemptions -/

/-- **What a successful redemption rests on**, after any interleaving of the calls: the action was
reserved, by a call the policy of its time allowed; and the request redeemed now has valid
arguments and passes status, revocation, validity window, capability, scope and approval of the
policy stored now. -/
theorem redeemed (t₀ : Tables) (calls : List Call) (e a : String) (request : ActionRequest)
    (answer : Answer)
    (h : (step (final step t₀ calls) (.validateReserved e a request)).2 = .ok answer) :
    ((e, a) ∈ t₀.reservations ∨ Granted t₀ calls e a) ∧
      ∃ row policy r, (final step t₀ calls).authority.lookup e = some row ∧
        row.policy = .ok policy ∧ request.check (some row.engagementStatus) = .ok r ∧
        Passed policy r := by
  have hbody : body (.validateReserved e a request) (final step t₀ calls) =
      .ok (answer, (step (final step t₀ calls) (.validateReserved e a request)).1) :=
    transaction_ok h
  obtain ⟨⟨u, t₁⟩, hr, -⟩ := map_eq_ok.mp hbody
  have hmem : (e, a) ∈ (final step t₀ calls).reservations := by
    unfold validateReserved at hr
    simp only [bind_eq_ok, require_eq_ok] at hr
    obtain ⟨-, -, -, hmem, -⟩ := hr
    exact hmem
  obtain ⟨-, row, policy, decision, hrow, hpolicy, hdecision, hallowed⟩ :=
    validateReserved_eq_ok hr
  unfold evaluateReservedAction at hdecision
  simp only [bind_eq_ok, pure_eq_ok, Except.ok.injEq] at hdecision
  obtain ⟨r, hcheck, rfl⟩ := hdecision
  exact ⟨granted_of_mem calls hmem, row, policy, r, hrow, hpolicy, hcheck,
    reservedGate_allowed_iff.mp hallowed⟩

/-! ## The redeemed action and the granted one -/

/-- Every redemption of a run is of the capability, target and impact some call of the run reserved
the action for. -/
def BindsAction (t₀ : Tables) : Prop :=
  ∀ calls e a request answer,
    (step (final step t₀ calls) (.validateReserved e a request)).2 = .ok answer →
      ∃ granted d, (Call.reserve e a granted, Except.ok (Answer.reserved d)) ∈
          trace step t₀ calls ∧ granted.capability = request.capability ∧
        granted.target = request.target ∧ granted.impact = request.impact

/-- A policy with two capabilities, in force through 2030. -/
def twoCapabilitiesArgs : PolicyArgs where
  engagementId := "e"
  scope := ["10.0.0.0/8"]
  validFrom := "2030-01-01T00:00:00+00:00"
  validUntil := "2030-12-31T00:00:00+00:00"
  maxActions := 1
  permittedCapabilities := ["exploit", "scan"]
  maxImpact := "standard"
  approvalRequiredCapabilities := []
  revoked := false
  actionsUsed := 0

def scanRequest : ActionRequest where
  capability := "scan"
  target := "10.0.0.1"
  impact := "low"
  approvalPresent := false
  now := (Datetime.fromisoformat "2030-06-01T00:00:00+00:00").getD ⟨0, some 0⟩

def exploitRequest : ActionRequest where
  capability := "exploit"
  target := "10.0.0.2"
  impact := "standard"
  approvalPresent := false
  now := (Datetime.fromisoformat "2030-06-01T00:00:00+00:00").getD ⟨0, some 0⟩

/-- The policy is registered and a scan of one host reserved. -/
def scanReserved (policy : EngagementExecutionPolicy) : List Call :=
  [.register policy "active", .reserve "e" "a" scanRequest]

/-- The call that redeems it for an exploit of another host returns. -/
theorem exploit_returns : ∃ policy answer, (step (final step .empty (scanReserved policy))
    (.validateReserved "e" "a" exploitRequest)).2 = .ok answer := by
  have hrun : twoCapabilitiesArgs.make.toOption.map (fun policy =>
      (step (final step .empty (scanReserved policy))
        (.validateReserved "e" "a" exploitRequest)).2.toOption.isSome) = some true := by
    decide +kernel
  obtain ⟨policy, -, hpolicy⟩ := Option.map_eq_some_iff.mp hrun
  obtain ⟨answer, hanswer⟩ := Option.isSome_iff_exists.mp hpolicy
  exact ⟨policy, answer, eq_ok_of_toOption hanswer⟩

/-- The lease of a scan is redeemed for an exploit of another host. -/
theorem redeemed_for_other : ¬ BindsAction .empty := by
  intro hbinds
  obtain ⟨policy, answer, hok⟩ := exploit_returns
  obtain ⟨granted, d, hmem, hcapability, -, -⟩ := hbinds _ _ _ _ _ hok
  -- the run has one `reserve` call, and it asked for a scan
  simp only [scanReserved, trace_cons, trace_nil, List.mem_cons, Prod.mk.injEq, reduceCtorEq,
    Call.reserve.injEq, false_and, false_or, List.not_mem_nil, or_false] at hmem
  obtain ⟨⟨-, -, rfl⟩, -⟩ := hmem
  exact absurd hcapability (by decide)

/-- The lease of that scan, redeemed for the exploit, rests on its grant and on the policy. -/
theorem redeemed_exploit : ∃ policy, ((("e", "a") ∈ Tables.empty.reservations ∨
      Granted .empty (scanReserved policy) "e" "a") ∧
    ∃ row policy' r, (final step .empty (scanReserved policy)).authority.lookup "e" = some row ∧
      row.policy = .ok policy' ∧
      exploitRequest.check (some row.engagementStatus) = .ok r ∧ Passed policy' r) := by
  obtain ⟨policy, answer, hok⟩ := exploit_returns
  exact ⟨policy, redeemed .empty (scanReserved policy) "e" "a" exploitRequest answer hok⟩

end NightRecon.RedEngine.TransactionalPolicyAuthority
