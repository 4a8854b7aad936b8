import NightRecon.Exceptions
import NightRecon.Lib.Machine
import NightRecon.Lib.Tally

/-!
# Request budgets of a DAST run

`nightrecon_red_engine/dast_policy.py`: every request of a safe-active check is authorized against
the usage so far and then reserved, and between the two anything may happen.

* `DastCheckDefinition`, `DastBudgetPolicy` — the limits of one check, and of a run and its
  families;
* `DastBudgetState` — three nested counts, the outer one being the sum of each of the inner two;
* `authorizeDastRequest`, `reserveDastRequest` — a decision on a state, and its redemption on a
  later one;
* `Session`, `Call`, `step` — one state threaded through the reservations, and every decision ever
  given, to be redeemed at any time;
* `reservation_effect` — what one successful reservation does;
* `budget_run` — limits, sums and single redemption over every interleaving.
-/

namespace NightRecon.RedEngine.DastPolicy

open NightRecon.Lib
open NightRecon.Lib.Assoc
open NightRecon.Lib.Checks
open NightRecon.Lib.Machine
open NightRecon.Lib.Tally
open NightRecon.Lib.Text

/-! ## Checks and limits -/

def safeActiveMethods : List String := ["GET", "HEAD", "OPTIONS"]

/-- The arguments of a check definition that its constructor looks at. -/
structure CheckArgs where
  checkId : String
  name : String
  family : String
  maxRequests : Int
  allowedMethods : List String

/-- Source: `dast_policy.py` `DastCheckDefinition`. -/
structure DastCheckDefinition where
  checkId : String
  name : String
  family : String
  maxRequests : Nat
  allowedMethods : List String
  checkId_filled : strip checkId ≠ ""
  name_filled : strip name ≠ ""
  family_filled : strip family ≠ ""
  maxRequests_pos : 0 < maxRequests
  methods_nonempty : allowedMethods ≠ []
  methods_safe : ∀ m ∈ allowedMethods, m ∈ safeActiveMethods

/-- Methods are trimmed and upper-cased, and each is kept once.  Nothing is assumed of the case
mapping `upper`. -/
def normalMethods (upper : String → String) (methods : List String) : List String :=
  ((methods.filter fun m => strip m ≠ "").map fun m => upper (strip m)).foldl
    (fun kept m => if m ∈ kept then kept else kept ++ [m]) []

/-- Source: `dast_policy.py` `DastCheckDefinition.__post_init__`. -/
def CheckArgs.make (upper : String → String) (a : CheckArgs) : Py DastCheckDefinition := do
  let h₁ ← prove (strip a.checkId ≠ "") (valueError "check_id must not be empty.")
  let h₂ ← prove (strip a.name ≠ "") (valueError "name must not be empty.")
  let h₃ ← prove (strip a.family ≠ "") (valueError "family must not be empty.")
  let h₄ ← prove (0 < a.maxRequests.toNat) (valueError "max_requests must be at least 1.")
  let methods := normalMethods upper a.allowedMethods
  let h₅ ← prove (methods ≠ [])
    (valueError "allowed_methods must include at least one HTTP method.")
  let h₆ ← prove (∀ m ∈ methods, m ∈ safeActiveMethods)
    (valueError "Safe-active DAST checks may use only GET, HEAD, or OPTIONS.")
  return ⟨a.checkId, a.name, a.family, a.maxRequests.toNat, methods, h₁.down, h₂.down, h₃.down,
    h₄.down, h₅.down, h₆.down⟩

/-- Source: `dast_policy.py` `DastBudgetPolicy`. -/
structure DastBudgetPolicy where
  maxTotalRequests : Nat
  defaultFamilyRequests : Nat
  familyLimits : List (String × Nat)
  maxTotalRequests_pos : 0 < maxTotalRequests
  defaultFamilyRequests_pos : 0 < defaultFamilyRequests

/-- One entry of `family_limits`, entered under its trimmed name. -/
def readLimit (normalized : List (String × Nat)) (entry : String × Int) :
    Py (List (String × Nat)) := do
  raiseIf (strip entry.1 = "") (valueError "family limit names must not be empty.")
  raiseIf (entry.2 < 1) (valueError "family request limits must be at least 1.")
  raiseIf (strip entry.1 ∈ keys normalized)
    (valueError ("Duplicate family request limit: " ++ strip entry.1))
  return normalized ++ [(strip entry.1, entry.2.toNat)]

/-- Source: `dast_policy.py` `DastBudgetPolicy.__post_init__`. -/
def DastBudgetPolicy.make (maxTotalRequests defaultFamilyRequests : Int)
    (familyLimits : List (String × Int)) : Py DastBudgetPolicy := do
  let ⟨h₁⟩ ← prove (0 < maxTotalRequests.toNat)
    (valueError "max_total_requests must be at least 1.")
  let ⟨h₂⟩ ← prove (0 < defaultFamilyRequests.toNat)
    (valueError "default_family_requests must be at least 1.")
  let normalized ← familyLimits.foldlM readLimit []
  return ⟨maxTotalRequests.toNat, defaultFamilyRequests.toNat, sortedBy Prod.fst normalized,
    h₁, h₂⟩

/-- Source: `dast_policy.py` `DastBudgetPolicy.family_limit`. -/
def DastBudgetPolicy.familyLimit (p : DastBudgetPolicy) (family : String) : Nat :=
  if family ∈ keys p.familyLimits then usage p.familyLimits family else p.defaultFamilyRequests

/-! ## The state of the budget -/

/-- The labels of a usage list: none blank, none twice. -/
def checkLabels (labelName : String) (seen : List String) : List (String × Nat) → Py Unit
  | [] => .ok ()
  | (label, _) :: entries => do
      raiseIf (strip label = "") (valueError "budget usage labels must not be empty.")
      raiseIf (label ∈ seen) (valueError ("Duplicate " ++ labelName ++ " usage entry: " ++ label))
      checkLabels labelName (label :: seen) entries

/-- A usage list that adds up to the total. -/
structure Tallied (totalUsed : Nat) (entries : List (String × Nat)) : Prop where
  filled : ∀ l ∈ keys entries, strip l ≠ ""
  distinct : (keys entries).Nodup
  sum : total entries = totalUsed

theorem checkLabels_eq_ok {labelName : String} {seen : List String}
    {entries : List (String × Nat)} : checkLabels labelName seen entries = .ok () ↔
      (∀ l ∈ keys entries, strip l ≠ "" ∧ l ∉ seen) ∧ (keys entries).Nodup := by
  induction entries generalizing seen with
  | nil => simp [checkLabels, keys]
  | cons e entries ih =>
    simp only [checkLabels, raiseIf_bind_eq_ok, ih, keys, List.map_cons, List.forall_mem_cons,
      List.nodup_cons]
    simp only [List.mem_cons, not_or]
    constructor
    · rintro ⟨hfilled, hseen, hrest, hnodup⟩
      refine ⟨⟨⟨hfilled, hseen⟩, fun l hl => ⟨(hrest l hl).1, (hrest l hl).2.2⟩⟩, ?_, hnodup⟩
      intro hmem
      exact (hrest e.1 hmem).2.1 rfl
    · rintro ⟨⟨⟨hfilled, hseen⟩, hrest⟩, hnew, hnodup⟩
      refine ⟨hfilled, hseen, fun l hl => ⟨(hrest l hl).1, ?_, (hrest l hl).2⟩, hnodup⟩
      rintro rfl
      exact hnew hl

theorem tallied_of_checked {labelName : String} {totalUsed : Nat} {entries : List (String × Nat)}
    (h : PLift ((checkLabels labelName [] entries).toOption.isSome = true))
    (hsum : PLift (total entries = totalUsed)) : Tallied totalUsed entries := by
  obtain ⟨u, hu⟩ := Option.isSome_iff_exists.mp h.down
  obtain ⟨hlabels, hnodup⟩ := checkLabels_eq_ok.mp (eq_ok_of_toOption hu)
  exact ⟨fun l hl => (hlabels l hl).1, hnodup, hsum.down⟩

/-- The checks of one usage list. -/
def checkUsage (labelName : String) (totalUsed : Nat) (entries : List (String × Nat)) :
    Py (PLift (Tallied totalUsed entries)) := do
  let h ← attempt (checkLabels labelName [] entries)
  let hsum ← prove (total entries = totalUsed)
    (valueError (labelName ++ "_usage must sum to total_used."))
  return ⟨tallied_of_checked h hsum⟩

/-- Usage is never negative.
Source: `dast_policy.py` `DastBudgetState`. -/
structure DastBudgetState where
  totalUsed : Nat
  checkUsage : List (String × Nat)
  familyUsage : List (String × Nat)
  checks_tallied : Tallied totalUsed checkUsage
  families_tallied : Tallied totalUsed familyUsage

/-- Source: `dast_policy.py` `DastBudgetState.__post_init__`. -/
def DastBudgetState.make (totalUsed : Nat) (checkEntries familyEntries : List (String × Nat)) :
    Py DastBudgetState := do
  let h₁ ← DastPolicy.checkUsage "check" totalUsed checkEntries
  let h₂ ← DastPolicy.checkUsage "family" totalUsed familyEntries
  return ⟨totalUsed, checkEntries, familyEntries, h₁.down, h₂.down⟩

theorem tallied_nil : Tallied 0 [] :=
  ⟨fun _ h => absurd h List.not_mem_nil, List.nodup_nil, rfl⟩

/-- `DastBudgetState()`. -/
def DastBudgetState.empty : DastBudgetState := ⟨0, [], [], tallied_nil, tallied_nil⟩

/-! ## Authorization and reservation -/

/-- Why a request is denied, or that it is not. -/
inductive Reason where
  | methodNotAllowed
  | totalRequestBudgetExhausted
  | checkRequestBudgetExhausted
  | familyRequestBudgetExhausted
  | authorized
  deriving DecidableEq

def Reason.text : Reason → String
  | .methodNotAllowed => "method_not_allowed"
  | .totalRequestBudgetExhausted => "total_request_budget_exhausted"
  | .checkRequestBudgetExhausted => "check_request_budget_exhausted"
  | .familyRequestBudgetExhausted => "family_request_budget_exhausted"
  | .authorized => "authorized"

/-- Source: `dast_policy.py` `DastBudgetDecision`. -/
structure DastBudgetDecision where
  allowed : Bool
  reason : Reason
  checkId : String
  family : String
  method : String
  totalUsed : Nat
  checkUsed : Nat
  familyUsed : Nat
  totalLimit : Nat
  checkLimit : Nat
  familyLimit : Nat
  deriving DecidableEq

/-- The verdict of `authorize_dast_request`, and its reason. -/
def verdict (check : DastCheckDefinition) (method : String) (policy : DastBudgetPolicy)
    (state : DastBudgetState) : Bool × Reason :=
  if method ∉ check.allowedMethods then (false, .methodNotAllowed)
  else if policy.maxTotalRequests ≤ state.totalUsed then (false, .totalRequestBudgetExhausted)
  else if check.maxRequests ≤ usage state.checkUsage check.checkId then
    (false, .checkRequestBudgetExhausted)
  else if policy.familyLimit check.family ≤ usage state.familyUsage check.family then
    (false, .familyRequestBudgetExhausted)
  else (true, .authorized)

/-- Source: `dast_policy.py` `authorize_dast_request`. -/
def authorizeDastRequest (upper : String → String) (check : DastCheckDefinition) (method : String)
    (policy : DastBudgetPolicy) (state : DastBudgetState) : Py DastBudgetDecision := do
  let normalized := upper (strip method)
  raiseIf (normalized = "") (valueError "method must not be empty.")
  let (allowed, reason) := verdict check normalized policy state
  return {
    allowed, reason
    checkId := check.checkId
    family := check.family
    method := normalized
    totalUsed := state.totalUsed
    checkUsed := usage state.checkUsage check.checkId
    familyUsed := usage state.familyUsage check.family
    totalLimit := policy.maxTotalRequests
    checkLimit := check.maxRequests
    familyLimit := policy.familyLimit check.family }

/-- Source: `dast_policy.py` `reserve_dast_request`. -/
def reserveDastRequest (state : DastBudgetState) (decision : DastBudgetDecision) :
    Py DastBudgetState := do
  require (decision.allowed = true)
    (permissionError ("DAST request denied: " ++ decision.reason.text))
  raiseIf (state.totalUsed ≠ decision.totalUsed)
    (permissionError "DAST budget decision is stale for total request usage.")
  let currentCheck := usage state.checkUsage decision.checkId
  let currentFamily := usage state.familyUsage decision.family
  raiseIf (currentCheck ≠ decision.checkUsed)
    (permissionError "DAST budget decision is stale for check usage.")
  raiseIf (currentFamily ≠ decision.familyUsed)
    (permissionError "DAST budget decision is stale for family usage.")
  raiseIf (decision.totalLimit ≤ state.totalUsed)
    (permissionError "DAST total request budget is exhausted.")
  raiseIf (decision.checkLimit ≤ currentCheck)
    (permissionError "DAST check request budget is exhausted.")
  raiseIf (decision.familyLimit ≤ currentFamily)
    (permissionError "DAST family request budget is exhausted.")
  DastBudgetState.make (state.totalUsed + 1)
    (sortedBy Prod.fst (assign state.checkUsage decision.checkId (currentCheck + 1)))
    (sortedBy Prod.fst (assign state.familyUsage decision.family (currentFamily + 1)))

/-! ## What a reservation does -/

/-- A usage list in which one label has one more. -/
theorem usage_sorted_assign {totalUsed : Nat} {entries : List (String × Nat)}
    (h : Tallied totalUsed entries) (k : String) (n : Nat) (k' : String) :
    usage (sortedBy Prod.fst (assign entries k n)) k' = if k' = k then n else usage entries k' := by
  rw [← find_assign]
  exact (find_perm (sortedBy_perm _ _).symm (keys_assign_nodup h.distinct k n) k').symm

/-- What a successful reservation makes of a state: the decision was allowed, it was given on the
same usage and below its limits, and its check, its family and the total go up by one. -/
structure Reserved (state : DastBudgetState) (d : DastBudgetDecision) (state' : DastBudgetState) :
    Prop where
  allowed : d.allowed = true
  fresh : d.totalUsed = state.totalUsed
  total : state'.totalUsed = state.totalUsed + 1
  belowTotal : state.totalUsed < d.totalLimit
  belowCheck : usage state.checkUsage d.checkId < d.checkLimit
  belowFamily : usage state.familyUsage d.family < d.familyLimit
  checks : ∀ k, usage state'.checkUsage k =
    if k = d.checkId then usage state.checkUsage k + 1 else usage state.checkUsage k
  families : ∀ k, usage state'.familyUsage k =
    if k = d.family then usage state.familyUsage k + 1 else usage state.familyUsage k

/-- **One successful reservation.** -/
theorem reservation_effect {state state' : DastBudgetState} {d : DastBudgetDecision}
    (h : reserveDastRequest state d = .ok state') : Reserved state d state' := by
  simp only [reserveDastRequest, DastBudgetState.make, bind_eq_ok, require_eq_ok, raiseIf_eq_ok,
    pure_eq_ok, Except.ok.injEq, not_not, not_le] at h
  obtain ⟨-, hallowed, -, htotal, -, -, -, -, -, hbelow, -, hcheck, -, hfamily, h₁, -, h₂, -,
    rfl⟩ := h
  refine ⟨hallowed, htotal.symm, rfl, hbelow, hcheck, hfamily, ?_, ?_⟩
  · intro k
    rw [usage_sorted_assign state.checks_tallied]
    by_cases hk : k = d.checkId
    · rw [if_pos hk, if_pos hk, hk]
    · rw [if_neg hk, if_neg hk]
  · intro k
    rw [usage_sorted_assign state.families_tallied]
    by_cases hk : k = d.family
    · rw [if_pos hk, if_pos hk, hk]
    · rw [if_neg hk, if_neg hk]

/-! ## A decision redeemed at once -/

theorem Tallied.more {totalUsed : Nat} {entries : List (String × Nat)}
    (h : Tallied totalUsed entries) {k : String} (hk : strip k ≠ "") :
    Tallied (totalUsed + 1) (sortedBy Prod.fst (assign entries k (usage entries k + 1))) := by
  have hperm := sortedBy_perm Prod.fst (assign entries k (usage entries k + 1))
  refine ⟨?_, ?_, ?_⟩
  · intro l hl
    rcases mem_keys_assign.mp ((hperm.map _).mem_iff.mp hl) with rfl | hl
    · exact hk
    · exact h.filled l hl
  · exact (hperm.map _).nodup_iff.mpr (keys_assign_nodup h.distinct _ _)
  · rw [total_perm hperm, total_assign_succ, h.sum]

theorem checkUsage_of {labelName : String} {totalUsed : Nat} {entries : List (String × Nat)}
    (h : Tallied totalUsed entries) :
    DastPolicy.checkUsage labelName totalUsed entries = .ok ⟨h⟩ := by
  have hlabels : checkLabels labelName [] entries = .ok () :=
    checkLabels_eq_ok.mpr ⟨fun l hl => ⟨h.filled l hl, List.not_mem_nil⟩, h.distinct⟩
  have hsome : (checkLabels labelName [] entries).toOption.isSome = true := by
    rw [hlabels]
    rfl
  rw [DastPolicy.checkUsage, attempt_of hsome, ok_bind, prove_of h.sum, ok_bind]
  rfl

theorem verdict_allowed {check : DastCheckDefinition} {method : String}
    {policy : DastBudgetPolicy} {state : DastBudgetState}
    (h : (verdict check method policy state).1 = true) :
    state.totalUsed < policy.maxTotalRequests ∧
      usage state.checkUsage check.checkId < check.maxRequests ∧
      usage state.familyUsage check.family < policy.familyLimit check.family := by
  unfold verdict at h
  split_ifs at h with h₁ h₂ h₃ h₄
  exact ⟨Nat.lt_of_not_le h₂, Nat.lt_of_not_le h₃, Nat.lt_of_not_le h₄⟩

/-- **An allowed decision is good for one request.**  Redeemed on the state it was given on, it
is accepted. -/
theorem reserve_authorized {upper : String → String} {check : DastCheckDefinition}
    {method : String} {policy : DastBudgetPolicy} {state : DastBudgetState}
    {d : DastBudgetDecision} (h : authorizeDastRequest upper check method policy state = .ok d)
    (hallowed : d.allowed = true) : ∃ state', reserveDastRequest state d = .ok state' := by
  simp only [authorizeDastRequest, raiseIf_bind_eq_ok, pure_eq_ok, Except.ok.injEq] at h
  obtain ⟨-, rfl⟩ := h
  obtain ⟨htotal, hcheck, hfamily⟩ := verdict_allowed hallowed
  have hchecks := state.checks_tallied.more check.checkId_filled
  have hfamilies := state.families_tallied.more check.family_filled
  refine ⟨⟨_, _, _, hchecks, hfamilies⟩, ?_⟩
  simp only [reserveDastRequest, DastBudgetState.make, bind_eq_ok, require_eq_ok, raiseIf_eq_ok,
    pure_eq_ok, not_not, not_le]
  exact ⟨(), hallowed, (), trivial, (), trivial, (), trivial, (), htotal, (), hcheck, (), hfamily,
    ⟨hchecks⟩, checkUsage_of hchecks, ⟨hfamilies⟩, checkUsage_of hfamilies, trivial⟩

/-! ## Runs -/

/-- The state of the budget, and every decision given so far, redeemed or not. -/
structure Session where
  state : DastBudgetState
  decisions : List DastBudgetDecision

/-- A run starts with nothing used and no decision given. -/
def Session.start : Session := ⟨.empty, []⟩

/-- A call for one of the checks, or for one of the decisions, by position. -/
inductive Call where
  | authorize (n : Nat) (method : String)
  | reserve (k : Nat)

/-- What a call returns. -/
inductive Answer where
  | none
  | decided (d : DastBudgetDecision)
  | reserved (d : DastBudgetDecision)

section Run

variable (upper : String → String) (policy : DastBudgetPolicy) (checks : List DastCheckDefinition)

/-- One call.  A decision may be redeemed late, again, or on a later state: it stays in the list. -/
def step (s : Session) (call : Call) : Session × Py Answer :=
  match call with
  | .authorize n method =>
      match checks[n]? with
      | none => (s, .ok .none)
      | some check =>
          match authorizeDastRequest upper check method policy s.state with
          | .ok d => ({ s with decisions := s.decisions ++ [d] }, .ok (.decided d))
          | .error e => (s, .error e)
  | .reserve k =>
      match s.decisions[k]? with
      | none => (s, .ok .none)
      | some d =>
          match reserveDastRequest s.state d with
          | .ok state => ({ s with state }, .ok (.reserved d))
          | .error e => (s, .error e)

/-- The decision an entry of the trace redeemed. -/
def redeemed : Call × Py Answer → Option DastBudgetDecision
  | (.reserve _, .ok (.reserved d)) => some d
  | _ => none

variable {upper policy checks}

/-- The decision is one for a check of the list, with the limits of the policy. -/
def Given (policy : DastBudgetPolicy) (checks : List DastCheckDefinition)
    (d : DastBudgetDecision) : Prop :=
  ∃ c ∈ checks, d.checkId = c.checkId ∧ d.family = c.family ∧
    d.totalLimit = policy.maxTotalRequests ∧ d.checkLimit = c.maxRequests ∧
    d.familyLimit = policy.familyLimit c.family

/-- No limit is exceeded, and only checks of the list and their families have used anything. -/
structure Within (policy : DastBudgetPolicy) (checks : List DastCheckDefinition)
    (state : DastBudgetState) : Prop where
  total : state.totalUsed ≤ policy.maxTotalRequests
  check : ∀ c ∈ checks, usage state.checkUsage c.checkId ≤ c.maxRequests
  family : ∀ f, usage state.familyUsage f ≤ policy.familyLimit f
  known : ∀ k, usage state.checkUsage k ≠ 0 → ∃ c ∈ checks, c.checkId = k
  knownFamily : ∀ f, usage state.familyUsage f ≠ 0 → ∃ c ∈ checks, c.family = f

/-- One check, its family and the total went up by one, and nothing else changed. -/
structure RaisedByOne (c : DastCheckDefinition) (state state' : DastBudgetState) : Prop where
  total : state'.totalUsed = state.totalUsed + 1
  check : usage state'.checkUsage c.checkId = usage state.checkUsage c.checkId + 1
  otherChecks : ∀ k, k ≠ c.checkId → usage state'.checkUsage k = usage state.checkUsage k
  family : usage state'.familyUsage c.family = usage state.familyUsage c.family + 1
  otherFamilies : ∀ f, f ≠ c.family → usage state'.familyUsage f = usage state.familyUsage f

theorem given_of_authorized {check : DastCheckDefinition} (hcheck : check ∈ checks)
    {method : String} {state : DastBudgetState} {d : DastBudgetDecision}
    (h : authorizeDastRequest upper check method policy state = .ok d) :
    Given policy checks d := by
  simp only [authorizeDastRequest, raiseIf_bind_eq_ok, pure_eq_ok, Except.ok.injEq] at h
  obtain ⟨-, rfl⟩ := h
  exact ⟨check, hcheck, rfl, rfl, rfl, rfl, rfl⟩

theorem Reserved.raisedByOne {state state' : DastBudgetState} {d : DastBudgetDecision}
    (h : Reserved state d state') {c : DastCheckDefinition} (hid : d.checkId = c.checkId)
    (hfamily : d.family = c.family) : RaisedByOne c state state' := by
  refine ⟨h.total, ?_, ?_, ?_, ?_⟩
  · rw [h.checks, hid, if_pos rfl]
  · intro k hk
    rw [h.checks, hid, if_neg hk]
  · rw [h.families, hfamily, if_pos rfl]
  · intro f hf
    rw [h.families, hfamily, if_neg hf]

/-- **A reservation keeps within every limit.**  With one definition for each identifier, the limit
the decision carries is the limit of the check it raises. -/
theorem Within.reserved (hids : (checks.map (·.checkId)).Nodup) {state state' : DastBudgetState}
    {d : DastBudgetDecision} (hw : Within policy checks state) (hd : Given policy checks d)
    (h : Reserved state d state') : Within policy checks state' := by
  obtain ⟨c, hc, hid, hfamily, htotal, hcheck, hlimit⟩ := hd
  have hraised := h.raisedByOne hid hfamily
  refine ⟨?_, ?_, ?_, ?_, ?_⟩
  · have hbelow := h.belowTotal
    rw [hraised.total]
    omega
  · intro c' hc'
    by_cases heq : c'.checkId = c.checkId
    · obtain rfl : c' = c := List.inj_on_of_nodup_map hids hc' hc heq
      have hbelow := h.belowCheck
      rw [hid, hcheck] at hbelow
      rw [hraised.check]
      exact hbelow
    · rw [hraised.otherChecks _ heq]
      exact hw.check c' hc'
  · intro f
    by_cases heq : f = c.family
    · have hbelow := h.belowFamily
      rw [hfamily, hlimit] at hbelow
      rw [heq, hraised.family]
      exact hbelow
    · rw [hraised.otherFamilies f heq]
      exact hw.family f
  · intro k hk
    by_cases heq : k = c.checkId
    · exact ⟨c, hc, heq.symm⟩
    · rw [hraised.otherChecks k heq] at hk
      exact hw.known k hk
  · intro f hf
    by_cases heq : f = c.family
    · exact ⟨c, hc, heq.symm⟩
    · rw [hraised.otherFamilies f heq] at hf
      exact hw.knownFamily f hf

/-- What the calls so far left: every decision given is for a check of the list, no limit is
exceeded, and each decision redeemed was given on less usage than there is now. -/
structure Kept (policy : DastBudgetPolicy) (checks : List DastCheckDefinition)
    (tr : List (Call × Py Answer)) (s : Session) : Prop where
  given : ∀ d ∈ s.decisions, Given policy checks d
  within : Within policy checks s.state
  earlier : ∀ d ∈ tr.filterMap redeemed, d.totalUsed < s.state.totalUsed
  once : (tr.filterMap redeemed).Nodup

/-- An entry that redeems nothing. -/
theorem Kept.quiet {tr : List (Call × Py Answer)} {s s' : Session} (h : Kept policy checks tr s)
    {entry : Call × Py Answer} (hentry : redeemed entry = none)
    (hgiven : ∀ d ∈ s'.decisions, Given policy checks d) (hstate : s'.state = s.state) :
    Kept policy checks (tr ++ [entry]) s' := by
  have hsame : (tr ++ [entry]).filterMap redeemed = tr.filterMap redeemed := by
    rw [List.filterMap_append, List.filterMap_cons_none hentry, List.filterMap_nil,
      List.append_nil]
  exact ⟨hgiven, hstate ▸ h.within, hsame ▸ hstate ▸ h.earlier, hsame ▸ h.once⟩

/-- An entry that redeems a decision: it was given on the usage there is, so it is a new one. -/
theorem Kept.redeem (hids : (checks.map (·.checkId)).Nodup) {tr : List (Call × Py Answer)}
    {s : Session} (h : Kept policy checks tr s) {d : DastBudgetDecision} (hd : d ∈ s.decisions)
    {state' : DastBudgetState} (hr : Reserved s.state d state') (k : Nat) :
    Kept policy checks (tr ++ [(.reserve k, .ok (.reserved d))]) { s with state := state' } := by
  have hmore : (tr ++ [(Call.reserve k, (Except.ok (Answer.reserved d) : Py Answer))]).filterMap
      redeemed = tr.filterMap redeemed ++ [d] := by
    rw [List.filterMap_append]
    rfl
  have htotal : state'.totalUsed = s.state.totalUsed + 1 := hr.total
  refine ⟨h.given, h.within.reserved hids (h.given d hd) hr, ?_, ?_⟩
  · intro d' hd'
    rw [hmore] at hd'
    show d'.totalUsed < state'.totalUsed
    rcases List.mem_append.mp hd' with hd' | hd'
    · have hearlier := h.earlier d' hd'
      omega
    · rw [List.mem_singleton.mp hd', hr.fresh]
      omega
  · rw [hmore]
    refine List.Nodup.append h.once (List.nodup_singleton d) ?_
    intro d' hd' hnew
    have hearlier := h.earlier d' hd'
    rw [List.mem_singleton.mp hnew, hr.fresh] at hearlier
    exact absurd hearlier (lt_irrefl _)

/-- **Every call keeps the account.** -/
theorem Kept.step (hids : (checks.map (·.checkId)).Nodup) {tr : List (Call × Py Answer)}
    {s : Session} (h : Kept policy checks tr s) (call : Call) :
    Kept policy checks (tr ++ [(call, (DastPolicy.step upper policy checks s call).2)])
      (DastPolicy.step upper policy checks s call).1 := by
  cases call with
  | authorize n method =>
    simp only [DastPolicy.step]
    cases hn : checks[n]? with
    | none => exact h.quiet rfl h.given rfl
    | some check =>
      cases hauth : authorizeDastRequest upper check method policy s.state with
      | error e =>
        simp only [hauth]
        exact h.quiet rfl h.given rfl
      | ok d =>
        simp only [hauth]
        refine h.quiet rfl ?_ rfl
        intro d' hd'
        rcases List.mem_append.mp hd' with hd' | hd'
        · exact h.given d' hd'
        · rw [List.mem_singleton.mp hd']
          exact given_of_authorized (List.mem_of_getElem? hn) hauth
  | reserve k =>
    simp only [DastPolicy.step]
    cases hk : s.decisions[k]? with
    | none => exact h.quiet rfl h.given rfl
    | some d =>
      cases hreserve : reserveDastRequest s.state d with
      | error e =>
        simp only [hreserve]
        exact h.quiet rfl h.given rfl
      | ok state' =>
        simp only [hreserve]
        exact h.redeem hids (List.mem_of_getElem? hk) (reservation_effect hreserve) k

theorem within_empty : Within policy checks .empty :=
  ⟨Nat.zero_le _, fun _ _ => Nat.zero_le _, fun _ => Nat.zero_le _, fun _ h => absurd rfl h,
    fun _ h => absurd rfl h⟩

theorem kept_run (hids : (checks.map (·.checkId)).Nodup) (calls : List Call) :
    Kept policy checks (trace (step upper policy checks) .start calls)
      (final (step upper policy checks) .start calls) := by
  refine run_induct (P := fun tr s => Kept policy checks tr s) ?_ ?_ calls
  · exact ⟨fun d hd => absurd hd List.not_mem_nil, within_empty,
      fun d hd => absurd hd List.not_mem_nil, List.nodup_nil⟩
  · intro tr s call h
    exact h.step hids call

/-- A reservation that returns was of the decision at that position. -/
theorem reserved_spec {s : Session} {k : Nat} {d : DastBudgetDecision}
    (h : (step upper policy checks s (.reserve k)).2 = .ok (.reserved d)) :
    d ∈ s.decisions ∧ Reserved s.state d (step upper policy checks s (.reserve k)).1.state := by
  simp only [step] at h ⊢
  cases hk : s.decisions[k]? with
  | none =>
    simp only [hk] at h
    cases h
  | some d' =>
    simp only [hk] at h ⊢
    cases hreserve : reserveDastRequest s.state d' with
    | error e =>
      simp only [hreserve] at h
      cases h
    | ok state' =>
      simp only [hreserve, Except.ok.injEq, Answer.reserved.injEq] at h ⊢
      subst h
      exact ⟨List.mem_of_getElem? hk, reservation_effect hreserve⟩

/-- **Budgets over every interleaving.**  However authorizations and reservations follow each
other, no limit is exceeded and both usages sum to the total; a reservation that returns raises one
check of the list, its family and the total by one; and no decision, nor an equal one, is redeemed
twice. -/
theorem budget_run (upper : String → String) (policy : DastBudgetPolicy)
    (checks : List DastCheckDefinition) (hids : (checks.map (·.checkId)).Nodup)
    (calls : List Call) :
    let s := final (step upper policy checks) .start calls
    Within policy checks s.state ∧
    total s.state.checkUsage = s.state.totalUsed ∧ total s.state.familyUsage = s.state.totalUsed ∧
    (∀ k d, (step upper policy checks s (.reserve k)).2 = .ok (.reserved d) →
      d ∈ s.decisions ∧ ∃ c ∈ checks, d.checkId = c.checkId ∧ d.family = c.family ∧
        RaisedByOne c s.state (step upper policy checks s (.reserve k)).1.state) ∧
    ((trace (step upper policy checks) .start calls).filterMap redeemed).Nodup := by
  intro s
  have hkept : Kept policy checks (trace (step upper policy checks) .start calls) s :=
    kept_run hids calls
  refine ⟨hkept.within, s.state.checks_tallied.sum, s.state.families_tallied.sum, ?_, hkept.once⟩
  intro k d hd
  obtain ⟨hmem, hreserved⟩ := reserved_spec hd
  obtain ⟨c, hc, hid, hfamily, -⟩ := hkept.given d hmem
  exact ⟨hmem, c, hc, hid, hfamily, hreserved.raisedByOne hid hfamily⟩

end Run

/-- A check that may ask once. -/
def sampleCheck : DastCheckDefinition where
  checkId := "headers"
  name := "Security headers"
  family := "passive"
  maxRequests := 1
  allowedMethods := ["GET"]
  checkId_filled := by decide
  name_filled := by decide
  family_filled := by decide
  maxRequests_pos := Nat.one_pos
  methods_nonempty := List.cons_ne_nil _ _
  methods_safe := by decide

def sampleBudget : DastBudgetPolicy where
  maxTotalRequests := 50
  defaultFamilyRequests := 10
  familyLimits := []
  maxTotalRequests_pos := by decide
  defaultFamilyRequests_pos := by decide

/-- One decision, redeemed and offered again. -/
def redeemedTwice : List Call := [.authorize 0 "GET", .reserve 0, .reserve 0]

theorem redeemedTwice_budget :
    ((trace (step id sampleBudget [sampleCheck]) .start redeemedTwice).filterMap redeemed).length
      = 1 ∧
    Within sampleBudget [sampleCheck]
      (final (step id sampleBudget [sampleCheck]) .start redeemedTwice).state ∧
    ((trace (step id sampleBudget [sampleCheck]) .start redeemedTwice).filterMap
      redeemed).Nodup := by
  have hrun := budget_run id sampleBudget [sampleCheck] (List.nodup_singleton _) redeemedTwice
  exact ⟨by decide +kernel, hrun.1, hrun.2.2.2.2⟩

end NightRecon.RedEngine.DastPolicy
