import NightRecon.Exceptions
import NightRecon.Lib.Dict
import NightRecon.Lib.Proc
import NightRecon.Lib.Sha256

/-!
# The cyber range

`CyberRange` of `nightrecon_red_engine/cyber_range_simulation.py`: hosts and an event log in memory.

* `VirtualHost`, `RangeEvent`, `CyberRange` — the range; every host is stored under its identifier;
* `execute`, `runScenario` — one step, and a scenario of steps;
* `Executable` — a step is executed; `execute_of_executable`, `execute_of_not`;
* `restore_snapshot` — a snapshot gives the range back;
* `rollback_restores_iff` — a scenario with rollback leaves the range as it was exactly when all of
  its steps are executed or none is.
-/

namespace NightRecon.RedEngine.CyberRangeSimulation

open NightRecon.Lib
open NightRecon.Lib.Checks

/-! ## The range -/

def maxRangeHosts : Nat := 64

def maxRangeEvents : Nat := 512

/-- Source: `cyber_range_simulation.py` `RangeAction`. -/
inductive RangeAction where
  | credentialAccess
  | persistence
  | privilegeEscalation
  | lateralMovement
  | propagation
  | destructiveImpact
  | collection
  deriving DecidableEq

def RangeAction.value : RangeAction → String
  | .credentialAccess => "credential-access"
  | .persistence => "persistence"
  | .privilegeEscalation => "privilege-escalation"
  | .lateralMovement => "lateral-movement"
  | .propagation => "propagation"
  | .destructiveImpact => "destructive-impact"
  | .collection => "collection"

/-- Source: `cyber_range_simulation.py` `VirtualHost`. -/
structure VirtualHost where
  hostId : String
  compromised : Bool
  privileged : Bool
  credentialMarker : Bool
  persistenceMarker : Bool
  destructiveMarker : Bool
  collectedMarker : Bool
  deriving DecidableEq

/-- Source: `cyber_range_simulation.py` `RangeEvent`. -/
structure RangeEvent where
  sequence : Nat
  action : RangeAction
  sourceHost : String
  targetHost : String
  outcome : String
  evidenceId : String
  deriving DecidableEq

/-- The range; every host is stored under its identifier.
Source: `cyber_range_simulation.py` `CyberRange`. -/
structure CyberRange where
  hosts : Dict String VirtualHost
  events : List RangeEvent
  keyed : ∀ k host, hosts.lookup k = some host → host.hostId = k

/-- Source: `cyber_range_simulation.py` `RangeSnapshot`. -/
structure RangeSnapshot where
  snapshotId : String
  hosts : List VirtualHost
  events : List RangeEvent

/-- Source: `cyber_range_simulation.py` `RangeReport`. -/
structure RangeReport where
  scenarioId : String
  events : List RangeEvent
  evidenceIds : List String
  rollbackSnapshotId : String
  cleaned : Bool

/-- Source: `cyber_range_simulation.py` `SimulationPayload`. -/
structure SimulationPayload where
  payloadId : String
  scenarioId : String
  allowedActions : List RangeAction
  maxSteps : Int
  digest : String

/-- The first 20 digits of the digest of a text. -/
def shortDigest (text : String) : String := String.ofList ((Sha256.hexOf text.toList).toList.take 20)

/-- `dict` of the hosts by their identifiers. -/
theorem keyed_ofValues (hosts : List VirtualHost) :
    ∀ k host, (Dict.ofValues VirtualHost.hostId hosts).lookup k = some host → host.hostId = k := by
  intro k host h
  rw [Dict.lookup_ofValues] at h
  simpa using List.find?_some h

/-- Source: `cyber_range_simulation.py` `CyberRange.__init__`. -/
def CyberRange.make (hosts : List VirtualHost) : Py CyberRange := do
  raiseIf (hosts = []) (valueError "cyber range must contain at least one host")
  raiseIf (maxRangeHosts < hosts.length) (valueError "cyber range exceeds MAX_RANGE_HOSTS=64")
  let ids := hosts.map VirtualHost.hostId
  raiseIf (∃ id ∈ ids, Text.strip id = "") (valueError "host_id must not be empty")
  raiseIf (¬ ids.Nodup) (valueError "host_id values must be unique")
  return ⟨Dict.ofValues VirtualHost.hostId hosts, [], keyed_ofValues hosts⟩

/-! ## Snapshots -/

def digit (b : Bool) : String := if b then "1" else "0"

/-- The line of a host in the material of a snapshot. -/
def VirtualHost.material (host : VirtualHost) : String :=
  host.hostId ++ ":" ++ digit host.compromised ++ ":" ++ digit host.privileged ++ ":" ++
    digit host.credentialMarker ++ ":" ++ digit host.persistenceMarker ++ ":" ++
    digit host.destructiveMarker ++ ":" ++ digit host.collectedMarker

/-- Source: `cyber_range_simulation.py` `CyberRange.snapshot`. -/
def CyberRange.snapshot (range : CyberRange) : RangeSnapshot :=
  let hosts := Dict.sortedValues range.hosts
  let material := "|".intercalate
    (hosts.map VirtualHost.material ++ range.events.map RangeEvent.evidenceId)
  ⟨"snapshot-" ++ shortDigest material, hosts, range.events⟩

/-- Source: `cyber_range_simulation.py` `CyberRange.restore`. -/
def CyberRange.restore (snapshot : RangeSnapshot) : CyberRange :=
  ⟨Dict.ofValues VirtualHost.hostId snapshot.hosts, snapshot.events, keyed_ofValues snapshot.hosts⟩

theorem CyberRange.ext_data {range range' : CyberRange} (hhosts : range.hosts = range'.hosts)
    (hevents : range.events = range'.events) : range = range' := by
  cases range
  cases range'
  simp only [CyberRange.mk.injEq]
  exact ⟨hhosts, hevents⟩

/-- **A snapshot gives the range back.** -/
theorem restore_snapshot (range : CyberRange) : CyberRange.restore range.snapshot = range :=
  CyberRange.ext_data (Dict.ofValues_sortedValues range.keyed) rfl

/-! ## Steps -/

/-- One step of a scenario: source, target and action. -/
structure RangeStep where
  sourceHost : String
  targetHost : String
  action : RangeAction

/-- What an action makes of its target, and the outcome. -/
def effect (action : RangeAction) (source target : VirtualHost) : VirtualHost × String :=
  let guarded (c : Bool) (changed : VirtualHost) : VirtualHost × String :=
    if c then (changed, "simulated") else (target, "blocked-precondition")
  match action with
  | .credentialAccess => ({ target with credentialMarker := true }, "simulated")
  | .persistence => guarded target.compromised { target with persistenceMarker := true }
  | .privilegeEscalation => guarded target.compromised { target with privileged := true }
  | .lateralMovement => guarded source.compromised { target with compromised := true }
  | .propagation => guarded source.compromised { target with compromised := true }
  | .destructiveImpact => guarded target.privileged { target with destructiveMarker := true }
  | .collection => guarded target.compromised { target with collectedMarker := true }

/-- No action renames its target. -/
theorem effect_hostId (action : RangeAction) (source target : VirtualHost) :
    (effect action source target).1.hostId = target.hostId := by
  cases action <;> simp only [effect] <;> split <;> rfl

/-- `self._hosts[target_host] = target`. -/
def CyberRange.setHost (range : CyberRange) (k : String) (host : VirtualHost)
    (h : host.hostId = k) : CyberRange :=
  { range with
    hosts := range.hosts.insert k host
    keyed := by
      intro k' host' hlookup
      rw [Dict.lookup_insert_eq] at hlookup
      by_cases hk : k' = k
      · rw [if_pos hk, Option.some.injEq] at hlookup
        rw [← hlookup, h, hk]
      · rw [if_neg hk] at hlookup
        exact range.keyed k' host' hlookup }

/-- The event of a step that was executed as number `sequence`. -/
def stepEvent (payload : SimulationPayload) (step : RangeStep) (sequence : Nat)
    (outcome : String) : RangeEvent :=
  let material := payload.payloadId ++ "|" ++ toString sequence ++ "|" ++ step.action.value ++
    "|" ++ step.sourceHost ++ "|" ++ step.targetHost ++ "|" ++ outcome
  ⟨sequence, step.action, step.sourceHost, step.targetHost, outcome,
    "range-evidence-" ++ shortDigest material⟩

/-- Source: `cyber_range_simulation.py` `CyberRange.execute`. -/
def execute (payload : SimulationPayload) (step : RangeStep) : Proc Exn CyberRange RangeEvent :=
  fun range =>
    if min (maxRangeEvents : Int) payload.maxSteps ≤ range.events.length then
      (.error (valueError "simulation step budget exhausted"), range)
    else if step.action ∉ payload.allowedActions then
      (.error (permissionError "simulation action is not allowed by payload"), range)
    else
      match range.hosts.lookup step.sourceHost, h : range.hosts.lookup step.targetHost with
      | some source, some target =>
        let changed := effect step.action source target
        let event := stepEvent payload step (range.events.length + 1) changed.2
        let hid := (effect_hostId step.action source target).trans (range.keyed _ _ h)
        (.ok event, { range.setHost step.targetHost changed.1 hid with
          events := range.events ++ [event] })
      | _, _ => (.error (keyError "source or target host is not present in range"), range)

/-- The steps of a scenario, one after another. -/
def executeAll (payload : SimulationPayload) : List RangeStep → Proc Exn CyberRange (List RangeEvent)
  | [] => pure []
  | step :: steps => do
    let event ← execute payload step
    let events ← executeAll payload steps
    pure (event :: events)

/-- Source: `cyber_range_simulation.py` `CyberRange.run_scenario`. -/
def runScenario (payload : SimulationPayload) (steps : List RangeStep) (rollback : Bool) :
    Proc Exn CyberRange RangeReport := do
  Proc.ofExcept (raiseIf (payload.maxSteps < steps.length)
    (valueError "scenario exceeds payload step budget"))
  let range ← Proc.get
  let before := range.snapshot
  let created ← executeAll payload steps
  if rollback then Proc.modify fun _ => CyberRange.restore before
  pure ⟨payload.scenarioId, created, created.map RangeEvent.evidenceId, before.snapshotId, rollback⟩

/-! ## Which steps are executed -/

/-- A step is executed when `count` events are in the log of a range with these hosts. -/
def Executable (payload : SimulationPayload) (range : CyberRange) (count : Nat)
    (step : RangeStep) : Prop :=
  (count : Int) < min (maxRangeEvents : Int) payload.maxSteps ∧
    step.action ∈ payload.allowedActions ∧
    step.sourceHost ∈ range.hosts ∧ step.targetHost ∈ range.hosts

variable {payload : SimulationPayload} {range : CyberRange} {step : RangeStep}

/-- The step changes the log and the values of hosts, and no host appears or goes. -/
def Advanced (range range' : CyberRange) : Prop :=
  range'.events.length = range.events.length + 1 ∧ ∀ k, k ∈ range'.hosts ↔ k ∈ range.hosts

theorem execute_of_executable (h : Executable payload range range.events.length step) :
    ∃ event range', execute payload step range = (.ok event, range') ∧ Advanced range range' := by
  obtain ⟨hbudget, haction, hsource, htarget⟩ := h
  obtain ⟨source, hs⟩ := Finmap.mem_iff.mp hsource
  obtain ⟨target, ht⟩ := Finmap.mem_iff.mp htarget
  unfold execute
  rw [if_neg (not_le.mpr hbudget), if_neg (not_not.mpr haction)]
  split
  · next source' target' hs' ht' =>
    refine ⟨_, _, rfl, ?_, fun k => ?_⟩
    · exact List.length_append
    · simp only [CyberRange.setHost, Finmap.mem_insert]
      constructor
      · rintro (rfl | hk)
        · exact htarget
        · exact hk
      · exact Or.inr
  · next hnone => exact absurd ht (hnone source target hs)

theorem execute_of_not (h : ¬ Executable payload range range.events.length step) :
    ∃ e, execute payload step range = (.error e, range) := by
  unfold execute
  split
  · exact ⟨_, rfl⟩
  · next hbudget =>
    split
    · exact ⟨_, rfl⟩
    · next haction =>
      split
      · next source target hs ht =>
        refine absurd ⟨not_le.mp hbudget, not_not.mp haction, ?_, ?_⟩ h
        · exact Finmap.mem_of_lookup_eq_some hs
        · exact Finmap.mem_of_lookup_eq_some ht
      · exact ⟨_, rfl⟩

theorem executable_advanced {range' : CyberRange} (h : Advanced range range') (count : Nat)
    (step : RangeStep) :
    Executable payload range' count step ↔ Executable payload range count step := by
  unfold Executable
  rw [h.2, h.2]

/-- All of the steps are executed, the first with `count` events in the log. -/
def AllExecutable (payload : SimulationPayload) (range : CyberRange) (count : Nat)
    (steps : List RangeStep) : Prop :=
  ∀ i step, steps[i]? = some step → Executable payload range (count + i) step

theorem allExecutable_cons {count : Nat} {steps : List RangeStep} :
    AllExecutable payload range count (step :: steps) ↔
      Executable payload range count step ∧ AllExecutable payload range (count + 1) steps := by
  constructor
  · intro h
    refine ⟨h 0 step rfl, fun i step' hi => ?_⟩
    have hnext := h (i + 1) step' hi
    rwa [Nat.add_comm i, ← Nat.add_assoc] at hnext
  · rintro ⟨hfirst, hrest⟩ i step' hi
    cases i with
    | zero =>
      obtain rfl := Option.some.inj hi
      exact hfirst
    | succ i =>
      have hnext := hrest i step' hi
      rwa [Nat.add_assoc, Nat.add_comm 1] at hnext

theorem allExecutable_advanced {range' : CyberRange} (h : Advanced range range') (count : Nat)
    (steps : List RangeStep) :
    AllExecutable payload range' count steps ↔ AllExecutable payload range count steps := by
  unfold AllExecutable
  simp only [executable_advanced h]

/-! ## Scenarios -/

/-- Steps that are all executed return. -/
theorem executeAll_of_all {steps : List RangeStep}
    (h : AllExecutable payload range range.events.length steps) :
    ∃ events range', executeAll payload steps range = (.ok events, range') := by
  induction steps generalizing range with
  | nil => exact ⟨[], range, rfl⟩
  | cons step steps ih =>
    obtain ⟨hstep, hsteps⟩ := allExecutable_cons.mp h
    obtain ⟨event, range₁, hexecute, hadvanced⟩ := execute_of_executable hstep
    rw [← hadvanced.1, ← allExecutable_advanced hadvanced] at hsteps
    obtain ⟨events, range', hrest⟩ := ih hsteps
    refine ⟨event :: events, range', ?_⟩
    rw [executeAll, Proc.bind_of_ok hexecute, Proc.bind_of_ok hrest]
    rfl

/-- Steps that are not all executed raise, with every step before the refused one in the log. -/
theorem executeAll_of_not_all {steps : List RangeStep}
    (h : ¬ AllExecutable payload range range.events.length steps) :
    ∃ e range', executeAll payload steps range = (.error e, range') ∧
      range.events.length ≤ range'.events.length ∧
      ((∀ step ∈ steps.head?, ¬ Executable payload range range.events.length step) →
        range' = range) ∧
      ((∃ step ∈ steps.head?, Executable payload range range.events.length step) →
        range.events.length < range'.events.length) := by
  induction steps generalizing range with
  | nil => exact absurd (fun i step hi => absurd hi (by simp)) h
  | cons step steps ih =>
    by_cases hstep : Executable payload range range.events.length step
    · have hsteps : ¬ AllExecutable payload range (range.events.length + 1) steps :=
        fun hall => h (allExecutable_cons.mpr ⟨hstep, hall⟩)
      obtain ⟨event, range₁, hexecute, hadvanced⟩ := execute_of_executable hstep
      rw [← hadvanced.1, ← allExecutable_advanced hadvanced] at hsteps
      obtain ⟨e, range', hrest, hle, -, -⟩ := ih hsteps
      rw [hadvanced.1] at hle
      refine ⟨e, range', ?_, by omega, fun hrefused => ?_, fun _ => by omega⟩
      · rw [executeAll, Proc.bind_of_ok hexecute, Proc.bind_of_error hrest]
      · exact absurd hstep (hrefused step rfl)
    · obtain ⟨e, hexecute⟩ := execute_of_not hstep
      refine ⟨e, range, ?_, le_refl _, fun _ => rfl, ?_⟩
      · rw [executeAll, Proc.bind_of_error hexecute]
      · rintro ⟨step', hhead, hexec⟩
        obtain rfl := Option.some.inj hhead
        exact absurd hexec hstep

/-- No step of the scenario is executed: it has too many, or its first is refused. -/
def NothingExecuted (payload : SimulationPayload) (range : CyberRange)
    (steps : List RangeStep) : Prop :=
  payload.maxSteps < steps.length ∨
    ∃ step ∈ steps.head?, ¬ Executable payload range range.events.length step

/-- **A scenario with rollback leaves the range as it was** exactly when all of its steps are
executed or none is. -/
theorem rollback_restores_iff (payload : SimulationPayload) (range : CyberRange)
    (steps : List RangeStep) :
    (runScenario payload steps true range).2 = range ↔
      NothingExecuted payload range steps ∨
        AllExecutable payload range range.events.length steps := by
  by_cases hlong : payload.maxSteps < steps.length
  · have hrun : (runScenario payload steps true range).2 = range := by
      unfold runScenario
      rw [raiseIf, if_pos hlong]
      rfl
    exact ⟨fun _ => .inl (.inl hlong), fun _ => hrun⟩
  · have hshort : raiseIf (payload.maxSteps < steps.length)
        (valueError "scenario exceeds payload step budget") = .ok () := raiseIf_of_not hlong
    by_cases hall : AllExecutable payload range range.events.length steps
    · obtain ⟨events, range', hsteps⟩ := executeAll_of_all hall
      have hrun : (runScenario payload steps true range).2 = range := by
        unfold runScenario
        rw [hshort]
        simp only [Proc.bind_apply, Proc.ofExcept_apply, Proc.get_apply, hsteps, if_true,
          Proc.modify_apply, Proc.pure_apply]
        exact restore_snapshot range
      exact ⟨fun _ => .inr hall, fun _ => hrun⟩
    · obtain ⟨e, range', hsteps, -, hrefused, hexecuted⟩ := executeAll_of_not_all hall
      have hrun : (runScenario payload steps true range).2 = range' := by
        unfold runScenario
        rw [hshort]
        simp only [Proc.bind_apply, Proc.ofExcept_apply, Proc.get_apply, hsteps]
      rw [hrun]
      constructor
      · rintro rfl
        -- the log has not grown, so the first step was refused
        have hnone : ¬ ∃ step ∈ steps.head?, Executable payload range' range'.events.length step :=
          fun hfirst => absurd (hexecuted hfirst) (lt_irrefl _)
        cases hhead : steps.head? with
        | none =>
          rw [List.head?_eq_none_iff] at hhead
          subst hhead
          exact absurd (fun i step hi => absurd hi (by simp)) hall
        | some step =>
          refine .inl (.inr ⟨step, hhead, fun hexec => hnone ⟨step, hhead, hexec⟩⟩)
      · rintro ((hbudget | ⟨step, hhead, hrefuse⟩) | hexec)
        · exact absurd hbudget hlong
        · refine hrefused fun step' hhead' => ?_
          rw [Option.mem_def, Option.mem_def.mp hhead, Option.some.injEq] at hhead'
          exact hhead' ▸ hrefuse
        · exact absurd hexec hall

/-! ## A scenario that is left half done -/

def sampleHost (id : String) (compromised : Bool) : VirtualHost :=
  ⟨id, compromised, false, false, false, false, false⟩

/-- Two hosts, the first of them compromised. -/
def sampleRange : CyberRange :=
  CyberRange.restore ⟨"", [sampleHost "operator" true, sampleHost "server" false], []⟩

def samplePayload : SimulationPayload :=
  ⟨"sim", "post-exploitation", [.lateralMovement], 8, ""⟩

/-- The second step is not allowed by the payload. -/
def sampleSteps : List RangeStep :=
  [⟨"operator", "server", .lateralMovement⟩, ⟨"operator", "server", .persistence⟩]

theorem refused_step_keeps_events :
    (runScenario samplePayload sampleSteps true sampleRange).2 ≠ sampleRange := by
  have hfirst : Executable samplePayload sampleRange sampleRange.events.length
      ⟨"operator", "server", .lateralMovement⟩ := by
    refine ⟨by decide, by decide, ?_, ?_⟩
    · exact Finmap.mem_of_lookup_eq_some (b := sampleHost "operator" true)
        (Dict.lookup_ofValues VirtualHost.hostId _ _)
    · exact Finmap.mem_of_lookup_eq_some (b := sampleHost "server" false)
        (Dict.lookup_ofValues VirtualHost.hostId _ _)
  have hnot : ¬ AllExecutable samplePayload sampleRange sampleRange.events.length sampleSteps := by
    intro hall
    have haction := (hall 1 ⟨"operator", "server", .persistence⟩ rfl).2.1
    exact absurd haction (by decide)
  obtain ⟨e, range', hsteps, -, -, hexecuted⟩ := executeAll_of_not_all hnot
  have hrun : (runScenario samplePayload sampleSteps true sampleRange).2 = range' := by
    unfold runScenario
    rw [raiseIf_of_not (by decide)]
    simp only [Proc.bind_apply, Proc.ofExcept_apply, Proc.get_apply, hsteps]
  rw [hrun]
  rintro rfl
  exact absurd (hexecuted ⟨_, rfl, hfirst⟩) (lt_irrefl _)

end NightRecon.RedEngine.CyberRangeSimulation
