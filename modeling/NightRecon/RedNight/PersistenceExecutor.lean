import NightRecon.Lib.Proc
import NightRecon.RedNight.Persistence

/-!
# Executing a persistence plan

The privileged executor of `red_night_app/persistence_executor.py`, over any runner of commands,
and the partition such a runner drives.

* `executePersistencePlan`, `provisionWorkspace`, `unlockWorkspace`, `mountWorkspace`,
  `safeCloseWorkspace` — the plans, executed command by command;
* `commandEffect` — what a command does to the partition; `partitionRunner` — the runner on a
  partition whose commands may fail;
* `runAll_succeeds`, `runAll_stops` — a list of commands none of which fails, and one that stops
  at its first failure;
* `stepCommands_apply` — the commands of a step have the step's effect.
-/

namespace NightRecon.RedNight.PersistenceExecutor

open NightRecon.Lib
open NightRecon.Lib.Checks
open NightRecon.RedNight.Persistence

/-! ## Commands -/

def cryptsetup : String := "/usr/sbin/cryptsetup"

def mkfsExt4 : String := "/usr/sbin/mkfs.ext4"

def mountProgram : String := "/usr/bin/mount"

def umountProgram : String := "/usr/bin/umount"

def installProgram : String := "/usr/bin/install"

/-- A command: its argument vector and what it reads from standard input. -/
structure Command where
  argv : List String
  stdin : Option (List UInt8) := none

/-- Source: `persistence_executor.py` `PrivilegedCommandResult`. -/
structure PrivilegedCommandResult where
  returncode : Int
  deriving DecidableEq

/-- A `CommandRunner`, with the state it works on. -/
abbrev CommandRunner (σ : Type) := Command → Proc Exn σ PrivilegedCommandResult

/-- The commands of one step, in order. -/
def stepCommands (config : RedPersistenceConfig) (passphrase : Option (List UInt8)) :
    RedPersistenceStep → List Command
  | .luks2Format =>
      [⟨[cryptsetup, "luksFormat", "--type", "luks2", "--batch-mode", "--key-file", "-",
        config.device], passphrase⟩]
  | .luks2Open =>
      [⟨[cryptsetup, "open", "--type", "luks2", "--key-file", "-", config.device,
        config.mapperName], passphrase⟩]
  | .filesystemCreate =>
      [⟨[mkfsExt4, "-F", "-L", "RED_NIGHT_WORKSPACE", "/dev/mapper/" ++ config.mapperName], none⟩]
  | .filesystemMount =>
      [⟨[installProgram, "-d", "-m", "0700", config.mountPoint], none⟩,
        ⟨[mountProgram, "-t", config.filesystem, "-o", "nosuid,nodev",
          "/dev/mapper/" ++ config.mapperName, config.mountPoint], none⟩]
  | .filesystemUnmount => [⟨[umountProgram, config.mountPoint], none⟩]
  | .luks2Close => [⟨[cryptsetup, "close", config.mapperName], none⟩]

section Runner

variable {σ : Type} (runner : CommandRunner σ)

/-- Source: `persistence_executor.py` `_run`. -/
def run (command : Command) : Proc Exn σ Unit := do
  let result ← runner command
  Proc.ofExcept (raiseIf (result.returncode ≠ 0)
    ⟨.persistenceExecutionError, "privileged persistence command failed: " ++
      command.argv.headD ""⟩)

/-- The commands of a list, one after another. -/
def runAll : List Command → Proc Exn σ Unit
  | [] => pure ()
  | command :: rest => do
      run runner command
      runAll rest

/-! ## The executor -/

/-- Source: `persistence_executor.py` `_validate_plan`. -/
def validatePlan (config : RedPersistenceConfig) (plan : RedPersistencePlan) : Py Unit := do
  let expected ← planPersistenceAction config plan.fromState plan.action plan.destructive
  raiseIf (plan ≠ expected ∨ plan.allowed = false)
    (valueError "persistence plan is not an allowed canonical plan")

/-- Source: `persistence_executor.py` `_require_passphrase`. -/
def requirePassphrase (plan : RedPersistencePlan) (passphrase : Option (List UInt8)) : Py Unit :=
  if plan.requiresPassphrase then
    match passphrase with
    | none => .error (valueError "non-empty passphrase bytes are required")
    | some bytes => do
        raiseIf (bytes = []) (valueError "non-empty passphrase bytes are required")
        raiseIf (0 ∈ bytes) (valueError "passphrase must not contain NUL bytes")
  else
    raiseIf (passphrase.isSome = true)
      (valueError "passphrase supplied for a plan that does not require one")

/-- Source: `persistence_executor.py` `execute_persistence_plan`. -/
def executePersistencePlan (config : RedPersistenceConfig) (plan : RedPersistencePlan)
    (passphrase : Option (List UInt8)) : Proc Exn σ Unit := do
  Proc.ofExcept (validatePlan config plan)
  Proc.ofExcept (requirePassphrase plan passphrase)
  runAll runner (plan.steps.flatMap (stepCommands config passphrase))

/-- Source: `persistence_executor.py` `provision_workspace`. -/
def provisionWorkspace (config : RedPersistenceConfig) (passphrase : List UInt8)
    (destructiveConfirmation : Bool) (targetProbe : String → Py Bool) : Proc Exn σ Unit := do
  let plan ← Proc.ofExcept
    (planPersistenceAction config .uninitialized .provision destructiveConfirmation)
  if plan.allowed = false then
    executePersistencePlan runner config plan (some passphrase)
  else do
    let empty ← Proc.ofExcept (targetProbe config.device)
    Proc.ofExcept (require (empty = true)
      (valueError "persistence target is not verified empty"))
    executePersistencePlan runner config plan (some passphrase)

/-- Source: `persistence_executor.py` `unlock_workspace`. -/
def unlockWorkspace (config : RedPersistenceConfig) (passphrase : List UInt8) :
    Proc Exn σ Unit := do
  let plan ← Proc.ofExcept (planPersistenceAction config .luks2Locked .unlock false)
  executePersistencePlan runner config plan (some passphrase)

/-- Source: `persistence_executor.py` `mount_workspace`. -/
def mountWorkspace (config : RedPersistenceConfig) : Proc Exn σ Unit := do
  let plan ← Proc.ofExcept (planPersistenceAction config .luks2Open .mount false)
  executePersistencePlan runner config plan none

/-- Source: `persistence_executor.py` `safe_close_workspace`. -/
def safeCloseWorkspace (config : RedPersistenceConfig) (mounted : Bool) : Proc Exn σ Unit := do
  let state := if mounted then .mounted else .luks2Open
  let plan ← Proc.ofExcept (planPersistenceAction config state .safeClose false)
  executePersistencePlan runner config plan none

/-! ## What the executor runs -/

/-- Passphrase bytes that are read: some, and none of them NUL. -/
def Usable (passphrase : List UInt8) : Prop := passphrase ≠ [] ∧ 0 ∉ passphrase

instance (passphrase : List UInt8) : Decidable (Usable passphrase) :=
  inferInstanceAs (Decidable (_ ∧ _))

theorem validatePlan_planOf (config : RedPersistenceConfig) {current : RedPersistenceState}
    {requested : RedPersistenceAction} {destructiveConfirmation : Bool}
    (h : (planOf current requested destructiveConfirmation).allowed = true) :
    validatePlan config (planOf current requested destructiveConfirmation) = .ok () := by
  rw [validatePlan, planPersistenceAction_eq, plan_canonical h]
  apply raiseIf_eq_ok.mpr
  rintro (hne | hallowed)
  · exact hne rfl
  · exact Bool.false_ne_true (hallowed.symm.trans h)

theorem requirePassphrase_usable {plan : RedPersistencePlan} {passphrase : List UInt8}
    (hplan : plan.requiresPassphrase = true) (h : Usable passphrase) :
    requirePassphrase plan (some passphrase) = .ok () := by
  rw [requirePassphrase, if_pos hplan]
  exact raiseIf_bind_eq_ok.mpr ⟨h.1, raiseIf_eq_ok.mpr h.2⟩

theorem requirePassphrase_unusable {plan : RedPersistencePlan} {passphrase : List UInt8}
    (hplan : plan.requiresPassphrase = true) (h : ¬ Usable passphrase) :
    ∃ e, requirePassphrase plan (some passphrase) = .error e := by
  cases hcheck : requirePassphrase plan (some passphrase) with
  | error e => exact ⟨e, rfl⟩
  | ok u =>
    rw [requirePassphrase, if_pos hplan] at hcheck
    obtain ⟨hne, hzero⟩ := raiseIf_bind_eq_ok.mp hcheck
    exact absurd ⟨hne, raiseIf_eq_ok.mp hzero⟩ h

/-- An allowed plan that asks for no passphrase is its commands. -/
theorem execute_unattended (config : RedPersistenceConfig) (current : RedPersistenceState)
    (requested : RedPersistenceAction)
    (h : (planOf current requested false).allowed = true)
    (hplan : (planOf current requested false).requiresPassphrase = false) :
    executePersistencePlan runner config (planOf current requested false) none =
      runAll runner
        ((planOf current requested false).steps.flatMap (stepCommands config none)) := by
  rw [executePersistencePlan, validatePlan_planOf config h, requirePassphrase, hplan]
  rfl

/-- An allowed plan that asks for a passphrase, with one that is read, is its commands. -/
theorem execute_usable (config : RedPersistenceConfig) (current : RedPersistenceState)
    (requested : RedPersistenceAction) (destructiveConfirmation : Bool)
    {passphrase : List UInt8}
    (h : (planOf current requested destructiveConfirmation).allowed = true)
    (hplan : (planOf current requested destructiveConfirmation).requiresPassphrase = true)
    (hpassphrase : Usable passphrase) :
    executePersistencePlan runner config (planOf current requested destructiveConfirmation)
        (some passphrase) =
      runAll runner ((planOf current requested destructiveConfirmation).steps.flatMap
        (stepCommands config (some passphrase))) := by
  rw [executePersistencePlan, validatePlan_planOf config h,
    requirePassphrase_usable hplan hpassphrase]
  rfl

/-- The same plan with a passphrase that is refused runs no command. -/
theorem execute_unusable (config : RedPersistenceConfig) (current : RedPersistenceState)
    (requested : RedPersistenceAction) (destructiveConfirmation : Bool)
    {passphrase : List UInt8}
    (h : (planOf current requested destructiveConfirmation).allowed = true)
    (hplan : (planOf current requested destructiveConfirmation).requiresPassphrase = true)
    (hpassphrase : ¬ Usable passphrase) (s : σ) :
    ∃ e, executePersistencePlan runner config
      (planOf current requested destructiveConfirmation) (some passphrase) s = (.error e, s) := by
  obtain ⟨e, he⟩ := requirePassphrase_unusable hplan hpassphrase
  refine ⟨e, ?_⟩
  rw [executePersistencePlan, validatePlan_planOf config h, he]
  rfl

end Runner

/-! ## The partition the commands drive -/

/-- What a command does to the partition when it succeeds. -/
def commandEffect (argv : List String) (state : RedPersistenceState) :
    Option RedPersistenceState :=
  if argv.take 2 = [cryptsetup, "luksFormat"] then RedPersistenceStep.effect .luks2Format state
  else if argv.take 2 = [cryptsetup, "open"] then RedPersistenceStep.effect .luks2Open state
  else if argv.take 2 = [cryptsetup, "close"] then RedPersistenceStep.effect .luks2Close state
  else if argv.take 1 = [mkfsExt4] then RedPersistenceStep.effect .filesystemCreate state
  else if argv.take 1 = [installProgram] then some state
  else if argv.take 1 = [mountProgram] then RedPersistenceStep.effect .filesystemMount state
  else if argv.take 1 = [umountProgram] then RedPersistenceStep.effect .filesystemUnmount state
  else none

/-- The commands that fail only where they do not apply: unmounting and closing. -/
def Dependable (argv : List String) : Prop :=
  argv.take 1 = [umountProgram] ∨ argv.take 2 = [cryptsetup, "close"]

instance (argv : List String) : Decidable (Dependable argv) := inferInstanceAs (Decidable (_ ∨ _))

/-- The selected partition, and the commands issued so far, each with whether it succeeded. -/
structure Partition where
  state : RedPersistenceState
  issued : List (List String × Bool) := []
  deriving DecidableEq

/-- The partition after a command. -/
def Partition.after (p : Partition) (argv : List String) (state : RedPersistenceState)
    (succeeded : Bool) : Partition :=
  ⟨state, p.issued ++ [(argv, succeeded)]⟩

@[simp] theorem Partition.after_state (p : Partition) (argv : List String)
    (state : RedPersistenceState) (succeeded : Bool) :
    (p.after argv state succeeded).state = state := rfl

@[simp] theorem Partition.length_after (p : Partition) (argv : List String)
    (state : RedPersistenceState) (succeeded : Bool) :
    (p.after argv state succeeded).issued.length = p.issued.length + 1 := by
  rw [Partition.after, List.length_append, List.length_singleton]

/-- The runner on a partition.  `outcome i` is how the command issued as number `i` ends: with a
return code or an exception.  A command that fails changes nothing. -/
def partitionRunner (outcome : Nat → Py Int) : CommandRunner Partition := fun command p =>
  match commandEffect command.argv p.state with
  | none => (.ok ⟨1⟩, p.after command.argv p.state false)
  | some state =>
      if Dependable command.argv then (.ok ⟨0⟩, p.after command.argv state true)
      else
        match outcome p.issued.length with
        | .ok code =>
            if code = 0 then (.ok ⟨0⟩, p.after command.argv state true)
            else (.ok ⟨code⟩, p.after command.argv p.state false)
        | .error e => (.error e, p.after command.argv p.state false)

section Partition

variable (outcome : Nat → Py Int)

/-- A command that applies and does not fail. -/
theorem run_succeeds {command : Command} {p : Partition} {state : RedPersistenceState}
    (heffect : commandEffect command.argv p.state = some state)
    (h : Dependable command.argv ∨ outcome p.issued.length = .ok 0) :
    run (partitionRunner outcome) command p = (.ok (), p.after command.argv state true) := by
  have hrunner : partitionRunner outcome command p =
      (.ok ⟨0⟩, p.after command.argv state true) := by
    rw [partitionRunner, heffect]
    by_cases hdependable : Dependable command.argv
    · exact if_pos hdependable
    · have houtcome := h.resolve_left hdependable
      simp only [if_neg hdependable, houtcome, if_true]
  rw [run, Proc.bind_of_ok hrunner]
  rfl

/-- A command that fails leaves the partition as it was, and an exception. -/
theorem run_fails {command : Command} {p : Partition} {state : RedPersistenceState}
    (heffect : commandEffect command.argv p.state = some state)
    (hdependable : ¬ Dependable command.argv) (h : outcome p.issued.length ≠ .ok 0) :
    ∃ e, run (partitionRunner outcome) command p =
      (.error e, p.after command.argv p.state false) := by
  cases houtcome : outcome p.issued.length with
  | error e =>
    have hrunner : partitionRunner outcome command p =
        (.error e, p.after command.argv p.state false) := by
      simp only [partitionRunner, heffect, if_neg hdependable, houtcome]
    exact ⟨e, by rw [run, Proc.bind_of_error hrunner]⟩
  | ok code =>
    have hcode : code ≠ 0 := fun hzero => h (by rw [houtcome, hzero])
    have hrunner : partitionRunner outcome command p =
        (.ok ⟨code⟩, p.after command.argv p.state false) := by
      simp only [partitionRunner, heffect, if_neg hdependable, houtcome, if_neg hcode]
    rw [run, Proc.bind_of_ok hrunner, Proc.ofExcept_apply, raiseIf, if_pos hcode]
    exact ⟨_, rfl⟩

/-- The mapping was opened in the course of the commands. -/
def Partition.Unlocked (p : Partition) : Prop :=
  ∃ argv, (argv, true) ∈ p.issued ∧ argv.take 2 = [cryptsetup, "open"]

/-- A partition that was unlocked carries a LUKS2 container. -/
def Partition.Consistent (p : Partition) : Prop :=
  p.Unlocked → p.state ≠ .missing ∧ p.state ≠ .uninitialized

/-- A step that was made leaves a LUKS2 container. -/
theorem effect_container {step : RedPersistenceStep} {state state' : RedPersistenceState}
    (h : step.effect state = some state') : state' ≠ .missing ∧ state' ≠ .uninitialized := by
  cases step <;> cases state <;> cases h <;> decide

/-- No command takes the container away again. -/
theorem commandEffect_container {argv : List String} {state state' : RedPersistenceState}
    (h : commandEffect argv state = some state')
    (hstate : state ≠ .missing ∧ state ≠ .uninitialized) :
    state' ≠ .missing ∧ state' ≠ .uninitialized := by
  unfold commandEffect at h
  split_ifs at h with _ _ _ _ hinstall
  · exact effect_container h
  · exact effect_container h
  · exact effect_container h
  · exact effect_container h
  · exact Option.some.inj h ▸ hstate
  · exact effect_container h
  · exact effect_container h

/-- Opening the mapping leaves a LUKS2 container. -/
theorem commandEffect_open {argv : List String} {state state' : RedPersistenceState}
    (h : commandEffect argv state = some state') (hargv : argv.take 2 = [cryptsetup, "open"]) :
    state' ≠ .missing ∧ state' ≠ .uninitialized := by
  rw [commandEffect, if_neg (by rw [hargv]; decide), if_pos hargv] at h
  exact effect_container h

/-- A command that failed keeps the partition consistent. -/
theorem Partition.Consistent.failed {p : Partition} (h : p.Consistent) (argv : List String) :
    (p.after argv p.state false).Consistent := by
  rintro ⟨argv', hissued, hargv'⟩
  rw [Partition.after, List.mem_append, List.mem_singleton] at hissued
  rcases hissued with hissued | heq
  · exact h ⟨argv', hissued, hargv'⟩
  · exact absurd (Prod.mk.inj heq).2.symm Bool.false_ne_true

/-- A command that succeeded keeps the partition consistent. -/
theorem Partition.Consistent.succeeded {p : Partition} (h : p.Consistent) {argv : List String}
    {state : RedPersistenceState} (heffect : commandEffect argv p.state = some state) :
    (p.after argv state true).Consistent := by
  rintro ⟨argv', hissued, hargv'⟩
  rw [Partition.after, List.mem_append, List.mem_singleton] at hissued
  rcases hissued with hissued | heq
  · exact commandEffect_container heffect (h ⟨argv', hissued, hargv'⟩)
  · obtain ⟨rfl, -⟩ := Prod.mk.inj heq
    exact commandEffect_open heffect hargv'

/-- **One command** keeps the partition consistent, however it ends. -/
theorem partitionRunner_consistent (command : Command) {p : Partition} (h : p.Consistent) :
    (partitionRunner outcome command p).2.Consistent := by
  cases heffect : commandEffect command.argv p.state with
  | none =>
    simp only [partitionRunner, heffect]
    exact h.failed command.argv
  | some state =>
    by_cases hdependable : Dependable command.argv
    · simp only [partitionRunner, heffect, if_pos hdependable]
      exact h.succeeded heffect
    · cases houtcome : outcome p.issued.length with
      | error e =>
        simp only [partitionRunner, heffect, if_neg hdependable, houtcome]
        exact h.failed command.argv
      | ok code =>
        by_cases hcode : code = 0
        · simp only [partitionRunner, heffect, if_neg hdependable, houtcome, if_pos hcode]
          exact h.succeeded heffect
        · simp only [partitionRunner, heffect, if_neg hdependable, houtcome, if_neg hcode]
          exact h.failed command.argv

/-- **A list of commands** keeps the partition consistent, however it ends. -/
theorem runAll_consistent (commands : List Command) :
    Triple Partition.Consistent (runAll (partitionRunner outcome) commands)
      (fun _ => Partition.Consistent) (fun _ => Partition.Consistent) := by
  induction commands with
  | nil => exact Triple.pure fun p hp => hp
  | cons command rest ih =>
    apply Triple.bind (Q := fun _ => Partition.Consistent)
    · apply Triple.bind (Q := fun _ => Partition.Consistent)
      · intro p hp
        have hrunner := partitionRunner_consistent outcome command hp
        cases hcommand : partitionRunner outcome command p with
        | mk r p' =>
          rw [hcommand] at hrunner
          cases r <;> exact hrunner
      · intro result
        exact Triple.ofExcept (fun _ _ _ hp => hp) (fun _ _ _ hp => hp)
    · intro _
      exact ih

/-- The state a list of commands leads to when none fails. -/
def reach (commands : List Command) (state : RedPersistenceState) : Option RedPersistenceState :=
  commands.foldlM (fun state command => commandEffect command.argv state) state

/-- **Commands none of which fails.** -/
theorem runAll_succeeds {commands : List Command} {p : Partition} {state : RedPersistenceState}
    (hreach : reach commands p.state = some state)
    (h : ∀ i (hi : i < commands.length),
      Dependable commands[i].argv ∨ outcome (p.issued.length + i) = .ok 0) :
    ∃ p', runAll (partitionRunner outcome) commands p = (.ok (), p') ∧ p'.state = state ∧
      p'.issued.length = p.issued.length + commands.length := by
  induction commands generalizing p with
  | nil => exact ⟨p, rfl, Option.some.inj hreach, rfl⟩
  | cons command rest ih =>
    obtain ⟨next, hnext, hrest⟩ := Option.bind_eq_some_iff.mp hreach
    have hrun := run_succeeds outcome hnext (h 0 (Nat.succ_pos _))
    obtain ⟨p', hp', hstate, hlength⟩ := ih (p := p.after command.argv next true) hrest (by
      intro i hi
      have hlater := h (i + 1) (Nat.succ_lt_succ hi)
      rwa [Partition.length_after, Nat.add_assoc, Nat.add_comm 1 i])
    refine ⟨p', ?_, hstate, ?_⟩
    · rw [runAll, Proc.bind_of_ok hrun]
      exact hp'
    · rw [hlength, Partition.length_after, List.length_cons]
      omega

/-- **Commands that stop at the first failure**, in the state reached before it. -/
theorem runAll_stops {commands : List Command} {p : Partition} {k : Nat}
    {state : RedPersistenceState} (hk : k < commands.length)
    (hreach : reach (commands.take k) p.state = some state)
    (happlies : (commandEffect commands[k].argv state).isSome = true)
    (hdependable : ¬ Dependable commands[k].argv)
    (hbefore : ∀ i < k, outcome (p.issued.length + i) = .ok 0)
    (hfails : outcome (p.issued.length + k) ≠ .ok 0) :
    ∃ e p', runAll (partitionRunner outcome) commands p = (.error e, p') ∧ p'.state = state := by
  induction commands generalizing p k with
  | nil => exact absurd hk (Nat.not_lt_zero k)
  | cons command rest ih =>
    cases k with
    | zero =>
      obtain rfl : p.state = state := Option.some.inj hreach
      have happlies' : (commandEffect command.argv p.state).isSome = true := happlies
      obtain ⟨next, hnext⟩ := Option.isSome_iff_exists.mp happlies'
      obtain ⟨e, he⟩ := run_fails outcome hnext hdependable hfails
      exact ⟨e, p.after command.argv p.state false, by rw [runAll, Proc.bind_of_error he], rfl⟩
    | succ k =>
      obtain ⟨next, hnext, hrest⟩ := Option.bind_eq_some_iff.mp hreach
      have hrun := run_succeeds outcome hnext (.inr (hbefore 0 (Nat.succ_pos k)))
      obtain ⟨e, p', hp', hstate⟩ := ih (p := p.after command.argv next true)
        (Nat.lt_of_succ_lt_succ hk) hrest happlies hdependable
        (by
          intro i hi
          have hlater := hbefore (i + 1) (Nat.succ_lt_succ hi)
          rwa [Partition.length_after, Nat.add_assoc, Nat.add_comm 1 i])
        (by rwa [Partition.length_after, Nat.add_assoc, Nat.add_comm 1 k])
      exact ⟨e, p', by rw [runAll, Proc.bind_of_ok hrun]; exact hp', hstate⟩

/-- Command number `k` is the first to fail. -/
def FirstFailure (k : Nat) : Prop := (∀ i < k, outcome i = .ok 0) ∧ outcome k ≠ .ok 0

/-- Of the first commands none fails, or one of them is the first to fail. -/
theorem succeed_or_firstFailure (n : Nat) :
    (∀ i < n, outcome i = .ok 0) ∨ ∃ k < n, FirstFailure outcome k := by
  induction n with
  | zero => exact .inl fun i hi => absurd hi (Nat.not_lt_zero i)
  | succ n ih =>
    rcases ih with hall | ⟨k, hk, hfirst⟩
    · by_cases hn : outcome n = .ok 0
      · refine .inl fun i hi => ?_
        rcases Nat.lt_succ_iff_lt_or_eq.mp hi with hlt | rfl
        · exact hall i hlt
        · exact hn
      · exact .inr ⟨n, Nat.lt_succ_self n, hall, hn⟩
    · exact .inr ⟨k, Nat.lt_succ_of_lt hk, hfirst⟩

theorem FirstFailure.unique {k k' : Nat} (h : FirstFailure outcome k)
    (h' : FirstFailure outcome k') : k = k' := by
  rcases Nat.lt_trichotomy k k' with hlt | heq | hlt
  · exact absurd (h'.1 k hlt) h.2
  · exact heq
  · exact absurd (h.1 k' hlt) h'.2

/-- **Commands played on a fresh partition**: all succeed, or they stop at the first failure. -/
theorem runAll_ends {commands : List Command} {start state : RedPersistenceState}
    (hreach : reach commands start = some state)
    (hdependable : ∀ command ∈ commands, ¬ Dependable command.argv) :
    (∃ p', runAll (partitionRunner outcome) commands ⟨start, []⟩ = (.ok (), p') ∧
        p'.state = state ∧ ∀ i < commands.length, outcome i = .ok 0) ∨
      ∃ k < commands.length, FirstFailure outcome k ∧ ∃ e p',
        runAll (partitionRunner outcome) commands ⟨start, []⟩ = (.error e, p') ∧
          reach (commands.take k) start = some p'.state := by
  rcases succeed_or_firstFailure outcome commands.length with hall | ⟨k, hk, hfirst⟩
  · obtain ⟨p', hrun, hstate, -⟩ := runAll_succeeds outcome (p := ⟨start, []⟩) hreach
      (fun i hi => .inr (by simpa using hall i hi))
    exact .inl ⟨p', hrun, hstate, hall⟩
  · right
    -- the commands before the failure lead to the state in which the failing one applies
    have hsplit : commands = commands.take k ++ commands[k] :: commands.drop (k + 1) := by
      rw [List.getElem_cons_drop, List.take_append_drop]
    have hpath := hreach
    rw [hsplit, reach, List.foldlM_append] at hpath
    obtain ⟨middle, hmiddle, hrest⟩ := Option.bind_eq_some_iff.mp hpath
    obtain ⟨next, hnext, -⟩ := Option.bind_eq_some_iff.mp hrest
    obtain ⟨e, p', hrun, hstate⟩ := runAll_stops outcome (p := ⟨start, []⟩) hk hmiddle
      (Option.isSome_iff_exists.mpr ⟨next, hnext⟩) (hdependable _ (List.getElem_mem hk))
      (by simpa using hfirst.1) (by simpa using hfirst.2)
    exact ⟨k, hk, hfirst, e, p', hrun, hstate ▸ hmiddle⟩

end Partition

theorem runAll_append {σ : Type} (runner : CommandRunner σ) (commands commands' : List Command) :
    runAll runner (commands ++ commands') = (do
      runAll runner commands
      runAll runner commands') := by
  induction commands with
  | nil => rfl
  | cons command rest ih =>
    funext s
    rw [List.cons_append, runAll, runAll, ih, Proc.bind_apply, Proc.bind_apply, Proc.bind_apply]
    cases run runner command s with
    | mk r s' => cases r <;> rfl

/-- **The commands of a step** have the step's effect on the partition. -/
theorem stepCommands_apply (config : RedPersistenceConfig) (passphrase : Option (List UInt8))
    {step : RedPersistenceStep} {state state' : RedPersistenceState}
    (h : step.effect state = some state') :
    reach (stepCommands config passphrase step) state = some state' := by
  cases step <;> cases state <;> exact h

/-! ## The workspace operations as command lists -/

section Operations

variable {σ : Type} (runner : CommandRunner σ) (config : RedPersistenceConfig)

/-- The commands of the first-use provisioning. -/
def provisionCommands (passphrase : List UInt8) : List Command :=
  [.luks2Format, .luks2Open, .filesystemCreate, .filesystemMount].flatMap
    (stepCommands config (some passphrase))

/-- The commands that open and mount a locked workspace. -/
def openCommands (passphrase : List UInt8) : List Command :=
  stepCommands config (some passphrase) .luks2Open ++ stepCommands config none .filesystemMount

/-- The commands of the safe close of a mounted workspace. -/
def closeCommands : List Command :=
  [.filesystemUnmount, .luks2Close].flatMap (stepCommands config none)

theorem provisionWorkspace_runs {passphrase : List UInt8} {targetProbe : String → Py Bool}
    (hpassphrase : Usable passphrase) (hprobe : targetProbe config.device = .ok true) :
    provisionWorkspace runner config passphrase true targetProbe =
      runAll runner (provisionCommands config passphrase) := by
  rw [provisionWorkspace, planPersistenceAction_eq]
  have hexecute := execute_usable runner config .uninitialized .provision true rfl rfl
    hpassphrase
  funext s
  rw [Proc.bind_of_ok (Proc.ofExcept_apply _ s), if_neg (by decide), hprobe]
  exact congrFun hexecute s

/-- A provisioning that is refused runs no command. -/
theorem provisionWorkspace_refused {passphrase : List UInt8} {targetProbe : String → Py Bool}
    (h : ¬ (Usable passphrase ∧ targetProbe config.device = .ok true)) (s : σ) :
    ∃ e, provisionWorkspace runner config passphrase true targetProbe s = (.error e, s) := by
  rw [provisionWorkspace, planPersistenceAction_eq, Proc.bind_of_ok (Proc.ofExcept_apply _ s),
    if_neg (by decide)]
  cases hprobe : targetProbe config.device with
  | error e => exact ⟨e, rfl⟩
  | ok empty =>
    cases empty with
    | false => exact ⟨_, rfl⟩
    | true =>
      exact execute_unusable runner config .uninitialized .provision true rfl rfl
        (fun husable => h ⟨husable, hprobe⟩) s

theorem unlockWorkspace_runs {passphrase : List UInt8} (hpassphrase : Usable passphrase) :
    unlockWorkspace runner config passphrase =
      runAll runner (stepCommands config (some passphrase) .luks2Open) := by
  have hexecute := execute_usable runner config .luks2Locked .unlock false rfl rfl
    hpassphrase
  rw [unlockWorkspace, planPersistenceAction_eq]
  exact hexecute

/-- An unlocking with a refused passphrase runs no command. -/
theorem unlockWorkspace_refused {passphrase : List UInt8} (h : ¬ Usable passphrase) (s : σ) :
    ∃ e, unlockWorkspace runner config passphrase s = (.error e, s) := by
  rw [unlockWorkspace, planPersistenceAction_eq]
  exact execute_unusable runner config .luks2Locked .unlock false rfl rfl h s

theorem mountWorkspace_runs :
    mountWorkspace runner config = runAll runner (stepCommands config none .filesystemMount) := by
  have hexecute := execute_unattended runner config .luks2Open .mount rfl rfl
  rw [mountWorkspace, planPersistenceAction_eq]
  exact hexecute

theorem safeCloseWorkspace_runs :
    safeCloseWorkspace runner config true = runAll runner (closeCommands config) := by
  have hexecute := execute_unattended runner config .mounted .safeClose rfl rfl
  rw [safeCloseWorkspace, if_pos rfl, planPersistenceAction_eq]
  exact hexecute

end Operations

/-- **The safe close** of a mounted workspace leaves it locked, whatever other commands do. -/
theorem closeCommands_lock (config : RedPersistenceConfig) (outcome : Nat → Py Int)
    {p : Partition} (h : p.state = .mounted) :
    ∃ p', runAll (partitionRunner outcome) (closeCommands config) p = (.ok (), p') ∧
      p'.state = .luks2Locked := by
  have hreach : reach (closeCommands config) p.state = some .luks2Locked := by
    rw [h]
    rfl
  have hdependable : ∀ i (hi : i < (closeCommands config).length),
      Dependable (closeCommands config)[i].argv ∨ outcome (p.issued.length + i) = .ok 0 := by
    intro i hi
    left
    match i, hi with
    | 0, _ => exact .inl rfl
    | 1, _ => exact .inr rfl
  obtain ⟨p', hrun, hstate, -⟩ := runAll_succeeds outcome hreach hdependable
  exact ⟨p', hrun, hstate⟩

end NightRecon.RedNight.PersistenceExecutor
