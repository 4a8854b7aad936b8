import NightRecon.Lib.Dict
import NightRecon.RedNight.PersistenceExecutor

/-!
# The Secure Workspace session

The session controller of `red_night_app/appliance.py`, driving a partition whose commands may
fail.

* `shlexSplit` — the words of a command line;
* `runSecureWorkspaceSession` — probe, first use or unlocking, the command loop and its cleanup;
* `LeftLocked` — the mapping is closed, the file system unmounted, and a workspace that was opened
  is locked; `StopsWhileOpen` — a command between opening the mapping and the end of the mounting
  is the first to fail;
* `session_locks_iff` — a session ends locked exactly when none of these commands is the first to
  fail; `session_refuses_open` — a workspace left open is refused.
-/

namespace NightRecon.RedNight.Appliance

open NightRecon.Lib
open NightRecon.Lib.Checks
open NightRecon.Lib.Text
open NightRecon.RedNight.Persistence
open NightRecon.RedNight.PersistenceExecutor

/-! ## The words of a command line -/

/-- Where the reader of a command line stands, with the word it is in. -/
inductive ShlexState where
  | blank
  | word (token : List Char) (quoted : Bool)
  | quote (mark : Char) (token : List Char)
  /-- Behind a backslash; `within` is the quote it stands in. -/
  | escape (within : Option Char) (token : List Char) (quoted : Bool)

def isShlexBlank (c : Char) : Bool := c = ' ' || c = '\t' || c = '\r' || c = '\n'

def isShlexQuote (c : Char) : Bool := c = '\'' || c = '"'

/-- A word that is given: one with characters, or an empty one that was quoted. -/
def shlexWord (token : List Char) (quoted : Bool) : List String :=
  if token = [] ∧ quoted = false then [] else [String.ofList token]

/-- The words of the rest of a line. -/
def shlexWords : ShlexState → List Char → Py (List String)
  | .blank, [] => .ok []
  | .blank, c :: rest =>
      if isShlexBlank c then shlexWords .blank rest
      else if c = '\\' then shlexWords (.escape none [] false) rest
      else if isShlexQuote c then shlexWords (.quote c []) rest
      else shlexWords (.word [c] false) rest
  | .word token quoted, [] => .ok (shlexWord token quoted)
  | .word token quoted, c :: rest =>
      if isShlexBlank c then do
        let words ← shlexWords .blank rest
        .ok (shlexWord token quoted ++ words)
      else if isShlexQuote c then shlexWords (.quote c token) rest
      else if c = '\\' then shlexWords (.escape none token quoted) rest
      else shlexWords (.word (token ++ [c]) quoted) rest
  | .quote _ _, [] => .error (valueError "No closing quotation")
  | .quote mark token, c :: rest =>
      if c = mark then shlexWords (.word token true) rest
      else if c = '\\' ∧ mark = '"' then shlexWords (.escape (some mark) token true) rest
      else shlexWords (.quote mark (token ++ [c])) rest
  | .escape _ _ _, [] => .error (valueError "No escaped character")
  | .escape none token quoted, c :: rest => shlexWords (.word (token ++ [c]) quoted) rest
  | .escape (some mark) token _, c :: rest =>
      -- within quotes only the quote and the backslash are escaped
      if c ≠ '\\' ∧ c ≠ mark then shlexWords (.quote mark (token ++ ['\\', c])) rest
      else shlexWords (.quote mark (token ++ [c])) rest

/-- `shlex.split`. -/
def shlexSplit (text : String) : Py (List String) := shlexWords .blank text.toList

/-! ## The session -/

/-- What a session works on. -/
structure World where
  partition : Partition
  environ : Dict String String
  outputs : List String := []
  /-- The Red commands that were run, each with its working directory. -/
  redCommands : List (List String × String) := []

/-- What a session is given from outside: the answers to its prompts and how commands end. -/
structure Surroundings where
  /-- The exception of `state_probe`, when it raises. -/
  probeFault : Option Exn
  confirmation : Py String
  newPassphrase : Py (List UInt8)
  passphrase : Py (List UInt8)
  targetProbe : String → Py Bool
  /-- How the privileged command issued as number `i` ends. -/
  outcome : Nat → Py Int
  /-- The answers at the prompt up to the end of the input, each with how the Red command it names
  ends, should it be run. -/
  lines : List (Py String × Py Int)

/-- `output_fn`. -/
def output (text : String) : Proc Exn World Unit :=
  Proc.modify fun w => { w with outputs := w.outputs ++ [text] }

/-- A procedure of the executor, on the partition of the session. -/
def onPartition {α : Type} (p : Proc Exn Partition α) : Proc Exn World α :=
  Proc.zoom World.partition (fun w partition => { w with partition := partition }) p

/-- `state_probe`: the state of the partition. -/
def stateProbe (given : Surroundings) : Proc Exn World RedPersistenceState := do
  Proc.ofExcept (given.probeFault.elim (.ok ()) .error)
  let w ← Proc.get
  pure w.partition.state

def provisionPhrase (config : RedPersistenceConfig) : String := "PROVISION " ++ config.device

/-- Source: `appliance.py` `_confirm_provisioning`. -/
def confirmProvisioning (config : RedPersistenceConfig) (given : Surroundings) :
    Proc Exn World Bool := do
  output "WARNING: first-use Secure Workspace provisioning is destructive."
  output ("Only the explicitly selected partition will be targeted: " ++ config.device)
  output "Any existing data on that selected partition would be destroyed."
  let entered ← Proc.ofExcept given.confirmation
  pure (strip entered = provisionPhrase config)

/-- The command loop of `run_secure_workspace_session`. -/
def commandLoop (workspace : String) : List (Py String × Py Int) → Proc Exn World Int
  | [] => pure 0
  | (.error e, _) :: _ => if e.cls = .eofError then pure 0 else Proc.ofExcept (.error e)
  | (.ok raw, ending) :: rest =>
      let command := strip raw
      if command = "" then commandLoop workspace rest
      else if command = "exit" ∨ command = "quit" then pure 0
      else
        match shlexSplit command with
        | .error e => do
            output ("Input error: " ++ e.message)
            commandLoop workspace rest
        | .ok [] => commandLoop workspace rest
        | .ok args => do
            let args := if args = ["help"] then ["--help"] else args
            Proc.modify fun w => { w with redCommands := w.redCommands ++ [(args, workspace)] }
            let _ ← Proc.ofExcept ending
            commandLoop workspace rest

/-- The cleanup behind the command loop. -/
def leaveWorkspace (config : RedPersistenceConfig) (given : Surroundings) (openedHere : Bool) :
    Proc Exn World Unit := do
  Proc.modify fun w => { w with environ := w.environ.erase "NIGHTRECON_SECURE_WORKSPACE" }
  if openedHere then
    onPartition (safeCloseWorkspace (partitionRunner given.outcome) config true)
  else pure ()

/-- The session on a mounted workspace. -/
def activeSession (config : RedPersistenceConfig) (given : Surroundings) (openedHere : Bool) :
    Proc Exn World Int := do
  output "Secure Workspace active."
  output ("Red Night is running from encrypted persistent storage. " ++
    "The privileged Live session is the operator approval boundary.")
  Proc.modify fun w => { w with
    environ := (w.environ.insert "NIGHTRECON_LIVE_MODE" "secure-workspace").insert
      "NIGHTRECON_SECURE_WORKSPACE" config.mountPoint }
  Proc.ensuring (commandLoop config.mountPoint given.lines)
    (leaveWorkspace config given openedHere)

/-- Source: `appliance.py` `run_secure_workspace_session`. -/
def runSecureWorkspaceSession (config : RedPersistenceConfig) (given : Surroundings) :
    Proc Exn World Int := do
  let runner := partitionRunner given.outcome
  let state ← stateProbe given
  match state with
  | .missing => do
      output "Secure Workspace device is not present."
      pure 3
  | .uninitialized => do
      let confirmed ← confirmProvisioning config given
      if confirmed = false then
        output "Provisioning cancelled. No storage changes were made."
        pure 3
      else
        let secret ← Proc.ofExcept given.newPassphrase
        onPartition (provisionWorkspace runner config secret true given.targetProbe)
        activeSession config given true
  | .luks2Open => do
      output ("Secure Workspace mapping is already open but not mounted; " ++
        "refusing ambiguous ownership state.")
      pure 3
  | .luks2Locked => do
      let secret ← Proc.ofExcept given.passphrase
      onPartition (unlockWorkspace runner config secret)
      onPartition (mountWorkspace runner config)
      activeSession config given true
  | .mounted => activeSession config given false

/-! ## What a session leaves -/

/-- A session begins: the partition is in `state`, and no command was issued. -/
def World.start (state : RedPersistenceState) (environ : Dict String String) : World :=
  { partition := ⟨state, []⟩, environ := environ }

/-- The mapping is not left open nor the file system mounted, and a workspace that was unlocked is
locked again. -/
structure LeftLocked (w : World) : Prop where
  closed : w.partition.state ≠ .luks2Open
  unmounted : w.partition.state ≠ .mounted
  relocked : w.partition.Unlocked → w.partition.state = .luks2Locked

/-- The operator types the phrase that confirms the provisioning. -/
def Confirms (config : RedPersistenceConfig) (given : Surroundings) : Prop :=
  ∃ entered, given.confirmation = .ok entered ∧ strip entered = provisionPhrase config

/-- A passphrase prompt is answered by bytes that can be used. -/
def Answers (prompt : Py (List UInt8)) : Prop := ∃ secret, prompt = .ok secret ∧ Usable secret

/-- **A command behind the opening of the mapping is the first to fail**, before the file system
is mounted: making the file system, the mount point or the mount of a first use (commands 2 to 4),
the mount point or the mount of a locked workspace (commands 1 and 2). -/
def StopsWhileOpen (config : RedPersistenceConfig) (given : Surroundings) :
    RedPersistenceState → Prop
  | .uninitialized =>
      given.probeFault = none ∧ Confirms config given ∧ Answers given.newPassphrase ∧
        given.targetProbe config.device = .ok true ∧
        ∃ k, 2 ≤ k ∧ k < 5 ∧ FirstFailure given.outcome k
  | .luks2Locked =>
      given.probeFault = none ∧ Answers given.passphrase ∧
        ∃ k, 1 ≤ k ∧ k < 3 ∧ FirstFailure given.outcome k
  | _ => False

section Session

variable (config : RedPersistenceConfig) (given : Surroundings)

/-- The Red commands and the prompt leave the partition alone. -/
theorem commandLoop_keeps (workspace : String) (lines : List (Py String × Py Int)) :
    Keeps World.partition (commandLoop workspace lines) := by
  induction lines with
  | nil => exact Keeps.pure 0
  | cons line rest ih =>
    obtain ⟨answer, ending⟩ := line
    cases answer with
    | error e =>
      rw [commandLoop]
      exact Keeps.ite (Keeps.pure 0) (Keeps.ofExcept _)
    | ok raw =>
      rw [commandLoop]
      apply Keeps.ite ih
      apply Keeps.ite (Keeps.pure 0)
      cases shlexSplit (strip raw) with
      | error e => exact Keeps.bind (fun w => rfl) fun _ => ih
      | ok args =>
        cases args with
        | nil => exact ih
        | cons arg args =>
          exact Keeps.bind (fun w => rfl) fun _ => Keeps.bind (Keeps.ofExcept ending) fun _ => ih

/-- **The session on a mounted workspace that it opened** leaves it locked, however it ends. -/
theorem activeSession_locks {w : World} (h : w.partition.state = .mounted) :
    (activeSession config given true w).2.partition.state = .luks2Locked := by
  have hkeeps := commandLoop_keeps config.mountPoint given.lines
  let entered : World := { w with
    outputs := w.outputs ++ ["Secure Workspace active."] ++
      ["Red Night is running from encrypted persistent storage. " ++
        "The privileged Live session is the operator approval boundary."]
    environ := (w.environ.insert "NIGHTRECON_LIVE_MODE" "secure-workspace").insert
      "NIGHTRECON_SECURE_WORKSPACE" config.mountPoint }
  have hactive : activeSession config given true w =
      Proc.ensuring (commandLoop config.mountPoint given.lines)
        (leaveWorkspace config given true) entered := rfl
  have hmounted : (commandLoop config.mountPoint given.lines entered).2.partition.state =
      .mounted := by
    rw [hkeeps entered]
    exact h
  obtain ⟨p', hclose, hstate⟩ := closeCommands_lock config given.outcome hmounted
  have hleave : (leaveWorkspace config given true
      (commandLoop config.mountPoint given.lines entered).2).2.partition = p' := by
    rw [leaveWorkspace, if_pos rfl, safeCloseWorkspace_runs]
    exact congrArg Prod.snd hclose
  rw [hactive, Proc.ensuring_state, hleave, hstate]

/-- A partition that is consistent is left locked when it is neither open nor mounted. -/
theorem leftLocked_of_consistent {w : World} (h : w.partition.Consistent)
    (hopen : w.partition.state ≠ .luks2Open) (hmounted : w.partition.state ≠ .mounted) :
    LeftLocked w where
  closed := hopen
  unmounted := hmounted
  relocked := by
    intro hunlocked
    obtain ⟨hmissing, huninitialized⟩ := h hunlocked
    cases hstate : w.partition.state with
    | missing => exact absurd hstate hmissing
    | uninitialized => exact absurd hstate huninitialized
    | luks2Locked => rfl
    | luks2Open => exact absurd hstate hopen
    | mounted => exact absurd hstate hmounted

theorem fresh_consistent (state : RedPersistenceState) : (⟨state, []⟩ : Partition).Consistent := by
  rintro ⟨argv, hargv, -⟩
  exact absurd hargv List.not_mem_nil

/-- A session that issues no command leaves its partition locked. -/
theorem leftLocked_untouched {w : World} {state : RedPersistenceState}
    (hw : w.partition = ⟨state, []⟩) (h : state = .uninitialized ∨ state = .luks2Locked) :
    LeftLocked w := by
  apply leftLocked_of_consistent
  · rw [hw]
    exact fresh_consistent state
  · rw [hw]
    rcases h with rfl | rfl <;> exact RedPersistenceState.noConfusion
  · rw [hw]
    rcases h with rfl | rfl <;> exact RedPersistenceState.noConfusion

/-- Two procedures on the partition, one after the other, and what follows. -/
theorem onPartition_bind {α : Type} (p q : Proc Exn Partition Unit) (rest : Proc Exn World α) :
    (do
      onPartition (p >>= fun _ => q)
      rest) = (do
        onPartition p
        onPartition q
        rest) := by
  funext w
  rw [Proc.bind_apply, Proc.bind_apply, onPartition, Proc.zoom_apply, Proc.bind_apply]
  cases hp : p w.partition with
  | mk r partition =>
    cases r with
    | error e => simp only [onPartition, Proc.zoom_apply, hp]
    | ok u =>
      simp only [onPartition, Proc.zoom_apply, hp, Proc.bind_apply]

/-- **Opening commands, then the session**: left locked unless the commands stop in a state in
which the mapping is open. -/
theorem opening_locks_iff {commands : List Command} {start : RedPersistenceState} {w : World}
    (hw : w.partition = ⟨start, []⟩) (hreach : reach commands start = some .mounted)
    (hdependable : ∀ command ∈ commands, ¬ Dependable command.argv) :
    LeftLocked ((do
        onPartition (runAll (partitionRunner given.outcome) commands)
        activeSession config given true : Proc Exn World Int) w).2 ↔
      ¬ ∃ k < commands.length, FirstFailure given.outcome k ∧
        (reach (commands.take k) start = some .luks2Open ∨
          reach (commands.take k) start = some .mounted) := by
  rcases runAll_ends given.outcome hreach hdependable with
    ⟨p', hrun, hstate, hall⟩ | ⟨k, hk, hfirst, e, p', hrun, hstate⟩
  · have hopened : onPartition (runAll (partitionRunner given.outcome) commands) w =
        (.ok (), { w with partition := p' }) := by
      rw [onPartition, Proc.zoom_apply, hw, hrun]
    rw [Proc.bind_of_ok hopened]
    have hlocked := activeSession_locks config given (w := { w with partition := p' }) hstate
    refine iff_of_true ?_ ?_
    · exact ⟨by rw [hlocked]; decide, by rw [hlocked]; decide, fun _ => hlocked⟩
    · rintro ⟨k, hk, hfirst, -⟩
      exact hfirst.2 (hall k hk)
  · have hstopped : onPartition (runAll (partitionRunner given.outcome) commands) w =
        (.error e, { w with partition := p' }) := by
      rw [onPartition, Proc.zoom_apply, hw, hrun]
    rw [Proc.bind_of_error hstopped]
    have hconsistent : p'.Consistent := by
      have htriple := runAll_consistent given.outcome commands ⟨start, []⟩ (fresh_consistent start)
      rw [hrun] at htriple
      exact htriple
    constructor
    · rintro hleft ⟨k', -, hfirst', hreached⟩
      rw [← hfirst.unique given.outcome hfirst', hstate] at hreached
      rcases hreached with hopen | hmounted
      · exact hleft.closed (Option.some.inj hopen)
      · exact hleft.unmounted (Option.some.inj hmounted)
    · intro hnone
      apply leftLocked_of_consistent hconsistent
      · intro hopen
        exact hnone ⟨k, hk, hfirst, .inl (hopen ▸ hstate)⟩
      · intro hmounted
        exact hnone ⟨k, hk, hfirst, .inr (hmounted ▸ hstate)⟩

/-- Where the provisioning stands with the mapping open: behind its second command. -/
theorem provisionCommands_open (secret : List UInt8) {k : Nat}
    (hk : k < (provisionCommands config secret).length) :
    (reach ((provisionCommands config secret).take k) .uninitialized = some .luks2Open ∨
      reach ((provisionCommands config secret).take k) .uninitialized = some .mounted) ↔
      2 ≤ k := by
  have hk' : k < 5 := hk
  match k, hk' with
  | 0, _ =>
    refine iff_of_false ?_ (by decide)
    rintro (h | h)
    · exact absurd (Option.some.inj h) (by decide)
    · exact absurd (Option.some.inj h) (by decide)
  | 1, _ =>
    refine iff_of_false ?_ (by decide)
    rintro (h | h)
    · have hlocked : some RedPersistenceState.luks2Locked = some .luks2Open := h
      exact absurd (Option.some.inj hlocked) (by decide)
    · have hlocked : some RedPersistenceState.luks2Locked = some .mounted := h
      exact absurd (Option.some.inj hlocked) (by decide)
  | 2, _ => exact iff_of_true (.inl rfl) (by decide)
  | 3, _ => exact iff_of_true (.inl rfl) (by decide)
  | 4, _ => exact iff_of_true (.inl rfl) (by decide)

/-- Where the opening stands with the mapping open: behind its first command. -/
theorem openCommands_open (secret : List UInt8) {k : Nat}
    (hk : k < (openCommands config secret).length) :
    (reach ((openCommands config secret).take k) .luks2Locked = some .luks2Open ∨
      reach ((openCommands config secret).take k) .luks2Locked = some .mounted) ↔ 1 ≤ k := by
  have hk' : k < 3 := hk
  match k, hk' with
  | 0, _ =>
    refine iff_of_false ?_ (by decide)
    rintro (h | h)
    · exact absurd (Option.some.inj h) (by decide)
    · exact absurd (Option.some.inj h) (by decide)
  | 1, _ => exact iff_of_true (.inl rfl) (by decide)
  | 2, _ => exact iff_of_true (.inl rfl) (by decide)

theorem provisionCommands_fallible (secret : List UInt8) :
    ∀ command ∈ provisionCommands config secret, ¬ Dependable command.argv := by
  intro command hcommand
  simp only [provisionCommands, stepCommands, List.flatMap_cons, List.flatMap_nil,
    List.append_nil, List.cons_append, List.nil_append, List.mem_cons, List.not_mem_nil,
    or_false] at hcommand
  rcases hcommand with rfl | rfl | rfl | rfl | rfl <;>
    simp [Dependable, cryptsetup, mkfsExt4, installProgram, mountProgram, umountProgram]

theorem openCommands_fallible (secret : List UInt8) :
    ∀ command ∈ openCommands config secret, ¬ Dependable command.argv := by
  intro command hcommand
  simp only [openCommands, stepCommands, List.cons_append, List.nil_append, List.mem_cons,
    List.not_mem_nil, or_false] at hcommand
  rcases hcommand with rfl | rfl | rfl <;>
    simp [Dependable, cryptsetup, installProgram, mountProgram, umountProgram]

/-- A workspace left open is refused: the session changes nothing of it. -/
theorem session_refuses_open {w : World} (h : w.partition.state = .luks2Open)
    (hprobe : given.probeFault = none) :
    ∃ w', runSecureWorkspaceSession config given w = (.ok 3, w') ∧ w'.partition = w.partition := by
  have hstate : stateProbe given w = (.ok .luks2Open, w) := by
    rw [stateProbe, hprobe]
    exact congrArg (fun state => (Except.ok state, w)) h
  exact ⟨_, Proc.bind_of_ok hstate, rfl⟩

/-- A probe that raises ends the session before any command. -/
theorem session_probe_raises {state : RedPersistenceState} {environ : Dict String String} {e : Exn}
    (hprobe : given.probeFault = some e) :
    runSecureWorkspaceSession config given (.start state environ) =
      (.error e, .start state environ) := by
  have hstate : stateProbe given (.start state environ) = (.error e, .start state environ) := by
    rw [stateProbe, hprobe]
    rfl
  exact Proc.bind_of_error hstate

/-! ### A session on an uninitialized partition -/

/-- The world once the operator was warned. -/
def World.warned (w : World) : World := { w with
  outputs := w.outputs ++ ["WARNING: first-use Secure Workspace provisioning is destructive."] ++
    ["Only the explicitly selected partition will be targeted: " ++ config.device] ++
    ["Any existing data on that selected partition would be destroyed."] }

theorem confirmProvisioning_eq (w : World) :
    confirmProvisioning config given w =
      (given.confirmation.map fun entered => decide (strip entered = provisionPhrase config),
        w.warned config) := by
  rw [confirmProvisioning]
  cases given.confirmation with
  | error e => rfl
  | ok entered => rfl

theorem stateProbe_eq (hprobe : given.probeFault = none) (w : World) :
    stateProbe given w = (.ok w.partition.state, w) := by
  rw [stateProbe, hprobe]
  rfl

/-- The session behind the provisioning prompt. -/
def provisioningSession : Proc Exn World Int := do
  let secret ← Proc.ofExcept given.newPassphrase
  onPartition (provisionWorkspace (partitionRunner given.outcome) config secret true
    given.targetProbe)
  activeSession config given true

theorem session_uninitialized {environ : Dict String String} (hprobe : given.probeFault = none) :
    runSecureWorkspaceSession config given (.start .uninitialized environ) =
      (do
        let confirmed ← confirmProvisioning config given
        if confirmed = false then
          output "Provisioning cancelled. No storage changes were made."
          pure 3
        else provisioningSession config given : Proc Exn World Int)
      (.start .uninitialized environ) :=
  Proc.bind_of_ok (stateProbe_eq given hprobe _)

/-- A session whose provisioning was not confirmed issues no command. -/
theorem session_unconfirmed (environ : Dict String String) (hprobe : given.probeFault = none)
    (hconfirms : ¬ Confirms config given) :
    (runSecureWorkspaceSession config given (.start .uninitialized environ)).2.partition =
      ⟨.uninitialized, []⟩ := by
  have hasked := confirmProvisioning_eq config given (.start .uninitialized environ)
  rw [session_uninitialized config given hprobe]
  cases hentered : given.confirmation with
  | error e =>
    rw [hentered] at hasked
    rw [Proc.bind_of_error hasked]
    rfl
  | ok entered =>
    have hphrase : ¬ strip entered = provisionPhrase config :=
      fun heq => hconfirms ⟨entered, hentered, heq⟩
    rw [hentered, Except.map, decide_eq_false hphrase] at hasked
    rw [Proc.bind_of_ok hasked, if_pos rfl]
    rfl

/-- The session once the provisioning was confirmed. -/
theorem session_confirmed {environ : Dict String String} (hprobe : given.probeFault = none)
    (hconfirms : Confirms config given) :
    runSecureWorkspaceSession config given (.start .uninitialized environ) =
      provisioningSession config given ((World.start .uninitialized environ).warned config) := by
  obtain ⟨entered, hentered, hphrase⟩ := hconfirms
  have hasked := confirmProvisioning_eq config given (.start .uninitialized environ)
  rw [hentered, Except.map, decide_eq_true hphrase] at hasked
  rw [session_uninitialized config given hprobe, Proc.bind_of_ok hasked,
    if_neg (by decide)]

/-- **A session that begins on an uninitialized partition.** -/
theorem uninitialized_locks_iff (environ : Dict String String) :
    LeftLocked (runSecureWorkspaceSession config given (.start .uninitialized environ)).2 ↔
      ¬ StopsWhileOpen config given .uninitialized := by
  cases hprobe : given.probeFault with
  | some e =>
    rw [session_probe_raises config given hprobe]
    refine iff_of_true (leftLocked_untouched rfl (.inl rfl)) ?_
    rintro ⟨hnone, -⟩
    exact absurd (hprobe.symm.trans hnone) (Option.some_ne_none e)
  | none =>
    by_cases hconfirms : Confirms config given
    swap
    · have hpartition := session_unconfirmed config given environ hprobe hconfirms
      exact iff_of_true (leftLocked_untouched hpartition (.inl rfl))
        fun hstops => hconfirms hstops.2.1
    rw [session_confirmed config given hprobe hconfirms, provisioningSession]
    cases hsecret : given.newPassphrase with
    | error e =>
      rw [Proc.bind_of_error (Proc.ofExcept_apply _ _)]
      refine iff_of_true (leftLocked_untouched rfl (.inl rfl)) ?_
      rintro ⟨-, -, ⟨secret, hanswer, -⟩, -⟩
      exact absurd (hsecret.symm.trans hanswer) (by rintro ⟨⟩)
    | ok secret =>
      rw [Proc.bind_of_ok (Proc.ofExcept_apply _ _)]
      by_cases hready : Usable secret ∧ given.targetProbe config.device = .ok true
      · rw [provisionWorkspace_runs _ config hready.1 hready.2,
          opening_locks_iff config given rfl rfl
            (provisionCommands_fallible config secret)]
        apply not_congr
        constructor
        · rintro ⟨k, hk, hfirst, hopen⟩
          exact ⟨hprobe, hconfirms, ⟨secret, hsecret, hready.1⟩, hready.2, k,
            (provisionCommands_open config secret hk).mp hopen, hk, hfirst⟩
        · rintro ⟨-, -, -, -, k, hk, hlt, hfirst⟩
          exact ⟨k, hlt, hfirst, (provisionCommands_open config secret hlt).mpr hk⟩
      · obtain ⟨e, he⟩ := provisionWorkspace_refused (partitionRunner given.outcome) config hready
          ⟨.uninitialized, []⟩
        have hrefused : onPartition (provisionWorkspace (partitionRunner given.outcome) config
            secret true given.targetProbe) ((World.start .uninitialized environ).warned config) =
            (.error e, (World.start .uninitialized environ).warned config) := by
          rw [onPartition, Proc.zoom_apply]
          exact congrArg (fun r => (r.1, { (World.start .uninitialized environ).warned config with
            partition := r.2 })) he
        rw [Proc.bind_of_error hrefused]
        refine iff_of_true (leftLocked_untouched rfl (.inl rfl)) ?_
        rintro ⟨-, -, ⟨secret', hanswer, husable⟩, htarget, -⟩
        obtain rfl := Except.ok.inj (hsecret.symm.trans hanswer)
        exact hready ⟨husable, htarget⟩

/-! ### A session on a locked workspace -/

/-- **A session that begins on a locked workspace.** -/
theorem locked_locks_iff (environ : Dict String String) :
    LeftLocked (runSecureWorkspaceSession config given (.start .luks2Locked environ)).2 ↔
      ¬ StopsWhileOpen config given .luks2Locked := by
  cases hprobe : given.probeFault with
  | some e =>
    rw [session_probe_raises config given hprobe]
    refine iff_of_true (leftLocked_untouched rfl (.inr rfl)) ?_
    rintro ⟨hnone, -⟩
    exact absurd (hprobe.symm.trans hnone) (Option.some_ne_none e)
  | none =>
    have hsession : runSecureWorkspaceSession config given (.start .luks2Locked environ) = (do
        let secret ← Proc.ofExcept given.passphrase
        onPartition (unlockWorkspace (partitionRunner given.outcome) config secret)
        onPartition (mountWorkspace (partitionRunner given.outcome) config)
        activeSession config given true : Proc Exn World Int) (.start .luks2Locked environ) :=
      Proc.bind_of_ok (stateProbe_eq given hprobe _)
    rw [hsession]
    cases hsecret : given.passphrase with
    | error e =>
      rw [Proc.bind_of_error (Proc.ofExcept_apply _ _)]
      refine iff_of_true (leftLocked_untouched rfl (.inr rfl)) ?_
      rintro ⟨-, ⟨secret, hanswer, -⟩, -⟩
      exact absurd (hsecret.symm.trans hanswer) (by rintro ⟨⟩)
    | ok secret =>
      rw [Proc.bind_of_ok (Proc.ofExcept_apply _ _)]
      by_cases husable : Usable secret
      · have hopen : (do
            onPartition (unlockWorkspace (partitionRunner given.outcome) config secret)
            onPartition (mountWorkspace (partitionRunner given.outcome) config)
            activeSession config given true : Proc Exn World Int) = (do
              onPartition (runAll (partitionRunner given.outcome) (openCommands config secret))
              activeSession config given true) := by
          rw [unlockWorkspace_runs _ config husable, mountWorkspace_runs, openCommands,
            runAll_append, onPartition_bind]
        rw [hopen, opening_locks_iff config given rfl rfl
          (openCommands_fallible config secret)]
        apply not_congr
        constructor
        · rintro ⟨k, hk, hfirst, hreached⟩
          exact ⟨hprobe, ⟨secret, hsecret, husable⟩, k,
            (openCommands_open config secret hk).mp hreached, hk, hfirst⟩
        · rintro ⟨-, -, k, hk, hlt, hfirst⟩
          exact ⟨k, hlt, hfirst, (openCommands_open config secret hlt).mpr hk⟩
      · obtain ⟨e, he⟩ := unlockWorkspace_refused (partitionRunner given.outcome) config husable
          ⟨.luks2Locked, []⟩
        have hrefused : onPartition (unlockWorkspace (partitionRunner given.outcome) config secret)
            (.start .luks2Locked environ) = (.error e, .start .luks2Locked environ) := by
          rw [onPartition, Proc.zoom_apply]
          exact congrArg (fun r => (r.1, { World.start .luks2Locked environ with
            partition := r.2 })) he
        rw [Proc.bind_of_error hrefused]
        refine iff_of_true (leftLocked_untouched rfl (.inr rfl)) ?_
        rintro ⟨-, ⟨secret', hanswer, husable'⟩, -⟩
        obtain rfl := Except.ok.inj (hsecret.symm.trans hanswer)
        exact husable husable'

end Session

/-! ## Sessions that end locked -/

/-- **A session that begins uninitialized or locked ends locked**, by return or by exception,
exactly when no command between the opening of the mapping and the end of the mounting is the
first to fail. -/
theorem session_locks_iff (config : RedPersistenceConfig) (given : Surroundings)
    {state : RedPersistenceState} (environ : Dict String String)
    (hstate : state = .uninitialized ∨ state = .luks2Locked) :
    LeftLocked (runSecureWorkspaceSession config given (.start state environ)).2 ↔
      ¬ StopsWhileOpen config given state := by
  rcases hstate with rfl | rfl
  · exact uninitialized_locks_iff config given environ
  · exact locked_locks_iff config given environ

/-- The partition of an example. -/
def partuuidConfig : RedPersistenceConfig where
  device := "/dev/disk/by-partuuid/1111-2222"
  accepted := by decide +kernel

/-- A session whose passphrase prompt is answered and whose commands end as `outcome` says; the
operator leaves at once. -/
def brief (outcome : Nat → Py Int) : Surroundings where
  probeFault := none
  confirmation := .ok "no"
  newPassphrase := .ok [115]
  passphrase := .ok [115]
  targetProbe := fun _ => .ok true
  outcome := outcome
  lines := [(.ok "exit", .ok 0)]

theorem brief_session_locks :
    LeftLocked (runSecureWorkspaceSession partuuidConfig (brief fun _ => .ok 0)
      (.start .luks2Locked ∅)).2 := by
  apply (session_locks_iff partuuidConfig (brief fun _ => .ok 0) ∅ (.inr rfl)).mpr
  rintro ⟨-, -, k, -, -, hfirst⟩
  exact hfirst.2 rfl

/-- The mapping is open when the mount point cannot be made, and it stays open. -/
theorem mapping_left_open :
    ¬ ∀ (config : RedPersistenceConfig) (given : Surroundings) (state : RedPersistenceState)
      (environ : Dict String String), state = .uninitialized ∨ state = .luks2Locked →
        LeftLocked (runSecureWorkspaceSession config given (.start state environ)).2 := by
  intro h
  have hleft := h partuuidConfig (brief fun i => if i = 0 then .ok 0 else .ok 1) .luks2Locked ∅
    (.inr rfl)
  have hopen : (runSecureWorkspaceSession partuuidConfig
      (brief fun i => if i = 0 then .ok 0 else .ok 1)
      (.start .luks2Locked ∅)).2.partition.state = .luks2Open := by
    decide +kernel
  exact hleft.closed hopen

end NightRecon.RedNight.Appliance
