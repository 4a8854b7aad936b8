import NightRecon.Exceptions
import NightRecon.Lib.Assoc
import NightRecon.Lib.Collect
import NightRecon.Lib.Firsts
import NightRecon.Lib.Json
import NightRecon.Lib.Raises

/-!
# The execution trace

`read_execution_trace` of `red_night_app/execution_trace.py`: a state for every action, folded over
the lines of an audit file.

* `splitlines`, `unlines` — the lines of a text; `splitlines_unlines`;
* `readEvent`, `readRow` — what one line says; `takeEvent`, `readRows` — the fold, with the lines it
  skips;
* `Expected.state`, `Expected.Skips` — the state of an action is given by its first event and its
  first terminal event, and every other event is skipped;
* `Repeats` — a second start whose first start has no time;
* `TraceLaw`, `trace_law_iff` — the trace is the expected one exactly when no line nests too deep
  and no start repeats one without a time.

`loads` is the reader of JSON texts, of which nothing is assumed.
-/

namespace NightRecon.RedNight.AuditTrace

open NightRecon.Lib
open NightRecon.Lib.Assoc
open NightRecon.Lib.Checks
open NightRecon.Lib.Firsts
open NightRecon.Lib.Text

/-! ## Lines -/

/-- A character that ends a line for `str.splitlines`. -/
def isLineBreak (c : Char) : Bool :=
  let n := c.toNat
  (10 ≤ n && n ≤ 13) || (28 ≤ n && n ≤ 30) || n == 0x85 || n == 0x2028 || n == 0x2029

/-- A character in front of the first line. -/
def pushChar (c : Char) : List (List Char) → List (List Char)
  | [] => [[c]]
  | row :: rows => (c :: row) :: rows

/-- `text.splitlines()`; the two characters `\r\n` end one line. -/
def splitlines : List Char → List (List Char)
  | [] => []
  | '\r' :: '\n' :: rest => [] :: splitlines rest
  | c :: rest => if isLineBreak c then [] :: splitlines rest else pushChar c (splitlines rest)

/-- Lines, each with its end. -/
def unlines (rows : List (List Char)) : List Char := rows.flatMap fun row => row ++ ['\n']

theorem splitlines_cons {c : Char} (h : isLineBreak c = false) (rest : List Char) :
    splitlines (c :: rest) = pushChar c (splitlines rest) := by
  have hcr : c ≠ '\r' := by
    rintro rfl
    exact absurd h (by decide)
  rw [splitlines.eq_3 c rest fun tail hc _ => hcr hc, if_neg (by simp [h])]

theorem splitlines_newline (rest : List Char) : splitlines ('\n' :: rest) = [] :: splitlines rest := by
  rw [splitlines.eq_3 '\n' rest fun tail hc _ => absurd hc (by decide)]
  rfl

/-- Lines that are written are read back. -/
theorem splitlines_unlines {rows : List (List Char)}
    (h : ∀ row ∈ rows, ∀ c ∈ row, isLineBreak c = false) : splitlines (unlines rows) = rows := by
  induction rows with
  | nil => rfl
  | cons row rows ih =>
    obtain ⟨hrow, hrows⟩ := List.forall_mem_cons.mp h
    have hline : ∀ row : List Char, (∀ c ∈ row, isLineBreak c = false) →
        splitlines (row ++ '\n' :: unlines rows) = row :: rows := by
      intro row
      induction row with
      | nil =>
        intro _
        rw [List.nil_append, splitlines_newline, ih hrows]
      | cons c row ihrow =>
        intro hchars
        obtain ⟨hc, hchars⟩ := List.forall_mem_cons.mp hchars
        rw [List.cons_append, splitlines_cons hc, ihrow hchars]
        rfl
    have hunlines : unlines (row :: rows) = row ++ '\n' :: unlines rows := by
      rw [unlines, List.flatMap_cons, List.append_assoc]
      rfl
    rw [hunlines, hline row hrow]

/-- The lines of a text hold no line break. -/
theorem not_isLineBreak_of_mem {text row : List Char} (hrow : row ∈ splitlines text) {c : Char}
    (hc : c ∈ row) : isLineBreak c = false := by
  induction text using splitlines.induct generalizing row with
  | case1 => exact absurd hrow List.not_mem_nil
  | case2 rest ih =>
    rw [splitlines] at hrow
    rcases List.mem_cons.mp hrow with rfl | hrow
    · exact absurd hc List.not_mem_nil
    · exact ih hrow hc
  | case3 d rest hpair hbreak ih =>
    rw [splitlines.eq_3 d rest hpair, if_pos hbreak] at hrow
    rcases List.mem_cons.mp hrow with rfl | hrow
    · exact absurd hc List.not_mem_nil
    · exact ih hrow hc
  | case4 d rest hpair hbreak ih =>
    rw [splitlines.eq_3 d rest hpair, if_neg hbreak] at hrow
    have hd : isLineBreak d = false := Bool.not_eq_true _ |>.mp hbreak
    cases hlines : splitlines rest with
    | nil =>
      rw [hlines, pushChar, List.mem_singleton] at hrow
      subst hrow
      rw [List.mem_singleton] at hc
      exact hc ▸ hd
    | cons first rows =>
      rw [hlines, pushChar] at hrow
      rw [hlines] at ih
      rcases List.mem_cons.mp hrow with rfl | hrow
      · rcases List.mem_cons.mp hc with rfl | hc
        · exact hd
        · exact ih List.mem_cons_self hc
      · exact ih (List.mem_cons_of_mem _ hrow) hc

/-! ## Events -/

def maxAuditBytes : Nat := 4 * 1024 * 1024

def maxEventCount : Nat := 30

/-- The values of `status`. -/
inductive ExecutionStatus where
  | started
  | completed
  | cancelled
  | revoked
  | timeout
  | error
  | deniedAfterReservation
  deriving DecidableEq

def ExecutionStatus.value : ExecutionStatus → String
  | .started => "started"
  | .completed => "completed"
  | .cancelled => "cancelled"
  | .revoked => "revoked"
  | .timeout => "timeout"
  | .error => "error"
  | .deniedAfterReservation => "denied-after-reservation"

def executionStatuses : List ExecutionStatus :=
  [.started, .completed, .cancelled, .revoked, .timeout, .error, .deniedAfterReservation]

/-- One event of an action. -/
structure ExecutionEvent where
  action : String
  command : String
  status : ExecutionStatus
  returncode : Option Int
  timestamp : Option String
  deriving DecidableEq

/-- What one line says: nothing of the engagement, nothing valid, or an event. -/
inductive RowReading where
  | other
  | malformed
  | event (e : ExecutionEvent)
  deriving DecidableEq

/-- `event.get(key)`. -/
def member (event : Json) (key : String) : Json := (event.get? key).getD .null

/-- A nonblank text. -/
def nonblankText : Json → Option String
  | .str s => if strip s = "" then none else some s
  | _ => none

/-- The status a value names. -/
def statusOf : Json → Option ExecutionStatus
  | .str s => executionStatuses.find? fun status => status.value = s
  | _ => none

/-- The return code of an event: none, or an integer. -/
def returncodeOf : Json → Py (Option Int)
  | .null => return none
  | .int n => return some n
  | _ => .error (valueError "Invalid return code")

/-- The time of an event, if it is a text of at most 80 characters. -/
def timestampOf : Json → Option String
  | .str s => if s.length ≤ 80 then some s else none
  | _ => none

/-- The checks of one event of the engagement. -/
def readEvent (event : Json) : Py ExecutionEvent := do
  let invalid := valueError "Invalid execution event"
  let action ← getOrRaise (nonblankText (member event "action_id")) invalid
  let command ← getOrRaise (nonblankText (member event "command")) invalid
  let status ← getOrRaise (statusOf (member event "status")) invalid
  raiseIf (128 < action.length ∨ 128 < command.length) (valueError "Oversized event metadata")
  let returncode ← returncodeOf (member event "returncode")
  return ⟨action, command, status, returncode, timestampOf (member event "recorded_at")⟩

/-- Whether an object names the engagement. -/
def namesEngagement (engagementId : String) (event : Json) : Bool :=
  match member event "engagement_id" with
  | .str s => s = engagementId
  | _ => false

/-- What a line that is an object says. -/
def readObject (engagementId : String) (event : Json) : Py RowReading :=
  match event with
  | .obj _ =>
    if namesEngagement engagementId event then do return .event (← readEvent event)
    else return .other
  | _ => .error (valueError "Not an object")

/-- Every check of an event raises a `ValueError`. -/
theorem readEvent_raises (event : Json) :
    Raises Exn.IsValueError (readEvent event) := by
  have hvalue := isValueError_valueError
  unfold readEvent
  apply Raises.bind (Raises.getOrRaise (hvalue _))
  intro action _
  apply Raises.bind (Raises.getOrRaise (hvalue _))
  intro command _
  apply Raises.bind (Raises.getOrRaise (hvalue _))
  intro status _
  apply Raises.bind (Raises.raiseIf (hvalue _))
  intro _ _
  refine Raises.bind ?_ fun returncode _ => Raises.pure _
  unfold returncodeOf
  split
  · exact Raises.pure _
  · exact Raises.pure _
  · exact Raises.error (hvalue _)

theorem readObject_raises (engagementId : String) (event : Json) :
    Raises Exn.IsValueError (readObject engagementId event) := by
  unfold readObject
  split
  · split
    · exact Raises.bind (readEvent_raises _) fun _ _ => Raises.pure _
    · exact Raises.pure _
  · exact Raises.error rfl

/-- What one line says: `except (ValueError, TypeError, AttributeError)` takes it for malformed. -/
def readRow (loads : List Char → Py Json) (engagementId : String) (row : List Char) :
    Py RowReading :=
  match loads row >>= readObject engagementId with
  | .ok reading => return reading
  | .error e =>
    if e.cls.isValueError ∨ e.cls = .typeError ∨ e.cls = .attributeError then return .malformed
    else .error e

/-! ## Actions -/

/-- What is known of an action; the status is missing before its first event is taken. -/
structure ActionState where
  command : String
  startedAt : Option String
  finishedAt : Option String
  status : Option ExecutionStatus
  returncode : Option Int
  deriving DecidableEq

/-- An action that is met for the first time. -/
def ActionState.new (command : String) : ActionState := ⟨command, none, none, none, none⟩

def ActionState.terminal (s : ActionState) : Bool := s.status ≠ none && s.status ≠ some .started

/-- The actions in the order in which they were met. -/
abbrev Actions := List (String × ActionState)

/-- One event, and whether it is skipped; an action is entered when it is first met. -/
def takeEvent (actions : Actions) (e : ExecutionEvent) : Actions × Bool :=
  let current := find (ActionState.new e.command) actions e.action
  if current.command ≠ e.command ∨ current.terminal then (actions, true)
  else if e.status = .started then
    if current.startedAt ≠ none then (actions, true)
    else
      (assign actions e.action { current with startedAt := e.timestamp, status := some .started },
        false)
  else
    (assign actions e.action { current with
      finishedAt := e.timestamp, status := some e.status, returncode := e.returncode }, false)

/-- One line, and whether it is skipped with a warning. -/
def takeReading (actions : Actions) : RowReading → Actions × Bool
  | .other => (actions, false)
  | .malformed => (actions, true)
  | .event e => takeEvent actions e

/-- The loop over the lines: the actions, and for every line whether it is skipped. -/
def readRows (loads : List Char → Py Json) (engagementId : String) :
    Actions → List (List Char) → Py (Actions × List Bool)
  | actions, [] => return (actions, [])
  | actions, row :: rows => do
    let taken := takeReading actions (← readRow loads engagementId row)
    let rest ← readRows loads engagementId taken.1 rows
    return (rest.1, taken.2 :: rest.2)

/-! ## Traces -/

/-- Source: `execution_trace.py` `ExecutionTrace`. -/
structure ExecutionTrace where
  actionId : String
  command : String
  status : String
  startedAt : Option String
  finishedAt : Option String
  returncode : Option Int

def traceOf (entry : String × ActionState) : ExecutionTrace :=
  ⟨entry.1, entry.2.command, (entry.2.status.map ExecutionStatus.value).getD "unknown-outcome",
    entry.2.startedAt, entry.2.finishedAt, entry.2.returncode⟩

/-- An audit file as it is found. -/
inductive AuditFile where
  | missing
  | tooLarge
  | unreadable
  | readable (text : List Char)

def skippedWarning : String := "Malformed or contradictory audit line skipped"

def runningWarning : String :=
  "Started actions may have exited without a final audit event; running state is unconfirmed"

/-- `order[-max_events:]`. -/
def lastActions {α : Type} (maxEvents : Nat) (order : List α) : List α :=
  order.drop (order.length - maxEvents)

/-- Source: `execution_trace.py` `read_execution_trace`. -/
def readExecutionTrace (loads : List Char → Py Json) (file : AuditFile) (engagementId : String)
    (maxEvents : Int) : Py (List ExecutionTrace × List String) := do
  raiseIf (engagementId = "" ∨ ¬ (1 ≤ maxEvents ∧ maxEvents ≤ maxEventCount))
    (valueError "Invalid engagement or trace limit")
  match file with
  | .missing => return ([], [])
  | .tooLarge => return ([], ["Audit file too large for bounded preview"])
  | .unreadable => return ([], ["Audit unavailable"])
  | .readable text =>
    let read ← readRows loads engagementId [] (splitlines text)
    let traces := (lastActions maxEvents.toNat read.1).map traceOf
    let running := traces.any fun trace => trace.status = "started"
    return (traces, (if read.2.any id then [skippedWarning] else []) ++
      if running then [runningWarning] else [])

/-! ## What is expected -/

namespace Expected

/-- The events the lines hold. -/
def events (readings : List RowReading) : List ExecutionEvent :=
  readings.filterMap fun reading =>
    match reading with
    | .event e => some e
    | _ => none

/-- The events of one action, in their order. -/
def history (events : List ExecutionEvent) (action : String) : List ExecutionEvent :=
  events.filter fun e => e.action = action

/-- The first terminal event of an action whose first event is `first`. -/
def terminal (first : ExecutionEvent) (h : List ExecutionEvent) : Option ExecutionEvent :=
  h.find? fun e => e.command = first.command ∧ e.status ≠ .started

/-- The state of an action: its first event, when that is a start, and its first terminal event. -/
def state (command : String) (h : List ExecutionEvent) : ActionState :=
  match h with
  | [] => ActionState.new command
  | first :: rest =>
    let ended := terminal first (first :: rest)
    { command := first.command
      startedAt := if first.status = .started then first.timestamp else none
      finishedAt := ended.bind ExecutionEvent.timestamp
      status := some ((ended.map ExecutionEvent.status).getD .started)
      returncode := ended.bind ExecutionEvent.returncode }

/-- An event to skip: of another command, behind a terminal event, or a second start. -/
def Skips (h : List ExecutionEvent) (e : ExecutionEvent) : Prop :=
  match h with
  | [] => False
  | first :: rest =>
    e.command ≠ first.command ∨ (terminal first (first :: rest)).isSome = true ∨
      e.status = .started

instance (h : List ExecutionEvent) (e : ExecutionEvent) : Decidable (Skips h e) := by
  unfold Skips
  cases h <;> infer_instance

/-- A line to skip with a warning, behind these events. -/
def SkipsReading (before : List ExecutionEvent) : RowReading → Prop
  | .other => False
  | .malformed => True
  | .event e => Skips (history before e.action) e

/-- The actions in the order of their first events. -/
def actions (events : List ExecutionEvent) : List String :=
  firsts id (events.map ExecutionEvent.action)

/-- The trace of an action. -/
def trace (events : List ExecutionEvent) (action : String) : ExecutionTrace :=
  traceOf (action, state "" (history events action))

end Expected

open Expected

/-- A second start of an action whose first event is a start without a time, and that no terminal
event has ended. -/
def Repeats (h : List ExecutionEvent) (e : ExecutionEvent) : Prop :=
  match h with
  | [] => False
  | first :: rest =>
    e.command = first.command ∧ terminal first (first :: rest) = none ∧ e.status = .started ∧
      first.timestamp = none

/-! ## One event -/

variable {h : List ExecutionEvent} {e : ExecutionEvent}

theorem history_concat (events : List ExecutionEvent) (e : ExecutionEvent) (action : String) :
    history (events ++ [e]) action =
      if e.action = action then history events action ++ [e] else history events action := by
  rw [history, List.filter_append, List.filter_cons, List.filter_nil]
  by_cases ha : e.action = action
  · simp [ha, history]
  · simp [ha, history]

/-- Events that are skipped do not show in the state. -/
theorem state_concat_of_skips (hskip : Skips h e) (command : String) :
    state command (h ++ [e]) = state command h := by
  cases h with
  | nil => exact absurd hskip id
  | cons first rest =>
    have hterminal : terminal first (first :: rest ++ [e]) = terminal first (first :: rest) := by
      rw [terminal, terminal, List.find?_append]
      cases hended : (first :: rest).find? fun e =>
          decide (e.command = first.command ∧ e.status ≠ .started) with
      | some ended => rfl
      | none =>
        have hnot : ¬ (e.command = first.command ∧ e.status ≠ .started) := by
          rintro ⟨hcommand, hstatus⟩
          rcases hskip with hother | hended' | hstart
          · exact hother hcommand
          · rw [terminal, hended] at hended'
            exact absurd hended' (by simp)
          · exact hstatus hstart
        simp [hnot]
    rw [List.cons_append, state, state, ← List.cons_append, hterminal]

theorem state_command (first : ExecutionEvent) (rest : List ExecutionEvent) (command : String) :
    (state command (first :: rest)).command = first.command := rfl

theorem state_terminal (first : ExecutionEvent) (rest : List ExecutionEvent) (command : String) :
    (state command (first :: rest)).terminal = (terminal first (first :: rest)).isSome := by
  cases hended : terminal first (first :: rest) with
  | none => simp [state, ActionState.terminal, hended]
  | some ended =>
    have hstatus : ended.status ≠ .started := by
      have hfound := List.find?_some hended
      simp only [decide_eq_true_eq] at hfound
      exact hfound.2
    simp [state, ActionState.terminal, hended, hstatus]

/-- **One event**: unless it repeats a start without a time, it is skipped when it should be, and
the state of its action is the expected one afterwards. -/
theorem takeEvent_expected {actions : Actions} (hrepeats : ¬ Repeats h e)
    (hstate : find (ActionState.new e.command) actions e.action = state e.command h) :
    (takeEvent actions e).2 = decide (Skips h e) ∧
      (Skips h e → (takeEvent actions e).1 = actions) ∧
      (¬ Skips h e → (takeEvent actions e).1 =
        assign actions e.action (state e.command (h ++ [e]))) := by
  simp only [takeEvent, hstate]
  cases h with
  | nil =>
    have hnever : ¬ Skips [] e := id
    have hnew : ¬ ((state e.command []).command ≠ e.command ∨
        (state e.command []).terminal = true) := by
      simp [state, ActionState.new, ActionState.terminal]
    rw [if_neg hnew, List.nil_append]
    by_cases hstart : e.status = .started
    · rw [if_pos hstart, if_neg (by simp [state, ActionState.new])]
      refine ⟨by simp [hnever], fun hskip => absurd hskip hnever, fun _ => ?_⟩
      simp [state, terminal, ActionState.new, hstart]
    · rw [if_neg hstart]
      refine ⟨by simp [hnever], fun hskip => absurd hskip hnever, fun _ => ?_⟩
      simp [state, terminal, ActionState.new, hstart]
  | cons first rest =>
    rw [state_command, state_terminal]
    by_cases hother : first.command ≠ e.command ∨ (terminal first (first :: rest)).isSome = true
    · have hskip : Skips (first :: rest) e := by
        rcases hother with hcommand | hended
        · exact .inl (Ne.symm hcommand)
        · exact .inr (.inl hended)
      rw [if_pos hother]
      exact ⟨by simp [hskip], fun _ => rfl, fun hnot => absurd hskip hnot⟩
    · obtain ⟨hcommand, hended⟩ := not_or.mp hother
      have hcommand : first.command = e.command := not_not.mp hcommand
      have hended : terminal first (first :: rest) = none := by
        rwa [Bool.not_eq_true, Option.isSome_eq_false_iff, Option.isNone_iff_eq_none] at hended
      rw [if_neg hother]
      by_cases hstart : e.status = .started
      · -- the first event is a start with a time, or the event would repeat it
        have hskip : Skips (first :: rest) e := .inr (.inr hstart)
        have htime : first.timestamp ≠ none := fun hnone =>
          hrepeats ⟨hcommand.symm, hended, hstart, hnone⟩
        have hfirst : first.status = .started := by
          by_contra hstatus
          have hnone := List.find?_eq_none.mp hended first List.mem_cons_self
          exact hnone (decide_eq_true ⟨rfl, hstatus⟩)
        rw [if_pos hstart, if_pos (by simpa [state, hfirst] using htime)]
        exact ⟨by simp [hskip], fun _ => rfl, fun hnot => absurd hskip hnot⟩
      · have hnot : ¬ Skips (first :: rest) e := by
          rintro (hne | hsome | hstarted)
          · exact hne hcommand.symm
          · rw [hended] at hsome
            exact absurd hsome (by simp)
          · exact hstart hstarted
        have hends : terminal first (first :: rest ++ [e]) = some e := by
          rw [terminal, List.find?_append]
          have hnone : (first :: rest).find? (fun e =>
              decide (e.command = first.command ∧ e.status ≠ .started)) = none := hended
          rw [hnone]
          simp [hcommand, hstart]
        rw [if_neg hstart]
        refine ⟨by simp [hnot], fun hskip => absurd hskip hnot, fun _ => ?_⟩
        rw [List.cons_append, state, state, hended, ← List.cons_append, hends]
        rfl

/-- A start that repeats one without a time should be skipped, and is not. -/
theorem takeEvent_repeats {actions : Actions} (hrepeats : Repeats h e)
    (hstate : find (ActionState.new e.command) actions e.action = state e.command h) :
    (takeEvent actions e).2 = false ∧ Skips h e := by
  simp only [takeEvent, hstate]
  cases h with
  | nil => exact absurd hrepeats id
  | cons first rest =>
    obtain ⟨hcommand, hended, hstart, htime⟩ := hrepeats
    have hkept : ¬ (first.command ≠ e.command ∨
        (terminal first (first :: rest)).isSome = true) := by
      rw [hended]
      simp [hcommand]
    rw [state_command, state_terminal, if_neg hkept, if_pos hstart,
      if_neg (by simp [state, htime])]
    exact ⟨rfl, .inr (.inr hstart)⟩

/-! ## The lines -/

/-- The loop over what the lines say. -/
def takeReadings : Actions → List RowReading → Actions × List Bool
  | actions, [] => (actions, [])
  | actions, reading :: readings =>
    let taken := takeReading actions reading
    let rest := takeReadings taken.1 readings
    (rest.1, taken.2 :: rest.2)

/-- The loop over the lines reads them, and folds what they say. -/
theorem readRows_eq_ok {loads : List Char → Py Json} {engagementId : String}
    {rows : List (List Char)} {actions : Actions} {read : Actions × List Bool} :
    readRows loads engagementId actions rows = .ok read ↔
      ∃ readings, rows.mapM (readRow loads engagementId) = .ok readings ∧
        takeReadings actions readings = read := by
  induction rows generalizing actions read with
  | nil =>
    simp only [readRows, List.mapM_nil, pure_eq_ok, Except.ok.injEq]
    constructor
    · rintro rfl
      exact ⟨[], rfl, rfl⟩
    · rintro ⟨readings, rfl, rfl⟩
      rfl
  | cons row rows ih =>
    simp only [readRows, List.mapM_cons, bind_eq_ok, pure_eq_ok, Except.ok.injEq]
    constructor
    · rintro ⟨reading, hreading, rest, hrest, rfl⟩
      obtain ⟨readings, hreadings, rfl⟩ := ih.mp hrest
      exact ⟨reading :: readings, ⟨reading, hreading, readings, hreadings, rfl⟩, rfl⟩
    · rintro ⟨_, ⟨reading, hreading, readings, hreadings, rfl⟩, rfl⟩
      exact ⟨reading, hreading, takeReadings _ readings, ih.mpr ⟨readings, hreadings, rfl⟩, rfl⟩

/-- The actions are the ones of the events, each in its expected state. -/
structure Matches (before : List ExecutionEvent) (actions : Actions) : Prop where
  keys_eq : keys actions = Expected.actions before
  state_eq : ∀ action command,
    find (ActionState.new command) actions action = state command (history before action)

theorem matches_nil : Matches [] [] := ⟨rfl, fun _ _ => rfl⟩

theorem actions_concat (before : List ExecutionEvent) (e : ExecutionEvent) :
    Expected.actions (before ++ [e]) = keepFirst id (Expected.actions before) e.action := by
  rw [Expected.actions, List.map_append, List.map_singleton, firsts_concat]
  rfl

theorem mem_actions {before : List ExecutionEvent} {action : String} :
    action ∈ Expected.actions before ↔ history before action ≠ [] := by
  have hmem : action ∈ (firsts id (before.map ExecutionEvent.action)).map id ↔
      action ∈ (before.map ExecutionEvent.action).map id := mem_keys_firsts
  rw [List.map_id, List.map_id] at hmem
  rw [Expected.actions, hmem, Ne, history, List.filter_eq_nil_iff]
  simp [List.mem_map]

/-- The command of an action that has events does not depend on the one it is looked up with. -/
theorem state_of_ne_nil (hne : h ≠ []) (command command' : String) :
    state command h = state command' h := by
  cases h with
  | nil => exact absurd rfl hne
  | cons first rest => rfl

/-- **One line** keeps the actions in their expected states, and is skipped when it should be. -/
theorem Matches.step {before : List ExecutionEvent} {actions : Actions}
    (hm : Matches before actions) (reading : RowReading)
    (hrepeats : ∀ e, reading = .event e → ¬ Repeats (history before e.action) e) :
    ((takeReading actions reading).2 = true ↔ SkipsReading before reading) ∧
      Matches (before ++ events [reading]) (takeReading actions reading).1 := by
  cases reading with
  | other =>
    refine ⟨iff_of_false (by simp [takeReading]) id, ?_⟩
    rwa [show events [.other] = [] from rfl, List.append_nil]
  | malformed =>
    refine ⟨iff_of_true rfl trivial, ?_⟩
    rwa [show events [.malformed] = [] from rfl, List.append_nil]
  | event e =>
    obtain ⟨hflag, hskipped, htaken⟩ :=
      takeEvent_expected (hrepeats e rfl) (hm.state_eq e.action e.command)
    refine ⟨?_, ?_⟩
    · rw [takeReading, hflag, decide_eq_true_eq]
      exact Iff.rfl
    · rw [show events [.event e] = [e] from rfl, takeReading]
      by_cases hskip : Skips (history before e.action) e
      · have hold : e.action ∈ Expected.actions before := by
          rw [mem_actions]
          intro hnil
          rw [hnil] at hskip
          exact hskip
        rw [hskipped hskip]
        constructor
        · rw [actions_concat, keepFirst_of_mem (by rwa [List.map_id])]
          exact hm.keys_eq
        · intro action command
          rw [history_concat]
          by_cases ha : e.action = action
          · subst ha
            rw [if_pos rfl, state_concat_of_skips hskip]
            exact hm.state_eq e.action command
          · rw [if_neg ha]
            exact hm.state_eq action command
      · rw [htaken hskip]
        constructor
        · rw [keys_assign, actions_concat, keepFirst, hm.keys_eq, List.map_id]
          rfl
        · intro action command
          rw [find_assign, history_concat]
          by_cases ha : e.action = action
          · subst ha
            rw [if_pos rfl, if_pos rfl]
            exact state_of_ne_nil (List.append_ne_nil_of_right_ne_nil _ (List.cons_ne_nil _ _)) _ _
          · rw [if_neg (Ne.symm ha), if_neg ha]
            exact hm.state_eq action command

theorem events_append (readings readings' : List RowReading) :
    events (readings ++ readings') = events readings ++ events readings' := List.filterMap_append

theorem events_cons (reading : RowReading) (readings : List RowReading) :
    events (reading :: readings) = events [reading] ++ events readings :=
  events_append [reading] readings

/-- The lines that are skipped are the ones to skip. -/
def SkipsRight (before : List ExecutionEvent) (readings : List RowReading)
    (flags : List Bool) : Prop :=
  ∀ earlier reading later, readings = earlier ++ reading :: later →
    (flags[earlier.length]? = some true ↔ SkipsReading (before ++ events earlier) reading)

/-- No start repeats one without a time. -/
def NoRepeats (before : List ExecutionEvent) (readings : List RowReading) : Prop :=
  ∀ earlier e later, readings = earlier ++ .event e :: later →
    ¬ Repeats (history (before ++ events earlier) e.action) e

theorem noRepeats_cons {before : List ExecutionEvent} {reading : RowReading}
    {readings : List RowReading} : NoRepeats before (reading :: readings) ↔
      (∀ e, reading = .event e → ¬ Repeats (history before e.action) e) ∧
        NoRepeats (before ++ events [reading]) readings := by
  constructor
  · intro hno
    refine ⟨fun e he => ?_, fun earlier e later heq => ?_⟩
    · have hfirst := hno [] e readings (by rw [he, List.nil_append])
      rwa [show events [] = [] from rfl, List.append_nil] at hfirst
    · have hlater := hno (reading :: earlier) e later (by rw [heq, List.cons_append])
      rwa [events_cons, ← List.append_assoc] at hlater
  · rintro ⟨hfirst, hrest⟩ earlier e later heq
    cases earlier with
    | nil =>
      obtain ⟨rfl, rfl⟩ := List.cons_eq_cons.mp heq
      rw [show events [] = [] from rfl, List.append_nil]
      exact hfirst e rfl
    | cons first earlier =>
      obtain ⟨rfl, hreadings⟩ := List.cons_eq_cons.mp heq
      have hlater := hrest earlier e later hreadings
      rwa [List.append_assoc, ← events_cons] at hlater

theorem skipsRight_cons {before : List ExecutionEvent} {reading : RowReading}
    {readings : List RowReading} {flag : Bool} {flags : List Bool} :
    SkipsRight before (reading :: readings) (flag :: flags) ↔
      (flag = true ↔ SkipsReading before reading) ∧
        SkipsRight (before ++ events [reading]) readings flags := by
  constructor
  · intro hright
    refine ⟨?_, fun earlier later' later heq => ?_⟩
    · have hfirst := hright [] reading readings rfl
      rwa [show events [] = [] from rfl, List.append_nil, List.length_nil,
        List.getElem?_cons_zero, Option.some.injEq] at hfirst
    · have hlater := hright (reading :: earlier) later' later (by rw [heq, List.cons_append])
      rwa [events_cons, ← List.append_assoc, List.length_cons, List.getElem?_cons_succ] at hlater
  · rintro ⟨hfirst, hrest⟩ earlier later' later heq
    cases earlier with
    | nil =>
      obtain ⟨rfl, rfl⟩ := List.cons_eq_cons.mp heq
      rw [show events [] = [] from rfl, List.append_nil, List.length_nil,
        List.getElem?_cons_zero, Option.some.injEq]
      exact hfirst
    | cons first earlier =>
      obtain ⟨rfl, hreadings⟩ := List.cons_eq_cons.mp heq
      have hlater := hrest earlier later' later hreadings
      rw [List.append_assoc, ← events_cons] at hlater
      rwa [List.length_cons, List.getElem?_cons_succ]

/-- **The whole file**: when no start repeats one without a time, the actions end in their expected
states. -/
theorem takeReadings_matches {before : List ExecutionEvent} {actions : Actions}
    {readings : List RowReading} (hm : Matches before actions) (hno : NoRepeats before readings) :
    Matches (before ++ events readings) (takeReadings actions readings).1 := by
  induction readings generalizing before actions with
  | nil => rwa [show events [] = [] from rfl, List.append_nil]
  | cons reading readings ih =>
    obtain ⟨hfirst, hrest⟩ := noRepeats_cons.mp hno
    have hnext := ih (hm.step reading hfirst).2 hrest
    rwa [List.append_assoc, ← events_cons] at hnext

/-- The lines that are skipped are the ones to skip exactly when no start repeats one without a
time. -/
theorem takeReadings_skips_iff {before : List ExecutionEvent} {actions : Actions}
    {readings : List RowReading} (hm : Matches before actions) :
    SkipsRight before readings (takeReadings actions readings).2 ↔ NoRepeats before readings := by
  induction readings generalizing before actions with
  | nil =>
    exact iff_of_true
      (fun earlier _ later heq => absurd heq.symm (List.append_ne_nil_of_right_ne_nil _ (by simp)))
      (fun earlier _ later heq => absurd heq.symm (List.append_ne_nil_of_right_ne_nil _ (by simp)))
  | cons reading readings ih =>
    rw [noRepeats_cons, takeReadings, skipsRight_cons]
    by_cases hfirst : ∀ e, reading = .event e → ¬ Repeats (history before e.action) e
    · obtain ⟨hflag, hnext⟩ := hm.step reading hfirst
      rw [ih hnext]
      exact and_congr_left' (iff_of_true hflag hfirst)
    · refine iff_of_false ?_ fun h => hfirst h.1
      rintro ⟨hflag, -⟩
      push Not at hfirst
      obtain ⟨e, rfl, hrepeats⟩ := hfirst
      -- the repeated start is not skipped, and should be
      obtain ⟨hkept, hskip⟩ := takeEvent_repeats hrepeats (hm.state_eq e.action e.command)
      rw [takeReading, hkept] at hflag
      exact absurd (hflag.mpr hskip) (by simp)

/-! ## Deleting the lines that are skipped -/

/-- The elements that are not skipped. -/
def keepUnskipped {α : Type} : List α → List Bool → List α
  | a :: l, flag :: flags => if flag then keepUnskipped l flags else a :: keepUnskipped l flags
  | _, _ => []

theorem mem_of_mem_keepUnskipped {α : Type} {l : List α} {flags : List Bool} {a : α}
    (ha : a ∈ keepUnskipped l flags) : a ∈ l := by
  induction l generalizing flags with
  | nil => exact absurd ha List.not_mem_nil
  | cons b l ih =>
    cases flags with
    | nil => exact absurd ha List.not_mem_nil
    | cons flag flags =>
      cases flag with
      | true => exact List.mem_cons_of_mem _ (ih ha)
      | false =>
        rcases List.mem_cons.mp ha with rfl | ha
        · exact List.mem_cons_self
        · exact List.mem_cons_of_mem _ (ih ha)

theorem mapM_keepUnskipped {α β : Type} {f : α → Py β} {l : List α} {r : List β}
    (hl : l.mapM f = .ok r) (flags : List Bool) :
    (keepUnskipped l flags).mapM f = .ok (keepUnskipped r flags) := by
  induction l generalizing r flags with
  | nil =>
    obtain rfl := Except.ok.inj hl
    rfl
  | cons a l ih =>
    simp only [List.mapM_cons, bind_eq_ok, pure_eq_ok, Except.ok.injEq] at hl
    obtain ⟨b, hb, r, hr, rfl⟩ := hl
    cases flags with
    | nil => rfl
    | cons flag flags =>
      cases flag with
      | true => exact ih hr flags
      | false =>
        simp only [keepUnskipped, Bool.false_eq_true, if_false, List.mapM_cons, hb, ok_bind,
          ih hr flags, pure_eq_ok]

/-- A line that is skipped changes nothing. -/
theorem takeReading_of_skipped {actions : Actions} {reading : RowReading}
    (hskip : (takeReading actions reading).2 = true) : (takeReading actions reading).1 = actions := by
  cases reading with
  | other => rfl
  | malformed => rfl
  | event e =>
    simp only [takeReading, takeEvent] at hskip ⊢
    split at hskip
    · next hother => rw [if_pos hother]
    · next hother =>
      rw [if_neg hother]
      split at hskip
      · next hstart =>
        rw [if_pos hstart]
        split at hskip
        · next htime => rw [if_pos htime]
        · exact absurd hskip (by simp)
      · exact absurd hskip (by simp)

/-- **Without the lines that are skipped the actions are the same.** -/
theorem takeReadings_keepUnskipped (actions : Actions) (readings : List RowReading) :
    (takeReadings actions (keepUnskipped readings (takeReadings actions readings).2)).1 =
      (takeReadings actions readings).1 := by
  induction readings generalizing actions with
  | nil => rfl
  | cons reading readings ih =>
    rw [takeReadings]
    cases hflag : (takeReading actions reading).2 with
    | true =>
      rw [takeReading_of_skipped hflag, keepUnskipped, if_pos rfl]
      exact ih actions
    | false =>
      rw [keepUnskipped, if_neg (by simp), takeReadings]
      exact ih _

/-! ## The traces -/

theorem actions_nodup (events : List ExecutionEvent) : (Expected.actions events).Nodup := by
  have hnodup : ((firsts id (events.map ExecutionEvent.action)).map id).Nodup :=
    firsts_keys_nodup _
  rwa [List.map_id] at hnodup

/-- The traces of actions in their expected states. -/
theorem Matches.traces {before : List ExecutionEvent} {actions : Actions}
    (hm : Matches before actions) :
    actions.map traceOf = (Expected.actions before).map (Expected.trace before) := by
  have hnodup : (keys actions).Nodup := by
    rw [hm.keys_eq]
    exact actions_nodup before
  rw [← hm.keys_eq, keys, List.map_map]
  apply List.map_congr_left
  intro entry hentry
  have hstate := hm.state_eq entry.1 ""
  rw [find_of_mem hnodup hentry] at hstate
  rw [Function.comp_apply, Expected.trace, ← hstate]

theorem map_lastActions {α β : Type} (f : α → β) (maxEvents : Nat) (l : List α) :
    (lastActions maxEvents l).map f = lastActions maxEvents (l.map f) := by
  rw [lastActions, lastActions, List.map_drop, List.length_map]

/-! ## The law -/

/-- What is to hold of a file: it is read; the traces are those of the first events of the last
actions; the lines that are skipped are the ones to skip, and there is a warning exactly when there
are any; and without them the traces are the same. -/
def TraceLaw (loads : List Char → Py Json) (engagementId : String) (maxEvents : Int)
    (text : List Char) : Prop :=
  ∃ readings actions flags traces warnings,
    (splitlines text).mapM (readRow loads engagementId) = .ok readings ∧
    readRows loads engagementId [] (splitlines text) = .ok (actions, flags) ∧
    readExecutionTrace loads (.readable text) engagementId maxEvents = .ok (traces, warnings) ∧
    traces = lastActions maxEvents.toNat
      ((Expected.actions (events readings)).map (Expected.trace (events readings))) ∧
    SkipsRight [] readings flags ∧
    (skippedWarning ∈ warnings ↔ true ∈ flags) ∧
    ∃ warnings', readExecutionTrace loads
      (.readable (unlines (keepUnskipped (splitlines text) flags))) engagementId maxEvents =
        .ok (traces, warnings')

/-- The arguments `read_execution_trace` accepts. -/
def Accepted (engagementId : String) (maxEvents : Int) : Prop :=
  engagementId ≠ "" ∧ 1 ≤ maxEvents ∧ maxEvents ≤ maxEventCount

/-- An exception that makes a line malformed. -/
def Caught (e : Exn) : Prop :=
  e.cls.isValueError = true ∨ e.cls = .typeError ∨ e.cls = .attributeError

theorem readRow_ok_iff {loads : List Char → Py Json} {engagementId : String} {row : List Char} :
    (∃ reading, readRow loads engagementId row = .ok reading) ↔
      ∀ e, loads row = .error e → Caught e := by
  cases hload : loads row with
  | error e =>
    simp only [readRow, hload, error_bind, Except.error.injEq, forall_eq', Caught]
    split
    · next hcaught => exact iff_of_true ⟨_, rfl⟩ hcaught
    · next hcaught => exact iff_of_false (fun ⟨_, h⟩ => absurd h (by simp)) hcaught
  | ok event =>
    refine iff_of_true ?_ (fun e he => absurd he (by simp))
    simp only [readRow, hload, ok_bind]
    cases hread : readObject engagementId event with
    | ok reading => exact ⟨reading, rfl⟩
    | error e =>
      have hvalue := readObject_raises engagementId event e hread
      exact ⟨.malformed, if_pos (.inl hvalue)⟩

/-- The lines are all read when none of them raises. -/
theorem mapM_readRow_ok_iff {loads : List Char → Py Json} {engagementId : String}
    {rows : List (List Char)} :
    (∃ readings, rows.mapM (readRow loads engagementId) = .ok readings) ↔
      ∀ row ∈ rows, ∀ e, loads row = .error e → Caught e := by
  constructor
  · rintro ⟨readings, hreadings⟩ row hrow
    obtain ⟨reading, -, hread⟩ := Collect.mapM_turn hreadings hrow
    exact readRow_ok_iff.mp ⟨reading, hread⟩
  · intro h
    induction rows with
    | nil => exact ⟨[], rfl⟩
    | cons row rows ih =>
      obtain ⟨hrow, hrows⟩ := List.forall_mem_cons.mp h
      have hread : ∃ reading, readRow loads engagementId row = .ok reading :=
        readRow_ok_iff.mpr hrow
      obtain ⟨reading, hreading⟩ := hread
      obtain ⟨readings, hreadings⟩ := ih hrows
      refine ⟨reading :: readings, ?_⟩
      rw [List.mapM_cons, hreading, ok_bind, hreadings]
      rfl

/-- What is reported of a file whose lines are read. -/
theorem readExecutionTrace_of_rows {loads : List Char → Py Json} {engagementId : String}
    {maxEvents : Int} {text : List Char} {read : Actions × List Bool}
    (haccepted : Accepted engagementId maxEvents)
    (hread : readRows loads engagementId [] (splitlines text) = .ok read) :
    ∃ warnings, readExecutionTrace loads (.readable text) engagementId maxEvents =
        .ok ((lastActions maxEvents.toNat read.1).map traceOf, warnings) ∧
      (skippedWarning ∈ warnings ↔ true ∈ read.2) := by
  obtain ⟨hengagement, hlimit⟩ := haccepted
  have hpass : ¬ (engagementId = "" ∨ ¬ (1 ≤ maxEvents ∧ maxEvents ≤ maxEventCount)) := by
    rw [not_or, not_not]
    exact ⟨hengagement, hlimit⟩
  refine ⟨(if read.2.any id then [skippedWarning] else []) ++
    (if ((lastActions maxEvents.toNat read.1).map traceOf).any (fun t => t.status = "started")
      then [runningWarning] else []), ?_, ?_⟩
  · unfold readExecutionTrace
    rw [raiseIf_of_not hpass, ok_bind]
    simp only [hread, ok_bind, pure_eq_ok]
  · have hother : skippedWarning ≠ runningWarning := by decide
    cases hany : read.2.any id with
    | true =>
      have hmem : true ∈ read.2 := by simpa using hany
      simp [hmem]
    | false =>
      have hmem : true ∉ read.2 := by simpa using hany
      simp only [hmem, iff_false, Bool.false_eq_true, if_false, List.nil_append]
      split
      · rwa [List.mem_singleton]
      · exact List.not_mem_nil

/-- **The trace of a file** is the expected one exactly when the arguments are accepted, no line
raises anything but a caught exception, and no start repeats one without a time. -/
theorem trace_law_iff (loads : List Char → Py Json) (engagementId : String) (maxEvents : Int)
    (text : List Char) :
    TraceLaw loads engagementId maxEvents text ↔
      Accepted engagementId maxEvents ∧
        (∀ row ∈ splitlines text, ∀ e, loads row = .error e → Caught e) ∧
        ∀ readings, (splitlines text).mapM (readRow loads engagementId) = .ok readings →
          NoRepeats [] readings := by
  constructor
  · rintro ⟨readings, actions, flags, traces, warnings, hreadings, hrows, hreport, -, hskips, -⟩
    have haccepted : Accepted engagementId maxEvents := by
      simp only [readExecutionTrace, raiseIf_bind_eq_ok, not_or, not_not] at hreport
      exact hreport.1
    refine ⟨haccepted, mapM_readRow_ok_iff.mp ⟨readings, hreadings⟩, fun readings' hreadings' => ?_⟩
    obtain rfl := Except.ok.inj (hreadings.symm.trans hreadings')
    obtain ⟨readings', hread', htaken⟩ := readRows_eq_ok.mp hrows
    obtain rfl := Except.ok.inj (hreadings.symm.trans hread')
    rw [← takeReadings_skips_iff matches_nil, htaken]
    exact hskips
  · rintro ⟨haccepted, hcaught, hno⟩
    have hread : ∃ readings, (splitlines text).mapM (readRow loads engagementId) = .ok readings :=
      mapM_readRow_ok_iff.mpr hcaught
    obtain ⟨readings, hreadings⟩ := hread
    have hno := hno readings hreadings
    have hmatches := takeReadings_matches matches_nil hno
    rw [List.nil_append] at hmatches
    have hrows : readRows loads engagementId [] (splitlines text) =
        .ok (takeReadings [] readings) := readRows_eq_ok.mpr ⟨readings, hreadings, rfl⟩
    obtain ⟨warnings, hreport, hwarnings⟩ := readExecutionTrace_of_rows haccepted hrows
    -- the file without the lines that are skipped
    have hlines : splitlines (unlines (keepUnskipped (splitlines text)
        (takeReadings [] readings).2)) =
          keepUnskipped (splitlines text) (takeReadings [] readings).2 :=
      splitlines_unlines fun row hrow c hc =>
        not_isLineBreak_of_mem (mem_of_mem_keepUnskipped hrow) hc
    have hkept : readRows loads engagementId []
        (keepUnskipped (splitlines text) (takeReadings [] readings).2) =
          .ok (takeReadings [] (keepUnskipped readings (takeReadings [] readings).2)) :=
      readRows_eq_ok.mpr ⟨_, mapM_keepUnskipped hreadings (takeReadings [] readings).2, rfl⟩
    rw [← hlines] at hkept
    obtain ⟨warnings', hreport', -⟩ := readExecutionTrace_of_rows haccepted hkept
    rw [takeReadings_keepUnskipped] at hreport'
    refine ⟨readings, _, _, _, warnings, hreadings, hrows, hreport, ?_,
      (takeReadings_skips_iff matches_nil).mpr hno, hwarnings, warnings', hreport'⟩
    rw [map_lastActions, hmatches.traces]

/-! ### Two starts -/

/-- Two starts of one action, of which the first has no time. -/
def twoStarts : List (List Char) :=
  ["a start without a time".toList, "the same start with a time".toList]

/-- The object a start is written as. -/
def startObject (recordedAt : Json) : Json :=
  .obj [("action_id", .str "a"), ("command", .str "scan"), ("engagement_id", .str "e"),
    ("recorded_at", recordedAt), ("status", .str "started")]

/-- A reader of the two lines. -/
def loadsTwoStarts (row : List Char) : Py Json :=
  if row = "a start without a time".toList then return startObject .null
  else return startObject (.str "2026-01-01T00:00:00+00:00")

/-- The second start is taken over, without a warning. -/
theorem second_start_is_taken : ¬ TraceLaw loadsTwoStarts "e" 30 (unlines twoStarts) := by
  rintro ⟨readings, actions, flags, -, -, hreadings, hrows, -, -, hskips, -⟩
  have hlines : splitlines (unlines twoStarts) = twoStarts :=
    splitlines_unlines (by simp [twoStarts, isLineBreak])
  rw [hlines] at hreadings hrows
  obtain ⟨readings', hread', htaken⟩ := readRows_eq_ok.mp hrows
  obtain rfl := Except.ok.inj (hreadings.symm.trans hread')
  have hflags : (takeReadings [] readings).2 = flags := by rw [htaken]
  rw [← hflags, takeReadings_skips_iff matches_nil] at hskips
  have hstarts : twoStarts.mapM (readRow loadsTwoStarts "e") = .ok
      [.event ⟨"a", "scan", .started, none, none⟩,
        .event ⟨"a", "scan", .started, none, some "2026-01-01T00:00:00+00:00"⟩] := by
    decide +kernel
  obtain rfl := Except.ok.inj (hreadings.symm.trans hstarts)
  exact hskips [_] _ [] rfl ⟨rfl, rfl, rfl, rfl⟩

end NightRecon.RedNight.AuditTrace
