import Palette.Status.MainState

/-!
# Status reports and the main state

A status report of the monitored server moves the main state by a table of transitions.
A row of the table names the next state, the events to send and whether a running
maintenance server is stopped. Some main states have no row: a report that meets one of
them changes nothing.

An event about the degraded state is held back until that state has lasted for a while,
and it is not sent twice.
-/

namespace Palette.Status

/-- The status that Tableau reports. -/
inductive TableauStatus where
  | running
  | stopped
  | degraded
  | unknown
  deriving DecidableEq, Repr

/-- The events of the table. -/
inductive StateEvent where
  | initStateStarted
  | initStateStopped
  | initStateDegraded
  | stateDegraded
  | stateStartedAfterDegraded
  | stateUnexpectedStateStarted
  | stateUnexpectedStateStopped
  deriving DecidableEq, Repr

/-- An entry of the table. No entry starts the maintenance server. -/
structure StateInfo where
  state : Option MainState
  events : List StateEvent
  maintStop : Bool
  deriving DecidableEq, Repr

/-- An entry without any key. -/
def StateInfo.empty : StateInfo := ⟨none, [], false⟩

/-- `STOP_DICT`. -/
def stopDict : TableauStatus → Option StateInfo
  | .running => some ⟨some .started, [.stateUnexpectedStateStarted], true⟩
  | .stopped => some ⟨some .stopped, [], false⟩
  | .degraded => some ⟨some .degraded, [.stateUnexpectedStateStarted, .stateDegraded], true⟩
  | .unknown => none

/-- `START_DICT`. -/
def startDict : TableauStatus → Option StateInfo
  | .running => some ⟨some .started, [], false⟩
  | .stopped => some ⟨some .stoppedUnexpected, [.stateUnexpectedStateStopped], false⟩
  | .degraded => some ⟨some .degraded, [.stateDegraded], false⟩
  | .unknown => none

/-- The row of `TRANSITIONS` for the pending state. -/
def pendingDict : TableauStatus → Option StateInfo
  | .running => some ⟨some .started, [.initStateStarted], false⟩
  | .stopped => some ⟨some .stopped, [.initStateStopped], false⟩
  | .degraded => some ⟨some .degraded, [.initStateDegraded], false⟩
  | .unknown => none

/-- The row of `TRANSITIONS` for an unexpected stop. -/
def stoppedUnexpectedDict : TableauStatus → Option StateInfo
  | .running => some ⟨some .started, [.stateUnexpectedStateStarted], true⟩
  | .stopped => some .empty
  | .degraded => some ⟨some .degraded, [.stateUnexpectedStateStarted, .stateDegraded], true⟩
  | .unknown => none

/-- The row of `TRANSITIONS` for the degraded state. -/
def degradedDict : TableauStatus → Option StateInfo
  | .running => some ⟨some .started, [.stateStartedAfterDegraded], false⟩
  | .stopped => some ⟨some .stoppedUnexpected, [.stateUnexpectedStateStopped], false⟩
  | .degraded => some ⟨none, [.stateDegraded], false⟩
  | .unknown => none

/-- `TRANSITIONS`, with `none` for a state that is no key. -/
def transitions : MainState → Option (TableauStatus → Option StateInfo)
  | .pending => some pendingDict
  | .stopped | .stopping | .stoppingRestore | .startingRestore => some stopDict
  | .stoppedUnexpected => some stoppedUnexpectedDict
  | .started | .starting | .restarting => some startDict
  | .degraded => some degradedDict
  | _ => none

/-- What `_set_main_state` finds for a previous state and a reported status. After a
restore of a version before 8.2 it takes the whole starting table for an entry, and none
of the keys it looks for is in there. -/
def newStateInfo (before82 : Bool) (prevState : MainState) (status : TableauStatus) :
    Option StateInfo :=
  match status with
  | .unknown => none
  | _ =>
    match transitions prevState with
    | none => none
    | some row =>
      if prevState = .startingRestore ∧ before82 then some .empty else row status

/-- What a report may change: the main state, the maintenance server, the monitor's
memory of the degraded state, and the events sent, the newest first. -/
structure Board where
  mainState : MainState
  maintStarted : Bool
  firstDegradedTime : Option Nat
  sentDegradedEvent : Bool
  events : List StateEvent
  deriving DecidableEq, Repr

/-- One pass of the loop of `_send_events`. The flag tells whether the degraded event was
met. A remembered time of zero counts as none. -/
def sendEvent (minimum now : Nat) (visit : Board × Bool) (event : StateEvent) : Board × Bool :=
  let (board, newDegradedEvent) := visit
  if event = .stateStartedAfterDegraded ∧ ¬ board.sentDegradedEvent then visit
  else if event ≠ .stateDegraded then
    ({ board with
        events := event :: board.events
        sentDegradedEvent := board.sentDegradedEvent && event ≠ .initStateDegraded },
      newDegradedEvent)
  else if board.firstDegradedTime.getD 0 = 0 then
    ({ board with firstDegradedTime := some now }, true)
  else if ¬ board.sentDegradedEvent ∧ board.firstDegradedTime.getD 0 + minimum ≤ now then
    ({ board with
        events := event :: board.events
        sentDegradedEvent := true }, true)
  else (board, true)

/-- `_send_events`. -/
def sendEvents (minimum now : Nat) (board : Board) (events : List StateEvent) : Board :=
  let (sent, newDegradedEvent) := events.foldl (sendEvent minimum now) (board, false)
  if newDegradedEvent then sent
  else
    { sent with
      firstDegradedTime := none
      sentDegradedEvent := false }

/-- How a report is applied: the version that the server runs, the shortest time that a
degraded state lasts before its event, the time, and whether the maintenance server obeys. -/
structure Setting where
  before82 : Bool
  minimum : Nat
  now : Nat
  obeys : Bool
  deriving DecidableEq, Repr

/-- `_set_main_state` after it has read the previous state. -/
def setMainState (setting : Setting) (board : Board) (prevState : MainState)
    (status : TableauStatus) : Board :=
  match newStateInfo setting.before82 prevState status with
  | none => board
  | some info =>
    let stated :=
      match info.state with
      | none => board
      | some state => if state ≠ prevState then { board with mainState := state } else board
    let told := sendEvents setting.minimum setting.now stated info.events
    if info.maintStop ∧ told.maintStarted then
      { told with maintStarted := !setting.obeys }
    else told

/-- A report that meets a state without a row changes nothing. -/
theorem setMainState_of_no_row (setting : Setting) (board : Board) (prevState : MainState)
    (status : TableauStatus) (noRow : transitions prevState = none) :
    setMainState setting board prevState status = board := by
  have nothing : newStateInfo setting.before82 prevState status = none := by
    cases status <;> simp [newStateInfo, noRow]
  rw [setMainState, nothing]

/-- A disconnected main state has no row. -/
theorem transitions_disconnected : transitions .disconnected = none := rfl

end Palette.Status
