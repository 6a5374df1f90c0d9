import Palette.Status.Transitions

/-!
# Main states that settle

A user command writes main states of its own while it works. If it leaves one of them
behind, the next status check may still move the main state to the one that the report
names. It does so for the states of starting and stopping, apart from a restore of a
version before 8.2. The others have no row in the table, and stay.
-/

namespace Palette.Status

/-- The main states that only a command at work has: the server is being started, stopped
or restarted, or a backup, a restore or another action runs. -/
def Transient : MainState → Prop
  | .stopping | .stoppingRestore | .stoppedRestore | .stoppedBackup | .stoppedBackupRestore
  | .stoppedFiledel | .stoppedZiplogs | .starting | .startingRestore | .startedBackup
  | .startedBackupRestore | .startedBackupStop | .startedBackupRestart | .restarting
  | .startedFiledel | .startedZiplogs | .startedCleanup | .stoppedCleanup => True
  | _ => False

/-- The main state is the one that the status names. -/
def Reported (status : TableauStatus) (state : MainState) : Prop :=
  match status with
  | .running => state = .started
  | .stopped => state = .stopped ∨ state = .stoppedUnexpected
  | .degraded => state = .degraded
  | .unknown => True

/-- Whatever a status check reports of a server of this version, it moves the main state
to the reported one. -/
def MovesOn (before82 : Bool) (state : MainState) : Prop :=
  ∀ setting : Setting, setting.before82 = before82 → ∀ board : Board, board.mainState = state →
    ∀ status, Reported status (setMainState setting board state status).mainState

/-- The main state is not transient, or the next status check moves it on. -/
def Settled (before82 : Bool) (state : MainState) : Prop :=
  ¬ Transient state ∨ MovesOn before82 state

/-- The main state stays transient after every report. -/
def Stuck (before82 : Bool) (state : MainState) : Prop :=
  Transient state ∧ transitions state = none ∨ state = .startingRestore ∧ before82 = true

/-- One event is sent without a change of the main state. -/
theorem sendEvent_mainState (minimum now : Nat) (visit : Board × Bool) (event : StateEvent) :
    (sendEvent minimum now visit event).1.mainState = visit.1.mainState := by
  obtain ⟨board, newDegradedEvent⟩ := visit
  simp only [sendEvent]
  split
  · rfl
  · split
    · rfl
    · split
      · rfl
      · split <;> rfl

/-- Events are sent without a change of the main state. -/
theorem sendEvents_mainState (minimum now : Nat) (board : Board) (events : List StateEvent) :
    (sendEvents minimum now board events).mainState = board.mainState := by
  have folded : ∀ visit : Board × Bool,
      (events.foldl (sendEvent minimum now) visit).1.mainState = visit.1.mainState := by
    induction events with
    | nil => exact fun _ => rfl
    | cons event rest inductionHypothesis =>
      intro visit
      rw [List.foldl_cons, inductionHypothesis, sendEvent_mainState]
  simp only [sendEvents]
  split
  · exact folded (board, false)
  · exact folded (board, false)

/-- The main state after a report that meets this one. -/
def reportedState (before82 : Bool) (state : MainState) (status : TableauStatus) : MainState :=
  match newStateInfo before82 state status with
  | none => state
  | some info => info.state.getD state

/-- A report leaves the main state that its entry of the table names, and where the entry
names none the previous one. -/
theorem setMainState_mainState (setting : Setting) (board : Board) (status : TableauStatus) :
    (setMainState setting board board.mainState status).mainState =
      reportedState setting.before82 board.mainState status := by
  simp only [setMainState, reportedState]
  cases newStateInfo setting.before82 board.mainState status with
  | none => rfl
  | some info =>
    have told : ∀ stated : Board,
        (let told := sendEvents setting.minimum setting.now stated info.events
          if info.maintStop ∧ told.maintStarted then
            { told with maintStarted := !setting.obeys }
          else told).mainState = stated.mainState := by
      intro stated
      simp only
      split
      · exact sendEvents_mainState _ _ _ _
      · exact sendEvents_mainState _ _ _ _
    refine (told _).trans ?_
    cases named : info.state with
    | none => simp [named]
    | some state =>
      by_cases same : state = board.mainState
      · simp [named, same]
      · simp [named, same]

/-- A status check moves a main state on if its entry does so for each status. -/
theorem movesOn_iff (before82 : Bool) (state : MainState) :
    MovesOn before82 state ↔ ∀ status, Reported status (reportedState before82 state status) := by
  constructor
  · intro moves status
    have moved := moves ⟨before82, 0, 0, true⟩ rfl ⟨state, false, none, false, []⟩ rfl status
    have found := setMainState_mainState ⟨before82, 0, 0, true⟩ ⟨state, false, none, false, []⟩ status
    rwa [← found]
  · rintro reported setting rfl board rfl status
    rw [setMainState_mainState]
    exact reported status

/-- A main state settles unless it is stuck. -/
theorem settled_iff (before82 : Bool) (state : MainState) :
    Settled before82 state ↔ ¬ Stuck before82 state := by
  have each : (∀ status, Reported status (reportedState before82 state status)) ↔
      Reported .running (reportedState before82 state .running) ∧
      Reported .stopped (reportedState before82 state .stopped) ∧
      Reported .degraded (reportedState before82 state .degraded) := by
    constructor
    · exact fun reported => ⟨reported .running, reported .stopped, reported .degraded⟩
    · rintro ⟨running, stopped, degraded⟩ status
      cases status with
      | running => exact running
      | stopped => exact stopped
      | degraded => exact degraded
      | unknown => trivial
  unfold Settled
  rw [movesOn_iff, each]
  cases state <;> cases before82 <;>
    simp [Stuck, Transient, transitions, reportedState, newStateInfo, Reported, stopDict,
      startDict, StateInfo.empty]

/-- A report leaves the main state alone or moves it to one that is not transient. -/
theorem reportedState_cases (before82 : Bool) (state : MainState) (status : TableauStatus) :
    reportedState before82 state status = state ∨
      ¬ Transient (reportedState before82 state status) := by
  cases state <;> cases status <;> cases before82 <;>
    simp [reportedState, newStateInfo, transitions, stopDict, startDict, pendingDict,
      stoppedUnexpectedDict, degradedDict, Transient, StateInfo.empty]

/-- A report does not unsettle a main state. -/
theorem settled_reportedState {before82 : Bool} {state : MainState} (status : TableauStatus)
    (settled : Settled before82 state) :
    Settled before82 (reportedState before82 state status) := by
  rcases reportedState_cases before82 state status with same | steady
  · rwa [same]
  · exact .inl steady

end Palette.Status
