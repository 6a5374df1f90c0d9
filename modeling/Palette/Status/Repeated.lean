import Palette.Status.Settled

/-!
# The same report once more

A status check that agrees with the main state is followed by checks with the same
report. They change no main state and announce nothing unexpected. A main state that
disagrees is moved and announced, or it has no row in the table and stays wrong.
-/

namespace Palette.Status

/-- The events about a state that nobody has asked for. -/
def StateEvent.Unexpected (event : StateEvent) : Prop :=
  event = .stateUnexpectedStateStarted ∨ event = .stateUnexpectedStateStopped

/-- A further check of a server of this version with the same report changes no main
state and announces nothing unexpected. -/
def Rests (before82 : Bool) (status : TableauStatus) (board : Board) : Prop :=
  ∀ setting : Setting, setting.before82 = before82 →
    (setMainState setting board board.mainState status).mainState = board.mainState ∧
      ∀ event : StateEvent, event.Unexpected →
        (setMainState setting board board.mainState status).events.count event =
          board.events.count event

/-- An event that is not the one to be sent is not sent. -/
theorem sendEvent_count {minimum now : Nat} {visit : Board × Bool} {event other : StateEvent}
    (different : event ≠ other) :
    (sendEvent minimum now visit event).1.events.count other = visit.1.events.count other := by
  obtain ⟨board, newDegradedEvent⟩ := visit
  simp only [sendEvent]
  split
  · rfl
  · split
    · exact List.count_cons_of_ne different
    · split
      · rfl
      · split
        · exact List.count_cons_of_ne different
        · rfl

/-- An event that is not listed is not sent. -/
theorem sendEvents_count {minimum now : Nat} {board : Board} {events : List StateEvent}
    {other : StateEvent} (unlisted : other ∉ events) :
    (sendEvents minimum now board events).events.count other = board.events.count other := by
  have folded : ∀ visit : Board × Bool,
      (events.foldl (sendEvent minimum now) visit).1.events.count other =
        visit.1.events.count other := by
    induction events with
    | nil => exact fun _ => rfl
    | cons event rest inductionHypothesis =>
      intro visit
      obtain ⟨different, later⟩ := List.ne_and_not_mem_of_not_mem_cons unlisted
      rw [List.foldl_cons, inductionHypothesis later]
      exact sendEvent_count (Ne.symm different)
  simp only [sendEvents]
  split
  · exact folded (board, false)
  · exact folded (board, false)

/-- A report sends no more than its entry of the table lists. -/
theorem setMainState_count {setting : Setting} {board : Board} {status : TableauStatus}
    {event : StateEvent}
    (unlisted : ∀ info, newStateInfo setting.before82 board.mainState status = some info →
      event ∉ info.events) :
    (setMainState setting board board.mainState status).events.count event =
      board.events.count event := by
  simp only [setMainState]
  cases found : newStateInfo setting.before82 board.mainState status with
  | none => rfl
  | some info =>
    have told : ∀ stated : Board, stated.events = board.events →
        (let told := sendEvents setting.minimum setting.now stated info.events
          if info.maintStop ∧ told.maintStarted then
            { told with maintStarted := !setting.obeys }
          else told).events.count event = board.events.count event := by
      intro stated same
      have sent : (sendEvents setting.minimum setting.now stated info.events).events.count event =
          board.events.count event := by
        rw [sendEvents_count (unlisted info found), same]
      simp only
      split
      · exact sent
      · exact sent
    refine told _ ?_
    cases info.state with
    | none => rfl
    | some state =>
      simp only
      split
      · rfl
      · rfl

/-- The entry for the main state that a status names keeps that state and lists nothing
unexpected. -/
theorem reported_entry {before82 : Bool} {status : TableauStatus} {state : MainState}
    (reported : Reported status state) :
    reportedState before82 state status = state ∧
      ∀ info, newStateInfo before82 state status = some info →
        ∀ event : StateEvent, event.Unexpected → event ∉ info.events := by
  cases status with
  | running =>
    obtain rfl := reported
    simp [reportedState, newStateInfo, transitions, startDict]
  | stopped =>
    rcases reported with rfl | rfl
    · simp [reportedState, newStateInfo, transitions, stopDict]
    · simp [reportedState, newStateInfo, transitions, stoppedUnexpectedDict, StateInfo.empty]
  | degraded =>
    obtain rfl := reported
    simp [reportedState, newStateInfo, transitions, degradedDict, StateEvent.Unexpected]
  | unknown => simp [reportedState, newStateInfo]

/-- A main state that agrees with a report rests. -/
theorem Reported.rests {before82 : Bool} {status : TableauStatus} {board : Board}
    (reported : Reported status board.mainState) : Rests before82 status board := by
  rintro setting rfl
  obtain ⟨kept, unlisted⟩ := @reported_entry setting.before82 _ _ reported
  constructor
  · rw [setMainState_mainState, kept]
  · exact fun event unexpected =>
      setMainState_count fun info found => unlisted info found event unexpected

/-- A status check leads to the reported state where the main state has a row that it
reads. -/
theorem reported_reportedState_iff (before82 : Bool) (status : TableauStatus)
    (state : MainState) :
    Reported status (reportedState before82 state status) ↔
      status = .unknown ∨
        transitions state ≠ none ∧ ¬ (state = .startingRestore ∧ before82 = true) := by
  cases state <;> cases status <;> cases before82 <;>
    simp [reportedState, newStateInfo, Reported, transitions, stopDict, startDict, pendingDict,
      stoppedUnexpectedDict, degradedDict, StateInfo.empty]

end Palette.Status
