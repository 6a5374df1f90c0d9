import Palette.Status.Settled

/-!
# Reports lead the main state

A report of the server decides the main state, whatever the commands have written before.
There is one exception: after a restore the text of the server's version is looked at, and
for the versions 8.0 and 8.1 the table is misread.
-/

namespace Palette.Status

/-- The test of `_set_main_state` on the text of the version. -/
def before82 (tversion : String) : Bool :=
  tversion.toList.take 1 = ['8'] ∧
    ((tversion.toList.drop 1).take 3 = ['.', '0', '.'] ∨
      (tversion.toList.drop 1).take 3 = ['.', '1', '.'])

/-- What is reported, under which version, and how the report is applied. The version is
missing as long as no configuration has been read. -/
structure StatusReport where
  version : Option String
  status : TableauStatus
  minimum : Nat
  now : Nat
  obeys : Bool
  deriving DecidableEq, Repr

namespace StatusReport

variable (report : StatusReport) (board : Board)

/-- The setting of the report. A missing version counts as 8. -/
def setting : Setting :=
  ⟨before82 (report.version.getD "8"), report.minimum, report.now, report.obeys⟩

/-- `_set_main_state`. -/
def apply : Board := setMainState report.setting board board.mainState report.status

/-- The table has an entry for the main state and the status. -/
def Covered : Prop := report.status ≠ .unknown ∧ transitions board.mainState ≠ none

instance : Decidable (report.Covered board) := by
  unfold Covered
  cases transitions board.mainState
  · exact isFalse fun covered => covered.2 rfl
  · exact decidable_of_iff (report.status ≠ .unknown) (by simp)

/-- The report follows a restore of Tableau 8.0 or 8.1. -/
def Misread : Prop :=
  board.mainState = .startingRestore ∧ before82 (report.version.getD "8") = true

end StatusReport

/-- The main states of the table that no applied report leaves. -/
def Passing (state : MainState) : Prop :=
  state = .starting ∨ state = .stopping ∨ state = .restarting ∨ state = .startingRestore ∨
    state = .stoppingRestore ∨ state = .pending

/-- A report leads the main state: it is the reported one and none of passage, and a
maintenance server that runs beside a server thought to be stopped is told to stop. -/
structure StatusReport.Leads (report : StatusReport) (board : Board) : Prop where
  reported : Reported report.status (report.apply board).mainState
  steady : ¬ Passing (report.apply board).mainState
  maintained : report.status ≠ .stopped →
    board.mainState = .stopped ∨ board.mainState = .stoppedUnexpected →
    board.maintStarted = true → (report.apply board).maintStarted = !report.obeys

/-- Events are sent without a look at the maintenance server. -/
theorem sendEvents_maintStarted (minimum now : Nat) (board : Board) (events : List StateEvent) :
    (sendEvents minimum now board events).maintStarted = board.maintStarted := by
  have each : ∀ visit event, (sendEvent minimum now visit event).1.maintStarted =
      visit.1.maintStarted := by
    rintro ⟨board, flag⟩ event
    simp only [sendEvent]
    split
    · rfl
    · split
      · rfl
      · split
        · rfl
        · split <;> rfl
  have folded : ∀ visit : Board × Bool,
      (events.foldl (sendEvent minimum now) visit).1.maintStarted = visit.1.maintStarted := by
    induction events with
    | nil => exact fun _ => rfl
    | cons event rest inductionHypothesis =>
      intro visit
      rw [List.foldl_cons, inductionHypothesis, each]
  simp only [sendEvents]
  split
  · exact folded (board, false)
  · exact folded (board, false)

/-- An entry that stops the maintenance server is applied by telling it so. -/
theorem setMainState_maintStarted {setting : Setting} {board : Board} {prevState : MainState}
    {status : TableauStatus} {info : StateInfo}
    (found : newStateInfo setting.before82 prevState status = some info)
    (stops : info.maintStop = true) (started : board.maintStarted = true) :
    (setMainState setting board prevState status).maintStarted = !setting.obeys := by
  have told : ∀ stated : Board, stated.maintStarted = true →
      (let told := sendEvents setting.minimum setting.now stated info.events
        if info.maintStop ∧ told.maintStarted then { told with maintStarted := !setting.obeys }
        else told).maintStarted = !setting.obeys := by
    intro stated running
    simp only [sendEvents_maintStarted, stops, running, and_self, if_true]
  simp only [setMainState, found]
  refine told _ ?_
  split
  · exact started
  · split <;> exact started

/-- Where the table is not misread, it names for each status the main state of that
status. -/
theorem reportedState_leads {old : Bool} {state : MainState} {status : TableauStatus}
    (known : status ≠ .unknown) (covered : transitions state ≠ none)
    (read : ¬ (state = .startingRestore ∧ old = true)) :
    Reported status (reportedState old state status) ∧
      ¬ Passing (reportedState old state status) := by
  cases state <;> cases status <;> cases old <;>
    simp_all [reportedState, newStateInfo, transitions, stopDict, startDict, pendingDict,
      stoppedUnexpectedDict, degradedDict, Reported, Passing, StateInfo.empty]

/-- A report of a running server stops the maintenance server of a stopped one. -/
theorem newStateInfo_stops {old : Bool} {state : MainState} {status : TableauStatus}
    (known : status ≠ .unknown) (running : status ≠ .stopped)
    (halted : state = .stopped ∨ state = .stoppedUnexpected) :
    ∃ info, newStateInfo old state status = some info ∧ info.maintStop = true := by
  rcases halted with rfl | rfl <;> cases status <;>
    simp_all [newStateInfo, transitions, stopDict, stoppedUnexpectedDict]

/-- A report that the table covers leads the main state unless the table is misread. -/
theorem report_leads_iff {report : StatusReport} {board : Board} (covered : report.Covered board) :
    report.Leads board ↔ ¬ report.Misread board := by
  obtain ⟨known, row⟩ := covered
  have state : (report.apply board).mainState =
      reportedState (before82 (report.version.getD "8")) board.mainState report.status :=
    setMainState_mainState report.setting board report.status
  constructor
  · rintro ⟨-, steady, -⟩ ⟨restoring, old⟩
    rw [state, restoring, old] at steady
    refine steady ?_
    cases report.status <;> simp [reportedState, newStateInfo, transitions, Passing,
      StateInfo.empty]
  · intro read
    obtain ⟨reported, steady⟩ := reportedState_leads known row read
    refine ⟨?_, ?_, fun running halted started => ?_⟩
    · rwa [state]
    · rwa [state]
    · obtain ⟨info, found, stops⟩ := newStateInfo_stops known running halted
      have told : (setMainState report.setting board board.mainState report.status).maintStarted =
          !report.setting.obeys := setMainState_maintStarted found stops started
      exact told

/-! ## Runs of commands and checks -/

/-- What moves the board: anyone may write the main state and the flag of the maintenance
server, and a status check applies a report. -/
inductive Move where
  | write (state : MainState)
  | maintain (started : Bool)
  | report (report : StatusReport)
  deriving DecidableEq, Repr

/-- The reports of a run that meet an entry of the table, each with the board it met. -/
def applications : Board → List Move → List (Board × StatusReport)
  | _, [] => []
  | board, .write state :: rest => applications { board with mainState := state } rest
  | board, .maintain started :: rest => applications { board with maintStarted := started } rest
  | board, .report report :: rest =>
    if report.Covered board then (board, report) :: applications (report.apply board) rest
    else applications (report.apply board) rest

/-- Every report of a run that is applied meets an entry. -/
theorem covered_of_applied (moves : List Move) (board : Board) :
    ∀ visit ∈ applications board moves, visit.2.Covered visit.1 := by
  induction moves generalizing board with
  | nil => simp [applications]
  | cons move rest inductionHypothesis =>
    cases move with
    | write state => exact inductionHypothesis _
    | maintain started => exact inductionHypothesis _
    | report report =>
      simp only [applications]
      split
      · rename_i covered
        intro visit member
        rcases List.mem_cons.mp member with rfl | later
        · exact covered
        · exact inductionHypothesis _ visit later
      · exact inductionHypothesis _

/-- In a run of commands and checks every applied report leads the main state if and only
if none follows a restore of Tableau 8.0 or 8.1. -/
theorem reports_lead_iff (board : Board) (moves : List Move) :
    (∀ visit ∈ applications board moves, visit.2.Leads visit.1) ↔
      ∀ visit ∈ applications board moves, ¬ visit.2.Misread visit.1 := by
  refine forall₂_congr fun visit applied => ?_
  exact report_leads_iff (covered_of_applied moves board visit applied)

end Palette.Status
