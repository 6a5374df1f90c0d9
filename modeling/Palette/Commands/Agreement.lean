import Palette.Commands.Stopped
import Palette.Status.Repeated

/-!
# Commands that end in the reported state

A start, a stop and a restore each make a status check before they return. The check
moves the main state by the table of transitions. A stop and a restore leave it there, so
they agree with the report if the state before the check has a row. A start then
overwrites it by the exit status of its command, whatever was reported.
-/

namespace Palette.Commands

open Palette.Foundation Palette.Status

/-- If a status check was made and has stored a status, the main state agrees with that
status, and the next check with the same report finds nothing to do. -/
def Agrees (scene : Scene) (final : Progress) : Prop :=
  ∀ report, .statusCheck ∈ final.actions → scene.statusCheck = .ok (some report) →
    Reported report.status final.board.mainState ∧
      Rests scene.before82 report.status final.board

/-- If the command returns, it has ended in the reported state. -/
def Agreeing (scene : Scene) (script : Handling PUnit) : Prop :=
  script.Upholds scene.start fun _ final => Agrees scene final

variable {scene : Scene} {command : Command} {progress : Progress}

/-- A main state that agrees with the report also rests. -/
theorem agrees_iff : Agrees scene progress ↔
    (.statusCheck ∈ progress.actions → ∀ report, scene.statusCheck = .ok (some report) →
      Reported report.status progress.board.mainState) := by
  constructor
  · exact fun agrees checked report stored => (agrees report checked stored).1
  · intro reported report checked stored
    have named := reported checked report stored
    exact ⟨named, named.rests⟩

/-- The command holds the lock and has made no status check. -/
structure Progress.Working (progress : Progress) : Prop where
  held : progress.Held
  unchecked : .statusCheck ∉ progress.actions

/-- A command that has made no status check has nothing to agree with. -/
theorem agrees_of_unchecked (unchecked : .statusCheck ∉ progress.actions) :
    Agrees scene progress :=
  fun _ checked => absurd checked unchecked

/-- Other actions than a status check keep the command at work. -/
theorem Progress.Working.after {action : Action} (working : progress.Working)
    (other : action ≠ .statusCheck) : (progress.after scene action).Working := by
  obtain ⟨held, unchecked⟩ := working
  constructor
  · simpa [Progress.Held] using held
  · rw [after_actions, List.mem_append, List.mem_singleton]
    rintro (earlier | same)
    · exact unchecked earlier
    · exact other same.symm

theorem Progress.Working.withState (working : progress.Working) (state : MainState) :
    (progress.withState state).Working := ⟨working.held, working.unchecked⟩

/-! ## What the steps uphold -/

section Steps

variable {returned : PUnit → Progress → Prop}

@[simp] theorem upholds_update {state : MainState} :
    (update state).Upholds progress returned ↔ returned ⟨⟩ (progress.withState state) := Iff.rfl

@[simp] theorem upholds_getState {returned : MainState → Progress → Prop} :
    getState.Upholds progress returned ↔ returned progress.board.mainState progress := Iff.rfl

@[simp] theorem upholds_ack : ack.Upholds progress returned ↔
    returned ⟨⟩ { progress with responses := progress.responses ++ [.ok] } := Iff.rfl

@[simp] theorem upholds_error {errnum : ClientError} {message : String} :
    (error errnum message).Upholds progress returned ↔
      returned ⟨⟩ { progress with responses := progress.responses ++ [.error errnum message] } :=
  Iff.rfl

@[simp] theorem upholds_reportStatus {body : Body} :
    (reportStatus body).Upholds progress returned ↔
      returned ⟨⟩ { progress with
        responses := progress.responses ++
          [.status (body.set "status" (.text (if body.failed then "error" else "OK")))] } :=
  Iff.rfl

@[simp] theorem upholds_userActionUnlock :
    userActionUnlock.Upholds progress returned ↔
      (progress.released < progress.acquired →
        returned ⟨⟩ { progress.noting .released with released := progress.released + 1 }) := by
  unfold Script.Upholds
  rw [ends_userActionUnlock]
  by_cases owned : progress.acquired ≤ progress.released
  · simp [Nat.not_lt.mpr owned, owned]
  · simp [Nat.not_le.mp owned]

theorem upholds_perform {Reply : Type} {action : Action} {answer : Except Failure Reply}
    {returned : Reply → Progress → Prop} :
    (perform scene action answer).Upholds progress returned ↔
      ∀ reply, answer = .ok reply → returned reply (progress.after scene action) := by
  unfold Script.Upholds
  rw [ends_perform]
  cases answer <;> simp

@[simp] theorem upholds_gen {event : Event} {returned : Unit → Progress → Prop} :
    (gen scene event).Upholds progress returned ↔
      (Replied (scene.gen event) → returned () progress) := by
  unfold gen Replied
  rw [Script.upholds_settle]
  exact ⟨fun holds ⟨_, told⟩ => holds _ told, fun holds _ told => holds ⟨_, told⟩⟩

theorem upholds_maint {action : MaintAction} {returned : Body → Progress → Prop} :
    (maint scene action).Upholds progress returned ↔
      ∀ body started, scene.maint action = .ok (body, started) →
        returned body { progress.after scene (.maint action) with
          board := { (progress.after scene (.maint action)).board with
            maintStarted := started } } := by
  unfold maint
  simp only [Script.upholds_bind, upholds_perform, Prod.forall]
  exact Iff.rfl

theorem upholds_checkStatus :
    (checkStatusWithConnection scene).Upholds progress returned ↔
      ∀ report, scene.statusCheck = .ok report →
        returned ⟨⟩ ((progress.after scene .statusCheck).checked scene report) := by
  unfold checkStatusWithConnection
  simp only [Script.upholds_bind, upholds_perform]
  refine forall₂_congr fun report _ => ?_
  cases report <;> exact Iff.rfl

/-- A refusal makes no status check. -/
theorem refuse_agrees (unchecked : .statusCheck ∉ progress.actions) (errnum : ClientError)
    (message : String) :
    (refuse errnum message).Upholds progress fun _ final => Agrees scene final := by
  unfold refuse
  simp only [Script.upholds_bind, upholds_error, upholds_userActionUnlock]
  exact fun _ => agrees_of_unchecked unchecked

/-- Giving the lock back and reporting to the client change nothing about the agreement. -/
theorem closing_agrees (held : progress.Held) (body : Body) :
    (userActionUnlock.Upholds progress fun _ middle =>
      (reportStatus body).Upholds middle fun _ final => Agrees scene final) ↔
        Agrees scene progress := by
  obtain ⟨acquired, released⟩ := held
  simp only [upholds_userActionUnlock, upholds_reportStatus, acquired, released]
  exact ⟨fun agrees => agrees (by decide), fun agrees _ => agrees⟩

/-- Without an agent the command has nothing to agree with. -/
theorem getAgent_agrees (unchecked : .statusCheck ∉ progress.actions)
    {returned : Bool → Progress → Prop}
    (gone : ∀ final : Progress, .statusCheck ∉ final.actions → returned false final) :
    (getAgent scene command).Upholds progress returned ↔
      (agentOf scene command = .ok none → returned true progress) := by
  unfold getAgent
  simp only [Script.upholds_bind, Script.upholds_settle]
  cases agentOf scene command with
  | error failure => simp
  | ok refusal =>
    rcases refusal with _ | ⟨errnum, message⟩
    · simp
    · have refused := gone { progress with
        responses := progress.responses ++ [.error errnum message] } unchecked
      exact iff_of_true (fun _ same => by cases same; exact refused) (by simp)

/-- Without the lock the command has nothing to agree with. -/
theorem userActionLock_agrees (unchecked : .statusCheck ∉ progress.actions)
    {returned : Bool → Progress → Prop}
    (gone : ∀ final : Progress, .statusCheck ∉ final.actions → returned false final) :
    (userActionLock scene).Upholds progress returned ↔
      (scene.busy = false → returned true
        { progress.noting (.tried true) with acquired := progress.acquired + 1 }) := by
  unfold userActionLock
  cases scene.busy with
  | true => exact iff_of_true (gone (progress.noting (.tried false)) unchecked) (by simp)
  | false => simp [Script.Upholds]

/-- The user's number is read without a status check. -/
theorem upholds_user {returned : Option Int → Progress → Prop} {calm : Prop}
    (holds : ∀ userid, returned userid progress ↔ calm) :
    (Script.settle command.user : Handling (Option Int)).Upholds progress returned ↔
      (UserCalm command → calm) := by
  rw [Script.upholds_settle, ← user_replied]
  simp only [holds]
  exact exists_imp.symm

/-- A command under the lock agrees where it finds the agent and the lock and what it then
does agrees. -/
theorem underLock_agrees {errnum : ClientError} {message : String} {work : Handling PUnit}
    {calm : Prop}
    (works : ∀ progress : Progress, progress.Working → progress.board = scene.board →
      ((work.Upholds progress fun _ final => Agrees scene final) ↔ calm)) :
    Agreeing scene (underLock scene command errnum message work) ↔
      (agentOf scene command = .ok none → scene.busy = false → calm) := by
  have unchecked : .statusCheck ∉ scene.start.actions := List.not_mem_nil
  unfold Agreeing underLock
  rw [Script.upholds_bind, getAgent_agrees unchecked]
  · refine imp_congr_right fun _ => ?_
    simp only [if_true, Script.upholds_bind]
    rw [userActionLock_agrees unchecked]
    · refine imp_congr_right fun _ => works _ ⟨⟨rfl, rfl⟩, unchecked⟩ rfl
    · exact fun final later => agrees_of_unchecked later
  · exact fun final later => agrees_of_unchecked later

end Steps

/-! ## After a status check -/

/-- The state before a status check has a row of the table that the check reads. -/
def Led (before82 : Bool) (state : MainState) : Prop :=
  transitions state ≠ none ∧ ¬ (state = .startingRestore ∧ before82 = true)

/-- The main states in which a command goes on have a row. -/
theorem led_of_accepted {before82 : Bool} {state : MainState}
    (accepted : Running state ∨ Halted state) : Led before82 state := by
  rcases accepted with (rfl | rfl) | rfl | rfl <;> simp [Led, transitions]

theorem led_stopping {before82 : Bool} : Led before82 .stopping := by simp [Led, transitions]

theorem led_startingRestore {before82 : Bool} :
    Led before82 .startingRestore ↔ before82 = false := by simp [Led, transitions]

theorem not_led_disconnected {before82 : Bool} : ¬ Led before82 .disconnected := by
  simp [Led, transitions]

/-- The status check is one of the actions of the command that has made it. -/
theorem statusCheck_made (report : Option Report) :
    .statusCheck ∈ ((progress.after scene .statusCheck).checked scene report).actions := by
  have made : .statusCheck ∈ (progress.after scene .statusCheck).actions := by
    rw [after_actions]
    exact List.mem_append_right _ (List.mem_singleton.mpr rfl)
  cases report with
  | none => exact made
  | some report => exact made

/-- A state has a row after an action if it had one and the agent is not lost. -/
theorem led_after (progress : Progress) (action : Action) :
    Led scene.before82 (progress.after scene action).board.mainState ↔
      scene.lost action = false ∧ Led scene.before82 progress.board.mainState := by
  rw [Progress.after_mainState]
  cases scene.lost action with
  | true => simpa using not_led_disconnected
  | false => simp

/-- The last status check leads to the reported state where the agent is not lost in it
and the state before it has a row. -/
theorem checkStatus_agrees {report : Option Report} (stored : scene.statusCheck = .ok report) :
    Agrees scene ((progress.after scene .statusCheck).checked scene report) ↔
      ∀ told, report = some told → told.status ≠ .unknown →
        scene.lost .statusCheck = false ∧ Led scene.before82 progress.board.mainState := by
  rw [agrees_iff, stored, Progress.checked_mainState]
  simp only [statusCheck_made, forall_true_left, Except.ok.injEq]
  refine forall₂_congr fun told same => ?_
  subst same
  rw [reported_reportedState_iff, or_iff_not_imp_left]
  exact imp_congr_right fun _ => led_after progress .statusCheck

/-- If nothing after a status check writes the main state, a command agrees where the check
leads to the reported state. -/
theorem checkStatus_last (held : progress.Held) {next : Handling PUnit} {ends : Prop}
    (closes : ∀ last : Progress, last.Held →
      ((next.Upholds last fun _ final => Agrees scene final) ↔ (ends → Agrees scene last))) :
    ((checkStatusWithConnection scene).Upholds progress fun _ last =>
      next.Upholds last fun _ final => Agrees scene final) ↔
        ∀ report, scene.statusCheck = .ok (some report) → ends → report.status ≠ .unknown →
          scene.lost .statusCheck = false ∧ Led scene.before82 progress.board.mainState := by
  have heldAfter : ∀ report, ((progress.after scene .statusCheck).checked scene report).Held := by
    simpa [Progress.Held] using held
  rw [upholds_checkStatus]
  constructor
  · intro upholds report stored ended
    have agrees := (closes _ (heldAfter _)).mp (upholds (some report) stored) ended
    exact (checkStatus_agrees stored).mp agrees report rfl
  · intro leads report stored
    refine (closes _ (heldAfter report)).mpr fun ended => (checkStatus_agrees stored).mpr ?_
    rintro told rfl
    exact leads told stored ended

/-! ## Start -/

variable (scene command)

/-- The command gets as far as the start of Tableau. -/
structure StartReached : Prop where
  usage : command.args = []
  agent : agentOf scene command = .ok none
  free : scene.busy = false
  state : Halted scene.board.mainState
  status : scene.tableauStatus = .ok .stopped
  user : UserCalm command
  maint : scene.board.maintStarted = true → Replied (scene.maint .stop)

/-- A start that has made its status check and whose events are generated was reported as
it ended: stopped after a failure, running after a success. -/
def StartReportedAsEnded : Prop :=
  ∀ body, scene.cliCmd .start = .ok body → ∀ report, scene.statusCheck = .ok (some report) →
    if ((body "exit-status").getD (.number 1)).truthy then
      Replied (scene.gen .tableauStartFailed) → Replied (scene.gen .stateStopped) →
        report.status = .stopped ∨ report.status = .unknown
    else
      Replied (scene.gen .stateStarted) → report.status = .running ∨ report.status = .unknown

variable {scene command}

theorem reported_stopped_iff (status : TableauStatus) :
    Reported status .stopped ↔ status = .stopped ∨ status = .unknown := by
  cases status <;> simp [Reported]

theorem reported_started_iff (status : TableauStatus) :
    Reported status .started ↔ status = .running ∨ status = .unknown := by
  cases status <;> simp [Reported]

/-- After the status check a start agrees if the state that it writes does. -/
theorem startWritten_agrees {report : Option Report} (stored : scene.statusCheck = .ok report)
    {state : MainState} :
    Agrees scene (((progress.after scene .statusCheck).checked scene report).withState state) ↔
      ∀ told, report = some told → Reported told.status state := by
  rw [agrees_iff, stored, withState_actions]
  simp only [statusCheck_made, forall_true_left, Except.ok.injEq, Progress.withState_mainState]

/-- What a start does last agrees if the state that it writes is the reported one, or if
nothing is reported. -/
theorem startEnded_agrees {report : Option Report} (stored : scene.statusCheck = .ok report)
    (held : progress.Held) (body : Body) (state : MainState) :
    (userActionUnlock.Upholds
        (((progress.after scene .statusCheck).checked scene report).withState state)
        fun _ middle => (reportStatus body).Upholds middle fun _ final => Agrees scene final) ↔
      ∀ told, report = some told → Reported told.status state := by
  have heldAfter : (((progress.after scene .statusCheck).checked scene report).withState
      state).Held := by simpa [Progress.Held] using held
  rw [closing_agrees heldAfter, startWritten_agrees stored]

/-- A start agrees after its status check if the report is the one of its end. -/
theorem finishStart_agrees (held : progress.Held) :
    ((finishStart scene).Upholds progress fun _ final => Agrees scene final) ↔
      StartReportedAsEnded scene := by
  have heldAfter : (progress.after scene (.tabadmin .start)).Held := by
    simpa [Progress.Held] using held
  unfold finishStart StartReportedAsEnded
  simp only [Script.upholds_bind, upholds_perform, upholds_checkStatus]
  refine forall₂_congr fun body _ => ?_
  by_cases failed : ((body "exit-status").getD (.number 1)).truthy = true
  · simp only [failed, if_true, Script.upholds_bind, upholds_gen, upholds_update]
    constructor
    · intro ends report stored told stopped
      have agrees := (startEnded_agrees stored heldAfter body .stopped).mp
        (ends (some report) stored told stopped)
      exact (reported_stopped_iff _).mp (agrees report rfl)
    · rintro reported report stored told stopped
      refine (startEnded_agrees stored heldAfter body .stopped).mpr ?_
      rintro given rfl
      exact (reported_stopped_iff _).mpr (reported given stored told stopped)
  · simp only [failed, Bool.false_eq_true, if_false, Script.upholds_bind, upholds_gen,
      upholds_update]
    constructor
    · intro ends report stored told
      have agrees := (startEnded_agrees stored heldAfter body .started).mp
        (ends (some report) stored told)
      exact (reported_started_iff _).mp (agrees report rfl)
    · rintro reported report stored told
      refine (startEnded_agrees stored heldAfter body .started).mpr ?_
      rintro given rfl
      exact (reported_started_iff _).mpr (reported given stored told)

/-- The start itself agrees if the maintenance server, where it runs, lets it go on. -/
theorem runStart_agrees (held : progress.Held) (board : progress.board = scene.board) :
    ((runStart scene command).Upholds progress fun _ final => Agrees scene final) ↔
      (UserCalm command → (scene.board.maintStarted = true → Replied (scene.maint .stop)) →
        StartReportedAsEnded scene) := by
  unfold runStart
  simp only [Script.upholds_bind, upholds_update, upholds_ack]
  refine upholds_user fun userid => ?_
  simp only [Script.upholds_get, Progress.withState, board]
  by_cases started : scene.board.maintStarted = true
  · simp only [started, if_true, Script.upholds_bind, upholds_maint, forall_true_left]
    constructor
    · rintro upholds ⟨⟨body, after⟩, told⟩
      exact (finishStart_agrees (by simpa [Progress.Held] using held)).mp (upholds body after told)
    · intro reported body after told
      exact (finishStart_agrees (by simpa [Progress.Held] using held)).mpr (reported ⟨_, told⟩)
  · simp only [started, Bool.false_eq_true, if_false, false_implies, forall_true_left]
    exact finishStart_agrees held

theorem doStart_agrees :
    Agreeing scene (doStart scene command) ↔
      (StartReached scene command → StartReportedAsEnded scene) := by
  unfold doStart
  by_cases usage : command.args = []
  · simp only [usage, ne_eq, not_true_eq_false, if_false]
    have locked : ∀ progress : Progress, progress.Working → progress.board = scene.board →
        (((startLocked scene command).Upholds progress fun _ final => Agrees scene final) ↔
          (Halted scene.board.mainState → scene.tableauStatus = .ok .stopped →
            UserCalm command → (scene.board.maintStarted = true → Replied (scene.maint .stop)) →
              StartReportedAsEnded scene)) := by
      rintro progress ⟨held, unchecked⟩ board
      unfold startLocked
      simp only [Script.upholds_bind, upholds_getState, board, Script.upholds_ite, ite_not]
      by_cases halted : Halted scene.board.mainState
      · simp only [halted, if_true, forall_true_left, Script.upholds_settle]
        cases scene.tableauStatus with
        | error failure => simp
        | ok status =>
          by_cases stopped : status = .stopped
          · simpa [stopped] using runStart_agrees held board
          · simpa [stopped] using refuse_agrees unchecked _ _
      · simpa [halted] using refuse_agrees unchecked _ _
    rw [underLock_agrees locked]
    constructor
    · exact fun agrees reached => agrees reached.agent reached.free reached.state reached.status
        reached.user reached.maint
    · exact fun agrees agent free state status user maint =>
        agrees ⟨usage, agent, free, state, status, user, maint⟩
  · rw [if_pos usage]
    exact iff_of_true (agrees_of_unchecked List.not_mem_nil) fun reached =>
      absurd reached.usage usage

/-! ## Before a stop or a restore -/

/-- A command that gives up has made no status check. -/
theorem giveUp_upholds {returned : PUnit → Progress → Prop}
    (unchecked : .statusCheck ∉ progress.actions)
    (gone : ∀ final : Progress, .statusCheck ∉ final.actions → returned ⟨⟩ final)
    (state : MainState) (body : Body) : (giveUp state body).Upholds progress returned := by
  unfold giveUp
  simp only [Script.upholds_bind, upholds_update, upholds_reportStatus, upholds_userActionUnlock]
  exact fun _ => gone _ unchecked

/-- What follows the license check meets its condition where the check passes. -/
theorem licenseCheck_agrees (working : progress.Working) {state : MainState}
    {returned : Bool → Progress → Prop} {calm : Prop}
    (goesOn : ∀ middle : Progress, middle.Working → (returned true middle ↔ calm))
    (gone : ∀ final : Progress, .statusCheck ∉ final.actions → returned false final) :
    (licenseCheck scene command state).Upholds progress returned ↔
      (LicensePasses scene command → calm) := by
  unfold licenseCheck LicensePasses
  cases command.nolicense with
  | true => simp [goesOn progress working]
  | false =>
    have workingAfter : (progress.after scene .license).Working := working.after (by decide)
    simp only [Bool.false_eq_true, if_false, Script.upholds_bind, upholds_perform, false_or]
    cases scene.license with
    | error failure => simp
    | ok body =>
      cases failed : body.failed with
      | true =>
        have ended : (giveUp state body).Upholds (progress.after scene .license)
            fun _ final => returned false final :=
          giveUp_upholds workingAfter.unchecked gone state body
        simpa [failed] using ended
      | false => simp [failed, goesOn _ workingAfter]

/-! ## Stop -/

variable (scene command)

/-- The backup before a stop or a restart is made, and its events are generated. -/
def BackupPasses (action : StopAction) : Prop :=
  Replied (scene.gen (.backup action.occasion .started)) ∧
    ∃ body, backupCmd scene = .ok body ∧
      Replied (scene.gen (.backup action.occasion (backupStage body))) ∧ body.failed = false

/-- The command gets as far as the stop of Tableau. -/
structure StopReached : Prop where
  usage : command.args = []
  user : UserCalm command
  agent : agentOf scene command = .ok none
  free : scene.busy = false
  state : Running scene.board.mainState
  status : ∃ status, scene.tableauStatus = .ok status ∧ (status = .running ∨ status = .degraded)
  license : LicensePasses scene command
  backup : command.nobackup = false → BackupPasses scene .stop

/-- The maintenance server is started after the stop. -/
def StartsMaint (body : Body) : Prop := body.failed = false ∧ command.nomaint = false

/-- The start of the maintenance server, where there is one, is answered, and the reply of
the stop takes a text about its failure. -/
def MaintAnswered (body : Body) : Prop :=
  StartsMaint command body → ∃ maintBody started, scene.maint .start = .ok (maintBody, started) ∧
    (maintBody.failed = true → body.Extendable "info")

/-- A stop whose status check has stored a status, and whose event is generated, keeps the
agent. -/
def StopKeepsAgent : Prop :=
  ∀ body, scene.cliCmd .stop = .ok body → MaintAnswered scene command body →
    ∀ report, scene.statusCheck = .ok (some report) →
      (body.failed = false → Replied (scene.gen .stateStopped)) → report.status ≠ .unknown →
        scene.lost (.tabadmin .stop) = false ∧
        (StartsMaint command body → scene.lost (.maint .start) = false) ∧
        scene.lost .statusCheck = false

variable {scene command}

theorem backupBefore_agrees (working : progress.Working) {state : MainState} {action : StopAction}
    {returned : Bool → Progress → Prop} {calm : Prop}
    (goesOn : ∀ middle : Progress, middle.Working → (returned true middle ↔ calm))
    (gone : ∀ final : Progress, .statusCheck ∉ final.actions → returned false final) :
    (backupBefore scene action state).Upholds progress returned ↔
      (BackupPasses scene action → calm) := by
  have workingAfter : ((progress.withState action.backupState).after scene .backup).Working :=
    (working.withState _).after (by decide)
  unfold backupBefore BackupPasses
  simp only [Script.upholds_bind, upholds_update, upholds_gen, upholds_perform]
  rw [and_imp]
  refine imp_congr_right fun _ => ?_
  cases backupCmd scene with
  | error failure => simp
  | ok body =>
    simp only [Except.ok.injEq, forall_eq', exists_eq_left', and_imp]
    refine imp_congr_right fun _ => ?_
    cases failed : body.failed with
    | false => simp [goesOn _ workingAfter]
    | true =>
      simp only [if_true, Script.upholds_bind, Script.upholds_pure, Script.upholds_settle,
        Bool.true_eq_false, false_implies, iff_true]
      exact fun told _ => giveUp_upholds workingAfter.unchecked gone state told

/-- What comes before a stop meets the condition of what follows where it passes. -/
theorem preStop_agrees (working : progress.Working) (board : progress.board = scene.board)
    {returned : Bool → Progress → Prop} {calm : Prop}
    (goesOn : ∀ middle : Progress, middle.Working → (returned true middle ↔ calm))
    (gone : ∀ final : Progress, .statusCheck ∉ final.actions → returned false final) :
    (preStop scene command .stop).Upholds progress returned ↔
      (Running scene.board.mainState →
        (∃ status, scene.tableauStatus = .ok status ∧
          (status = .running ∨ status = .degraded)) →
        LicensePasses scene command → (command.nobackup = false → BackupPasses scene .stop) →
          calm) := by
  have refused : ∀ (errnum : ClientError) (message : String),
      (refuse errnum message).Upholds progress fun _ final => returned false final := by
    intro errnum message
    unfold refuse
    simp only [Script.upholds_bind, upholds_error, upholds_userActionUnlock]
    exact fun _ => gone _ working.unchecked
  have acknowledged : Progress.Working
      { progress with responses := progress.responses ++ [.ok] } :=
    ⟨working.held, working.unchecked⟩
  have good : StopAction.stop.GoodState scene.board.mainState ↔ Running scene.board.mainState := by
    simp [StopAction.GoodState]
  have checked : ((licenseCheck scene command scene.board.mainState).Upholds
      { progress with responses := progress.responses ++ [.ok] } fun go middle =>
        if go = true then
          if command.nobackup = true then returned true middle
          else (backupBefore scene .stop scene.board.mainState).Upholds middle returned
        else returned false middle) ↔
      (LicensePasses scene command → (command.nobackup = false → BackupPasses scene .stop) →
        calm) := by
    refine licenseCheck_agrees acknowledged (fun middle workingMiddle => ?_) fun final later => ?_
    · cases command.nobackup with
      | true => simpa using goesOn middle workingMiddle
      | false => simpa using backupBefore_agrees workingMiddle goesOn gone
    · simpa using gone final later
  unfold preStop
  simp only [Script.upholds_bind, upholds_getState, board, Script.upholds_ite,
    Script.upholds_pure, good, ite_not]
  by_cases running : Running scene.board.mainState
  · simp only [running, if_true, Script.upholds_settle, forall_true_left]
    cases scene.tableauStatus with
    | error failure => simp
    | ok status =>
      simp only [Except.ok.injEq, forall_eq', exists_eq_left', StopAction.GoodStatus]
      by_cases served : status = .running ∨ status = .degraded
      · have goodStatus : status = .running ∨ status = .degraded ∨
            StopAction.stop = .restart ∧ status = .stopped :=
          served.elim .inl fun degraded => .inr (.inl degraded)
        simp only [goodStatus, if_true, served, forall_true_left, upholds_ack]
        exact checked
      · have badStatus : ¬ (status = .running ∨ status = .degraded ∨
            StopAction.stop = .restart ∧ status = .stopped) := by simpa using served
        simp only [badStatus, if_false, served, false_implies, iff_true]
        exact refused _ _
  · simp only [running, if_false, false_implies, iff_true]
    exact refused _ _

/-- The start of the maintenance server keeps a row of the table unless it loses the agent,
and it leaves a failure a failure. -/
theorem startMaint_agrees (working : progress.Working) {body : Body}
    {returned : Body → Progress → Prop} {calm : Prop}
    (holds : ∀ told (middle : Progress), middle.Working → told.failed = body.failed →
      (Led scene.before82 middle.board.mainState ↔
        (StartsMaint command body → scene.lost (.maint .start) = false) ∧
          Led scene.before82 progress.board.mainState) → (returned told middle ↔ calm)) :
    (startMaint scene command body).Upholds progress returned ↔
      (MaintAnswered scene command body → calm) := by
  unfold startMaint MaintAnswered
  by_cases skipped : body.failed = true ∨ command.nomaint = true
  · have notStarted : ¬ StartsMaint command body := by
      rintro ⟨succeeded, wanted⟩
      simp [succeeded, wanted] at skipped
    simp only [if_pos skipped, Script.upholds_pure, notStarted, false_implies, forall_true_left]
    exact holds body progress working rfl (by simp [notStarted])
  · have starts : StartsMaint command body := by simpa [StartsMaint] using skipped
    have workingAfter : (progress.after scene (.maint .start)).Working := working.after (by decide)
    have same : ∀ told (started : Bool), told.failed = body.failed →
        (returned told { progress.after scene (.maint .start) with
          board := { (progress.after scene (.maint .start)).board with
            maintStarted := started } } ↔ calm) := by
      intro told started failed
      refine holds told _ ⟨workingAfter.held, workingAfter.unchecked⟩ failed ?_
      simpa [starts] using led_after progress (.maint .start)
    simp only [if_neg skipped, Script.upholds_bind, upholds_maint, starts, forall_true_left]
    cases scene.maint .start with
    | error failure => simp
    | ok reply =>
      obtain ⟨maintBody, started⟩ := reply
      cases failed : maintBody.failed with
      | false => simpa [failed] using same body started rfl
      | true =>
        have extended : ∀ told, body.extend "info" "\nmaint start failed" "maint start failed" =
            .ok told → told.failed = body.failed := fun told extended =>
          congrArg Option.isSome (extend_other (by decide) extended)
        have each : (∀ told, body.extend "info" "\nmaint start failed" "maint start failed" =
            .ok told → returned told { progress.after scene (.maint .start) with
              board := { (progress.after scene (.maint .start)).board with
                maintStarted := started } }) ↔ (body.Extendable "info" → calm) := by
          rw [← extend_replied]
          refine Iff.trans (forall₂_congr fun told longer => ?_) exists_imp.symm
          exact same told started (extended told longer)
        simpa [failed, Script.upholds_settle] using each

/-- A stop agrees if the agent is not lost on the way. -/
theorem runStop_agrees (working : progress.Working) :
    ((runStop scene command).Upholds progress fun _ final => Agrees scene final) ↔
      StopKeepsAgent scene command := by
  have workingAfter : ((progress.withState .stopping).after scene (.tabadmin .stop)).Working :=
    (working.withState _).after (by decide)
  unfold runStop StopKeepsAgent
  simp only [Script.upholds_bind, upholds_update, upholds_perform]
  refine forall₂_congr fun body _ => ?_
  refine startMaint_agrees workingAfter fun told middle workingMiddle same led => ?_
  rw [led_after, Progress.withState_mainState] at led
  have closes : ∀ last : Progress, last.Held →
      (((do
        if ¬ told.failed then
          gen scene .stateStopped
        userActionUnlock
        reportStatus told : Handling PUnit).Upholds last fun _ final => Agrees scene final) ↔
        ((body.failed = false → Replied (scene.gen .stateStopped)) → Agrees scene last)) := by
    intro last held
    rw [← same]
    cases told.failed with
    | true => simpa using closing_agrees held told
    | false => simpa using imp_congr_right fun _ => closing_agrees held told
  rw [checkStatus_last workingMiddle.held closes]
  refine forall₂_congr fun report _ => forall₂_congr fun _ _ => ?_
  have stopping : Led scene.before82 .stopping := led_stopping
  rw [led]
  constructor
  · rintro ⟨checked, started, stopped, -⟩
    exact ⟨stopped, started, checked⟩
  · rintro ⟨stopped, started, checked⟩
    exact ⟨checked, started, stopped, stopping⟩

theorem doStop_agrees :
    Agreeing scene (doStop scene command) ↔
      (StopReached scene command → StopKeepsAgent scene command) := by
  have unchecked : .statusCheck ∉ scene.start.actions := List.not_mem_nil
  unfold doStop
  by_cases usage : command.args = []
  · simp only [usage, ne_eq, not_true_eq_false, if_false]
    have locked : ∀ progress : Progress, progress.Working → progress.board = scene.board →
        (((do if ← preStop scene command .stop then runStop scene command :
          Handling PUnit).Upholds progress fun _ final => Agrees scene final) ↔
          (Running scene.board.mainState →
            (∃ status, scene.tableauStatus = .ok status ∧
              (status = .running ∨ status = .degraded)) →
            LicensePasses scene command →
            (command.nobackup = false → BackupPasses scene .stop) →
              StopKeepsAgent scene command)) := by
      intro progress working board
      rw [Script.upholds_bind]
      apply preStop_agrees working board
      · intro middle workingMiddle
        simpa using runStop_agrees workingMiddle
      · intro final later
        simpa using agrees_of_unchecked later
    unfold Agreeing
    rw [Script.upholds_bind]
    refine (upholds_user fun userid => underLock_agrees locked).trans ?_
    constructor
    · exact fun agrees reached => agrees reached.user reached.agent reached.free reached.state
        reached.status reached.license reached.backup
    · exact fun agrees user agent free state status license backup =>
        agrees ⟨usage, user, agent, free, state, status, license, backup⟩
  · rw [if_pos usage]
    exact iff_of_true (agrees_of_unchecked unchecked) fun reached => absurd reached.usage usage

end Palette.Commands
