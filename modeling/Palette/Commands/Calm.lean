import Palette.Commands.Robust

/-!
# When a command is robust

For each command the answers are named to which it is robust. A command that refuses, or
finds the lock taken, is robust if the main state it leaves as it was settles. Otherwise
every call that no handler guards must be answered.
-/

namespace Palette.Commands

open Palette.Foundation Palette.Status

/-- A text can be added to the value. -/
def Value.Appendable : Value → Prop
  | .text _ | .list _ => True
  | _ => False

/-- A text can be added to the value of the key, if there is one. -/
def Body.Extendable (body : Body) (key : String) : Prop :=
  ∀ value, body key = some value → value.Appendable

theorem extend_replied {body : Body} {key suffix start : String} :
    Replied (body.extend key suffix start) ↔ body.Extendable key := by
  unfold Replied Body.extend Body.Extendable
  cases body key with
  | none => simp
  | some value =>
    cases value <;> simp [Value.append, Value.Appendable, bind, Except.bind, pure, Except.pure]

/-- What follows the addition of a text needs a value that takes it and its own
condition. -/
theorem completes_extend {progress : Progress} {body : Body} {key suffix start : String}
    {returned : Body → Progress → Prop} {calm : Prop}
    (holds : ∀ told, body.extend key suffix start = .ok told → (returned told progress ↔ calm)) :
    (Script.settle (body.extend key suffix start) : Handling Body).Completes progress returned ↔
      body.Extendable key ∧ calm := by
  rw [Script.completes_settle, ← extend_replied]
  constructor
  · rintro ⟨told, extended, returns⟩
    exact ⟨⟨told, extended⟩, (holds told extended).mp returns⟩
  · rintro ⟨⟨told, extended⟩, calm⟩
    exact ⟨told, extended, (holds told extended).mpr calm⟩

/-- A text that is added to another key does not make a reply a failure or a success. -/
theorem extend_other {body told : Body} {key other suffix start : String} (different : other ≠ key)
    (extended : body.extend key suffix start = .ok told) : told other = body other := by
  unfold Body.extend at extended
  cases found : body key with
  | none =>
    simp only [found, Except.ok.injEq] at extended
    rw [← extended, Body.set, Function.update_of_ne different]
  | some value =>
    simp only [found, bind_eq_ok, pure, Except.pure, Except.ok.injEq] at extended
    obtain ⟨longer, -, rfl⟩ := extended
    rw [Body.set, Function.update_of_ne different]

section Settles

variable {scene : Scene} {progress : Progress}

theorem settled_after (action : Action)
    (settled : Settled scene.before82 progress.board.mainState) :
    Settled scene.before82 (progress.after scene action).board.mainState := by
  rw [Progress.after_mainState]
  split
  · exact .inl id
  · exact settled

theorem settled_checked (report : Option Report)
    (settled : Settled scene.before82 progress.board.mainState) :
    Settled scene.before82 (progress.checked scene report).board.mainState := by
  rw [Progress.checked_mainState]
  cases report with
  | none => exact settled
  | some report => exact settled_reportedState report.status settled

/-- The main states in which a command goes on settle. -/
theorem settled_of_accepted {before82 : Bool} {state : MainState}
    (accepted : Running state ∨ Halted state) : Settled before82 state := by
  rcases accepted with (rfl | rfl) | rfl | rfl <;> exact .inl id

end Settles

/-- What follows an action of the agent needs an answer and its own condition. -/
theorem perform_completes {scene : Scene} {progress : Progress} {Reply : Type} {action : Action}
    {answer : Except Failure Reply} {returned : Reply → Progress → Prop} {calm : Prop}
    (holds : ∀ reply, answer = .ok reply →
      (returned reply (progress.after scene action) ↔ calm)) :
    (perform scene action answer).Completes progress returned ↔ Replied answer ∧ calm := by
  rw [completes_perform]
  constructor
  · rintro ⟨reply, answered, returns⟩
    exact ⟨⟨reply, answered⟩, (holds reply answered).mp returns⟩
  · rintro ⟨⟨reply, answered⟩, calm⟩
    exact ⟨reply, answered, (holds reply answered).mpr calm⟩

/-- What follows a status check has the lock and a main state that settles, if the check
is answered. -/
theorem checkStatus_completes {scene : Scene} {progress : Progress} (held : progress.Held)
    (settled : Settled scene.before82 progress.board.mainState)
    {returned : PUnit → Progress → Prop} {calm : Prop}
    (holds : ∀ middle : Progress, middle.Held → Settled scene.before82 middle.board.mainState →
      (returned ⟨⟩ middle ↔ calm)) :
    (checkStatusWithConnection scene).Completes progress returned ↔
      Replied scene.statusCheck ∧ calm := by
  rw [completes_checkStatus]
  have after : ∀ report, returned ⟨⟩ ((progress.after scene .statusCheck).checked scene report) ↔
      calm := fun report =>
    holds _ (by simpa [Progress.Held] using held) (settled_checked report (settled_after _ settled))
  simp only [after, Replied, exists_and_right]

/-- A command that gives the lock back and reports leaves things as it should. -/
theorem closing_left {scene : Scene} {progress : Progress} (held : progress.Held)
    (settled : Settled scene.before82 progress.board.mainState) (body : Body) :
    userActionUnlock.Completes progress fun _ middle =>
      (reportStatus body).Completes middle fun _ final => Left scene final := by
  obtain ⟨acquired, released⟩ := held
  simp [Left, acquired, released, settled]

variable (scene : Scene) (command : Command)

/-! ## Logs and cleanup -/

/-- The condition of an action that keeps the main state: it goes on where Tableau is
running or stopped. -/
def StateCalm (calm : Prop) : Prop :=
  if Running scene.board.mainState ∨ Halted scene.board.mainState then calm
  else Settled scene.before82 scene.board.mainState

variable {scene command}

theorem underState_left {progress : Progress} (held : progress.Held)
    (board : progress.board = scene.board) {whileRunning whileHalted : MainState}
    {work : Handling Body} {calm : Prop}
    (works : ∀ (middle : Progress) (returned : Body → Progress → Prop), middle.Held →
      (∀ body final, final.Held → returned body final) → (work.Completes middle returned ↔ calm)) :
    (underState whileRunning whileHalted work).Completes progress (fun _ final => Left scene final) ↔
      StateCalm scene calm := by
  unfold underState StateCalm
  simp only [Script.completes_bind, completes_getState, Script.completes_ite, board]
  by_cases accepted : Running scene.board.mainState ∨ Halted scene.board.mainState
  · simp only [if_pos accepted, completes_update, completes_reportStatus]
    refine works _ _ held ?_
    rintro body final ⟨acquired, released⟩
    simp [Left, acquired, released, settled_of_accepted accepted]
  · simp only [if_neg accepted]
    rw [refuse_left held, board]

theorem completes_performed {Reply : Type} {action : Action} {answer : Except Failure Reply}
    {progress : Progress} (held : progress.Held) {returned : Reply → Progress → Prop}
    (holds : ∀ reply final, final.Held → returned reply final) :
    (perform scene action answer).Completes progress returned ↔ Replied answer := by
  rw [completes_perform]
  refine exists_congr fun reply => and_iff_left (holds _ _ ?_)
  simpa [Progress.Held] using held

variable (scene command)

/-- The user's option, if there is one, is a number. -/
def UserCalm : Prop := command.userid ≠ some none

/-- When the collection of the logs is robust. -/
def ZiplogsCalm : Prop :=
  if command.args ≠ [] then Settled scene.before82 scene.board.mainState
  else
    UserCalm command ∧
      if command.userid = none ∧ scene.ziplogAutoRetainCount = 0 then
        Settled scene.before82 scene.board.mainState
      else LockCalm scene command (StateCalm scene (ZiplogsReplies scene))

/-- When the cleanup is robust. -/
def CleanupCalm : Prop :=
  if command.args ≠ [] then Settled scene.before82 scene.board.mainState
  else LockCalm scene command (StateCalm scene (UserCalm command ∧ CleanupReplies scene))

variable {scene command}

theorem user_replied : Replied command.user ↔ UserCalm command := by
  unfold Replied Command.user UserCalm
  rcases command.userid with _ | _ | userid <;> simp

theorem user_eq_none {userid : Option Int} (found : command.user = .ok userid) :
    userid = none ↔ command.userid = none := by
  unfold Command.user at found
  rcases given : command.userid with _ | _ | number
  · simp_all
  · simp [given] at found
  · simp only [given, Except.ok.injEq] at found
    simp [← found]

/-- What follows the reading of the user's option needs a number and its own condition. -/
theorem completes_user {progress : Progress} {returned : Option Int → Progress → Prop}
    {calm : Prop} (holds : ∀ userid, command.user = .ok userid →
      (returned userid progress ↔ calm)) :
    (Script.settle command.user : Handling (Option Int)).Completes progress returned ↔
      UserCalm command ∧ calm := by
  rw [Script.completes_settle, ← user_replied]
  constructor
  · rintro ⟨userid, found, returns⟩
    exact ⟨⟨userid, found⟩, (holds userid found).mp returns⟩
  · rintro ⟨⟨userid, found⟩, calm⟩
    exact ⟨userid, found, (holds userid found).mpr calm⟩

theorem doCleanup_robust : Robust scene (doCleanup scene command) ↔ CleanupCalm scene command := by
  unfold doCleanup CleanupCalm
  by_cases usage : command.args = []
  · simp only [usage, ne_eq, not_true_eq_false, if_false]
    apply underLock_robust
    intro progress held board
    apply underState_left held board
    intro middle returned heldMiddle holds
    simp only [Script.completes_bind, completes_ack]
    refine completes_user fun userid _ => ?_
    rw [← cleanupCmd_replied]
    refine completes_performed ?_ holds
    exact heldMiddle
  · simp [usage, Robust, Left, Scene.start]

theorem doZiplogs_robust : Robust scene (doZiplogs scene command) ↔ ZiplogsCalm scene command := by
  unfold doZiplogs ZiplogsCalm
  by_cases usage : command.args = []
  · simp only [usage, ne_eq, not_true_eq_false, if_false]
    unfold Robust
    rw [Script.completes_bind]
    refine completes_user fun userid found => ?_
    simp only [user_eq_none found]
    by_cases disabled : command.userid = none ∧ scene.ziplogAutoRetainCount = 0
    · simp [disabled, Left, Scene.start]
    · simp only [if_neg disabled]
      apply underLock_robust
      intro progress held board
      apply underState_left held board
      intro middle returned heldMiddle holds
      simp only [Script.completes_bind, completes_ack]
      rw [← ziplogsCmd_replied]
      refine completes_performed ?_ holds
      exact heldMiddle
  · simp [usage, Robust, Left, Scene.start]

/-! ## Start -/

variable (scene command)

/-- The answers to the start itself: a reply without an exit status counts as a failure,
and the events of the failure or of the success are generated. -/
def StartFinishes : Prop :=
  ∃ body, scene.cliCmd .start = .ok body ∧ Replied scene.statusCheck ∧
    if ((body "exit-status").getD (.number 1)).truthy then
      Replied (scene.gen .tableauStartFailed) ∧ Replied (scene.gen .stateStopped)
    else Replied (scene.gen .stateStarted)

/-- When `do_start` is robust. -/
def StartCalm : Prop :=
  if command.args ≠ [] then Settled scene.before82 scene.board.mainState
  else
    LockCalm scene command
      (if Halted scene.board.mainState then
        ∃ status, scene.tableauStatus = .ok status ∧ (status = .stopped →
          UserCalm command ∧ (scene.board.maintStarted = true → Replied (scene.maint .stop)) ∧
            StartFinishes scene)
      else Settled scene.before82 scene.board.mainState)

variable {scene command}

theorem finishStart_left {progress : Progress} (held : progress.Held) :
    (finishStart scene).Completes progress (fun _ final => Left scene final) ↔
      StartFinishes scene := by
  obtain ⟨acquired, released⟩ := held
  unfold finishStart StartFinishes
  simp only [Script.completes_bind, completes_perform, completes_checkStatus]
  refine exists_congr fun body => and_congr_right fun _ => ?_
  have stopped : Settled scene.before82 .stopped := .inl id
  have started : Settled scene.before82 .started := .inl id
  by_cases failed : ((body "exit-status").getD (.number 1)).truthy = true
  · simp [failed, Left, acquired, released, stopped, Replied]
  · simp [failed, Left, acquired, released, started, Replied]

theorem runStart_left {progress : Progress} (held : progress.Held)
    (board : progress.board = scene.board) :
    (runStart scene command).Completes progress (fun _ final => Left scene final) ↔
      UserCalm command ∧ (scene.board.maintStarted = true → Replied (scene.maint .stop)) ∧
        StartFinishes scene := by
  unfold runStart
  simp only [Script.completes_bind, completes_update, completes_ack]
  refine completes_user fun userid _ => ?_
  simp only [Script.completes_get, Progress.withState, board]
  by_cases started : scene.board.maintStarted = true
  · simp only [started, if_true, Script.completes_bind, completes_maint, forall_true_left]
    constructor
    · rintro ⟨body, after, told, finishes⟩
      exact ⟨⟨_, told⟩, (finishStart_left (by simpa [Progress.Held] using held)).mp finishes⟩
    · rintro ⟨⟨⟨body, after⟩, told⟩, finishes⟩
      exact ⟨body, after, told,
        (finishStart_left (by simpa [Progress.Held] using held)).mpr finishes⟩
  · simp only [started, Bool.false_eq_true, if_false, false_implies, true_and]
    refine finishStart_left ?_
    exact held

theorem doStart_robust : Robust scene (doStart scene command) ↔ StartCalm scene command := by
  unfold doStart StartCalm
  by_cases usage : command.args = []
  · simp only [usage, ne_eq, not_true_eq_false, if_false]
    apply underLock_robust
    intro progress held board
    unfold startLocked
    simp only [Script.completes_bind, completes_getState, board, Script.completes_ite]
    by_cases halted : Halted scene.board.mainState
    · simp only [halted, not_true_eq_false, if_false, if_true, Script.completes_settle]
      refine exists_congr fun status => and_congr_right fun _ => ?_
      by_cases stopped : status = .stopped
      · simp only [stopped, ne_eq, not_true_eq_false, if_false, forall_true_left]
        exact runStart_left held board
      · simp only [stopped, ne_eq, not_false_eq_true, if_true, false_implies, iff_true]
        rw [refuse_left held, board]
        exact settled_of_accepted (.inr halted)
    · simp only [halted, not_false_eq_true, if_true, if_false]
      rw [refuse_left held, board]
  · simp [usage, Robust, Left, Scene.start]

/-! ## Stop and restart -/

variable (scene command)

/-- The license check, where one is made, goes well. -/
def LicensePasses : Prop :=
  command.nolicense = true ∨ ∃ body, scene.license = .ok body ∧ body.failed = false

/-- When what comes before a stop or a restart is robust: the license check and the
backup are answered, where they are asked for, and what follows a good one meets its own
condition. Nothing catches what a backup raises. -/
def PreStopCalm (action : StopAction) (calm : Prop) : Prop :=
  if action.GoodState scene.board.mainState then
    ∃ status, scene.tableauStatus = .ok status ∧ (action.GoodStatus status →
      (command.nolicense = false → Replied scene.license) ∧
      (LicensePasses scene command →
        if command.nobackup then calm
        else
          Replied (scene.gen (.backup action.occasion .started)) ∧
          (∀ failure, ¬ BackupRaises scene failure) ∧
          ∀ body, backupCmd scene = .ok body →
            Replied (scene.gen (.backup action.occasion (backupStage body))) ∧
            (body.failed = false → calm)))
  else Settled scene.before82 scene.board.mainState

variable {scene command}

/-- After a failure met before the action the command leaves things as it should. -/
theorem giveUp_left {progress : Progress} (held : progress.Held) {state : MainState}
    (settled : Settled scene.before82 state) (body : Body) :
    (giveUp state body).Completes progress (fun _ final => Left scene final) := by
  obtain ⟨acquired, released⟩ := held
  unfold giveUp
  simp [Left, acquired, released, settled]

/-- What follows the license check meets its condition where the check passes. -/
theorem licenseCheck_completes {progress : Progress} (held : progress.Held) {state : MainState}
    (settled : Settled scene.before82 state) {returned : Bool → Progress → Prop} {calm : Prop}
    (goesOn : ∀ middle : Progress, middle.Held → (returned true middle ↔ calm))
    (givesUp : ∀ middle : Progress, Left scene middle → returned false middle) :
    (licenseCheck scene command state).Completes progress returned ↔
      (command.nolicense = false → Replied scene.license) ∧
        (LicensePasses scene command → calm) := by
  unfold licenseCheck LicensePasses
  cases command.nolicense with
  | true => simp [goesOn progress held]
  | false =>
    have heldAfter : (progress.after scene .license).Held := by simpa [Progress.Held] using held
    simp only [Bool.false_eq_true, if_false, Script.completes_bind, completes_perform,
      forall_true_left, false_or]
    cases scene.license with
    | error failure => simp [Replied]
    | ok body =>
      cases failed : body.failed with
      | true =>
        have left := (giveUp_left heldAfter settled body).mono
          (fun _ middle left => givesUp middle left) fun _ _ raised => raised
        have completes : (giveUp state body).Completes (progress.after scene .license)
            (fun _ middle => returned false middle) := left
        simp [failed, Replied, completes]
      | false => simp [failed, Replied, goesOn _ heldAfter]

/-- What follows the backup before a stop or a restart meets its condition where the
backup succeeds. -/
theorem backupBefore_completes {progress : Progress} (held : progress.Held) {state : MainState}
    (settled : Settled scene.before82 state) {action : StopAction}
    {returned : Bool → Progress → Prop} {calm : Prop}
    (goesOn : ∀ middle : Progress, middle.Held → (returned true middle ↔ calm))
    (givesUp : ∀ middle : Progress, Left scene middle → returned false middle) :
    (backupBefore scene action state).Completes progress returned ↔
      Replied (scene.gen (.backup action.occasion .started)) ∧
        (∀ failure, ¬ BackupRaises scene failure) ∧
        ∀ body, backupCmd scene = .ok body →
          Replied (scene.gen (.backup action.occasion (backupStage body))) ∧
          (body.failed = false → calm) := by
  have heldAfter : ((progress.withState action.backupState).after scene .backup).Held := by
    simpa [Progress.Held] using held
  unfold backupBefore
  simp only [Script.completes_bind, completes_update, completes_gen, completes_perform,
    ← backupCmd_error_iff]
  refine and_congr_right fun _ => ?_
  cases replied : backupCmd scene with
  | error failure => simp
  | ok body =>
    simp only [reduceCtorEq, not_false_eq_true, implies_true, true_and, Except.ok.injEq,
      exists_eq_left', forall_eq']
    refine and_congr_right fun _ => ?_
    cases failed : body.failed with
    | false => simp [goesOn _ heldAfter]
    | true =>
      have extendable : body.Extendable "info" := by
        rcases (backupCmd_reply replied).1 with nothing | ⟨info, told⟩
        · intro value found
          simp [nothing] at found
        · intro value found
          obtain rfl := Option.some.inj (told.symm.trans found)
          trivial
      simp only [if_true, Script.completes_bind, Script.completes_pure, Bool.true_eq_false,
        false_implies, iff_true]
      refine (completes_extend fun told _ => ?_).mpr ⟨extendable, trivial⟩
      exact iff_of_true ((giveUp_left heldAfter settled told).mono
        (fun _ middle left => givesUp middle left) fun _ _ raised => raised) trivial

theorem preStop_completes {progress : Progress} (held : progress.Held)
    (board : progress.board = scene.board) {action : StopAction}
    {returned : Bool → Progress → Prop} {calm : Prop}
    (goesOn : ∀ middle : Progress, middle.Held → (returned true middle ↔ calm))
    (givesUp : ∀ middle : Progress, returned false middle ↔ Left scene middle) :
    (preStop scene command action).Completes progress returned ↔
      PreStopCalm scene command action calm := by
  have refused : ∀ {errnum : ClientError} {message : String} {middle : Progress},
      middle.Held → middle.board = scene.board →
      ((refuse errnum message).Completes middle (fun _ final => returned false final) ↔
        Settled scene.before82 scene.board.mainState) := by
    intro errnum message middle heldMiddle same
    simp only [givesUp]
    rw [refuse_left heldMiddle, same]
  unfold preStop PreStopCalm
  simp only [Script.completes_bind, completes_getState, Script.completes_ite, board,
    Script.completes_pure, ite_not]
  by_cases good : action.GoodState scene.board.mainState
  · have settled : Settled scene.before82 scene.board.mainState := by
      refine settled_of_accepted ?_
      rcases good with running | ⟨-, halted⟩
      · exact .inl running
      · exact .inr halted
    simp only [if_pos good, Script.completes_settle]
    refine exists_congr fun status => and_congr_right fun _ => ?_
    by_cases goodStatus : action.GoodStatus status
    · simp only [goodStatus, if_true, forall_true_left, completes_ack]
      refine licenseCheck_completes ?_ settled (fun middle heldMiddle => ?_)
        fun middle left => (givesUp middle).mpr left
      · exact held
      simp only [if_true]
      cases command.nobackup with
      | true => simpa using goesOn middle heldMiddle
      | false =>
        simpa using backupBefore_completes heldMiddle settled goesOn
          fun middle left => (givesUp middle).mpr left
    · simp only [goodStatus, if_false, false_implies, iff_true]
      exact (refused held board).mpr settled
  · simp only [if_neg good]
    exact refused held board

/-- A command that stops or restarts Tableau is robust where what comes before is, and
what follows it. -/
theorem stopping_robust {usage : String} {action : StopAction} {run : Handling PUnit} {calm : Prop}
    (runs : ∀ progress : Progress, progress.Held →
      (run.Completes progress (fun _ final => Left scene final) ↔ calm)) :
    Robust scene (do
      if command.args ≠ [] then error .usage usage
      else
        let _ ← Script.settle command.user
        underLock scene command .busy "Busy with another user request" do
          if ← preStop scene command action then run) ↔
      if command.args ≠ [] then Settled scene.before82 scene.board.mainState
      else UserCalm command ∧ LockCalm scene command (PreStopCalm scene command action calm) := by
  by_cases usage : command.args = []
  · simp only [usage, ne_eq, not_true_eq_false, if_false]
    unfold Robust
    rw [Script.completes_bind]
    refine completes_user fun userid _ => ?_
    apply underLock_robust
    intro progress held board
    rw [Script.completes_bind]
    apply preStop_completes held board
    · intro middle heldMiddle
      simpa using runs middle heldMiddle
    · intro middle
      simp
  · simp [usage, Robust, Left, Scene.start]

variable (scene command)

/-- The answers to a restart. -/
def RestartReplies : Prop :=
  Replied (scene.gen (.restart .started)) ∧ ∃ body, scene.cliCmd .restart = .ok body ∧
    if body.failed then Replied (scene.gen (.restart .failed)) ∧ Replied scene.statusCheck
    else Replied (scene.gen (.restart .finished))

/-- When `do_restart` is robust. -/
def RestartCalm : Prop :=
  if command.args ≠ [] then Settled scene.before82 scene.board.mainState
  else
    UserCalm command ∧
      LockCalm scene command (PreStopCalm scene command .restart (RestartReplies scene))

/-- The answers to a stop: if the maintenance server does not start, the reply must take
a text about it. -/
def StopReplies : Prop :=
  ∃ body, scene.cliCmd .stop = .ok body ∧
    (body.failed = false → command.nomaint = false →
      ∃ maintBody started, scene.maint .start = .ok (maintBody, started) ∧
        (maintBody.failed = true → body.Extendable "info")) ∧
    Replied scene.statusCheck ∧ (body.failed = false → Replied (scene.gen .stateStopped))

/-- When `do_stop` is robust. -/
def StopCalm : Prop :=
  if command.args ≠ [] then Settled scene.before82 scene.board.mainState
  else
    UserCalm command ∧
      LockCalm scene command (PreStopCalm scene command .stop (StopReplies scene command))

variable {scene command}

theorem settled_restarting {before82 : Bool} : Settled before82 .restarting :=
  (settled_iff _ _).mpr (by simp [Stuck, transitions])

theorem settled_stopping {before82 : Bool} : Settled before82 .stopping :=
  (settled_iff _ _).mpr (by simp [Stuck, transitions])

theorem runRestart_left {progress : Progress} (held : progress.Held) :
    (runRestart scene).Completes progress (fun _ final => Left scene final) ↔
      RestartReplies scene := by
  unfold runRestart RestartReplies
  simp only [Script.completes_bind, completes_update, completes_gen, completes_perform]
  refine and_congr_right fun _ => exists_congr fun body => and_congr_right fun _ => ?_
  have heldAfter : ((progress.withState .restarting).after scene
      (.tabadmin .restart)).Held := by simpa [Progress.Held] using held
  cases body.failed with
  | true =>
    simp only [if_true, Script.completes_bind, completes_gen]
    refine and_congr_right fun _ => ?_
    refine (checkStatus_completes heldAfter (settled_after _ settled_restarting)
      fun middle heldMiddle settled => ?_).trans (and_iff_left trivial)
    exact iff_of_true (closing_left heldMiddle settled body) trivial
  | false =>
    simp only [Bool.false_eq_true, if_false, Script.completes_bind, completes_update,
      completes_gen]
    have started : Settled scene.before82 .started := .inl id
    refine and_iff_left (closing_left ?_ ?_ body)
    · simpa [Progress.Held] using heldAfter
    · exact started

theorem doRestart_robust : Robust scene (doRestart scene command) ↔ RestartCalm scene command :=
  stopping_robust fun _ => runRestart_left

/-- What follows the start of the maintenance server knows whether the stop failed. -/
theorem startMaint_completes {progress : Progress} (held : progress.Held)
    (settled : Settled scene.before82 progress.board.mainState) {body : Body}
    {returned : Body → Progress → Prop} {calm : Prop}
    (holds : ∀ told (middle : Progress), middle.Held →
      Settled scene.before82 middle.board.mainState → told.failed = body.failed →
      (returned told middle ↔ calm)) :
    (startMaint scene command body).Completes progress returned ↔
      (body.failed = false → command.nomaint = false →
        ∃ maintBody started, scene.maint .start = .ok (maintBody, started) ∧
          (maintBody.failed = true → body.Extendable "info")) ∧ calm := by
  unfold startMaint
  by_cases skipped : body.failed = true ∨ command.nomaint = true
  · have nothing : ∀ condition : Prop,
        (body.failed = false → command.nomaint = false → condition) := by
      intro condition succeeded wanted
      rcases skipped with failed | unwanted
      · exact absurd (failed.symm.trans succeeded) Bool.true_eq_false.mp
      · exact absurd (unwanted.symm.trans wanted) Bool.true_eq_false.mp
    simp only [if_pos skipped, Script.completes_pure]
    rw [holds body progress held settled rfl]
    exact (and_iff_right (nothing _)).symm
  · obtain ⟨succeeded, wanted⟩ := not_or.mp skipped
    simp only [Bool.not_eq_true] at succeeded wanted
    simp only [succeeded, wanted, Bool.false_eq_true, or_self, if_false, Script.completes_bind,
      completes_maint, forall_true_left, ← exists_and_right]
    refine exists_congr fun maintBody => exists_congr fun started => ?_
    rw [and_assoc]
    refine and_congr_right fun _ => ?_
    have same : ∀ told (middle : Progress), middle.Held →
        middle.board.mainState = (progress.after scene (.maint .start)).board.mainState →
        told.failed = body.failed → (returned told middle ↔ calm) := by
      intro told middle heldMiddle state failed
      refine holds told middle heldMiddle ?_ failed
      rw [state]
      exact settled_after _ settled
    have heldAfter : (progress.after scene (.maint .start)).Held := by
      simpa [Progress.Held] using held
    cases maintBody.failed with
    | true =>
      simp only [if_true, forall_true_left]
      refine completes_extend fun told extended => same told _ heldAfter rfl ?_
      exact congrArg Option.isSome (extend_other (by decide) extended)
    | false =>
      simp only [Bool.false_eq_true, if_false, Script.completes_pure, false_implies, true_and]
      exact same body _ heldAfter rfl rfl

theorem runStop_left {progress : Progress} (held : progress.Held) :
    (runStop scene command).Completes progress (fun _ final => Left scene final) ↔
      StopReplies scene command := by
  unfold runStop StopReplies
  simp only [Script.completes_bind, completes_update, completes_perform]
  refine exists_congr fun body => and_congr_right fun _ => ?_
  refine startMaint_completes ?_ (settled_after _ settled_stopping)
    fun told middle heldMiddle settled same => ?_
  · simpa [Progress.Held] using held
  refine checkStatus_completes heldMiddle settled fun last heldLast settledLast => ?_
  rw [same]
  cases body.failed with
  | true => simpa using closing_left heldLast settledLast told
  | false => simpa using fun _ => closing_left heldLast settledLast told

theorem doStop_robust : Robust scene (doStop scene command) ↔ StopCalm scene command :=
  stopping_robust fun _ => runStop_left

/-! ## Backup -/

variable (scene command)

/-- Who asked for a backup. -/
def askedBy : Occasion := if command.userid = none then .scheduled else .user

/-- The answers to a backup: its own exceptions are all caught, old backups are rotated,
the stored file is found, and the events are generated. -/
def BackupReplies (occasion : Occasion) : Prop :=
  Replied (scene.gen (.backup occasion .started)) ∧ Replied scene.rotate ∧
    (∀ failure, BackupRaises scene failure →
      failure.isStandardError = true ∧ Replied (scene.gen (.backup occasion .failed))) ∧
    ∀ body, backupCmd scene = .ok body →
      Replied (scene.gen (.backup occasion (backupStage body))) ∧
        ∀ fileid, body.failed = false → body "fileid" = some (.number fileid) →
          ∃ entry, scene.fileById fileid = .ok (some entry)

/-- When `do_backup` is robust. -/
def BackupCalm : Prop :=
  if command.args ≠ [] then Settled scene.before82 scene.board.mainState
  else
    UserCalm command ∧
      if command.userid = none ∧ scene.backupAutoRetainCount = 0 then
        Settled scene.before82 scene.board.mainState
      else
        LockCalm scene command (StateCalm scene
          (∃ status, scene.tableauStatus = .ok status ∧
            (status ≠ .unknown → BackupReplies scene (askedBy command))))

variable {scene command}

theorem concludeBackup_left {progress : Progress} (held : progress.Held) {state : MainState}
    (settled : Settled scene.before82 state) {occasion : Occasion} {body : Body}
    (extendable : body.Extendable "info")
    (stored : body.failed = false → ∃ fileid, body "fileid" = some (.number fileid)) :
    (concludeBackup scene state occasion body).Completes progress
        (fun _ final => Left scene final) ↔
      Replied scene.rotate ∧ Replied (scene.gen (.backup occasion (backupStage body))) ∧
        ∀ fileid, body.failed = false → body "fileid" = some (.number fileid) →
          ∃ entry, scene.fileById fileid = .ok (some entry) := by
  obtain ⟨acquired, released⟩ := held
  unfold concludeBackup
  rw [Script.completes_bind]
  refine perform_completes fun rotateInfo _ => ?_
  rw [Script.completes_bind]
  refine (completes_extend fun told extended => ?_).trans (and_iff_right extendable)
  have kept : ∀ key, key ≠ "info" → told key = body key :=
    fun key different => extend_other different extended
  have failed : told.failed = body.failed := congrArg Option.isSome (kept _ (by decide))
  have stage : backupStage told = backupStage body := by
    unfold backupStage Body.has
    rw [failed, kept "copy-failed" (by decide)]
  rw [stage, kept "fileid" (by decide), failed]
  simp only [Script.completes_bind, completes_gen, completes_update, completes_userActionUnlock]
  refine and_congr_right fun _ => ?_
  refine (and_iff_right (by simp [acquired, released])).trans ?_
  cases succeeded : body.failed with
  | true => simp [Left, acquired, released, settled]
  | false =>
    obtain ⟨fileid, found⟩ := stored succeeded
    simp only [found, Bool.false_eq_true, if_false, Script.completes_bind,
      Script.completes_settle, forall_true_left, Option.some.injEq, Value.number.injEq,
      forall_eq']
    constructor
    · rintro ⟨entry, answered, returns⟩
      cases entry with
      | none => exact absurd returns (by simp)
      | some entry => exact ⟨entry, answered⟩
    · rintro ⟨entry, answered⟩
      exact ⟨some entry, answered, by simp [Left, acquired, released, settled]⟩

theorem runBackup_left {progress : Progress} (held : progress.Held) {state : MainState}
    (settled : Settled scene.before82 state) (userid : Option Int) :
    (runBackup scene state userid).Completes progress (fun _ final => Left scene final) ↔
      BackupReplies scene (if userid = none then .scheduled else .user) := by
  unfold runBackup BackupReplies
  simp only [Script.completes_bind, completes_gen, completes_ack, Script.completes_attempt,
    ends_perform, ← backupCmd_error_iff]
  refine and_congr_right fun _ => ?_
  have heldAfter : ∀ responses, ({ progress with responses := responses }.after scene
      .backup).Held := by simpa [Progress.Held] using held
  cases replied : backupCmd scene with
  | ok body =>
    obtain ⟨info, stored⟩ := backupCmd_reply replied
    have extendable : body.Extendable "info" := by
      intro value found
      rcases info with nothing | ⟨info, told⟩
      · simp [nothing] at found
      · obtain rfl := Option.some.inj (told.symm.trans found)
        trivial
    simp only [concludeBackup_left (heldAfter _) settled extendable stored]
    simp
  | error failure =>
    have extendable : Body.Extendable ((Body.error ("Backup Error. Traceback: " ++
        failure.message)).set "info" (.text "Failure")) "info" := by
      intro value found
      rw [Body.set, Function.update_self] at found
      obtain rfl := Option.some.inj found
      trivial
    have failed : Body.failed ((Body.error ("Backup Error. Traceback: " ++
        failure.message)).set "info" (.text "Failure")) = true := rfl
    simp only [concludeBackup_left (heldAfter _) settled extendable
      (fun succeeded => absurd (failed.symm.trans succeeded) Bool.true_eq_false.mp)]
    have stage : backupStage ((Body.error ("Backup Error. Traceback: " ++
        failure.message)).set "info" (.text "Failure")) = .failed := by
      unfold backupStage
      rw [failed]
      rfl
    simp only [stage, failed, reduceCtorEq, Except.error.injEq, forall_eq', false_implies,
      implies_true, and_true, Bool.true_eq_false]
    exact and_left_comm

theorem backupLocked_left {progress : Progress} (held : progress.Held)
    (board : progress.board = scene.board) (userid : Option Int) :
    (backupLocked scene userid).Completes progress (fun _ final => Left scene final) ↔
      StateCalm scene (∃ status, scene.tableauStatus = .ok status ∧
        (status ≠ .unknown →
          BackupReplies scene (if userid = none then .scheduled else .user))) := by
  unfold backupLocked StateCalm
  simp only [Script.completes_bind, completes_getState, board, Script.completes_ite, ite_not]
  by_cases accepted : Running scene.board.mainState ∨ Halted scene.board.mainState
  · simp only [if_pos accepted, Script.completes_settle]
    refine exists_congr fun status => and_congr_right fun _ => ?_
    have settled : Settled scene.before82 scene.board.mainState := settled_of_accepted accepted
    cases status with
    | running => simpa using runBackup_left (by exact held) settled userid
    | degraded => simpa using runBackup_left (by exact held) settled userid
    | stopped => simpa using runBackup_left (by exact held) settled userid
    | unknown => simpa [refuse_left held, board] using settled
  · simp only [if_neg accepted]
    rw [refuse_left held, board]

theorem doBackup_robust : Robust scene (doBackup scene command) ↔ BackupCalm scene command := by
  unfold doBackup BackupCalm
  by_cases usage : command.args = []
  · simp only [usage, ne_eq, not_true_eq_false, if_false]
    unfold Robust
    rw [Script.completes_bind]
    refine completes_user fun userid found => ?_
    simp only [user_eq_none found]
    by_cases disabled : command.userid = none ∧ scene.backupAutoRetainCount = 0
    · simp [disabled, Left, Scene.start]
    · simp only [if_neg disabled]
      apply underLock_robust
      intro progress held board
      have asked : askedBy command = if userid = none then Occasion.scheduled else .user := by
        unfold askedBy
        simp only [user_eq_none found]
      rw [asked]
      exact backupLocked_left held board userid
  · simp [usage, Robust, Left, Scene.start]

end Palette.Commands
