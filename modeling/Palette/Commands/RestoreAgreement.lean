import Palette.Commands.Agreement

/-!
# Restores that end in the reported state

A restore leaves the last word about the main state to its status check. After a failure
the check finds the state in which the command was accepted, and after a success the
state of starting, which a server before 8.2 is not led out of. A lost agent leaves a
state without a row of the table.
-/

namespace Palette.Commands

open Palette.Foundation Palette.Status

variable (scene : Scene) (command : Command)

/-- The command gets as far as the restore: it is accepted, and nothing before it fails. -/
structure RestoreAccepted : Prop where
  usage : ¬ (command.args.length = 0 ∨ 2 < command.args.length)
  agent : agentOf scene command = .ok none
  user : UserCalm command
  free : scene.busy = false
  state : Running scene.board.mainState ∨ Halted scene.board.mainState
  file : Replied scene.findFile
  status : ∃ status, scene.tableauStatus = .ok status ∧ status ≠ .unknown
  license : LicensePasses scene command
  backup : command.nobackup = false → BackupStored scene

/-- The agent is lost while the copy of the file is deleted. -/
def LostWithCopy : Prop := copies scene = true ∧ scene.lost .deleteFile = true

/-- The answers to the end of a restore that failed are such that its status check leads to
the reported state, where the state before it has a row. -/
def FailureLeads (row : Prop) : Prop :=
  ∀ report, scene.statusCheck = .ok (some report) → Replied (scene.gen (.restore .failed)) →
    report.status ≠ .unknown → scene.lost .statusCheck = false ∧ row

/-- The answers to the end of a restore that succeeded are such that its status check leads
to the reported state, where the state before it has a row. -/
def SuccessLeads (body : Body) (row : Prop) : Prop :=
  Replied scene.rotate → body.Extendable "stdout" →
    ∀ report, scene.statusCheck = .ok (some report) →
      Replied (scene.gen (.restore .finished)) → report.status ≠ .unknown →
        scene.lost .statusCheck = false ∧ scene.lost .rotate = false ∧ row

/-- The restore ends in the reported state, whether it succeeds, fails, or raises what is
caught: the agent is not lost in the end, and a server that was restored is not too old. -/
structure RestoreLeads : Prop where
  caught : ∀ failure, restoreOutcome scene = .error failure → failure.isStandardError = true →
    FailureLeads scene True
  failed : ∀ body, restoreOutcome scene = .ok body → body.failed = true →
    FailureLeads scene (¬ LostWithCopy scene)
  succeeded : ∀ body, restoreOutcome scene = .ok body → body.failed = false →
    SuccessLeads scene body (¬ LostWithCopy scene ∧
      scene.lost (.tabadmin .restore) = false ∧ scene.before82 = false)

variable {scene command} {progress : Progress}

theorem led_failedState {origState : MainState}
    (accepted : Running origState ∨ Halted origState) :
    Led scene.before82 (failedState scene origState) ↔ ¬ LostWithCopy scene := by
  unfold failedState LostWithCopy
  by_cases lost : copies scene = true ∧ scene.lost .deleteFile = true
  · rw [if_pos lost]
    exact iff_of_false not_led_disconnected (not_not_intro lost)
  · rw [if_neg lost]
    exact iff_of_true (led_of_accepted accepted) lost

theorem led_restoredState :
    Led scene.before82 (restoredState scene) ↔
      ¬ LostWithCopy scene ∧ scene.lost (.tabadmin .restore) = false ∧
        scene.before82 = false := by
  unfold restoredState LostWithCopy
  by_cases lost : copies scene = true ∧ scene.lost .deleteFile = true
  · rw [if_pos lost]
    exact iff_of_false not_led_disconnected fun kept => kept.1 lost
  · rw [if_neg lost]
    cases restored : scene.lost (.tabadmin .restore) with
    | true => simpa using not_led_disconnected
    | false => simpa [lost] using led_startingRestore

/-- The end of a failed restore leads to the reported state if the state before it has a
row. -/
theorem concludeRestore_failed_agrees (held : progress.Held) {body : Body}
    (failed : body.failed = true) :
    ((concludeRestore scene body).Upholds progress fun _ final => Agrees scene final) ↔
      FailureLeads scene (Led scene.before82 progress.board.mainState) := by
  have closes : ∀ last : Progress, last.Held →
      (((do
        gen scene (.restore .failed)
        userActionUnlock
        reportStatus body : Handling PUnit).Upholds last fun _ final => Agrees scene final) ↔
        (Replied (scene.gen (.restore .failed)) → Agrees scene last)) := by
    intro last heldLast
    simp only [Script.upholds_bind, upholds_gen]
    exact imp_congr_right fun _ => closing_agrees heldLast body
  unfold concludeRestore
  rw [if_pos failed, Script.upholds_bind]
  exact checkStatus_last held closes

/-- The end of a restore that succeeded leads to the reported state if the state before it
has a row. -/
theorem concludeRestore_succeeded_agrees (held : progress.Held) {body : Body}
    (succeeded : body.failed = false) :
    ((concludeRestore scene body).Upholds progress fun _ final => Agrees scene final) ↔
      SuccessLeads scene body (Led scene.before82 progress.board.mainState) := by
  have heldAfter : (progress.after scene .rotate).Held := by simpa [Progress.Held] using held
  have closes : ∀ (told : Body) (last : Progress), last.Held →
      (((do
        gen scene (.restore .finished)
        userActionUnlock
        reportStatus told : Handling PUnit).Upholds last fun _ final => Agrees scene final) ↔
        (Replied (scene.gen (.restore .finished)) → Agrees scene last)) := by
    intro told last heldLast
    simp only [Script.upholds_bind, upholds_gen]
    exact imp_congr_right fun _ => closing_agrees heldLast told
  have checked : ∀ told, ((checkStatusWithConnection scene).Upholds (progress.after scene .rotate)
      fun _ last => (do
        gen scene (.restore .finished)
        userActionUnlock
        reportStatus told : Handling PUnit).Upholds last fun _ final => Agrees scene final) ↔
      ∀ report, scene.statusCheck = .ok (some report) →
        Replied (scene.gen (.restore .finished)) → report.status ≠ .unknown →
          scene.lost .statusCheck = false ∧ scene.lost .rotate = false ∧
            Led scene.before82 progress.board.mainState := by
    intro told
    rw [checkStatus_last heldAfter (closes told)]
    simp only [led_after]
  have extended : ∀ (reply : String) (calm : Prop),
      (∀ told, body.extend "stdout" reply reply = .ok told → calm) ↔
        (body.Extendable "stdout" → calm) := by
    intro reply calm
    rw [← @extend_replied body "stdout" reply reply]
    exact exists_imp.symm
  unfold concludeRestore SuccessLeads
  rw [if_neg (by simp [succeeded]), Script.upholds_bind, upholds_perform]
  simp only [Script.upholds_bind, Script.upholds_settle] at checked ⊢
  simp only [checked, extended]
  exact exists_imp.symm

/-- The restore agrees if the answers to its end lead to the reported state. -/
theorem runRestore_agrees (held : progress.Held) {state : MainState}
    (accepted : Running state ∨ Halted state) :
    ((runRestore scene state).Upholds progress fun _ final => Agrees scene final) ↔
      RestoreLeads scene := by
  have concluded : ∀ body middle, restoreOutcome scene = .ok body →
      (middle.Held ∧ (body.failed = true → middle.board.mainState = failedState scene state) ∧
        (body.failed = false → middle.board.mainState = restoredState scene)) →
      (((concludeRestore scene body).Upholds middle fun _ final => Agrees scene final) ↔
        if body.failed then FailureLeads scene (¬ LostWithCopy scene)
        else SuccessLeads scene body (¬ LostWithCopy scene ∧
          scene.lost (.tabadmin .restore) = false ∧ scene.before82 = false)) := by
    rintro body middle - ⟨heldMiddle, whenFailed, whenRestored⟩
    cases failed : body.failed with
    | true =>
      rw [concludeRestore_failed_agrees heldMiddle failed, whenFailed failed,
        led_failedState accepted]
      rfl
    | false =>
      rw [concludeRestore_succeeded_agrees heldMiddle failed, whenRestored failed,
        led_restoredState]
      rfl
  have caught : ∀ failure middle, restoreOutcome scene = .error failure → middle.Held →
      ((failure.isStandardError = true → (do
          update state
          concludeRestore scene (.error ("Restore Error: Traceback: " ++ failure.message)) :
          Handling PUnit).Upholds middle fun _ final => Agrees scene final) ↔
        (failure.isStandardError = true → FailureLeads scene True)) := by
    intro failure middle _ heldMiddle
    refine imp_congr_right fun _ => ?_
    have heldBack : (middle.withState state).Held := heldMiddle
    rw [Script.upholds_bind, upholds_update, concludeRestore_failed_agrees heldBack rfl]
    have led : Led scene.before82 (middle.withState state).board.mainState ↔ True :=
      iff_of_true (led_of_accepted accepted) trivial
    rw [led]
  unfold runRestore
  rw [Script.upholds_bind, Script.upholds_attempt]
  refine (Script.ends_of_outcome (restoreCmd_ends held state) concluded caught).trans ?_
  cases outcome : restoreOutcome scene with
  | error failure =>
    constructor
    · rintro (⟨body, ⟨⟩, -⟩ | ⟨other, same, leads⟩)
      cases same
      constructor
      · rintro _ again standard
        obtain rfl := Except.error.inj (outcome.symm.trans again)
        exact leads standard
      · exact fun body again => absurd (outcome.symm.trans again) (by simp)
      · exact fun body again => absurd (outcome.symm.trans again) (by simp)
    · exact fun leads => .inr ⟨failure, rfl, leads.caught failure outcome⟩
  | ok body =>
    constructor
    · rintro (⟨other, same, leads⟩ | ⟨failure, ⟨⟩, -⟩)
      cases same
      constructor
      · exact fun failure again => absurd (outcome.symm.trans again) (by simp)
      · rintro _ again failed
        obtain rfl := Except.ok.inj (outcome.symm.trans again)
        rwa [if_pos failed] at leads
      · rintro _ again succeeded
        obtain rfl := Except.ok.inj (outcome.symm.trans again)
        rwa [if_neg (by simp [succeeded])] at leads
    · intro leads
      refine .inl ⟨body, rfl, ?_⟩
      cases failed : body.failed with
      | true => exact leads.failed body outcome failed
      | false => exact leads.succeeded body outcome failed

/-! ## Before a restore -/

/-- What follows a good backup before a restore meets its condition. -/
theorem concludeBackupBeforeRestore_agrees (working : progress.Working) (state : MainState)
    {body : Body} {returned : Bool → Progress → Prop} {calm : Prop}
    (goesOn : ∀ middle : Progress, middle.Working → (returned true middle ↔ calm))
    (gone : ∀ final : Progress, .statusCheck ∉ final.actions → returned false final) :
    (concludeBackupBeforeRestore scene state body).Upholds progress returned ↔
      (Replied (scene.gen (.backup .beforeRestore (backupStage body))) → body.failed = false →
        body.has "copy-failed" = false → calm) := by
  unfold concludeBackupBeforeRestore
  simp only [Script.upholds_bind, upholds_gen, Script.upholds_ite, Script.upholds_pure]
  refine imp_congr_right fun _ => ?_
  by_cases bad : body.failed = true ∨ body.has "copy-failed" = true
  · simp only [if_pos bad, upholds_reportStatus, upholds_update, upholds_userActionUnlock]
    refine iff_of_true (fun _ => gone _ working.unchecked) fun succeeded copied => ?_
    simp [succeeded, copied] at bad
  · have good : body.failed = false ∧ body.has "copy-failed" = false := by simpa using bad
    simpa [bad, good] using goesOn progress working

/-- What follows the backup before a restore meets its condition where the backup is stored. -/
theorem backupBeforeRestore_agrees (working : progress.Working) (state : MainState)
    {returned : Bool → Progress → Prop} {calm : Prop}
    (goesOn : ∀ middle : Progress, middle.Working → (returned true middle ↔ calm))
    (gone : ∀ final : Progress, .statusCheck ∉ final.actions → returned false final) :
    (backupBeforeRestore scene state).Upholds progress returned ↔ (BackupStored scene → calm) := by
  have workingAfter : (progress.after scene .backup).Working := working.after (by decide)
  unfold backupBeforeRestore BackupStored
  simp only [Script.upholds_bind, upholds_gen, Script.upholds_attempt, ends_perform]
  rw [and_imp]
  refine imp_congr_right fun _ => ?_
  cases replied : backupCmd scene with
  | ok body =>
    simp only [concludeBackupBeforeRestore_agrees workingAfter state goesOn gone]
    simp
  | error failure =>
    have failed : Body.failed (.error ("Backup For Restore Error. Traceback: " ++
        failure.message)) = true := rfl
    simp only [concludeBackupBeforeRestore_agrees workingAfter state goesOn gone, failed]
    simp

theorem acceptedRestore_agrees (working : progress.Working) {state : MainState}
    (accepted : Running state ∨ Halted state) :
    ((acceptedRestore scene command state).Upholds progress fun _ final => Agrees scene final) ↔
      (LicensePasses scene command → (command.nobackup = false → BackupStored scene) →
        RestoreLeads scene) := by
  have acknowledged : Progress.Working
      { progress with responses := progress.responses ++ [.ok] } :=
    ⟨working.held, working.unchecked⟩
  unfold acceptedRestore
  simp only [Script.upholds_bind, upholds_ack]
  apply licenseCheck_agrees acknowledged
  · intro middle workingMiddle
    cases command.nobackup with
    | true => simpa using runRestore_agrees workingMiddle.held accepted
    | false =>
      simp only [if_true, Bool.false_eq_true, if_false, Script.upholds_bind, forall_true_left]
      apply backupBeforeRestore_agrees workingMiddle
      · intro last workingLast
        simpa using runRestore_agrees workingLast.held accepted
      · intro final later
        simpa using agrees_of_unchecked later
  · intro final later
    simpa using agrees_of_unchecked later

theorem restoreLocked_agrees (working : progress.Working) (board : progress.board = scene.board) :
    ((restoreLocked scene command).Upholds progress fun _ final => Agrees scene final) ↔
      (Running scene.board.mainState ∨ Halted scene.board.mainState → Replied scene.findFile →
        (∃ status, scene.tableauStatus = .ok status ∧ status ≠ .unknown) →
        LicensePasses scene command → (command.nobackup = false → BackupStored scene) →
          RestoreLeads scene) := by
  have workingAfter : (progress.after scene .findFile).Working := working.after (by decide)
  unfold restoreLocked
  simp only [Script.upholds_bind, upholds_getState, board, Script.upholds_ite, ite_not]
  by_cases accepted : Running scene.board.mainState ∨ Halted scene.board.mainState
  · simp only [accepted, if_true, forall_true_left, Script.upholds_attempt, ends_perform]
    cases scene.findFile with
    | error failure =>
      refine iff_of_true (fun _ => ?_) (by simp [Replied])
      simp only [Script.upholds_bind, upholds_error, upholds_gen, upholds_userActionUnlock]
      exact fun _ _ => agrees_of_unchecked workingAfter.unchecked
    | ok found =>
      simp only [Script.upholds_bind, Script.upholds_settle, Replied, exists_const,
        forall_true_left]
      cases scene.tableauStatus with
      | error failure => simp
      | ok status =>
        have going : ∀ state, (((progress.after scene .findFile).withState state)).Working :=
          fun state => workingAfter.withState state
        cases status with
        | running => simpa using acceptedRestore_agrees (going _) accepted
        | degraded => simpa using acceptedRestore_agrees (going _) accepted
        | stopped => simpa using acceptedRestore_agrees (going _) accepted
        | unknown => simpa using refuse_agrees workingAfter.unchecked _ _
  · simp only [accepted, if_false, false_implies, iff_true]
    exact refuse_agrees working.unchecked _ _

theorem doRestore_agrees :
    Agreeing scene (doRestore scene command) ↔
      (RestoreAccepted scene command → RestoreLeads scene) := by
  have unchecked : .statusCheck ∉ scene.start.actions := List.not_mem_nil
  unfold doRestore Agreeing
  rw [Script.upholds_ite]
  by_cases usage : command.args.length = 0 ∨ 2 < command.args.length
  · rw [if_pos usage]
    exact iff_of_true (agrees_of_unchecked unchecked) fun reached => absurd usage reached.usage
  · rw [if_neg usage, Script.upholds_bind, getAgent_agrees unchecked]
    · have locked : Progress.Working
          { scene.start.noting (.tried true) with acquired := scene.start.acquired + 1 } :=
        ⟨⟨rfl, rfl⟩, unchecked⟩
      have locks : ∀ userid : Option Int,
          ((userActionLock scene).Upholds scene.start fun free middle =>
            (if free then restoreLocked scene command
              else error .busy "Busy with another user request").Upholds middle
              fun _ final => Agrees scene final) ↔
          (scene.busy = false → Running scene.board.mainState ∨ Halted scene.board.mainState →
            Replied scene.findFile →
            (∃ status, scene.tableauStatus = .ok status ∧ status ≠ .unknown) →
            LicensePasses scene command → (command.nobackup = false → BackupStored scene) →
              RestoreLeads scene) := by
        intro userid
        rw [userActionLock_agrees unchecked]
        · exact imp_congr_right fun _ => restoreLocked_agrees locked rfl
        · exact fun final later => agrees_of_unchecked later
      simp only [if_true, Script.upholds_bind]
      refine (imp_congr_right fun _ => upholds_user locks).trans ?_
      constructor
      · exact fun agrees reached => agrees reached.agent reached.user reached.free reached.state
          reached.file reached.status reached.license reached.backup
      · exact fun agrees agent user free state file status license backup =>
          agrees ⟨usage, agent, user, free, state, file, status, license, backup⟩
    · intro final later
      simpa using agrees_of_unchecked later

/-! ## The three commands -/

/-- The three commands end in the reported state, whenever they return after a status check
that has stored a status, if and only if these answers are such: a start is reported as it
ended; a stop does not lose the agent; a restore does not lose it in the end, and does not
succeed on a server before 8.2. -/
theorem commands_agree_iff (scene : Scene) (command : Command) :
    (Agreeing scene (doStart scene command) ↔
      (StartReached scene command → StartReportedAsEnded scene)) ∧
    (Agreeing scene (doStop scene command) ↔
      (StopReached scene command → StopKeepsAgent scene command)) ∧
    (Agreeing scene (doRestore scene command) ↔
      (RestoreAccepted scene command → RestoreLeads scene)) :=
  ⟨doStart_agrees, doStop_agrees, doRestore_agrees⟩

/-- A stopped server whose start exits with a failure, and then runs. -/
def failedStartScene : Scene :=
  { garbledScene with
    board := ⟨.stopped, false, none, false, []⟩
    tableauStatus := .ok .stopped
    cliCmd := fun _ => .ok (.single "exit-status" (.number 1)) }

/-- A failed start writes that Tableau is stopped over the report that it runs. The next
check with the same report announces an unexpected start. -/
theorem failed_start_disagrees :
    ¬ Agreeing failedStartScene (doStart failedStartScene plainCommand) ∧
      (handle failedStartScene (doStart failedStartScene plainCommand)).1 = .nextCommand ∧
      ∃ board, (handle failedStartScene (doStart failedStartScene plainCommand)).2.board = board ∧
        board.mainState = .stopped ∧ board.events = [] ∧
        (setMainState ⟨false, 60, 0, true⟩ board board.mainState .running).mainState = .started ∧
        (setMainState ⟨false, 60, 0, true⟩ board board.mainState .running).events =
          [.stateUnexpectedStateStarted] := by
  refine ⟨fun agreeing => ?_, rfl, _, rfl, rfl, rfl, rfl, rfl⟩
  have reported : Reported .running .stopped :=
    (agreeing ⟨.running, 60, 0, true⟩ (by decide) rfl).1
  exact absurd reported (by simp [Reported])

end Palette.Commands
