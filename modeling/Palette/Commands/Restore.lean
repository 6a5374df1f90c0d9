import Palette.Commands.Calm

/-!
# When a restore is robust

A restore first checks that its file is there, then the license and a backup go before
it. The file is copied to the primary where it has to be, Tableau is stopped where it was
reported running, and the restore is sent. After a good restore the main state says that
Tableau starts, and it is left to a status check to move it on.
-/

namespace Palette.Commands

open Palette.Foundation Palette.Status

variable {scene : Scene}

/-- The sending of the restore ends as its outcome says. Where it succeeds the main state
says that Tableau starts, unless the agent was lost. -/
theorem sendRestore_ends {progress : Progress} (held : progress.Held) :
    (sendRestore scene).Ends progress
      (fun body final => sendRestoreOutcome scene = .ok body ∧ final.Held ∧
        (body.failed = false → final.board.mainState =
          if scene.lost (.tabadmin .restore) then .disconnected else .startingRestore))
      fun failure final => sendRestoreOutcome scene = .error failure ∧ final.Held := by
  unfold sendRestore sendRestoreOutcome
  have heldAfter : ((progress.withState .startingRestore).after scene
      (.tabadmin .restore)).Held := by simpa [Progress.Held] using held
  simp only [Script.ends_bind, ends_update, Script.ends_attempt, ends_perform]
  cases scene.cliCmd .restore with
  | ok body => exact ⟨rfl, heldAfter, fun _ => Progress.after_mainState _ _ _⟩
  | error failure =>
    cases caught : failure.isHTTPException with
    | true =>
      simp only [caught, if_true]
      exact ⟨rfl, heldAfter, fun succeeded => absurd succeeded Bool.true_eq_false.mp⟩
    | false =>
      simp only [caught, Bool.false_eq_true, if_false]
      exact ⟨trivial, heldAfter⟩

/-- `restore_local` ends as its outcome says. -/
theorem restoreLocal_ends {progress : Progress} (held : progress.Held) :
    (restoreLocal scene).Ends progress
      (fun body final => restoreLocalOutcome scene = .ok body ∧ final.Held ∧
        (body.failed = false → final.board.mainState =
          if scene.lost (.tabadmin .restore) then .disconnected else .startingRestore))
      fun failure final => restoreLocalOutcome scene = .error failure ∧ final.Held := by
  unfold restoreLocal restoreLocalOutcome gen
  simp only [Script.ends_bind, Script.ends_ite]
  cases scene.gen (.restore .started) with
  | error failure => simp [bind, Except.bind, held]
  | ok told =>
    cases scene.statusAtRestore with
    | error failure => simp [bind, Except.bind, held]
    | ok status =>
      simp only [Script.ends_settle_ok, bind, Except.bind]
      by_cases running : status = .running
      · have heldAfter : ((progress.withState .stoppingRestore).after scene
            (.tabadmin .stop)).Held := by simpa [Progress.Held] using held
        simp only [running, if_true, ends_update, ends_perform]
        cases scene.cliCmd .stop with
        | error failure => simp [heldAfter]
        | ok stopBody =>
          cases failed : stopBody.failed with
          | true =>
            simp only [failed, if_true]
            exact ⟨rfl, heldAfter, fun succeeded =>
              absurd (failed.symm.trans succeeded) Bool.true_eq_false.mp⟩
          | false =>
            simp only [failed, Bool.false_eq_true, if_false]
            cases scene.gen .stateStopped with
            | error failure => exact ⟨rfl, heldAfter⟩
            | ok told => exact sendRestore_ends heldAfter
      · simp only [running, if_false]
        exact sendRestore_ends held

/-- The deletion of a copy ends as its outcome says, and may lose the agent. -/
theorem deleteCopy_ends {progress : Progress} (held : progress.Held) (copied : Bool)
    (restoreBody : Body) :
    (deleteCopy scene copied restoreBody).Ends progress
      (fun body final => deleteCopyOutcome scene copied restoreBody = .ok body ∧ final.Held ∧
        body.failed = restoreBody.failed ∧ final.board.mainState =
          if copied = true ∧ scene.lost .deleteFile = true then .disconnected
          else progress.board.mainState)
      fun failure final =>
        deleteCopyOutcome scene copied restoreBody = .error failure ∧ final.Held := by
  unfold deleteCopy deleteCopyOutcome
  cases copied with
  | false => simp [held]
  | true =>
    have heldAfter : (progress.after scene .deleteFile).Held := by
      simpa [Progress.Held] using held
    simp only [if_true, Script.ends_bind, ends_perform, true_and]
    cases scene.deleteVolFile with
    | error failure => simp [bind, Except.bind, heldAfter]
    | ok deleteBody =>
      simp only [bind, Except.bind]
      have state := Progress.after_mainState scene .deleteFile progress
      cases deleteBody "error" with
      | none => exact ⟨rfl, heldAfter, rfl, state⟩
      | some value =>
        cases value with
        | text message =>
          exact ⟨rfl, heldAfter,
            congrArg Option.isSome (Function.update_of_ne (by decide) _ _), state⟩
        | _ => exact ⟨rfl, heldAfter⟩

/-- The file of the restore is copied to the primary. -/
def copies (scene : Scene) : Bool :=
  match scene.getFile with
  | .ok copied => copied
  | .error _ => false

/-- The main state after a restore that succeeded. -/
def restoredState (scene : Scene) : MainState :=
  if copies scene = true ∧ scene.lost .deleteFile = true then .disconnected
  else if scene.lost (.tabadmin .restore) = true then .disconnected
  else .startingRestore

/-- The main state after a restore that failed: the one that was found, unless the agent is
lost while the copy of the file is deleted. -/
def failedState (scene : Scene) (origState : MainState) : MainState :=
  if copies scene = true ∧ scene.lost .deleteFile = true then .disconnected else origState

/-- `restore_cmd` ends as its outcome says. -/
theorem restoreCmd_ends {progress : Progress} (held : progress.Held) (origState : MainState) :
    (restoreCmd scene origState).Ends progress
      (fun body final => restoreOutcome scene = .ok body ∧ final.Held ∧
        (body.failed = true → final.board.mainState = failedState scene origState) ∧
        (body.failed = false → final.board.mainState = restoredState scene))
      fun failure final => restoreOutcome scene = .error failure ∧ final.Held := by
  unfold restoreCmd restoreOutcome restoredState failedState copies
  have heldAfter : (progress.after scene .getFile).Held := by
    simpa [Progress.Held] using held
  simp only [Script.ends_bind, Script.ends_attempt, ends_perform]
  cases scene.getFile with
  | error failure =>
    cases caught : failure.isIOError with
    | true =>
      simp only [caught, if_true]
      exact ⟨rfl, heldAfter, fun _ => rfl,
        fun succeeded => absurd succeeded Bool.true_eq_false.mp⟩
    | false =>
      simp only [caught, Bool.false_eq_true, if_false]
      exact ⟨trivial, heldAfter⟩
  | ok copied =>
    refine (restoreLocal_ends heldAfter).mono ?_ ?_
    · rintro body middle ⟨restored, heldMiddle, state⟩
      simp only [restored, bind, Except.bind]
      cases failed : body.failed with
      | true =>
        simp only [if_true]
        have heldBack : (middle.withState origState).Held := heldMiddle
        refine (deleteCopy_ends heldBack copied body).mono ?_ ?_
        · rintro told final ⟨deleted, heldFinal, same, left⟩
          refine ⟨deleted, heldFinal, fun _ => left, fun succeeded => ?_⟩
          · exact absurd ((same.trans failed).symm.trans succeeded) Bool.true_eq_false.mp
        · exact fun _ _ raised => raised
      | false =>
        simp only [Bool.false_eq_true, if_false]
        refine (deleteCopy_ends heldMiddle copied body).mono ?_ ?_
        · rintro told final ⟨deleted, heldFinal, same, left⟩
          refine ⟨deleted, heldFinal, fun unsuccessful => ?_, fun _ => ?_⟩
          · exact absurd (unsuccessful.symm.trans (same.trans failed)) Bool.true_eq_false.mp
          · rw [left, state failed]
        · exact fun _ _ raised => raised
    · rintro failure final ⟨raised, heldFinal⟩
      exact ⟨by rw [raised]; rfl, heldFinal⟩

/-- A failed restore settles where the state that was found does. -/
theorem settled_failedState {origState : MainState} (settled : Settled scene.before82 origState) :
    Settled scene.before82 (failedState scene origState) := by
  unfold failedState
  split
  · exact .inl id
  · exact settled

/-! ## The end of a restore -/

variable (scene) (command : Command)

/-- The answers to the end of a restore that failed. -/
def RestoreFailureReplies : Prop :=
  Replied scene.statusCheck ∧ Replied (scene.gen (.restore .failed))

/-- The agent is lost after the restore has been sent. -/
def LostAfterRestore : Prop :=
  restoredState scene = .disconnected ∨ scene.lost .rotate = true ∨ scene.lost .statusCheck = true

/-- The answers to the end of a restore that succeeded. A server before 8.2 is left in a
state that no status check moves, unless the agent is lost. -/
def RestoreSuccessReplies (body : Body) : Prop :=
  Replied scene.rotate ∧ body.Extendable "stdout" ∧ Replied scene.statusCheck ∧
    Replied (scene.gen (.restore .finished)) ∧
    (scene.before82 = true → LostAfterRestore scene)

/-- The answers to a restore: its own exceptions are all caught. -/
def RestoreReplies : Prop :=
  (∀ failure, restoreOutcome scene = .error failure →
    failure.isStandardError = true ∧ RestoreFailureReplies scene) ∧
  ∀ body, restoreOutcome scene = .ok body →
    if body.failed then RestoreFailureReplies scene else RestoreSuccessReplies scene body

variable {scene command}

/-- A failed restore is concluded from a main state that settles. -/
theorem concludeRestore_failed {progress : Progress} (held : progress.Held)
    (settled : Settled scene.before82 progress.board.mainState) {body : Body}
    (failed : body.failed = true) :
    (concludeRestore scene body).Completes progress (fun _ final => Left scene final) ↔
      RestoreFailureReplies scene := by
  unfold concludeRestore RestoreFailureReplies
  simp only [failed, if_true]
  rw [Script.completes_bind]
  refine checkStatus_completes held settled fun middle heldMiddle settledMiddle => ?_
  rw [Script.completes_bind, completes_gen]
  refine and_iff_left ?_
  rw [Script.completes_bind]
  exact closing_left heldMiddle settledMiddle body

/-- A status check settles the state of starting after a restore if the server is not too
old. -/
theorem settled_startingRestore {progress : Progress}
    (starting : progress.board.mainState = .startingRestore) (report : Option Report) :
    Settled scene.before82 (progress.checked scene report).board.mainState ↔
      scene.before82 = false := by
  rw [Progress.checked_mainState, starting]
  cases old : scene.before82 with
  | false =>
    have settled : Settled false .startingRestore := by simp [settled_iff, Stuck, transitions]
    refine iff_of_true ?_ rfl
    cases report with
    | none => exact settled
    | some report => exact settled_reportedState report.status settled
  | true =>
    have stays : ∀ status, reportedState true .startingRestore status = .startingRestore := by
      intro status
      cases status <;> rfl
    have stuck : ¬ Settled true .startingRestore := by simp [settled_iff, Stuck]
    refine iff_of_false ?_ Bool.true_eq_false.mp
    cases report with
    | none => exact stuck
    | some report =>
      simp only [stays]
      exact stuck

/-- A restored server is in a state that settles if it is not too old or the agent is
lost in the end. -/
theorem settled_restored {progress : Progress}
    (restored : progress.board.mainState = restoredState scene) (report : Option Report) :
    Settled scene.before82 (((progress.after scene .rotate).after scene .statusCheck).checked scene
        report).board.mainState ↔
      (scene.before82 = true → LostAfterRestore scene) := by
  have state : ((progress.after scene .rotate).after scene .statusCheck).board.mainState =
      if scene.lost .statusCheck then .disconnected
      else if scene.lost .rotate then .disconnected else restoredState scene := by
    rw [Progress.after_mainState, Progress.after_mainState, restored]
  by_cases lost : LostAfterRestore scene
  · have disconnected : ((progress.after scene .rotate).after scene .statusCheck).board.mainState =
        .disconnected := by
      rw [state]
      rcases lost with restored | rotated | checked
      · simp [restored]
      · simp [rotated]
      · simp [checked]
    refine iff_of_true (settled_checked report ?_) fun _ => lost
    rw [disconnected]
    exact .inl id
  · have starting : ((progress.after scene .rotate).after scene .statusCheck).board.mainState =
        .startingRestore := by
      unfold LostAfterRestore at lost
      simp only [not_or] at lost
      obtain ⟨connected, rotated, checked⟩ := lost
      rw [state, if_neg checked, if_neg rotated]
      unfold restoredState at connected ⊢
      split at connected
      · exact absurd rfl connected
      · split at connected
        · exact absurd rfl connected
        · simp_all
    rw [settled_startingRestore starting]
    simp [lost]

/-- A restore that succeeded is concluded from the state of starting. -/
theorem concludeRestore_succeeded {progress : Progress} (held : progress.Held)
    (restored : progress.board.mainState = restoredState scene) {body : Body}
    (succeeded : body.failed = false) :
    (concludeRestore scene body).Completes progress (fun _ final => Left scene final) ↔
      RestoreSuccessReplies scene body := by
  unfold concludeRestore RestoreSuccessReplies
  simp only [succeeded, Bool.false_eq_true, if_false]
  rw [Script.completes_bind]
  refine perform_completes fun rotateInfo _ => ?_
  rw [Script.completes_bind]
  refine completes_extend fun told _ => ?_
  rw [Script.completes_bind, completes_checkStatus]
  have closed : ∀ report, (Script.Completes (do
      gen scene (.restore .finished)
      userActionUnlock
      reportStatus told : Handling PUnit)
      (((progress.after scene .rotate).after scene .statusCheck).checked scene report)
      (fun _ final => Left scene final) ↔
      Replied (scene.gen (.restore .finished)) ∧
        (scene.before82 = true → LostAfterRestore scene)) := by
    intro report
    obtain ⟨acquired, released⟩ := held
    have settles := settled_restored restored report
    simp [Left, acquired, released, settles]
  simp only [closed, Replied, exists_and_right]

/-- The restore leaves things as it should if its replies are in order. -/
theorem runRestore_left {progress : Progress} (held : progress.Held) {state : MainState}
    (settled : Settled scene.before82 state) :
    (runRestore scene state).Completes progress (fun _ final => Left scene final) ↔
      RestoreReplies scene := by
  have concluded : ∀ body middle, restoreOutcome scene = .ok body →
      (middle.Held ∧ (body.failed = true → middle.board.mainState = failedState scene state) ∧
        (body.failed = false → middle.board.mainState = restoredState scene)) →
      ((concludeRestore scene body).Completes middle (fun _ final => Left scene final) ↔
        if body.failed then RestoreFailureReplies scene
        else RestoreSuccessReplies scene body) := by
    rintro body middle - ⟨heldMiddle, whenFailed, whenRestored⟩
    cases failed : body.failed with
    | true =>
      refine concludeRestore_failed heldMiddle ?_ failed
      rw [whenFailed failed]
      exact settled_failedState settled
    | false => exact concludeRestore_succeeded heldMiddle (whenRestored failed) failed
  have caught : ∀ failure middle, restoreOutcome scene = .error failure → middle.Held →
      ((failure.isStandardError = true ∧ Script.Completes (do
          update state
          concludeRestore scene (.error ("Restore Error: Traceback: " ++ failure.message)))
          middle (fun _ final => Left scene final)) ↔
        failure.isStandardError = true ∧ RestoreFailureReplies scene) := by
    intro failure middle _ heldMiddle
    refine and_congr_right fun _ => ?_
    simp only [Script.completes_bind, completes_update]
    refine concludeRestore_failed ?_ settled rfl
    exact heldMiddle
  unfold runRestore RestoreReplies
  rw [Script.completes_bind, Script.completes_attempt]
  refine (Script.ends_of_outcome (restoreCmd_ends held state) concluded caught).trans ?_
  cases restoreOutcome scene <;> simp

/-! ## Before a restore -/

variable (scene command)

/-- When the backup before a restore is robust, given the condition of what follows a
backup that is stored where it should be. -/
def BackupBeforeRestoreCalm (calm : Prop) : Prop :=
  Replied (scene.gen (.backup .beforeRestore .started)) ∧
    (∀ failure, BackupRaises scene failure →
      failure.isStandardError = true ∧ Replied (scene.gen (.backup .beforeRestore .failed))) ∧
    ∀ body, backupCmd scene = .ok body →
      Replied (scene.gen (.backup .beforeRestore (backupStage body))) ∧
      (body.failed = false → body.has "copy-failed" = false → calm)

/-- When a restore that the main state allows is robust. An error of reading the file is
answered, and an unknown status refuses the restore. -/
def RestoreLockedCalm : Prop :=
  match scene.findFile with
  | .error failure => failure.isIOError = true ∧ Replied (scene.gen (.restore .failed))
  | .ok _ =>
    ∃ status, scene.tableauStatus = .ok status ∧ (status ≠ .unknown →
      (command.nolicense = false → Replied scene.license) ∧
      (LicensePasses scene command →
        if command.nobackup then RestoreReplies scene
        else BackupBeforeRestoreCalm scene (RestoreReplies scene)))

/-- When `do_restore` is robust. -/
def RestoreCalm : Prop :=
  if command.args.length = 0 ∨ 2 < command.args.length then
    Settled scene.before82 scene.board.mainState
  else
    ∃ refusal, agentOf scene command = .ok refusal ∧
      if refusal.isSome then Settled scene.before82 scene.board.mainState
      else
        UserCalm command ∧
          if scene.busy then Settled scene.before82 scene.board.mainState
          else StateCalm scene (RestoreLockedCalm scene command)

variable {scene command}

/-- What follows a good backup before a restore meets its condition. -/
theorem concludeBackupBeforeRestore_completes {progress : Progress} (held : progress.Held)
    {state : MainState} (settled : Settled scene.before82 state) {body : Body}
    {returned : Bool → Progress → Prop} {calm : Prop}
    (goesOn : ∀ middle : Progress, middle.Held → (returned true middle ↔ calm))
    (givesUp : ∀ middle : Progress, Left scene middle → returned false middle) :
    (concludeBackupBeforeRestore scene state body).Completes progress returned ↔
      Replied (scene.gen (.backup .beforeRestore (backupStage body))) ∧
        (body.failed = false → body.has "copy-failed" = false → calm) := by
  unfold concludeBackupBeforeRestore
  simp only [Script.completes_bind, completes_gen, Script.completes_ite, Script.completes_pure]
  refine and_congr_right fun _ => ?_
  obtain ⟨acquired, released⟩ := held
  by_cases bad : body.failed = true ∨ body.has "copy-failed" = true
  · simp only [if_pos bad, completes_reportStatus, completes_update, completes_userActionUnlock]
    refine iff_of_true ⟨by simp [acquired, released], givesUp _ ?_⟩ fun succeeded copied => ?_
    · simp [Left, acquired, released, settled]
    · simp [succeeded, copied] at bad
  · simp only [if_neg bad]
    have good : body.failed = false ∧ body.has "copy-failed" = false := by simpa using bad
    simp [good, goesOn progress ⟨acquired, released⟩]

/-- What follows the backup before a restore meets its condition where the backup is
good. -/
theorem backupBeforeRestore_completes {progress : Progress} (held : progress.Held)
    {state : MainState} (settled : Settled scene.before82 state)
    {returned : Bool → Progress → Prop} {calm : Prop}
    (goesOn : ∀ middle : Progress, middle.Held → (returned true middle ↔ calm))
    (givesUp : ∀ middle : Progress, Left scene middle → returned false middle) :
    (backupBeforeRestore scene state).Completes progress returned ↔
      BackupBeforeRestoreCalm scene calm := by
  unfold backupBeforeRestore BackupBeforeRestoreCalm
  have heldAfter : (progress.after scene .backup).Held := by simpa [Progress.Held] using held
  simp only [Script.completes_bind, completes_gen, Script.completes_attempt, ends_perform,
    ← backupCmd_error_iff]
  refine and_congr_right fun _ => ?_
  cases replied : backupCmd scene with
  | ok body =>
    simp only [concludeBackupBeforeRestore_completes heldAfter settled goesOn givesUp]
    simp
  | error failure =>
    have failed : Body.failed (.error ("Backup For Restore Error. Traceback: " ++
        failure.message)) = true := rfl
    have stage : backupStage (.error ("Backup For Restore Error. Traceback: " ++
        failure.message)) = .failed := by
      unfold backupStage
      rw [failed]
      rfl
    simp only [concludeBackupBeforeRestore_completes heldAfter settled goesOn givesUp, stage,
      failed]
    simp

/-- A restore that has been accepted meets the condition of its license check, its backup
and its replies. -/
theorem acceptedRestore_left {progress : Progress} (held : progress.Held) {state : MainState}
    (settled : Settled scene.before82 state) :
    (acceptedRestore scene command state).Completes progress (fun _ final => Left scene final) ↔
      (command.nolicense = false → Replied scene.license) ∧
      (LicensePasses scene command →
        if command.nobackup then RestoreReplies scene
        else BackupBeforeRestoreCalm scene (RestoreReplies scene)) := by
  unfold acceptedRestore
  simp only [Script.completes_bind, completes_ack]
  refine licenseCheck_completes ?_ settled (fun middle heldMiddle => ?_) fun middle left => ?_
  · exact held
  · cases command.nobackup with
    | true => simpa using runRestore_left heldMiddle settled
    | false =>
      simp only [if_true, Bool.false_eq_true, if_false, Script.completes_bind]
      refine backupBeforeRestore_completes heldMiddle settled (fun final heldFinal => ?_)
        fun final left => ?_
      · simpa using runRestore_left heldFinal settled
      · simpa using left
  · simpa using left

theorem restoreLocked_left {progress : Progress} (held : progress.Held)
    (board : progress.board = scene.board) :
    (restoreLocked scene command).Completes progress (fun _ final => Left scene final) ↔
      StateCalm scene (RestoreLockedCalm scene command) := by
  unfold restoreLocked StateCalm RestoreLockedCalm
  simp only [Script.completes_bind, completes_getState, board, Script.completes_ite, ite_not]
  by_cases accepted : Running scene.board.mainState ∨ Halted scene.board.mainState
  · have settled : Settled scene.before82 scene.board.mainState := settled_of_accepted accepted
    have heldAfter : (progress.after scene .findFile).Held := by simpa [Progress.Held] using held
    have settledAfter : Settled scene.before82
        (progress.after scene .findFile).board.mainState := by
      refine settled_after _ ?_
      rwa [board]
    simp only [if_pos accepted, Script.completes_attempt, ends_perform]
    cases scene.findFile with
    | error failure =>
      obtain ⟨acquired, released⟩ := held
      simp [Left, acquired, released, settledAfter]
    | ok body =>
      simp only [Script.completes_bind, Script.completes_settle]
      refine exists_congr fun status => and_congr_right fun _ => ?_
      cases status with
      | running => simpa using acceptedRestore_left (by exact heldAfter) settled
      | degraded => simpa using acceptedRestore_left (by exact heldAfter) settled
      | stopped => simpa using acceptedRestore_left (by exact heldAfter) settled
      | unknown => simpa [refuse_left heldAfter] using settledAfter
  · simp only [if_neg accepted]
    rw [refuse_left held, board]

theorem doRestore_robust :
    Robust scene (doRestore scene command) ↔ RestoreCalm scene command := by
  unfold Robust doRestore RestoreCalm
  rw [Script.completes_ite]
  by_cases usage : command.args.length = 0 ∨ 2 < command.args.length
  · rw [if_pos usage, if_pos usage, completes_error]
    simp [Left, Scene.start]
  · rw [if_neg usage, if_neg usage]
    simp only [Script.completes_bind, completes_getAgent]
    refine exists_congr fun refusal => and_congr_right fun _ => ?_
    rcases refusal with _ | ⟨errnum, message⟩
    · simp only [if_true, Script.completes_bind, Option.isSome_none, Bool.false_eq_true, if_false]
      refine completes_user fun userid _ => ?_
      by_cases busy : scene.busy = true
      · simp [busy, Left, Scene.start]
      · simp only [completes_userActionLock, busy, Bool.false_eq_true, if_false, if_true]
        exact restoreLocked_left ⟨rfl, rfl⟩ rfl
    · simp [Left, Scene.start]

end Palette.Commands
