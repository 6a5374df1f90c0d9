import Palette.Commands.Controller

/-!
# How the agent commands end

The ways in which a backup, the collection of the logs, the cleanup and a restore raise
are listed by the answers that they get. Each list is complete.
-/

namespace Palette.Commands

open Palette.Foundation Palette.Status

/-- The answer is a reply. -/
def Replied {Reply : Type} (answer : Except Failure Reply) : Prop := ∃ reply, answer = .ok reply

variable (scene : Scene)

/-! ## Backup -/

/-- The backup command has made a file. -/
def BackupMade (body : Body) : Prop :=
  ∃ target, scene.diskCheck = .ok target ∧ target ≠ .invalid ∧
    scene.cliCmd .backup = .ok body ∧ body.failed = false

/-- The backup's file is placed. -/
def BackupPlaced (body : Body) (size : Value) (place : Place) : Prop :=
  BackupMade scene body ∧ measuredSize scene = .ok size ∧ scene.placeFile = .ok place

/-- The ways in which `backup_cmd` raises. -/
inductive BackupRaises : Failure → Prop where
  | diskCheck (failure : Failure) (raised : scene.diskCheck = .error failure)
      (uncaught : failure.isDiskException = false) : BackupRaises failure
  | command (failure : Failure) (target : TargetType) (checked : scene.diskCheck = .ok target)
      (valid : target ≠ .invalid) (raised : scene.cliCmd .backup = .error failure) :
      BackupRaises failure
  | filesize (failure : Failure) (body : Body) (made : BackupMade scene body)
      (raised : measuredSize scene = .error failure) : BackupRaises failure
  | placeFile (failure : Failure) (body : Body) (size : Value) (made : BackupMade scene body)
      (measured : measuredSize scene = .ok size) (raised : scene.placeFile = .error failure) :
      BackupRaises failure
  | sizestr (failure : Failure) (body : Body) (size : Value) (place : Place)
      (placed : BackupPlaced scene body size place) (raised : size.sizestr = .error failure) :
      BackupRaises failure
  | elapsed (body : Body) (size : Value) (place : Place)
      (placed : BackupPlaced scene body size place) (sized : size.sizestr = .ok ())
      (copied : place.copied = true) (instant : scene.elapsed = 0) :
      BackupRaises ⟨.zeroDivisionError, "float division by zero"⟩
  | entry (body : Body) (size : Value) (place : Place)
      (placed : BackupPlaced scene body size place) (sized : size.sizestr = .ok ())
      (divided : ¬ (place.copied = true ∧ scene.elapsed = 0))
      (missing : place.placedFileEntry = none) :
      BackupRaises ⟨.attributeError, "'NoneType' object has no attribute 'fileid'"⟩

variable {scene}

/-- A backup with a place to go to runs its command. -/
theorem backupCmd_of_checked {target : TargetType} (checked : scene.diskCheck = .ok target)
    (valid : target ≠ .invalid) :
    backupCmd scene = scene.cliCmd .backup >>= finishBackup scene := by
  unfold backupCmd
  cases target with
  | invalid => exact absurd rfl valid
  | cloud => simp [checked]
  | vol => simp [checked]

/-- A backup whose file is made goes on to place it. -/
theorem backupCmd_of_made {body : Body} (made : BackupMade scene body) :
    backupCmd scene = (do
      let size ← measuredSize scene
      let place ← scene.placeFile
      size.sizestr
      placedBackup scene body place) := by
  obtain ⟨target, checked, valid, replied, succeeded⟩ := made
  rw [backupCmd_of_checked checked valid, replied]
  simp [finishBackup, succeeded, bind, Except.bind]

/-- The placing of a file raises for a file that was copied in no time, and for one
without an entry. -/
theorem placedBackup_eq_error {body : Body} {place : Place} {failure : Failure} :
    placedBackup scene body place = .error failure ↔
      (place.copied = true ∧ scene.elapsed = 0) ∧
          failure = ⟨.zeroDivisionError, "float division by zero"⟩ ∨
        ¬ (place.copied = true ∧ scene.elapsed = 0) ∧ place.placedFileEntry = none ∧
          failure = ⟨.attributeError, "'NoneType' object has no attribute 'fileid'"⟩ := by
  unfold placedBackup
  by_cases instant : place.copied = true ∧ scene.elapsed = 0
  · simp only [if_pos instant, Except.error.injEq]
    exact ⟨fun same => .inl ⟨instant, same.symm⟩, by
      rintro (⟨-, rfl⟩ | ⟨divided, -⟩)
      · rfl
      · exact absurd instant divided⟩
  · simp only [if_neg instant]
    cases place.placedFileEntry with
    | some fileid =>
      constructor
      · rintro ⟨⟩
      · rintro (⟨copied, -⟩ | ⟨-, ⟨⟩, -⟩)
        exact absurd copied instant
    | none =>
      constructor
      · rintro ⟨⟩
        exact .inr ⟨instant, rfl, rfl⟩
      · rintro (⟨copied, -⟩ | ⟨-, -, rfl⟩)
        · exact absurd copied instant
        · rfl

/-- `backup_cmd` raises in the ways that are listed. -/
theorem backupCmd_error_iff (failure : Failure) :
    backupCmd scene = .error failure ↔ BackupRaises scene failure := by
  constructor
  · intro raised
    cases checked : scene.diskCheck with
    | error other =>
      simp only [backupCmd, checked] at raised
      cases caught : other.isDiskException with
      | true => simp [caught] at raised
      | false =>
        simp only [caught, Bool.false_eq_true, if_false, Except.error.injEq] at raised
        subst raised
        exact .diskCheck other checked caught
    | ok target =>
      by_cases valid : target = .invalid
      · subst valid
        simp [backupCmd, checked] at raised
      · rw [backupCmd_of_checked checked valid, bind_eq_error] at raised
        rcases raised with raised | ⟨body, replied, raised⟩
        · exact .command failure target checked valid raised
        · cases failed : body.failed with
          | true => simp [finishBackup, failed, pure, Except.pure] at raised
          | false =>
            have made : BackupMade scene body := ⟨target, checked, valid, replied, failed⟩
            simp only [finishBackup, failed, Bool.false_eq_true, if_false, bind_eq_error,
              placedBackup_eq_error] at raised
            rcases raised with raised | ⟨size, measured, raised | ⟨place, placed, raised |
              ⟨⟨⟩, sized, ⟨⟨copied, instant⟩, rfl⟩ | ⟨divided, missing, rfl⟩⟩⟩⟩
            · exact .filesize failure body made raised
            · exact .placeFile failure body size made measured raised
            · exact .sizestr failure body size place ⟨made, measured, placed⟩ raised
            · exact .elapsed body size place ⟨made, measured, placed⟩ sized copied instant
            · exact .entry body size place ⟨made, measured, placed⟩ sized divided missing
  · intro raises
    cases raises with
    | diskCheck failure raised uncaught => simp [backupCmd, raised, uncaught]
    | command failure target checked valid raised =>
      rw [backupCmd_of_checked checked valid, raised]
      rfl
    | filesize failure body made raised =>
      rw [backupCmd_of_made made, raised]
      rfl
    | placeFile failure body size made measured raised =>
      rw [backupCmd_of_made made, measured, raised]
      rfl
    | sizestr failure body size place placed raised =>
      obtain ⟨made, measured, placed⟩ := placed
      rw [backupCmd_of_made made, measured, placed]
      simp [raised, bind, Except.bind]
    | elapsed body size place placed sized copied instant =>
      obtain ⟨made, measured, placed⟩ := placed
      rw [backupCmd_of_made made, measured, placed]
      simp only [bind, Except.bind, sized]
      exact placedBackup_eq_error.mpr (.inl ⟨⟨copied, instant⟩, rfl⟩)
    | entry body size place placed sized divided missing =>
      obtain ⟨made, measured, placed⟩ := placed
      rw [backupCmd_of_made made, measured, placed]
      simp only [bind, Except.bind, sized]
      exact placedBackup_eq_error.mpr (.inr ⟨divided, missing, rfl⟩)

/-- What a backup replies about itself is a text, or nothing. A backup that succeeds
replies the number of its file. -/
theorem backupCmd_reply {body : Body} (replied : backupCmd scene = .ok body) :
    (body "info" = none ∨ ∃ info, body "info" = some (.text info)) ∧
      (body.failed = false → ∃ fileid, body "fileid" = some (.number fileid)) := by
  have errorReply : ∀ message : String, Body.error message = body →
      (body "info" = none ∨ ∃ info, body "info" = some (.text info)) ∧
        (body.failed = false → ∃ fileid, body "fileid" = some (.number fileid)) := by
    rintro message rfl
    exact ⟨.inl rfl, fun succeeded => absurd succeeded Bool.true_eq_false.mp⟩
  cases checked : scene.diskCheck with
  | error failure =>
    simp only [backupCmd, checked] at replied
    cases caught : failure.isDiskException with
    | true =>
      simp only [caught, if_true, Except.ok.injEq] at replied
      exact errorReply _ replied
    | false => simp [caught] at replied
  | ok target =>
    by_cases valid : target = .invalid
    · subst valid
      simp only [backupCmd, checked, Except.ok.injEq] at replied
      exact errorReply _ replied
    · rw [backupCmd_of_checked checked valid, bind_eq_ok] at replied
      obtain ⟨reply, -, finished⟩ := replied
      cases failed : reply.failed with
      | true =>
        simp only [finishBackup, failed, if_true, pure, Except.pure, Except.ok.injEq] at finished
        subst finished
        refine ⟨.inr ⟨_, Function.update_self _ _ _⟩, fun succeeded => ?_⟩
        have kept : Body.failed (reply.set "info" (.text
            ("Backup command elapsed time before failure: " ++ scene.statistics))) = reply.failed :=
          congrArg Option.isSome (Function.update_of_ne (by decide) _ _)
        rw [kept, failed] at succeeded
        exact absurd succeeded Bool.true_eq_false.mp
      | false =>
        simp only [finishBackup, failed, Bool.false_eq_true, if_false, bind_eq_ok] at finished
        obtain ⟨size, -, place, -, ⟨⟩, -, placed⟩ := finished
        simp only [placedBackup] at placed
        split at placed
        · cases placed
        · cases entry : place.placedFileEntry with
          | none => simp [entry] at placed
          | some fileid =>
            simp only [entry, Except.ok.injEq] at placed
            subst placed
            refine ⟨.inr ⟨_, Function.update_self _ _ _⟩, fun _ => ⟨fileid, ?_⟩⟩
            rw [Body.set, Function.update_of_ne (by decide), Body.set, Function.update_self]

/-! ## Logs and cleanup -/

variable (scene) in
/-- The answers with which `ziplogs_cmd` replies: the disk check refuses, the command
fails, or its file is placed and old ones are rotated, and every event on the way is
generated. -/
def ZiplogsReplies : Prop :=
  (∃ failure, scene.diskCheck = .error failure ∧ failure.isDiskException = true ∧
    Replied (scene.gen (.ziplogs .failed))) ∨
  ∃ target body, scene.diskCheck = .ok target ∧ Replied (scene.gen (.ziplogs .started)) ∧
    scene.cliCmd .ziplogs = .ok body ∧
    if body.failed then Replied (scene.gen (.ziplogs .failed))
    else Replied (measuredSize scene) ∧ Replied scene.placeFile ∧ Replied scene.rotate ∧
      Replied (scene.gen (.ziplogs .finished))

/-- `ziplogs_cmd` replies to just these answers. -/
theorem ziplogsCmd_replied : Replied (ziplogsCmd scene) ↔ ZiplogsReplies scene := by
  unfold ZiplogsReplies ziplogsCmd Replied
  cases scene.diskCheck with
  | error failure =>
    cases caught : failure.isDiskException with
    | true =>
      cases scene.gen (.ziplogs .failed) <;>
        simp [caught, bind, Except.bind, pure, Except.pure]
    | false => simp [caught, throw, throwThe, MonadExceptOf.throw]
  | ok target =>
    cases scene.gen (.ziplogs .started) with
    | error failure => simp [bind, Except.bind]
    | ok told =>
      cases scene.cliCmd .ziplogs with
      | error failure => simp [bind, Except.bind]
      | ok body =>
        cases failed : body.failed with
        | true =>
          cases scene.gen (.ziplogs .failed) <;>
            simp [failed, bind, Except.bind, pure, Except.pure]
        | false =>
          cases measuredSize scene <;> cases scene.placeFile <;> cases scene.rotate <;>
            cases scene.gen (.ziplogs .finished) <;>
            simp [failed, bind, Except.bind, pure, Except.pure]

variable (scene) in
/-- The answers with which `cleanup_cmd` replies. -/
def CleanupReplies : Prop :=
  ∃ body, Replied (scene.gen (.cleanup .started)) ∧ scene.cliCmd .cleanup = .ok body ∧
    Replied (scene.gen (.cleanup (if body.failed then .failed else .finished)))

/-- `cleanup_cmd` replies to just these answers. -/
theorem cleanupCmd_replied : Replied (cleanupCmd scene) ↔ CleanupReplies scene := by
  unfold CleanupReplies cleanupCmd Replied
  simp only [bind_eq_ok, pure, Except.pure, Except.ok.injEq]
  constructor
  · rintro ⟨_, told, started, body, replied, ended, finished, -⟩
    exact ⟨body, ⟨told, started⟩, replied, ended, finished⟩
  · rintro ⟨body, ⟨told, started⟩, replied, ended, finished⟩
    exact ⟨body, told, started, body, replied, ended, finished, rfl⟩

/-! ## Restore -/

variable (scene) in
/-- What the sending of the restore ends with. -/
def sendRestoreOutcome : Except Failure Body :=
  match scene.cliCmd .restore with
  | .ok restoreBody => .ok restoreBody
  | .error failure =>
    if failure.isHTTPException then .ok (.error ("HTTP Exception: " ++ failure.message))
    else .error failure

variable (scene) in
/-- What `restore_local` ends with, by its answers alone. -/
def restoreLocalOutcome : Except Failure Body := do
  scene.gen (.restore .started)
  let reportedStatus ← scene.statusAtRestore
  if reportedStatus = .running then
    let stopBody ← scene.cliCmd .stop
    if stopBody.failed then pure stopBody
    else
      scene.gen .stateStopped
      sendRestoreOutcome scene
  else sendRestoreOutcome scene

variable (scene) in
/-- What the deletion of a copy ends with. -/
def deleteCopyOutcome (copied : Bool) (restoreBody : Body) : Except Failure Body :=
  if copied then do
    let deleteBody ← scene.deleteVolFile
    match deleteBody "error" with
    | none => .ok restoreBody
    | some (.text message) =>
      .ok (restoreBody.set "info" (.text (String.ofList (strip message))))
    | some _ => .error ⟨.typeError, "cannot concatenate 'str' and other objects"⟩
  else .ok restoreBody

variable (scene) in
/-- What `restore_cmd` ends with, by its answers alone. -/
def restoreOutcome : Except Failure Body :=
  match scene.getFile with
  | .error failure =>
    if failure.isIOError then .ok (.error ("restore_cmd failure: " ++ failure.message))
    else .error failure
  | .ok copied => restoreLocalOutcome scene >>= deleteCopyOutcome scene copied

end Palette.Commands
