import Palette.Commands.Scene

/-!
# The agent commands of the controller

The parts of the commands that the controller carries out: a backup, the collection of
the logs, the cleanup and a restore. The first three write no main state, so what they
reply is a function of the answers. A restore stops Tableau and starts it again, and it
writes the main state as it goes.
-/

namespace Palette.Commands

open Palette.Foundation Palette.Status

variable (scene : Scene)

/-- The size of a new file as `backup_cmd` and `ziplogs_cmd` get it. A reply that is no
dictionary raises on the way, and so does one without a size. -/
def measuredSize : Except Failure Value :=
  match scene.filesize with
  | .error failure => if failure.isIOError then .ok (.number 0) else .error failure
  | .ok none => .error ⟨.typeError, "argument is not iterable"⟩
  | .ok (some body) =>
    if body.failed then .ok (.number 0)
    else
      match body "size" with
      | some size => .ok size
      | none => .error ⟨.keyError, "size"⟩

/-- The reply of a backup whose file has been placed. The statistics divide by the time
of a file that was copied, and the entry of the file is looked at last. -/
def placedBackup (body : Body) (place : Place) : Except Failure Body :=
  let told := (body.set "info" (.text place.info))
  let copied := if place.copyFailed then told.set "copy-failed" (.bool true) else told
  if place.copied ∧ scene.elapsed = 0 then
    .error ⟨.zeroDivisionError, "float division by zero"⟩
  else
    match place.placedFileEntry with
    | none => .error ⟨.attributeError, "'NoneType' object has no attribute 'fileid'"⟩
    | some fileid =>
      .ok ((copied.set "fileid" (.number fileid)).set "info"
        (.text (place.info ++ "\n" ++ scene.statistics)))

/-- The part of `backup_cmd` after the agent has replied. -/
def finishBackup (body : Body) : Except Failure Body :=
  if body.failed then
    pure (body.set "info"
      (.text ("Backup command elapsed time before failure: " ++ scene.statistics)))
  else do
    let size ← measuredSize scene
    let place ← scene.placeFile
    size.sizestr
    placedBackup scene body place

/-- `Controller.backup_cmd`. -/
def backupCmd : Except Failure Body :=
  match scene.diskCheck with
  | .error failure =>
    if failure.isDiskException then .ok (.error failure.message) else .error failure
  | .ok .invalid => .ok (.error "backup_cmd: Invalid target_type: None")
  | .ok _ => do
    let body ← scene.cliCmd .backup
    finishBackup scene body

/-- `Controller.ziplogs_cmd`. -/
def ziplogsCmd : Except Failure Body :=
  match scene.diskCheck with
  | .error failure => do
    if failure.isDiskException then
      scene.gen (.ziplogs .failed)
      pure (.error ("ziplogs_cmd: " ++ failure.message))
    else throw failure
  | .ok _ => do
    scene.gen (.ziplogs .started)
    let body ← scene.cliCmd .ziplogs
    let cmd := "tabadmin ziplogs -f -l -n -a \\\"" ++ scene.newFile ++ "\\\""
    let told := body.set "info" (.text cmd)
    if body.failed then
      scene.gen (.ziplogs .failed)
      pure told
    else
      let _ ← measuredSize scene
      let place ← scene.placeFile
      let rotateInfo ← scene.rotate
      let placed := told.set "info"
        (.text (cmd ++ "\n" ++ place.info ++ rotateInfo))
      scene.gen (.ziplogs .finished)
      pure placed

/-- `Controller.cleanup_cmd`. -/
def cleanupCmd : Except Failure Body := do
  scene.gen (.cleanup .started)
  let body ← scene.cliCmd .cleanup
  scene.gen (.cleanup (if body.failed then .failed else .finished))
  pure body

/-- The last part of `restore_local`, which sends the restore to the agent. -/
def sendRestore : Handling Body := do
  update .startingRestore
  match ← Script.attempt Failure.isHTTPException
      (perform scene (.tabadmin .restore) (scene.cliCmd .restore)) with
  | .ok restoreBody => pure restoreBody
  | .error failure => pure (.error ("HTTP Exception: " ++ failure.message))

/-- `Controller.restore_local`. -/
def restoreLocal : Handling Body := do
  gen scene (.restore .started)
  let reportedStatus ← Script.settle scene.statusAtRestore
  if reportedStatus = .running then
    update .stoppingRestore
    let stopBody ← perform scene (.tabadmin .stop) (scene.cliCmd .stop)
    if stopBody.failed then pure stopBody
    else
      gen scene .stateStopped
      sendRestore scene
  else sendRestore scene

/-- The last part of `restore_cmd`: a file that was copied to the primary is deleted
there again. An error that is no text cannot be added to the info. -/
def deleteCopy (copied : Bool) (restoreBody : Body) : Handling Body := do
  if copied then
    let deleteBody ← perform scene .deleteFile scene.deleteVolFile
    match deleteBody "error" with
    | none => pure restoreBody
    | some (.text message) =>
      pure (restoreBody.set "info" (.text (String.ofList (strip message))))
    | some _ => throw ⟨.typeError, "cannot concatenate 'str' and other objects"⟩
  else pure restoreBody

/-- `Controller.restore_cmd`. -/
def restoreCmd (origState : MainState) : Handling Body := do
  match ← Script.attempt Failure.isIOError (perform scene .getFile scene.getFile) with
  | .error failure =>
    update origState
    pure (.error ("restore_cmd failure: " ++ failure.message))
  | .ok copied =>
    let restoreBody ← restoreLocal scene
    if restoreBody.failed then update origState
    deleteCopy scene copied restoreBody

end Palette.Commands
