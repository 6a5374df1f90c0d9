import Palette.Commands.RestoreUrl

/-!
# Others that meet the lock

The deletion of a file takes the user-action lock like the other commands. A support case
asks for it too, but does not look at the answer. The maintenance command works without
it. The status monitor takes it twice: once to see whether a command is at work, and once
to apply what it has found.
-/

namespace Palette.Commands

open Palette.Foundation Palette.Status

/-- The further answers that these get. -/
structure FullScene extends UrlScene where
  /-- Whether there is an entry for a file of the name. -/
  fileByName : String → Except Failure Bool
  delfile : Except Failure Body
  supportCase : Except Failure Body

variable (scene : FullScene) (command : Command)

/-- `CliHandler.do_deletefile`. -/
def doDeletefile : Handling PUnit := do
  match command.args with
  | [filename] =>
    if ← Script.settle (scene.fileByName filename) then
      underLock scene.toScene command .busy "Busy with another user request"
        (underState .startedFiledel .stoppedFiledel do
          ack
          perform scene.toScene .deleteFile scene.delfile)
    else error .notFound ("File not found: " ++ filename)
  | _ => error .usage "usage: deletefile file-name"

/-- `CliHandler.do_support_case`. With too many arguments it prints the usage and goes on,
and it does not look whether it has got the lock. -/
def doSupportCase : Handling PUnit := do
  if 2 ≤ command.args.length then error .usage "usage: support-case [filename.zip]"
  if ← getAgent scene.toScene command then
    let _ ← Script.settle command.user
    ack
    let _ ← userActionLock scene.toScene
    let body ← perform scene.toScene (.tabadmin .ziplogs) scene.supportCase
    userActionUnlock
    reportStatus body

/-- `CliHandler.do_maint`. -/
def doMaint : Handling PUnit := do
  match command.args with
  | [action] =>
    if action.toLower = "start" then
      ack
      let body ← maint scene.toScene .start
      reportStatus body
    else if action.toLower = "stop" then
      ack
      let body ← maint scene.toScene .stop
      reportStatus body
    else error .usage "usage: maint start|stop"
  | _ => error .usage "usage: maint start|stop"

/-- The monitor looks whether a command is at work. -/
def probe : Handling PUnit := do
  if ← userActionLock scene.toScene then userActionUnlock

/-- `_finish_status` of the monitor. -/
def finishStatus : Handling PUnit := do
  if ← userActionLock scene.toScene then
    let report ← Script.settle scene.statusCheck
    applyReport scene.toScene report
    userActionUnlock

/-- Whoever meets the lock. -/
inductive Activity where
  | user (which : UserCommand)
  | restoreUrl
  | deletefile
  | supportCase
  | maintenance
  | probe
  | finishStatus
  deriving DecidableEq, Repr

/-- What an activity does. -/
def Activity.script : Activity → Handling PUnit
  | user which => which.script scene.toScene command
  | restoreUrl => doRestoreUrl scene.toUrlScene command
  | deletefile => doDeletefile scene command
  | supportCase => doSupportCase scene command
  | maintenance => doMaint scene command
  | probe => Commands.probe scene
  | finishStatus => Commands.finishStatus scene

end Palette.Commands
