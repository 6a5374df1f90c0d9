import Palette.Commands.Handler

/-!
# Restore from an address

A second command restores from a file on the primary or in a cloud. It waits for the
user-action lock, looks at the main state only, and goes on to the same restore on the
primary. The scheme that it accepts for one of the clouds is not the one that leads to a
download.
-/

namespace Palette.Commands

open Palette.Foundation Palette.Status

/-- The parts of an address that decide what is done. -/
structure Url where
  scheme : String
  hostname : Option String
  deriving DecidableEq, Repr

/-- The further answers that a restore from an address gets. The board of the scene is
the one that the command finds when its turn for the lock has come. -/
structure UrlScene extends Scene where
  urlsplit : String → Except Failure Url
  /-- The number of the primary's agent. -/
  agentid : Int
  agentidFromHost : String → Except Failure (Option Int)
  download : Except Failure Body
  deletePath : Except Failure Unit

variable (scene : UrlScene) (command : Command)

/-- The file of the address is on the primary, and may have to be deleted afterwards, or
it is not to be had. -/
inductive Located where
  | refused (body : Body)
  | placed (cleanupFile : Bool)

/-- The part of `restore_url` that brings the file to the primary. A worker's file is
refused, and an unknown scheme is taken for a path. -/
def locate (url : Url) : Handling Located := do
  if url.scheme = "file" then
    match url.hostname with
    | none | some "" => pure (.placed false)
    | some hostname =>
      let agentid ← Script.settle (scene.agentidFromHost hostname)
      if agentid ≠ some scene.agentid then
        pure (.refused ((Body.error "Cannot yet restore by URL from a worker.").set "status"
          (.text "FAILED")))
      else pure (.placed false)
  else if url.scheme = "s3" ∨ url.scheme = "gcs" then
    let body ← perform scene.toScene .getFile scene.download
    if body.failed then pure (.refused body)
    else if body.has "path" then pure (.placed true)
    else throw ⟨.keyError, "path"⟩
  else pure (.placed false)

/-- `Controller.restore_url`. -/
def restoreUrl (url : Url) : Handling Body := do
  match ← locate scene url with
  | .refused body => pure body
  | .placed cleanupFile =>
    let restoreBody ← restoreLocal scene.toScene
    if cleanupFile then perform scene.toScene .deleteFile scene.deletePath
    pure restoreBody

/-- The end of `do_restore_url`, after the restore. -/
def concludeRestoreUrl (body : Body) : Handling PUnit := do
  checkStatusWithConnection scene.toScene
  gen scene.toScene (.restore (if body.failed then .failed else .finished))
  userActionUnlock
  reportStatus body

/-- The part of `do_restore_url` from the acknowledgement on. -/
def acceptedRestoreUrl (url : Url) : Handling PUnit := do
  ack
  let _ ← Script.settle command.user
  match ← Script.attempt Failure.isStandardError (restoreUrl scene url) with
  | .ok body => concludeRestoreUrl scene body
  | .error failure =>
    concludeRestoreUrl scene (.error ("Restore Error: Traceback: " ++ failure.message))

/-- The part of `do_restore_url` under the lock. -/
def restoreUrlLocked (url : Url) : Handling PUnit := do
  let mainState ← getState
  if ¬ (Running mainState ∨ Halted mainState) then
    refuse .wrongState ("Invalid restore state: " ++ stateText mainState)
  else acceptedRestoreUrl scene command url

/-- The schemes that `do_restore_url` accepts. -/
def restoreSchemes : List String := ["file", "s3", "gs"]

/-- `CliHandler.do_restore_url`. It waits until the lock is free. -/
def doRestoreUrl : Handling PUnit := do
  match command.args with
  | [] => error .usage "usage: [/noconfig] restore-url <url> [tableau-run-as-user-password]"
  | _ :: _ :: _ :: _ =>
    error .usage "usage: [/noconfig] restore-url <url> [tableau-run-as-user-password]"
  | address :: _ =>
    if ← getAgent scene.toScene command then
      let url ← Script.settle (scene.urlsplit address)
      if url.scheme ∉ restoreSchemes then
        error .badValue ("Invalid URL scheme : '" ++ url.scheme ++ "'")
      else
        modify fun progress =>
          { progress.noting .waited with acquired := progress.acquired + 1 }
        restoreUrlLocked scene command url

end Palette.Commands
