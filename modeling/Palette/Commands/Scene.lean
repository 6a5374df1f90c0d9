import Palette.Commands.Reply
import Palette.Foundation.Exclusion
import Palette.Foundation.Script
import Palette.Status.Transitions

/-!
# What a command meets

A user command is a script of the telnet handler. It asks the agents and the database,
and any answer may be a reply or an exception. While it asks, the agent may be lost, and
then the manager marks the main state disconnected. No command asks twice for the same
thing, so one answer for each question says all that a command can meet.

A command keeps a small state of its own: the board with the main state, how often it has
taken and given back the user-action lock, what it has done with the agent, what it has
told its client, and its steps as far as they concern the lock.
-/

namespace Palette.Commands

open Palette.Foundation Palette.Status

/-- Why a backup is made. -/
inductive Occasion where
  | user
  | scheduled
  | beforeStop
  | beforeRestart
  | beforeRestore
  deriving DecidableEq, Repr

/-- The stages of a backup that are events. -/
inductive BackupStage where
  | started
  | finished
  | finishedCopyFailed
  | failed
  deriving DecidableEq, Repr

/-- The stages of any other action that are events. -/
inductive Stage where
  | started
  | finished
  | failed
  deriving DecidableEq, Repr

/-- The events of the commands. -/
inductive Event where
  | backup (occasion : Occasion) (stage : BackupStage)
  | restore (stage : Stage)
  | restart (stage : Stage)
  | ziplogs (stage : Stage)
  | cleanup (stage : Stage)
  | tableauStartFailed
  | stateStarted
  | stateStopped
  deriving DecidableEq, Repr

/-- The commands for the agent's command line. -/
inductive Tabadmin where
  | backup
  | start
  | stop
  | restart
  | restore
  | ziplogs
  | cleanup
  deriving DecidableEq, Repr

/-- What the maintenance web server is told. -/
inductive MaintAction where
  | start
  | stop
  deriving DecidableEq, Repr

/-- The actions during which the agent may be lost. -/
inductive Action where
  | license
  | backup
  | rotate
  | findFile
  | getFile
  | deleteFile
  | tabadmin (request : Tabadmin)
  | maint (action : MaintAction)
  | statusCheck
  deriving DecidableEq, Repr

/-- Where a file is to be placed. -/
inductive TargetType where
  | cloud
  | vol
  | invalid
  deriving DecidableEq, Repr

/-- A placed file. The entry in the table of files may be missing. -/
structure Place where
  info : String
  copied : Bool
  copyFailed : Bool
  placedFileEntry : Option Int
  deriving DecidableEq, Repr

/-- What a status check reports, and how the report is applied. -/
structure Report where
  status : TableauStatus
  minimum : Nat
  now : Nat
  obeys : Bool
  deriving DecidableEq, Repr

/-- The state in which a command starts, and every answer that it will get. -/
structure Scene where
  board : Board
  /-- Another thread holds the user-action lock. -/
  busy : Bool
  /-- The server is Tableau 8.0 or 8.1. -/
  before82 : Bool
  backupAutoRetainCount : Int
  ziplogAutoRetainCount : Int
  /-- Whether an enabled agent with the identifier is connected. -/
  agentByUuid : String → Except Failure Bool
  /-- Whether the agent's row, if there is one, says enabled. -/
  agentRow : Except Failure (Option Bool)
  tableauStatus : Except Failure TableauStatus
  /-- The status when the restore begins. -/
  statusAtRestore : Except Failure TableauStatus
  gen : Event → Except Failure Unit
  license : Except Failure Body
  diskCheck : Except Failure TargetType
  cliCmd : Tabadmin → Except Failure Body
  /-- The size of the new file; a reply may also be no dictionary. -/
  filesize : Except Failure (Option Body)
  placeFile : Except Failure Place
  rotate : Except Failure String
  /-- The stored file as the web application is told of it. -/
  fileById : Int → Except Failure (Option Body)
  /-- `GetFile` that only checks. -/
  findFile : Except Failure Unit
  /-- `GetFile`; whether the file was copied to the primary. -/
  getFile : Except Failure Bool
  deleteVolFile : Except Failure Body
  /-- The reply and whether the maintenance server then counts as started. -/
  maint : MaintAction → Except Failure (Body × Bool)
  /-- What the status check reports, if it gets that far. -/
  statusCheck : Except Failure (Option Report)
  lost : Action → Bool
  /-- The seconds that a backup and its copying take by the clock. -/
  elapsed : Int
  /-- The text about sizes and times. -/
  statistics : String
  /-- The path of the file that a command makes. -/
  newFile : String

/-- The errors of the command line. -/
inductive ClientError where
  | usage
  | agentNotConnected
  | agentNotEnabled
  | agentNotSpecified
  | badValue
  | notFound
  | busy
  | wrongState
  | commandFailed
  deriving DecidableEq, Repr

/-- A line for the client. -/
inductive Response where
  | ok
  | error (errnum : ClientError) (message : String)
  | status (body : Body)

/-- A command line. The user's number is what `int()` makes of its option. -/
structure Command where
  args : List String
  userid : Option (Option Int)
  uuid : Option (Option String)
  nobackup : Bool
  nolicense : Bool
  nomaint : Bool
  deriving DecidableEq, Repr

/-- How far a command has come. -/
structure Progress where
  board : Board
  acquired : Nat
  released : Nat
  /-- What was done with the agent, in order. -/
  actions : List Action
  responses : List Response
  /-- The steps that concern the lock, in order. -/
  steps : List (LockStep MainState)

/-- A command's script. -/
abbrev Handling := Script Progress Failure

/-- The start of a command. -/
def Scene.start (scene : Scene) : Progress := ⟨scene.board, 0, 0, [], [], []⟩

/-! ## The state manager and the lock -/

/-- One more step that concerns the lock. -/
def Progress.noting (progress : Progress) (step : LockStep MainState) : Progress :=
  { progress with steps := progress.steps ++ [step] }

/-- `StateManager.update`. -/
def Progress.withState (progress : Progress) (state : MainState) : Progress :=
  { progress.noting (.wrote state) with board := { progress.board with mainState := state } }

/-- The agent manager marks the main state when the agent is lost. -/
def Progress.disconnected (progress : Progress) : Progress :=
  { progress with board := { progress.board with mainState := .disconnected } }

/-- `StateManager.update`. -/
def update (state : MainState) : Handling PUnit := modify fun progress => progress.withState state

/-- `StateManager.get_state`. -/
def getState : Handling MainState := do return (← get).board.mainState

/-- `user_action_lock` without waiting. -/
def userActionLock (scene : Scene) : Handling Bool := do
  if scene.busy then
    modify fun progress => progress.noting (.tried false)
    pure false
  else
    modify fun progress =>
      { progress.noting (.tried true) with acquired := progress.acquired + 1 }
    pure true

/-- `user_action_unlock`. A thread that does not hold the lock may not give it back. -/
def userActionUnlock : Handling PUnit := do
  let progress ← get
  if progress.acquired ≤ progress.released then
    modify fun progress => progress.noting .misreleased
    throw ⟨.runtimeError, "cannot release un-acquired lock"⟩
  else
    modify fun progress =>
      { progress.noting .released with released := progress.released + 1 }

/-! ## The client -/

/-- Print a line for the client. A client that is gone is not noticed. -/
def respond (response : Response) : Handling PUnit :=
  modify fun progress => { progress with responses := progress.responses ++ [response] }

/-- `CliHandler.ack`. -/
def ack : Handling PUnit := respond .ok

/-- `CliHandler.error`. -/
def error (errnum : ClientError) (message : String) : Handling PUnit :=
  respond (.error errnum message)

/-- `CliHandler.report_status`. -/
def reportStatus (body : Body) : Handling PUnit :=
  respond (.status (body.set "status" (.text (if body.failed then "error" else "OK"))))

/-! ## The agent -/

variable (scene : Scene)

/-- Do something with the agent, which may be lost meanwhile. -/
def perform {Reply : Type} (action : Action) (answer : Except Failure Reply) :
    Handling Reply := do
  modify fun progress =>
    { progress.noting .acted with actions := progress.actions ++ [action] }
  if scene.lost action then modify Progress.disconnected
  Script.settle answer

/-- `EventControlManager.gen`. -/
def gen (event : Event) : Handling Unit := Script.settle (scene.gen event)

/-- `Controller.maint`. -/
def maint (action : MaintAction) : Handling Body := do
  let (body, started) ← perform scene (.maint action) (scene.maint action)
  modify fun progress => { progress with board := { progress.board with maintStarted := started } }
  pure body

/-- `_set_main_state` with what a status check reports, if it gets that far. -/
def applyReport : Option Report → Handling PUnit
  | none => pure ⟨⟩
  | some report =>
    modify fun progress =>
      let board := setMainState ⟨scene.before82, report.minimum, report.now, report.obeys⟩
        progress.board progress.board.mainState report.status
      { progress.noting (.wrote board.mainState) with board := board }

/-- `check_status_with_connection` of the thread that holds the lock. -/
def checkStatusWithConnection : Handling PUnit := do
  let report ← perform scene .statusCheck scene.statusCheck
  applyReport scene report

/-- The agent of a command line, or the error that is reported. The row is detached
before it is checked, which a missing row does not survive. -/
def agentOf (command : Command) : Except Failure (Option (ClientError × String)) :=
  match command.uuid with
  | none | some none | some (some "") => .ok (some (.agentNotSpecified, "No agent specified"))
  | some (some uuid) =>
    match scene.agentByUuid uuid with
    | .error failure => .error failure
    | .ok false => .ok (some (.agentNotConnected, "No connected agent with uuid=" ++ uuid))
    | .ok true =>
      match scene.agentRow with
      | .error failure => .error failure
      | .ok none => .error ⟨.otherException, "Class 'NoneType' is not mapped"⟩
      | .ok (some false) => .ok (some (.agentNotEnabled, "Agent disabled with uuid=" ++ uuid))
      | .ok (some true) => .ok none

/-- `CliHandler.get_agent`, whether there is one. -/
def getAgent (command : Command) : Handling Bool := do
  match ← Script.settle (agentOf scene command) with
  | none => pure true
  | some (errnum, message) =>
    error errnum message
    pure false

end Palette.Commands
