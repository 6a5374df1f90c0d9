import Palette.Commands.Controller

/-!
# The commands of the telnet handler

Seven commands take the user-action lock of the primary: backup, restore, start, stop,
restart, ziplogs and cleanup. Each refuses unless the main state suits it, then writes a
state of its own while it works, and in the end writes the state it found, or one that
its work has led to, or leaves that to a status check.

An exception that leaves a command ends the controller, and the lock and the main state
stay as they were at that moment.
-/

namespace Palette.Commands

open Palette.Foundation Palette.Status

variable (scene : Scene) (command : Command)

/-- The user of a command, where the option is no number it raises. -/
def Command.user : Except Failure (Option Int) :=
  match command.userid with
  | none => .ok none
  | some none => .error ⟨.valueError, "invalid literal for int() with base 10"⟩
  | some (some userid) => .ok (some userid)

/-- The text of a main state. -/
def stateText : MainState → String
  | .disconnected => "DISCONNECTED"
  | .pending => "PENDING"
  | .stopping => "STOPPING"
  | .stoppingRestore => "STOPPING-RESTORE"
  | .stopped => "STOPPED"
  | .stoppedUnexpected => "STOPPED-UNEXPECTED"
  | .stoppedRestore => "STOPPED-RESTORE"
  | .stoppedBackup => "STOPPED-BACKUP"
  | .stoppedBackupRestore => "STOPPED-BACKUP-RESTORE"
  | .stoppedFiledel => "STOPPED-FILEDEL"
  | .stoppedZiplogs => "STOPPED-ZIPLOGS"
  | .starting => "STARTING"
  | .startingRestore => "STARTING-RESTORE"
  | .started => "STARTED"
  | .startedBackup => "STARTED-BACKUP"
  | .startedBackupRestore => "STARTED-BACKUP-RESTORE"
  | .startedBackupStop => "STARTED-BACKUP-STOP"
  | .startedBackupRestart => "STARTED-BACKUP-RESTART"
  | .restarting => "RESTARTING"
  | .startedFiledel => "STARTED-FILEDEL"
  | .startedZiplogs => "STARTED-ZIPLOGS"
  | .startedCleanup => "STARTED-CLEANUP"
  | .stoppedCleanup => "STOPPED-CLEANUP"
  | .degraded => "DEGRADED"
  | .upgrading => "UPGRADING"
  | .primaryNotEnabled => "PRIMARY-NOT-ENABLED"

/-- The text of a reported status. -/
def statusText : TableauStatus → String
  | .running => "RUNNING"
  | .stopped => "STOPPED"
  | .degraded => "DEGRADED"
  | .unknown => "UNKNOWN"

/-- Tableau runs, as far as the main state says. -/
def Running (state : MainState) : Prop := state = .started ∨ state = .degraded

instance (state : MainState) : Decidable (Running state) :=
  inferInstanceAs (Decidable (_ ∨ _))

/-- Tableau is stopped, as far as the main state says. -/
def Halted (state : MainState) : Prop := state = .stopped ∨ state = .stoppedUnexpected

instance (state : MainState) : Decidable (Halted state) :=
  inferInstanceAs (Decidable (_ ∨ _))

/-- Find the agent and take its lock, or say why not. -/
def underLock (errnum : ClientError) (message : String) (work : Handling PUnit) :
    Handling PUnit := do
  if ← getAgent scene command then
    if ← userActionLock scene then work
    else error errnum message

/-- Say why a command that holds the lock does not go on, and give the lock back. -/
def refuse (errnum : ClientError) (message : String) : Handling PUnit := do
  error errnum message
  userActionUnlock

/-! ## Backup -/

/-- The stage in which a backup has ended. -/
def backupStage (body : Body) : BackupStage :=
  if body.failed then .failed
  else if body.has "copy-failed" then .finishedCopyFailed
  else .finished

/-- The part of `do_backup` after the backup: old backups are rotated, the main state and
the lock come back, and the stored file is reported. -/
def concludeBackup (mainState : MainState) (occasion : Occasion) (body : Body) :
    Handling PUnit := do
  let rotateInfo ← perform scene .rotate scene.rotate
  let told ← Script.settle (body.extend "info" rotateInfo rotateInfo)
  gen scene (.backup occasion (backupStage told))
  update mainState
  userActionUnlock
  if told.failed then reportStatus told
  else
    match told "fileid" with
    | some (.number fileid) =>
      match ← Script.settle (scene.fileById fileid) with
      | some entry => reportStatus entry
      | none => throw ⟨.attributeError, "'NoneType' object has no attribute 'api'"⟩
    | _ => throw ⟨.keyError, "fileid"⟩

/-- The part of `do_backup` that starts with the backup. -/
def runBackup (mainState : MainState) (userid : Option Int) : Handling PUnit := do
  let occasion : Occasion := if userid = none then .scheduled else .user
  gen scene (.backup occasion .started)
  ack
  match ← Script.attempt Failure.isStandardError (perform scene .backup (backupCmd scene)) with
  | .ok body => concludeBackup scene mainState occasion body
  | .error failure =>
    concludeBackup scene mainState occasion
      ((Body.error ("Backup Error. Traceback: " ++ failure.message)).set "info" (.text "Failure"))

/-- The part of `do_backup` under the lock. -/
def backupLocked (userid : Option Int) : Handling PUnit := do
  let mainState ← getState
  if ¬ (Running mainState ∨ Halted mainState) then
    refuse .busy ("FAIL: Can't backup - main state is: " ++ stateText mainState)
  else
    let reportedStatus ← Script.settle scene.tableauStatus
    match reportedStatus with
    | .running | .degraded =>
      update .startedBackup
      runBackup scene mainState userid
    | .stopped =>
      update .stoppedBackup
      runBackup scene mainState userid
    | .unknown =>
      refuse .wrongState
        ("FAIL: Can't backup - reported status is: " ++ statusText reportedStatus)

/-- `CliHandler.do_backup`. -/
def doBackup : Handling PUnit := do
  if command.args ≠ [] then error .usage "usage: backup"
  else
    let userid ← Script.settle command.user
    if userid = none ∧ scene.backupAutoRetainCount = 0 then
      ack
      reportStatus (.single "info" (.text "Scheduled backups are disabled"))
    else underLock scene command .busy "Busy with another user request" (backupLocked scene userid)

/-! ## Start, stop and restart -/

/-- The part of `do_start` from the agent's command on. -/
def finishStart : Handling PUnit := do
  let body ← perform scene (.tabadmin .start) (scene.cliCmd .start)
  let exitStatus := (body "exit-status").getD (.number 1)
  checkStatusWithConnection scene
  if exitStatus.truthy then
    gen scene .tableauStartFailed
    update .stopped
    gen scene .stateStopped
  else
    update .started
    gen scene .stateStarted
  userActionUnlock
  reportStatus body

/-- The part of `do_start` that starts Tableau. -/
def runStart : Handling PUnit := do
  update .starting
  ack
  let _ ← Script.settle command.user
  if (← get).board.maintStarted then
    let _ ← maint scene .stop
  finishStart scene

/-- The part of `do_start` under the lock. -/
def startLocked : Handling PUnit := do
  let mainState ← getState
  if ¬ Halted mainState then
    refuse .wrongState ("Can't start - main state is: " ++ stateText mainState)
  else
    let reportedStatus ← Script.settle scene.tableauStatus
    if reportedStatus ≠ .stopped then
      refuse .wrongState ("Can't start - reported status is: " ++ statusText reportedStatus)
    else runStart scene command

/-- `CliHandler.do_start`. -/
def doStart : Handling PUnit := do
  if command.args ≠ [] then error .usage "usage: start"
  else underLock scene command .busy "Busy with another user request" (startLocked scene command)

/-- `StateControl.ACTION_STOP` and `StateControl.ACTION_RESTART`. -/
inductive StopAction where
  | stop
  | restart
  deriving DecidableEq, Repr

namespace StopAction

/-- The main state while the backup runs. -/
def backupState : StopAction → MainState
  | stop => .startedBackupStop
  | restart => .startedBackupRestart

/-- The occasion of the backup. -/
def occasion : StopAction → Occasion
  | stop => .beforeStop
  | restart => .beforeRestart

/-- The main states in which the action is done. -/
def GoodState (action : StopAction) (state : MainState) : Prop :=
  Running state ∨ action = restart ∧ Halted state

/-- The reported statuses with which the action is done. -/
def GoodStatus (action : StopAction) (status : TableauStatus) : Prop :=
  status = .running ∨ status = .degraded ∨ action = restart ∧ status = .stopped

instance (action : StopAction) (state : MainState) : Decidable (action.GoodState state) :=
  inferInstanceAs (Decidable (_ ∨ _))

instance (action : StopAction) (status : TableauStatus) : Decidable (action.GoodStatus status) :=
  inferInstanceAs (Decidable (_ ∨ _))

end StopAction

/-- Give up after a failure that has been met before the action: the state that was found
comes back, and so does the lock. -/
def giveUp (mainState : MainState) (body : Body) : Handling PUnit := do
  update mainState
  reportStatus body
  userActionUnlock

/-- The license check of a command that asks for one; whether to go on. -/
def licenseCheck (mainState : MainState) : Handling Bool := do
  if command.nolicense then pure true
  else
    let licenseBody ← perform scene .license scene.license
    if licenseBody.failed then
      giveUp mainState licenseBody
      pure false
    else pure true

/-- The backup of `pre_stop`; whether to go on. Nothing catches what it raises. -/
def backupBefore (action : StopAction) (mainState : MainState) : Handling Bool := do
  update action.backupState
  gen scene (.backup action.occasion .started)
  let body ← perform scene .backup (backupCmd scene)
  gen scene (.backup action.occasion (backupStage body))
  if body.failed then
    let told ← Script.settle (body.extend "info" "\nBackup failed.  Will not attempt stop"
      "Backup failed.  Will not attempt stop")
    giveUp mainState told
    pure false
  else pure true

/-- `CliHandler.pre_stop`; whether to go on, still under the lock. -/
def preStop (action : StopAction) : Handling Bool := do
  let mainState ← getState
  if ¬ action.GoodState mainState then
    refuse .wrongState ("can't stop - main state is: " ++ stateText mainState)
    pure false
  else
    let reportedStatus ← Script.settle scene.tableauStatus
    if ¬ action.GoodStatus reportedStatus then
      refuse .wrongState
        ("FAIL: Can't stop/restart - reported status is: " ++ statusText reportedStatus)
      pure false
    else
      ack
      if ← licenseCheck scene command mainState then
        if command.nobackup then pure true
        else backupBefore scene action mainState
      else pure false

/-- The part of `do_restart` that restarts Tableau. -/
def runRestart : Handling PUnit := do
  update .restarting
  gen scene (.restart .started)
  let body ← perform scene (.tabadmin .restart) (scene.cliCmd .restart)
  if body.failed then
    gen scene (.restart .failed)
    checkStatusWithConnection scene
    userActionUnlock
  else
    update .started
    gen scene (.restart .finished)
    userActionUnlock
  reportStatus body

/-- `CliHandler.do_restart`. -/
def doRestart : Handling PUnit := do
  if command.args ≠ [] then error .usage "usage: [/nobackup] [/nolicense] restart"
  else
    let _ ← Script.settle command.user
    underLock scene command .busy "Busy with another user request" do
      if ← preStop scene command .restart then runRestart scene

/-- Start the maintenance server after a stop, and note a failure in the reply. -/
def startMaint (body : Body) : Handling Body := do
  if body.failed ∨ command.nomaint then pure body
  else
    let maintBody ← maint scene .start
    if maintBody.failed then
      Script.settle (body.extend "info" "\nmaint start failed" "maint start failed")
    else pure body

/-- The part of `do_stop` that stops Tableau. -/
def runStop : Handling PUnit := do
  update .stopping
  let reply ← perform scene (.tabadmin .stop) (scene.cliCmd .stop)
  let body ← startMaint scene command reply
  checkStatusWithConnection scene
  if ¬ body.failed then
    gen scene .stateStopped
  userActionUnlock
  reportStatus body

/-- `CliHandler.do_stop`. -/
def doStop : Handling PUnit := do
  if command.args ≠ [] then error .usage "usage: [/nobackup] [/nolicense] [/nomaint] stop"
  else
    let _ ← Script.settle command.user
    underLock scene command .busy "Busy with another user request" do
      if ← preStop scene command .stop then runStop scene command

/-! ## Logs and cleanup -/

/-- The part of `do_ziplogs` and `do_cleanup` under the lock: a state of their own while
they work, and afterwards the state that they found. -/
def underState (whileRunning whileHalted : MainState) (work : Handling Body) :
    Handling PUnit := do
  let mainState ← getState
  if Running mainState ∨ Halted mainState then
    update (if Running mainState then whileRunning else whileHalted)
    let body ← work
    update mainState
    userActionUnlock
    reportStatus body
  else refuse .wrongState ("FAIL: Main state is " ++ stateText mainState)

/-- `CliHandler.do_ziplogs`. -/
def doZiplogs : Handling PUnit := do
  if command.args ≠ [] then error .usage "usage: ziplogs"
  else
    let userid ← Script.settle command.user
    if userid = none ∧ scene.ziplogAutoRetainCount = 0 then
      ack
      reportStatus (.single "info" (.text "Scheduled ziplogs are disabled"))
    else
      underLock scene command .wrongState "wrong state for command"
        (underState .startedZiplogs .stoppedZiplogs do
          ack
          perform scene (.tabadmin .ziplogs) (ziplogsCmd scene))

/-- `CliHandler.do_cleanup`. -/
def doCleanup : Handling PUnit := do
  if command.args ≠ [] then error .usage "usage: cleanup"
  else
    underLock scene command .busy "Busy with another user request"
      (underState .startedCleanup .stoppedCleanup do
        let _ ← Script.settle command.user
        ack
        perform scene (.tabadmin .cleanup) (cleanupCmd scene))

/-! ## Restore -/

/-- The end of the backup before a restore; whether to go on. -/
def concludeBackupBeforeRestore (mainState : MainState) (body : Body) : Handling Bool := do
  gen scene (.backup .beforeRestore (backupStage body))
  if body.failed ∨ body.has "copy-failed" then
    reportStatus body
    update mainState
    userActionUnlock
    pure false
  else pure true

/-- The backup before a restore; whether to go on. -/
def backupBeforeRestore (mainState : MainState) : Handling Bool := do
  gen scene (.backup .beforeRestore .started)
  match ← Script.attempt Failure.isStandardError (perform scene .backup (backupCmd scene)) with
  | .ok body => concludeBackupBeforeRestore scene mainState body
  | .error failure =>
    concludeBackupBeforeRestore scene mainState
      (.error ("Backup For Restore Error. Traceback: " ++ failure.message))

/-- The end of `do_restore`, after the restore. -/
def concludeRestore (body : Body) : Handling PUnit := do
  if body.failed then
    checkStatusWithConnection scene
    gen scene (.restore .failed)
    userActionUnlock
    reportStatus body
  else
    let rotateInfo ← perform scene .rotate scene.rotate
    let told ← Script.settle (body.extend "stdout" rotateInfo rotateInfo)
    checkStatusWithConnection scene
    gen scene (.restore .finished)
    userActionUnlock
    reportStatus told

/-- The last part of `do_restore`, which starts with the restore. -/
def runRestore (mainState : MainState) : Handling PUnit := do
  match ← Script.attempt Failure.isStandardError (restoreCmd scene mainState) with
  | .ok body => concludeRestore scene body
  | .error failure =>
    update mainState
    concludeRestore scene (.error ("Restore Error: Traceback: " ++ failure.message))

/-- The part of `do_restore` from the acknowledgement on. -/
def acceptedRestore (mainState : MainState) : Handling PUnit := do
  ack
  if ← licenseCheck scene command mainState then
    if command.nobackup then runRestore scene mainState
    else if ← backupBeforeRestore scene mainState then runRestore scene mainState

/-- The part of `do_restore` under the lock. -/
def restoreLocked : Handling PUnit := do
  let mainState ← getState
  if ¬ (Running mainState ∨ Halted mainState) then
    refuse .wrongState ("FAIL: Can't backup before restore - main state is: " ++ stateText mainState)
  else
    match ← Script.attempt Failure.isIOError (perform scene .findFile scene.findFile) with
    | .error failure =>
      error .commandFailed failure.message
      gen scene (.restore .failed)
      userActionUnlock
    | .ok _ =>
      let reportedStatus ← Script.settle scene.tableauStatus
      match reportedStatus with
      | .running | .degraded =>
        update .startedBackupRestore
        acceptedRestore scene command mainState
      | .stopped =>
        update .stoppedBackupRestore
        acceptedRestore scene command mainState
      | .unknown =>
        refuse .wrongState
          ("FAIL: Can't backup before restore - status is: " ++ statusText reportedStatus)

/-- `CliHandler.do_restore`. The lock is asked for after the user's number. -/
def doRestore : Handling PUnit := do
  if command.args.length = 0 ∨ 2 < command.args.length then
    error .usage ("usage: [/noconfig] [/nobackup] [/nolicense] restore backup-name " ++
      "[tableau-run-as-user-password]")
  else
    if ← getAgent scene command then
      let _ ← Script.settle command.user
      if ← userActionLock scene then restoreLocked scene command
      else error .busy "Busy with another user request"

/-! ## The command loop -/

/-- The seven commands. -/
inductive UserCommand where
  | backup
  | restore
  | start
  | stop
  | restart
  | ziplogs
  | cleanup
  deriving DecidableEq, Repr

/-- The script of a command. -/
def UserCommand.script : UserCommand → Handling PUnit
  | backup => doBackup scene command
  | restore => doRestore scene command
  | start => doStart scene command
  | stop => doStop scene command
  | restart => doRestart scene command
  | ziplogs => doZiplogs scene command
  | cleanup => doCleanup scene command

/-- What `handle` does after a command. -/
inductive AfterCommand where
  | nextCommand
  | exit (status : Nat)
  deriving DecidableEq, Repr

/-- The part of `CliHandler.handle` that runs a command. -/
def handle (script : Handling PUnit) : AfterCommand × Progress :=
  match script.run.run scene.start with
  | (.ok _, final) => (.nextCommand, final)
  | (.error failure, final) =>
    let response : Response :=
      if failure.isInvalidStateError then .error .wrongState failure.message
      else .error .commandFailed ("Command Failed with Exception.\n" ++ failure.message)
    (if failure.isInvalidStateError then .nextCommand else .exit 92,
      { final with responses := final.responses ++ [response] })

end Palette.Commands
