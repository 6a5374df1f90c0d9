/-!
# The main state

The system table stores one main state of the monitored server. Agent connections,
user commands and status reports all write it.
-/

namespace Palette.Status

/-- The values of `StateManager`. -/
inductive MainState where
  | disconnected
  | pending
  | stopping
  | stoppingRestore
  | stopped
  | stoppedUnexpected
  | stoppedRestore
  | stoppedBackup
  | stoppedBackupRestore
  | stoppedFiledel
  | stoppedZiplogs
  | starting
  | startingRestore
  | started
  | startedBackup
  | startedBackupRestore
  | startedBackupStop
  | startedBackupRestart
  | restarting
  | startedFiledel
  | startedZiplogs
  | startedCleanup
  | stoppedCleanup
  | degraded
  | upgrading
  | primaryNotEnabled
  deriving DecidableEq, Repr

end Palette.Status
