import Palette.Commands.Restore
import Palette.Status.Leading

/-!
# The seven commands under all answers

For each command the conditions of its robustness are put together. A single answer that
no handler guards is enough to end the controller with the lock taken.
-/

namespace Palette.Commands

open Palette.Foundation Palette.Status

/-- When a command is robust. -/
def Calm (scene : Scene) (command : Command) : UserCommand → Prop
  | .backup => BackupCalm scene command
  | .restore => RestoreCalm scene command
  | .start => StartCalm scene command
  | .stop => StopCalm scene command
  | .restart => RestartCalm scene command
  | .ziplogs => ZiplogsCalm scene command
  | .cleanup => CleanupCalm scene command

/-- A command is robust exactly where each call that it makes unguarded is answered and
the state that it leaves settles. -/
theorem command_robust_iff (which : UserCommand) (scene : Scene) (command : Command) :
    Robust scene (which.script scene command) ↔ Calm scene command which := by
  cases which with
  | backup => exact doBackup_robust
  | restore => exact doRestore_robust
  | start => exact doStart_robust
  | stop => exact doStop_robust
  | restart => exact doRestart_robust
  | ziplogs => exact doZiplogs_robust
  | cleanup => exact doCleanup_robust

/-- A running server whose agent answers a backup with a text that is no JSON. -/
def garbledScene : Scene where
  board := ⟨.started, false, none, false, []⟩
  busy := false
  before82 := false
  backupAutoRetainCount := 2
  ziplogAutoRetainCount := 2
  agentByUuid := fun _ => .ok true
  agentRow := .ok (some true)
  tableauStatus := .ok .running
  statusAtRestore := .ok .running
  gen := fun _ => .ok ()
  license := .ok fun _ => none
  diskCheck := .ok .vol
  cliCmd := fun _ => .error ⟨.valueError, "No JSON object could be decoded"⟩
  filesize := .ok (some (.single "size" (.number 1)))
  placeFile := .ok ⟨"", false, false, some 1⟩
  rotate := .ok ""
  fileById := fun _ => .ok (some fun _ => none)
  findFile := .ok ()
  getFile := .ok false
  deleteVolFile := .ok fun _ => none
  maint := fun _ => .ok (fun _ => none, true)
  statusCheck := .ok (some ⟨.running, 60, 0, true⟩)
  lost := fun _ => false
  elapsed := 1
  statistics := ""
  newFile := "palette.tsbak"

/-- A command line without options, apart from the agent. -/
def plainCommand : Command := ⟨[], none, some (some "primary"), false, false, false⟩

/-- A stop whose backup is answered with no JSON ends the controller. The lock stays
taken, and no status check moves the main state that is left. -/
theorem garbled_stop_not_robust :
    ¬ Robust garbledScene (UserCommand.stop.script garbledScene plainCommand) ∧
      (handle garbledScene (UserCommand.stop.script garbledScene plainCommand)).1 = .exit 92 ∧
      ∃ final, (handle garbledScene (UserCommand.stop.script garbledScene plainCommand)).2 = final ∧
        final.acquired = 1 ∧ final.released = 0 ∧ final.board.mainState = .startedBackupStop ∧
        Stuck garbledScene.before82 final.board.mainState := by
  refine ⟨fun robust => ?_, rfl, _, rfl, rfl, rfl, rfl, .inl ⟨trivial, rfl⟩⟩
  exact robust

/-! ## A restore of an old server -/

/-- A server of version 8.1 whose agent answers everything well. -/
def oldScene : Scene :=
  { garbledScene with
    before82 := before82 "8.1.12"
    cliCmd := fun _ => .ok fun _ => none }

/-- The command line of a restore. -/
def restoreCommand : Command := { plainCommand with args := ["palette.tsbak"] }

/-- A restore of version 8.1 reports that Tableau runs, and returns in the state of
starting. The next report that Tableau runs leaves it there. -/
theorem old_restore_not_led :
    (handle oldScene (doRestore oldScene restoreCommand)).1 = .nextCommand ∧
      (handle oldScene (doRestore oldScene restoreCommand)).2.board.mainState =
        .startingRestore ∧
      ¬ StatusReport.Leads ⟨some "8.1.12", .running, 60, 0, true⟩
        (handle oldScene (doRestore oldScene restoreCommand)).2.board := by
  refine ⟨rfl, rfl, fun leads => ?_⟩
  have stays : (StatusReport.apply ⟨some "8.1.12", .running, 60, 0, true⟩
      (handle oldScene (doRestore oldScene restoreCommand)).2.board).mainState =
        .startingRestore := by decide
  exact leads.steady (.inr (.inr (.inr (.inl stays))))

end Palette.Commands
