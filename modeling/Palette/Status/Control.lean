import Palette.Foundation.History
import Palette.Foundation.Transition
import Palette.Status.Transitions

/-!
# The writers of the main state

Four kinds of writers change the main state. The registration and the removal of a
primary agent run as sections of the agent manager: each first changes the dictionary of
registered agents and then writes the state. A user command takes the user-action lock
of the primary's connection, reads the state, and while it holds the lock writes states
of its own choice, such as the one it read. A status report is applied by the status
monitor, or by a command that checks the status while it holds the lock.

The monitor tries the lock and drops it again before it asks the agent. Only when it has
a report it tries the lock a second time, and gives the report up if the lock is taken.
Each connection has a lock of its own, and its owner may take it again.

The history records what happened, the newest first. Nothing in a step reads it.
-/

namespace Palette.Status

open Palette.Foundation

universe u v

/-- The threads that write the main state under a user-action lock. -/
inductive Worker (Cmd : Type v) where
  | monitor
  | command (cmd : Cmd)
  deriving DecidableEq, Repr

/-- How far a status check on a connection has come. -/
inductive Check (Conn : Type u) where
  | rest
  | probed (conn : Conn)
  | asked (conn : Conn)
  | locked (conn : Conn) (status : TableauStatus)
  | decided (conn : Conn) (status : TableauStatus) (prevState : MainState)
  | applied (conn : Conn)
  deriving DecidableEq, Repr

/-- A worker's command holds the lock of a connection and may have read the main state;
the worker may be in the middle of a status check. -/
structure Local (Conn : Type u) where
  holding : Option Conn
  reading : Option MainState
  check : Check Conn
  deriving DecidableEq, Repr

/-- A section of the agent manager that has changed its dictionary and has yet to write
the main state. -/
inductive Section where
  | registering
  | removing
  deriving DecidableEq, Repr

/-- What happened. -/
inductive Happening (Conn : Type u) (Cmd : Type v) where
  | started (cmd : Cmd) (conn : Conn)
  | finished (cmd : Cmd)
  | read (cmd : Cmd)
  | queried (worker : Worker Cmd)
  | decided (worker : Worker Cmd)
  | applied (worker : Worker Cmd)
  | pended
  | disconnected
  deriving DecidableEq, Repr

/-- The main state with what else a report changes, the registered primaries, the
user-action locks with their owners and depths, and the workers. -/
structure Control (Conn : Type u) (Cmd : Type v) where
  board : Board
  primaries : List Conn
  inSection : Option Section
  locks : Conn → Option (Worker Cmd × Nat)
  workers : Worker Cmd → Local Conn
  history : List (Happening Conn Cmd)

/-- What happens next. -/
inductive Turn (Conn : Type u) (Cmd : Type v) where
  | insertPrimary (conn : Conn)
  | writePending
  | deletePrimary (conn : Conn)
  | writeDisconnected
  | begin (cmd : Cmd) (conn : Conn)
  | read (cmd : Cmd)
  | write (cmd : Cmd) (state : MainState)
  | finish (cmd : Cmd)
  | probe (conn : Conn)
  | ask (worker : Worker Cmd)
  | giveUp (worker : Worker Cmd)
  | attempt (worker : Worker Cmd) (status : TableauStatus)
  | decide (worker : Worker Cmd)
  | apply (worker : Worker Cmd) (setting : Setting)
  | release (worker : Worker Cmd)

/-- The main states in which a command goes on; it refuses all others. -/
def Accepted (state : MainState) : Prop :=
  state = .started ∨ state = .degraded ∨ state = .stopped ∨ state = .stoppedUnexpected

instance (state : MainState) : Decidable (Accepted state) :=
  inferInstanceAs (Decidable (_ ∨ _))

/-- A worker takes a lock, once more when it is the owner. -/
def acquire {Cmd : Type v} [DecidableEq Cmd] (lock : Option (Worker Cmd × Nat))
    (worker : Worker Cmd) : Option (Worker Cmd × Nat) :=
  match lock with
  | none => some (worker, 1)
  | some (owner, depth) => if owner = worker then some (owner, depth + 1) else none

/-- The owner of a lock gives it back once. -/
def released {Cmd : Type v} (lock : Option (Worker Cmd × Nat)) : Option (Worker Cmd × Nat) :=
  match lock with
  | some (owner, depth + 2) => some (owner, depth + 1)
  | _ => none

variable {Conn : Type u} {Cmd : Type v} [DecidableEq Conn] [DecidableEq Cmd]

namespace Control

/-- Record what happened. -/
def note (control : Control Conn Cmd) (happening : Happening Conn Cmd) : Control Conn Cmd :=
  { control with history := happening :: control.history }

/-- Change one worker. -/
def work (control : Control Conn Cmd) (worker : Worker Cmd) (changed : Local Conn) :
    Control Conn Cmd :=
  { control with workers := Function.update control.workers worker changed }

/-- Move the status check of a worker. -/
def check (control : Control Conn Cmd) (worker : Worker Cmd) (checked : Check Conn) :
    Control Conn Cmd :=
  control.work worker { control.workers worker with check := checked }

/-- Change one lock. -/
def lock (control : Control Conn Cmd) (conn : Conn) (changed : Option (Worker Cmd × Nat)) :
    Control Conn Cmd :=
  { control with locks := Function.update control.locks conn changed }

/-- Write the main state. -/
def state (control : Control Conn Cmd) (mainState : MainState) : Control Conn Cmd :=
  { control with board := { control.board with mainState := mainState } }

/-- `register` puts a primary into the dictionary. -/
def stepInsertPrimary (control : Control Conn Cmd) (conn : Conn) : Option (Control Conn Cmd) :=
  if control.inSection = none ∧ conn ∉ control.primaries then
    some { control with
      primaries := conn :: control.primaries
      inSection := some .registering }
  else none

/-- `register` writes the pending state. -/
def stepWritePending (control : Control Conn Cmd) : Option (Control Conn Cmd) :=
  if control.inSection = some .registering then
    some (({ control with inSection := none }.state .pending).note .pended)
  else none

/-- `remove_agent` deletes a primary from the dictionary. -/
def stepDeletePrimary (control : Control Conn Cmd) (conn : Conn) : Option (Control Conn Cmd) :=
  if control.inSection = none ∧ conn ∈ control.primaries then
    some { control with
      primaries := control.primaries.filter fun other => other ≠ conn
      inSection := some .removing }
  else none

/-- `remove_agent` writes the disconnected state. -/
def stepWriteDisconnected (control : Control Conn Cmd) : Option (Control Conn Cmd) :=
  if control.inSection = some .removing then
    some (({ control with inSection := none }.state .disconnected).note .disconnected)
  else none

/-- A command takes the user-action lock of a connection. -/
def stepBegin (control : Control Conn Cmd) (cmd : Cmd) (conn : Conn) :
    Option (Control Conn Cmd) :=
  if control.workers (.command cmd) = ⟨none, none, .rest⟩ ∧ control.locks conn = none then
    some (((control.lock conn (some (.command cmd, 1))).work (.command cmd)
      ⟨some conn, none, .rest⟩).note (.started cmd conn))
  else none

/-- A command reads the main state. -/
def stepRead (control : Control Conn Cmd) (cmd : Cmd) : Option (Control Conn Cmd) :=
  match control.workers (.command cmd) with
  | ⟨some conn, _, .rest⟩ =>
      some ((control.work (.command cmd)
        ⟨some conn, some control.board.mainState, .rest⟩).note (.read cmd))
  | _ => none

/-- A command writes a main state; it has read one in which it goes on. -/
def stepWrite (control : Control Conn Cmd) (cmd : Cmd) (state : MainState) :
    Option (Control Conn Cmd) :=
  match control.workers (.command cmd) with
  | ⟨some _, some prevState, .rest⟩ =>
      if Accepted prevState then some (control.state state) else none
  | _ => none

/-- A command gives the user-action lock back. -/
def stepFinish (control : Control Conn Cmd) (cmd : Cmd) : Option (Control Conn Cmd) :=
  match control.workers (.command cmd) with
  | ⟨some conn, _, .rest⟩ =>
      some (((control.lock conn (released (control.locks conn))).work (.command cmd)
        ⟨none, none, .rest⟩).note (.finished cmd))
  | _ => none

/-- `check_status` tries the user-action lock of the primary and drops it again. -/
def stepProbe (control : Control Conn Cmd) (conn : Conn) : Option (Control Conn Cmd) :=
  if (control.workers .monitor).check = .rest ∧ conn ∈ control.primaries ∧
      control.locks conn = none then
    some (control.check .monitor (.probed conn))
  else none

/-- A worker asks the agent for the status: the monitor after its first try of the lock,
a command on the connection whose lock it holds. -/
def stepAsk (control : Control Conn Cmd) (worker : Worker Cmd) : Option (Control Conn Cmd) :=
  match worker, control.workers worker with
  | .monitor, ⟨_, _, .probed conn⟩ =>
      some ((control.check .monitor (.asked conn)).note (.queried .monitor))
  | .command cmd, ⟨some conn, _, .rest⟩ =>
      some ((control.check (.command cmd) (.asked conn)).note (.queried (.command cmd)))
  | _, _ => none

/-- The agent's answer is no status report. -/
def stepGiveUp (control : Control Conn Cmd) (worker : Worker Cmd) : Option (Control Conn Cmd) :=
  match (control.workers worker).check with
  | .asked _ => some (control.check worker .rest)
  | _ => none

/-- `_finish_status` tries the user-action lock with a report. -/
def stepAttempt (control : Control Conn Cmd) (worker : Worker Cmd) (status : TableauStatus) :
    Option (Control Conn Cmd) :=
  match (control.workers worker).check with
  | .asked conn =>
    match acquire (control.locks conn) worker with
    | none => some (control.check worker .rest)
    | some taken => some ((control.lock conn (some taken)).check worker (.locked conn status))
  | _ => none

/-- `_set_main_state` reads the previous state. -/
def stepDecide (control : Control Conn Cmd) (worker : Worker Cmd) : Option (Control Conn Cmd) :=
  match (control.workers worker).check with
  | .locked conn status =>
      some ((control.check worker (.decided conn status control.board.mainState)).note
        (.decided worker))
  | _ => none

/-- `_set_main_state` writes what the report and the previous state ask for. -/
def stepApply (control : Control Conn Cmd) (worker : Worker Cmd) (setting : Setting) :
    Option (Control Conn Cmd) :=
  match (control.workers worker).check with
  | .decided conn status prevState =>
      some (({ control with
        board := setMainState setting control.board prevState status }.check worker
          (.applied conn)).note (.applied worker))
  | _ => none

/-- `_finish_status` gives the user-action lock back. -/
def stepRelease (control : Control Conn Cmd) (worker : Worker Cmd) : Option (Control Conn Cmd) :=
  match (control.workers worker).check with
  | .applied conn =>
      some ((control.lock conn (released (control.locks conn))).check worker .rest)
  | _ => none

/-- One turn of some thread. -/
def step (control : Control Conn Cmd) : Turn Conn Cmd → Option (Control Conn Cmd)
  | .insertPrimary conn => control.stepInsertPrimary conn
  | .writePending => control.stepWritePending
  | .deletePrimary conn => control.stepDeletePrimary conn
  | .writeDisconnected => control.stepWriteDisconnected
  | .begin cmd conn => control.stepBegin cmd conn
  | .read cmd => control.stepRead cmd
  | .write cmd state => control.stepWrite cmd state
  | .finish cmd => control.stepFinish cmd
  | .probe conn => control.stepProbe conn
  | .ask worker => control.stepAsk worker
  | .giveUp worker => control.stepGiveUp worker
  | .attempt worker status => control.stepAttempt worker status
  | .decide worker => control.stepDecide worker
  | .apply worker setting => control.stepApply worker setting
  | .release worker => control.stepRelease worker

end Control

attribute [simp] Control.note Control.work Control.check Control.lock Control.state

/-- A started controller: disconnected, no primary, no lock taken, every worker at rest. -/
def Control.init : Control Conn Cmd where
  board := ⟨.disconnected, false, none, false, []⟩
  primaries := []
  inSection := none
  locks := fun _ => none
  workers := fun _ => ⟨none, none, .rest⟩
  history := []

/-- The writers of the main state as a machine. -/
def mainStateMachine : Machine (Control Conn Cmd) (Turn Conn Cmd) where
  initial control := control = .init
  step := Control.step

/-- The primary connects and the monitor's first report finds it running. -/
def firstReport : List (Turn Nat Unit) :=
  [.insertPrimary 1, .writePending, .probe 1, .ask .monitor, .attempt .monitor .running,
    .decide .monitor, .apply .monitor ⟨false, 120, 0, true⟩, .release .monitor]

/-- The controller after the first report. -/
def reported : Control Nat Unit :=
  (mainStateMachine.run .init firstReport).getD .init

/-! ## What one turn can do -/

/-- The turns that are taken, each with the tests that lead to it. -/
inductive Change (control : Control Conn Cmd) : Turn Conn Cmd → Control Conn Cmd → Prop where
  | primaryInserted (conn : Conn) (idle : control.inSection = none)
      (fresh : conn ∉ control.primaries) :
      Change control (.insertPrimary conn)
        { control with
          primaries := conn :: control.primaries
          inSection := some .registering }
  | pendingWritten (registering : control.inSection = some .registering) :
      Change control .writePending
        (({ control with inSection := none }.state .pending).note .pended)
  | primaryDeleted (conn : Conn) (idle : control.inSection = none)
      (registered : conn ∈ control.primaries) :
      Change control (.deletePrimary conn)
        { control with
          primaries := control.primaries.filter fun other => other ≠ conn
          inSection := some .removing }
  | disconnectedWritten (removing : control.inSection = some .removing) :
      Change control .writeDisconnected
        (({ control with inSection := none }.state .disconnected).note .disconnected)
  | begun (cmd : Cmd) (conn : Conn) (idle : control.workers (.command cmd) = ⟨none, none, .rest⟩)
      (free : control.locks conn = none) :
      Change control (.begin cmd conn)
        (((control.lock conn (some (.command cmd, 1))).work (.command cmd)
          ⟨some conn, none, .rest⟩).note (.started cmd conn))
  | stateRead (cmd : Cmd) (conn : Conn) (reading : Option MainState)
      (place : control.workers (.command cmd) = ⟨some conn, reading, .rest⟩) :
      Change control (.read cmd)
        ((control.work (.command cmd) ⟨some conn, some control.board.mainState, .rest⟩).note
          (.read cmd))
  | stateWritten (cmd : Cmd) (conn : Conn) (prevState state : MainState)
      (place : control.workers (.command cmd) = ⟨some conn, some prevState, .rest⟩)
      (accepted : Accepted prevState) :
      Change control (.write cmd state) (control.state state)
  | finished (cmd : Cmd) (conn : Conn) (reading : Option MainState)
      (place : control.workers (.command cmd) = ⟨some conn, reading, .rest⟩) :
      Change control (.finish cmd)
        (((control.lock conn (released (control.locks conn))).work (.command cmd)
          ⟨none, none, .rest⟩).note (.finished cmd))
  | probed (conn : Conn) (rests : (control.workers .monitor).check = .rest)
      (registered : conn ∈ control.primaries) (free : control.locks conn = none) :
      Change control (.probe conn) (control.check .monitor (.probed conn))
  | monitorAsked (conn : Conn) (place : (control.workers .monitor).check = .probed conn) :
      Change control (.ask .monitor)
        ((control.check .monitor (.asked conn)).note (.queried .monitor))
  | commandAsked (cmd : Cmd) (conn : Conn) (reading : Option MainState)
      (place : control.workers (.command cmd) = ⟨some conn, reading, .rest⟩) :
      Change control (.ask (.command cmd))
        ((control.check (.command cmd) (.asked conn)).note (.queried (.command cmd)))
  | gaveUp (worker : Worker Cmd) (conn : Conn) (place : (control.workers worker).check = .asked conn) :
      Change control (.giveUp worker) (control.check worker .rest)
  | refused (worker : Worker Cmd) (status : TableauStatus) (conn : Conn)
      (place : (control.workers worker).check = .asked conn)
      (taken : acquire (control.locks conn) worker = none) :
      Change control (.attempt worker status) (control.check worker .rest)
  | acquired (worker : Worker Cmd) (status : TableauStatus) (conn : Conn)
      (owned : Worker Cmd × Nat) (place : (control.workers worker).check = .asked conn)
      (taken : acquire (control.locks conn) worker = some owned) :
      Change control (.attempt worker status)
        ((control.lock conn (some owned)).check worker (.locked conn status))
  | decided (worker : Worker Cmd) (conn : Conn) (status : TableauStatus)
      (place : (control.workers worker).check = .locked conn status) :
      Change control (.decide worker)
        ((control.check worker (.decided conn status control.board.mainState)).note
          (.decided worker))
  | applied (worker : Worker Cmd) (setting : Setting) (conn : Conn) (status : TableauStatus)
      (prevState : MainState)
      (place : (control.workers worker).check = .decided conn status prevState) :
      Change control (.apply worker setting)
        (({ control with
          board := setMainState setting control.board prevState status }.check worker
            (.applied conn)).note (.applied worker))
  | releasedAgain (worker : Worker Cmd) (conn : Conn)
      (place : (control.workers worker).check = .applied conn) :
      Change control (.release worker)
        ((control.lock conn (released (control.locks conn))).check worker .rest)

/-- Every turn that is taken is one of the changes. -/
theorem step_change (control next : Control Conn Cmd) (turn : Turn Conn Cmd)
    (stepped : control.step turn = some next) : Change control turn next := by
  cases turn with
  | insertPrimary conn =>
    simp only [Control.step, Control.stepInsertPrimary, Option.ite_none_right_eq_some,
      Option.some.injEq] at stepped
    obtain ⟨⟨idle, fresh⟩, rfl⟩ := stepped
    exact .primaryInserted conn idle fresh
  | writePending =>
    simp only [Control.step, Control.stepWritePending, Option.ite_none_right_eq_some,
      Option.some.injEq] at stepped
    obtain ⟨registering, rfl⟩ := stepped
    exact .pendingWritten registering
  | deletePrimary conn =>
    simp only [Control.step, Control.stepDeletePrimary, Option.ite_none_right_eq_some,
      Option.some.injEq] at stepped
    obtain ⟨⟨idle, registered⟩, rfl⟩ := stepped
    exact .primaryDeleted conn idle registered
  | writeDisconnected =>
    simp only [Control.step, Control.stepWriteDisconnected, Option.ite_none_right_eq_some,
      Option.some.injEq] at stepped
    obtain ⟨removing, rfl⟩ := stepped
    exact .disconnectedWritten removing
  | begin cmd conn =>
    simp only [Control.step, Control.stepBegin, Option.ite_none_right_eq_some,
      Option.some.injEq] at stepped
    obtain ⟨⟨idle, free⟩, rfl⟩ := stepped
    exact .begun cmd conn idle free
  | read cmd =>
    simp only [Control.step, Control.stepRead] at stepped
    split at stepped
    · rename_i conn reading place
      cases stepped
      exact .stateRead cmd conn reading place
    · cases stepped
  | write cmd state =>
    simp only [Control.step, Control.stepWrite] at stepped
    split at stepped
    · rename_i conn prevState place
      simp only [Option.ite_none_right_eq_some, Option.some.injEq] at stepped
      obtain ⟨accepted, rfl⟩ := stepped
      exact .stateWritten cmd conn prevState state place accepted
    · cases stepped
  | finish cmd =>
    simp only [Control.step, Control.stepFinish] at stepped
    split at stepped
    · rename_i conn reading place
      cases stepped
      exact .finished cmd conn reading place
    · cases stepped
  | probe conn =>
    simp only [Control.step, Control.stepProbe, Option.ite_none_right_eq_some,
      Option.some.injEq] at stepped
    obtain ⟨⟨rests, registered, free⟩, rfl⟩ := stepped
    exact .probed conn rests registered free
  | ask worker =>
    simp only [Control.step, Control.stepAsk] at stepped
    split at stepped
    · rename_i holding reading conn place
      cases stepped
      exact .monitorAsked conn (by rw [place])
    · rename_i cmd conn reading place
      cases stepped
      exact .commandAsked cmd conn reading place
    · cases stepped
  | giveUp worker =>
    simp only [Control.step, Control.stepGiveUp] at stepped
    split at stepped
    · rename_i conn place
      cases stepped
      exact .gaveUp worker conn place
    · cases stepped
  | attempt worker status =>
    simp only [Control.step, Control.stepAttempt] at stepped
    split at stepped
    · rename_i conn place
      cases taken : acquire (control.locks conn) worker with
      | none =>
        simp only [taken, Option.some.injEq] at stepped
        subst stepped
        exact .refused worker status conn place taken
      | some owned =>
        simp only [taken, Option.some.injEq] at stepped
        subst stepped
        exact .acquired worker status conn owned place taken
    · cases stepped
  | decide worker =>
    simp only [Control.step, Control.stepDecide] at stepped
    split at stepped
    · rename_i conn status place
      cases stepped
      exact .decided worker conn status place
    · cases stepped
  | apply worker setting =>
    simp only [Control.step, Control.stepApply] at stepped
    split at stepped
    · rename_i conn status prevState place
      cases stepped
      exact .applied worker setting conn status prevState place
    · cases stepped
  | release worker =>
    simp only [Control.step, Control.stepRelease] at stepped
    split at stepped
    · rename_i conn place
      cases stepped
      exact .releasedAgain worker conn place
    · cases stepped

end Palette.Status
