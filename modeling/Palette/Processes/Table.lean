import Palette.Cli.Json
import Palette.Foundation.Session

/-!
# The table of Tableau's processes

The status monitor keeps the processes that were reported last, with a row named
`Status` for the server as a whole. A new report deletes all rows and merges its own.
The key of a row is generated, and the merged rows carry none, so each of them becomes a
new row; the table is the list of its rows. The number of a process is a 32-bit integer.

The rows are committed when the check may speak for the server, that is, when no user
action holds the lock; otherwise the check rolls back.
-/

namespace Palette.Processes

open Palette.Commands Palette.Foundation

/-- `TableauProcess`. The number is a process number or a port. -/
structure Process where
  agentid : Nat
  name : String
  pid : Int
  status : String
  deriving DecidableEq, Repr

/-- The number fits its column. -/
def Process.storable (process : Process) : Bool :=
  -2147483648 ≤ process.pid ∧ process.pid ≤ 2147483647

/-- `SysteminfoError`. -/
inductive SysteminfoError where
  | connectFailure
  | commFailure
  | commTimedout
  | notFound
  | unexpectedResponse
  | parseFailure
  | jsonParseFailure
  deriving DecidableEq, Repr

/-- A `SysteminfoException`, which the check handles, or any other exception. -/
inductive Fault where
  | systeminfo (errnum : SysteminfoError) (message : String)
  | other (failure : Failure)
  deriving DecidableEq, Repr

/-- The database refuses a number that does not fit. -/
def outOfRange : Fault := .other ⟨.otherException, "DataError: integer out of range"⟩

/-- What the monitor knows of the agents and of the characters that are not ASCII, and
what it meets when it finishes a status check. -/
structure Monitor where
  /-- The primary agent that is checked. -/
  agentid : Nat
  /-- `Agent.get_agentid_from_host`; no identifier is zero. -/
  agentidFromHost : String → Option Nat
  /-- The display name of an agent's row, if there is one. -/
  displayname : Nat → Option String
  /-- The agent's row belongs to the environment and has the type of a primary. -/
  isPrimary : Nat → Bool
  /-- A user action holds the lock. -/
  busy : Bool
  /-- Setting the main state saves something, which commits. -/
  saves : Bool
  isspace : Char → Bool
  isdigit : Char → Bool
  decimal : Char → Option Nat

/-- A script of the monitor on its session. -/
abbrev Visit (Value : Type) : Type := Script (Session Process) Fault Value

/-- A query for something else, before which the last row is written. -/
def query : Visit PUnit := Session.flush Process.storable outOfRange

/-- `remove_all_status`. -/
def removeAllStatus : Visit PUnit := Session.deleteAll Process.storable outOfRange

/-- `TableauStatusMonitor._add`. -/
def add (agentid : Nat) (name : String) (pid : Int) (status : String) : Visit PUnit :=
  Session.merge Process.storable outOfRange ⟨agentid, name, pid, status⟩

/-- `session.commit()`. -/
def commit : Visit PUnit := Session.commit Process.storable outOfRange

/-- The rows among which `get_tableau_status` looks for one. -/
def statusRows (isPrimary : Nat → Bool) (rows : List Process) : List Process :=
  rows.filter fun row => row.name = "Status" ∧ isPrimary row.agentid

/-- What `get_tableau_status` makes of the rows. -/
def tableauStatus (isPrimary : Nat → Bool) (rows : List Process) : Except Fault String :=
  match statusRows isPrimary rows with
  | [] => .ok "UNKNOWN"
  | [row] => .ok row.status
  | _ => .error (.other ⟨.otherException, "Multiple rows were found for one()"⟩)

/-- `get_tableau_status`. -/
def getTableauStatus (monitor : Monitor) : Visit String := do
  query
  Script.settle (tableauStatus monitor.isPrimary (← get).view)

/-- `TableauStatusMonitor._finish_status`. The main state is kept elsewhere; here it counts
that setting it queries, and commits if something is saved. -/
def finishStatus (monitor : Monitor) : Visit PUnit :=
  if monitor.busy then Session.rollback
  else do
    query
    if monitor.saves then commit
    commit

end Palette.Processes
