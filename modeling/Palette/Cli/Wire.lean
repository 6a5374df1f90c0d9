import Mathlib.Data.PNat.Defs
import Palette.Cli.Json
import Palette.Foundation.Script

/-!
# The connection to an agent

A command talks to its agent over one connection, under the connection's lock, and writes
an entry for the request into the database. The agent answers with any status and any
text, or the connection fails; a text counts for what the decoder makes of it.

The state of a command is what it does on the connection: how often it holds the lock,
the messages it has sent with the replies to them, and whether it has removed the agent.
The removal itself belongs to the agent manager.
-/

namespace Palette.Cli

open Palette.Commands Palette.Foundation

/-- The text of a reply, and its value if it is JSON. -/
structure Text where
  raw : String
  loads : Option Json

/-- The two classes of exceptions of a connection that fails. -/
inductive LossClass where
  | httpException
  | environmentError
  deriving DecidableEq, Repr

/-- The exception of a connection that fails. -/
structure Loss where
  kind : LossClass
  message : String
  deriving DecidableEq, Repr

/-- What comes back for a request. The connection may fail while the request is sent,
while the reply is awaited or while its text is read. -/
inductive Reply where
  | lost (loss : Loss)
  | response (status : Nat) (reason : String) (text : Text)

/-- The messages to the agent. -/
inductive Message where
  | start (xid : ℕ+)
  | status (xid : Json)
  | kill (xid : Json)
  | cleanup (xid : ℕ+)

/-- A message and what came back for it. -/
structure Exchange where
  message : Message
  reply : Reply

/-- What a command has done on the connection, the latest exchange first. -/
structure Wire where
  locks : Nat
  exchanges : List Exchange
  removed : Bool

/-- The table of requests. An entry that is found is the one that was asked for. -/
structure XidTable where
  /-- Insert an entry and commit it. -/
  insert : Except Failure ℕ+
  /-- Find the entry for a value. -/
  find : Json → Except Failure ℕ+
  /-- Mark an entry as finished and commit it. -/
  finish : ℕ+ → Except Failure Unit
  found : ∀ value xid, find value = .ok xid → value.numeric = some ((xid : Nat) : Rat)

/-- One look at a command that has not finished: the time since its start, what the agent
manager knows of the connection, and what comes back for the question. -/
structure Poll where
  elapsed : Rat
  initting : Bool
  connected : Bool
  reply : Reply

/-- Everything that a command meets. The polls end where the clock has passed the timeout
for good, so there is always one that does. -/
structure Dialogue where
  command : String
  displayname : String
  timeout : Nat
  table : XidTable
  start : Reply
  polls : List Poll
  kill : Reply
  cleanup : Reply

/-- A script on the connection. -/
abbrev Talk (Value : Type) : Type := Script Wire Failure Value

/-- `aconn.lock()`. -/
def lock : Talk PUnit := modify fun wire => { wire with locks := wire.locks + 1 }

/-- `aconn.unlock()`. -/
def unlock : Talk PUnit := modify fun wire => { wire with locks := wire.locks - 1 }

/-- `Controller.remove_agent`. -/
def removeAgent : Talk PUnit := modify fun wire => { wire with removed := true }

/-- Send a message, and get what comes back. -/
def exchange (message : Message) (reply : Reply) : Talk PUnit :=
  modify fun wire => { wire with exchanges := ⟨message, reply⟩ :: wire.exchanges }

/-- `try: … finally: aconn.unlock()`. -/
def finallyUnlock {Value : Type} (script : Talk Value) : Talk Value := do
  match ← Script.attempt (fun _ => true) script with
  | .ok value => do
    unlock
    pure value
  | .error failure => do
    unlock
    throw failure

/-- `Controller.httperror`. -/
def httperror (displayname method uri : String) (status : Nat) (reason body : String) : Dict :=
  [("error", .text "HTTP failure"), ("status-code", .number status),
    ("reason-phrase", .text reason), ("method", .text method), ("uri", .text uri)] ++
  (if body ≠ "" then [("body", .text body)] else []) ++
  (if displayname ≠ "" then [("agent", .text displayname)] else [])

@[simp] theorem has_error_httperror (displayname method uri : String) (status : Nat)
    (reason body : String) :
    Dict.has (httperror displayname method uri status reason body) "error" = true := rfl

end Palette.Cli
