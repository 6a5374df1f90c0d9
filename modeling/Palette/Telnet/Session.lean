import Palette.Foundation.Transition
import Palette.Telnet.Encoding
import Palette.Telnet.Reporting

/-!
# Calls over one connection

The web application keeps one object for its calls. A call connects if the object is not
connected, writes a line and reads lines: an acknowledgement, and after an `OK` the result if
it is wanted. Only after an `OK` the connection is closed. The server performs what it reads
line by line and prints texts, and each text is printed with the line breaks that it has.

Each line on the way to the client carries the number of the call that it was printed for.
A call that waits for a line that never comes does not return, so it is no step.
-/

namespace Palette.Telnet

open Palette.Foundation Palette.Foundation.Json

/-! ## The server -/

/-- The numbers of the errors. -/
inductive ErrorNumber where
  | commandSyntaxError
  | noSuchCommand
  | agentNotFound
  | agentNotConnected
  | busy
  | wrongState
  | commandFailed
  deriving DecidableEq, Repr

/-- The number of an error. -/
def ErrorNumber.value : ErrorNumber → Nat
  | commandSyntaxError => 2
  | noSuchCommand => 3
  | agentNotFound => 10
  | agentNotConnected => 12
  | busy => 20
  | wrongState => 21
  | commandFailed => 50

/-- The text that `CliHandler.error` prints. -/
def errorText (number : Nat) (message : Text) : Text :=
  "ERROR ".toList ++ Nat.toDigits 10 number ++ ' ' :: message

/-- What comes of a command line: the command cannot be parsed or does not exist, or its
method printed texts and then returned, raised that the state is wrong, or raised something
else, after which the controller exits. The controller may also be ended meanwhile. -/
inductive Performance where
  | syntaxError (message : Text)
  | noSuchCommand (name : Text)
  | returned (printed : List Text)
  | wrongState (printed : List Text) (message : Text)
  | failed (printed : List Text) (report : Text)
  | interrupted (printed : List Text)
  deriving DecidableEq, Repr

/-- The texts that are printed. -/
def Performance.texts : Performance → List Text
  | syntaxError message => [errorText ErrorNumber.commandSyntaxError.value message]
  | noSuchCommand name =>
    [errorText ErrorNumber.noSuchCommand.value ("invalid command: ".toList ++ name)]
  | returned printed => printed
  | wrongState printed message => printed ++ [errorText ErrorNumber.wrongState.value message]
  | failed printed report => printed ++ [errorText ErrorNumber.commandFailed.value report]
  | interrupted printed => printed

/-- The controller exits. -/
def Performance.exits : Performance → Bool
  | failed _ _ => true
  | interrupted _ => true
  | _ => false

/-- The lines of a text that is printed. -/
def linesOf (text : Text) : List Text := text.splitOn '\n'

/-- `CliHandler.handle` for some lines: the lines that it prints, and whether the connection
is closed afterwards. An empty line closes it. -/
def serve : List Text → List Performance → Option (List Text × Bool)
  | [], _ => some ([], false)
  | line :: more, performances =>
    if strip line = [] then some ([], true)
    else
      match performances with
      | [] => none
      | performance :: rest =>
        if performance.exits then some (performance.texts.flatMap linesOf, true)
        else
          (serve more rest).map fun answer =>
            (performance.texts.flatMap linesOf ++ answer.1, answer.2)

/-! ## The client -/

/-- A connection: the lines that were not read yet, each with its call, and whether the server
still serves it. -/
structure Connection where
  unread : List (Nat × Text)
  served : Bool
  deriving DecidableEq, Repr

/-- The numbers of `CommError`. -/
inductive CommError where
  | couldNotConnectToHost
  | commandFailedToRun
  | commandResultError
  deriving DecidableEq, Repr

/-- How a call ends. -/
inductive Outcome where
  | returned
  | skipped
  | commException (number : CommError)
  | otherException
  deriving DecidableEq, Repr

/-- A call that ended: the lines that it read, and whether the server had closed the connection
before the call wrote to it. -/
structure CallRecord where
  number : Nat
  reads : List (Nat × Text)
  dead : Bool
  outcome : Outcome
  deriving DecidableEq, Repr

/-- The state of the object and of the server. -/
structure CallState where
  listening : Bool
  connection : Option Connection
  calls : Nat
  history : List CallRecord
  deriving DecidableEq, Repr

/-- The arguments of `send_cmd`, and what the environment does: what comes of each line that
is written, and whether a write to a connection that the server has closed raises. -/
structure Call where
  cmd : Text
  userid : Option Nat
  readResponse : Bool
  skipOnWrongState : Bool
  performances : List Performance
  writeRaises : Bool
  deriving DecidableEq, Repr

/-- The command with its preamble. -/
def Call.fullCommand (call : Call) : Text :=
  (match call.userid with
    | some userid => " /userid=".toList ++ Nat.toDigits 10 userid
    | none => []) ++ ' ' :: call.cmd

/-- What the server prints for a call, and whether it closes the connection then. -/
def Call.answer (call : Call) : Option (List Text × Bool) :=
  serve (linesOf call.fullCommand) call.performances

/-- `sock.write`. A connection that is served gets the answer. -/
def Connection.write (connection : Connection) (number : Nat) (call : Call) : Option Connection :=
  if connection.served then
    call.answer.map fun answer =>
      ⟨connection.unread ++ answer.1.map fun line => (number, line), !answer.2⟩
  else some connection

/-- `sock.readline()`. Nothing is read at the end of a connection that is closed. -/
def Connection.readline (connection : Connection) :
    Option (Option (Nat × Text) × Connection) :=
  match connection.unread with
  | line :: more => some (some line, { connection with unread := more })
  | [] => if connection.served then none else some (none, connection)

/-- The characters of a line that was read. -/
def textOf : Option (Nat × Text) → Text
  | some line => line.2
  | none => []

/-- The words of a text. -/
def words (text : Text) : List Text := (text.splitOnP isSpace).filter fun word => word ≠ []

/-- The errors that a call may skip. -/
def skippable : List Nat :=
  [ErrorNumber.agentNotFound.value, ErrorNumber.agentNotConnected.value, ErrorNumber.busy.value,
    ErrorNumber.wrongState.value]

/-- How a call ends if the acknowledgement is not `OK`. -/
def refusal (call : Call) (acknowledgement : Text) : Outcome :=
  match (words acknowledgement)[1]? with
  | none => .commException .commandFailedToRun
  | some number =>
    match Commands.digitsValue number with
    | none => .commException .commandFailedToRun
    | some number =>
      if call.skipOnWrongState ∧ number ∈ skippable then .skipped
      else .commException .commandFailedToRun

/-- A decoded value is this text. -/
def isText (text : String) : Value → Bool
  | .text points => points = codes text
  | _ => false

/-- How a call ends with a result. -/
def verdict (response : Text) : Outcome :=
  match loads (response.map code) with
  | none => .commException .commandFailedToRun
  | some (.object members) =>
    if (member "error" members).isSome then .commException .commandResultError
    else
      match member "status" members with
      | none => .commException .commandFailedToRun
      | some status =>
        if isText "OK" status then .returned else .commException .commandFailedToRun
  | some (.list items) =>
    if items.any (isText "error") || items.any (isText "status") then .otherException
    else .commException .commandFailedToRun
  | some (.text points) =>
    if codes "error" <:+: points ∨ codes "status" <:+: points then .otherException
    else .commException .commandFailedToRun
  | some _ => .otherException

/-- The state after a call that ended. -/
def CallState.after (state : CallState) (connection : Option Connection)
    (reads : List (Option (Nat × Text))) (dead : Bool) (outcome : Outcome) : CallState :=
  { state with
    connection := connection
    calls := state.calls + 1
    history := state.history ++ [⟨state.calls, reads.reduceOption, dead, outcome⟩] }

/-- `CommBase.send_cmd` on a connection. -/
def CallState.exchange (state : CallState) (connection : Connection) (call : Call) :
    Option CallState :=
  let dead := !connection.served
  if ¬call.fullCommand.all isAscii then
    some (state.after (some connection) [] false .otherException)
  else if dead && call.writeRaises then
    some (state.after (some connection) [] dead .otherException)
  else do
    let connection ← connection.write state.calls call
    let (line, connection) ← connection.readline
    let acknowledgement := strip (textOf line)
    if acknowledgement ≠ "OK".toList then
      return state.after (some connection) [line] dead (refusal call acknowledgement)
    else if ¬call.readResponse then
      return state.after none [line] dead .returned
    else do
      let (response, _) ← connection.readline
      return state.after none [line, response] dead (verdict (textOf response))

/-- `CommBase.send_cmd`. -/
def CallState.sendCmd (state : CallState) (call : Call) : Option CallState :=
  match state.connection with
  | some connection => state.exchange connection call
  | none =>
    if state.listening then state.exchange ⟨[], true⟩ call
    else some (state.after none [] false (.commException .couldNotConnectToHost))

/-! ## Runs -/

/-- A call of the client, or the server is stopped or started. -/
inductive CallEvent where
  | call (call : Call)
  | stop
  | start
  deriving DecidableEq, Repr

/-- One event. A server that stops closes the connection. -/
def CallState.step (state : CallState) : CallEvent → Option CallState
  | .call call => state.sendCmd call
  | .stop =>
    some { state with
      listening := false
      connection := state.connection.map fun connection => { connection with served := false } }
  | .start => some { state with listening := true }

/-- The object is not connected in the beginning. -/
def callMachine : Machine CallState CallEvent where
  initial state := state.connection = none ∧ state.calls = 0 ∧ state.history = []
  step := CallState.step

/-- A call read only lines that were printed for it, and it did not write to a connection that
had been closed before. -/
def CallRecord.InStep (record : CallRecord) : Prop :=
  record.dead = false ∧ ∀ line ∈ record.reads, line.1 = record.number

end Palette.Telnet
