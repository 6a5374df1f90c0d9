import Palette.Cli.SafeCommand
import Palette.Cli.Wire

/-!
# Commands for an agent's command line

The controller starts a command, asks for its status until it has finished or its time is
over, and then lets the agent clean up. Each message goes out under the connection's lock.
A reply that cannot be used becomes a dictionary with an error; a value of an unexpected
kind may also raise.

Values that a text only shows are left out of it.
-/

namespace Palette.Cli

open Palette.Commands Palette.Foundation Script

/-! ## Requests -/

/-- `Request.__init__` up to the entry: a true identifier is looked up, otherwise an entry
is inserted. -/
def requestEntry (table : XidTable) (xid : Option Json) : Except Failure ℕ+ :=
  match xid with
  | some value => if value.truthy then table.find value else table.insert
  | none => table.insert

/-- `CliStartRequest`. -/
def cliStartRequest (table : XidTable) : Except Failure ℕ+ := requestEntry table none

/-- `CleanupRequest`, which also marks the entry as finished. -/
def cleanupRequest (table : XidTable) (xid : Json) : Except Failure ℕ+ := do
  let entry ← requestEntry table (some xid)
  table.finish entry
  pure entry

/-- Post a message. The lock is held and is given back in any case. What is left of the
reply is a dictionary to return at once, or a text. -/
def post (dialogue : Dialogue) (message : Message) (reply : Reply) (failed : String → String) :
    Talk (Dict ⊕ Text) :=
  finallyUnlock do
    exchange message reply
    match reply with
    | .lost loss => do
      removeAgent
      let text ← settle (decodeAscii loss.message)
      pure (.inl (Dict.error [] (failed text)))
    | .response status reason text =>
      if status ≠ 200 then do
        removeAgent
        pure (.inl (httperror dialogue.displayname "POST" "/cli" status reason text.raw))
      else pure (.inr text)

/-- `json.loads`. -/
def loads (text : Text) : Except Failure Json :=
  match text.loads with
  | some value => .ok value
  | none => .error ⟨.valueError, "No JSON object could be decoded"⟩

/-- The command as a text shows it. -/
def Dialogue.shown (dialogue : Dialogue) : String :=
  String.ofList (safecmd dialogue.command.toList)

/-! ## Starting -/

/-- The checks of a start reply's keys. -/
def checkStart (xid : ℕ+) (body : Dict) : Except Failure Dict :=
  match body.get "xid" with
  | none => .ok (body.error "POST /cli response was missing the xid")
  | some value =>
    if value.numeric ≠ some ((xid : Nat) : Rat) then do
      let expected : Nat := xid
      let shown ← value.decimal
      pure (body.error s!"POST /cli xid expected: {expected} but was {shown}")
    else
      match body.get "run-status" with
      | none => .ok (body.error "POST /cli response missing 'run-status'")
      | some status =>
        if status.isText "running" = false ∧ status.isText "finished" = false then
          .ok (body.error "POST /cli response for 'run-status' was not 'running'")
        else .ok body

/-- The checks of a start reply. -/
def readStart (xid : ℕ+) (text : Text) : Except Failure Dict := do
  match ← loads text with
  | .null => pure (Dict.error [] "POST /cli response had a null body")
  | .object body => checkStart xid body
  | value => do
    value.str
    throw ⟨.attributeError, "object has no attribute 'has_key'"⟩

/-- `CliCmd._send_cli`. -/
def sendCli (dialogue : Dialogue) : Talk Dict := do
  lock
  let xid ← settle (cliStartRequest dialogue.table)
  match ← post dialogue (.start xid) dialogue.start fun text =>
      s!"_send_cli: '{dialogue.shown}' command failed with: {text}" with
  | .inl body => pure body
  | .inr text => settle (readStart xid text)

/-! ## Cleaning up -/

/-- `CliCmd._send_cleanup`. -/
def sendCleanup (dialogue : Dialogue) (xid : Json) : Talk Json := do
  lock
  let entry ← settle (cleanupRequest dialogue.table xid)
  match ← post dialogue (.cleanup entry) dialogue.cleanup fun text =>
      s!"'/cli' failed for command '{dialogue.command}' with: {text}" with
  | .inl body => pure (.object body)
  | .inr text => do
    match ← settle (loads text) with
    | .null => pure (.object (Dict.error [] "POST //cli getresponse returned null body"))
    | value => pure value

/-- `Controller.kill_cmd`. -/
def killCmd (dialogue : Dialogue) (xid : Json) : Talk Json := do
  lock
  match ← post dialogue (.kill xid) dialogue.kill fun text => s!"kill_cmd: failed: {text}" with
  | .inl body => pure (.object body)
  | .inr text => do
    match ← settle (loads text) with
    | .null => pure (.object (Dict.error [] "POST //cli getresponse returned null body"))
    | value => pure value

/-! ## Waiting -/

/-- The branch of a command whose time is over. -/
def timedOut (dialogue : Dialogue) (xid : Json) : Talk Dict := do
  let killBody ← killCmd dialogue xid
  settle killBody.str
  pure (Dict.error [] s!"Command timed out after {dialogue.timeout} seconds: '{dialogue.shown}'")

/-- The branch of an agent that is gone. -/
def disconnected : Dict := Dict.error [] "Agent disconnected before finishing"

/-- Ask for the status, under the lock. -/
def askStatus (dialogue : Dialogue) (xid : Json) (reply : Reply) : Talk (Dict ⊕ Json) := do
  lock
  finallyUnlock do
    exchange (.status xid) reply
    match reply with
    | .lost loss => do
      removeAgent
      let text ← settle (decodeAscii loss.message)
      match loss.kind with
      | .httpException =>
        pure (.inl (Dict.error [] s!"GET /cli?xid= failed with HTTPException: {text}"))
      | .environmentError => pure (.inl (Dict.error [] s!"GET /cli?xid= failed with: {text}"))
    | .response status reason text =>
      if status ≠ 200 then do
        removeAgent
        pure (.inl (httperror dialogue.displayname "GET" "/cli?xid=" status reason text.raw))
      else do
        match ← settle (loads text) with
        | .null => pure (.inl (Dict.error [] "Get //cli?xid= getresponse returned a null body"))
        | body => do
          settle body.str
          pure (.inr body)

/-- A reply without the key `run-status`. -/
def missingRunStatus : Talk (Option Dict) := do
  removeAgent
  pure (some (Dict.error [] "GET /cli?xid= command reply was missing 'run-status'!"))

/-- A finished command. An exit status other than zero becomes an error. -/
def finished (body : Dict) : Talk Dict :=
  match body.get "exit-status" with
  | none => do
    removeAgent
    pure (Dict.error []
      "GET /cli?xid= command reply returned 'finished' but was missing 'exit-status'!")
  | some exit =>
    if exit.numeric ≠ some 0 then
      match (body.get "stderr").filter Json.truthy with
      | some stderr => pure (body.set "error" stderr)
      | none => do
        let shown ← settle exit.decimal
        pure (body.error s!"Failed with exit status: {shown}")
    else pure body

/-- `"retry." % value`, which has no place for the value. Lists and dictionaries are taken
for mappings and need none. -/
def percentNothing : Json → Except Failure Unit
  | .list _ | .object _ => .ok ()
  | _ => .error ⟨.typeError, "not all arguments converted during string formatting"⟩

/-- A command with another run status. -/
def unknownRunStatus (body : Dict) (status : Json) : Talk Dict := do
  removeAgent
  settle (percentNothing status)
  pure (body.error "Unknown run-status: %s.  Will not retry.")

/-- `"run-status" in value` for a text. -/
def containsRunStatus (value : String) : Bool := "run-status".toList <:+: value.toList

/-- Read the object of a status reply. -/
def readObject (body : Dict) : Talk (Option Dict) :=
  match body.get "run-status" with
  | none => missingRunStatus
  | some status =>
    if status.isText "finished" then some <$> finished body
    else if status.isText "running" then pure none
    else some <$> unknownRunStatus body status

/-- Read a status reply. Nothing comes out while the command is running. -/
def readStatus : Json → Talk (Option Dict)
  | .object body => readObject body
  | .list items =>
    if items.any fun item => item.isText "run-status" then
      throw ⟨.typeError, "list indices must be integers"⟩
    else missingRunStatus
  | .text value =>
    if containsRunStatus value then throw ⟨.typeError, "string indices must be integers"⟩
    else missingRunStatus
  | _ => throw ⟨.typeError, "argument is not iterable"⟩

/-- One round of the waiting for an agent that is there. -/
def pollOnce (dialogue : Dialogue) (xid : Json) (reply : Reply) : Talk (Option Dict) := do
  match ← askStatus dialogue xid reply with
  | .inl body => pure (some body)
  | .inr body => readStatus body

/-- `CliCmd._get_cli_status`. -/
def getCliStatus (dialogue : Dialogue) (xid : Json) : List Poll → Talk Dict
  | [] => timedOut dialogue xid
  | poll :: polls =>
    if dialogue.timeout < poll.elapsed then timedOut dialogue xid
    else if poll.initting = false ∧ poll.connected = false then pure disconnected
    else do
      match ← pollOnce dialogue xid poll.reply with
      | some body => pure body
      | none => getCliStatus dialogue xid polls

/-! ## The command -/

/-- The text for a reply without `stdout` cannot be made, because the command stands where
the number belongs. -/
def missingStdout : Except Failure Dict :=
  .error ⟨.typeError, "%d format: a number is required, not str"⟩

/-- Check the output, clean up, and choose what to return. -/
def finishCli (dialogue : Dialogue) (xid : Json) (cliBody : Dict) : Talk Dict := do
  let cliBody ←
    if cliBody.has "stdout" = false ∧ cliBody.has "error" = false then settle missingStdout
    else pure cliBody
  let cleanupBody ← sendCleanup dialogue xid
  if cliBody.has "error" then pure cliBody
  else
    match cleanupBody with
    | .object fields => if Dict.has fields "error" then pure fields else pure cliBody
    | _ => throw ⟨.attributeError, "object has no attribute 'has_key'"⟩

/-- `CliCmd.cli_cmd`. -/
def cliCmd (dialogue : Dialogue) : Talk Dict := do
  let body ← sendCli dialogue
  if body.has "error" then pure body
  else
    match body.get "run-status" with
    | none => pure (Dict.error [] s!"_send_cli ({dialogue.shown}) missing 'run-status'")
    | some status =>
      if status.isText "finished" then pure body
      else
        match body.get "xid" with
        | none => throw ⟨.keyError, "xid"⟩
        | some xid => do
          let cliBody ← getCliStatus dialogue xid dialogue.polls
          finishCli dialogue xid cliBody

end Palette.Cli
