import Palette.Processes.Table

/-!
# Reading the system information

Tableau describes its processes in an XML text: the machines with an element for each
process, and elements for the service as a whole. The reading deletes the rows of the
table and merges a row for each element while it goes along. A process element tells its
port in the attribute `worker`; the variable for the port outlives the element.

The text counts for the tree that the parser makes of it. The parser knows one exception
for a text that is not well formed, and others for encodings it does not know. The texts
about failed processes, which only events use, are left out.
-/

namespace Palette.Processes

open Palette.Cli Palette.Commands Palette.Foundation Script

/-! ## XML -/

/-- An element of a tree. -/
inductive Element where
  | node (tag : String) (attrib : List (String × String)) (children : List Element)

namespace Element

/-- `element.tag`. -/
def tag : Element → String
  | node tag _ _ => tag

/-- `element.attrib.get(name)`. -/
def attrib (element : Element) (name : String) : Option String :=
  match element with
  | node _ attrib _ => attrib.lookup name

/-- The elements inside. -/
def children : Element → List Element
  | node _ _ children => children

end Element

/-- What `ET.fromstring` makes of a text. -/
inductive Parsed where
  | tree (root : Element)
  | parseError (message : String)
  | raises (failure : Failure)

/-! ## Texts -/

/-- `text.isdigit()`. Other characters than those of ASCII may be digits, too. -/
def isDigits (monitor : Monitor) (text : List Char) : Bool :=
  !text.isEmpty && text.all fun char =>
    if char.toNat < 128 then char.isDigit else monitor.isdigit char

/-- The value of a decimal digit. -/
def decimalValue (monitor : Monitor) (char : Char) : Option Nat :=
  if char.toNat < 128 then
    if char.isDigit then some (char.toNat - '0'.toNat) else none
  else monitor.decimal char

/-- `int(text)` for a text of digits. A digit that is no decimal one cannot be converted. -/
def intOfDigits (monitor : Monitor) (text : List Char) : Except Fault Int :=
  match text.mapM (decimalValue monitor) with
  | some values => .ok (values.foldl (fun value digit => 10 * value + digit) 0 : Nat)
  | none => .error (.other ⟨.valueError, "'decimal' codec can't encode character"⟩)

/-- A text that is not ASCII cannot be encoded. -/
def unencodable : Fault :=
  .other ⟨.valueError, "'ascii' codec can't encode character: ordinal not in range(128)"⟩

/-- A fault of the text. -/
def parseFailure (message : String) : Fault := .systeminfo .parseFailure message

/-- The port in the attribute `worker`. -/
def workerPort (monitor : Monitor) (host worker : String) : Except Fault Int :=
  match worker.toList.splitOn ':' with
  | _ :: port :: _ =>
    if isDigits monitor port then intOfDigits monitor port
    else if isAscii worker then
      .error (parseFailure s!"Missing ':' or not an integer in machine {host} for worker: {worker}")
    else .error unencodable
  | _ =>
    if isAscii worker then
      .error (parseFailure s!"Missing ':' or not an integer in machine {host} for worker: {worker}")
    else .error unencodable

/-- The status of the server for the status of the service. It is never stopped, because
a stopped server does not answer. -/
def serviceStatus (status : String) : String :=
  if status ∈ ["Down", "DecommisionedReadOnly", "DecomisioningReadOnly",
      "DecommissionFailedReadOnly"] then "DEGRADED"
  else if status ∈ ["Active", "Passive", "Busy", "ReadOnly", "ActiveSyncing"] then "RUNNING"
  else "UNKNOWN"

/-! ## The reading -/

/-- The variables that outlive an element. -/
structure Locals where
  port : Option Int
  tableauStatus : Option String
  deriving DecidableEq, Repr

/-- The element of a process on a machine with a known agent. -/
def readInfo (monitor : Monitor) (agentid : Nat) (host : String) (locals : Locals)
    (info : Element) : Visit Locals :=
  match info.attrib "status" with
  | none => throw (parseFailure s!"missing 'status' in machine {host} attrib")
  | some status => do
    let port ←
      match info.attrib "worker" with
      | some worker => some <$> settle (workerPort monitor host worker)
      | none => pure locals.port
    match port with
    | some port => do
      add agentid info.tag port status
      pure { locals with port := some port }
    | none =>
      throw (.other ⟨.otherException, "local variable 'port' referenced before assignment"⟩)

/-- The element of a machine. The name is first tried as an address, which has to be
ASCII; an unknown machine is skipped. -/
def readMachine (monitor : Monitor) (locals : Locals) (machine : Element) : Visit Locals :=
  match machine.attrib "name" with
  | none => throw (parseFailure "missing 'name' in machine attribute")
  | some host =>
    if isAscii host then do
      query
      match monitor.agentidFromHost host with
      | none => pure locals
      | some agentid => do
        query
        machine.children.foldlM (readInfo monitor agentid host) locals
    else throw unencodable

/-- The element of the service. -/
def readService (monitor : Monitor) (locals : Locals) (service : Element) : Visit Locals :=
  match service.attrib "status" with
  | none => throw (parseFailure "Missing 'status'")
  | some status => do
    add monitor.agentid "Status" 0 (serviceStatus status)
    pure { locals with tableauStatus := some (serviceStatus status) }

/-- An element below the root. -/
def readChild (monitor : Monitor) (locals : Locals) (child : Element) : Visit Locals :=
  if child.tag = "machines" then child.children.foldlM (readMachine monitor) locals
  else if child.tag = "service" then readService monitor locals child
  else pure locals

/-- `TableauStatusMonitor._systeminfo_parse`. -/
def systeminfoParse (monitor : Monitor) : Parsed → Visit PUnit
  | .raises failure => throw (.other failure)
  | .parseError message => throw (parseFailure s!"xml parse error: '{message}'")
  | .tree root =>
    if root.tag ≠ "systeminfo" then throw (parseFailure s!"wrong root tag: {root.tag}")
    else do
      let _prevTableauStatus ← getTableauStatus monitor
      removeAllStatus
      let locals ← root.children.foldlM (readChild monitor) ⟨none, none⟩
      match locals.tableauStatus with
      | none => do
        Session.rollback
        throw (parseFailure "Tableau status not valid")
      | some _ => finishStatus monitor

end Palette.Processes
