import Palette.Foundation.Transition
import Palette.ProcessManager.Prun

/-!
# The requests to an agent

The controller asks an agent to start a command, asks for the status of one, or lets the agent
remove the directory of one. The identifier of a command that is started is a new one. The agent
serves one request after the other, and `prun` goes on for every command in the meantime, between
any two operations of the agent on its files.

An operation may raise. The request then ends without a reply, and what it has done so far stays.
-/

namespace Palette.ProcessManager

open Palette.Settings (intOfText)
open Palette.Telnet (Text strip)
open Palette.Foundation

/-- The first identifier is a positive number. -/
theorem oneNotZero : NeZero (1 : Nat) := ⟨Nat.one_ne_zero⟩

attribute [local instance] oneNotZero

/-- The requests for `/cli`. -/
inductive Request where
  | start (xid : ℕ+) (cli : Text) (immediate : Bool)
  | status (xid : ℕ+)
  | cleanup (xid : ℕ+)
  deriving DecidableEq, Repr

/-- The command that a request is about. -/
def Request.xid : Request → ℕ+
  | start xid _ _ | status xid | cleanup xid => xid

/-- The directory is removed before the reply: for a cleanup, and for a start that is immediate. -/
def Request.removes : Request → Bool
  | start _ _ immediate => immediate
  | status _ => false
  | cleanup _ => true

/-- What is known of a command that is over. -/
structure Outcome where
  exitStatus : Int
  stdout : Text
  stderr : Text
  deriving DecidableEq, Repr

/-- What `getinfo` returns. A command without an outcome is reported as running. -/
structure Info where
  xid : ℕ+
  pid : Option Int
  outcome : Option Outcome
  deriving DecidableEq, Repr

/-- How far `getinfo` has come. -/
inductive Reading where
  /-- It reads the file `pid`. -/
  | pid
  /-- It looks for the exit status. -/
  | isdone (pid : Option Int)
  /-- It reads the exit status. -/
  | returncode (pid : Option Int)
  /-- It reads the output. -/
  | stdout (pid : Option Int) (exitStatus : Int)
  /-- It reads the errors. -/
  | stderr (pid : Option Int) (exitStatus : Int) (stdout : Text)
  deriving DecidableEq, Repr

/-- How far the agent has come with a request. What it is going to reply has no information if the
request was a cleanup. -/
inductive Serving where
  /-- It makes the directory. -/
  | starting (xid : ℕ+) (cli : Text) (immediate : Bool)
  /-- It starts `prun`. -/
  | made (xid : ℕ+) (cli : Text) (immediate : Bool)
  /-- It writes the file `pid`. -/
  | spawned (xid : ℕ+) (cli : Text) (immediate : Bool) (pid : Nat)
  /-- It writes the file `cmd`. -/
  | numbered (xid : ℕ+) (cli : Text) (immediate : Bool)
  /-- It waits for `prun`. -/
  | waiting (xid : ℕ+) (cli : Text)
  /-- It collects what is known of the command. -/
  | reading (request : Request) (reading : Reading)
  /-- It lists the directory that it removes. -/
  | clearing (request : Request) (info : Option Info)
  /-- It removes the files that it has listed, and then the directory. -/
  | removing (request : Request) (info : Option Info) (rest : List FileName)
  /-- It replies. -/
  | replying (request : Request) (info : Option Info)
  deriving DecidableEq, Repr

/-- The agent, with the commands that it has started and the replies that it has sent, the latest
first. The controller numbers its commands; `next` is the next number. -/
structure Agent where
  next : ℕ+
  directories : ℕ+ → Option Directory
  processes : ℕ+ → Option Process
  serving : Option Serving
  answers : List (Request × Option Info)

/-- What happens next. -/
inductive Event where
  /-- The controller gives out a number and does not reach the agent. -/
  | skip
  /-- The agent takes on a request. -/
  | take (request : Request)
  /-- The agent starts `prun` and learns its number. -/
  | spawn (pid : Nat)
  /-- The agent lists the directory that it removes. -/
  | list (names : List FileName)
  /-- Any other operation of the agent succeeds. -/
  | serve
  /-- An operation of the agent raises. -/
  | raise
  /-- A step of `prun` or of its command. -/
  | prun (xid : ℕ+) (move : Move)

/-- `readfile`. -/
def Directory.read (directory : Option Directory) (name : FileName) : Option Text :=
  (directory.bind fun files => files name).map strip

/-- `int(readfile(…))`, where neither raises. -/
def Directory.readInt (directory : Option Directory) (name : FileName) : Option Int :=
  (Directory.read directory name).bind intOfText

/-- `isdone`. -/
def isdone (directory : Option Directory) : Bool :=
  match directory with
  | none => true
  | some files => (files .returncode).isSome

/-- What follows the collecting. -/
def concluded (request : Request) (info : Info) : Serving :=
  if request.removes then .clearing request (some info) else .replying request (some info)

/-- The next operation of `getinfo`. Nothing comes out where it raises. -/
def Reading.next (request : Request) (directory : Option Directory) : Reading → Option Serving
  | .pid => some (.reading request (.isdone (Directory.readInt directory .pid)))
  | .isdone number =>
    if ProcessManager.isdone directory then some (.reading request (.returncode number))
    else some (concluded request ⟨request.xid, number, none⟩)
  | .returncode number =>
    some (.reading request (.stdout number ((Directory.readInt directory .returncode).getD (-1))))
  | .stdout number exitStatus =>
    (Directory.read directory .stdout).map fun out =>
      .reading request (.stderr number exitStatus out)
  | .stderr number exitStatus out =>
    (Directory.read directory .stderr).map fun err =>
      concluded request ⟨request.xid, number, some ⟨exitStatus, out, err⟩⟩

namespace Agent

/-- The agent at another point of its request. -/
def proceed (agent : Agent) (serving : Serving) : Agent := { agent with serving := some serving }

/-- The agent with another directory of a command. -/
def store (agent : Agent) (xid : ℕ+) (directory : Option Directory) : Agent :=
  { agent with directories := Function.update agent.directories xid directory }

/-- The agent with another state of a command. -/
def put (agent : Agent) (xid : ℕ+) (process : Process) : Agent :=
  { agent with processes := Function.update agent.processes xid (some process) }

theorem process_put_self (agent : Agent) (xid : ℕ+) (process : Process) :
    (agent.put xid process).processes xid = some process := by
  simp only [put, Function.update_self]

theorem process_put_of_ne (agent : Agent) {xid other : ℕ+} (process : Process)
    (different : other ≠ xid) :
    (agent.put xid process).processes other = agent.processes other := by
  simp only [put, Function.update_of_ne different]

theorem directory_store_self (agent : Agent) (xid : ℕ+) (directory : Option Directory) :
    (agent.store xid directory).directories xid = directory := by
  simp only [store, Function.update_self]

theorem directory_store_of_ne (agent : Agent) {xid other : ℕ+} (directory : Option Directory)
    (different : other ≠ xid) :
    (agent.store xid directory).directories other = agent.directories other := by
  simp only [store, Function.update_of_ne different]

/-- The start of a request. -/
def take (agent : Agent) : Request → Option Agent
  | .start xid cli immediate =>
    if xid = agent.next then
      some { agent with next := agent.next + 1, serving := some (.starting xid cli immediate) }
    else none
  | .status xid => some (agent.proceed (.reading (.status xid) .pid))
  | .cleanup xid => some (agent.proceed (.clearing (.cleanup xid) none))

/-- The next operation of the agent for its request, where it succeeds. -/
def serve (agent : Agent) : Serving → Option Agent
  | .starting xid cli immediate =>
    match agent.directories xid with
    | none => some ((agent.store xid (some .empty)).proceed (.made xid cli immediate))
    | some _ => none
  | .made _ _ _ => none
  | .spawned xid cli immediate pid =>
    (agent.directories xid).map fun files =>
      (agent.store xid (some (files.put .pid (Nat.toDigits 10 pid ++ ['\n'])))).proceed
        (.numbered xid cli immediate)
  | .numbered xid cli immediate =>
    (agent.directories xid).map fun files =>
      (agent.store xid (some (files.put .cmd ("prun ".toList ++ cli ++ ['\n'])))).proceed
        (if immediate then .waiting xid cli else .reading (.start xid cli false) .pid)
  | .waiting xid cli =>
    match (agent.processes xid).map Process.phase with
    | some (.done _) => some (agent.proceed (.reading (.start xid cli true) .pid))
    | _ => none
  | .reading request reading =>
    (reading.next request (agent.directories request.xid)).map agent.proceed
  | .clearing _ _ => none
  | .removing request info (name :: rest) =>
    (agent.directories request.xid).bind fun files =>
      (files name).map fun _ =>
        (agent.store request.xid (some (files.unlink name))).proceed (.removing request info rest)
  | .removing request info [] =>
    (agent.directories request.xid).bind fun files =>
      if FileName.all.all fun name => (files name).isNone then
        some ((agent.store request.xid none).proceed (.replying request info))
      else none
  | .replying request info =>
    some { agent with serving := none, answers := (request, info) :: agent.answers }

/-- The agent starts `prun`. -/
def spawn (agent : Agent) (pid : Nat) : Option Agent :=
  match agent.serving with
  | some (.made xid cli immediate) =>
    some ((agent.put xid .begun).proceed (.spawned xid cli immediate pid))
  | _ => none

/-- The agent lists a directory. The order of the names is up to the system. -/
def list (agent : Agent) (names : List FileName) : Option Agent :=
  match agent.serving with
  | some (.clearing request info) =>
    (agent.directories request.xid).bind fun files =>
      if names.Nodup ∧ FileName.all.all fun name => decide (name ∈ names) == (files name).isSome then
        some (agent.proceed (.removing request info names))
      else none
  | _ => none

/-- A step of `prun` or of its command. -/
def prun (agent : Agent) (xid : ℕ+) (move : Move) : Option Agent :=
  (agent.processes xid).bind fun process =>
    (process.step (agent.directories xid) move).map fun moved =>
      (agent.store xid moved.2).put xid moved.1

/-- A step of the system. -/
def step (agent : Agent) : Event → Option Agent
  | .skip => some { agent with next := agent.next + 1 }
  | .take request => if agent.serving.isNone then agent.take request else none
  | .spawn pid => agent.spawn pid
  | .list names => agent.list names
  | .serve => agent.serving.bind agent.serve
  | .raise => if agent.serving.isSome then some { agent with serving := none } else none
  | .prun xid move => agent.prun xid move

end Agent

/-- An agent without commands. -/
def machine : Machine Agent Event where
  initial agent := agent.directories = (fun _ => none) ∧ agent.processes = (fun _ => none) ∧
    agent.serving = none ∧ agent.answers = []
  step := Agent.step

end Palette.ProcessManager
