import Palette.Agents.Manager
import Palette.Events.Generation
import Palette.Foundation.Script
import Palette.Foundation.Transition
import Palette.Status.Transitions

/-!
# The maintenance web servers

While Tableau is stopped, every gateway agent may run a web server that shows a maintenance
page. The controller starts and stops them together, and it stops that of a single agent that
has connected. Whether they are started is remembered in one flag, which a later start of Tableau
and a report of a running Tableau look at.

What an agent does is not the controller's: an agent that reports no error has done what it was
asked to do, and after an error its server may run or not.
-/

namespace Palette.Status

open Palette.Agents (AgentType)
open Palette.Commands (Failure)
open Palette.Events (Generation)
open Palette.Foundation Script

/-- What is asked for. -/
inductive MaintAction where
  | start
  | stop
  deriving DecidableEq, Repr

/-- The word for an action. -/
def MaintAction.word : MaintAction → String
  | start => "start"
  | stop => "stop"

/-- The body of a response, as far as it has these keys. -/
structure MaintBody where
  stdout : Option String
  stderr : Option String
  error : Option String
  deriving DecidableEq, Repr

/-- How a request to an agent ends. After an error or an exception the server runs or not. -/
inductive Answer where
  | done (stdout stderr : Option String)
  | failed (error : String) (stdout stderr : Option String) (runs : Bool)
  | raised (failure : Failure) (runs : Bool)
  deriving DecidableEq, Repr

/-- The server of an agent runs after an answer. -/
def Answer.runs (action : MaintAction) : Answer → Bool
  | done _ _ => action = .start
  | failed _ _ _ runs => runs
  | raised _ runs => runs

/-- A row of an agent. -/
structure Registered where
  agentid : Nat
  displayname : String
  hostname : String
  ipAddress : String
  enabled : Bool
  agentType : AgentType
  deriving DecidableEq, Repr

/-- The events about the servers. -/
inductive MaintEvent where
  | startFailed
  | stopFailed
  | online
  | offline
  deriving DecidableEq, Repr

/-- The flag, the agents whose servers run, `gateway.hosts`, the agents and the events. -/
structure Maint where
  maintStarted : Bool
  running : Nat → Bool
  gatewayHosts : Option (List String)
  agents : List Registered
  events : List MaintEvent

/-- What is done with the servers. -/
abbrev MaintWork := Script Maint Failure

/-- How names of hosts are read: which of them are addresses, and what they are in upper case. -/
structure HostNames where
  isIp : String → Bool
  upper : String → String

/-- What an action meets: the agents that are connected when the turn of a host comes, their
answers, and what the generation of events comes to. -/
structure Exchange where
  connected : Nat → Nat → Bool
  answer : Nat → Answer
  gen : MaintEvent → Generation

/-! ## The agents of the hosts -/

namespace HostNames

variable (names : HostNames)

/-- `hostname_only`. -/
def hostnameOnly (hostname : String) : String :=
  String.ofList (hostname.toList.takeWhile (· ≠ '.'))

/-- `get_agentid_from_host`. Several agents are none. -/
def agentidFromHost (agents : List Registered) (host : String) : Option Nat :=
  let found := if names.isIp host then
      agents.filter fun agent => agent.enabled ∧ agent.ipAddress = host
    else agents.filter fun agent =>
      agent.enabled ∧ names.upper agent.hostname = names.upper (hostnameOnly host)
  match found with
  | [agent] => some agent.agentid
  | _ => none

/-- The host is the primary itself. -/
def isLocal (host : String) : Bool := host = "localhost" || host = "127.0.0.1"

/-- The connected agent of a gateway host. -/
def gatewayAgent (agents : List Registered) (connected : Nat → Bool) (host : String) :
    Option Registered :=
  if isLocal host then
    agents.find? fun agent => agent.enabled && agent.agentType = .primary && connected agent.agentid
  else (names.agentidFromHost agents host).bind fun agentid =>
    agents.find? fun agent => agent.enabled && agent.agentid = agentid && connected agent.agentid

end HostNames

/-! ## Requests and the flag -/

/-- The state after an answer of an agent. -/
def Maint.ask (action : MaintAction) (agentid : Nat) (answer : Answer) (maint : Maint) : Maint :=
  { maint with running := Function.update maint.running agentid (answer.runs action) }

/-- `send_maint`. -/
def sendMaint (action : MaintAction) (agentid : Nat) (answer : Answer) : MaintWork MaintBody := do
  modify (Maint.ask action agentid answer)
  match answer with
  | .done stdout stderr => return ⟨stdout, stderr, none⟩
  | .failed error stdout stderr _ => return ⟨stdout, stderr, some error⟩
  | .raised failure _ => throw failure

/-- `update_maint_status`. -/
def updateMaintStatus (action : MaintAction) (body : MaintBody) : MaintWork PUnit :=
  modify fun maint => { maint with maintStarted := match action with
    | .start => body.error.isNone
    | .stop => body.error.isSome }

namespace Exchange

variable (exchange : Exchange)

/-- Generate an event. -/
def tell (event : MaintEvent) : MaintWork PUnit :=
  match exchange.gen event with
  | .skipped => pure ⟨⟩
  | .raised failure | .incomplete failure => throw failure
  | .generated raises => do
    modify fun maint => { maint with events := maint.events ++ [event] }
    match raises with
    | some failure => throw failure
    | none => pure ⟨⟩

/-- `send_maint_event`. -/
def sendMaintEvent (action : MaintAction) (body : MaintBody) : MaintWork PUnit :=
  if body.error.isSome then
    match action with
    | .start => exchange.tell .startFailed
    | .stop => exchange.tell .stopFailed
  else
    match action with
    | .start => exchange.tell .online
    | .stop => exchange.tell .offline

end Exchange

/-! ## An action -/

/-- What the loop over the hosts has collected: the texts, whether all went well, and the agent
that the event is about. -/
structure Combined where
  stdout : String
  stderr : String
  error : String
  maintSuccess : Bool
  agentConnected : Option Nat
  deriving DecidableEq, Repr

namespace Combined

/-- Nothing was collected. -/
def empty : Combined := ⟨"", "", "", true, none⟩

/-- A text of an agent. -/
def line (displayname text : String) : String := displayname ++ ": " ++ text ++ "\n"

/-- The response of an agent is added. -/
def add (combined : Combined) (agent : Registered) (body : MaintBody) : Combined where
  stdout := combined.stdout ++ (body.stdout.map (line agent.displayname)).getD ""
  stderr := combined.stderr ++ (body.stderr.map (line agent.displayname)).getD ""
  error := combined.error ++ (body.error.map (line agent.displayname)).getD ""
  maintSuccess := combined.maintSuccess && body.error.isNone
  agentConnected := combined.agentConnected.or (some agent.agentid)

/-- The body of all gateway hosts. -/
def body (combined : Combined) : MaintBody :=
  ⟨some combined.stdout, some combined.stderr,
    if combined.maintSuccess then none else some combined.error⟩

end Combined

section Action

variable (names : HostNames)

/-- The body of the loop over the hosts. -/
def maintHost (exchange : Exchange) (action : MaintAction) (combined : Combined)
    (host : String × Nat) : MaintWork Combined := do
  match names.gatewayAgent (← get).agents (exchange.connected host.2) host.1 with
  | none => return combined
  | some agent =>
    let body ← sendMaint action agent.agentid (exchange.answer host.2)
    return combined.add agent body

/-- `maint`, for the agent that is given or for all gateway agents. -/
def maint (exchange : Exchange) (action : MaintAction) (agent : Option Nat) (sendAlert : Bool) :
    MaintWork MaintBody := do
  match (← get).gatewayHosts with
  | none =>
    return ⟨none, none, some ("maint " ++ action.word ++ ": No yml entry for 'gateway.hosts'.")⟩
  | some hosts =>
    match agent with
    | some agentid =>
      let body ← sendMaint action agentid (exchange.answer 0)
      updateMaintStatus action body
      if sendAlert then exchange.sendMaintEvent action body
      return body
    | none =>
      let combined ← hosts.zipIdx.foldlM (maintHost names exchange action) Combined.empty
      if combined.agentConnected.isNone then
        return ⟨some combined.stdout, some combined.stderr, some "No agents are connected."⟩
      else
        updateMaintStatus action combined.body
        if sendAlert then exchange.sendMaintEvent action combined.body
        return combined.body

/-! ## The callers -/

/-- The part of `config_servers` about the maintenance server of an agent that has connected. -/
def configServers (exchange : Exchange) (agent : Registered) : MaintWork PUnit := do
  if agent.agentType = .primary ∨ agent.agentType = .worker then
    let body ← maint names exchange .stop (some agent.agentid) false
    if body.error.isSome then exchange.tell .stopFailed

/-- The servers are stopped where the flag is set: before Tableau is started, and before an
upgrade. -/
def stopStarted (exchange : Exchange) (sendAlert : Bool) : MaintWork PUnit := do
  if (← get).maintStarted then
    let _ ← maint names exchange .stop none sendAlert

/-- The end of `_set_main_state`, for the previous main state and the status that is reported. No
entry of the table asks for a start. -/
def setMainStateMaint (exchange : Exchange) (before82 : Bool) (prevState : MainState)
    (status : TableauStatus) : MaintWork PUnit := do
  match newStateInfo before82 prevState status with
  | none => pure ⟨⟩
  | some info => if info.maintStop then stopStarted names exchange true

end Action

/-! ## Runs -/

/-- What happens: the command `maint`, the commands `start`, `stop` after Tableau has stopped and
`upgrade on`, a status check, an agent that connects, and a change of the configuration or of the
agents. -/
inductive MaintStep where
  | maint (action : MaintAction) (exchange : Exchange)
  | start (exchange : Exchange)
  | stop (exchange : Exchange)
  | upgrade (exchange : Exchange)
  | status (before82 : Bool) (prevState : MainState) (status : TableauStatus) (exchange : Exchange)
  | connects (agent : Registered) (exchange : Exchange)
  | configure (gatewayHosts : Option (List String)) (agents : List Registered)

namespace Maint

/-- The state after a script, however it ends. -/
def after {Value : Type} (maint : Maint) (work : MaintWork Value) : Maint := (work.run.run maint).2

/-- The state after a step. -/
def next (names : HostNames) (state : Maint) : MaintStep → Maint
  | .maint action exchange => state.after (Status.maint names exchange action none true)
  | .start exchange => state.after (stopStarted names exchange true)
  | .stop exchange => state.after (Status.maint names exchange .start none true)
  | .upgrade exchange => state.after (stopStarted names exchange false)
  | .status before82 prevState status exchange =>
    state.after (setMainStateMaint names exchange before82 prevState status)
  | .connects agent exchange => state.after (configServers names exchange agent)
  | .configure gatewayHosts agents =>
    { state with gatewayHosts := gatewayHosts, agents := agents }

end Maint

/-- Every sequence of steps of a controller that starts when no maintenance server runs. -/
def maintMachine (names : HostNames) : Machine Maint MaintStep where
  initial state := state.maintStarted = false ∧ ∀ agentid, state.running agentid = false
  step state label := some (state.next names label)

end Palette.Status
