import Palette.Agents.Manager
import Palette.Alerts.Disks
import Palette.Licensing.Entries

/-!
# The monitor page

The page of an administrator shows the state of the server, every enabled agent with what was
checked of it, and colors: that of an agent is lowered by what is found on the way, and that of
the page by the colors of the agents. Colors are numbers, of which red is the lowest.

Some steps on the way do not lower a color but set it, and some set the warnings instead of
adding one. The steps are kept here as the page takes them.
-/

namespace Palette.Web

open Palette.Agents (AgentRow AgentType)
open Palette.Alerts (Volume diskColor diskWatermark)
open Palette.Commands (Failure)
open Palette.Licensing (LicenseEntry)
open Palette.Status (MainState)

/-! ## Colors -/

/-- `Colors`. -/
inductive Color where
  | red
  | yellow
  | green
  deriving DecidableEq, Repr

namespace Color

/-- The number of a color. -/
def num : Color → Nat
  | red => 1
  | yellow => 2
  | green => 3

theorem num_injective : Function.Injective num := by
  intro left right same
  cases left <;> cases right <;> first | rfl | cases same

instance : LinearOrder Color := LinearOrder.lift' num num_injective

/-- `color_to_str`. -/
def text : Color → String
  | red => "red"
  | yellow => "yellow"
  | green => "green"

/-- `color_to_num`. Null and other texts are no keys of it. -/
def ofText : Option String → Except Failure Color
  | some "red" => .ok red
  | some "yellow" => .ok yellow
  | some "green" => .ok green
  | _ => .error ⟨.keyError, "color"⟩

/-- A color after another one was seen. -/
def lower (color other : Color) : Color := if other < color then other else color

end Color

/-! ## Rows -/

/-- A row of `FirewallEntry` or `PortEntry`. -/
structure PortRow where
  name : Option String
  port : Int
  color : Option String
  deriving DecidableEq, Repr

/-- A row of `TableauProcess`. -/
structure ProcessRow where
  name : String
  pid : Option Int
  status : Option String
  deriving DecidableEq, Repr

/-- A row of `StateControl`. -/
structure StateControlEntry where
  text : Option String
  icon : Option String
  color : Option String
  deriving DecidableEq, Repr

/-- An agent and its rows, each in the order of its query. The color of `cpu` is that of its
notification, if there is one. -/
structure MonitoredAgent where
  row : AgentRow
  agentType : Option AgentType
  iswin : Bool
  license : Option LicenseEntry
  volumes : List Volume
  firewall : List PortRow
  ports : List PortRow
  cpu : Option (Option String)
  processes : List ProcessRow

/-- What the page reads. Texts of times and of sizes are parameters. -/
structure MonitorScene where
  agents : List MonitoredAgent
  mainState : MainState
  stateControl : MainState → Option StateControlEntry
  low : Option (Except Failure ℚ)
  high : Option (Except Failure ℚ)
  dateText : Nat → String
  sizeText : Int → String

/-! ## What is shown -/

/-- A check that is shown with its color. -/
structure Info where
  name : Option String
  value : String
  color : Option String
  deriving DecidableEq, Repr

/-- A warning. -/
structure Warning where
  color : Color
  message : String
  deriving DecidableEq, Repr

/-- The warnings of an agent: a list, or a warning that is not in a list. -/
inductive Warnings where
  | listed (warnings : List Warning)
  | bare (warning : Warning)
  deriving DecidableEq, Repr

/-- The warnings that the page shows. -/
def Warnings.shown : Warnings → List Warning
  | listed warnings => warnings
  | bare warning => [warning]

/-- What was checked of an agent that is connected. -/
structure Checks where
  license : Option Info
  volumes : List Info
  inPorts : List Info
  outPorts : List Info
  cpu : Info
  deriving DecidableEq, Repr

/-- A process that is shown. -/
structure ProcessView where
  name : String
  pid : String ⊕ Int
  status : String
  color : Color
  deriving DecidableEq, Repr

/-- An agent as it is shown, and whether it is a problem of the server. -/
structure AgentView where
  checks : Option Checks := none
  warnings : Option Warnings := none
  details : List ProcessView := []
  color : Color
  workerProblem : Bool := false
  deriving DecidableEq, Repr

/-- The warnings that are shown of an agent. -/
def AgentView.listed (view : AgentView) : List Warning :=
  (view.warnings.map Warnings.shown).getD []

/-- `get_admin_view`. -/
structure AdminView where
  state : MainState
  text : Option String
  icon : Option String
  color : Color
  agents : List AgentView
  deriving DecidableEq, Repr

/-- `lowest_color`. -/
def lowestColor (infos : List Info) : Except Failure Color :=
  infos.foldlM (fun lowest info => do
    let color ← Color.ofText info.color
    return lowest.lower color) .green

/-- The status of a process that is well. -/
def runs (status : String) : Bool :=
  (status.toList.tails.any fun rest => "running".toList.isPrefixOf rest) ||
    status ∈ ["Active", "Passive", "Busy", "ReadOnly", "ActiveSyncing"]

namespace MonitoredAgent

variable (agent : MonitoredAgent)

/-- The agent is the primary or a worker. -/
def servesTableau : Bool := agent.agentType = some .primary || agent.agentType = some .worker

/-- `firewall_info`. -/
def firewallInfo : List Info := agent.firewall.map fun row => ⟨row.name, toString row.port, row.color⟩

/-- `out_ports`. -/
def outPorts : List Info :=
  (agent.ports.filter fun row => row.color.isSome).map fun row =>
    ⟨row.name, toString row.port, row.color⟩

/-- `license_info`. -/
def licenseInfo : Info :=
  match agent.license with
  | none => ⟨none, "unknown", some "green"⟩
  | some entry =>
    if entry.valid then ⟨none, "valid", some "green"⟩ else ⟨none, "invalid", some "red"⟩

/-- `cpu_info`. -/
def cpuInfo : Info :=
  match agent.cpu with
  | some (some color) => if color ≠ "" then ⟨none, "", some color⟩ else ⟨none, "", some "green"⟩
  | _ => ⟨none, "", some "green"⟩

end MonitoredAgent

namespace MonitorScene

variable (scene : MonitorScene)

/-- `sizestr`. -/
def sizestr (size : Int) : Except Failure String :=
  if size < 0 then .error ⟨.valueError, "n < 0"⟩ else .ok (scene.sizeText size)

/-- The text of a color of a disk. -/
def diskColorText : Metrics.Color → String
  | .red => "red"
  | .yellow => "yellow"
  | .green => "green"

/-- The volumes that are shown: those with a size and with an available space, and on Windows
only fixed and network ones. -/
def shownVolumes (agent : MonitoredAgent) : List (Volume × Int × Int) :=
  agent.volumes.filterMap fun volume =>
    if agent.iswin && !(volume.volType = some "Fixed".toList ||
        volume.volType = some "Network".toList) then none
    else match volume.size, volume.availableSpace with
      | some size, some available => if size = 0 then none else some (volume, size, available)
      | _, _ => none

/-- `volume_info`. -/
def volumeInfo (agent : MonitoredAgent) : Except Failure (List Info) := do
  let low ← diskWatermark scene.low
  let high ← diskWatermark scene.high
  (shownVolumes agent).mapM fun (volume, size, available) => do
    let free ← scene.sizestr available
    let whole ← scene.sizestr size
    return ⟨volume.name.map String.ofList, free ++ " free of " ++ whole,
      some (diskColorText (diskColor (size - available) size low high))⟩

/-- The text about an agent that is not connected. -/
def disconnectedText (agent : MonitoredAgent) : String :=
  match agent.row.lastDisconnectTime with
  | some time => "Disconnected " ++ scene.dateText time
  | none => "Disconnected"

/-- Nothing is known of the server of a primary. -/
def unknownServer (agent : MonitoredAgent) : Bool :=
  (scene.mainState = .disconnected || scene.mainState = .pending) &&
    agent.agentType = some .primary

/-- The agent with a color and a warning. -/
def warned (color : Color) (message : String) : AgentView :=
  { color := color, warnings := some (.listed [⟨color, message⟩]) }

/-- The licence that is shown is that of a primary. -/
def shownLicense (agent : MonitoredAgent) : Option Info :=
  if agent.agentType = some .primary then some agent.licenseInfo else none

/-- The color of the licence that is shown. -/
def licenseColor (agent : MonitoredAgent) : Except Failure Color :=
  match shownLicense agent with
  | some info => Color.ofText info.color
  | none => .ok .green

/-- An agent that is connected, with what was checked of it. -/
def connectedView (agent : MonitoredAgent) : Except Failure AgentView := do
  let licenseColor ← licenseColor agent
  let volumes ← scene.volumeInfo agent
  let cpuColor ← Color.ofText agent.cpuInfo.color
  let volColor ← lowestColor volumes
  let firewallColor ← lowestColor agent.firewallInfo
  let outPortsColor ← lowestColor agent.outPorts
  return {
    checks := some ⟨shownLicense agent, volumes, agent.firewallInfo, agent.outPorts,
      agent.cpuInfo⟩
    color := (((((Color.green.lower licenseColor).lower cpuColor).lower volColor).lower
      firewallColor).lower outPortsColor) }

/-- An agent after its connection and what is checked of it were looked at. -/
def connectionView (agent : MonitoredAgent) : Except Failure AgentView :=
  if scene.unknownServer agent then
    .ok (warned .red (if scene.mainState = .disconnected then scene.disconnectedText agent
      else "Retrieving Tableau Status"))
  else if agent.row.Connected then scene.connectedView agent
  else .ok (warned .red (scene.disconnectedText agent))

/-- An agent of a server that is stopped: its color and its warnings are set. -/
def stoppedView (agent : MonitoredAgent) (view : AgentView) : AgentView :=
  if agent.servesTableau && scene.mainState = .stopped then
    { view with
      color := .yellow
      warnings := some (.listed [⟨.yellow, "Tableau stopped"⟩])
      workerProblem := view.workerProblem || agent.agentType = some .worker }
  else if agent.servesTableau && scene.mainState = .stoppedUnexpected then
    { view with
      color := .red
      warnings := some (.listed [⟨.red, "Tableau stopped"⟩])
      workerProblem := view.workerProblem || agent.agentType = some .worker }
  else view

/-- An agent after a row of its processes. A row with number -1 tells of an error. -/
def processView (view : AgentView) (row : ProcessRow) : Except Failure AgentView :=
  if row.pid = some 0 then .ok view
  else if row.pid = some (-1) then
    .ok { view with
      color := .red
      warnings := some (.listed [⟨.red, row.name⟩])
      workerProblem := true }
  else match row.status with
    | none => .error ⟨.attributeError, "'NoneType' object has no attribute 'find'"⟩
    | some status =>
      let pid := match row.pid with
        | some pid => if 0 < pid then .inr pid else .inl status
        | none => .inl status
      if runs status then
        .ok { view with details := view.details ++ [⟨row.name, pid, status, .green⟩] }
      else .ok { view with
        details := view.details ++ [⟨row.name, pid, status, .red⟩]
        color := .red }

/-- A worker without any process. -/
def unavailableView (agent : MonitoredAgent) (view : AgentView) : AgentView :=
  if agent.agentType = some .worker && agent.processes.isEmpty then
    let warning := ⟨.red, "Tableau processes unavailable"⟩
    { view with
      color := .red
      warnings := some (match view.warnings with
        | some (.listed warnings) => .listed (warnings ++ [warning])
        | _ => .bare warning)
      workerProblem := true }
  else view

/-- What is shown of an enabled agent. -/
def agentView (agent : MonitoredAgent) : Except Failure AgentView := do
  let connected ← scene.connectionView agent
  let stopped := scene.stoppedView agent connected
  if agent.servesTableau then
    let listed ← agent.processes.foldlM processView stopped
    return unavailableView agent listed
  else return stopped

/-- The color of a state; one that is not known is red. -/
def stateColor (entry : StateControlEntry) : Color :=
  match Color.ofText entry.color with
  | .ok color => color
  | .error _ => .red

/-- The agents that are shown. -/
def enabledAgents : List MonitoredAgent := scene.agents.filter fun agent => agent.row.enabled

/-- `get_admin_view`, for the row of the main state. -/
def getAdminView (entry : StateControlEntry) : Except Failure (Option AdminView) := do
  let agents ← scene.enabledAgents.mapM scene.agentView
  let color := agents.foldl (fun color view => color.lower view.color) (stateColor entry)
  if scene.mainState = .started && agents.any AgentView.workerProblem then
    return (scene.stateControl .degraded).map fun degraded =>
      ⟨.degraded, degraded.text, degraded.icon, .red, agents⟩
  else if scene.mainState = .upgrading then
    return (scene.stateControl .upgrading).map fun upgrading =>
      ⟨.upgrading, upgrading.text, upgrading.icon, stateColor upgrading, agents⟩
  else return some ⟨scene.mainState, entry.text, entry.icon, color, agents⟩

/-- `handle_monitor`, for an administrator. Without a row for the state nothing is shown. -/
def handleMonitor : Except Failure (Option AdminView) :=
  match scene.stateControl scene.mainState with
  | none => .ok none
  | some entry => scene.getAdminView entry

end MonitorScene

end Palette.Web
