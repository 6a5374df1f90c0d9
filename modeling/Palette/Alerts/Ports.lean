import Mathlib.Algebra.Order.Ring.Unbundled.Rat
import Mathlib.Data.List.Sort
import Palette.Events.Generation
import Palette.Foundation.Alternation
import Palette.Foundation.Dictionary
import Palette.Foundation.Script
import Palette.Foundation.Transition

/-!
# The alerts of monitored ports

An agent is asked to connect to a port. The port is red if that fails or takes too long and
green otherwise; an event is generated when it turns red and when it is green again after that.
The color is written to the row in any case, and at once. A port that is not active loses its
colors when the ports are checked.

The event is committed before the row is written, so the database may refuse the row of an event
that was generated.
-/

namespace Palette.Alerts

open Palette.Commands (Failure)
open Palette.Events (Generation)
open Palette.Foundation Script

/-! ## Rows and answers -/

/-- The colors of a port. -/
inductive PortColor where
  | green
  | red
  deriving DecidableEq, Repr

/-- `PortEntry`. -/
structure PortEntry where
  portid : Nat
  envid : Nat
  destHost : String
  destPort : Nat
  serviceName : String
  agentid : Nat
  ipAddress : Option String
  connectTime : Option ℚ
  maxTime : Int
  color : Option PortColor
  notifiedColor : Option PortColor
  active : Option Bool
  deriving DecidableEq, Repr

/-- The rows of `ports`. -/
abbrev PortRows := Dictionary PortEntry.portid

/-- The output of a port check, without the fields that are missing. A time that is no number is
none within. -/
structure Stdout where
  milliseconds : Option (Option ℚ)
  ip : Option String
  error : Option String
  deriving DecidableEq, Repr

/-- What reading an output comes to. -/
inductive Output where
  | fields (stdout : Stdout)
  | badJson
  | raises (failure : Failure)
  deriving DecidableEq, Repr

/-- The body of an answer of an agent. -/
structure PokBody where
  error : Option String
  exitStatus : Option Int
  stdout : Option Output
  deriving DecidableEq, Repr

/-- Why a port is red or was not checked. -/
inductive PortError where
  | notConnected (agentid : Nat)
  | missingExitStatus
  | given (text : String)
  | connectionFailed (serviceName destHost : String) (destPort : Nat)
  | exceeded (connectTime : ℚ) (maxTime : Int) (serviceName destHost : String) (destPort : Nat)
  deriving DecidableEq, Repr

/-- The details of a check. -/
structure Details where
  serviceName : String
  destPort : Nat
  destHostname : String
  maxTime : Option Int
  connectTime : Option ℚ
  ip : Option String
  error : Option PortError
  deriving DecidableEq, Repr

/-- An event about a port. -/
structure PortEvent where
  portid : Nat
  color : PortColor
  details : Details
  deriving DecidableEq, Repr

/-- What happened: an event was generated, or a port that is not active lost its colors. -/
inductive PortHappening where
  | generated (event : PortEvent)
  | deactivated (portid : Nat)
  deriving DecidableEq, Repr

/-- The rows, what happened and the results of the check under way. -/
structure PortBoard where
  ports : PortRows
  happenings : List PortHappening
  report : List Details

/-- What is done with the ports. -/
abbrev PortWork := Script PortBoard Failure

/-- A check of the ports of an environment, with the answers of the agents, where they are
connected, and with what the generation of events and the update of rows come to. -/
structure PortCheck where
  envid : Nat
  answer : PortEntry → Option (Except Failure PokBody)
  gen : PortEvent → Generation
  refuses : PortEntry → Details → Option Failure

/-! ## The details of a port -/

namespace PortEntry

/-- The details before a port is checked. -/
def details (entry : PortEntry) : Details :=
  { serviceName := entry.serviceName
    destPort := entry.destPort
    destHostname := entry.destHost
    maxTime := if entry.maxTime ≠ 0 then some entry.maxTime else none
    connectTime := none
    ip := none
    error := none }

/-- The details with an output. -/
def withStdout (details : Details) (stdout : Stdout) : Details :=
  { details with
    connectTime := stdout.milliseconds.bind fun value => value.map (· / 1000)
    ip := stdout.ip
    error := (stdout.error.map .given).or details.error }

/-- The details with the reason for a port that is red. -/
def withReason (entry : PortEntry) (exitStatus : Int) (details : Details) : Details :=
  if exitStatus ≠ 0 ∨ details.error.isSome then
    let reason : PortError := .connectionFailed entry.serviceName entry.destHost entry.destPort
    { details with error := details.error.or (some reason) }
  else
    match details.connectTime with
    | some connectTime =>
      if entry.maxTime ≠ 0 ∧ entry.maxTime < connectTime then
        let reason : PortError :=
          .exceeded connectTime entry.maxTime entry.serviceName entry.destHost entry.destPort
        { details with error := some reason }
      else details
    | none => details

/-- The details of a check and the color of the port, unless there is no answer to tell it
from. -/
def verdict (entry : PortEntry) : Option (Except Failure PokBody) →
    Except Failure (Details × Option PortColor)
  | none => .ok ({ entry.details with error := some (.notConnected entry.agentid) }, none)
  | some (.error failure) => .error failure
  | some (.ok body) =>
    let details := { entry.details with error := body.error.map .given }
    match body.exitStatus with
    | none => .ok ({ details with error := some .missingExitStatus }, none)
    | some exitStatus => do
      let details ← match body.stdout with
        | none => .ok details
        | some .badJson => .ok details
        | some (.fields stdout) => .ok (withStdout details stdout)
        | some (.raises failure) => .error failure
      let details := entry.withReason exitStatus details
      return (details, some (if details.error.isSome then .red else .green))

/-- The event that is due for the color of a port. -/
def due (entry : PortEntry) (details : Details) (color : PortColor) : Option PortEvent :=
  if color = .red ∧ entry.notifiedColor ≠ some .red then some ⟨entry.portid, .red, details⟩
  else if entry.notifiedColor = some .red ∧ color = .green then
    some ⟨entry.portid, .green, details⟩
  else none

/-- The row with the result of a check. -/
def updated (entry : PortEntry) (details : Details) (color : PortColor) : PortEntry :=
  { entry with
    color := some color
    notifiedColor := some color
    connectTime := details.connectTime.or entry.connectTime
    ipAddress := details.ip.or entry.ipAddress }

end PortEntry

/-! ## A check -/

namespace PortCheck

variable (check : PortCheck)

/-- Generate the event that is due, if any. -/
def announce : Option PortEvent → PortWork PUnit
  | none => pure ⟨⟩
  | some event =>
    match check.gen event with
    | .skipped => pure ⟨⟩
    | .raised failure | .incomplete failure => throw failure
    | .generated raises => do
      modify fun board => { board with happenings := board.happenings ++ [.generated event] }
      match raises with
      | some failure => throw failure
      | none => pure ⟨⟩

/-- `check_port`. -/
def checkPort (entry : PortEntry) : PortWork Details := do
  match ← settle (entry.verdict (check.answer entry)) with
  | (details, none) => return details
  | (details, some color) =>
    check.announce (entry.due details color)
    match check.refuses entry details with
    | some failure => throw failure
    | none => modify fun board => { board with
        ports := board.ports.put (entry.updated details color) }
    return details

/-- The body of the loop over the ports. -/
def checkEntry (portid : Nat) : PortWork PUnit := do
  match (← get).ports.lookup portid with
  | none => throw ⟨.otherException, "Instance has been deleted."⟩
  | some entry =>
    if entry.active = some false then
      modify fun board => { board with
        ports := board.ports.put { entry with color := none, notifiedColor := none }
        happenings := board.happenings ++ [.deactivated portid] }
    else
      let details ← check.checkPort entry
      modify fun board => { board with report := board.report ++ [details] }

/-- `find_by_envid`. -/
def findByEnvid (ports : PortRows) : List PortEntry :=
  (ports.entries.filter fun entry => entry.envid = check.envid).insertionSort fun left right =>
    left.agentid < right.agentid ∨ left.agentid = right.agentid ∧ left.destPort ≤ right.destPort

/-- `check_ports`. -/
def checkPorts : PortWork PUnit := do
  let ports := check.findByEnvid (← get).ports
  modify fun board => { board with report := [] }
  (ports.map PortEntry.portid).forM check.checkEntry

end PortCheck

/-! ## Runs -/

/-- What changes the rows: checks, and settings of new ports and of known ones, which keep their
colors. -/
inductive PortStep where
  | check (check : PortCheck)
  | edit (entry : PortEntry)

namespace PortBoard

/-- The color that is stored for a port. -/
def notified (portid : Nat) (board : PortBoard) : Option PortColor :=
  (board.ports.lookup portid).bind PortEntry.notifiedColor

/-- The board after a step. -/
def next (board : PortBoard) : PortStep → PortBoard
  | .check check => (check.checkPorts.run.run board).2
  | .edit entry =>
    let known := board.ports.lookup entry.portid
    { board with ports := board.ports.put { entry with
        color := known.bind PortEntry.color
        notifiedColor := board.notified entry.portid } }

/-- No ports, and nothing happened. -/
def empty : PortBoard := ⟨.empty, [], []⟩

end PortBoard

/-- Every sequence of checks and settings. -/
def portMachine : Machine PortBoard PortStep where
  initial board := board = .empty
  step board label := some (board.next label)

/-- The colors of the events of a port since it was last seen inactive. -/
def portColors (portid : Nat) (happenings : List PortHappening) : List PortColor :=
  happenings.foldl (fun sent happening => match happening with
    | .generated event => if event.portid = portid then sent ++ [event.color] else sent
    | .deactivated other => if other = portid then [] else sent) []

/-! ## What was notified -/

/-- What is stored for the ports agrees with what happened. -/
def PortsAgree (board : PortBoard) : Prop :=
  ∀ portid, Settled .green (board.notified portid) (portColors portid board.happenings)

section Rows

variable {board : PortBoard} {entry : PortEntry}

/-- The color of a row that was written. -/
theorem notified_write (portid : Nat) (happenings : List PortHappening) (report : List Details) :
    PortBoard.notified portid ⟨board.ports.put entry, happenings, report⟩ =
      if portid = entry.portid then entry.notifiedColor else board.notified portid := by
  unfold PortBoard.notified
  split
  · next same =>
    rw [same]
    exact congrArg (Option.bind · PortEntry.notifiedColor)
      (Dictionary.lookup_put_self board.ports entry)
  · next apart =>
    exact congrArg (Option.bind · PortEntry.notifiedColor)
      (Dictionary.lookup_put_of_ne board.ports entry apart)

/-- The colors of a port after one more event. -/
theorem portColors_generated (portid : Nat) (happenings : List PortHappening) (event : PortEvent) :
    portColors portid (happenings ++ [.generated event]) =
      if event.portid = portid then portColors portid happenings ++ [event.color]
      else portColors portid happenings := by
  unfold portColors
  rw [List.foldl_append]
  rfl

/-- A port that was seen inactive starts again. -/
theorem portColors_deactivated (portid other : Nat) (happenings : List PortHappening) :
    portColors portid (happenings ++ [.deactivated other]) =
      if other = portid then [] else portColors portid happenings := by
  unfold portColors
  rw [List.foldl_append]
  rfl

/-- A row is written, and what is stored for its port still agrees. -/
theorem PortsAgree.write (agree : PortsAgree board) {happenings : List PortHappening}
    {report : List Details}
    (own : Settled .green entry.notifiedColor (portColors entry.portid happenings))
    (others : ∀ portid, portid ≠ entry.portid →
      portColors portid happenings = portColors portid board.happenings) :
    PortsAgree ⟨board.ports.put entry, happenings, report⟩ := by
  intro portid
  rw [notified_write]
  split
  · next same =>
    subst same
    exact own
  · next apart =>
    have same : portColors portid happenings = portColors portid board.happenings :=
      others portid apart
    have kept := agree portid
    rw [← same] at kept
    exact kept

end Rows

/-! ## A port -/

namespace PortCheck

/-- An event is generated and its row is taken, or it is not generated at all and the check ends
with that. -/
def Tells (check : PortCheck) (entry : PortEntry) (details : Details) (event : PortEvent) : Prop :=
  (check.gen event = .generated none ∧ check.refuses entry details = none) ∨
    ∃ failure, check.gen event = .raised failure ∨ check.gen event = .incomplete failure

/-- The event that comes to be due for a port is told. -/
def Told (check : PortCheck) (board : PortBoard) (portid : Nat) : Prop :=
  ∀ entry ∈ board.ports.lookup portid, entry.active ≠ some false →
    ∀ details color, entry.verdict (check.answer entry) = .ok (details, some color) →
      ∀ event ∈ entry.due details color, check.Tells entry details event

/-- Every event that comes to be due in a check is told. -/
def Reliable (check : PortCheck) (board : PortBoard) : Prop :=
  Along check.checkEntry check.Told ((check.findByEnvid board.ports).map PortEntry.portid)
    { board with report := [] }

end PortCheck

section Checks

variable {check : PortCheck} {board : PortBoard} {entry : PortEntry}

/-- The result of a check is written without an event. -/
theorem settled_quiet {details : Details} {color : PortColor} {sent : List PortColor}
    (quiet : entry.due details color = none) (settled : Settled .green entry.notifiedColor sent) :
    Settled .green (some color) sent := by
  unfold PortEntry.due at quiet
  split_ifs at quiet with reddens greens
  cases color with
  | red =>
    have red : entry.notifiedColor = some .red := by
      by_contra other
      exact reddens ⟨rfl, other⟩
    exact red ▸ settled
  | green =>
    cases notified : entry.notifiedColor with
    | none => exact (notified ▸ settled).rest
    | some before =>
      cases before with
      | green => exact notified ▸ settled
      | red => exact absurd ⟨notified, rfl⟩ greens

/-- An event that is due changes the color of its port. -/
theorem due_changes {details : Details} {color : PortColor} {event : PortEvent}
    (due : entry.due details color = some event) :
    event.portid = entry.portid ∧ event.color = color ∧ entry.notifiedColor ≠ some color ∧
      (color = .green → entry.notifiedColor ≠ none) := by
  unfold PortEntry.due at due
  split_ifs at due with reddens greens
  · cases due
    obtain ⟨rfl, other⟩ := reddens
    exact ⟨rfl, rfl, other, fun same => by cases same⟩
  · cases due
    obtain ⟨red, rfl⟩ := greens
    rw [red]
    refine ⟨rfl, rfl, fun same => ?_, fun _ same => ?_⟩
    · cases same
    · cases same

/-- A port that is checked keeps the agreement, however that ends. -/
theorem checkPort_ends (stored : board.ports.lookup entry.portid = some entry)
    (told : ∀ details color, entry.verdict (check.answer entry) = .ok (details, some color) →
      ∀ event ∈ entry.due details color, check.Tells entry details event)
    (agree : PortsAgree board) :
    (check.checkPort entry).Ends board (fun _ final => PortsAgree final)
      fun _ final => PortsAgree final := by
  have own : Settled .green entry.notifiedColor (portColors entry.portid board.happenings) := by
    have here := agree entry.portid
    unfold PortBoard.notified at here
    rw [stored] at here
    exact here
  unfold PortCheck.checkPort
  rw [ends_bind, ends_settle]
  cases verdict : entry.verdict (check.answer entry) with
  | error failure => exact agree
  | ok result =>
    obtain ⟨details, measured⟩ := result
    cases measured with
    | none => exact agree
    | some color =>
      dsimp only
      rw [ends_bind]
      cases due : entry.due details color with
      | none =>
        unfold PortCheck.announce
        rw [ends_pure]
        cases check.refuses entry details with
        | some failure => exact agree
        | none => exact agree.write (settled_quiet due own) fun _ _ => rfl
      | some event =>
        obtain ⟨same, colored, other, okay⟩ := due_changes due
        have sent : Settled .green (some color)
            (portColors entry.portid (board.happenings ++ [.generated event])) := by
          rw [portColors_generated, if_pos same, colored]
          exact own.send other okay
        unfold PortCheck.announce
        rcases told details color verdict event due with ⟨generated, taken⟩ | ⟨failure, raised⟩
        · simp only [generated, taken]
          refine agree.write sent fun portid apart => ?_
          rw [portColors_generated, if_neg fun here => apart (here.symm.trans same)]
        · rcases raised with raised | incomplete
          · simp only [raised]
            exact agree
          · simp only [incomplete]
            exact agree

/-- The body of the loop keeps the agreement, however it ends. -/
theorem checkEntry_ends {portid : Nat} (told : check.Told board portid) (agree : PortsAgree board) :
    (check.checkEntry portid).Ends board (fun _ final => PortsAgree final)
      fun _ final => PortsAgree final := by
  unfold PortCheck.checkEntry
  rw [ends_bind, ends_get]
  cases looked : board.ports.lookup portid with
  | none => exact agree
  | some entry =>
    have same := ((Dictionary.lookup_eq_some _ _ _).mp looked).2
    subst same
    dsimp only
    rw [ends_ite]
    split
    · rw [ends_modify]
      refine @PortsAgree.write board { entry with color := none, notifiedColor := none } agree _ _ ?_
        fun portid apart => ?_
      · rw [portColors_deactivated, if_pos rfl]
        exact .start
      · rw [portColors_deactivated, if_neg (Ne.symm apart)]
    · next active =>
      rw [ends_bind]
      exact (checkPort_ends looked (told entry looked active) agree).mono
        (fun _ _ kept => kept) fun _ _ kept => kept

/-- A check keeps the agreement, however it ends. -/
theorem checkPorts_agree (reliable : check.Reliable board) (agree : PortsAgree board) :
    PortsAgree (board.next (.check check)) := by
  have ends : check.checkPorts.Ends board (fun _ final => PortsAgree final)
      fun _ final => PortsAgree final := by
    unfold PortCheck.checkPorts
    rw [ends_bind, ends_get, ends_bind, ends_modify]
    have each (middle : PortBoard) (portid : Nat) (told : check.Told middle portid)
        (agree : PortsAgree middle) : (check.checkEntry portid).Ends middle
          (fun _ final => PortsAgree final) fun _ final => PortsAgree final :=
      checkEntry_ends told agree
    exact Along.ends each reliable agree
  exact (ends_state _).mp ends

/-- A setting keeps the agreement: a new port has no color and no events. -/
theorem edit_agree (agree : PortsAgree board) (entry : PortEntry) :
    PortsAgree (board.next (.edit entry)) :=
  agree.write (agree entry.portid) fun _ _ => rfl

end Checks

/-! ## Runs in which every event is told -/

/-- Every event that comes to be due in a step is told. -/
def ReliablePortStep (board : PortBoard) : PortStep → Prop
  | .check check => check.Reliable board
  | .edit _ => True

open Classical in
/-- The runs in which every event that comes to be due is told. -/
noncomputable def reliablePorts : Machine PortBoard PortStep := portMachine.restrict ReliablePortStep

/-- In these runs what is stored for the ports agrees with what happened. -/
theorem reliablePorts_agree : reliablePorts.Invariant PortsAgree where
  starts board initial := by
    cases initial
    exact fun _ => .start
  preserved board label next agree stepped := by
    classical
    obtain ⟨reliable, accepted⟩ := Machine.restrict_step_eq_some.mp stepped
    cases accepted
    cases label with
    | check check => exact checkPorts_agree reliable agree
    | edit entry => exact edit_agree agree entry

end Palette.Alerts
