import Mathlib
import Palette.Events.Generation
import Palette.Foundation.Script

/-!
# The levels of an agent's processes

For every process with a threshold, the samples of an agent are averaged over a period, and the
average is set against the thresholds. One query does it: the settings are joined with the
samples and grouped, the groups are joined with the notifications by name, and what that gives
is grouped by process. A process whose color differs from the one in its group is reported: the
agent's own notification is looked up, an event is generated if that one has not got the color,
and the color is written to it.

The averages are those of the database. A notification that was looked up and not found is new;
it is stored by the next commit, which is one of the event's, or by a later one, if any.
-/

namespace Palette.Metrics

open Palette.Commands (Failure)
open Palette.Events Palette.Foundation

/-! ## Settings and samples -/

/-- The colors, as texts in their order. -/
inductive Color where
  | green
  | red
  | yellow
  deriving DecidableEq, Repr

namespace Color

/-- The place of a color among the texts. -/
def rank : Color → Nat
  | green => 0
  | red => 1
  | yellow => 2

/-- Colors with one place are one. -/
theorem rank_injective : Function.Injective rank := by
  intro left right same
  cases left <;> cases right <;> first | rfl | cases same

instance : LinearOrder Color := LinearOrder.lift' rank rank_injective

end Color

/-- What is measured. -/
inductive Metric where
  | cpu
  | memory
  deriving DecidableEq, Repr

/-- The name of a metric. -/
def Metric.name : Metric → String
  | cpu => "cpu"
  | memory => "memory"

/-- A row of `metrics`. -/
structure Sample where
  agentid : Nat
  cpu : Option ℚ
  memory : Option ℚ
  processName : Option String
  creationTime : Int
  deriving DecidableEq

/-- The column of a metric. -/
def Sample.value (sample : Sample) : Metric → Option ℚ
  | .cpu => sample.cpu
  | .memory => sample.memory

/-- `AlertSetting`. -/
structure Setting where
  processName : String
  alertType : Metric
  thresholdWarning : Option Int
  thresholdError : Option Int
  periodWarning : Option Int
  periodError : Option Int
  deriving DecidableEq, Repr

/-- The rows of `alert_settings`, one for a process and a metric. -/
structure Settings where
  rows : List Setting
  unique : (rows.map fun row => (row.processName, row.alertType)).Nodup

/-- The two levels. -/
inductive Level where
  | warning
  | error
  deriving DecidableEq, Repr

/-- A threshold that is set, with its period in minutes. -/
structure Config where
  processName : String
  threshold : Int
  period : Int
  level : Level
  deriving DecidableEq, Repr

/-- A threshold and a period that are both set. -/
def configOf (processName : String) (level : Level) : Option Int → Option Int → Option Config
  | some threshold, some period =>
    if 0 < period then some ⟨processName, threshold, period, level⟩ else none
  | _, _ => none

/-- The thresholds of a metric that are set: the warnings and then the errors. -/
def Settings.configs (settings : Settings) (metric : Metric) : List Config :=
  let rows := settings.rows.filter fun row => row.alertType = metric
  rows.filterMap (fun row =>
      configOf row.processName .warning row.thresholdWarning row.periodWarning) ++
    rows.filterMap fun row => configOf row.processName .error row.thresholdError row.periodError

/-! ## Notifications and events -/

/-- `NotificationEntry`. -/
structure Notification where
  notificationid : Nat
  envid : Nat
  name : String
  agentid : Option Nat
  color : Option Color
  notifiedColor : Option Color
  deriving DecidableEq, Repr

/-- The table of notifications. Ids are handed out in order and are unique. -/
structure Notifications where
  rows : List Notification
  nextId : Nat
  below : ∀ row ∈ rows, row.notificationid < nextId
  distinct : (rows.map Notification.notificationid).Nodup

namespace Notifications

/-- The table with one more row, which has no color. -/
def add (table : Notifications) (envid : Nat) (name : String) (agentid : Nat) : Notifications where
  rows := table.rows ++ [⟨table.nextId, envid, name, some agentid, none, none⟩]
  nextId := table.nextId + 1
  below := by
    intro row member
    rcases List.mem_append.mp member with old | new
    · exact Nat.lt_succ_of_lt (table.below row old)
    · rw [List.mem_singleton.mp new]
      exact Nat.lt_succ_self _
  distinct := by
    rw [List.map_append, List.nodup_append]
    refine ⟨table.distinct, List.nodup_singleton _, ?_⟩
    intro number old other new same
    obtain ⟨row, member, rfl⟩ := List.mem_map.mp old
    have fresh : other = table.nextId := List.mem_singleton.mp new
    exact absurd (table.below row member) (by omega)

/-- A row with a color that was notified. -/
def colored (color : Color) (row : Notification) : Notification :=
  { row with color := some color, notifiedColor := some color }

/-- The table with a color written to the row with an id. -/
def update (table : Notifications) (notificationid : Nat) (color : Color) : Notifications where
  rows := table.rows.map fun row =>
    if row.notificationid = notificationid then colored color row else row
  nextId := table.nextId
  below := by
    intro row member
    obtain ⟨earlier, stored, rfl⟩ := List.mem_map.mp member
    have bound := table.below earlier stored
    split <;> exact bound
  distinct := by
    have same : (table.rows.map fun row =>
        if row.notificationid = notificationid then colored color row else row).map
          Notification.notificationid = table.rows.map Notification.notificationid := by
      rw [List.map_map]
      refine List.map_congr_left fun row _ => ?_
      simp only [Function.comp_apply]
      split <;> rfl
    exact same ▸ table.distinct

/-- The notifications of an agent of a name. -/
def own (envid agentid : Nat) (name : String) (table : Notifications) : List Notification :=
  table.rows.filter fun row =>
    row.envid = envid ∧ row.name = name ∧ row.agentid = some agentid

end Notifications

/-- An event about a process. -/
structure Event where
  agentid : Nat
  metric : Metric
  process : String
  color : Color
  value : ℚ
  thresholdError : Option Int
  thresholdWarning : Option Int
  periodError : Option Int
  periodWarning : Option Int
  deriving DecidableEq

/-- How the database orders the groups of a query that does not say it. -/
structure GroupOrder where
  order : List String → List String
  permutes : ∀ names, (order names).Perm names

/-- A check of the processes of an agent, with the samples and the settings that it reads. -/
structure Check where
  envid : Nat
  agentid : Nat
  metric : Metric
  now : Int
  samples : List Sample
  settings : Settings
  avg : List ℚ → ℚ
  groupOrder : GroupOrder
  gen : Event → Generation
  /-- A later commit stores the new notification of that name. -/
  keeps : String → Bool

/-- The notifications and the events that were generated. -/
structure Board where
  table : Notifications
  events : List Event

/-- What is done on a board. -/
abbrev Work := Script Board Failure

/-! ## The query -/

/-- The least value, `min()`: NULLs do not count. -/
def minimum {Value : Type} [Min Value] (values : List (Option Value)) : Option Value :=
  (values.filterMap id).min?

/-- A row of the inner query, with the columns of one level. -/
@[ext] structure Detail where
  processName : String
  thresholdWarning : Option Int
  thresholdError : Option Int
  periodWarning : Option Int
  periodError : Option Int
  valueWarning : Option ℚ
  valueError : Option ℚ
  color : Option Color
  deriving DecidableEq

namespace Check

variable (check : Check)

/-- The samples of the agent that a threshold is about. -/
def joinedSamples (config : Config) : List Sample :=
  check.samples.filter fun sample =>
    sample.processName = some config.processName ∧
      check.now - config.period * 60 ≤ sample.creationTime ∧ sample.agentid = check.agentid

/-- The average over the period of a threshold, if there are samples with a value. -/
def average (config : Config) : Option ℚ :=
  match (check.joinedSamples config).filterMap fun sample => sample.value check.metric with
  | [] => none
  | values => some (check.avg values)

/-- The name by which the query looks for notifications. -/
def joinName (process : String) : String := check.metric.name ++ "_" ++ process

/-- The colors of the notifications of that name, of whatever agent; a NULL without any. -/
def joinedColors (process : String) (rows : List Notification) : List (Option Color) :=
  match rows.filter fun row => row.name = check.joinName process with
  | [] => [none]
  | found => found.map Notification.color

/-- A row of the inner query. -/
def detail (config : Config) (color : Option Color) : Detail :=
  match config.level with
  | .warning => ⟨config.processName, some config.threshold, none, some config.period, none,
      check.average config, none, color⟩
  | .error => ⟨config.processName, none, some config.threshold, none, some config.period,
      none, check.average config, color⟩

/-- The inner query. -/
def details (rows : List Notification) : List Detail :=
  (check.settings.configs check.metric).flatMap fun config =>
    (check.joinedColors config.processName rows).map (check.detail config)

/-- The row of a process. -/
def processRow (rows : List Notification) (process : String) : Detail :=
  let group := (check.details rows).filter fun detail => detail.processName = process
  { processName := process
    thresholdWarning := minimum (group.map Detail.thresholdWarning)
    thresholdError := minimum (group.map Detail.thresholdError)
    periodWarning := minimum (group.map Detail.periodWarning)
    periodError := minimum (group.map Detail.periodError)
    valueWarning := minimum (group.map Detail.valueWarning)
    valueError := minimum (group.map Detail.valueError)
    color := minimum (group.map Detail.color) }

/-- The processes of the groups. -/
def processNames : List String :=
  check.groupOrder.order ((check.settings.configs check.metric).map Config.processName).dedup

/-- The rows of the query. -/
def query (rows : List Notification) : List Detail := check.processNames.map (check.processRow rows)

end Check

/-! ## The loop -/

/-- `get_as_int_or_none`: a zero is none, too. -/
def getAsIntOrNone : Option Int → Option Int
  | some 0 => none
  | value => value

/-- `is_over_threshold`. -/
def isOverThreshold (period threshold : Option Int) (currentValue : Option ℚ) : Bool :=
  match period, threshold, currentValue with
  | some _, some threshold, some value => decide ((threshold : ℚ) ≤ value)
  | _, _, _ => false

/-- The value of a process within its thresholds: the one for the warning, unless it is none or
zero. -/
def valueOrElse : Option ℚ → Option ℚ → Option ℚ
  | some value, other => if value = 0 then other else some value
  | none, other => other

/-- The color of a process and its value, whatever the color before. -/
def reading (row : Detail) : Color × Option ℚ :=
  let overError := isOverThreshold (getAsIntOrNone row.periodError)
    (getAsIntOrNone row.thresholdError) row.valueError
  let overWarning := isOverThreshold (getAsIntOrNone row.periodWarning)
    (getAsIntOrNone row.thresholdWarning) row.valueWarning
  if overError then (.red, row.valueError)
  else if overWarning then (.yellow, row.valueWarning)
  else (.green, valueOrElse row.valueWarning row.valueError)

namespace Check

variable (check : Check)

/-- The name of the agent's own notification. -/
def ownName (process : String) : String :=
  if process = "" then check.metric.name else check.metric.name ++ "_" ++ process

/-- A color is worth an event. -/
def worthEvent (color : Color) (notified : Option Color) : Bool :=
  some color ≠ notified && (color ≠ .green || notified.isSome)

/-- The event about a process. -/
def event (row : Detail) (color : Color) (value : ℚ) : Event :=
  ⟨check.agentid, check.metric, row.processName, color, value, getAsIntOrNone row.thresholdError,
    getAsIntOrNone row.thresholdWarning, getAsIntOrNone row.periodError,
    getAsIntOrNone row.periodWarning⟩

/-- Store a notification that was not found. -/
def store (name : String) : Option Nat → Work PUnit
  | some _ => pure ⟨⟩
  | none => modify fun board => { board with
      table := board.table.add check.envid name check.agentid }

/-- Store a notification that was not found, if a later commit does. -/
def mayStore (name : String) (found : Option Nat) : Work PUnit :=
  if check.keeps name then check.store name found else pure ⟨⟩

/-- Write a color to a notification by its id. One that is not stored yet has none. -/
def update (color : Color) : Option Nat → Work PUnit
  | some notificationid => modify fun board => { board with
      table := board.table.update notificationid color }
  | none => throw ⟨.typeError, "%d format: a number is required, not NoneType"⟩

/-- The id of a notification after a commit of the event stored it. -/
def storedId (name : String) (found : Option Nat) (board : Board) : Option Nat :=
  match found with
  | some notificationid => some notificationid
  | none => (board.table.own check.envid check.agentid name).head?.map Notification.notificationid

/-- The part of `_report` that generates the event and writes the color. -/
def announce (name : String) (found : Option Nat) (event : Event) : Work PUnit :=
  match check.gen event with
  | .skipped => do
    check.mayStore name found
    update event.color found
  | .raised failure => do
    check.mayStore name found
    throw failure
  | .incomplete failure => do
    check.store name found
    throw failure
  | .generated raises => do
    check.store name found
    modify fun board => { board with events := board.events ++ [event] }
    match raises with
    | some failure => throw failure
    | none => update event.color (check.storedId name found (← get))

/-- `_report`. Several notifications of the agent raise. -/
def report (row : Detail) (color : Color) (value : ℚ) : Work PUnit := do
  let name := check.ownName row.processName
  match (← get).table.own check.envid check.agentid name with
  | [] =>
    if worthEvent color none then check.announce name none (check.event row color value)
    else check.mayStore name none
  | [found] =>
    if worthEvent color found.notifiedColor then
      check.announce name (some found.notificationid) (check.event row color value)
  | _ => throw ⟨.otherException, "Multiple rows were found for one()"⟩

/-- The body of the loop of `process_level_check`. -/
def checkRow (row : Detail) : Work PUnit :=
  let (color, value) := reading row
  if row.color = some color then pure ⟨⟩
  else
    match value with
    | none => pure ⟨⟩
    | some value => check.report row color value

/-- `process_level_check`. -/
def processLevelCheck : Work PUnit := do
  (check.query (← get).table.rows).forM check.checkRow

end Check

end Palette.Metrics
