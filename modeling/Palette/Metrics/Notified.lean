import Palette.Foundation.Alternation
import Palette.Metrics.ColorRuns

/-!
# The metric alerts of every run

The agents of an environment share the table of notifications, and every agent has one of its
own for each process and metric. Its color is that of the last event about the process, as long
as every event that comes to be due is generated and does not end its check, or is not
generated and does.
-/

namespace Palette.Metrics

open Palette.Commands (Failure)
open Palette.Events Palette.Foundation Script

/-! ## Names -/

/-- The name of the notification of a process. -/
def notificationName (metric : Metric) (process : String) : String :=
  if process = "" then metric.name else metric.name ++ "_" ++ process

/-- The name of the notification that an event is about. -/
def Event.name (event : Event) : String := notificationName event.metric event.process

/-- Different metrics and processes have different notifications. -/
theorem notificationName_injective {metric other : Metric} {process otherProcess : String}
    (same : notificationName metric process = notificationName other otherProcess) :
    metric = other ∧ process = otherProcess := by
  have texts := congrArg String.toList same
  unfold notificationName at texts
  by_cases empty : process = ""
  · by_cases otherEmpty : otherProcess = ""
    · refine ⟨?_, empty.trans otherEmpty.symm⟩
      cases metric <;> cases other <;> simp [empty, otherEmpty, Metric.name] at texts ⊢
    · cases metric <;> cases other <;>
        simp [empty, otherEmpty, Metric.name, String.toList_append] at texts
  · by_cases otherEmpty : otherProcess = ""
    · cases metric <;> cases other <;>
        simp [empty, otherEmpty, Metric.name, String.toList_append] at texts
    · cases metric <;> cases other <;>
        simp [empty, otherEmpty, Metric.name, String.toList_append] at texts ⊢ <;>
        exact String.toList_injective texts

/-- The colors of the events about a process of an agent. -/
def processColors (agentid : Nat) (metric : Metric) (process : String) (events : List Event) :
    List Color :=
  (events.filter fun event =>
    event.agentid = agentid ∧ event.metric = metric ∧ event.process = process).map Event.color

/-- The color that was notified for a process of an agent. -/
def Board.notified (envid agentid : Nat) (metric : Metric) (process : String) (board : Board) :
    Option Color :=
  (board.view envid agentid).notified (notificationName metric process)

/-! ## What an agent sees -/

/-- The colors of the events with a name. -/
def View.sent (name : String) (view : View) : List Color :=
  (view.events.filter fun event => event.name = name).map Event.color

/-- Every notification that an agent sees has one color, that of the last event. -/
def View.Told (view : View) : Prop :=
  ∀ name, ∃ notified, view.colors name = [(notified, notified)] ∧
    Faithful .green notified (view.sent name)

/-- Nothing was notified. -/
theorem told_empty (envid agentid : Nat) : (Board.empty.view envid agentid).Told :=
  fun _ => ⟨none, rfl, .start⟩

/-- The events with a name after one more. -/
theorem sent_add (view : View) (event : Event) (name : String) :
    (view.add event).sent name =
      if event.name = name then view.sent name ++ [event.color] else view.sent name := by
  unfold View.sent View.add
  rw [List.filter_append, List.map_append, List.filter_singleton]
  by_cases same : event.name = name <;> simp [same]

/-- An event that is due is added, and its color is written. -/
theorem View.Told.send {view : View} (told : view.Told) {event : Event}
    (worth : Check.worthEvent event.color (view.notified event.name) = true) :
    ((view.add event).write event.name event.color).Told := by
  intro name
  have sent : ((view.add event).write event.name event.color).sent name =
      (view.add event).sent name := rfl
  rw [sent, sent_add]
  by_cases same : event.name = name
  · subst same
    rw [if_pos rfl]
    obtain ⟨notified, colors, faithful⟩ := told event.name
    rw [View.notified_eq colors] at worth
    unfold Check.worthEvent at worth
    refine ⟨some event.color, Function.update_self .., faithful.send ?_ ?_⟩
    · rintro rfl
      simp at worth
    · intro green nothing
      simp [green, nothing] at worth
  · rw [if_neg same]
    obtain ⟨notified, colors, faithful⟩ := told name
    exact ⟨notified, (Function.update_of_ne (Ne.symm same) ..).trans colors, faithful⟩

/-! ## Checks -/

/-- An event that is due for a process is generated and does not end the check, or it is not
generated and does. One that is skipped ends the check only where the notification is new. -/
def Check.Tells (check : Check) (board : Board) (row : Detail) (color : Color) (value : ℚ) : Prop :=
  Check.worthEvent color (check.notified row.processName board) = true →
    match check.gen (check.event row color value) with
    | .skipped =>
      board.table.own check.envid check.agentid (check.ownName row.processName) = []
    | .generated raises => raises = none
    | .raised _ | .incomplete _ => True

/-- An event that comes to be due for a row of the query is told. -/
def Check.TellsRow (check : Check) (board : Board) (row : Detail) : Prop :=
  match reading row with
  | (_, none) => True
  | (color, some value) => row.color ≠ some color → check.Tells board row color value

/-- Every event that comes to be due in a step is told. -/
def Checking.Reliable (board : Board) : Checking → Prop
  | .processes check => Along check.checkRow check.TellsRow (check.query board.table.rows) board
  | .load check row color value => check.Tells board { row with processName := "" } color value

section Reports

variable {check : Check} {board : Board} {row : Detail} {color : Color} {value : ℚ}

/-- A report keeps what an agent was told, however it ends. -/
theorem report_told (tells : check.Tells board row color value) (told : (check.sees board).Told) :
    (check.report row color value).Ends board (fun _ final => (check.sees final).Told)
      fun _ final => (check.sees final).Told := by
  by_cases skips : board.table.own check.envid check.agentid (check.ownName row.processName) = [] ∧
      Check.worthEvent color none = true ∧ check.gen (check.event row color value) = .skipped
  · obtain ⟨absent, worth, skipped⟩ := skips
    have stored : (check.sees { board with
        table := board.table.add check.envid (check.ownName row.processName) check.agentid }).Told := by
      rw [sees_store absent]
      exact told
    unfold Check.report
    rw [ends_bind, ends_get]
    simp only [absent, worth, if_true, Check.announce, skipped, Check.mayStore, Check.store]
    rw [ends_bind, ends_ite]
    split
    · exact stored
    · exact told
  · have after : (check.ownReport (check.sees board) row color value).1.Told := by
      obtain ⟨notified, colors, faithful⟩ := told (check.ownName row.processName)
      have known : check.notified row.processName board = notified := View.notified_eq colors
      unfold Check.ownReport
      simp only [colors]
      split
      · next worth =>
        have due := tells (known ▸ worth)
        unfold Check.announced
        cases generated : check.gen (check.event row color value) with
        | skipped =>
          simp only [generated] at due
          have nothing : notified = none := by
            have seen : (check.sees board).colors (check.ownName row.processName) =
                board.table.ownColors check.envid check.agentid
                  (check.ownName row.processName) := rfl
            rw [colors, Notifications.ownColors, due] at seen
            exact (Prod.mk.inj (List.singleton_inj.mp seen)).2
          exact absurd ⟨due, nothing ▸ worth, generated⟩ skips
        | raised failure => exact told
        | incomplete failure => exact told
        | generated raises =>
          simp only [generated] at due
          subst due
          have worthy : Check.worthEvent color ((check.sees board).notified
              (check.ownName row.processName)) = true := by
            rw [View.notified_eq colors]
            exact worth
          exact @View.Told.send _ told (check.event row color value) worthy
      · exact told
    exact (@report_shows check board row color value fun absent worth skipped =>
      skips ⟨absent, worth, skipped⟩).mono
        (fun _ _ shown => by rw [shown] at after; exact after)
        fun _ _ shown => by rw [shown] at after; exact after

/-- The check of a process keeps what an agent was told, however it ends. -/
theorem checkRow_told (tells : check.TellsRow board row) (told : (check.sees board).Told) :
    (check.checkRow row).Ends board (fun _ final => (check.sees final).Told)
      fun _ final => (check.sees final).Told := by
  unfold Check.TellsRow at tells
  unfold Check.checkRow
  cases read : reading row with
  | mk color value =>
    rw [read] at tells
    dsimp only
    rw [ends_ite]
    split
    · exact told
    · next other =>
      cases value with
      | none => exact told
      | some value => exact report_told (tells other) told

end Reports

/-! ## Runs -/

/-- Every sequence of checks of the agents of an environment. -/
def metricMachine (envid : Nat) : Machine Board Checking where
  initial board := board = Board.empty
  step board checking :=
    if checking.check.envid = envid then some (checking.next board) else none

open Classical in
/-- The runs in which every event that comes to be due is told. -/
noncomputable def reliableMetrics (envid : Nat) : Machine Board Checking :=
  (metricMachine envid).restrict Checking.Reliable

/-- In these runs every agent sees of each of its notifications the color of the last event. -/
theorem reliableMetrics_told (envid : Nat) : (reliableMetrics envid).Invariant fun board =>
    ∀ agentid, (board.view envid agentid).Told where
  starts board initial := by
    cases initial
    exact told_empty envid
  preserved board checking next told stepped := by
    classical
    obtain ⟨reliable, accepted⟩ := Machine.restrict_step_eq_some.mp stepped
    simp only [metricMachine, Option.ite_none_right_eq_some, Option.some.injEq] at accepted
    obtain ⟨rfl, rfl⟩ := accepted
    intro agentid
    by_cases own : checking.check.agentid = agentid
    · subst own
      cases checking with
      | processes check =>
        have rows : check.processLevelCheck.Ends board (fun _ final => (check.sees final).Told)
            fun _ final => (check.sees final).Told := by
          unfold Check.processLevelCheck
          rw [ends_bind, ends_get]
          have each (middle : Board) (row : Detail) (tells : check.TellsRow middle row)
              (told : (check.sees middle).Told) : (check.checkRow row).Ends middle
                (fun _ final => (check.sees final).Told) fun _ final => (check.sees final).Told :=
            checkRow_told tells told
          exact Along.ends each reliable (told check.agentid)
        exact (ends_state _).mp rows
      | load check row color value =>
        exact (ends_state _).mp (report_told reliable (told check.agentid))
    · cases checking with
      | processes check => exact (processLevelCheck_leaves own).symm ▸ told agentid
      | load check row color value =>
        have leaves := @report_leaves check check.envid agentid board own
          { row with processName := "" } color value
        have same : ((Checking.load check row color value).next board).view check.envid agentid =
            board.view check.envid agentid := (@ends_state _ _ _ board _ fun final =>
          final.view check.envid agentid = board.view check.envid agentid).mp leaves
        exact same.symm ▸ told agentid

/-- What an agent was told, in terms of its processes. -/
theorem Board.faithful {envid agentid : Nat} {board : Board}
    (told : (board.view envid agentid).Told) (metric : Metric) (process : String) :
    Faithful .green (board.notified envid agentid metric process)
      (processColors agentid metric process board.events) := by
  obtain ⟨notified, colors, faithful⟩ := told (notificationName metric process)
  have same : (board.view envid agentid).sent (notificationName metric process) =
      processColors agentid metric process board.events := by
    unfold View.sent Board.view processColors
    dsimp only
    rw [List.filter_filter]
    congr 1
    refine List.filter_congr fun event _ => ?_
    have named : event.name = notificationName metric process ↔
        event.metric = metric ∧ event.process = process := by
      constructor
      · exact notificationName_injective
      · rintro ⟨rfl, rfl⟩
        rfl
    rw [Bool.eq_iff_iff]
    simp only [Bool.and_eq_true, decide_eq_true_eq, named]
    exact and_comm
  rw [same] at faithful
  unfold Board.notified
  rw [View.notified_eq colors]
  exact faithful

end Palette.Metrics
