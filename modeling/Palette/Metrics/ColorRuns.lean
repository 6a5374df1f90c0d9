import Palette.Metrics.Colors

/-!
# The color law in every run

The notifications of one agent keep the color that was notified, and the query finds no others.
So what a check that returns makes of the color of a process depends on its averages and on that
color alone, whatever the checks before it came to: some may have ended with an error of the
event that they generated.
-/

namespace Palette.Metrics

open Palette.Commands (Failure)
open Palette.Events Palette.Foundation Script

/-! ## The notifications of one agent -/

/-- The color that was last notified for a name. -/
def View.notified (view : View) (name : String) : Option Color :=
  match view.colors name with
  | [(_, notified)] => notified
  | _ => none

theorem View.notified_eq {view : View} {name : String} {color notified : Option Color}
    (colors : view.colors name = [(color, notified)]) : view.notified name = notified := by
  rw [View.notified, colors]

/-- What was notified for a name depends on the notifications of that name. -/
theorem View.notified_congr {view other : View} {name : String}
    (same : view.colors name = other.colors name) : view.notified name = other.notified name := by
  unfold notified
  rw [same]

/-- The color of a process that was last notified. -/
def Check.notified (check : Check) (process : String) (board : Board) : Option Color :=
  (check.sees board).notified (check.ownName process)

/-- A table has rows of one agent only, and none under the bare prefix of a metric. -/
structure OwnRows (envid agentid : Nat) (table : Notifications) : Prop where
  own : ∀ row ∈ table.rows, row.envid = envid ∧ row.agentid = some agentid
  named : ∀ row ∈ table.rows, ∀ metric : Metric, row.name ≠ metric.name ++ "_"

/-- A board has the notifications of one agent only, each with the color that was notified. -/
structure Sole (envid agentid : Nat) (board : Board) : Prop where
  rows : OwnRows envid agentid board.table
  same : ∀ name, ∃ color, (board.view envid agentid).colors name = [(color, color)]

section Names

variable {check : Check}

/-- Different processes have different notifications. -/
theorem ownName_injective : Function.Injective check.ownName := by
  intro process other same
  have texts := congrArg String.toList same
  unfold Check.ownName at texts
  by_cases empty : process = ""
  · by_cases otherEmpty : other = ""
    · exact empty.trans otherEmpty.symm
    · simp [empty, otherEmpty, String.toList_append] at texts
  · by_cases otherEmpty : other = ""
    · simp [empty, otherEmpty, String.toList_append] at texts
    · exact String.toList_injective (by
        simpa [empty, otherEmpty, String.toList_append] using texts)

/-- No process has its notification under the bare prefix of a metric. -/
theorem ownName_ne_prefix (process : String) (metric : Metric) :
    check.ownName process ≠ metric.name ++ "_" := by
  intro same
  have texts := congrArg String.toList same
  unfold Check.ownName at texts
  by_cases empty : process = ""
  · cases own : check.metric <;> cases metric <;>
      simp [empty, own, Metric.name] at texts
  · cases own : check.metric <;> cases metric <;>
      simp [empty, own, Metric.name, String.toList_append] at texts

end Names

/-! ## A report -/

section Reports

variable {check : Check} {board : Board}

/-- What storing, writing and noting keeps, an announcement keeps. -/
theorem announce_keeps {kept : Board → Prop} {name : String} {found : Option Nat} {event : Event}
    (stores : ∀ board, kept board →
      kept { board with table := board.table.add check.envid name check.agentid })
    (updates : ∀ board notificationid color, kept board →
      kept { board with table := board.table.update notificationid color })
    (notes : ∀ board event, kept board → kept { board with events := board.events ++ [event] })
    (holds : kept board) :
    (check.announce name found event).Ends board (fun _ final => kept final)
      fun _ final => kept final := by
  have store (middle : Board) (known : kept middle) :
      (check.store name found).Ends middle (fun _ final => kept final)
        fun _ final => kept final := by
    cases found with
    | none => exact stores middle known
    | some _ => exact known
  have mayStore (middle : Board) (known : kept middle) :
      (check.mayStore name found).Ends middle (fun _ final => kept final)
        fun _ final => kept final := by
    unfold Check.mayStore
    split
    · exact store middle known
    · exact known
  have update (stored : Option Nat) (middle : Board) (known : kept middle) :
      (Check.update event.color stored).Ends middle (fun _ final => kept final)
        fun _ final => kept final := by
    cases stored with
    | none => exact known
    | some notificationid => exact updates middle notificationid event.color known
  unfold Check.announce
  cases check.gen event with
  | skipped =>
    rw [ends_bind]
    exact (mayStore board holds).mono (fun _ middle known => update found middle known)
      fun _ _ known => known
  | raised failure =>
    rw [ends_bind]
    exact (mayStore board holds).mono (fun _ _ known => known) fun _ _ known => known
  | incomplete failure =>
    rw [ends_bind]
    exact (store board holds).mono (fun _ _ known => known) fun _ _ known => known
  | generated raises =>
    simp only [ends_bind, ends_modify]
    refine (store board holds).mono (fun _ middle known => ?_) fun _ _ known => known
    cases raises with
    | some failure => exact notes middle event known
    | none => exact update _ _ (notes middle event known)

/-- What storing, writing and noting keeps, a report keeps. -/
theorem report_keeps {kept : Board → Prop} {row : Detail} {color : Color} {value : ℚ}
    (stores : ∀ board, kept board → kept { board with
      table := board.table.add check.envid (check.ownName row.processName) check.agentid })
    (updates : ∀ board notificationid color, kept board →
      kept { board with table := board.table.update notificationid color })
    (notes : ∀ board event, kept board → kept { board with events := board.events ++ [event] })
    (holds : kept board) :
    (check.report row color value).Ends board (fun _ final => kept final)
      fun _ final => kept final := by
  unfold Check.report
  rw [ends_bind, ends_get]
  cases board.table.own check.envid check.agentid (check.ownName row.processName) with
  | nil =>
    dsimp only
    rw [ends_ite]
    split
    · exact announce_keeps stores updates notes holds
    · unfold Check.mayStore Check.store
      split
      · exact stores board holds
      · exact holds
  | cons found rest =>
    cases rest with
    | nil =>
      dsimp only
      rw [ends_ite]
      split
      · exact announce_keeps stores updates notes holds
      · exact holds
    | cons _ _ => exact holds

/-- A report keeps a table of one agent. -/
theorem report_ownRows {row : Detail} {color : Color} {value : ℚ}
    (own : OwnRows check.envid check.agentid board.table) :
    (check.report row color value).Ends board
      (fun _ final => OwnRows check.envid check.agentid final.table)
      fun _ final => OwnRows check.envid check.agentid final.table := by
  refine @report_keeps check board (fun board => OwnRows check.envid check.agentid board.table)
    row color value (fun board own => ⟨fun added listed => ?_, fun added listed metric => ?_⟩)
    (fun board notificationid color own => ⟨fun written listed => ?_,
      fun written listed metric => ?_⟩) (fun _ _ own => own) own
  · rcases List.mem_append.mp listed with old | new
    · exact own.own added old
    · rw [List.mem_singleton.mp new]
      exact ⟨rfl, rfl⟩
  · rcases List.mem_append.mp listed with old | new
    · exact own.named added old metric
    · rw [List.mem_singleton.mp new]
      exact ownName_ne_prefix row.processName metric
  · obtain ⟨earlier, stored, rfl⟩ := List.mem_map.mp listed
    split <;> exact own.own earlier stored
  · obtain ⟨earlier, stored, rfl⟩ := List.mem_map.mp listed
    split <;> exact own.named earlier stored metric

/-- A report that fails writes no color. -/
theorem ownReport_failed {view next : View} {row : Detail} {color : Color} {value : ℚ}
    (failed : check.ownReport view row color value = (next, false)) :
    next.colors = view.colors := by
  unfold Check.ownReport at failed
  dsimp only at failed
  split at failed
  · split at failed
    · unfold Check.announced at failed
      split at failed <;> cases failed <;> rfl
    · cases failed
  · cases failed
    rfl

/-- A report that succeeds writes the color where it is worth an event. -/
theorem ownReport_colors {view next : View} {row : Detail} {color : Color} {value : ℚ}
    {before : Option Color} (same : view.colors (check.ownName row.processName) = [(before, before)])
    (done : check.ownReport view row color value = (next, true)) :
    next.colors = if Check.worthEvent color before then
      Function.update view.colors (check.ownName row.processName) [(some color, some color)]
      else view.colors := by
  unfold Check.ownReport at done
  simp only [same] at done
  split at done
  · next worth =>
    rw [if_pos worth]
    unfold Check.announced at done
    split at done <;> cases done <;> rfl
  · next idle =>
    rw [if_neg idle]
    cases done
    rfl

/-- What a report does to what the agent sees, however it ends. -/
theorem report_ends {row : Detail} {color : Color} {value : ℚ} :
    (check.report row color value).Ends board
      (fun _ final => check.ownReport (check.sees board) row color value = (check.sees final, true))
      fun _ final => (check.sees final).colors = (check.sees board).colors := by
  by_cases skips : board.table.own check.envid check.agentid (check.ownName row.processName) = [] ∧
      Check.worthEvent color none = true ∧ check.gen (check.event row color value) = .skipped
  · obtain ⟨absent, worth, skipped⟩ := skips
    have stored := congrArg View.colors (sees_store absent)
    unfold Check.report
    rw [ends_bind, ends_get]
    simp only [absent, worth, if_true, Check.announce, skipped, Check.mayStore, Check.store]
    rw [ends_bind, ends_ite]
    split
    · exact stored
    · exact rfl
  · have shows := @report_shows check board row color value fun absent worth skipped =>
      skips ⟨absent, worth, skipped⟩
    exact shows.mono (fun _ _ done => done) fun _ _ failed => ownReport_failed failed

/-- A report keeps a board of one agent. -/
theorem report_sole {row : Detail} {color : Color} {value : ℚ}
    (sole : Sole check.envid check.agentid board) :
    (check.report row color value).Ends board
      (fun _ final => Sole check.envid check.agentid final)
      fun _ final => Sole check.envid check.agentid final := by
  refine (Ends.and (report_ownRows sole.rows) report_ends).mono (fun _ final done => ?_)
    fun _ final failed => ?_
  · obtain ⟨before, same⟩ := sole.same (check.ownName row.processName)
    have colors := ownReport_colors same done.2
    refine ⟨done.1, fun name => ?_⟩
    have own : (final.view check.envid check.agentid).colors = _ := colors
    rw [own]
    split
    · by_cases here : name = check.ownName row.processName
      · rw [here, Function.update_self]
        exact ⟨some color, rfl⟩
      · rw [Function.update_of_ne here]
        exact sole.same name
    · exact sole.same name
  · refine ⟨failed.1, fun name => ?_⟩
    have own : (final.view check.envid check.agentid).colors = _ := failed.2
    rw [own]
    exact sole.same name

end Reports

/-! ## A check -/

section Checks

variable {check : Check} {board : Board}

/-- The color of a board with one agent. -/
theorem Sole.colors (sole : Sole check.envid check.agentid board) (name : String) :
    (check.sees board).colors name =
      [((check.sees board).notified name, (check.sees board).notified name)] := by
  obtain ⟨color, same⟩ := sole.same name
  have seen : (check.sees board).colors name = [(color, color)] := same
  rw [View.notified_eq seen, seen]

/-- A color that is worth an event becomes the one that was notified. -/
theorem settle_worth (color : Color) (before : Option Color) :
    (if Check.worthEvent color before then some color else before) =
      if color = .green ∧ before = none then none else some color := by
  cases before with
  | none => cases color <;> rfl
  | some other => cases color <;> cases other <;> rfl

/-- A row changes the color of its own process as its values ask for, and no other one. -/
theorem checkRow_colors {row : Detail} (sole : Sole check.envid check.agentid board)
    (joined : ∀ color, row.color = some color → check.notified row.processName board = some color) :
    (check.checkRow row).Ends board
      (fun _ final => Sole check.envid check.agentid final ∧ ∀ process,
        check.notified process final = if process = row.processName then
          settleRow row (check.notified process board) else check.notified process board)
      fun _ final => Sole check.envid check.agentid final := by
  have stays : (∀ before, check.notified row.processName board = before →
      settleRow row before = before) → Sole check.envid check.agentid board ∧ ∀ process,
        check.notified process board = if process = row.processName then
          settleRow row (check.notified process board) else check.notified process board := by
    intro same
    refine ⟨sole, fun process => ?_⟩
    split
    · next here =>
      subst here
      exact (same _ rfl).symm
    · rfl
  unfold Check.checkRow
  cases read : reading row with
  | mk color value =>
    dsimp only
    rw [ends_ite]
    split
    · next present =>
      refine stays fun before notified => ?_
      rw [joined color present] at notified
      subst notified
      unfold settleRow
      rw [read]
      cases value with
      | none => rfl
      | some _ => exact if_neg fun both => by cases both.2
    · cases value with
      | none =>
        refine stays fun before _ => ?_
        unfold settleRow
        rw [read]
      | some value =>
        dsimp only
        refine (Ends.and (report_sole sole) report_ends).mono (fun _ final done => ?_)
          fun _ _ failed => failed.1
        refine ⟨done.1, fun process => ?_⟩
        have colors : (check.sees final).colors =
            if Check.worthEvent color (check.notified row.processName board) then
              Function.update (check.sees board).colors (check.ownName row.processName)
                [(some color, some color)]
            else (check.sees board).colors :=
          ownReport_colors (sole.colors (check.ownName row.processName)) done.2
        have seen : check.notified process final =
            if process = row.processName then
              if Check.worthEvent color (check.notified row.processName board) then some color
              else check.notified row.processName board
            else check.notified process board := by
          by_cases here : process = row.processName
          · subst here
            rw [if_pos rfl]
            split
            · next worth =>
              rw [if_pos worth] at colors
              exact View.notified_eq (by rw [colors, Function.update_self])
            · next idle =>
              rw [if_neg idle] at colors
              exact View.notified_congr (by rw [colors])
          · rw [if_neg here]
            have other : check.ownName process ≠ check.ownName row.processName :=
              fun same => here (ownName_injective same)
            refine View.notified_congr ?_
            rw [colors]
            split
            · rw [Function.update_of_ne other]
            · rfl
        rw [seen]
        split
        · next here =>
          subst here
          rw [settle_worth]
          unfold settleRow
          rw [read]
        · rfl

/-- The loop changes the color of each process once. -/
theorem checkRows_colors {rows : List Detail} (sole : Sole check.envid check.agentid board)
    (distinct : (rows.map Detail.processName).Nodup)
    (joined : ∀ row ∈ rows, ∀ color, row.color = some color →
      check.notified row.processName board = some color) :
    (rows.forM check.checkRow).Ends board
      (fun _ final => Sole check.envid check.agentid final ∧
        (∀ row ∈ rows, check.notified row.processName final =
          settleRow row (check.notified row.processName board)) ∧
        ∀ process, process ∉ rows.map Detail.processName →
          check.notified process final = check.notified process board)
      fun _ final => Sole check.envid check.agentid final := by
  induction rows generalizing board with
  | nil => exact ⟨sole, fun _ listed => absurd listed List.not_mem_nil, fun _ _ => rfl⟩
  | cons row rest inductionHypothesis =>
    obtain ⟨fresh, restDistinct⟩ := List.nodup_cons.mp distinct
    rw [List.forM_eq_forM, List.forM_cons, ends_bind]
    refine (checkRow_colors sole (joined row List.mem_cons_self)).mono
      (fun _ middle first => ?_) fun _ _ failed => failed
    have apart : ∀ other ∈ rest, other.processName ≠ row.processName := fun other listed same =>
      fresh (same ▸ List.mem_map_of_mem listed)
    have kept : ∀ other ∈ rest, check.notified other.processName middle =
        check.notified other.processName board := fun other listed => by
      rw [first.2, if_neg (apart other listed)]
    refine (inductionHypothesis first.1 restDistinct fun other listed color known => ?_).mono
      (fun _ final second => ⟨second.1, fun other listed => ?_, fun process absent => ?_⟩)
      fun _ _ failed => failed
    · rw [kept other listed]
      exact joined other (List.mem_cons_of_mem _ listed) color known
    · rcases List.mem_cons.mp listed with rfl | later
      · rw [second.2.2 _ fresh, first.2, if_pos rfl]
      · rw [second.2.1 other later, kept other later]
    · rw [List.map_cons, List.mem_cons, not_or] at absent
      rw [second.2.2 process absent.2, first.2, if_neg absent.1]

/-- With one agent, a color that the query joins is the one that was notified. -/
theorem joined_color (sole : Sole check.envid check.agentid board) {process : String}
    {color : Color} (known : (check.processRow board.table.rows process).color = some color) :
    check.notified process board = some color := by
  have listed : some color ∈ ((check.details board.table.rows).filter fun detail =>
      detail.processName = process).map Detail.color := by
    have least := (List.min?_eq_some_iff.mp known).1
    simpa using least
  obtain ⟨detail, filtered, colored⟩ := List.mem_map.mp listed
  obtain ⟨made, own⟩ := List.mem_filter.mp filtered
  obtain ⟨config, -, joins⟩ := List.mem_flatMap.mp made
  obtain ⟨joined, among, rfl⟩ := List.mem_map.mp joins
  have name : config.processName = process := by
    have shown := of_decide_eq_true own
    rw [detail_eq] at shown
    unfold Check.detail at shown
    cases kind : config.level <;> simpa [kind] using shown
  have same : joined = some color := by
    rw [detail_eq] at colored
    exact colored
  subst same
  rw [name] at among
  have found : ∃ row ∈ board.table.rows, row.name = check.joinName process ∧
      row.color = some color := by
    unfold Check.joinedColors at among
    split at among
    · simp at among
    · obtain ⟨row, stored, rowColor⟩ := List.mem_map.mp among
      obtain ⟨present, named⟩ := List.mem_filter.mp stored
      exact ⟨row, present, of_decide_eq_true named, rowColor⟩
  obtain ⟨row, present, named, rowColor⟩ := found
  have filled : process ≠ "" := by
    rintro rfl
    refine sole.rows.named row present check.metric (named.trans ?_)
    exact String.append_empty
  have here : row ∈ board.table.own check.envid check.agentid (check.ownName process) := by
    have owner := sole.rows.own row present
    refine (mem_own row).mpr ⟨present, owner.1, ?_, owner.2⟩
    rw [named]
    unfold Check.joinName Check.ownName
    rw [if_neg filled]
  have colors : board.table.ownColors check.envid check.agentid (check.ownName process) =
      [(check.notified process board, check.notified process board)] :=
    sole.colors (check.ownName process)
  unfold Notifications.ownColors at colors
  split at colors
  · next absent =>
    rw [absent] at here
    cases here
  · have pair := List.mem_map_of_mem (f := fun row : Notification =>
      (row.color, row.notifiedColor)) here
    rw [colors, List.mem_singleton, Prod.mk.injEq] at pair
    exact pair.1.symm.trans rowColor

/-- The processes of the query are those with an enabled level. -/
theorem mem_processNames {process : String} :
    process ∈ check.processNames ↔ ∃ level config, check.level process level = some config := by
  unfold Check.processNames
  rw [(check.groupOrder.permutes _).mem_iff, List.mem_dedup, List.mem_map]
  constructor
  · rintro ⟨config, listed, rfl⟩
    exact ⟨config.level, config, level_eq_some.mpr ⟨listed, rfl, rfl⟩⟩
  · rintro ⟨level, config, enabled⟩
    obtain ⟨listed, name, -⟩ := level_eq_some.mp enabled
    exact ⟨config, listed, name⟩

/-- A check that returns gives every process the color that it settles for; one that fails
leaves a board of one agent as well. -/
theorem processLevelCheck_colors (sole : Sole check.envid check.agentid board) :
    check.processLevelCheck.Ends board
      (fun _ final => Sole check.envid check.agentid final ∧ ∀ process,
        check.notified process final = check.settle process (check.notified process board))
      fun _ final => Sole check.envid check.agentid final := by
  have names : (check.query board.table.rows).map Detail.processName = check.processNames := by
    unfold Check.query
    rw [List.map_map]
    exact List.map_id' _
  have distinct : check.processNames.Nodup :=
    (check.groupOrder.permutes _).nodup_iff.mpr (List.nodup_dedup _)
  have settles (process : String) (before : Option Color) :
      settleRow (check.processRow board.table.rows process) before =
        check.settle process before := by
    have same : reading (check.processRow board.table.rows process) =
        reading (check.processRow [] process) := by
      rw [reading_processRow, reading_processRow]
    unfold Check.settle settleRow
    rw [same]
  unfold Check.processLevelCheck
  rw [ends_bind, ends_get]
  refine (checkRows_colors sole (names ▸ distinct) fun row listed color known => ?_).mono
    (fun _ final done => ⟨done.1, fun process => ?_⟩) fun _ _ failed => failed
  · obtain ⟨process, -, rfl⟩ := List.mem_map.mp listed
    exact joined_color sole known
  · by_cases queried : process ∈ check.processNames
    · exact (done.2.1 _ (List.mem_map_of_mem queried)).trans (settles process _)
    · rw [done.2.2 process (names ▸ queried)]
      have disabled (level : Level) : check.level process level = none := by
        cases enabled : check.level process level with
        | none => rfl
        | some config => exact absurd (mem_processNames.mpr ⟨level, config, enabled⟩) queried
      obtain ⟨color, read⟩ := @silent_value check process ⟨disabled .error, fun config enabled => by
        rw [disabled] at enabled
        cases enabled⟩
      exact (settle_silent read).symm

end Checks

/-! ## Runs -/

/-- What writes the notifications of an agent: checks of its processes, and reports of the load
of the agent itself, which are those of a process without a name. -/
inductive Checking where
  | processes (check : Check)
  | load (check : Check) (row : Detail) (color : Color) (value : ℚ)

namespace Checking

/-- The check of a step. -/
def check : Checking → Check
  | processes check => check
  | load check _ _ _ => check

/-- What a step does, however it ends. -/
def next (board : Board) : Checking → Board
  | processes check => (check.processLevelCheck.run.run board).2
  | load check row color value =>
    ((check.report { row with processName := "" } color value).run.run board).2

end Checking

/-- No notifications and no events. -/
def Board.empty : Board := ⟨⟨[], 1, by simp, by simp⟩, []⟩

/-- The checks of one agent. -/
def soleMachine (envid agentid : Nat) : Machine Board Checking where
  initial board := board = Board.empty
  step board checking :=
    if checking.check.envid = envid ∧ checking.check.agentid = agentid then
      some (checking.next board)
    else none

/-- The board is one of one agent in every run. -/
theorem sole_invariant (envid agentid : Nat) :
    (soleMachine envid agentid).Invariant (Sole envid agentid) where
  starts board initial := by
    cases initial
    exact ⟨⟨fun _ listed => absurd listed List.not_mem_nil,
      fun _ listed => absurd listed List.not_mem_nil⟩, fun _ => ⟨none, rfl⟩⟩
  preserved board checking next sole stepped := by
    simp only [soleMachine, Option.ite_none_right_eq_some, Option.some.injEq] at stepped
    obtain ⟨⟨rfl, rfl⟩, rfl⟩ := stepped
    cases checking with
    | processes check =>
      exact (ends_state _).mp ((processLevelCheck_colors sole).mono (fun _ _ done => done.1)
        fun _ _ failed => failed)
    | load check row color value => exact (ends_state _).mp (report_sole sole)

/-- In every run, the color of a process is the one that its averages ask for after a check
that returns, if and only if the check can give it that color. -/
theorem color_law_iff {envid agentid : Nat} {board after : Board} {check : Check}
    (reachable : (soleMachine envid agentid).Reachable board)
    (own : check.envid = envid ∧ check.agentid = agentid)
    (returned : check.processLevelCheck.run.run board = (.ok ⟨⟩, after)) (process : String)
    (exist : check.AveragesExist process) :
    check.Lawful process (check.notified process after) ↔
      check.Regular process (check.notified process board) := by
  obtain ⟨rfl, rfl⟩ := own
  have sole := (sole_invariant check.envid check.agentid).reachable reachable
  have colors := processLevelCheck_colors sole
  unfold Ends at colors
  rw [returned] at colors
  rw [colors.2 process]
  exact lawful_settle_iff exist

/-! ## A process that falls idle -/

/-- The mean of some values. -/
def mean (values : List ℚ) : ℚ := values.sum / values.length

/-- A check of one process with a warning at eighty over five minutes, and a sample. -/
def backgrounderCheck (now : Int) (value : ℚ) : Check where
  envid := 1
  agentid := 1
  metric := .cpu
  now := now
  samples := [⟨1, some value, none, some "backgrounder", now⟩]
  settings := ⟨[⟨"backgrounder", .cpu, some 80, none, some 5, some 0⟩], by decide⟩
  avg := mean
  groupOrder := ⟨id, List.Perm.refl⟩
  gen := fun _ => .generated none
  keeps := fun _ => true

/-- After the warning. -/
def warned : Board := ((backgrounderCheck 0 90).processLevelCheck.run.run Board.empty).2

/-- After the process has fallen idle. -/
def idled : Board := ((backgrounderCheck 600 0).processLevelCheck.run.run warned).2

/-- The board after the warning is reached. -/
theorem warned_reachable : (soleMachine 1 1).Reachable warned :=
  ⟨Board.empty, [.processes (backgrounderCheck 0 90)], rfl, rfl⟩

/-- A check of a process that fell idle leaves its warning. -/
theorem idle_stays_yellow :
    ¬ ∀ (board after : Board) (check : Check) (process : String),
      (soleMachine 1 1).Reachable board → check.envid = 1 ∧ check.agentid = 1 →
      check.processLevelCheck.run.run board = (.ok ⟨⟩, after) → check.AveragesExist process →
      check.Lawful process (check.notified process after) := by
  intro always
  have exist : (backgrounderCheck 600 0).AveragesExist "backgrounder" := by
    intro level config enabled
    cases level with
    | warning =>
      have same : config = ⟨"backgrounder", 80, 5, .warning⟩ := (Option.some.inj enabled).symm
      subst same
      rfl
    | error => cases enabled
  have lawful := always warned idled (backgrounderCheck 600 0) "backgrounder" warned_reachable
    ⟨rfl, rfl⟩ (Prod.ext (by decide +kernel) rfl) exist
  have under : (backgrounderCheck 600 0).reached "backgrounder" .warning = false := by
    decide +kernel
  have disabled : (backgrounderCheck 600 0).reached "backgrounder" .error = false := by
    decide +kernel
  have yellow : (backgrounderCheck 600 0).notified "backgrounder" idled = some .yellow := by
    decide +kernel
  rw [Check.Lawful, disabled, under, yellow] at lawful
  simp at lawful

/-- The first check of a busy process gives it the color of its warning. -/
theorem busy_turns_yellow :
    (backgrounderCheck 0 90).Lawful "backgrounder"
        ((backgrounderCheck 0 90).notified "backgrounder" warned) ↔
      (backgrounderCheck 0 90).Regular "backgrounder"
        ((backgrounderCheck 0 90).notified "backgrounder" Board.empty) := by
  refine color_law_iff ⟨Board.empty, [], rfl, rfl⟩ ⟨rfl, rfl⟩
    (Prod.ext (by decide +kernel) rfl) "backgrounder" ?_
  intro level config enabled
  cases level with
  | warning =>
    have same : config = ⟨"backgrounder", 80, 5, .warning⟩ := (Option.some.inj enabled).symm
    subst same
    rfl
  | error => cases enabled

end Palette.Metrics
