import Palette.Foundation.Purge
import Palette.Metrics.Levels

/-!
# The alerts of one agent

An agent's own notifications are looked up by the agent, but the query joins the notifications
of every agent by their name. The least color in the group may be one of another agent, and
where it is the color that the process has now, the agent's alert is not sent.

The alerts of an agent are a function of its own samples and notifications as long as this does
not happen: in each of its checks the least color of all is the present one exactly if the least
of its own is, or its own notification has that color anyway.
-/

namespace Palette.Metrics

open Palette.Commands (Failure)
open Palette.Events Palette.Foundation Script

/-! ## What an agent sees -/

/-- The colors of the agent's notifications of a name and what was notified. A notification
without a color is like none. -/
def Notifications.ownColors (envid agentid : Nat) (table : Notifications) (name : String) :
    List (Option Color × Option Color) :=
  match table.own envid agentid name with
  | [] => [(none, none)]
  | found => found.map fun row => (row.color, row.notifiedColor)

/-- What an agent sees of a board: its colors and its events. -/
@[ext] structure View where
  colors : String → List (Option Color × Option Color)
  events : List Event

namespace View

/-- A color is written to the notification of a name. -/
def write (view : View) (name : String) (color : Color) : View :=
  { view with colors := Function.update view.colors name [(some color, some color)] }

/-- An event is generated. -/
def add (view : View) (event : Event) : View := { view with events := view.events ++ [event] }

end View

/-- What an agent sees of a board. -/
def Board.view (envid agentid : Nat) (board : Board) : View where
  colors := board.table.ownColors envid agentid
  events := board.events.filter fun event => event.agentid = agentid

namespace Check

variable (check : Check)

/-- What an announcement does to what the agent sees, and whether the check goes on. -/
def announced (view : View) (name : String) (event : Event) : View × Bool :=
  match check.gen event with
  | .skipped => (view.write name event.color, true)
  | .raised _ | .incomplete _ => (view, false)
  | .generated none => ((view.add event).write name event.color, true)
  | .generated (some _) => (view.add event, false)

/-- What a report does to what the agent sees, and whether the check goes on. -/
def ownReport (view : View) (row : Detail) (color : Color) (value : ℚ) : View × Bool :=
  let name := check.ownName row.processName
  let event := check.event row color value
  match view.colors name with
  | [(_, notified)] =>
    if worthEvent color notified then check.announced view name event else (view, true)
  | _ => (view, false)

/-- What the check of a process does to what the agent sees. -/
def ownRow (view : View) (row : Detail) : View × Bool :=
  match reading row with
  | (_, none) => (view, true)
  | (color, some value) =>
    if row.color = some color then (view, true) else check.ownReport view row color value

/-- What the check of processes does to what the agent sees. -/
def ownRows : View → List Detail → View
  | view, [] => view
  | view, row :: rest =>
    match check.ownRow view row with
    | (next, true) => ownRows next rest
    | (next, false) => next

/-- The row of a process with the agent's own colors only. -/
def ownProcessRow (view : View) (process : String) : Detail :=
  { check.processRow [] process with
    color := minimum ((view.colors (check.joinName process)).map Prod.fst) }

/-- The check of an agent, as a function of what it sees. -/
def ownCheck (view : View) : View :=
  check.ownRows view (check.processNames.map (check.ownProcessRow view))

/-- A check with the samples of its agent only. -/
def purged : Check :=
  { check with
    samples := check.samples.filter fun sample => sample.agentid = check.agentid
    keeps := fun _ => false }

end Check

/-! ## The rows of the query -/

section Query

variable {check : Check} {rows : List Notification} {process : String}

/-- The least value is the same where the values are. -/
theorem minimum_congr {Value : Type} [LinearOrder Value] {left right : List (Option Value)}
    (same : ∀ value, some value ∈ left ↔ some value ∈ right) : minimum left = minimum right := by
  unfold minimum
  ext value
  simp only [List.min?_eq_some_iff, List.mem_filterMap, id_eq, exists_eq_right, same]

/-- Every threshold has a row of the inner query. -/
theorem joinedColors_ne_nil : check.joinedColors process rows ≠ [] := by
  unfold Check.joinedColors
  split
  · simp
  next found => simpa using found

/-- The color of a row of the inner query is its last column, and no other one. -/
theorem detail_eq (config : Config) (color : Option Color) :
    check.detail config color = { check.detail config none with color := color } := by
  unfold Check.detail
  cases config.level <;> rfl

/-- A value of the group of a process is one of its thresholds, for a column that does not
depend on the color. -/
theorem mem_group {Value : Type} (column : Detail → Option Value)
    (colorless : ∀ detail color, column { detail with color := color } = column detail)
    (value : Value) :
    some value ∈ ((check.details rows).filter fun detail => detail.processName = process).map
        column ↔
      ∃ config ∈ check.settings.configs check.metric,
        (check.detail config none).processName = process ∧
          column (check.detail config none) = some value := by
  unfold Check.details
  simp only [List.mem_map, List.mem_filter, List.mem_flatMap, decide_eq_true_eq]
  constructor
  · rintro ⟨detail, ⟨⟨config, listed, color, -, rfl⟩, same⟩, valued⟩
    rw [detail_eq] at same valued
    exact ⟨config, listed, same, (colorless _ _).symm.trans valued⟩
  · rintro ⟨config, listed, same, valued⟩
    obtain ⟨color, joined⟩ := List.exists_mem_of_ne_nil _
      (@joinedColors_ne_nil check rows config.processName)
    refine ⟨check.detail config color, ⟨⟨config, listed, color, joined, rfl⟩, ?_⟩, ?_⟩
    · rw [detail_eq]
      exact same
    · rw [detail_eq]
      exact (colorless _ _).trans valued

/-- The row of a process depends on the notifications by its color only. -/
theorem processRow_eq (rows : List Notification) :
    check.processRow rows process =
      { check.processRow [] process with color := (check.processRow rows process).color } := by
  have same {Value : Type} [LinearOrder Value] (column : Detail → Option Value)
      (colorless : ∀ detail color, column { detail with color := color } = column detail) :
      minimum (((check.details rows).filter fun detail => detail.processName = process).map
        column) = minimum (((check.details []).filter fun detail =>
          detail.processName = process).map column) :=
    minimum_congr fun value =>
      (mem_group column colorless value).trans (mem_group column colorless value).symm
  exact Detail.ext rfl (same Detail.thresholdWarning fun _ _ => rfl)
    (same Detail.thresholdError fun _ _ => rfl) (same Detail.periodWarning fun _ _ => rfl)
    (same Detail.periodError fun _ _ => rfl) (same Detail.valueWarning fun _ _ => rfl)
    (same Detail.valueError fun _ _ => rfl) rfl

/-- What is read of a process does not depend on colors, and a color only decides whether there
is a report. -/
theorem ownRow_color (view : View) (row : Detail) (before : Option Color) :
    check.ownRow view { row with color := before } =
      match reading row with
      | (_, none) => (view, true)
      | (color, some value) =>
        if before = some color then (view, true) else check.ownReport view row color value := rfl

end Query

/-! ## Notifications -/

section Notifications

variable {envid agentid : Nat} {table : Notifications} {name : String}

/-- A notification of the agent. -/
theorem mem_own (row : Notification) : row ∈ table.own envid agentid name ↔
    row ∈ table.rows ∧ row.envid = envid ∧ row.name = name ∧ row.agentid = some agentid := by
  simp [Notifications.own]

/-- Writing a color changes one row, for ids are unique. -/
theorem own_update {found : Notification} (stored : found ∈ table.rows) (color : Color) :
    (table.update found.notificationid color).own envid agentid name =
      (table.own envid agentid name).map fun row =>
        if row = found then Notifications.colored color row else row := by
  have one (row : Notification) (rowStored : row ∈ table.rows) :
      row.notificationid = found.notificationid ↔ row = found :=
    ⟨List.inj_on_of_nodup_map table.distinct rowStored stored, congrArg _⟩
  unfold Notifications.own Notifications.update
  rw [List.filter_map, List.filter_congr (q := fun row =>
    decide (row.envid = envid ∧ row.name = name ∧ row.agentid = some agentid))]
  · refine List.map_congr_left fun row listed => ?_
    simp only [one row (List.mem_of_mem_filter listed)]
  · intro row _
    simp only [Function.comp_apply]
    split <;> rfl

/-- Another agent's notification is written. -/
theorem ownColors_update_other {found : Notification} (stored : found ∈ table.rows)
    (other : found ∉ table.own envid agentid name) (color : Color) :
    (table.update found.notificationid color).ownColors envid agentid name =
      table.ownColors envid agentid name := by
  have same : (table.update found.notificationid color).own envid agentid name =
      table.own envid agentid name := by
    rw [own_update stored]
    refine (List.map_congr_left fun row listed => ?_).trans (List.map_id _)
    rw [if_neg]
    · rfl
    · rintro rfl
      exact other listed
  unfold Notifications.ownColors
  rw [same]

/-- The agent's only notification of a name is written. -/
theorem ownColors_update_own {found : Notification}
    (only : table.own envid agentid name = [found]) (color : Color) :
    (table.update found.notificationid color).ownColors envid agentid =
      Function.update (table.ownColors envid agentid) name [(some color, some color)] := by
  obtain ⟨stored, -, sameName, -⟩ := (mem_own found).mp (by rw [only]; exact List.mem_cons_self)
  funext other
  by_cases same : other = name
  · subst same
    rw [Function.update_self]
    unfold Notifications.ownColors
    rw [own_update stored, only]
    simp [Notifications.colored]
  · rw [Function.update_of_ne same]
    refine ownColors_update_other stored (fun listed => same ?_) color
    exact ((mem_own found).mp listed).2.2.1.symm.trans sameName

/-- What is added is another one's or has no color. -/
theorem own_add (otherEnvid otherAgentid : Nat) (otherName : String) :
    (table.add otherEnvid otherName otherAgentid).own envid agentid name =
      table.own envid agentid name ++
        if otherEnvid = envid ∧ otherName = name ∧ otherAgentid = agentid then
          [⟨table.nextId, otherEnvid, otherName, some otherAgentid, none, none⟩] else [] := by
  unfold Notifications.own Notifications.add
  rw [List.filter_append, List.filter_singleton]
  simp

/-- A new notification has no color, so nothing is seen of it. -/
theorem ownColors_add_own (absent : table.own envid agentid name = []) :
    (table.add envid name agentid).ownColors envid agentid = table.ownColors envid agentid := by
  funext other
  unfold Notifications.ownColors
  rw [own_add]
  by_cases same : name = other
  · subst same
    simp [absent]
  · simp [same]

/-- The notification of another agent is added. -/
theorem ownColors_add_other {otherEnvid otherAgentid : Nat} {otherName : String}
    (apart : otherAgentid ≠ agentid) :
    (table.add otherEnvid otherName otherAgentid).ownColors envid agentid =
      table.ownColors envid agentid := by
  funext other
  unfold Notifications.ownColors
  rw [own_add]
  simp [apart]

end Notifications

/-! ## An agent's own check -/

namespace Check

/-- Another agent's notifications do not disturb the check of a process. The color in its group
is the present one exactly if the least of the agent's own is, or no event is due anyway; and
no event is skipped before the notification of its process is stored. -/
def Undisturbed (check : Check) (start : View) (board : Board) (row : Detail) : Prop :=
  match reading row with
  | (_, none) => True
  | (color, some value) =>
    let name := check.ownName row.processName
    ((row.color = some color ↔
        (check.ownProcessRow start row.processName).color = some color) ∨
      ∃ before notified, board.table.ownColors check.envid check.agentid name =
        [(before, notified)] ∧ worthEvent color notified = false) ∧
    (board.table.own check.envid check.agentid name = [] → worthEvent color none = true →
      check.gen (check.event row color value) ≠ .skipped)

/-- A check of an agent is undisturbed throughout. -/
def Quiet (check : Check) (board : Board) : Prop :=
  Along check.checkRow (check.Undisturbed (board.view check.envid check.agentid))
    (check.query board.table.rows) board

end Check

section Own

variable {check : Check} {board : Board}

/-- What the agent of a check sees. -/
def Check.sees (check : Check) (board : Board) : View := board.view check.envid check.agentid

/-- A script does to what an agent sees what a function says, and goes on if it says so. -/
def Shows (check : Check) (work : Work PUnit) (board : Board) (expected : View × Bool) : Prop :=
  work.Ends board (fun _ final => expected = (check.sees final, true))
    fun _ final => expected = (check.sees final, false)

/-- The color of the agent's only notification is written. -/
theorem sees_update {name : String} {found : Notification}
    (only : board.table.own check.envid check.agentid name = [found]) (color : Color) :
    check.sees { board with table := board.table.update found.notificationid color } =
      (check.sees board).write name color := by
  unfold Check.sees Board.view View.write
  rw [ownColors_update_own only]

/-- An event of the agent is generated. -/
theorem sees_event {event : Event} (own : event.agentid = check.agentid) :
    check.sees { board with events := board.events ++ [event] } = (check.sees board).add event := by
  simp [Check.sees, Board.view, View.add, own]

/-- A new notification shows nothing. -/
theorem sees_store {name : String} (absent : board.table.own check.envid check.agentid name = []) :
    check.sees { board with table := board.table.add check.envid name check.agentid } =
      check.sees board := by
  unfold Check.sees Board.view
  rw [ownColors_add_own absent]

/-- An announcement of a notification that is stored. -/
theorem announce_found {name : String} {found : Notification} {event : Event}
    (only : board.table.own check.envid check.agentid name = [found])
    (own : event.agentid = check.agentid) :
    Shows check (check.announce name (some found.notificationid) event) board
      (check.announced (check.sees board) name event) := by
  have kept : (check.mayStore name (some found.notificationid) : Work PUnit) = pure ⟨⟩ := by
    unfold Check.mayStore Check.store
    exact ite_self _
  unfold Shows Check.announce Check.announced
  rw [kept]
  cases check.gen event with
  | skipped => exact congrArg (·, true) (sees_update only event.color).symm
  | raised failure => rfl
  | incomplete failure => rfl
  | generated raises =>
    cases raises with
    | some failure => exact congrArg (·, false) (sees_event own).symm
    | none =>
      refine congrArg (·, true) ?_
      rw [← sees_event own]
      exact (@sees_update check { board with events := board.events ++ [event] } name found only
        event.color).symm

/-- An announcement of a notification that is new. -/
theorem announce_new {name : String} {event : Event}
    (absent : board.table.own check.envid check.agentid name = [])
    (unskipped : check.gen event ≠ .skipped) (own : event.agentid = check.agentid) :
    Shows check (check.announce name none event) board
      (check.announced (check.sees board) name event) := by
  have stored := sees_store absent
  unfold Shows Check.announce Check.announced Check.mayStore Check.store
  cases made : check.gen event with
  | skipped => exact absurd made unskipped
  | raised failure =>
    simp only [ends_bind, ends_ite, ends_modify, ends_pure, ends_throw]
    split
    · exact congrArg (·, false) stored.symm
    · trivial
  | incomplete failure => exact congrArg (·, false) stored.symm
  | generated raises =>
    simp only [ends_bind, ends_modify]
    have generated := @sees_event check { board with
      table := board.table.add check.envid name check.agentid } event own
    rw [stored] at generated
    cases raises with
    | some failure => exact congrArg (·, false) generated.symm
    | none =>
      have only : (board.table.add check.envid name check.agentid).own check.envid check.agentid
          name = [⟨board.table.nextId, check.envid, name, some check.agentid, none, none⟩] := by
        rw [own_add, absent]
        simp
      simp only [ends_bind, ends_get, Check.storedId, only, List.head?_cons, Option.map_some]
      refine congrArg (·, true) ?_
      rw [← generated]
      exact (@sees_update check ⟨board.table.add check.envid name check.agentid,
        board.events ++ [event]⟩ name _ only event.color).symm

/-- A report does what the agent's own notification says. -/
theorem report_shows {row : Detail} {color : Color} {value : ℚ}
    (unskipped : board.table.own check.envid check.agentid (check.ownName row.processName) = [] →
      Check.worthEvent color none = true → check.gen (check.event row color value) ≠ .skipped) :
    Shows check (check.report row color value) board
      (check.ownReport (check.sees board) row color value) := by
  unfold Check.report Check.ownReport
  have colors : (check.sees board).colors (check.ownName row.processName) =
      board.table.ownColors check.envid check.agentid (check.ownName row.processName) := rfl
  rw [Shows, ends_bind, ends_get]
  simp only [colors, Notifications.ownColors]
  cases own : board.table.own check.envid check.agentid (check.ownName row.processName) with
  | nil =>
    simp only []
    cases worth : Check.worthEvent color none with
    | true => exact announce_new own (unskipped own worth) rfl
    | false =>
      simp only [Bool.false_eq_true, ↓reduceIte, Check.mayStore, Check.store]
      rw [ends_ite]
      split
      · exact congrArg (·, true) (sees_store own).symm
      · rfl
  | cons found rest =>
    cases rest with
    | nil =>
      simp only [List.map_cons, List.map_nil]
      cases worth : Check.worthEvent color found.notifiedColor with
      | true => exact announce_found own rfl
      | false => rfl
    | cons other rest => rfl

/-- The check of a process that is not disturbed does what the agent's own colors say. -/
theorem checkRow_shows {start : View} {row : Detail} (quiet : check.Undisturbed start board row) :
    Shows check (check.checkRow row) board (check.ownRow (check.sees board)
      { row with color := (check.ownProcessRow start row.processName).color }) := by
  unfold Check.Undisturbed at quiet
  rw [ownRow_color]
  unfold Check.checkRow
  generalize reading row = read at quiet ⊢
  rcases read with ⟨color, value⟩
  cases value with
  | none =>
    simp only []
    split <;> rfl
  | some value =>
    obtain ⟨agrees, unskipped⟩ := quiet
    have reports := @report_shows check board row color value unskipped
    simp only []
    rcases agrees with same | ⟨before, notified, colors, idle⟩
    · by_cases present : row.color = some color
      · rw [if_pos present, if_pos (same.mp present)]
        rfl
      · rw [if_neg present, if_neg fun own => present (same.mpr own)]
        exact reports
    · have nothing : check.ownReport (check.sees board) row color value =
          (check.sees board, true) := by
        have sees : (check.sees board).colors (check.ownName row.processName) =
            [(before, notified)] := colors
        unfold Check.ownReport
        simp [sees, idle]
      have expected : (if (check.ownProcessRow start row.processName).color = some color then
          (check.sees board, true) else check.ownReport (check.sees board) row color value) =
          (check.sees board, true) := by
        split
        · rfl
        · exact nothing
      rw [expected]
      split
      · rfl
      · exact nothing ▸ reports

/-- The loop over the rows of the query does what the agent's own colors say. -/
theorem checkRows_shows {start : View} (rows : List Detail)
    (quiet : Along check.checkRow (check.Undisturbed start) rows board) :
    (rows.forM check.checkRow).Ends board
      (fun _ final => check.ownRows (check.sees board) (rows.map fun row => { row with
        color := (check.ownProcessRow start row.processName).color }) = check.sees final)
      fun _ final => check.ownRows (check.sees board) (rows.map fun row => { row with
        color := (check.ownProcessRow start row.processName).color }) = check.sees final := by
  induction rows generalizing board with
  | nil => rfl
  | cons row rest inductionHypothesis =>
    rw [List.forM_eq_forM, List.forM_cons, ends_bind]
    refine (Ends.and (checkRow_shows quiet.1) quiet.2).mono ?_ ?_
    · rintro _ middle ⟨shown, along⟩
      rw [List.map_cons, Check.ownRows, shown]
      exact inductionHypothesis along
    · rintro _ middle ⟨shown, -⟩
      rw [List.map_cons, Check.ownRows, shown]

/-- The row of a process with the agent's own colors. -/
theorem processRow_own (start : View) (rows : List Notification) (process : String) :
    { check.processRow rows process with
      color := (check.ownProcessRow start (check.processRow rows process).processName).color } =
      check.ownProcessRow start process := by
  rw [processRow_eq]
  rfl

/-- A quiet check does to what the agent sees what its own colors say. -/
theorem processLevelCheck_sees (quiet : check.Quiet board) :
    check.sees (check.processLevelCheck.run.run board).2 = check.ownCheck (check.sees board) := by
  have shown := checkRows_shows _ quiet
  have rows : (check.query board.table.rows).map (fun row => { row with
      color := (check.ownProcessRow (check.sees board) row.processName).color }) =
      check.processNames.map (check.ownProcessRow (check.sees board)) := by
    rw [Check.query, List.map_map]
    exact List.map_congr_left fun process _ => processRow_own _ _ process
  have same : check.processLevelCheck.Ends board
      (fun _ final => check.ownCheck (check.sees board) = check.sees final)
      fun _ final => check.ownCheck (check.sees board) = check.sees final := by
    unfold Check.processLevelCheck Check.ownCheck
    rw [ends_bind, ends_get, ← rows]
    exact shown
  exact ((ends_state _).mp same).symm

/-- A check depends on no sample of another agent. -/
theorem ownCheck_purged : check.purged.ownCheck = check.ownCheck := by
  have joined (config : Config) : check.purged.joinedSamples config = check.joinedSamples config := by
    unfold Check.joinedSamples Check.purged
    rw [List.filter_filter]
    refine List.filter_congr fun sample _ => ?_
    by_cases own : sample.agentid = check.agentid <;> simp [own]
  have details : check.purged.details [] = check.details [] := by
    have average (config : Config) : check.purged.average config = check.average config := by
      unfold Check.average
      rw [joined]
      rfl
    have detail (config : Config) : check.purged.detail config = check.detail config := by
      unfold Check.detail
      rw [average]
    unfold Check.details
    simp only [detail]
    rfl
  have row (view : View) (process : String) :
      check.purged.ownProcessRow view process = check.ownProcessRow view process := by
    unfold Check.ownProcessRow Check.processRow
    rw [details]
    rfl
  have rows (view : View) (list : List Detail) :
      check.purged.ownRows view list = check.ownRows view list := by
    induction list generalizing view with
    | nil => rfl
    | cons head rest inductionHypothesis =>
      unfold Check.ownRows
      simp only [inductionHypothesis]
      rfl
  funext view
  unfold Check.ownCheck
  rw [rows]
  exact congrArg _ (List.map_congr_left fun process _ => row view process)

end Own

/-! ## The check of another agent -/

section Others

variable {check : Check} {envid agentid : Nat} {board : Board} {name : String}

/-- A script leaves what an agent sees as it is. -/
def Leaves (envid agentid : Nat) (work : Work PUnit) (board : Board) : Prop :=
  work.Ends board (fun _ final => final.view envid agentid = board.view envid agentid)
    fun _ final => final.view envid agentid = board.view envid agentid

/-- The color of another agent's notification is written. -/
theorem view_update (apart : check.agentid ≠ agentid) {found : Notification}
    (listed : found ∈ board.table.own check.envid check.agentid name) (color : Color) :
    Board.view envid agentid
        { board with table := board.table.update found.notificationid color } =
      board.view envid agentid := by
  obtain ⟨stored, -, -, theirs⟩ := (mem_own found).mp listed
  have colors : (board.table.update found.notificationid color).ownColors envid agentid =
      board.table.ownColors envid agentid := by
    funext other
    refine ownColors_update_other stored (fun own => apart ?_) color
    exact Option.some.inj (theirs.symm.trans ((mem_own found).mp own).2.2.2)
  unfold Board.view
  rw [colors]

/-- A notification of another agent is stored. -/
theorem view_store (apart : check.agentid ≠ agentid) :
    Board.view envid agentid
        { board with table := board.table.add check.envid name check.agentid } =
      board.view envid agentid := by
  unfold Board.view
  rw [ownColors_add_other apart]

/-- An event of another agent is generated. -/
theorem view_event (apart : check.agentid ≠ agentid) {event : Event}
    (theirs : event.agentid = check.agentid) :
    Board.view envid agentid { board with events := board.events ++ [event] } =
      board.view envid agentid := by
  simp [Board.view, theirs, apart]

/-- An announcement of another agent's notification, be it stored or new. -/
theorem announce_leaves (apart : check.agentid ≠ agentid) {event : Event}
    (theirs : event.agentid = check.agentid) (found : Option Notification)
    (listed : ∀ row ∈ found, row ∈ board.table.own check.envid check.agentid name) :
    Leaves envid agentid (check.announce name (found.map Notification.notificationid) event)
      board := by
  have store (middle : Board) (same : middle.view envid agentid = board.view envid agentid) :
      Board.view envid agentid
          { middle with table := middle.table.add check.envid name check.agentid } =
        board.view envid agentid := (view_store apart).trans same
  unfold Leaves Check.announce Check.mayStore
  cases found with
  | some row =>
    have update (events : List Event) := @view_update check envid agentid
      ⟨board.table, events⟩ name apart row (listed row rfl) event.color
    simp only [Option.map_some, Check.store, ite_self]
    cases check.gen event with
    | skipped => exact update board.events
    | raised failure => rfl
    | incomplete failure => rfl
    | generated raises =>
      cases raises with
      | some failure => exact view_event apart theirs
      | none => exact (update (board.events ++ [event])).trans (view_event apart theirs)
  | none =>
    simp only [Option.map_none, Check.store]
    cases check.gen event with
    | skipped =>
      simp only [ends_bind, ends_ite, ends_modify, ends_pure]
      split
      · exact store board rfl
      · rfl
    | raised failure =>
      simp only [ends_bind, ends_ite, ends_modify, ends_pure, ends_throw]
      split
      · exact store board rfl
      · trivial
    | incomplete failure => exact store board rfl
    | generated raises =>
      have added : Board.view envid agentid
          ⟨board.table.add check.envid name check.agentid, board.events ++ [event]⟩ =
          board.view envid agentid := (view_event apart theirs).trans (store board rfl)
      simp only [ends_bind, ends_modify]
      cases raises with
      | some failure => exact added
      | none =>
        simp only [ends_bind, ends_get, Check.storedId]
        cases first : ((board.table.add check.envid name check.agentid).own check.envid
            check.agentid name).head? with
        | none => exact added
        | some row => exact (view_update apart (List.mem_of_head? first) event.color).trans added

/-- A report of another agent. -/
theorem report_leaves (apart : check.agentid ≠ agentid) (row : Detail) (color : Color)
    (value : ℚ) : Leaves envid agentid (check.report row color value) board := by
  unfold Leaves Check.report
  rw [ends_bind, ends_get]
  cases own : board.table.own check.envid check.agentid (check.ownName row.processName) with
  | nil =>
    simp only [Check.mayStore, Check.store, ends_ite, ends_modify, ends_pure]
    split
    · refine announce_leaves apart rfl none fun listed same => ?_
      cases same
    · split
      · exact view_store apart
      · trivial
  | cons found rest =>
    cases rest with
    | nil =>
      simp only [ends_ite, ends_pure]
      split
      · refine announce_leaves apart rfl (some found) fun listed same => ?_
        cases same
        rw [own]
        exact List.mem_cons_self
      · trivial
    | cons other rest => rfl

/-- A check of another agent. -/
theorem processLevelCheck_leaves (apart : check.agentid ≠ agentid) :
    (check.processLevelCheck.run.run board).2.view envid agentid = board.view envid agentid := by
  have each (middle : Board) (row : Detail) (_ : True)
      (same : middle.view envid agentid = board.view envid agentid) :
      (check.checkRow row).Ends middle
        (fun _ final => final.view envid agentid = board.view envid agentid)
        fun _ final => final.view envid agentid = board.view envid agentid := by
    rw [← same]
    unfold Check.checkRow
    simp only [ends_ite]
    split
    · rfl
    · split
      · rfl
      · exact report_leaves apart row _ _
  have rows (list : List Detail) := Along.ends each
    (along_of_forall (fun _ _ => trivial) list board) rfl
  exact (ends_state check.processLevelCheck).mp (rows _)

end Others

/-! ## Histories -/

/-- What happens to the notifications and the events of an environment: checks of its agents,
and other writes to the notifications. -/
inductive Label where
  /-- The processes of an agent are checked. -/
  | check (check : Check)
  /-- Something else writes to notifications of other agents. -/
  | others (table : Notifications)
  /-- Something else writes to notifications of the agent, and maybe of others. -/
  | written (table : Notifications)

/-- The notifications of an agent. -/
def Notifications.ofAgent (agentid : Nat) (table : Notifications) : List Notification :=
  table.rows.filter fun row => row.agentid = some agentid

/-- The histories of an environment, for the sake of one of its agents. -/
def levels (envid agentid : Nat) : Machine Board Label where
  initial _ := True
  step board label :=
    match label with
    | .check check =>
      if check.envid = envid then some (check.processLevelCheck.run.run board).2 else none
    | .others table =>
      if table.ofAgent agentid = board.table.ofAgent agentid then some { board with table := table }
      else none
    | .written table => some { board with table := table }

/-- What a step of a history is to an agent: a check with its own samples, or new colors. -/
inductive Own where
  | check (check : Check)
  | written (colors : String → List (Option Color × Option Color))

/-- An agent with its checks and the writes to its notifications. -/
def agentParty (envid agentid : Nat) : Party Board Label View Own where
  view := Board.view envid agentid
  own
    | .check check => if check.agentid = agentid then some (.check check.purged) else none
    | .others _ => none
    | .written table => some (.written (table.ownColors envid agentid))
  step view
    | .check check => check.ownCheck view
    | .written colors => { view with colors := colors }

/-- No check of the agent is disturbed. -/
def Quietly (agentid : Nat) (board : Board) : Label → Prop
  | .check check => check.agentid = agentid → check.Quiet board
  | _ => True

/-- The steps of a history in which no check of the agent is disturbed. -/
noncomputable def quietly (envid agentid : Nat) : Machine Board Label :=
  @Machine.restrict _ _ (levels envid agentid) (Quietly agentid) fun _ _ => Classical.propDecidable _

/-- The agent's colors depend on its notifications alone. -/
theorem ownColors_congr {envid agentid : Nat} {left right : Notifications}
    (same : left.ofAgent agentid = right.ofAgent agentid) :
    left.ownColors envid agentid = right.ownColors envid agentid := by
  have own (table : Notifications) (name : String) : table.own envid agentid name =
      (table.ofAgent agentid).filter fun row => row.envid = envid ∧ row.name = name := by
    unfold Notifications.own Notifications.ofAgent
    rw [List.filter_filter]
    refine List.filter_congr fun row _ => ?_
    simp [Bool.and_assoc]
  funext name
  unfold Notifications.ownColors
  rw [own left, own right, same]

/-- An agent whose checks are not disturbed is isolated from the others. -/
theorem agentParty_isolated (envid agentid : Nat) :
    (agentParty envid agentid).Isolated (quietly envid agentid) := by
  intro board label next stepped
  obtain ⟨quiet, stepped⟩ := (@Machine.restrict_step_eq_some _ _ _ _
    (fun _ _ => Classical.propDecidable _) _ _ _).mp stepped
  cases label with
  | check check =>
    obtain ⟨same, rfl⟩ := Option.ite_none_right_eq_some.mp stepped |>.imp_right Option.some.inj
    subst same
    unfold Party.after agentParty
    by_cases own : check.agentid = agentid
    · subst own
      simp only [if_pos]
      rw [ownCheck_purged]
      exact processLevelCheck_sees (quiet rfl)
    · simp only [if_neg own]
      exact processLevelCheck_leaves own
  | others table =>
    obtain ⟨same, rfl⟩ := Option.ite_none_right_eq_some.mp stepped |>.imp_right Option.some.inj
    exact View.ext (ownColors_congr same) rfl
  | written table =>
    cases stepped
    rfl

/-- The events of an agent and the colors of its notifications are the same in any two histories
with the same samples, notifications and settings of the agent, if in both of them no check of the
agent is disturbed. -/
theorem alerts_isolated {envid agentid : Nat} {left right leftFinal rightFinal : Board}
    {leftHistory rightHistory : List Label}
    (leftReached : (quietly envid agentid).run left leftHistory = some leftFinal)
    (rightReached : (quietly envid agentid).run right rightHistory = some rightFinal)
    (start : left.view envid agentid = right.view envid agentid)
    (steps : leftHistory.filterMap (agentParty envid agentid).own =
      rightHistory.filterMap (agentParty envid agentid).own) :
    (leftFinal.events.filter fun event => event.agentid = agentid) =
        rightFinal.events.filter (fun event => event.agentid = agentid) ∧
      ∀ name, leftFinal.table.ownColors envid agentid name =
        rightFinal.table.ownColors envid agentid name := by
  have same := (agentParty_isolated envid agentid).same leftReached rightReached start steps
  exact ⟨congrArg View.events same, congrFun (congrArg View.colors same)⟩

/-! ## An agent with a neighbor -/

/-- A check of processes `x` over 90% for ten minutes, with a sample of 95%. -/
def overloaded : Check where
  envid := 1
  agentid := 2
  metric := .cpu
  now := 600
  samples := [⟨2, some 95, none, some "x", 500⟩]
  settings := ⟨[⟨"x", .cpu, none, some 90, none, some 10⟩], by decide⟩
  avg values := values.sum / values.length
  groupOrder := ⟨id, fun _ => .refl _⟩
  gen _ := .generated none
  keeps _ := false

/-- Another agent's notification about its processes `x`. -/
def neighbor (color : Option Color) : Board :=
  ⟨⟨[⟨1, 1, "cpu_x", some 3, color, color⟩], 2, by simp, by simp⟩, []⟩

/-- What the checked agent sees does not depend on its neighbor's color. -/
theorem neighbor_view (left right : Option Color) :
    (neighbor left).view 1 2 = (neighbor right).view 1 2 :=
  congrArg (View.mk · []) (ownColors_congr rfl)

/-- The neighbor does not disturb the check unless it is red. -/
theorem overloaded_quiet {color : Option Color} (apart : color ≠ some .red) :
    overloaded.Quiet (neighbor color) := by
  have read : reading (overloaded.processRow (neighbor color).table.rows "x") =
      (.red, some 95) := by
    have same : reading (overloaded.processRow [] "x") = (.red, some 95) := by decide +kernel
    rw [processRow_eq]
    exact same
  have joined : (overloaded.processRow (neighbor color).table.rows "x").color = color := by
    rcases color with _ | _ | _ | _ <;> decide +kernel
  have own : (overloaded.ownProcessRow ((neighbor color).view 1 2) "x").color = none := by
    rcases color with _ | _ | _ | _ <;> decide +kernel
  have undisturbed : overloaded.Undisturbed ((neighbor color).view 1 2) (neighbor color)
      (overloaded.processRow (neighbor color).table.rows "x") := by
    unfold Check.Undisturbed
    rw [read]
    refine ⟨.inl (iff_of_false ?_ ?_), fun _ _ => nofun⟩
    · rw [joined]
      exact apart
    · rw [show (overloaded.processRow (neighbor color).table.rows "x").processName = "x" from rfl,
        own]
      nofun
  exact ⟨undisturbed, upholds_of_forall _ fun _ _ => trivial⟩

/-- The check is a history without disturbance. -/
theorem overloaded_reached {color : Option Color} (apart : color ≠ some .red) :
    (quietly 1 2).run (neighbor color) [.check overloaded] =
      some (overloaded.processLevelCheck.run.run (neighbor color)).2 := by
  refine (Machine.run_cons_eq_some _ _ _ _).mpr ⟨_, ?_, rfl⟩
  exact (@Machine.restrict_step_eq_some _ _ _ _ (fun _ _ => Classical.propDecidable _) _ _ _).mpr
    ⟨fun _ => overloaded_quiet apart, rfl⟩

/-- A neighbor that is yellow changes nothing for an agent that turns red. -/
theorem alerts_isolated_neighbor :
    (((overloaded.processLevelCheck.run.run (neighbor none)).2.events.filter fun event =>
        event.agentid = 2) =
      (overloaded.processLevelCheck.run.run (neighbor (some .yellow))).2.events.filter
        fun event => event.agentid = 2) ∧
      ∀ name, (overloaded.processLevelCheck.run.run (neighbor none)).2.table.ownColors 1 2 name =
        (overloaded.processLevelCheck.run.run (neighbor (some .yellow))).2.table.ownColors 1 2 name :=
  alerts_isolated (overloaded_reached nofun) (overloaded_reached nofun) (neighbor_view _ _) rfl

/-- A neighbor that is red keeps the agent from being reported. -/
theorem neighbor_hides_alert :
    ¬ ∀ (envid agentid : Nat) (left right leftFinal rightFinal : Board)
        (leftHistory rightHistory : List Label),
      (levels envid agentid).run left leftHistory = some leftFinal →
      (levels envid agentid).run right rightHistory = some rightFinal →
      left.view envid agentid = right.view envid agentid →
      leftHistory.filterMap (agentParty envid agentid).own =
        rightHistory.filterMap (agentParty envid agentid).own →
      (leftFinal.events.filter fun event => event.agentid = agentid) =
          rightFinal.events.filter (fun event => event.agentid = agentid) ∧
        ∀ name, leftFinal.table.ownColors envid agentid name =
          rightFinal.table.ownColors envid agentid name := by
  intro isolated
  have same := (isolated 1 2 (neighbor none) (neighbor (some .red)) _ _ [.check overloaded]
    [.check overloaded] rfl rfl (neighbor_view _ _) rfl).1
  revert same
  decide +kernel

end Palette.Metrics
