import Palette.Foundation.Outcome
import Palette.Web.Monitor

/-!
# When the monitor page shows the worst colors

An agent has the worst of the colors that were found for it unless a stopped server hides a red
one, and shows all its warnings unless one of them was set in place of others. The page has the
worst color unless an upgrade sets its own.
-/

namespace Palette.Web

open Palette.Alerts (diskWatermark)
open Palette.Commands (Failure)
open Palette.Foundation

/-! ## The worst color -/

/-- The worst of some colors. -/
def worst (colors : List Color) : Color := colors.foldr min .green

section Worst

variable {color : Color} {colors : List Color}

/-- To lower a color is to take the minimum. -/
theorem lower_eq_min (color other : Color) : color.lower other = min color other := by
  cases color <;> cases other <;> rfl

theorem min_green (color : Color) : min color .green = color := by
  cases color <;> rfl

theorem green_min (color : Color) : min .green color = color := by
  cases color <;> rfl

theorem min_red (color : Color) : min color .red = .red := by
  cases color <;> rfl

theorem red_min (color : Color) : min .red color = .red := by
  cases color <;> rfl

/-- The worst of two lists is the worse one of theirs. -/
theorem worst_append (left right : List Color) :
    worst (left ++ right) = min (worst left) (worst right) := by
  induction left with
  | nil => exact (green_min _).symm
  | cons color rest inductionHypothesis =>
    have stepped : worst (color :: rest ++ right) = min color (worst (rest ++ right)) := rfl
    rw [stepped, inductionHypothesis, ← min_assoc]
    rfl

theorem worst_cons (color : Color) (colors : List Color) :
    worst (color :: colors) = min color (worst colors) := rfl

theorem worst_singleton (color : Color) : worst [color] = color := min_green color

/-- No color is worse than the worst one. -/
theorem worst_le (member : color ∈ colors) : worst colors ≤ color := by
  induction colors with
  | nil => cases member
  | cons first rest inductionHypothesis =>
    rcases List.mem_cons.mp member with rfl | later
    · exact min_le_left _ _
    · exact (min_le_right _ _).trans (inductionHypothesis later)

/-- The worst color is red exactly if one is. -/
theorem worst_eq_red : worst colors = .red ↔ .red ∈ colors := by
  constructor
  · intro red
    induction colors with
    | nil => cases red
    | cons first rest inductionHypothesis =>
      rw [worst_cons] at red
      rcases min_choice first (worst rest) with own | later
      · exact List.mem_cons.mpr (.inl (red.symm.trans own))
      · exact List.mem_cons_of_mem _ (inductionHypothesis (later.symm.trans red))
  · intro member
    have least := worst_le member
    revert least
    cases worst colors <;> decide

/-- Colors that are all of one kind. -/
theorem worst_foldl (start : Color) : colors.foldl Color.lower start = min start (worst colors) := by
  induction colors generalizing start with
  | nil => exact (min_green start).symm
  | cons color rest inductionHypothesis =>
    rw [List.foldl_cons, inductionHypothesis, lower_eq_min, worst_cons, min_assoc]

end Worst

/-! ## What is found for an agent -/

/-- The colors of checks that have one. -/
def colorsOf (infos : List Info) : List Color :=
  infos.filterMap fun info => (Color.ofText info.color).toOption

/-- Every check has a color. -/
def Colored (infos : List Info) : Prop := ∀ info ∈ infos, ∃ color, Color.ofText info.color = .ok color

/-- The color of a process, unless it is not shown. -/
def ProcessRow.shade (row : ProcessRow) : Option Color :=
  if row.pid = some 0 then none
  else if row.pid = some (-1) then some .red
  else row.status.map fun status => if runs status then .green else .red

/-- A process has a status if it is shown with it. -/
def ProcessRow.Legible (row : ProcessRow) : Prop :=
  row.pid ≠ some 0 → row.pid ≠ some (-1) → row.status ≠ none

/-- The warning of a row that tells of an error. -/
def ProcessRow.error (row : ProcessRow) : Option Warning :=
  if row.pid = some (-1) then some ⟨.red, row.name⟩ else none

namespace MonitorScene

variable (scene : MonitorScene) (agent : MonitoredAgent)

/-- The checks of an agent. -/
def checked (volumes : List Info) : List Info :=
  (shownLicense agent).toList ++ ([agent.cpuInfo] ++ (volumes ++ (agent.firewallInfo ++
    agent.outPorts)))

/-- The warning about the connection. -/
def connectionFound : List Warning :=
  if scene.unknownServer agent then
    [⟨.red, if scene.mainState = .disconnected then scene.disconnectedText agent
      else "Retrieving Tableau Status"⟩]
  else if agent.row.Connected then []
  else [⟨.red, scene.disconnectedText agent⟩]

/-- The warning about a server that is stopped. -/
def stoppedFound : List Warning :=
  if agent.servesTableau && scene.mainState = .stopped then [⟨.yellow, "Tableau stopped"⟩]
  else if agent.servesTableau && scene.mainState = .stoppedUnexpected then
    [⟨.red, "Tableau stopped"⟩]
  else []

/-- The processes of an agent that has some to be shown. -/
def processes : List ProcessRow := if agent.servesTableau then agent.processes else []

/-- The warnings about errors. -/
def errorsFound : List Warning := (processes agent).filterMap ProcessRow.error

/-- The warning about a worker without any process. -/
def unavailableFound : List Warning :=
  if agent.agentType = some .worker && agent.processes.isEmpty then
    [⟨.red, "Tableau processes unavailable"⟩]
  else []

/-- Every warning that is found. -/
def found : List Warning :=
  scene.connectionFound agent ++ scene.stoppedFound agent ++ errorsFound agent ++
    unavailableFound agent

/-- What is found before it is looked at whether the server is stopped. -/
def early : List Color :=
  (scene.connectionFound agent).map Warning.color ++
    colorsOf (checked agent ((scene.volumeInfo agent).toOption.getD []))

/-- What the processes tell. -/
def late : List Color :=
  (processes agent).filterMap ProcessRow.shade ++ (unavailableFound agent).map Warning.color

/-- Every color that is found: of the connection, the licence, the CPU, the volumes, the ports, a
stopped server and the processes. -/
def indications : List Color :=
  scene.early agent ++ (scene.stoppedFound agent).map Warning.color ++ late agent

/-- What is checked of an agent can be read: numbers in the settings, no negative sizes, and
colors for the CPU and the ports. -/
def LegibleChecks : Prop :=
  (∃ low, diskWatermark scene.low = .ok low) ∧ (∃ high, diskWatermark scene.high = .ok high) ∧
    (∀ entry ∈ shownVolumes agent, 0 ≤ entry.2.2 ∧ 0 ≤ entry.2.1) ∧
    Colored (agent.cpuInfo :: (agent.firewallInfo ++ agent.outPorts))

/-- What is looked at for an agent can be read: its checks if it is connected, and the status of
its processes. -/
def Legible : Prop :=
  (scene.unknownServer agent = false → agent.row.Connected → scene.LegibleChecks agent) ∧
    ∀ row ∈ processes agent, row.Legible

end MonitorScene

section Connection

variable {scene : MonitorScene} {agent : MonitoredAgent}

/-- An outcome is legible if it is a value. -/
theorem settles_self {Value : Type} (outcome : Except Failure Value) :
    Settles outcome (∃ value, outcome = .ok value) (fun value => outcome = .ok value) := by
  cases outcome with
  | error failure => exact fun impossible => nomatch impossible
  | ok value => exact ⟨⟨value, rfl⟩, rfl⟩

/-- Checks that have colors have a worst one. -/
theorem lowestColor_settles (infos : List Info) :
    Settles (lowestColor infos) (Colored infos) (fun color => color = worst (colorsOf infos)) := by
  have each (before : List Info) (lowest : Color) (info : Info)
      (same : lowest = worst (colorsOf before)) :
      Settles (do
          let color ← Color.ofText info.color
          return lowest.lower color)
        (∃ color, Color.ofText info.color = .ok color)
        (fun color => color = worst (colorsOf (before ++ [info]))) := by
    refine ((settles_self _).bind fun color read => .pure ?_).mono (iff_of_eq (and_true _)) fun _ all => all
    have own : colorsOf [info] = [color] := by
      unfold colorsOf
      simp [read, Except.toOption]
    have both : colorsOf (before ++ [info]) = colorsOf before ++ colorsOf [info] :=
      List.filterMap_append
    rw [both, own, worst_append, worst_singleton, lower_eq_min, same]
  exact @settles_foldlM _ _ _ _ _ (fun before color => color = worst (colorsOf before)) each infos
    [] _ rfl

/-- A size that is not negative has a text. -/
theorem sizestr_settles (size : Int) : Settles (scene.sizestr size) (0 ≤ size) fun _ => True := by
  unfold MonitorScene.sizestr
  split
  · next negative => exact not_le.mpr negative
  · next positive => exact ⟨not_lt.mp positive, trivial⟩

/-- The color of a disk is one. -/
theorem diskColorText_known (color : Metrics.Color) :
    ∃ known, Color.ofText (some (MonitorScene.diskColorText color)) = .ok known := by
  cases color
  · exact ⟨.green, rfl⟩
  · exact ⟨.red, rfl⟩
  · exact ⟨.yellow, rfl⟩

/-- The volumes of an agent have colors. -/
theorem volumeInfo_settles : Settles (scene.volumeInfo agent)
    ((∃ low, diskWatermark scene.low = .ok low) ∧ (∃ high, diskWatermark scene.high = .ok high) ∧
      ∀ entry ∈ MonitorScene.shownVolumes agent, 0 ≤ entry.2.2 ∧ 0 ≤ entry.2.1) Colored := by
  unfold MonitorScene.volumeInfo
  refine (settles_self _).bind fun low _ => (settles_self _).bind fun high _ => ?_
  have each (entry : Alerts.Volume × Int × Int) :
      Settles (do
          let free ← scene.sizestr entry.2.2
          let whole ← scene.sizestr entry.2.1
          return Info.mk (entry.1.name.map String.ofList) (free ++ " free of " ++ whole)
            (some (MonitorScene.diskColorText
              (Alerts.diskColor (entry.2.1 - entry.2.2) entry.2.1 low high))))
        (0 ≤ entry.2.2 ∧ 0 ≤ entry.2.1)
        (fun info => ∃ color, Color.ofText info.color = .ok color) := by
    refine ((sizestr_settles entry.2.2).bind fun free _ =>
      (sizestr_settles entry.2.1).bind fun whole _ => .pure ?_).mono ?_ fun _ known => known
    · exact diskColorText_known _
    · rw [and_true]
  refine (settles_mapM each (MonitorScene.shownVolumes agent)).mono Iff.rfl fun infos all => ?_
  intro info member
  obtain ⟨index, inside, rfl⟩ := List.getElem_of_mem member
  exact (List.forall₂_iff_get.mp all).2 index (by simpa [all.length_eq] using inside) inside

/-- The licence always has a color. -/
theorem licenseInfo_known : ∃ color, Color.ofText agent.licenseInfo.color = .ok color := by
  unfold MonitoredAgent.licenseInfo
  cases agent.license with
  | none => exact ⟨.green, rfl⟩
  | some entry =>
    dsimp only
    split
    · exact ⟨.green, rfl⟩
    · exact ⟨.red, rfl⟩

/-- The color of checks in two parts. -/
theorem worst_colorsOf_append (left right : List Info) :
    worst (colorsOf (left ++ right)) = min (worst (colorsOf left)) (worst (colorsOf right)) := by
  unfold colorsOf
  rw [List.filterMap_append, worst_append]

/-- The color of a single check. -/
theorem worst_colorsOf_singleton {info : Info} {color : Color}
    (read : Color.ofText info.color = .ok color) : worst (colorsOf [info]) = color := by
  unfold colorsOf
  simp [read, Except.toOption, worst_singleton]

/-- The warnings of an agent, which has no list of them if there is none. -/
def Lists (view : AgentView) (warnings : List Warning) : Prop :=
  view.warnings = if warnings = [] then none else some (.listed warnings)

/-- The color of the licence that is shown. -/
theorem license_settles : Settles (MonitorScene.licenseColor agent) True
    (fun color => color = worst (colorsOf (MonitorScene.shownLicense agent).toList)) := by
  unfold MonitorScene.licenseColor MonitorScene.shownLicense
  split_ifs
  · obtain ⟨color, read⟩ := @licenseInfo_known agent
    dsimp only
    rw [read]
    exact ⟨trivial, (worst_colorsOf_singleton read).symm⟩
  · exact ⟨trivial, rfl⟩

/-- An agent that is connected has the worst color of its checks. -/
theorem connectedView_settles : Settles (scene.connectedView agent) (scene.LegibleChecks agent)
    (fun view => view.color = worst (colorsOf (MonitorScene.checked agent
        ((scene.volumeInfo agent).toOption.getD []))) ∧
      view.warnings = none ∧ view.workerProblem = false) := by
  have volumes := (settles_self (scene.volumeInfo agent)).and volumeInfo_settles
  have shown (infos : List Info) (colored : Colored infos) :
      Settles (lowestColor infos) True (fun color => color = worst (colorsOf infos)) :=
    (lowestColor_settles infos).mono (iff_of_true colored trivial) fun _ all => all
  unfold MonitorScene.connectedView
  refine (license_settles.bind fun licenseColor license => volumes.bind fun infos read =>
    (settles_self _).bind fun cpuColor cpu => (shown infos read.2).bind fun volColor volume =>
    (lowestColor_settles _).bind fun firewallColor firewall =>
    (lowestColor_settles _).bind fun outPortsColor outPorts => .pure ?_).mono ?_ fun _ all => all
  · have given : (scene.volumeInfo agent).toOption.getD [] = infos := by
      rw [read.1]
      rfl
    refine ⟨?_, rfl, rfl⟩
    unfold MonitorScene.checked
    rw [given, worst_colorsOf_append, worst_colorsOf_append, worst_colorsOf_append,
      worst_colorsOf_append, worst_colorsOf_singleton cpu, ← license, ← volume, ← firewall,
      ← outPorts]
    simp only [lower_eq_min, green_min, min_assoc]
  · unfold MonitorScene.LegibleChecks Colored
    rw [List.forall_mem_cons, List.forall_mem_append]
    tauto

/-- What is known of an agent once its connection was looked at. -/
theorem connectionView_settles : Settles (scene.connectionView agent)
    (scene.unknownServer agent = false → agent.row.Connected → scene.LegibleChecks agent)
    (fun view => view.color = worst (scene.early agent) ∧
      Lists view (scene.connectionFound agent) ∧ view.workerProblem = false) := by
  unfold MonitorScene.connectionView MonitorScene.early MonitorScene.connectionFound
  cases unknown : scene.unknownServer agent with
  | true =>
    simp only [↓reduceIte]
    exact ⟨nofun, (red_min _).symm, rfl, rfl⟩
  | false =>
    simp only [Bool.false_eq_true, ↓reduceIte]
    by_cases connected : agent.row.Connected
    · rw [if_pos connected, if_pos connected]
      refine connectedView_settles.mono ⟨fun legible _ _ => legible, fun legible =>
        legible trivial connected⟩ fun view checked => ?_
      exact checked
    · rw [if_neg connected, if_neg connected]
      exact ⟨fun _ impossible => absurd impossible connected, (red_min _).symm, rfl, rfl⟩

end Connection

/-! ## An agent -/

namespace MonitorScene

variable (scene : MonitorScene) (agent : MonitoredAgent)

/-- The color that is set for a server that is stopped, in place of the one before. -/
def stoppedColor : Color := ((scene.stoppedFound agent).map Warning.color).headD
  (worst (scene.early agent))

/-- The warnings that are set for a server that is stopped, in place of the one before. -/
def stoppedWarnings : List Warning :=
  if scene.stoppedFound agent = [] then scene.connectionFound agent else scene.stoppedFound agent

/-- The color that is shown. -/
def shownColor : Color := if .red ∈ late agent then .red else scene.stoppedColor agent

/-- The warnings that are shown. An error is set in place of all that came before it. -/
def shownWarnings : List Warning :=
  (errorsFound agent).getLast?.elim (scene.stoppedWarnings agent) (fun last => [last]) ++
    unavailableFound agent

/-- The agent is a problem of the server. -/
def problem : Bool :=
  (agent.agentType = some .worker && scene.stoppedFound agent ≠ []) ||
    errorsFound agent ≠ [] || unavailableFound agent ≠ []

end MonitorScene

section Agents

variable {scene : MonitorScene} {agent : MonitoredAgent}

/-- What a stopped server sets. -/
theorem stoppedView_eq {view : AgentView} (color : view.color = worst (scene.early agent))
    (lists : Lists view (scene.connectionFound agent)) (noProblem : view.workerProblem = false) :
    (scene.stoppedView agent view).color = scene.stoppedColor agent ∧
      Lists (scene.stoppedView agent view) (scene.stoppedWarnings agent) ∧
      (scene.stoppedView agent view).workerProblem =
        (agent.agentType = some .worker && scene.stoppedFound agent ≠ []) := by
  unfold MonitorScene.stoppedView MonitorScene.stoppedColor MonitorScene.stoppedWarnings
    MonitorScene.stoppedFound
  by_cases stopped : (agent.servesTableau && scene.mainState = .stopped) = true
  · simp only [stopped, if_true, noProblem]
    exact ⟨rfl, rfl, by simp⟩
  · by_cases unexpected : (agent.servesTableau && scene.mainState = .stoppedUnexpected) = true
    · simp only [stopped, unexpected, if_true, noProblem]
      exact ⟨rfl, rfl, by simp⟩
    · simp only [stopped, unexpected]
      exact ⟨color, lists, by simp [noProblem]⟩

/-- What the rows of the processes leave. -/
def Processed (scene : MonitorScene) (agent : MonitoredAgent) (before : List ProcessRow)
    (view : AgentView) : Prop :=
  view.color = (if .red ∈ before.filterMap ProcessRow.shade then .red
      else scene.stoppedColor agent) ∧
    Lists view ((before.filterMap ProcessRow.error).getLast?.elim (scene.stoppedWarnings agent)
      fun last => [last]) ∧
    view.workerProblem = ((agent.agentType = some .worker && scene.stoppedFound agent ≠ []) ||
      before.filterMap ProcessRow.error ≠ [])

/-- What is told of the rows up to one. -/
theorem filterMap_snoc {Told : Type} (told : ProcessRow → Option Told) (before : List ProcessRow)
    (row : ProcessRow) :
    (before ++ [row]).filterMap told = before.filterMap told ++ (told row).toList := by
  rw [List.filterMap_append]
  cases same : told row <;> simp [same]

/-- A row of a process. -/
theorem processView_settles (before : List ProcessRow) (view : AgentView) (row : ProcessRow)
    (processed : Processed scene agent before view) :
    Settles (MonitorScene.processView view row) row.Legible
      (Processed scene agent (before ++ [row])) := by
  obtain ⟨color, lists, problem⟩ := processed
  unfold MonitorScene.processView ProcessRow.Legible Processed
  simp only [filterMap_snoc]
  by_cases idle : row.pid = some 0
  · have shade : row.shade = none := by simp [ProcessRow.shade, idle]
    have error : row.error = none := by simp [ProcessRow.error, idle]
    rw [if_pos idle, shade, error, Option.toList_none, Option.toList_none, List.append_nil,
      List.append_nil]
    exact ⟨fun other => absurd idle other, color, lists, problem⟩
  · rw [if_neg idle]
    by_cases failed : row.pid = some (-1)
    · have shade : row.shade = some .red := by simp [ProcessRow.shade, failed]
      have error : row.error = some ⟨.red, row.name⟩ := by simp [ProcessRow.error, failed]
      rw [if_pos failed, shade, error, Option.toList_some, Option.toList_some]
      refine ⟨fun _ other => absurd failed other, ?_⟩
      simp [Lists]
    · have error : row.error = none := by simp [ProcessRow.error, failed]
      rw [if_neg failed, error, Option.toList_none, List.append_nil]
      cases given : row.status with
      | none => exact fun legible => legible idle failed rfl
      | some status =>
        have shade : row.shade = some (if runs status then .green else .red) := by
          simp [ProcessRow.shade, idle, failed, given]
        rw [shade, Option.toList_some]
        dsimp only
        cases well : runs status with
        | true =>
          refine ⟨fun _ _ => nofun, ?_, lists, problem⟩
          simpa only [if_true, List.mem_append, List.mem_singleton, reduceCtorEq, or_false] using color
        | false =>
          refine ⟨fun _ _ => nofun, ?_, lists, problem⟩
          simp only [Bool.false_eq_true, if_false, List.mem_append, List.mem_singleton, or_true,
            if_true]

/-- The warnings that are shown of a list of them. -/
theorem Lists.listed {view : AgentView} {warnings : List Warning} (lists : Lists view warnings) :
    view.listed = warnings := by
  unfold AgentView.listed
  rw [lists]
  split
  · next none => exact none.symm
  · rfl

/-- A worker without any process. -/
theorem unavailableView_eq {view : AgentView} (serves : agent.servesTableau = true)
    (processed : Processed scene agent agent.processes view) :
    (MonitorScene.unavailableView agent view).color = scene.shownColor agent ∧
      (MonitorScene.unavailableView agent view).listed = scene.shownWarnings agent ∧
      (MonitorScene.unavailableView agent view).workerProblem = scene.problem agent := by
  obtain ⟨color, lists, problem⟩ := processed
  have listed : MonitorScene.processes agent = agent.processes := if_pos serves
  unfold MonitorScene.unavailableView MonitorScene.shownColor MonitorScene.shownWarnings
    MonitorScene.problem MonitorScene.late MonitorScene.errorsFound MonitorScene.unavailableFound
  rw [listed]
  by_cases alone : (agent.agentType = some .worker && agent.processes.isEmpty) = true
  · have empty : agent.processes = [] := by
      rw [Bool.and_eq_true, List.isEmpty_iff] at alone
      exact alone.2
    rw [empty] at lists
    simp only [if_pos alone]
    refine ⟨by simp, ?_, by simp⟩
    rw [empty]
    unfold AgentView.listed
    dsimp only [List.filterMap_nil, List.getLast?_nil, Option.elim_none] at lists ⊢
    rw [lists]
    by_cases base : scene.stoppedWarnings agent = []
    · rw [if_pos base, base]
      rfl
    · rw [if_neg base]
      rfl
  · simp only [if_neg alone, List.map_nil, List.append_nil]
    refine ⟨color, lists.listed, ?_⟩
    rw [problem]
    simp

/-- What is shown of an agent. -/
theorem agentView_settles : Settles (scene.agentView agent) (scene.Legible agent)
    (fun view => view.color = scene.shownColor agent ∧
      view.listed = scene.shownWarnings agent ∧ view.workerProblem = scene.problem agent) := by
  unfold MonitorScene.agentView MonitorScene.Legible
  refine connectionView_settles.bind fun view connected => ?_
  obtain ⟨color, lists, problem⟩ :=
    stoppedView_eq connected.1 connected.2.1 connected.2.2
  cases serves : agent.servesTableau with
  | true =>
    have listed : MonitorScene.processes agent = agent.processes := if_pos serves
    have starts : Processed scene agent [] (scene.stoppedView agent view) :=
      ⟨color, lists, by simpa using problem⟩
    have looked := settles_foldlM processView_settles agent.processes [] starts
    rw [List.nil_append] at looked
    rw [if_pos rfl, listed]
    have completes (left : AgentView) (processed : Processed scene agent agent.processes left) :
        Settles (pure (MonitorScene.unavailableView agent left) : Except Failure AgentView) True
          (fun view => view.color = scene.shownColor agent ∧
            view.listed = scene.shownWarnings agent ∧
            view.workerProblem = scene.problem agent) :=
      .pure (unavailableView_eq serves processed)
    refine (looked.bind completes).mono ?_ fun _ shown => shown
    rw [and_true]
  | false =>
    have noWorker : agent.agentType ≠ some .worker := by
      intro worker
      simp [MonitoredAgent.servesTableau, worker] at serves
    have nothing : MonitorScene.processes agent = [] := if_neg (by simp [serves])
    have available : MonitorScene.unavailableFound agent = [] := if_neg (by simp [noWorker])
    have late : MonitorScene.late agent = [] := by
      unfold MonitorScene.late
      rw [nothing, available]
      rfl
    have errors : MonitorScene.errorsFound agent = [] := by
      unfold MonitorScene.errorsFound
      rw [nothing]
      rfl
    rw [if_neg Bool.false_ne_true, nothing]
    unfold MonitorScene.shownColor MonitorScene.shownWarnings MonitorScene.problem
    rw [late, errors, available]
    refine ⟨nofun, color, lists.listed.trans (List.append_nil _).symm, ?_⟩
    rw [problem]
    simp [noWorker]

end Agents

/-! ## When an agent is shown as it is -/

namespace MonitorScene

variable (scene : MonitorScene) (agent : MonitoredAgent)

/-- No red color is hidden by a stopped server: where one of the primary or of a worker was found
before, there is one of its processes as well. -/
def KeepsColor : Prop :=
  scene.mainState = .stopped → agent.servesTableau = true → .red ∈ scene.early agent →
    .red ∈ late agent

/-- No warning is set in place of another one: with errors, all that was found is the last error,
and a warning of a stopped server is not one of an agent that is not connected. -/
def KeepsWarnings : Prop :=
  (∀ last ∈ (errorsFound agent).getLast?, ∀ warning ∈ scene.connectionFound agent ++
      scene.stoppedFound agent ++ errorsFound agent, warning = last) ∧
    (errorsFound agent = [] → scene.stoppedFound agent = [] ∨ scene.connectionFound agent = [])

end MonitorScene

section Shown

variable {scene : MonitorScene} {agent : MonitoredAgent}

/-- Processes are green or red. -/
theorem late_green (calm : .red ∉ MonitorScene.late agent) :
    worst (MonitorScene.late agent) = .green := by
  have green : ∀ color ∈ MonitorScene.late agent, color = .green := by
    intro color member
    have notRed : color ≠ .red := fun red => calm (red ▸ member)
    unfold MonitorScene.late at member
    rcases List.mem_append.mp member with process | unavailable
    · obtain ⟨row, -, shade⟩ := List.mem_filterMap.mp process
      unfold ProcessRow.shade at shade
      split_ifs at shade
      · exact absurd (Option.some.inj shade).symm notRed
      · obtain ⟨status, -, same⟩ := Option.map_eq_some_iff.mp shade
        split at same
        · exact same.symm
        · exact absurd same.symm notRed
    · obtain ⟨warning, found, same⟩ := List.mem_map.mp unavailable
      unfold MonitorScene.unavailableFound at found
      split at found
      · cases List.mem_singleton.mp found
        exact absurd same.symm notRed
      · cases found
  generalize MonitorScene.late agent = colors at green
  induction colors with
  | nil => rfl
  | cons color rest inductionHypothesis =>
    rw [worst_cons, green color List.mem_cons_self, green_min]
    exact inductionHypothesis fun other member => green other (List.mem_cons_of_mem _ member)

/-- A stopped server has one warning about it, and its color. -/
theorem stoppedFound_cases :
    scene.mainState = .stopped ∧ agent.servesTableau = true ∧
        scene.stoppedFound agent = [⟨.yellow, "Tableau stopped"⟩] ∨
      (¬ (scene.mainState = .stopped ∧ agent.servesTableau = true)) ∧
        (scene.stoppedFound agent = [⟨.red, "Tableau stopped"⟩] ∨
          scene.stoppedFound agent = []) := by
  unfold MonitorScene.stoppedFound
  by_cases stopped : scene.mainState = .stopped
  · cases serves : agent.servesTableau with
    | true => exact .inl ⟨stopped, rfl, by simp [stopped]⟩
    | false => exact .inr ⟨by simp, .inr (by simp)⟩
  · refine .inr ⟨fun both => stopped both.1, ?_⟩
    by_cases unexpected : (agent.servesTableau && scene.mainState = .stoppedUnexpected) = true
    · exact .inl (by simp [stopped, unexpected])
    · exact .inr (by simp [stopped, unexpected])

/-- An agent is shown with its worst color exactly if no red color is hidden. -/
theorem shownColor_eq_iff :
    scene.shownColor agent = worst (scene.indications agent) ↔ scene.KeepsColor agent := by
  unfold MonitorScene.shownColor MonitorScene.KeepsColor MonitorScene.indications
    MonitorScene.stoppedColor
  rw [worst_append, worst_append]
  by_cases red : .red ∈ MonitorScene.late agent
  · rw [if_pos red, worst_eq_red.mpr red, min_red]
    exact iff_of_true rfl fun _ _ _ => red
  · rw [if_neg red, late_green red, min_green]
    rcases @stoppedFound_cases scene agent with ⟨stopped, serves, found⟩ | ⟨runs, found | found⟩
    · rw [found]
      have early : .red ∈ scene.early agent ↔ worst (scene.early agent) = .red :=
        worst_eq_red.symm
      simp only [List.map_cons, List.map_nil, List.headD_cons, worst_singleton, stopped, serves,
        red, early, true_implies, imp_false]
      cases worst (scene.early agent) <;> decide
    · rw [found]
      refine iff_of_true ?_ fun stopped serves => absurd ⟨stopped, serves⟩ runs
      exact (min_red _).symm
    · rw [found]
      refine iff_of_true ?_ fun stopped serves => absurd ⟨stopped, serves⟩ runs
      exact (min_green _).symm

/-- A warning about the connection is not one about Tableau. -/
theorem connectionFound_message {warning : Warning} (member : warning ∈ scene.connectionFound agent) :
    warning.message.toList.head? ≠ some 'T' := by
  have disconnected : (scene.disconnectedText agent).toList.head? ≠ some 'T' := by
    unfold MonitorScene.disconnectedText
    cases agent.row.lastDisconnectTime with
    | none => simp
    | some time => simp
  unfold MonitorScene.connectionFound at member
  split_ifs at member
  · cases List.mem_singleton.mp member
    exact disconnected
  · cases List.mem_singleton.mp member
    decide
  · cases member
  · cases List.mem_singleton.mp member
    exact disconnected

/-- The other warnings that are not errors are about Tableau. -/
theorem tableau_message {warning : Warning}
    (member : warning ∈ scene.stoppedFound agent ++ MonitorScene.unavailableFound agent) :
    warning.message.toList.head? = some 'T' := by
  rcases List.mem_append.mp member with stopped | unavailable
  · unfold MonitorScene.stoppedFound at stopped
    split_ifs at stopped
    · cases List.mem_singleton.mp stopped
      rfl
    · cases List.mem_singleton.mp stopped
      rfl
    · cases stopped
  · unfold MonitorScene.unavailableFound at unavailable
    split at unavailable
    · cases List.mem_singleton.mp unavailable
      rfl
    · cases unavailable

/-- A worker with an error has a process. -/
theorem unavailable_of_error (errors : MonitorScene.errorsFound agent ≠ []) :
    MonitorScene.unavailableFound agent = [] := by
  refine if_neg fun alone => errors ?_
  rw [Bool.and_eq_true, List.isEmpty_iff] at alone
  unfold MonitorScene.errorsFound MonitorScene.processes
  rw [alone.2]
  simp

/-- An agent is shown with all its warnings exactly if none is set in place of another one. -/
theorem shownWarnings_iff :
    (∀ warning ∈ scene.found agent, warning ∈ scene.shownWarnings agent) ↔
      scene.KeepsWarnings agent := by
  unfold MonitorScene.found MonitorScene.shownWarnings MonitorScene.KeepsWarnings
  cases last : (MonitorScene.errorsFound agent).getLast? with
  | some error =>
    have errors : MonitorScene.errorsFound agent ≠ [] := by
      intro none
      rw [none] at last
      cases last
    rw [unavailable_of_error errors]
    simp only [List.append_nil, Option.elim_some, List.mem_singleton, Option.mem_some_iff,
      forall_eq', errors, false_implies, and_true]
  | none =>
    have calm : MonitorScene.errorsFound agent = [] := List.getLast?_eq_none_iff.mp last
    rw [calm]
    simp only [Option.elim_none, List.append_nil, Option.mem_def, reduceCtorEq, false_implies,
      implies_true, true_and, true_implies]
    unfold MonitorScene.stoppedWarnings
    by_cases runs : scene.stoppedFound agent = []
    · rw [if_pos runs, runs, List.append_nil]
      exact iff_of_true (fun _ member => member) (.inl rfl)
    · rw [if_neg runs, or_iff_right runs]
      constructor
      · intro shown
        refine List.eq_nil_iff_forall_not_mem.mpr fun warning member => ?_
        have kept := shown warning
          (List.mem_append_left _ (List.mem_append_left _ member))
        exact connectionFound_message member (tableau_message kept)
      · intro none
        rw [none]
        exact fun _ member => member

end Shown

/-! ## The page -/

/-- Every agent that is enabled is shown with the worst of its colors and with all its warnings,
and the page has the worst of the color of its state and of the colors of the agents. -/
structure ShowsWorst (scene : MonitorScene) (view : AdminView) : Prop where
  agents : List.Forall₂ (fun agent shown => shown.color = worst (scene.indications agent) ∧
    ∀ warning ∈ scene.found agent, warning ∈ shown.listed) scene.enabledAgents view.agents
  overall : ∀ entry, scene.stateControl scene.mainState = some entry →
    view.color = worst (MonitorScene.stateColor entry :: view.agents.map AgentView.color)

/-- There is a row for the state, and for the one that a problem of a worker makes of it; what is
looked at can be read; for no agent a color or a warning is set in place of a worse or another
one; and no agent is worse than the color of an upgrade. -/
structure Undisturbed (scene : MonitorScene) : Prop where
  known : ∃ entry, scene.stateControl scene.mainState = some entry
  degraded : scene.mainState = .started →
    (∃ agent ∈ scene.enabledAgents, scene.problem agent = true) →
    ∃ entry, scene.stateControl .degraded = some entry
  legible : ∀ agent ∈ scene.enabledAgents, scene.Legible agent
  colors : ∀ agent ∈ scene.enabledAgents, scene.KeepsColor agent
  warnings : ∀ agent ∈ scene.enabledAgents, scene.KeepsWarnings agent
  upgrade : scene.mainState = .upgrading → ∀ entry, scene.stateControl .upgrading = some entry →
    ∀ agent ∈ scene.enabledAgents, MonitorScene.stateColor entry ≤ worst (scene.indications agent)

section Page

variable {scene : MonitorScene}

/-- The agents are shown right exactly if nothing is hidden of any of them. -/
theorem agents_iff {views : List AgentView} (shown : List.Forall₂ (fun agent view =>
      view.color = scene.shownColor agent ∧ view.listed = scene.shownWarnings agent ∧
        view.workerProblem = scene.problem agent) scene.enabledAgents views) :
    List.Forall₂ (fun agent view => view.color = worst (scene.indications agent) ∧
        ∀ warning ∈ scene.found agent, warning ∈ view.listed) scene.enabledAgents views ↔
      (∀ agent ∈ scene.enabledAgents, scene.KeepsColor agent) ∧
        ∀ agent ∈ scene.enabledAgents, scene.KeepsWarnings agent := by
  rw [← forall₂_and]
  refine forall₂_iff_forall (fun agent view own => ?_) shown
  rw [own.1, own.2.1, shownColor_eq_iff, shownWarnings_iff]

/-- A problem while the server is started is a red agent. -/
theorem red_of_problem (started : scene.mainState = .started) {agent : MonitoredAgent}
    (problem : scene.problem agent = true) : scene.shownColor agent = .red := by
  have runs : scene.stoppedFound agent = [] := by
    unfold MonitorScene.stoppedFound
    simp [started]
  refine if_pos ?_
  unfold MonitorScene.late
  unfold MonitorScene.problem at problem
  simp only [runs, ne_eq, not_true_eq_false, decide_false, Bool.and_false, Bool.false_or,
    Bool.or_eq_true, decide_eq_true_eq] at problem
  rcases problem with errors | unavailable
  · obtain ⟨warning, member⟩ := List.exists_mem_of_ne_nil _ errors
    obtain ⟨row, listed, error⟩ := List.mem_filterMap.mp member
    have failed : row.pid = some (-1) := by
      by_contra other
      rw [ProcessRow.error, if_neg other] at error
      cases error
    have shade : row.shade = some .red := by simp [ProcessRow.shade, failed]
    exact List.mem_append_left _ (List.mem_filterMap.mpr ⟨row, listed, shade⟩)
  · refine List.mem_append_right _ ?_
    unfold MonitorScene.unavailableFound at unavailable ⊢
    split at unavailable
    · next alone =>
      rw [if_pos alone]
      exact List.mem_singleton_self _
    · exact absurd rfl unavailable

/-- The color of a state is the worst with those of agents exactly if none of them is worse. -/
theorem eq_worst_cons_iff {color : Color} {colors : List Color} :
    color = worst (color :: colors) ↔ ∀ other ∈ colors, color ≤ other := by
  rw [worst_cons, eq_comm, min_eq_left_iff]
  constructor
  · exact fun least other member => least.trans (worst_le member)
  · intro least
    induction colors with
    | nil => cases color <;> decide
    | cons first rest inductionHypothesis =>
      exact le_min (least first List.mem_cons_self)
        (inductionHypothesis fun other member => least other (List.mem_cons_of_mem _ member))

/-- The page with views of its agents shows the worst colors where nothing disturbs it. -/
theorem page_iff {entry : StateControlEntry} {views : List AgentView}
    (known : scene.stateControl scene.mainState = some entry)
    (viewed : scene.enabledAgents.mapM scene.agentView = .ok views)
    (shown : List.Forall₂ (fun agent view => view.color = scene.shownColor agent ∧
      view.listed = scene.shownWarnings agent ∧ view.workerProblem = scene.problem agent)
      scene.enabledAgents views) :
    (∃ view, scene.handleMonitor = .ok (some view) ∧ ShowsWorst scene view) ↔
      (scene.mainState = .started →
        (∃ agent ∈ scene.enabledAgents, scene.problem agent = true) →
        ∃ entry, scene.stateControl .degraded = some entry) ∧
      ((∀ agent ∈ scene.enabledAgents, scene.KeepsColor agent) ∧
        ∀ agent ∈ scene.enabledAgents, scene.KeepsWarnings agent) ∧
      (scene.mainState = .upgrading → ∀ entry, scene.stateControl .upgrading = some entry →
        ∀ agent ∈ scene.enabledAgents,
          MonitorScene.stateColor entry ≤ worst (scene.indications agent)) := by
  have agents := agents_iff shown
  have colors : scene.enabledAgents.map scene.shownColor = views.map AgentView.color :=
    map_eq_of_forall₂ (fun _ _ own => own.1.symm) shown
  have problems : scene.enabledAgents.map scene.problem = views.map AgentView.workerProblem :=
    map_eq_of_forall₂ (fun _ _ own => own.2.2.symm) shown
  have problem : views.any AgentView.workerProblem = true ↔
      ∃ agent ∈ scene.enabledAgents, scene.problem agent = true := by
    have same : views.any AgentView.workerProblem =
        (scene.enabledAgents.map scene.problem).any id := by
      rw [problems, List.any_map]
      rfl
    rw [same]
    simp
  unfold MonitorScene.handleMonitor MonitorScene.getAdminView
  rw [known, viewed]
  simp only [bind, Except.bind, pure, Except.pure]
  by_cases degrades : (scene.mainState = .started && views.any AgentView.workerProblem) = true
  · rw [if_pos degrades]
    rw [Bool.and_eq_true, decide_eq_true_eq, problem] at degrades
    obtain ⟨started, troubled⟩ := degrades
    obtain ⟨agent, member, trouble⟩ := id troubled
    have red : .red ∈ views.map AgentView.color := by
      rw [← colors]
      exact List.mem_map.mpr ⟨agent, member, red_of_problem started trouble⟩
    have worse : worst (MonitorScene.stateColor entry :: views.map AgentView.color) = .red :=
      worst_eq_red.mpr (List.mem_cons_of_mem _ red)
    cases degraded : scene.stateControl .degraded with
    | none =>
      refine iff_of_false (fun ⟨view, handled, _⟩ => by cases handled) fun all => ?_
      obtain ⟨row, same⟩ := all.1 started troubled
      cases same
    | some row =>
      constructor
      · rintro ⟨view, handled, shows⟩
        cases handled
        exact ⟨fun _ _ => ⟨row, rfl⟩, agents.mp shows.agents, by simp [started]⟩
      · rintro ⟨-, both, -⟩
        refine ⟨_, rfl, agents.mpr both, fun other same => ?_⟩
        cases known.symm.trans same
        exact worse.symm
  · rw [if_neg degrades]
    have calm : scene.mainState = .started →
        (∃ agent ∈ scene.enabledAgents, scene.problem agent = true) →
        ∃ entry, scene.stateControl .degraded = some entry := by
      intro started troubled
      exact absurd (by simp [started, problem.mpr troubled]) degrades
    by_cases upgrading : scene.mainState = .upgrading
    · have row : scene.stateControl .upgrading = some entry := upgrading ▸ known
      rw [if_pos upgrading, row]
      constructor
      · rintro ⟨view, handled, shows⟩
        cases handled
        have kept := agents.mp shows.agents
        refine ⟨calm, kept, fun _ other same agent member => ?_⟩
        cases same
        have least := eq_worst_cons_iff.mp (shows.overall entry known) (scene.shownColor agent)
          (colors ▸ List.mem_map_of_mem member)
        exact shownColor_eq_iff.mpr (kept.1 agent member) ▸ least
      · rintro ⟨-, both, least⟩
        refine ⟨_, rfl, agents.mpr both, fun other same => ?_⟩
        cases known.symm.trans same
        refine eq_worst_cons_iff.mpr fun color member => ?_
        rw [← colors] at member
        obtain ⟨agent, listed, rfl⟩ := List.mem_map.mp member
        rw [shownColor_eq_iff.mpr (both.1 agent listed)]
        exact least upgrading entry rfl agent listed
    · rw [if_neg upgrading]
      constructor
      · rintro ⟨view, handled, shows⟩
        cases handled
        exact ⟨calm, agents.mp shows.agents, fun same => absurd same upgrading⟩
      · rintro ⟨-, both, -⟩
        refine ⟨_, rfl, agents.mpr both, fun other same => ?_⟩
        cases known.symm.trans same
        have lowered := @worst_foldl (views.map AgentView.color) (MonitorScene.stateColor entry)
        rw [List.foldl_map] at lowered
        exact lowered

/-- The page shows the worst colors and all warnings exactly if nothing disturbs them. -/
theorem shows_worst_iff (scene : MonitorScene) :
    (∃ view, scene.handleMonitor = .ok (some view) ∧ ShowsWorst scene view) ↔
      Undisturbed scene := by
  have settles := settles_mapM (@agentView_settles scene) scene.enabledAgents
  cases known : scene.stateControl scene.mainState with
  | none =>
    refine iff_of_false ?_ fun undisturbed => ?_
    · rintro ⟨view, handled, -⟩
      unfold MonitorScene.handleMonitor at handled
      rw [known] at handled
      cases handled
    · obtain ⟨entry, same⟩ := undisturbed.known
      cases known.symm.trans same
  | some entry =>
    cases viewed : scene.enabledAgents.mapM scene.agentView with
    | error failure =>
      rw [viewed] at settles
      refine iff_of_false ?_ fun undisturbed => settles undisturbed.legible
      rintro ⟨view, handled, -⟩
      unfold MonitorScene.handleMonitor MonitorScene.getAdminView at handled
      rw [known, viewed] at handled
      cases handled
    | ok views =>
      obtain ⟨legible, shown⟩ := settles.of_ok viewed
      rw [page_iff known viewed shown]
      constructor
      · rintro ⟨degraded, ⟨colors, warnings⟩, upgrade⟩
        exact ⟨⟨entry, known⟩, degraded, legible, colors, warnings, upgrade⟩
      · intro undisturbed
        exact ⟨undisturbed.degraded, ⟨undisturbed.colors, undisturbed.warnings⟩,
          undisturbed.upgrade⟩

end Page

/-! ## A stopped server with a worker that is not connected -/

/-- A worker that has lost its connection, with a process. -/
def lostWorker : MonitoredAgent where
  row := ⟨true, 10, some 20⟩
  agentType := some .worker
  iswin := true
  license := none
  volumes := []
  firewall := []
  ports := []
  cpu := none
  processes := [⟨"Status", some 0, some "STOPPED"⟩]

/-- The server is stopped. -/
def stoppedScene : MonitorScene where
  agents := [lostWorker]
  mainState := .stopped
  stateControl _ := some ⟨some "Tableau Stopped", none, some "yellow"⟩
  low := some (.ok 50)
  high := some (.ok 80)
  dateText _ := "today"
  sizeText _ := "1 KB"

/-- The worker is shown in yellow, and without the warning that it is disconnected. -/
theorem lostWorker_hidden :
    ¬ ∀ (scene : MonitorScene) (view : AdminView), scene.handleMonitor = .ok (some view) →
      ShowsWorst scene view := by
  intro always
  have handled : stoppedScene.handleMonitor = .ok (some ⟨.stopped, some "Tableau Stopped", none,
      .yellow, [{
        color := .yellow
        warnings := some (.listed [⟨.yellow, "Tableau stopped"⟩])
        workerProblem := true }]⟩) := by
    decide +kernel
  have shown := (List.forall₂_cons.mp (always _ _ handled).agents).1.1
  revert shown
  decide +kernel

end Palette.Web
