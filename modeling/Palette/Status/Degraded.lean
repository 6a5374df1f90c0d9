import Mathlib
import Palette.Foundation.History
import Palette.Status.Transitions

/-!
# The degraded event over runs of status checks

The monitor keeps two variables between its checks: when a degraded state began, and
whether the event about it has been sent. A degraded run is a longest row of checks that
list the event. In each of them it is generated at most once, not before the shortest
time has passed since the first check of the run, and its end is announced if it was.
The times may be any; nothing here needs them in order.
-/

namespace Palette.Status

open Palette.Foundation

/-! ## The lists of the table -/

/-- The lists of events that the table has. -/
def Tabled (events : List StateEvent) : Prop :=
  events = [] ∨ (∃ event, event ≠ .stateDegraded ∧ events = [event]) ∨
    events = [.stateDegraded] ∨ events = [.stateUnexpectedStateStarted, .stateDegraded]

/-- A report is answered with a list of the table. -/
theorem newStateInfo_tabled {before82 : Bool} {prevState : MainState} {status : TableauStatus}
    {info : StateInfo} (found : newStateInfo before82 prevState status = some info) :
    Tabled info.events := by
  cases prevState <;> cases status <;> cases before82 <;>
    simp [newStateInfo, transitions, stopDict, startDict, pendingDict, stoppedUnexpectedDict,
      degradedDict, StateInfo.empty] at found <;>
    simp [Tabled, ← found]

variable (minimum now : Nat) (board : Board)

/-- Without the degraded event the monitor forgets about a degraded state. -/
def Board.forget (board : Board) : Board :=
  { board with firstDegradedTime := none, sentDegradedEvent := false }

theorem sendEvents_nil : sendEvents minimum now board [] = board.forget := rfl

/-- Any other event is sent, except for the end of a degraded state that was not
announced. -/
theorem sendEvents_calm {event : StateEvent} (calm : event ≠ .stateDegraded) :
    sendEvents minimum now board [event] =
      { board.forget with
        events :=
          if event = .stateStartedAfterDegraded ∧ board.sentDegradedEvent = false then board.events
          else event :: board.events } := by
  cases event <;> cases sent : board.sentDegradedEvent <;>
    simp_all [sendEvents, sendEvent, Board.forget]

/-- The degraded event is sent if its time has come. -/
theorem sendEvents_degraded : sendEvents minimum now board [.stateDegraded] =
    if board.firstDegradedTime.getD 0 = 0 then { board with firstDegradedTime := some now }
    else if board.sentDegradedEvent = false ∧ board.firstDegradedTime.getD 0 + minimum ≤ now then
      { board with events := .stateDegraded :: board.events, sentDegradedEvent := true }
    else board := by
  by_cases unknown : board.firstDegradedTime.getD 0 = 0
  · simp [sendEvents, sendEvent, unknown]
  · by_cases due : board.sentDegradedEvent = false ∧
        board.firstDegradedTime.getD 0 + minimum ≤ now
    · simp [sendEvents, sendEvent, unknown, due]
    · simp [sendEvents, sendEvent, unknown, due]

/-- An unexpected start is announced before the degraded state that it led to. -/
theorem sendEvents_unexpected :
    sendEvents minimum now board [.stateUnexpectedStateStarted, .stateDegraded] =
      sendEvents minimum now
        { board with events := .stateUnexpectedStateStarted :: board.events } [.stateDegraded] := by
  simp [sendEvents, sendEvent]

/-! ## Runs of checks -/

/-- A call of `_send_events`: its time, the events that it was given and those that it
generated. -/
structure Call where
  minimum : Nat
  now : Nat
  listed : List StateEvent
  generated : List StateEvent
  deriving DecidableEq, Repr

/-- The call lists the degraded event. -/
def Call.Degraded (call : Call) : Prop := .stateDegraded ∈ call.listed

instance (call : Call) : Decidable call.Degraded := inferInstanceAs (Decidable (_ ∈ _))

/-- A status check: the main state that it finds, which others may have written since the
last one, and what is reported. -/
structure StatusCheck where
  state : MainState
  status : TableauStatus
  setting : Setting
  deriving DecidableEq, Repr

/-- The monitor and its calls, the newest first. -/
structure Watch where
  board : Board
  calls : List Call
  deriving DecidableEq, Repr

/-- The monitor at its start. -/
def Watch.start (state : MainState) (maintStarted : Bool) : Watch :=
  ⟨⟨state, maintStarted, none, false, []⟩, []⟩

/-- One status check. The board holds the events of the last one only. -/
def Watch.next (watch : Watch) (check : StatusCheck) : Watch :=
  let found := { watch.board with mainState := check.state, events := [] }
  let after := setMainState check.setting found check.state check.status
  { board := after
    calls :=
      match newStateInfo check.setting.before82 check.state check.status with
      | none => watch.calls
      | some info =>
        ⟨check.setting.minimum, check.setting.now, info.events, after.events.reverse⟩ ::
          watch.calls }

/-- The calls of a run of status checks. -/
def watchCalls (state : MainState) (maintStarted : Bool) (checks : List StatusCheck) : List Call :=
  (checks.foldl Watch.next (Watch.start state maintStarted)).calls

/-- The degraded run that reaches up to the newest call. -/
def degradedRun (calls : List Call) : List Call := calls.takeWhile fun call => call.Degraded

/-- How often the calls generated the degraded event. -/
def degradedEvents (calls : List Call) : Nat :=
  (calls.map fun call => call.generated.count .stateDegraded).sum

/-- What a call generates, given the calls before it. -/
structure Protocol (call : Call) (past : List Call) : Prop where
  once : call.Degraded → degradedEvents (call :: degradedRun past) ≤ 1
  listed : .stateDegraded ∈ call.generated → call.Degraded
  late : .stateDegraded ∈ call.generated →
    ∃ first, (call :: degradedRun past).getLast? = some first ∧ first.now + call.minimum ≤ call.now
  recovered : call.generated.count .stateStartedAfterDegraded =
    if .stateStartedAfterDegraded ∈ call.listed ∧ degradedEvents (degradedRun past) ≠ 0 then 1
    else 0
  others : ∀ event, event ≠ .stateDegraded → event ≠ .stateStartedAfterDegraded →
    call.generated.count event = if event ∈ call.listed then 1 else 0

/-- The two variables of the monitor say what its calls have done. -/
structure Remembers (board : Board) (calls : List Call) : Prop where
  sent : degradedEvents (degradedRun calls) = if board.sentDegradedEvent then 1 else 0
  first : ∀ time, board.firstDegradedTime = some time →
    ∃ first, (degradedRun calls).getLast? = some first ∧ first.now ≤ time
  began : degradedRun calls ≠ [] → board.firstDegradedTime ≠ none

/-! ## One check -/

variable {board : Board} {calls : List Call} {call : Call}

theorem degradedRun_cons_calm (calm : ¬ call.Degraded) : degradedRun (call :: calls) = [] := by
  simp [degradedRun, calm]

theorem degradedRun_cons_degraded (degraded : call.Degraded) :
    degradedRun (call :: calls) = call :: degradedRun calls := by
  simp [degradedRun, degraded]

/-- A monitor that has forgotten agrees with a call that was not degraded. -/
theorem remembers_forget (calm : ¬ call.Degraded) (events : List StateEvent) :
    Remembers { board.forget with events := events } (call :: calls) where
  sent := by simp [degradedRun_cons_calm calm, Board.forget, degradedEvents]
  first time remembered := by simp [Board.forget] at remembered
  began run := absurd (degradedRun_cons_calm calm) run

/-- A check that lists nothing. -/
theorem nil_follows (board : Board) (calls : List Call) :
    Protocol ⟨minimum, now, [], []⟩ calls ∧
      Remembers { board.forget with events := [] } (⟨minimum, now, [], []⟩ :: calls) := by
  have calm : ¬ Call.Degraded ⟨minimum, now, [], []⟩ := List.not_mem_nil
  refine ⟨⟨?_, ?_, ?_, ?_, ?_⟩, remembers_forget calm []⟩
  · exact fun degraded => absurd degraded calm
  · exact id
  · exact fun generated => absurd generated List.not_mem_nil
  · simp
  · simp

/-- A check that lists another event than the degraded one. -/
theorem calm_follows (remembers : Remembers board calls) (quiet : board.events = [])
    {event : StateEvent} (calm : event ≠ .stateDegraded) :
    let told := sendEvents minimum now board [event]
    Protocol ⟨minimum, now, [event], told.events.reverse⟩ calls ∧
      Remembers told (⟨minimum, now, [event], told.events.reverse⟩ :: calls) := by
  intro told
  have notDegraded : ∀ generated, ¬ Call.Degraded ⟨minimum, now, [event], generated⟩ :=
    fun _ degraded => calm (List.mem_singleton.mp degraded).symm
  have result : told = _ := sendEvents_calm minimum now board calm
  have announced : board.sentDegradedEvent = true ↔ degradedEvents (degradedRun calls) ≠ 0 := by
    rw [remembers.sent]
    cases board.sentDegradedEvent <;> simp
  have generated : told.events =
      if event = .stateStartedAfterDegraded ∧ board.sentDegradedEvent = false then [] else [event] := by
    rw [result, quiet]
  refine ⟨⟨?_, ?_, ?_, ?_, ?_⟩, ?_⟩
  · exact fun degraded => absurd degraded (notDegraded _)
  · intro member
    simp only [generated] at member
    split at member
    · simp at member
    · simp at member
      exact absurd member.symm calm
  · intro member
    simp only [generated] at member
    split at member
    · simp at member
    · simp at member
      exact absurd member.symm calm
  · simp only [generated, List.mem_singleton]
    by_cases recovery : event = .stateStartedAfterDegraded
    · cases sent : board.sentDegradedEvent with
      | false =>
        have nothing : degradedEvents (degradedRun calls) = 0 := by
          rw [remembers.sent, sent]
          rfl
        simp [recovery, nothing]
      | true => simp [recovery, announced.mp sent]
    · have other : .stateStartedAfterDegraded ≠ event := fun same => recovery same.symm
      simp [recovery, other]
  · intro other _ notRecovery
    simp only [generated]
    by_cases same : other = event
    · subst same
      simp [notRecovery]
    · split <;> simp [same, Ne.symm same]
  · rw [result]
    exact remembers_forget (notDegraded _) _

/-- The first call of a run stays its first call. -/
theorem first_of_longer {run : List Call} {first : Call} (started : run.getLast? = some first) :
    (call :: run).getLast? = some first := by
  rw [List.getLast?_cons, started, Option.getD_some]

/-- The events that a call generates before the degraded one, or up to it, leave open only
whether the degraded event was due. -/
theorem degraded_protocol
    (before : board.events = [] ∨ board.events = [.stateUnexpectedStateStarted])
    {events : List StateEvent}
    (generated : events = board.events ∨ events = .stateDegraded :: board.events)
    (once : events.count .stateDegraded + degradedEvents (degradedRun calls) ≤ 1)
    (late : .stateDegraded ∈ events → ∃ first, (degradedRun calls).getLast? = some first ∧
      first.now + minimum ≤ now) :
    Protocol ⟨minimum, now, board.events ++ [.stateDegraded], events.reverse⟩ calls where
  once _ := by simpa [degradedEvents, Nat.add_comm] using once
  listed _ := List.mem_append_right _ (List.mem_singleton_self _)
  late member := by
    obtain ⟨first, started, due⟩ := late (List.mem_reverse.mp member)
    exact ⟨first, first_of_longer started, due⟩
  recovered := by
    rcases before with before | before <;> rcases generated with generated | generated <;>
      simp [before, generated]
  others event notDegraded _ := by
    rcases before with before | before <;> rcases generated with generated | generated <;>
      rw [generated, before] <;> cases event <;> first | rfl | exact absurd rfl notDegraded

/-- A check that lists the degraded event last, after the events that it has sent. -/
theorem degraded_follows (remembers : Remembers board calls)
    (before : board.events = [] ∨ board.events = [.stateUnexpectedStateStarted]) :
    let told := sendEvents minimum now board [.stateDegraded]
    Protocol ⟨minimum, now, board.events ++ [.stateDegraded], told.events.reverse⟩ calls ∧
      Remembers told
        (⟨minimum, now, board.events ++ [.stateDegraded], told.events.reverse⟩ :: calls) := by
  intro told
  have run : ∀ generated, degradedRun
      (⟨minimum, now, board.events ++ [.stateDegraded], generated⟩ :: calls) =
        ⟨minimum, now, board.events ++ [.stateDegraded], generated⟩ :: degradedRun calls :=
    fun _ => degradedRun_cons_degraded (List.mem_append_right _ (List.mem_singleton_self _))
  have none : board.events.count .stateDegraded = 0 := by
    rcases before with before | before <;> simp [before]
  have sent := remembers.sent
  have result : told = _ := sendEvents_degraded minimum now board
  split at result
  · rename_i unknown
    rw [result]
    refine ⟨degraded_protocol minimum now before (.inl rfl) ?_ ?_, ?_, ?_, ?_⟩
    · rw [none, sent]
      split <;> omega
    · exact fun member => absurd member (List.count_eq_zero.mp none)
    · rw [run]
      simpa [degradedEvents, none] using sent
    · intro time remembered
      obtain rfl := Option.some.inj remembered
      rw [run]
      cases started : (degradedRun calls).getLast? with
      | none =>
        rw [List.getLast?_eq_none_iff.mp started]
        exact ⟨_, rfl, Nat.le_refl _⟩
      | some first =>
        refine ⟨first, first_of_longer started, ?_⟩
        have going : degradedRun calls ≠ [] := by
          intro empty
          simp [empty] at started
        obtain ⟨time, remembered⟩ := Option.ne_none_iff_exists'.mp (remembers.began going)
        obtain ⟨same, found, early⟩ := remembers.first time remembered
        obtain rfl := Option.some.inj (found.symm.trans started)
        simp only [remembered, Option.getD_some] at unknown
        omega
    · exact fun _ => Option.some_ne_none _
  · rename_i known
    obtain ⟨time, remembered⟩ : ∃ time, board.firstDegradedTime = some time := by
      cases found : board.firstDegradedTime with
      | none => simp [found] at known
      | some time => exact ⟨time, rfl⟩
    obtain ⟨first, started, early⟩ := remembers.first time remembered
    have stays : ∀ generated, ∀ later, board.firstDegradedTime = some later →
        ∃ first, (degradedRun (⟨minimum, now, board.events ++ [.stateDegraded], generated⟩ ::
          calls)).getLast? = some first ∧ first.now ≤ later := by
      intro generated later same
      obtain rfl := Option.some.inj (remembered.symm.trans same)
      rw [run]
      exact ⟨first, first_of_longer started, early⟩
    have going : board.firstDegradedTime ≠ Option.none := by
      rw [remembered]
      exact Option.some_ne_none _
    split at result
    · rename_i due
      obtain ⟨unsent, elapsed⟩ := due
      rw [remembered, Option.getD_some] at elapsed
      rw [unsent] at sent
      rw [result]
      refine ⟨degraded_protocol minimum now before (.inr rfl) ?_ ?_, ?_, stays _, fun _ => going⟩
      · simp [none, sent]
      · exact fun _ => ⟨first, started, by omega⟩
      · rw [run]
        simp [degradedEvents, none] at sent ⊢
        exact sent
    · rw [result]
      refine ⟨degraded_protocol minimum now before (.inl rfl) ?_ ?_, ?_, stays _, fun _ => going⟩
      · rw [none, sent]
        split <;> omega
      · exact fun member => absurd member (List.count_eq_zero.mp none)
      · rw [run]
        simpa [degradedEvents, none] using sent

/-- A check follows the protocol, and the monitor remembers what it did. -/
theorem sendEvents_follows (remembers : Remembers board calls) (quiet : board.events = [])
    {events : List StateEvent} (tabled : Tabled events) :
    let told := sendEvents minimum now board events
    Protocol ⟨minimum, now, events, told.events.reverse⟩ calls ∧
      Remembers told (⟨minimum, now, events, told.events.reverse⟩ :: calls) := by
  rcases tabled with rfl | ⟨event, calm, rfl⟩ | rfl | rfl
  · have nothing := nil_follows minimum now board calls
    rw [sendEvents_nil]
    simpa [Board.forget, quiet] using nothing
  · exact calm_follows minimum now remembers quiet calm
  · have follows := degraded_follows minimum now remembers (.inl quiet)
    rwa [quiet] at follows
  · have same : Remembers { board with events := [.stateUnexpectedStateStarted] } calls :=
      ⟨remembers.sent, remembers.first, remembers.began⟩
    rw [sendEvents_unexpected, quiet]
    exact degraded_follows minimum now same (.inr rfl)

/-! ## All checks -/

/-- A board with the state of an entry, if the entry has one. -/
def Board.stated (board : Board) (prevState : MainState) : Option MainState → Board
  | none => board
  | some state => if state ≠ prevState then { board with mainState := state } else board

/-- A report is applied with the events of its entry, whatever it does to the main state. -/
theorem setMainState_told (board : Board) {setting : Setting} {prevState : MainState} {status : TableauStatus}
    {info : StateInfo} (found : newStateInfo setting.before82 prevState status = some info) :
    ∃ stated : Board, stated.firstDegradedTime = board.firstDegradedTime ∧
      stated.sentDegradedEvent = board.sentDegradedEvent ∧ stated.events = board.events ∧
      let told := sendEvents setting.minimum setting.now stated info.events
      let after := setMainState setting board prevState status
      after.firstDegradedTime = told.firstDegradedTime ∧
        after.sentDegradedEvent = told.sentDegradedEvent ∧ after.events = told.events := by
  have applied : ∀ told : Board,
      let after := if info.maintStop ∧ told.maintStarted then
        { told with maintStarted := !setting.obeys } else told
      after.firstDegradedTime = told.firstDegradedTime ∧
        after.sentDegradedEvent = told.sentDegradedEvent ∧ after.events = told.events := by
    intro told
    simp only
    split <;> exact ⟨rfl, rfl, rfl⟩
  refine ⟨board.stated prevState info.state, ?_, ?_, ?_, ?_⟩
  · unfold Board.stated
    split
    · rfl
    · split <;> rfl
  · unfold Board.stated
    split
    · rfl
    · split <;> rfl
  · unfold Board.stated
    split
    · rfl
    · split <;> rfl
  · simp only [setMainState, found]
    exact applied _

/-- What is true of a monitor between two checks. -/
def Watched (watch : Watch) : Prop :=
  Remembers watch.board watch.calls ∧ Always Protocol watch.calls

/-- A monitor has nothing to remember at its start. -/
theorem watched_start (state : MainState) (maintStarted : Bool) :
    Watched (Watch.start state maintStarted) := by
  refine ⟨⟨rfl, fun time remembered => ?_, fun run => absurd rfl run⟩, always_nil _⟩
  simp [Watch.start] at remembered

/-- A check keeps to the protocol. A report that meets no entry is no call. -/
theorem Watched.next {watch : Watch} (watched : Watched watch) (check : StatusCheck) :
    Watched (watch.next check) := by
  obtain ⟨remembers, always⟩ := watched
  cases found : newStateInfo check.setting.before82 check.state check.status with
  | none =>
    simp only [Watched, Watch.next, setMainState, found]
    exact ⟨⟨remembers.sent, remembers.first, remembers.began⟩, always⟩
  | some info =>
    obtain ⟨stated, time, sent, quiet, timeAfter, sentAfter, told⟩ := setMainState_told
      { watch.board with mainState := check.state, events := [] } found
    have same : Remembers stated watch.calls := by
      refine ⟨?_, ?_, ?_⟩
      · rw [sent]
        exact remembers.sent
      · rw [time]
        exact remembers.first
      · rw [time]
        exact remembers.began
    obtain ⟨protocol, after⟩ := sendEvents_follows check.setting.minimum check.setting.now same
      quiet (newStateInfo_tabled found)
    simp only [Watched, Watch.next, found]
    rw [told]
    refine ⟨⟨?_, ?_, ?_⟩, (always_cons _ _ _).mpr ⟨protocol, always⟩⟩
    · rw [sentAfter]
      exact after.sent
    · rw [timeAfter]
      exact after.first
    · rw [timeAfter]
      exact after.began

/-- Every call of every run of status checks keeps to the protocol of the degraded event,
whatever main states the checks find. -/
theorem degraded_event_protocol (state : MainState) (maintStarted : Bool)
    (checks : List StatusCheck) : Always Protocol (watchCalls state maintStarted checks) := by
  have kept : ∀ watch, Watched watch → Watched (checks.foldl Watch.next watch) := by
    induction checks with
    | nil => exact fun _ watched => watched
    | cons check rest inductionHypothesis =>
      intro watch watched
      exact inductionHypothesis (watch.next check) (watched.next check)
  exact (kept _ (watched_start state maintStarted)).2

end Palette.Status
