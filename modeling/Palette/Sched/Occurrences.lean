import Palette.Sched.CronFirst
import Palette.Sched.Expansion
import Palette.Sched.Scheduler

/-!
# The times at which jobs run

Each time of a job is the first match of its expression behind the end of the call before it. So
the scheduler calls the handler once for each match, and not before it. The matches that pass while
a call for an earlier one waits for its turn or runs are left out.
-/

namespace Palette.Sched

open Palette.Foundation
open Palette.Foundation.Calendar
open Palette.Sched.Croniter

/-! ## The calls for one job -/

/-- Each call is for the first match behind the end of the one before it. -/
def Chain (matched : Moment → Prop) : Moment → List Call → Moment → Prop
  | since, [], next => IsNext matched since next
  | since, call :: rest, next => ∃ due, call.due = some due ∧ IsNext matched since due ∧
      due.clock ≤ call.begun.clock ∧ call.begun.clock ≤ call.ended.clock ∧
        Chain matched call.ended rest next

section Chains

variable {matched : Moment → Prop} {since next : Moment} {calls : List Call}

/-- One call more, and the match behind its end. -/
theorem Chain.snoc {call : Call} {later : Moment} (chain : Chain matched since calls next)
    (due : call.due = some next) (begun : next.clock ≤ call.begun.clock)
    (ended : call.begun.clock ≤ call.ended.clock) (isNext : IsNext matched call.ended later) :
    Chain matched since (calls ++ [call]) later := by
  induction calls generalizing since with
  | nil => exact ⟨next, due, chain, begun, ended, isNext⟩
  | cons first rest inductionHypothesis =>
    obtain ⟨time, isDue, isFirst, begins, ends, chain⟩ := chain
    exact ⟨time, isDue, isFirst, begins, ends, inductionHypothesis chain⟩

/-- All calls are for matches, and none is too early. -/
theorem Chain.due (chain : Chain matched since calls next) {call : Call} (member : call ∈ calls) :
    ∃ due, call.due = some due ∧ matched due ∧ since.clock < due.clock ∧
      due.clock ≤ call.begun.clock := by
  induction calls generalizing since with
  | nil => cases member
  | cons first rest inductionHypothesis =>
    obtain ⟨time, isDue, isFirst, begins, ends, chain⟩ := chain
    rcases List.mem_cons.1 member with rfl | member
    · exact ⟨time, isDue, isFirst.isMatch, isFirst.later, begins⟩
    · obtain ⟨due, same, isMatch, later, le⟩ := inductionHypothesis chain member
      have := isFirst.later
      exact ⟨due, same, isMatch, by omega, le⟩

/-- The calls for one match. -/
def callsFor (moment : Moment) (calls : List Call) : Nat :=
  calls.countP fun call => decide (call.due = some moment)

/-- There is no call for what is not behind the first time. -/
theorem Chain.callsFor_eq_zero (chain : Chain matched since calls next) {moment : Moment}
    (le : moment.clock ≤ since.clock) : callsFor moment calls = 0 := by
  rw [callsFor, List.countP_eq_zero]
  intro call member
  obtain ⟨due, isDue, -, later, -⟩ := chain.due member
  rw [isDue, decide_eq_true_eq, Option.some.injEq]
  rintro rfl
  exact Nat.not_lt_of_le le later

/-- A match passes while an earlier one is called for. -/
def Passes (calls : List Call) (moment : Moment) : Prop :=
  ∃ call ∈ calls, ∃ due, call.due = some due ∧ due.clock < moment.clock ∧
    moment.clock ≤ call.ended.clock

/-- Each match before the next time is called for once, or it passes and is not called for. -/
theorem Chain.serves (chain : Chain matched since calls next) {moment : Moment}
    (isMatch : matched moment) (later : since.clock < moment.clock)
    (before : moment.clock < next.clock) :
    callsFor moment calls = 1 ∨ callsFor moment calls = 0 ∧ Passes calls moment := by
  induction calls generalizing since with
  | nil => exact absurd (chain.first moment isMatch later) (Nat.not_le_of_lt before)
  | cons call rest inductionHypothesis =>
    obtain ⟨due, isDue, isFirst, begins, ends, chain⟩ := chain
    have notBefore := isFirst.first moment isMatch later
    have counted : callsFor moment (call :: rest) =
        callsFor moment rest + if due = moment then 1 else 0 := by
      simp [callsFor, List.countP_cons, isDue]
    rw [counted]
    by_cases same : due = moment
    · subst same
      left
      rw [if_pos rfl, chain.callsFor_eq_zero (Nat.le_trans begins ends)]
    · have behind : due.clock < moment.clock :=
        Nat.lt_of_le_of_ne notBefore fun equal => same (Moment.clock_injective equal)
      rw [if_neg same, Nat.add_zero]
      rcases Nat.lt_or_ge call.ended.clock moment.clock with afterwards | during
      · rcases inductionHypothesis chain afterwards with once | ⟨none, other, member, passes⟩
        · exact .inl once
        · exact .inr ⟨none, other, List.mem_cons_of_mem _ member, passes⟩
      · exact .inr ⟨chain.callsFor_eq_zero during, call, List.mem_cons_self, due, isDue, behind,
          during⟩

end Chains

/-! ## The time that is found -/

/-- The expression of a job is read as columns that list numbers, and no day is skipped. -/
structure Follows (entry : Crontab) (expanded : List (List Item)) : Prop where
  reads : ∃ fuel text start, entry.expr fuel = some text ∧ init text start = .ok ⟨start, expanded⟩
  numbers : OnlyNumbers expanded
  unskipped : ¬Skips expanded

/-- More fuel does not change an expression. -/
theorem expr_mono {entry : Crontab} {fuel more : Nat} {text : Text}
    (written : entry.expr fuel = some text) (atLeast : fuel ≤ more) :
    entry.expr more = some text := by
  unfold Crontab.expr Crontab.fields at *
  cases minute : Crontab.commafy fuel entry.minute 60 with
  | none => simp [minute] at written
  | some minuteField =>
    cases hour : Crontab.commafy fuel entry.hour 24 with
    | none => simp [minute, hour] at written
    | some hourField =>
      rw [minute, hour] at written
      rw [commafy_mono minute atLeast, commafy_mono hour atLeast]
      exact written

/-- The columns do not depend on the first moment. -/
theorem init_from {text : Text} {start : Moment} {expanded : List (List Item)}
    (read : init text start = .ok ⟨start, expanded⟩) (now : Moment) :
    init text now = .ok ⟨now, expanded⟩ := by
  unfold init at *
  dsimp only at *
  split at read
  · cases read
  · rename_i count
    rw [if_neg count]
    cases written : expandAll columns (Words.words isSpace text) with
    | error failure =>
      rw [written] at read
      cases read
    | ok columns =>
      rw [written] at read
      cases read
      rfl

/-- The next time of a job is the first match behind the time at which it is looked for. -/
theorem Follows.isNext {entry : Crontab} {expanded : List (List Item)}
    (follows : Follows entry expanded) {fuel : Nat} {utcnow time : Moment}
    (since : 1 ≤ utcnow.date.year) (found : nextRunTime fuel entry utcnow = some (.ok time)) :
    IsNext (Matches expanded) utcnow time := by
  obtain ⟨enough, text, start, written, read⟩ := follows.reads
  have plain : AllPlain expanded := allPlain_of_init read follows.numbers
  unfold nextRunTime at found
  cases again : entry.expr fuel with
  | none =>
    rw [again] at found
    cases found
  | some other =>
    have same : other = text := by
      have first := expr_mono again (Nat.le_max_left fuel enough)
      rw [expr_mono written (Nat.le_max_right fuel enough), Option.some.injEq] at first
      exact first.symm
    subst same
    simp only [again, init_from read utcnow] at found
    cases result : getNext fuel ⟨utcnow, expanded⟩ with
    | none =>
      rw [result] at found
      cases found
    | some outcome =>
      rw [result] at found
      cases outcome with
      | error failure => cases found
      | ok next =>
        cases found
        have answers : Answers ⟨utcnow, expanded⟩ (.ok next) :=
          answers_of_not_skips plain follows.unskipped since result
        exact answers.2

/-! ## Whole runs -/

/-- What holds while the thread runs. -/
structure SchedThread.Sound (added : Text → Datetime) (sched : SchedThread) : Prop where
  names : (sched.jobs.map Job.name).Nodup
  apart : (sched.ready.map Job.name).Nodup
  listed : ∀ job ∈ sched.ready, job ∈ sched.jobs ∧ ∀ due, job.nextRunTime = some due →
    due.clock ≤ sched.clock.clock
  current : ∀ looked, sched.looked = some looked → looked.clock ≤ sched.clock.clock
  waiting : ∀ looked, sched.looked = some looked → ∀ job ∈ sched.jobs, job.enabled = true →
    ∀ expanded, Follows job.entry expanded → ∀ time, job.nextRunTime = some time →
      time.clock ≤ looked.clock → job ∈ sched.ready
  chained : ∀ job ∈ sched.jobs, ∀ expanded, Follows job.entry expanded →
    ∃ time, job.nextRunTime = some time ∧
      Chain (Matches expanded) (added job.name).1 (sched.callsOf job.name) time

section Runs

variable {added : Text → Datetime} {sched : SchedThread}

/-- The jobs that are ready are those of the table whose time has come. -/
theorem mem_getReadyJobs {utcnow : Moment} {jobs : List Job} {job : Job} :
    job ∈ getReadyJobs utcnow jobs ↔ job ∈ jobs ∧ job.isReady utcnow = true := by
  rw [getReadyJobs, List.mem_insertionSort, List.mem_filter]

theorem isReady_iff {utcnow : Moment} {job : Job} :
    job.isReady utcnow = true ↔
      ∃ time, job.nextRunTime = some time ∧ time.clock ≤ utcnow.clock := by
  simp [Job.isReady, Option.any_eq_true]

/-- A name stands for one row. -/
theorem SchedThread.Sound.same (sound : sched.Sound added) {job other : Job}
    (member : job ∈ sched.jobs) (also : other ∈ sched.jobs) (name : job.name = other.name) :
    job = other :=
  List.inj_on_of_nodup_map sound.names member also name

/-- The jobs that are ready are looked for. -/
theorem SchedThread.Sound.look (sound : sched.Sound added) (utcnow : Datetime) :
    SchedThread.Sound added { sched with
      ready := getReadyJobs utcnow.1 sched.jobs
      looked := some utcnow.1
      clock := utcnow.1 } where
  names := sound.names
  apart := by
    have perm : (getReadyJobs utcnow.1 sched.jobs).Perm
        (sched.jobs.filter (Job.isReady utcnow.1)) := List.perm_insertionSort _ _
    refine (perm.map Job.name).nodup_iff.2 ?_
    exact (List.filter_sublist.map Job.name).nodup sound.names
  listed job member := by
    obtain ⟨inTable, isReady⟩ := mem_getReadyJobs.1 member
    refine ⟨inTable, fun due isDue => ?_⟩
    obtain ⟨time, same, come⟩ := isReady_iff.1 isReady
    rw [isDue] at same
    cases same
    exact come
  current looked same := by
    cases same
    exact Nat.le_refl _
  waiting looked same job member _ _ _ time isTime come := by
    cases same
    exact mem_getReadyJobs.2 ⟨member, isReady_iff.2 ⟨time, isTime, come⟩⟩
  chained := sound.chained

/-- The first job is left out. -/
theorem SchedThread.Sound.skip (sound : sched.Sound added) {utcnow : Moment}
    (le : sched.clock.clock ≤ utcnow.clock) {job : Job} {rest : List Job}
    (first : sched.ready = job :: rest) (disabled : job.enabled = false) :
    SchedThread.Sound added { sched with ready := rest, clock := utcnow } where
  names := sound.names
  apart := by
    have apart := sound.apart
    rw [first, List.map_cons, List.nodup_cons] at apart
    exact apart.2
  listed other member := by
    obtain ⟨inTable, come⟩ := sound.listed other (first ▸ List.mem_cons_of_mem _ member)
    exact ⟨inTable, fun due isDue => Nat.le_trans (come due isDue) le⟩
  current looked same := Nat.le_trans (sound.current looked same) le
  waiting looked same other member enabled expanded follows time isTime come := by
    have listed := sound.waiting looked same other member enabled expanded follows time isTime come
    rw [first] at listed
    rcases List.mem_cons.1 listed with rfl | listed
    · rw [disabled] at enabled
      cases enabled
    · exact listed
  chained := sound.chained

/-- A row of the table after one job has a new time. -/
theorem mem_setNextRunTime {name : Text} {time : Moment} {jobs : List Job} {job : Job}
    (member : job ∈ setNextRunTime name time jobs) :
    (∃ old ∈ jobs, old.name = name ∧ job = { old with nextRunTime := some time }) ∨
      job ∈ jobs ∧ job.name ≠ name := by
  obtain ⟨old, inTable, rfl⟩ := List.mem_map.1 member
  by_cases same : old.name = name
  · rw [if_pos same]
    exact .inl ⟨old, inTable, same, rfl⟩
  · rw [if_neg same]
    exact .inr ⟨inTable, same⟩

theorem names_setNextRunTime (name : Text) (time : Moment) (jobs : List Job) :
    (setNextRunTime name time jobs).map Job.name = jobs.map Job.name := by
  rw [setNextRunTime, List.map_map]
  refine List.map_congr_left fun job _ => ?_
  dsimp only [Function.comp]
  split <;> rfl

/-- A call more is one for its own job. -/
theorem filter_calls (call : Call) (name : Text) :
    (sched.calls ++ [call]).filter (fun call => decide (call.name = name)) =
      if call.name = name then sched.callsOf name ++ [call] else sched.callsOf name := by
  rw [List.filter_append]
  by_cases same : call.name = name <;> simp [same, SchedThread.callsOf]

/-- The handler is called for the first job. -/
theorem SchedThread.Sound.call (sound : sched.Sound added) {utcnow : Datetime}
    (le : sched.clock.clock ≤ utcnow.1.clock) {job : Job} {rest : List Job}
    (first : sched.ready = job :: rest) {fuel : Nat} {time : Moment}
    (found : nextRunTime fuel job.entry utcnow.1 = some (.ok time)) :
    SchedThread.Sound added { sched with
      jobs := setNextRunTime job.name time sched.jobs
      ready := rest
      clock := utcnow.1
      calls := sched.calls ++ [⟨job.name, job.nextRunTime, sched.clock, utcnow.1⟩] } := by
  have apart := sound.apart
  rw [first, List.map_cons, List.nodup_cons] at apart
  obtain ⟨inTable, come⟩ := sound.listed job (first ▸ List.mem_cons_self)
  have kept {other : Job} (member : other ∈ rest) : other.name ≠ job.name := fun same =>
    apart.1 (same ▸ List.mem_map_of_mem member)
  constructor
  case names => exact (names_setNextRunTime _ _ _).symm ▸ sound.names
  case apart => exact apart.2
  case listed =>
    intro other member
    obtain ⟨old, come⟩ := sound.listed other (first ▸ List.mem_cons_of_mem _ member)
    refine ⟨List.mem_map.2 ⟨other, old, if_neg (kept member)⟩, fun due isDue => ?_⟩
    exact Nat.le_trans (come due isDue) le
  case current => exact fun looked same => Nat.le_trans (sound.current looked same) le
  case waiting =>
    intro looked same other member enabled expanded follows due isDue past
    rcases mem_setNextRunTime member with ⟨old, inOld, name, rfl⟩ | ⟨inOld, name⟩
    · cases sound.same inOld inTable name
      cases isDue
      have later := (follows.isNext utcnow.2 found).later
      have current := sound.current looked same
      omega
    · have listed := sound.waiting looked same other inOld enabled expanded follows due isDue past
      rw [first] at listed
      rcases List.mem_cons.1 listed with rfl | listed
      · exact absurd rfl name
      · exact listed
  case chained =>
    intro other member expanded follows
    rcases mem_setNextRunTime member with ⟨old, inOld, name, rfl⟩ | ⟨inOld, name⟩
    · cases sound.same inOld inTable name
      obtain ⟨due, isDue, chain⟩ := sound.chained job inTable expanded follows
      refine ⟨time, rfl, ?_⟩
      unfold SchedThread.callsOf
      dsimp only
      rw [filter_calls, if_pos rfl]
      exact chain.snoc isDue (come due isDue) le (follows.isNext utcnow.2 found)
    · obtain ⟨due, isDue, chain⟩ := sound.chained other inOld expanded follows
      refine ⟨due, isDue, ?_⟩
      unfold SchedThread.callsOf
      rw [filter_calls, if_neg (Ne.symm name)]
      exact chain

/-- What holds at the beginning. -/
theorem SchedThread.Starts.sound (starts : sched.Starts added) : sched.Sound added where
  names := starts.names
  apart := by
    rw [starts.ready]
    exact List.nodup_nil
  listed job member := by
    rw [starts.ready] at member
    cases member
  current looked same := by
    rw [starts.looked] at same
    cases same
  waiting looked same := by
    rw [starts.looked] at same
    cases same
  chained job member expanded follows := by
    obtain ⟨fuel, time, found, same⟩ := starts.times job member
    refine ⟨time, same, ?_⟩
    rw [SchedThread.callsOf, starts.calls]
    exact follows.isNext (added job.name).2 found

/-- It is kept until an exception ends the thread. -/
theorem sound_invariant :
    (scheduler added).Invariant fun sched => sched.raised = none → sched.Sound added where
  starts sched starts _ := SchedThread.Starts.sound starts
  preserved sched turn next sound stepped alive := by
    change sched.step turn = some next at stepped
    cases turn with
    | look utcnow =>
      simp only [SchedThread.step, Option.ite_none_right_eq_some, Option.some.injEq] at stepped
      obtain ⟨⟨running, -, -⟩, rfl⟩ := stepped
      exact (sound running).look utcnow
    | handle fuel utcnow =>
      simp only [SchedThread.step] at stepped
      cases first : sched.ready with
      | nil =>
        rw [first] at stepped
        cases stepped
      | cons job rest =>
        simp only [first, Option.ite_none_right_eq_some] at stepped
        obtain ⟨⟨running, le⟩, stepped⟩ := stepped
        unfold SchedThread.handle at stepped
        cases enabled : job.enabled with
        | false =>
          rw [enabled] at stepped
          cases stepped
          exact (sound running).skip le first enabled
        | true =>
          rw [enabled] at stepped
          obtain ⟨outcome, found, rfl⟩ := Option.map_eq_some_iff.1 stepped
          cases outcome with
          | error failure => cases alive
          | ok time => exact (sound running).call le first found

end Runs

/-! ## Every day at nine -/

/-- Nine o'clock. -/
def nine : Moment := daily.cur.plus 32400

/-- A job of every day at nine, with its next time. -/
def dailyJob (time : Moment) : Job where
  name := "daily".toList
  entry := ⟨['0'], ['9'], ['*'], ['*'], ['*']⟩
  enabled := true
  priority := none
  nextRunTime := some time

/-- Its expression is one that the scheduler follows. -/
theorem dailyJob_follows (time : Moment) : Follows (dailyJob time).entry daily.expanded :=
  ⟨⟨0, _, daily.cur, rfl, daily_read⟩, daily_numbers, daily_unskipped⟩

/-- The search for the next time of the job. -/
theorem dailyJob_next (fuel : Nat) (time utcnow : Moment) :
    nextRunTime fuel (dailyJob time).entry utcnow =
      (getNext fuel ⟨utcnow, daily.expanded⟩).map fun outcome => outcome.map Croniter.cur := by
  have written : (dailyJob time).entry.expr fuel = some "0 9 * * *".toList := rfl
  simp only [nextRunTime, written, init_from daily_read utcnow]
  rfl

/-- The thread after the job was added at midnight. -/
def dailySched : SchedThread := ⟨[dailyJob nine], [], none, daily.cur, [], none⟩

/-- The time is set at midnight for nine o'clock, and then for the same time of the next day. -/
theorem nine_next : nextRunTime 8 (dailyJob nine).entry daily.cur = some (.ok nine) ∧
    nextRunTime 8 (dailyJob nine).entry nine = some (.ok (nine.plus 86400)) := by
  rw [dailyJob_next, dailyJob_next]
  exact ⟨rfl, rfl⟩

theorem nine_since : 1 ≤ nine.date.year := by decide

/-- Nine o'clock as a time of the clock. -/
def atNineOClock : Datetime := ⟨nine, nine_since⟩

/-- The job was added at midnight. -/
def atMidnight (_ : Text) : Datetime := ⟨daily.cur, daily_since⟩

/-- The thread after the job was called for at nine. -/
def calledSched : SchedThread where
  jobs := [dailyJob (nine.plus 86400)]
  ready := []
  looked := some nine
  clock := nine
  calls := [⟨"daily".toList, some nine, nine, nine⟩]
  raised := none

/-- It looks for jobs at nine and then calls for this one. -/
theorem calledSched_reachable : (scheduler atMidnight).Reachable calledSched := by
  have later : daily.cur.clock ≤ nine.clock :=
    Nat.le_of_lt ((dailyJob_follows nine).isNext daily_since nine_next.1).later
  have ready : getReadyJobs nine [dailyJob nine] = [dailyJob nine] := by
    simp [getReadyJobs, dailyJob, Job.isReady]
  refine ⟨dailySched, [.look atNineOClock, .handle 8 atNineOClock], ?_, ?_⟩
  · refine ⟨List.nodup_singleton _, rfl, rfl, rfl, rfl, fun job member => ?_⟩
    cases List.mem_singleton.1 member
    exact ⟨8, nine, nine_next.1, rfl⟩
  · have looked : dailySched.step (.look atNineOClock) =
        some ⟨[dailyJob nine], [dailyJob nine], some nine, nine, [], none⟩ := by
      rw [SchedThread.step, if_pos ⟨rfl, rfl, later⟩]
      change some (SchedThread.mk _ (getReadyJobs nine [dailyJob nine]) _ _ _ _) = _
      rw [ready]
      rfl
    have handled : SchedThread.step ⟨[dailyJob nine], [dailyJob nine], some nine, nine, [], none⟩
        (.handle 8 atNineOClock) = some calledSched := by
      simp only [SchedThread.step, SchedThread.handle, atNineOClock, Nat.le_refl, and_self,
        if_true, nine_next.2]
      rfl
    have isStep : (scheduler atMidnight).step = SchedThread.step := rfl
    simp only [Machine.run, isStep, looked, handled, Option.bind_some]

end Palette.Sched
