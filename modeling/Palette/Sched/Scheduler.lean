import Palette.Foundation.Transition
import Palette.Sched.Croniter

/-!
# The thread of the scheduler

A row of the table has the time at which its job runs next. Again and again the thread looks for the
jobs whose time has come, in the order of their priorities, and calls the handler for each that is
enabled. When the handler is back, the next time of the job is the one that its expression has then.

An exception of the handler is caught, but not one of the expression, with which the thread ends.
The times of the clock do not decrease, and no other thread changes the table meanwhile.
-/

namespace Palette.Sched

open Palette.Foundation
open Palette.Foundation.Calendar

/-- A time of the clock, whose years begin at 1. -/
abbrev Datetime := {moment : Moment // 1 ≤ moment.date.year}

/-- A row of the table. -/
structure Job where
  name : Text
  entry : Crontab
  enabled : Bool
  priority : Option Int
  nextRunTime : Option Moment
  deriving DecidableEq

namespace Job

/-- The time of a job has come. -/
def isReady (utcnow : Moment) (job : Job) : Bool :=
  job.nextRunTime.any fun time => decide (time.clock ≤ utcnow.clock)

/-- The order of the priorities, where `NULL` is the last. -/
def le (first second : Job) : Bool :=
  match first.priority, second.priority with
  | some first, some second => decide (first ≤ second)
  | none, some _ => false
  | _, none => true

end Job

/-- `get_ready_jobs`. -/
def getReadyJobs (utcnow : Moment) (jobs : List Job) : List Job :=
  (jobs.filter (Job.isReady utcnow)).insertionSort fun first second => first.le second = true

/-- The time that `set_next_run_time` finds. -/
def nextRunTime (fuel : Nat) (entry : Crontab) (utcnow : Moment) :
    Option (Except Croniter.Failure Moment) :=
  match entry.expr fuel with
  | none => none
  | some text =>
    match Croniter.init text utcnow with
    | .error failure => some (.error failure)
    | .ok croniter => (Croniter.getNext fuel croniter).map fun outcome => outcome.map Croniter.cur

/-- The table in which one job has a new time. -/
def setNextRunTime (name : Text) (time : Moment) (jobs : List Job) : List Job :=
  jobs.map fun job => if job.name = name then { job with nextRunTime := some time } else job

/-- A call of the handler, with the time for which the job was ready, the last time of the clock
before the call, and the one at which the next time of the job was looked for. -/
structure Call where
  name : Text
  due : Option Moment
  begun : Moment
  ended : Moment
  deriving DecidableEq

/-- The table, the jobs that are still to be handled, the time at which they were looked for, the
last time of the clock, the calls so far, and the exception with which the thread has ended. -/
structure SchedThread where
  jobs : List Job
  ready : List Job
  looked : Option Moment
  clock : Moment
  calls : List Call
  raised : Option Croniter.Failure

/-- What the thread does at a time of the clock. -/
inductive Turn where
  | look (utcnow : Datetime)
  | handle (fuel : Nat) (utcnow : Datetime)

namespace SchedThread

/-- The calls for one job. -/
def callsOf (sched : SchedThread) (name : Text) : List Call :=
  sched.calls.filter fun call => decide (call.name = name)

/-- The body of the loop over the jobs that are ready. -/
def handle (sched : SchedThread) (fuel : Nat) (utcnow : Moment) (job : Job) (rest : List Job) :
    Option SchedThread :=
  if job.enabled then
    let calls := sched.calls ++ [⟨job.name, job.nextRunTime, sched.clock, utcnow⟩]
    (nextRunTime fuel job.entry utcnow).map fun outcome =>
      match outcome with
      | .ok time =>
        { sched with
          jobs := setNextRunTime job.name time sched.jobs
          ready := rest
          clock := utcnow
          calls := calls }
      | .error failure => { sched with clock := utcnow, calls := calls, raised := some failure }
  else some { sched with ready := rest, clock := utcnow }

/-- `run`, one turn after the other. -/
def step (sched : SchedThread) : Turn → Option SchedThread
  | .look utcnow =>
    if sched.raised = none ∧ sched.ready = [] ∧ sched.clock.clock ≤ utcnow.1.clock then
      some { sched with
        ready := getReadyJobs utcnow.1 sched.jobs
        looked := some utcnow.1
        clock := utcnow.1 }
    else none
  | .handle fuel utcnow =>
    match sched.ready with
    | [] => none
    | job :: rest =>
      if sched.raised = none ∧ sched.clock.clock ≤ utcnow.1.clock then
        sched.handle fuel utcnow.1 job rest
      else none

/-- The thread begins after all jobs were added, each at its own time. -/
structure Starts (added : Text → Datetime) (sched : SchedThread) : Prop where
  names : (sched.jobs.map Job.name).Nodup
  ready : sched.ready = []
  looked : sched.looked = none
  calls : sched.calls = []
  raised : sched.raised = none
  times : ∀ job ∈ sched.jobs, ∃ fuel time,
    nextRunTime fuel job.entry (added job.name).1 = some (.ok time) ∧ job.nextRunTime = some time

end SchedThread

/-- The thread and its table. -/
def scheduler (added : Text → Datetime) : Machine SchedThread Turn where
  initial := SchedThread.Starts added
  step := SchedThread.step

end Palette.Sched
