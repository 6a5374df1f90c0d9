import Palette.Events.Generation
import Palette.Load.Queries

/-!
# Loading the extract jobs

A load of the extract jobs asks for the greatest remote number, prunes the local rows
beyond it, asks for the new jobs and then for the time of the database. Each job is stored,
examined and committed. At the end the stored jobs that are not finished are examined again,
with a time that is asked for once more.

Where the time could not be read the reply itself is taken for it, and arithmetic with it
raises. Times are in microseconds, as far as the load compares them. What is not committed
when a load ends is rolled back. An event and the archive commit the session as well, in the
middle of an examination. The texts that an event looks up are not modelled.
-/

namespace Palette.Jobs

open Palette.Commands Palette.Events Palette.Foundation Palette.Load Palette.Sync Script

/-! ## Jobs -/

/-- A remote job as far as the load looks at it. -/
structure Job where
  id : Int
  subtitle : Option String
  args : Option String
  progress : Option Int
  finishCode : Option Int
  updatedAt : Option Int
  createdAt : Option Int
  startedAt : Option Int
  completedAt : Option Int
  deriving DecidableEq, Repr

/-- A remote row. Its conversion may raise. -/
structure RemoteJob where
  job : Job
  raises : Option Failure
  deriving DecidableEq, Repr

/-- The notifications that were sent for a job: `ExtractNotification`. -/
structure Notified where
  durationWarn : Bool
  durationError : Bool
  delayWarn : Bool
  delayError : Bool
  deriving DecidableEq, Repr

/-- A row of the extracts table. -/
structure Entry where
  envid : Nat
  job : Job
  notified : Notified
  deriving DecidableEq, Repr

/-- The number of a row in its environment. -/
def Entry.key (entry : Entry) : Nat × Int := (entry.envid, entry.job.id)

/-- The kinds of events about jobs. -/
inductive JobEvent where
  | delayWarn
  | delayError
  | durationWarn
  | durationError
  | ok
  | failed
  deriving DecidableEq, Repr

/-- The event is about a threshold and not about the outcome. -/
def JobEvent.isAlert : JobEvent → Bool
  | .ok | .failed => false
  | _ => true

namespace Notified

/-- No notification was sent. -/
def none : Notified := ⟨false, false, false, false⟩

/-- A notification was sent. The two events about the outcome are never noted. -/
def has (notified : Notified) : JobEvent → Bool
  | .durationWarn => notified.durationWarn
  | .durationError => notified.durationError
  | .delayWarn => notified.delayWarn
  | .delayError => notified.delayError
  | .ok | .failed => false

/-- Note a notification. -/
def noting (notified : Notified) : JobEvent → Notified
  | .durationWarn => { notified with durationWarn := true }
  | .durationError => { notified with durationError := true }
  | .delayWarn => { notified with delayWarn := true }
  | .delayError => { notified with delayError := true }
  | .ok | .failed => notified

end Notified

/-- Note a notification in a row. -/
def Entry.noting (entry : Entry) (key : JobEvent) : Entry :=
  { entry with notified := entry.notified.noting key }

/-- An event that is sent. -/
structure Sent where
  key : JobEvent
  entry : Entry
  deriving DecidableEq, Repr

/-- How archiving a finished job ends: its item is not found or nothing is retained, the
commit is refused, or a row is added. -/
inductive Archiving where
  | unneeded
  | refused (failure : Failure)
  | added
  deriving DecidableEq, Repr

/-- The thresholds in seconds, where zero switches an event off, and how the archive and
`event_control.gen` end. -/
structure Control where
  delayWarn : Int
  delayError : Int
  durationWarn : Int
  durationError : Int
  archive : Entry → Archiving
  gen : Sent → Generation

/-! ## The time of the database -/

/-- What `get_db_now_utc` returns. -/
inductive DbNow where
  | body (data : OdbcReply)
  | time (now : Int)

/-- How a text is read as a time, and the time of the controller. -/
structure Clock where
  parse : String → Option Int
  utcnow : Int

/-- `get_db_now_utc`. -/
def getDbNowUtc (clock : Clock) (data : OdbcReply) : Except Failure DbNow :=
  match data.error, data.rows with
  | some _, _ => .ok (.body data)
  | none, none => .ok (.body data)
  | none, some ((.text text :: _) :: _) => .ok (.time ((clock.parse text).getD clock.utcnow))
  | none, some ((_ :: _) :: _) => .error ⟨.attributeError, "object has no attribute 'find'"⟩
  | none, some _ => .ok (.time clock.utcnow)

/-- The difference of the time of the database and another one. -/
def DbNow.since (now : DbNow) (earlier : Option Int) : Except Failure Int :=
  match now, earlier with
  | time now, some earlier => .ok (now - earlier)
  | _, _ => .error ⟨.typeError, "unsupported operand type(s) for -"⟩

/-! ## Alerts that are due -/

/-- Subtitles are compared by their texts. -/
local instance lawfulSubtitle : LawfulBEq (Option String) := inferInstance

/-- The kinds of jobs that are looked up. -/
def isArchived (job : Job) : Bool :=
  job.subtitle ∈
    [some "Workbook", some "Data Source", some "Datasource", some "RefreshExtractTask"]

/-- A threshold is set and reached. -/
def reached (threshold micros : Int) : Prop := threshold ≠ 0 ∧ threshold * 1000000 ≤ micros

instance (threshold micros : Int) : Decidable (reached threshold micros) :=
  inferInstanceAs (Decidable (_ ∧ _))

/-- The alert of a kind that is due: an error that was not sent, or else a warning if
neither was sent. -/
def due (error warn : JobEvent) (errorThreshold warnThreshold micros : Int)
    (notified : Notified) : Option JobEvent :=
  if reached errorThreshold micros ∧ notified.has error = false then some error
  else if reached warnThreshold micros ∧ notified.has warn = false ∧
      notified.has error = false then
    some warn
  else none

section Due

variable (control : Control) (now : DbNow) (entry : Entry)

/-- The alert of `_check_start_delay`. -/
def dueDelay : Except Failure (Option JobEvent) := do
  let delay ← now.since entry.job.createdAt
  return due .delayError .delayWarn control.delayError control.delayWarn delay entry.notified

/-- How long a started job took, or has taken so far in whole seconds. -/
def runTime : Except Failure Int :=
  match entry.job.completedAt, entry.job.startedAt with
  | some completed, some started => .ok (completed - started)
  | _, started => (fun micros => micros.tdiv 1000000 * 1000000) <$> now.since started

/-- The alert of `_check_duration_exceeded`. -/
def dueDuration : Except Failure (Option JobEvent) := do
  let duration ← runTime now entry
  return due .durationError .durationWarn control.durationError control.durationWarn duration
    entry.notified

/-- The alert that a job is examined for. -/
def dueAlert : Except Failure (Option JobEvent) :=
  if entry.job.startedAt = none then dueDelay control now entry
  else dueDuration control now entry

/-- The event of `_check_finished`. -/
def outcomeKey : Option JobEvent :=
  if entry.job.completedAt = none ∨ entry.job.startedAt = none then none
  else some (if entry.job.finishCode = some 0 then .ok else .failed)

end Due

/-! ## The load -/

/-- The table with a session on it, the events that were sent, and the rows for which the
archive was given a row. -/
structure Store where
  committed : List Entry
  view : List Entry
  sent : List Sent
  archived : List Entry
  deriving DecidableEq, Repr

/-- The reply to the query of the jobs: an error, nothing, or rows with or without the
schema. -/
inductive JobsReply where
  | error (message : String)
  | missing
  | rows (schema : Bool) (rows : List RemoteJob)
  deriving DecidableEq, Repr

/-- What a load returns. A reply without rows is returned as it is. -/
inductive LoadReply where
  | failure (error : String)
  | noRows
  | ok (count : Nat)
  deriving DecidableEq, Repr

/-- The reply has the key `error`. -/
def LoadReply.Failed : LoadReply → Prop
  | failure _ => True
  | _ => False

/-- Everything that a load meets. The database may refuse a commit. -/
structure Load where
  envid : Nat
  busy : Bool
  /-- `check_odbc_state` is off or the state allows queries. -/
  odbcOk : Bool
  maximum : Query OdbcReply
  jobs : Query JobsReply
  now : Query OdbcReply
  nowAgain : Query OdbcReply
  clock : Clock
  control : Control
  accepts : List Entry → Bool

namespace Store

/-- Commit the view. -/
def saved (store : Store) : Store := { store with committed := store.view }

/-- Note that an event was sent. -/
def sending (store : Store) (sent : Sent) : Store := { store with sent := store.sent ++ [sent] }

/-- Give up what is not committed. -/
def undone (store : Store) : Store := { store with view := store.committed }

/-- Delete the rows of an environment beyond a number. -/
def pruned (store : Store) (envid : Nat) (maxid : Int) : Store :=
  { store with view := store.view.filter fun entry => ¬(entry.envid = envid ∧ maxid < entry.job.id) }

/-- The row of a job, by `ExtractEntry.get`, with its columns copied; a new one if there is
none. -/
def entryOf (store : Store) (envid : Nat) (job : Job) : Entry :=
  match store.view.find? fun entry => entry.envid = envid ∧ entry.job.id = job.id with
  | some entry => { entry with job := job }
  | none => ⟨envid, job, .none⟩

/-- Write a row over the one with its number, or at the end. -/
def put (store : Store) (entry : Entry) : Store :=
  let same (other : Entry) : Bool := other.envid = entry.envid ∧ other.job.id = entry.job.id
  if store.view.any same then
    { store with view := store.view.map fun other => if same other then entry else other }
  else { store with view := store.view ++ [entry] }

end Store

/-- A script of a load. -/
abbrev Work (Value : Type) : Type := Script Store Failure Value

namespace Load

variable (load : Load)

/-- `session.commit()`. -/
def commit : Work PUnit := do
  if load.accepts (← get).view then modify Store.saved
  else throw ⟨.otherException, "IntegrityError"⟩

/-- `_last_background_jobs_id`. -/
def lastBackgroundJobsId (data : OdbcReply) : Except Failure Int :=
  match data.error with
  | some error => .error ⟨.valueError, error⟩
  | none => firstId data

/-- `_prune`. -/
def prune : Work PUnit := do
  let data ← load.maximum.ask Store.saved
  let maxid ← settle (lastBackgroundJobsId data)
  modify fun store => store.pruned load.envid maxid

/-- `event_control.gen`. -/
def gen (sent : Sent) : Work PUnit :=
  match load.control.gen sent with
  | .skipped => pure ⟨⟩
  | .raised failure => throw failure
  | .incomplete failure => do
    modify Store.saved
    throw failure
  | .generated raises => do
    modify fun store => store.saved.sending sent
    match raises with
    | none => pure ⟨⟩
    | some failure => throw failure

/-- `extract_archive.add`. -/
def archive (entry : Entry) : Work PUnit :=
  match load.control.archive entry with
  | .unneeded => pure ⟨⟩
  | .refused failure => throw failure
  | .added => modify fun store => { store.saved with archived := store.archived ++ [entry] }

/-- `_eventgen`. The item that is looked up for the texts is found by the arguments. -/
def eventgen (key : JobEvent) (entry : Entry) : Work PUnit := do
  if isArchived entry.job ∧ entry.job.args = none then
    throw ⟨.attributeError, "'NoneType' object has no attribute 'split'"⟩
  if key = .ok then load.archive entry
  load.gen ⟨key, entry⟩

/-- Send an alert that is due and note it. -/
def notify (entry : Entry) : Option JobEvent → Work Entry
  | none => pure entry
  | some key => do
    load.eventgen key entry
    modify fun store => store.put (entry.noting key)
    return entry.noting key

/-- `_check_start_delay`. -/
def checkStartDelay (now : DbNow) (entry : Entry) : Work Entry := do
  load.notify entry (← settle (dueDelay load.control now entry))

/-- `_check_duration_exceeded`. -/
def checkDurationExceeded (now : DbNow) (entry : Entry) : Work Entry := do
  load.notify entry (← settle (dueDuration load.control now entry))

/-- `_check_finished`. -/
def checkFinished (entry : Entry) : Work PUnit :=
  match outcomeKey entry with
  | none => pure ⟨⟩
  | some key => load.eventgen key entry

/-- `_process`. -/
def process (now : DbNow) (entry : Entry) : Work PUnit := do
  let checked ←
    if entry.job.startedAt = none then load.checkStartDelay now entry
    else load.checkDurationExceeded now entry
  load.checkFinished checked

/-- Write a row, examine it and commit. -/
def examine (now : DbNow) (entry : Entry) : Work PUnit := do
  modify fun store => store.put entry
  load.process now entry
  load.commit

/-- Store a job and examine it. -/
def storeJob (now : DbNow) (job : Job) : Work PUnit := do
  load.examine now ((← get).entryOf load.envid job)

/-- The stored rows, of all environments, whose progress is known and not complete. -/
def unfinished (rows : List Entry) : List Entry :=
  rows.filter fun entry => entry.job.progress ≠ none ∧ entry.job.progress ≠ some 100

/-- Examine a row again. It is the session's own row, so what was noted is as it stands now. -/
def examineAgain (now : DbNow) (row : Entry) : Work PUnit := do
  load.examine now ((← get).entryOf row.envid row.job)

/-- `_check_existing_unfinished`. -/
def checkExistingUnfinished : Work PUnit := do
  let rows := unfinished (← get).view
  let data ← load.nowAgain.ask Store.saved
  let now ← settle (getDbNowUtc load.clock data)
  rows.forM (load.examineAgain now)

/-- `ODBC.load`: all rows are converted first. -/
def convertAll : List RemoteJob → Except Failure (List Job)
  | [] => .ok []
  | row :: rest => do
    match row.raises with
    | some failure => .error failure
    | none => return row.job :: (← convertAll rest)

/-- The load after its prune. -/
def takeJobs : Work LoadReply := do
  match ← load.jobs.ask Store.saved with
  | .error message => pure (.failure message)
  | .missing => pure .noRows
  | .rows schema rows => do
    let data ← load.now.ask Store.saved
    let now ← settle (getDbNowUtc load.clock data)
    if schema = false then throw ⟨.keyError, "$schema"⟩
    let jobs ← settle (convertAll rows)
    jobs.forM (load.storeJob now)
    load.checkExistingUnfinished
    pure (.ok rows.length)

/-- `ExtractManager.load`. -/
def run : Work LoadReply :=
  if load.busy then pure (.failure "extracts: busy")
  else if load.odbcOk = false then pure (.failure "Cannot run command while in state")
  else do
    match ← attempt (fun failure => failure.kind = .valueError) load.prune with
    | .error failure =>
      pure (.failure ("max background job retrieval failed: " ++ failure.message))
    | .ok _ => load.takeJobs

/-- The outcome of a load in a new session, and the table once its command has ended. -/
def perform (store : Store) : Except Failure LoadReply × Store :=
  let outcome := load.run.run.run store.undone
  (outcome.1, outcome.2.undone)

end Load

end Palette.Jobs
