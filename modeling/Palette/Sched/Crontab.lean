import Palette.Commands.Reply
import Palette.Foundation.Words

/-!
# The table of scheduled jobs

A job has a cron expression of five texts. A step `X/Y` in the field of the minutes or the hours
is written out as a list before the expression is read, by a loop that adds `Y` until the limit of
the field is reached. It does not end if nothing is added, and what it writes is empty if it starts
at the limit.

An hour that is a number is moved when the job is added, by the hours between the clock of the
controller and the one of UTC, and moved back when jobs are listed.
-/

namespace Palette.Sched

open Palette.Commands (digitsValue)
open Palette.Foundation.Words

/-- A byte string. -/
abbrev Text := List Char

/-- `str()` of a number. -/
def decimal (number : Nat) : Text := Nat.toDigits 10 number

/-- The characters at which `split()` cuts. -/
def isSpace (char : Char) : Bool := char ∈ [' ', '\t', '\n', '\r', '\x0b', '\x0c']

/-- The columns of a job that make up its expression. -/
structure Crontab where
  minute : Text
  hour : Text
  dayOfMonth : Text
  month : Text
  dayOfWeek : Text
  deriving DecidableEq, Repr

namespace Crontab

/-! ## Steps -/

/-- Digits at the end, where a pattern ends before a last newline, too. -/
def lastDigits (text : Text) : Option Nat :=
  digitsValue (if text.getLast? = some '\n' then text.dropLast else text)

/-- The match of `slash_re`, with both numbers. -/
def slashMatch (text : Text) : Option (Nat × Nat) :=
  match text.dropWhile (· ≠ '/') with
  | [] => none
  | _ :: after => do
    let xvar ← digitsValue (text.takeWhile (· ≠ '/'))
    let yvar ← lastDigits after
    return (xvar, yvar)

/-- One number more in the list. -/
def listed (retval : Text) (xvar : Nat) : Text :=
  (if retval = [] then retval else retval ++ [',']) ++ decimal xvar

/-- The loop of `commafy`. It returns nothing while the fuel does not suffice. -/
def commafyLoop (maxval yvar : Nat) : Nat → Nat → Text → Option Text
  | 0, _, _ => none
  | fuel + 1, xvar, retval =>
    if xvar < maxval then commafyLoop maxval yvar fuel (xvar + yvar) (listed retval xvar)
    else some retval

/-- `commafy`. -/
def commafy (fuel : Nat) (text : Text) (maxval : Nat) : Option Text :=
  match slashMatch text with
  | none => some text
  | some (xvar, yvar) => commafyLoop maxval yvar fuel xvar []

/-- The fields of the expression. -/
def fields (fuel : Nat) (entry : Crontab) : Option (List Text) := do
  let minute ← commafy fuel entry.minute 60
  let hour ← commafy fuel entry.hour 24
  return [minute, hour, entry.dayOfMonth, entry.month, entry.dayOfWeek]

/-- `expr`. -/
def expr (fuel : Nat) (entry : Crontab) : Option Text :=
  (entry.fields fuel).map [' '].intercalate

end Crontab

/-! ## Adding and listing jobs -/

/-- What `_utc_ahead` returns, from the hours of the two clocks. -/
def utcAhead (utcHour localHour : Nat) : Nat := (utcHour + 24 - localHour) % 24

/-- The hour that `add_cron_job` stores. -/
def storedHour (ahead : Nat) (hour : Text) : Text :=
  match digitsValue hour with
  | some number => decimal ((number + ahead) % 24)
  | none => hour

/-- The row that `add_cron_job` stores. -/
def addCronJob (ahead : Nat) (minute hour dayOfMonth month dayOfWeek : Text) : Crontab where
  minute := minute
  hour := storedHour ahead hour
  dayOfMonth := dayOfMonth
  month := month
  dayOfWeek := dayOfWeek

/-- The hour that `status` shows for a job. -/
def statusHour (ahead : Nat) (entry : Crontab) : Text :=
  match digitsValue entry.hour with
  | some number => decimal ((number + 24 - ahead) % 24)
  | none => entry.hour

end Palette.Sched
