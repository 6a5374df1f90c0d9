import Palette.Foundation.Recurrence
import Palette.Sched.Crontab

/-!
# The local time of a job

A job is entered with an hour of the controller's clock and is compared with the clock of UTC. The
hour is moved by the difference between the hours that the two clocks show when the job is added,
and only the hour: the minute stays, and so do the fields for the days. When jobs are listed it is
moved back by the difference at that time.

Times are minutes. Local time is ahead of UTC by a fixed number of minutes. How the fields of a
cron expression are read is a parameter; a number as the hour means this hour.
-/

namespace Palette.Sched

open Palette.Commands (digitsValue digitsValue_toDigits toDigits_injective)
open Palette.Foundation.Recurrence

/-- How cron reads the fields of an expression: which minutes and hours they accept, and which
days, counted from some day on, the fields for days accept together. -/
structure Reading where
  minute : Text → Int → Prop
  hour : Text → Int → Prop
  day : Text → Text → Text → Int → Prop
  hour_number : ∀ text number, digitsValue text = some number →
    ∀ value : Int, hour text value ↔ value = number

/-- An expression fires when a clock shows a time. -/
def Reading.Fires (reading : Reading) (entry : Crontab) (clock : Int) : Prop :=
  reading.minute entry.minute (clock % 60) ∧ reading.hour entry.hour (clock % 1440 / 60) ∧
    reading.day entry.dayOfMonth entry.month entry.dayOfWeek (clock / 1440)

/-- The hour that a clock shows. -/
def hourOf (clock : Int) : Nat := (clock % 1440 / 60).toNat

/-- The moments at which the clock of the controller and the clock of UTC are read. -/
structure Moments where
  localAt : Int
  utcAt : Int

/-- `_utc_ahead`, with the moments at which it reads the clocks. -/
def Moments.ahead (moments : Moments) (offset : Int) : Nat :=
  utcAhead (hourOf moments.utcAt) (hourOf (moments.localAt + offset))

/-- The row that is stored for an entered expression. -/
def stored (ahead : Nat) (entered : Crontab) : Crontab :=
  addCronJob ahead entered.minute entered.hour entered.dayOfMonth entered.month entered.dayOfWeek

/-- A job runs at the entered local time, and the entered hour is reported. -/
structure RunsLocally (reading : Reading) (offset : Int) (added queried : Moments)
    (entered : Crontab) (hour : Nat) : Prop where
  fires : ∀ instant, reading.Fires (stored (added.ahead offset) entered) instant ↔
    reading.Fires entered (instant + offset)
  reported : statusHour (queried.ahead offset) (stored (added.ahead offset) entered) = decimal hour

/-- The hours between the readings of the two clocks. -/
def Moments.hoursApart (moments : Moments) (offset : Int) : Int :=
  (moments.utcAt / 60 - (moments.localAt + offset) / 60) % 24

/-- The fields for minutes and days accept something. -/
def Reading.Recurs (reading : Reading) (entry : Crontab) : Prop :=
  (∃ minute, 0 ≤ minute ∧ minute < 60 ∧ reading.minute entry.minute minute) ∧
    ∃ day, reading.day entry.dayOfMonth entry.month entry.dayOfWeek day

/-- The hour is one of a day and the clocks are as many hours apart when the job is added as when
it is queried. If the job ever runs, the offset is whole hours, the clocks are read in the same
hour when it is added, and the fields for days accept a day exactly if they accept the one that it
is then by UTC. -/
structure KeepsTime (reading : Reading) (offset : Int) (added queried : Moments) (entered : Crontab)
    (hour : Nat) : Prop where
  inDay : hour < 24
  apart : added.hoursApart offset = queried.hoursApart offset
  moves : reading.Recurs entered → 60 ∣ offset ∧ 24 ∣ added.utcAt / 60 - added.localAt / 60 ∧
    ∀ day, reading.day entered.dayOfMonth entered.month entered.dayOfWeek
        (day + (60 * hour - offset) / 1440) ↔
      reading.day entered.dayOfMonth entered.month entered.dayOfWeek day

section Shifting

variable {reading : Reading} {offset : Int} {added queried moments : Moments} {entered : Crontab}
  {hour : Nat}

/-- The difference of the hours is what the clocks are apart. -/
theorem ahead_eq : (moments.ahead offset : Int) = moments.hoursApart offset := by
  unfold Moments.ahead utcAhead hourOf Moments.hoursApart
  omega

theorem ahead_lt : moments.ahead offset < 24 := Nat.mod_lt _ (by decide)

/-- The stored hour is moved ahead. -/
theorem digitsValue_stored (read : digitsValue entered.hour = some hour) (ahead : Nat) :
    digitsValue (stored ahead entered).hour = some ((hour + ahead) % 24) := by
  simp only [stored, addCronJob, storedHour, read]
  exact digitsValue_toDigits _

/-- The entered hour is reported exactly if it is one of a day and the clocks are as far apart as
they were. -/
theorem reported_iff (read : digitsValue entered.hour = some hour) :
    statusHour (queried.ahead offset) (stored (added.ahead offset) entered) = decimal hour ↔
      hour < 24 ∧ added.hoursApart offset = queried.hoursApart offset := by
  have addedLess : added.ahead offset < 24 := ahead_lt
  have queriedLess : queried.ahead offset < 24 := ahead_lt
  rw [statusHour, digitsValue_stored read, ← ahead_eq, ← ahead_eq]
  constructor
  · intro same
    have back := toDigits_injective same
    omega
  · rintro ⟨inDay, apart⟩
    refine congrArg decimal ?_
    omega

/-- The days and the minutes that an expression accepts. -/
def acceptedDay (reading : Reading) (entry : Crontab) : Int → Prop :=
  reading.day entry.dayOfMonth entry.month entry.dayOfWeek

def acceptedMinute (reading : Reading) (entry : Crontab) (minute : Int) : Prop :=
  (0 ≤ minute ∧ minute < 60) ∧ reading.minute entry.minute minute

/-- An expression with one hour fires at what recurs after that hour. -/
theorem fires_iff {entry : Crontab} (read : digitsValue entry.hour = some hour)
    (within : hour < 24) (clock : Int) :
    reading.Fires entry clock ↔
      Recurs 1440 (acceptedDay reading entry) (acceptedMinute reading entry)
        (clock - 60 * hour) := by
  rw [Reading.Fires, reading.hour_number _ _ read, Recurs, acceptedDay, acceptedMinute]
  by_cases same : clock % 1440 / 60 = hour
  · have day : (clock - 60 * hour) / 1440 = clock / 1440 := by omega
    have minute : (clock - 60 * hour) % 1440 = clock % 60 := by omega
    have inWindow : 0 ≤ clock % 60 ∧ clock % 60 < 60 := by omega
    rw [day, minute]
    tauto
  · have outside : ¬ ((0 ≤ (clock - 60 * hour) % 1440 ∧ (clock - 60 * hour) % 1440 < 60)) := by
      omega
    tauto

/-- The time between the entered hour and the stored one, beyond what local time is ahead. -/
def hourShift (ahead hour : Nat) (offset : Int) : Int :=
  60 * ((hour + ahead) % 24 : Nat) + offset - 60 * hour

/-- This is whole days exactly if local time is ahead by whole hours and both clocks are read in the
same hour. -/
theorem dvd_hourShift_iff : 1440 ∣ hourShift (added.ahead offset) hour offset ↔
    60 ∣ offset ∧ 24 ∣ added.utcAt / 60 - added.localAt / 60 := by
  have ahead : (added.ahead offset : Int) = added.hoursApart offset := ahead_eq
  unfold Moments.hoursApart at ahead
  unfold hourShift
  omega

/-- Whole days between the entered hour and the stored one are those between the local date and
the date by UTC. -/
theorem hourShift_ediv {ahead : Nat} (whole : 1440 ∣ hourShift ahead hour offset) :
    hourShift ahead hour offset / 1440 = -((60 * hour - offset) / 1440) := by
  unfold hourShift at *
  omega

/-- The stored expression fires as entered exactly if what recurs is kept by a shift. -/
theorem fires_stored_iff (read : digitsValue entered.hour = some hour) (inDay : hour < 24) :
    (∀ instant, reading.Fires (stored (added.ahead offset) entered) instant ↔
      reading.Fires entered (instant + offset)) ↔
    (reading.Recurs entered → 60 ∣ offset ∧ 24 ∣ added.utcAt / 60 - added.localAt / 60 ∧
      ∀ day, reading.day entered.dayOfMonth entered.month entered.dayOfWeek
          (day + (60 * hour - offset) / 1440) ↔
        reading.day entered.dayOfMonth entered.month entered.dayOfWeek day) := by
  have moved : (∀ instant, reading.Fires (stored (added.ahead offset) entered) instant ↔
      reading.Fires entered (instant + offset)) ↔
      ∀ time, Recurs 1440 (acceptedDay reading entered) (acceptedMinute reading entered)
          (time + hourShift (added.ahead offset) hour offset) ↔
        Recurs 1440 (acceptedDay reading entered) (acceptedMinute reading entered) time := by
    have storedFires (instant : Int) : reading.Fires (stored (added.ahead offset) entered) instant ↔
        Recurs 1440 (acceptedDay reading entered) (acceptedMinute reading entered)
          (instant - 60 * ((hour + added.ahead offset) % 24 : Nat)) :=
      fires_iff (digitsValue_stored read (added.ahead offset)) (Nat.mod_lt _ (by decide)) instant
    have enteredFires (instant : Int) : reading.Fires entered (instant + offset) ↔
        Recurs 1440 (acceptedDay reading entered) (acceptedMinute reading entered)
          (instant + offset - 60 * hour) :=
      fires_iff read inDay (instant + offset)
    constructor
    · intro same time
      have here := same (time + 60 * ((hour + added.ahead offset) % 24 : Nat))
      rw [storedFires, enteredFires, Int.add_sub_cancel] at here
      have place : time + 60 * ((hour + added.ahead offset) % 24 : Nat) + offset - 60 * hour =
          time + hourShift (added.ahead offset) hour offset := by
        unfold hourShift
        omega
      rw [place] at here
      exact here.symm
    · intro kept instant
      have here := kept (instant - 60 * ((hour + added.ahead offset) % 24 : Nat))
      have place : instant - 60 * ((hour + added.ahead offset) % 24 : Nat) +
          hourShift (added.ahead offset) hour offset = instant + offset - 60 * hour := by
        unfold hourShift
        omega
      rw [place] at here
      rw [storedFires, enteredFires]
      exact here.symm
  rw [moved]
  by_cases recurs : reading.Recurs entered
  · obtain ⟨⟨minute, notNegative, below, accepted⟩, someDay⟩ := recurs
    have inWindow : ∀ offset, acceptedMinute reading entered offset → 0 ≤ offset ∧ offset < 60 :=
      fun offset accepted => accepted.1
    have whole : (∀ time, Recurs 1440 (acceptedDay reading entered)
          (acceptedMinute reading entered) (time + hourShift (added.ahead offset) hour offset) ↔
        Recurs 1440 (acceptedDay reading entered) (acceptedMinute reading entered) time) ↔
        1440 ∣ hourShift (added.ahead offset) hour offset ∧
          ∀ day, acceptedDay reading entered
              (day + hourShift (added.ahead offset) hour offset / 1440) ↔
            acceptedDay reading entered day :=
      shifted_iff inWindow (by decide) someDay ⟨minute, ⟨notNegative, below⟩, accepted⟩
    rw [whole]
    constructor
    · rintro ⟨days, same⟩ -
      obtain ⟨hours, readings⟩ := dvd_hourShift_iff.mp days
      refine ⟨hours, readings, fun day => ?_⟩
      have back := same (day + (60 * hour - offset) / 1440)
      rw [hourShift_ediv days, Int.add_neg_cancel_right] at back
      exact back.symm
    · intro moves
      obtain ⟨hours, readings, same⟩ := moves ⟨⟨minute, notNegative, below, accepted⟩, someDay⟩
      have days : 1440 ∣ hourShift (added.ahead offset) hour offset :=
        dvd_hourShift_iff.mpr ⟨hours, readings⟩
      refine ⟨days, fun day => ?_⟩
      have back := same (day + -((60 * hour - offset) / 1440))
      rw [Int.neg_add_cancel_right] at back
      rw [hourShift_ediv days]
      exact back.symm
  · refine iff_of_true (fun time => ?_) fun ever => absurd ever recurs
    have never (clock : Int) : ¬ Recurs 1440 (acceptedDay reading entered)
        (acceptedMinute reading entered) clock := fun there =>
      recurs ⟨⟨_, there.2.1.1, there.2.1.2, there.2.2⟩, _, there.1⟩
    exact iff_of_false (never _) (never _)

/-- A job with a numeric hour runs at the entered local time and is reported with the entered hour
exactly under these conditions. -/
theorem runs_locally_iff (read : digitsValue entered.hour = some hour) :
    RunsLocally reading offset added queried entered hour ↔
      KeepsTime reading offset added queried entered hour := by
  constructor
  · rintro ⟨fires, reported⟩
    obtain ⟨inDay, apart⟩ := (reported_iff read).mp reported
    exact ⟨inDay, apart, (fires_stored_iff read inDay).mp fires⟩
  · rintro ⟨inDay, apart, moves⟩
    exact ⟨(fires_stored_iff read inDay).mpr moves, (reported_iff read).mpr ⟨inDay, apart⟩⟩

end Shifting

/-! ## Examples -/

/-- A star accepts everything, and a number accepts itself. -/
def acceptsNumber (text : Text) (value : Int) : Prop :=
  text = ['*'] ∨ ∃ number : Nat, digitsValue text = some number ∧ value = number

/-- A number accepts nothing else. -/
theorem acceptsNumber_iff {text : Text} {number : Nat} (read : digitsValue text = some number)
    (value : Int) : acceptsNumber text value ↔ value = number := by
  constructor
  · rintro (rfl | ⟨other, again, same⟩)
    · have none : digitsValue ['*'] = none := by decide
      rw [none] at read
      cases read
    · rw [read, Option.some.injEq] at again
      rw [same, again]
  · intro same
    exact .inr ⟨number, read, same⟩

/-- Expressions of numbers and stars that choose days by the day of the week. The day from which
days are counted is a Thursday. -/
def weekly : Reading where
  minute := acceptsNumber
  hour := acceptsNumber
  day dayOfMonth month dayOfWeek day :=
    dayOfMonth = ['*'] ∧ month = ['*'] ∧ acceptsNumber dayOfWeek ((day + 4) % 7)
  hour_number _ _ read value := acceptsNumber_iff read value

/-- Every day at nine. -/
def atNine : Crontab := ⟨['0'], ['9'], ['*'], ['*'], ['*']⟩

/-- On Mondays at ten in the evening. -/
def mondayEvening : Crontab := ⟨['0'], ['2', '2'], ['*'], ['*'], ['1']⟩

/-- Five hours behind UTC a job runs every day at the entered hour. -/
theorem at_nine_runs_locally :
    digitsValue atNine.hour = some 9 ∧ KeepsTime weekly (-300) ⟨0, 0⟩ ⟨1000, 1000⟩ atNine 9 ∧
      RunsLocally weekly (-300) ⟨0, 0⟩ ⟨1000, 1000⟩ atNine 9 := by
  have read : digitsValue atNine.hour = some 9 := by decide
  have keeps : KeepsTime weekly (-300) ⟨0, 0⟩ ⟨1000, 1000⟩ atNine 9 := by
    refine ⟨by decide, by decide, fun _ => ⟨by decide, by decide, fun day => ?_⟩⟩
    exact iff_of_true ⟨rfl, rfl, .inl rfl⟩ ⟨rfl, rfl, .inl rfl⟩
  exact ⟨read, keeps, (runs_locally_iff read).mpr keeps⟩

/-- Five and a half hours ahead of UTC a job of nine o'clock does not run then. Five hours behind
UTC a job of Monday evening does not run on Monday evening, which is Tuesday by UTC. -/
theorem half_hour_and_weekday_missed :
    (¬ RunsLocally weekly 330 ⟨0, 0⟩ ⟨0, 0⟩ atNine 9) ∧
      ¬ RunsLocally weekly (-300) ⟨0, 0⟩ ⟨0, 0⟩ mondayEvening 22 := by
  constructor
  · rintro ⟨fires, -⟩
    have entered : weekly.Fires atNine (210 + 330) :=
      ⟨.inr ⟨0, by decide, by decide⟩, .inr ⟨9, by decide, by decide⟩, rfl, rfl, .inl rfl⟩
    obtain ⟨minute, -⟩ := (fires 210).mpr entered
    have onTheHour := (acceptsNumber_iff (by decide : digitsValue atNine.minute = some 0) _).mp minute
    revert onTheHour
    decide
  · rintro ⟨fires, -⟩
    have entered : weekly.Fires mondayEvening (7380 + -300) :=
      ⟨.inr ⟨0, by decide, by decide⟩, .inr ⟨22, by decide, by decide⟩, rfl, rfl,
        .inr ⟨1, by decide, by decide⟩⟩
    obtain ⟨-, -, -, -, weekday⟩ := (fires 7380).mpr entered
    have monday := (acceptsNumber_iff (by decide : digitsValue mondayEvening.dayOfWeek = some 1) _).mp weekday
    revert monday
    decide

end Palette.Sched
