import Mathlib

/-!
# Days and moments of the calendar

A date is a day of a month of a year, and a moment is a time of such a day, in the calendar that
leaves out the leap day in three of four centuries. Days and seconds are numbered one after the
other, and these numbers order dates and moments as the calendar does: a later month has greater
numbers for all its days.
-/

namespace Palette.Foundation.Calendar

/-! ## Months and years -/

/-- A year with a leap day. -/
def isLeap (year : Nat) : Bool :=
  year % 400 = 0 || (year % 4 = 0 && year % 100 ≠ 0)

/-- The days of a month. -/
def monthLength (year month : Nat) : Nat :=
  if month = 2 then (if isLeap year then 29 else 28)
  else if month = 4 ∨ month = 6 ∨ month = 9 ∨ month = 11 then 30 else 31

/-- The days before a year. -/
def daysBeforeYear (year : Nat) : Nat :=
  365 * year + (year + 3) / 4 - (year + 99) / 100 + (year + 399) / 400

/-- The days of the first months of a year. -/
def daysOfMonths (year : Nat) : Nat → Nat
  | 0 => 0
  | months + 1 => daysOfMonths year months + monthLength year (months + 1)

/-- The days before a month, where months are numbered through all years. -/
def daysBefore (months : Nat) : Nat :=
  daysBeforeYear (months / 12) + daysOfMonths (months / 12) (months % 12)

/-- A month has at least 28 days. -/
theorem le_monthLength (year month : Nat) : 28 ≤ monthLength year month := by
  unfold monthLength
  split_ifs <;> decide

/-- A month has at most 31 days. -/
theorem monthLength_le (year month : Nat) : monthLength year month ≤ 31 := by
  unfold monthLength
  split_ifs <;> decide

/-- Only February has less than 30 days. -/
theorem month_of_short {year month : Nat} (short : monthLength year month < 30) : month = 2 := by
  unfold monthLength at short
  split_ifs at short <;> first | assumption | omega

/-- All months of a year together. -/
theorem daysOfMonths_twelve (year : Nat) :
    daysOfMonths year 12 = if isLeap year then 366 else 365 := by
  cases leap : isLeap year <;> simp [daysOfMonths, monthLength, leap]

/-- Every fourth year, say, there is one more. -/
theorem multiples_succ (period : Nat) (positive : 0 < period) (year : Nat) :
    (year + 1 + (period - 1)) / period =
      (year + (period - 1)) / period + if year % period = 0 then 1 else 0 := by
  have next : year + 1 + (period - 1) = year + (period - 1) + 1 := by omega
  have multiple : year + (period - 1) + 1 = year + period := by omega
  rw [next, Nat.succ_div, multiple]
  have same : period ∣ year + period ↔ year % period = 0 := by
    rw [Nat.dvd_add_self_right, Nat.dvd_iff_mod_eq_zero]
  simp only [same]

/-- The next year begins when all months of this one are over. -/
theorem daysBeforeYear_succ (year : Nat) :
    daysBeforeYear (year + 1) = daysBeforeYear year + daysOfMonths year 12 := by
  have fours := multiples_succ 4 (by decide) year
  have hundreds := multiples_succ 100 (by decide) year
  have fourHundreds := multiples_succ 400 (by decide) year
  have fewer : (year + 99) / 100 ≤ 365 * year := by omega
  have hundredOf : year % 400 = 0 → year % 100 = 0 := by omega
  have fourOf : year % 100 = 0 → year % 4 = 0 := by omega
  simp only [Nat.add_one_sub_one] at fours hundreds fourHundreds
  rw [daysOfMonths_twelve, daysBeforeYear, daysBeforeYear, fours, hundreds, fourHundreds]
  simp only [isLeap, Bool.or_eq_true, Bool.and_eq_true, decide_eq_true_eq]
  generalize (year + 3) / 4 = four
  generalize (year + 99) / 100 = hundred at *
  generalize (year + 399) / 400 = fourHundred
  split_ifs <;> omega

/-- The next month begins when this one is over. -/
theorem daysBefore_succ (months : Nat) :
    daysBefore (months + 1) = daysBefore months + monthLength (months / 12) (months % 12 + 1) := by
  unfold daysBefore
  by_cases last : months % 12 = 11
  · have year : (months + 1) / 12 = months / 12 + 1 := by omega
    have month : (months + 1) % 12 = 0 := by omega
    rw [year, month, last, daysBeforeYear_succ, daysOfMonths, daysOfMonths]
    omega
  · have year : (months + 1) / 12 = months / 12 := by omega
    have month : (months + 1) % 12 = months % 12 + 1 := by omega
    rw [year, month, daysOfMonths, Nat.add_assoc]

/-- A later month begins later. -/
theorem daysBefore_mono {months later : Nat} (le : months ≤ later) :
    daysBefore months ≤ daysBefore later := by
  induction later, le using Nat.le_induction with
  | base => exact Nat.le_refl _
  | succ later _ inductionHypothesis =>
    rw [daysBefore_succ]
    exact Nat.le_add_right_of_le inductionHypothesis

/-! ## Dates -/

/-- A day of a month that there is. -/
@[ext]
structure Date where
  year : Nat
  month : Nat
  day : Nat
  firstMonth : 1 ≤ month
  lastMonth : month ≤ 12
  firstDay : 1 ≤ day
  lastDay : day ≤ monthLength year month
  deriving DecidableEq

namespace Date

/-- The number of the month of a date. -/
def months (date : Date) : Nat := 12 * date.year + (date.month - 1)

/-- The number of a date. -/
def number (date : Date) : Nat := daysBefore date.months + date.day

/-- The day of the week, where Sunday is 0. -/
def weekday (date : Date) : Nat := (date.number + 5) % 7

/-- The first day of a month. -/
def firstOf (months : Nat) : Date where
  year := months / 12
  month := months % 12 + 1
  day := 1
  firstMonth := Nat.le_add_left 1 _
  lastMonth := Nat.mod_lt months (by decide)
  firstDay := Nat.le_refl 1
  lastDay := Nat.le_trans (by decide) (le_monthLength _ _)

/-- The day after a date. -/
def tomorrow (date : Date) : Date :=
  if inside : date.day < monthLength date.year date.month then
    { date with day := date.day + 1, firstDay := Nat.le_add_left 1 _, lastDay := inside }
  else firstOf (date.months + 1)

/-- The day before a date. -/
def yesterday (date : Date) : Date :=
  if inside : 1 < date.day then
    { date with
      day := date.day - 1
      firstDay := Nat.le_sub_one_of_lt inside
      lastDay := Nat.le_trans (Nat.sub_le _ _) date.lastDay }
  else
    { firstOf (date.months - 1) with
      day := monthLength ((date.months - 1) / 12) ((date.months - 1) % 12 + 1)
      firstDay := Nat.le_trans (by decide) (le_monthLength _ _)
      lastDay := Nat.le_refl _ }

/-- The date that is a number of days away. -/
def shift (date : Date) : Int → Date
  | .ofNat days => tomorrow^[days] date
  | .negSucc days => yesterday^[days + 1] date

variable {date other : Date}

@[simp]
theorem months_div (date : Date) : date.months / 12 = date.year := by
  have := date.firstMonth
  have := date.lastMonth
  unfold months
  omega

@[simp]
theorem months_mod (date : Date) : date.months % 12 + 1 = date.month := by
  have := date.firstMonth
  have := date.lastMonth
  unfold months
  omega

@[simp]
theorem months_firstOf (months : Nat) : (firstOf months).months = months := by
  simp only [Date.months, firstOf, Nat.add_sub_cancel]
  exact Nat.div_add_mod months 12

/-- The months of a date end after it. -/
theorem number_le (date : Date) : date.number ≤ daysBefore (date.months + 1) := by
  rw [daysBefore_succ, months_div, months_mod, number]
  exact Nat.add_le_add_left date.lastDay _

/-- All dates of a later month have greater numbers. -/
theorem number_lt_of_months_lt (earlier : date.months < other.months) :
    date.number < other.number :=
  calc date.number ≤ daysBefore (date.months + 1) := date.number_le
    _ ≤ daysBefore other.months := daysBefore_mono earlier
    _ < daysBefore other.months + other.day := Nat.lt_add_of_pos_right other.firstDay

/-- The number of a date is at most the one of another date only if its month is. -/
theorem months_le_of_number_le (le : date.number ≤ other.number) : date.months ≤ other.months := by
  by_contra later
  exact Nat.not_lt_of_le le (number_lt_of_months_lt (Nat.lt_of_not_le later))

/-- In one month, dates are as far apart as their days. -/
theorem number_of_months_eq (same : date.months = other.months) :
    date.number + other.day = other.number + date.day := by
  unfold number
  rw [same]
  omega

/-- The year and the month are in the number of the month. -/
theorem ext_months (same : date.months = other.months) (day : date.day = other.day) :
    date = other := by
  have year : date.year = other.year := by rw [← months_div date, same, months_div]
  have month : date.month = other.month := by rw [← months_mod date, same, months_mod]
  exact Date.ext year month day

/-- Dates have different numbers. -/
theorem number_injective : Function.Injective number := by
  intro date other same
  have months : date.months = other.months :=
    Nat.le_antisymm (months_le_of_number_le same.le) (months_le_of_number_le same.ge)
  have days := number_of_months_eq months
  exact ext_months months (by omega)

/-- The next day has the next number. -/
theorem number_tomorrow (date : Date) : date.tomorrow.number = date.number + 1 := by
  unfold tomorrow
  split
  · rfl
  · rename_i outside
    have last : date.day = monthLength date.year date.month :=
      Nat.le_antisymm date.lastDay (Nat.le_of_not_lt outside)
    rw [number, months_firstOf, daysBefore_succ, months_div, months_mod, ← last]
    rfl

/-- A later date has a number that is greater by the days between. -/
theorem number_shift (date : Date) (days : Nat) : (date.shift days).number = date.number + days := by
  change (tomorrow^[days] date).number = _
  induction days with
  | zero => rfl
  | succ days inductionHypothesis =>
    rw [Function.iterate_succ_apply', number_tomorrow, inductionHypothesis, Nat.add_assoc]

/-- A date that is some days later is in the same month, in the next one, or in the one behind that
one if the next one is short. -/
theorem months_of_later {days : Nat} (later : other.number = date.number + days)
    (near : date.day + days ≤ monthLength date.year date.month + 56) :
    (other.months = date.months ∧ other.day = date.day + days) ∨
      (other.months = date.months + 1 ∧
        other.day + monthLength date.year date.month = date.day + days) ∨
      ∃ length, 28 ≤ length ∧ other.months = date.months + 2 ∧
        other.day + length + monthLength date.year date.month = date.day + days := by
  have ordered : date.months ≤ other.months := months_le_of_number_le (by omega)
  have first := daysBefore_succ date.months
  have second : daysBefore (date.months + 2) = _ := daysBefore_succ (date.months + 1)
  have third : daysBefore (date.months + 3) = _ := daysBefore_succ (date.months + 2)
  have secondLong := le_monthLength ((date.months + 1) / 12) ((date.months + 1) % 12 + 1)
  have thirdLong := le_monthLength ((date.months + 2) / 12) ((date.months + 2) % 12 + 1)
  have positive := other.firstDay
  rw [months_div, months_mod] at first
  unfold number at later
  rcases Nat.lt_or_ge other.months (date.months + 3) with soon | far
  · obtain same | same | same : other.months = date.months ∨ other.months = date.months + 1 ∨
        other.months = date.months + 2 := by omega
    · rw [same] at later
      exact .inl ⟨same, by omega⟩
    · rw [same] at later
      exact .inr (.inl ⟨same, by omega⟩)
    · rw [same] at later
      exact .inr (.inr ⟨_, secondLong, same, by omega⟩)
  · have begins := daysBefore_mono far
    omega

/-- The first day of a month is before all its other days. -/
theorem number_firstOf_le {months : Nat} (le : months ≤ date.months) :
    (firstOf months).number ≤ date.number := by
  have begins := daysBefore_mono le
  have positive := date.firstDay
  rw [number, months_firstOf, number]
  simp only [firstOf]
  omega

end Date

/-! ## Moments -/

/-- A time of a day. -/
@[ext]
structure Moment where
  date : Date
  hour : Fin 24
  minute : Fin 60
  second : Fin 60
  deriving DecidableEq

namespace Moment

/-- The seconds since the day began. -/
def secondOfDay (moment : Moment) : Nat :=
  3600 * moment.hour + 60 * moment.minute + moment.second

/-- The number of a second. -/
def clock (moment : Moment) : Nat := 86400 * moment.date.number + moment.secondOfDay

/-- The time of a day after a number of seconds of it. -/
def ofDay (date : Date) (seconds : Nat) : Moment where
  date := date
  hour := Fin.ofNat 24 (seconds / 3600)
  minute := Fin.ofNat 60 (seconds / 60)
  second := Fin.ofNat 60 seconds

/-- The beginning of a day. -/
abbrev midnight (date : Date) : Moment := ⟨date, 0, 0, 0⟩

/-- The beginning of the hour of a moment. -/
abbrev onHour (moment : Moment) : Moment := { moment with minute := 0, second := 0 }

/-- The beginning of the minute of a moment. -/
abbrev onMinute (moment : Moment) : Moment := { moment with second := 0 }

/-- A minute begins. -/
abbrev IsOnMinute (moment : Moment) : Prop := moment.second = 0

/-- The moment that is a number of seconds away. -/
def plus (moment : Moment) (seconds : Int) : Moment :=
  let total := moment.secondOfDay + seconds
  ofDay (moment.date.shift (total / 86400)) (total % 86400).toNat

variable {moment other : Moment}

theorem secondOfDay_lt (moment : Moment) : moment.secondOfDay < 86400 := by
  unfold secondOfDay
  omega

@[simp]
theorem secondOfDay_ofDay (date : Date) {seconds : Nat} (inside : seconds < 86400) :
    (ofDay date seconds).secondOfDay = seconds := by
  simp only [secondOfDay, ofDay, Fin.val_ofNat]
  omega

@[simp]
theorem clock_div_day (moment : Moment) : moment.clock / 86400 = moment.date.number := by
  have := moment.secondOfDay_lt
  unfold clock
  omega

/-- The number of a day, an hour or a minute is in the number of the second. -/
theorem clock_div_hour (moment : Moment) :
    moment.clock / 3600 = 24 * moment.date.number + moment.hour := by
  unfold clock secondOfDay
  omega

theorem clock_div_minute (moment : Moment) :
    moment.clock / 60 = 60 * (24 * moment.date.number + moment.hour) + moment.minute := by
  unfold clock secondOfDay
  omega

theorem clock_mod (moment : Moment) : moment.clock % 60 = moment.second := by
  unfold clock secondOfDay
  omega

theorem hour_eq (moment : Moment) : (moment.hour : Nat) = moment.clock / 3600 % 24 := by
  rw [clock_div_hour]
  omega

theorem minute_eq (moment : Moment) : (moment.minute : Nat) = moment.clock / 60 % 60 := by
  rw [clock_div_minute]
  omega

/-- A moment that is not later is not on a later day. -/
theorem number_le_of_clock_le (le : moment.clock ≤ other.clock) :
    moment.date.number ≤ other.date.number := by
  rw [← clock_div_day, ← clock_div_day]
  exact Nat.div_le_div_right le

/-- Moments have different numbers. -/
theorem clock_injective : Function.Injective clock := by
  intro moment other same
  have date : moment.date = other.date :=
    Date.number_injective (by rw [← clock_div_day, same, clock_div_day])
  have hour : moment.hour = other.hour := Fin.ext (by rw [hour_eq, same, hour_eq])
  have minute : moment.minute = other.minute := Fin.ext (by rw [minute_eq, same, minute_eq])
  have second : moment.second = other.second := Fin.ext (by rw [← clock_mod, same, clock_mod])
  exact Moment.ext date hour minute second

/-- A later moment has a number that is greater by the seconds between. -/
theorem clock_plus (moment : Moment) (seconds : Nat) :
    (moment.plus seconds).clock = moment.clock + seconds := by
  have quotient : ((moment.secondOfDay : Int) + seconds) / 86400 =
      ((moment.secondOfDay + seconds) / 86400 : Nat) := by
    push_cast
    rfl
  have remainder : (((moment.secondOfDay : Int) + seconds) % 86400).toNat =
      (moment.secondOfDay + seconds) % 86400 := by omega
  unfold plus clock
  dsimp only
  rw [quotient, remainder, secondOfDay_ofDay _ (Nat.mod_lt _ (by decide)), ofDay,
    Date.number_shift]
  omega

end Moment

end Palette.Foundation.Calendar
