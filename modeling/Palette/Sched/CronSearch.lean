import Palette.Sched.CronLeaps

/-!
# The search of an expression

No column leaps over a moment that is wanted, and so the search ends at the first wanted moment, or
runs out of the calendar if there is none. The columns for days and months set the time of the day
back to midnight. The columns for the time lead over midnight on the first day alone.
-/

namespace Palette.Sched.Croniter

open Palette.Foundation
open Palette.Foundation.Calendar
open Palette.Foundation.Leaping

variable {expanded : List (List Item)} {origin moment next : Moment}

/-! ## Days and the smallest unit -/

/-- The number of the day is in the number of the smallest unit. -/
theorem number_le_of_rank_le (le : rank expanded moment ≤ rank expanded next) :
    moment.date.number ≤ next.date.number := by
  rw [← Moment.clock_div_day, ← Moment.clock_div_day]
  unfold rank at le
  rcases offset_cases expanded with ⟨same, -⟩ | ⟨same, -⟩
  · rw [same] at le
    omega
  · rw [same] at le
    omega

/-- A moment of an earlier day comes before. -/
theorem rank_lt_of_number_lt (earlier : moment.date.number < next.date.number) :
    rank expanded moment < rank expanded next := by
  by_contra late
  have := number_le_of_rank_le (Nat.le_of_not_lt late)
  omega

/-- Midnight is before all times of its day. -/
theorem rank_midnight_le (date : Date) (same : moment.date = date) :
    rank expanded ⟨date, 0, 0, 0⟩ ≤ rank expanded moment := by
  refine Nat.div_le_div_right ?_
  simp only [Moment.clock, Moment.secondOfDay, same]
  omega

/-- The seconds of midnight. -/
theorem clock_midnight (date : Date) : (⟨date, 0, 0, 0⟩ : Moment).clock = 86400 * date.number := rfl

/-- Days added to midnight lead to midnight. -/
theorem plus_days (date : Date) (days : Nat) :
    (⟨date, 0, 0, 0⟩ : Moment).plus ((days : Int) * 86400) = ⟨date.shift days, 0, 0, 0⟩ := by
  have product : (days : Int) * 86400 = (days * 86400 : Nat) := by push_cast; rfl
  refine Moment.clock_injective ?_
  rw [product, Moment.clock_plus, clock_midnight, clock_midnight, Date.number_shift]
  ring

/-- A day that begins in the calendar is not before its first year. -/
theorem year_le (le : moment.date.number ≤ next.date.number) :
    moment.date.year ≤ next.date.year := by
  rw [← Date.months_div, ← Date.months_div]
  exact Nat.div_le_div_right (Date.months_le_of_number_le le)

/-! ## What is left of a day and of a month -/

/-- A column that is not restricted or lists numbers of its range admits one of them. -/
theorem exists_admitted {column : Column} {items : List Item} (plain : Plain column items)
    (ordered : column.low ≤ column.high) :
    ∃ value, column.low ≤ value ∧ value ≤ column.high ∧ Admits items value := by
  by_cases restricts : restricted items = true
  · obtain ⟨values, rfl, listed⟩ := plain restricts
    obtain ⟨value, member⟩ := List.exists_mem_of_ne_nil values listed.nonempty
    have bounds := listed.inRange value member
    exact ⟨value, bounds.1, by omega, fun _ => List.mem_map_of_mem member⟩
  · exact ⟨column.low, Nat.le_refl _, ordered, fun impossible => absurd impossible restricts⟩

/-- Each day has an admitted time. -/
theorem exists_time (plain : AllPlain expanded) (date : Date) :
    ∃ other : Moment, other.date = date ∧ AdmitsTime expanded other := by
  obtain ⟨hour, -, hourLess, hourAdmitted⟩ := exists_admitted plain.hour (by decide)
  obtain ⟨minute, -, minuteLess, minuteAdmitted⟩ := exists_admitted plain.minute (by decide)
  have hourInside : hour < 24 := Nat.lt_succ_of_le hourLess
  have minuteInside : minute < 60 := Nat.lt_succ_of_le minuteLess
  cases column : expanded[5]? with
  | none =>
    refine ⟨⟨date, ⟨hour, hourInside⟩, ⟨minute, minuteInside⟩, 0⟩, rfl, hourAdmitted,
      minuteAdmitted, fun toCheck member => ?_⟩
    rw [column] at member
    cases member
  | some toCheck =>
    obtain ⟨second, -, secondLess, secondAdmitted⟩ :=
      exists_admitted (plain.second toCheck column) (by decide)
    have secondInside : second < 60 := Nat.lt_succ_of_le secondLess
    refine ⟨⟨date, ⟨hour, hourInside⟩, ⟨minute, minuteInside⟩, ⟨second, secondInside⟩⟩, rfl,
      hourAdmitted, minuteAdmitted, fun other member => ?_⟩
    rw [column] at member
    cases member
    exact secondAdmitted

/-- A leap to midnight leaves all times of the day. -/
theorem timeLeft_midnight (plain : AllPlain expanded) (date : Date) :
    TimeLeft expanded origin ⟨date, 0, 0, 0⟩ := by
  obtain ⟨other, same, admits⟩ := exists_time plain date
  exact .inr ⟨other, same, admits, rank_midnight_le date same⟩

/-- A leap over times that are not admitted leaves something of a later day and of a later month. -/
theorem left_of_time (plain : AllPlain expanded)
    (restricts : restricted (columnAt expanded 2) = true)
    (left : TimeLeft expanded origin moment ∧ DayLeft expanded origin moment)
    (later : rank expanded moment < rank expanded next)
    (near : next.date.number ≤ moment.date.number + 1)
    (clear : Clear (rank expanded) (AdmitsTime expanded) moment next) :
    TimeLeft expanded origin next ∧ DayLeft expanded origin next := by
  have ordered := number_le_of_rank_le later.le
  by_cases same : next.date = moment.date
  · refine ⟨?_, ?_⟩
    · rcases left.1 with first | ⟨other, sameDay, admits, rest⟩
      · exact .inl (same.trans first)
      · refine .inr ⟨other, sameDay.trans same.symm, admits, ?_⟩
        by_contra missed
        exact clear other rest (Nat.lt_of_not_le missed) admits
    · unfold DayLeft
      rw [same]
      exact left.2
  · have tomorrow : next.date.number = moment.date.number + 1 := by
      have different : next.date.number ≠ moment.date.number :=
        fun equal => same (Date.number_injective equal)
      omega
    refine ⟨?_, ?_⟩
    · obtain ⟨other, sameDay, admits⟩ := exists_time plain next.date
      refine .inr ⟨other, sameDay, admits, ?_⟩
      by_contra missed
      refine clear other ?_ (Nat.lt_of_not_le missed) admits
      exact (rank_lt_of_number_lt (by rw [sameDay]; omega)).le
    · have first : moment.date = origin.date := by
        rcases left.1 with first | ⟨other, sameDay, admits, rest⟩
        · exact first
        · refine absurd admits (clear other rest (rank_lt_of_number_lt ?_))
          rw [sameDay]
          omega
      have inside := moment.date.lastDay
      rcases Date.months_of_later tomorrow (by omega) with
        ⟨months, -⟩ | ⟨-, day⟩ | ⟨length, long, -, day⟩
      · exact .inl (months.trans (by rw [first]))
      · obtain ⟨value, least, -, admits⟩ := exists_admitted plain.dayOfMonth (by decide)
        have one : (1 : Nat) ≤ value := least
        exact .inr ⟨value, admits restricts, by omega⟩
      · have positive := next.date.firstDay
        omega

/-! ## The columns of units -/

/-- A goal that a column may leap to. -/
structure Onward (expanded : List (List Item)) (origin moment goal : Moment) : Prop where
  later : rank expanded moment < rank expanded goal
  left : restricted (columnAt expanded 2) = true →
    TimeLeft expanded origin goal ∧ DayLeft expanded origin goal
  clear : Clear (rank expanded) (Sought expanded) moment goal
  start : ∃ blocks, goal.clock = offset expanded * blocks

variable {look : Look Moment Failure} {before accepts : Moment → Prop}

/-- A look that lets a moment pass or leaps on, unless this leads out of the calendar. -/
theorem leaps_of_cases
    (asks : ∀ moment, Kept expanded origin moment → before moment →
      (look moment = .ok (false, moment) ∧ accepts moment) ∨
      ∃ goal failure, Onward expanded origin moment goal ∧
        look moment = if goal.date.year ≤ 9999 then .ok (true, goal) else .error failure) :
    Leaps (rank expanded) (Sought expanded) (Kept expanded origin) before accepts look where
  leapt moment next kept held leapt := by
    rcases asks moment kept held with ⟨passed, -⟩ | ⟨goal, failure, onward, looks⟩
    · rw [passed] at leapt
      cases leapt
    · rw [looks] at leapt
      split at leapt
      · rename_i inCalendar
        cases leapt
        have year := year_le (number_le_of_rank_le onward.later.le)
        exact ⟨onward.later, ⟨Nat.le_trans kept.since year, inCalendar, onward.left⟩, onward.clear⟩
      · cases leapt
  passed moment same kept held passed := by
    rcases asks moment kept held with ⟨looks, accepted⟩ | ⟨goal, failure, -, looks⟩
    · rw [looks] at passed
      cases passed
      exact ⟨rfl, kept, held, accepted⟩
    · rw [looks] at passed
      split at passed <;> cases passed
  failed moment failure kept held failed other from_ sought := by
    rcases asks moment kept held with ⟨looks, -⟩ | ⟨goal, _, onward, looks⟩
    · rw [looks] at failed
      cases failed
    · rw [looks] at failed
      split at failed
      · cases failed
      · rename_i outside
        obtain ⟨blocks, start⟩ := onward.start
        exact clear_of_outside onward.clear (Nat.lt_of_not_le outside) start from_
          sought.wanted.inCalendar sought

variable {items : List Item} {value : Moment → Nat} {range unit shift : Nat}
  {reset : Moment → Moment}

/-- A column of units does not leap over a wanted moment. -/
theorem leaps_units (counts : CountsUnit expanded value range unit shift reset)
    (positive : 0 < range)
    (plain : restricted items = true → ∃ values, items = values.map .number ∧
      Cycle.Listed 0 range values)
    (wants : ∀ other, Sought expanded other → Admits items (value other))
    (keeps : ∀ moment next, Kept expanded origin moment → before moment →
      LeapsTo expanded items value range unit moment next →
      restricted (columnAt expanded 2) = true →
      TimeLeft expanded origin next ∧ DayLeft expanded origin next) :
    Leaps (rank expanded) (Sought expanded) (Kept expanded origin) before
      (fun moment => Admits items (value moment)) (procUnits items value range reset unit) := by
  refine leaps_of_cases fun moment kept held => ?_
  rcases procUnits_cases counts positive plain kept.since with passed | ⟨goal, leaps, looks⟩
  · exact .inl passed
  · refine .inr ⟨goal, _, ⟨leaps.later, keeps moment goal kept held leaps,
      fun other from_ to_ sought => leaps.clear other from_ to_ (wants other sought), ?_⟩, looks⟩
    obtain ⟨blocks, start⟩ := leaps.start
    obtain ⟨times, whole⟩ := counts.whole
    exact ⟨times * blocks, by rw [start, whole, Nat.mul_assoc]⟩

/-- A column of the time leads at most into the next day. -/
theorem keeps_time (plain : AllPlain expanded) (inDay : unit * range ≤ 86400)
    (admitted : ∀ other, AdmitsTime expanded other → Admits items (value other))
    (kept : Kept expanded origin moment)
    (leaps : LeapsTo expanded items value range unit moment next)
    (restricts : restricted (columnAt expanded 2) = true) :
    TimeLeft expanded origin next ∧ DayLeft expanded origin next := by
  refine left_of_time plain restricts (kept.left restricts) leaps.later ?_
    fun other from_ to_ admits => leaps.clear other from_ to_ (admitted other admits)
  have near := leaps.near
  rw [Nat.mul_add] at near
  have block := Nat.mul_div_le moment.clock unit
  rw [← Moment.clock_div_day, ← Moment.clock_div_day]
  omega

/-- A unit of whole minutes is one of the smallest units. -/
theorem offset_dvd {unit : Nat} (whole : 60 ∣ unit) : offset expanded ∣ unit := by
  rcases offset_cases expanded with ⟨same, -⟩ | ⟨same, -⟩
  · rw [same]
    exact Nat.one_dvd unit
  · rw [same]
    exact whole

theorem counts_hour : CountsUnit expanded (fun moment => (moment.hour : Nat)) 24 3600 0
    Moment.onHour where
  value_eq := Moment.hour_eq
  start moment := by
    rw [Moment.clock_div_hour]
    simp only [Moment.clock, Moment.secondOfDay, Fin.val_zero]
    ring
  year _ := rfl
  whole := offset_dvd (by decide)
  positive := by decide

theorem counts_minute : CountsUnit expanded (fun moment => (moment.minute : Nat)) 60 60 0
    Moment.onMinute where
  value_eq := Moment.minute_eq
  start moment := by
    rw [Moment.clock_div_minute]
    simp only [Moment.clock, Moment.secondOfDay, Fin.val_zero]
    ring
  year _ := rfl
  whole := offset_dvd (by decide)
  positive := by decide

/-- Seconds are counted where there is a column for them. -/
theorem counts_second (seconds : offset expanded = 1) :
    CountsUnit expanded (fun moment => (moment.second : Nat)) 60 1 0 id where
  value_eq moment := by rw [Nat.div_one, Nat.add_zero, Moment.clock_mod]
  start moment := by rw [id_eq, Nat.div_one, Nat.one_mul]
  year _ := rfl
  whole := by rw [seconds]
  positive := by decide

theorem counts_weekday : CountsUnit expanded (fun moment => moment.date.weekday) 7 86400 5
    (fun moment => Moment.midnight moment.date) where
  value_eq moment := by rw [Moment.clock_div_day, Date.weekday]
  start moment := by rw [Moment.clock_div_day, clock_midnight]
  year _ := rfl
  whole := offset_dvd (by decide)
  positive := by decide

/-- The column of hours. -/
theorem leaps_hour (plain : AllPlain expanded) :
    Leaps (rank expanded) (Sought expanded) (Kept expanded origin) before
      (fun moment => Admits (columnAt expanded 1) moment.hour)
      (procHour (columnAt expanded 1)) :=
  leaps_units counts_hour (by decide) plain.hour (fun _ sought => sought.wanted.time.hour)
    fun _ _ kept _ leaps => keeps_time plain (by decide) (fun _ admits => admits.hour) kept leaps

/-- The column of minutes. -/
theorem leaps_minute (plain : AllPlain expanded) :
    Leaps (rank expanded) (Sought expanded) (Kept expanded origin) before
      (fun moment => Admits (columnAt expanded 0) moment.minute)
      (procMinute (columnAt expanded 0)) :=
  leaps_units counts_minute (by decide) plain.minute (fun _ sought => sought.wanted.time.minute)
    fun _ _ kept _ leaps => keeps_time plain (by decide) (fun _ admits => admits.minute) kept leaps

/-- The column of days of the week, which is not restricted together with the one of days of the
month. -/
theorem leaps_dayOfWeek (plain : AllPlain expanded)
    (single : restricted (columnAt expanded 2) = true → restricted (columnAt expanded 4) = false) :
    Leaps (rank expanded) (Sought expanded) (Kept expanded origin) before
      (fun moment => Admits (columnAt expanded 4) moment.date.weekday)
      (procDayOfWeek (columnAt expanded 4)) :=
  leaps_units counts_weekday (by decide) plain.dayOfWeek (fun _ sought => sought.wanted.dayOfWeek)
    fun _ _ _ _ leaps restricts => by
      have free := single restricts
      rw [leaps.restricts] at free
      cases free

/-- What the last column leaves. -/
def AdmitsSecond (expanded : List (List Item)) (moment : Moment) : Prop :=
  match expanded[5]? with
  | some toCheck => Admits toCheck moment.second
  | none => moment.IsOnMinute

/-- The column of seconds, or none. -/
theorem leaps_second (plain : AllPlain expanded)
    (cut : ∀ moment, before moment → before { moment with second := 0 }) :
    Leaps (rank expanded) (Sought expanded) (Kept expanded origin) before (AdmitsSecond expanded)
      (procSecond expanded[5]?) := by
  have lengths := plain.length
  cases column : expanded[5]? with
  | some toCheck =>
    have six : expanded.length = 6 := by
      have inside := (List.getElem?_eq_some_iff.1 column).1
      omega
    have seconds : offset expanded = 1 := if_pos six
    have leaps : Leaps (rank expanded) (Sought expanded) (Kept expanded origin) before
        (fun moment => Admits toCheck moment.second) (procSecond (some toCheck)) :=
      leaps_units (counts_second seconds) (by decide) (plain.second toCheck column)
        (fun _ sought => sought.wanted.time.second toCheck column)
        fun _ _ kept _ leaps => keeps_time plain (by decide)
          (fun _ admits => admits.second toCheck column) kept leaps
    have same : AdmitsSecond expanded = fun moment => Admits toCheck moment.second := by
      funext moment
      simp only [AdmitsSecond, column]
    rw [same]
    exact leaps
  | none =>
    have minutes : offset expanded = 60 := by
      have outside := List.getElem?_eq_none_iff.1 column
      unfold offset
      rw [if_neg (by omega)]
    refine ⟨fun moment next _ _ leapt => ?_, fun moment same kept held passed => ?_,
      fun moment failure _ _ failed => ?_⟩
    · cases leapt
    · cases passed
      have level : rank expanded { moment with second := 0 } = rank expanded moment := by
        unfold rank
        rw [minutes, Moment.clock_div_minute, Moment.clock_div_minute]
      refine ⟨level, ⟨kept.since, kept.inCalendar, fun restricts => ?_⟩, cut moment held, ?_⟩
      · refine ⟨?_, (kept.left restricts).2⟩
        rcases (kept.left restricts).1 with first | ⟨other, sameDay, admits, rest⟩
        · exact .inl first
        · exact .inr ⟨other, sameDay, admits, level ▸ rest⟩
      · simp only [AdmitsSecond, column]
    · cases failed

end Palette.Sched.Croniter
