import Palette.Sched.CronSearch

/-!
# The columns for months and for days

The column of months leads to the first day of the next month that it lists. The one of days counts
on in the month, or over the end of the month to the least listed day. If the month, or the month
behind it, is too short for the day that is counted to, the count ends as many days later, and what
is listed for these days is missed.
-/

namespace Palette.Sched.Croniter

open Palette.Foundation
open Palette.Foundation.Calendar
open Palette.Foundation.Leaping

variable {expanded : List (List Item)} {origin moment next : Moment} {before : Moment → Prop}

/-- The length of the month in which a search begins. -/
theorem days_eq (origin : Moment) :
    days origin = monthLength origin.date.year origin.date.month := by
  have least := origin.date.firstMonth
  have greatest := origin.date.lastMonth
  have leap : isLeap origin.date.year = Calendar.isLeap origin.date.year := by
    unfold isLeap Calendar.isLeap
    split <;> simp_all
  unfold days monthLength
  rw [leap]
  generalize origin.date.month = month at *
  interval_cases month <;> simp [daysTable]
  split <;> rfl

/-! ## Months -/

/-- The column of months lets a moment pass, or leads to the first day of a later month, where no
month between is listed. -/
theorem procMonth_cases (plain : AllPlain expanded) (since : 1 ≤ moment.date.year) :
    (procMonth (columnAt expanded 3) moment = .ok (false, moment) ∧
      Admits (columnAt expanded 3) moment.date.month) ∨
    ∃ goal, moment.date.months < goal ∧
      (∀ other : Date, moment.date.months ≤ other.months → other.months < goal →
        ¬Admits (columnAt expanded 3) other.month) ∧
      procMonth (columnAt expanded 3) moment =
        if (Date.firstOf goal).year ≤ 9999 then .ok (true, ⟨Date.firstOf goal, 0, 0, 0⟩)
        else .error .valueError := by
  by_cases restricts : restricted (columnAt expanded 3) = true
  · obtain ⟨values, numbers, listed⟩ := plain.month restricts
    have least := moment.date.firstMonth
    have greatest : moment.date.month < 1 + 12 := Nat.lt_succ_of_le moment.date.lastMonth
    obtain ⟨steps, way, short, -, clear⟩ := Cycle.ahead_spec listed least greatest
    have diff : getNextNearestDiff moment.date.month (columnAt expanded 3) 12 =
        .ok (steps : Int) := by
      rw [numbers, getNextNearestDiff_numbers listed.nonempty]
      exact congrArg _ way
    unfold procMonth
    rw [if_pos restricts, diff]
    cases steps with
    | zero =>
      have member := (Cycle.ahead_eq_zero_iff listed least greatest).1 way
      exact .inl ⟨rfl, fun _ => numbers ▸ List.mem_map_of_mem member⟩
    | succ steps =>
      right
      refine ⟨moment.date.months + (steps + 1), by omega, fun other from_ to_ admits => ?_, ?_⟩
      · refine clear (other.months - moment.date.months) (by omega) ?_
        have turned : Cycle.turned 1 (12 + 1 - 1) moment.date.month
            (other.months - moment.date.months) = other.month := by
          rw [← Date.months_mod other, ← Date.months_mod moment.date, Cycle.turned]
          omega
        have member := admits restricts
        rw [numbers] at member
        obtain ⟨number, inside, same⟩ := List.mem_map.1 member
        cases same
        exact turned.symm ▸ inside
      · have sum : ((moment.date.months : Int) + ((steps + 1 : Nat) : Int)).toNat =
            moment.date.months + (steps + 1) := by omega
        have year : 1 ≤ (Date.firstOf (moment.date.months + (steps + 1))).year := by
          have years := Date.months_div moment.date
          simp only [Date.firstOf]
          omega
        simp only [bind, Except.bind, pure, Except.pure, throw, throwThe, MonadExceptOf.throw]
        rw [if_pos (by omega), sum]
        by_cases inCalendar : (Date.firstOf (moment.date.months + (steps + 1))).year ≤ 9999
        · rw [if_pos ⟨year, inCalendar⟩, if_pos inCalendar]
        · rw [if_neg fun both => inCalendar both.2, if_neg inCalendar]
  · left
    unfold procMonth
    rw [if_neg restricts]
    exact ⟨rfl, fun impossible => absurd impossible restricts⟩

/-- Midnight begins a smallest unit. -/
theorem midnight_start (date : Date) :
    ∃ blocks, (⟨date, 0, 0, 0⟩ : Moment).clock = offset expanded * blocks := by
  have divides : offset expanded ∣ 86400 := offset_dvd (by decide)
  obtain ⟨times, whole⟩ := divides
  exact ⟨times * date.number, by rw [clock_midnight, ← Nat.mul_assoc, ← whole]⟩

/-- The column of months does not leap over a wanted moment. -/
theorem leaps_month (plain : AllPlain expanded) :
    Leaps (rank expanded) (Sought expanded) (Kept expanded origin) before
      (fun moment => Admits (columnAt expanded 3) moment.date.month)
      (procMonth (columnAt expanded 3)) := by
  refine leaps_of_cases fun moment kept _ => ?_
  rcases procMonth_cases plain kept.since with passed | ⟨goal, later, clear, looks⟩
  · exact .inl passed
  · have laterDay : moment.date.number < (Date.firstOf goal).number :=
      Date.number_lt_of_months_lt (by rwa [Date.months_firstOf])
    refine .inr ⟨⟨Date.firstOf goal, 0, 0, 0⟩, .valueError, ⟨rank_lt_of_number_lt laterDay,
      fun restricts => ?_, ?_, midnight_start _⟩, looks⟩
    · obtain ⟨day, least, -, admits⟩ := exists_admitted plain.dayOfMonth (by decide)
      exact ⟨timeLeft_midnight plain _, .inr ⟨day, admits restricts, least⟩⟩
    · intro other from_ to_ sought
      refine clear other.date (Date.months_le_of_number_le (number_le_of_rank_le from_)) ?_
        sought.wanted.month
      by_contra reached
      have first := Date.number_firstOf_le (Nat.le_of_not_lt reached)
      have midnight : rank expanded ⟨Date.firstOf goal, 0, 0, 0⟩ ≤ rank expanded other := by
        rcases Nat.lt_or_eq_of_le first with before | same
        · exact Nat.le_of_lt (rank_lt_of_number_lt before)
        · have sameDay : other.date = Date.firstOf goal := Date.number_injective same.symm
          exact rank_midnight_le (Date.firstOf goal) sameDay
      omega

/-! ## Days of the month -/

/-- What the column of days of the month leads to, a number of days on. -/
structure CountsOn (items : List Item) (moment : Moment) (days : Nat) : Prop where
  positive : 0 < days
  near : moment.date.day + days ≤ monthLength moment.date.year moment.date.month + 31
  target : (∃ late, .number late ∈ items ∧ moment.date.day + days = late ∧
      ∀ other, .number other ∈ items → other < moment.date.day ∨ late ≤ other) ∨
    ∃ least, .number least ∈ items ∧ 1 ≤ least ∧
      moment.date.day + days = monthLength moment.date.year moment.date.month + least ∧
      ∀ other, .number other ∈ items → other < moment.date.day ∧ least ≤ other

/-- The column of days of the month lets a moment pass, or leads to midnight of a later day. -/
theorem procDayOfMonth_cases (plain : AllPlain expanded) (kept : Kept expanded origin moment) :
    (procDayOfMonth origin (columnAt expanded 2) moment = .ok (false, moment) ∧
      Admits (columnAt expanded 2) moment.date.day) ∨
    ∃ days, restricted (columnAt expanded 2) = true ∧ CountsOn (columnAt expanded 2) moment days ∧
      procDayOfMonth origin (columnAt expanded 2) moment =
        if (moment.date.shift days).year ≤ 9999 then .ok (true, ⟨moment.date.shift days, 0, 0, 0⟩)
        else .error .overflowError := by
  by_cases restricts : restricted (columnAt expanded 2) = true
  · obtain ⟨values, numbers, listed⟩ := plain.dayOfMonth restricts
    have mem_iff : ∀ value, .number value ∈ columnAt expanded 2 ↔ value ∈ values := by
      intro value
      rw [numbers, List.mem_map]
      constructor
      · rintro ⟨other, member, same⟩
        cases same
        exact member
      · exact fun member => ⟨value, member, rfl⟩
    have least := moment.date.firstDay
    have greatest := moment.date.lastDay
    have longest := monthLength_le moment.date.year moment.date.month
    have look : ∀ days : Nat, 0 < days →
        getNextNearestDiff moment.date.day (columnAt expanded 2) (Croniter.days origin) =
          .ok (days : Int) →
        procDayOfMonth origin (columnAt expanded 2) moment =
          if (moment.date.shift days).year ≤ 9999 then
            .ok (true, ⟨moment.date.shift days, 0, 0, 0⟩)
          else .error .overflowError := by
      intro days positive diff
      have product : (days : Int) * (86400 : Nat) = (days * 86400 : Nat) := by push_cast; rfl
      have sum : (⟨moment.date, 0, 0, 0⟩ : Moment).plus ((days * 86400 : Nat) : Int) =
          ⟨moment.date.shift days, 0, 0, 0⟩ := by
        rw [← plus_days]
        push_cast
        rfl
      unfold procDayOfMonth procUnits
      rw [if_pos restricts, diff]
      simp only [bind, Except.bind, pure, Except.pure]
      rw [if_pos (by omega), product, add_nat ⟨moment.date, 0, 0, 0⟩ _ kept.since, sum]
      by_cases inCalendar : (moment.date.shift days).year ≤ 9999
      · rw [if_pos inCalendar, if_pos inCalendar]
      · rw [if_neg inCalendar, if_neg inCalendar]
    have nearest := getNextNearestDiff_numbers listed.nonempty moment.date.day
      (Croniter.days origin)
    rw [← numbers] at nearest
    unfold Cycle.ahead at nearest
    cases found : values.find? (moment.date.day ≤ ·) with
    | some next =>
      obtain ⟨member, reached, first⟩ := Cycle.find_ge listed.ascending found
      rw [found] at nearest
      have bounds := listed.inRange next member
      rcases Nat.eq_or_lt_of_le reached with here | ahead
      · left
        refine ⟨?_, fun _ => (mem_iff _).2 (here ▸ member)⟩
        unfold procDayOfMonth procUnits
        rw [if_pos restricts, nearest, ← here]
        simp [bind, Except.bind, pure, Except.pure]
      · right
        refine ⟨next - moment.date.day, restricts, ⟨by omega, ?_, .inl ⟨next, (mem_iff _).2 member,
          by omega, fun other listedOther => ?_⟩⟩, look _ (by omega) ?_⟩
        · have short := le_monthLength moment.date.year moment.date.month
          simp only [daysOfMonth] at bounds
          omega
        · have reaches := first other ((mem_iff _).1 listedOther)
          omega
        · rw [nearest, Nat.cast_sub reached]
    | none =>
      have smaller := Cycle.find_none found
      obtain ⟨member, first⟩ := Cycle.head_le listed.ascending listed.nonempty
      rw [found] at nearest
      have bounds := listed.inRange _ member
      simp only [daysOfMonth] at bounds
      have sameMonth : moment.date.months = origin.date.months := by
        rcases (kept.left restricts).2 with same | ⟨day, listedDay, reached⟩
        · exact same
        · have := smaller day ((mem_iff _).1 listedDay)
          omega
      have length : Croniter.days origin = monthLength moment.date.year moment.date.month := by
        rw [days_eq, ← Date.months_div, ← Date.months_mod, ← sameMonth, Date.months_div,
          Date.months_mod]
      right
      refine ⟨values.headD 0 + monthLength moment.date.year moment.date.month - moment.date.day,
        restricts, ⟨by omega, by omega, .inr ⟨values.headD 0, (mem_iff _).2 member, bounds.1, by omega,
          fun other listedOther => ⟨smaller other ((mem_iff _).1 listedOther),
            first other ((mem_iff _).1 listedOther)⟩⟩⟩, look _ (by omega) ?_⟩
      rw [nearest, length, Nat.cast_sub (by omega)]
      push_cast
      congr 1
      ring
  · left
    unfold procDayOfMonth procUnits
    rw [if_neg restricts]
    exact ⟨rfl, fun impossible => absurd impossible restricts⟩

section Counting

variable {days : Nat}

/-- The day that is counted to is not behind all listed days. -/
theorem dayLeft_of_countsOn (counts : CountsOn (columnAt expanded 2) moment days) :
    DayLeft expanded origin ⟨moment.date.shift days, 0, 0, 0⟩ := by
  have near := counts.near
  have inside := (moment.date.shift days).lastDay
  have short := le_monthLength moment.date.year moment.date.month
  have years : (moment.date.shift days).months = moment.date.months →
      monthLength (moment.date.shift days).year (moment.date.shift days).month =
        monthLength moment.date.year moment.date.month := by
    intro same
    rw [← Date.months_div, ← Date.months_mod, same, Date.months_div, Date.months_mod]
  have away := Date.months_of_later (Date.number_shift moment.date days) (by omega)
  rcases counts.target with ⟨late, member, reaches, -⟩ | ⟨least, member, positive, reaches, -⟩
  · refine .inr ⟨late, member, ?_⟩
    dsimp only
    rcases away with ⟨-, day⟩ | ⟨-, day⟩ | ⟨length, -, -, day⟩ <;> omega
  · refine .inr ⟨least, member, ?_⟩
    dsimp only
    rcases away with ⟨same, day⟩ | ⟨-, day⟩ | ⟨length, -, -, day⟩
    · have equal := years same
      omega
    · omega
    · omega

/-- A listed day that is counted over is one of March, counted from a short February. -/
theorem counted_over (plain : AllPlain expanded) (restricts : restricted (columnAt expanded 2) = true)
    (counts : CountsOn (columnAt expanded 2) moment days) {other : Date}
    (from_ : moment.date.number ≤ other.number) (to_ : other.number < moment.date.number + days)
    (member : .number other.day ∈ columnAt expanded 2) :
    moment.date.month = 2 ∧ other.month = 3 ∧ ∃ length late, (length = 28 ∨ length = 29) ∧
      .number late ∈ columnAt expanded 2 ∧ other.day + length < late ∧
      ∀ value, .number value ∈ columnAt expanded 2 → value < length ∨ late ≤ value := by
  obtain ⟨values, numbers, listed⟩ := plain.dayOfMonth restricts
  have near := counts.near
  have positive := other.firstDay
  have inside := moment.date.lastDay
  have long := monthLength_le moment.date.year moment.date.month
  have short := le_monthLength moment.date.year moment.date.month
  have later : other.number = moment.date.number + (other.number - moment.date.number) := by omega
  have away := Date.months_of_later later (by omega)
  rcases counts.target with ⟨late, lateMember, reaches, gap⟩ | ⟨least, -, -, reaches, gap⟩
  · have bound : late ≤ 31 := by
      have listedLate := lateMember
      rw [numbers] at listedLate
      obtain ⟨number, inValues, same⟩ := List.mem_map.1 listedLate
      cases same
      have := (listed.inRange _ inValues).2
      simp only [daysOfMonth] at this
      omega
    rcases away with ⟨-, day⟩ | ⟨months, day⟩ | ⟨length, farther, -, day⟩
    · have := gap _ member
      omega
    · have two : moment.date.month = 2 := by
        have february : monthLength moment.date.year moment.date.month < 30 := by omega
        exact month_of_short february
      refine ⟨two, ?_, monthLength moment.date.year moment.date.month, late, by omega, lateMember,
        by omega, fun value valueMember => ?_⟩
      · have month := Date.months_mod moment.date
        have otherMonth := Date.months_mod other
        omega
      · have := gap value valueMember
        omega
    · omega
  · have := gap _ member
    rcases away with ⟨-, day⟩ | ⟨-, day⟩ | ⟨length, -, -, day⟩ <;> omega

end Counting

/-- The column of days of the month does not leap over a wanted moment, apart from those of March if
days are skipped. -/
theorem leaps_dayOfMonth (plain : AllPlain expanded)
    (asked : ∀ moment, before moment → Admits (columnAt expanded 3) moment.date.month) :
    Leaps (rank expanded) (Sought expanded) (Kept expanded origin) before
      (fun moment => Admits (columnAt expanded 2) moment.date.day)
      (procDayOfMonth origin (columnAt expanded 2)) := by
  refine leaps_of_cases fun moment kept held => ?_
  rcases procDayOfMonth_cases plain kept with passed | ⟨days, restricts, counts, looks⟩
  · exact .inl passed
  · have shifted := Date.number_shift moment.date days
    have positive := counts.positive
    have laterDay : moment.date.number < (moment.date.shift days).number := by omega
    refine .inr ⟨⟨moment.date.shift days, 0, 0, 0⟩, .overflowError,
      ⟨rank_lt_of_number_lt laterDay, fun _ => ⟨timeLeft_midnight plain _,
        dayLeft_of_countsOn counts⟩, ?_, midnight_start _⟩, looks⟩
    intro other from_ to_ sought
    have before : other.date.number < moment.date.number + days := by
      by_contra reached
      have same : rank expanded ⟨moment.date.shift days, 0, 0, 0⟩ ≤ rank expanded other := by
        rcases Nat.lt_or_eq_of_le (Nat.le_of_not_lt reached) with ahead | equal
        · exact Nat.le_of_lt (rank_lt_of_number_lt (shifted ▸ ahead))
        · have sameDay : other.date = moment.date.shift days :=
            Date.number_injective (equal.symm.trans shifted.symm)
          exact rank_midnight_le _ sameDay
      omega
    obtain ⟨two, three, length, late, short, lateMember, missed, gap⟩ :=
      counted_over plain restricts counts (number_le_of_rank_le from_) before
        (sought.wanted.dayOfMonth restricts)
    exact sought.reached ⟨restricts, two ▸ asked moment held, three ▸ sought.wanted.month, length, _,
      late, short, sought.wanted.dayOfMonth restricts, lateMember, missed, gap⟩ three

/-! ## All columns -/

/-- What the columns admit together, with the seconds that are left. -/
structure Found (expanded : List (List Item)) (moment : Moment) : Prop where
  month : Admits (columnAt expanded 3) moment.date.month
  dayOfMonth : Admits (columnAt expanded 2) moment.date.day
  dayOfWeek : Admits (columnAt expanded 4) moment.date.weekday
  hour : Admits (columnAt expanded 1) moment.hour
  minute : Admits (columnAt expanded 0) moment.minute
  second : AdmitsSecond expanded moment

/-- All columns together do not leap over a wanted moment. -/
theorem leaps_procs (plain : AllPlain expanded)
    (single : restricted (columnAt expanded 2) = true → restricted (columnAt expanded 4) = false) :
    Leaps (rank expanded) (Sought expanded) (Kept expanded origin) (fun _ => True) (Found expanded)
      (firstLeap (procs origin expanded)) := by
  have month : Leaps (rank expanded) (Sought expanded) (Kept expanded origin) (fun _ => True) _ _ :=
    leaps_month plain
  have all := leaps_cons month (leaps_cons
    (leaps_dayOfMonth plain fun _ held => held.2) (leaps_cons
      (leaps_dayOfWeek plain single) (leaps_cons (leaps_hour plain) (leaps_cons
        (leaps_minute plain) (leaps_cons (leaps_second plain fun _ held => held) leaps_nil)))))
  refine ⟨all.leapt, fun moment same kept held passed => ?_, all.failed⟩
  obtain ⟨level, keptSame, -, inMonth, onDay, onWeekday, inHour, inMinute, inSecond, -⟩ :=
    all.passed moment same kept held passed
  exact ⟨level, keptSame, trivial, inMonth, onDay, onWeekday, inHour, inMinute, inSecond⟩

end Palette.Sched.Croniter
