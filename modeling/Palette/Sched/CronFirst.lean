import Palette.Sched.CronFields

/-!
# The first match

An expression whose restricted columns list numbers finds the first match behind any moment, unless
its days are such that one is skipped after a February. Then the search that begins at the last day
of such a February passes over a match in March.
-/

namespace Palette.Sched.Croniter

open Palette.Foundation
open Palette.Foundation.Words
open Palette.Foundation.Calendar
open Palette.Foundation.Leaping

variable {expanded : List (List Item)} {origin now : Moment}

/-! ## A February -/

/-- The last day of February. -/
def lastOfFebruary (year : Nat) : Date where
  year := year
  month := 2
  day := monthLength year 2
  firstMonth := by decide
  lastMonth := by decide
  firstDay := Nat.le_trans (by decide) (le_monthLength year 2)
  lastDay := Nat.le_refl _

/-- There are Februaries of both lengths. -/
theorem exists_february {length : Nat} (isLength : length = 28 ∨ length = 29) :
    ∃ year, 1 ≤ year ∧ year ≤ 9998 ∧ monthLength year 2 = length := by
  rcases isLength with rfl | rfl
  · exact ⟨2015, by decide, by decide, by decide⟩
  · exact ⟨2016, by decide, by decide, by decide⟩

/-- The moment from which a search begins at midnight of a date. -/
theorem exists_before (expanded : List (List Item)) (date : Date) (behind : 1 < date.day) :
    ∃ now : Moment, now.date.year = date.year ∧ now.plus (offset expanded) = ⟨date, 0, 0, 0⟩ := by
  have eve : ∃ eve : Date, eve.year = date.year ∧ eve.number + 1 = date.number := by
    refine ⟨{ date with
      day := date.day - 1
      firstDay := Nat.le_sub_one_of_lt behind
      lastDay := Nat.le_trans (Nat.sub_le _ _) date.lastDay }, rfl, ?_⟩
    simp only [Date.number, Date.months]
    omega
  obtain ⟨eve, year, next⟩ := eve
  rcases offset_cases expanded with ⟨same, -⟩ | ⟨same, -⟩
  · refine ⟨⟨eve, 23, 59, 59⟩, year, Moment.clock_injective ?_⟩
    rw [Moment.clock_plus, clock_midnight, same]
    simp only [Moment.clock, Moment.secondOfDay, Fin.isValue]
    omega
  · refine ⟨⟨eve, 23, 59, 0⟩, year, Moment.clock_injective ?_⟩
    rw [Moment.clock_plus, clock_midnight, same]
    simp only [Moment.clock, Moment.secondOfDay, Fin.isValue]
    omega

/-! ## A match that is passed over -/

/-- An admitted time of a day, with its seconds cut off where there is no column for them. -/
theorem exists_moment (plain : AllPlain expanded) (date : Date) :
    ∃ moment : Moment, moment.date = date ∧ Admits (columnAt expanded 1) moment.hour ∧
      Admits (columnAt expanded 0) moment.minute ∧ AdmitsSecond expanded moment := by
  obtain ⟨moment, same, admits⟩ := exists_time plain date
  cases column : expanded[5]? with
  | none =>
    refine ⟨moment.onMinute, same, admits.hour, admits.minute, ?_⟩
    simp only [AdmitsSecond, column]
  | some toCheck =>
    refine ⟨moment, same, admits.hour, admits.minute, ?_⟩
    simp only [AdmitsSecond, column]
    exact admits.second toCheck column

/-- A day of March behind a February. -/
theorem exists_march (year : Nat) {day : Nat} (first : 1 ≤ day) (early : day ≤ 31) :
    ∃ date : Date, date.month = 3 ∧ date.day = day ∧
      date.number = (lastOfFebruary year).number + day := by
  have february : (lastOfFebruary year).months = 12 * year + 1 := rfl
  have next := daysBefore_succ (lastOfFebruary year).months
  rw [Date.months_div, Date.months_mod, february] at next
  have behind : daysBefore (12 * year + 2) = daysBefore (12 * year + 1) + monthLength year 2 := next
  refine ⟨⟨year, 3, day, by decide, by decide, first, early⟩, rfl, rfl, ?_⟩
  change daysBefore (12 * year + 2) + day =
    daysBefore (12 * year + 1) + monthLength year 2 + day
  rw [behind]

/-- At midnight of the last day of such a February, the search leaps to the missing day. -/
theorem leap_of_skips (plain : AllPlain expanded) {year length late : Nat} (since : 1 ≤ year)
    (inCalendar : year ≤ 9998) (lengthIs : monthLength year 2 = length)
    (restricts : restricted (columnAt expanded 2) = true)
    (february : Admits (columnAt expanded 3) 2)
    (lateMember : .number late ∈ columnAt expanded 2) (behind : length < late)
    (gap : ∀ other, .number other ∈ columnAt expanded 2 → other < length ∨ late ≤ other) :
    ∃ goal : Moment, goal.date.number = (lastOfFebruary year).number + (late - length) ∧
      firstLeap (procs (Moment.midnight (lastOfFebruary year)) expanded)
        (Moment.midnight (lastOfFebruary year)) = .ok (true, goal) := by
  have day : (lastOfFebruary year).day = length := lengthIs
  have kept : Kept expanded (Moment.midnight (lastOfFebruary year))
      (Moment.midnight (lastOfFebruary year)) :=
    kept_origin _ since (Nat.le_trans inCalendar (by decide))
  have passes : procMonth (columnAt expanded 3) (Moment.midnight (lastOfFebruary year)) =
      .ok (false, Moment.midnight (lastOfFebruary year)) := by
    rcases procMonth_cases plain kept.since with ⟨passed, -⟩ | ⟨goal, later, clear, -⟩
    · exact passed
    · exact absurd february (clear (lastOfFebruary year) (Nat.le_refl _) later)
  rcases procDayOfMonth_cases plain kept with ⟨-, admits⟩ | ⟨days, -, counts, looks⟩
  · have listed := gap _ (admits restricts)
    dsimp only at listed
    omega
  · have reaches : length + days = late := by
      have start : (Moment.midnight (lastOfFebruary year)).date.day = length := day
      rcases counts.target with ⟨target, member, arrives, others⟩ | ⟨least, -, -, -, others⟩
      · have between := gap target member
        have positive := counts.positive
        have earlier := others late lateMember
        omega
      · have smaller := (others late lateMember).1
        omega
    have shifted := Date.number_shift (lastOfFebruary year) days
    have years : ((lastOfFebruary year).shift days).year ≤ 9999 := by
      have near := counts.near
      have months := Date.months_of_later shifted (by
        dsimp only at near
        omega)
      have february : (lastOfFebruary year).months = 12 * year + 1 := rfl
      have quotient := Date.months_div ((lastOfFebruary year).shift days)
      rcases months with ⟨same, -⟩ | ⟨same, -⟩ | ⟨_, -, same, -⟩ <;> omega
    refine ⟨Moment.midnight ((lastOfFebruary year).shift days), ?_, ?_⟩
    · dsimp only
      omega
    · rw [if_pos years] at looks
      simp only [procs, firstLeap, passes, looks]

/-- If a day is skipped, there is a moment behind which the first match is not found. -/
theorem exists_missed (plain : AllPlain expanded) (single : bothDays expanded = false)
    (skips : Skips expanded) : ∃ now : Moment, 1 ≤ now.date.year ∧
      ∀ fuel outcome, getNext fuel ⟨now, expanded⟩ = some outcome →
        ¬Answers ⟨now, expanded⟩ outcome := by
  obtain ⟨restricts, february, march, length, early, late, isLength, earlyMember, lateMember, less,
    gap⟩ := skips
  have free : restricted (columnAt expanded 4) = false := by
    simpa [bothDays, restricts] using single
  have listed (day : Nat) (member : .number day ∈ columnAt expanded 2) : 1 ≤ day ∧ day ≤ 31 := by
    obtain ⟨values, numbers, isListed⟩ := plain.dayOfMonth restricts
    rw [numbers] at member
    obtain ⟨value, inside, same⟩ := List.mem_map.1 member
    cases same
    have bounds := isListed.inRange _ inside
    simp only [daysOfMonth] at bounds
    omega
  have alone : searched expanded = [expanded] := by
    unfold searched
    rw [single]
    rfl
  obtain ⟨year, since, inCalendar, lengthIs⟩ := exists_february isLength
  obtain ⟨now, nowYear, begins⟩ := exists_before expanded (lastOfFebruary year)
    (Nat.lt_of_lt_of_le (by decide) (le_monthLength year 2))
  obtain ⟨goal, goalNumber, leaps⟩ := leap_of_skips plain since inCalendar lengthIs restricts
    february lateMember (by omega) gap
  obtain ⟨date, isMarch, isEarly, dateNumber⟩ :=
    exists_march year (listed early earlyMember).1 (listed early earlyMember).2
  obtain ⟨missed, sameDate, inHour, inMinute, inSecond⟩ := exists_moment plain date
  have nowSince : 1 ≤ now.date.year := nowYear ▸ since
  have positive := (listed early earlyMember).1
  have hasFound : Found expanded missed :=
    ⟨by rw [sameDate, isMarch]; exact march, fun _ => by rw [sameDate, isEarly]; exact earlyMember,
      fun impossible => (by rw [free] at impossible; cases impossible), inHour, inMinute, inSecond⟩
  have behind : now.clock < missed.clock := by
    rw [lt_clock_iff plain inSecond, begins]
    exact Nat.le_of_lt (rank_lt_of_number_lt (by rw [sameDate, dateNumber]; dsimp only; omega))
  have before : rank expanded missed < rank expanded goal :=
    rank_lt_of_number_lt (by rw [sameDate, dateNumber, goalNumber]; omega)
  refine ⟨now, nowSince, fun fuel outcome result answers => ?_⟩
  cases outcome with
  | error failure =>
    obtain ⟨kind, member, none⟩ := answers
    rw [alone] at member
    cases List.mem_singleton.1 member
    have years : missed.date.year ≤ 9999 := by
      have months := Date.months_of_later dateNumber (by
        have := monthLength_le year 2
        have := (listed early earlyMember).2
        simp only [lastOfFebruary]
        omega)
      have quotient := Date.months_div date
      have february : (lastOfFebruary year).months = 12 * year + 1 := rfl
      rw [sameDate]
      rcases months with ⟨same, -⟩ | ⟨same, -⟩ | ⟨_, -, same, -⟩ <;> omega
    exact absurd (none missed hasFound years) (Nat.not_le_of_lt behind)
  | ok next =>
    have first := answers.2.first missed
      ((matches_iff plain).2 ⟨expanded, alone ▸ List.mem_singleton_self _, hasFound⟩) behind
    obtain ⟨-, ⟨kind, member, chosen⟩, -⟩ := getNext_ok result
    rw [alone] at member
    cases List.mem_singleton.1 member
    have kept : Kept expanded (Moment.midnight (lastOfFebruary year))
        (Moment.midnight (lastOfFebruary year)) :=
      kept_origin _ since (Nat.le_trans inCalendar (by decide))
    have onward : Leaps (rank expanded) (Sought expanded)
        (Kept expanded (Moment.midnight (lastOfFebruary year))) (fun _ => True) (Found expanded)
        (firstLeap (procs (Moment.midnight (lastOfFebruary year)) expanded)) :=
      leaps_procs plain fun _ => free
    have keptGoal := (onward.leapt _ goal kept trivial leaps).2.1
    have inside : (Moment.midnight (lastOfFebruary year)).date.year ≤ 9999 :=
      Nat.le_trans inCalendar (by decide)
    unfold calcNext at chosen
    rw [add_nat _ _ nowSince, begins, if_pos inside] at chosen
    cases fuel with
    | zero => cases chosen
    | succ fuel =>
      dsimp only at chosen
      rw [search, leaps] at chosen
      obtain ⟨-, -, reached, -⟩ := search_ok onward keptGoal chosen
      have notLater : rank expanded next.cur ≤ rank expanded missed := Nat.div_le_div_right first
      omega

/-- A piece that is a column alone. -/
theorem expand_piece {column : Column} {expr : Text} {item : Item}
    (alone : expr.splitOn ',' = [expr]) (piece : column.piece expr = .ok [item]) :
    column.expand expr = .ok [item] := by
  unfold Column.expand
  rw [alone, List.reverse_singleton, expandLoop_cons, piece]
  change Except.map _ (column.expandLoop [] [item]) = _
  rw [Column.expandLoop]
  rfl

/-- Every day at nine, on a leap day. -/
def daily : Croniter where
  cur := Moment.midnight (lastOfFebruary 2016)
  expanded := [[.number 0], [.number 9], [.star], [.star], [.star]]

theorem daily_since : 1 ≤ daily.cur.date.year := by decide

/-- The expression of every day at nine. -/
theorem daily_read : init "0 9 * * *".toList daily.cur = .ok daily := by
  have separate : words isSpace "0 9 * * *".toList = [['0'], ['9'], ['*'], ['*'], ['*']] := by
    decide
  have minute : sixtieths.expand ['0'] = .ok [.number 0] := expand_piece rfl rfl
  have hour : hours.expand ['9'] = .ok [.number 9] := expand_piece rfl rfl
  have day : daysOfMonth.expand ['*'] = .ok [.star] := expand_piece rfl rfl
  have month : months.expand ['*'] = .ok [.star] := expand_piece rfl rfl
  have weekday : daysOfWeek.expand ['*'] = .ok [.star] := expand_piece rfl rfl
  unfold init
  rw [separate]
  simp only [columns, expandAll, bind_pure_comp]
  rw [minute, hour, day, month, weekday]
  rfl

theorem daily_numbers : OnlyNumbers daily.expanded := by
  intro items member restricts item listed
  simp only [daily, List.mem_cons, List.not_mem_nil, or_false] at member
  rcases member with rfl | rfl | rfl | rfl | rfl
  · exact ⟨0, List.mem_singleton.1 listed⟩
  · exact ⟨9, List.mem_singleton.1 listed⟩
  all_goals cases restricts

/-- Its days are not restricted. -/
theorem daily_unskipped : ¬Skips daily.expanded := fun skips => Bool.false_ne_true skips.1

end Palette.Sched.Croniter
