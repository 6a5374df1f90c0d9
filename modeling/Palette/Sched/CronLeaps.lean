import Palette.Foundation.Cycle
import Palette.Sched.Croniter

/-!
# The leaps of a search

A column of numbers admits the moments whose value it lists. Its leap leads to the next value that
it lists, at the beginning of the unit, and passes over none. The leap of the days of the month
does so in the month in which the search began. In another month it may begin behind all listed
days only if something before it leads over midnight, which happens on the first day alone, as each
later day begins before all of its admitted times.

In a short February it leads to a listed day that this month does not have, and so into March.
-/

namespace Palette.Sched.Croniter

open Palette.Foundation
open Palette.Foundation.Calendar
open Palette.Foundation.Leaping

/-! ## What a column admits -/

/-- A column that begins with `*`, or numbers of its range in their order. -/
def Plain (column : Column) (items : List Item) : Prop :=
  restricted items = true → ∃ values, items = values.map .number ∧
    Cycle.Listed column.low (column.high + 1 - column.low) values

/-- A column admits a value. -/
def Admits (items : List Item) (value : Nat) : Prop :=
  restricted items = true → .number value ∈ items

/-- The columns of the time of a day admit a moment. -/
structure AdmitsTime (expanded : List (List Item)) (moment : Moment) : Prop where
  hour : Admits (columnAt expanded 1) moment.hour
  minute : Admits (columnAt expanded 0) moment.minute
  second : ∀ toCheck ∈ expanded[5]?, Admits toCheck moment.second

/-- A moment of the calendar that all columns admit, apart from its seconds where there is no column
for them. -/
structure Wanted (expanded : List (List Item)) (moment : Moment) : Prop where
  inCalendar : moment.date.year ≤ 9999
  month : Admits (columnAt expanded 3) moment.date.month
  dayOfMonth : Admits (columnAt expanded 2) moment.date.day
  dayOfWeek : Admits (columnAt expanded 4) moment.date.weekday
  time : AdmitsTime expanded moment

/-- All columns are plain. -/
structure AllPlain (expanded : List (List Item)) : Prop where
  minute : Plain sixtieths (columnAt expanded 0)
  hour : Plain hours (columnAt expanded 1)
  dayOfMonth : Plain daysOfMonth (columnAt expanded 2)
  month : Plain months (columnAt expanded 3)
  dayOfWeek : Plain daysOfWeek (columnAt expanded 4)
  second : ∀ toCheck ∈ expanded[5]?, Plain sixtieths toCheck
  length : expanded.length = 5 ∨ expanded.length = 6

/-- The day that is looked for from the last days of a February on is missing in it, and a day
before it is listed for the March that follows. -/
def Skips (expanded : List (List Item)) : Prop :=
  restricted (columnAt expanded 2) = true ∧ Admits (columnAt expanded 3) 2 ∧
    Admits (columnAt expanded 3) 3 ∧ ∃ length early late : Nat, (length = 28 ∨ length = 29) ∧
      .number early ∈ columnAt expanded 2 ∧ .number late ∈ columnAt expanded 2 ∧
      early + length < late ∧
      ∀ other, .number other ∈ columnAt expanded 2 → other < length ∨ late ≤ other

/-- What the search does not miss: a wanted moment, which is not in March if days are skipped. -/
structure Sought (expanded : List (List Item)) (moment : Moment) : Prop where
  wanted : Wanted expanded moment
  reached : Skips expanded → moment.date.month ≠ 3

/-! ## The next value of a column -/

/-- The loop ends at the first number that is not smaller. -/
theorem nearestLoop_found {value range next : Nat} {first : Option Item} {rest : List Nat}
    (found : rest.find? (value ≤ ·) = some next) :
    nearestLoop value range first (rest.map .number) = .ok ((next : Int) - value) := by
  induction rest with
  | nil => cases found
  | cons number rest inductionHypothesis =>
    rw [List.find?_cons] at found
    rw [List.map_cons, nearestLoop]
    split at found
    · rename_i reached
      cases found
      rw [if_pos (of_decide_eq_true reached)]
    · rename_i early
      rw [if_neg (of_decide_eq_false early)]
      exact inductionHypothesis found

/-- Otherwise it turns to the first number of all. -/
theorem nearestLoop_turned {value range first : Nat} {rest : List Nat}
    (missing : rest.find? (value ≤ ·) = none) :
    nearestLoop value range (some (.number first)) (rest.map .number) =
      .ok ((first : Int) - value + range) := by
  induction rest with
  | nil => rfl
  | cons number rest inductionHypothesis =>
    rw [List.find?_cons] at missing
    rw [List.map_cons, nearestLoop]
    split at missing
    · cases missing
    · rename_i early
      rw [if_neg (of_decide_eq_false early)]
      exact inductionHypothesis missing

/-- Among numbers, the next one is the next on their cycle. -/
theorem getNextNearestDiff_numbers {values : List Nat} (nonempty : values ≠ []) (value range : Nat) :
    getNextNearestDiff value (values.map .number) range = .ok (Cycle.ahead values value range) := by
  unfold getNextNearestDiff Cycle.ahead
  cases found : values.find? (value ≤ ·) with
  | some next => exact nearestLoop_found found
  | none =>
    cases values with
    | nil => exact absurd rfl nonempty
    | cons first rest => exact nearestLoop_turned found

/-- What is added to a moment of the calendar is greater, and stays in the calendar exactly if it
succeeds. -/
theorem add_nat (moment : Moment) (seconds : Nat) (positive : 1 ≤ moment.date.year) :
    add moment seconds = if (moment.plus seconds).date.year ≤ 9999 then
      .ok (moment.plus seconds) else .error .overflowError := by
  have later : moment.date.number ≤ (moment.plus seconds).date.number :=
    Moment.number_le_of_clock_le (by rw [Moment.clock_plus]; omega)
  have year : moment.date.year ≤ (moment.plus seconds).date.year := by
    rw [← Date.months_div, ← Date.months_div]
    exact Nat.div_le_div_right (Date.months_le_of_number_le later)
  unfold add
  simp only [Nat.le_trans positive year, true_and]

section Looks

variable {expanded : List (List Item)} {origin : Moment}

/-- The number of the smallest unit that matters. -/
def rank (expanded : List (List Item)) (moment : Moment) : Nat := moment.clock / offset expanded

/-- The times of the first day go by, while a later day always has an admitted time left. -/
def TimeLeft (expanded : List (List Item)) (origin moment : Moment) : Prop :=
  moment.date = origin.date ∨ ∃ other, other.date = moment.date ∧ AdmitsTime expanded other ∧
    rank expanded moment ≤ rank expanded other

/-- The days of the first month go by, while a later month always has a listed day left. -/
def DayLeft (expanded : List (List Item)) (origin moment : Moment) : Prop :=
  moment.date.months = origin.date.months ∨
    ∃ day, .number day ∈ columnAt expanded 2 ∧ moment.date.day ≤ day

/-- What holds in a search at any time. -/
structure Kept (expanded : List (List Item)) (origin moment : Moment) : Prop where
  since : 1 ≤ moment.date.year
  inCalendar : moment.date.year ≤ 9999
  left : restricted (columnAt expanded 2) = true →
    TimeLeft expanded origin moment ∧ DayLeft expanded origin moment

/-- Seconds count if there is a column for them, and minutes otherwise. -/
theorem offset_cases (expanded : List (List Item)) :
    (offset expanded = 1 ∧ expanded.length = 6) ∨ (offset expanded = 60 ∧ expanded.length ≠ 6) := by
  unfold offset
  split
  · exact .inl ⟨rfl, by assumption⟩
  · exact .inr ⟨rfl, by assumption⟩

theorem offset_pos (expanded : List (List Item)) : 0 < offset expanded := by
  rcases offset_cases expanded with ⟨same, -⟩ | ⟨same, -⟩ <;> omega

/-- The beginning of a unit is after a moment exactly if it is so for the smallest unit. -/
theorem rank_lt_iff {moment next : Moment} {blocks : Nat}
    (start : next.clock = offset expanded * blocks) :
    rank expanded moment < rank expanded next ↔ moment.clock < next.clock := by
  have positive := offset_pos expanded
  unfold rank
  rw [start, Nat.mul_div_cancel_left _ positive, Nat.div_lt_iff_lt_mul positive, Nat.mul_comm]

/-- A leap out of the calendar passes over all moments that are left. -/
theorem clear_of_outside {moment next : Moment} {wanted : Moment → Prop}
    (clear : Clear (rank expanded) wanted moment next) (outside : 9999 < next.date.year)
    {blocks : Nat} (start : next.clock = offset expanded * blocks) {other : Moment}
    (from_ : rank expanded moment ≤ rank expanded other) (inside : other.date.year ≤ 9999) :
    ¬wanted other := by
  refine clear other from_ ((rank_lt_iff start).2 ?_)
  by_contra late
  have le := Date.months_le_of_number_le (Moment.number_le_of_clock_le (Nat.le_of_not_lt late))
  have years := Nat.div_le_div_right (c := 12) le
  rw [Date.months_div, Date.months_div] at years
  omega

/-! ## Units of time -/

/-- A value that counts a unit of time on a cycle, with the way back to the beginning of the unit. -/
structure CountsUnit (expanded : List (List Item)) (value : Moment → Nat) (range unit shift : Nat)
    (reset : Moment → Moment) : Prop where
  value_eq : ∀ moment, value moment = (moment.clock / unit + shift) % range
  start : ∀ moment, (reset moment).clock = unit * (moment.clock / unit)
  year : ∀ moment, (reset moment).date.year = moment.date.year
  whole : offset expanded ∣ unit
  positive : 0 < unit

/-- What a column of units leaps to: a later moment, with none between that the column admits. -/
structure LeapsTo (expanded : List (List Item)) (items : List Item) (value : Moment → Nat)
    (range unit : Nat) (moment next : Moment) : Prop where
  restricts : restricted items = true
  later : rank expanded moment < rank expanded next
  near : next.clock < unit * (moment.clock / unit + range)
  start : ∃ blocks, next.clock = unit * blocks
  clear : Clear (rank expanded) (fun other => Admits items (value other)) moment next

variable {items : List Item} {value : Moment → Nat} {range unit shift : Nat}
  {reset : Moment → Moment} {moment : Moment}

/-- A column of units lets a moment pass that it admits, and leaps otherwise. -/
theorem procUnits_cases (counts : CountsUnit expanded value range unit shift reset)
    (positive : 0 < range)
    (plain : restricted items = true → ∃ values, items = values.map .number ∧
      Cycle.Listed 0 range values) (since : 1 ≤ moment.date.year) :
    (procUnits items value range reset unit moment = .ok (false, moment) ∧
      Admits items (value moment)) ∨
    ∃ next, LeapsTo expanded items value range unit moment next ∧
      procUnits items value range reset unit moment =
        if next.date.year ≤ 9999 then .ok (true, next) else .error .overflowError := by
  by_cases restricts : restricted items = true
  · obtain ⟨values, rfl, listed⟩ := plain restricts
    have inside : value moment < range := by
      rw [counts.value_eq]
      exact Nat.mod_lt _ positive
    obtain ⟨steps, way, short, -, clear⟩ :=
      Cycle.ahead_spec listed (Nat.zero_le (value moment)) (by omega)
    have diff : getNextNearestDiff (value moment) (values.map .number) range = .ok (steps : Int) := by
      rw [getNextNearestDiff_numbers listed.nonempty, way]
    unfold procUnits
    rw [if_pos restricts, diff]
    cases steps with
    | zero =>
      left
      have zero : Cycle.ahead values (value moment) range = 0 := way
      have member := (Cycle.ahead_eq_zero_iff listed (Nat.zero_le _) (by omega)).1 zero
      exact ⟨rfl, fun _ => List.mem_map_of_mem member⟩
    | succ steps =>
      right
      have blocks := counts.start moment
      have sum : ((reset moment).plus ((steps + 1) * unit : Nat)).clock =
          unit * (moment.clock / unit + (steps + 1)) := by
        rw [Moment.clock_plus, blocks]
        ring
      obtain ⟨times, whole⟩ := counts.whole
      have smallest : ((reset moment).plus ((steps + 1) * unit : Nat)).clock =
          offset expanded * (times * (moment.clock / unit + (steps + 1))) := by
        rw [sum, whole, Nat.mul_assoc]
      have before : moment.clock < unit * (moment.clock / unit + 1) := by
        rw [Nat.mul_comm]
        exact Nat.lt_mul_of_div_lt (Nat.lt_succ_self _) counts.positive
      have later : rank expanded moment <
          rank expanded ((reset moment).plus ((steps + 1) * unit : Nat)) := by
        rw [rank_lt_iff smallest, sum]
        exact Nat.lt_of_lt_of_le before (Nat.mul_le_mul_left _ (by omega))
      refine ⟨(reset moment).plus ((steps + 1) * unit : Nat), ⟨restricts, later, ?_,
        ⟨_, sum⟩, fun other from_ to_ admits => ?_⟩, ?_⟩
      · rw [sum]
        exact Nat.mul_lt_mul_of_pos_left (by omega) counts.positive
      · rw [rank_lt_iff smallest, sum] at to_
        have below : other.clock / unit < moment.clock / unit + (steps + 1) := by
          rw [Nat.div_lt_iff_lt_mul counts.positive, Nat.mul_comm]
          exact to_
        have above : moment.clock / unit ≤ other.clock / unit := by
          rw [whole, ← Nat.div_div_eq_div_mul, ← Nat.div_div_eq_div_mul]
          exact Nat.div_le_div_right from_
        refine clear (other.clock / unit - moment.clock / unit) (by omega) ?_
        have turned : Cycle.turned 0 range (value moment)
            (other.clock / unit - moment.clock / unit) = value other := by
          rw [Cycle.turned, counts.value_eq, counts.value_eq, Nat.zero_add, Nat.sub_zero,
            Nat.mod_add_mod]
          congr 1
          omega
        rw [turned]
        obtain ⟨number, member, same⟩ := List.mem_map.1 (admits restricts)
        cases same
        exact member
      · have year : 1 ≤ (reset moment).date.year := counts.year moment ▸ since
        have product : (((steps + 1 : Nat) : Int) * unit) = ((steps + 1) * unit : Nat) := by
          push_cast
          rfl
        simp only [bind, Except.bind, pure, Except.pure]
        rw [if_pos (by omega), product, add_nat _ _ year]
        by_cases inCalendar :
            ((reset moment).plus ((steps + 1) * unit : Nat)).date.year ≤ 9999
        · rw [if_pos inCalendar, if_pos inCalendar]
        · rw [if_neg inCalendar, if_neg inCalendar]
  · left
    unfold procUnits
    rw [if_neg restricts]
    exact ⟨rfl, fun impossible => absurd impossible restricts⟩

end Looks

end Palette.Sched.Croniter
