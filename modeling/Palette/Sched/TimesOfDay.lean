import Palette.Sched.Occurrences

/-!
# Jobs at times of the day

A job that runs on all days, with a star, a number or a step `X/Y` for its minutes and for its
hours, runs next at the first time of the clock that the texts of these fields mean.
-/

namespace Palette.Sched

open Palette.Commands (digitsValue digitsValue_toDigits)
open Palette.Foundation.Words
open Palette.Foundation.Calendar
open Palette.Sched.Croniter

/-- The values that a field below a limit means. -/
inductive Means (maxval : Nat) : Text → (Nat → Prop) → Prop where
  | star : Means maxval ['*'] fun _ => True
  | number {text number} : digitsValue text = some number → number < maxval →
      Means maxval text (· = number)
  | step {text xvar yvar} : IsStep text xvar yvar → xvar < maxval → yvar ≠ 0 →
      Means maxval text fun value => value < maxval ∧ ∃ times, value = xvar + times * yvar

/-- The times of a day. -/
structure AtTime (minutes hours : Nat → Prop) (moment : Moment) : Prop where
  minute : minutes moment.minute
  hour : hours moment.hour
  second : moment.IsOnMinute

/-- The first match behind a moment is found, or there is none in the calendar. -/
def Finds (matched : Moment → Prop) (now : Moment) : Except Failure Moment → Prop
  | .ok time => IsNext matched now time
  | .error _ => NoNext matched now

/-! ## One field -/

/-- A column of the values below a limit. -/
structure IsBelow (column : Column) (maxval : Nat) : Prop where
  low : column.low = 0
  high : column.high + 1 = maxval
  lowmap : column.lowmap = []

/-- A column lists the values that are accepted. -/
structure Lists (maxval : Nat) (items : List Item) (accepts : Nat → Prop) : Prop where
  numbers : restricted items = true → ∀ item ∈ items, ∃ number, item = .number number
  admits : ∀ value < maxval, Admits items value ↔ accepts value

section Field

variable {column : Column} {maxval : Nat} {text : Text} {accepts : Nat → Prop}

/-- Numbers are not a star. -/
theorem lists_of_numbers {items : List Item} {values : Nat → Prop}
    (listed : ∀ item, item ∈ items ↔ ∃ value, values value ∧ item = .number value) :
    Lists maxval items values where
  numbers _ item member := by
    obtain ⟨value, -, same⟩ := (listed item).1 member
    exact ⟨value, same⟩
  admits value _ := by
    have restricts : restricted items = true := by
      rw [restricted, decide_eq_true_eq]
      intro star
      obtain ⟨number, -, impossible⟩ := (listed _).1 (List.mem_of_mem_head? star)
      cases impossible
    constructor
    · intro admits
      obtain ⟨number, accepted, same⟩ := (listed _).1 (admits restricts)
      cases same
      exact accepted
    · exact fun accepted _ => (listed _).2 ⟨value, accepted, rfl⟩

/-- A number below the limit stands for itself. -/
theorem single_below (below : IsBelow column maxval) {number : Nat}
    (digits : digitsValue text = some number) (inside : number < maxval) :
    column.single text = .ok (.number number) := by
  have read : column.readItem text = .ok (.number number) := by
    unfold Column.readItem
    rw [if_neg, digits]
    · rfl
    · rintro rfl
      cases digits
  have high := below.high
  have fits : ¬(number < column.low ∨ column.high < number) := by
    rw [below.low]
    omega
  unfold Column.single
  rw [read]
  change column.checked (.number number) = _
  simp only [Column.checked, below.lowmap, List.lookup_nil, Option.getD_none, if_neg fits]

/-- A list of numbers below the limit is written out. -/
theorem expand_commas (below : IsBelow column maxval) {values : List Nat} (present : values ≠ [])
    (inside : ∀ value ∈ values, value < maxval) :
    ∃ items, column.expand (commas values) = .ok items ∧
      ∀ item, item ∈ items ↔ ∃ value, value ∈ values ∧ item = .number value := by
  have noComma (value : Nat) : ',' ∉ decimal value := fun member => by
    have digit := Nat.isDigit_of_mem_toDigits (by decide) (by decide) member
    revert digit
    decide
  have pieces : (commas values).splitOn ',' = values.map decimal := by
    refine List.splitOn_intercalate ',' (fun piece member => ?_) (by simpa using present)
    obtain ⟨value, -, rfl⟩ := List.mem_map.1 member
    exact noComma value
  have all (numbers : List Nat) (fits : ∀ number ∈ numbers, number < maxval) :
      (numbers.mapM fun number => column.single (decimal number)) =
        .ok (numbers.map .number) := by
    induction numbers with
    | nil => rfl
    | cons number rest inductionHypothesis =>
      rw [List.forall_mem_cons] at fits
      have digits : digitsValue (decimal number) = some number := digitsValue_toDigits number
      rw [List.mapM_cons, single_below below digits fits.1, inductionHypothesis fits.2]
      rfl
  have loop : column.expandLoop (values.reverse.map decimal ++ []) [] = _ :=
    expandLoop_numbers values.reverse [] []
  rw [all _ fun number member => inside number (List.mem_reverse.1 member), List.append_nil,
    List.map_reverse, ← pieces] at loop
  have whole : column.expand (commas values) =
      .ok ((values.reverse.map Item.number).insertionSort
        fun first second => first.le second = true) := by
    rw [Column.expand, loop]
    change Except.map _ (column.expandLoop [] (values.reverse.map Item.number)) = _
    rw [Column.expandLoop]
    rfl
  refine ⟨_, whole, fun item => ?_⟩
  rw [List.mem_insertionSort]
  simp [eq_comm]

/-- A text without a slash is not a step. -/
theorem commafy_plain {fuel : Nat} (noSlash : ∀ char ∈ text, decide (char ≠ '/') = true) :
    Crontab.commafy fuel text maxval = some text := by
  have plain : Crontab.slashMatch text = none := by
    rw [Crontab.slashMatch, List.dropWhile_eq_nil_iff.2 noSlash]
  rw [Crontab.commafy, plain]

theorem isWord_star : IsWord isSpace ['*'] := ⟨by simp, by simp [isSpace]⟩

/-- A field is written out for Croniter, and Croniter reads what it means. -/
theorem Means.reads (means : Means maxval text accepts) (below : IsBelow column maxval) :
    ∃ fuel field items, Crontab.commafy fuel text maxval = some field ∧ IsWord isSpace field ∧
      column.expand field = .ok items ∧ Lists maxval items accepts := by
  cases means with
  | star =>
    refine ⟨0, ['*'], [.star], commafy_plain (by simp), isWord_star,
      expand_piece (by decide) rfl, fun restricts => absurd restricts (by decide),
      fun value _ => ?_⟩
    exact iff_of_true (fun restricts => absurd restricts (by decide)) trivial
  | @number text number read inside =>
    obtain ⟨present, digits⟩ := isDigit_of_digitsValue read
    have without (sign : Char) (noDigit : sign.isDigit = false) : sign ∉ text := fun member => by
      rw [digits sign member] at noDigit
      cases noDigit
    have alone : text.splitOn ',' = [text] := by
      have joined : [','].intercalate [text] = text := by simp [List.intercalate]
      have pieces : ([','].intercalate [text]).splitOn ',' = [text] :=
        List.splitOn_intercalate ',' (by simpa using without ',' (by decide)) (by simp)
      rwa [joined] at pieces
    have piece : column.piece text = .ok [.number number] := by
      rw [Column.piece, Column.searchMatch_digits column (List.all_eq_true.2 digits)]
      change (column.single text).map _ = _
      rw [single_below below read inside]
      rfl
    refine ⟨0, text, [.number number], commafy_plain fun char member => ?_,
      ⟨present, fun char member => isSpace_of_isDigit (digits char member)⟩,
      expand_piece alone piece, lists_of_numbers fun item => ?_⟩
    · rw [decide_eq_true_eq]
      rintro rfl
      exact without '/' (by decide) member
    · simp
  | @step text xvar yvar step inside positive =>
    have entered : IsEntered maxval text := .inl ⟨xvar, yvar, step, inside, positive⟩
    obtain ⟨fuel, field, written, word, meant, -⟩ := entered.expands
    obtain ⟨values, progression, rfl⟩ := meant xvar yvar step
    have first : xvar ∈ values := (progression.exactly xvar).2 ⟨inside, 0, by simp⟩
    obtain ⟨items, expanded, listed⟩ := expand_commas below (List.ne_nil_of_mem first)
      fun value member => ((progression.exactly value).1 member).1
    exact ⟨fuel, _, items, written, word, expanded, lists_of_numbers fun item => by
      simp only [listed, progression.exactly]⟩

end Field

/-! ## The whole job -/

section Job

variable {entry : Crontab} {minutes hours : Nat → Prop}

/-- The expression of such a job is followed, and its matches are the times that are meant. -/
theorem follows_of_means (minute : Means 60 entry.minute minutes) (hour : Means 24 entry.hour hours)
    (dayOfMonth : entry.dayOfMonth = ['*']) (month : entry.month = ['*'])
    (dayOfWeek : entry.dayOfWeek = ['*']) :
    ∃ expanded, Follows entry expanded ∧ searched expanded = [expanded] ∧
      Matches expanded = AtTime minutes hours := by
  have ofMinutes : IsBelow sixtieths 60 := ⟨rfl, rfl, rfl⟩
  have ofHours : IsBelow Croniter.hours 24 := ⟨rfl, rfl, rfl⟩
  obtain ⟨minuteFuel, minuteField, minuteItems, minuteWritten, minuteWord, minuteExpands,
    minuteLists⟩ := minute.reads ofMinutes
  obtain ⟨hourFuel, hourField, hourItems, hourWritten, hourWord, hourExpands, hourLists⟩ :=
    hour.reads ofHours
  have written : entry.expr (max minuteFuel hourFuel) =
      some ([' '].intercalate [minuteField, hourField, ['*'], ['*'], ['*']]) := by
    simp [Crontab.expr, Crontab.fields, commafy_mono minuteWritten (Nat.le_max_left _ _),
      commafy_mono hourWritten (Nat.le_max_right _ _), dayOfMonth, month, dayOfWeek]
  have apart : words isSpace ([' '].intercalate [minuteField, hourField, ['*'], ['*'], ['*']]) =
      [minuteField, hourField, ['*'], ['*'], ['*']] :=
    (words_intercalate_iff (by decide) _).2 (by simp [minuteWord, hourWord, isWord_star])
  have read : init ([' '].intercalate [minuteField, hourField, ['*'], ['*'], ['*']]) daily.cur =
      .ok ⟨daily.cur, [minuteItems, hourItems, [.star], [.star], [.star]]⟩ := by
    have dayExpands : daysOfMonth.expand ['*'] = .ok [.star] := expand_piece rfl rfl
    have monthExpands : months.expand ['*'] = .ok [.star] := expand_piece rfl rfl
    have weekdayExpands : daysOfWeek.expand ['*'] = .ok [.star] := expand_piece rfl rfl
    unfold init
    rw [apart]
    simp only [columns, expandAll, bind_pure_comp]
    rw [minuteExpands, hourExpands, dayExpands, monthExpands, weekdayExpands]
    rfl
  refine ⟨[minuteItems, hourItems, [.star], [.star], [.star]],
    ⟨⟨_, _, _, written, read⟩, ?_, fun skips => ?_⟩, ?_, ?_⟩
  · intro items member restricts
    simp only [List.mem_cons, List.not_mem_nil, or_false] at member
    rcases member with rfl | rfl | rfl | rfl | rfl
    · exact minuteLists.numbers restricts
    · exact hourLists.numbers restricts
    all_goals cases restricts
  · exact Bool.false_ne_true skips.1
  · rfl
  · funext moment
    refine propext ⟨fun isMatch => ⟨?_, ?_, isMatch.second⟩, fun atTime => ⟨?_, ?_, ?_, ?_, ?_⟩⟩
    · exact (minuteLists.admits _ moment.minute.2).1 isMatch.minute
    · exact (hourLists.admits _ moment.hour.2).1 isMatch.hour
    · intro restricts
      cases restricts
    · exact ⟨fun restricts => (by cases restricts), fun restricts => (by cases restricts)⟩
    · exact (hourLists.admits _ moment.hour.2).2 atTime.hour
    · exact (minuteLists.admits _ moment.minute.2).2 atTime.minute
    · exact atTime.second

/-- The next time of a job that is followed is found once the fuel suffices. -/
theorem Follows.finds {expanded : List (List Item)} (follows : Follows entry expanded)
    (alone : searched expanded = [expanded]) (now : Datetime) :
    ∃ enough, ∀ fuel, enough ≤ fuel → ∃ outcome, nextRunTime fuel entry now.1 = some outcome ∧
      Finds (Matches expanded) now.1 outcome := by
  obtain ⟨enough, text, start, written, read⟩ := follows.reads
  have plain : AllPlain expanded := allPlain_of_init read follows.numbers
  have finds : FindsNext ⟨now.1, expanded⟩ :=
    findsNext_of_not_skips plain follows.unskipped now.2
  obtain ⟨more, results⟩ := finds
  refine ⟨max enough more, fun fuel atLeast => ?_⟩
  obtain ⟨outcome, result, answers⟩ := results fuel (by omega)
  refine ⟨outcome.map Croniter.cur, ?_, ?_⟩
  · simp only [nextRunTime, expr_mono written (by omega : enough ≤ fuel), init_from read now.1,
      result]
    rfl
  · cases outcome with
    | ok next => exact answers.2
    | error failure =>
      obtain ⟨kind, member, none⟩ := answers
      rw [alone] at member
      cases List.mem_singleton.1 member
      intro other isMatch inCalendar
      obtain ⟨kind, member, found⟩ := (matches_iff plain).1 isMatch
      rw [alone] at member
      cases List.mem_singleton.1 member
      exact none other found inCalendar

end Job

end Palette.Sched
