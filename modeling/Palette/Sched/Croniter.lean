import Palette.Foundation.Calendar
import Palette.Foundation.Leaping
import Palette.Sched.Crontab

/-!
# The next time of an expression

`Croniter` writes each column of an expression out as a sorted list of numbers, and looks for the
next moment that all columns admit. It asks one column after the other and moves to the next value
of the first column that does not admit the moment, with all smaller columns set back.

A day of the month is looked for as if all months were as long as the one of the first moment.
With both a day of the month and a day of the week, two searches are made, and the earlier result
is taken.

A timestamp is given by the moment that the clock shows then. This clock is never put back or
forward.
-/

namespace Palette.Sched

open Palette.Commands (digitsValue)
open Palette.Foundation.Words
open Palette.Foundation.Calendar
open Palette.Foundation.Leaping

namespace Croniter

/-- The exceptions that are raised. -/
inductive Failure where
  | keyError
  | valueError
  | typeError
  | overflowError
  deriving DecidableEq, Repr

/-! ## Writing columns out -/

/-- What a column lists: numbers, `*` and `l`. -/
inductive Item where
  | number (number : Nat)
  | star
  | last
  deriving DecidableEq, Repr

/-- The order of a list of numbers and texts: numbers come before texts. -/
def Item.le : Item → Item → Bool
  | .number first, .number second => decide (first ≤ second)
  | .number _, _ => true
  | .star, .number _ => false
  | .star, _ => true
  | .last, .last => true
  | .last, _ => false

/-- The range of a column, the names that it may use, and the numbers that stand for others. -/
structure Column where
  low : Nat
  high : Nat
  alphaconv : List (Text × Item)
  lowmap : List (Nat × Nat)

/-- The columns of minutes and of seconds. -/
def sixtieths : Column := ⟨0, 59, [], []⟩

/-- The column of hours. -/
def hours : Column := ⟨0, 23, [], []⟩

/-- The column of days of the month. -/
def daysOfMonth : Column := ⟨1, 31, [(['l'], .last)], [(0, 1)]⟩

/-- The column of months. -/
def months : Column where
  low := 1
  high := 12
  alphaconv := [(['j', 'a', 'n'], .number 1), (['f', 'e', 'b'], .number 2),
    (['m', 'a', 'r'], .number 3), (['a', 'p', 'r'], .number 4), (['m', 'a', 'y'], .number 5),
    (['j', 'u', 'n'], .number 6), (['j', 'u', 'l'], .number 7), (['a', 'u', 'g'], .number 8),
    (['s', 'e', 'p'], .number 9), (['o', 'c', 't'], .number 10), (['n', 'o', 'v'], .number 11),
    (['d', 'e', 'c'], .number 12)]
  lowmap := [(0, 1)]

/-- The column of days of the week. -/
def daysOfWeek : Column where
  low := 0
  high := 6
  alphaconv := [(['s', 'u', 'n'], .number 0), (['m', 'o', 'n'], .number 1),
    (['t', 'u', 'e'], .number 2), (['w', 'e', 'd'], .number 3), (['t', 'h', 'u'], .number 4),
    (['f', 'r', 'i'], .number 5), (['s', 'a', 't'], .number 6)]
  lowmap := [(7, 0)]

/-- All columns, in their order. -/
def columns : List Column := [sixtieths, hours, daysOfMonth, months, daysOfWeek, sixtieths]

/-- `lower()` of a text. -/
def lower (text : Text) : Text := text.map Char.toLower

/-- Which characters a range goes on with behind its hyphen. -/
def inBound (char : Char) : Bool := decide (char ≠ '-') && decide (char ≠ '/')

/-- The match of `search_re`: both ends of a range, and its step, where one is given. -/
def searchMatch (text : Text) : Option (Text × Text × Text) :=
  match text.takeWhile (· ≠ '-'), text.dropWhile (· ≠ '-') with
  | [], _ => none
  | _, [] => none
  | low, _ :: after =>
    match after.takeWhile inBound, after.dropWhile inBound with
    | [], _ => none
    | high, [] => some (low, high, ['1'])
    | high, '/' :: [] => some (low, high, ['1'])
    | high, '/' :: step => some (low, high, step)
    | _, _ => none

/-- An end of a range, before it is made a number. -/
inductive Bound where
  | digits (text : Text)
  | item (item : Item)
  deriving DecidableEq

/-- Whether an end counts as given. -/
def Bound.truthy : Bound → Bool
  | .item (.number 0) => false
  | _ => true

/-- `int()` of an end. -/
def Bound.int : Bound → Except Failure Nat
  | .digits text => (digitsValue text).elim (.error .valueError) .ok
  | .item (.number number) => .ok number
  | .item _ => .error .valueError

namespace Column

variable (column : Column)

/-- A name of the column. -/
def named (text : Text) : Except Failure Item :=
  (column.alphaconv.lookup (lower text)).elim (.error .keyError) .ok

/-- An end of a range, which is a name unless it begins with a digit. -/
def convert (text : Text) : Except Failure Bound :=
  if text.head?.any Char.isDigit then .ok (.digits text) else (column.named text).map .item

/-- The numbers of a range. -/
def numbers (low high step : Text) : Except Failure (List Nat) := do
  let low ← column.convert low
  let high ← column.convert high
  if !low.truthy || !high.truthy then throw .valueError
  let first ← low.int
  let last ← high.int
  if last < first then throw .valueError
  match digitsValue step with
  | none => throw .valueError
  | some 0 => throw .valueError
  | some step => return List.range' first ((last - first) / step + 1) step

/-- `*` with a step, as a range. -/
def starred (text : Text) : Text :=
  match text with
  | '*' :: '/' :: first :: rest => decimal column.low ++ '-' :: decimal column.high ++
      '/' :: first :: rest
  | _ => text

/-- The item that a text other than a range is. -/
def readItem (text : Text) : Except Failure Item :=
  if text = ['*'] then .ok .star
  else (digitsValue text).elim (column.named text) fun number => .ok (.number number)

/-- The item that it stands for, unless it is out of range. -/
def checked : Item → Except Failure Item
  | .number number =>
    let number := (column.lowmap.lookup number).getD number
    if number < column.low ∨ column.high < number then .error .valueError else .ok (.number number)
  | item => .ok item

/-- A text other than a range. -/
def single (text : Text) : Except Failure Item := do
  let item ← column.readItem text
  column.checked item

/-- A text that is not all digits can be a range. -/
def weight (stack : List Text) : Nat := stack.countP fun text => !text.all Char.isDigit

/-- The numbers of a range weigh nothing. -/
theorem weight_decimal (numbers : List Nat) (stack : List Text) :
    weight ((numbers.map decimal).reverse ++ stack) = weight stack := by
  have light : (numbers.map decimal).reverse.countP (fun text => !text.all Char.isDigit) = 0 := by
    rw [List.countP_eq_zero]
    intro text member
    obtain ⟨number, -, rfl⟩ := List.mem_map.1 (List.mem_reverse.1 member)
    simp only [Bool.not_eq_true', Bool.not_eq_false, List.all_eq_true]
    exact fun char inside => Nat.isDigit_of_mem_toDigits (by decide) (by decide) inside
  rw [weight, List.countP_append, light, Nat.zero_add]
  rfl

/-- A text without a hyphen is no range. -/
theorem searchMatch_none {text : Text} (noHyphen : ∀ char ∈ text, decide (char ≠ '-') = true) :
    searchMatch text = none := by
  rw [searchMatch, List.dropWhile_eq_nil_iff.2 noHyphen]
  split <;> first | rfl | contradiction

/-- A text of digits alone is not changed, and it is no range. -/
theorem starred_digits {text : Text} (digits : text.all Char.isDigit = true) :
    column.starred text = text := by
  unfold starred
  split
  · exact absurd (List.all_eq_true.1 digits '*' List.mem_cons_self) (by decide)
  · rfl

theorem searchMatch_digits {text : Text} (digits : text.all Char.isDigit = true) :
    searchMatch (column.starred text) = none := by
  rw [starred_digits column digits]
  refine searchMatch_none fun char member => ?_
  have digit := List.all_eq_true.1 digits char member
  simp only [decide_eq_true_eq]
  rintro rfl
  exact absurd digit (by decide)

/-- The loop over the pieces of a column. The last piece of the list is taken first, and the
numbers of a range are put behind the pieces that are left. -/
def expandLoop : List Text → List Item → Except Failure (List Item)
  | [], res => .ok res
  | text :: stack, res =>
    match _isRange : searchMatch (column.starred text) with
    | some (low, high, step) =>
      match column.numbers low high step with
      | .ok numbers => expandLoop ((numbers.map decimal).reverse ++ stack) res
      | .error failure => .error failure
    | none =>
      match column.single (column.starred text) with
      | .ok item => expandLoop stack (res ++ [item])
      | .error failure => .error failure
  termination_by stack => (weight stack, stack.length)
  decreasing_by
    · rw [weight_decimal]
      have heavy : text.all Char.isDigit = false := by
        by_contra digits
        rw [searchMatch_digits column (by simpa using digits)] at _isRange
        cases _isRange
      refine Prod.Lex.left _ _ ?_
      simp [weight, heavy]
    · simp only [weight, List.countP_cons, List.length_cons]
      split
      · exact Prod.Lex.left _ _ (Nat.lt_succ_self _)
      · exact Prod.Lex.right _ (Nat.lt_succ_self _)

/-- A column that is written out. -/
def expand (expr : Text) : Except Failure (List Item) :=
  (column.expandLoop (expr.splitOn ',').reverse []).map
    (List.insertionSort fun first second => first.le second = true)

end Column

/-- The columns that are written out, one after the other. -/
def expandAll : List Column → List Text → Except Failure (List (List Item))
  | column :: columns, expr :: exprs => do
    let first ← column.expand expr
    let rest ← expandAll columns exprs
    return first :: rest
  | _, _ => .ok []

end Croniter

/-- The current moment and the columns of an expression. -/
structure Croniter where
  cur : Moment
  expanded : List (List Croniter.Item)

namespace Croniter

/-- `Croniter()`. -/
def init (exprFormat : Text) (startTime : Moment) : Except Failure Croniter :=
  let exprs := words isSpace exprFormat
  if exprs.length ≠ 5 ∧ exprs.length ≠ 6 then .error .valueError
  else (expandAll columns exprs).map (⟨startTime, ·⟩)

/-! ## The next moment -/

/-- Whether a column restricts what it lists. -/
def restricted (toCheck : List Item) : Bool := decide (toCheck.head? ≠ some .star)

/-- The loop of `_get_next_nearest_diff`. No number can be taken from `*`. -/
def nearestLoop (value rangeVal : Nat) (first : Option Item) : List Item → Except Failure Int
  | [] =>
    match first with
    | some (.number number) => .ok ((number : Int) - value + rangeVal)
    | _ => .error .typeError
  | .star :: _ => .error .typeError
  | .last :: rest =>
    if value ≤ rangeVal then .ok ((rangeVal : Int) - value) else nearestLoop value rangeVal first rest
  | .number number :: rest =>
    if value ≤ number then .ok ((number : Int) - value) else nearestLoop value rangeVal first rest

/-- `_get_next_nearest_diff`. -/
def getNextNearestDiff (value : Nat) (toCheck : List Item) (rangeVal : Nat) : Except Failure Int :=
  nearestLoop value rangeVal toCheck.head? toCheck

/-- The table `DAYS`. -/
def daysTable : List Nat := [31, 28, 31, 30, 31, 30, 31, 31, 30, 31, 30, 31]

/-- `is_leap`. -/
def isLeap (year : Nat) : Bool :=
  if year % 400 = 0 ∨ (year % 4 = 0 ∧ year % 100 ≠ 0) then true else false

/-- The days of the month of a moment, as the search counts them. -/
def days (origin : Moment) : Nat :=
  daysTable.getD (origin.date.month - 1) 0 +
    if origin.date.month = 2 ∧ isLeap origin.date.year = true then 1 else 0

/-- Seconds added to a moment, up to the last year of the calendar. -/
def add (moment : Moment) (seconds : Int) : Except Failure Moment :=
  let sum := moment.plus seconds
  if 1 ≤ sum.date.year ∧ sum.date.year ≤ 9999 then .ok sum else .error .overflowError

/-- A column that moves on by units of time. What is smaller than its unit is set back before. -/
def procUnits (toCheck : List Item) (value : Moment → Nat) (rangeVal : Nat)
    (reset : Moment → Moment) (unit : Nat) : Look Moment Failure := fun moment =>
  if restricted toCheck then do
    let diff ← getNextNearestDiff (value moment) toCheck rangeVal
    if diff ≠ 0 then return (true, ← add (reset moment) (diff * unit))
    return (false, moment)
  else .ok (false, moment)

/-- `proc_month`. -/
def procMonth (toCheck : List Item) : Look Moment Failure := fun moment =>
  if restricted toCheck then do
    let diff ← getNextNearestDiff moment.date.month toCheck 12
    if diff ≠ 0 then
      let date := Date.firstOf (moment.date.months + diff).toNat
      if 1 ≤ date.year ∧ date.year ≤ 9999 then return (true, Moment.midnight date)
      throw .valueError
    return (false, moment)
  else .ok (false, moment)

/-- `proc_day_of_month`, with the moment at which the search begins. -/
def procDayOfMonth (origin : Moment) (toCheck : List Item) : Look Moment Failure :=
  procUnits toCheck (·.date.day) (days origin) (fun moment => Moment.midnight moment.date) 86400

/-- `proc_day_of_week`. -/
def procDayOfWeek (toCheck : List Item) : Look Moment Failure :=
  procUnits toCheck (·.date.weekday) 7 (fun moment => Moment.midnight moment.date) 86400

/-- `proc_hour`. -/
def procHour (toCheck : List Item) : Look Moment Failure :=
  procUnits toCheck (·.hour) 24 Moment.onHour 3600

/-- `proc_minute`. -/
def procMinute (toCheck : List Item) : Look Moment Failure :=
  procUnits toCheck (·.minute) 60 Moment.onMinute 60

/-- `proc_second`. Without a sixth column, the seconds are cut off. -/
def procSecond (column : Option (List Item)) : Look Moment Failure :=
  match column with
  | some toCheck => procUnits toCheck (·.second) 60 id 1
  | none => fun moment => .ok (false, moment.onMinute)

/-- A column by its index. -/
def columnAt (expanded : List (List Item)) (index : Nat) : List Item := expanded.getD index []

/-- All columns, from months to seconds. -/
def procs (origin : Moment) (expanded : List (List Item)) : List (Look Moment Failure) :=
  [procMonth (columnAt expanded 3), procDayOfMonth origin (columnAt expanded 2),
    procDayOfWeek (columnAt expanded 4), procHour (columnAt expanded 1),
    procMinute (columnAt expanded 0), procSecond expanded[5]?]

/-- The seconds between two moments that can match. -/
def offset (expanded : List (List Item)) : Nat := if expanded.length = 6 then 1 else 60

/-- `_calc`. The years that the condition of its loop compares are read once from one moment, so
that the loop always goes on. -/
def calcNext (fuel : Nat) (now : Moment) (expanded : List (List Item)) :
    Option (Except Failure Moment) :=
  match add now (offset expanded) with
  | .error failure => some (.error failure)
  | .ok origin => search (firstLeap (procs origin expanded)) fuel origin

/-- `_get_next`, with the moment that is returned and is the current one from then on. -/
def getNext (fuel : Nat) (croniter : Croniter) : Option (Except Failure Croniter) :=
  let expanded := croniter.expanded
  let result : Option (Except Failure Moment) :=
    if restricted (columnAt expanded 2) && restricted (columnAt expanded 4) then
      match calcNext fuel croniter.cur (expanded.set 4 [.star]) with
      | some (.ok first) =>
        (calcNext fuel croniter.cur (expanded.set 2 [.star])).map fun outcome =>
          outcome.map fun second => if first.clock < second.clock then first else second
      | failed => failed
    else calcNext fuel croniter.cur expanded
  result.map fun outcome => outcome.map fun moment => { croniter with cur := moment }

end Croniter

end Palette.Sched
