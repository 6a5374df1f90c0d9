import Palette.Foundation.Outcome
import Palette.Foundation.Paging
import Palette.Sched.CronNext
import Palette.Sched.Expansion

/-!
# What the columns of an expression say

A column is a list of pieces between commas: a number, a name, `*`, or a range with or without a
step. A range may begin with a name, but not with the name of 0. A column is written out exactly if
all its pieces have one of these forms and all numbers that they name are numbers of the column,
where 7 is taken for Sunday and 0 for the first day or month. What is written out is what the
pieces name, in order.
-/

namespace Palette.Sched.Croniter

open Palette.Commands (digitsValue digitsValue_toDigits)
open Palette.Foundation
open Palette.Foundation.Calendar
open Palette.Foundation.Words

/-! ## What pieces name -/

namespace Column

variable (column : Column)

/-- What a number or another item stands for in a column. -/
def meant : Item → Item
  | .number number => .number ((column.lowmap.lookup number).getD number)
  | item => item

/-- The end of a range: digits, or a name that is not the one of 0. -/
def IsEnd (text : Text) (number : Nat) : Prop :=
  digitsValue text = some number ∨ (text.head?.any Char.isDigit = false ∧
    column.alphaconv.lookup (lower text) = some (.number number) ∧ number ≠ 0)

/-- A range, with its ends and its step. -/
inductive IsRange : Text → Nat → Nat → Nat → Prop where
  | whole {low high first last} : column.IsEnd low first → column.IsEnd high last →
      IsRange (low ++ '-' :: high) first last 1
  | slashed {low high first last} : column.IsEnd low first → column.IsEnd high last →
      IsRange (low ++ '-' :: (high ++ ['/'])) first last 1
  | stepped {low high digits first last step} : column.IsEnd low first → column.IsEnd high last →
      digitsValue digits = some step →
      IsRange (low ++ '-' :: (high ++ '/' :: digits)) first last step
  | starred {digits step} : digitsValue digits = some step →
      IsRange ('*' :: '/' :: digits) column.low column.high step

/-- A piece that is no range. -/
inductive IsSingle : Text → Item → Prop where
  | star : IsSingle ['*'] .star
  | number {text number} : digitsValue text = some number → IsSingle text (.number number)
  | name {text item} : column.alphaconv.lookup (lower text) = some item → IsSingle text item

/-- A piece names an item. -/
def Names (text : Text) (item : Item) : Prop :=
  (∃ first last step times, column.IsRange text first last step ∧ 0 < step ∧
    first + times * step ≤ last ∧ item = column.meant (.number (first + times * step))) ∨
    ∃ single, column.IsSingle text single ∧ item = column.meant single

/-- A piece has one of the forms, and what it names is in the range of the column. -/
def Accepts (text : Text) : Prop :=
  ((∃ first last step, column.IsRange text first last step ∧ first ≤ last ∧ 0 < step) ∨
    ∃ single, column.IsSingle text single) ∧
  ∀ number, column.Names text (.number number) → column.low ≤ number ∧ number ≤ column.high

end Column

/-! ## The forms of pieces -/

/-- The names of a column are letters, and so they are apart from the signs of an expression. -/
structure Lettered (column : Column) : Prop where
  nonempty : ∀ item, column.alphaconv.lookup [] ≠ some item
  letters : ∀ name item, column.alphaconv.lookup name = some item → name.all Char.isAlpha = true

/-- All six columns have such names. -/
theorem lettered_of_mem {column : Column} (member : column ∈ columns) : Lettered column := by
  have checked : ∀ column ∈ columns, column.alphaconv.lookup [] = none ∧
      ∀ pair ∈ column.alphaconv, pair.1.all Char.isAlpha = true := by decide
  obtain ⟨empty, letters⟩ := checked column member
  refine ⟨fun item => by simp [empty], fun name item found => ?_⟩
  obtain ⟨before, after, same, -⟩ := List.lookup_eq_some_iff.1 found
  exact letters (name, item) (by rw [same]; simp)

/-- A letter is none of the signs of an expression. -/
theorem inBound_of_alpha {char : Char} (letter : char.toLower.isAlpha = true) :
    inBound char = true ∧ char ≠ '*' ∧ char.isDigit = false := by
  refine ⟨?_, ?_, ?_⟩
  · simp only [inBound, Bool.and_eq_true, decide_eq_true_eq]
    constructor
    · rintro rfl
      exact absurd letter (by decide)
    · rintro rfl
      exact absurd letter (by decide)
  · rintro rfl
    exact absurd letter (by decide)
  · by_contra digit
    have isDigit : char.isDigit = true := by simpa using digit
    have same : char.toLower = char := by
      unfold Char.toLower
      rw [dif_neg]
      simp only [Char.isDigit, Bool.and_eq_true, decide_eq_true_eq] at isDigit
      rintro ⟨upper, -⟩
      have := isDigit.2
      simp only [UInt32.le_iff_toNat_le] at *
      simp at *
      omega
    rw [same] at letter
    simp only [Char.isDigit, Char.isAlpha, Char.isUpper, Char.isLower, Bool.and_eq_true,
      Bool.or_eq_true, decide_eq_true_eq, UInt32.le_iff_toNat_le] at isDigit letter
    simp at isDigit letter
    omega

/-- A text without the signs of a range. -/
structure IsPart (text : Text) : Prop where
  nonempty : text ≠ []
  solid : ∀ char ∈ text, inBound char = true
  noStar : ∀ char ∈ text, char ≠ '*'

/-- Digits are such a text. -/
theorem isPart_of_digits {text : Text} {number : Nat} (read : digitsValue text = some number) :
    IsPart text := by
  obtain ⟨nonempty, digits⟩ := isDigit_of_digitsValue read
  refine ⟨nonempty, fun char member => ?_, fun char member => ?_⟩
  · have digit := digits char member
    simp only [inBound, Bool.and_eq_true, decide_eq_true_eq]
    constructor
    · rintro rfl
      exact absurd digit (by decide)
    · rintro rfl
      exact absurd digit (by decide)
  · have digit := digits char member
    rintro rfl
    exact absurd digit (by decide)

/-- So is a name of a column. -/
theorem isPart_of_lookup {column : Column} (lettered : Lettered column) {text : Text} {item : Item}
    (found : column.alphaconv.lookup (lower text) = some item) : IsPart text := by
  have letters := List.all_eq_true.1 (lettered.letters _ _ found)
  have letter : ∀ char ∈ text, char.toLower.isAlpha = true := fun char member =>
    letters _ (List.mem_map_of_mem member)
  refine ⟨?_, fun char member => (inBound_of_alpha (letter char member)).1,
    fun char member => (inBound_of_alpha (letter char member)).2.1⟩
  rintro rfl
  exact lettered.nonempty item found

theorem isPart_of_isEnd {column : Column} (lettered : Lettered column) {text : Text} {number : Nat}
    (isEnd : column.IsEnd text number) : IsPart text := by
  rcases isEnd with digits | ⟨-, found, -⟩
  · exact isPart_of_digits digits
  · exact isPart_of_lookup lettered found

/-- The part in front of a sign. -/
theorem takeWhile_sign {keep : Char → Bool} {part rest : Text} {sign : Char}
    (kept : ∀ char ∈ part, keep char = true) (cut : keep sign = false) :
    (part ++ sign :: rest).takeWhile keep = part ∧
      (part ++ sign :: rest).dropWhile keep = sign :: rest := by
  rw [List.takeWhile_append_of_pos kept, List.dropWhile_append_of_pos kept]
  simp [cut]

/-- A part has no hyphen. -/
theorem noHyphen {text : Text} (solid : ∀ char ∈ text, inBound char = true) :
    ∀ char ∈ text, decide (char ≠ '-') = true := fun char member =>
  (Bool.and_eq_true _ _ ▸ solid char member : _ ∧ _).1

section Ranges

variable {low high rest : Text}

/-- The two ends of a range without a step. -/
theorem searchMatch_whole (isLow : IsPart low) (isHigh : IsPart high) :
    searchMatch (low ++ '-' :: high) = some (low, high, ['1']) := by
  obtain ⟨front, back⟩ : (low ++ '-' :: high).takeWhile (· ≠ '-') = low ∧
      (low ++ '-' :: high).dropWhile (· ≠ '-') = '-' :: high :=
    takeWhile_sign (noHyphen isLow.solid) (by decide)
  have all : high.takeWhile inBound = high ∧ high.dropWhile inBound = [] :=
    ⟨List.takeWhile_eq_self_iff.2 isHigh.solid, List.dropWhile_eq_nil_iff.2 isHigh.solid⟩
  unfold searchMatch
  rw [front, back]
  cases low with
  | nil => exact absurd rfl isLow.nonempty
  | cons first others =>
    cases high with
    | nil => exact absurd rfl isHigh.nonempty
    | cons next more =>
      dsimp only
      rw [all.1, all.2]

/-- The two ends of a range and what is behind its slash. -/
theorem searchMatch_slash (isLow : IsPart low) (isHigh : IsPart high) :
    searchMatch (low ++ '-' :: (high ++ '/' :: rest)) =
      some (low, high, if rest = [] then ['1'] else rest) := by
  obtain ⟨front, back⟩ : (low ++ '-' :: (high ++ '/' :: rest)).takeWhile (· ≠ '-') = low ∧
      (low ++ '-' :: (high ++ '/' :: rest)).dropWhile (· ≠ '-') = '-' :: (high ++ '/' :: rest) :=
    takeWhile_sign (noHyphen isLow.solid) (by decide)
  obtain ⟨nextFront, nextBack⟩ : (high ++ '/' :: rest).takeWhile inBound = high ∧
      (high ++ '/' :: rest).dropWhile inBound = '/' :: rest :=
    takeWhile_sign isHigh.solid (by decide)
  unfold searchMatch
  rw [front, back]
  cases low with
  | nil => exact absurd rfl isLow.nonempty
  | cons first others =>
    dsimp only
    rw [nextFront, nextBack]
    cases high with
    | nil => exact absurd rfl isHigh.nonempty
    | cons next more =>
      cases rest with
      | nil => rfl
      | cons _ _ => rfl

/-- A match is a range, with a step or without one. -/
theorem searchMatch_inv {text step : Text} (found : searchMatch text = some (low, high, step)) :
    (text = low ++ '-' :: high ∧ step = ['1']) ∨
      (text = low ++ '-' :: (high ++ ['/']) ∧ step = ['1']) ∨
      text = low ++ '-' :: (high ++ '/' :: step) := by
  have whole := List.takeWhile_append_dropWhile (p := (· ≠ '-')) (l := text)
  unfold searchMatch at found
  split at found
  · cases found
  · cases found
  · rename_i sign after backIs _
    have hyphen : sign = '-' := by
      have := List.head?_dropWhile_not (· ≠ '-') text
      rw [backIs] at this
      simpa using this
    rw [backIs, hyphen] at whole
    have rest := List.takeWhile_append_dropWhile (p := inBound) (l := after)
    split at found
    · cases found
    · rename_i endIs _
      cases found
      rw [endIs, List.append_nil] at rest
      refine .inl ⟨?_, rfl⟩
      rw [rest]
      exact whole.symm
    · rename_i endIs _
      cases found
      rw [endIs] at rest
      refine .inr (.inl ⟨?_, rfl⟩)
      rw [rest]
      exact whole.symm
    · rename_i endIs _
      cases found
      rw [endIs] at rest
      refine .inr (.inr ?_)
      rw [rest]
      exact whole.symm
    · cases found

end Ranges

/-! ## The numbers of a range -/

section Numbers

variable {column : Column} {text low high step : Text}

/-- The end of a range is one that is made a number and is not 0 by name. -/
theorem isEnd_iff {number : Nat} : column.IsEnd text number ↔
    ∃ bound, column.convert text = .ok bound ∧ bound.truthy = true ∧ bound.int = .ok number := by
  unfold Column.IsEnd Column.convert Column.named
  constructor
  · rintro (digits | ⟨notDigit, found, positive⟩)
    · have begins : text.head?.any Char.isDigit = true := by
        obtain ⟨nonempty, all⟩ := isDigit_of_digitsValue digits
        cases text with
        | nil => exact absurd rfl nonempty
        | cons first rest => simpa using all first List.mem_cons_self
      exact ⟨.digits text, if_pos begins, rfl, by simp [Bound.int, digits]⟩
    · refine ⟨.item (.number number), ?_, ?_, rfl⟩
      · rw [if_neg (by simp [notDigit]), found]
        rfl
      · cases number with
        | zero => exact absurd rfl positive
        | succ number => rfl
  · rintro ⟨bound, converted, given, value⟩
    split at converted
    · cases converted
      left
      cases digits : digitsValue text with
      | none => simp [Bound.int, digits] at value
      | some other => simpa [Bound.int, digits] using value
    · rename_i notDigit
      right
      cases found : column.alphaconv.lookup (lower text) with
      | none => simp [found, Except.map] at converted
      | some item =>
        rw [found] at converted
        cases converted
        cases item with
        | number other =>
          cases value
          refine ⟨by simpa using notDigit, rfl, ?_⟩
          rintro rfl
          cases given
        | star => cases value
        | last => cases value

/-- The end of a range is one number. -/
theorem isEnd_unique {number other : Nat} (isEnd : column.IsEnd text number)
    (also : column.IsEnd text other) : number = other := by
  obtain ⟨bound, converted, -, value⟩ := isEnd_iff.1 isEnd
  obtain ⟨bound', converted', -, value'⟩ := isEnd_iff.1 also
  rw [converted] at converted'
  cases converted'
  rw [value] at value'
  exact Except.ok.inj value'

/-- Both ends of a range and its step are given. -/
structure Given (column : Column) (low high step : Text) (first last times : Nat) : Prop where
  low : column.IsEnd low first
  high : column.IsEnd high last
  step : digitsValue step = some times
  ordered : first ≤ last
  positive : 0 < times

/-- The numbers of a range are written out if they are given. -/
theorem settles_numbers : Settles (column.numbers low high step)
    (∃ first last times, Given column low high step first last times)
    (fun numbers => ∃ first last times, Given column low high step first last times ∧
      numbers = List.range' first ((last - first) / times + 1) times) := by
  unfold Column.numbers
  cases lowBound : column.convert low with
  | error failure =>
    rintro ⟨first, last, times, given⟩
    obtain ⟨bound, converted, -⟩ := isEnd_iff.1 given.low
    rw [lowBound] at converted
    cases converted
  | ok lowEnd =>
    cases highBound : column.convert high with
    | error failure =>
      rintro ⟨first, last, times, given⟩
      obtain ⟨bound, converted, -⟩ := isEnd_iff.1 given.high
      rw [highBound] at converted
      cases converted
    | ok highEnd =>
      have ends (number : Nat) (text : Text) (bound : Bound) (same : column.convert text = .ok bound) :
          column.IsEnd text number ↔ bound.truthy = true ∧ bound.int = .ok number := by
        rw [isEnd_iff, same]
        simp
      simp only [bind, Except.bind, throw, throwThe, MonadExceptOf.throw]
      by_cases given : lowEnd.truthy = true ∧ highEnd.truthy = true
      · rw [if_neg (by simp [given])]
        cases lowValue : lowEnd.int with
        | error failure =>
          rintro ⟨first, last, times, both⟩
          have := ((ends first low lowEnd lowBound).1 both.low).2
          rw [lowValue] at this
          cases this
        | ok first =>
          cases highValue : highEnd.int with
          | error failure =>
            rintro ⟨first, last, times, both⟩
            have := ((ends last high highEnd highBound).1 both.high).2
            rw [highValue] at this
            cases this
          | ok last =>
            have isLow := (ends first low lowEnd lowBound).2 ⟨given.1, lowValue⟩
            have isHigh := (ends last high highEnd highBound).2 ⟨given.2, highValue⟩
            by_cases ordered : last < first
            · simp only [ordered, if_true]
              rintro ⟨other, another, times, both⟩
              have := isEnd_unique isLow both.low
              have := isEnd_unique isHigh both.high
              have := both.ordered
              omega
            · simp only [ordered, if_false]
              cases digits : digitsValue step with
              | none =>
                rintro ⟨_, _, times, both⟩
                have := both.step
                rw [digits] at this
                cases this
              | some times =>
                cases times with
                | zero =>
                  rintro ⟨_, _, times, both⟩
                  have same := both.step
                  have := both.positive
                  rw [digits] at same
                  cases same
                  omega
                | succ times =>
                  have both : Given column low high step first last (times + 1) :=
                    ⟨isLow, isHigh, digits, Nat.le_of_not_lt ordered, Nat.succ_pos _⟩
                  exact ⟨⟨_, _, _, both⟩, _, _, _, both, rfl⟩
      · rw [if_pos (by simpa [Classical.or_iff_not_imp_left] using given)]
        rintro ⟨first, last, times, both⟩
        exact given ⟨((ends first low lowEnd lowBound).1 both.low).1,
          ((ends last high highEnd highBound).1 both.high).1⟩

/-- The numbers of a range are those of its steps. -/
theorem mem_steps {first last times number : Nat} (ordered : first ≤ last) (positive : 0 < times) :
    number ∈ List.range' first ((last - first) / times + 1) times ↔
      ∃ steps, first + steps * times ≤ last ∧ number = first + steps * times := by
  rw [List.mem_range']
  constructor
  · rintro ⟨steps, less, rfl⟩
    have enough := (Nat.le_div_iff_mul_le positive).1 (Nat.le_of_lt_succ less)
    exact ⟨steps, by omega, by rw [Nat.mul_comm]⟩
  · rintro ⟨steps, inside, rfl⟩
    refine ⟨steps, Nat.lt_succ_of_le ((Nat.le_div_iff_mul_le positive).2 (by omega)), ?_⟩
    rw [Nat.mul_comm]

end Numbers

/-! ## Pieces -/

section Pieces

variable {column : Column} {text low high step : Text} {first last times : Nat}

/-- `*` with a step is a range of the whole column. -/
theorem searchMatch_star (next : Char) (rest : Text) :
    searchMatch (column.starred ('*' :: '/' :: next :: rest)) =
      some (decimal column.low, decimal column.high, next :: rest) := by
  have part (number : Nat) : IsPart (decimal number) := isPart_of_digits (digitsValue_toDigits number)
  have shape : column.starred ('*' :: '/' :: next :: rest) =
      decimal column.low ++ '-' :: (decimal column.high ++ '/' :: next :: rest) := by
    simp [Column.starred]
  rw [shape, searchMatch_slash (part _) (part _)]
  simp

/-- What does not begin with a star is not changed. -/
theorem starred_eq (begins : text.head? ≠ some '*') : column.starred text = text := by
  unfold Column.starred
  split
  · exact absurd rfl begins
  · rfl

/-- A range is found, with its ends and its step. -/
theorem IsPart.starred_append (isPart : IsPart low) (rest : Text) :
    column.starred (low ++ rest) = low ++ rest := by
  refine starred_eq ?_
  cases low with
  | nil => exact absurd rfl isPart.nonempty
  | cons char others =>
    rw [List.cons_append, List.head?_cons]
    exact fun same => isPart.noStar char List.mem_cons_self (Option.some.inj same)

theorem searchMatch_of_isRange (lettered : Lettered column)
    (isRange : column.IsRange text first last times) :
    ∃ low high step, searchMatch (column.starred text) = some (low, high, step) ∧
      column.IsEnd low first ∧ column.IsEnd high last ∧ digitsValue step = some times := by
  cases isRange with
  | whole isLow isHigh =>
    have low := isPart_of_isEnd lettered isLow
    refine ⟨_, _, _, ?_, isLow, isHigh, digitsValue_toDigits 1⟩
    rw [low.starred_append]
    exact searchMatch_whole low (isPart_of_isEnd lettered isHigh)
  | slashed isLow isHigh =>
    have low := isPart_of_isEnd lettered isLow
    refine ⟨_, _, _, ?_, isLow, isHigh, digitsValue_toDigits 1⟩
    rw [low.starred_append]
    exact searchMatch_slash low (isPart_of_isEnd lettered isHigh)
  | stepped isLow isHigh digits =>
    have low := isPart_of_isEnd lettered isLow
    refine ⟨_, _, _, ?_, isLow, isHigh, digits⟩
    rw [low.starred_append, searchMatch_slash low (isPart_of_isEnd lettered isHigh),
      if_neg (isPart_of_digits digits).nonempty]
  | starred digits =>
    rename_i steps
    cases steps with
    | nil => exact absurd rfl (isPart_of_digits digits).nonempty
    | cons next rest =>
      exact ⟨_, _, _, searchMatch_star next rest, .inl (digitsValue_toDigits _),
        .inl (digitsValue_toDigits _), digits⟩

/-- What is found is a range. -/
theorem isRange_of_searchMatch (found : searchMatch (column.starred text) = some (low, high, step))
    (isLow : column.IsEnd low first) (isHigh : column.IsEnd high last)
    (digits : digitsValue step = some times) : column.IsRange text first last times := by
  by_cases begins : ∃ next rest, text = '*' :: '/' :: next :: rest
  · obtain ⟨next, rest, rfl⟩ := begins
    rw [searchMatch_star] at found
    cases found
    obtain rfl := isEnd_unique isLow (.inl (digitsValue_toDigits _))
    obtain rfl := isEnd_unique isHigh (.inl (digitsValue_toDigits _))
    exact .starred digits
  · have same : column.starred text = text := by
      unfold Column.starred
      split
      · rename_i next rest
        exact absurd ⟨next, rest, rfl⟩ begins
      · rfl
    rw [same] at found
    rcases searchMatch_inv found with ⟨rfl, rfl⟩ | ⟨rfl, rfl⟩ | rfl
    · obtain rfl := Option.some.inj (digits.symm.trans (digitsValue_toDigits 1))
      exact .whole isLow isHigh
    · obtain rfl := Option.some.inj (digits.symm.trans (digitsValue_toDigits 1))
      exact .slashed isLow isHigh
    · exact .stepped isLow isHigh digits

/-- A single piece is no range. -/
theorem searchMatch_of_isSingle (lettered : Lettered column) {item : Item}
    (single : column.IsSingle text item) :
    searchMatch (column.starred text) = none ∧ column.starred text = text := by
  have plain (isPart : IsPart text) :
      searchMatch (column.starred text) = none ∧ column.starred text = text := by
    have same : column.starred text = text := by
      have unchanged : column.starred (text ++ []) = text ++ [] := isPart.starred_append []
      rwa [List.append_nil] at unchanged
    rw [same]
    exact ⟨Column.searchMatch_none (noHyphen isPart.solid), rfl⟩
  cases single with
  | star => exact ⟨rfl, rfl⟩
  | number digits => exact plain (isPart_of_digits digits)
  | name found => exact plain (isPart_of_lookup lettered found)

/-- A single piece is one item. -/
theorem isSingle_unique (lettered : Lettered column) {item other : Item}
    (single : column.IsSingle text item) (also : column.IsSingle text other) : item = other := by
  have noName {item : Item} (found : column.alphaconv.lookup (lower text) = some item) :
      text ≠ ['*'] ∧ digitsValue text = none := by
    have isPart := isPart_of_lookup lettered found
    refine ⟨?_, ?_⟩
    · rintro rfl
      exact isPart.noStar '*' List.mem_cons_self rfl
    · by_contra some
      obtain ⟨number, digits⟩ := Option.ne_none_iff_exists'.1 some
      obtain ⟨nonempty, all⟩ := isDigit_of_digitsValue digits
      obtain ⟨char, member⟩ := List.exists_mem_of_ne_nil text nonempty
      have letters := List.all_eq_true.1 (lettered.letters _ _ found)
      have letter := letters _ (List.mem_map_of_mem member)
      exact absurd (all char member) (by simp [(inBound_of_alpha letter).2.2])
  cases single with
  | star =>
    cases also with
    | star => rfl
    | number digits => cases digits
    | name found => exact absurd rfl (noName found).1
  | number digits =>
    cases also with
    | star => cases digits
    | number others => rw [Option.some.inj (digits.symm.trans others)]
    | name found => rw [(noName found).2] at digits; cases digits
  | name found =>
    cases also with
    | star => exact absurd rfl (noName found).1
    | number digits => rw [(noName found).2] at digits; cases digits
    | name others => exact Option.some.inj (found.symm.trans others)

/-- An item is one of a column. -/
def Fits (column : Column) (item : Item) : Prop :=
  ∀ number, item = .number number → column.low ≤ number ∧ number ≤ column.high

/-- A text is read if it is a single piece. -/
theorem settles_readItem : Settles (column.readItem text) (∃ item, column.IsSingle text item)
    (column.IsSingle text) := by
  unfold Column.readItem Column.named
  by_cases star : text = ['*']
  · rw [if_pos star]
    subst star
    exact ⟨⟨_, Column.IsSingle.star⟩, Column.IsSingle.star⟩
  · rw [if_neg star]
    cases digits : digitsValue text with
    | some number => exact ⟨⟨_, .number digits⟩, .number digits⟩
    | none =>
      dsimp only [Option.elim]
      cases found : column.alphaconv.lookup (lower text) with
      | some item => exact ⟨⟨_, .name found⟩, .name found⟩
      | none =>
        rintro ⟨item, single⟩
        cases single with
        | star => exact star rfl
        | number read => rw [digits] at read; cases read
        | name listed => rw [found] at listed; cases listed

/-- An item passes if what it stands for is one of the column. -/
theorem settles_checked (item : Item) : Settles (column.checked item)
    (Fits column (column.meant item)) (fun result => result = column.meant item) := by
  cases item with
  | number number =>
    unfold Column.checked
    by_cases outside : (column.lowmap.lookup number).getD number < column.low ∨
        column.high < (column.lowmap.lookup number).getD number
    · simp only [if_pos outside]
      intro fits
      have := fits _ rfl
      omega
    · simp only [if_neg outside]
      refine ⟨fun other same => ?_, rfl⟩
      cases same
      omega
  | star => exact ⟨fun _ same => (by cases same), rfl⟩
  | last => exact ⟨fun _ same => (by cases same), rfl⟩

/-- A single piece stands for an item of the column. -/
theorem settles_single (lettered : Lettered column) : Settles (column.single text)
    (∃ item, column.IsSingle text item ∧ Fits column (column.meant item))
    (fun result => ∃ item, column.IsSingle text item ∧ result = column.meant item) := by
  unfold Column.single
  have readable : Settles (column.readItem text) _ _ := settles_readItem
  cases read : column.readItem text with
  | error failure =>
    rw [read] at readable
    rintro ⟨item, single, -⟩
    exact readable ⟨item, single⟩
  | ok item =>
    rw [read] at readable
    have checks : Settles (column.checked item) _ _ := settles_checked item
    change Settles (column.checked item) _ _
    refine checks.mono ⟨fun fits => ⟨item, readable.2, fits⟩, ?_⟩
      fun result same => ⟨item, readable.2, same⟩
    rintro ⟨other, single, fits⟩
    exact isSingle_unique lettered single readable.2 ▸ fits

/-- A number stands for one of the column. -/
theorem settles_number (number : Nat) : Settles (column.single (decimal number))
    (Fits column (column.meant (.number number)))
    (fun result => result = column.meant (.number number)) := by
  have digits : digitsValue (decimal number) = some number := digitsValue_toDigits number
  have read : column.readItem (decimal number) = .ok (.number number) := by
    unfold Column.readItem
    rw [if_neg, digits]
    · rfl
    · intro star
      rw [star] at digits
      cases digits
  unfold Column.single
  rw [read]
  change Settles (column.checked (.number number)) _ _
  exact settles_checked _

/-! ## The loop over pieces -/

/-- The items of a piece. -/
def Column.piece (column : Column) (text : Text) : Except Failure (List Item) :=
  match searchMatch (column.starred text) with
  | some (low, high, step) => do
    let numbers ← column.numbers low high step
    numbers.reverse.mapM fun number => column.single (decimal number)
  | none => (column.single text).map fun item => [item]

/-- A piece has items if it has one of the forms, and these are what it names. -/
theorem settles_piece (lettered : Lettered column) : Settles (column.piece text)
    (column.Accepts text) (fun items => ∀ item, item ∈ items ↔ column.Names text item) := by
  unfold Column.piece
  cases found : searchMatch (column.starred text) with
  | none =>
    have noRange {first last times : Nat} : ¬column.IsRange text first last times := by
      intro isRange
      obtain ⟨low, high, step, isMatch, -⟩ := searchMatch_of_isRange lettered isRange
      rw [found] at isMatch
      cases isMatch
    have names (item : Item) : column.Names text item ↔
        ∃ single, column.IsSingle text single ∧ item = column.meant single := by
      constructor
      · rintro (⟨first, last, step, times, isRange, -⟩ | single)
        · exact absurd isRange noRange
        · exact single
      · exact .inr
    have accepts : column.Accepts text ↔
        ∃ item, column.IsSingle text item ∧ Fits column (column.meant item) := by
      constructor
      · rintro ⟨⟨first, last, step, isRange, -⟩ | ⟨item, single⟩, inRange⟩
        · exact absurd isRange noRange
        · refine ⟨item, single, fun number same => inRange number ?_⟩
          exact (names _).2 ⟨item, single, same.symm⟩
      · rintro ⟨item, single, fits⟩
        refine ⟨.inr ⟨item, single⟩, fun number named => ?_⟩
        obtain ⟨other, also, same⟩ := (names _).1 named
        rw [isSingle_unique lettered also single] at same
        exact fits number same.symm
    have settles : Settles (column.single text) _ _ := settles_single lettered
    cases read : column.single text with
    | error failure =>
      rw [read] at settles
      exact fun accepted => settles (accepts.1 accepted)
    | ok item =>
      rw [read] at settles
      obtain ⟨legible, single, isSingle, same⟩ := settles
      refine ⟨accepts.2 legible, fun other => ?_⟩
      rw [names, List.mem_singleton, same]
      constructor
      · rintro rfl
        exact ⟨single, isSingle, rfl⟩
      · rintro ⟨also, isAlso, rfl⟩
        rw [isSingle_unique lettered isAlso isSingle]
  | some parts =>
    obtain ⟨low, high, step⟩ := parts
    have noSingle {item : Item} : ¬column.IsSingle text item := by
      intro single
      rw [(searchMatch_of_isSingle lettered single).1] at found
      cases found
    have isRange_iff {first last times : Nat} : column.IsRange text first last times ↔
        column.IsEnd low first ∧ column.IsEnd high last ∧ digitsValue step = some times := by
      constructor
      · intro isRange
        obtain ⟨_, _, _, isMatch, ends⟩ := searchMatch_of_isRange lettered isRange
        rw [found] at isMatch
        cases isMatch
        exact ends
      · rintro ⟨isLow, isHigh, digits⟩
        exact isRange_of_searchMatch found isLow isHigh digits
    have settles : Settles (column.numbers low high step) _ _ := settles_numbers
    change Settles (column.numbers low high step >>= fun numbers =>
      numbers.reverse.mapM fun number => column.single (decimal number)) _ _
    cases written : column.numbers low high step with
    | error failure =>
      rw [written] at settles
      rintro ⟨⟨first, last, times, isRange, ordered, positive⟩ | ⟨item, single⟩, -⟩
      · obtain ⟨isLow, isHigh, digits⟩ := isRange_iff.1 isRange
        exact settles ⟨first, last, times, isLow, isHigh, digits, ordered, positive⟩
      · exact noSingle single
    | ok numbers =>
      rw [written] at settles
      obtain ⟨-, first, last, times, given, rfl⟩ := settles
      have isRange := isRange_iff.2 ⟨given.low, given.high, given.step⟩
      have names (item : Item) : column.Names text item ↔
          ∃ number ∈ (List.range' first ((last - first) / times + 1) times).reverse,
            item = column.meant (.number number) := by
        constructor
        · rintro (⟨_, _, _, steps, also, positive, inside, rfl⟩ | ⟨item, single, -⟩)
          · obtain ⟨isLow, isHigh, digits⟩ := isRange_iff.1 also
            obtain rfl := isEnd_unique isLow given.low
            obtain rfl := isEnd_unique isHigh given.high
            obtain rfl := Option.some.inj (digits.symm.trans given.step)
            exact ⟨_, List.mem_reverse.2 ((mem_steps given.ordered given.positive).2
              ⟨steps, inside, rfl⟩), rfl⟩
          · exact absurd single noSingle
        · rintro ⟨number, member, rfl⟩
          obtain ⟨steps, inside, rfl⟩ :=
            (mem_steps given.ordered given.positive).1 (List.mem_reverse.1 member)
          exact .inl ⟨first, last, times, steps, isRange, given.positive, inside, rfl⟩
      refine (settles_mapM settles_number _).mono ?_ fun items related item => ?_
      · constructor
        · intro fits
          refine ⟨.inl ⟨first, last, times, isRange, given.ordered, given.positive⟩,
            fun number named => ?_⟩
          obtain ⟨other, member, same⟩ := (names _).1 named
          exact fits other member number same.symm
        · rintro ⟨-, inRange⟩ number member other same
          exact inRange other ((names _).2 ⟨number, member, same.symm⟩)
      · have all : List.map (fun number => column.meant (.number number)) _ = items.map id :=
          map_eq_of_forall₂ (fun number item same => same.symm) related
        rw [List.map_id] at all
        rw [names, ← all, List.mem_map]
        constructor
        · rintro ⟨number, member, rfl⟩
          exact ⟨number, member, rfl⟩
        · rintro ⟨number, member, rfl⟩
          exact ⟨number, member, rfl⟩

/-- Numbers on top of the list are taken one after the other. -/
theorem expandLoop_numbers (numbers : List Nat) (stack : List Text) (res : List Item) :
    column.expandLoop (numbers.map decimal ++ stack) res =
      (numbers.mapM fun number => column.single (decimal number)) >>= fun items =>
        column.expandLoop stack (res ++ items) := by
  induction numbers generalizing res with
  | nil =>
    rw [List.map_nil, List.nil_append, List.mapM_nil]
    change _ = column.expandLoop stack (res ++ [])
    rw [List.append_nil]
  | cons number numbers inductionHypothesis =>
    have digits : (decimal number).all Char.isDigit = true := List.all_eq_true.2 fun char member =>
      Nat.isDigit_of_mem_toDigits (by decide) (by decide) member
    rw [List.map_cons, List.cons_append, Column.expandLoop, List.mapM_cons]
    split
    · rename_i isMatch
      rw [Column.searchMatch_digits column digits] at isMatch
      cases isMatch
    · rw [Column.starred_digits column digits]
      cases column.single (decimal number) with
      | error failure => rfl
      | ok item =>
        dsimp only
        rw [inductionHypothesis]
        cases numbers.mapM fun number => column.single (decimal number) with
        | error failure => rfl
        | ok items =>
          change column.expandLoop stack (res ++ [item] ++ items) =
            column.expandLoop stack (res ++ item :: items)
          rw [List.append_assoc]
          rfl

/-- The loop takes one piece after the other. -/
theorem expandLoop_cons (text : Text) (stack : List Text) (res : List Item) :
    column.expandLoop (text :: stack) res =
      column.piece text >>= fun items => column.expandLoop stack (res ++ items) := by
  rw [Column.expandLoop]
  unfold Column.piece
  split
  · rename_i low high step isMatch
    rw [isMatch]
    dsimp only
    cases column.numbers low high step with
    | error failure => rfl
    | ok numbers =>
      dsimp only
      rw [← List.map_reverse, expandLoop_numbers]
      rfl
  · rename_i isMatch
    have same : column.starred text = text := by
      unfold Column.starred
      split
      · rename_i next rest
        rw [searchMatch_star] at isMatch
        cases isMatch
      · rfl
    rw [isMatch, same]
    cases column.single text with
    | error failure => rfl
    | ok item => rfl

/-- Numbers are in front of texts, and numbers are in their order. -/
theorem item_preorder : Paging.Preorder Item.le where
  total first second := by
    cases first <;> cases second <;> simp [Item.le, Nat.le_total]
  trans first second third := by
    cases first <;> cases second <;> cases third <;> simp [Item.le]
    exact Nat.le_trans

/-- The loop ends with what all pieces name. -/
theorem settles_expandLoop (lettered : Lettered column) (stack : List Text) (res : List Item) :
    Settles (column.expandLoop stack res) (∀ text ∈ stack, column.Accepts text)
      (fun items => ∀ item, item ∈ items ↔ item ∈ res ∨ ∃ text ∈ stack, column.Names text item) := by
  induction stack generalizing res with
  | nil =>
    rw [Column.expandLoop]
    refine ⟨fun text member => (by cases member), fun item => ?_⟩
    simp
  | cons text stack inductionHypothesis =>
    rw [expandLoop_cons, List.forall_mem_cons]
    refine (settles_piece lettered).bind fun items named => ?_
    refine (inductionHypothesis (res ++ items)).mono Iff.rfl fun all holds item => ?_
    rw [holds, List.mem_append, named, or_assoc, List.exists_mem_cons_iff]

/-- All pieces of a column are accepted. -/
def Legible (column : Column) (expr : Text) : Prop := ∀ piece ∈ expr.splitOn ',', column.Accepts piece

/-- A column lists in order what its pieces name. -/
structure Written (column : Column) (expr : Text) (items : List Item) : Prop where
  legible : Legible column expr
  sorted : items.Pairwise fun first second => first.le second = true
  names : ∀ item, item ∈ items ↔ ∃ piece ∈ expr.splitOn ',', column.Names piece item

/-- A column is written out exactly if all its pieces are accepted. -/
theorem settles_expand (lettered : Lettered column) (expr : Text) :
    Settles (column.expand expr) (Legible column expr) (Written column expr) := by
  have loop := settles_expandLoop lettered (expr.splitOn ',').reverse []
  unfold Column.expand
  cases written : column.expandLoop (expr.splitOn ',').reverse [] with
  | error failure =>
    rw [written] at loop
    exact fun accepted => loop fun text member => accepted text (List.mem_reverse.1 member)
  | ok items =>
    rw [written] at loop
    have legible : Legible column expr := fun piece member =>
      loop.1 piece (List.mem_reverse.2 member)
    refine ⟨legible, legible, (item_preorder.ordered_insertionSort items).2, fun item => ?_⟩
    rw [List.mem_insertionSort, loop.2]
    simp

end Pieces

/-! ## Expressions -/

/-- The columns are written out if each of them can be. -/
theorem settles_expandAll {columns : List Column}
    (lettered : ∀ column ∈ columns, Lettered column) (exprs : List Text) :
    Settles (expandAll columns exprs) (∀ pair ∈ columns.zip exprs, Legible pair.1 pair.2)
      (List.Forall₂ (fun pair items => Written pair.1 pair.2 items) (columns.zip exprs)) := by
  induction columns generalizing exprs with
  | nil => exact ⟨fun pair member => (by cases member), .nil⟩
  | cons column columns inductionHypothesis =>
    cases exprs with
    | nil => exact ⟨fun pair member => (by cases member), .nil⟩
    | cons expr exprs =>
      rw [List.forall_mem_cons] at lettered
      rw [List.zip_cons_cons, List.forall_mem_cons]
      unfold expandAll
      have both (items : List Item) (written : Written column expr items) :
          Settles (expandAll columns exprs >>= fun rest => Pure.pure (items :: rest))
            ((∀ pair ∈ columns.zip exprs, Legible pair.1 pair.2) ∧ True)
            (List.Forall₂ (fun pair items => Written pair.1 pair.2 items)
              ((column, expr) :: columns.zip exprs)) :=
        (inductionHypothesis lettered.2 exprs).bind fun rest others => .pure (.cons written others)
      refine ((settles_expand lettered.1 expr).bind both).mono ?_ fun _ all => all
      rw [and_true]

/-- An expression is accepted exactly if it has five or six columns and all their pieces are
accepted. Each column then lists in order what its pieces name. -/
theorem expression_read (exprFormat : Text) (startTime : Moment) :
    Settles (init exprFormat startTime)
      (((words isSpace exprFormat).length = 5 ∨ (words isSpace exprFormat).length = 6) ∧
        ∀ pair ∈ columns.zip (words isSpace exprFormat), Legible pair.1 pair.2)
      (fun croniter => croniter.cur = startTime ∧
        List.Forall₂ (fun pair items => Written pair.1 pair.2 items)
          (columns.zip (words isSpace exprFormat)) croniter.expanded) := by
  unfold init
  dsimp only
  by_cases count : (words isSpace exprFormat).length = 5 ∨ (words isSpace exprFormat).length = 6
  · rw [if_neg (by omega)]
    have all := settles_expandAll (fun column member => lettered_of_mem member)
      (words isSpace exprFormat)
    cases written : expandAll columns (words isSpace exprFormat) with
    | error failure =>
      rw [written] at all
      exact fun both => all both.2
    | ok expanded =>
      rw [written] at all
      exact ⟨⟨count, all.1⟩, rfl, all.2⟩
  · rw [if_pos (by omega)]
    exact fun both => count both.1

/-! ## Columns of numbers -/

/-- Restricted columns list numbers alone. -/
def OnlyNumbers (expanded : List (List Item)) : Prop :=
  ∀ items ∈ expanded, restricted items = true → ∀ item ∈ items, ∃ number, item = .number number

/-- A column of numbers that is written out is plain. -/
theorem plain_of_written {column : Column} {expr : Text} {items : List Item}
    (written : Written column expr items)
    (numbers : restricted items = true → ∀ item ∈ items, ∃ number, item = .number number) :
    Plain column items := by
  intro restricts
  have only := numbers restricts
  have values : ∃ values : List Nat, items = values.map .number := by
    clear restricts numbers written
    induction items with
    | nil => exact ⟨[], rfl⟩
    | cons item items inductionHypothesis =>
      obtain ⟨values, same⟩ := inductionHypothesis fun other member =>
        only other (List.mem_cons_of_mem _ member)
      obtain ⟨number, isNumber⟩ := only item List.mem_cons_self
      exact ⟨number :: values, by rw [isNumber, same, List.map_cons]⟩
  obtain ⟨values, rfl⟩ := values
  refine ⟨values, rfl, ?_, ?_, fun value member => ?_⟩
  · obtain ⟨piece, member⟩ := List.exists_mem_of_ne_nil _ (List.splitOn_ne_nil ',' expr)
    have named : ∃ item, column.Names piece item := by
      rcases (written.legible piece member).1 with
        ⟨first, last, step, isRange, ordered, positive⟩ | ⟨single, isSingle⟩
      · exact ⟨_, .inl ⟨first, last, step, 0, isRange, positive, by omega, rfl⟩⟩
      · exact ⟨_, .inr ⟨single, isSingle, rfl⟩⟩
    obtain ⟨item, names⟩ := named
    rintro rfl
    cases (written.names item).2 ⟨piece, member, names⟩
  · have sorted := written.sorted
    rw [List.pairwise_map] at sorted
    exact sorted.imp fun le => of_decide_eq_true le
  · obtain ⟨piece, inside, names⟩ := (written.names _).1 (List.mem_map_of_mem member)
    have bounds := (written.legible piece inside).2 value names
    omega

/-- The columns of an accepted expression are plain if they list numbers. -/
theorem allPlain_of_init {exprFormat : Text} {startTime : Moment} {croniter : Croniter}
    (read : init exprFormat startTime = .ok croniter) (numbers : OnlyNumbers croniter.expanded) :
    AllPlain croniter.expanded := by
  obtain ⟨⟨count, -⟩, -, all⟩ := (expression_read exprFormat startTime).of_ok read
  generalize words isSpace exprFormat = exprs at count all
  generalize croniter.expanded = expanded at all numbers
  have plain {column : Column} {expr : Text} {items : List Item}
      (written : Written column expr items) (member : items ∈ expanded) : Plain column items :=
    plain_of_written written (numbers items member)
  rcases exprs with _ | ⟨minute, _ | ⟨hour, _ | ⟨day, _ | ⟨month, _ | ⟨weekday, rest⟩⟩⟩⟩⟩
  · simp at count
  · simp at count
  · simp at count
  · simp at count
  · simp at count
  · simp only [columns, List.zip_cons_cons, List.forall₂_cons_left_iff] at all
    obtain ⟨minutes, _, isMinute, ⟨hours, _, isHour, ⟨days, _, isDay, ⟨months, _, isMonth, ⟨weekdays,
      seconds, isWeekday, isSecond, rfl⟩, rfl⟩, rfl⟩, rfl⟩, rfl⟩ := all
    refine ⟨plain isMinute (by simp [columnAt]), plain isHour (by simp [columnAt]),
      plain isDay (by simp [columnAt]), plain isMonth (by simp [columnAt]),
      plain isWeekday (by simp [columnAt]), fun toCheck member => ?_, ?_⟩
    · cases rest with
      | nil =>
        cases isSecond
        cases member
      | cons second rest =>
        rw [List.zip_cons_cons, List.zip_nil_left] at isSecond
        cases isSecond with
        | cons isSecond others =>
          cases others
          cases member
          exact plain isSecond (by simp)
    · cases rest with
      | nil =>
        cases isSecond
        exact .inl rfl
      | cons second rest =>
        rw [List.zip_cons_cons, List.zip_nil_left] at isSecond
        cases isSecond with
        | cons isSecond others =>
          cases others
          exact .inr rfl

end Palette.Sched.Croniter
