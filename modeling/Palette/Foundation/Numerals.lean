import Mathlib.Algebra.Order.Ring.Nat
import Mathlib.Data.Char
import Mathlib.Data.List.Basic
import Mathlib.Order.Monotone.Defs
import Mathlib.Tactic.Ring

/-!
# Numerals in dictionary order

Numerals are lists of digits with the highest place first. A dictionary compares two of
them digit by digit. It agrees with their values when they are equally long. Of a longer
numeral only as many first digits are compared as the other has, so that it comes before
the shorter one exactly if these digits have a smaller value.
-/

namespace Palette.Foundation.Numerals

universe u

variable {Digit : Type u} (weight : Digit → Nat) (base : Nat)

/-- The value of a numeral. -/
def value : List Digit → Nat
  | [] => 0
  | digit :: rest => weight digit * base ^ rest.length + value rest

/-- Every digit has a weight below the base. -/
def Within (digits : List Digit) : Prop := ∀ digit ∈ digits, weight digit < base

variable {weight base}

theorem within_cons {digit : Digit} {rest : List Digit} :
    Within weight base (digit :: rest) ↔ weight digit < base ∧ Within weight base rest :=
  List.forall_mem_cons

/-- A numeral is below the place after its highest one. -/
theorem value_lt {digits : List Digit} (within : Within weight base digits) :
    value weight base digits < base ^ digits.length := by
  induction digits with
  | nil => exact Nat.one_pos
  | cons digit rest inductionHypothesis =>
    obtain ⟨small, others⟩ := within_cons.mp within
    have low := inductionHypothesis others
    have high : (weight digit + 1) * base ^ rest.length ≤ base * base ^ rest.length :=
      Nat.mul_le_mul_right _ small
    rw [value, List.length_cons, Nat.pow_succ']
    rw [Nat.add_mul, Nat.one_mul] at high
    omega

/-- Highest digits decide unless they are equal. -/
theorem high_lt_iff {place left right leftRest rightRest : Nat} (leftLow : leftRest < place)
    (rightLow : rightRest < place) :
    left * place + leftRest < right * place + rightRest ↔
      left < right ∨ left = right ∧ leftRest < rightRest := by
  rcases Nat.lt_trichotomy left right with less | same | more
  · have apart : (left + 1) * place ≤ right * place := Nat.mul_le_mul_right _ less
    rw [Nat.add_mul, Nat.one_mul] at apart
    exact iff_of_true (by omega) (.inl less)
  · subst same
    simp
  · have apart : (right + 1) * place ≤ left * place := Nat.mul_le_mul_right _ more
    rw [Nat.add_mul, Nat.one_mul] at apart
    exact iff_of_false (by omega) (by omega)

variable [LinearOrder Digit]

/-- A numeral comes before one that is no longer exactly if its first digits, as many as the
other has, have a smaller value. -/
theorem lex_iff (ordered : StrictMonoOn weight {digit | weight digit < base})
    {left right : List Digit} (leftWithin : Within weight base left)
    (rightWithin : Within weight base right) (longer : right.length ≤ left.length) :
    List.Lex (· < ·) left right ↔
      value weight base left / base ^ (left.length - right.length) < value weight base right := by
  induction right generalizing left with
  | nil => exact iff_of_false List.not_lex_nil (Nat.not_lt_zero _)
  | cons digit rest inductionHypothesis =>
    cases left with
    | nil => cases longer
    | cons other more =>
      obtain ⟨small, restWithin⟩ := within_cons.mp rightWithin
      obtain ⟨otherSmall, moreWithin⟩ := within_cons.mp leftWithin
      have longerRest : rest.length ≤ more.length := Nat.le_of_succ_le_succ longer
      have positive : 0 < base := Nat.zero_lt_of_lt small
      have room : 0 < base ^ (more.length - rest.length) := Nat.pow_pos positive
      -- The places that the longer numeral has more are cut off.
      have split : base ^ more.length =
          base ^ (more.length - rest.length) * base ^ rest.length := by
        rw [← Nat.pow_add, Nat.sub_add_cancel longerRest]
      have cut : value weight base (other :: more) / base ^ (more.length - rest.length) =
          weight other * base ^ rest.length +
            value weight base more / base ^ (more.length - rest.length) := by
        rw [value, split, Nat.mul_left_comm, Nat.mul_add_div room]
      have moreLow : value weight base more / base ^ (more.length - rest.length) <
          base ^ rest.length := by
        rw [Nat.div_lt_iff_lt_mul room, Nat.mul_comm, ← split]
        exact value_lt moreWithin
      have same : weight other = weight digit ↔ other = digit :=
        ⟨fun equal => ordered.injOn otherSmall small equal, fun equal => equal ▸ rfl⟩
      rw [List.cons_lex_cons_iff, inductionHypothesis moreWithin restWithin longerRest,
        List.length_cons, List.length_cons, Nat.succ_sub_succ, cut, value,
        high_lt_iff moreLow (value_lt restWithin), same, ordered.lt_iff_lt otherSmall small]

/-! ## Decimal texts -/

/-- The weight of a character in the decimal system; ten for one that is no digit. -/
def decimalWeight (char : Char) : Nat := if char.isDigit then char.toNat - '0'.toNat else 10

/-- A digit has a code from that of zero to that of nine. -/
theorem isDigit_bounds {char : Char} (digit : char.isDigit = true) :
    48 ≤ char.toNat ∧ char.toNat ≤ 57 := Char.isDigit_iff_toNat.mp digit

/-- The characters with a weight below ten are the digits. -/
theorem decimalWeight_lt_iff (char : Char) : decimalWeight char < 10 ↔ char.isDigit = true := by
  unfold decimalWeight
  split
  case isTrue digit =>
    have bounds := isDigit_bounds digit
    have zero : '0'.toNat = 48 := rfl
    exact iff_of_true (by omega) digit
  case isFalse noDigit => exact iff_of_false (by omega) noDigit

/-- Digits are in the order of their weights. -/
theorem decimalWeight_strictMonoOn : StrictMonoOn decimalWeight {char | decimalWeight char < 10} := by
  intro char small other otherSmall less
  have digit := (decimalWeight_lt_iff char).mp small
  have otherDigit := (decimalWeight_lt_iff other).mp otherSmall
  have bounds := isDigit_bounds digit
  have apart : char.toNat < other.toNat := less
  have zero : '0'.toNat = 48 := rfl
  simp only [decimalWeight, digit, otherDigit, if_true]
  omega

/-- The decimal text of a number has digits only. -/
theorem within_toDigits (number : Nat) : Within decimalWeight 10 (Nat.toDigits 10 number) :=
  fun char member => (decimalWeight_lt_iff char).mpr
    (Nat.isDigit_of_mem_toDigits (by decide) (by decide) member)

/-- The value of digits is what reading them from the first to the last gives. -/
theorem ofDigitChars_eq {digits : List Char} (within : Within decimalWeight 10 digits)
    (start : Nat) : Nat.ofDigitChars 10 digits start =
      start * 10 ^ digits.length + value decimalWeight 10 digits := by
  induction digits generalizing start with
  | nil => simp [value]
  | cons digit rest inductionHypothesis =>
    obtain ⟨small, others⟩ := within_cons.mp within
    have weighed : decimalWeight digit = digit.toNat - '0'.toNat :=
      if_pos ((decimalWeight_lt_iff digit).mp small)
    rw [Nat.ofDigitChars_cons, inductionHypothesis others, value, weighed, List.length_cons,
      Nat.pow_succ']
    ring

/-- The decimal text of a number has that number as its value. -/
theorem value_toDigits (number : Nat) :
    value decimalWeight 10 (Nat.toDigits 10 number) = number := by
  have read := ofDigitChars_eq (within_toDigits number) 0
  rw [Nat.ofDigitChars_ten_toDigits, Nat.zero_mul, Nat.zero_add] at read
  exact read.symm

/-- A decimal text is read up to where no digit follows. -/
theorem toDigits_append_inj {number other : Nat} {rest others : List Char}
    (ends : ∀ char ∈ rest.head?, char.isDigit = false)
    (othersEnd : ∀ char ∈ others.head?, char.isDigit = false)
    (same : Nat.toDigits 10 number ++ rest = Nat.toDigits 10 other ++ others) :
    number = other ∧ rest = others := by
  have digits (number : Nat) : ∀ char ∈ Nat.toDigits 10 number, char.isDigit = true :=
    fun _ member => Nat.isDigit_of_mem_toDigits (by decide) (by decide) member
  have taken (number : Nat) {rest : List Char}
      (ends : ∀ char ∈ rest.head?, char.isDigit = false) :
      (Nat.toDigits 10 number ++ rest).takeWhile Char.isDigit = Nat.toDigits 10 number := by
    rw [List.takeWhile_append_of_pos (digits number)]
    cases rest with
    | nil => rw [List.takeWhile_nil, List.append_nil]
    | cons char rest => simp [ends char rfl]
  have front : Nat.toDigits 10 number = Nat.toDigits 10 other := by
    rw [← taken number ends, ← taken other othersEnd, same]
  refine ⟨?_, ?_⟩
  · rw [← value_toDigits number, front, value_toDigits]
  · rw [front] at same
    exact List.append_cancel_left same

/-- A smaller number has no more digits. -/
theorem length_toDigits_mono {less more : Nat} (ordered : less ≤ more) :
    (Nat.toDigits 10 less).length ≤ (Nat.toDigits 10 more).length := by
  rw [Nat.length_toDigits_le_iff (by decide) Nat.length_toDigits_pos]
  exact Nat.lt_of_le_of_lt ordered
    ((Nat.length_toDigits_le_iff (by decide) Nat.length_toDigits_pos).mp le_rfl)

/-- The decimal text of a number comes before that of a smaller one exactly if its first digits,
as many as the other has, make a smaller number. -/
theorem toDigits_lex_iff {number smaller : Nat} (ordered : smaller ≤ number) :
    List.Lex (· < ·) (Nat.toDigits 10 number) (Nat.toDigits 10 smaller) ↔
      number / 10 ^ ((Nat.toDigits 10 number).length - (Nat.toDigits 10 smaller).length) <
        smaller := by
  rw [lex_iff decimalWeight_strictMonoOn (within_toDigits number) (within_toDigits smaller)
    (length_toDigits_mono ordered), value_toDigits, value_toDigits]

end Palette.Foundation.Numerals
