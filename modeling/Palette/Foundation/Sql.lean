import Mathlib.Data.List.Basic
import Mathlib.Data.Option.Basic

/-!
# Membership tests over nullable values

A comparison with NULL is unknown, and a condition selects a row only when it is
true. Membership in a list is the disjunction of its comparisons, so one NULL in the
list keeps every negated membership from being true. The empty list is rendered as a
comparison of the tested value with itself, which NULL does not pass either.
-/

namespace Palette.Foundation.Sql

universe u

variable {α : Type u} [DecidableEq α]

/-- A truth value; `none` is unknown. -/
abbrev Truth := Option Bool

/-- Equality of nullable values. -/
def equal : Option α → Option α → Truth
  | some left, some right => some (decide (left = right))
  | _, _ => none

/-- Disjunction: one true operand suffices, else one unknown operand leaves it open. -/
def either : Truth → Truth → Truth
  | some true, _ => some true
  | _, some true => some true
  | some false, some false => some false
  | _, _ => none

/-- `value IN (values)`. -/
def isIn (value : Option α) : List (Option α) → Truth
  | [] => some false
  | first :: rest => either (equal value first) (isIn value rest)

/-- `NOT (value IN (values))`, with the empty list rendered as `value = value`. -/
def notIn (value : Option α) (values : List (Option α)) : Truth :=
  if values = [] then equal value value else (isIn value values).map not

/-- A condition selects a row only when it is true. -/
def selects (truth : Truth) : Bool := truth == some true

/-- A disjunction is false exactly when both operands are. -/
theorem either_eq_false (left right : Truth) :
    either left right = some false ↔ left = some false ∧ right = some false := by
  rcases left with _ | _ | _ <;> rcases right with _ | _ | _ <;> simp [either]

/-- Equality is false exactly between two different known values. -/
theorem equal_eq_false (left right : Option α) :
    equal left right = some false ↔
      ∃ known other, left = some known ∧ right = some other ∧ known ≠ other := by
  cases left <;> cases right <;> simp [equal]

/-- Membership is false exactly when a known value differs from every known member
and no member is unknown. Induct on the list; each comparison must be false. -/
theorem isIn_eq_false (known : α) (values : List (Option α)) :
    isIn (some known) values = some false ↔ none ∉ values ∧ some known ∉ values := by
  induction values with
  | nil => simp [isIn]
  | cons first rest inductionHypothesis =>
    rw [isIn, either_eq_false, inductionHypothesis]
    cases first with
    | none => simp [equal]
    | some other =>
      simp only [equal, Option.some.injEq, decide_eq_false_iff_not, List.mem_cons, reduceCtorEq,
        false_or, not_or]
      tauto

/-- An unknown value is in a nonempty list neither for certain nor for certain not. -/
theorem isIn_none (values : List (Option α)) (nonempty : values ≠ []) :
    isIn none values = (none : Truth) := by
  induction values with
  | nil => exact absurd rfl nonempty
  | cons first rest inductionHypothesis =>
    cases rest with
    | nil => rfl
    | cons second rest =>
      rw [isIn, inductionHypothesis (List.cons_ne_nil second rest)]
      rfl

/-- A negated membership selects exactly the known values that are not in a list
without an unknown member. -/
theorem selects_notIn (value : Option α) (values : List (Option α)) :
    selects (notIn value values) = true ↔
      ∃ known, value = some known ∧ none ∉ values ∧ some known ∉ values := by
  unfold notIn selects
  by_cases empty : values = []
  · subst empty
    cases value <;> simp [equal]
  · rw [if_neg empty]
    cases value with
    | none => simp [isIn_none values empty]
    | some known =>
      simp only [beq_iff_eq, Option.map_eq_some_iff, Bool.not_eq_true', exists_eq_right,
        isIn_eq_false, Option.some.injEq, exists_eq_left']

end Palette.Foundation.Sql
