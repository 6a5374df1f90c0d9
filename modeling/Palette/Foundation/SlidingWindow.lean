import Mathlib.Algebra.Order.Group.Defs
import Mathlib.Data.List.Count
import Mathlib.Tactic.Abel

/-!
# Limits in sliding windows

A limit on what happens in any window of a given length. Something that happens now is
admitted if it and what happened in the window that ends now stay within the limit. It is
enough to check this on a log from which everything older than the window was removed.
-/

namespace Palette.Foundation.SlidingWindow

universe u

variable {Time : Type u} [AddCommGroup Time] [LinearOrder Time]

/-- How many of the times are in a window. Both of its ends belong to it. -/
def inWindow (start length : Time) (times : List Time) : Nat :=
  times.countP fun time => start ≤ time ∧ time ≤ start + length

/-- No window of the length holds more times than the limit. -/
def AtMost (limit : Nat) (length : Time) (times : List Time) : Prop :=
  ∀ start, inWindow start length times ≤ limit

/-- The times in the window that ends now, or later. -/
def recent (now length : Time) (times : List Time) : List Time :=
  times.filter fun time => now - length ≤ time

@[simp] theorem recent_nil (now length : Time) : recent now length [] = [] := rfl

@[simp] theorem recent_append (now length : Time) (times others : List Time) :
    recent now length (times ++ others) = recent now length times ++ recent now length others :=
  List.filter_append ..

theorem atMost_nil (limit : Nat) (length : Time) : AtMost limit length [] :=
  fun _ => Nat.zero_le _

variable [IsOrderedAddMonoid Time]

/-- What was removed from a log earlier is not recent later. -/
theorem recent_recent {now later : Time} (ordered : now ≤ later) (length : Time)
    (times : List Time) :
    recent later length (recent now length times) = recent later length times := by
  simp only [recent, List.filter_filter]
  congr 1
  funext time
  have weaker : later - length ≤ time → now - length ≤ time :=
    fun enough => (sub_le_sub_right ordered length).trans enough
  by_cases enough : later - length ≤ time
  · simp [enough, weaker enough]
  · simp [enough]

/-- A time may be added at the end if the window that ends with it stays within the limit. -/
theorem AtMost.append {limit : Nat} {length now : Time} {times : List Time}
    (bounded : AtMost limit length times)
    (few : (recent now length (times ++ [now])).length ≤ limit) :
    AtMost limit length (times ++ [now]) := by
  intro start
  by_cases covers : now ≤ start + length
  · have within : inWindow start length (times ++ [now]) ≤
        (times ++ [now]).countP fun time => now - length ≤ time := by
      apply List.countP_mono_left
      intro time _ inside
      simp only [decide_eq_true_eq] at inside ⊢
      exact (sub_le_iff_le_add.mpr covers).trans inside.1
    rw [List.countP_eq_length_filter] at within
    exact within.trans few
  · have outside : inWindow start length (times ++ [now]) = inWindow start length times := by
      simp [inWindow, List.countP_append, covers]
    rw [outside]
    exact bounded start

end Palette.Foundation.SlidingWindow
