import Mathlib.Data.List.Basic

/-!
# Resuming after the newest stored time

An incremental copy asks only for what is newer than everything it has stored. The
newest stored time is the maximum of the stored times, and nothing stored means no
bound.
-/

namespace Palette.Foundation.Watermark

/-- Nothing stored gives no bound; otherwise a time has to exceed the newest one. -/
def exceeds (stored : List Nat) (time : Nat) : Bool :=
  match stored.max? with
  | none => true
  | some newest => decide (newest < time)

/-- Exceeding the newest stored time is exceeding every one. -/
theorem exceeds_iff (stored : List Nat) (time : Nat) :
    exceeds stored time = true ↔ ∀ other ∈ stored, other < time := by
  unfold exceeds
  cases newest : stored.max? with
  | none =>
    rw [List.max?_eq_none_iff] at newest
    simp [newest]
  | some bound =>
    obtain ⟨member, largest⟩ := List.max?_eq_some_iff.mp newest
    simp only [decide_eq_true_eq]
    exact ⟨fun below other stored => Nat.lt_of_le_of_lt (largest other stored) below,
      fun below => below bound member⟩

end Palette.Foundation.Watermark
