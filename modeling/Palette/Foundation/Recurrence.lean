import Mathlib.Data.Int.LeastGreatest
import Mathlib.Tactic.Ring

/-!
# Times that recur

Time is cut into periods of equal length. On some of the periods there is something at certain
times, which are counted from the beginning of the period and lie in a window there. If the window
is no longer than half a period, a shift of all these times leaves them as they are only if it is a
shift by whole periods, and the periods have to be shifted onto each other then.
-/

namespace Palette.Foundation.Recurrence

variable (period : Int) (day moment : Int → Prop)

/-- There is something at a time. -/
def Recurs (time : Int) : Prop := day (time / period) ∧ moment (time % period)

variable {period day moment} {window shift : Int}

/-- The times of a period. -/
theorem recurs_iff (positive : 0 < period) (number offset : Int)
    (within : 0 ≤ offset ∧ offset < period) :
    Recurs period day moment (period * number + offset) ↔ day number ∧ moment offset := by
  have quotient : (period * number + offset) / period = number := by
    rw [Int.add_comm, Int.add_mul_ediv_left _ _ positive.ne',
      Int.ediv_eq_zero_of_lt within.1 within.2, Int.zero_add]
  have remainder : (period * number + offset) % period = offset := by
    rw [Int.add_comm, Int.add_mul_emod_self_left, Int.emod_eq_of_lt within.1 within.2]
  rw [Recurs, quotient, remainder]

/-- A shift by less than a period that keeps what recurs is none: the last moment cannot move to a
later one of its period, and the first one not to an earlier one of the next period. -/
theorem shift_eq_zero (inWindow : ∀ offset, moment offset → 0 ≤ offset ∧ offset < window)
    (short : 2 * window ≤ period) (recurs : ∃ offset, moment offset)
    (notNegative : 0 ≤ shift) (below : shift < period)
    (kept : ∀ offset, moment offset → moment ((offset + shift) % period)) : shift = 0 := by
  obtain ⟨offset, there⟩ := recurs
  obtain ⟨first, isMoment, earliest⟩ := Int.exists_least_of_bdd (P := moment)
    ⟨0, fun other isThere => (inWindow other isThere).1⟩ ⟨offset, there⟩
  obtain ⟨last, lastMoment, latest⟩ := Int.exists_greatest_of_bdd (P := moment)
    ⟨window, fun other isThere => (inWindow other isThere).2.le⟩ ⟨offset, there⟩
  have firstIn := inWindow first isMoment
  have lastIn := inWindow last lastMoment
  have movedLast := kept last lastMoment
  have movedFirst := kept first isMoment
  rcases lt_or_ge (last + shift) period with same | next
  · rw [Int.emod_eq_of_lt (by omega) same] at movedLast
    have := latest _ movedLast
    omega
  · rcases lt_or_ge (first + shift) period with firstSame | firstNext
    · rw [Int.emod_eq_of_lt (by omega) firstSame] at movedFirst
      have := (inWindow _ movedFirst).2
      omega
    · have wrapped : (first + shift) % period = first + shift - period := by
        rw [← Int.sub_emod_right, Int.emod_eq_of_lt (by omega) (by omega)]
      rw [wrapped] at movedFirst
      have := earliest _ movedFirst
      omega

/-- What recurs somewhere is kept by a shift exactly if this is one by whole periods, after which
there is something on the same periods as before. -/
theorem shifted_iff (inWindow : ∀ offset, moment offset → 0 ≤ offset ∧ offset < window)
    (short : 2 * window ≤ period) (somewhere : ∃ number, day number)
    (recurs : ∃ offset, moment offset) :
    (∀ time, Recurs period day moment (time + shift) ↔ Recurs period day moment time) ↔
      period ∣ shift ∧ ∀ number, day (number + shift / period) ↔ day number := by
  obtain ⟨number, isDay⟩ := somewhere
  obtain ⟨offset, isMoment⟩ := recurs
  have placed := inWindow offset isMoment
  have positive : 0 < period := by omega
  constructor
  · intro kept
    have remains : shift % period = 0 := by
      refine shift_eq_zero inWindow short ⟨offset, isMoment⟩ (Int.emod_nonneg _ positive.ne')
        (Int.emod_lt_of_pos _ positive) fun other there => ?_
      have within := inWindow other there
      have recursThen := (kept (period * number + other)).mpr
        ((recurs_iff positive number other ⟨within.1, by omega⟩).mpr ⟨isDay, there⟩)
      have same : (period * number + other + shift) % period =
          (other + shift % period) % period := by
        rw [Int.add_assoc, Int.mul_add_emod_self_left, Int.add_emod_emod]
      rw [← same]
      exact recursThen.2
    obtain ⟨times, rfl⟩ := Int.dvd_of_emod_eq_zero remains
    refine ⟨Int.dvd_mul_right period times, fun other => ?_⟩
    rw [Int.mul_ediv_cancel_left _ positive.ne']
    have moved := kept (period * other + offset)
    have front : period * other + offset + period * times = period * (other + times) + offset := by
      ring
    rw [front, recurs_iff positive _ _ ⟨placed.1, by omega⟩,
      recurs_iff positive _ _ ⟨placed.1, by omega⟩] at moved
    simpa [isMoment] using moved
  · rintro ⟨⟨times, rfl⟩, same⟩ time
    rw [Int.mul_ediv_cancel_left _ positive.ne'] at same
    have quotient : (time + period * times) / period = time / period + times :=
      Int.add_mul_ediv_left _ _ positive.ne'
    rw [Recurs, Recurs, quotient, same, Int.add_mul_emod_self_left]

end Palette.Foundation.Recurrence
