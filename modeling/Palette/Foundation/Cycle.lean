import Mathlib

/-!
# The next of some values on a cycle

Values run from a lowest one through a range and begin again, as hours and months do. From a value,
the way to the next listed one leads to the first one that is not smaller, or over the end of the
range to the first one of all. No listed value is passed on this way.
-/

namespace Palette.Foundation.Cycle

/-- The way from a value to the next listed one. -/
def ahead (values : List Nat) (value range : Nat) : Int :=
  match values.find? (value ≤ ·) with
  | some next => (next : Int) - value
  | none => (values.headD 0 : Int) - value + range

/-- The value after a number of steps. -/
def turned (low range value steps : Nat) : Nat := low + (value - low + steps) % range

/-- A list of values of a cycle, in their order. -/
structure Listed (low range : Nat) (values : List Nat) : Prop where
  nonempty : values ≠ []
  ascending : values.Pairwise (· ≤ ·)
  inRange : ∀ value ∈ values, low ≤ value ∧ value < low + range

variable {low range value next : Nat} {values : List Nat}

/-- What is found is the least one that is not smaller. -/
theorem find_ge (ascending : values.Pairwise (· ≤ ·))
    (found : values.find? (value ≤ ·) = some next) :
    next ∈ values ∧ value ≤ next ∧ ∀ other ∈ values, value ≤ other → next ≤ other := by
  refine ⟨List.mem_of_find?_eq_some found, by simpa using List.find?_some found, ?_⟩
  induction values with
  | nil => cases found
  | cons first rest inductionHypothesis =>
    rw [List.pairwise_cons] at ascending
    rw [List.find?_cons] at found
    intro other member reached
    split at found
    · cases found
      rcases List.mem_cons.1 member with rfl | behind
      · exact Nat.le_refl _
      · exact ascending.1 other behind
    · rename_i early
      rcases List.mem_cons.1 member with rfl | behind
      · simp [reached] at early
      · exact inductionHypothesis ascending.2 found other behind reached

/-- Nothing is found if all are smaller. -/
theorem find_none (missing : values.find? (value ≤ ·) = none) : ∀ other ∈ values, other < value := by
  intro other member
  have := List.find?_eq_none.1 missing other member
  simpa using this

/-- The first value of all is the least one. -/
theorem head_le (ascending : values.Pairwise (· ≤ ·)) (nonempty : values ≠ []) :
    values.headD 0 ∈ values ∧ ∀ other ∈ values, values.headD 0 ≤ other := by
  cases values with
  | nil => exact absurd rfl nonempty
  | cons first rest =>
    rw [List.pairwise_cons] at ascending
    refine ⟨List.mem_cons_self, fun other member => ?_⟩
    rcases List.mem_cons.1 member with rfl | behind
    · exact Nat.le_refl _
    · exact ascending.1 other behind

/-- The way ends at a listed value, and no value on the way is listed. -/
theorem ahead_spec (listed : Listed low range values) (least : low ≤ value)
    (inside : value < low + range) :
    ∃ steps : Nat, ahead values value range = steps ∧ steps < range ∧
      turned low range value steps ∈ values ∧
      ∀ fewer < steps, turned low range value fewer ∉ values := by
  unfold ahead turned
  cases found : values.find? (value ≤ ·) with
  | some next =>
    obtain ⟨member, reached, first⟩ := find_ge listed.ascending found
    have bounds := listed.inRange next member
    refine ⟨next - value, by dsimp only; omega, by omega, ?_, fun fewer less listedOne => ?_⟩
    · rw [Nat.mod_eq_of_lt (by omega)]
      have same : low + (value - low + (next - value)) = next := by omega
      rwa [same]
    · rw [Nat.mod_eq_of_lt (by omega)] at listedOne
      have := first _ listedOne (by omega)
      omega
  | none =>
    have smaller := find_none found
    obtain ⟨member, first⟩ := head_le listed.ascending listed.nonempty
    have bounds := listed.inRange _ member
    have below := smaller _ member
    generalize values.headD 0 = head at *
    refine ⟨head + range - value, by dsimp only; omega, by omega, ?_,
      fun fewer less listedOne => ?_⟩
    · have same : value - low + (head + range - value) = head - low + range := by omega
      rw [same, Nat.add_mod_right, Nat.mod_eq_of_lt (by omega)]
      have same : low + (head - low) = head := by omega
      rwa [same]
    · rcases Nat.lt_or_ge (value - low + fewer) range with before | after
      · rw [Nat.mod_eq_of_lt before] at listedOne
        have := smaller _ listedOne
        omega
      · rw [Nat.mod_eq_sub_mod after, Nat.mod_eq_of_lt (by omega)] at listedOne
        have := first _ listedOne
        omega

/-- There is no way to go exactly from a listed value. -/
theorem ahead_eq_zero_iff (listed : Listed low range values) (least : low ≤ value)
    (inside : value < low + range) : ahead values value range = 0 ↔ value ∈ values := by
  obtain ⟨steps, way, -, arrives, clear⟩ := ahead_spec listed least inside
  have here : turned low range value 0 = value := by
    rw [turned, Nat.add_zero, Nat.mod_eq_of_lt (by omega)]
    omega
  rw [way]
  constructor
  · intro none
    have zero : steps = 0 := by exact_mod_cast none
    rw [zero, here] at arrives
    exact arrives
  · intro member
    by_contra some
    have positive : 0 < steps := by omega
    exact clear 0 positive (here.symm ▸ member)

end Palette.Foundation.Cycle
