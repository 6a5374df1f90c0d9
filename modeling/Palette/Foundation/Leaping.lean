import Mathlib

/-!
# Searching by leaps

A search looks for the first place where several conditions hold. Each condition has a look of its
own: where the condition holds, the look lets the place pass, and otherwise it leaps ahead. The
looks are asked in a fixed order, and the first leap is taken. If no leap passes over a place that
is wanted, the search finds the first such place, and it fails only if there is none.
-/

namespace Palette.Foundation.Leaping

universe u v

variable {α : Type u} {ε : Type v}

/-- A look at a place: whether it leaps, and the place where it arrives. -/
abbrev Look (α : Type u) (ε : Type v) := α → Except ε (Bool × α)

/-- The first leap of several looks. -/
def firstLeap : List (Look α ε) → Look α ε
  | [], place => .ok (false, place)
  | look :: looks, place =>
    match look place with
    | .error failure => .error failure
    | .ok (true, next) => .ok (true, next)
    | .ok (false, same) => firstLeap looks same

/-- Leaps until a place passes. There is no result while the fuel does not suffice. -/
def search (look : Look α ε) : Nat → α → Option (Except ε α)
  | 0, _ => none
  | fuel + 1, place =>
    match look place with
    | .error failure => some (.error failure)
    | .ok (true, next) => search look fuel next
    | .ok (false, found) => some (.ok found)

variable (rank : α → Nat) (wanted inv : α → Prop)

/-- No wanted place lies between two places. -/
def Clear (first last : α) : Prop :=
  ∀ place, rank first ≤ rank place → rank place < rank last → ¬wanted place

/-- A look passes over no wanted place and lets a place pass only if its condition holds. It may
rely on an invariant of the search and on what the looks before it have found out. -/
structure Leaps (before accepts : α → Prop) (look : Look α ε) : Prop where
  leapt : ∀ place next, inv place → before place → look place = .ok (true, next) →
    rank place < rank next ∧ inv next ∧ Clear rank wanted place next
  passed : ∀ place same, inv place → before place → look place = .ok (false, same) →
    rank same = rank place ∧ inv same ∧ before same ∧ accepts same
  failed : ∀ place failure, inv place → before place → look place = .error failure →
    ∀ other, rank place ≤ rank other → ¬wanted other

variable {rank wanted inv} {before accepts others : α → Prop} {look : Look α ε}
  {looks : List (Look α ε)}

/-- No look at all lets everything pass. -/
theorem leaps_nil :
    Leaps rank wanted inv before (fun _ => True) (firstLeap ([] : List (Look α ε))) where
  leapt place next _ _ leapt := by cases leapt
  passed place same kept held passed := by
    cases passed
    exact ⟨rfl, kept, held, trivial⟩
  failed place failure _ _ failed := by cases failed

/-- One look after another. -/
theorem leaps_cons (first : Leaps rank wanted inv before accepts look)
    (rest : Leaps rank wanted inv (fun place => before place ∧ accepts place) others
      (firstLeap looks)) :
    Leaps rank wanted inv before (fun place => accepts place ∧ others place)
      (firstLeap (look :: looks)) where
  leapt place next kept held leapt := by
    rw [firstLeap] at leapt
    split at leapt
    · cases leapt
    · rename_i found
      cases leapt
      exact first.leapt place _ kept held found
    · rename_i same found
      obtain ⟨level, keptSame, heldSame, accepted⟩ := first.passed place same kept held found
      obtain ⟨later, keptNext, clear⟩ := rest.leapt same next keptSame ⟨heldSame, accepted⟩ leapt
      refine ⟨level ▸ later, keptNext, fun other from_ => ?_⟩
      exact clear other (level ▸ from_)
  passed place same kept held passed := by
    rw [firstLeap] at passed
    split at passed
    · cases passed
    · cases passed
    · rename_i middle found
      obtain ⟨level, keptMiddle, heldMiddle, accepted⟩ := first.passed place middle kept held found
      obtain ⟨levelSame, keptSame, ⟨heldSame, acceptedSame⟩, othersSame⟩ :=
        rest.passed middle same keptMiddle ⟨heldMiddle, accepted⟩ passed
      exact ⟨levelSame.trans level, keptSame, heldSame, acceptedSame, othersSame⟩
  failed place failure kept held failed := by
    rw [firstLeap] at failed
    split at failed
    · rename_i found
      exact first.failed place _ kept held found
    · cases failed
    · rename_i same found
      obtain ⟨level, keptSame, heldSame, accepted⟩ := first.passed place same kept held found
      intro other from_
      exact rest.failed same failure keptSame ⟨heldSame, accepted⟩ failed other (level ▸ from_)

variable {limit fuel : Nat} {place found : α} {failure : ε}

/-- What a search finds is wanted, and nothing before it is. -/
theorem search_ok (leaps : Leaps rank wanted inv (fun _ => True) accepts look) (kept : inv place)
    (result : search look fuel place = some (.ok found)) :
    accepts found ∧ inv found ∧ rank place ≤ rank found ∧ Clear rank wanted place found := by
  induction fuel generalizing place with
  | zero => cases result
  | succ fuel inductionHypothesis =>
    rw [search] at result
    split at result
    · cases result
    · rename_i next leapt
      obtain ⟨later, keptNext, clear⟩ := leaps.leapt place next kept trivial leapt
      obtain ⟨accepted, keptFound, le, clearNext⟩ := inductionHypothesis keptNext result
      refine ⟨accepted, keptFound, Nat.le_trans later.le le, fun other start end_ => ?_⟩
      rcases Nat.lt_or_ge (rank other) (rank next) with early | late
      · exact clear other start early
      · exact clearNext other late end_
    · rename_i same passed
      cases result
      obtain ⟨level, keptFound, -, accepted⟩ := leaps.passed place _ kept trivial passed
      exact ⟨accepted, keptFound, level.ge, fun other start end_ => by omega⟩

/-- A search fails only if nothing is wanted any more. -/
theorem search_error (leaps : Leaps rank wanted inv (fun _ => True) accepts look)
    (kept : inv place) (result : search look fuel place = some (.error failure)) :
    ∀ other, rank place ≤ rank other → ¬wanted other := by
  induction fuel generalizing place with
  | zero => cases result
  | succ fuel inductionHypothesis =>
    rw [search] at result
    split at result
    · rename_i failed
      exact leaps.failed place _ kept trivial failed
    · rename_i next leapt
      obtain ⟨later, keptNext, clear⟩ := leaps.leapt place next kept trivial leapt
      intro other start
      rcases Nat.lt_or_ge (rank other) (rank next) with early | late
      · exact clear other start early
      · exact inductionHypothesis keptNext result other late
    · cases result

/-- A search ends if there are only so many places. -/
theorem search_isSome (leaps : Leaps rank wanted inv (fun _ => True) accepts look)
    (bounded : ∀ place, inv place → rank place < limit) (kept : inv place)
    (enough : limit ≤ rank place + fuel) : (search look fuel place).isSome := by
  induction fuel generalizing place with
  | zero => exact absurd (bounded place kept) (Nat.not_lt_of_le enough)
  | succ fuel inductionHypothesis =>
    rw [search]
    split
    · rfl
    · rename_i next leapt
      obtain ⟨later, keptNext, -⟩ := leaps.leapt place next kept trivial leapt
      exact inductionHypothesis keptNext (by omega)
    · rfl

end Palette.Foundation.Leaping
