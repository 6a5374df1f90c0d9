import Mathlib.Data.List.Chain

/-!
# Colors that are sent when they change

An object has a color. Where it differs from the one that was stored for the object, a notice
is sent and the color is stored; the color of an object that is well is not worth a notice
unless one was sent before. What is stored is then the color of the last notice, no two notices
in a row have one color, and the first one does not say that all is well.

Where a color may be stored without a notice as long as nothing was sent, what is stored says a
little less.
-/

namespace Palette.Foundation

universe u

variable {Color : Type u} {okay : Color}

/-- No color is sent twice in a row, and the first one sent is not that of an object that is
well. -/
structure Alternates (okay : Color) (sent : List Color) : Prop where
  changes : sent.IsChain (· ≠ ·)
  first : sent.head? ≠ some okay

/-- What is stored is the color that was sent last. -/
structure Faithful (okay : Color) (stored : Option Color) (sent : List Color) : Prop where
  alternates : Alternates okay sent
  last : stored = sent.getLast?

/-- What is stored is the color that was sent last, or that of an object that is well and was
never otherwise. -/
structure Settled (okay : Color) (stored : Option Color) (sent : List Color) : Prop where
  alternates : Alternates okay sent
  last : stored = sent.getLast? ∨ sent = [] ∧ stored = some okay

/-- Nothing was sent. -/
theorem alternates_nil : Alternates okay ([] : List Color) :=
  ⟨.nil, fun first => by cases first⟩

/-- One more color is sent. -/
theorem Alternates.snoc {sent : List Color} {color : Color} (alternates : Alternates okay sent)
    (other : sent.getLast? ≠ some color) (first : sent = [] → color ≠ okay) :
    Alternates okay (sent ++ [color]) where
  changes := by
    refine alternates.changes.append (List.isChain_singleton color)
      fun last known newest head same => ?_
    have sent : newest = color := (Option.some.inj head).symm
    rw [same, sent] at known
    exact other known
  first := by
    cases sent with
    | nil => exact fun same => first rfl (Option.some.inj same)
    | cons earlier rest => exact alternates.first

namespace Faithful

variable {stored : Option Color} {sent : List Color} {color : Color}

/-- Nothing is stored before anything is sent. -/
theorem start : Faithful okay none ([] : List Color) := ⟨alternates_nil, rfl⟩

/-- A color that is worth a notice is sent and stored. -/
theorem send (faithful : Faithful okay stored sent) (other : stored ≠ some color)
    (worth : color = okay → stored ≠ none) : Faithful okay (some color) (sent ++ [color]) where
  alternates := by
    refine faithful.alternates.snoc (faithful.last ▸ other) fun nothing same => worth same ?_
    rw [faithful.last, nothing]
    rfl
  last := List.getLast?_concat.symm

end Faithful

namespace Settled

variable {stored : Option Color} {sent : List Color} {color : Color}

/-- Nothing is stored before anything is sent. -/
theorem start : Settled okay none ([] : List Color) := ⟨alternates_nil, .inl rfl⟩

/-- A color that is worth a notice is sent and stored. -/
theorem send (settled : Settled okay stored sent) (other : stored ≠ some color)
    (worth : color = okay → stored ≠ none) : Settled okay (some color) (sent ++ [color]) where
  alternates := by
    rcases settled.last with last | ⟨nothing, quiet⟩
    · refine settled.alternates.snoc (last ▸ other) fun nothing same => worth same ?_
      rw [last, nothing]
      rfl
    · refine settled.alternates.snoc ?_ fun _ same => other (same ▸ quiet)
      rw [nothing]
      exact fun same => by cases same
  last := .inl List.getLast?_concat.symm

/-- The color of an object that is well is stored without a notice where none was sent. -/
theorem rest (settled : Settled okay none sent) : Settled okay (some okay) sent where
  alternates := settled.alternates
  last := by
    rcases settled.last with last | ⟨_, quiet⟩
    · exact .inr ⟨List.getLast?_eq_none_iff.mp last.symm, rfl⟩
    · cases quiet

end Settled

end Palette.Foundation
