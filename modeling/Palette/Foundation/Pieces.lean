import Mathlib.Data.List.Basic

/-!
# Pieces of joined fields

Fields are joined by a separator that may occur in them, too. Cut at the separator, the joined text
comes apart into the pieces of the fields, and says nothing more: two lists of fields are joined to
one text exactly if their pieces are the same.
-/

namespace Palette.Foundation.Pieces

universe u

variable {α : Type u} [DecidableEq α] {separator : α}

/-- The pieces of the fields, between the separators that are in them. -/
def pieces (separator : α) (fields : List (List α)) : List (List α) :=
  fields.flatMap (List.splitOn separator)

/-- Behind the fields, their pieces are added. -/
@[simp] theorem pieces_append (fields others : List (List α)) :
    pieces separator (fields ++ others) = pieces separator fields ++ pieces separator others :=
  List.flatMap_append

/-- What is joined comes apart into the pieces. -/
theorem splitOn_intercalate {fields : List (List α)} (present : fields ≠ []) :
    ([separator].intercalate fields).splitOn separator = pieces separator fields := by
  induction fields with
  | nil => exact absurd rfl present
  | cons field rest inductionHypothesis =>
    cases rest with
    | nil => simp [pieces, List.intercalate]
    | cons next others =>
      have restPieces := inductionHypothesis (List.cons_ne_nil next others)
      rw [List.intercalate_cons_cons, List.append_assoc, List.singleton_append,
        List.splitOn_append_cons_self, restPieces]
      rfl

/-- The pieces are joined to the text that the fields are joined to. -/
theorem intercalate_pieces {fields : List (List α)} (present : fields ≠ []) :
    [separator].intercalate (pieces separator fields) = [separator].intercalate fields := by
  rw [← splitOn_intercalate present, List.intercalate_splitOn]

/-- Fields are joined to one text exactly if their pieces are the same. -/
theorem intercalate_eq_iff {fields others : List (List α)} (present : fields ≠ [])
    (otherPresent : others ≠ []) :
    [separator].intercalate fields = [separator].intercalate others ↔
      pieces separator fields = pieces separator others := by
  constructor
  · intro joined
    rw [← splitOn_intercalate present, joined, splitOn_intercalate otherPresent]
  · intro same
    rw [← intercalate_pieces present, same, intercalate_pieces otherPresent]

end Palette.Foundation.Pieces
