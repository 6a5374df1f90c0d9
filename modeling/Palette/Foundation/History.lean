import Mathlib.Data.List.Infix

/-!
# Histories of what happened

A history lists what happened, the newest first. What happened since a mark is the part
of the history before the newest occurrence of the mark, or all of it when the mark never
occurred. A condition on everything that happened, given what had happened before, holds
always in a history when it holds of each of its entries with the history at that time.
-/

namespace Palette.Foundation

universe u

variable {Happening : Type u}

/-- A condition on each entry and the history at its time. -/
def Always (condition : Happening → List Happening → Prop) (history : List Happening) : Prop :=
  ∀ happening past, (happening :: past) <:+ history → condition happening past

/-- Nothing has happened yet. -/
theorem always_nil (condition : Happening → List Happening → Prop) : Always condition [] := by
  intro happening past entry
  exact absurd (List.suffix_nil.mp entry) (List.cons_ne_nil happening past)

/-- One more entry asks for the condition at its own time. -/
theorem always_cons (condition : Happening → List Happening → Prop) (happening : Happening)
    (past : List Happening) :
    Always condition (happening :: past) ↔ condition happening past ∧ Always condition past := by
  constructor
  · intro always
    exact ⟨always happening past (List.suffix_refl _),
      fun other before entry => always other before (entry.trans (List.suffix_cons _ _))⟩
  · rintro ⟨newest, earlier⟩ other before entry
    rcases List.suffix_cons_iff.mp entry with same | within
    · obtain ⟨rfl, rfl⟩ := List.cons.inj same
      exact newest
    · exact earlier other before within

variable [DecidableEq Happening]

/-- What happened since the newest occurrence of a mark. -/
def since (mark : Happening) (history : List Happening) : List Happening :=
  history.takeWhile fun happening => happening ≠ mark

/-- Nothing has happened since a mark that has just occurred. -/
@[simp] theorem since_cons_self (mark : Happening) (past : List Happening) :
    since mark (mark :: past) = [] := by
  simp [since]

/-- Another entry happened since the mark. -/
theorem since_cons_of_ne {mark happening : Happening} (past : List Happening)
    (apart : happening ≠ mark) : since mark (happening :: past) = happening :: since mark past := by
  simp [since, apart]

/-- What happened since a mark before one more entry happened since it afterwards, unless
the entry is the mark. -/
theorem mem_since_cons {mark happening : Happening} {past : List Happening}
    (apart : happening ≠ mark) (other : Happening) :
    other ∈ since mark (happening :: past) ↔ other = happening ∨ other ∈ since mark past := by
  rw [since_cons_of_ne past apart, List.mem_cons]

/-- What happened since a mark after one more entry is that entry or happened before. -/
theorem of_mem_since_cons {mark happening other : Happening} {past : List Happening}
    (member : other ∈ since mark (happening :: past)) :
    other = happening ∨ other ∈ since mark past := by
  by_cases same : happening = mark
  · subst same
    simp at member
  · exact (mem_since_cons same other).mp member

end Palette.Foundation
