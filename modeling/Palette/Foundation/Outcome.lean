import Mathlib.Data.List.Forall2

/-!
# When an outcome is a value

A computation that may fail is a value exactly where some condition on its inputs holds, and the
value meets a condition of its own. Both are found along the computation: for two steps in a row,
for a fold and for a map over a list.
-/

namespace Palette.Foundation

universe u v w

variable {Failure : Type u} {Value Result : Type v}

/-- The outcome is a value exactly if it is legible, and then the value meets the condition. -/
def Settles (outcome : Except Failure Value) (legible : Prop) (holds : Value → Prop) : Prop :=
  match outcome with
  | .ok value => legible ∧ holds value
  | .error _ => ¬ legible

namespace Settles

variable {outcome : Except Failure Value} {legible : Prop} {holds : Value → Prop}

/-- A legible outcome is a value that meets the condition. -/
theorem exists_ok (settles : Settles outcome legible holds) (readable : legible) :
    ∃ value, outcome = .ok value ∧ holds value := by
  cases outcome with
  | error failure => exact absurd readable settles
  | ok value => exact ⟨value, rfl, settles.2⟩

/-- A value is legible and meets the condition. -/
theorem of_ok (settles : Settles outcome legible holds) {value : Value}
    (same : outcome = .ok value) : legible ∧ holds value := by
  cases same
  exact settles

/-- Conditions may be said in other words, and more of the value may be dropped. -/
theorem mono (settles : Settles outcome legible holds) {other : Prop} {weaker : Value → Prop}
    (same : legible ↔ other) (weaken : ∀ value, holds value → weaker value) :
    Settles outcome other weaker := by
  cases outcome with
  | error failure => exact fun readable => settles (same.mpr readable)
  | ok value => exact ⟨same.mp settles.1, weaken value settles.2⟩

/-- Two conditions of one outcome. -/
theorem and (settles : Settles outcome legible holds) {other : Prop} {also : Value → Prop}
    (second : Settles outcome other also) :
    Settles outcome other (fun value => holds value ∧ also value) := by
  cases outcome with
  | error failure => exact second
  | ok value => exact ⟨second.1, settles.2, second.2⟩

/-- A value is legible. -/
theorem pure {value : Value} (meets : holds value) :
    Settles (Pure.pure value : Except Failure Value) True holds :=
  ⟨trivial, meets⟩

/-- Two steps in a row. -/
theorem bind (settles : Settles outcome legible holds) {next : Value → Except Failure Result}
    {legibleNext : Prop} {holdsNext : Result → Prop}
    (continues : ∀ value, holds value → Settles (next value) legibleNext holdsNext) :
    Settles (outcome >>= next) (legible ∧ legibleNext) holdsNext := by
  cases outcome with
  | error failure => exact fun both => settles both.1
  | ok value =>
    refine (continues value settles.2).mono ⟨fun readable => ⟨settles.1, readable⟩, And.right⟩ ?_
    exact fun _ meets => meets

end Settles

section Lists

variable {Item : Type w}

/-- A fold, with what holds of the items up to a value. -/
theorem settles_foldlM {pass : Value → Item → Except Failure Value} {legible : Item → Prop}
    {holds : List Item → Value → Prop}
    (each : ∀ before value item, holds before value →
      Settles (pass value item) (legible item) (holds (before ++ [item])))
    (items before : List Item) {value : Value} (starts : holds before value) :
    Settles (items.foldlM pass value) (∀ item ∈ items, legible item)
      (holds (before ++ items)) := by
  induction items generalizing before value with
  | nil =>
    rw [List.append_nil]
    exact ⟨nofun, starts⟩
  | cons item rest inductionHypothesis =>
    rw [List.foldlM_cons]
    refine ((each before value item starts).bind fun middle reached =>
      inductionHypothesis (before ++ [item]) reached).mono ?_ fun _ left => ?_
    · rw [List.forall_mem_cons]
    · rwa [List.append_assoc, List.singleton_append] at left

/-- A map over a list. -/
theorem settles_mapM {pass : Item → Except Failure Value} {legible : Item → Prop}
    {holds : Item → Value → Prop} (each : ∀ item, Settles (pass item) (legible item) (holds item))
    (items : List Item) :
    Settles (items.mapM pass) (∀ item ∈ items, legible item)
      (fun values => List.Forall₂ holds items values) := by
  induction items with
  | nil => exact ⟨nofun, .nil⟩
  | cons item rest inductionHypothesis =>
    rw [List.mapM_cons]
    have both (value : Value) (own : holds item value) :
        Settles (rest.mapM pass >>= fun values => Pure.pure (value :: values))
          ((∀ item ∈ rest, legible item) ∧ True) (List.Forall₂ holds (item :: rest)) :=
      inductionHypothesis.bind fun values others => .pure (.cons own others)
    refine ((each item).bind both).mono ?_ fun _ all => all
    rw [List.forall_mem_cons, and_true]

/-- Two functions agree on related lists if they agree on related items. -/
theorem map_eq_of_forall₂ {Shared : Type*} {holds : Item → Value → Prop} {left : Item → Shared}
    {right : Value → Shared} (agree : ∀ item value, holds item value → left item = right value)
    {items : List Item} {values : List Value} (related : List.Forall₂ holds items values) :
    items.map left = values.map right := by
  induction related with
  | nil => rfl
  | cons own _ inductionHypothesis =>
    rw [List.map_cons, List.map_cons, agree _ _ own, inductionHypothesis]

/-- A second relation of related lists, if it comes down to a condition on the items. -/
theorem forall₂_iff_forall {holds also : Item → Value → Prop} {condition : Item → Prop}
    (comes : ∀ item value, holds item value → (also item value ↔ condition item))
    {items : List Item} {values : List Value} (related : List.Forall₂ holds items values) :
    List.Forall₂ also items values ↔ ∀ item ∈ items, condition item := by
  induction related with
  | nil => exact iff_of_true .nil nofun
  | cons own _ inductionHypothesis =>
    rw [List.forall₂_cons, comes _ _ own, inductionHypothesis, List.forall_mem_cons]

end Lists

end Palette.Foundation
