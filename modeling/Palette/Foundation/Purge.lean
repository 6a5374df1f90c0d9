import Palette.Foundation.Transition

/-!
# Runs seen by one party

A party sees a part of the state and takes part in some of the steps. If a step that it takes
part in changes its part as a function of that part alone, and every other step leaves it, then
what it sees after a run is what it would see after its own steps: the others can be purged
from the run. Two runs in which it takes the same steps then look the same to it.
-/

namespace Palette.Foundation

universe u v w x

variable {State : Type u} {Label : Type v} {View : Type w} {Own : Type x}

/-- What a party sees, which steps are its own, and what they do to what it sees. -/
structure Party (State : Type u) (Label : Type v) (View : Type w) (Own : Type x) where
  view : State → View
  own : Label → Option Own
  step : View → Own → View

namespace Party

/-- What the party sees after a step. -/
def after (party : Party State Label View Own) (view : View) (label : Label) : View :=
  match party.own label with
  | some own => party.step view own
  | none => view

/-- What the party sees changes by its own steps alone. -/
def Isolated (party : Party State Label View Own) (machine : Machine State Label) : Prop :=
  ∀ state label next, machine.step state label = some next →
    party.view next = party.after (party.view state) label

variable {party : Party State Label View Own} {machine : Machine State Label}

/-- After a run the party sees what its own steps made of what it saw. -/
theorem Isolated.purge (isolated : party.Isolated machine) {state final : State}
    {schedule : List Label} (reached : machine.run state schedule = some final) :
    party.view final = (schedule.filterMap party.own).foldl party.step (party.view state) := by
  induction schedule generalizing state with
  | nil =>
    have same : state = final := Option.some.inj reached
    rw [same]
    rfl
  | cons label rest inductionHypothesis =>
    obtain ⟨next, stepped, continued⟩ := (Machine.run_cons_eq_some _ _ _ _).mp reached
    rw [inductionHypothesis continued, isolated state label next stepped]
    unfold after
    cases own : party.own label with
    | none => rw [List.filterMap_cons_none own]
    | some step => rw [List.filterMap_cons_some own, List.foldl_cons]

/-- Two runs with the same own steps look the same to the party. -/
theorem Isolated.same (isolated : party.Isolated machine) {left right leftFinal rightFinal : State}
    {leftSchedule rightSchedule : List Label}
    (leftReached : machine.run left leftSchedule = some leftFinal)
    (rightReached : machine.run right rightSchedule = some rightFinal)
    (start : party.view left = party.view right)
    (steps : leftSchedule.filterMap party.own = rightSchedule.filterMap party.own) :
    party.view leftFinal = party.view rightFinal := by
  rw [isolated.purge leftReached, isolated.purge rightReached, start, steps]

end Party

end Palette.Foundation
