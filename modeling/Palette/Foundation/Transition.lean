import Mathlib.Algebra.Order.BigOperators.Group.Finset
import Mathlib.Data.Fintype.BigOperators

/-!
# Labelled machines and their runs

A machine has initial states and a partial step for each label. A label that the
machine refuses in a state gives `none`, so a run is a list of accepted labels and
every result about a run is a result about an explicit schedule. Reachability is
the existence of such a list from an initial state.

An invariant is a predicate that every initial state satisfies and every accepted
label preserves. The rules below are the only inductions over schedules; a result
about one machine states its step lemma and cites a rule.

A restriction keeps the accepted labels that a condition allows. Its runs are runs
of the machine, so an invariant of the machine holds of the restriction, and a
property of the restriction is a property of the runs whose steps all meet the
condition.
-/

namespace Palette.Foundation

universe u v w

/-- A machine refuses a label in a state by returning `none`. -/
structure Machine (State : Type u) (Label : Type v) where
  initial : State → Prop
  step : State → Label → Option State

namespace Machine

variable {State : Type u} {Label : Type v} (machine : Machine State Label)

/-- Follow a schedule; a refused label ends it without a state. -/
def run (machine : Machine State Label) : State → List Label → Option State
  | state, [] => some state
  | state, label :: rest => (machine.step state label).bind (machine.run · rest)

/-- The state after some schedule that starts in an initial state. -/
def Reachable (state : State) : Prop :=
  ∃ start schedule, machine.initial start ∧ machine.run start schedule = some state

/-- An accepted label preserves the predicate. -/
def Preserves (predicate : State → Prop) : Prop :=
  ∀ state label next, predicate state → machine.step state label = some next → predicate next

/-- A predicate of the initial states that accepted labels preserve. -/
structure Invariant (predicate : State → Prop) : Prop where
  starts : ∀ state, machine.initial state → predicate state
  preserved : machine.Preserves predicate

variable {machine}

@[simp] theorem run_nil (state : State) : machine.run state [] = some state := rfl

/-- A schedule succeeds exactly when its first label leads to a state from which
the remaining schedule succeeds. -/
theorem run_cons_eq_some (state final : State) (label : Label) (rest : List Label) :
    machine.run state (label :: rest) = some final ↔
      ∃ next, machine.step state label = some next ∧ machine.run next rest = some final := by
  simp only [run, Option.bind_eq_some_iff]

/-- Schedules compose: the second starts where the first ends. -/
theorem run_append (state middle : State) (first second : List Label)
    (reached : machine.run state first = some middle) :
    machine.run state (first ++ second) = machine.run middle second := by
  induction first generalizing state with
  | nil =>
    have same : state = middle := Option.some.inj reached
    rw [same, List.nil_append]
  | cons label rest inductionHypothesis =>
    obtain ⟨next, stepped, continued⟩ := (run_cons_eq_some _ _ _ _).mp reached
    simp only [List.cons_append, run, stepped, Option.bind_some]
    exact inductionHypothesis next continued

/-- A preserved predicate survives a whole schedule, by induction on its labels. -/
theorem Preserves.run {predicate : State → Prop} (preserved : machine.Preserves predicate)
    (state final : State) (schedule : List Label) (holds : predicate state)
    (reached : machine.run state schedule = some final) : predicate final := by
  induction schedule generalizing state with
  | nil =>
    have same : state = final := Option.some.inj reached
    exact same ▸ holds
  | cons label rest inductionHypothesis =>
    obtain ⟨next, stepped, continued⟩ := (run_cons_eq_some _ _ _ _).mp reached
    exact inductionHypothesis next (preserved state label next holds stepped) continued

/-- Every initial state is reachable, by the empty schedule. -/
theorem Reachable.start {state : State} (initial : machine.initial state) :
    machine.Reachable state :=
  ⟨state, [], initial, rfl⟩

/-- One more accepted label stays within the reachable states. -/
theorem Reachable.next {state next : State} {label : Label}
    (reachable : machine.Reachable state) (stepped : machine.step state label = some next) :
    machine.Reachable next := by
  obtain ⟨start, schedule, initial, reached⟩ := reachable
  refine ⟨start, schedule ++ [label], initial, ?_⟩
  rw [run_append start state schedule [label] reached]
  simp only [Machine.run, stepped, Option.bind_some]

/-- The induction over schedules, packaged once: an invariant holds of every
reachable state. -/
theorem Invariant.reachable {predicate : State → Prop} (invariant : machine.Invariant predicate)
    {state : State} (reachable : machine.Reachable state) : predicate state := by
  obtain ⟨start, schedule, initial, reached⟩ := reachable
  exact invariant.preserved.run start state schedule (invariant.starts start initial) reached

/-- A predicate may rely on an established invariant in its own step. -/
theorem Invariant.strengthen {known predicate : State → Prop} (invariant : machine.Invariant known)
    (starts : ∀ state, machine.initial state → predicate state)
    (preserved : ∀ state label next, known state → predicate state →
      machine.step state label = some next → predicate next) :
    machine.Invariant (fun state => known state ∧ predicate state) where
  starts state initial := ⟨invariant.starts state initial, starts state initial⟩
  preserved state label next holds stepped :=
    ⟨invariant.preserved state label next holds.1 stepped,
      preserved state label next holds.1 holds.2 stepped⟩

/-- Keep the accepted labels that the condition allows in the state they start from. -/
def restrict (machine : Machine State Label) (allowed : State → Label → Prop)
    [∀ state label, Decidable (allowed state label)] : Machine State Label where
  initial := machine.initial
  step state label := if allowed state label then machine.step state label else none

section Restriction

variable {allowed : State → Label → Prop} [∀ state label, Decidable (allowed state label)]

/-- A restricted step is an allowed step of the machine. -/
theorem restrict_step_eq_some {state next : State} {label : Label} :
    (machine.restrict allowed).step state label = some next ↔
      allowed state label ∧ machine.step state label = some next := by
  simp only [restrict, Option.ite_none_right_eq_some]

/-- A restricted schedule is a schedule of the machine. -/
theorem run_of_restrict {state final : State} {schedule : List Label}
    (reached : (machine.restrict allowed).run state schedule = some final) :
    machine.run state schedule = some final := by
  induction schedule generalizing state with
  | nil => exact reached
  | cons label rest inductionHypothesis =>
    obtain ⟨next, stepped, continued⟩ := (run_cons_eq_some _ _ _ _).mp reached
    exact (run_cons_eq_some _ _ _ _).mpr
      ⟨next, (restrict_step_eq_some.mp stepped).2, inductionHypothesis continued⟩

/-- Restriction reaches no new state. -/
theorem Reachable.of_restrict {state : State}
    (reachable : (machine.restrict allowed).Reachable state) : machine.Reachable state := by
  obtain ⟨start, schedule, initial, reached⟩ := reachable
  exact ⟨start, schedule, initial, run_of_restrict reached⟩

/-- An invariant of the machine is one of every restriction. -/
theorem Invariant.restrict {predicate : State → Prop} (invariant : machine.Invariant predicate) :
    (machine.restrict allowed).Invariant predicate where
  starts := invariant.starts
  preserved state label next holds stepped :=
    invariant.preserved state label next holds (restrict_step_eq_some.mp stepped).2

/-- Where a condition says exactly when a step keeps a property, a run has it throughout if and
only if all its steps meet the condition. -/
theorem run_restrict_iff {predicate : State → Prop}
    (exact : ∀ state label next, predicate state → machine.step state label = some next →
      (predicate next ↔ allowed state label))
    {state final : State} {schedule : List Label} (holds : predicate state)
    (reached : machine.run state schedule = some final) :
    (∀ earlier middle, earlier <+: schedule → machine.run state earlier = some middle →
      predicate middle) ↔ (machine.restrict allowed).run state schedule = some final := by
  induction schedule generalizing state with
  | nil =>
    have same : state = final := Option.some.inj reached
    subst same
    refine iff_of_true (fun earlier middle first passed => ?_) rfl
    rw [List.prefix_nil.mp first] at passed
    exact Option.some.inj passed ▸ holds
  | cons label rest inductionHypothesis =>
    obtain ⟨next, stepped, continued⟩ := (run_cons_eq_some _ _ _ _).mp reached
    rw [run_cons_eq_some]
    constructor
    · intro throughout
      have kept : predicate next := throughout [label] next ⟨rest, rfl⟩
        ((run_cons_eq_some _ _ _ _).mpr ⟨next, stepped, rfl⟩)
      refine ⟨next, restrict_step_eq_some.mpr ⟨(exact state label next holds stepped).mp kept,
        stepped⟩, (inductionHypothesis kept continued).mp fun earlier middle first passed => ?_⟩
      exact throughout (label :: earlier) middle (List.cons_prefix_cons.mpr ⟨rfl, first⟩)
        ((run_cons_eq_some _ _ _ _).mpr ⟨next, stepped, passed⟩)
    · rintro ⟨other, restricted, further⟩ earlier middle first passed
      obtain ⟨allowed, accepted⟩ := restrict_step_eq_some.mp restricted
      have same : other = next := Option.some.inj (accepted.symm.trans stepped)
      subst same
      have kept := (exact state label other holds stepped).mpr allowed
      cases earlier with
      | nil => exact Option.some.inj passed ▸ holds
      | cons head tail =>
        obtain ⟨same, before⟩ := List.cons_prefix_cons.mp first
        subst same
        obtain ⟨between, taken, onward⟩ := (run_cons_eq_some _ _ _ _).mp passed
        have sameState : between = other := Option.some.inj (taken.symm.trans stepped)
        subst sameState
        exact (inductionHypothesis kept continued).mpr further tail middle before onward

end Restriction

/-! ### Two machines side by side -/

section Beside

variable {Other : Type u} {OtherLabel : Type v}

/-- Two machines that take steps in any order. -/
def beside (left : Machine State Label) (right : Machine Other OtherLabel) :
    Machine (State × Other) (Label ⊕ OtherLabel) where
  initial states := left.initial states.1 ∧ right.initial states.2
  step states label :=
    match label with
    | .inl label => (left.step states.1 label).map fun next => (next, states.2)
    | .inr label => (right.step states.2 label).map fun next => (states.1, next)

/-- Each machine keeps its own invariant. -/
theorem Invariant.beside {left : Machine State Label} {right : Machine Other OtherLabel}
    {predicate : State → Prop} {other : Other → Prop} (first : left.Invariant predicate)
    (second : right.Invariant other) :
    (left.beside right).Invariant fun states => predicate states.1 ∧ other states.2 where
  starts states initial := ⟨first.starts _ initial.1, second.starts _ initial.2⟩
  preserved states label next holds stepped := by
    cases label with
    | inl label =>
      obtain ⟨after, accepted, rfl⟩ := Option.map_eq_some_iff.mp stepped
      exact ⟨first.preserved _ label _ holds.1 accepted, holds.2⟩
    | inr label =>
      obtain ⟨after, accepted, rfl⟩ := Option.map_eq_some_iff.mp stepped
      exact ⟨holds.1, second.preserved _ label _ holds.2 accepted⟩

end Beside

end Machine

/-! ## Sums over the threads of a machine -/

section Tally

variable {Thread : Type u} {Local : Type v} [Fintype Thread]

/-- Moving one thread replaces exactly its own summand. The subtraction-free form
is the one linear arithmetic consumes. -/
theorem sum_update [DecidableEq Thread] (locals : Thread → Local) (thread : Thread) (value : Local)
    (measure : Local → Nat) :
    (∑ other, measure (Function.update locals thread value other)) + measure (locals thread) =
      (∑ other, measure (locals other)) + measure value := by
  have outside : ∀ other ∈ Finset.univ.erase thread,
      measure (Function.update locals thread value other) = measure (locals other) := by
    intro other member
    rw [Function.update_of_ne (Finset.ne_of_mem_erase member)]
  have changed := Finset.add_sum_erase Finset.univ
    (fun other => measure (Function.update locals thread value other)) (Finset.mem_univ thread)
  have unchanged := Finset.add_sum_erase Finset.univ
    (fun other => measure (locals other)) (Finset.mem_univ thread)
  simp only [Function.update_self] at changed
  rw [Finset.sum_congr rfl outside] at changed
  omega

/-- One thread contributes at most the whole sum. -/
theorem le_sum (locals : Thread → Local) (thread : Thread) (measure : Local → Nat) :
    measure (locals thread) ≤ ∑ other, measure (locals other) :=
  Finset.single_le_sum (f := fun other => measure (locals other))
    (fun _ _ => Nat.zero_le _) (Finset.mem_univ thread)

/-- A sum vanishes exactly when every thread contributes nothing. -/
theorem sum_eq_zero (locals : Thread → Local) (measure : Local → Nat) :
    (∑ other, measure (locals other)) = 0 ↔ ∀ other, measure (locals other) = 0 := by
  simp only [Finset.sum_eq_zero_iff, Finset.mem_univ, true_implies]

/-- A sum of contributions of at most one counts the contributing threads. -/
theorem sum_eq_card (locals : Thread → Local) (measure : Local → Nat)
    (bounded : ∀ other, measure (locals other) ≤ 1) :
    (∑ other, measure (locals other)) =
      (Finset.univ.filter fun other => 0 < measure (locals other)).card := by
  rw [Finset.card_filter]
  refine Finset.sum_congr rfl fun other _ => ?_
  have bound := bounded other
  split <;> omega

end Tally

end Palette.Foundation
