import Palette.Lock.RWLock

/-!
# A release without a lock

A release that finds no lock of its kind raises before it drops the monitor. The two
counters are as they were, but nobody else drops the monitor either: from then on no
thread enters the lock's code, no notified thread resumes and no notification is
delivered, whatever the caller does about the exception.
-/

namespace Palette.Lock

open Palette.Foundation

universe u

variable {T : Type u} [DecidableEq T] [Fintype T]

/-- A call changed neither the counters nor the monitor, and whatever a thread could do
before it can do afterwards. -/
structure Intact (state next : State T) : Prop where
  lock : next.lock = state.lock
  monitor : next.monitor = state.monitor
  enabled : ∀ label, (state.step label).isSome → (next.step label).isSome

/-- The monitor is kept: of all actions only wake-ups are left. -/
structure Jammed (lock : RWLock) (actor : T) (state : State T) : Prop where
  lock : state.lock = lock
  monitor : state.monitor = some actor

/-- A call that raises keeps the monitor and changes nothing else. -/
theorem step_of_raises {state next : State T} {actor : T} {call : Call}
    (raises : call.enter state.lock (state.threads actor) = none)
    (stepped : state.step (actor, .call call) = some next) :
    state.monitor = none ∧ next = { state with monitor := some actor } := by
  simp only [State.step, raises, Option.ite_none_right_eq_some, Option.some.injEq] at stepped
  exact ⟨stepped.1.1, stepped.2.symm⟩

/-- While the monitor is kept, no section of the lock's code is entered. -/
theorem Jammed.refuses {lock : RWLock} {actor : T} {state : State T}
    (jammed : Jammed lock actor state) (other : T) {action : Action T} (asked : action ≠ .wake) :
    state.step (other, action) = none := by
  cases action with
  | call call => simp [State.step, jammed.monitor]
  | resume => simp [State.step, jammed.monitor]
  | notify target => simp [State.step, jammed.monitor]
  | wake => exact absurd rfl asked

/-- A monitor that is kept is kept for ever. -/
theorem jammed_preserved (lock : RWLock) (actor : T) :
    (machine T).Preserves (Jammed lock actor) := by
  rintro state ⟨other, action⟩ next jammed stepped
  by_cases asked : action = .wake
  · subst asked
    simp only [machine, State.step, Option.map_eq_some_iff] at stepped
    obtain ⟨thread, -, rfl⟩ := stepped
    constructor
    · exact jammed.lock
    · exact jammed.monitor
  · have refused : (machine T).step state (other, action) = none := jammed.refuses other asked
    rw [refused] at stepped
    exact absurd stepped (by simp)

/-- No release that raises leaves the lock intact, in whatever state. The counters are
those of before, but in no later state can a thread call the lock, resume or notify. -/
theorem raising_release_jams (state : State T) (actor : T) (call : Call) (next : State T)
    (raises : call.enter state.lock (state.threads actor) = none)
    (stepped : state.step (actor, .call call) = some next) :
    ¬Intact state next ∧ next.lock = state.lock ∧
      ∀ schedule final, (machine T).run next schedule = some final →
        final.lock = state.lock ∧
          ∀ other action, action ≠ .wake → final.step (other, action) = none := by
  obtain ⟨free, rfl⟩ := step_of_raises raises stepped
  refine ⟨?_, rfl, ?_⟩
  · rintro ⟨-, monitor, -⟩
    rw [free] at monitor
    exact absurd monitor (by simp)
  · intro schedule final reached
    have jammed : Jammed state.lock actor final :=
      (jammed_preserved state.lock actor).run { state with monitor := some actor } final schedule
        ⟨rfl, rfl⟩ reached
    exact ⟨jammed.lock, fun other action asked => jammed.refuses other asked⟩

/-- The write lock of a fresh lock is given back, as `upgrade off` does without an
upgrade. -/
theorem raising_release_jams_fresh :
    ¬Intact (State.init : State (Fin 2)) { State.init with monitor := some 0 } :=
  (raising_release_jams State.init 0 .writeRelease _ rfl rfl).1

/-- Afterwards the other thread cannot take a lock that nobody holds. -/
theorem fresh_release_not_intact :
    ¬∀ state next : State (Fin 2), (machine (Fin 2)).Reachable state → ∀ actor call,
      Call.enter call state.lock (state.threads actor) = none →
      state.step (actor, .call call) = some next → Intact state next := by
  intro intact
  have fresh : Intact State.init ({ State.init with monitor := some 0 } : State (Fin 2)) :=
    intact State.init _ (Machine.Reachable.start rfl) 0 .writeRelease rfl rfl
  have refused := fresh.enabled (1, .call .writeAcquire) rfl
  exact absurd refused (by decide)

end Palette.Lock
