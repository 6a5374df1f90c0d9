import Palette.Foundation.Transition

/-!
# The reader-writer lock and its threads

The lock is one signed counter, one count of waiting writers, a monitor and two
condition variables on that monitor. Every passage of a thread between taking and
dropping the monitor is one atomic section. A thread that waits in a condition
variable has dropped the monitor; it sleeps until it is notified, and then has to
take the monitor again before it tests its loop condition once more.

A release decides under the monitor whom to wake and notifies in a later section,
so other threads can run in between. The place of a thread records where it stands
between its sections. Its held locks are counted per thread; the code keeps no such
record, and only the ownership condition reads it.

A notification of the writers wakes any one sleeper, or nobody when none sleeps. A
notification of the readers wakes all of them. Sleepers may also wake unasked, as a
condition variable permits; the loops make that harmless.

A release that the counter refutes raises while the thread still has the monitor,
and nothing drops it afterwards.
-/

namespace Palette.Lock

open Palette.Foundation

universe u

/-- The two counters of the lock. Both are the code's signed integers. -/
structure RWLock where
  rwlock : Int
  writersWaiting : Int
  deriving DecidableEq, Repr

/-- Where a thread stands between two sections of the lock's code. -/
inductive Place where
  | outside
  | readersSleep
  | readersNotified
  | writersSleep
  | writersNotified
  | notifyWriters
  | notifyReaders
  deriving DecidableEq, Repr

/-- A thread's place, the locks it has taken and not given back, and the answer of
its latest `read_acquire` that returned. -/
structure Thread where
  place : Place
  reads : Nat
  writes : Nat
  returned : Option Bool
  deriving DecidableEq, Repr

/-- A fresh lock: nobody holds it and nobody waits. -/
def RWLock.init : RWLock := ⟨0, 0⟩

/-- A thread that never entered the lock's code. -/
def Thread.init : Thread := ⟨.outside, 0, 0, none⟩

/-- The loop condition of `read_acquire`: a writer has the lock or waits for it. -/
def RWLock.ReadersBlocked (lock : RWLock) : Prop :=
  lock.rwlock < 0 ∨ lock.writersWaiting ≠ 0

instance (lock : RWLock) : Decidable lock.ReadersBlocked :=
  inferInstanceAs (Decidable (_ ∨ _))

/-- One pass of `read_acquire` under the monitor: sleep or give up while readers are
blocked, else count this reader. -/
def readAcquire (lock : RWLock) (thread : Thread) (blocking : Bool) : RWLock × Thread :=
  if lock.ReadersBlocked then
    if blocking then (lock, { thread with place := .readersSleep })
    else (lock, { thread with place := .outside, returned := some false })
  else
    ({ lock with rwlock := lock.rwlock + 1 },
      { thread with place := .outside, reads := thread.reads + 1, returned := some true })

/-- One pass of `write_acquire` under the monitor: count this writer as waiting and
sleep while the lock is not free, else take it. -/
def writeAcquire (lock : RWLock) (thread : Thread) : RWLock × Thread :=
  if lock.rwlock ≠ 0 then
    ({ lock with writersWaiting := lock.writersWaiting + 1 },
      { thread with place := .writersSleep })
  else
    ({ lock with rwlock := -1 }, { thread with place := .outside, writes := thread.writes + 1 })

/-- What `finish_release` decides before it drops the monitor. -/
def finishRelease (lock : RWLock) : Place :=
  if lock.writersWaiting ≠ 0 ∧ lock.rwlock = 0 then .notifyWriters
  else if lock.writersWaiting = 0 then .notifyReaders
  else .outside

/-- The first section of `read_release`; `none` is its RuntimeError. -/
def readRelease (lock : RWLock) (thread : Thread) : Option (RWLock × Thread) :=
  if lock.rwlock ≤ 0 then none
  else
    let released := { lock with rwlock := lock.rwlock - 1 }
    some (released, { thread with place := finishRelease released, reads := thread.reads - 1 })

/-- The first section of `write_release`; `none` is its RuntimeError. -/
def writeRelease (lock : RWLock) (thread : Thread) : Option (RWLock × Thread) :=
  if lock.rwlock < 0 then
    let released := { lock with rwlock := 0 }
    some (released, { thread with place := finishRelease released, writes := thread.writes - 1 })
  else none

/-- The four entry points of the lock. -/
inductive Call where
  | readAcquire (blocking : Bool)
  | writeAcquire
  | readRelease
  | writeRelease
  deriving DecidableEq, Repr

/-- The first section of a call. -/
def Call.enter (call : Call) (lock : RWLock) (thread : Thread) : Option (RWLock × Thread) :=
  match call with
  | .readAcquire blocking => some (Lock.readAcquire lock thread blocking)
  | .writeAcquire => some (Lock.writeAcquire lock thread)
  | .readRelease => Lock.readRelease lock thread
  | .writeRelease => Lock.writeRelease lock thread

/-- The section of a notified thread once it has the monitor again. A writer takes
back its own count before it tests the loop condition. -/
def resume (lock : RWLock) (thread : Thread) : Option (RWLock × Thread) :=
  match thread.place with
  | .readersNotified => some (readAcquire lock thread true)
  | .writersNotified =>
      some (writeAcquire { lock with writersWaiting := lock.writersWaiting - 1 } thread)
  | _ => none

/-- A sleeper that is woken has yet to take the monitor. -/
def awaken (thread : Thread) : Option Thread :=
  match thread.place with
  | .readersSleep => some { thread with place := .readersNotified }
  | .writersSleep => some { thread with place := .writersNotified }
  | _ => none

/-- A waiting reader is notified; other threads are left alone. -/
def notifyReader (thread : Thread) : Thread :=
  if thread.place = .readersSleep then { thread with place := .readersNotified } else thread

/-- The lock, the owner of its monitor and all threads. -/
structure State (T : Type u) where
  lock : RWLock
  monitor : Option T
  threads : T → Thread

/-- What a thread does next. The target of a notification is the woken writer. -/
inductive Action (T : Type u) where
  | call (call : Call)
  | resume
  | notify (target : Option T)
  | wake
  deriving DecidableEq, Repr

variable {T : Type u}

/-! ## What one section can do to the counters and its thread -/

/-- The sections that change the counters or the acting thread's own record, each
with the test that leads to it. -/
inductive Passage (lock : RWLock) (thread : Thread) : Action T → RWLock → Thread → Prop where
  | readerSleeps {action : Action T} (blocked : lock.ReadersBlocked)
      (entering : thread.place = .outside ∨ thread.place = .readersNotified) :
      Passage lock thread action lock { thread with place := .readersSleep }
  | readerRefused {action : Action T} (blocked : lock.ReadersBlocked)
      (entering : thread.place = .outside) :
      Passage lock thread action lock { thread with place := .outside, returned := some false }
  | readerEnters {action : Action T} (admitted : ¬ lock.ReadersBlocked)
      (entering : thread.place = .outside ∨ thread.place = .readersNotified) :
      Passage lock thread action { lock with rwlock := lock.rwlock + 1 }
        { thread with place := .outside, reads := thread.reads + 1, returned := some true }
  | writerSleeps {action : Action T} (busy : lock.rwlock ≠ 0) (entering : thread.place = .outside) :
      Passage lock thread action { lock with writersWaiting := lock.writersWaiting + 1 }
        { thread with place := .writersSleep }
  | writerSleepsAgain {action : Action T} (busy : lock.rwlock ≠ 0)
      (entering : thread.place = .writersNotified) :
      Passage lock thread action lock { thread with place := .writersSleep }
  | writerEnters {action : Action T} (free : lock.rwlock = 0) (entering : thread.place = .outside) :
      Passage lock thread action { lock with rwlock := -1 }
        { thread with place := .outside, writes := thread.writes + 1 }
  | writerEntersNotified {action : Action T} (free : lock.rwlock = 0)
      (entering : thread.place = .writersNotified) :
      Passage lock thread action ⟨-1, lock.writersWaiting - 1⟩
        { thread with place := .outside, writes := thread.writes + 1 }
  | readReleases (held : 0 < lock.rwlock) (entering : thread.place = .outside) :
      Passage lock thread (.call .readRelease) { lock with rwlock := lock.rwlock - 1 }
        { thread with
          place := finishRelease { lock with rwlock := lock.rwlock - 1 }
          reads := thread.reads - 1 }
  | writeReleases (held : lock.rwlock < 0) (entering : thread.place = .outside) :
      Passage lock thread (.call .writeRelease) { lock with rwlock := 0 }
        { thread with
          place := finishRelease { lock with rwlock := 0 }
          writes := thread.writes - 1 }

/-- A pass of `read_acquire`, from a call or after a notification. -/
theorem read_acquire_passage (lock : RWLock) (thread : Thread) (blocking : Bool)
    (action : Action T)
    (entering : thread.place = .outside ∨ thread.place = .readersNotified ∧ blocking = true) :
    Passage lock thread action (readAcquire lock thread blocking).1
      (readAcquire lock thread blocking).2 := by
  have either : thread.place = .outside ∨ thread.place = .readersNotified :=
    entering.imp_right And.left
  by_cases blocked : lock.ReadersBlocked
  · cases blocking with
    | true =>
      simpa only [readAcquire, if_pos blocked] using .readerSleeps blocked either
    | false =>
      have outside : thread.place = .outside := by simpa using entering
      simpa only [readAcquire, if_pos blocked] using .readerRefused blocked outside
  · simpa only [readAcquire, if_neg blocked] using .readerEnters blocked either

/-- A pass of `write_acquire` that a call starts. -/
theorem write_acquire_passage (lock : RWLock) (thread : Thread) (action : Action T)
    (entering : thread.place = .outside) :
    Passage lock thread action (writeAcquire lock thread).1 (writeAcquire lock thread).2 := by
  by_cases busy : lock.rwlock ≠ 0
  · simpa only [writeAcquire, if_pos busy] using .writerSleeps busy entering
  · simpa only [writeAcquire, if_neg busy] using .writerEnters (not_not.mp busy) entering

/-- A pass of `write_acquire` after a notification. The count taken back is taken
again when the lock is busy. -/
theorem write_resume_passage (lock : RWLock) (thread : Thread) (action : Action T)
    (entering : thread.place = .writersNotified) :
    Passage lock thread action
      (writeAcquire { lock with writersWaiting := lock.writersWaiting - 1 } thread).1
      (writeAcquire { lock with writersWaiting := lock.writersWaiting - 1 } thread).2 := by
  by_cases busy : lock.rwlock ≠ 0
  · have restored : lock.writersWaiting - 1 + 1 = lock.writersWaiting := by omega
    simpa only [writeAcquire, if_pos busy, restored] using .writerSleepsAgain busy entering
  · simpa only [writeAcquire, if_neg busy] using
      .writerEntersNotified (not_not.mp busy) entering

/-! ## Sections of all threads -/

variable [DecidableEq T]

namespace State

/-- Nobody has entered the lock's code yet. -/
def init : State T := ⟨RWLock.init, none, fun _ => Thread.init⟩

/-- A section replaces the counters and the state of the thread that runs it. -/
def put (state : State T) (actor : T) (lock : RWLock) (thread : Thread) : State T :=
  { state with lock := lock, threads := Function.update state.threads actor thread }

/-- Every sleeping reader is notified. -/
def notifyAll (state : State T) : State T :=
  { state with threads := fun other => notifyReader (state.threads other) }

/-- The pending section of `finish_release`: notify one writer or all readers. -/
def notify [Fintype T] (state : State T) (actor : T) (target : Option T) : Option (State T) :=
  let finished := state.put actor state.lock { state.threads actor with place := .outside }
  match (state.threads actor).place, target with
  | .notifyWriters, some woken =>
      if (state.threads woken).place = .writersSleep then
        some (finished.put woken state.lock
          { state.threads woken with place := .writersNotified })
      else none
  | .notifyWriters, none =>
      if ∀ other, (state.threads other).place ≠ .writersSleep then some finished else none
  | .notifyReaders, none => some finished.notifyAll
  | _, _ => none

/-- One section. Every action but an unasked wake-up needs the monitor, and a call
that raises keeps it. -/
def step [Fintype T] (state : State T) : T × Action T → Option (State T)
  | (actor, .wake) => (awaken (state.threads actor)).map (state.put actor state.lock)
  | (actor, .call call) =>
      if state.monitor = none ∧ (state.threads actor).place = .outside then
        match call.enter state.lock (state.threads actor) with
        | some (lock, thread) => some (state.put actor lock thread)
        | none => some { state with monitor := some actor }
      else none
  | (actor, .resume) =>
      if state.monitor = none then
        (resume state.lock (state.threads actor)).map fun passed =>
          state.put actor passed.1 passed.2
      else none
  | (actor, .notify target) =>
      if state.monitor = none then state.notify actor target else none

end State

/-- A thread releases only what it holds. Other actions are unconstrained. -/
def Owned (state : State T) : T × Action T → Prop
  | (actor, .call .readRelease) => 0 < (state.threads actor).reads
  | (actor, .call .writeRelease) => 0 < (state.threads actor).writes
  | _ => True

instance (state : State T) (label : T × Action T) : Decidable (Owned state label) := by
  unfold Owned; split <;> infer_instance

variable [Fintype T]

/-! ## What one step can do -/

/-- Everything one accepted label can do to the state. -/
inductive Effect (state : State T) : T × Action T → State T → Prop where
  | passes (actor : T) (action : Action T) (lock : RWLock) (thread : Thread)
      (free : state.monitor = none)
      (passage : Passage state.lock (state.threads actor) action lock thread) :
      Effect state (actor, action) (state.put actor lock thread)
  | readReleaseRaises (actor : T) (free : state.monitor = none)
      (refuted : state.lock.rwlock ≤ 0) :
      Effect state (actor, .call .readRelease) { state with monitor := some actor }
  | writeReleaseRaises (actor : T) (free : state.monitor = none)
      (refuted : 0 ≤ state.lock.rwlock) :
      Effect state (actor, .call .writeRelease) { state with monitor := some actor }
  | wakes (actor : T) (thread : Thread) (woken : awaken (state.threads actor) = some thread) :
      Effect state (actor, .wake) (state.put actor state.lock thread)
  | notifiesWriter (actor woken : T) (free : state.monitor = none)
      (pending : (state.threads actor).place = .notifyWriters)
      (asleep : (state.threads woken).place = .writersSleep) :
      Effect state (actor, .notify (some woken))
        ((state.put actor state.lock { state.threads actor with place := .outside }).put woken
          state.lock { state.threads woken with place := .writersNotified })
  | notifiesNobody (actor : T) (free : state.monitor = none)
      (pending : (state.threads actor).place = .notifyWriters)
      (awake : ∀ other, (state.threads other).place ≠ .writersSleep) :
      Effect state (actor, .notify none)
        (state.put actor state.lock { state.threads actor with place := .outside })
  | notifiesReaders (actor : T) (free : state.monitor = none)
      (pending : (state.threads actor).place = .notifyReaders) :
      Effect state (actor, .notify none)
        (state.put actor state.lock { state.threads actor with place := .outside }).notifyAll

/-- A call from outside either passes or raises. -/
theorem call_effect (state : State T) (actor : T) (call : Call) (next : State T)
    (stepped : state.step (actor, .call call) = some next) :
    Effect state (actor, .call call) next := by
  simp only [State.step, Option.ite_none_right_eq_some] at stepped
  obtain ⟨⟨free, entering⟩, entered⟩ := stepped
  cases call with
  | readAcquire blocking =>
    cases entered
    exact .passes actor _ _ _ free (read_acquire_passage _ _ blocking _ (.inl entering))
  | writeAcquire =>
    cases entered
    exact .passes actor _ _ _ free (write_acquire_passage _ _ _ entering)
  | readRelease =>
    by_cases refuted : state.lock.rwlock ≤ 0
    · simp only [Call.enter, readRelease, if_pos refuted] at entered
      cases entered
      exact .readReleaseRaises actor free refuted
    · simp only [Call.enter, readRelease, if_neg refuted] at entered
      cases entered
      exact .passes actor _ _ _ free (.readReleases (by omega) entering)
  | writeRelease =>
    by_cases held : state.lock.rwlock < 0
    · simp only [Call.enter, writeRelease, if_pos held] at entered
      cases entered
      exact .passes actor _ _ _ free (.writeReleases held entering)
    · simp only [Call.enter, writeRelease, if_neg held] at entered
      cases entered
      exact .writeReleaseRaises actor free (by omega)

/-- A notified thread passes its loop again. -/
theorem resume_effect (state : State T) (actor : T) (next : State T)
    (stepped : state.step (actor, .resume) = some next) :
    Effect state (actor, .resume) next := by
  simp only [State.step, Option.ite_none_right_eq_some, Option.map_eq_some_iff] at stepped
  obtain ⟨free, passed, resumed, rfl⟩ := stepped
  cases entering : (state.threads actor).place <;>
    simp only [resume, entering, reduceCtorEq, Option.some.injEq] at resumed
  case readersNotified =>
    subst resumed
    exact .passes actor _ _ _ free (read_acquire_passage _ _ true _ (.inr ⟨entering, rfl⟩))
  case writersNotified =>
    subst resumed
    exact .passes actor _ _ _ free (write_resume_passage _ _ _ entering)

/-- A pending notification wakes one writer, nobody, or all readers. -/
theorem notify_effect (state : State T) (actor : T) (target : Option T) (next : State T)
    (stepped : state.step (actor, .notify target) = some next) :
    Effect state (actor, .notify target) next := by
  simp only [State.step, Option.ite_none_right_eq_some] at stepped
  obtain ⟨free, notified⟩ := stepped
  cases pending : (state.threads actor).place <;> cases target <;>
    simp only [State.notify, pending, reduceCtorEq, Option.ite_none_right_eq_some,
      Option.some.injEq] at notified
  case notifyWriters.none =>
    obtain ⟨awake, rfl⟩ := notified
    exact .notifiesNobody actor free pending awake
  case notifyWriters.some woken =>
    obtain ⟨asleep, rfl⟩ := notified
    exact .notifiesWriter actor woken free pending asleep
  case notifyReaders.none =>
    subst notified
    exact .notifiesReaders actor free pending

/-- The inversion of one step; later proofs never unfold the step function. -/
theorem step_effect (state : State T) (label : T × Action T) (next : State T)
    (stepped : state.step label = some next) : Effect state label next := by
  obtain ⟨actor, action⟩ := label
  cases action with
  | call call => exact call_effect state actor call next stepped
  | resume => exact resume_effect state actor next stepped
  | notify target => exact notify_effect state actor target next stepped
  | wake =>
    simp only [State.step, Option.map_eq_some_iff] at stepped
    obtain ⟨thread, woken, rfl⟩ := stepped
    exact .wakes actor thread woken

/-- Threads that use the lock in any way. -/
def machine (T : Type u) [DecidableEq T] [Fintype T] : Machine (State T) (T × Action T) where
  initial state := state = State.init
  step := State.step

/-- Threads that own what they release. -/
def ownedMachine (T : Type u) [DecidableEq T] [Fintype T] : Machine (State T) (T × Action T) :=
  (machine T).restrict Owned

end Palette.Lock
