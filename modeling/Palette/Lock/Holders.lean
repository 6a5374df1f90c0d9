import Palette.Lock.RWLock

/-!
# The counters count the holders

A thread may take a second read lock before it gives back its first, so the counter
is the number of read locks, not of threads. The two agree while every thread holds
at most one.

The invariant balances the counter against the locks that the threads hold: it is
their read locks less their write locks, and either nobody has a write lock or a
single one is out and no read lock is. The count of waiting writers is the number of
threads that stand between its increment and its decrement. Ownership enters only
where a lock is given back.
-/

namespace Palette.Lock

open Palette.Foundation

universe u

variable {T : Type u}

/-- One for a thread between the increment and the decrement of `writers_waiting`. -/
def Thread.waits (thread : Thread) : Nat :=
  if thread.place = .writersSleep ∨ thread.place = .writersNotified then 1 else 0

/-- A thread elsewhere is not counted as a waiting writer. -/
theorem waits_eq_zero {thread : Thread} (awake : thread.place ≠ .writersSleep)
    (unnotified : thread.place ≠ .writersNotified) : thread.waits = 0 :=
  if_neg fun inside => inside.elim awake unnotified

/-- A release never sends its thread into `write_acquire`. -/
theorem finish_release_outside (lock : RWLock) :
    finishRelease lock ≠ .writersSleep ∧ finishRelease lock ≠ .writersNotified := by
  unfold finishRelease
  split_ifs <;> simp

section Totals

variable [Fintype T]

/-- The threads that hold a read lock. -/
def State.readers (state : State T) : Finset T :=
  Finset.univ.filter fun thread => 0 < (state.threads thread).reads

/-- The threads that hold the write lock. -/
def State.writers (state : State T) : Finset T :=
  Finset.univ.filter fun thread => 0 < (state.threads thread).writes

/-- The threads between the increment and the decrement of `writers_waiting`. -/
def State.waitingWriters (state : State T) : Finset T :=
  Finset.univ.filter fun thread => (state.threads thread).place = .writersSleep ∨
    (state.threads thread).place = .writersNotified

/-- Read locks that the threads hold together. -/
def State.readsHeld (state : State T) : Nat := ∑ thread, (state.threads thread).reads

/-- Write locks that the threads hold together. -/
def State.writesHeld (state : State T) : Nat := ∑ thread, (state.threads thread).writes

/-- Threads that wait inside `write_acquire`. -/
def State.writersInside (state : State T) : Nat := ∑ thread, (state.threads thread).waits

/-- What the counters mean while every release is owned. -/
structure Counted (state : State T) : Prop where
  monitorFree : state.monitor = none
  balance : state.lock.rwlock = state.readsHeld - state.writesHeld
  exclusive : state.writesHeld = 0 ∨ state.writesHeld = 1 ∧ state.readsHeld = 0
  waiting : state.lock.writersWaiting = state.writersInside

/-- Nobody holds or waits in a fresh lock. -/
theorem counted_init : Counted (State.init : State T) where
  monitorFree := rfl
  balance := by simp [State.init, RWLock.init, Thread.init, State.readsHeld, State.writesHeld]
  exclusive := by simp [State.init, Thread.init, State.writesHeld]
  waiting := by
    simp [State.init, RWLock.init, Thread.init, Thread.waits, State.writersInside]

/-- A thread's held and awaited locks are within the totals. -/
theorem held_within (state : State T) (thread : T) :
    (state.threads thread).reads ≤ state.readsHeld ∧
      (state.threads thread).writes ≤ state.writesHeld ∧
      (state.threads thread).waits ≤ state.writersInside :=
  ⟨le_sum state.threads thread Thread.reads, le_sum state.threads thread Thread.writes,
    le_sum state.threads thread Thread.waits⟩

/-- The totals depend on the threads' counts only, not on their other places. -/
theorem Counted.of_same_counts {state next : State T} (counted : Counted state)
    (lock : next.lock = state.lock) (monitor : next.monitor = state.monitor)
    (same : ∀ other, (next.threads other).reads = (state.threads other).reads ∧
      (next.threads other).writes = (state.threads other).writes ∧
      (next.threads other).waits = (state.threads other).waits) : Counted next := by
  have reads : next.readsHeld = state.readsHeld :=
    Finset.sum_congr rfl fun other _ => (same other).1
  have writes : next.writesHeld = state.writesHeld :=
    Finset.sum_congr rfl fun other _ => (same other).2.1
  have waits : next.writersInside = state.writersInside :=
    Finset.sum_congr rfl fun other _ => (same other).2.2
  constructor
  · rw [monitor, counted.monitorFree]
  · rw [lock, reads, writes, counted.balance]
  · rw [reads, writes]
    exact counted.exclusive
  · rw [lock, waits, counted.waiting]

/-- No thread holds a write lock exactly when none is out. -/
theorem writesHeld_eq_zero (state : State T) :
    state.writesHeld = 0 ↔ ∀ thread, (state.threads thread).writes = 0 :=
  sum_eq_zero state.threads Thread.writes

/-- No thread holds a read lock exactly when none is out. -/
theorem readsHeld_eq_zero (state : State T) :
    state.readsHeld = 0 ↔ ∀ thread, (state.threads thread).reads = 0 :=
  sum_eq_zero state.threads Thread.reads

/-- Threads that hold at most one read lock each are as many as their locks. -/
theorem readers_card (state : State T)
    (single : ∀ thread, (state.threads thread).reads ≤ 1) :
    state.readers.card = state.readsHeld :=
  (sum_eq_card state.threads Thread.reads single).symm

/-- The waiting writers are the threads that the total counts. -/
theorem waitingWriters_card (state : State T) :
    state.waitingWriters.card = state.writersInside := by
  simp only [State.waitingWriters, State.writersInside, Thread.waits, Finset.card_filter]

/-- A single write lock has a single holder, and no lock has none. -/
theorem writers_card {state : State T} (counted : Counted state) :
    state.writers.card = state.writesHeld := by
  refine (sum_eq_card state.threads Thread.writes fun thread => ?_).symm
  have within := (held_within state thread).2.1
  have exclusive := counted.exclusive
  omega

variable [DecidableEq T]

/-- Replacing one thread moves each total by that thread's difference. -/
theorem totals_put (state : State T) (actor : T) (lock : RWLock) (thread : Thread) :
    (state.put actor lock thread).readsHeld + (state.threads actor).reads =
        state.readsHeld + thread.reads ∧
      (state.put actor lock thread).writesHeld + (state.threads actor).writes =
        state.writesHeld + thread.writes ∧
      (state.put actor lock thread).writersInside + (state.threads actor).waits =
        state.writersInside + thread.waits :=
  ⟨sum_update state.threads actor thread Thread.reads,
    sum_update state.threads actor thread Thread.writes,
    sum_update state.threads actor thread Thread.waits⟩

/-- Replacing a thread by one with the same counts keeps their meaning. -/
theorem Counted.put_same {state : State T} (counted : Counted state) (actor : T) (thread : Thread)
    (reads : thread.reads = (state.threads actor).reads)
    (writes : thread.writes = (state.threads actor).writes)
    (waits : thread.waits = (state.threads actor).waits) :
    Counted (state.put actor state.lock thread) := by
  refine counted.of_same_counts rfl rfl fun other => ?_
  by_cases same : other = actor
  · subst same
    simp only [State.put, Function.update_self]
    exact ⟨reads, writes, waits⟩
  · simp only [State.put, Function.update_of_ne same, and_self]

/-- A section that changes the counters keeps their meaning. The release of a read
lock needs the thread to hold one, or another thread's lock would be given back. -/
theorem Counted.passes {state : State T} (counted : Counted state) (actor : T)
    (action : Action T) (lock : RWLock) (thread : Thread) (owned : Owned state (actor, action))
    (passage : Passage state.lock (state.threads actor) action lock thread) :
    Counted (state.put actor lock thread) := by
  obtain ⟨free, balance, exclusive, waiting⟩ := counted
  obtain ⟨reads, writes, waits⟩ := totals_put state actor lock thread
  obtain ⟨readsWithin, writesWithin, waitsWithin⟩ := held_within state actor
  have balanced : lock.rwlock = (state.put actor lock thread).readsHeld -
      (state.put actor lock thread).writesHeld ∧
      ((state.put actor lock thread).writesHeld = 0 ∨
        (state.put actor lock thread).writesHeld = 1 ∧
          (state.put actor lock thread).readsHeld = 0) ∧
      lock.writersWaiting = (state.put actor lock thread).writersInside := by
    cases passage with
    | readerSleeps blocked entering =>
      have before : (state.threads actor).waits = 0 := by
        rcases entering with entering | entering <;> simp [Thread.waits, entering]
      rw [before, waits_eq_zero (by simp) (by simp)] at waits
      simp only at reads writes ⊢
      omega
    | readerRefused blocked entering =>
      simp only [Thread.waits, entering, reduceCtorEq, or_self, if_false] at reads writes waits ⊢
      omega
    | readerEnters admitted entering =>
      have before : (state.threads actor).waits = 0 := by
        rcases entering with entering | entering <;> simp [Thread.waits, entering]
      simp only [RWLock.ReadersBlocked, not_or, not_lt] at admitted
      rw [before, waits_eq_zero (by simp) (by simp)] at waits
      simp only at reads writes ⊢
      omega
    | writerSleeps busy entering =>
      simp only [Thread.waits, entering, reduceCtorEq, or_self, or_false, if_true, if_false]
        at reads writes waits ⊢
      omega
    | writerSleepsAgain busy entering =>
      simp only [Thread.waits, entering, reduceCtorEq, or_true, or_false, if_true]
        at reads writes waits ⊢
      omega
    | writerEnters free entering =>
      simp only [Thread.waits, entering, reduceCtorEq, or_self, if_false] at reads writes waits ⊢
      omega
    | writerEntersNotified free entering =>
      simp only [Thread.waits, entering, reduceCtorEq, or_self, or_true, if_true, if_false]
        at reads writes waits ⊢
      omega
    | readReleases held entering =>
      have holds : 0 < (state.threads actor).reads := owned
      have before : (state.threads actor).waits = 0 := by simp [Thread.waits, entering]
      rw [before, waits_eq_zero (finish_release_outside _).1 (finish_release_outside _).2] at waits
      simp only at reads writes ⊢
      omega
    | writeReleases held entering =>
      have holds : 0 < (state.threads actor).writes := owned
      have before : (state.threads actor).waits = 0 := by simp [Thread.waits, entering]
      rw [before, waits_eq_zero (finish_release_outside _).1 (finish_release_outside _).2] at waits
      simp only at reads writes ⊢
      omega
  exact ⟨free, balanced.1, balanced.2.1, balanced.2.2⟩

omit [DecidableEq T] in
/-- An owned release never raises: the balance makes the counter agree with the
thread's lock. -/
theorem Counted.release_succeeds {state : State T} (counted : Counted state) (actor : T) :
    (0 < (state.threads actor).reads → 0 < state.lock.rwlock) ∧
      (0 < (state.threads actor).writes → state.lock.rwlock < 0) := by
  obtain ⟨-, balance, exclusive, -⟩ := counted
  obtain ⟨reads, writes, -⟩ := held_within state actor
  constructor <;> intro holds <;> omega

/-- One owned step keeps the meaning of the counters. Notifications and wake-ups move
threads between places that the totals do not tell apart. -/
theorem Counted.step {state next : State T} (counted : Counted state) (label : T × Action T)
    (owned : Owned state label) (stepped : state.step label = some next) : Counted next := by
  cases step_effect state label next stepped with
  | passes actor action lock thread free passage => exact counted.passes actor action lock thread owned passage
  | readReleaseRaises actor free refuted =>
    have held := (counted.release_succeeds actor).1 owned
    omega
  | writeReleaseRaises actor free refuted =>
    have held := (counted.release_succeeds actor).2 owned
    omega
  | wakes actor thread woken =>
    cases place : (state.threads actor).place <;>
      simp only [awaken, place, reduceCtorEq, Option.some.injEq] at woken <;>
      subst woken <;>
      exact counted.put_same actor _ rfl rfl (by simp [Thread.waits, place])
  | notifiesWriter actor woken free pending asleep =>
    have finished := counted.put_same actor { state.threads actor with place := .outside } rfl rfl
      (by simp [Thread.waits, pending])
    have apart : woken ≠ actor := by
      rintro rfl
      simp [pending] at asleep
    have kept : (state.put actor state.lock
        { state.threads actor with place := .outside }).threads woken = state.threads woken :=
      Function.update_of_ne apart _ _
    exact finished.put_same woken { state.threads woken with place := .writersNotified }
      (by rw [kept]) (by rw [kept]) (by simp [kept, Thread.waits, asleep])
  | notifiesNobody actor free pending awake =>
    exact counted.put_same actor _ rfl rfl (by simp [Thread.waits, pending])
  | notifiesReaders actor free pending =>
    have finished := counted.put_same actor { state.threads actor with place := .outside } rfl rfl
      (by simp [Thread.waits, pending])
    refine finished.of_same_counts rfl rfl fun other => ?_
    simp only [State.notifyAll, notifyReader]
    split
    · next asleep => simp [Thread.waits, asleep]
    · simp only [and_self]

/-- The counters keep their meaning over every run of owned releases. -/
theorem counted_invariant : (ownedMachine T).Invariant Counted where
  starts _ initial := initial ▸ counted_init
  preserved _ label _ counted stepped :=
    have allowed := Machine.restrict_step_eq_some.mp stepped
    counted.step label allowed.1 allowed.2

/-- No section gives out a read lock while a writer waits. -/
theorem reads_withheld {state next : State T} (label : T × Action T)
    (waiting : 0 < state.lock.writersWaiting) (stepped : state.step label = some next) (other : T) :
    (next.threads other).reads ≤ (state.threads other).reads := by
  have put_bound : ∀ (actor : T) (lock : RWLock) (thread : Thread),
      thread.reads ≤ (state.threads actor).reads →
      ((state.put actor lock thread).threads other).reads ≤ (state.threads other).reads := by
    intro actor lock thread bound
    by_cases same : other = actor
    · subst same
      simpa only [State.put, Function.update_self] using bound
    · simp only [State.put, Function.update_of_ne same, le_refl]
  cases step_effect state label next stepped with
  | passes actor action lock thread free passage =>
    refine put_bound actor lock thread ?_
    cases passage with
    | readerEnters admitted entering =>
      simp only [RWLock.ReadersBlocked, not_or, not_not] at admitted
      omega
    | readReleases held entering => exact Nat.sub_le _ _
    | _ => exact le_refl _
  | readReleaseRaises actor free refuted => exact le_refl _
  | writeReleaseRaises actor free refuted => exact le_refl _
  | wakes actor thread woken =>
    refine put_bound actor state.lock thread ?_
    cases place : (state.threads actor).place <;>
      simp only [awaken, place, reduceCtorEq, Option.some.injEq] at woken <;>
      subst woken <;> exact le_refl _
  | notifiesWriter actor woken free pending asleep =>
    by_cases same : other = woken
    · subst same
      simp only [State.put, Function.update_self, le_refl]
    · simpa only [State.put, Function.update_of_ne same] using
        put_bound actor state.lock { state.threads actor with place := .outside } (le_refl _)
  | notifiesNobody actor free pending awake =>
    exact put_bound actor state.lock { state.threads actor with place := .outside } (le_refl _)
  | notifiesReaders actor free pending =>
    have same : ∀ thread, (notifyReader thread).reads = thread.reads := by
      intro thread
      unfold notifyReader
      split <;> rfl
    simpa only [State.notifyAll, same] using
      put_bound actor state.lock { state.threads actor with place := .outside } (le_refl _)

/-- Safety of the lock in every run of owned releases. The counter is minus one
exactly while a single thread has the write lock and nobody reads; it is the number of
read locks exactly while nobody has the write lock, and with it the number of readers
as long as no thread holds two. Waiting writers are counted exactly, and while there
is one no thread gains a read lock. -/
theorem rwlock_counts_holders (state : State T) (reachable : (ownedMachine T).Reachable state) :
    (state.lock.rwlock = -1 ↔
        state.writers.card = 1 ∧ ∀ thread, (state.threads thread).reads = 0) ∧
      (∀ count : Nat, state.lock.rwlock = count ↔
        state.readsHeld = count ∧ ∀ thread, (state.threads thread).writes = 0) ∧
      ((∀ thread, (state.threads thread).reads ≤ 1) → ∀ count : Nat,
        state.lock.rwlock = count ↔
          state.readers.card = count ∧ ∀ thread, (state.threads thread).writes = 0) ∧
      -1 ≤ state.lock.rwlock ∧
      state.lock.writersWaiting = state.waitingWriters.card ∧
      ∀ label next, (ownedMachine T).step state label = some next →
        0 < state.lock.writersWaiting →
        ∀ thread, (next.threads thread).reads ≤ (state.threads thread).reads := by
  have counted : Counted state := counted_invariant.reachable reachable
  have counts : ∀ count : Nat, state.lock.rwlock = count ↔
      state.readsHeld = count ∧ ∀ thread, (state.threads thread).writes = 0 := by
    intro count
    rw [← writesHeld_eq_zero, counted.balance]
    have exclusive := counted.exclusive
    omega
  refine ⟨?_, counts, ?_, ?_, ?_, ?_⟩
  · rw [writers_card counted, ← readsHeld_eq_zero, counted.balance]
    have exclusive := counted.exclusive
    omega
  · intro single
    rw [readers_card state single]
    exact counts
  · have balance := counted.balance
    have exclusive := counted.exclusive
    omega
  · rw [waitingWriters_card, counted.waiting]
  · intro label next stepped waiting thread
    exact reads_withheld label waiting (Machine.restrict_step_eq_some.mp stepped).2 thread

/-- One thread that takes two read locks makes the counter two with one reader, so the
counter is not the number of reading threads. -/
theorem two_reads_one_reader :
    ∃ state, (ownedMachine (Fin 1)).Reachable state ∧
      ¬ (state.lock.rwlock = (2 : Nat) ↔
        state.readers.card = 2 ∧ ∀ thread, (state.threads thread).writes = 0) := by
  refine ⟨_, ⟨State.init,
    [(0, .call (.readAcquire true)), (0, .call (.readAcquire true))], rfl, rfl⟩, ?_⟩
  decide

/-- The safety result with one reader inside and one writer waiting for it. -/
theorem rwlock_counts_holders_contended :
    ∃ state, (ownedMachine (Fin 2)).Reachable state ∧ state.lock = ⟨1, 1⟩ ∧
      state.waitingWriters.card = 1 ∧ state.readsHeld = 1 := by
  have reachable : ∃ state, (ownedMachine (Fin 2)).Reachable state ∧ state.lock = ⟨1, 1⟩ :=
    ⟨_, ⟨State.init, [(0, .call (.readAcquire true)), (1, .call .writeAcquire)], rfl, rfl⟩, rfl⟩
  obtain ⟨state, reached, lock⟩ := reachable
  obtain ⟨-, counts, -, -, waiting, -⟩ := rwlock_counts_holders state reached
  rw [lock] at waiting counts
  have single : (state.waitingWriters.card : Int) = 1 := waiting.symm
  exact ⟨state, reached, lock, by exact_mod_cast single, ((counts 1).mp rfl).1⟩

end Totals

end Palette.Lock
