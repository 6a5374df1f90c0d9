import Palette.Lock.Holders

/-!
# A sleeper always has a waker

A release decides under the monitor whom to wake, drops the monitor and notifies
later. Between the two, a new reader or writer may take the lock, a writer may start
to wait, and several releases may have a notification pending at once.

Two facts about the whole state make this harmless. While the lock does not exclude
readers and no writer waits, a sleeping reader has a pending notification of the
readers. While the lock is free and writers wait, a writer has been notified or a
notification of a writer is pending. Each is threatened by one step only, which
restores it: the section that makes its condition true is a release, and that release
leaves the notification pending.

With the exact count of waiting writers, a pending notification of a writer finds a
sleeping one unless another writer is already awake.
-/

namespace Palette.Lock

open Palette.Foundation

universe u

variable {T : Type u}

/-- Asleep in `readers_ready.wait()` or `writers_ready.wait()`. -/
def Thread.Asleep (thread : Thread) : Prop :=
  thread.place = .readersSleep ∨ thread.place = .writersSleep

/-- Woken, with nothing left but to take the monitor. -/
def Thread.Notified (thread : Thread) : Prop :=
  thread.place = .readersNotified ∨ thread.place = .writersNotified

/-- Who will be woken when the counters would let a sleeper in. -/
structure Signalled (state : State T) : Prop where
  readers : 0 ≤ state.lock.rwlock → state.lock.writersWaiting = 0 →
    (∃ thread, (state.threads thread).place = .readersSleep) →
    ∃ thread, (state.threads thread).place = .notifyReaders
  writers : state.lock.rwlock = 0 → 0 < state.lock.writersWaiting →
    ∃ thread, (state.threads thread).place = .writersNotified ∨
      (state.threads thread).place = .notifyWriters

/-- Nobody sleeps in a fresh lock. -/
theorem signalled_init : Signalled (State.init : State T) where
  readers _ _ sleeping := by simp [State.init, Thread.init] at sleeping
  writers _ waiting := by simp [State.init, RWLock.init] at waiting

section Places

variable [DecidableEq T]

/-- The acting thread takes its new place. -/
@[simp] theorem put_self (state : State T) (actor : T) (lock : RWLock) (thread : Thread) :
    (state.put actor lock thread).threads actor = thread :=
  Function.update_self _ _ _

/-- A thread at another place than the actor's is another thread, and stays. -/
theorem put_keeps {state : State T} {actor other : T} (lock : RWLock) (thread : Thread)
    (apart : (state.threads other).place ≠ (state.threads actor).place) :
    (state.put actor lock thread).threads other = state.threads other :=
  Function.update_of_ne (fun same => apart (congrArg (fun t => (state.threads t).place) same)) _ _

/-- A place that the actor does not take was taken before. -/
theorem put_place {state : State T} {actor : T} {lock : RWLock} {thread : Thread} {place : Place}
    (apart : thread.place ≠ place)
    (found : ∃ other, ((state.put actor lock thread).threads other).place = place) :
    ∃ other, (state.threads other).place = place := by
  obtain ⟨other, found⟩ := found
  by_cases same : other = actor
  · subst same
    rw [put_self] at found
    exact absurd found apart
  · exact ⟨other, by simpa only [State.put, Function.update_of_ne same] using found⟩

/-- A place that the actor did not leave stays taken. -/
theorem put_keeps_place {state : State T} {actor : T} {place : Place} (lock : RWLock)
    (thread : Thread) (apart : (state.threads actor).place ≠ place)
    (found : ∃ other, (state.threads other).place = place) :
    ∃ other, ((state.put actor lock thread).threads other).place = place := by
  obtain ⟨other, found⟩ := found
  exact ⟨other, by rw [put_keeps lock thread (found ▸ Ne.symm apart), found]⟩

/-- A section that leaves the counters alone keeps the signals when its thread neither
starts to sleep as a reader nor gives up a signal. -/
theorem Signalled.put_same {state : State T} (signalled : Signalled state) (actor : T)
    (thread : Thread) (awake : thread.place ≠ .readersSleep)
    (silentReaders : (state.threads actor).place ≠ .notifyReaders)
    (silentWriters : (state.threads actor).place ≠ .notifyWriters)
    (unnotified : (state.threads actor).place ≠ .writersNotified) :
    Signalled (state.put actor state.lock thread) where
  readers shared unawaited sleeping :=
    put_keeps_place _ _ silentReaders (signalled.readers shared unawaited (put_place awake sleeping))
  writers free waiting := by
    obtain ⟨other, signal⟩ := signalled.writers free waiting
    have apart : (state.threads other).place ≠ (state.threads actor).place := by
      rcases signal with signal | signal <;> rw [signal]
      · exact Ne.symm unnotified
      · exact Ne.symm silentWriters
    exact ⟨other, by rw [put_keeps _ _ apart]; exact signal⟩

end Places

section Releases

variable [DecidableEq T]

/-- A release leaves the notification pending that its new counters call for. -/
theorem signalled_release (state : State T) (actor : T)
    (rwlock : Int) (reads writes : Nat) :
    Signalled (state.put actor { state.lock with rwlock := rwlock }
      { state.threads actor with
        place := finishRelease { state.lock with rwlock := rwlock }
        reads := reads, writes := writes }) where
  readers _ unawaited _ := by
    refine ⟨actor, ?_⟩
    have none_waits : state.lock.writersWaiting = 0 := unawaited
    simp [finishRelease, none_waits]
  writers free waiting := by
    refine ⟨actor, .inr ?_⟩
    have waits : 0 < state.lock.writersWaiting := waiting
    have released : rwlock = 0 := free
    simp [finishRelease, released, waits.ne']

end Releases

variable [Fintype T]

/-- A thread that waits to write is asleep or already awake. -/
theorem waiting_writer {state : State T} (counted : Counted state)
    (waiting : 0 < state.lock.writersWaiting) :
    ∃ thread, (state.threads thread).place = .writersSleep ∨
      (state.threads thread).place = .writersNotified := by
  have inside : 0 < state.waitingWriters.card := by
    have counts := counted.waiting
    rw [waitingWriters_card]
    omega
  obtain ⟨thread, member⟩ := Finset.card_pos.mp inside
  exact ⟨thread, (Finset.mem_filter.mp member).2⟩

variable [DecidableEq T]

/-- Every section that changes the counters keeps the signals. A thread that goes to
sleep has just seen the counters exclude it. -/
theorem Signalled.passes {state : State T} (counted : Counted state) (signalled : Signalled state)
    (actor : T) (action : Action T) (lock : RWLock) (thread : Thread)
    (passage : Passage state.lock (state.threads actor) action lock thread) :
    Signalled (state.put actor lock thread) := by
  have waiting := counted.waiting
  have within := (held_within state actor).2.2
  cases passage with
  | readerSleeps blocked entering =>
    refine ⟨fun shared unawaited _ => ?_, fun free waits => ?_⟩
    · exact (blocked.elim (not_lt.mpr shared) (· unawaited)).elim
    · have others := signalled.writers free waits
      obtain ⟨other, signal⟩ := others
      have apart : (state.threads other).place ≠ (state.threads actor).place := by
        rcases signal with signal | signal <;> rcases entering with entering | entering <;>
          simp [signal, entering]
      exact ⟨other, by rw [put_keeps _ _ apart]; exact signal⟩
  | readerRefused blocked entering =>
    exact signalled.put_same actor _ (by simp) (by simp [entering]) (by simp [entering])
      (by simp [entering])
  | readerEnters admitted entering =>
    simp only [RWLock.ReadersBlocked, not_or, not_lt, not_not] at admitted
    have silent : (state.threads actor).place ≠ .notifyReaders := by
      rcases entering with entering | entering <;> simp [entering]
    refine ⟨fun _ _ sleeping => ?_, fun _ waits => ?_⟩
    · exact put_keeps_place _ _ silent
        (signalled.readers admitted.1 admitted.2 (put_place (by simp) sleeping))
    · exact absurd admitted.2 waits.ne'
  | writerSleeps busy entering =>
    refine ⟨fun _ unawaited _ => ?_, fun free _ => absurd free busy⟩
    have none_waits : state.lock.writersWaiting + 1 = 0 := unawaited
    omega
  | writerSleepsAgain busy entering =>
    refine ⟨fun _ unawaited _ => ?_, fun free _ => absurd free busy⟩
    have none_waits : state.lock.writersWaiting = 0 := unawaited
    simp only [Thread.waits, entering, or_true, if_true] at within
    omega
  | writerEnters free entering =>
    exact ⟨fun shared _ _ => absurd shared (by simp [State.put]),
      fun again _ => absurd again (by simp [State.put])⟩
  | writerEntersNotified free entering =>
    exact ⟨fun shared _ _ => absurd shared (by simp [State.put]),
      fun again _ => absurd again (by simp [State.put])⟩
  | readReleases held entering => exact signalled_release state actor _ _ _
  | writeReleases held entering => exact signalled_release state actor _ _ _

/-- Every step keeps the signals. A notification is used up only together with the
sleepers it is for, or when an awake writer makes it needless. -/
theorem Signalled.step {state next : State T} (counted : Counted state)
    (signalled : Signalled state) (label : T × Action T) (stepped : state.step label = some next) :
    Signalled next := by
  cases step_effect state label next stepped with
  | passes actor action lock thread free passage =>
    exact signalled.passes counted actor action lock thread passage
  | readReleaseRaises actor free refuted => exact ⟨signalled.readers, signalled.writers⟩
  | writeReleaseRaises actor free refuted => exact ⟨signalled.readers, signalled.writers⟩
  | wakes actor thread woken =>
    cases place : (state.threads actor).place <;>
      simp only [awaken, place, reduceCtorEq, Option.some.injEq] at woken <;> subst woken <;>
      exact signalled.put_same actor _ (by simp) (by simp [place]) (by simp [place])
        (by simp [place])
  | notifiesWriter actor woken free pending asleep =>
    refine ⟨fun shared unawaited sleeping => ?_, fun _ _ => ⟨woken, .inl (by rw [put_self])⟩⟩
    have before := put_place (by simp) (put_place (by simp) sleeping)
    have silent : (state.threads actor).place ≠ .notifyReaders := by simp [pending]
    have announced := put_keeps_place state.lock { state.threads actor with place := .outside }
      silent (signalled.readers shared unawaited before)
    refine put_keeps_place _ _ ?_ announced
    rw [put_keeps _ _ (by simp [pending, asleep]), asleep]
    simp
  | notifiesNobody actor free pending awake =>
    refine ⟨fun shared unawaited sleeping => ?_, fun _ waits => ?_⟩
    · exact put_keeps_place _ _ (by simp [pending])
        (signalled.readers shared unawaited (put_place (by simp) sleeping))
    · obtain ⟨writer, inside⟩ := waiting_writer counted waits
      have notified := inside.resolve_left (awake writer)
      exact ⟨writer, .inl (by rw [put_keeps _ _ (by simp [notified, pending]), notified])⟩
  | notifiesReaders actor free pending =>
    have woken : ∀ thread, (notifyReader thread).place ≠ .readersSleep := by
      intro thread
      unfold notifyReader
      split
      · simp
      · assumption
    refine ⟨fun _ _ sleeping => ?_, fun unheld waits => ?_⟩
    · obtain ⟨thread, sleeping⟩ := sleeping
      exact absurd sleeping (woken _)
    · obtain ⟨writer, signal⟩ := signalled.writers unheld waits
      have apart : (state.threads writer).place ≠ (state.threads actor).place := by
        rcases signal with signal | signal <;> simp [signal, pending]
      refine ⟨writer, ?_⟩
      simp only [State.notifyAll, put_keeps _ _ apart]
      rcases signal with signal | signal <;> simp [notifyReader, signal]

/-- The counters and the signals hold together over every run of owned releases. -/
theorem signalled_invariant :
    (ownedMachine T).Invariant fun state => Counted state ∧ Signalled state :=
  counted_invariant.strengthen (fun _ initial => initial ▸ signalled_init)
    fun _ label _ counted signalled stepped =>
      signalled.step counted label (Machine.restrict_step_eq_some.mp stepped).2

omit [DecidableEq T] in
/-- While the lock is free, a sleeper implies an awake waiter, or a notification that
is pending and will hit a sleeper. -/
theorem waker_exists {state : State T} (counted : Counted state) (signalled : Signalled state)
    (free : state.lock.rwlock = 0) {sleeper : T} (asleep : (state.threads sleeper).Asleep) :
    ∃ other, (state.threads other).Notified ∨
      (state.threads other).place = .notifyWriters ∧
        (∃ woken, (state.threads woken).place = .writersSleep) ∨
      (state.threads other).place = .notifyReaders ∧
        ∃ woken, (state.threads woken).place = .readersSleep := by
  have counts := counted.waiting
  by_cases waits : 0 < state.lock.writersWaiting
  · obtain ⟨other, notified | pending⟩ := signalled.writers free waits
    · exact ⟨other, .inl (.inr notified)⟩
    · obtain ⟨writer, sleeps | notified⟩ := waiting_writer counted waits
      · exact ⟨other, .inr (.inl ⟨pending, writer, sleeps⟩)⟩
      · exact ⟨writer, .inl (.inr notified)⟩
  · have unawaited : state.lock.writersWaiting = 0 := by omega
    rcases asleep with reader | writer
    · obtain ⟨other, pending⟩ := signalled.readers free.ge unawaited ⟨sleeper, reader⟩
      exact ⟨other, .inr (.inr ⟨pending, sleeper, reader⟩)⟩
    · have inside := (held_within state sleeper).2.2
      simp only [Thread.waits, writer, true_or, if_true] at inside
      omega

/-- A notified thread can take the monitor and test its loop again. -/
theorem notified_resumes {state : State T} (free : state.monitor = none) {thread : T}
    (notified : (state.threads thread).Notified) :
    ∃ next, state.step (thread, .resume) = some next := by
  rcases notified with place | place <;> simp [State.step, free, resume, place]

/-- A pending notification of a writer can be delivered to any sleeping one. -/
theorem writer_notification_hits {state : State T} (free : state.monitor = none)
    {actor woken : T} (pending : (state.threads actor).place = .notifyWriters)
    (asleep : (state.threads woken).place = .writersSleep) :
    ∃ next, state.step (actor, .notify (some woken)) = some next ∧
      (next.threads woken).Notified := by
  simp [State.step, free, State.notify, pending, asleep, Thread.Notified]

/-- A pending notification of the readers can be delivered and wakes every one. -/
theorem reader_notification_hits {state : State T} (free : state.monitor = none)
    {actor woken : T} (pending : (state.threads actor).place = .notifyReaders)
    (asleep : (state.threads woken).place = .readersSleep) :
    ∃ next, state.step (actor, .notify none) = some next ∧ (next.threads woken).Notified := by
  have apart : (state.threads woken).place ≠ (state.threads actor).place := by
    simp [pending, asleep]
  have kept := put_keeps state.lock { state.threads actor with place := .outside } apart
  simp [State.step, free, State.notify, pending, State.notifyAll, kept, notifyReader, asleep,
    Thread.Notified]

/-- Another thread's next step brings a wake-up closer: it is awake inside an acquire
and only has to take the monitor, or its pending notification hits a sleeper. -/
def Wakes (state : State T) (other : T) : Prop :=
  (state.threads other).Notified ∧ (∃ next, state.step (other, .resume) = some next) ∨
    ((state.threads other).place = .notifyWriters ∨ (state.threads other).place = .notifyReaders) ∧
      ∃ target next woken, state.step (other, .notify target) = some next ∧
        (state.threads woken).Asleep ∧ (next.threads woken).Notified

/-- No wake-up is lost in any run of owned releases: while the lock is free, a sleeper
has another thread whose next step is enabled and brings a wake-up closer. So nobody
sleeps once nobody holds the lock and every thread is asleep or outside the code. -/
theorem no_lost_wakeup (state : State T) (reachable : (ownedMachine T).Reachable state) :
    (state.lock.rwlock = 0 → ∀ sleeper, (state.threads sleeper).Asleep →
        ∃ other, other ≠ sleeper ∧ Wakes state other) ∧
      ((∀ thread, (state.threads thread).reads = 0 ∧ (state.threads thread).writes = 0) →
        (∀ thread, (state.threads thread).place = .outside ∨ (state.threads thread).Asleep) →
        ∀ thread, ¬ (state.threads thread).Asleep) := by
  obtain ⟨counted, signalled⟩ := signalled_invariant.reachable reachable
  have monitor := counted.monitorFree
  have wakers : state.lock.rwlock = 0 → ∀ sleeper, (state.threads sleeper).Asleep →
      ∃ other, other ≠ sleeper ∧ Wakes state other := by
    intro free sleeper asleep
    obtain ⟨other, waker⟩ := waker_exists counted signalled free asleep
    refine ⟨other, ?_, ?_⟩
    · rintro rfl
      rcases waker with (notified | notified) | ⟨pending, -⟩ | ⟨pending, -⟩ <;>
        rcases asleep with asleep | asleep <;> simp_all
    · rcases waker with notified | ⟨pending, woken, sleeps⟩ | ⟨pending, woken, sleeps⟩
      · exact .inl ⟨notified, notified_resumes monitor notified⟩
      · obtain ⟨next, stepped, hit⟩ := writer_notification_hits monitor pending sleeps
        exact .inr ⟨.inl pending, _, next, woken, stepped, .inr sleeps, hit⟩
      · obtain ⟨next, stepped, hit⟩ := reader_notification_hits monitor pending sleeps
        exact .inr ⟨.inr pending, _, next, woken, stepped, .inl sleeps, hit⟩
  refine ⟨wakers, fun unheld idle sleeper asleep => ?_⟩
  have reads := (readsHeld_eq_zero state).mpr fun thread => (unheld thread).1
  have writes := (writesHeld_eq_zero state).mpr fun thread => (unheld thread).2
  have free : state.lock.rwlock = 0 := by
    have balance := counted.balance
    omega
  obtain ⟨other, -, ⟨awake | awake, -⟩ | ⟨pending | pending, -⟩⟩ := wakers free sleeper asleep <;>
    rcases idle other with place | place | place <;> simp_all

/-- A reader sleeps while the releasing writer has yet to notify it. -/
theorem no_lost_wakeup_after_writer :
    ∃ state, (ownedMachine (Fin 2)).Reachable state ∧ (state.threads 1).Asleep ∧
      ∃ other, other ≠ 1 ∧ Wakes state other := by
  have reachable : ∃ state, (ownedMachine (Fin 2)).Reachable state ∧
      state.lock.rwlock = 0 ∧ (state.threads 1).place = .readersSleep :=
    ⟨_, ⟨State.init, [(0, .call .writeAcquire), (1, .call (.readAcquire true)),
      (0, .call .writeRelease)], rfl, rfl⟩, rfl, rfl⟩
  obtain ⟨state, reached, free, asleep⟩ := reachable
  exact ⟨state, reached, .inl asleep, (no_lost_wakeup state reached).1 free 1 (.inl asleep)⟩

end Palette.Lock
