import Palette.Status.Control

/-!
# Status reports are applied fresh

A report is fresh when no user action started or finished between the query and the
application of the report. The second try of the lock excludes commands that still hold
the lock, but a whole command fits between the query and that try, and a command on
another connection takes another lock. In the runs in which neither happens, every
applied report is fresh.

The invariant is about the lock: its depth counts the command and the status check of
its owner, so a command that started on the connection since the query and has not
finished still holds the lock, and then nobody else can apply a report there.
-/

namespace Palette.Status

open Palette.Foundation

universe u v

variable {Conn : Type u} {Cmd : Type v}

/-- The connection of a status check that is not at rest. -/
def Check.conn : Check Conn → Option Conn
  | .rest => none
  | .probed conn | .asked conn | .locked conn _ | .decided conn _ _ | .applied conn => some conn

/-- The connection whose lock a status check has taken. -/
def Check.inside : Check Conn → Option Conn
  | .locked conn _ | .decided conn _ _ | .applied conn => some conn
  | _ => none

/-- The connection of a status check whose query is out or answered. -/
def Check.pending : Check Conn → Option Conn
  | .asked conn | .locked conn _ | .decided conn _ _ => some conn
  | _ => none

/-- A pending check is not at rest. -/
theorem Check.conn_of_pending {check : Check Conn} {conn : Conn}
    (pending : check.pending = some conn) : check.conn = some conn := by
  cases check <;> simp_all [Check.pending, Check.conn]

/-- A check inside the lock is not at rest. -/
theorem Check.conn_of_inside {check : Check Conn} {conn : Conn}
    (inside : check.inside = some conn) : check.conn = some conn := by
  cases check <;> simp_all [Check.inside, Check.conn]

/-- A user action starts or finishes. -/
def Happening.UserAction : Happening Conn Cmd → Prop
  | .started _ _ | .finished _ => True
  | _ => False

variable [DecidableEq Conn]

/-- How often a worker has taken the lock of a connection: for its command and for its
status check. -/
def Local.depth (worker : Local Conn) (conn : Conn) : Nat :=
  (if worker.holding = some conn then 1 else 0) +
    (if worker.check.inside = some conn then 1 else 0)

/-- Something that leaves a status check on a connection undisturbed: no command finishes,
and none starts on another connection. -/
def Happening.Spares (conn : Conn) : Happening Conn Cmd → Prop
  | .finished _ => False
  | .started _ other => other = conn
  | _ => True

instance (conn : Conn) (happening : Happening Conn Cmd) : Decidable (happening.Spares conn) := by
  cases happening <;> unfold Happening.Spares <;> infer_instance

variable [DecidableEq Cmd]

/-- How often a lock is taken by a worker. -/
def lockDepth (lock : Option (Worker Cmd × Nat)) (worker : Worker Cmd) : Nat :=
  match lock with
  | some (owner, depth) => if owner = worker then depth else 0
  | none => 0

/-- A report is applied only when everything that happened since its query spares it. -/
def Undisturbed (control : Control Conn Cmd) : Turn Conn Cmd → Prop
  | .apply worker _ =>
      ∀ conn ∈ (control.workers worker).check.pending,
        ∀ happening ∈ since (.queried worker) control.history, happening.Spares conn
  | _ => True

instance (control : Control Conn Cmd) (turn : Turn Conn Cmd) :
    Decidable (Undisturbed control turn) := by
  cases turn <;> unfold Undisturbed <;> infer_instance

/-- An applied report was queried, and no user action started or finished since. -/
def AppliedFresh (happening : Happening Conn Cmd) (past : List (Happening Conn Cmd)) : Prop :=
  ∀ worker, happening = .applied worker →
    .queried worker ∈ past ∧ ∀ other ∈ since (.queried worker) past, ¬ other.UserAction

/-! ## Locks -/

omit [DecidableEq Conn] in
/-- Taking a lock makes it deeper for the worker alone. -/
theorem lockDepth_acquire (lock : Option (Worker Cmd × Nat)) (worker other : Worker Cmd)
    (owned : Worker Cmd × Nat) (taken : acquire lock worker = some owned) :
    lockDepth (some owned) other = lockDepth lock other + if other = worker then 1 else 0 := by
  cases lock with
  | none =>
    cases taken
    by_cases same : other = worker
    · simp [lockDepth, same]
    · simp [lockDepth, same, Ne.symm same]
  | some pair =>
    obtain ⟨owner, depth⟩ := pair
    simp only [acquire, Option.ite_none_right_eq_some, Option.some.injEq] at taken
    obtain ⟨rfl, rfl⟩ := taken
    by_cases same : other = owner
    · simp [lockDepth, same]
    · simp [lockDepth, same, Ne.symm same]

omit [DecidableEq Conn] in
/-- Giving a lock back makes it less deep. -/
theorem lockDepth_released (lock : Option (Worker Cmd × Nat)) (worker : Worker Cmd) :
    lockDepth (released lock) worker = lockDepth lock worker - 1 := by
  cases lock with
  | none => rfl
  | some pair =>
    obtain ⟨owner, depth⟩ := pair
    match depth with
    | 0 | 1 =>
      simp only [released, lockDepth]
      split <;> rfl
    | depth + 2 =>
      simp only [released, lockDepth]
      split <;> rfl

omit [DecidableEq Conn] in
/-- A lock has one owner. -/
theorem owner_unique (lock : Option (Worker Cmd × Nat)) (left right : Worker Cmd)
    (leftOwns : lockDepth lock left ≠ 0) (rightOwns : lockDepth lock right ≠ 0) : left = right := by
  cases lock with
  | none => exact absurd rfl leftOwns
  | some pair =>
    obtain ⟨owner, depth⟩ := pair
    simp only [lockDepth, ne_eq, ite_eq_right_iff, Classical.not_imp] at leftOwns rightOwns
    exact leftOwns.1.symm.trans rightOwns.1

/-- What every run keeps about locks and checks. -/
structure Locked (control : Control Conn Cmd) : Prop where
  depths : ∀ conn worker,
    lockDepth (control.locks conn) worker = (control.workers worker).depth conn
  own : ∀ cmd conn, (control.workers (.command cmd)).check.conn = some conn →
    (control.workers (.command cmd)).holding = some conn

omit [DecidableEq Conn] in
/-- Giving a lock back changes nothing for those who do not own it. -/
theorem lockDepth_released_other (lock : Option (Worker Cmd × Nat)) (worker other : Worker Cmd)
    (owns : lockDepth lock worker ≠ 0) (apart : other ≠ worker) :
    lockDepth (released lock) other = lockDepth lock other := by
  have none : lockDepth lock other = 0 := by
    by_contra also
    exact apart (owner_unique lock other worker also owns)
  rw [lockDepth_released, none]

namespace Locked

variable {control next : Control Conn Cmd}

/-- Moving one worker along with the depths of its locks. -/
theorem moved (locked : Locked control) (worker : Worker Cmd) (changed : Local Conn)
    (workers : next.workers = Function.update control.workers worker changed)
    (locks : ∀ conn other, lockDepth (next.locks conn) other =
      if other = worker then changed.depth conn else lockDepth (control.locks conn) other)
    (own : ∀ cmd, worker = .command cmd → ∀ conn, changed.check.conn = some conn →
      changed.holding = some conn) : Locked next where
  depths := by
    intro conn other
    rw [locks, workers]
    by_cases same : other = worker
    · subst same
      simp
    · rw [if_neg same, Function.update_of_ne same]
      exact locked.depths conn other
  own := by
    intro cmd conn
    rw [workers]
    by_cases same : Worker.command cmd = worker
    · subst same
      rw [Function.update_self]
      exact own cmd rfl conn
    · rw [Function.update_of_ne same]
      exact locked.own cmd conn

/-- Moving one worker that takes and gives back no lock. -/
theorem kept (locked : Locked control) (worker : Worker Cmd) (changed : Local Conn)
    (workers : next.workers = Function.update control.workers worker changed)
    (locks : next.locks = control.locks)
    (depth : ∀ conn, changed.depth conn = (control.workers worker).depth conn)
    (own : ∀ cmd, worker = .command cmd → ∀ conn, changed.check.conn = some conn →
      changed.holding = some conn) : Locked next := by
  apply locked.moved worker changed workers _ own
  intro conn other
  rw [locks]
  by_cases same : other = worker
  · rw [if_pos same, depth, same, locked.depths]
  · rw [if_neg same]

/-- Every turn keeps locks and workers in agreement. -/
theorem step (locked : Locked control) (turn : Turn Conn Cmd) (change : Change control turn next) :
    Locked next := by
  cases change with
  | primaryInserted | pendingWritten | primaryDeleted | disconnectedWritten | stateWritten =>
    exact ⟨locked.depths, locked.own⟩
  | begun cmd conn idle free =>
    apply locked.moved (.command cmd) ⟨some conn, none, .rest⟩
    · rfl
    · intro other worker
      by_cases same : other = conn
      · subst same
        by_cases self : worker = .command cmd
        · simp [self, lockDepth, Local.depth, Check.inside]
        · simp [self, Ne.symm self, lockDepth, free]
      · have nothing := locked.depths other (.command cmd)
        by_cases self : worker = .command cmd
        · simp_all [Local.depth, Check.inside, Ne.symm same]
        · simp [same, self]
    · rintro other - taken checked
      simp [Check.conn] at checked
  | finished cmd conn reading place =>
    have held := locked.depths conn (.command cmd)
    apply locked.moved (.command cmd) ⟨none, none, .rest⟩
    · rfl
    · intro other worker
      by_cases same : other = conn
      · subst same
        by_cases self : worker = .command cmd
        · subst self
          simp_all [lockDepth_released, Local.depth, Check.inside]
        · have owns : lockDepth (control.locks other) (.command cmd) ≠ 0 := by
            simp [held, place, Local.depth]
          simp [self, lockDepth_released_other _ _ _ owns self]
      · have nothing := locked.depths other (.command cmd)
        by_cases self : worker = .command cmd
        · simp_all [Local.depth, Check.inside, Ne.symm same]
        · simp [same, self]
    · rintro other - taken checked
      simp [Check.conn] at checked
  | stateRead cmd conn reading place =>
    apply locked.kept (.command cmd) ⟨some conn, some control.board.mainState, .rest⟩
    · rfl
    · rfl
    · intro other
      simp [place, Local.depth]
    · rintro other - taken checked
      simp [Check.conn] at checked
  | probed conn rests registered free =>
    apply locked.kept .monitor { control.workers .monitor with check := .probed conn }
    · rfl
    · rfl
    · intro other
      simp [rests, Local.depth, Check.inside]
    · rintro cmd ⟨⟩
  | monitorAsked conn place =>
    apply locked.kept .monitor { control.workers .monitor with check := .asked conn }
    · rfl
    · rfl
    · intro other
      simp [place, Local.depth, Check.inside]
    · rintro cmd ⟨⟩
  | commandAsked cmd conn reading place =>
    apply locked.kept (.command cmd)
      { control.workers (.command cmd) with check := .asked conn }
    · rfl
    · rfl
    · intro other
      simp [place, Local.depth, Check.inside]
    · rintro other ⟨⟩ taken checked
      simpa [place, Check.conn] using checked
  | gaveUp worker conn place | refused worker _ conn place _ =>
    apply locked.kept worker { control.workers worker with check := .rest }
    · rfl
    · rfl
    · intro other
      simp [place, Local.depth, Check.inside]
    · rintro other - taken checked
      simp [Check.conn] at checked
  | acquired worker status conn owned place taken =>
    apply locked.moved worker { control.workers worker with check := .locked conn status }
    · rfl
    · intro other someone
      by_cases same : other = conn
      · subst same
        rw [Control.check, Control.work, Control.lock]
        simp only [Function.update_self, lockDepth_acquire _ _ _ _ taken]
        by_cases self : someone = worker
        · subst self
          simp [locked.depths, Local.depth, place, Check.inside]
        · simp [self]
      · by_cases self : someone = worker
        · subst self
          simp [same, locked.depths, Local.depth, place, Check.inside, Ne.symm same]
        · simp [same, self]
    · rintro cmd rfl other checked
      apply locked.own cmd other
      simpa [place, Check.conn] using checked
  | decided worker conn status place =>
    apply locked.kept worker
      { control.workers worker with check := .decided conn status control.board.mainState }
    · rfl
    · rfl
    · intro other
      simp [place, Local.depth, Check.inside]
    · rintro cmd rfl other checked
      apply locked.own cmd other
      simpa [place, Check.conn] using checked
  | applied worker setting conn status prevState place =>
    apply locked.kept worker { control.workers worker with check := .applied conn }
    · rfl
    · rfl
    · intro other
      simp [place, Local.depth, Check.inside]
    · rintro cmd rfl other checked
      apply locked.own cmd other
      simpa [place, Check.conn] using checked
  | releasedAgain worker conn place =>
    have held := locked.depths conn worker
    apply locked.moved worker { control.workers worker with check := .rest }
    · rfl
    · intro other someone
      by_cases same : other = conn
      · subst same
        by_cases self : someone = worker
        · subst self
          simp [lockDepth_released, held, Local.depth, place, Check.inside]
        · have owns : lockDepth (control.locks other) worker ≠ 0 := by
            simp [held, place, Local.depth, Check.inside]
          simp [self, lockDepth_released_other _ _ _ owns self]
      · by_cases self : someone = worker
        · subst self
          simp [same, locked.depths, Local.depth, place, Check.inside, Ne.symm same]
        · simp [same, self]
    · rintro other - taken checked
      simp [Check.conn] at checked

end Locked

/-- What every run keeps about a pending query: it was made, a command that started on its
connection since then has finished or holds the lock, and a command's own query is not
older than the command. -/
structure Queried (control : Control Conn Cmd) : Prop where
  asked : ∀ worker conn, (control.workers worker).check.pending = some conn →
    .queried worker ∈ control.history
  covered : ∀ worker conn, (control.workers worker).check.pending = some conn →
    ∀ cmd, .started cmd conn ∈ since (.queried worker) control.history →
      .finished cmd ∈ since (.queried worker) control.history ∨
        (control.workers (.command cmd)).holding = some conn
  within : ∀ cmd conn, (control.workers (.command cmd)).check.pending = some conn →
    ∀ other, .started cmd other ∉ since (.queried (.command cmd)) control.history

namespace Queried

variable {control next : Control Conn Cmd}

/-- A turn that records something. Only a query makes a check pending, only finishing
gives up a connection, and a command that starts holds its connection and checks nothing. -/
theorem noted (queried : Queried control) (happening : Happening Conn Cmd)
    (history : next.history = happening :: control.history)
    (pending : ∀ worker conn, (next.workers worker).check.pending = some conn →
      (control.workers worker).check.pending = some conn ∨ happening = .queried worker)
    (holding : ∀ cmd conn, (control.workers (.command cmd)).holding = some conn →
      (next.workers (.command cmd)).holding = some conn ∨ happening = .finished cmd)
    (starts : ∀ cmd conn, happening = .started cmd conn →
      (next.workers (.command cmd)).holding = some conn ∧
        (next.workers (.command cmd)).check.pending = none) : Queried next where
  asked := by
    intro worker conn checks
    rw [history]
    rcases pending worker conn checks with before | now
    · exact List.mem_cons_of_mem _ (queried.asked worker conn before)
    · exact now ▸ List.mem_cons_self
  covered := by
    intro worker conn checks cmd started
    rw [history] at started ⊢
    by_cases now : happening = .queried worker
    · simp [now] at started
    have before := (pending worker conn checks).resolve_right now
    rcases of_mem_since_cons started with newest | earlier
    · exact Or.inr (starts cmd conn newest.symm).1
    · rw [mem_since_cons now]
      rcases queried.covered worker conn before cmd earlier with finished | held
      · exact Or.inl (Or.inr finished)
      · rcases holding cmd conn held with held | finishes
        · exact Or.inr held
        · exact Or.inl (Or.inl finishes.symm)
  within := by
    intro cmd conn checks other started
    rw [history] at started
    by_cases now : happening = .queried (.command cmd)
    · simp [now] at started
    have before := (pending (.command cmd) conn checks).resolve_right now
    rcases of_mem_since_cons started with newest | earlier
    · rw [(starts cmd other newest.symm).2] at checks
      cases checks
    · exact queried.within cmd conn before other earlier

/-- A turn that records nothing, makes no check pending and gives up no connection. -/
theorem silent (queried : Queried control) (history : next.history = control.history)
    (pending : ∀ worker conn, (next.workers worker).check.pending = some conn →
      (control.workers worker).check.pending = some conn)
    (holding : ∀ cmd conn, (control.workers (.command cmd)).holding = some conn →
      (next.workers (.command cmd)).holding = some conn) : Queried next where
  asked := by
    intro worker conn checks
    rw [history]
    exact queried.asked worker conn (pending worker conn checks)
  covered := by
    intro worker conn checks cmd started
    rw [history] at started ⊢
    exact (queried.covered worker conn (pending worker conn checks) cmd started).imp_right
      (holding cmd conn)
  within := by
    intro cmd conn checks other
    rw [history]
    exact queried.within cmd conn (pending (.command cmd) conn checks) other

omit [DecidableEq Conn] in
/-- Moving one worker to a check that is pending only as before leaves the pending checks. -/
theorem pending_update (workers : Worker Cmd → Local Conn) (worker : Worker Cmd)
    (changed : Local Conn)
    (same : ∀ conn, changed.check.pending = some conn →
      (workers worker).check.pending = some conn) (other : Worker Cmd) (conn : Conn)
    (checks : (Function.update workers worker changed other).check.pending = some conn) :
    (workers other).check.pending = some conn := by
  by_cases equal : other = worker
  · subst equal
    rw [Function.update_self] at checks
    exact same conn checks
  · rwa [Function.update_of_ne equal] at checks

omit [DecidableEq Conn] in
/-- Moving one worker that keeps its connection leaves the held connections. -/
theorem holding_update (workers : Worker Cmd → Local Conn) (worker other : Worker Cmd)
    (changed : Local Conn) (conn : Conn)
    (same : (workers worker).holding = some conn → changed.holding = some conn)
    (held : (workers other).holding = some conn) :
    (Function.update workers worker changed other).holding = some conn := by
  by_cases equal : other = worker
  · subst equal
    rw [Function.update_self]
    exact same held
  · rwa [Function.update_of_ne equal]

/-- Every turn keeps what is known about pending queries. -/
theorem step (queried : Queried control) (turn : Turn Conn Cmd)
    (change : Change control turn next) : Queried next := by
  cases change with
  | primaryInserted | primaryDeleted | stateWritten =>
    exact ⟨queried.asked, queried.covered, queried.within⟩
  | pendingWritten =>
    apply queried.noted .pended rfl
    · exact fun _ _ => Or.inl
    · exact fun _ _ => Or.inl
    · rintro cmd conn ⟨⟩
  | disconnectedWritten =>
    apply queried.noted .disconnected rfl
    · exact fun _ _ => Or.inl
    · exact fun _ _ => Or.inl
    · rintro cmd conn ⟨⟩
  | begun cmd conn idle free =>
    apply queried.noted (.started cmd conn) rfl
    · intro worker other checks
      exact Or.inl (pending_update _ _ _ (by simp [Check.pending]) worker other checks)
    · intro other held holds
      refine Or.inl (holding_update _ _ _ _ _ ?_ holds)
      simp [idle]
    · rintro other held ⟨⟩
      simp [Check.pending]
  | stateRead cmd conn reading place =>
    apply queried.noted (.read cmd) rfl
    · intro worker other checks
      exact Or.inl (pending_update _ _ _ (by simp [Check.pending]) worker other checks)
    · intro other held holds
      refine Or.inl (holding_update _ _ _ _ _ ?_ holds)
      simp [place]
    · rintro other held ⟨⟩
  | finished cmd conn reading place =>
    apply queried.noted (.finished cmd) rfl
    · intro worker other checks
      exact Or.inl (pending_update _ _ _ (by simp [Check.pending]) worker other checks)
    · intro other held holds
      by_cases same : other = cmd
      · exact Or.inr (by rw [same])
      · left
        simpa [same] using holds
    · rintro other held ⟨⟩
  | probed conn rests =>
    apply queried.silent
    · rfl
    · exact pending_update _ _ _ (by simp [Check.pending])
    · exact fun cmd held => holding_update _ _ _ _ _ id
  | monitorAsked conn place =>
    apply queried.noted (.queried .monitor) rfl
    · intro worker other checks
      by_cases same : worker = .monitor
      · exact Or.inr (by rw [same])
      · left
        simpa [same] using checks
    · exact fun cmd held holds => Or.inl (holding_update _ _ _ _ _ id holds)
    · rintro other held ⟨⟩
  | commandAsked cmd conn reading place =>
    apply queried.noted (.queried (.command cmd)) rfl
    · intro worker other checks
      by_cases same : worker = .command cmd
      · exact Or.inr (by rw [same])
      · left
        simpa [same] using checks
    · exact fun other held holds => Or.inl (holding_update _ _ _ _ _ id holds)
    · rintro other held ⟨⟩
  | gaveUp worker conn place | refused worker _ conn place _ =>
    apply queried.silent
    · rfl
    · exact pending_update _ _ _ (by simp [Check.pending])
    · exact fun cmd held => holding_update _ _ _ _ _ id
  | acquired worker status conn owned place taken =>
    apply queried.silent
    · rfl
    · exact pending_update _ _ _ (by simp [place, Check.pending])
    · exact fun cmd held => holding_update _ _ _ _ _ id
  | decided worker conn status place =>
    apply queried.noted (.decided worker) rfl
    · intro other held checks
      exact Or.inl (pending_update _ _ _ (by simp [place, Check.pending]) other held checks)
    · exact fun other held holds => Or.inl (holding_update _ _ _ _ _ id holds)
    · rintro other held ⟨⟩
  | applied worker setting conn status prevState place =>
    apply queried.noted (.applied worker) rfl
    · intro other held checks
      exact Or.inl (pending_update _ _ _ (by simp [Check.pending]) other held checks)
    · exact fun other held holds => Or.inl (holding_update _ _ _ _ _ id holds)
    · rintro other held ⟨⟩
  | releasedAgain worker conn place =>
    apply queried.silent
    · rfl
    · exact pending_update _ _ _ (by simp [Check.pending])
    · exact fun cmd held => holding_update _ _ _ _ _ id

end Queried

/-! ## Undisturbed runs -/

/-- Locks and pending queries together, in every run. -/
theorem locked_invariant :
    (mainStateMachine : Machine (Control Conn Cmd) (Turn Conn Cmd)).Invariant
      fun control => Locked control ∧ Queried control where
  starts := by
    rintro control rfl
    refine ⟨⟨fun _ _ => rfl, ?_⟩, ?_, ?_, ?_⟩ <;> simp [Control.init, Check.conn, Check.pending]
  preserved control turn next holds stepped :=
    ⟨holds.1.step turn (step_change control next turn stepped),
      holds.2.step turn (step_change control next turn stepped)⟩

/-- An undisturbed application is fresh: a command that started on the connection since
the query has not finished, so it holds the lock that the applying worker is inside of,
and it is that worker; but its query is not older than the command. -/
theorem applied_fresh (control : Control Conn Cmd) (locked : Locked control)
    (queried : Queried control) (worker : Worker Cmd) (conn : Conn) (status : TableauStatus)
    (prevState : MainState)
    (place : (control.workers worker).check = .decided conn status prevState)
    (undisturbed : ∀ happening ∈ since (.queried worker) control.history,
      happening.Spares conn) :
    AppliedFresh (.applied worker) control.history := by
  have pending : (control.workers worker).check.pending = some conn := by rw [place]; rfl
  rintro other ⟨⟩
  refine ⟨queried.asked worker conn pending, ?_⟩
  intro happening member action
  have spares := undisturbed happening member
  cases happening with
  | finished cmd => exact spares
  | started cmd there =>
    have here : there = conn := spares
    subst here
    rcases queried.covered worker there pending cmd member with finished | held
    · exact undisturbed _ finished
    · have holds : lockDepth (control.locks there) (.command cmd) ≠ 0 := by
        rw [locked.depths]
        simp [Local.depth, held]
      have applies : lockDepth (control.locks there) worker ≠ 0 := by
        rw [locked.depths]
        simp [Local.depth, place, Check.inside]
      have same := owner_unique _ _ _ holds applies
      subst same
      exact queried.within cmd there pending there member
  | read | queried | decided | applied | pended | disconnected => exact action

/-- The undisturbed runs. -/
def undisturbedMachine : Machine (Control Conn Cmd) (Turn Conn Cmd) :=
  mainStateMachine.restrict Undisturbed

/-- In an undisturbed run every applied report is fresh. -/
theorem applied_reports_fresh (control : Control Conn Cmd)
    (reachable : undisturbedMachine.Reachable control) : Always AppliedFresh control.history := by
  have locks : undisturbedMachine.Invariant
      fun control : Control Conn Cmd => Locked control ∧ Queried control :=
    locked_invariant.restrict
  have applications : undisturbedMachine.Invariant fun control : Control Conn Cmd =>
      (Locked control ∧ Queried control) ∧ Always AppliedFresh control.history := by
    apply locks.strengthen
    · rintro start rfl
      exact always_nil _
    · intro before turn next holds fresh stepped
      obtain ⟨undisturbed, accepted⟩ := Machine.restrict_step_eq_some.mp stepped
      have change := step_change before next turn accepted
      cases change with
      | primaryInserted | primaryDeleted | stateWritten | probed | gaveUp | refused | acquired
      | releasedAgain => exact fresh
      | applied worker setting conn status prevState place =>
        refine (always_cons _ _ _).mpr ⟨?_, fresh⟩
        apply applied_fresh before holds.1 holds.2 worker conn status prevState place
        exact undisturbed conn (by rw [place]; rfl)
      | pendingWritten | disconnectedWritten | begun | stateRead | finished | monitorAsked
      | commandAsked | decided =>
        refine (always_cons _ _ _).mpr ⟨?_, fresh⟩
        rintro worker ⟨⟩
  exact (applications.reachable reachable).2

/-- The first report is applied fresh. -/
theorem applied_reports_fresh_reported : Always AppliedFresh reported.history :=
  applied_reports_fresh reported ⟨.init, firstReport, rfl, rfl⟩

/-- The monitor asks again, and while the agent answers that it is running a user stops
it: the command runs from its start to its finish before the monitor tries the lock. -/
def stopDuringQuery : List (Turn Nat Unit) :=
  [.probe 1, .ask .monitor, .begin () 1, .read (), .write () .stopping, .ask (.command ()),
    .attempt (.command ()) .stopped, .decide (.command ()),
    .apply (.command ()) ⟨false, 120, 1, true⟩, .release (.command ()), .finish (),
    .attempt .monitor .running, .decide .monitor, .apply .monitor ⟨false, 120, 2, true⟩]

/-- The stale report undoes the stop and sends an event about an unexpected start. -/
theorem stale_report_applied :
    ∃ control : Control Nat Unit, mainStateMachine.Reachable control ∧
      control.board.mainState = .started ∧
      .stateUnexpectedStateStarted ∈ control.board.events ∧
      ¬ Always AppliedFresh control.history := by
  refine ⟨(mainStateMachine.run .init (firstReport ++ stopDuringQuery)).getD .init,
    ⟨.init, firstReport ++ stopDuringQuery, rfl, rfl⟩, by decide, by decide, ?_⟩
  intro always
  have newest := ((always_cons _ _ _).mp always).1 .monitor rfl
  exact newest.2 (.finished ()) (by decide) trivial

end Palette.Status
