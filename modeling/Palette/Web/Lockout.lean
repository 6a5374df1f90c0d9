import Palette.Foundation.Transition
import Palette.Web.Statements

/-!
# The counter of failed logins

A login for a name is checked against the counter of that name, then answered, and
the answer changes the counter: a successful login deletes its row, a failed one reads
it and then writes the next number into it. Any number of requests for one name take
these steps, one SQL statement at a time, in any order.

The law is that the counter is the number of failed logins completed since the last
successful one, that no statement fails because of another request, and that a
counter above the limit keeps refusing until it is deleted. It holds in the runs where
each number is written over the number that it was computed from.
-/

namespace Palette.Web

open Foundation Foundation.SqlText Palette.Telnet

/-! ## The table -/

/-- The rows of `palette_user_lockout`: at most one for a name. -/
abbrev Lockouts := Text → Option Nat

/-- A table after a statement, and the value that a query gives, if it gives a row. -/
abbrev Executed := Except DatabaseError (Lockouts × Option Nat)

/-- What a statement does to the table of the failed logins if it is read as meant. A
name has at most 64 characters. -/
def Statement.effect (table : Lockouts) : Statement → Executed
  | deleteUser name => .ok (Function.update table name none, none)
  | updateUser count name =>
    .ok (if (table name).isSome then Function.update table name (some count) else table, none)
  | insertUser name =>
    if 64 < name.length then .error .valueTooLong
    else if (table name).isSome then .error .uniqueViolation
    else .ok (Function.update table name (some 1), none)
  | selectUser name => .ok (table, table name)
  | insertToken _ _ | deleteToken _ | countToken _ => .ok (table, none)

/-! ## The requests -/

/-- How a login ended. -/
inductive Attempt
  | accepted
  | rejected
  deriving DecidableEq

/-- How far a request is. -/
inductive Phase
  | waiting
  | admitted
  | counting (count : Nat)
  | refused
  | answered
  | raised
  | failed (error : DatabaseError)
  deriving DecidableEq

/-- The table, the requests for the name, and the completed logins, last first. -/
structure Logins where
  table : Lockouts
  phase : Nat → Phase
  completed : List Attempt

/-- A request takes a step. -/
inductive Happening
  | arrive (request : Nat)
  | accept (request : Nat)
  | reject (request : Nat)
  | record (request : Nat)
  | raise (request : Nat)
  deriving DecidableEq

/-- The storage with its limit. -/
structure UserLockoutStorage where
  injected : Option Text → Lockouts → Executed
  maxAttempts : Nat

/-- `run_sql` on the table of the failed logins. -/
def UserLockoutStorage.run (storage : UserLockoutStorage) (statement : Statement)
    (table : Lockouts) : Executed :=
  statement.execute (Statement.effect table) (storage.injected · table)

/-- A statement about a name without quotes does what is meant. -/
theorem UserLockoutStorage.run_eq {storage : UserLockoutStorage} {statement : Statement}
    {table : Lockouts} (unquoted : '\'' ∉ statement.given) :
    storage.run statement table = statement.effect table :=
  Statement.execute_eq unquoted

namespace Logins

variable (storage : UserLockoutStorage) (name : Text)

/-- The stored number of failed logins of the name. -/
def attemptCount (logins : Logins) : Nat := (logins.table name).getD 0

/-- The failed logins since the last successful one. -/
def consecutive (completed : List Attempt) : Nat :=
  (completed.takeWhile (· = .rejected)).length

/-- Put a request into a phase. -/
def put (logins : Logins) (request : Nat) (phase : Phase) : Logins :=
  { logins with phase := Function.update logins.phase request phase }

/-- Run a statement of a request, and go on with the value it gives. -/
def after (logins : Logins) (request : Nat) (statement : Statement)
    (next : Logins → Option Nat → Logins) : Logins :=
  match storage.run statement logins.table with
  | .error error => logins.put request (.failed error)
  | .ok (table, value) => next { logins with table := table } value

/-- `is_user_locked_out`: one statement decides whether the login is tried. -/
def arrive (logins : Logins) (request : Nat) : Logins :=
  logins.after storage request (.selectUser name) fun logins value =>
    logins.put request (if storage.maxAttempts < value.getD 0 then .refused else .admitted)

/-- `successful_attempt`. -/
def accept (logins : Logins) (request : Nat) : Logins :=
  logins.after storage request (.deleteUser name) fun logins _ =>
    { logins.put request .answered with completed := .accepted :: logins.completed }

/-- `failed_attempt`, its first statement. -/
def reject (logins : Logins) (request : Nat) : Logins :=
  logins.after storage request (.selectUser name) fun logins value =>
    logins.put request (.counting (value.getD 0))

/-- `failed_attempt`, its second statement. -/
def record (logins : Logins) (request count : Nat) : Logins :=
  logins.after storage request
    (if 0 < count then .updateUser (count + 1) name else .insertUser name) fun logins _ =>
      { logins.put request .answered with completed := .rejected :: logins.completed }

/-- A request takes a step; the application may also raise before it answers. -/
def step (logins : Logins) : Happening → Option Logins
  | .arrive request => if logins.phase request = .waiting then logins.arrive storage name request else none
  | .accept request => if logins.phase request = .admitted then logins.accept storage name request else none
  | .reject request => if logins.phase request = .admitted then logins.reject storage name request else none
  | .record request =>
    match logins.phase request with
    | .counting count => logins.record storage name request count
    | _ => none
  | .raise request => if logins.phase request = .admitted then logins.put request .raised else none

/-- The row of a counter; there is none for zero. -/
def row : Nat → Option Nat
  | 0 => none
  | count + 1 => some (count + 1)

/-- The logins for a name: at the start no request is under way and the counter is the
one of the logins so far. -/
def machine : Machine Logins Happening where
  initial logins := (∀ request, logins.phase request = .waiting) ∧
    logins.table name = row (consecutive logins.completed)
  step logins := logins.step storage name

/-- The counter is the number of failed logins since the last successful one, and no
statement failed because of another request. -/
structure Counted (logins : Logins) : Prop where
  count : logins.attemptCount name = consecutive logins.completed
  undisturbed : ∀ request, logins.phase request ≠ .failed .uniqueViolation

/-- The number that a failed login writes was computed from the present counter. -/
def Current (logins : Logins) : Happening → Prop
  | .record request => logins.phase request = .counting (logins.attemptCount name)
  | _ => True

instance (logins : Logins) : (happening : Happening) → Decidable (logins.Current name happening)
  | .record _ => inferInstanceAs (Decidable (_ = _))
  | .arrive _ | .accept _ | .reject _ | .raise _ => .isTrue trivial

variable {storage name}

/-! ## Single statements -/

/-- A statement about a name without quotes does what is meant. -/
theorem after_eq {logins : Logins} {request : Nat} {statement : Statement}
    {next : Logins → Option Nat → Logins} (unquoted : '\'' ∉ statement.given) :
    logins.after storage request statement next =
      match statement.effect logins.table with
      | .error error => logins.put request (.failed error)
      | .ok (table, value) => next { logins with table := table } value := by
  rw [after, UserLockoutStorage.run_eq unquoted]

variable (unquoted : '\'' ∉ name) {logins : Logins} {request : Nat}
include unquoted

theorem arrive_eq : logins.arrive storage name request =
    logins.put request
      (if storage.maxAttempts < logins.attemptCount name then .refused else .admitted) := by
  rw [arrive, after_eq (by exact unquoted)]
  rfl

theorem accept_eq : logins.accept storage name request =
    ⟨Function.update logins.table name none, Function.update logins.phase request .answered,
      .accepted :: logins.completed⟩ := by
  rw [accept, after_eq (by exact unquoted)]
  rfl

theorem reject_eq : logins.reject storage name request =
    logins.put request (.counting (logins.attemptCount name)) := by
  rw [reject, after_eq (by exact unquoted)]
  rfl

/-- A failed login that writes over the counter it has read either counts, or its name
has no place in the table. -/
theorem record_eq {before : Nat} (stored : logins.table name = row before) :
    logins.record storage name request before =
        ⟨Function.update logins.table name (row (before + 1)),
          Function.update logins.phase request .answered, .rejected :: logins.completed⟩ ∨
      logins.record storage name request before =
        logins.put request (.failed .valueTooLong) := by
  cases before with
  | zero =>
    rw [record, if_neg (Nat.lt_irrefl 0), after_eq (by exact unquoted)]
    have absent : (logins.table name).isSome = false := by rw [stored]; rfl
    by_cases long : 64 < name.length
    · exact .inr (by simp only [Statement.effect, if_pos long])
    · refine .inl ?_
      simp only [Statement.effect, if_neg long, absent, Bool.false_eq_true, if_false]
      rfl
  | succ count =>
    rw [record, if_pos (Nat.succ_pos count), after_eq (by exact unquoted)]
    have present : (logins.table name).isSome = true := by rw [stored]; rfl
    refine .inl ?_
    simp only [Statement.effect, present, if_true]
    rfl

omit unquoted

/-! ## Runs -/

/-- The row of the counter is the one of the logins so far, and no statement failed
because of another request. -/
structure Kept (name : Text) (logins : Logins) : Prop where
  row : logins.table name = row (consecutive logins.completed)
  undisturbed : ∀ request, logins.phase request ≠ .failed .uniqueViolation

/-- The number in a row. -/
theorem getD_row (count : Nat) : (row count).getD 0 = count := by
  cases count <;> rfl

theorem Kept.count (kept : logins.Kept name) :
    logins.attemptCount name = consecutive logins.completed := by
  rw [attemptCount, kept.row, getD_row]

theorem Kept.counted (kept : logins.Kept name) : logins.Counted name :=
  ⟨kept.count, kept.undisturbed⟩

/-- A phase without an error disturbs nothing. -/
theorem Kept.put (kept : logins.Kept name) {phase : Phase}
    (fine : phase ≠ .failed .uniqueViolation) : (logins.put request phase).Kept name where
  row := kept.row
  undisturbed other := by
    simp only [Logins.put]
    by_cases same : other = request
    · rw [same, Function.update_self]
      exact fine
    · rw [Function.update_of_ne same]
      exact kept.undisturbed other

/-- What one step does to the counter and the requests. -/
inductive Moved (storage : UserLockoutStorage) (name : Text) (logins : Logins) : Happening → Logins → Prop
  | arrived (request : Nat) (waiting : logins.phase request = .waiting) :
      Moved storage name logins (.arrive request) (logins.put request
        (if storage.maxAttempts < logins.attemptCount name then .refused else .admitted))
  | accepted (request : Nat) (admitted : logins.phase request = .admitted) :
      Moved storage name logins (.accept request)
        ⟨Function.update logins.table name none, Function.update logins.phase request .answered,
          .accepted :: logins.completed⟩
  | rejected (request : Nat) (admitted : logins.phase request = .admitted) :
      Moved storage name logins (.reject request)
        (logins.put request (.counting (logins.attemptCount name)))
  | recorded (request : Nat) (counting : logins.phase request = .counting (logins.attemptCount name)) :
      Moved storage name logins (.record request)
        ⟨Function.update logins.table name (row (logins.attemptCount name + 1)),
          Function.update logins.phase request .answered, .rejected :: logins.completed⟩
  | tooLong (request : Nat) (counting : logins.phase request = .counting (logins.attemptCount name)) :
      Moved storage name logins (.record request) (logins.put request (.failed .valueTooLong))
  | raised (request : Nat) (admitted : logins.phase request = .admitted) :
      Moved storage name logins (.raise request) (logins.put request .raised)

/-- A step whose number is current is one of these. -/
theorem moved_of_step (unquoted : '\'' ∉ name) (kept : logins.Kept name) {happening : Happening}
    {next : Logins}
    (stepped : ((machine storage name).restrict (Current name)).step logins happening = some next) :
    Moved storage name logins happening next := by
  obtain ⟨current, taken⟩ := Machine.restrict_step_eq_some.mp stepped
  cases happening with
  | arrive request =>
    simp only [machine, step, Option.ite_none_right_eq_some, Option.some.injEq] at taken
    obtain ⟨waiting, rfl⟩ := taken
    rw [arrive_eq unquoted]
    exact .arrived request waiting
  | accept request =>
    simp only [machine, step, Option.ite_none_right_eq_some, Option.some.injEq] at taken
    obtain ⟨admitted, rfl⟩ := taken
    rw [accept_eq unquoted]
    exact .accepted request admitted
  | reject request =>
    simp only [machine, step, Option.ite_none_right_eq_some, Option.some.injEq] at taken
    obtain ⟨admitted, rfl⟩ := taken
    rw [reject_eq unquoted]
    exact .rejected request admitted
  | record request =>
    simp only [Current] at current
    simp only [machine, step, current, Option.some.injEq] at taken
    subst taken
    have stored : logins.table name = row (logins.attemptCount name) := by
      rw [kept.count, kept.row]
    rcases @record_eq storage name unquoted logins request _ stored with recorded | failed
    · rw [recorded]
      exact .recorded request current
    · rw [failed]
      exact .tooLong request current
  | raise request =>
    simp only [machine, step, Option.ite_none_right_eq_some, Option.some.injEq] at taken
    obtain ⟨admitted, rfl⟩ := taken
    exact .raised request admitted

/-- The step lemma of the counter. -/
theorem Moved.kept {happening : Happening} {next : Logins}
    (moved : Moved storage name logins happening next) (kept : logins.Kept name) :
    next.Kept name := by
  have answered : ∀ (request other : Nat),
      Function.update logins.phase request .answered other ≠ .failed .uniqueViolation :=
    fun request => (@Kept.put name logins request kept .answered nofun).undisturbed
  cases moved with
  | arrived request => exact kept.put (by split <;> nofun)
  | accepted request => exact ⟨Function.update_self _ _ _, answered request⟩
  | rejected request => exact kept.put nofun
  | recorded request =>
    refine ⟨?_, answered request⟩
    simp only [Function.update_self, kept.count]
    rfl
  | tooLong request => exact kept.put nofun
  | raised request => exact kept.put nofun

/-- The counter is above the limit, and the requests that were waiting then were not
admitted since. -/
structure Locked (storage : UserLockoutStorage) (name : Text) (before logins : Logins) : Prop where
  above : storage.maxAttempts < logins.attemptCount name
  refused : ∀ request, before.phase request = .waiting →
    logins.phase request = .waiting ∨ logins.phase request = .refused

/-- The step lemma of the lockout: nothing but a successful login ends it. -/
theorem Moved.locked {happening : Happening} {before next : Logins}
    (moved : Moved storage name logins happening next)
    (uncleared : ∀ request, happening ≠ .accept request)
    (locked : Locked storage name before logins) : Locked storage name before next := by
  have others : ∀ (request : Nat) (phase : Phase), logins.phase request ≠ .waiting →
      logins.phase request ≠ .refused → ∀ other, before.phase other = .waiting →
        Function.update logins.phase request phase other = .waiting ∨
          Function.update logins.phase request phase other = .refused := by
    intro request phase started admitted other waited
    by_cases same : other = request
    · subst same
      rcases locked.refused other waited with waiting | refused
      · exact absurd waiting started
      · exact absurd refused admitted
    · rw [Function.update_of_ne same]
      exact locked.refused other waited
  cases moved with
  | arrived request waiting =>
    refine ⟨locked.above, fun other waited => ?_⟩
    simp only [put, if_pos locked.above]
    by_cases same : other = request
    · exact .inr (by rw [same, Function.update_self])
    · rw [Function.update_of_ne same]
      exact locked.refused other waited
  | accepted request => exact absurd rfl (uncleared request)
  | rejected request admitted =>
    exact ⟨locked.above, others request _ (by rw [admitted]; nofun) (by rw [admitted]; nofun)⟩
  | recorded request counting =>
    refine ⟨?_, others request _ (by rw [counting]; nofun) (by rw [counting]; nofun)⟩
    have above := locked.above
    simp only [attemptCount, Function.update_self, getD_row]
    exact Nat.lt_succ_of_lt above
  | tooLong request counting =>
    exact ⟨locked.above, others request _ (by rw [counting]; nofun) (by rw [counting]; nofun)⟩
  | raised request admitted =>
    exact ⟨locked.above, others request _ (by rw [admitted]; nofun) (by rw [admitted]; nofun)⟩

/-- The run lemma of the lockout, by induction on the schedule. -/
theorem locked_run (unquoted : '\'' ∉ name) {before final : Logins} {schedule : List Happening}
    (kept : logins.Kept name) (locked : Locked storage name before logins)
    (uncleared : ∀ request, .accept request ∉ schedule)
    (reached : ((machine storage name).restrict (Current name)).run logins schedule = some final) :
    Locked storage name before final := by
  induction schedule generalizing logins with
  | nil =>
    obtain rfl : logins = final := Option.some.inj reached
    exact locked
  | cons happening rest inductionHypothesis =>
    obtain ⟨next, stepped, continued⟩ := (Machine.run_cons_eq_some _ _ _ _).mp reached
    have moved := moved_of_step unquoted kept stepped
    refine inductionHypothesis (moved.kept kept) (moved.locked (fun request same => ?_) locked)
      (fun request member => uncleared request (List.mem_cons_of_mem happening member)) continued
    exact uncleared request (same ▸ List.mem_cons_self)

/-- A run lemma of the counter. -/
theorem kept_preserved (unquoted : '\'' ∉ name) :
    ((machine storage name).restrict (Current name)).Preserves (Kept name) :=
  fun _ _ _ kept stepped => (moved_of_step unquoted kept stepped).kept kept

/-- The number that a failed login has read stays current while the others only read. -/
theorem current_of_reading (unquoted : '\'' ∉ name) {request : Nat} {final : Logins}
    {schedule : List Happening}
    (reading : ∀ other, .accept other ∉ schedule ∧ .record other ∉ schedule)
    (counting : logins.phase request = .counting (logins.attemptCount name))
    (reached : (machine storage name).run logins schedule = some final) :
    final.Current name (.record request) := by
  induction schedule generalizing logins with
  | nil =>
    obtain rfl : logins = final := Option.some.inj reached
    simp only [Current, counting]
  | cons happening rest inductionHypothesis =>
    obtain ⟨next, taken, continued⟩ := (Machine.run_cons_eq_some _ _ _ _).mp reached
    refine inductionHypothesis (fun other =>
      ⟨fun member => (reading other).1 (List.mem_cons_of_mem happening member),
        fun member => (reading other).2 (List.mem_cons_of_mem happening member)⟩) ?_ continued
    have kept : ∀ (other : Nat) (phase : Phase), (∀ count, logins.phase other ≠ .counting count) →
        (logins.put other phase).phase request =
          .counting ((logins.put other phase).attemptCount name) := by
      intro other phase elsewhere
      have different : request ≠ other := fun same => elsewhere _ (same ▸ counting)
      simp only [put, Function.update_of_ne different]
      exact counting
    cases happening with
    | arrive other =>
      simp only [machine, step, Option.ite_none_right_eq_some, Option.some.injEq] at taken
      obtain ⟨waiting, rfl⟩ := taken
      rw [arrive_eq unquoted]
      exact kept other _ fun count => by rw [waiting]; nofun
    | accept other => exact absurd List.mem_cons_self (reading other).1
    | reject other =>
      simp only [machine, step, Option.ite_none_right_eq_some, Option.some.injEq] at taken
      obtain ⟨admitted, rfl⟩ := taken
      rw [reject_eq unquoted]
      exact kept other _ fun count => by rw [admitted]; nofun
    | record other => exact absurd List.mem_cons_self (reading other).2
    | raise other =>
      simp only [machine, step, Option.ite_none_right_eq_some, Option.some.injEq] at taken
      obtain ⟨admitted, rfl⟩ := taken
      exact kept other _ fun count => by rw [admitted]; nofun

/-- If each failed login writes over the counter that it has read, then in every state
the counter is the number of failed logins since the last successful one and no statement
failed because of another request; and from a state above the limit on, every request
that arrives before the counter is cleared is refused. -/
theorem every_failure_counted (unquoted : '\'' ∉ name) {start middle final : Logins}
    {before after : List Happening} (initial : (machine storage name).initial start)
    (reached : ((machine storage name).restrict (Current name)).run start before = some middle)
    (continued : ((machine storage name).restrict (Current name)).run middle after = some final) :
    middle.Counted name ∧ (storage.maxAttempts < middle.attemptCount name →
      (∀ request, .accept request ∉ after) → Locked storage name middle final) := by
  have fresh : start.Kept name := ⟨initial.2, fun request => by rw [initial.1 request]; nofun⟩
  have kept := (kept_preserved unquoted).run start middle before fresh reached
  exact ⟨kept.counted, fun above uncleared =>
    locked_run unquoted kept ⟨above, fun _ waiting => .inl waiting⟩ uncleared continued⟩

/-! ## Two failed logins at once -/

section Steps

variable (unquoted : '\'' ∉ name) {request : Nat}
include unquoted

theorem step_arrive (waiting : logins.phase request = .waiting) :
    (machine storage name).step logins (.arrive request) = some (logins.put request
      (if storage.maxAttempts < logins.attemptCount name then .refused else .admitted)) := by
  simp only [machine, step, if_pos waiting, arrive_eq unquoted]

theorem step_reject (admitted : logins.phase request = .admitted) :
    (machine storage name).step logins (.reject request) =
      some (logins.put request (.counting (logins.attemptCount name))) := by
  simp only [machine, step, if_pos admitted, reject_eq unquoted]

/-- A failed login that has read no row inserts one, if the name has a place in the table
and there still is none. -/
theorem step_insert (counting : logins.phase request = .counting 0) (short : ¬64 < name.length) :
    (machine storage name).step logins (.record request) =
      some (if (logins.table name).isSome then logins.put request (.failed .uniqueViolation)
        else ⟨Function.update logins.table name (some 1),
          Function.update logins.phase request .answered, .rejected :: logins.completed⟩) := by
  simp only [machine, step, counting, record, Nat.lt_irrefl, if_false]
  rw [after_eq (by exact unquoted)]
  cases stored : (logins.table name).isSome with
  | true => simp only [Statement.effect, if_neg short, stored, if_true]
  | false =>
    simp only [Statement.effect, if_neg short, stored, Bool.false_eq_true, if_false]
    rfl

end Steps

/-- A server with that limit; texts that are not read as meant do nothing. -/
def quietStorage (maxAttempts : Nat) : UserLockoutStorage where
  injected _ table := .ok (table, none)
  maxAttempts := maxAttempts

/-- Before the first request. -/
def noLogins : Logins := ⟨fun _ => none, fun _ => .waiting, []⟩

/-- The name in these runs has no quotes. -/
theorem unquoted_a : '\'' ∉ ['a'] := by decide

/-- One failed login is counted, and with a limit of zero the next request is refused. -/
theorem one_failure_counted : ∃ middle final,
    ((machine (quietStorage 0) ['a']).restrict (Current ['a'])).run noLogins
      [.arrive 0, .reject 0, .record 0] = some middle ∧
    ((machine (quietStorage 0) ['a']).restrict (Current ['a'])).run middle [.arrive 1] =
      some final ∧
    middle.Counted ['a'] ∧ Locked (quietStorage 0) ['a'] middle final := by
  obtain ⟨middle, reached, one, waiting⟩ : ∃ middle,
      ((machine (quietStorage 0) ['a']).restrict (Current ['a'])).run noLogins
        [.arrive 0, .reject 0, .record 0] = some middle ∧
      middle.attemptCount ['a'] = 1 ∧ middle.phase 1 = .waiting := by
    refine ⟨_, (Machine.run_cons_eq_some _ _ _ _).mpr ⟨_,
      Machine.restrict_step_eq_some.mpr ⟨trivial, step_arrive unquoted_a rfl⟩,
      (Machine.run_cons_eq_some _ _ _ _).mpr ⟨_,
        Machine.restrict_step_eq_some.mpr ⟨trivial, step_reject unquoted_a rfl⟩,
        (Machine.run_cons_eq_some _ _ _ _).mpr ⟨_,
          Machine.restrict_step_eq_some.mpr ⟨rfl, step_insert unquoted_a rfl (by decide)⟩,
          rfl⟩⟩⟩, rfl, rfl⟩
  obtain ⟨final, continued⟩ : ∃ final,
      ((machine (quietStorage 0) ['a']).restrict (Current ['a'])).run middle [.arrive 1] =
        some final :=
    ⟨_, (Machine.run_cons_eq_some _ _ _ _).mpr ⟨_,
      Machine.restrict_step_eq_some.mpr ⟨trivial, step_arrive unquoted_a waiting⟩, rfl⟩⟩
  have settled := every_failure_counted unquoted_a ⟨fun _ => rfl, rfl⟩ reached continued
  exact ⟨middle, final, reached, continued, settled.1,
    settled.2 (by rw [one]; exact Nat.one_pos) fun _ member => nomatch member⟩

/-- Two requests that both read no row both insert one, and the second statement fails. -/
theorem both_insert : ¬∀ (storage : UserLockoutStorage) (name : Text) (start middle : Logins)
    (before : List Happening), (machine storage name).initial start →
      (machine storage name).run start before = some middle → middle.Counted name := by
  intro counted
  have reached : ((machine (quietStorage 4) ['a']).run noLogins
      [.arrive 0, .arrive 1, .reject 0, .reject 1, .record 0, .record 1]).map
        (fun middle => middle.phase 1) = some (.failed .uniqueViolation) := by
    simp only [Machine.run]
    rw [step_arrive unquoted_a rfl, Option.bind_some, step_arrive unquoted_a rfl,
      Option.bind_some, step_reject unquoted_a rfl, Option.bind_some, step_reject unquoted_a rfl,
      Option.bind_some, step_insert unquoted_a rfl (by decide), Option.bind_some,
      step_insert unquoted_a rfl (by decide), Option.bind_some]
    rfl
  obtain ⟨middle, reached, failed⟩ := Option.map_eq_some_iff.mp reached
  exact (counted _ _ noLogins middle _ ⟨fun _ => rfl, rfl⟩ reached).undisturbed 1 failed

end Logins

end Palette.Web
