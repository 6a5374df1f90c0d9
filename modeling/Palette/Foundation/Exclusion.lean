import Mathlib.Logic.Function.Basic
import Palette.Foundation.Transition

/-!
# Jobs under locks

Threads run jobs one after another. A job is the list of what it does that concerns one
lock: it asks for the lock, works, writes a shared state and gives the lock back. An owner
may take its lock once more. A job that gives back a lock that it does not own raises, and
so ends the program.

A job is orderly if it asks once, stops when it is turned away, and works, writes and
gives back only while it holds the lock. If all jobs are orderly, then at most one of them
is between its request and its release, in every interleaving.
-/

namespace Palette.Foundation

universe u v w x

/-- What a job does that concerns its lock and the shared state. -/
inductive LockStep (State : Type u) where
  | tried (got : Bool)
  | waited
  | released
  | misreleased
  | wrote (state : State)
  | acted
  deriving DecidableEq, Repr

/-- How far an orderly job has come. -/
inductive Phase where
  | outside
  | holding
  | turnedAway
  | finished
  deriving DecidableEq, Repr

variable {State : Type u}

/-- The phase after one more step, if the step is in order. -/
def Phase.next : Phase → LockStep State → Option Phase
  | .outside, .tried true | .outside, .waited => some .holding
  | .outside, .tried false => some .turnedAway
  | .outside, .acted => some .outside
  | .holding, .acted | .holding, .wrote _ => some .holding
  | .holding, .released => some .finished
  | _, _ => none

/-- The phase that steps lead to, if they are in order. -/
def phaseAfter (steps : List (LockStep State)) : Option Phase :=
  steps.foldlM Phase.next .outside

/-- The steps are in order. -/
def Orderly (steps : List (LockStep State)) : Prop := phaseAfter steps ≠ none

/-- The phase after steps and one more. -/
theorem phaseAfter_snoc (steps : List (LockStep State)) (step : LockStep State) :
    phaseAfter (steps ++ [step]) = (phaseAfter steps).bind (Phase.next · step) := by
  simp [phaseAfter, List.foldlM_append]

/-- The beginning of orderly steps is orderly. -/
theorem Orderly.of_append {first second : List (LockStep State)}
    (orderly : Orderly (first ++ second)) : Orderly first := by
  intro disordered
  unfold phaseAfter at disordered
  refine orderly ?_
  simp [phaseAfter, List.foldlM_append, disordered]

/-- A job has asked for its lock. -/
def Requested (past : List (LockStep State)) : Prop :=
  .waited ∈ past ∨ ∃ got, .tried got ∈ past

/-- A job has got its lock. -/
def Acquired (past : List (LockStep State)) : Prop :=
  .waited ∈ past ∨ .tried true ∈ past

/-- A job has given its lock back, or has tried to. -/
def GivenBack (past : List (LockStep State)) : Prop :=
  .released ∈ past ∨ .misreleased ∈ past

/-- What an orderly step says about the phases before and after it. -/
theorem phase_next {before phase : Phase} {step : LockStep State}
    (moved : before.next step = some phase) :
    (phase = .outside → before = .outside ∧ step = .acted) ∧
      (phase = .holding → before = .holding ∨ step = .waited ∨ step = .tried true) ∧
      (phase = .turnedAway → before = .outside ∧ step = .tried false) ∧
      (phase = .finished → step = .released) := by
  cases before <;> cases step with
  | tried got => cases got <;> simp_all [Phase.next, eq_comm]
  | _ => simp_all [Phase.next, eq_comm]

/-- A job that is outside has not asked for its lock. -/
theorem not_requested_of_outside {past : List (LockStep State)}
    (reached : phaseAfter past = some .outside) : ¬ Requested past := by
  induction past using List.reverseRecOn with
  | nil => simp [Requested]
  | append_singleton past step inductionHypothesis =>
    rw [phaseAfter_snoc, Option.bind_eq_some_iff] at reached
    obtain ⟨before, earlier, moved⟩ := reached
    obtain ⟨rfl, rfl⟩ := (phase_next moved).1 rfl
    simpa [Requested] using inductionHypothesis earlier

/-- A job that is holding has got its lock. -/
theorem acquired_of_holding {past : List (LockStep State)}
    (reached : phaseAfter past = some .holding) : Acquired past := by
  induction past using List.reverseRecOn with
  | nil => exact absurd (Option.some.inj reached) (by decide)
  | append_singleton past step inductionHypothesis =>
    rw [phaseAfter_snoc, Option.bind_eq_some_iff] at reached
    obtain ⟨before, earlier, moved⟩ := reached
    rcases (phase_next moved).2.1 rfl with rfl | rfl | rfl
    · rcases inductionHypothesis earlier with waited | tried
      · exact .inl (List.mem_append_left _ waited)
      · exact .inr (List.mem_append_left _ tried)
    · exact .inl (List.mem_append_right _ (List.mem_singleton_self _))
    · exact .inr (List.mem_append_right _ (List.mem_singleton_self _))

/-- A job that was turned away has not got its lock. -/
theorem not_acquired_of_turnedAway {past : List (LockStep State)}
    (reached : phaseAfter past = some .turnedAway) : ¬ Acquired past := by
  induction past using List.reverseRecOn with
  | nil => exact absurd (Option.some.inj reached) (by decide)
  | append_singleton past step _ =>
    rw [phaseAfter_snoc, Option.bind_eq_some_iff] at reached
    obtain ⟨before, earlier, moved⟩ := reached
    obtain ⟨rfl, rfl⟩ := (phase_next moved).2.2.1 rfl
    have notAsked := not_requested_of_outside earlier
    rintro (waited | tried)
    · refine notAsked (.inl ?_)
      simpa using waited
    · refine notAsked (.inr ⟨true, ?_⟩)
      simpa using tried

/-- A job that is finished has given its lock back. -/
theorem givenBack_of_finished {past : List (LockStep State)}
    (reached : phaseAfter past = some .finished) : GivenBack past := by
  induction past using List.reverseRecOn with
  | nil => exact absurd (Option.some.inj reached) (by decide)
  | append_singleton past step _ =>
    rw [phaseAfter_snoc, Option.bind_eq_some_iff] at reached
    obtain ⟨before, -, moved⟩ := reached
    obtain rfl := (phase_next moved).2.2.2 rfl
    exact .inl (List.mem_append_right _ (List.mem_singleton_self _))

/-! ## Threads -/

section Threads

variable {Thread : Type v} {Lock : Type w} {Work : Type x}

/-- A job that a thread is at: what it has done, what it has left to do, and whether it
raises in the end. -/
structure Job (Lock : Type w) (State : Type u) where
  lock : Lock
  past : List (LockStep State)
  rest : List (LockStep State)
  raises : Bool

/-- The locks with their owners and depths, the shared state, and the threads at their
jobs. -/
structure Floor (Thread : Type v) (Lock : Type w) (State : Type u) where
  owner : Lock → Option (Thread × Nat)
  shared : State
  job : Thread → Option (Job Lock State)
  ended : Bool

/-- What happens next. The shared state may also be written from outside. -/
inductive FloorTurn (Thread : Type v) (Lock : Type w) (State : Type u) (Work : Type x) where
  | start (thread : Thread) (lock : Lock) (work : Work)
  | step (thread : Thread)
  | finish (thread : Thread)
  | write (state : State)

/-- What a kind of work comes down to: its steps, and whether it raises in the end. -/
structure Trade (State : Type u) (Work : Type x) where
  steps : Work → List (LockStep State)
  raises : Work → Bool

variable [DecidableEq Thread] [DecidableEq Lock]

/-- The lock after a thread has asked for it, if the thread gets it. -/
def taken (owner : Option (Thread × Nat)) (thread : Thread) : Option (Thread × Nat) :=
  match owner with
  | none => some (thread, 1)
  | some (other, depth) => if other = thread then some (thread, depth + 1) else none

/-- The lock after its owner has given it back once. -/
def givenUp (owner : Option (Thread × Nat)) (thread : Thread) :
    Option (Option (Thread × Nat)) :=
  match owner with
  | none => none
  | some (other, depth) =>
    if other = thread then some (if depth ≤ 1 then none else some (thread, depth - 1)) else none

/-- One step of a job, if it can happen: a request has the answer that the lock gives. -/
def carryOut (floor : Floor Thread Lock State) (thread : Thread) (lock : Lock) :
    LockStep State → Option (Floor Thread Lock State)
  | .tried true | .waited =>
    (taken (floor.owner lock) thread).map fun held =>
      { floor with owner := Function.update floor.owner lock (some held) }
  | .tried false => if taken (floor.owner lock) thread = none then some floor else none
  | .released =>
    (givenUp (floor.owner lock) thread).map fun held =>
      { floor with owner := Function.update floor.owner lock held }
  | .misreleased => if givenUp (floor.owner lock) thread = none then some floor else none
  | .wrote state => some { floor with shared := state }
  | .acted => some floor

/-- One turn. A job that raises in the end ends the program. -/
def floorStep (trade : Trade State Work) (floor : Floor Thread Lock State) :
    FloorTurn Thread Lock State Work → Option (Floor Thread Lock State)
  | .start thread lock work =>
    if floor.ended then none
    else
      match floor.job thread with
      | some _ => none
      | none => some { floor with
          job := Function.update floor.job thread
            (some ⟨lock, [], trade.steps work, trade.raises work⟩) }
  | .step thread =>
    if floor.ended then none
    else
      match floor.job thread with
      | none => none
      | some ⟨_, _, [], _⟩ => none
      | some ⟨lock, past, step :: rest, raises⟩ =>
        (carryOut floor thread lock step).map fun moved =>
          { moved with
            job := Function.update floor.job thread (some ⟨lock, past ++ [step], rest, raises⟩) }
  | .finish thread =>
    if floor.ended then none
    else
      match floor.job thread with
      | some ⟨_, _, [], raises⟩ => some { floor with
          job := Function.update floor.job thread none
          ended := raises }
      | _ => none
  | .write state => if floor.ended then none else some { floor with shared := state }

/-- Threads at their jobs, with all locks free at first. -/
def floorMachine (Thread : Type v) (Lock : Type w) [DecidableEq Thread] [DecidableEq Lock]
    (trade : Trade State Work) :
    Machine (Floor Thread Lock State) (FloorTurn Thread Lock State Work) where
  initial floor :=
    (∀ lock, floor.owner lock = none) ∧ (∀ thread, floor.job thread = none) ∧ floor.ended = false
  step := floorStep trade

/-! ## Exclusion -/

/-- A thread is between its request for the lock and its release: it has the lock, or it
goes on although it was turned away. -/
def Inside (floor : Floor Thread Lock State) (lock : Lock) (thread : Thread) : Prop :=
  ∃ job, floor.job thread = some job ∧ job.lock = lock ∧ Requested job.past ∧
    ¬ GivenBack job.past ∧ (job.rest = [] → Acquired job.past)

/-- A step that needs the lock. -/
def Guarded (step : LockStep State) : Prop :=
  step = .released ∨ step = .misreleased ∨ ∃ state, step = .wrote state

/-- At most one thread is inside for each lock, and whoever writes the shared state or
gives a lock back has got it before and owns it. -/
structure Exclusive (floor : Floor Thread Lock State) : Prop where
  one : ∀ lock first second, Inside floor lock first → Inside floor lock second → first = second
  own : ∀ thread job step rest, floor.job thread = some job → job.rest = step :: rest →
    Guarded step → Acquired job.past ∧ ∃ depth, floor.owner job.lock = some (thread, depth)

/-- The jobs of all threads are orderly, and those that hold a lock own it. -/
def Kept (floor : Floor Thread Lock State) : Prop :=
  ∀ thread job, floor.job thread = some job → Orderly (job.past ++ job.rest) ∧
    (phaseAfter job.past = some .holding → ∃ depth, floor.owner job.lock = some (thread, depth))

/-- The next step of an orderly job is in order. -/
theorem next_of_orderly {past rest : List (LockStep State)} {step : LockStep State}
    (orderly : Orderly (past ++ step :: rest)) :
    ∃ before phase, phaseAfter past = some before ∧ before.next step = some phase ∧
      phaseAfter (past ++ [step]) = some phase := by
  have whole : Orderly ((past ++ [step]) ++ rest) := by
    rwa [List.append_assoc, List.singleton_append]
  have begun : Orderly (past ++ [step]) := whole.of_append
  obtain ⟨phase, reached⟩ := Option.ne_none_iff_exists'.mp begun
  have moved := reached
  rw [phaseAfter_snoc, Option.bind_eq_some_iff] at moved
  obtain ⟨before, earlier, moved⟩ := moved
  exact ⟨before, phase, earlier, moved, reached⟩

omit [DecidableEq Thread] [DecidableEq Lock] in
/-- Orderly jobs of threads that own their locks exclude each other. -/
theorem Kept.exclusive {floor : Floor Thread Lock State} (kept : Kept floor) : Exclusive floor := by
  have owns : ∀ lock thread, Inside floor lock thread →
      ∃ depth, floor.owner lock = some (thread, depth) := by
    rintro lock thread ⟨job, found, rfl, requested, notBack, acquired⟩
    obtain ⟨orderly, holds⟩ := kept thread job found
    obtain ⟨phase, reached⟩ := Option.ne_none_iff_exists'.mp orderly.of_append
    cases phase with
    | outside => exact absurd requested (not_requested_of_outside reached)
    | holding => exact holds reached
    | turnedAway =>
      cases left : job.rest with
      | nil => exact absurd (acquired left) (not_acquired_of_turnedAway reached)
      | cons step rest =>
        rw [left] at orderly
        obtain ⟨before, later, earlier, moved, -⟩ := next_of_orderly orderly
        obtain rfl := Option.some.inj (reached.symm.trans earlier)
        simp [Phase.next] at moved
    | finished => exact absurd (givenBack_of_finished reached) notBack
  refine ⟨fun lock first second inside other => ?_, ?_⟩
  · obtain ⟨depth, owned⟩ := owns lock first inside
    obtain ⟨otherDepth, otherOwned⟩ := owns lock second other
    rw [owned] at otherOwned
    exact congrArg Prod.fst (Option.some.inj otherOwned)
  · intro thread job step rest found left guarded
    obtain ⟨orderly, holds⟩ := kept thread job found
    rw [left] at orderly
    obtain ⟨before, phase, earlier, moved, -⟩ := next_of_orderly orderly
    have holding : before = .holding := by
      rcases guarded with rfl | rfl | ⟨state, rfl⟩ <;> cases before <;> simp_all [Phase.next]
    rw [holding] at earlier
    exact ⟨acquired_of_holding earlier, holds earlier⟩

/-! ## Every interleaving -/

variable {floor moved : Floor Thread Lock State} {thread : Thread} {lock : Lock}
    {step : LockStep State}

/-- What a step can do: it takes the lock, gives it back, writes the shared state, or
leaves everything as it is. -/
theorem carryOut_cases (carried : carryOut floor thread lock step = some moved) :
    (step = .waited ∨ step = .tried true) ∧ (∃ held, taken (floor.owner lock) thread = some held ∧
        moved = { floor with owner := Function.update floor.owner lock (some held) }) ∨
      step = .released ∧ (∃ held, givenUp (floor.owner lock) thread = some held ∧
        moved = { floor with owner := Function.update floor.owner lock held }) ∨
      (∃ state, step = .wrote state ∧ moved = { floor with shared := state }) ∨
      (step = .acted ∨ step = .tried false ∨ step = .misreleased) ∧ moved = floor := by
  cases step with
  | tried got =>
    cases got with
    | true =>
      obtain ⟨held, took, same⟩ := Option.map_eq_some_iff.mp carried
      exact .inl ⟨.inr rfl, held, took, same.symm⟩
    | false =>
      obtain ⟨-, same⟩ := Option.ite_none_right_eq_some.mp carried
      exact .inr (.inr (.inr ⟨.inr (.inl rfl), (Option.some.inj same).symm⟩))
  | waited =>
    obtain ⟨held, took, same⟩ := Option.map_eq_some_iff.mp carried
    exact .inl ⟨.inl rfl, held, took, same.symm⟩
  | released =>
    obtain ⟨held, gave, same⟩ := Option.map_eq_some_iff.mp carried
    exact .inr (.inl ⟨rfl, held, gave, same.symm⟩)
  | misreleased =>
    obtain ⟨-, same⟩ := Option.ite_none_right_eq_some.mp carried
    exact .inr (.inr (.inr ⟨.inr (.inr rfl), (Option.some.inj same).symm⟩))
  | wrote state => exact .inr (.inr (.inl ⟨state, rfl, (Option.some.inj carried).symm⟩))
  | acted => exact .inr (.inr (.inr ⟨.inl rfl, (Option.some.inj carried).symm⟩))

/-- A thread takes a lock from nobody. -/
theorem taken_owner {owner : Option (Thread × Nat)} {held : Thread × Nat}
    (took : taken owner thread = some held) :
    held.1 = thread ∧ ∀ other depth, owner = some (other, depth) → other = thread := by
  unfold taken at took
  rcases owner with _ | ⟨former, depth⟩
  · obtain rfl := Option.some.inj took
    exact ⟨rfl, fun _ _ impossible => absurd impossible (by simp)⟩
  · obtain ⟨same, again⟩ := Option.ite_none_right_eq_some.mp took
    obtain rfl := Option.some.inj again
    refine ⟨rfl, fun other _ owned => ?_⟩
    obtain ⟨rfl, -⟩ := Prod.mk.inj (Option.some.inj owned)
    exact same

/-- Only the owner gives a lock back. -/
theorem givenUp_owner {owner held : Option (Thread × Nat)}
    (gave : givenUp owner thread = some held) :
    ∀ other depth, owner = some (other, depth) → other = thread := by
  unfold givenUp at gave
  rcases owner with _ | ⟨former, depth⟩
  · exact fun _ _ impossible => absurd impossible (by simp)
  · obtain ⟨same, -⟩ := Option.ite_none_right_eq_some.mp gave
    intro other _ owned
    obtain ⟨rfl, -⟩ := Prod.mk.inj (Option.some.inj owned)
    exact same

/-- A step of one thread leaves the locks of the others. -/
theorem carryOut_other (carried : carryOut floor thread lock step = some moved) {other : Thread}
    (apart : other ≠ thread) {owned : Lock} {depth : Nat}
    (owns : floor.owner owned = some (other, depth)) :
    moved.owner owned = some (other, depth) := by
  have untouched : ∀ held : Option (Thread × Nat),
      (∀ former depth, floor.owner lock = some (former, depth) → former = thread) →
      Function.update floor.owner lock held owned = some (other, depth) := by
    intro held mine
    by_cases same : owned = lock
    · subst same
      exact absurd (mine other depth owns) apart
    · rw [Function.update_of_ne same]
      exact owns
  rcases carryOut_cases carried with ⟨-, held, took, rfl⟩ | ⟨-, held, gave, rfl⟩ | ⟨state, -, rfl⟩ |
    ⟨-, rfl⟩
  · exact untouched _ (taken_owner took).2
  · exact untouched _ (givenUp_owner gave)
  · exact owns
  · exact owns

/-- A thread owns its lock after a step that leaves it holding. -/
theorem carryOut_holding (carried : carryOut floor thread lock step = some moved) {before : Phase}
    (holding : before.next step = some .holding)
    (held : before = .holding → ∃ depth, floor.owner lock = some (thread, depth)) :
    ∃ depth, moved.owner lock = some (thread, depth) := by
  rcases carryOut_cases carried with ⟨-, ⟨holder, depth⟩, took, rfl⟩ | ⟨rfl, -⟩ |
    ⟨state, rfl, rfl⟩ | ⟨kind, rfl⟩
  · obtain rfl := (taken_owner took).1
    exact ⟨depth, Function.update_self _ _ _⟩
  · cases before <;> simp [Phase.next] at holding
  · cases before <;> simp [Phase.next] at holding
    exact held rfl
  · rcases kind with rfl | rfl | rfl <;> cases before <;> simp [Phase.next] at holding
    exact held rfl

/-- A turn that starts no disorderly work keeps the jobs orderly and their locks owned. -/
theorem Kept.turn {trade : Trade State Work} {next : Floor Thread Lock State}
    {label : FloorTurn Thread Lock State Work} (kept : Kept floor)
    (orderly : ∀ thread lock work, label = .start thread lock work → Orderly (trade.steps work))
    (stepped : floorStep trade floor label = some next) : Kept next := by
  cases label with
  | start thread lock work =>
    simp only [floorStep] at stepped
    split at stepped
    · exact absurd stepped (by simp)
    split at stepped
    · exact absurd stepped (by simp)
    obtain rfl := Option.some.inj stepped
    intro other job found
    by_cases same : other = thread
    · subst same
      simp only [Function.update_self, Option.some.injEq] at found
      subst found
      exact ⟨orderly _ lock work rfl, fun reached => absurd (Option.some.inj reached) (by decide)⟩
    · simp only [Function.update_of_ne same] at found
      exact kept other job found
  | step thread =>
    simp only [floorStep] at stepped
    split at stepped
    · exact absurd stepped (by simp)
    split at stepped
    · exact absurd stepped (by simp)
    · exact absurd stepped (by simp)
    · rename_i lock past step rest raises working
      obtain ⟨moved, carried, rfl⟩ := Option.map_eq_some_iff.mp stepped
      obtain ⟨orderlyJob, holds⟩ := kept thread _ working
      intro other job found
      by_cases same : other = thread
      · subst same
        simp only [Function.update_self, Option.some.injEq] at found
        subst found
        obtain ⟨before, phase, earlier, advanced, reached⟩ := next_of_orderly orderlyJob
        refine ⟨?_, fun holding => ?_⟩
        · rwa [List.append_assoc, List.singleton_append]
        · obtain rfl := Option.some.inj (reached.symm.trans holding)
          have owned := carryOut_holding carried advanced fun same => holds (by rw [earlier, same])
          exact owned
      · simp only [Function.update_of_ne same] at found
        obtain ⟨orderlyOther, holdsOther⟩ := kept other job found
        refine ⟨orderlyOther, fun holding => ?_⟩
        obtain ⟨depth, owned⟩ := holdsOther holding
        exact ⟨depth, carryOut_other carried same owned⟩
  | finish thread =>
    simp only [floorStep] at stepped
    split at stepped
    · exact absurd stepped (by simp)
    split at stepped
    · obtain rfl := Option.some.inj stepped
      intro other job found
      by_cases same : other = thread
      · subst same
        simp at found
      · simp only [Function.update_of_ne same] at found
        exact kept other job found
    · exact absurd stepped (by simp)
  | write state =>
    simp only [floorStep] at stepped
    split at stepped
    · exact absurd stepped (by simp)
    · obtain rfl := Option.some.inj stepped
      exact kept

/-- In every interleaving of orderly work the threads exclude each other. -/
theorem exclusive_of_orderly {trade : Trade State Work}
    {allowed : Floor Thread Lock State → FloorTurn Thread Lock State Work → Prop}
    [∀ floor label, Decidable (allowed floor label)]
    (orderly : ∀ floor thread lock work, allowed floor (.start thread lock work) →
      Orderly (trade.steps work))
    (reachable : ((floorMachine Thread Lock trade).restrict allowed).Reachable floor) :
    Exclusive floor := by
  have invariant : ((floorMachine Thread Lock trade).restrict allowed).Invariant Kept := by
    refine ⟨fun floor initial thread job found => ?_, fun floor label next kept stepped => ?_⟩
    · exact absurd (found.symm.trans (initial.2.1 thread)) (by simp)
    · obtain ⟨permitted, stepped⟩ := Machine.restrict_step_eq_some.mp stepped
      refine kept.turn ?_ stepped
      rintro thread lock work rfl
      exact orderly floor thread lock work permitted
  exact (invariant.reachable reachable).exclusive

end Threads

end Palette.Foundation
