import Palette.Http.Load
import Palette.Load.Jobs

/-!
# Pruning before a load

The rows beyond the greatest remote number are deleted before a load. The number is taken
from a reply that may have none: without rows it is 0, which makes every row one that is
beyond it. The load of the jobs looks for an error first; the load of the requests does
not. Neither looks for a reply that has no rows.

The pruning is exact if it deletes the rows beyond the number that the reply reports, and
if it deletes nothing and the load returns an error where the reply reports none.
-/

namespace Palette

open Palette.Commands Palette.Foundation Palette.Load Palette.Sync Script

namespace Http

variable (load : Load)

/-- No row of the environment is beyond a number. -/
def Store.NoneBeyond (store : Store) (envid : Nat) (number : Int) : Prop :=
  ∀ entry ∈ store.committed, ¬(entry.envid = envid ∧ number < entry.request.id)

/-- The pruning of a load that comes to it is exact. -/
def Load.PrunesExactly (store : Store) : Prop :=
  load.busy = false →
    match reportedMaximum load.maximum.reply with
    | some maximum => load.prune.Completes store.undone fun _ after =>
        after.view = store.committed.filter fun entry =>
          ¬(entry.envid = load.envid ∧ maximum < entry.request.id)
    | none =>
        load.prune.Ends store.undone (fun _ after => after.view = store.committed)
            (fun _ after => after.view = store.committed) ∧
          load.run.Completes store.undone fun reply _ => reply.Failed

/-- The load is busy, the reply reports a number, or no row is beyond what is taken for one
and the load fails later, at the query of the rows. -/
def Load.PruningHolds (store : Store) : Prop :=
  load.busy = true ∨ (reportedMaximum load.maximum.reply).isSome ∨
    (load.maximum.reply.rows = none ∧ store.NoneBeyond load.envid 0 ∨
      ∃ number, (firstCell load.maximum.reply).bind maximumOfCell = some number ∧
        store.NoneBeyond load.envid number) ∧
      (Owners.loadUsers load.users.reply).isOk ∧
        ∀ schema rows, load.rows.reply ≠ .rows schema rows

/-- The number that is taken decides what is deleted. -/
theorem ends_prune {store : Store} {maxid : Int}
    (taken : firstId load.maximum.reply = .ok maxid) (condition : List Entry → Prop)
    (raised : Failure → Store → Prop) :
    load.prune.Ends store (fun _ after => condition after.view) raised ↔
      condition (store.pruned load.envid maxid).view := by
  cases removes : load.maximum.removes <;>
    simp [Load.prune, getLastHttpRequestsId, taken, removes, Store.saved, Store.pruned]

/-- A load that comes to its queries returns an error if and only if the query of the rows
fails. -/
theorem failed_run {store : Store} (idle : load.busy = false) :
    (load.run.Completes store fun reply _ => reply.Failed) ↔
      (firstId load.maximum.reply).isOk ∧ (Owners.loadUsers load.users.reply).isOk ∧
        ∀ schema rows, load.rows.reply ≠ .rows schema rows := by
  unfold Load.run
  simp only [idle, Bool.false_eq_true, ite_false, Load.prune, Completes, ends_bind, ends_ask,
    ends_settle, ends_modify, ends_get, getLastHttpRequestsId]
  cases firstId load.maximum.reply with
  | error failure => simp [Except.isOk, Except.toBool]
  | ok maxid =>
    cases Owners.loadUsers load.users.reply with
    | error failure => simp [Except.isOk, Except.toBool]
    | ok users =>
      cases load.rows.reply with
      | error message => simp [Except.isOk, Except.toBool, LoadReply.Failed]
      | missing => simp [Except.isOk, Except.toBool, LoadReply.Failed]
      | rows schema rows =>
        cases schema with
        | false => simp [Except.isOk, Except.toBool]
        | true => simp [Except.isOk, Except.toBool, LoadReply.Failed]

/-- Nothing is deleted if and only if no row is beyond the number. -/
theorem pruned_eq_committed (store : Store) (envid : Nat) (maxid : Int) :
    (store.undone.pruned envid maxid).view = store.committed ↔ store.NoneBeyond envid maxid := by
  simp only [Store.pruned, Store.undone, List.filter_eq_self, decide_eq_true_eq, Store.NoneBeyond]

/-- The pruning of a load of the requests is exact if and only if the load fails later or
the reply reports a number. -/
theorem prunesExactly_iff (store : Store) : load.PrunesExactly store ↔ load.PruningHolds store := by
  unfold Load.PrunesExactly Load.PruningHolds
  cases busy : load.busy with
  | true => simp
  | false =>
    simp only [Bool.false_eq_true, false_or, forall_const]
    cases reported : reportedMaximum load.maximum.reply with
    | some maximum =>
      have taken : firstId load.maximum.reply = .ok maximum := by
        rw [firstId_eq_ok]
        right
        unfold reportedMaximum at reported
        split at reported
        · cases reported
        · exact reported
      simp only [Option.isSome_some, true_or, iff_true]
      exact (ends_prune load taken (fun view => view = store.committed.filter fun entry =>
        ¬(entry.envid = load.envid ∧ maximum < entry.request.id)) _).mpr rfl
    | none =>
      simp only [Option.isSome_none, Bool.false_eq_true, false_or, failed_run load busy]
      cases taken : firstId load.maximum.reply with
      | error failure =>
        have untaken : ¬(load.maximum.reply.rows = none ∧ store.NoneBeyond load.envid 0 ∨
            ∃ number, (firstCell load.maximum.reply).bind maximumOfCell = some number ∧
              store.NoneBeyond load.envid number) := by
          rintro (⟨noRows, -⟩ | ⟨number, held, -⟩)
          · simp [firstId_eq_ok.mpr (.inl ⟨noRows, rfl⟩)] at taken
          · simp [firstId_eq_ok.mpr (.inr held)] at taken
        simp [untaken, Except.isOk, Except.toBool]
      | ok maxid =>
        rw [taken_iff taken fun number => store.NoneBeyond load.envid number,
          ends_prune load taken (fun view => view = store.committed), pruned_eq_committed]
        simp [Except.isOk, Except.toBool]

end Http

namespace Jobs

variable (load : Load)

/-- No row of the environment is beyond a number. -/
def Store.NoneBeyond (store : Store) (envid : Nat) (number : Int) : Prop :=
  ∀ entry ∈ store.committed, ¬(entry.envid = envid ∧ number < entry.job.id)

/-- The load comes to its queries. -/
def Load.asks : Bool := !load.busy && load.odbcOk

/-- The pruning of a load that comes to it is exact. -/
def Load.PrunesExactly (store : Store) : Prop :=
  load.asks = true →
    match reportedMaximum load.maximum.reply with
    | some maximum => load.prune.Completes store.undone fun _ after =>
        after.view = store.committed.filter fun entry =>
          ¬(entry.envid = load.envid ∧ maximum < entry.job.id)
    | none =>
        load.prune.Ends store.undone (fun _ after => after.view = store.committed)
            (fun _ after => after.view = store.committed) ∧
          load.run.Completes store.undone fun reply _ => reply.Failed

/-- The load is not allowed, the reply reports a number, an error or another text, or there
is no row beyond 0 and the load fails later, at the query of the jobs. -/
def Load.PruningHolds (store : Store) : Prop :=
  load.asks = false ∨ (reportedMaximum load.maximum.reply).isSome ∨
    load.maximum.reply.error.isSome ∨ holdsOtherText load.maximum.reply = true ∨
      load.maximum.reply.rows = none ∧ store.NoneBeyond load.envid 0 ∧
        ∃ message, load.jobs.reply = .error message

/-- The number that is taken decides what is deleted. -/
theorem ends_prune {store : Store} {maxid : Int}
    (taken : Load.lastBackgroundJobsId load.maximum.reply = .ok maxid)
    (condition : List Entry → Prop) (raised : Failure → Store → Prop) :
    load.prune.Ends store (fun _ after => condition after.view) raised ↔
      condition (store.pruned load.envid maxid).view := by
  cases removes : load.maximum.removes <;>
    simp [Load.prune, taken, removes, Store.saved, Store.pruned]

/-- Without a number nothing is deleted. -/
theorem ends_prune_error {store : Store} {failure : Failure}
    (raises : Load.lastBackgroundJobsId load.maximum.reply = .error failure)
    (condition : List Entry → Prop) (returned : PUnit → Store → Prop) :
    load.prune.Ends store returned (fun _ after => condition after.view) ↔
      condition store.view := by
  cases removes : load.maximum.removes <;>
    simp [Load.prune, raises, removes, Store.saved]

/-- A load that comes to its queries returns an error if and only if the number raises a
`ValueError`, or the query of the jobs fails. -/
theorem failed_run {store : Store} (asks : load.asks = true) :
    (load.run.Completes store fun reply _ => reply.Failed) ↔
      match Load.lastBackgroundJobsId load.maximum.reply with
      | .error failure => failure.kind = .valueError
      | .ok _ => ∃ message, load.jobs.reply = .error message := by
  simp only [Load.asks, Bool.and_eq_true, Bool.not_eq_true'] at asks
  unfold Load.run Load.takeJobs
  simp only [asks, Bool.false_eq_true, ite_false, reduceCtorEq, Load.prune, Completes, ends_bind,
    ends_ask, ends_settle, ends_modify, ends_attempt]
  cases Load.lastBackgroundJobsId load.maximum.reply with
  | error failure => simp [LoadReply.Failed]
  | ok maxid =>
    cases load.jobs.reply with
    | error message => simp [LoadReply.Failed]
    | missing => simp [LoadReply.Failed]
    | rows schema rows =>
      simp only [ends_bind, ends_ask, ends_settle, ends_ite, ends_throw, ends_pure,
        LoadReply.Failed]
      cases getDbNowUtc load.clock load.now.reply with
      | error failure => simp
      | ok now =>
        cases schema with
        | false => simp
        | true => cases Load.convertAll rows <;> simp

/-- Nothing is deleted if and only if no row is beyond the number. -/
theorem pruned_eq_committed (store : Store) (envid : Nat) (maxid : Int) :
    (store.undone.pruned envid maxid).view = store.committed ↔ store.NoneBeyond envid maxid := by
  simp only [Store.pruned, Store.undone, List.filter_eq_self, decide_eq_true_eq, Store.NoneBeyond]

/-- The pruning of a load of the jobs is exact if and only if the reply says what is
beyond, or its failure is seen, or the load fails later and nothing is beyond 0. -/
theorem prunesExactly_iff (store : Store) : load.PrunesExactly store ↔ load.PruningHolds store := by
  unfold Load.PrunesExactly Load.PruningHolds
  cases asks : load.asks with
  | false => simp
  | true =>
    simp only [forall_const, reduceCtorEq, false_or]
    cases reported : reportedMaximum load.maximum.reply with
    | some maximum =>
      have noError : load.maximum.reply.error = none := by
        cases error : load.maximum.reply.error with
        | none => rfl
        | some message => simp [reportedMaximum, error] at reported
      have held : (firstCell load.maximum.reply).bind maximumOfCell = some maximum := by
        simpa [reportedMaximum, noError] using reported
      have taken : Load.lastBackgroundJobsId load.maximum.reply = .ok maximum := by
        simp only [Load.lastBackgroundJobsId, noError]
        exact firstId_eq_ok.mpr (.inr held)
      simp only [Option.isSome_some, true_or, iff_true]
      exact (ends_prune load taken (fun view => view = store.committed.filter fun entry =>
        ¬(entry.envid = load.envid ∧ maximum < entry.job.id)) _).mpr rfl
    | none =>
      simp only [Option.isSome_none, Bool.false_eq_true, false_or, failed_run load asks]
      cases error : load.maximum.reply.error with
      | some message =>
        have raises : Load.lastBackgroundJobsId load.maximum.reply =
            .error ⟨.valueError, message⟩ := by
          simp [Load.lastBackgroundJobsId, error]
        rw [ends_prune_error load raises fun view => view = store.committed]
        simp [raises, Store.undone]
      | none =>
        have taken : Load.lastBackgroundJobsId load.maximum.reply =
            firstId load.maximum.reply := by
          simp [Load.lastBackgroundJobsId, error]
        cases first : firstId load.maximum.reply with
        | error failure =>
          have noRows : load.maximum.reply.rows ≠ none := by
            intro rows
            simp [firstId, rows] at first
          rw [ends_prune_error load (taken.trans first) fun view => view = store.committed]
          simp [taken, first, Store.undone, firstId_valueError first, noRows]
        | ok maxid =>
          rcases firstId_eq_ok.mp first with ⟨noRows, rfl⟩ | held
          · have noText : holdsOtherText load.maximum.reply = false := by
              simp [holdsOtherText, firstCell, noRows]
            rw [ends_prune load (taken.trans first) fun view => view = store.committed,
              pruned_eq_committed]
            simp [taken, first, noText, noRows]
          · simp [reportedMaximum, error, held] at reported

end Jobs

/-- The prunings of the requests and of the jobs are exact under these conditions and no
others. -/
theorem prunings_exact_iff (requests : Http.Load) (entries : Http.Store) (jobs : Jobs.Load)
    (extracts : Jobs.Store) :
    (requests.PrunesExactly entries ↔ requests.PruningHolds entries) ∧
      (jobs.PrunesExactly extracts ↔ jobs.PruningHolds extracts) :=
  ⟨Http.prunesExactly_iff requests entries, Jobs.prunesExactly_iff jobs extracts⟩

/-- A load of the requests whose query for the greatest number fails. -/
def failedMaximum : Http.Load where
  envid := 1
  busy := false
  maximum := ⟨⟨some "timed out", none, none⟩, false⟩
  users := ⟨.rows [], false⟩
  rows := ⟨.rows true [], false⟩
  control := ⟨fun _ _ => false, fun _ => false, 10, 5, fun _ => none⟩
  accepts := fun _ => true

/-- A table with one request. -/
def oneEntry : Http.Store where
  committed := [⟨1, ⟨7, some 1, some 1, none, some "/views/A/B", none, none, none, some 200, some 0,
    some 0⟩, none⟩]
  view := []
  pending := []
  stored := []
  tested := []
  sent := []

/-- The failed query deletes the request. -/
theorem failed_query_prunes : ¬failedMaximum.PrunesExactly oneEntry := by
  intro exactly
  have deleted : ¬failedMaximum.prune.Ends oneEntry.undone
      (fun _ after => after.view = oneEntry.committed)
      (fun _ after => after.view = oneEntry.committed) := by
    rw [ends_state]
    decide +kernel
  exact deleted (exactly rfl).1

end Palette
