import Palette.Http.Load

/-!
# Which rows are tested

The batches are tested when the next one begins, so that the rows of the last batch are
never tested. A load on a table that is not empty thus tests fewer rows than it fetches
whenever it fetches any; in a run of loads every fetched row is tested once only if none
is fetched at all.
-/

namespace Palette.Http

open Palette.Commands Palette.Foundation Palette.Load Palette.Sync Script

namespace Load

variable (load : Load) {store : Store}

/-- The load comes to the query of the rows. -/
def asks : Bool :=
  !load.busy && (getLastHttpRequestsId load.maximum.reply).isOk &&
    (Owners.loadUsers load.users.reply).isOk

/-- The rows that the load fetches. -/
def fetched : List Request :=
  if load.asks then load.rows.reply.fetched.map RemoteRow.request else []

section Ends

variable {load} {raised : Failure → Store → Prop}

/-- A test logs its row. -/
theorem tested_test (rows : List Request) (request : Request) (store : Store) :
    Ends (load.test rows request) store
      (fun _ final => final.tested.length = store.tested.length + 1)
      fun _ final => final.tested.length = store.tested.length + 1 := by
  simp only [test, ends_bind, ends_modify, ends_get, ends_settle]
  split
  · rename_i sent _
    cases sent with
    | some event => simp
    | none => simp
  · simp

/-- The test of rows logs no other rows. -/
theorem tested_testAll (rows batch : List Request) (store : Store) :
    Ends (load.testAll rows batch) store
      (fun _ final => final.tested.length ≤ store.tested.length + batch.length)
      fun _ final => final.tested.length ≤ store.tested.length + batch.length := by
  induction batch generalizing store with
  | nil => simp [testAll]
  | cons request rest inductionHypothesis =>
    simp only [testAll, ends_bind, List.length_cons]
    apply (tested_test rows request store).mono
    · intro _ middle logged
      apply (inductionHypothesis middle).mono
      · intro _ final gained
        omega
      · intro _ final gained
        omega
    · intro _ final logged
      omega

/-- A finished batch is tested, or not. -/
theorem tested_finishBatch (maxid : Option Int) (rows : List Request) (store : Store) :
    Ends (load.finishBatch maxid rows) store
      (fun _ final => final.tested.length ≤ store.tested.length + rows.length)
      fun _ final => final.tested.length ≤ store.tested.length + rows.length := by
  simp only [finishBatch, commit, ends_bind, ends_get, ends_ite, ends_modify, ends_throw]
  split
  · split
    · exact tested_testAll rows rows store.saved
    · exact Nat.le_add_right _ _
  · exact Nat.le_add_right _ _

/-- Adding a row tests nothing. -/
theorem tested_addRow (users : Owners.Users) (row : RemoteRow) (store : Store) :
    Ends (load.addRow users row) store (fun _ final => final.tested = store.tested)
      fun _ final => final.tested = store.tested := by
  unfold addRow
  cases row.raises with
  | some failure => simp
  | none => simp [Store.added]

/-- The loop tests no more than the rows of the batch and the rest without the last row,
because it leaves out the last batch. Without a rest it tests nothing. -/
theorem tested_loop (users : Owners.Users) (maxid : Option Int) (counter : Nat)
    (batch : List Request) (rows : List RemoteRow) (store : Store) :
    Ends (load.loop users maxid counter batch rows) store
      (fun _ final =>
        final.tested.length + 1 ≤ store.tested.length + batch.length + rows.length ∨
          rows = [] ∧ final.tested = store.tested)
      fun _ final =>
        final.tested.length + 1 ≤ store.tested.length + batch.length + rows.length ∨
          rows = [] ∧ final.tested = store.tested := by
  induction rows generalizing counter batch store with
  | nil =>
    simp only [loop, commit, ends_ite, ends_bind, ends_get, ends_modify, ends_throw, ends_pure,
      Store.saved, true_and, or_true, ite_self]
  | cons row rest inductionHypothesis =>
    have onward (middle : Store) (next : List Request)
        (enough : middle.tested.length + next.length ≤ store.tested.length + batch.length + 1)
        (single : middle.tested.length ≤ store.tested.length + batch.length) :
        Ends (do load.addRow users row; load.loop users maxid (counter + 1) next rest) middle
          (fun _ final => final.tested.length + 1 ≤
            store.tested.length + batch.length + (row :: rest).length)
          fun _ final => final.tested.length + 1 ≤
            store.tested.length + batch.length + (row :: rest).length := by
      simp only [ends_bind, List.length_cons]
      apply (tested_addRow users row middle).mono
      · intro _ added untested
        rw [← untested] at enough single
        apply (inductionHypothesis (counter + 1) next added).mono
        · rintro _ final (fewer | ⟨rfl, same⟩)
          · omega
          · rw [same]
            omega
        · rintro _ final (fewer | ⟨rfl, same⟩)
          · omega
          · rw [same]
            omega
      · intro _ final untested
        rw [untested]
        omega
    simp only [reduceCtorEq, false_and, or_false]
    unfold loop
    split
    · by_cases begins : counter = 0
      · simp only [begins, ne_eq, not_true_eq_false, ite_false]
        subst begins
        apply onward
        · simp only [List.length_singleton]
          omega
        · omega
      · simp only [begins, ne_eq, not_false_eq_true, ite_true]
        rw [ends_bind]
        apply (tested_finishBatch maxid batch store).mono
        · intro _ middle gained
          apply onward
          · simp only [List.length_singleton]
            omega
          · exact gained
        · intro _ final gained
          simp only [List.length_cons]
          omega
    · apply onward
      · simp only [List.length_append, List.length_singleton]
        omega
      · omega

/-- Nothing is stored or tested before the rows are there. -/
def Unbegun (store middle : Store) : Prop :=
  middle.pending = [] ∧ middle.stored = store.stored ∧ middle.tested = store.tested

theorem unbegun_asked {Reply : Type} {query : Query Reply} {store middle : Store}
    (unbegun : Unbegun store middle) :
    Unbegun store (if query.removes then middle.saved else middle) := by
  obtain ⟨pending, stored, tested⟩ := unbegun
  cases query.removes with
  | false => exact ⟨pending, stored, tested⟩
  | true => simp [Unbegun, Store.saved, pending, stored, tested]

/-- What holds of the logs at the end of a load. -/
def FewerTested (store final : Store) : Prop :=
  load.fetched ≠ [] ∧ final.tested.length < store.tested.length + load.fetched.length ∨
    load.fetched = [] ∧ final.stored = store.stored ∧ final.tested = store.tested

/-- A load that ends before it has rows to add leaves the logs as they are. -/
theorem fewerTested_of_unbegun {store final : Store} (unbegun : Unbegun store final) :
    load.FewerTested store final := by
  obtain ⟨-, stored, tested⟩ := unbegun
  by_cases nothing : load.fetched = []
  · exact .inr ⟨nothing, stored, tested⟩
  · have some : 0 < load.fetched.length := List.length_pos_iff.mpr nothing
    left
    rw [tested]
    exact ⟨nothing, by omega⟩

end Ends

/-- A load tests fewer rows than it fetches. If it fetches none it neither stores nor
tests any. -/
theorem fewerTested_run (store middle : Store) (unbegun : Unbegun store middle) :
    Ends load.run middle (fun _ final => load.FewerTested store final)
      fun _ final => load.FewerTested store final := by
  unfold run
  cases busy : load.busy with
  | true => exact load.fewerTested_of_unbegun unbegun
  | false =>
    simp only [Bool.false_eq_true, ite_false, prune, ends_bind, ends_ask, ends_settle, ends_modify,
      ends_get]
    cases maximum : getLastHttpRequestsId load.maximum.reply with
    | error failure => exact load.fewerTested_of_unbegun (unbegun_asked unbegun)
    | ok maxid =>
      cases users : Owners.loadUsers load.users.reply with
      | error failure => exact load.fewerTested_of_unbegun (unbegun_asked (unbegun_asked unbegun))
      | ok table =>
        have asks : load.asks = true := by simp [Load.asks, busy, maximum, users, Except.isOk,
          Except.toBool]
        dsimp only
        set pruned := Store.pruned _ _ _
        have before : Unbegun store pruned := unbegun_asked unbegun
        set afterUsers := if load.users.removes then pruned.saved else pruned
        have middle : Unbegun store afterUsers := unbegun_asked before
        have ready : Unbegun store (if load.rows.removes then afterUsers.saved else afterUsers) :=
          unbegun_asked middle
        cases reply : load.rows.reply with
        | error message => exact load.fewerTested_of_unbegun ready
        | missing => exact load.fewerTested_of_unbegun ready
        | rows schema rows =>
          cases schema with
          | false => exact load.fewerTested_of_unbegun ready
          | true =>
            have fetched : load.fetched = rows.map RemoteRow.request := by
              simp [Load.fetched, asks, reply, RowsReply.fetched]
            simp only [ends_bind, ends_pure]
            cases rows with
            | nil => exact load.fewerTested_of_unbegun ready
            | cons row rest =>
              apply (tested_loop table _ 0 [] (row :: rest) _).mono
              · rintro _ final (fewer | ⟨none, -⟩)
                · left
                  rw [ready.2.2, List.length_nil, add_zero] at fewer
                  rw [fetched, List.length_map]
                  exact ⟨List.cons_ne_nil _ _, fewer⟩
                · cases none
              · rintro _ final (fewer | ⟨none, -⟩)
                · left
                  rw [ready.2.2, List.length_nil, add_zero] at fewer
                  rw [fetched, List.length_map]
                  exact ⟨List.cons_ne_nil _ _, fewer⟩
                · cases none

/-- The same of the load as a whole. What is rolled back at the end is not in the logs. -/
theorem fewerTested_perform (store : Store) : load.FewerTested store (load.perform store).2 :=
  (ends_state load.run).mp (load.fewerTested_run store store.undone ⟨rfl, rfl, rfl⟩)

end Load

/-- The table after loads. -/
def after (store : Store) (loads : List Load) : Store :=
  loads.foldl (fun store load => (load.perform store).2) store

/-- A run of loads tests no more rows than it fetches, and fewer if it fetches any. -/
theorem fewerTested_after (store : Store) (loads : List Load) :
    loads.flatMap Load.fetched ≠ [] ∧
        (after store loads).tested.length <
          store.tested.length + (loads.flatMap Load.fetched).length ∨
      loads.flatMap Load.fetched = [] ∧ (after store loads).stored = store.stored ∧
        (after store loads).tested = store.tested := by
  induction loads generalizing store with
  | nil => exact .inr ⟨rfl, rfl, rfl⟩
  | cons load rest inductionHypothesis =>
    have first := load.fewerTested_perform store
    have others := inductionHypothesis (load.perform store).2
    have unfolded : after store (load :: rest) = after (load.perform store).2 rest := rfl
    rw [unfolded, List.flatMap_cons, List.length_append]
    rcases first with ⟨fetched, fewer⟩ | ⟨none, stored, tested⟩
    · left
      constructor
      · simp [fetched]
      · rcases others with ⟨-, fewerLater⟩ | ⟨-, -, testedLater⟩
        · omega
        · rw [testedLater]
          omega
    · rw [none, ← stored, ← tested, List.nil_append, List.length_nil, zero_add]
      exact others

/-- In a run of loads every fetched row is stored and tested exactly once. -/
def EachOnce (store : Store) (loads : List Load) : Prop :=
  (after store loads).stored.Perm (store.stored ++ loads.flatMap Load.fetched) ∧
    (after store loads).tested.Perm (store.tested ++ loads.flatMap Load.fetched)

instance (store : Store) (loads : List Load) : Decidable (EachOnce store loads) :=
  inferInstanceAs (Decidable (_ ∧ _))

/-- The rows of a run of loads are stored and tested once if and only if there are none:
the last rows that a load fetches are never tested. -/
theorem requests_tested_once_iff (store : Store) (loads : List Load) :
    EachOnce store loads ↔ loads.flatMap Load.fetched = [] := by
  have fewer := fewerTested_after store loads
  constructor
  · rintro ⟨-, tested⟩
    have same := tested.length_eq
    rw [List.length_append] at same
    rcases fewer with ⟨-, less⟩ | ⟨none, -, -⟩
    · omega
    · exact none
  · intro none
    rcases fewer with ⟨some, -⟩ | ⟨-, stored, tested⟩
    · exact absurd none some
    · simp [EachOnce, none, stored, tested]

/-- A load that finds the row after the only one there is. -/
def nextRow : Load where
  envid := 1
  busy := false
  maximum := ⟨⟨none, some [[.int 8]], none⟩, false⟩
  users := ⟨.rows [], false⟩
  rows := ⟨.rows true [⟨⟨8, some 1, some 1, none, some "/views/A/B", none, none, none, some 200,
    some 0, some 0⟩, none⟩], false⟩
  control := ⟨fun _ _ => false, fun _ => false, 10, 5, fun _ => none⟩
  accepts := fun _ => true

/-- The table with one row. -/
def oneRow : Store where
  committed := [⟨1, ⟨7, some 1, some 1, none, some "/views/A/B", none, none, none, some 200, some 0,
    some 0⟩, none⟩]
  view := []
  pending := []
  stored := []
  tested := []
  sent := []

/-- The row is stored and not tested. -/
theorem last_row_not_tested : ¬EachOnce oneRow [nextRow] := by
  decide +kernel

end Palette.Http
