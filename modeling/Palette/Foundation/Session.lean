import Palette.Foundation.Script

/-!
# Sessions on one table

A session works on a view of a table. What it changes is seen by others once it is
committed, and is gone once it is rolled back. A merged row is not written at once but
before the next statement or the commit, and then the database may refuse it; what was
done before stays in the view.

Work on a session is a list of statements, merges and failures. What it leaves behind is
computed from the list: the rows merged before the first failure, the failure, and
whether the last merged row is still to be written.
-/

namespace Palette.Foundation

universe u

/-- A table with a session on it. The published contents were committed, the latest first;
the merges are all rows that the session was given. -/
structure Session (Row : Type u) where
  committed : List Row
  view : List Row
  pending : Option Row
  published : List (List Row)
  merges : List Row
  deriving DecidableEq, Repr

namespace Session

variable {Row Failure : Type u}

/-- A new session sees what is committed. -/
def begin (committed : List Row) (published : List (List Row)) : Session Row :=
  ⟨committed, committed, none, published, []⟩

/-- Give up what is not committed. -/
def undone (session : Session Row) : Session Row :=
  { session with view := session.committed, pending := none }

/-- Commit the view. -/
def saved (session : Session Row) : Session Row :=
  { session with committed := session.view, published := session.view :: session.published }

/-- All rows of the session, written or not. -/
def contents (session : Session Row) : List Row := session.view ++ session.pending.toList

variable (storable : Row → Bool) (refusal : Failure)

/-- Write the pending row, before a statement or a commit. -/
def flush : Script (Session Row) Failure PUnit := do
  match (← get).pending with
  | none => pure ⟨⟩
  | some row =>
    if storable row then
      modify fun session => { session with view := session.view ++ [row], pending := none }
    else throw refusal

/-- Merge a row that carries no key. The key is looked up, so the last row is written. -/
def merge (row : Row) : Script (Session Row) Failure PUnit := do
  flush storable refusal
  modify fun session => { session with pending := some row, merges := session.merges ++ [row] }

/-- Delete all rows. -/
def deleteAll : Script (Session Row) Failure PUnit := do
  flush storable refusal
  modify fun session => { session with view := [] }

/-- Write the pending row and commit. -/
def commit : Script (Session Row) Failure PUnit := do
  flush storable refusal
  modify saved

/-- Roll back. -/
def rollback : Script (Session Row) Failure PUnit := modify undone

section Ends

open Script

variable {storable refusal} {session : Session Row}
  {returned : PUnit.{u + 1} → Session Row → Prop} {raised : Failure → Session Row → Prop}

/-- The session after its pending row was written. -/
def flushed (session : Session Row) : Session Row :=
  { session with view := session.contents, pending := none }

/-- The session after a merge. -/
def joined (session : Session Row) (row : Row) : Session Row :=
  { session.flushed with pending := some row, merges := session.merges ++ [row] }

/-- Writing the pending row changes no contents. -/
@[simp] theorem contents_flushed (session : Session Row) :
    session.flushed.contents = session.contents := by
  simp [flushed, contents]

/-- A merge adds its row. -/
@[simp] theorem contents_joined (session : Session Row) (row : Row) :
    (session.joined row).contents = session.contents ++ [row] := rfl

/-- How the writing of the pending row ends. -/
theorem ends_flush : Ends (flush storable refusal) session returned raised ↔
    if session.pending.all storable then returned ⟨⟩ session.flushed else raised refusal session := by
  obtain ⟨committed, view, pending, published, merges⟩ := session
  cases pending with
  | none => simp [flush, flushed, contents]
  | some row =>
    cases fits : storable row <;> simp [flush, flushed, contents, fits]

/-- How a merge ends. -/
theorem ends_merge {row : Row} : Ends (merge storable refusal row) session returned raised ↔
    if session.pending.all storable then returned ⟨⟩ (session.joined row)
    else raised refusal session := by
  simp only [merge, ends_bind, ends_flush, ends_modify]
  rfl

/-- How the deletion of all rows ends. -/
theorem ends_deleteAll : Ends (deleteAll storable refusal) session returned raised ↔
    if session.pending.all storable then returned ⟨⟩ { session.flushed with view := [] }
    else raised refusal session := by
  simp only [deleteAll, ends_bind, ends_flush, ends_modify]

/-- How a commit ends. -/
theorem ends_commit : Ends (commit storable refusal) session returned raised ↔
    if session.pending.all storable then returned ⟨⟩ session.flushed.saved
    else raised refusal session := by
  simp only [commit, ends_bind, ends_flush, ends_modify]

end Ends

end Session

/-! ## Work on a session -/

/-- A statement, a merge or a failure. -/
inductive Work (Row Failure : Type u) where
  | query
  | merge (row : Row)
  | raise (failure : Failure)

namespace Work

variable {Row Failure : Type u}

/-- Do one piece of work. -/
def perform (storable : Row → Bool) (refusal : Failure) :
    Work Row Failure → Script (Session Row) Failure PUnit
  | query => Session.flush storable refusal
  | merge row => Session.merge storable refusal row
  | raise failure => throw failure

/-- Do the work in order. -/
def performAll (storable : Row → Bool) (refusal : Failure) :
    List (Work Row Failure) → Script (Session Row) Failure PUnit
  | [] => pure ⟨⟩
  | work :: rest => do
    work.perform storable refusal
    performAll storable refusal rest

/-- Work after other work. -/
theorem performAll_append (storable : Row → Bool) (refusal : Failure)
    (first second : List (Work Row Failure)) :
    performAll storable refusal (first ++ second) =
      (do performAll storable refusal first; performAll storable refusal second) := by
  induction first with
  | nil => simp [performAll]
  | cons work rest inductionHypothesis => simp [performAll, inductionHypothesis]

/-- The rows merged before the first failure. -/
def merged : List (Work Row Failure) → List Row
  | [] => []
  | query :: rest => merged rest
  | merge row :: rest => row :: merged rest
  | raise _ :: _ => []

/-- The first failure. -/
def failure : List (Work Row Failure) → Option Failure
  | [] => none
  | query :: rest => failure rest
  | merge _ :: rest => failure rest
  | raise failure :: _ => some failure

/-- The row that is still to be written at the end or at the first failure, if `pending`
was at the beginning. -/
def unwritten (pending : Option Row) : List (Work Row Failure) → Option Row
  | [] => pending
  | query :: rest => unwritten none rest
  | merge row :: rest => unwritten (some row) rest
  | raise _ :: _ => pending

/-- Every row that is written up to the end or the first failure can be stored. -/
def Storable (storable : Row → Bool) (pending : Option Row) : List (Work Row Failure) → Prop
  | [] => True
  | query :: rest => pending.all storable = true ∧ Storable storable none rest
  | merge row :: rest => pending.all storable = true ∧ Storable storable (some row) rest
  | raise _ :: _ => True

/-- What work leaves behind: the rows are merged, and nothing is committed. -/
structure Left (works : List (Work Row Failure)) (session final : Session Row) : Prop where
  contents : final.contents = session.contents ++ merged works
  pending : final.pending = unwritten session.pending works
  committed : final.committed = session.committed
  published : final.published = session.published
  merges : final.merges = session.merges ++ merged works

/-- A statement before other work only writes the pending row. -/
theorem Left.query {rest : List (Work Row Failure)} {session final : Session Row}
    (left : Left rest session.flushed final) : Left (query :: rest) session final where
  contents := by rw [left.contents, Session.contents_flushed, merged]
  pending := left.pending
  committed := left.committed
  published := left.published
  merges := left.merges

/-- A merge before other work adds its row. -/
theorem Left.merge {rest : List (Work Row Failure)} {session final : Session Row} {row : Row}
    (left : Left rest (session.joined row) final) : Left (merge row :: rest) session final where
  contents := by rw [left.contents, Session.contents_joined, merged, List.append_assoc,
    List.singleton_append]
  pending := left.pending
  committed := left.committed
  published := left.published
  merges := by
    rw [left.merges, merged, Session.joined, List.append_assoc, List.singleton_append]

/-- No work leaves everything as it is. -/
theorem Left.none (session : Session Row) {works : List (Work Row Failure)}
    (nothing : merged works = []) (unchanged : unwritten session.pending works = session.pending) :
    Left works session session where
  contents := by rw [nothing, List.append_nil]
  pending := unchanged.symm
  committed := rfl
  published := rfl
  merges := by rw [nothing, List.append_nil]

/-- Work on a session, if every row that is written can be stored. -/
theorem ends_performAll (storable : Row → Bool) (refusal : Failure)
    (works : List (Work Row Failure)) (session : Session Row)
    (fits : Storable storable session.pending works) :
    Script.Ends (performAll storable refusal works) session
      (fun _ final => failure works = none ∧ Left works session final)
      (fun raise final => failure works = some raise ∧ Left works session final) := by
  induction works generalizing session with
  | nil => exact ⟨rfl, .none session rfl rfl⟩
  | cons work rest inductionHypothesis =>
    cases work with
    | query =>
      obtain ⟨written, fits⟩ := fits
      simp only [performAll, perform, Script.ends_bind, Session.ends_flush, written, if_true]
      exact (inductionHypothesis session.flushed fits).mono
        (fun _ _ ended => ⟨ended.1, ended.2.query⟩) fun _ _ ended => ⟨ended.1, ended.2.query⟩
    | merge row =>
      obtain ⟨written, fits⟩ := fits
      simp only [performAll, perform, Script.ends_bind, Session.ends_merge, written, if_true]
      exact (inductionHypothesis (session.joined row) fits).mono
        (fun _ _ ended => ⟨ended.1, ended.2.merge⟩) fun _ _ ended => ⟨ended.1, ended.2.merge⟩
    | raise failure => exact ⟨rfl, .none session rfl rfl⟩

/-- Work on a session, if a row is written that cannot be stored: the database refuses it,
and part of the rows are merged. -/
theorem ends_performAll_refused (storable : Row → Bool) (refusal : Failure)
    (works : List (Work Row Failure)) (session : Session Row)
    (refused : ¬Storable storable session.pending works) :
    Script.Ends (performAll storable refusal works) session (fun _ _ => False)
      (fun raise final => raise = refusal ∧ final.committed = session.committed ∧
        final.published = session.published) := by
  induction works generalizing session with
  | nil => exact absurd trivial refused
  | cons work rest inductionHypothesis =>
    cases work with
    | query =>
      simp only [performAll, perform, Script.ends_bind, Session.ends_flush]
      split
      · rename_i written
        exact inductionHypothesis session.flushed fun fits => refused ⟨written, fits⟩
      · exact ⟨trivial, trivial, trivial⟩
    | merge row =>
      simp only [performAll, perform, Script.ends_bind, Session.ends_merge]
      split
      · rename_i written
        exact inductionHypothesis (session.joined row) fun fits => refused ⟨written, fits⟩
      · exact ⟨trivial, trivial, trivial⟩
    | raise failure => exact absurd trivial refused

end Work

end Palette.Foundation
