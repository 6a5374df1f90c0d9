import Palette.Foundation.Script
import Palette.Commands.Reply
import Palette.Sync.Tables

/-!
# Queries of a load

A query of the remote database is answered by the agent. If sending it fails the agent
may be removed, which commits what the session of the load has done so far.

Before a load asks for rows it asks for the greatest number among them. The number it
then takes is not always one that the reply reports.
-/

namespace Palette.Load

open Palette.Commands Palette.Foundation Palette.Sync Script

/-- A query as it is answered, and whether the agent is removed, which commits. -/
structure Query (Reply : Type) where
  reply : Reply
  removes : Bool

/-- Ask a query. A load asks its queries before it adds rows, so that the commit of a
removal is not refused. -/
def Query.ask {Store Reply : Type} (query : Query Reply) (commit : Store → Store) :
    Script Store Failure Reply := do
  if query.removes then modify commit
  pure query.reply

@[simp] theorem ends_ask {Store Reply : Type} {query : Query Reply} {commit : Store → Store}
    {store : Store} {returned : Reply → Store → Prop} {raised : Failure → Store → Prop} :
    Ends (query.ask commit) store returned raised ↔
      returned query.reply (if query.removes then commit store else store) := by
  simp only [Query.ask]
  cases query.removes <;> simp

/-- `int()` of a value. -/
def intOfCell : Cell → Except Failure Int
  | .null => .error ⟨.typeError, "int() argument must be a string or a number, not 'NoneType'"⟩
  | .bool value => .ok (if value then 1 else 0)
  | .int value => .ok value
  | .text value =>
    match intOfText value with
    | some number => .ok number
    | none => .error ⟨.valueError, "invalid literal for int() with base 10"⟩

/-- The number in the first row of a reply; 0 without rows or for a NULL. An empty list of
rows, or an empty row, raises. -/
def firstId (data : OdbcReply) : Except Failure Int :=
  match data.rows with
  | none => .ok 0
  | some [] => .error ⟨.otherException, "list index out of range"⟩
  | some ([] :: _) => .error ⟨.otherException, "list index out of range"⟩
  | some ((.null :: _) :: _) => .ok 0
  | some ((cell :: _) :: _) => intOfCell cell

/-! ## What a reply reports -/

/-- The greatest number as a value says it. Without rows there is none, and NULL says so;
every row is beyond it. -/
def maximumOfCell : Cell → Option Int
  | .null => some 0
  | cell => (intOfCell cell).toOption

/-- The value of a reply's first row. -/
def firstCell (data : OdbcReply) : Option Cell :=
  data.rows.bind fun rows => rows.head?.bind List.head?

/-- The greatest number that a reply reports. An error reports none, whatever comes with
it. -/
def reportedMaximum (data : OdbcReply) : Option Int :=
  if data.error.isSome then none else (firstCell data).bind maximumOfCell

/-- A number is taken for the greatest one if there are no rows, or if the first row holds
it. -/
theorem firstId_eq_ok {data : OdbcReply} {number : Int} : firstId data = .ok number ↔
    data.rows = none ∧ number = 0 ∨ (firstCell data).bind maximumOfCell = some number := by
  rcases data with ⟨error, rows, info⟩
  rcases rows with _ | _ | ⟨_ | ⟨cell, cells⟩, rest⟩
  · simp [firstId, firstCell, eq_comm]
  · simp [firstId, firstCell]
  · simp [firstId, firstCell]
  · cases cell with
    | null => simp [firstId, firstCell, maximumOfCell]
    | bool value => simp [firstId, firstCell, maximumOfCell, intOfCell, Except.toOption]
    | int value => simp [firstId, firstCell, maximumOfCell, intOfCell, Except.toOption]
    | text value =>
      cases number : intOfText value with
      | none => simp [firstId, firstCell, maximumOfCell, intOfCell, Except.toOption, number]
      | some found => simp [firstId, firstCell, maximumOfCell, intOfCell, Except.toOption, number]

/-- A condition on the number that is taken, said of the reply. -/
theorem taken_iff {data : OdbcReply} {maxid : Int} (taken : firstId data = .ok maxid)
    (condition : Int → Prop) :
    (data.rows = none ∧ condition 0 ∨
      ∃ number, (firstCell data).bind maximumOfCell = some number ∧ condition number) ↔
      condition maxid := by
  rcases firstId_eq_ok.mp taken with ⟨noRows, rfl⟩ | held
  · simp [noRows, firstCell]
  · have rows : data.rows ≠ none := by
      intro noRows
      simp [noRows, firstCell] at held
    simp [rows, held]

/-- The first value of a reply is a text that is not a number. -/
def holdsOtherText (data : OdbcReply) : Bool :=
  match firstCell data with
  | some (.text value) => (intOfText value).isNone
  | _ => false

/-- The number of a reply raises a `ValueError` only if its text is not one. -/
theorem firstId_valueError {data : OdbcReply} {failure : Failure}
    (raises : firstId data = .error failure) :
    failure.kind = .valueError ↔ holdsOtherText data = true := by
  rcases data with ⟨error, rows, info⟩
  rcases rows with _ | _ | ⟨_ | ⟨cell, cells⟩, rest⟩
  · simp [firstId] at raises
  · simp only [firstId, Except.error.injEq] at raises
    simp [← raises, holdsOtherText, firstCell]
  · simp only [firstId, Except.error.injEq] at raises
    simp [← raises, holdsOtherText, firstCell]
  · cases cell with
    | null => simp [firstId] at raises
    | bool value => simp [firstId, intOfCell] at raises
    | int value => simp [firstId, intOfCell] at raises
    | text value =>
      cases number : intOfText value with
      | some found => simp [firstId, intOfCell, number] at raises
      | none =>
        simp only [firstId, intOfCell, number, Except.error.injEq] at raises
        simp [← raises, holdsOtherText, firstCell, number]

end Palette.Load
