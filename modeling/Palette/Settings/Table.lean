import Mathlib.Data.List.Nodup
import Palette.Foundation.Transition
import Palette.Settings.Defaults

/-!
# The table of settings and its writers

A row has the environment and the key, which only one row of the table has, and the stored
text. Item assignment casts a value and stores the text of the result. The telnet command
changes the text of an existing row itself and leaves a missing one to item assignment. A
new table is filled with the defaults.

An operation raises, answers or is done. Only a telnet command answers, and an exception
that it raises ends the controller. What raises changes nothing, because the transaction is
rolled back.
-/

namespace Palette.Settings

open Palette.Telnet (Text)
open Palette.Commands (Failure)
open Palette.Foundation

/-- Keys are compared by their characters. -/
local instance lawfulKey : LawfulBEq (List Char) := inferInstance

/-- `SystemEntry`. -/
structure Row where
  envid : Int
  key : Text
  value : Option Text
  deriving DecidableEq, Repr

/-- The `system` table. Its keys are unique. -/
structure Table where
  rows : List Row
  unique : (rows.map Row.key).Nodup

namespace Table

/-- `SystemManager.entry`. -/
def entry (table : Table) (envid : Int) (key : Text) : Option Row :=
  table.rows.find? fun row => row.envid = envid && row.key = key

/-- Change the stored text of the row with a key. -/
def revise (table : Table) (key text : Text) : Table where
  rows := table.rows.map fun row => if row.key = key then { row with value := some text } else row
  unique := by
    have same : (table.rows.map fun row =>
        if row.key = key then { row with value := some text } else row).map Row.key =
        table.rows.map Row.key := by
      rw [List.map_map]
      refine List.map_congr_left fun row _ => ?_
      simp only [Function.comp_apply]
      split <;> rfl
    exact same ▸ table.unique

/-- Insert a row with a new key. -/
def insert (table : Table) (envid : Int) (key text : Text)
    (fresh : key ∉ table.rows.map Row.key) : Table where
  rows := table.rows ++ [⟨envid, key, some text⟩]
  unique := by
    rw [List.map_append, List.nodup_append]
    refine ⟨table.unique, List.nodup_singleton _, ?_⟩
    intro old stored other new same
    rw [List.map_singleton, List.mem_singleton] at new
    have again : old = key := same.trans new
    exact fresh (again ▸ stored)

/-- Delete the row of an environment with a key. -/
def delete (table : Table) (envid : Int) (key : Text) : Table where
  rows := table.rows.filter fun row => !(row.envid = envid && row.key = key)
  unique := table.unique.sublist ((List.filter_sublist).map Row.key)

/-- The database does not take a row: the texts of it, or a key that another environment
has already. -/
def refuses (platform : Platform) (table : Table) (envid : Int) (key text : Text) : Bool :=
  !platform.accepts key || !platform.accepts text ||
    table.rows.any fun row => row.key = key && row.envid ≠ envid

/-- `session.merge` of a row and the commit. -/
def merge (platform : Platform) (table : Table) (envid : Int) (key text : Text) :
    Except Failure Table :=
  if table.refuses platform envid key text then
    .error ⟨.otherException, "IntegrityError or DataError"⟩
  else if fresh : key ∉ table.rows.map Row.key then .ok (table.insert envid key text fresh)
  else .ok (table.revise key text)

end Table

/-! ## The system manager -/

/-- A stored value as the driver returns it. -/
def stored : Option Text → Value
  | none => .plain .none
  | some text => .unicode text

/-- `SystemEntry.typed`. -/
def Row.typed (platform : Platform) (row : Row) : Except Failure Setting :=
  cast platform row.key (stored row.value)

/-- `SystemManager.__getitem__`. -/
def getItem (platform : Platform) (envid : Int) (table : Table) (key : Text) :
    Except Failure Setting :=
  match table.entry envid key with
  | some row => cast platform key (stored row.value)
  | none =>
    match defaultOf key with
    | .ok entry => .ok entry.value
    | .error _ => .error ⟨.keyError, "Invalid system key : " ++ String.ofList key⟩

/-- `SystemManager.__setitem__` and the commit that follows it. -/
def setItem (platform : Platform) (envid : Int) (key : Text) (value : Value) (table : Table) :
    Except Failure Table := do
  let setting ← cast platform key value
  table.merge platform envid key setting.shown

/-- `SystemMixin.save`. -/
def save (platform : Platform) (envid : Int) (key : Text) (value : Value) (table : Table) :
    Except Failure Table :=
  setItem platform envid key value table

/-- `SystemManager.__delitem__`. -/
def delItem (platform : Platform) (envid : Int) (key : Text) (table : Table) :
    Except Failure Table :=
  if platform.accepts key then .ok (table.delete envid key)
  else .error ⟨.otherException, "DataError: invalid byte sequence for encoding"⟩

/-- `translate_key`. -/
def translateKey (pretty : Bool) (key : Text) : Text :=
  if pretty then key.map fun char => if char = '_' then '-' else char
  else key.map fun char => if char = '-' then '_' else char

/-- `SystemManager.todict`. Of equal keys the last one counts. -/
def todict (platform : Platform) (envid : Int) (pretty includeDefaults : Bool) (table : Table) :
    Except Failure (List (Text × Setting)) := do
  let data := if includeDefaults then
      defaults.map fun entry => (translateKey pretty entry.1.toList, entry.2.value)
    else []
  let overridden ← (table.rows.filter fun row => row.envid = envid).mapM fun row => do
    return (translateKey pretty row.key, ← row.typed platform)
  return data ++ overridden

/-- The row that a new table has for a default, if it has one. -/
def populatedRow (entry : String × Default) : Option Row :=
  if entry.2.populated then some ⟨1, entry.1.toList, some entry.2.value.shown⟩ else none

/-- No key is listed twice. -/
theorem defaults_nodup : (defaults.map Prod.fst).Nodup := by decide +kernel

/-- The rows of a new table have different keys. -/
theorem populatedRows_nodup : ((defaults.filterMap populatedRow).map Row.key).Nodup := by
  have keys : (defaults.filterMap populatedRow).map Row.key =
      ((defaults.filter fun entry => entry.2.populated).map Prod.fst).map String.toList := by
    induction defaults with
    | nil => rfl
    | cons entry rest inductionHypothesis =>
      cases kept : entry.2.populated with
      | false => simpa [populatedRow, kept] using inductionHypothesis
      | true => simpa [populatedRow, kept] using inductionHypothesis
  rw [keys]
  refine List.Nodup.map (fun _ _ same => String.toList_inj.mp same) ?_
  exact defaults_nodup.sublist (List.filter_sublist.map Prod.fst)

/-- `SystemManager.populate`. -/
def populate (table : Table) : Table :=
  if table.rows = [] then ⟨defaults.filterMap populatedRow, populatedRows_nodup⟩ else table

/-! ## The telnet command -/

/-- How an operation ends. -/
inductive Outcome where
  | done
  | usage
  | answered
  | notFound
  | found (key : Text) (value : Option Text)
  | raised (failure : Failure)
  deriving DecidableEq, Repr

/-- The client reads an error. -/
def Outcome.isError : Outcome → Bool
  | usage | notFound => true
  | _ => false

/-- What an operation that may raise does. -/
def finish (outcome : Outcome) (table : Table) : Except Failure Table → Outcome × Table
  | .ok next => (outcome, next)
  | .error failure => (.raised failure, table)

/-- The part of `do_system` for SET. An existing row takes the text as it is. -/
def doSystemSet (platform : Platform) (envid : Int) (key value : Text) (table : Table) :
    Outcome × Table :=
  if platform.accepts key then
    match table.entry envid key with
    | some _ => finish .answered table (table.merge platform envid key value)
    | none => finish .answered table (setItem platform envid key (.plain (.str value)) table)
  else (.raised ⟨.otherException, "DataError: invalid byte sequence for encoding"⟩, table)

/-- The part of `do_system` for GET. -/
def doSystemGet (platform : Platform) (envid : Int) (key : Text) (table : Table) : Outcome × Table :=
  if platform.accepts key then
    match table.entry envid key with
    | some row => (.found row.key row.value, table)
    | none => (.notFound, table)
  else (.raised ⟨.otherException, "DataError: invalid byte sequence for encoding"⟩, table)

/-- The part of `do_system` for DELETE. -/
def doSystemDelete (platform : Platform) (envid : Int) (key : Text) (table : Table) :
    Outcome × Table :=
  finish .answered table (delItem platform envid key table)

/-- `CliHandler.do_system`. -/
def doSystem (platform : Platform) (envid : Int) (args : List Text) (table : Table) :
    Outcome × Table :=
  match args with
  | [] => (.usage, table)
  | action :: arguments =>
    let action := action.map Char.toUpper
    if action = "SET".toList then
      match arguments with
      | [key, value] => doSystemSet platform envid key value table
      | _ => (.usage, table)
    else if action = "GET".toList then
      match arguments with
      | [key] => doSystemGet platform envid key table
      | _ => (.usage, table)
    else if action = "DELETE".toList then
      match arguments with
      | [key] => doSystemDelete platform envid key table
      | _ => (.usage, table)
    else (.usage, table)

/-! ## Runs -/

/-- The operations that reach the table. -/
inductive Operation where
  | save (key : Text) (value : Value)
  | setItem (key : Text) (value : Value)
  | delItem (key : Text)
  | telnet (args : List Text)
  | populate

/-- An operation of the manager of an environment. -/
def perform (platform : Platform) (envid : Int) (table : Table) : Operation → Outcome × Table
  | .save key value => finish .done table (save platform envid key value table)
  | .setItem key value => finish .done table (setItem platform envid key value table)
  | .delItem key => finish .done table (delItem platform envid key table)
  | .telnet args => doSystem platform envid args table
  | .populate => (.done, populate table)

end Palette.Settings
