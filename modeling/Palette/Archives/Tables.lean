import Mathlib.Data.List.Pairwise
import Mathlib.Data.List.ReduceOption
import Palette.Files.Kept
import Palette.Foundation.Newest
import Palette.Foundation.Sql

/-!
# The tables of the archives

Four tables have a row for everything that is or is to be archived: the revisions of workbooks
and of data sources, and the refreshed extracts of both. A row of a revision is archived when
its url is set, a row of an extract when it names a file. A row belongs to a workbook or a data
source, if to any, and may name files of the catalogue, which removes the row together with a
file that it names. Every file is added for one row.
-/

namespace Palette.Archives

open Palette.Commands (Failure)
open Palette.Files
open Palette.Foundation

/-- The tables of the archives. -/
inductive Table where
  | workbookUpdates
  | datasourceUpdates
  | workbookExtracts
  | datasourceExtracts
  deriving DecidableEq, Repr

/-- A row of `workbook_updates`. -/
structure WorkbookUpdateEntry where
  wuid : Nat
  workbookid : Option Nat
  timestamp : Nat
  url : Option String
  fileid : Option Nat
  fileidTwbx : Option Nat
  deriving DecidableEq, Repr

/-- A row of `datasource_updates`. -/
structure DataSourceUpdateEntry where
  dsuid : Nat
  dsid : Option Nat
  timestamp : Nat
  url : Option String
  fileidTds : Option Nat
  fileidTdsx : Option Nat
  deriving DecidableEq, Repr

/-- A row of `workbook_extracts`. -/
structure WorkbookExtractEntry where
  sid : Nat
  parentid : Option Nat
  fileid : Option Nat
  deriving DecidableEq, Repr

/-- A row of `datasource_extracts`. -/
structure DataSourceExtractEntry where
  sid : Nat
  parentid : Option Nat
  fileid : Option Nat
  deriving DecidableEq, Repr

/-- A row of one of the tables. -/
inductive Row where
  | workbookUpdate (entry : WorkbookUpdateEntry)
  | datasourceUpdate (entry : DataSourceUpdateEntry)
  | workbookExtract (entry : WorkbookExtractEntry)
  | datasourceExtract (entry : DataSourceExtractEntry)
  deriving DecidableEq, Repr

/-- What the tables have in common: the key of a row, what the row belongs to, whether it is
archived, its age, and the files that are removed with it. A row without an url is not known to
be archived or not. -/
structure Held where
  id : Nat
  parent : Option Nat
  archived : Sql.Truth
  age : Nat
  files : List (Option Nat)
  deriving DecidableEq, Repr

/-- A column that is used only if it is set. -/
def truthy : Option Nat → List (Option Nat)
  | none | some 0 => []
  | some fileid => [some fileid]

/-- `url != ''`. -/
def urlSet (url : Option String) : Sql.Truth := (Sql.equal url (some "")).map not

def WorkbookUpdateEntry.held (entry : WorkbookUpdateEntry) : Held :=
  ⟨entry.wuid, entry.workbookid, urlSet entry.url, entry.timestamp,
    entry.fileid :: truthy entry.fileidTwbx⟩

def DataSourceUpdateEntry.held (entry : DataSourceUpdateEntry) : Held :=
  ⟨entry.dsuid, entry.dsid, urlSet entry.url, entry.timestamp,
    entry.fileidTds :: truthy entry.fileidTdsx⟩

def WorkbookExtractEntry.held (entry : WorkbookExtractEntry) : Held :=
  ⟨entry.sid, entry.parentid, some entry.fileid.isSome, entry.sid, [entry.fileid]⟩

def DataSourceExtractEntry.held (entry : DataSourceExtractEntry) : Held :=
  ⟨entry.sid, entry.parentid, some entry.fileid.isSome, entry.sid, [entry.fileid]⟩

namespace Row

def table : Row → Table
  | workbookUpdate _ => .workbookUpdates
  | datasourceUpdate _ => .datasourceUpdates
  | workbookExtract _ => .workbookExtracts
  | datasourceExtract _ => .datasourceExtracts

def held : Row → Held
  | workbookUpdate entry => entry.held
  | datasourceUpdate entry => entry.held
  | workbookExtract entry => entry.held
  | datasourceExtract entry => entry.held

/-- The columns of a row that name files. -/
def columns : Row → List (Option Nat)
  | workbookUpdate entry => [entry.fileid, entry.fileidTwbx]
  | datasourceUpdate entry => [entry.fileidTds, entry.fileidTdsx]
  | workbookExtract entry => [entry.fileid]
  | datasourceExtract entry => [entry.fileid]

/-- The files that a row names. It goes with each of them. -/
def references (row : Row) : List Nat := row.columns.reduceOption

/-- The key of a row, and its table. -/
def key (row : Row) : Table × Nat := (row.table, row.held.id)

/-- What is used of a column is the column. -/
theorem truthy_subset (column : Option Nat) : truthy column ⊆ [column] := by
  unfold truthy
  split
  · exact List.nil_subset _
  · exact List.nil_subset _
  · exact List.Subset.refl _

/-- The files that are removed with a row are those of its columns. -/
theorem files_subset (row : Row) : row.held.files ⊆ row.columns := by
  cases row with
  | workbookUpdate entry => exact List.cons_subset_cons _ (truthy_subset entry.fileidTwbx)
  | datasourceUpdate entry => exact List.cons_subset_cons _ (truthy_subset entry.fileidTdsx)
  | workbookExtract entry => exact List.Subset.refl _
  | datasourceExtract entry => exact List.Subset.refl _

/-- A file that is removed with a row is one that it names. -/
theorem referenced {row : Row} {fileid : Nat} (removed : some fileid ∈ row.held.files) :
    fileid ∈ row.references :=
  List.reduceOption_mem_iff.mpr (row.files_subset removed)

end Row

variable {Content : Type}

/-- A file is in the catalogue. -/
def Lists (files : Store Content) (fileid : Nat) : Prop :=
  ∃ entry ∈ files.rows, entry.fileid = fileid

instance (files : Store Content) (fileid : Nat) : Decidable (Lists files fileid) :=
  inferInstanceAs (Decidable (∃ entry ∈ files.rows, entry.fileid = fileid))

/-- The rows of the tables beside the files, and the files that were asked to be removed. -/
@[ext] structure Shelves (Content : Type) where
  rows : List Row
  files : Store Content
  asked : List (Option Nat)
  keyed : (rows.map Row.key).Nodup
  unshared : rows.Pairwise fun row other => List.Disjoint row.references other.references
  listed : ∀ row ∈ rows, ∀ fileid ∈ row.references, Lists files fileid

namespace Shelves

/-- Some of the rows. -/
def keep (shelves : Shelves Content) (kept : Row → Bool) : Shelves Content where
  rows := shelves.rows.filter kept
  files := shelves.files
  asked := shelves.asked
  keyed := shelves.keyed.sublist (List.filter_sublist.map Row.key)
  unshared := shelves.unshared.sublist List.filter_sublist
  listed row member := shelves.listed row (List.mem_of_mem_filter member)

/-- Keeping every row changes nothing. -/
theorem keep_all (shelves : Shelves Content) {kept : Row → Bool}
    (all : ∀ row ∈ shelves.rows, kept row = true) : shelves.keep kept = shelves :=
  Shelves.ext (List.filter_eq_self.mpr all) rfl rfl

/-- Other files. Rows go with a file that they name. -/
def withFiles (shelves : Shelves Content) (files : Store Content) : Shelves Content where
  rows := shelves.rows.filter fun row => row.references.all fun fileid => Lists files fileid
  files := files
  asked := shelves.asked
  keyed := shelves.keyed.sublist (List.filter_sublist.map Row.key)
  unshared := shelves.unshared.sublist List.filter_sublist
  listed row member fileid named := by
    have all := (List.mem_filter.mp member).2
    exact of_decide_eq_true (List.all_eq_true.mp all fileid named)

/-- A file more is asked to be removed. -/
def asking (shelves : Shelves Content) (fileid : Option Nat) : Shelves Content :=
  { shelves with asked := shelves.asked ++ [fileid] }

/-- The rows of a table, as far as the tables agree. -/
def shelf (shelves : Shelves Content) (table : Table) : List Held :=
  (shelves.rows.filter fun row => row.table = table).map Row.held

/-- A key belongs to one row. -/
theorem row_unique (shelves : Shelves Content) {row other : Row} (stored : row ∈ shelves.rows)
    (otherStored : other ∈ shelves.rows) (same : row.key = other.key) : row = other :=
  List.inj_on_of_nodup_map shelves.keyed stored otherStored same

/-- Different rows name different files. -/
theorem apart (shelves : Shelves Content) {row other : Row} (stored : row ∈ shelves.rows)
    (otherStored : other ∈ shelves.rows) (different : row ≠ other) :
    List.Disjoint row.references other.references := by
  have symmetric : Std.Symm fun row other : Row =>
      List.Disjoint row.references other.references := ⟨fun _ _ disjoint => disjoint.symm⟩
  exact shelves.unshared.forall stored otherStored different

/-- The keys of a table are its own. -/
theorem shelf_ids (shelves : Shelves Content) (table : Table) :
    ((shelves.shelf table).map Held.id).Nodup := by
  unfold shelf
  rw [List.map_map]
  have keys := shelves.keyed.sublist
    ((List.filter_sublist (p := fun row => row.table = table)).map Row.key)
  refine List.Nodup.of_map (fun id => (table, id)) ?_
  rw [List.map_map]
  have same : (shelves.rows.filter fun row => row.table = table).map Row.key =
      (shelves.rows.filter fun row => row.table = table).map
        ((fun id => (table, id)) ∘ Held.id ∘ Row.held) := by
    refine List.map_congr_left fun row member => ?_
    exact Prod.ext (of_decide_eq_true (List.mem_filter.mp member).2) rfl
  exact same ▸ keys

theorem shelf_nodup (shelves : Shelves Content) (table : Table) :
    (shelves.shelf table).Nodup := (shelves.shelf_ids table).of_map

/-- What is on a shelf is a row of the table. -/
theorem mem_shelf {shelves : Shelves Content} {table : Table} {held : Held} :
    held ∈ shelves.shelf table ↔
      ∃ row ∈ shelves.rows, row.table = table ∧ row.held = held := by
  simp only [shelf, List.mem_map, List.mem_filter, decide_eq_true_eq, and_assoc]

end Shelves

end Palette.Archives
