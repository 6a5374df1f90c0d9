import Palette.Archives.Tables
import Palette.Load.PrunedRuns

/-!
# Pruning missed archives

What could not be archived is given up once something newer of the same workbook or data source
waits to be archived: one statement for each table deletes the rows that are not archived and
not the newest of their parent. Rows without a parent count as those of one parent; where such
a row is the newest one, its age may spare rows of that age, and it may be spared itself. A row
whose url is NULL is neither archived nor waiting.
-/

namespace Palette.Archives

open Palette.Foundation

variable {Content : Type}

/-- The columns of a table that its prune statement reads. -/
def missedColumns : Sql.Columns Held Nat where
  group := Held.parent
  age := Held.age
  counts held := held.archived.map not

/-- The prune statement of a table, with the number of the rows that it deleted. -/
def pruneTable (table : Table) (shelves : Shelves Content) : Shelves Content × Nat :=
  let shelf := shelves.shelf table
  (shelves.keep fun row => !(row.table = table && missedColumns.deletes shelf row.held),
    (shelf.filter (missedColumns.deletes shelf)).length)

/-- `WorkbookManager._prune_missed_revisions`. -/
def WorkbookManager.pruneMissedRevisions (shelves : Shelves Content) : Shelves Content × Nat :=
  pruneTable .workbookUpdates shelves

/-- `DataSourceManager._prune_missed_revisions`. -/
def DataSourceManager.pruneMissedRevisions (shelves : Shelves Content) : Shelves Content × Nat :=
  pruneTable .datasourceUpdates shelves

/-- `ExtractRefreshManager._prune_all_missed_extracts`. -/
def ExtractRefreshManager.pruneAllMissedExtracts (shelves : Shelves Content) :
    Shelves Content × Nat :=
  let workbooks := pruneTable .workbookExtracts shelves
  let datasources := pruneTable .datasourceExtracts workbooks.1
  (datasources.1, workbooks.2 + datasources.2)

/-- The prune step that a table takes part in. -/
def prune : Table → Shelves Content → Shelves Content × Nat
  | .workbookUpdates => WorkbookManager.pruneMissedRevisions
  | .datasourceUpdates => DataSourceManager.pruneMissedRevisions
  | .workbookExtracts | .datasourceExtracts => ExtractRefreshManager.pruneAllMissedExtracts

/-- The tables that are pruned together. -/
def Table.prunedTogether : Table → List Table
  | .workbookUpdates => [.workbookUpdates]
  | .datasourceUpdates => [.datasourceUpdates]
  | .workbookExtracts | .datasourceExtracts => [.workbookExtracts, .datasourceExtracts]

/-- A row is known not to be archived. -/
def Held.Waits (held : Held) : Prop := held.archived = some false

instance (held : Held) : Decidable held.Waits := inferInstanceAs (Decidable (_ = _))

/-- A later row of the same parent waits. -/
def Superseded (shelf : List Held) (held : Held) : Prop :=
  ∃ later ∈ shelf, later.Waits ∧ later.parent = held.parent ∧ held.age < later.age

/-- The newest waiting row of another parent has the age of a row, and one of the two has no
parent. -/
def Spared (shelf : List Held) (held : Held) : Prop :=
  ∃ newest ∈ shelf, newest.Waits ∧ ¬ Superseded shelf newest ∧ newest.age = held.age ∧
    newest.parent ≠ held.parent ∧ (newest.parent = none ∨ held.parent = none)

/-- Some tables lose exactly the waiting rows that are superseded and not spared. -/
structure Prunes (tables : List Table) (before after : Shelves Content) : Prop where
  left : after.rows = before.rows.filter (· ∈ after.rows)
  gone : ∀ row ∈ before.rows, row ∉ after.rows ↔
    row.table ∈ tables ∧ row.held.Waits ∧ Superseded (before.shelf row.table) row.held ∧
      ¬ Spared (before.shelf row.table) row.held

/-! ## One table -/

/-- The statement counts the rows that wait. -/
theorem counts_iff (held : Held) : missedColumns.Counts held ↔ held.Waits := by
  unfold Sql.Columns.Counts missedColumns Held.Waits Sql.selects
  cases known : held.archived with
  | none => simp [known]
  | some archived => cases archived <;> simp [known]

theorem superseded_iff (shelf : List Held) (held : Held) :
    missedColumns.Superseded shelf held ↔ Superseded shelf held := by
  simp only [Sql.Columns.Superseded, counts_iff]
  rfl

/-- The newest rows are those that are not superseded. -/
theorem isNewest_iff (shelf : List Held) (held : Held) :
    missedColumns.IsNewest shelf held ↔
      held ∈ shelf ∧ held.Waits ∧ ¬ Superseded shelf held := by
  simp only [Sql.Columns.IsNewest, counts_iff, Superseded, not_exists, not_and, Nat.not_lt]
  rfl

theorem spared_iff (shelf : List Held) (held : Held) :
    missedColumns.Spared shelf held ↔ Spared shelf held := by
  simp only [Sql.Columns.Spared, isNewest_iff, Spared, and_assoc]
  rfl

/-- What the statement deletes on a shelf. -/
theorem deletes_iff {shelf : List Held} {held : Held} (present : held ∈ shelf) :
    missedColumns.deletes shelf held = true ↔
      held.Waits ∧ Superseded shelf held ∧ ¬ Spared shelf held := by
  rw [Sql.Columns.deletes_iff present, counts_iff, superseded_iff, spared_iff]

/-- A statement prunes its table. -/
theorem pruneTable_prunes (table : Table) (before : Shelves Content) :
    Prunes [table] before (pruneTable table before).1 where
  left := by
    refine List.filter_congr fun row stored => ?_
    rw [Bool.eq_iff_iff, decide_eq_true_eq]
    simp only [pruneTable, Shelves.keep, List.mem_filter, stored, true_and]
  gone row stored := by
    have decides : row ∉ (pruneTable table before).1.rows ↔
        row.table = table ∧ missedColumns.deletes (before.shelf table) row.held = true := by
      simp [pruneTable, Shelves.keep, stored]
    rw [decides, List.mem_singleton]
    refine and_congr_right fun here => ?_
    subst here
    exact deletes_iff (Shelves.mem_shelf.mpr ⟨row, stored, rfl, rfl⟩)

/-- A statement leaves the other tables. -/
theorem Prunes.shelf {tables : List Table} {before after : Shelves Content}
    (prunes : Prunes tables before after) {table : Table} (elsewhere : table ∉ tables) :
    after.shelf table = before.shelf table := by
  unfold Shelves.shelf
  rw [prunes.left, List.filter_filter]
  refine congrArg (List.map Row.held) (List.filter_congr fun row stored => ?_)
  by_cases here : row.table = table
  · have stays : row ∈ after.rows := by
      by_contra missing
      exact elsewhere (here ▸ ((prunes.gone row stored).mp missing).1)
    simp [here, stays]
  · simp [here]

/-- Pruning different tables prunes both. -/
theorem Prunes.trans {first second : List Table} {before middle after : Shelves Content}
    (earlier : Prunes first before middle) (later : Prunes second middle after)
    (apart : List.Disjoint first second) : Prunes (first ++ second) before after where
  left := by
    conv_lhs => rw [later.left, earlier.left, List.filter_filter]
    refine List.filter_congr fun row _ => ?_
    rw [Bool.eq_iff_iff, Bool.and_eq_true, decide_eq_true_eq, decide_eq_true_eq]
    refine and_iff_left_of_imp fun left => ?_
    rw [later.left] at left
    exact List.mem_of_mem_filter left
  gone row stored := by
    by_cases left : row ∈ middle.rows
    · have notFirst := mt (earlier.gone row stored).mpr (not_not.mpr left)
      rw [later.gone row left, List.mem_append]
      by_cases inFirst : row.table ∈ first
      · have notSecond := apart inFirst
        simp only [inFirst, true_and] at notFirst
        simp only [inFirst, true_or, true_and]
        exact iff_of_false (fun inSecond => notSecond inSecond.1) notFirst
      · rw [earlier.shelf inFirst]
        simp only [inFirst, false_or]
    · have gone := (earlier.gone row stored).mp left
      refine iff_of_true (fun stays => left ?_) ⟨List.mem_append_left _ gone.1, gone.2⟩
      rw [later.left] at stays
      exact List.mem_of_mem_filter stays

/-- What a statement leaves of its table. -/
theorem pruneTable_shelf (table : Table) (before : Shelves Content) :
    (pruneTable table before).1.shelf table = missedColumns.rest (before.shelf table) := by
  unfold pruneTable Shelves.keep Shelves.shelf Sql.Columns.rest
  rw [List.filter_filter, List.filter_map, List.filter_filter]
  refine congrArg (List.map Row.held) (List.filter_congr fun row _ => ?_)
  by_cases here : row.table = table
  · simp [here]
  · simp [here]

/-- A statement deletes nothing of a table that was pruned. -/
theorem pruneTable_again {table : Table} {shelf : List Held} {shelves : Shelves Content}
    (pruned : shelves.shelf table = missedColumns.rest shelf) :
    pruneTable table shelves = (shelves, 0) := by
  have stays : ∀ held ∈ shelves.shelf table,
      missedColumns.deletes (shelves.shelf table) held = false := by
    intro held present
    have same := missedColumns.rest_rest shelf
    rw [← pruned] at same
    have kept := List.filter_eq_self.mp same held present
    rwa [Bool.not_eq_true'] at kept
  unfold pruneTable
  refine Prod.ext (shelves.keep_all fun row stored => ?_) ?_
  · by_cases here : row.table = table
    · rw [stays row.held (Shelves.mem_shelf.mpr ⟨row, stored, here, rfl⟩), Bool.and_false,
        Bool.not_false]
    · simp [here]
  · rw [List.length_eq_zero_iff, List.filter_eq_nil_iff]
    exact fun held present deleted => Bool.false_ne_true ((stays held present).symm.trans deleted)

/-! ## All tables -/

/-- The prune step of every table prunes the tables that take part. -/
theorem prune_prunes (table : Table) (before : Shelves Content) :
    Prunes table.prunedTogether before (prune table before).1 := by
  have extracts : Prunes [.workbookExtracts, .datasourceExtracts] before
      (ExtractRefreshManager.pruneAllMissedExtracts before).1 :=
    (pruneTable_prunes .workbookExtracts before).trans
      (pruneTable_prunes .datasourceExtracts _) (by simp)
  cases table with
  | workbookUpdates => exact pruneTable_prunes .workbookUpdates before
  | datasourceUpdates => exact pruneTable_prunes .datasourceUpdates before
  | workbookExtracts => exact extracts
  | datasourceExtracts => exact extracts

/-- A prune step after another one does nothing. -/
theorem prune_again (table : Table) (before : Shelves Content) :
    prune table (prune table before).1 = ((prune table before).1, 0) := by
  have extracts : ExtractRefreshManager.pruneAllMissedExtracts
      (ExtractRefreshManager.pruneAllMissedExtracts before).1 =
        ((ExtractRefreshManager.pruneAllMissedExtracts before).1, 0) := by
    have datasources := pruneTable_shelf .datasourceExtracts
      (pruneTable .workbookExtracts before).1
    have workbooks : (ExtractRefreshManager.pruneAllMissedExtracts before).1.shelf
        .workbookExtracts = missedColumns.rest (before.shelf .workbookExtracts) :=
      ((pruneTable_prunes .datasourceExtracts _).shelf (by simp)).trans
        (pruneTable_shelf .workbookExtracts before)
    simp only [ExtractRefreshManager.pruneAllMissedExtracts] at workbooks ⊢
    rw [pruneTable_again workbooks, pruneTable_again datasources]
    rfl
  cases table with
  | workbookUpdates => exact pruneTable_again (pruneTable_shelf .workbookUpdates before)
  | datasourceUpdates => exact pruneTable_again (pruneTable_shelf .datasourceUpdates before)
  | workbookExtracts => exact extracts
  | datasourceExtracts => exact extracts

/-- The tables lose exactly the waiting rows that are superseded. -/
def PrunesSuperseded (tables : List Table) (before after : Shelves Content) : Prop :=
  ∀ row ∈ before.rows, row ∉ after.rows ↔
    row.table ∈ tables ∧ row.held.Waits ∧ Superseded (before.shelf row.table) row.held

/-- Where no row of the tables is spared, they lose the rows that are superseded. -/
theorem Prunes.superseded {tables : List Table} {before after : Shelves Content}
    (prunes : Prunes tables before after)
    (unspared : ∀ row ∈ before.rows, row.table ∈ tables → row.held.Waits →
      ¬ Spared (before.shelf row.table) row.held) : PrunesSuperseded tables before after := by
  intro row stored
  rw [prunes.gone row stored]
  constructor
  · rintro ⟨listed, waits, superseded, -⟩
    exact ⟨listed, waits, superseded⟩
  · rintro ⟨listed, waits, superseded⟩
    exact ⟨listed, waits, superseded, unspared row stored listed waits⟩

/-- No row is spared where all that wait have a parent. -/
theorem unspared_of_parents {shelf : List Held}
    (parents : ∀ held ∈ shelf, held.Waits → held.parent ≠ none) {held : Held}
    (present : held ∈ shelf) (waits : held.Waits) : ¬ Spared shelf held := by
  rw [← spared_iff]
  exact Sql.Columns.unspared_of_grouped
    (fun other stored counts => parents other stored ((counts_iff other).mp counts)) present
    ((counts_iff held).mpr waits)

/-- No extract is spared: their numbers are their keys. -/
theorem unspared_extract {shelves : Shelves Content} {row : Row} (stored : row ∈ shelves.rows)
    (extract : row.table ∈ [Table.workbookExtracts, .datasourceExtracts]) :
    ¬ Spared (shelves.shelf row.table) row.held := by
  have numbered : ∀ held ∈ shelves.shelf row.table, held.age = held.id := by
    intro held present
    obtain ⟨other, -, here, rfl⟩ := Shelves.mem_shelf.mp present
    rw [← here] at extract
    cases other with
    | workbookUpdate entry => simp [Row.table] at extract
    | datasourceUpdate entry => simp [Row.table] at extract
    | workbookExtract entry => rfl
    | datasourceExtract entry => rfl
  rw [← spared_iff]
  refine Sql.Columns.unspared_of_unique (fun held present other otherPresent same => ?_)
    (Shelves.mem_shelf.mpr ⟨row, stored, rfl, rfl⟩)
  refine List.inj_on_of_nodup_map (shelves.shelf_ids row.table) present otherPresent ?_
  rw [← numbered held present, ← numbered other otherPresent]
  exact same

/-- Two waiting revisions of a workbook. -/
def twoRevisions : Shelves Nat where
  rows := [.workbookUpdate ⟨1, some 1, 10, some "", none, none⟩,
    .workbookUpdate ⟨2, some 1, 20, some "", none, none⟩]
  files := ⟨fun _ => none, Files.Catalogue.empty⟩
  asked := []
  keyed := by decide
  unshared := by simp [Row.references, Row.columns, List.reduceOption]
  listed := by decide

/-- Two waiting revisions of a workbook, and one of no workbook that has the age of the older
one. -/
def orphanedRevision : Shelves Nat where
  rows := [.workbookUpdate ⟨1, none, 10, some "", none, none⟩,
    .workbookUpdate ⟨2, some 1, 10, some "", none, none⟩,
    .workbookUpdate ⟨3, some 1, 20, some "", none, none⟩]
  files := ⟨fun _ => none, Files.Catalogue.empty⟩
  asked := []
  keyed := by decide
  unshared := by simp [Row.references, Row.columns, List.reduceOption]
  listed := by decide

end Palette.Archives
