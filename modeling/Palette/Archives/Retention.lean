import Mathlib
import Palette.Archives.Tables

/-!
# Retaining archives

After something was archived, each workbook and each data source keeps as many archives as are
to be retained. One query counts the archives of every parent; for each parent with too many
another one finds the oldest, which are then removed one by one: first the row, then its files.
Revisions are ordered by the time of their publication, extracts by their keys. Both kinds of
extracts are retained in the number that is set for those of workbooks.
-/

namespace Palette.Archives

open Palette.Commands (Failure)
open Palette.Files (Filing Store FileEntry Rotated Unlisted delfileByEntry)
open Palette.Foundation

/-- What is done with the tables. -/
abbrev Shelving (Content : Type) := Script (Shelves Content) Failure

/-- How the database orders what the queries find. -/
structure Queries where
  parents : AnyOrder (Option Nat)
  byAge : OldestFirst Held.age

variable {Content : Type}

section Retaining

variable (retention : Files.Retention) (queries : Queries)

/-- `FileManager.find_by_id`. -/
def findById (fileid : Option Nat) (rows : List FileEntry) : Option FileEntry :=
  rows.find? fun row => row.envid = retention.envid && some row.fileid = fileid

/-- `FileManager.remove_file_by_id`. Errors are only noted. -/
def removeFileById (fileid : Option Nat) : Filing Content PUnit := do
  match findById retention fileid (← get).rows with
  | none => return
  | some entry => let _ ← delfileByEntry retention entry

/-- A retain step asks for the removal of a file. -/
def removeFile (fileid : Option Nat) : Shelving Content PUnit := do
  modify fun shelves => shelves.asking fileid
  Script.within Shelves.files Shelves.withFiles (removeFileById retention fileid)

/-- The archives of a table. -/
def Shelves.archives (shelves : Shelves Content) (table : Table) : List Held :=
  (shelves.shelf table).filter fun held => Sql.selects held.archived

/-- Remove a row, and then its files. -/
def discard (table : Table) (held : Held) : Shelving Content PUnit := do
  modify fun shelves => shelves.keep fun row => !(row.table = table && row.held.id = held.id)
  held.files.forM (removeFile retention)

/-- Remove the archives of a parent that are too many. The result of the first query has the
number of its archives. -/
def retainParent (table : Table) (retainCount : Int) (result : Option Nat × Nat) :
    Shelving Content Nat := do
  let archives := (← get).archives table
  let rows := (queries.byAge.order (membersOf Held.parent archives result.1)).take
    (result.2 - retainCount).toNat
  rows.forM (discard retention table)
  return rows.length

/-- `ExtractRefreshManager._retain_some_obj`, and the part of `_retain_some` for workbooks and
for data sources after the count is read. -/
def retainSomeObj (table : Table) (retainCount : Int) : Shelving Content Nat := do
  let archives := (← get).archives table
  let results := excessive Held.parent queries.parents retainCount archives
  let removed ← results.mapM (retainParent retention queries table retainCount)
  return removed.sum

/-- `WorkbookManager._retain_some`. -/
def WorkbookManager.retainSome (retainCount : Int) : Shelving Content Nat :=
  if retainCount = 0 ∨ retainCount = -1 then return 0
  else retainSomeObj retention queries .workbookUpdates retainCount

/-- `DataSourceManager._retain_some`. -/
def DataSourceManager.retainSome (retainCount : Int) : Shelving Content Nat :=
  if retainCount = 0 ∨ retainCount = -1 then return 0
  else retainSomeObj retention queries .datasourceUpdates retainCount

/-- `ExtractRefreshManager._retain_some`. -/
def ExtractRefreshManager.retainSome (retainCount : Int) : Shelving Content Nat :=
  if retainCount = 0 ∨ retainCount = -1 then return 0
  else do
    let wbRemovedCount ← retainSomeObj retention queries .workbookExtracts retainCount
    let dsRemovedCount ← retainSomeObj retention queries .datasourceExtracts retainCount
    return wbRemovedCount + dsRemovedCount

/-- The retain step that a table takes part in. -/
def retainSome : Table → Int → Shelving Content Nat
  | .workbookUpdates => WorkbookManager.retainSome retention queries
  | .datasourceUpdates => DataSourceManager.retainSome retention queries
  | .workbookExtracts | .datasourceExtracts => ExtractRefreshManager.retainSome retention queries

end Retaining

/-- The tables that take part in a retain step together. -/
def Table.together : Table → List Table
  | .workbookUpdates => [.workbookUpdates]
  | .datasourceUpdates => [.datasourceUpdates]
  | .workbookExtracts | .datasourceExtracts => [.workbookExtracts, .datasourceExtracts]

/-- Whatever fails when a file is deleted is reported: agents and clouds raise `IOError`. -/
def Reports (retention : Files.Retention) : Prop :=
  ∀ entry, ¬ (retention.deletionOf entry).onAgent.Raises ∧
    ∀ failure, (retention.deletionOf entry).inCloud = .error failure → failure.isIOError = true

/-- The rows that are gone. -/
def gone (before after : Shelves Content) : List Row := before.rows.filter (· ∉ after.rows)

/-- Some tables keep the newest archives of each parent, and nothing else is touched. -/
structure KeepsNewest (tables : List Table) (count removed : Nat)
    (before after : Shelves Content) : Prop where
  left : after.rows = before.rows.filter (· ∈ after.rows)
  number : ∀ table ∈ tables, ∀ parent,
    (membersOf Held.parent (after.archives table) parent).length =
      min count (membersOf Held.parent (before.archives table) parent).length
  newest : ∀ table ∈ tables, ∀ kept ∈ after.archives table, ∀ gone ∈ before.archives table,
    gone.parent = kept.parent → gone ∉ after.archives table → gone.age ≤ kept.age
  touched : ∀ row ∈ gone before after, row.table ∈ tables ∧
    Sql.selects row.held.archived = true ∧
    count < (membersOf Held.parent (before.archives row.table) row.held.parent).length
  asked : ∃ files, after.asked = before.asked ++ files ∧
    files.Perm ((gone before after).flatMap fun row => row.held.files)
  counted : removed = (gone before after).length

/-! ## Removing one file -/

section Discarding

variable {retention : Files.Retention} {queries : Queries}

/-- The deletion of what a row names returns, if whatever fails is reported. -/
theorem delfileByEntry_completes (reports : Reports retention) (entry : FileEntry)
    (store : Store Content) :
    (delfileByEntry retention entry).Completes store fun _ final =>
      Rotated retention [entry] store final := by
  have returns : (delfileByEntry retention entry).Completes store fun _ _ => True := by
    unfold delfileByEntry
    cases entry.storageType with
    | cloud =>
      simp only [Files.delfileInCloud]
      cases answer : (retention.deletionOf entry).inCloud with
      | ok _ => split <;> exact trivial
      | error failure =>
        have reported := (reports entry).2 failure answer
        simp only [reported, if_true]
        split <;> exact trivial
    | vol =>
      simp only [Files.delfileOnAgent]
      cases retention.volumes.byVolid entry.storageid with
      | none => exact trivial
      | some volume =>
        dsimp only
        split
        · rw [Script.completes_bind]
          exact (Files.deleteVolFile_ends volume.agentid entry.name _ store).mono
            (fun _ _ _ => trivial) fun _ _ raises => (reports entry).1 raises
        · exact trivial
  exact (returns.and (Files.delfileByEntry_rotated entry store)).mono
    (fun _ _ both => both.2) fun _ _ both => both.1

/-- Removing a file leaves the others in the catalogue. -/
theorem removeFileById_completes (reports : Reports retention) (fileid : Option Nat)
    (store : Store Content) :
    (removeFileById retention fileid).Completes store fun _ final =>
      ∀ other, some other ≠ fileid → Lists store other → Lists final other := by
  unfold removeFileById
  rw [Script.completes_bind, Script.completes_get]
  cases found : findById retention fileid store.rows with
  | none => exact fun _ _ listed => listed
  | some entry =>
    have named : some entry.fileid = fileid := by
      have fits := List.find?_some found
      simp only [Bool.and_eq_true, decide_eq_true_eq] at fits
      exact fits.2
    rw [Script.completes_bind]
    refine (delfileByEntry_completes reports entry store).mono (fun _ final rotated => ?_)
      fun _ _ raised => raised
    rintro other different ⟨row, stored, rfl⟩
    refine ⟨row, (rotated.mem_rows row).mpr ⟨stored, ?_⟩, rfl⟩
    rintro ⟨victim, listed, -, -, same⟩
    rw [List.mem_singleton.mp listed] at same
    exact different (named ▸ congrArg some same)

/-- Where no row names a file, its removal touches no row. -/
theorem removeFile_completes (reports : Reports retention) {fileid : Option Nat}
    {shelves : Shelves Content}
    (unnamed : ∀ row ∈ shelves.rows, ∀ other ∈ row.references, some other ≠ fileid) :
    (removeFile retention fileid).Completes shelves fun _ final =>
      final.rows = shelves.rows ∧ final.asked = shelves.asked ++ [fileid] := by
  unfold removeFile
  rw [Script.completes_bind, Script.completes_modify]
  refine Script.ends_within.mpr ?_
  refine (removeFileById_completes reports fileid shelves.files).mono (fun _ final lists => ?_)
    fun _ _ raised => raised
  refine ⟨List.filter_eq_self.mpr fun row stored => ?_, rfl⟩
  rw [List.all_eq_true]
  intro other named
  exact decide_eq_true (lists other (unnamed row stored other named)
    (shelves.listed row stored other named))

/-- Where no row names one of the files, their removal touches no row. -/
theorem removeFiles_completes (reports : Reports retention) {files : List (Option Nat)}
    {shelves : Shelves Content}
    (unnamed : ∀ row ∈ shelves.rows, ∀ other ∈ row.references, some other ∉ files) :
    (files.forM (removeFile retention)).Completes shelves fun _ final =>
      final.rows = shelves.rows ∧ final.asked = shelves.asked ++ files := by
  induction files generalizing shelves with
  | nil => exact ⟨rfl, (List.append_nil _).symm⟩
  | cons fileid rest inductionHypothesis =>
    rw [List.forM_eq_forM, List.forM_cons, Script.completes_bind]
    refine (removeFile_completes reports fun row stored other named same =>
      unnamed row stored other named (same ▸ List.mem_cons_self)).mono
        (fun _ middle first => ?_) fun _ _ raised => raised
    refine (inductionHypothesis fun row stored other named listed =>
      unnamed row (first.1 ▸ stored) other named (List.mem_cons_of_mem _ listed)).mono
        (fun _ final second => ?_) fun _ _ raised => raised
    refine ⟨second.1.trans first.1, ?_⟩
    rw [second.2, first.2, List.append_assoc, List.singleton_append]

/-! ## Removing rows -/

/-- What removing some rows of a table does. -/
structure Removed (table : Table) (victims : List Held) (before after : Shelves Content) :
    Prop where
  rows : after.rows = before.rows.filter fun row =>
    !(row.table = table && victims.any fun victim => row.held.id = victim.id)
  asked : after.asked = before.asked ++ victims.flatMap Held.files

/-- Removing nothing changes neither the rows nor what was asked. -/
theorem Removed.refl (table : Table) (shelves : Shelves Content) :
    Removed table [] shelves shelves where
  rows := (List.filter_eq_self.mpr fun _ _ => by simp).symm
  asked := (List.append_nil _).symm

/-- Removing some rows and then others removes all of them. -/
theorem Removed.trans {table : Table} {first second : List Held}
    {before middle after : Shelves Content} (earlier : Removed table first before middle)
    (later : Removed table second middle after) :
    Removed table (first ++ second) before after where
  rows := by
    rw [later.rows, earlier.rows, List.filter_filter]
    refine List.filter_congr fun row _ => ?_
    rw [List.any_append, Bool.and_or_distrib_left, Bool.not_or, Bool.and_comm]
  asked := by
    rw [later.asked, earlier.asked, List.append_assoc, List.flatMap_append]

/-- A row of the table goes with the victim that it is. -/
theorem named_iff {table : Table} {victims : List Held} {shelves : Shelves Content}
    (stored : ∀ victim ∈ victims, victim ∈ shelves.shelf table) {held : Held}
    (present : held ∈ shelves.shelf table) :
    (victims.any fun victim => held.id = victim.id) = true ↔ held ∈ victims := by
  rw [List.any_eq_true]
  constructor
  · rintro ⟨victim, listed, same⟩
    have itself := List.inj_on_of_nodup_map (shelves.shelf_ids table) present
      (stored victim listed) (of_decide_eq_true same)
    exact itself ▸ listed
  · intro listed
    exact ⟨held, listed, decide_eq_true rfl⟩

/-- The other rows of the table stay on the shelf. -/
theorem Removed.shelf {table : Table} {victims : List Held} {before after : Shelves Content}
    (removed : Removed table victims before after)
    (stored : ∀ victim ∈ victims, victim ∈ before.shelf table) :
    after.shelf table = (before.shelf table).filter (· ∉ victims) := by
  have own : after.shelf table = (before.shelf table).filter fun held =>
      !(victims.any fun victim => held.id = victim.id) := by
    unfold Shelves.shelf
    rw [removed.rows, List.filter_filter, List.filter_map, List.filter_filter]
    refine congrArg (List.map Row.held) (List.filter_congr fun row _ => ?_)
    by_cases here : row.table = table
    · simp [here]
    · simp [here]
  rw [own]
  refine List.filter_congr fun held present => ?_
  rw [Bool.eq_iff_iff, Bool.not_eq_true', ← Bool.not_eq_true, named_iff stored present,
    decide_eq_true_eq]

/-- The other archives stay. -/
theorem Removed.archives {table : Table} {victims : List Held} {before after : Shelves Content}
    (removed : Removed table victims before after)
    (stored : ∀ victim ∈ victims, victim ∈ before.shelf table) :
    after.archives table = (before.archives table).filter (· ∉ victims) := by
  unfold Shelves.archives
  rw [removed.shelf stored, List.filter_filter, List.filter_filter]
  exact List.filter_congr fun _ _ => Bool.and_comm _ _

/-- The rows of the other tables stay. -/
theorem Removed.other {table other : Table} {victims : List Held}
    {before after : Shelves Content} (removed : Removed table victims before after)
    (different : other ≠ table) : after.shelf other = before.shelf other := by
  unfold Shelves.shelf
  rw [removed.rows, List.filter_filter]
  refine congrArg (List.map Row.held) (List.filter_congr fun row _ => ?_)
  by_cases here : row.table = other
  · simp [here, different]
  · simp [here]

/-- What is gone are the victims. -/
theorem Removed.held_gone {table : Table} {victims : List Held} {before after : Shelves Content}
    (removed : Removed table victims before after)
    (stored : ∀ victim ∈ victims, victim ∈ before.shelf table) :
    (gone before after).map Row.held = (before.shelf table).filter (· ∈ victims) := by
  unfold gone Shelves.shelf
  rw [List.filter_map, List.filter_filter]
  refine congrArg (List.map Row.held) (List.filter_congr fun row present => ?_)
  by_cases here : row.table = table
  · have listed := named_iff stored (Shelves.mem_shelf.mpr ⟨row, present, here, rfl⟩)
    rw [Bool.eq_iff_iff]
    simp [removed.rows, present, here, ← listed]
  · simp [removed.rows, present, here]

/-- Removing a row and its files removes that row. -/
theorem discard_completes (reports : Reports retention) {table : Table} {held : Held}
    {shelves : Shelves Content} (stored : held ∈ shelves.shelf table) :
    (discard retention table held).Completes shelves fun _ final =>
      Removed table [held] shelves final := by
  obtain ⟨row, present, here, rfl⟩ := Shelves.mem_shelf.mp stored
  unfold discard
  rw [Script.completes_bind, Script.completes_modify]
  have unnamed : ∀ other ∈ (shelves.keep fun other =>
      !(other.table = table && other.held.id = row.held.id)).rows,
      ∀ fileid ∈ other.references, some fileid ∉ row.held.files := by
    intro other left fileid named listed
    obtain ⟨otherStored, spared⟩ := List.mem_filter.mp left
    have different : row ≠ other := by
      rintro rfl
      simp [here] at spared
    exact shelves.apart present otherStored different (Row.referenced listed) named
  refine (removeFiles_completes reports unnamed).mono (fun _ final removed => ?_)
    fun _ _ raised => raised
  refine ⟨removed.1.trans (List.filter_congr fun other _ => ?_), ?_⟩
  · simp
  · rw [removed.2, List.flatMap_singleton]
    rfl

/-- Removing some rows one after another removes all of them. -/
theorem discards_complete (reports : Reports retention) {table : Table} {victims : List Held}
    {shelves : Shelves Content} (stored : ∀ victim ∈ victims, victim ∈ shelves.shelf table)
    (distinct : victims.Nodup) :
    (victims.forM (discard retention table)).Completes shelves fun _ final =>
      Removed table victims shelves final := by
  induction victims generalizing shelves with
  | nil => exact .refl table shelves
  | cons victim rest inductionHypothesis =>
    obtain ⟨fresh, restDistinct⟩ := List.nodup_cons.mp distinct
    rw [List.forM_eq_forM, List.forM_cons, Script.completes_bind]
    refine (discard_completes reports (stored victim List.mem_cons_self)).mono
      (fun _ middle first => ?_) fun _ _ raised => raised
    have restStored : ∀ other ∈ rest, other ∈ middle.shelf table := by
      intro other listed
      have alone : ∀ held ∈ [victim], held ∈ shelves.shelf table := by
        simpa using stored victim List.mem_cons_self
      rw [first.shelf alone, List.mem_filter, decide_eq_true_eq, List.mem_singleton]
      exact ⟨stored other (List.mem_cons_of_mem _ listed), fun same => fresh (same ▸ listed)⟩
    exact (inductionHypothesis restStored restDistinct).mono
      (fun _ final second => first.trans second) fun _ _ raised => raised

/-! ## The oldest archives of every parent -/

/-- The archives are on the shelf. -/
theorem mem_shelf_of_mem_archives {shelves : Shelves Content} {table : Table} {held : Held}
    (archived : held ∈ shelves.archives table) : held ∈ shelves.shelf table :=
  List.mem_of_mem_filter archived

theorem archives_nodup (shelves : Shelves Content) (table : Table) :
    (shelves.archives table).Nodup := (shelves.shelf_nodup table).filter _

/-- The archives of a parent that are too many are removed. -/
theorem retainParent_completes (reports : Reports retention) {table : Table} {count : Nat}
    {result : Option Nat × Nat} {shelves : Shelves Content}
    (counts : result.2 = (membersOf Held.parent (shelves.archives table) result.1).length) :
    (retainParent retention queries table count result).Completes shelves fun removed final =>
      Removed table (queries.byAge.oldest count
          (membersOf Held.parent (shelves.archives table) result.1)) shelves final ∧
        removed = (queries.byAge.oldest count
          (membersOf Held.parent (shelves.archives table) result.1)).length := by
  have found : (queries.byAge.order
      (membersOf Held.parent (shelves.archives table) result.1)).take
        ((result.2 : Int) - count).toNat =
      queries.byAge.oldest count (membersOf Held.parent (shelves.archives table) result.1) := by
    rw [OldestFirst.oldest, counts]
    congr 1
    omega
  unfold retainParent
  rw [Script.completes_bind, Script.completes_get]
  dsimp only
  rw [found, Script.completes_bind]
  refine (discards_complete reports (fun victim isOldest => ?_) ?_).mono
    (fun _ final removed => ⟨removed, rfl⟩) fun _ _ raised => raised
  · exact mem_shelf_of_mem_archives (List.mem_of_mem_filter
      (queries.byAge.mem_of_mem_oldest isOldest))
  · exact queries.byAge.nodup_oldest ((archives_nodup shelves table).filter _)

/-- The archives of other parents are not touched. -/
theorem Removed.members {table : Table} {victims : List Held} {before after : Shelves Content}
    (removed : Removed table victims before after) {parent : Option Nat}
    (stored : ∀ victim ∈ victims, victim ∈ before.shelf table ∧ victim.parent ≠ parent) :
    membersOf Held.parent (after.archives table) parent =
      membersOf Held.parent (before.archives table) parent := by
  unfold membersOf
  rw [removed.archives fun victim listed => (stored victim listed).1, List.filter_filter]
  refine List.filter_congr fun held _ => ?_
  by_cases belongs : held.parent = parent
  · simp only [belongs, decide_true, Bool.true_and, decide_eq_true_eq]
    exact fun listed => (stored held listed).2 belongs
  · simp [belongs]

/-- The results are worked off one after another. The archives of the parents that are left
are those that were counted. -/
theorem retainParents_complete (reports : Reports retention) {table : Table} {count : Nat}
    {results : List (Option Nat × Nat)} {members : Option Nat → List Held}
    {shelves : Shelves Content} (distinct : (results.map Prod.fst).Nodup)
    (counts : ∀ result ∈ results,
      membersOf Held.parent (shelves.archives table) result.1 = members result.1 ∧
        result.2 = (members result.1).length) :
    (results.mapM (retainParent retention queries table count)).Completes shelves
      fun removed final =>
        Removed table (results.flatMap fun result => queries.byAge.oldest count (members result.1))
          shelves final ∧
        removed.sum =
          (results.flatMap fun result => queries.byAge.oldest count (members result.1)).length := by
  induction results generalizing shelves with
  | nil => exact ⟨.refl table shelves, rfl⟩
  | cons result rest inductionHypothesis =>
    obtain ⟨same, number⟩ := counts result List.mem_cons_self
    obtain ⟨fresh, restDistinct⟩ := List.nodup_cons.mp distinct
    rw [List.mapM_cons, Script.completes_bind]
    refine (retainParent_completes reports (by rw [same, number])).mono
      (fun removed middle first => ?_) fun _ _ raised => raised
    rw [same] at first
    have restCounts : ∀ other ∈ rest,
        membersOf Held.parent (middle.archives table) other.1 = members other.1 ∧
          other.2 = (members other.1).length := by
      intro other listed
      obtain ⟨otherSame, otherNumber⟩ := counts other (List.mem_cons_of_mem _ listed)
      refine ⟨(first.1.members fun victim isOldest => ?_).trans otherSame, otherNumber⟩
      have belongs := queries.byAge.mem_of_mem_oldest isOldest
      rw [← same] at belongs
      obtain ⟨archived, own⟩ := List.mem_filter.mp belongs
      refine ⟨mem_shelf_of_mem_archives archived, fun others => fresh ?_⟩
      rw [← of_decide_eq_true own, others]
      exact List.mem_map_of_mem listed
    rw [Script.completes_bind]
    refine (inductionHypothesis restDistinct restCounts).mono (fun others final second => ?_)
      fun _ _ raised => raised
    rw [Script.completes_pure]
    refine ⟨first.1.trans second.1, ?_⟩
    rw [List.sum_cons, List.flatMap_cons, List.length_append, first.2, second.2]

/-- The archives of a shelf that are outdated. -/
def Queries.victims (queries : Queries) (count : Nat) (shelf : List Held) : List Held :=
  outdated queries.byAge Held.parent queries.parents count
    (shelf.filter fun held => Sql.selects held.archived)

/-- What is outdated is on the shelf. -/
theorem Queries.victims_stored (queries : Queries) {count : Nat} {shelf : List Held} :
    ∀ victim ∈ queries.victims count shelf, victim ∈ shelf :=
  fun _ listed => List.mem_of_mem_filter (mem_of_mem_outdated _ listed)

/-- A retain step removes what is outdated. -/
theorem retainSomeObj_completes (reports : Reports retention) (table : Table) (count : Nat)
    (shelves : Shelves Content) :
    (retainSomeObj retention queries table count).Completes shelves fun removed final =>
      Removed table (queries.victims count (shelves.shelf table)) shelves final ∧
        removed = (queries.victims count (shelves.shelf table)).length := by
  unfold retainSomeObj
  rw [Script.completes_bind, Script.completes_get]
  dsimp only
  rw [Script.completes_bind]
  exact retainParents_complete reports (nodup_excessive ..) fun result listed =>
    ⟨rfl, (mem_excessive.mp listed).2.1⟩

end Discarding

end Palette.Archives
