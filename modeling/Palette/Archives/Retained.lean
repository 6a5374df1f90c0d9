import Palette.Archives.Retention

/-!
# Retention keeps the newest archives

What a retain step leaves of each parent are its newest archives, as many as are to be retained
or all of them; the files that it asks to remove are those of the rows that are gone. It is the
same for all tables: two shelves that look the same are left the same.
-/

namespace Palette.Archives

open Palette.Commands (Failure)
open Palette.Foundation

variable {Content : Type} {retention : Files.Retention} {queries : Queries}

/-! ## One table -/

/-- What is left was there, in its order. -/
theorem Removed.left {table : Table} {victims : List Held} {before after : Shelves Content}
    (removed : Removed table victims before after) :
    after.rows = before.rows.filter (· ∈ after.rows) := by
  conv_lhs => rw [removed.rows]
  refine List.filter_congr fun row present => ?_
  rw [removed.rows, Bool.eq_iff_iff, decide_eq_true_eq, List.mem_filter, and_iff_right present]

/-- The outdated archives of a table. -/
theorem victims_eq (queries : Queries) (count : Nat) (shelves : Shelves Content) (table : Table) :
    queries.victims count (shelves.shelf table) =
      outdated queries.byAge Held.parent queries.parents count (shelves.archives table) := rfl

/-- Without what is outdated, each parent has its newest archives. -/
theorem Removed.newest {table : Table} {count : Nat} {before after : Shelves Content}
    (removed : Removed table (queries.victims count (before.shelf table)) before after)
    (parent : Option Nat) :
    (membersOf Held.parent (after.archives table) parent).Perm
      (queries.byAge.newest count (membersOf Held.parent (before.archives table) parent)) := by
  rw [removed.archives queries.victims_stored, victims_eq]
  exact membersOf_filter_outdated queries.byAge (archives_nodup before table) parent

/-- What is gone is what is outdated. -/
theorem Removed.held_gone_perm {table : Table} {count : Nat} {before after : Shelves Content}
    (removed : Removed table (queries.victims count (before.shelf table)) before after) :
    ((gone before after).map Row.held).Perm (queries.victims count (before.shelf table)) := by
  have distinct : (queries.victims count (before.shelf table)).Nodup :=
    nodup_outdated queries.byAge ((before.shelf_nodup table).filter _)
  rw [removed.held_gone queries.victims_stored]
  refine (List.perm_ext_iff_of_nodup ((before.shelf_nodup table).filter _) distinct).mpr
    fun held => ?_
  rw [List.mem_filter, decide_eq_true_eq]
  exact and_iff_right_of_imp (queries.victims_stored held)

/-- Removing what is outdated keeps the newest archives. -/
theorem Removed.keepsNewest {table : Table} {count : Nat} {before after : Shelves Content}
    (removed : Removed table (queries.victims count (before.shelf table)) before after) :
    KeepsNewest [table] count (queries.victims count (before.shelf table)).length before after where
  left := removed.left
  number here listed parent := by
    rw [List.mem_singleton.mp listed, (removed.newest parent).length_eq,
      queries.byAge.length_newest]
  newest here listed kept isKept other archived same missing := by
    rw [List.mem_singleton.mp listed] at isKept archived missing
    have isNewest := (removed.newest kept.parent).mem_iff.mp
      (List.mem_filter.mpr ⟨isKept, decide_eq_true rfl⟩)
    have isOutdated : other ∈ queries.victims count (before.shelf table) := by
      rw [removed.archives queries.victims_stored, List.mem_filter] at missing
      simpa [archived] using missing
    have isOldest := (mem_outdated queries.byAge).mp isOutdated
    rw [same] at isOldest
    exact queries.byAge.oldest_le_newest isOldest isNewest
  touched row isGone := by
    obtain ⟨stored, missing⟩ := List.mem_filter.mp isGone
    have here : row.table = table := by
      by_contra elsewhere
      simp [removed.rows, stored, elsewhere] at missing
    have isOutdated := removed.held_gone_perm.mem_iff.mp (List.mem_map_of_mem isGone)
    refine ⟨List.mem_singleton.mpr here, ?_, ?_⟩
    · exact (List.mem_filter.mp (mem_of_mem_outdated _ isOutdated)).2
    · rw [here]
      exact few_of_mem_outdated queries.byAge isOutdated
  asked := by
    have files := removed.held_gone_perm.flatMap_right Held.files
    rw [List.flatMap_map] at files
    exact ⟨_, removed.asked, files.symm⟩
  counted := by
    rw [← removed.held_gone_perm.length_eq, List.length_map]

/-! ## Two tables -/

/-- A table that does not take part keeps its shelf. -/
theorem KeepsNewest.shelf {tables : List Table} {count removed : Nat}
    {before after : Shelves Content} (keeps : KeepsNewest tables count removed before after)
    {table : Table} (elsewhere : table ∉ tables) : after.shelf table = before.shelf table := by
  unfold Shelves.shelf
  rw [keeps.left, List.filter_filter]
  refine congrArg (List.map Row.held) (List.filter_congr fun row stored => ?_)
  by_cases here : row.table = table
  · have stays : row ∈ after.rows := by
      by_contra missing
      have touched := keeps.touched row (List.mem_filter.mpr ⟨stored, decide_eq_true missing⟩)
      exact elsewhere (here ▸ touched.1)
    simp [here, stays]
  · simp [here]

theorem KeepsNewest.archives {tables : List Table} {count removed : Nat}
    {before after : Shelves Content} (keeps : KeepsNewest tables count removed before after)
    {table : Table} (elsewhere : table ∉ tables) :
    after.archives table = before.archives table :=
  congrArg (List.filter _) (keeps.shelf elsewhere)

/-- What is left after two steps was left after the first one. -/
theorem KeepsNewest.mem {tables : List Table} {count removed : Nat}
    {before after : Shelves Content} (keeps : KeepsNewest tables count removed before after)
    {row : Row} (left : row ∈ after.rows) : row ∈ before.rows := by
  rw [keeps.left] at left
  exact List.mem_of_mem_filter left

/-- What is gone after two steps went with the first or with the second one. -/
theorem gone_perm {before middle after : Shelves Content}
    (first : middle.rows = before.rows.filter (· ∈ middle.rows))
    (second : after.rows = middle.rows.filter (· ∈ after.rows)) :
    (gone before after).Perm (gone before middle ++ gone middle after) := by
  have distinct (shelves : Shelves Content) : shelves.rows.Nodup := shelves.keyed.of_map
  have apart : (gone before middle ++ gone middle after).Nodup := by
    refine List.nodup_append'.mpr ⟨(distinct before).filter _, (distinct middle).filter _, ?_⟩
    intro row inFirst inSecond
    exact of_decide_eq_true (List.mem_filter.mp inFirst).2 (List.mem_filter.mp inSecond).1
  refine (List.perm_ext_iff_of_nodup ((distinct before).filter _) apart).mpr fun row => ?_
  have earlier : row ∈ middle.rows → row ∈ before.rows := fun left => by
    rw [first] at left
    exact List.mem_of_mem_filter left
  have later : row ∈ after.rows → row ∈ middle.rows := fun left => by
    rw [second] at left
    exact List.mem_of_mem_filter left
  simp only [gone, List.mem_append, List.mem_filter, decide_eq_true_eq]
  tauto

/-- Two steps on different tables keep the newest archives of both. -/
theorem KeepsNewest.trans {first second : List Table} {count removed removedLater : Nat}
    {before middle after : Shelves Content}
    (earlier : KeepsNewest first count removed before middle)
    (later : KeepsNewest second count removedLater middle after)
    (apart : List.Disjoint first second) :
    KeepsNewest (first ++ second) count (removed + removedLater) before after := by
  have gonePerm := gone_perm earlier.left later.left
  have before_eq {table : Table} (inSecond : table ∈ second) :
      middle.archives table = before.archives table :=
    earlier.archives fun inFirst => apart inFirst inSecond
  have after_eq {table : Table} (inFirst : table ∈ first) :
      after.archives table = middle.archives table := later.archives (apart inFirst)
  constructor
  case left =>
    conv_lhs => rw [later.left, earlier.left, List.filter_filter]
    refine List.filter_congr fun row _ => ?_
    rw [Bool.eq_iff_iff, Bool.and_eq_true, decide_eq_true_eq, decide_eq_true_eq]
    exact and_iff_left_of_imp later.mem
  case number =>
    intro table listed parent
    rcases List.mem_append.mp listed with inFirst | inSecond
    · rw [after_eq inFirst, earlier.number table inFirst]
    · rw [later.number table inSecond, before_eq inSecond]
  case newest =>
    intro table listed
    rcases List.mem_append.mp listed with inFirst | inSecond
    · rw [after_eq inFirst]
      exact earlier.newest table inFirst
    · rw [← before_eq inSecond]
      exact later.newest table inSecond
  case touched =>
    intro row isGone
    rcases List.mem_append.mp (gonePerm.mem_iff.mp isGone) with inFirst | inSecond
    · obtain ⟨listed, rest⟩ := earlier.touched row inFirst
      exact ⟨List.mem_append_left _ listed, rest⟩
    · obtain ⟨listed, rest⟩ := later.touched row inSecond
      rw [before_eq listed] at rest
      exact ⟨List.mem_append_right _ listed, rest⟩
  case asked =>
    obtain ⟨files, asked, perm⟩ := earlier.asked
    obtain ⟨filesLater, askedLater, permLater⟩ := later.asked
    refine ⟨files ++ filesLater, by rw [askedLater, asked, List.append_assoc], ?_⟩
    refine (perm.append permLater).trans ?_
    rw [← List.flatMap_append]
    exact (gonePerm.flatMap_right _).symm
  case counted =>
    rw [earlier.counted, later.counted, gonePerm.length_eq, List.length_append]

/-! ## The retain steps -/

/-- What a retain step leaves of a shelf. -/
def Queries.retained (queries : Queries) (count : Nat) (shelf : List Held) : List Held :=
  shelf.filter (· ∉ queries.victims count shelf)

/-- The retain step of a table leaves what is retained of its shelf, and keeps the newest
archives of the tables that take part. -/
theorem retainSome_completes (reports : Reports retention) (table : Table) {count : Nat}
    (some : 1 ≤ count) (before : Shelves Content) :
    (retainSome retention queries table count).Completes before fun removed after =>
      KeepsNewest table.together count removed before after ∧
        after.shelf table = queries.retained count (before.shelf table) := by
  have enabled : ¬ ((count : Int) = 0 ∨ (count : Int) = -1) := by omega
  have single (here : Table) (shelves : Shelves Content) :=
    @retainSomeObj_completes _ _ queries reports here count shelves
  have extracts :
      (ExtractRefreshManager.retainSome retention queries count).Completes before
        fun removed after =>
          KeepsNewest [.workbookExtracts, .datasourceExtracts] count removed before after ∧
          after.shelf .workbookExtracts =
            queries.retained count (before.shelf .workbookExtracts) ∧
          after.shelf .datasourceExtracts =
            queries.retained count (before.shelf .datasourceExtracts) := by
    unfold ExtractRefreshManager.retainSome
    rw [if_neg enabled, Script.completes_bind]
    refine (single .workbookExtracts before).mono (fun removed middle first => ?_)
      fun _ _ raised => raised
    rw [Script.completes_bind]
    refine (single .datasourceExtracts middle).mono (fun removedLater after second => ?_)
      fun _ _ raised => raised
    have different : Table.workbookExtracts ≠ .datasourceExtracts := by decide
    rw [Script.completes_pure, first.2, second.2]
    refine ⟨first.1.keepsNewest.trans second.1.keepsNewest (by simp), ?_, ?_⟩
    · rw [second.1.other different]
      exact first.1.shelf queries.victims_stored
    · rw [← first.1.other different.symm]
      exact second.1.shelf queries.victims_stored
  cases table with
  | workbookUpdates =>
    simp only [retainSome, WorkbookManager.retainSome, if_neg enabled]
    refine (single .workbookUpdates before).mono (fun removed after done => ?_)
      fun _ _ raised => raised
    exact ⟨done.2 ▸ done.1.keepsNewest, done.1.shelf queries.victims_stored⟩
  | datasourceUpdates =>
    simp only [retainSome, DataSourceManager.retainSome, if_neg enabled]
    refine (single .datasourceUpdates before).mono (fun removed after done => ?_)
      fun _ _ raised => raised
    exact ⟨done.2 ▸ done.1.keepsNewest, done.1.shelf queries.victims_stored⟩
  | workbookExtracts =>
    exact extracts.mono (fun _ _ done => ⟨done.1, done.2.1⟩) fun _ _ raised => raised
  | datasourceExtracts =>
    exact extracts.mono (fun _ _ done => ⟨done.1, done.2.2⟩) fun _ _ raised => raised

/-- A retain step that is switched off does nothing. -/
theorem retainSome_disabled (table : Table) {retainCount : Int}
    (disabled : retainCount = 0 ∨ retainCount = -1) (shelves : Shelves Content) :
    (retainSome retention queries table retainCount).run.run shelves = (.ok 0, shelves) := by
  cases table with
  | workbookUpdates =>
    simp only [retainSome, WorkbookManager.retainSome, if_pos disabled]
    rfl
  | datasourceUpdates =>
    simp only [retainSome, DataSourceManager.retainSome, if_pos disabled]
    rfl
  | workbookExtracts =>
    simp only [retainSome, ExtractRefreshManager.retainSome, if_pos disabled]
    rfl
  | datasourceExtracts =>
    simp only [retainSome, ExtractRefreshManager.retainSome, if_pos disabled]
    rfl

/-- Parents as they come, and rows by age as they were for equal ages. -/
def plainQueries : Queries where
  parents := ⟨id, fun _ => .refl _⟩
  byAge := {
    order := List.insertionSort fun earlier later => earlier.age ≤ later.age
    permutes := List.perm_insertionSort _
    sorted rows :=
      haveI : Std.Total fun earlier later : Held => earlier.age ≤ later.age :=
        ⟨fun earlier later => Nat.le_total earlier.age later.age⟩
      haveI : IsTrans Held fun earlier later => earlier.age ≤ later.age :=
        ⟨fun _ _ _ => Nat.le_trans⟩
      List.pairwise_insertionSort _ rows }

/-- Two archived revisions of a workbook, each with its file. -/
def twoArchives : Shelves Nat where
  rows := [.workbookUpdate ⟨1, some 1, 10, some "a.twb", some 1, none⟩,
    .workbookUpdate ⟨2, some 1, 20, some "b.twb", some 2, none⟩]
  files := ⟨fun _ => none, (Files.Catalogue.empty.add ⟨1, [], .workbook, .vol, 1, 0, true, 0⟩).add
    ⟨1, [], .workbook, .vol, 1, 0, true, 0⟩⟩
  asked := []
  keyed := by decide
  unshared := by simp [Row.references, Row.columns, List.reduceOption]
  listed := by decide

end Palette.Archives
