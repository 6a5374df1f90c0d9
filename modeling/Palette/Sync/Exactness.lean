import Palette.Sync.Tables

/-!
# When a sync mirrors its reply exactly

A sync that succeeds leaves each row of the reply in the table once, with its values.
What it may fail to do is to remove the environment's other rows: the identity of a
new row is unknown when it is collected, and one unknown identity keeps the deletion
from removing anything. Settings are deleted by their keys instead, so there only a
null key has that effect.

The ids of the remote tables are primary keys and so differ; the keys of a parsed
document differ by construction.
-/

namespace Palette.Sync

open Palette.Foundation

universe u v

section Shared

variable {Item : Type u} {Values : Type v}

/-- A table sync that reports a count has placed every row and deleted by identity. -/
theorem mirrorReply_ok {source : Source Item Cell Values}
    {accepts : List (Row Envid Cell Values) → Bool} {envid : Envid} {items : List Item}
    {table after : Table Envid Cell Values} {count : Nat}
    (done : mirrorReply source accepts envid items table = (after, .ok (.ok count))) :
    ∃ final ids, source.placeAll accepts envid table items = .ok (final, ids) ∧
      after = final.deleteIds ids ∧ count = items.length := by
  unfold mirrorReply at done
  split at done
  · simp at done
  · next final ids placed =>
    simp only [Prod.mk.injEq, Except.ok.injEq, SyncReply.ok.injEq] at done
    exact ⟨final, ids, placed, done.1.symm, done.2.symm⟩

/-- A table sync that reports a count read its rows from the reply. -/
theorem syncTable_ok {source : Source Item Cell Values}
    {decode : OdbcReply → List (List Cell) → Except SyncException (List Item)}
    {accepts : List (Row Envid Cell Values) → Bool} {envid : Envid} {data : OdbcReply}
    {table after : Table Envid Cell Values} {count : Nat}
    (done : syncTable source decode accepts envid data table = (after, .ok (.ok count))) :
    ∃ rows items, data.rows = some rows ∧ decode data rows = .ok items ∧
      mirrorReply source accepts envid items table = (after, .ok (.ok count)) := by
  unfold syncTable at done
  split at done
  · simp at done
  · simp at done
  · next rows _ present =>
    split at done
    · simp at done
    · next items decoded => exact ⟨rows, items, present, decoded, done⟩

/-- A sync that does not report a count leaves the table as it was. -/
theorem syncTable_unchanged {source : Source Item Cell Values}
    {decode : OdbcReply → List (List Cell) → Except SyncException (List Item)}
    {accepts : List (Row Envid Cell Values) → Bool} {envid : Envid} {data : OdbcReply}
    {table after : Table Envid Cell Values} {reply : Except SyncException SyncReply}
    (done : syncTable source decode accepts envid data table = (after, reply))
    (failed : ∀ count, reply ≠ .ok (.ok count)) : after = table := by
  unfold syncTable mirrorReply at done
  split at done
  · exact (Prod.mk.inj done).1.symm
  · exact (Prod.mk.inj done).1.symm
  · split at done
    · exact (Prod.mk.inj done).1.symm
    · split at done
      · exact (Prod.mk.inj done).1.symm
      · exact absurd (Prod.mk.inj done).2.symm (failed _)

/-- The items that a sync reads from a reply, or none when it does not get that far. -/
def itemsOf (decode : OdbcReply → List (List Cell) → Except SyncException (List Item))
    (data : OdbcReply) : List Item :=
  match data.rows with
  | none => []
  | some rows => (decode data rows).toOption.getD []

/-- No row of the reply is new to the environment, or no row stored for it is missing
from the reply. -/
def NothingNewOrGone (source : Source Item Cell Values) (envid : Envid) (items : List Item)
    (table : Table Envid Cell Values) : Prop :=
  (∀ item ∈ items, ¬ source.Unmatched envid table item) ∨
    ∀ row ∈ table.rows, row.env = envid → row.key ∈ items.map source.key

/-- A successful table sync mirrors its reply if and only if nothing was new or nothing
was gone. -/
theorem syncTable_mirrors {source : Source Item Cell Values}
    {decode : OdbcReply → List (List Cell) → Except SyncException (List Item)}
    {accepts : List (Row Envid Cell Values) → Bool} {envid : Envid} {data : OdbcReply}
    {table after : Table Envid Cell Values} {count : Nat}
    (unique : ((itemsOf decode data).map source.key).Nodup)
    (done : syncTable source decode accepts envid data table = (after, .ok (.ok count))) :
    source.Mirrors envid (itemsOf decode data) after ↔
      NothingNewOrGone source envid (itemsOf decode data) table := by
  obtain ⟨rows, items, present, decoded, mirrored⟩ := syncTable_ok done
  obtain ⟨final, ids, placed, rfl, -⟩ := mirrorReply_ok mirrored
  have read : itemsOf decode data = items := by
    simp only [itemsOf, present, decoded, Except.toOption, Option.getD_some]
  rw [read] at unique ⊢
  obtain ⟨created, closed⟩ := placeAll_placed source accepts envid table items final ids unique placed
  exact mirrors_deleteIds closed unique

end Shared

/-- A project sync that reports a count went through the shared shape. -/
theorem project_sync_ok {accepts : List (Row Envid Cell ProjectColumns) → Bool} {envid : Envid}
    {data : OdbcReply} {table after : Table Envid Cell ProjectColumns} {count : Nat}
    (done : Project.sync accepts envid data table = (after, .ok (.ok count))) :
    syncTable Project.source (decodeRows Project.ofRow) accepts envid data table =
      (after, .ok (.ok count)) := by
  unfold Project.sync at done
  split at done
  · simp at done
  · exact done

/-- A project sync that does not report a count leaves the table as it was. -/
theorem project_sync_unchanged {accepts : List (Row Envid Cell ProjectColumns) → Bool}
    {envid : Envid} {data : OdbcReply} {table after : Table Envid Cell ProjectColumns}
    {reply : Except SyncException SyncReply}
    (done : Project.sync accepts envid data table = (after, reply))
    (failed : ∀ count, reply ≠ .ok (.ok count)) : after = table := by
  unfold Project.sync at done
  split at done
  · exact (Prod.mk.inj done).1.symm
  · exact syncTable_unchanged done failed

/-- A settings sync that raises leaves the table as it was. -/
theorem yml_sync_unchanged {load : String → Option YamlMapping}
    {accepts : List (Row Envid String Cell) → Bool} {envid : Envid} {yml : String}
    {table after : Table Envid String Cell}
    {reply : Except SyncException (List (Option String × Cell))}
    (done : YmlEntry.sync load accepts envid yml table = (after, reply))
    (failed : ∀ contents, reply ≠ .ok contents) : after = table := by
  unfold YmlEntry.sync at done
  split at done
  · exact (Prod.mk.inj done).1.symm
  · split at done
    · exact (Prod.mk.inj done).1.symm
    · exact absurd (Prod.mk.inj done).2.symm (failed _)

/-- A settings sync that returns has placed every entry and deleted by key. -/
theorem yml_sync_ok {load : String → Option YamlMapping}
    {accepts : List (Row Envid String Cell) → Bool} {envid : Envid} {yml : String}
    {table after : Table Envid String Cell} {contents : List (Option String × Cell)}
    (done : YmlEntry.sync load accepts envid yml table = (after, .ok contents)) :
    ∃ parsed final ids, load yml = some parsed ∧
      YmlEntry.source.placeAll accepts envid table parsed.entries = .ok (final, ids) ∧
      after = final.deleteKeys (parsed.entries.map YmlEntry.source.key) := by
  unfold YmlEntry.sync at done
  split at done
  · simp at done
  · next parsed loaded =>
    split at done
    · simp at done
    · next final ids placed => exact ⟨parsed, final, ids, loaded, placed, (Prod.mk.inj done).1.symm⟩

/-- A successful sync of sites, projects or data connections mirrors its reply if and
only if no row of the reply was new to the environment or no row stored for it was
gone from the reply. A successful sync of the settings mirrors its document if and only
if no stored key of the environment was gone from it, or neither the document nor a
stored row of the environment has a null key. -/
theorem sync_mirrors_iff (envid : Envid) :
    (∀ accepts data table after count,
      ((itemsOf (decodeRows Site.ofRow) data).map Site.source.key).Nodup →
      Site.sync accepts envid data table = (after, .ok (.ok count)) →
      (Site.source.Mirrors envid (itemsOf (decodeRows Site.ofRow) data) after ↔
        NothingNewOrGone Site.source envid (itemsOf (decodeRows Site.ofRow) data) table)) ∧
    (∀ accepts data table after count,
      ((itemsOf (decodeRows Project.ofRow) data).map Project.source.key).Nodup →
      Project.sync accepts envid data table = (after, .ok (.ok count)) →
      (Project.source.Mirrors envid (itemsOf (decodeRows Project.ofRow) data) after ↔
        NothingNewOrGone Project.source envid (itemsOf (decodeRows Project.ofRow) data) table)) ∧
    (∀ parse accepts data table after count,
      ((itemsOf (DataConnection.decode parse) data).map DataConnection.source.key).Nodup →
      DataConnection.sync parse accepts envid data table = (after, .ok (.ok count)) →
      (DataConnection.source.Mirrors envid (itemsOf (DataConnection.decode parse) data) after ↔
        NothingNewOrGone DataConnection.source envid (itemsOf (DataConnection.decode parse) data)
          table)) ∧
    (∀ load accepts yml table after contents parsed, load yml = some parsed →
      YmlEntry.sync load accepts envid yml table = (after, .ok contents) →
      (YmlEntry.source.Mirrors envid parsed.entries after ↔
        (∀ row ∈ table.rows, row.env = envid → row.key ∈ parsed.entries.map YmlEntry.source.key) ∨
          none ∉ parsed.entries.map YmlEntry.source.key ∧
            ∀ row ∈ table.rows, row.env = envid → row.key ≠ none)) := by
  refine ⟨?_, ?_, ?_, ?_⟩
  · intro accepts data table after count unique done
    exact syncTable_mirrors unique done
  · intro accepts data table after count unique done
    exact syncTable_mirrors unique (project_sync_ok done)
  · intro parse accepts data table after count unique done
    exact syncTable_mirrors unique done
  · intro load accepts yml table after contents parsed loaded done
    obtain ⟨other, final, ids, loadedOther, placed, rfl⟩ := yml_sync_ok done
    have same : other = parsed := Option.some.inj (loadedOther.symm.trans loaded)
    subst same
    obtain ⟨created, closed⟩ := placeAll_placed YmlEntry.source accepts envid table other.entries
      final ids other.distinct placed
    exact mirrors_deleteKeys closed other.distinct

/-- The columns of a project in the runs below. -/
def namedProject (name : String) : ProjectColumns :=
  { Project.source.blank with name := .text name }

/-- The reply row of such a project. -/
def projectRow (id : Int) (name : String) : List Cell :=
  [.int id, .text name, .null, .null, .null, .null, .null, .null, .null]

/-- One project stored for environment one. -/
def storedProject (id : Int) (name : String) : Table Envid Cell ProjectColumns :=
  Table.empty.insert 1 (some (.int id)) (namedProject name)

/-- A remote table in which project 1 was replaced by project 2: the sync succeeds, adds
the new project and keeps the vanished one. -/
theorem vanished_project_survives :
    ∃ after, Project.sync (fun _ => true) 1 ⟨none, some [projectRow 2 "new"], none⟩
        (storedProject 1 "old") = (after, .ok (.ok 1)) ∧
      ¬ Project.source.Mirrors 1 [(.int 2, namedProject "new")] after := by
  refine ⟨_, rfl, fun mirrors => ?_⟩
  have surplus := mirrors.absent ⟨0, 1, some (.int 1), namedProject "old"⟩ (by decide) rfl
  exact absurd surplus (by decide)

/-- The exactness result where nothing is new: project 1 is renamed remotely. -/
theorem sync_mirrors_iff_renamed :
    ∃ after, Project.sync (fun _ => true) 1 ⟨none, some [projectRow 1 "new"], none⟩
        (storedProject 1 "old") = (after, .ok (.ok 1)) ∧
      Project.source.Mirrors 1 [(.int 1, namedProject "new")] after := by
  have ran : ∃ after, Project.sync (fun _ => true) 1 ⟨none, some [projectRow 1 "new"], none⟩
      (storedProject 1 "old") = (after, .ok (.ok 1)) := ⟨_, rfl⟩
  obtain ⟨after, done⟩ := ran
  exact ⟨after, done,
    ((sync_mirrors_iff 1).2.1 _ _ _ after 1 (by decide) done).mpr (.inl (by decide))⟩

end Palette.Sync
