import Mathlib.Data.List.Nodup
import Palette.Foundation.Sql

/-!
# Default rows

A table of texts is filled with default rows, and an upgrade replaces them by those of the new
version. Rows that a user has made custom stay. The others are deleted by a comparison that a
missing flag does not pass, and a default row is added unless a row with its key is left.

The ids of the default rows are given with them, so a row cannot be added next to one with its id.
-/

namespace Palette.Upgrades

open Palette.Foundation

/-- A row of a table with a key and a flag for custom rows. -/
structure Row (Content : Type) where
  id : Nat
  key : String
  custom : Option Bool
  content : Content
  deriving DecidableEq, Repr

/-- The rows of a table, which have different ids. -/
structure Table (Content : Type) where
  rows : List (Row Content)
  distinct : (rows.map Row.id).Nodup

/-- What the database raises. -/
inductive Fault where
  | integrityError
  deriving DecidableEq, Repr

namespace Table

variable {Content : Type} (table : Table Content)

/-- Add a row. -/
def insert (row : Row Content) : Except Fault (Table Content) :=
  if free : row.id ∉ table.rows.map Row.id then
    .ok ⟨table.rows ++ [row], by
      rw [List.map_append, List.map_singleton]
      exact List.nodup_append.mpr ⟨table.distinct, List.nodup_singleton _, by
        intro id listed other same
        rw [List.mem_singleton.mp same]
        exact fun equal => free (equal ▸ listed)⟩⟩
  else .error .integrityError

/-- Delete the rows that a condition selects. -/
def delete (condition : Row Content → Sql.Truth) : Table Content where
  rows := table.rows.filter fun row => !Sql.selects (condition row)
  distinct := table.distinct.sublist (List.filter_sublist.map Row.id)

/-- `populate`. -/
def populate (defaults : List (Row Content)) : Except Fault (Table Content) :=
  if table.rows = [] then defaults.foldlM insert table else .ok table

/-- Add a row unless there is one with its key. -/
def addMissing (row : Row Content) : Except Fault (Table Content) :=
  if table.rows.any fun other => other.key = row.key then .ok table else table.insert row

/-- `custom != True`. -/
def notCustom (row : Row Content) : Sql.Truth := (Sql.equal row.custom (some true)).map not

/-- `populate_upgrade`. What is done before a failure is not committed. -/
def populateUpgrade (previousVersion : Option String) (version : String)
    (defaults : List (Row Content)) : Except Fault (Table Content) :=
  if previousVersion = none ∨ previousVersion = some "" ∨ previousVersion = some version then
    table.populate defaults
  else if table.rows = [] then table.populate defaults
  else defaults.foldlM addMissing (table.delete notCustom)

/-! ## What is added -/

variable {table} {defaults : List (Row Content)}

/-- The rows whose keys are missing. -/
def missing (rows defaults : List (Row Content)) : List (Row Content) :=
  defaults.filter fun row => !rows.any fun other => other.key = row.key

/-- A row that was added is behind the others. -/
theorem rows_of_insert {row : Row Content} {after : Table Content}
    (inserted : table.insert row = .ok after) : after.rows = table.rows ++ [row] := by
  unfold insert at inserted
  split at inserted
  · rw [← Except.ok.inj inserted]
  · cases inserted

/-- A row with a new id is added. -/
theorem insert_ok {row : Row Content} (free : row.id ∉ table.rows.map Row.id) :
    ∃ after, table.insert row = .ok after := by
  unfold insert
  rw [dif_pos free]
  exact ⟨_, rfl⟩

/-- With a row of another key, the same rows are missing. -/
theorem missing_append {row : Row Content} (different : ∀ other ∈ defaults, other.key ≠ row.key)
    (rows : List (Row Content)) : missing (rows ++ [row]) defaults = missing rows defaults := by
  refine List.filter_congr fun other listed => ?_
  have apart : ¬ row.key = other.key := fun same => different other listed same.symm
  simp [apart]

/-- The keys behind the first row are other keys. -/
theorem keys_apart {row : Row Content} {rest : List (Row Content)}
    (distinct : ((row :: rest).map Row.key).Nodup) : ∀ other ∈ rest, other.key ≠ row.key := by
  intro other listed same
  exact (List.nodup_cons.mp distinct).1 (same ▸ List.mem_map_of_mem listed)

/-- A row whose key is there is not missing. -/
theorem missing_cons_present {rows rest : List (Row Content)} {row : Row Content}
    (present : (rows.any fun other => other.key = row.key) = true) :
    missing rows (row :: rest) = missing rows rest :=
  List.filter_cons_of_neg (by simp [present])

/-- Another row is. -/
theorem missing_cons_absent {rows rest : List (Row Content)} {row : Row Content}
    (absent : (rows.any fun other => other.key = row.key) = false) :
    missing rows (row :: rest) = row :: missing rows rest :=
  List.filter_cons_of_pos (by simp [absent])

/-- A row whose key is there is not added. -/
theorem addMissing_present {row : Row Content}
    (present : (table.rows.any fun other => other.key = row.key) = true) :
    table.addMissing row = .ok table := if_pos present

/-- Another row is. -/
theorem addMissing_absent {row : Row Content}
    (absent : (table.rows.any fun other => other.key = row.key) = false) :
    table.addMissing row = table.insert row := if_neg (by simp [absent])

/-- What is added are the missing rows. -/
theorem rows_of_addMissing {after : Table Content} (distinct : (defaults.map Row.key).Nodup)
    (added : defaults.foldlM addMissing table = .ok after) :
    after.rows = table.rows ++ missing table.rows defaults := by
  induction defaults generalizing table with
  | nil =>
    obtain rfl : table = after := Except.ok.inj added
    simp [missing]
  | cons row rest inductionHypothesis =>
    have others := (List.nodup_cons.mp distinct).2
    rw [List.foldlM_cons] at added
    cases present : table.rows.any fun other => other.key = row.key with
    | true =>
      rw [addMissing_present present] at added
      rw [inductionHypothesis others added, missing_cons_present present]
    | false =>
      rw [addMissing_absent present] at added
      cases inserted : table.insert row with
      | error fault =>
        rw [inserted] at added
        cases added
      | ok next =>
        rw [inserted] at added
        rw [inductionHypothesis others added, rows_of_insert inserted,
          missing_append (keys_apart distinct), missing_cons_absent present, List.append_assoc]
        rfl

/-- They can be added if all ids are different. -/
theorem addMissing_ok (distinct : (defaults.map Row.key).Nodup)
    (free : ((table.rows ++ missing table.rows defaults).map Row.id).Nodup) :
    ∃ after, defaults.foldlM addMissing table = .ok after := by
  induction defaults generalizing table with
  | nil => exact ⟨table, rfl⟩
  | cons row rest inductionHypothesis =>
    have others := (List.nodup_cons.mp distinct).2
    rw [List.foldlM_cons]
    cases present : table.rows.any fun other => other.key = row.key with
    | true =>
      rw [missing_cons_present present] at free
      rw [addMissing_present present]
      exact inductionHypothesis others free
    | false =>
      rw [missing_cons_absent present] at free
      have new : row.id ∉ table.rows.map Row.id := by
        rw [List.map_append, List.map_cons] at free
        exact fun listed => (List.disjoint_of_nodup_append free) listed List.mem_cons_self
      obtain ⟨next, inserted⟩ := insert_ok new
      have gathered : next.rows ++ missing next.rows rest =
          table.rows ++ row :: missing table.rows rest := by
        rw [rows_of_insert inserted, missing_append (keys_apart distinct), List.append_assoc]
        rfl
      rw [← gathered] at free
      rw [addMissing_absent present, inserted]
      exact inductionHypothesis others free

/-- Where no key is there yet, the default rows are added one after the other. -/
theorem foldlM_insert_eq (distinct : (defaults.map Row.key).Nodup)
    (new : ∀ row ∈ defaults, ∀ other ∈ table.rows, other.key ≠ row.key) :
    defaults.foldlM insert table = defaults.foldlM addMissing table := by
  induction defaults generalizing table with
  | nil => rfl
  | cons row rest inductionHypothesis =>
    have absent : (table.rows.any fun other => other.key = row.key) = false := by
      simpa using new row List.mem_cons_self
    rw [List.foldlM_cons, List.foldlM_cons, addMissing_absent absent]
    cases inserted : table.insert row with
    | error fault => rfl
    | ok next =>
      have others := (List.nodup_cons.mp distinct).2
      refine inductionHypothesis others fun other listed known present => ?_
      rw [rows_of_insert inserted] at present
      rcases List.mem_append.mp present with before | last
      · exact new other (List.mem_cons_of_mem row listed) known before
      · rw [List.mem_singleton.mp last]
        exact (keys_apart distinct other listed).symm

/-! ## An upgrade -/

/-- The rows whose flag is not false. -/
def staying (rows : List (Row Content)) : List (Row Content) :=
  rows.filter fun row => row.custom ≠ some false

theorem mem_staying {rows : List (Row Content)} {row : Row Content} :
    row ∈ staying rows ↔ row ∈ rows ∧ row.custom ≠ some false := by
  simp [staying, List.mem_filter]

/-- The deletion leaves all rows whose flag is not false. -/
theorem rows_of_delete (table : Table Content) :
    (table.delete notCustom).rows = staying table.rows := by
  refine List.filter_congr fun row _ => ?_
  rcases custom : row.custom with _ | _ | _ <;> simp [notCustom, Sql.equal, Sql.selects, custom]

/-- There is a previous version, and the version is a new one. -/
structure IsUpgrade (previousVersion : Option String) (version : String) : Prop where
  known : previousVersion ≠ none
  nonempty : previousVersion ≠ some ""
  new : previousVersion ≠ some version

/-- An upgrade deletes and adds, also in a table without rows. -/
theorem populateUpgrade_eq {previousVersion : Option String} {version : String}
    (upgrade : IsUpgrade previousVersion version) (distinct : (defaults.map Row.key).Nodup) :
    table.populateUpgrade previousVersion version defaults =
      defaults.foldlM addMissing (table.delete notCustom) := by
  have upgrades : ¬ (previousVersion = none ∨ previousVersion = some "" ∨
      previousVersion = some version) := by
    rintro (none | empty | same)
    · exact upgrade.known none
    · exact upgrade.nonempty empty
    · exact upgrade.new same
  rw [populateUpgrade, if_neg upgrades]
  split
  next empty =>
    have unchanged : table.delete notCustom = table := by
      obtain ⟨rows, _⟩ := table
      obtain rfl : rows = [] := empty
      rfl
    rw [unchanged, populate, if_pos empty]
    exact foldlM_insert_eq distinct fun row _ other listed => by simp [empty] at listed
  next => rfl

/-- The key of a row is that of no custom row. -/
def IsFree (rows : List (Row Content)) (row : Row Content) : Prop :=
  ∀ other ∈ rows, other.custom = some true → other.key ≠ row.key

/-- The custom rows are left, and the default rows that are free are the others. -/
def IsUpgraded (defaults : List (Row Content)) (before after : Table Content) : Prop :=
  ∀ row, row ∈ after.rows ↔
    row ∈ before.rows ∧ row.custom = some true ∨ row ∈ defaults ∧ IsFree before.rows row

/-- The rows that stay and those that are missing then have different ids, and every row with an
unknown flag is a free default row. -/
structure IsReplaceable (defaults : List (Row Content)) (table : Table Content) : Prop where
  ids : ((staying table.rows ++ missing (staying table.rows) defaults).map Row.id).Nodup
  unknown : ∀ row ∈ table.rows, row.custom = none → row ∈ defaults ∧ IsFree table.rows row

/-- Among rows with different keys, a row is found by its key. -/
theorem eq_of_key {row other : Row Content} (distinct : (defaults.map Row.key).Nodup)
    (listed : row ∈ defaults) (also : other ∈ defaults) (same : other.key = row.key) :
    other = row :=
  List.inj_on_of_nodup_map distinct also listed same

/-- A row is missing if it is a default row whose key is not there. -/
theorem mem_missing {rows : List (Row Content)} {row : Row Content} :
    row ∈ missing rows defaults ↔ row ∈ defaults ∧ ∀ other ∈ rows, other.key ≠ row.key := by
  simp [missing, List.mem_filter]

/-- Upgrading again finds the rows missing that it has deleted. -/
theorem missing_again (distinct : (defaults.map Row.key).Nodup) {rows : List (Row Content)}
    (stay : ∀ row ∈ rows, row.custom ≠ some false) :
    missing (staying (rows ++ missing rows defaults)) defaults =
      (missing rows defaults).filter fun row => row.custom = some false := by
  unfold missing
  rw [List.filter_filter]
  refine List.filter_congr fun row listed => ?_
  rw [Bool.eq_iff_iff]
  simp only [Bool.not_eq_true', List.any_eq_false, Bool.and_eq_true, decide_eq_true_eq,
    mem_staying, List.mem_append, List.mem_filter]
  constructor
  · intro absent
    have new : ∀ other ∈ rows, ¬ other.key = row.key := fun other present =>
      absent other ⟨.inl present, stay other present⟩
    refine ⟨?_, new⟩
    by_contra kept
    exact absent row ⟨.inr ⟨listed, new⟩, kept⟩ rfl
  · rintro ⟨deleted, new⟩ other ⟨present | ⟨added, _⟩, kept⟩ same
    · exact new other present same
    · exact kept (eq_of_key distinct listed added same ▸ deleted)

/-- Upgrading again leaves the same rows. -/
theorem perm_again (distinct : (defaults.map Row.key).Nodup) {rows : List (Row Content)}
    (stay : ∀ row ∈ rows, row.custom ≠ some false) :
    List.Perm
      (staying (rows ++ missing rows defaults) ++
        missing (staying (rows ++ missing rows defaults)) defaults)
      (rows ++ missing rows defaults) := by
  have parts : List.Perm
      (staying (missing rows defaults) ++
        (missing rows defaults).filter fun row => row.custom = some false)
      (missing rows defaults) := by
    simpa [staying] using
      List.filter_append_perm (fun row => row.custom ≠ some false) (missing rows defaults)
  have kept : staying rows = rows :=
    List.filter_eq_self.mpr fun row listed => by simpa using stay row listed
  have split :
      staying (rows ++ missing rows defaults) = rows ++ staying (missing rows defaults) := by
    rw [staying, List.filter_append]
    exact congrArg (· ++ staying (missing rows defaults)) kept
  rw [missing_again distinct stay, split, List.append_assoc]
  exact parts.append_left rows

/-- What an upgrade leaves are the rows that stay and those that were missing. -/
theorem rows_of_populateUpgrade {previousVersion : Option String} {version : String}
    {after : Table Content} (upgrade : IsUpgrade previousVersion version)
    (distinct : (defaults.map Row.key).Nodup)
    (upgraded : table.populateUpgrade previousVersion version defaults = .ok after) :
    after.rows = staying table.rows ++ missing (staying table.rows) defaults := by
  rw [populateUpgrade_eq upgrade distinct] at upgraded
  rw [rows_of_addMissing distinct upgraded, rows_of_delete]

/-- An upgrade is done where the rows that it leaves have different ids. -/
theorem populateUpgrade_ok {previousVersion : Option String} {version : String}
    (upgrade : IsUpgrade previousVersion version) (distinct : (defaults.map Row.key).Nodup)
    (free : ((staying table.rows ++ missing (staying table.rows) defaults).map Row.id).Nodup) :
    ∃ after, table.populateUpgrade previousVersion version defaults = .ok after := by
  rw [populateUpgrade_eq upgrade distinct]
  rw [← rows_of_delete] at free
  exact addMissing_ok distinct free

/-- Upgrading again changes nothing. -/
theorem upgrade_again {previousVersion : Option String} {version : String}
    {after : Table Content} (upgrade : IsUpgrade previousVersion version)
    (distinct : (defaults.map Row.key).Nodup)
    (upgraded : table.populateUpgrade previousVersion version defaults = .ok after) :
    ∃ again, after.populateUpgrade previousVersion version defaults = .ok again ∧
      ∀ row, row ∈ again.rows ↔ row ∈ after.rows := by
  have left := rows_of_populateUpgrade upgrade distinct upgraded
  have same :
      List.Perm (staying after.rows ++ missing (staying after.rows) defaults) after.rows := by
    rw [left]
    exact perm_again distinct fun row stays => (mem_staying.mp stays).2
  obtain ⟨again, done⟩ := populateUpgrade_ok upgrade distinct
    ((same.map Row.id).nodup_iff.mpr after.distinct)
  refine ⟨again, done, fun row => ?_⟩
  rw [rows_of_populateUpgrade upgrade distinct done]
  exact same.mem_iff

/-- Where every row with an unknown flag is a free default row, the rows that stay and those that
were missing are the custom rows and the free default rows. -/
theorem mem_upgraded (distinct : (defaults.map Row.key).Nodup)
    (unknown : ∀ row ∈ table.rows, row.custom = none → row ∈ defaults ∧ IsFree table.rows row)
    (row : Row Content) :
    row ∈ staying table.rows ++ missing (staying table.rows) defaults ↔
      row ∈ table.rows ∧ row.custom = some true ∨ row ∈ defaults ∧ IsFree table.rows row := by
  rw [List.mem_append, mem_staying, mem_missing]
  constructor
  · rintro (⟨listed, stays⟩ | ⟨listed, new⟩)
    · rcases custom : row.custom with _ | _ | _
      · exact .inr (unknown row listed custom)
      · exact absurd custom stays
      · exact .inl ⟨listed, rfl⟩
    · refine .inr ⟨listed, fun other present custom => new other (mem_staying.mpr ⟨present, ?_⟩)⟩
      simp [custom]
  · rintro (⟨listed, custom⟩ | ⟨listed, free⟩)
    · exact .inl ⟨listed, by simp [custom]⟩
    · by_cases new : ∀ other ∈ staying table.rows, other.key ≠ row.key
      · exact .inr ⟨listed, new⟩
      · -- A row with the key stays, which is then the default row itself.
        push Not at new
        obtain ⟨other, stays, same⟩ := new
        obtain ⟨present, kept⟩ := mem_staying.mp stays
        rcases custom : other.custom with _ | _ | _
        · obtain rfl := eq_of_key distinct listed (unknown other present custom).1 same
          exact .inl ⟨present, kept⟩
        · exact absurd custom kept
        · exact absurd same (free other present custom)

/-- A table is upgraded, and upgrading it again changes nothing, exactly where it is replaceable. -/
theorem populate_upgrade_iff {previousVersion : Option String} {version : String}
    (upgrade : IsUpgrade previousVersion version) (distinct : (defaults.map Row.key).Nodup)
    (table : Table Content) :
    (∃ after, table.populateUpgrade previousVersion version defaults = .ok after ∧
      IsUpgraded defaults table after ∧
        ∃ again, after.populateUpgrade previousVersion version defaults = .ok again ∧
          ∀ row, row ∈ again.rows ↔ row ∈ after.rows) ↔
      IsReplaceable defaults table := by
  constructor
  · rintro ⟨after, upgraded, exactly, _⟩
    have left := rows_of_populateUpgrade upgrade distinct upgraded
    refine ⟨left ▸ after.distinct, fun row listed unknown => ?_⟩
    have stays : row ∈ after.rows := by
      rw [left]
      exact List.mem_append_left _ (mem_staying.mpr ⟨listed, by simp [unknown]⟩)
    rcases (exactly row).mp stays with ⟨_, custom⟩ | free
    · simp [unknown] at custom
    · exact free
  · intro replaceable
    obtain ⟨after, upgraded⟩ := populateUpgrade_ok upgrade distinct replaceable.ids
    refine ⟨after, upgraded, fun row => ?_, upgrade_again upgrade distinct upgraded⟩
    rw [rows_of_populateUpgrade upgrade distinct upgraded]
    exact mem_upgraded distinct replaceable.unknown row

/-- A custom text stays, and an old one is replaced. -/
theorem populate_upgrade_two :
    ∃ after, Table.populateUpgrade
        ⟨[⟨1, "A", some true, "mine"⟩, ⟨2, "B", some false, "old"⟩], by decide⟩
        (some "1.5.3") "2.0.1"
        [⟨1, "A", some false, "first"⟩, ⟨2, "B", some false, "new"⟩] = .ok after ∧
      IsUpgraded [⟨1, "A", some false, "first"⟩, ⟨2, "B", some false, "new"⟩]
        ⟨[⟨1, "A", some true, "mine"⟩, ⟨2, "B", some false, "old"⟩], by decide⟩ after ∧
      ∃ again, after.populateUpgrade (some "1.5.3") "2.0.1"
          [⟨1, "A", some false, "first"⟩, ⟨2, "B", some false, "new"⟩] = .ok again ∧
        ∀ row, row ∈ again.rows ↔ row ∈ after.rows :=
  (populate_upgrade_iff ⟨by decide, by decide, by decide⟩ (by decide) _).mpr
    ⟨by decide, by simp⟩

/-- A text with an unknown flag is not replaced. -/
theorem unknown_text_stays :
    ¬ ∃ after, Table.populateUpgrade ⟨[⟨2, "B", none, "old"⟩], by decide⟩ (some "1.5.3") "2.0.1"
        [⟨2, "B", some false, "new"⟩] = .ok after ∧
      IsUpgraded [⟨2, "B", some false, "new"⟩] ⟨[⟨2, "B", none, "old"⟩], by decide⟩ after := by
  rintro ⟨after, upgraded, exactly⟩
  have left := rows_of_populateUpgrade ⟨by decide, by decide, by decide⟩ (by decide) upgraded
  have stays : (⟨2, "B", none, "old"⟩ : Row String) ∈ after.rows := by
    rw [left]
    decide
  have replaced := (exactly _).mp stays
  simp at replaced

end Table

end Palette.Upgrades
