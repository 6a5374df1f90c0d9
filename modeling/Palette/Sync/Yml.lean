import Palette.Files.Catalogue
import Palette.Foundation.Mirroring

/-!
# Settings of the server

The settings of the server are a YAML document on the agent. A sync fetches it, parses it, and
replaces the rows of its environment by the entries of its mapping. The callers expect that it
either does so or fails to fetch the document.

The document may be anything, though: no YAML, no mapping, or a mapping with keys and values that
the database refuses. What is refused is raised where it is written, and a sync that raises commits
nothing. Where and when the document was read is not kept here.
-/

namespace Palette.Sync.Yml

open Palette.Files (Agent Path)
open Palette.Foundation

/-- Environments are numbered. -/
abbrev Envid := Nat

/-- A key of a mapping. Other keys than texts and null are shown. -/
inductive Key where
  | null
  | text (value : String)
  | other (shown : String)
  deriving DecidableEq, Repr

/-- A value of a mapping. Dates have their text, and what is in lists and mappings is only
shown. -/
inductive Value where
  | null
  | bool (value : Bool)
  | int (value : Int)
  | float (shown : String)
  | text (value : String)
  | date (shown : String)
  | list (shown : String)
  | mapping (shown : String)
  | other (shown : String)
  deriving DecidableEq, Repr

/-- The entries of a mapping: their keys differ. -/
structure Mapping where
  entries : List (Key × Value)
  distinct : (entries.map Prod.fst).Nodup

/-- A document: a mapping or anything else. -/
inductive Document where
  | mapping (found : Mapping)
  | other (found : Value)

/-- What comes of a value in a column of texts: NULL, the text that the database makes of it, or
nothing if the driver or the database refuses it. Texts are kept, and no driver takes mappings. -/
structure Driver where
  stores : Value → Option (Option String)
  null : stores .null = some none
  text : ∀ value stored, stores (.text value) = some stored → stored = some value
  mapping : ∀ shown, stores (.mapping shown) = none

/-- The exceptions. -/
inductive YmlException where
  | ioError
  | yamlError
  | attributeError
  | programmingError
  | multipleResultsFound
  deriving DecidableEq, Repr

/-- The rows of all environments. A key that is known is unique in its environment. -/
structure YmlTable where
  table : Table Envid String (Option String)
  unique : ∀ envid key, (table.matching envid (some key)).length ≤ 1

/-- A row takes its value from an entry. -/
def source : Source (Option String × Option String) String (Option String) where
  key entry := entry.1
  assign entry _ := entry.2
  blank := none

/-! ## The sync -/

/-- A key in a query: null is looked up as `IS NULL`, and a text is not compared with anything
else. -/
def Key.lookup : Key → Option (Option String)
  | .null => some none
  | .text value => some (some value)
  | .other _ => none

/-- The value that can be serialised later: of a date, its text. -/
def Value.jsonSafe : Value → Value
  | .date shown => .text shown
  | value => value

/-- `YmlEntry.entry`, with a default. -/
def entry (table : Table Envid String (Option String)) (envid : Envid) (key : Option String) :
    Except YmlException (Option (Row Envid String (Option String))) :=
  match table.matching envid key with
  | [] => .ok none
  | [row] => .ok (some row)
  | _ => .error .multipleResultsFound

/-- The row of an entry: the one that was found, or a new one. -/
def write (table : Table Envid String (Option String)) (envid : Envid) (key : Option String)
    (value : Option String) :
    Option (Row Envid String (Option String)) → Table Envid String (Option String)
  | none => table.insert envid key value
  | some row => table.revise row.pk fun _ => value

/-- The loop over the entries. -/
def writeAll (driver : Driver) (envid : Envid) :
    Table Envid String (Option String) → List (Key × Value) →
    Except YmlException (Table Envid String (Option String))
  | table, [] => .ok table
  | table, (key, value) :: rest =>
    match key.lookup with
    | none => .error .programmingError
    | some key =>
      match entry table envid key with
      | .error failure => .error failure
      | .ok found =>
        match driver.stores value.jsonSafe with
        | none => .error .programmingError
        | some value => writeAll driver envid (write table envid key value found) rest

/-- `YmlEntry.sync`. The rows whose keys are not in the document are deleted, and the entries are
returned. -/
def syncEntries (driver : Driver) (load : String → Option Document) (envid : Envid) (yml : String)
    (table : Table Envid String (Option String)) :
    Table Envid String (Option String) × Except YmlException (List (Key × Value)) :=
  match load yml with
  | none => (table, .error .yamlError)
  | some (.other _) => (table, .error .attributeError)
  | some (.mapping parsed) =>
    match writeAll driver envid table parsed.entries with
    | .error failure => (table, .error failure)
    | .ok final =>
      (final.deleteKeys (parsed.entries.filterMap fun entry => entry.1.lookup),
        .ok (parsed.entries.map fun entry => (entry.1, entry.2.jsonSafe)))

/-- The path of the document on the agent. -/
def ymlPath (agent : Agent) (tableauDataDir : Path) : Path :=
  let path := if agent.basename tableauDataDir ≠ "data".toList
    then agent.join tableauDataDir "data".toList else tableauDataDir
  agent.join (agent.join (agent.join path "tabsvc".toList) "config".toList) "workgroup.yml".toList

/-- `YmlManager.sync`. Fetching a file gives its contents or raises an `IOError`. -/
def sync (driver : Driver) (load : String → Option Document) (fetch : Path → Option String)
    (envid : Envid) (agent : Agent) (tableauDataDir : Path)
    (table : Table Envid String (Option String)) :
    Table Envid String (Option String) × Except YmlException (List (Key × Value)) :=
  match fetch (ymlPath agent tableauDataDir) with
  | none => (table, .error .ioError)
  | some contents => syncEntries driver load envid contents table

/-! ## All or nothing -/

/-- The row that an entry should become, if its key and its value have a form in the database. -/
def item (driver : Driver) (entry : Key × Value) : Option (Option String × Option String) := do
  let key ← entry.1.lookup
  let value ← driver.stores entry.2.jsonSafe
  return (key, value)

/-- The sync has returned, and the rows of the environment are the entries of the document. -/
structure Replaced (driver : Driver) (envid : Envid) (document : Document)
    (result : Table Envid String (Option String) × Except YmlException (List (Key × Value))) :
    Prop where
  returned : ∃ body, result.2 = .ok body
  mirrored : ∃ parsed, document = .mapping parsed ∧
    (∀ entry ∈ parsed.entries, (item driver entry).isSome) ∧
    source.Mirrors envid (parsed.entries.filterMap (item driver)) result.1

/-- Either the settings are replaced by the document that was fetched, or the sync raises an
`IOError` and leaves them as they were. -/
def AllOrNothing (driver : Driver) (load : String → Option Document) (fetch : Path → Option String)
    (envid : Envid) (agent : Agent) (tableauDataDir : Path)
    (table : Table Envid String (Option String)) : Prop :=
  let result := sync driver load fetch envid agent tableauDataDir table
  (∃ contents document, fetch (ymlPath agent tableauDataDir) = some contents ∧
    load contents = some document ∧ Replaced driver envid document result) ∨
  result = (table, .error .ioError)

/-- The entries can be stored, and what has to be removed is removed: if there is a null key, in
the document or in a row, nothing has to be. -/
structure Storable (driver : Driver) (envid : Envid) (table : Table Envid String (Option String))
    (parsed : Mapping) : Prop where
  keys : ∀ entry ∈ parsed.entries, ∀ shown, entry.1 ≠ .other shown
  values : ∀ entry ∈ parsed.entries, driver.stores entry.2.jsonSafe ≠ none
  single : .null ∈ parsed.entries.map Prod.fst → (table.matching envid none).length ≤ 1
  removable : (∀ row ∈ table.rows, row.env = envid →
      ∃ entry ∈ parsed.entries, entry.1.lookup = some row.key) ∨
    .null ∉ parsed.entries.map Prod.fst ∧ ∀ row ∈ table.rows, row.env = envid → row.key ≠ none

variable {driver : Driver} {envid : Envid} {table final : Table Envid String (Option String)}

/-! ## Entries and rows -/

/-- An entry becomes a row exactly if both its key and its value have a form. -/
theorem item_eq_some {entry : Key × Value} {key : Option String} {value : Option String} :
    item driver entry = some (key, value) ↔
      entry.1.lookup = some key ∧ driver.stores entry.2.jsonSafe = some value := by
  simp [item, Option.bind_eq_some_iff]

/-- Different keys are looked up differently. -/
theorem lookup_injective {key other : Key} {found : Option String} (first : key.lookup = some found)
    (second : other.lookup = some found) : key = other := by
  have same := first.trans second.symm
  cases key <;> cases other <;> simp [Key.lookup] at first second same ⊢
  exact same

/-- The rows of the entries have different keys. -/
theorem items_distinct {entries : List (Key × Value)} (distinct : (entries.map Prod.fst).Nodup) :
    ((entries.filterMap (item driver)).map source.key).Nodup := by
  induction entries with
  | nil => exact List.nodup_nil
  | cons entry rest inductionHypothesis =>
    rw [List.map_cons, List.nodup_cons] at distinct
    cases made : item driver entry with
    | none =>
      rw [List.filterMap_cons_none made]
      exact inductionHypothesis distinct.2
    | some row =>
      rw [List.filterMap_cons_some made, List.map_cons, List.nodup_cons]
      refine ⟨fun listed => ?_, inductionHypothesis distinct.2⟩
      obtain ⟨other, otherListed, same⟩ := List.mem_map.mp listed
      obtain ⟨origin, member, otherMade⟩ := List.mem_filterMap.mp otherListed
      have first := (item_eq_some.mp made).1
      have second := (item_eq_some.mp otherMade).1
      have sameKey : other.1 = row.1 := same
      rw [sameKey] at second
      have equal : entry.1 = origin.1 := lookup_injective first second
      exact distinct.1 (equal ▸ List.mem_map_of_mem member)

/-- Writing an entry whose row was looked up is placing it. -/
theorem place_of_entry {key value : Option String}
    {found : Option (Row Envid String (Option String))}
    (looked : entry table envid key = .ok found) :
    source.place (fun _ => true) envid table (key, value) =
      .ok (write table envid key value found, found.map Row.pk) := by
  unfold entry at looked
  unfold Source.place
  split at looked
  · rename_i none_there
    obtain rfl := Except.ok.inj looked
    rw [show table.matching envid (source.key (key, value)) = [] from none_there]
    rfl
  · rename_i row only
    obtain rfl := Except.ok.inj looked
    rw [show table.matching envid (source.key (key, value)) = [row] from only]
    rfl
  · cases looked

/-- A key is looked up without a failure exactly if there are no two rows of it. -/
theorem entry_isOk_iff (key : Option String) : (∃ found, entry table envid key = .ok found) ↔
    (table.matching envid key).length ≤ 1 := by
  unfold entry
  split
  · rename_i none_there
    simp [none_there]
  · rename_i row only
    simp [only]
  · rename_i several notEmpty notSingle
    refine iff_of_false (by simp) fun short => ?_
    cases rows : table.matching envid key with
    | nil => exact notEmpty rows
    | cons first rest =>
      cases rest with
      | nil => exact notSingle first rows
      | cons second more => simp [rows] at short

/-- Writing the entries writes the first one, if it has a row and its key does not have two, and
then the others. -/
theorem writeAll_cons_ok {first : Key × Value} {rest : List (Key × Value)} :
    writeAll driver envid table (first :: rest) = .ok final ↔
      ∃ key value found, item driver first = some (key, value) ∧
        entry table envid key = .ok found ∧
        writeAll driver envid (write table envid key value found) rest = .ok final := by
  obtain ⟨key, value⟩ := first
  rw [writeAll]
  cases known : key.lookup with
  | none => simp [item, known]
  | some key =>
    cases looked : entry table envid key with
    | error failure => simp [item, known, looked, Option.bind_eq_some_iff]
    | ok found =>
      cases stored : driver.stores value.jsonSafe with
      | none => simp [item, known, looked, stored]
      | some value => simp [item, known, looked, stored]

/-- Writing an entry leaves as many rows of every other key. -/
theorem length_matching_write {key value other : Option String}
    {found : Option (Row Envid String (Option String))}
    (looked : entry table envid key = .ok found) (apart : other ≠ key) :
    ((write table envid key value found).matching envid other).length =
      (table.matching envid other).length := by
  obtain ⟨created, placed⟩ := place_placed source (fun _ => true) envid table (key, value) _ _
    (place_of_entry looked)
  rw [placed.matching_other other apart, List.length_map]

/-- The entries are written exactly if all of them have a form in the database and none of their
keys has two rows. Induct on the entries; writing one leaves the rows of other keys as many. -/
theorem writeAll_isOk_iff {entries : List (Key × Value)}
    (distinct : (entries.map Prod.fst).Nodup) :
    (∃ final, writeAll driver envid table entries = .ok final) ↔
      (∀ entry ∈ entries, (item driver entry).isSome) ∧
        ∀ row ∈ entries.filterMap (item driver), (table.matching envid row.1).length ≤ 1 := by
  induction entries generalizing table with
  | nil => simp [writeAll]
  | cons first rest inductionHypothesis =>
    have restDistinct : (rest.map Prod.fst).Nodup := (List.nodup_cons.mp distinct).2
    cases made : item driver first with
    | none =>
      refine iff_of_false ?_ ?_
      · rintro ⟨final, written⟩
        obtain ⟨key, value, found, made', -⟩ := writeAll_cons_ok.mp written
        simp [made] at made'
      · rintro ⟨whole, -⟩
        simpa [made] using whole first List.mem_cons_self
    | some row =>
      obtain ⟨key, value⟩ := row
      have others : ∀ row ∈ rest.filterMap (item driver), row.1 ≠ key := by
        have keys := @items_distinct driver _ distinct
        rw [List.filterMap_cons_some made, List.map_cons, List.nodup_cons] at keys
        intro row listed same
        exact keys.1 (List.mem_map.mpr ⟨row, listed, same⟩)
      have step : (∃ final, writeAll driver envid table (first :: rest) = .ok final) ↔
          (table.matching envid key).length ≤ 1 ∧ (∀ entry ∈ rest, (item driver entry).isSome) ∧
            ∀ row ∈ rest.filterMap (item driver), (table.matching envid row.1).length ≤ 1 := by
        rw [← entry_isOk_iff]
        constructor
        · rintro ⟨final, written⟩
          obtain ⟨key', value', found, made', looked, restWritten⟩ := writeAll_cons_ok.mp written
          obtain ⟨rfl, rfl⟩ : key = key' ∧ value = value' := by simpa [made] using made'
          obtain ⟨whole, single⟩ := (inductionHypothesis restDistinct).mp ⟨final, restWritten⟩
          refine ⟨⟨found, looked⟩, whole, fun row listed => ?_⟩
          rw [← length_matching_write looked (others row listed)]
          exact single row listed
        · rintro ⟨⟨found, looked⟩, whole, single⟩
          obtain ⟨final, written⟩ :=
            (@inductionHypothesis (write table envid key value found) restDistinct).mpr
              ⟨whole, fun row listed => by
                rw [length_matching_write looked (others row listed)]
                exact single row listed⟩
          exact ⟨final, writeAll_cons_ok.mpr ⟨key, value, found, made, looked, written⟩⟩
      rw [step, List.filterMap_cons_some made]
      simp only [List.forall_mem_cons, made, Option.isSome_some, true_and]
      tauto

/-- Writing the entries is placing their rows. -/
theorem placeAll_of_writeAll {entries : List (Key × Value)}
    (written : writeAll driver envid table entries = .ok final) :
    ∃ ids, source.placeAll (fun _ => true) envid table (entries.filterMap (item driver)) =
      .ok (final, ids) := by
  induction entries generalizing table with
  | nil =>
    obtain rfl := Except.ok.inj written
    exact ⟨[], rfl⟩
  | cons first rest inductionHypothesis =>
    obtain ⟨key, value, found, made, looked, restWritten⟩ := writeAll_cons_ok.mp written
    obtain ⟨ids, placed⟩ := inductionHypothesis restWritten
    refine ⟨found.map Row.pk :: ids, ?_⟩
    rw [List.filterMap_cons_some made, Source.placeAll, place_of_entry looked]
    simp [bind, Except.bind, pure, Except.pure, placed]

/-- Where every entry has a form, the keys of the rows are the keys of the entries. -/
theorem items_keys {entries : List (Key × Value)}
    (whole : ∀ entry ∈ entries, (item driver entry).isSome) :
    (entries.filterMap (item driver)).map source.key =
      entries.filterMap fun entry => entry.1.lookup := by
  induction entries with
  | nil => rfl
  | cons first rest inductionHypothesis =>
    obtain ⟨⟨key, value⟩, made⟩ := Option.isSome_iff_exists.mp (whole first List.mem_cons_self)
    have others := inductionHypothesis fun entry member => whole entry (List.mem_cons_of_mem _ member)
    have known : first.1.lookup = some key := (item_eq_some.mp made).1
    rw [List.filterMap_cons_some made, List.filterMap_cons, List.map_cons, others]
    simp [known, source]

/-- A null key is what is looked up as NULL. -/
theorem none_mem_lookups {entries : List (Key × Value)} :
    none ∈ (entries.filterMap fun entry => entry.1.lookup) ↔ Key.null ∈ entries.map Prod.fst := by
  have isNull (key : Key) : key.lookup = some none ↔ key = .null := by
    cases key <;> simp [Key.lookup]
  simp [List.mem_filterMap, isNull]

/-- Every entry has a form exactly if its key is a text or null and its value is taken. -/
theorem item_isSome_iff {entry : Key × Value} : (item driver entry).isSome ↔
    (∀ shown, entry.1 ≠ .other shown) ∧ driver.stores entry.2.jsonSafe ≠ none := by
  obtain ⟨key, value⟩ := entry
  cases stored : driver.stores value.jsonSafe <;> cases key <;> simp [item, Key.lookup, stored]

/-- No failure of the loop is an `IOError`. -/
theorem ne_ioError_of_writeAll {entries : List (Key × Value)} {failure : YmlException}
    (raised : writeAll driver envid table entries = .error failure) : failure ≠ .ioError := by
  induction entries generalizing table with
  | nil => cases raised
  | cons first rest inductionHypothesis =>
    obtain ⟨key, value⟩ := first
    rw [writeAll] at raised
    split at raised
    · obtain rfl := Except.error.inj raised
      exact YmlException.noConfusion
    · split at raised
      · rename_i failed looked
        obtain rfl := Except.error.inj raised
        unfold entry at looked
        split at looked
        · cases looked
        · cases looked
        · obtain rfl := Except.error.inj looked
          exact YmlException.noConfusion
      · split at raised
        · obtain rfl := Except.error.inj raised
          exact YmlException.noConfusion
        · exact inductionHypothesis raised

/-! ## When the sync is all or nothing -/

variable {load : String → Option Document} {contents : String}

/-- What was fetched never ends in an `IOError`. -/
theorem syncEntries_ne_ioError :
    (syncEntries driver load envid contents table).2 ≠ .error .ioError := by
  unfold syncEntries
  split
  · simp
  · simp
  · split
    · rename_i failed raised
      simpa using ne_ioError_of_writeAll raised
    · simp

/-- Once the entries are written, the rows of the environment are the entries exactly if what has
to be removed is removed. -/
theorem mirrors_iff {parsed : Mapping}
    (written : writeAll driver envid table parsed.entries = .ok final)
    (whole : ∀ entry ∈ parsed.entries, (item driver entry).isSome) :
    source.Mirrors envid (parsed.entries.filterMap (item driver))
        (final.deleteKeys (parsed.entries.filterMap fun entry => entry.1.lookup)) ↔
      (∀ row ∈ table.rows, row.env = envid →
        ∃ entry ∈ parsed.entries, entry.1.lookup = some row.key) ∨
      .null ∉ parsed.entries.map Prod.fst ∧
        ∀ row ∈ table.rows, row.env = envid → row.key ≠ none := by
  have distinct := @items_distinct driver _ parsed.distinct
  obtain ⟨ids, placed⟩ := placeAll_of_writeAll written
  obtain ⟨created, closed⟩ := placeAll_placed source (fun _ => true) envid table _ final ids
    distinct placed
  have exact_iff := mirrors_deleteKeys closed distinct
  rw [items_keys whole, none_mem_lookups] at exact_iff
  rw [exact_iff]
  simp only [List.mem_filterMap]

/-- The settings are replaced exactly if the document is a mapping that can be stored. -/
theorem replaced_iff (settings : YmlTable) {document : Document}
    (loaded : load contents = some document) :
    Replaced driver envid document (syncEntries driver load envid contents settings.table) ↔
      ∃ parsed, document = .mapping parsed ∧ Storable driver envid settings.table parsed := by
  cases document with
  | other found =>
    refine iff_of_false (fun replaced => ?_) (by simp)
    obtain ⟨parsed, isMapping, -⟩ := replaced.mirrored
    cases isMapping
  | mapping parsed =>
    have result {final : Table Envid String (Option String)}
        (written : writeAll driver envid settings.table parsed.entries = .ok final) :
        syncEntries driver load envid contents settings.table =
          (final.deleteKeys (parsed.entries.filterMap fun entry => entry.1.lookup),
            .ok (parsed.entries.map fun entry => (entry.1, entry.2.jsonSafe))) := by
      simp only [syncEntries, loaded, written]
    constructor
    · intro replaced
      obtain ⟨body, returned⟩ := replaced.returned
      obtain ⟨found, isMapping, whole, mirrors⟩ := replaced.mirrored
      obtain rfl : parsed = found := Document.mapping.inj isMapping
      cases written : writeAll driver envid settings.table parsed.entries with
      | error failure => simp [syncEntries, loaded, written] at returned
      | ok final =>
        obtain ⟨-, single⟩ := (writeAll_isOk_iff parsed.distinct).mp ⟨final, written⟩
        rw [result written] at mirrors
        refine ⟨parsed, rfl, fun entry member => (item_isSome_iff.mp (whole entry member)).1,
          fun entry member => (item_isSome_iff.mp (whole entry member)).2, fun isNull => ?_,
          (mirrors_iff written whole).mp mirrors⟩
        rw [← none_mem_lookups, ← items_keys whole] at isNull
        obtain ⟨row, listed, key⟩ := List.mem_map.mp isNull
        have bound := single row listed
        rwa [show row.1 = none from key] at bound
    · rintro ⟨found, isMapping, storable⟩
      obtain rfl : parsed = found := Document.mapping.inj isMapping
      have whole : ∀ entry ∈ parsed.entries, (item driver entry).isSome := fun entry member =>
        item_isSome_iff.mpr ⟨storable.keys entry member, storable.values entry member⟩
      have single : ∀ row ∈ parsed.entries.filterMap (item driver),
          (settings.table.matching envid row.1).length ≤ 1 := by
        rintro ⟨key, value⟩ listed
        cases key with
        | some key => exact settings.unique envid key
        | none =>
          apply storable.single
          rw [← none_mem_lookups, ← items_keys whole]
          exact List.mem_map.mpr ⟨_, listed, rfl⟩
      obtain ⟨final, written⟩ := (writeAll_isOk_iff parsed.distinct).mpr ⟨whole, single⟩
      rw [result written]
      exact ⟨⟨_, rfl⟩, parsed, rfl, whole, (mirrors_iff written whole).mpr storable.removable⟩

/-- The sync is all or nothing exactly if nothing was fetched, or a document that is a mapping and
can be stored. -/
theorem yml_all_or_nothing_iff (driver : Driver) (load : String → Option Document)
    (fetch : Path → Option String) (envid : Envid) (agent : Agent) (tableauDataDir : Path)
    (settings : YmlTable) :
    AllOrNothing driver load fetch envid agent tableauDataDir settings.table ↔
      ∀ contents, fetch (ymlPath agent tableauDataDir) = some contents →
        ∃ parsed, load contents = some (.mapping parsed) ∧
          Storable driver envid settings.table parsed := by
  unfold AllOrNothing sync
  cases fetched : fetch (ymlPath agent tableauDataDir) with
  | none => simp
  | some contents =>
    simp only [Option.some.injEq, forall_eq']
    constructor
    · rintro (⟨other, document, rfl, loaded, replaced⟩ | raised)
      · obtain ⟨parsed, rfl, storable⟩ := (replaced_iff settings loaded).mp replaced
        exact ⟨parsed, loaded, storable⟩
      · exact absurd (congrArg Prod.snd raised) syncEntries_ne_ioError
    · rintro ⟨parsed, loaded, storable⟩
      exact .inl ⟨contents, .mapping parsed, rfl, loaded,
        (replaced_iff settings loaded).mpr ⟨parsed, rfl, storable⟩⟩

/-- A driver that takes texts, null and dates only. -/
def plainDriver : Driver where
  stores
    | .null => some none
    | .text value => some (some value)
    | _ => none
  null := rfl
  text value stored kept := by simpa using kept.symm
  mapping _ := rfl

/-- No settings at all. -/
def noSettings : YmlTable where
  table := Table.empty
  unique _ _ := Nat.zero_le _

/-- An empty document is no mapping, and reading its entries raises. -/
theorem empty_document_raises : ¬ ∀ (driver : Driver) (load : String → Option Document)
    (fetch : Path → Option String) (envid : Envid) (agent : Agent) (tableauDataDir : Path)
    (settings : YmlTable),
    AllOrNothing driver load fetch envid agent tableauDataDir settings.table := by
  intro holds
  rcases holds plainDriver (fun _ => some (.other .null)) (fun _ => some "") 1 ⟨1, true⟩
    "C:\\ProgramData\\Tableau\\data".toList noSettings with
    ⟨contents, document, -, loaded, replaced⟩ | raised
  · obtain ⟨body, returned⟩ := replaced.returned
    cases returned
  · cases congrArg Prod.snd raised

end Palette.Sync.Yml
