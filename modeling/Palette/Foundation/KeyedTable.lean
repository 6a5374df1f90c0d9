import Mathlib.Data.List.Nodup
import Palette.Foundation.Sql

/-!
# Keyed rows of several environments in one table

A table holds the rows of every environment. A row has a primary key that the table
hands out, the environment it belongs to, a nullable lookup key and its other values.
Primary keys are below the next one to be handed out and pairwise different; the
table carries both facts.

Placing an item looks its key up within one environment. A single match is changed,
no match is inserted, and several matches are a fault. A constraint of the database
may refuse the result. The collected identity of an item is the primary key that its
row had before the item was placed, so an inserted row contributes none.

The result of placing a list of items with different keys has a closed form: matched
rows are refreshed where they stand, rows of other environments are untouched, and one
row for each unmatched item follows them.
-/

namespace Palette.Foundation

open Sql

universe u v w x

/-- A stored row. -/
structure Row (Env : Type u) (Key : Type v) (Values : Type w) where
  pk : Nat
  env : Env
  key : Option Key
  values : Values
  deriving DecidableEq

/-- Stored rows with distinct primary keys below the next free one. -/
structure Table (Env : Type u) (Key : Type v) (Values : Type w) where
  rows : List (Row Env Key Values)
  nextPk : Nat
  below : ∀ row ∈ rows, row.pk < nextPk
  distinct : (rows.map Row.pk).Nodup

/-- Why a list of items could not be placed. -/
inductive Fault where
  | multipleResults
  | integrity
  deriving DecidableEq, Repr

/-- How the items of a reply become rows. -/
structure Source (Item : Type x) (Key : Type v) (Values : Type w) where
  key : Item → Option Key
  assign : Item → Values → Values
  blank : Values

variable {Env : Type u} {Key : Type v} {Values : Type w} {Item : Type x}

namespace Table

/-- A table without rows. -/
def empty : Table Env Key Values := ⟨[], 0, by simp, by simp⟩

/-- A new row takes the next primary key. -/
def insert (table : Table Env Key Values) (env : Env) (key : Option Key) (values : Values) :
    Table Env Key Values where
  rows := table.rows ++ [⟨table.nextPk, env, key, values⟩]
  nextPk := table.nextPk + 1
  below := by
    intro row member
    rcases List.mem_append.mp member with old | new
    · exact Nat.lt_succ_of_lt (table.below row old)
    · rw [List.mem_singleton.mp new]
      exact Nat.lt_succ_self _
  distinct := by
    rw [List.map_append, List.nodup_append]
    refine ⟨table.distinct, List.nodup_singleton _, ?_⟩
    intro pk old other new same
    obtain ⟨row, member, rfl⟩ := List.mem_map.mp old
    have fresh : other = table.nextPk := List.mem_singleton.mp new
    exact absurd (table.below row member) (by omega)

/-- Change the values of the selected rows. -/
def reviseWhere (table : Table Env Key Values) (selected : Row Env Key Values → Bool)
    (change : Values → Values) : Table Env Key Values where
  rows := table.rows.map fun row =>
    if selected row then { row with values := change row.values } else row
  nextPk := table.nextPk
  below := by
    intro row member
    obtain ⟨old, stored, rfl⟩ := List.mem_map.mp member
    have bound := table.below old stored
    split <;> exact bound
  distinct := by
    have same : (table.rows.map fun row =>
        if selected row then { row with values := change row.values } else row).map Row.pk =
        table.rows.map Row.pk := by
      rw [List.map_map]
      refine List.map_congr_left fun row _ => ?_
      simp only [Function.comp_apply]
      split <;> rfl
    exact same ▸ table.distinct

/-- Change the values of the row with a primary key. -/
def revise (table : Table Env Key Values) (pk : Nat) (change : Values → Values) :
    Table Env Key Values :=
  table.reviseWhere (fun row => row.pk = pk) change

/-- Delete the selected rows. -/
def delete (table : Table Env Key Values) (selected : Row Env Key Values → Bool) :
    Table Env Key Values where
  rows := table.rows.filter fun row => !selected row
  nextPk := table.nextPk
  below row member := table.below row (List.mem_of_mem_filter member)
  distinct := (table.distinct.sublist ((List.filter_sublist).map Row.pk))

/-- Equal primary keys belong to one row. -/
theorem row_unique (table : Table Env Key Values) {left right : Row Env Key Values}
    (leftStored : left ∈ table.rows) (rightStored : right ∈ table.rows)
    (same : left.pk = right.pk) : left = right :=
  List.inj_on_of_nodup_map table.distinct leftStored rightStored same

variable [DecidableEq Env]

/-- The rows of all other environments, in stored order. -/
def others (table : Table Env Key Values) (env : Env) : List (Row Env Key Values) :=
  table.rows.filter fun row => row.env ≠ env

/-- Tables with the same other rows store the same rows of other environments. -/
theorem mem_of_others {left right : Table Env Key Values} {env : Env}
    (same : left.others env = right.others env) {row : Row Env Key Values} (apart : row.env ≠ env) :
    row ∈ left.rows ↔ row ∈ right.rows := by
  have members : row ∈ left.others env ↔ row ∈ right.others env := by rw [same]
  simpa only [others, List.mem_filter, ne_eq, apart, not_false_eq_true, decide_true,
    and_true] using members

/-- A new row of an environment is not one of the others. -/
theorem others_insert (table : Table Env Key Values) (env : Env) (key : Option Key)
    (values : Values) : (table.insert env key values).others env = table.others env := by
  simp [others, insert]

/-- Changing values leaves the other environments' rows alone exactly when it leaves
each of them alone. -/
theorem others_reviseWhere (table : Table Env Key Values) (env : Env)
    (selected : Row Env Key Values → Bool) (change : Values → Values) :
    (table.reviseWhere selected change).others env = table.others env ↔
      ∀ row ∈ table.rows, row.env ≠ env → selected row = true → change row.values = row.values := by
  have commuted : (table.reviseWhere selected change).others env = (table.others env).map fun row =>
      if selected row then { row with values := change row.values } else row := by
    simp only [others, reviseWhere, List.filter_map]
    congr 1
    refine List.filter_congr fun row _ => ?_
    simp only [Function.comp_apply]
    split <;> rfl
  rw [commuted]
  constructor
  · intro same row stored apart chosen
    have listed : row ∈ table.others env := List.mem_filter.mpr ⟨stored, by simpa using apart⟩
    have kept := List.map_inj_left.mp (same.trans (List.map_id' _).symm) row listed
    rw [if_pos chosen] at kept
    exact congrArg Row.values kept
  · intro unchanged
    refine (List.map_congr_left fun row listed => ?_).trans (List.map_id' _)
    obtain ⟨stored, apart⟩ := List.mem_filter.mp listed
    split
    · next chosen => rw [unchanged row stored (by simpa using apart) chosen]
    · rfl

/-- Changing a row of an environment leaves all others alone. -/
theorem others_revise (table : Table Env Key Values) {row : Row Env Key Values}
    (stored : row ∈ table.rows) (change : Values → Values) :
    (table.revise row.pk change).others row.env = table.others row.env := by
  refine (others_reviseWhere table row.env _ change).mpr fun other otherStored apart chosen => ?_
  exact absurd (congrArg Row.env (table.row_unique otherStored stored (of_decide_eq_true chosen))) apart

variable [DecidableEq Key]

/-- The rows of an environment that have a key; a NULL key is looked up as `IS NULL`. -/
def matching (table : Table Env Key Values) (env : Env) (key : Option Key) :
    List (Row Env Key Values) :=
  table.rows.filter fun row => row.env = env ∧ row.key = key

/-- A row matches exactly when it is stored with that environment and key. -/
theorem mem_matching {table : Table Env Key Values} {env : Env} {key : Option Key}
    {row : Row Env Key Values} :
    row ∈ table.matching env key ↔ row ∈ table.rows ∧ row.env = env ∧ row.key = key := by
  simp only [matching, List.mem_filter, decide_eq_true_eq]

/-- Nothing matches exactly when no stored row has that environment and key. -/
theorem matching_eq_nil {table : Table Env Key Values} {env : Env} {key : Option Key} :
    table.matching env key = [] ↔ ∀ row ∈ table.rows, row.env = env → row.key ≠ key := by
  simp only [matching, List.filter_eq_nil_iff, decide_eq_true_eq, not_and]

end Table

/-- Changes reach the database together with an identity, if its constraints accept them. -/
def flush (accepts : List (Row Env Key Values) → Bool) (next : Table Env Key Values)
    (id : Option Nat) : Except Fault (Table Env Key Values × Option Nat) :=
  if accepts next.rows then .ok (next, id) else .error .integrity

/-- A flush that succeeds hands on exactly what it was given. -/
theorem flush_eq_ok {accepts : List (Row Env Key Values) → Bool} {next final : Table Env Key Values}
    {id kept : Option Nat} (flushed : flush accepts next id = .ok (final, kept)) :
    final = next ∧ kept = id := by
  unfold flush at flushed
  split at flushed
  · cases flushed
    exact ⟨rfl, rfl⟩
  · cases flushed

section Placing

variable [DecidableEq Env] [DecidableEq Key]

/-- The row of an item that none of the environment's rows matches. -/
def Source.Unmatched (source : Source Item Key Values) (env : Env)
    (table : Table Env Key Values) (item : Item) : Prop :=
  table.matching env (source.key item) = []

instance (source : Source Item Key Values) (env : Env) (table : Table Env Key Values)
    (item : Item) : Decidable (source.Unmatched env table item) :=
  decidable_of_iff ((table.matching env (source.key item)).isEmpty = true) List.isEmpty_iff

/-- Place one item: change its single match or insert a row. -/
def Source.place (source : Source Item Key Values) (accepts : List (Row Env Key Values) → Bool)
    (env : Env) (table : Table Env Key Values) (item : Item) :
    Except Fault (Table Env Key Values × Option Nat) :=
  match table.matching env (source.key item) with
  | [] => flush accepts
      (table.insert env (source.key item) (source.assign item source.blank)) none
  | [row] => flush accepts (table.revise row.pk (source.assign item)) (some row.pk)
  | _ => .error .multipleResults

/-- Place the items in order and collect their identities. -/
def Source.placeAll (source : Source Item Key Values) (accepts : List (Row Env Key Values) → Bool)
    (env : Env) : Table Env Key Values → List Item →
    Except Fault (Table Env Key Values × List (Option Nat))
  | table, [] => .ok (table, [])
  | table, item :: rest => do
      let placed ← source.place accepts env table item
      let final ← source.placeAll accepts env placed.1 rest
      return (final.1, placed.2 :: final.2)

/-- A row of the environment takes the values of the item with its key. -/
def Source.refresh (source : Source Item Key Values) (env : Env) (items : List Item)
    (row : Row Env Key Values) : Row Env Key Values :=
  if row.env = env then
    match items.find? fun item => source.key item = row.key with
    | some item => { row with values := source.assign item row.values }
    | none => row
  else row

@[simp] theorem refresh_pk (source : Source Item Key Values) (env : Env) (items : List Item)
    (row : Row Env Key Values) : (source.refresh env items row).pk = row.pk := by
  unfold Source.refresh
  split
  · split <;> rfl
  · rfl

@[simp] theorem refresh_env (source : Source Item Key Values) (env : Env) (items : List Item)
    (row : Row Env Key Values) : (source.refresh env items row).env = row.env := by
  unfold Source.refresh
  split
  · split <;> rfl
  · rfl

@[simp] theorem refresh_key (source : Source Item Key Values) (env : Env) (items : List Item)
    (row : Row Env Key Values) : (source.refresh env items row).key = row.key := by
  unfold Source.refresh
  split
  · split <;> rfl
  · rfl

/-- A row of another environment, or with a key that no item has, is left alone. -/
theorem refresh_of_absent (source : Source Item Key Values) (env : Env) (items : List Item)
    (row : Row Env Key Values) (absent : row.env = env → ∀ item ∈ items, source.key item ≠ row.key) :
    source.refresh env items row = row := by
  unfold Source.refresh
  by_cases inside : row.env = env
  · have missing : items.find? (fun item => decide (source.key item = row.key)) = none := by
      rw [List.find?_eq_none]
      intro item member
      simpa using absent inside item member
    rw [if_pos inside, missing]
  · rw [if_neg inside]

/-- Among items with different keys, a row takes the values of the one with its key. -/
theorem refresh_of_present (source : Source Item Key Values) (env : Env) (items : List Item)
    (row : Row Env Key Values) (item : Item) (unique : (items.map source.key).Nodup)
    (member : item ∈ items) (inside : row.env = env) (same : source.key item = row.key) :
    source.refresh env items row = { row with values := source.assign item row.values } := by
  have found : items.find? (fun other => decide (source.key other = row.key)) = some item := by
    cases search : items.find? (fun other => decide (source.key other = row.key)) with
    | none =>
      rw [List.find?_eq_none] at search
      exact absurd same (by simpa using search item member)
    | some other =>
      have otherSame : source.key other = row.key := by simpa using List.find?_some search
      have equal := List.inj_on_of_nodup_map unique (List.mem_of_find?_eq_some search) member
        (otherSame.trans same.symm)
      rw [equal]
  unfold Source.refresh
  rw [if_pos inside, found]

/-- With different keys, refreshing by the first item and then by the rest is
refreshing by all. -/
theorem refresh_cons (source : Source Item Key Values) (env : Env) (item : Item)
    (rest : List Item) (row : Row Env Key Values)
    (fresh : source.key item ∉ rest.map source.key) :
    source.refresh env rest (source.refresh env [item] row) =
      source.refresh env (item :: rest) row := by
  by_cases inside : row.env = env
  · by_cases same : source.key item = row.key
    · have absent : ∀ other ∈ rest, source.key other ≠ row.key := fun other member equal =>
        fresh (same.trans equal.symm ▸ List.mem_map_of_mem member)
      rw [refresh_of_absent source env rest _ (by simpa using fun _ => absent)]
      simp only [Source.refresh, if_pos inside, List.find?_cons, same, decide_true]
    · have skipped : source.refresh env [item] row = row :=
        refresh_of_absent source env [item] row (by simpa using fun _ => same)
      rw [skipped]
      simp only [Source.refresh, if_pos inside, List.find?_cons, same, decide_false]
  · rw [refresh_of_absent source env [item] row (fun same => absurd same inside)]
    simp only [Source.refresh, if_neg inside]

/-- What a list of items leaves behind: refreshed rows where they stood, then one row
for each unmatched item, with a primary key that was not in use. -/
structure Source.Placed (source : Source Item Key Values) (env : Env)
    (table : Table Env Key Values) (items : List Item) (final : Table Env Key Values)
    (ids : List (Option Nat)) (created : List (Row Env Key Values)) : Prop where
  rows : final.rows = table.rows.map (source.refresh env items) ++ created
  inside : ∀ row ∈ created, row.env = env ∧ table.nextPk ≤ row.pk
  contents : created.map (fun row => (row.key, row.values)) =
    (items.filter fun item => source.Unmatched env table item).map
      fun item => (source.key item, source.assign item source.blank)
  single : ∀ item ∈ items, (table.matching env (source.key item)).length ≤ 1
  identities : ids = items.map fun item =>
    (table.matching env (source.key item)).head?.map Row.pk
  grown : table.nextPk ≤ final.nextPk

/-- An item without a match adds its row and leaves every stored row alone. -/
theorem insert_placed (source : Source Item Key Values) (env : Env)
    (table : Table Env Key Values) (item : Item) (missing : source.Unmatched env table item) :
    source.Placed env table [item]
      (table.insert env (source.key item) (source.assign item source.blank)) [none]
      [⟨table.nextPk, env, source.key item, source.assign item source.blank⟩] where
  rows := by
    have kept : ∀ row ∈ table.rows, source.refresh env [item] row = row := by
      intro row stored
      refine refresh_of_absent source env [item] row fun inside other member same => ?_
      rw [List.mem_singleton.mp member] at same
      exact Table.matching_eq_nil.mp missing row stored inside same.symm
    rw [List.map_congr_left kept, List.map_id']
    rfl
  inside row member := by
    rw [List.mem_singleton.mp member]
    exact ⟨rfl, Nat.le_refl _⟩
  contents := by simp [missing]
  single other member := by
    rw [List.mem_singleton.mp member, missing]
    exact Nat.zero_le _
  identities := by
    have none_matches : table.matching env (source.key item) = [] := missing
    simp [none_matches]
  grown := Nat.le_succ _

/-- An item with a single match refreshes it. No other row has its primary key, and
no other row matches. -/
theorem revise_placed (source : Source Item Key Values) (env : Env)
    (table : Table Env Key Values) (item : Item) (row : Row Env Key Values)
    (found : table.matching env (source.key item) = [row]) :
    source.Placed env table [item] (table.revise row.pk (source.assign item)) [some row.pk] [] where
  rows := by
    have rowMatches := Table.mem_matching.mp (found ▸ List.mem_singleton_self row)
    rw [List.append_nil]
    refine List.map_congr_left fun other stored => ?_
    by_cases same : other.pk = row.pk
    · rw [if_pos (decide_eq_true same), table.row_unique stored rowMatches.1 same]
      exact (refresh_of_present source env [item] row item (List.nodup_singleton _)
        (List.mem_singleton_self item) rowMatches.2.1 rowMatches.2.2.symm).symm
    · rw [if_neg (by simpa using same)]
      refine (refresh_of_absent source env [item] other fun inside another member equal => ?_).symm
      rw [List.mem_singleton.mp member] at equal
      have matched : other ∈ table.matching env (source.key item) :=
        Table.mem_matching.mpr ⟨stored, inside, equal.symm⟩
      rw [found, List.mem_singleton] at matched
      exact same (congrArg Row.pk matched)
  inside _ member := absurd member List.not_mem_nil
  contents := by simp [Source.Unmatched, found]
  single other member := by
    rw [List.mem_singleton.mp member, found]
    exact Nat.le_refl _
  identities := by simp [found]
  grown := Nat.le_refl _

/-- Placing one item either inserts its row or refreshes its single match. -/
theorem place_placed (source : Source Item Key Values) (accepts : List (Row Env Key Values) → Bool)
    (env : Env) (table : Table Env Key Values) (item : Item) (final : Table Env Key Values)
    (id : Option Nat) (placed : source.place accepts env table item = .ok (final, id)) :
    ∃ created, source.Placed env table [item] final [id] created := by
  unfold Source.place at placed
  split at placed
  · next missing =>
    obtain ⟨rfl, rfl⟩ := flush_eq_ok placed
    exact ⟨_, insert_placed source env table item missing⟩
  · next row found =>
    obtain ⟨rfl, rfl⟩ := flush_eq_ok placed
    exact ⟨_, revise_placed source env table item row found⟩
  · cases placed

/-- Each row that placing an item created has the item's key. -/
theorem Source.Placed.created_key {source : Source Item Key Values} {env : Env}
    {table next : Table Env Key Values} {items : List Item} {ids : List (Option Nat)}
    {created : List (Row Env Key Values)}
    (placed : source.Placed env table items next ids created) {row : Row Env Key Values}
    (member : row ∈ created) :
    ∃ item ∈ items, source.Unmatched env table item ∧ source.key item = row.key ∧
      source.assign item source.blank = row.values := by
  have content : (row.key, row.values) ∈ created.map fun row => (row.key, row.values) :=
    List.mem_map_of_mem member
  rw [placed.contents] at content
  obtain ⟨item, kept, same⟩ := List.mem_map.mp content
  obtain ⟨listed, unmatched⟩ := List.mem_filter.mp kept
  exact ⟨item, listed, of_decide_eq_true unmatched, congrArg Prod.fst same,
    congrArg Prod.snd same⟩

/-- Placing an item changes neither which rows match another key nor their primary
keys, because it changes no key and adds a row with its own. -/
theorem Source.Placed.matching_other {source : Source Item Key Values} {env : Env}
    {table next : Table Env Key Values} {item : Item} {ids : List (Option Nat)}
    {created : List (Row Env Key Values)}
    (placed : source.Placed env table [item] next ids created) (key : Option Key)
    (apart : key ≠ source.key item) :
    next.matching env key = (table.matching env key).map (source.refresh env [item]) := by
  have others : created.filter (fun row => decide (row.env = env ∧ row.key = key)) = [] := by
    rw [List.filter_eq_nil_iff]
    intro row member
    obtain ⟨origin, listed, -, rowKey, -⟩ := placed.created_key member
    rw [List.mem_singleton.mp listed] at rowKey
    simp only [decide_eq_true_eq, not_and]
    exact fun _ equal => apart (equal.symm.trans rowKey.symm)
  unfold Table.matching
  rw [placed.rows, List.filter_append, others, List.append_nil, List.filter_map]
  congr 1
  refine List.filter_congr fun row _ => ?_
  simp only [Function.comp_apply, refresh_env, refresh_key]

/-- Placing an item and then the others, whose keys differ from its own, composes. -/
theorem Source.Placed.cons {source : Source Item Key Values} {env : Env}
    {table next final : Table Env Key Values} {item : Item} {rest : List Item} {id : Option Nat}
    {ids : List (Option Nat)} {head tail : List (Row Env Key Values)}
    (fresh : source.key item ∉ rest.map source.key)
    (first : source.Placed env table [item] next [id] head)
    (second : source.Placed env next rest final ids tail) :
    source.Placed env table (item :: rest) final (id :: ids) (head ++ tail) := by
  have others : ∀ other ∈ rest, next.matching env (source.key other) =
      (table.matching env (source.key other)).map (source.refresh env [item]) :=
    fun other member => first.matching_other _ fun same =>
      fresh (same ▸ List.mem_map_of_mem member)
  have headKept : head.map (source.refresh env rest) = head := by
    refine (List.map_congr_left fun row member => ?_).trans (List.map_id' head)
    obtain ⟨origin, listed, -, rowKey, -⟩ := first.created_key member
    rw [List.mem_singleton.mp listed] at rowKey
    exact refresh_of_absent source env rest row fun _ other present same =>
      fresh (rowKey.trans same.symm ▸ List.mem_map_of_mem present)
  refine ⟨?_, ?_, ?_, ?_, ?_, Nat.le_trans first.grown second.grown⟩
  · rw [second.rows, first.rows, List.map_append, headKept, List.map_map, List.append_assoc]
    congr 1
    exact List.map_congr_left fun row _ => refresh_cons source env item rest row fresh
  · intro row member
    rcases List.mem_append.mp member with early | late
    · exact first.inside row early
    · obtain ⟨inside, bound⟩ := second.inside row late
      exact ⟨inside, Nat.le_trans first.grown bound⟩
  · have unchanged : (rest.filter fun other => source.Unmatched env next other) =
        rest.filter fun other => source.Unmatched env table other := by
      refine List.filter_congr fun other member => decide_eq_decide.mpr ?_
      simp only [Source.Unmatched, others other member, List.map_eq_nil_iff]
    rw [List.map_append, first.contents, second.contents, unchanged, ← List.map_append,
      ← List.filter_append, List.singleton_append]
  · intro other member
    rcases List.mem_cons.mp member with rfl | later
    · exact first.single other (List.mem_singleton_self other)
    · have bound := second.single other later
      rwa [others other later, List.length_map] at bound
  · have headId : id = (table.matching env (source.key item)).head?.map Row.pk :=
      List.head_eq_of_cons_eq first.identities
    rw [second.identities, List.map_cons]
    refine congrArg₂ List.cons headId (List.map_congr_left fun other member => ?_)
    rw [others other member, List.head?_map, Option.map_map]
    congr 1
    funext row
    exact refresh_pk source env [item] row

/-- The closed form of placing a list of items with different keys, by induction on
the list. The first item does not disturb what the others match. -/
theorem placeAll_placed (source : Source Item Key Values)
    (accepts : List (Row Env Key Values) → Bool) (env : Env) (table : Table Env Key Values)
    (items : List Item) (final : Table Env Key Values) (ids : List (Option Nat))
    (unique : (items.map source.key).Nodup)
    (placed : source.placeAll accepts env table items = .ok (final, ids)) :
    ∃ created, source.Placed env table items final ids created := by
  induction items generalizing table final ids with
  | nil =>
    cases placed
    refine ⟨[], ?_, by simp, by simp, by simp, by simp, Nat.le_refl _⟩
    have kept : ∀ row ∈ table.rows, source.refresh env [] row = row :=
      fun row _ => refresh_of_absent source env [] row (by simp)
    rw [List.map_congr_left kept, List.map_id', List.append_nil]
  | cons item rest inductionHypothesis =>
    obtain ⟨fresh, restUnique⟩ := List.nodup_cons.mp unique
    unfold Source.placeAll at placed
    cases first : source.place accepts env table item with
    | error fault => simp [first, bind, Except.bind] at placed
    | ok next =>
      obtain ⟨next, id⟩ := next
      cases remaining : source.placeAll accepts env next rest with
      | error fault => simp [first, remaining, bind, Except.bind] at placed
      | ok last =>
        obtain ⟨last, restIds⟩ := last
        simp only [first, remaining, bind, Except.bind, pure, Except.pure, Except.ok.injEq,
          Prod.mk.injEq] at placed
        obtain ⟨rfl, rfl⟩ := placed
        obtain ⟨head, headPlaced⟩ := place_placed source accepts env table item next id first
        obtain ⟨tail, tailPlaced⟩ := inductionHypothesis next last restIds restUnique remaining
        exact ⟨head ++ tail, headPlaced.cons fresh tailPlaced⟩

/-- Changing values changes neither which rows match a key nor whether any does. -/
theorem revise_unmatched (source : Source Item Key Values) (env : Env)
    (table : Table Env Key Values) (pk : Nat) (change : Values → Values) (item : Item) :
    source.Unmatched env (table.revise pk change) item ↔ source.Unmatched env table item := by
  unfold Source.Unmatched
  rw [Table.matching_eq_nil, Table.matching_eq_nil]
  simp only [Table.revise, Table.reviseWhere, List.mem_map, forall_exists_index, and_imp,
    forall_apply_eq_imp_iff₂]
  refine forall_congr' fun row => forall_congr' fun _ => ?_
  split <;> rfl

/-- Whatever the items, placing them leaves the other environments' rows in their order,
collects no identity of theirs, and collects an unknown one exactly when an item was
new. Induct on the items; a later item may match a row that an earlier one inserted,
but then an unknown identity was collected already. -/
theorem placeAll_others (source : Source Item Key Values)
    (accepts : List (Row Env Key Values) → Bool) (env : Env) (table : Table Env Key Values)
    (items : List Item) (final : Table Env Key Values) (ids : List (Option Nat))
    (placed : source.placeAll accepts env table items = .ok (final, ids)) :
    final.others env = table.others env ∧
      (none ∈ ids ↔ ∃ item ∈ items, source.Unmatched env table item) ∧
      ∀ row ∈ table.rows, row.env ≠ env → some row.pk ∉ ids := by
  induction items generalizing table final ids with
  | nil =>
    cases placed
    simp
  | cons item rest inductionHypothesis =>
    unfold Source.placeAll at placed
    cases first : source.place accepts env table item with
    | error fault => simp [first, bind, Except.bind] at placed
    | ok next =>
      obtain ⟨next, id⟩ := next
      cases remaining : source.placeAll accepts env next rest with
      | error fault => simp [first, remaining, bind, Except.bind] at placed
      | ok last =>
        obtain ⟨last, restIds⟩ := last
        simp only [first, remaining, bind, Except.bind, pure, Except.pure, Except.ok.injEq,
          Prod.mk.injEq] at placed
        obtain ⟨rfl, rfl⟩ := placed
        obtain ⟨others, unknown, foreign⟩ := inductionHypothesis next last restIds remaining
        unfold Source.place at first
        split at first
        · next missing =>
          obtain ⟨rfl, rfl⟩ := flush_eq_ok first
          have inserted := Table.others_insert table env (source.key item)
            (source.assign item source.blank)
          refine ⟨others.trans inserted, ?_, fun row stored apart listed => ?_⟩
          · exact ⟨fun _ => ⟨item, List.mem_cons_self, missing⟩, fun _ => List.mem_cons_self⟩
          · rcases List.mem_cons.mp listed with impossible | later
            · cases impossible
            · exact foreign row ((Table.mem_of_others inserted apart).mpr stored) apart later
        · next match_ found =>
          obtain ⟨rfl, rfl⟩ := flush_eq_ok first
          obtain ⟨matchStored, inside, -⟩ :=
            Table.mem_matching.mp (found ▸ List.mem_singleton_self match_)
          have revised : (table.revise match_.pk (source.assign item)).others env =
              table.others env := inside ▸ Table.others_revise table matchStored _
          have matched : ¬ source.Unmatched env table item := by
            unfold Source.Unmatched
            rw [found]
            exact List.cons_ne_nil _ _
          refine ⟨others.trans revised, ?_, fun row stored apart listed => ?_⟩
          · simp only [List.mem_cons, reduceCtorEq, false_or, unknown, revise_unmatched,
              exists_eq_or_imp, matched, false_or]
          · rcases List.mem_cons.mp listed with same | later
            · have equal := table.row_unique stored matchStored (Option.some.inj same)
              exact apart (equal ▸ inside)
            · exact foreign row ((Table.mem_of_others revised apart).mpr stored) apart later
        · cases first

end Placing

end Palette.Foundation
