import Palette.Foundation.KeyedTable

/-!
# Place the items, then delete everything else

Mirroring a list of items places them and deletes the rows that are not in a
collected list: by the collected primary keys, or by the items' keys. Neither deletion
looks at the environment.

Placing makes each item's row appear exactly once with the item's values, and neither
deletion removes it. What can go wrong is the rest. One unknown member of the
collected list keeps the deletion from removing anything, so a row that no item has
survives; and without an unknown member the deletion also removes the rows of other
environments.
-/

namespace Palette.Foundation

open Sql

universe u v w x

variable {Env : Type u} {Key : Type v} {Values : Type w} {Item : Type x}

/-- Delete the rows whose primary key is not in the list. -/
def Table.deleteIds (table : Table Env Key Values) (ids : List (Option Nat)) :
    Table Env Key Values :=
  table.delete fun row => selects (notIn (some row.pk) ids)

/-- A row survives a deletion by primary key exactly when its own is listed, or the
list has an unknown member. -/
theorem mem_deleteIds {table : Table Env Key Values} {ids : List (Option Nat)}
    {row : Row Env Key Values} :
    row ∈ (table.deleteIds ids).rows ↔ row ∈ table.rows ∧ (none ∈ ids ∨ some row.pk ∈ ids) := by
  have selected := selects_notIn (some row.pk) ids
  simp only [Option.some.injEq, exists_eq_left'] at selected
  simp only [Table.deleteIds, Table.delete, List.mem_filter, Bool.not_eq_true',
    ← Bool.not_eq_true, selected]
  tauto

variable [DecidableEq Key]

/-- Delete the rows whose key is not in the list. -/
def Table.deleteKeys (table : Table Env Key Values) (keys : List (Option Key)) :
    Table Env Key Values :=
  table.delete fun row => selects (notIn row.key keys)

/-- A row survives a deletion by key exactly when its key is unknown or listed, or the
list has an unknown member. -/
theorem mem_deleteKeys {table : Table Env Key Values} {keys : List (Option Key)}
    {row : Row Env Key Values} :
    row ∈ (table.deleteKeys keys).rows ↔
      row ∈ table.rows ∧ (row.key = none ∨ none ∈ keys ∨ row.key ∈ keys) := by
  have selected := selects_notIn row.key keys
  simp only [Table.deleteKeys, Table.delete, List.mem_filter, Bool.not_eq_true',
    ← Bool.not_eq_true, selected]
  cases row.key with
  | none => simp
  | some key =>
    simp only [Option.some.injEq, exists_eq_left', reduceCtorEq, false_or]
    tauto

variable [DecidableEq Env]

/-- The rows of an environment are exactly the items: each item has a single row, which
carries the values it assigns, and every row has the key of an item. -/
structure Source.Mirrors (source : Source Item Key Values) (env : Env) (items : List Item)
    (table : Table Env Key Values) : Prop where
  present : ∀ item ∈ items, ∃ row, table.matching env (source.key item) = [row] ∧
    ∃ old, row.values = source.assign item old
  absent : ∀ row ∈ table.rows, row.env = env → row.key ∈ items.map source.key

/-- Exactly one element of a list has the image of an element, when images differ. -/
theorem filter_image_eq_singleton {Element : Type u} {Image : Type v} [DecidableEq Image]
    (image : Element → Image) (elements : List Element) (element : Element)
    (unique : (elements.map image).Nodup) (member : element ∈ elements) :
    (elements.filter fun other => image other = image element) = [element] := by
  induction elements with
  | nil => exact absurd member List.not_mem_nil
  | cons first rest inductionHypothesis =>
    obtain ⟨fresh, restUnique⟩ := List.nodup_cons.mp unique
    rcases List.mem_cons.mp member with rfl | later
    · have none_left : (rest.filter fun other => image other = image element) = [] := by
        rw [List.filter_eq_nil_iff]
        intro other present
        have apart : image other ≠ image element := fun same =>
          fresh (same ▸ List.mem_map_of_mem present)
        simpa using apart
      rw [List.filter_cons_of_pos (by simp), none_left]
    · have apart : image first ≠ image element := fun same =>
        fresh (same ▸ List.mem_map_of_mem later)
      rw [List.filter_cons_of_neg (by simpa using apart), inductionHypothesis restUnique later]

section Placed

variable {source : Source Item Key Values} {env : Env} {table final : Table Env Key Values}
  {items : List Item} {ids : List (Option Nat)} {created : List (Row Env Key Values)}

/-- A row that placing leaves in the environment is a refreshed one or has the key of
an item. -/
theorem Source.Placed.rows_inside (placed : source.Placed env table items final ids created)
    {row : Row Env Key Values} (stored : row ∈ final.rows) (absent : row.key ∉ items.map source.key) :
    row ∈ table.rows := by
  rw [placed.rows] at stored
  rcases List.mem_append.mp stored with old | new
  · obtain ⟨origin, before, rfl⟩ := List.mem_map.mp old
    rw [refresh_key] at absent
    rwa [refresh_of_absent source env items origin fun _ item member same =>
      absent (same ▸ List.mem_map_of_mem member)]
  · obtain ⟨item, member, -, rowKey, -⟩ := placed.created_key new
    exact absurd (rowKey ▸ List.mem_map_of_mem member) absent

/-- A stored row with a key that no item has is still there after placing. -/
theorem Source.Placed.keeps (placed : source.Placed env table items final ids created)
    {row : Row Env Key Values} (stored : row ∈ table.rows)
    (absent : row.env = env → row.key ∉ items.map source.key) : row ∈ final.rows := by
  rw [placed.rows]
  refine List.mem_append_left _ (List.mem_map.mpr ⟨row, stored, ?_⟩)
  exact refresh_of_absent source env items row fun inside item member same =>
    absent inside (same ▸ List.mem_map_of_mem member)

/-- The collected identities have an unknown member exactly when an item was new. -/
theorem Source.Placed.none_mem_ids (placed : source.Placed env table items final ids created) :
    none ∈ ids ↔ ∃ item ∈ items, source.Unmatched env table item := by
  rw [placed.identities, List.mem_map]
  simp only [Source.Unmatched, Option.map_eq_none_iff, List.head?_eq_none_iff]

/-- A known collected identity is the primary key of a row that an item matched. -/
theorem Source.Placed.some_mem_ids (placed : source.Placed env table items final ids created)
    {pk : Nat} (collected : some pk ∈ ids) :
    ∃ row ∈ table.rows, row.env = env ∧ row.key ∈ items.map source.key ∧ row.pk = pk := by
  rw [placed.identities, List.mem_map] at collected
  obtain ⟨item, member, found⟩ := collected
  obtain ⟨row, first, same⟩ := Option.map_eq_some_iff.mp found
  obtain ⟨stored, inside, rowKey⟩ := Table.mem_matching.mp (List.mem_of_head? first)
  exact ⟨row, stored, inside, rowKey ▸ List.mem_map_of_mem member, same⟩

/-- A stored row with the key of an item has its identity collected. -/
theorem Source.Placed.collects (placed : source.Placed env table items final ids created)
    {item : Item} (member : item ∈ items) {row : Row Env Key Values}
    (found : table.matching env (source.key item) = [row]) : some row.pk ∈ ids := by
  rw [placed.identities]
  exact List.mem_map.mpr ⟨item, member, by rw [found]; rfl⟩

/-- Every placed item has a single row with its values, and the collected identities
cannot name it as surplus. A matched row stands where it stood; an unmatched item has
the only created row with its key. -/
theorem Source.Placed.present (placed : source.Placed env table items final ids created)
    (unique : (items.map source.key).Nodup) (item : Item) (member : item ∈ items) :
    ∃ row, final.matching env (source.key item) = [row] ∧
      (∃ old, row.values = source.assign item old) ∧ (none ∈ ids ∨ some row.pk ∈ ids) := by
  have split : final.matching env (source.key item) =
      (table.matching env (source.key item)).map (source.refresh env items) ++
        created.filter fun row => row.env = env ∧ row.key = source.key item := by
    unfold Table.matching
    rw [placed.rows, List.filter_append, List.filter_map]
    congr 2
    refine List.filter_congr fun row _ => ?_
    simp only [Function.comp_apply, refresh_env, refresh_key]
  by_cases unmatched : source.Unmatched env table item
  · have contents : (created.filter fun row => row.env = env ∧ row.key = source.key item).map
        (fun row => (row.key, row.values)) =
        [(source.key item, source.assign item source.blank)] := by
      have byContent : (created.filter fun row => row.env = env ∧ row.key = source.key item) =
          created.filter ((fun content : Option Key × Values =>
            decide (content.1 = source.key item)) ∘ fun row => (row.key, row.values)) := by
        refine List.filter_congr fun row stored => decide_eq_decide.mpr ?_
        simp only [(placed.inside row stored).1, true_and]
      have listed : item ∈ items.filter fun other => source.Unmatched env table other :=
        List.mem_filter.mpr ⟨member, decide_eq_true unmatched⟩
      have uniqueUnmatched :
          ((items.filter fun other => source.Unmatched env table other).map source.key).Nodup :=
        unique.sublist (List.filter_sublist.map source.key)
      rw [byContent, ← List.filter_map, placed.contents, List.filter_map]
      have single := filter_image_eq_singleton source.key _ item uniqueUnmatched listed
      simp only [Function.comp_def] at single ⊢
      rw [single, List.map_singleton]
    obtain ⟨row, only, content⟩ := List.map_eq_singleton_iff.mp contents
    refine ⟨row, ?_, ⟨source.blank, congrArg Prod.snd content⟩,
      .inl (placed.none_mem_ids.mpr ⟨item, member, unmatched⟩)⟩
    rw [split, (unmatched : table.matching env (source.key item) = []), List.map_nil,
      List.nil_append, only]
  · have noneCreated : (created.filter fun row => row.env = env ∧ row.key = source.key item) = [] := by
      rw [List.filter_eq_nil_iff]
      intro row stored
      obtain ⟨origin, listed, originUnmatched, rowKey, -⟩ := placed.created_key stored
      simp only [decide_eq_true_eq, not_and]
      intro _ same
      have equal := List.inj_on_of_nodup_map unique listed member (rowKey.trans same)
      exact unmatched (equal ▸ originUnmatched)
    have bound := placed.single item member
    obtain ⟨row, found⟩ : ∃ row, table.matching env (source.key item) = [row] := by
      refine List.length_eq_one_iff.mp ?_
      have positive := List.length_pos_iff.mpr unmatched
      omega
    obtain ⟨-, inside, rowKey⟩ := Table.mem_matching.mp (found ▸ List.mem_singleton_self row)
    refine ⟨source.refresh env items row, by rw [split, noneCreated, found]; rfl,
      ⟨row.values, ?_⟩, .inr ?_⟩
    · rw [refresh_of_present source env items row item unique member inside rowKey.symm]
    · rw [refresh_pk]
      exact placed.collects member found

/-- Deleting keeps a single match that is not selected. -/
theorem matching_delete (table : Table Env Key Values) (selected : Row Env Key Values → Bool)
    (key : Option Key) (row : Row Env Key Values) (found : table.matching env key = [row])
    (kept : row ∈ (table.delete selected).rows) :
    (table.delete selected).matching env key = [row] := by
  have commuted : (table.delete selected).matching env key =
      (table.matching env key).filter fun row => !selected row := by
    simp only [Table.matching, Table.delete, List.filter_filter, Bool.and_comm]
  have unselected : (!selected row) = true := (List.mem_filter.mp kept).2
  rw [commuted, found, List.filter_eq_self]
  exact fun other member => List.mem_singleton.mp member ▸ unselected

/-- Mirroring by primary keys is exact if and only if no item was new or nothing was to
be removed. A new item makes the deletion remove nothing; otherwise only rows that an
item matched survive it. -/
theorem mirrors_deleteIds (placed : source.Placed env table items final ids created)
    (unique : (items.map source.key).Nodup) :
    source.Mirrors env items (final.deleteIds ids) ↔
      (∀ item ∈ items, ¬ source.Unmatched env table item) ∨
        ∀ row ∈ table.rows, row.env = env → row.key ∈ items.map source.key := by
  constructor
  · intro mirrors
    by_cases new : none ∈ ids
    · refine .inr fun row stored inside => ?_
      by_contra absent
      have survives := mem_deleteIds.mpr ⟨placed.keeps stored fun _ => absent, .inl new⟩
      exact absent (mirrors.absent row survives inside)
    · exact .inl fun item member unmatched =>
        new (placed.none_mem_ids.mpr ⟨item, member, unmatched⟩)
  · intro condition
    refine ⟨fun item member => ?_, fun row stored inside => ?_⟩
    · obtain ⟨row, found, shown, collected⟩ := placed.present unique item member
      have stored := (Table.mem_matching.mp (found ▸ List.mem_singleton_self row)).1
      exact ⟨row, matching_delete final _ _ row found (mem_deleteIds.mpr ⟨stored, collected⟩), shown⟩
    · by_contra absent
      obtain ⟨left, survives⟩ := mem_deleteIds.mp stored
      have before := placed.rows_inside left absent
      rcases condition with matched | nothing
      · rcases survives with new | collected
        · obtain ⟨item, member, unmatched⟩ := placed.none_mem_ids.mp new
          exact matched item member unmatched
        · obtain ⟨other, otherStored, -, otherKey, same⟩ := placed.some_mem_ids collected
          exact absent (table.row_unique otherStored before same ▸ otherKey)
      · exact absent (nothing row before inside)

/-- Mirroring by keys is exact if and only if nothing was to be removed, or neither an
item nor a stored row of the environment has an unknown key. -/
theorem mirrors_deleteKeys (placed : source.Placed env table items final ids created)
    (unique : (items.map source.key).Nodup) :
    source.Mirrors env items (final.deleteKeys (items.map source.key)) ↔
      (∀ row ∈ table.rows, row.env = env → row.key ∈ items.map source.key) ∨
        none ∉ items.map source.key ∧ ∀ row ∈ table.rows, row.env = env → row.key ≠ none := by
  constructor
  · intro mirrors
    by_cases settled : ∀ row ∈ table.rows, row.env = env → row.key ∈ items.map source.key
    · exact .inl settled
    · refine .inr ?_
      push Not at settled
      obtain ⟨surplus, stored, inside, absent⟩ := settled
      have removed : ∀ row ∈ table.rows, row.env = env → row.key ∉ items.map source.key →
          row.key ≠ none ∧ none ∉ items.map source.key := by
        intro row rowStored rowInside rowAbsent
        refine ⟨fun unknown => rowAbsent ?_, fun unknown => rowAbsent ?_⟩ <;>
          refine mirrors.absent row (mem_deleteKeys.mpr ⟨placed.keeps rowStored fun _ => rowAbsent, ?_⟩)
            rowInside
        · exact .inl unknown
        · exact .inr (.inl unknown)
      have known := (removed surplus stored inside absent).2
      refine ⟨known, fun row rowStored rowInside unknown => ?_⟩
      exact (removed row rowStored rowInside (unknown ▸ known)).1 unknown
  · intro condition
    refine ⟨fun item member => ?_, fun row stored inside => ?_⟩
    · obtain ⟨row, found, shown, -⟩ := placed.present unique item member
      obtain ⟨stored, -, rowKey⟩ := Table.mem_matching.mp (found ▸ List.mem_singleton_self row)
      have listed : row.key ∈ items.map source.key := rowKey ▸ List.mem_map_of_mem member
      exact ⟨row, matching_delete final _ _ row found
        (mem_deleteKeys.mpr ⟨stored, .inr (.inr listed)⟩), shown⟩
    · by_contra absent
      obtain ⟨left, survives⟩ := mem_deleteKeys.mp stored
      have before := placed.rows_inside left absent
      rcases condition with nothing | ⟨known, keyed⟩
      · exact absent (nothing row before inside)
      · rcases survives with unknown | unknown | listed
        · exact keyed row before inside unknown
        · exact known unknown
        · exact absent listed

omit [DecidableEq Key] in
/-- Deleting leaves the rows of other environments alone exactly when none of them is
selected. -/
theorem others_delete (table : Table Env Key Values) (selected : Row Env Key Values → Bool) :
    (table.delete selected).others env = table.others env ↔
      ∀ row ∈ table.rows, row.env ≠ env → row ∈ (table.delete selected).rows := by
  have commuted : (table.delete selected).others env =
      (table.others env).filter fun row => !selected row := by
    simp only [Table.others, Table.delete, List.filter_filter, Bool.and_comm]
  rw [commuted, List.filter_eq_self]
  simp only [Table.others, Table.delete, List.mem_filter, decide_eq_true_eq]
  exact ⟨fun kept row stored apart => ⟨stored, kept row ⟨stored, apart⟩⟩,
    fun kept row found => (kept row found.1 found.2).2⟩

/-- Mirroring by primary keys leaves the rows of other environments alone if and only
if an item was new or there are no such rows. -/
theorem others_deleteIds (accepts : List (Row Env Key Values) → Bool)
    (placed : source.placeAll accepts env table items = .ok (final, ids)) :
    (final.deleteIds ids).others env = table.others env ↔
      (∃ item ∈ items, source.Unmatched env table item) ∨
        ∀ row ∈ table.rows, row.env = env := by
  obtain ⟨others, unknown, foreign⟩ := placeAll_others source accepts env table items final ids placed
  rw [← others, Table.deleteIds, others_delete, ← Table.deleteIds, ← unknown]
  constructor
  · intro kept
    by_cases new : none ∈ ids
    · exact .inl new
    · refine .inr fun row stored => ?_
      by_contra apart
      have left := kept row ((Table.mem_of_others others apart).mpr stored) apart
      exact foreign row stored apart ((mem_deleteIds.mp left).2.resolve_left new)
  · rintro (new | alone) row stored apart
    · exact mem_deleteIds.mpr ⟨stored, .inl new⟩
    · exact absurd (alone row ((Table.mem_of_others others apart).mp stored)) apart

/-- Mirroring by keys leaves the rows of other environments alone if and only if an
item has an unknown key or each of those rows has an unknown key or that of an item. -/
theorem others_deleteKeys (accepts : List (Row Env Key Values) → Bool)
    (placed : source.placeAll accepts env table items = .ok (final, ids)) :
    (final.deleteKeys (items.map source.key)).others env = table.others env ↔
      none ∈ items.map source.key ∨
        ∀ row ∈ table.rows, row.env ≠ env → row.key = none ∨ row.key ∈ items.map source.key := by
  obtain ⟨others, -, -⟩ := placeAll_others source accepts env table items final ids placed
  rw [← others, Table.deleteKeys, others_delete, ← Table.deleteKeys]
  constructor
  · intro kept
    by_cases unknown : none ∈ items.map source.key
    · exact .inl unknown
    · refine .inr fun row stored apart => ?_
      have left := kept row ((Table.mem_of_others others apart).mpr stored) apart
      exact (mem_deleteKeys.mp left).2.imp_right fun listed => listed.resolve_left unknown
  · rintro (unknown | covered) row stored apart
    · exact mem_deleteKeys.mpr ⟨stored, .inr (.inl unknown)⟩
    · have cover := covered row ((Table.mem_of_others others apart).mp stored) apart
      exact mem_deleteKeys.mpr ⟨stored, cover.imp_right .inr⟩

end Placed

end Palette.Foundation
