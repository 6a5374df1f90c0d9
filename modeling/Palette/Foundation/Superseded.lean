import Mathlib.Data.List.Dedup
import Mathlib.Order.Basic
import Palette.Foundation.Sql

/-!
# Deleting superseded rows

A statement deletes every row whose group and age are not in the list of the newest ages of
the groups, where only rows that meet a condition count and are deleted. The pairs are compared
column by column: a comparison with a NULL is unknown unless another column decides it, and a
row is deleted only where no comparison leaves it open. So a row of another group can spare a
row of its age if one of the two has no group.
-/

namespace Palette.Foundation.Sql

universe u v

variable {Key : Type u} {Row : Type v} [DecidableEq Key]

/-- Conjunction: one false operand suffices, else one unknown operand leaves it open. -/
def both : Truth → Truth → Truth
  | some false, _ => some false
  | _, some false => some false
  | some true, some true => some true
  | _, _ => none

/-- Equality of pairs. -/
def pairEqual (value other : Option Key × Option Nat) : Truth :=
  both (equal value.1 other.1) (equal value.2 other.2)

/-- `(first, second) IN (values)`. -/
def pairIn (value : Option Key × Option Nat) : List (Option Key × Option Nat) → Truth
  | [] => some false
  | first :: rest => either (pairEqual value first) (pairIn value rest)

/-- `(first, second) NOT IN (values)`. -/
def pairNotIn (value : Option Key × Option Nat) (values : List (Option Key × Option Nat)) :
    Truth := (pairIn value values).map not

/-- A conjunction is false exactly when an operand is. -/
theorem both_eq_false (left right : Truth) :
    both left right = some false ↔ left = some false ∨ right = some false := by
  rcases left with _ | _ | _ <;> rcases right with _ | _ | _ <;> simp [both]

/-- A conjunction selects what both operands select. -/
theorem selects_both (left right : Truth) :
    selects (both left right) = true ↔ selects left = true ∧ selects right = true := by
  rcases left with _ | _ | _ <;> rcases right with _ | _ | _ <;> simp [both, selects]

/-- A pair is certain not to be in a list when every comparison is false. -/
theorem pairIn_eq_false (value : Option Key × Option Nat)
    (values : List (Option Key × Option Nat)) :
    pairIn value values = some false ↔ ∀ other ∈ values, pairEqual value other = some false := by
  induction values with
  | nil => simp [pairIn]
  | cons first rest inductionHypothesis =>
    rw [pairIn, either_eq_false, inductionHypothesis, List.forall_mem_cons]

/-- A negated membership selects the pairs that are certain not to be in the list. -/
theorem selects_pairNotIn (value : Option Key × Option Nat)
    (values : List (Option Key × Option Nat)) :
    selects (pairNotIn value values) = true ↔
      ∀ other ∈ values, pairEqual value other = some false := by
  rw [← pairIn_eq_false]
  unfold selects pairNotIn
  rcases pairIn value values with _ | _ | _ <;> simp

/-- The columns that the statement reads. -/
structure Columns (Row : Type v) (Key : Type u) where
  group : Row → Option Key
  age : Row → Nat
  counts : Row → Truth

namespace Columns

variable (columns : Columns Row Key)

/-- A row that the statement counts. -/
def Counts (row : Row) : Prop := selects (columns.counts row) = true

instance (row : Row) : Decidable (columns.Counts row) := inferInstanceAs (Decidable (_ = _))

/-- The rows of a group that count. -/
def members (rows : List Row) (group : Option Key) : List Row :=
  rows.filter fun row => columns.Counts row ∧ columns.group row = group

/-- `SELECT group, max(age) … WHERE counts GROUP BY group`. -/
def newest (rows : List Row) : List (Option Key × Option Nat) :=
  ((rows.filter fun row => columns.Counts row).map columns.group).dedup.map fun group =>
    (group, ((columns.members rows group).map columns.age).max?)

/-- `DELETE … WHERE (group, age) NOT IN newest AND counts`: the rows that are deleted. -/
def deletes (rows : List Row) (row : Row) : Bool :=
  selects (both (pairNotIn (columns.group row, some (columns.age row)) (columns.newest rows))
    (columns.counts row))

/-- A later row of the group counts. -/
def Superseded (rows : List Row) (row : Row) : Prop :=
  ∃ later ∈ rows, columns.Counts later ∧ columns.group later = columns.group row ∧
    columns.age row < columns.age later

/-- A row is the newest of its group that counts. -/
def IsNewest (rows : List Row) (row : Row) : Prop :=
  row ∈ rows ∧ columns.Counts row ∧ ∀ other ∈ rows, columns.Counts other →
    columns.group other = columns.group row → columns.age other ≤ columns.age row

/-- The newest row of another group has the age of a row, and one of them has no group. -/
def Spared (rows : List Row) (row : Row) : Prop :=
  ∃ newest, columns.IsNewest rows newest ∧ columns.age newest = columns.age row ∧
    columns.group newest ≠ columns.group row ∧
    (columns.group newest = none ∨ columns.group row = none)

variable {columns} {rows : List Row}

theorem mem_members {row : Row} {group : Option Key} :
    row ∈ columns.members rows group ↔
      row ∈ rows ∧ columns.Counts row ∧ columns.group row = group := by
  simp [members]

/-- The listed pairs are those of the newest rows. -/
theorem mem_newest {group : Option Key} {age : Option Nat} :
    (group, age) ∈ columns.newest rows ↔
      ∃ row, columns.IsNewest rows row ∧ columns.group row = group ∧
        some (columns.age row) = age := by
  simp only [newest, List.mem_map, List.mem_dedup, List.mem_filter, decide_eq_true_eq,
    Prod.mk.injEq]
  constructor
  · rintro ⟨chosen, ⟨row, ⟨stored, counts⟩, rfl⟩, rfl, rfl⟩
    cases greatest : ((columns.members rows (columns.group row)).map columns.age).max? with
    | none =>
      have empty := List.map_eq_nil_iff.mp (List.max?_eq_none_iff.mp greatest)
      exact absurd (mem_members.mpr ⟨stored, counts, rfl⟩) (empty ▸ List.not_mem_nil)
    | some age =>
      obtain ⟨listed, bound⟩ := List.max?_eq_some_iff.mp greatest
      obtain ⟨newest, member, rfl⟩ := List.mem_map.mp listed
      obtain ⟨newestStored, newestCounts, same⟩ := mem_members.mp member
      refine ⟨newest, ⟨newestStored, newestCounts, fun other otherStored otherCounts group => ?_⟩,
        same, rfl⟩
      exact bound _ (List.mem_map_of_mem
        (mem_members.mpr ⟨otherStored, otherCounts, group.trans same⟩))
  · rintro ⟨row, ⟨stored, counts, greatest⟩, rfl, rfl⟩
    refine ⟨columns.group row, ⟨row, ⟨stored, counts⟩, rfl⟩, rfl, ?_⟩
    refine List.max?_eq_some_iff.mpr ⟨List.mem_map_of_mem
      (mem_members.mpr ⟨stored, counts, rfl⟩), fun age listed => ?_⟩
    obtain ⟨other, member, rfl⟩ := List.mem_map.mp listed
    obtain ⟨otherStored, otherCounts, same⟩ := mem_members.mp member
    exact greatest other otherStored otherCounts same

/-- Comparing a row with the newest one of a group is false where the groups are known to
differ, and where the ages do. -/
theorem pairEqual_eq_false (group other : Option Key) (age otherAge : Nat) :
    pairEqual (group, some age) (other, some otherAge) = some false ↔
      (group ≠ other ∧ group ≠ none ∧ other ≠ none) ∨ age ≠ otherAge := by
  rw [pairEqual, both_eq_false, equal_eq_false, equal_eq_false]
  cases group <;> cases other <;> simp

/-- A row that has a row of its group has a newest one. -/
theorem exists_newest {row : Row} (stored : row ∈ rows) (counts : columns.Counts row) :
    ∃ newest, columns.IsNewest rows newest ∧ columns.group newest = columns.group row := by
  have listed : (columns.group row,
      ((columns.members rows (columns.group row)).map columns.age).max?) ∈ columns.newest rows :=
    List.mem_map_of_mem (List.mem_dedup.mpr (List.mem_map_of_mem
      (List.mem_filter.mpr ⟨stored, decide_eq_true counts⟩)))
  obtain ⟨newest, isNewest, same, -⟩ := mem_newest.mp listed
  exact ⟨newest, isNewest, same⟩

/-- Exactly the rows that count and are superseded are deleted, but for those that are spared. -/
theorem deletes_iff {row : Row} (stored : row ∈ rows) :
    columns.deletes rows row = true ↔
      columns.Counts row ∧ columns.Superseded rows row ∧ ¬ columns.Spared rows row := by
  rw [deletes, selects_both, selects_pairNotIn, and_comm]
  refine and_congr_right fun counts => ?_
  have compared : (∀ other ∈ columns.newest rows,
      pairEqual (columns.group row, some (columns.age row)) other = some false) ↔
      ∀ newest, columns.IsNewest rows newest →
        (columns.group row ≠ columns.group newest ∧ columns.group row ≠ none ∧
          columns.group newest ≠ none) ∨ columns.age row ≠ columns.age newest := by
    constructor
    · intro all newest isNewest
      exact (pairEqual_eq_false ..).mp (all _ (mem_newest.mpr ⟨newest, isNewest, rfl, rfl⟩))
    · rintro all ⟨group, age⟩ listed
      obtain ⟨newest, isNewest, rfl, rfl⟩ := mem_newest.mp listed
      exact (pairEqual_eq_false ..).mpr (all newest isNewest)
  rw [compared]
  constructor
  · intro all
    constructor
    · obtain ⟨newest, isNewest, same⟩ := exists_newest stored counts
      have bound := isNewest.2.2 row stored counts same.symm
      have different := (all newest isNewest).resolve_left fun apart => apart.1 same.symm
      exact ⟨newest, isNewest.1, isNewest.2.1, same, Nat.lt_of_le_of_ne bound different⟩
    · rintro ⟨newest, isNewest, sameAge, apart, unknown⟩
      rcases all newest isNewest with ⟨-, known, newestKnown⟩ | different
      · exact unknown.elim newestKnown known
      · exact different sameAge.symm
  · rintro ⟨⟨later, laterStored, laterCounts, same, older⟩, unspared⟩ newest isNewest
    by_cases sameGroup : columns.group newest = columns.group row
    · have bound := isNewest.2.2 later laterStored laterCounts (same.trans sameGroup.symm)
      exact .inr (Nat.ne_of_lt (Nat.lt_of_lt_of_le older bound))
    · by_cases sameAge : columns.age newest = columns.age row
      · refine .inl ⟨fun same => sameGroup same.symm, fun unknown => ?_, fun unknown => ?_⟩
        · exact unspared ⟨newest, isNewest, sameAge, sameGroup, .inr unknown⟩
        · exact unspared ⟨newest, isNewest, sameAge, sameGroup, .inl unknown⟩
      · exact .inr fun same => sameAge same.symm

omit [DecidableEq Key] in
/-- Where every row that counts has a group, no row is spared. -/
theorem unspared_of_grouped (grouped : ∀ row ∈ rows, columns.Counts row →
    columns.group row ≠ none) {row : Row} (stored : row ∈ rows) (counts : columns.Counts row) :
    ¬ columns.Spared rows row := by
  rintro ⟨newest, isNewest, -, -, unknown | unknown⟩
  · exact grouped newest isNewest.1 isNewest.2.1 unknown
  · exact grouped row stored counts unknown

omit [DecidableEq Key] in
/-- Where ages are unique, no row is spared. -/
theorem unspared_of_unique (unique : ∀ row ∈ rows, ∀ other ∈ rows,
    columns.age row = columns.age other → row = other) {row : Row} (stored : row ∈ rows) :
    ¬ columns.Spared rows row := by
  rintro ⟨newest, isNewest, sameAge, apart, -⟩
  exact apart (congrArg columns.group (unique newest isNewest.1 row stored sameAge))

/-- The newest rows are not deleted. -/
theorem IsNewest.stays {newest : Row} (isNewest : columns.IsNewest rows newest) :
    columns.deletes rows newest = false := by
  rw [← Bool.not_eq_true, deletes_iff isNewest.1]
  rintro ⟨-, ⟨later, stored, counts, same, older⟩, -⟩
  exact absurd (isNewest.2.2 later stored counts same) (Nat.not_le_of_lt older)

/-- What the statement leaves. -/
def rest (columns : Columns Row Key) (rows : List Row) : List Row :=
  rows.filter fun row => !columns.deletes rows row

/-- The newest rows are the same afterwards. -/
theorem isNewest_rest {newest : Row} :
    columns.IsNewest (columns.rest rows) newest ↔ columns.IsNewest rows newest := by
  have stored {row : Row} : row ∈ columns.rest rows → row ∈ rows := List.mem_of_mem_filter
  constructor
  · rintro ⟨left, counts, greatest⟩
    refine ⟨stored left, counts, fun other otherStored otherCounts same => ?_⟩
    obtain ⟨top, isTop, topSame⟩ := exists_newest otherStored otherCounts
    have topLeft : top ∈ columns.rest rows :=
      List.mem_filter.mpr ⟨isTop.1, by rw [isTop.stays, Bool.not_false]⟩
    exact Nat.le_trans (isTop.2.2 other otherStored otherCounts topSame.symm)
      (greatest top topLeft isTop.2.1 (topSame.trans same))
  · intro isNewest
    refine ⟨List.mem_filter.mpr ⟨isNewest.1, by rw [isNewest.stays, Bool.not_false]⟩,
      isNewest.2.1, fun other left => isNewest.2.2 other (stored left)⟩

/-- The statement deletes nothing the second time. -/
theorem rest_rest (columns : Columns Row Key) (rows : List Row) :
    columns.rest (columns.rest rows) = columns.rest rows := by
  refine List.filter_eq_self.mpr fun row left => ?_
  obtain ⟨stored, stays⟩ := List.mem_filter.mp left
  rw [Bool.not_eq_true', ← Bool.not_eq_true] at stays ⊢
  rw [deletes_iff left]
  rintro ⟨counts, ⟨later, laterLeft, laterCounts, same, older⟩, unspared⟩
  refine stays ((deletes_iff stored).mpr ⟨counts, ?_, ?_⟩)
  · exact ⟨later, List.mem_of_mem_filter laterLeft, laterCounts, same, older⟩
  · rintro ⟨newest, isNewest, rest⟩
    exact unspared ⟨newest, isNewest_rest.mpr isNewest, rest⟩

end Columns

end Palette.Foundation.Sql
