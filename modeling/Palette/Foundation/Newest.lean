import Mathlib.Data.List.Dedup
import Mathlib.Data.List.Perm.Basic
import Mathlib.Data.List.Sublists
import Mathlib.Order.Lattice

/-!
# Keeping the newest items of each group

Items belong to groups and have ages. Where a group has more items than are to be kept, the
oldest ones are outdated, so that the newest are left. Items of one age may be ordered in any
way, and so may the groups. Which items of a group are outdated depends on that group alone.
-/

namespace Palette.Foundation

universe u v w

variable {Item : Type u} {Age : Type v} {Group : Type w} [LinearOrder Age] [DecidableEq Group]

/-- How items are ordered from the oldest to the newest. -/
structure OldestFirst (age : Item → Age) where
  order : List Item → List Item
  permutes : ∀ items, (order items).Perm items
  sorted : ∀ items, (order items).Pairwise fun earlier later => age earlier ≤ age later

/-- How the groups are ordered that have items. -/
structure AnyOrder (Group : Type w) where
  order : List Group → List Group
  permutes : ∀ groups, (order groups).Perm groups

namespace OldestFirst

variable {age : Item → Age} (byAge : OldestFirst age)

/-- The items that are too many. -/
def oldest (count : Nat) (items : List Item) : List Item :=
  (byAge.order items).take (items.length - count)

/-- The items that are left. -/
def newest (count : Nat) (items : List Item) : List Item :=
  (byAge.order items).drop (items.length - count)

/-- Every item is either too many or left. -/
theorem oldest_append_newest (count : Nat) (items : List Item) :
    (byAge.oldest count items ++ byAge.newest count items).Perm items := by
  unfold oldest newest
  rw [List.take_append_drop]
  exact byAge.permutes items

/-- As many are left as are to be kept, or all of them where there are fewer. -/
theorem length_newest (count : Nat) (items : List Item) :
    (byAge.newest count items).length = min count items.length := by
  rw [newest, List.length_drop, (byAge.permutes items).length_eq]
  omega

theorem length_oldest (count : Nat) (items : List Item) :
    (byAge.oldest count items).length = items.length - count := by
  rw [oldest, List.length_take, (byAge.permutes items).length_eq]
  omega

/-- Those that are too many are no newer than those that are left. -/
theorem oldest_le_newest {count : Nat} {items : List Item} {gone kept : Item}
    (isOldest : gone ∈ byAge.oldest count items) (isNewest : kept ∈ byAge.newest count items) :
    age gone ≤ age kept := by
  have sorted := byAge.sorted items
  rw [← List.take_append_drop (items.length - count) (byAge.order items),
    List.pairwise_append] at sorted
  exact sorted.2.2 gone isOldest kept isNewest

theorem mem_of_mem_oldest {count : Nat} {items : List Item} {item : Item}
    (isOldest : item ∈ byAge.oldest count items) : item ∈ items :=
  (byAge.permutes items).mem_iff.mp (List.mem_of_mem_take isOldest)

theorem nodup_oldest {count : Nat} {items : List Item} (distinct : items.Nodup) :
    (byAge.oldest count items).Nodup :=
  ((byAge.permutes items).nodup_iff.mpr distinct).sublist (List.take_sublist _ _)

/-- Where there are not too many, none is. -/
theorem oldest_eq_nil {count : Nat} {items : List Item} (few : items.length ≤ count) :
    byAge.oldest count items = [] := by
  rw [oldest, Nat.sub_eq_zero_of_le few, List.take_zero]

/-- What is left when those are taken out that are too many. -/
theorem filter_not_oldest [DecidableEq Item] {count : Nat} {items : List Item}
    (distinct : items.Nodup) :
    (items.filter fun item => item ∉ byAge.oldest count items).Perm
      (byAge.newest count items) := by
  have whole := byAge.oldest_append_newest count items
  have apart := whole.nodup_iff.mpr distinct
  refine (List.perm_ext_iff_of_nodup (distinct.filter _) apart.of_append_right).mpr fun item => ?_
  rw [List.mem_filter, decide_eq_true_eq, ← whole.mem_iff, List.mem_append]
  constructor
  · rintro ⟨isOldest | isNewest, spared⟩
    · exact absurd isOldest spared
    · exact isNewest
  · intro isNewest
    refine ⟨.inr isNewest, fun isOldest => ?_⟩
    exact (List.disjoint_of_nodup_append apart) isOldest isNewest

end OldestFirst

/-! ## Groups -/

variable (group : Item → Group)

/-- The items of a group. -/
def membersOf (items : List Item) (chosen : Group) : List Item :=
  items.filter fun item => group item = chosen

/-- The groups with more items than are to be kept, with the number of their items. -/
def excessive (groups : AnyOrder Group) (count : Int) (items : List Item) :
    List (Group × Nat) :=
  ((groups.order (items.map group).dedup).map fun chosen =>
    (chosen, (membersOf group items chosen).length)).filter fun result => count < result.2

variable {group}

/-- An excessive group comes with the number of its items. -/
theorem mem_excessive {groups : AnyOrder Group} {count : Int} {items : List Item}
    {result : Group × Nat} :
    result ∈ excessive group groups count items ↔
      (∃ item ∈ items, group item = result.1) ∧
        result.2 = (membersOf group items result.1).length ∧ count < result.2 := by
  simp only [excessive, List.mem_filter, List.mem_map, decide_eq_true_eq,
    (groups.permutes _).mem_iff, List.mem_dedup]
  constructor
  · rintro ⟨⟨chosen, belongs, rfl⟩, more⟩
    exact ⟨belongs, rfl, more⟩
  · rintro ⟨belongs, number, more⟩
    exact ⟨⟨result.1, belongs, Prod.ext rfl number.symm⟩, more⟩

/-- A group is excessive once. -/
theorem nodup_excessive (groups : AnyOrder Group) (count : Int) (items : List Item) :
    ((excessive group groups count items).map Prod.fst).Nodup := by
  have distinct := (groups.permutes (items.map group).dedup).nodup_iff.mpr (List.nodup_dedup _)
  refine List.Nodup.sublist (List.filter_sublist.map Prod.fst) ?_
  rw [List.map_map]
  exact distinct.map fun _ _ same => same

variable {age : Item → Age} (byAge : OldestFirst age)

/-- The items that are outdated. -/
def outdated (group : Item → Group) (groups : AnyOrder Group) (count : Nat)
    (items : List Item) : List Item :=
  (excessive group groups count items).flatMap fun result =>
    byAge.oldest count (membersOf group items result.1)

variable {groups : AnyOrder Group} {count : Nat} {items : List Item}

/-- An item is outdated if it is one of those of its group that are too many. -/
theorem mem_outdated {item : Item} :
    item ∈ outdated byAge group groups count items ↔
      item ∈ byAge.oldest count (membersOf group items (group item)) := by
  simp only [outdated, List.mem_flatMap]
  constructor
  · rintro ⟨result, -, isOldest⟩
    have belongs := List.mem_filter.mp (byAge.mem_of_mem_oldest isOldest)
    rwa [of_decide_eq_true belongs.2]
  · intro isOldest
    have listed := (List.mem_filter.mp (byAge.mem_of_mem_oldest isOldest)).1
    have many : count < (membersOf group items (group item)).length := by
      by_contra few
      rw [byAge.oldest_eq_nil (Nat.le_of_not_lt few)] at isOldest
      cases isOldest
    exact ⟨(group item, _), mem_excessive.mpr ⟨⟨item, listed, rfl⟩, rfl, by exact_mod_cast many⟩,
      isOldest⟩

/-- What is outdated is one of the items. -/
theorem mem_of_mem_outdated {item : Item}
    (isOutdated : item ∈ outdated byAge group groups count items) : item ∈ items :=
  (List.mem_filter.mp (byAge.mem_of_mem_oldest ((mem_outdated byAge).mp isOutdated))).1

/-- A group within the limit has no outdated items. -/
theorem few_of_mem_outdated {item : Item}
    (isOutdated : item ∈ outdated byAge group groups count items) :
    count < (membersOf group items (group item)).length := by
  by_contra few
  have isOldest := (mem_outdated byAge).mp isOutdated
  rw [byAge.oldest_eq_nil (Nat.le_of_not_lt few)] at isOldest
  cases isOldest

/-- An item is outdated once. -/
theorem nodup_outdated (distinct : items.Nodup) :
    (outdated byAge group groups count items).Nodup := by
  have groupsDistinct := @nodup_excessive _ _ _ group groups count items
  rw [List.nodup_iff_pairwise_ne, List.pairwise_map] at groupsDistinct
  refine List.nodup_flatMap.mpr ⟨fun _ _ => byAge.nodup_oldest (distinct.filter _), ?_⟩
  refine groupsDistinct.imp fun different item inFirst inSecond => different ?_
  have first := (List.mem_filter.mp (byAge.mem_of_mem_oldest inFirst)).2
  have second := (List.mem_filter.mp (byAge.mem_of_mem_oldest inSecond)).2
  exact (of_decide_eq_true first).symm.trans (of_decide_eq_true second)

/-- Without the outdated items a group has its newest ones. -/
theorem membersOf_filter_outdated [DecidableEq Item] (distinct : items.Nodup) (chosen : Group) :
    (membersOf group (items.filter fun item =>
        item ∉ outdated byAge group groups count items) chosen).Perm
      (byAge.newest count (membersOf group items chosen)) := by
  have own : membersOf group (items.filter fun item =>
      item ∉ outdated byAge group groups count items) chosen =
      (membersOf group items chosen).filter fun item =>
        item ∉ byAge.oldest count (membersOf group items chosen) := by
    unfold membersOf
    rw [List.filter_filter, List.filter_filter]
    refine List.filter_congr fun item _ => ?_
    by_cases belongs : group item = chosen
    · subst belongs
      simp only [mem_outdated, membersOf, decide_true, Bool.true_and, Bool.and_true]
    · simp only [belongs, decide_false, Bool.false_and, Bool.and_false]
  rw [own]
  exact byAge.filter_not_oldest (distinct.filter _)

end Palette.Foundation
