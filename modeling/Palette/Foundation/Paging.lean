import Mathlib.Data.List.Nodup
import Mathlib.Data.List.Pairwise
import Mathlib.Data.List.Sort

/-!
# Paging through sorted rows

Rows that belong to items are sorted and cut into pages, and a page shows the items of its rows,
each of them once. Rows that tie may come in any order, and in another one for every page. Of a
row only the places that it can take are known: those after the rows below it and before the rows
above it.

The pages show every item exactly once, whatever the orders are, if and only if every item is
settled: some row of it is shown even when the ties of other items go first, and all the places
that its rows can take on the pages are on one page.
-/

namespace Palette.Foundation.Paging

universe u v

variable {Row : Type u} {Item : Type v} [DecidableEq Item]

/-! ## Orders and pages -/

section Definitions

variable (le : Row → Row → Bool) (owner : Row → Item) (rows : List Row)

/-- An order that a database may give the rows. -/
structure Ordered (order : List Row) : Prop where
  perm : order.Perm rows
  sorted : order.Pairwise fun row later => le row later = true

/-- The items on a page. Pages are counted from zero. -/
def page (limit : Nat) (order : List Row) (number : Nat) : List Item :=
  (((order.drop (number * limit)).take limit).map owner).eraseDups

/-- The pages show the items, each of them once, whatever the order is on each page. -/
def Partitions (limit pages : Nat) (items : List Item) : Prop :=
  ∀ orders : Nat → List Row, (∀ number, Ordered le rows (orders number)) →
    ((List.range pages).flatMap fun number => page owner limit (orders number) number).Perm items

/-- How many rows are below a row. -/
def below (row : Row) : Nat := rows.countP fun other => !le row other

/-- How many rows are not above a row. -/
def upTo (row : Row) : Nat := rows.countP fun other => le other row

/-- How many rows of other items tie with a row. -/
def rivals (row : Row) : Nat :=
  rows.countP fun other => le row other && le other row && decide (owner other ≠ owner row)

/-- Some row of the item is shown even after its rivals, and all the places that its rows can take
on the pages are on one page. -/
structure Settled (limit pages : Nat) (item : Item) : Prop where
  shown : ∃ row ∈ rows, owner row = item ∧
    below le rows row + rivals le owner rows row < pages * limit
  together : ∀ row ∈ rows, owner row = item → ∀ other ∈ rows, owner other = item →
    below le rows row < pages * limit → below le rows other < pages * limit →
      below le rows row / limit = (min (upTo le rows other) (pages * limit) - 1) / limit

end Definitions

/-! ## The places of a row -/

section Places

variable {le : Row → Row → Bool} {owner : Row → Item} {rows order : List Row} {row : Row}
  {place : Nat}

theorem Ordered.below_eq (ordered : Ordered le rows order) (row : Row) :
    below le order row = below le rows row := ordered.perm.countP_eq _

theorem Ordered.upTo_eq (ordered : Ordered le rows order) (row : Row) :
    upTo le order row = upTo le rows row := ordered.perm.countP_eq _

/-- A sorted list is cut at a place into rows that are not above and rows that are not below. -/
theorem Ordered.split (ordered : Ordered le rows order) (found : order[place]? = some row) :
    order = order.take place ++ row :: order.drop (place + 1) ∧
      (∀ other ∈ order.take place, le other row = true) ∧
      ∀ other ∈ order.drop (place + 1), le row other = true := by
  obtain ⟨inside, rfl⟩ := List.getElem?_eq_some_iff.mp found
  have cut : order = order.take place ++ order[place] :: order.drop (place + 1) := by
    rw [← List.drop_eq_getElem_cons inside, List.take_append_drop]
  have sorted := ordered.sorted
  rw [cut, List.pairwise_append, List.pairwise_cons] at sorted
  exact ⟨cut, fun other member => sorted.2.2 other member _ List.mem_cons_self, sorted.2.1.1⟩

/-- A row comes after the rows below it. -/
theorem Ordered.below_le (ordered : Ordered le rows order) (found : order[place]? = some row)
    (reflexive : le row row = true) : below le rows row ≤ place := by
  obtain ⟨cut, -, later⟩ := ordered.split found
  have none : (order.drop (place + 1)).countP (fun other => !le row other) = 0 :=
    List.countP_eq_zero.mpr fun other member => by simp [later other member]
  have few : (order.take place).countP (fun other => !le row other) ≤ place :=
    List.countP_le_length.trans (List.length_take_le _ _)
  rw [← ordered.below_eq, below, cut, List.countP_append, List.countP_cons, none]
  simpa [reflexive] using few

/-- A row comes before the rows above it. -/
theorem Ordered.lt_upTo (ordered : Ordered le rows order) (found : order[place]? = some row)
    (reflexive : le row row = true) : place < upTo le rows row := by
  obtain ⟨cut, earlier, -⟩ := ordered.split found
  have all : (order.take place).countP (fun other => le other row) = (order.take place).length :=
    List.countP_eq_length.mpr earlier
  have inside := (List.getElem?_eq_some_iff.mp found).1
  rw [← ordered.upTo_eq, upTo, cut, List.countP_append, List.countP_cons, all,
    List.length_take_of_le inside.le]
  simp [reflexive]

/-- An item is on a page exactly if a row of it has a place there. -/
theorem mem_page {limit number : Nat} {item : Item} :
    item ∈ page owner limit order number ↔ ∃ place row, order[place]? = some row ∧
      owner row = item ∧ number * limit ≤ place ∧ place < number * limit + limit := by
  unfold page
  rw [List.mem_eraseDups, List.mem_map]
  constructor
  · rintro ⟨row, member, owned⟩
    obtain ⟨place, found⟩ := List.mem_iff_getElem?.mp member
    rw [List.getElem?_take, List.getElem?_drop] at found
    split at found
    · exact ⟨number * limit + place, row, found, owned, by omega, by omega⟩
    · cases found
  · rintro ⟨place, row, found, owned, lower, upper⟩
    refine ⟨row, List.mem_iff_getElem?.mpr ⟨place - number * limit, ?_⟩, owned⟩
    rw [List.getElem?_take, List.getElem?_drop, if_pos (by omega), Nat.add_sub_cancel' lower]
    exact found

/-- Nothing is left twice. -/
theorem nodup_eraseDups : ∀ items : List Item, items.eraseDups.Nodup
  | [] => List.nodup_nil
  | item :: rest => by
    rw [List.eraseDups_cons, List.nodup_cons, List.mem_eraseDups]
    exact ⟨by simp, nodup_eraseDups _⟩
termination_by items => items.length
decreasing_by exact Nat.lt_succ_of_le (List.length_filter_le _ _)

/-- The page of a place. -/
theorem page_of_place {limit number : Nat} (lower : number * limit ≤ place)
    (upper : place < number * limit + limit) : place / limit = number := by
  refine Nat.div_eq_of_lt_le lower ?_
  rw [Nat.succ_mul]
  exact upper

end Places

/-! ## Orders that put a row at a place -/

section Arranging

variable {le : Row → Row → Bool} {owner : Row → Item} {rows order : List Row} {row other : Row}
  {place : Nat}

/-- The comparison of the sort keys. -/
structure Preorder (le : Row → Row → Bool) : Prop where
  total : ∀ row other, le row other = true ∨ le other row = true
  trans : ∀ row middle other, le row middle = true → le middle other = true → le row other = true

namespace Preorder

theorem refl (preorder : Preorder le) (row : Row) : le row row = true :=
  (preorder.total row row).elim id id

/-- The rows can be sorted. -/
theorem ordered_insertionSort (preorder : Preorder le) (rows : List Row) :
    Ordered le rows (rows.insertionSort fun row other => le row other = true) := by
  have total : Std.Total fun row other : Row => le row other = true := ⟨preorder.total⟩
  have transitive : IsTrans Row fun row other => le row other = true := ⟨preorder.trans⟩
  exact ⟨List.perm_insertionSort _ _, List.pairwise_insertionSort _ _⟩

/-- A row with another below it is above all that are not above that one. -/
theorem upTo_le_below (preorder : Preorder le) (above : ¬ le row other = true)
    (rows : List Row) : upTo le rows other ≤ below le rows row := by
  refine List.countP_mono_left fun lower _ notAbove => ?_
  have apart : ¬ le row lower = true := fun under => above (preorder.trans _ _ _ under notAbove)
  simpa using apart

/-- Rows that tie have the same rows below them. -/
theorem below_congr (preorder : Preorder le) (under : le row other = true)
    (notBelow : le other row = true) (rows : List Row) :
    below le rows row = below le rows other := by
  refine List.countP_congr fun lower _ => ?_
  have same : le row lower = true ↔ le other lower = true :=
    ⟨preorder.trans _ _ _ notBelow, preorder.trans _ _ _ under⟩
  simpa using not_congr same

/-- The rows at the places that a row can take tie with it. -/
theorem ties_of_place (preorder : Preorder le) (ordered : Ordered le rows order)
    (found : order[place]? = some other) (lower : below le rows row ≤ place)
    (upper : place < upTo le rows row) : le row other = true ∧ le other row = true := by
  have after := ordered.below_le found (preorder.refl other)
  have before := ordered.lt_upTo found (preorder.refl other)
  constructor
  · by_contra above
    have room := preorder.upTo_le_below above rows
    omega
  · by_contra above
    have room := preorder.upTo_le_below above rows
    omega

/-- A row can take every place between the rows below it and those above it. -/
theorem exists_order (preorder : Preorder le) (member : row ∈ rows)
    (lower : below le rows row ≤ place) (upper : place < upTo le rows row) :
    ∃ order, Ordered le rows order ∧ order[place]? = some row := by
  have ordered := preorder.ordered_insertionSort rows
  generalize rows.insertionSort (fun row other => le row other = true) = order at ordered
  obtain ⟨old, oldInside, rfl⟩ := List.mem_iff_getElem.mp (ordered.perm.mem_iff.mpr member)
  have inside : place < order.length :=
    upper.trans_le (List.countP_le_length.trans_eq ordered.perm.length_eq.symm)
  have ties := preorder.ties_of_place ordered (List.getElem?_eq_getElem inside) lower upper
  -- The row changes places with the one that stands there.
  refine ⟨(order.set old order[place]).set place order[old], ?_, by simp [inside]⟩
  refine ⟨(List.set_set_perm oldInside inside).trans ordered.perm, ?_⟩
  have same (index : Nat) (stays : index < ((order.set old order[place]).set place
      order[old]).length) (was : index < order.length) :
      le ((order.set old order[place]).set place order[old])[index] order[index] = true ∧
        le order[index] ((order.set old order[place]).set place order[old])[index] = true := by
    rw [List.getElem_set, List.getElem_set]
    by_cases here : place = index
    · subst here
      simpa using ties
    · by_cases there : old = index
      · subst there
        simpa [here] using ties.symm
      · simp [here, there, preorder.refl]
  rw [List.pairwise_iff_getElem]
  intro first second firstInside secondInside earlier
  have firstWas : first < order.length := by simpa using firstInside
  have secondWas : second < order.length := by simpa using secondInside
  have sorted := List.pairwise_iff_getElem.mp ordered.sorted first second firstWas secondWas earlier
  exact preorder.trans _ _ _ (same first firstInside firstWas).1
    (preorder.trans _ _ _ sorted (same second secondInside secondWas).2)

/-- An item whose row has few rivals has a row near the first places of that one. -/
theorem exists_place (preorder : Preorder le) (owner : Row → Item)
    (ordered : Ordered le rows order) (member : row ∈ rows) : ∃ place other, order[place]? = some other ∧ owner other = owner row ∧
      below le rows other = below le rows row ∧
      place ≤ below le rows row + rivals le owner rows row := by
  let mine (other : Row) : Bool :=
    le row other && le other row && decide (owner other = owner row)
  have own : mine row = true := by simp [mine, preorder.refl]
  cases found : order.find? mine with
  | none => exact absurd own (List.find?_eq_none.mp found row (ordered.perm.mem_iff.mpr member))
  | some other =>
    obtain ⟨isMine, before, after, cut, others⟩ := List.find?_eq_some_iff_append.mp found
    obtain ⟨⟨under, notBelow⟩, owned⟩ : (le row other = true ∧ le other row = true) ∧
        owner other = owner row := by
      simpa [mine] using isMine
    refine ⟨before.length, other, by simp [cut], owned,
      (preorder.below_congr under notBelow rows).symm, ?_⟩
    -- Of the rows before it, those that are not below the row are its rivals.
    have few : before.countP (fun first => decide ¬ (!le row first) = true) ≤
        before.countP fun first =>
          le row first && le first row && decide (owner first ≠ owner row) := by
      refine List.countP_mono_left fun first firstMember notUnder => ?_
      have sorted := ordered.sorted
      rw [cut, List.pairwise_append] at sorted
      have notAbove := preorder.trans _ _ _
        (sorted.2.2 first firstMember other List.mem_cons_self) notBelow
      have notMine := others first firstMember
      simp only [Bool.not_eq_true', Bool.not_eq_false, decide_eq_true_eq] at notUnder
      simp only [mine, notUnder, notAbove, Bool.and_self, Bool.true_and, Bool.not_eq_true',
        decide_eq_false_iff_not] at notMine
      simp [notUnder, notAbove, notMine]
    have start : before.Sublist order := cut ▸ List.sublist_append_left _ _
    have lower : before.countP (fun first => !le row first) ≤ below le rows row :=
      (start.countP_le).trans_eq (ordered.perm.countP_eq _)
    have upper : before.countP (fun first =>
        le row first && le first row && decide (owner first ≠ owner row)) ≤
          rivals le owner rows row :=
      (start.countP_le).trans_eq (ordered.perm.countP_eq _)
    have whole := List.length_eq_countP_add_countP (fun first => !le row first) (l := before)
    omega

end Preorder

/-! ### Sort keys -/

/-- Numbers in ascending order. -/
theorem natural : Preorder fun number other : Nat => decide (number ≤ other) where
  total number other := by simpa using Nat.le_total number other
  trans _ _ _ first second :=
    decide_eq_true ((of_decide_eq_true first).trans (of_decide_eq_true second))

/-- A key of the rows. -/
theorem Preorder.comap {Key : Type*} {under : Key → Key → Bool} (preorder : Preorder under)
    (key : Row → Key) : Preorder fun row other => under (key row) (key other) :=
  ⟨fun _ _ => preorder.total _ _, fun _ _ _ => preorder.trans _ _ _⟩

/-- Descending order. -/
theorem Preorder.descending (preorder : Preorder le) : Preorder fun row other => le other row :=
  ⟨fun _ _ => preorder.total _ _, fun _ _ _ first second => preorder.trans _ _ _ second first⟩

/-- Missing values come after all others. -/
def nullsLast (le : Row → Row → Bool) : Option Row → Option Row → Bool
  | _, none => true
  | none, some _ => false
  | some row, some other => le row other

theorem Preorder.nullsLast (preorder : Preorder le) : Preorder (Paging.nullsLast le) := by
  constructor
  · rintro (- | row) (- | other)
    · exact .inl rfl
    · exact .inr rfl
    · exact .inl rfl
    · exact preorder.total row other
  · rintro (- | row) (- | middle) (- | other) first second
    · rfl
    · cases second
    · rfl
    · cases first
    · rfl
    · cases second
    · rfl
    · exact preorder.trans _ _ _ first second

/-- Rows that tie are compared by another key. -/
def thenBy (le next : Row → Row → Bool) (row other : Row) : Bool :=
  le row other && (!le other row || next row other)

theorem Preorder.thenBy (preorder : Preorder le) {next : Row → Row → Bool}
    (refines : Preorder next) : Preorder (Paging.thenBy le next) := by
  constructor
  · intro row other
    rcases preorder.total row other with under | under
    · by_cases back : le other row = true
      · exact (refines.total row other).imp (fun less => by simp [Paging.thenBy, under, less])
          fun more => by simp [Paging.thenBy, back, more]
      · exact .inl (by simp [Paging.thenBy, under, back])
    · by_cases back : le row other = true
      · exact (refines.total row other).imp (fun less => by simp [Paging.thenBy, back, less])
          fun more => by simp [Paging.thenBy, under, more]
      · exact .inr (by simp [Paging.thenBy, under, back])
  · intro row middle other first second
    simp only [Paging.thenBy, Bool.and_eq_true, Bool.or_eq_true, Bool.not_eq_true'] at first second ⊢
    refine ⟨preorder.trans _ _ _ first.1 second.1, ?_⟩
    by_cases back : le other row = true
    · have firstBack := preorder.trans _ _ _ second.1 back
      have secondBack := preorder.trans _ _ _ back first.1
      have less := first.2.resolve_left (by simp [firstBack])
      have lessAgain := second.2.resolve_left (by simp [secondBack])
      exact .inr (refines.trans _ _ _ less lessAgain)
    · exact .inl (by simpa using back)

/-- Rows can be counted apart. -/
theorem countP_add_le {first second whole : Row → Bool} (rows : List Row)
    (left : ∀ row, first row = true → whole row = true ∧ second row = false)
    (right : ∀ row, second row = true → whole row = true) :
    rows.countP first + rows.countP second ≤ rows.countP whole := by
  induction rows with
  | nil => simp
  | cons row rest inductionHypothesis =>
    simp only [List.countP_cons]
    cases isFirst : first row with
    | true =>
      obtain ⟨counted, apart⟩ := left row isFirst
      simp only [counted, apart, if_true, Bool.false_eq_true, if_false]
      omega
    | false =>
      cases isSecond : second row with
      | true =>
        simp only [right row isSecond, if_true, Bool.false_eq_true, if_false]
        omega
      | false =>
        simp only [Bool.false_eq_true, if_false]
        omega

/-- There is an order in which every row of an item comes after its rivals. -/
theorem Preorder.exists_last (preorder : Preorder le) (owner : Row → Item) (rows : List Row)
    (item : Item) : ∃ order, Ordered le rows order ∧ ∀ place row, order[place]? = some row →
      owner row = item → below le rows row + rivals le owner rows row ≤ place := by
  let rank (row : Row) : Nat := if owner row = item then 1 else 0
  have refined : Preorder (Paging.thenBy le fun row other => decide (rank row ≤ rank other)) :=
    preorder.thenBy (.comap natural rank)
  have ordered := refined.ordered_insertionSort rows
  refine ⟨_, ⟨ordered.perm, ordered.sorted.imp fun compared => (Bool.and_eq_true_iff.mp compared).1⟩,
    ?_⟩
  intro place row found owned
  refine (countP_add_le rows ?_ ?_).trans (ordered.below_le found (refined.refl row))
  · intro other lower
    have notUnder : le row other = false := by simpa using lower
    simp [Paging.thenBy, notUnder]
  · intro other rival
    simp only [Bool.and_eq_true, decide_eq_true_eq] at rival
    have foreign : owner other ≠ item := owned ▸ rival.2
    simp [Paging.thenBy, rival.1.1, rival.1.2, rank, owned, foreign]

end Arranging

/-! ## Pages that show every item once -/

section Partition

variable {le : Row → Row → Bool} {owner : Row → Item} {rows : List Row} {limit pages : Nat}
  {items : List Item} {item : Item}

/-- An item that is settled is on one page, and always on that one. -/
theorem Settled.mem_page_iff (preorder : Preorder le) (positive : 0 < limit)
    (settled : Settled le owner rows limit pages item) :
    ∃ own < pages, ∀ order, Ordered le rows order → ∀ number < pages,
      (item ∈ page owner limit order number ↔ number = own) := by
  obtain ⟨row, member, owned, early⟩ := settled.shown
  have lower : below le rows row < pages * limit := by omega
  -- All places of rows of the item are on the page of this row.
  have only {order : List Row} (ordered : Ordered le rows order) {place : Nat} {other : Row}
      (found : order[place]? = some other) (otherOwned : owner other = item)
      (visible : place < pages * limit) : place / limit = below le rows row / limit := by
    have otherMember := ordered.perm.mem_iff.mp (List.mem_of_getElem? found)
    have after := ordered.below_le found (preorder.refl other)
    have before := ordered.lt_upTo found (preorder.refl other)
    have itself := settled.together other otherMember otherOwned other otherMember otherOwned
      (by omega) (by omega)
    have same := settled.together row member owned other otherMember otherOwned lower (by omega)
    have first : below le rows other / limit ≤ place / limit := Nat.div_le_div_right after
    have last : place / limit ≤ (min (upTo le rows other) (pages * limit) - 1) / limit :=
      Nat.div_le_div_right (by omega)
    omega
  refine ⟨below le rows row / limit, (Nat.div_lt_iff_lt_mul positive).mpr lower, ?_⟩
  intro order ordered number inside
  constructor
  · intro shown
    obtain ⟨place, other, found, otherOwned, first, last⟩ := mem_page.mp shown
    have visible : place < pages * limit := by
      have room : (number + 1) * limit ≤ pages * limit := Nat.mul_le_mul_right _ inside
      rw [Nat.add_mul, Nat.one_mul] at room
      omega
    rw [← page_of_place first last]
    exact only ordered found otherOwned visible
  · rintro rfl
    obtain ⟨place, other, found, otherOwned, -, near⟩ := preorder.exists_place owner ordered member
    have onPage := only ordered found (otherOwned.trans owned) (by omega)
    refine mem_page.mpr ⟨place, other, found, otherOwned.trans owned, ?_, ?_⟩
    · rw [← onPage]
      exact Nat.div_mul_le_self place limit
    · rw [← onPage]
      exact Nat.lt_div_mul_add positive

/-- A row is below something that it is not above. -/
theorem Preorder.below_lt_upTo (preorder : Preorder le) {row : Row} (member : row ∈ rows) :
    below le rows row < upTo le rows row := by
  have ordered := preorder.ordered_insertionSort rows
  obtain ⟨place, found⟩ := List.mem_iff_getElem?.mp (ordered.perm.mem_iff.mpr member)
  exact (ordered.below_le found (preorder.refl row)).trans_lt
    (ordered.lt_upTo found (preorder.refl row))

/-- Pages that show every item once show it on one page. -/
theorem Partitions.same_page (partitions : Partitions le owner rows limit pages items)
    (distinct : items.Nodup) (orders : Nat → List Row)
    (ordered : ∀ number, Ordered le rows (orders number)) {number other : Nat}
    (inside : number < pages) (otherInside : other < pages)
    (shown : item ∈ page owner limit (orders number) number)
    (otherShown : item ∈ page owner limit (orders other) other) : number = other := by
  have once := (partitions orders ordered).nodup_iff.mpr distinct
  have disjoint := (List.nodup_flatMap.mp once).2
  by_contra different
  have symmetric : Std.Symm (Function.onFun List.Disjoint fun number =>
      page owner limit (orders number) number) := ⟨fun _ _ apart _ member other => apart other member⟩
  exact disjoint.forall (List.mem_range.mpr inside) (List.mem_range.mpr otherInside) different
    shown otherShown

/-- The pages show the items, each of them once, whatever the orders are, exactly if every item is
settled. -/
theorem partitions_iff (preorder : Preorder le) (positive : 0 < limit) (distinct : items.Nodup)
    (owners : ∀ row ∈ rows, owner row ∈ items) :
    Partitions le owner rows limit pages items ↔
      ∀ item ∈ items, Settled le owner rows limit pages item := by
  constructor
  · intro partitions item member
    constructor
    · obtain ⟨order, ordered, late⟩ := preorder.exists_last owner rows item
      have shown := (partitions (fun _ => order) fun _ => ordered).mem_iff.mpr member
      obtain ⟨number, inside, onPage⟩ := List.mem_flatMap.mp shown
      obtain ⟨place, row, found, owned, first, last⟩ := mem_page.mp onPage
      have room : (number + 1) * limit ≤ pages * limit :=
        Nat.mul_le_mul_right _ (List.mem_range.mp inside)
      rw [Nat.add_mul, Nat.one_mul] at room
      have enough := late place row found owned
      exact ⟨row, ordered.perm.mem_iff.mp (List.mem_of_getElem? found), owned, by omega⟩
    · intro row rowMember owned other otherMember otherOwned lower otherLower
      have room := preorder.below_lt_upTo rowMember
      have otherRoom := preorder.below_lt_upTo otherMember
      obtain ⟨order, ordered, found⟩ := preorder.exists_order rowMember le_rfl room
      obtain ⟨late, lateOrdered, lateFound⟩ := preorder.exists_order otherMember
        (Nat.le_sub_one_of_lt (lt_min otherRoom otherLower))
        ((Nat.sub_one_lt (by omega)).trans_le (min_le_left (upTo le rows other) (pages * limit)))
      have inside := (Nat.div_lt_iff_lt_mul positive).mpr lower
      have lateInside : (min (upTo le rows other) (pages * limit) - 1) / limit < pages :=
        (Nat.div_lt_iff_lt_mul positive).mpr (by omega)
      by_contra different
      refine different (partitions.same_page distinct
        (fun number => if number = below le rows row / limit then order else late)
        ?_ inside lateInside (?_ : item ∈ _) ?_)
      · intro number
        split
        · exact ordered
        · exact lateOrdered
      · rw [if_pos rfl]
        exact mem_page.mpr ⟨_, row, found, owned, Nat.div_mul_le_self _ _,
          Nat.lt_div_mul_add positive⟩
      · rw [if_neg (Ne.symm different)]
        exact mem_page.mpr ⟨_, other, lateFound, otherOwned, Nat.div_mul_le_self _ _,
          Nat.lt_div_mul_add positive⟩
  · intro settled orders ordered
    have shown_mem {number : Nat} {item : Item}
        (shown : item ∈ page owner limit (orders number) number) : item ∈ items := by
      obtain ⟨place, row, found, rfl, -⟩ := mem_page.mp shown
      exact owners row ((ordered number).perm.mem_iff.mp (List.mem_of_getElem? found))
    refine (List.perm_ext_iff_of_nodup (List.nodup_flatMap.mpr ⟨?_, ?_⟩) distinct).mpr ?_
    · exact fun number _ => nodup_eraseDups _
    · refine List.nodup_range.pairwise_of_forall_ne ?_
      intro number inside other otherInside different item shown otherShown
      obtain ⟨own, -, always⟩ := (settled item (shown_mem shown)).mem_page_iff preorder positive
      have first := (always _ (ordered number) number (List.mem_range.mp inside)).mp shown
      have second := (always _ (ordered other) other (List.mem_range.mp otherInside)).mp otherShown
      exact different (first.trans second.symm)
    · intro item
      rw [List.mem_flatMap]
      constructor
      · rintro ⟨number, -, shown⟩
        exact shown_mem shown
      · intro member
        obtain ⟨own, inside, always⟩ := (settled item member).mem_page_iff preorder positive
        exact ⟨own, List.mem_range.mpr inside, (always _ (ordered own) own inside).mpr rfl⟩

end Partition

end Palette.Foundation.Paging
