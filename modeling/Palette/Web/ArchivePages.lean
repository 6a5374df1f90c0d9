import Palette.Foundation.Paging
import Palette.Web.Revisions

/-!
# Paging through the archive

A page of the archive is a query for the entries that match a filter, sorted by a choice of the
user and cut by a limit and an offset. Some choices join the entries with the rows that they are
sorted by. The number of entries comes from the filter alone.

Entries vanish from the pages or come twice where a join drops or repeats them, and where rows
that tie lie on both sides of a cut. The condition of the law is the settledness of every matching
entry.
-/

namespace Palette.Web.Archive

open Palette.Commands (Failure)
open Palette.Foundation Paging

/-! ## Requests -/

/-- `Role.NO_ADMIN`. -/
def noAdmin : Nat := 0

/-- What a request asks for. A parameter that is missing or no number is none. -/
structure Request where
  sort : Option Int
  showid : Option Int
  site : Option Int
  project : Option Int
  limit : Option Int
  page : Option Int
  roleid : Nat
  systemUserId : Option Int

/-- `WorkbookSort` and `DatasourceSort`. -/
inductive SortBy where
  | name
  | site
  | project
  | publisher
  | revisionDate
  deriving DecidableEq, Repr

/-- The values of a sort. -/
def SortBy.ofCode (roleid : Nat) : Int → Option SortBy
  | 0 => some .name
  | 1 => some .site
  | 2 => some .project
  | 3 => if roleid = noAdmin then none else some .publisher
  | 4 => some .revisionDate
  | _ => none

/-- The sort of a query. A value that is not offered sorts by the name. -/
def Request.sortBy (request : Request) : SortBy :=
  (request.sort.bind (SortBy.ofCode request.roleid)).getD .name

/-- Whether only the entries of the user are shown. -/
def Request.mine (request : Request) : Bool :=
  request.roleid = noAdmin || request.showid = some 1

/-- `sort_options` and `show_options`: the values are looked up among those that are offered. -/
def Request.configures (request : Request) : Bool :=
  (SortBy.ofCode request.roleid (request.sort.getD 0)).isSome &&
    (request.showid.getD 0 = 0 || request.showid.getD 0 = 1)

/-- The filters of a query. A missing user matches entries without one. -/
structure Filters where
  envid : Nat
  systemUserId : Option (Option Int)
  siteId : Option Int
  projectId : Option Int

/-- `build_query_filters`. -/
def buildQueryFilters (envid : Nat) (request : Request) : Filters where
  envid := envid
  systemUserId := if request.mine then some request.systemUserId else none
  siteId := request.site.filter (· ≠ 0)
  projectId := request.project.filter (· ≠ 0)

/-- `apply_filters`. -/
def Filters.accepts (filters : Filters) (entry : Entry) : Bool :=
  entry.envid = filters.envid &&
    (filters.systemUserId.all (· = entry.systemUserId)) &&
    (filters.siteId.all (some · = entry.siteId)) &&
    (filters.projectId.all (some · = entry.projectId))

/-! ## Queries -/

/-- An entry with the name that it is joined with. -/
structure Joined where
  entry : Entry
  name : Option String
  deriving DecidableEq, Repr

/-- The joins of a sort. Sites and projects of other environments take part. -/
def joins (around : Surroundings) (entry : Entry) : SortBy → List Joined
  | .name | .revisionDate => [⟨entry, none⟩]
  | .site => (around.sites.filter (some ·.id = entry.siteId)).map fun site => ⟨entry, some site.name⟩
  | .project =>
    (around.projects.filter (some ·.id = entry.projectId)).map fun project =>
      ⟨entry, some project.name⟩
  | .publisher =>
    (around.users.filter fun user =>
      user.systemUserId ≠ none ∧ user.systemUserId = entry.systemUserId).map fun user =>
        ⟨entry, user.friendlyName⟩

/-- The names in the order of the database, missing ones last. -/
def Collation.leName (collation : Collation) : Option String → Option String → Bool :=
  nullsLast collation.le

/-- The order of a sort. -/
def Collation.leJoined (collation : Collation) : SortBy → Joined → Joined → Bool
  | .name => fun row other => collation.leName row.entry.name other.entry.name
  | .site | .project => thenBy (fun row other => collation.leName row.name other.name)
      fun row other => collation.leName row.entry.name other.entry.name
  | .publisher => fun row other => collation.leName row.name other.name
  | .revisionDate => fun row other =>
      nullsLast (fun time other => decide (time ≤ other)) other.entry.createdAt row.entry.createdAt

/-- The greatest number that the database takes as a limit or an offset. -/
def bigintMax : Int := 2 ^ 63 - 1

/-- `limit(limit).offset(offset)` on the rows in an order, and `all`, which returns an entry once. -/
def select (limit offset : Int) (order : List Joined) : Except Failure (List Entry) :=
  if 0 ≤ limit ∧ limit ≤ bigintMax ∧ 0 ≤ offset ∧ offset ≤ bigintMax then
    .ok (((order.drop offset.toNat).take limit.toNat).map (·.entry)).eraseDups
  else .error ⟨.otherException, "DataError"⟩

/-! ## Pages -/

/-- What the database holds of the archive. No two entries have the same key. -/
structure Content where
  entries : List Entry
  updates : List UpdateEntry
  retainCount : Int
  distinct : (entries.map (·.key)).Nodup

/-- What a page returns. -/
structure Page where
  datas : List EntryData
  itemCount : Nat
  populated : Bool
  enabled : Int
  publisherOnly : Bool

namespace Application

variable (application : Application) (content : Content) (request : Request)

/-- The entries that match the filters of a request. -/
def matching : List Entry :=
  content.entries.filter (buildQueryFilters application.around.envid request).accepts

/-- The joined rows that a query sorts. -/
def query : List Joined :=
  (application.matching content request).flatMap (joins application.around · request.sortBy)

/-- `populated`. -/
def populated : Bool := content.entries.any (·.envid = application.around.envid)

/-- Whether there is something to show. -/
def serves : Bool := application.populated content && decide (content.retainCount ≠ 0)

/-- The number of entries of a request. -/
def itemCount : Nat :=
  if application.serves content then (application.matching content request).length else 0

/-- `do_query` with the order that the database gives its rows. -/
def doQuery (order : List Joined) : Except Failure (List Entry) :=
  select (request.limit.getD 25) ((request.page.getD 1 - 1) * request.limit.getD 25) order

/-- `handle_get` with the order that the database gives the rows of its query. -/
def handleGet (order : List Joined) : Except Failure Page := do
  let entries ←
    if application.serves content then doQuery request order else pure []
  let datas ← application.pageData content.updates entries []
  if request.configures then
    return ⟨datas, application.itemCount content request, application.populated content,
      content.retainCount, request.roleid = noAdmin⟩
  else throw ⟨.keyError, ""⟩

end Application

/-! ## The law -/

/-- The limit of a request. -/
def Request.pageLimit (request : Request) : Nat := (request.limit.getD 25).toNat

/-- The request for a page. Pages are counted from zero. -/
def Request.turnTo (request : Request) (number : Nat) : Request :=
  { request with page := some (number + 1) }

/-- How many pages there are for a number of entries. -/
def Application.pageCount (application : Application) (content : Content) (request : Request) :
    Nat :=
  (application.itemCount content request + request.pageLimit - 1) / request.pageLimit

/-- The entries on a page. -/
def Page.entries (page : Page) : List Entry := page.datas.map (·.entry)

/-- The number of entries is that of the matching ones, and whatever the orders are, the pages
show every matching entry once, and nothing else. -/
def Application.Partitioned (application : Application) (content : Content) (request : Request) :
    Prop :=
  application.itemCount content request = (application.matching content request).length ∧
    ∀ orders : Nat → List Joined,
      (∀ number, Ordered (application.collation.leJoined request.sortBy)
        (application.query content request) (orders number)) →
      ∃ pages, (List.range (application.pageCount content request)).mapM (fun number =>
          application.handleGet content (request.turnTo number) (orders number)) = .ok pages ∧
        (∀ page ∈ pages, page.itemCount = (application.matching content request).length) ∧
        (pages.flatMap Page.entries).Perm (application.matching content request)

/-- The archive is enabled; the values of the dropdowns are offered and the database takes the
limits and the offsets; every update of a matching entry has a user; and every matching entry is
settled. -/
structure Application.Orderly (application : Application) (content : Content)
    (request : Request) : Prop where
  enabled : content.retainCount ≠ 0 ∨ application.matching content request = []
  offered : ∀ number < application.pageCount content request, request.configures = true ∧
    (request.pageLimit : Int) ≤ bigintMax ∧ (number * request.pageLimit : Int) ≤ bigintMax
  users : ∀ entry ∈ application.matching content request,
    ∀ update ∈ ofEntry content.updates entry, update.systemUserId ≠ none
  settled : ∀ entry ∈ application.matching content request,
    Settled (application.collation.leJoined request.sortBy) Joined.entry
      (application.query content request) request.pageLimit (application.pageCount content request)
      entry

/-! ## What a page shows -/

section Pages

variable {application : Application} {content : Content} {request : Request}

/-- The order of a sort is one of the keys that it names. -/
theorem leJoined_preorder (collation : Collation) (sort : SortBy) :
    Preorder (collation.leJoined sort) := by
  have texts : Preorder collation.le := ⟨collation.total, collation.trans⟩
  have names : Preorder collation.leName := texts.nullsLast
  cases sort with
  | name => exact names.comap fun row : Joined => row.entry.name
  | site | project =>
    exact (names.comap fun row : Joined => row.name).thenBy
      (names.comap fun row : Joined => row.entry.name)
  | publisher => exact names.comap fun row : Joined => row.name
  | revisionDate => exact (natural.nullsLast.comap fun row : Joined => row.entry.createdAt).descending

/-- No entry matches twice. -/
theorem matching_nodup (application : Application) (content : Content) (request : Request) :
    (application.matching content request).Nodup :=
  content.distinct.of_map.filter _

/-- The rows of a query belong to matching entries. -/
theorem owner_matches {row : Joined} (member : row ∈ application.query content request) :
    row.entry ∈ application.matching content request := by
  obtain ⟨entry, matching, joined⟩ := List.mem_flatMap.mp member
  have same : row.entry = entry := by
    unfold joins at joined
    split at joined
    all_goals simp only [List.mem_map, List.mem_singleton] at joined
    all_goals first | (subst joined; rfl) | (obtain ⟨_, _, rfl⟩ := joined; rfl)
  exact same ▸ matching

/-- Turning to a page leaves the filters and the sort. -/
theorem turnTo_same (application : Application) (content : Content) (request : Request)
    (number : Nat) :
    application.matching content (request.turnTo number) = application.matching content request ∧
      application.itemCount content (request.turnTo number) =
        application.itemCount content request ∧
      (request.turnTo number).configures = request.configures :=
  ⟨rfl, rfl, rfl⟩

/-- A page is shown if the database takes its limit and offset, every update on it has a user and
the values of the dropdowns are offered; and then it has the entries at its places. -/
theorem handleGet_settles (positive : 1 ≤ request.limit.getD 25)
    (serves : application.serves content = true) (order : List Joined) (number : Nat) :
    Settles (application.handleGet content (request.turnTo number) order)
      (((request.pageLimit : Int) ≤ bigintMax ∧ (number * request.pageLimit : Int) ≤ bigintMax) ∧
        (∀ entry ∈ page Joined.entry request.pageLimit order number,
          ∀ update ∈ ofEntry content.updates entry, update.systemUserId ≠ none) ∧
        request.configures = true)
      fun shown => shown.entries = page Joined.entry request.pageLimit order number ∧
        shown.itemCount = (application.matching content request).length := by
  have limit : request.limit.getD 25 = (request.pageLimit : Int) :=
    (Int.toNat_of_nonneg (by omega)).symm
  have offset : ((request.turnTo number).page.getD 1 - 1) * (request.turnTo number).limit.getD 25 =
      ((number * request.pageLimit : Nat) : Int) := by
    have turned : (request.turnTo number).page.getD 1 = (number : Int) + 1 := rfl
    have kept : (request.turnTo number).limit = request.limit := rfl
    rw [turned, kept, limit, Int.add_sub_cancel, Int.natCast_mul]
  have selected : Settles (Application.doQuery (request.turnTo number) order)
      ((request.pageLimit : Int) ≤ bigintMax ∧ (number * request.pageLimit : Int) ≤ bigintMax)
      fun entries => entries = page Joined.entry request.pageLimit order number := by
    have kept : (request.turnTo number).limit.getD 25 = (request.pageLimit : Int) := limit
    unfold Application.doQuery select
    rw [offset, kept]
    split
    case isTrue fits =>
      refine ⟨⟨fits.2.1, by simpa using fits.2.2.2⟩, ?_⟩
      rw [Int.toNat_natCast, Int.toNat_natCast]
      rfl
    case isFalse refused =>
      rintro ⟨first, second⟩
      refine refused ⟨by omega, first, by omega, by simpa using second⟩
  unfold Application.handleGet
  rw [if_pos serves]
  refine selected.bind ?_
  rintro entries rfl
  have users : (∀ entry ∈ page Joined.entry request.pageLimit order number,
      ∀ update ∈ application.collation.updates content.updates entry,
        update.systemUserId ≠ none) ↔
      ∀ entry ∈ page Joined.entry request.pageLimit order number,
        ∀ update ∈ ofEntry content.updates entry, update.systemUserId ≠ none := by
    simp only [mem_updates]
  refine Settles.bind ((pageData_settles (cached_nil application.around) content.updates _).mono
    users fun _ => id) ?_
  rintro datas rfl
  rw [(turnTo_same application content request number).2.2,
    (turnTo_same application content request number).2.1]
  cases configured : request.configures with
  | false => exact nofun
  | true =>
    refine ⟨rfl, ?_, ?_⟩
    · simp [Page.entries, Application.entryData, Function.comp_def]
    · simp [Application.itemCount, serves]

/-- Pages that show their places show the matching entries exactly if their places hold these. -/
theorem pages_flatMap {pages : List Page} {count : Nat} {orders : Nat → List Joined}
    (shown : List.Forall₂ (fun number shown =>
      shown.entries = page Joined.entry request.pageLimit (orders number) number ∧
        shown.itemCount = (application.matching content request).length)
      (List.range count) pages) :
    pages.flatMap Page.entries =
      (List.range count).flatMap fun number =>
        page Joined.entry request.pageLimit (orders number) number := by
  rw [List.flatMap_def, List.flatMap_def]
  exact congrArg List.flatten
    (map_eq_of_forall₂ (fun _ _ both => both.1.symm) shown).symm

/-- Nothing is on a page but matching entries. -/
theorem page_matches {order : List Joined} {number : Nat} {entry : Entry}
    (ordered : Ordered (application.collation.leJoined request.sortBy)
      (application.query content request) order)
    (member : entry ∈ page Joined.entry request.pageLimit order number) :
    entry ∈ application.matching content request := by
  obtain ⟨place, row, found, rfl, -⟩ := mem_page.mp member
  exact owner_matches (ordered.perm.mem_iff.mp (List.mem_of_getElem? found))

/-- The pages of an archive that serves partition the matching entries exactly if they are in
order. -/
theorem partitioned_serving (positive : 1 ≤ request.limit.getD 25)
    (serves : application.serves content = true) :
    application.Partitioned content request ↔ application.Orderly content request := by
  have enabled : content.retainCount ≠ 0 := by
    simpa using (Bool.and_eq_true_iff.mp serves).2
  have count : application.itemCount content request =
      (application.matching content request).length := by
    rw [Application.itemCount, if_pos serves]
  have preorder := leJoined_preorder application.collation request.sortBy
  have limited : 0 < request.pageLimit := by
    unfold Request.pageLimit
    omega
  have settles (orders : Nat → List Joined) := settles_mapM
    (fun number => handleGet_settles positive serves (orders number) number)
    (List.range (application.pageCount content request))
  have partitions : Partitions (application.collation.leJoined request.sortBy) Joined.entry
      (application.query content request) request.pageLimit
      (application.pageCount content request) (application.matching content request) ↔ _ :=
    partitions_iff preorder limited (matching_nodup application content request)
      fun row member => owner_matches member
  constructor
  · rintro ⟨-, always⟩
    have sorted := preorder.ordered_insertionSort (application.query content request)
    obtain ⟨pages, served, -, perm⟩ := always (fun _ => _) fun _ => sorted
    obtain ⟨legible, shown⟩ := (settles fun _ => _).of_ok served
    have places := pages_flatMap shown
    refine ⟨.inl enabled, ?_, ?_, ?_⟩
    · intro number inside
      obtain ⟨fits, -, configured⟩ := legible number (List.mem_range.mpr inside)
      exact ⟨configured, fits⟩
    · intro entry member
      rw [places] at perm
      obtain ⟨number, inside, onPage⟩ := List.mem_flatMap.mp (perm.mem_iff.mpr member)
      exact (legible number inside).2.1 entry onPage
    · refine partitions.mp fun orders ordered => ?_
      obtain ⟨pages, served, -, perm⟩ := always orders ordered
      obtain ⟨-, shown⟩ := (settles orders).of_ok served
      rwa [pages_flatMap shown] at perm
  · intro orderly
    refine ⟨count, fun orders ordered => ?_⟩
    obtain ⟨pages, served, shown⟩ := (settles orders).exists_ok fun number inside => by
      obtain ⟨configured, fits⟩ := orderly.offered number (List.mem_range.mp inside)
      exact ⟨fits, fun entry member => orderly.users entry (page_matches (ordered number) member),
        configured⟩
    refine ⟨pages, served, ?_, ?_⟩
    · intro page member
      have counts := map_eq_of_forall₂ (fun _ _ both => both.2.symm) shown
      have counted := counts ▸ List.mem_map_of_mem member
      exact (List.eq_of_mem_map_const counted)
    · rw [pages_flatMap shown]
      exact partitions.mpr orderly.settled orders ordered

/-- The pages partition the matching entries exactly if they are in order. -/
theorem partitioned_iff (application : Application) (content : Content) (request : Request)
    (positive : 1 ≤ request.limit.getD 25) :
    application.Partitioned content request ↔ application.Orderly content request := by
  cases serves : application.serves content with
  | true => exact partitioned_serving positive serves
  | false =>
    have count : application.itemCount content request = 0 := by
      simp [Application.itemCount, serves]
    have noPages : application.pageCount content request = 0 := by
      have limited : 0 < request.pageLimit := by
        unfold Request.pageLimit
        omega
      rw [Application.pageCount, count, Nat.zero_add]
      exact Nat.div_eq_of_lt (by omega)
    have empty : application.Partitioned content request →
        application.matching content request = [] := by
      rintro ⟨same, -⟩
      exact List.length_eq_zero_iff.mp (same.symm.trans count)
    have unmatched : content.retainCount ≠ 0 → application.matching content request = [] := by
      intro enabled
      have unpopulated : application.populated content = false := by
        simpa [Application.serves, enabled] using serves
      refine List.filter_eq_nil_iff.mpr fun entry member accepted => ?_
      have foreign := List.any_eq_false.mp unpopulated entry member
      simp only [Filters.accepts, Bool.and_eq_true] at accepted
      exact foreign accepted.1.1.1
    constructor
    · intro partitioned
      have none := empty partitioned
      refine ⟨.inr none, ?_, ?_, ?_⟩
      · rw [noPages]
        exact fun _ impossible => absurd impossible (Nat.not_lt_zero _)
      · rw [none]
        exact nofun
      · rw [none]
        exact nofun
    · intro orderly
      have none := orderly.enabled.elim unmatched id
      refine ⟨by rw [count, none, List.length_nil], fun orders _ => ⟨[], ?_, nofun, ?_⟩⟩
      · rw [noPages]
        rfl
      · rw [none]
        exact .nil

end Pages

/-! ## Two workbooks of one name -/

/-- The request of a manager for pages of one entry each. -/
def oneByOne : Request := ⟨none, none, none, none, some 1, none, 2, some 5⟩

/-- A workbook of the same name in another project. -/
def otherSales : Entry := ⟨8, 1, some 1, some 3, some 5, some "Sales", some 2⟩

/-- One workbook in the archive. -/
def oneWorkbook : Content := ⟨[salesWorkbook], [salesUpdate 1 "1"], 10, by decide⟩

/-- Two workbooks of the same name in the archive. -/
def twoWorkbooks : Content := ⟨[salesWorkbook, otherSales], [], 10, by decide⟩

/-- A single workbook is on the only page. -/
theorem one_workbook_partitioned : oneUserPage.Partitioned oneWorkbook oneByOne :=
  (partitioned_iff oneUserPage oneWorkbook oneByOne (by decide)).mpr
    ⟨by decide, by decide +kernel, by decide +kernel, fun entry member => by
      rw [List.mem_singleton.mp (show entry ∈ [salesWorkbook] from member)]
      exact ⟨by decide +kernel, by decide +kernel⟩⟩

/-- Two workbooks of one name can trade places between two pages, so that one of them is shown
twice and the other one never. -/
theorem namesake_shown_twice :
    ¬ ∀ (application : Application) (content : Content) (request : Request),
      1 ≤ request.limit.getD 25 → application.Partitioned content request := by
  intro always
  let orders (number : Nat) : List Joined :=
    if number = 0 then [⟨salesWorkbook, none⟩, ⟨otherSales, none⟩]
    else [⟨otherSales, none⟩, ⟨salesWorkbook, none⟩]
  have ordered (number : Nat) : Ordered (oneUserPage.collation.leJoined oneByOne.sortBy)
      (oneUserPage.query twoWorkbooks oneByOne) (orders number) := by
    dsimp only [orders]
    split
    · exact ⟨by decide +kernel, by decide +kernel⟩
    · exact ⟨by decide +kernel, by decide +kernel⟩
  obtain ⟨-, partitions⟩ := always oneUserPage twoWorkbooks oneByOne (by decide)
  obtain ⟨pages, served, -, perm⟩ := partitions orders ordered
  have shown : (((List.range (oneUserPage.pageCount twoWorkbooks oneByOne)).mapM fun number =>
      oneUserPage.handleGet twoWorkbooks (oneByOne.turnTo number) (orders number)).toOption.map
        fun pages => pages.flatMap Page.entries) = some [salesWorkbook, salesWorkbook] := by
    decide +kernel
  rw [served] at shown
  have twice : pages.flatMap Page.entries = [salesWorkbook, salesWorkbook] := Option.some.inj shown
  rw [twice] at perm
  exact absurd perm (by decide +kernel)

end Palette.Web.Archive
