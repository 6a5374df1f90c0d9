import Mathlib.Data.List.Sort
import Palette.Commands.Reply
import Palette.Foundation.Outcome

/-!
# The archive pages

The pages of workbooks and of data sources show entries with the updates that were recorded of
them. The updates of an entry come from the database in descending order of their revisions,
which are texts, and the first of them is shown as the current one. Names of users are looked up
as they are needed and kept for the rest of the page.
-/

namespace Palette.Web.Archive

open Palette.Commands (Failure)
open Palette.Foundation

/-! ## Tables -/

/-- A row of `workbooks` or `datasources`. -/
structure Entry where
  key : Nat
  envid : Nat
  siteId : Option Int
  projectId : Option Int
  systemUserId : Option Int
  name : Option String
  createdAt : Option Nat
  deriving DecidableEq, Repr

/-- A row of `workbook_updates` or `datasource_updates`. -/
structure UpdateEntry where
  id : Nat
  parent : Option Nat
  revision : String
  fileid : Option Nat
  fileidTwbx : Option Nat
  timestamp : Nat
  systemUserId : Option Int
  url : Option String
  note : Option String
  deriving DecidableEq, Repr

/-- A row of `sites` or `projects`. -/
structure Place where
  envid : Nat
  id : Int
  name : String
  deriving DecidableEq, Repr

/-- A row of `users`. No two of them have the same `system_user_id`. -/
structure UserProfile where
  envid : Nat
  name : String
  friendlyName : Option String
  systemUserId : Option Int
  deriving DecidableEq, Repr

/-- `display_name`. -/
def UserProfile.displayName (profile : UserProfile) : String :=
  match profile.friendlyName with
  | none | some "" => profile.name
  | some friendly => friendly

/-- What a page reads besides the entries and their updates. -/
structure Surroundings where
  envid : Nat
  sites : List Place
  projects : List Place
  users : List UserProfile

/-- The order in which the database sorts texts. Of texts that have only digits every one of its
orders compares the digits from the first to the last. -/
structure Collation where
  le : String → String → Bool
  total : ∀ left right, le left right = true ∨ le right left = true
  trans : ∀ left middle right, le left middle = true → le middle right = true →
    le left right = true
  digits : ∀ left right : List Char, left.all Char.isDigit = true → right.all Char.isDigit = true →
    (le (String.ofList left) (String.ofList right) = true ↔ ¬ List.Lex (· < ·) right left)

/-! ## Names of users -/

/-- `UNDEFINED`. -/
def undefined : String := "NONE"

/-- `ArchiveUserCache`: the names that were looked up already. -/
abbrev UserCache := List (Int × String)

section Names

variable (around : Surroundings)

/-- `ArchiveUserCache._get_from_db`. -/
def getFromDb (systemUserId : Int) : String :=
  match around.users.find? fun user =>
      user.envid = around.envid ∧ user.systemUserId = some systemUserId with
  | none => undefined
  | some user => user.displayName

/-- `ArchiveUserCache.__getitem__`. -/
def getitem (cache : UserCache) : Option Int → Except Failure (String × UserCache)
  | none => .error ⟨.typeError, "int() argument must be a string or a number, not 'NoneType'"⟩
  | some systemUserId =>
    match cache.lookup systemUserId with
    | some displayName => .ok (displayName, cache)
    | none => .ok (getFromDb around systemUserId,
        (systemUserId, getFromDb around systemUserId) :: cache)

end Names

/-! ## The data of a page -/

/-- What is shown of an update. -/
structure UpdateData where
  update : UpdateEntry
  timestamp : String
  url : Option String
  username : String
  deriving DecidableEq, Repr

/-- What is shown of an entry. -/
structure EntryData where
  entry : Entry
  updates : List UpdateData
  lastUpdatedBy : Option String
  lastUpdatedAt : Option String
  currentRevision : Option String
  url : Option String
  site : Option String
  project : Option String
  deriving DecidableEq, Repr

/-- How a page shows what it reads. The two pages differ in the path of an archive and in the
projects that are shown. -/
structure Application where
  around : Surroundings
  collation : Collation
  /-- A time in the local zone as a text. -/
  strftime : Nat → String
  path : String
  projects : List Place

/-- `_remove_sample_project`. A project with the number zero is not removed. -/
def removeSampleProject (projects : List Place) : List Place :=
  match projects.find? fun project => project.name = "Tableau Samples" with
  | none => projects
  | some sample => if sample.id = 0 then projects else projects.filter (·.id ≠ sample.id)

/-- `Project.cache`. -/
def Surroundings.shownProjects (around : Surroundings) : List Place :=
  around.projects.filter (·.envid = around.envid)

/-- `WorkbookApplication`. -/
def workbookApplication (around : Surroundings) (collation : Collation)
    (strftime : Nat → String) : Application where
  around := around
  collation := collation
  strftime := strftime
  path := "/data/workbook-archive/"
  projects := removeSampleProject around.shownProjects

/-- `DatasourceApplication`. -/
def datasourceApplication (around : Surroundings) (collation : Collation)
    (strftime : Nat → String) : Application where
  around := around
  collation := collation
  strftime := strftime
  path := "/data/datasource-archive/"
  projects := around.shownProjects

/-- `entry.updates`: the rows of the entry in descending order of their revisions. -/
def Collation.updates (collation : Collation) (rows : List UpdateEntry) (entry : Entry) :
    List UpdateEntry :=
  (rows.filter (·.parent = some entry.key)).insertionSort
    fun update other => collation.le other.revision update.revision = true

namespace Application

variable (application : Application)

/-- What is shown of an update by a user. -/
def updateData (update : UpdateEntry) (username : String) : UpdateData where
  update := update
  timestamp := application.strftime update.timestamp
  url := update.url.map fun url => if url = "" then url else application.path ++ url
  username := username

/-- `_build_updates_for_workbook` and `_build_updates_for_datasources`. -/
def buildUpdates : List UpdateEntry → UserCache → Except Failure (List UpdateData × UserCache)
  | [], users => .ok ([], users)
  | update :: rest, users => do
    let (username, users) ← getitem application.around users update.systemUserId
    let (updates, users) ← buildUpdates rest users
    return (application.updateData update username :: updates, users)

/-- The pass of the loop of `handle_get` for one entry. -/
def entryData (entry : Entry) (updates : List UpdateData) : EntryData where
  entry := entry
  updates := updates
  lastUpdatedBy := updates.head?.map (·.username)
  lastUpdatedAt := updates.head?.map (·.timestamp)
  currentRevision := updates.head?.map (·.update.revision)
  url := (updates.head?.bind (·.url)).filter (· ≠ "")
  site := entry.siteId.bind fun site =>
    (application.around.sites.find? fun row =>
      row.envid = application.around.envid ∧ row.id = site).map (·.name)
  project := entry.projectId.bind fun project =>
    (application.projects.find? (·.id = project)).map (·.name)

/-- The loop of `handle_get` over the entries of a page. -/
def pageData (rows : List UpdateEntry) :
    List Entry → UserCache → Except Failure (List EntryData)
  | [], _ => .ok []
  | entry :: rest, users => do
    let (updates, users) ← application.buildUpdates (application.collation.updates rows entry) users
    return application.entryData entry updates :: (← pageData rows rest users)

end Application

/-! ## What a page makes of its entries -/

section Pages

variable {around : Surroundings} {cache : UserCache}

/-- The names that were kept are those in the database. -/
def Cached (around : Surroundings) (cache : UserCache) : Prop :=
  ∀ pair ∈ cache, pair.2 = getFromDb around pair.1

theorem cached_nil (around : Surroundings) : Cached around [] := nofun

/-- A user gets the name that is in the database, kept or not. -/
theorem getitem_settles (cached : Cached around cache) (systemUserId : Option Int) :
    Settles (getitem around cache systemUserId) (systemUserId ≠ none) fun result =>
      (∃ known, systemUserId = some known ∧ result.1 = getFromDb around known) ∧
        Cached around result.2 := by
  cases systemUserId with
  | none => exact fun known => known rfl
  | some known =>
    cases found : cache.lookup known with
    | some displayName =>
      have taken : getitem around cache (some known) = .ok (displayName, cache) := by
        simp [getitem, found]
      obtain ⟨before, after, same, -⟩ := List.lookup_eq_some_iff.mp found
      have kept := cached (known, displayName) (by simp [same])
      rw [taken]
      exact ⟨nofun, ⟨known, rfl, kept⟩, cached⟩
    | none =>
      have added : getitem around cache (some known) = .ok (getFromDb around known,
          (known, getFromDb around known) :: cache) := by
        simp [getitem, found]
      rw [added]
      exact ⟨nofun, ⟨known, rfl, rfl⟩, List.forall_mem_cons.mpr ⟨rfl, cached⟩⟩

/-- The name of the user of an update. -/
def username (around : Surroundings) (update : UpdateEntry) : String :=
  update.systemUserId.elim undefined (getFromDb around)

variable {application : Application}

/-- What should be shown of an update. -/
def Application.shown (application : Application) (update : UpdateEntry) : UpdateData :=
  application.updateData update (username application.around update)

/-- The updates are shown if each of them has a user. -/
theorem buildUpdates_settles (cached : Cached application.around cache)
    (updates : List UpdateEntry) :
    Settles (application.buildUpdates updates cache)
      (∀ update ∈ updates, update.systemUserId ≠ none) fun result =>
        result.1 = updates.map application.shown ∧ Cached application.around result.2 := by
  induction updates generalizing cache with
  | nil => exact ⟨nofun, rfl, cached⟩
  | cons update rest inductionHypothesis =>
    unfold Application.buildUpdates
    refine Settles.mono (?_ : Settles _ (update.systemUserId ≠ none ∧
      (∀ update ∈ rest, update.systemUserId ≠ none) ∧ True) _) ?_ fun _ => id
    · refine (getitem_settles cached _).bind ?_
      rintro ⟨name, users⟩ ⟨⟨known, same, named⟩, kept⟩
      refine (inductionHypothesis kept).bind ?_
      rintro ⟨others, users⟩ ⟨built, kept⟩
      refine Settles.pure ⟨?_, kept⟩
      dsimp only at named built ⊢
      rw [List.map_cons, ← built, Application.shown, username, same, Option.elim_some, ← named]
    · rw [List.forall_mem_cons, and_true]

/-- A page is shown if every update of its entries has a user, and then each entry has its updates
in their order. -/
theorem pageData_settles (cached : Cached application.around cache) (rows : List UpdateEntry)
    (entries : List Entry) :
    Settles (application.pageData rows entries cache)
      (∀ entry ∈ entries, ∀ update ∈ application.collation.updates rows entry,
        update.systemUserId ≠ none) fun datas =>
        datas = entries.map fun entry => application.entryData entry
          ((application.collation.updates rows entry).map application.shown) := by
  induction entries generalizing cache with
  | nil => exact ⟨nofun, rfl⟩
  | cons entry rest inductionHypothesis =>
    unfold Application.pageData
    refine Settles.mono (?_ : Settles _
      ((∀ update ∈ application.collation.updates rows entry, update.systemUserId ≠ none) ∧
        (∀ entry ∈ rest, ∀ update ∈ application.collation.updates rows entry,
          update.systemUserId ≠ none) ∧ True) _) ?_ fun _ => id
    · refine (buildUpdates_settles cached _).bind ?_
      rintro ⟨updates, users⟩ ⟨built, kept⟩
      refine (inductionHypothesis kept).bind ?_
      rintro others rfl
      refine Settles.pure ?_
      dsimp only at built ⊢
      rw [List.map_cons, ← built]
    · rw [List.forall_mem_cons, and_true]

end Pages

end Palette.Web.Archive
