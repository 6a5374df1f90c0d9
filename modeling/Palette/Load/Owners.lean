import Mathlib
import Palette.Commands.Reply

/-!
# Translating owners

A user of Tableau has one identifier for the system and another one for each site. The
rows that are loaded tell the identifier at the site, and the identifier for the system
is stored with them. A load reads the table of users into a cache under the text of the
site and the user. Where the table cannot be read an empty dictionary takes the place of
the cache; its lookup takes two arguments, too, but the second one is what it returns
for a missing key.

The load of the http requests reads the users once. The loads of the workbooks and of the
data sources read them with the first row, and again with each row as long as they have
none.
-/

namespace Palette.Load.Owners

open Palette.Commands

/-- The identifier of a site or of a user, unless it is NULL. -/
abbrev Id := Option Int

/-- `str(id)`. -/
def str : Id → String
  | none => "None"
  | some id => id.repr

/-! ## The table of users -/

/-- A row of the query for the users. -/
structure UserRow where
  systemUserId : Id
  siteId : Id
  id : Id
  deriving DecidableEq, Repr

/-- What comes back for the query for the users. -/
inductive UsersReply where
  | error (message : String)
  | missing
  | rows (rows : List UserRow)
  deriving DecidableEq, Repr

/-- The users could be read. -/
def UsersReply.isRows : UsersReply → Bool
  | rows _ => true
  | _ => false

/-- The system user that the table of users gives for a user at a site. -/
def UsersReply.gives (reply : UsersReply) (siteId userId : Id) : Id :=
  match reply with
  | rows users => ((users.reverse.find? fun row => row.siteId = siteId ∧ row.id = userId).bind
      UserRow.systemUserId)
  | _ => none

/-! ## The cache -/

/-- `TableauUserCache`, the latest entry of a key first. -/
structure TableauUserCache where
  data : List (String × Int)
  deriving DecidableEq, Repr

namespace TableauUserCache

/-- `TableauUserCache.key`. -/
def key (siteId userId : Id) : String := str siteId ++ ":" ++ str userId

/-- `TableauUserCache.add`. -/
def add (cache : TableauUserCache) (siteId userId : Id) (systemUserId : Int) : TableauUserCache :=
  ⟨(key siteId userId, systemUserId) :: cache.data⟩

/-- `TableauUserCache.get`. -/
def get (cache : TableauUserCache) (siteId userId : Id) : Int :=
  (cache.data.lookup (key siteId userId)).getD (-1)

end TableauUserCache

/-- What the loads take for the users: the cache, or an empty dictionary. -/
inductive Users where
  | cache (cache : TableauUserCache)
  | dict
  deriving DecidableEq, Repr

namespace Users

/-- `users.get(site_id, user_id)`. The dictionary has no keys. -/
def get (users : Users) (siteId userId : Id) : Id :=
  match users with
  | cache known => some (known.get siteId userId)
  | dict => userId

/-- The truth of an object is that of a dictionary if it is one. -/
def truthy : Users → Bool
  | cache _ => true
  | dict => false

end Users

/-- Add the rows in order; a NULL is no number. -/
def addRows (cache : TableauUserCache) : List UserRow → Except Failure TableauUserCache
  | [] => .ok cache
  | row :: rest =>
    match row.systemUserId with
    | some systemUserId => addRows (cache.add row.siteId row.id systemUserId) rest
    | none => .error ⟨.typeError, "int() argument must be a string or a number"⟩

/-- `TableauCacheManager.load_users`. -/
def loadUsers : UsersReply → Except Failure Users
  | .rows rows => (addRows ⟨[]⟩ rows).map .cache
  | _ => .ok .dict

/-! ## The loads -/

/-- A row that is loaded, as far as its owner goes. -/
structure OwnedRow where
  siteId : Id
  projectId : Id
  userId : Id
  deriving DecidableEq, Repr

/-- A row as it is stored, with what the query for the users told before. -/
structure StoredRow where
  row : OwnedRow
  systemUserId : Id
  reply : UsersReply
  deriving DecidableEq, Repr

/-- The row as it is stored under the given users. -/
def store (users : Users) (reply : UsersReply) (row : OwnedRow) : StoredRow :=
  ⟨row, users.get row.siteId row.userId, reply⟩

/-- The rows that a load stores, and the exception that ends it early. -/
abbrev LoadResult := List StoredRow × Option Failure

/-- `HttpRequestManager.load`: the users are read before the rows. -/
def httpLoad (reply : UsersReply) (rows : List OwnedRow) : LoadResult :=
  match loadUsers reply with
  | .ok users => (rows.map (store users reply), none)
  | .error failure => ([], some failure)

/-- The loop over the rows of the other loads. The replies are those to the next queries
for the users; `held` is what the last one gave. -/
def lazyLoad (replies : Nat → UsersReply) (held : Option (Users × UsersReply)) :
    List OwnedRow → LoadResult
  | [] => ([], none)
  | row :: rest =>
    match held.filter fun held => held.1.truthy with
    | some (users, reply) =>
      let result := lazyLoad replies (some (users, reply)) rest
      (store users reply row :: result.1, result.2)
    | none =>
      match loadUsers (replies 0) with
      | .error failure => ([], some failure)
      | .ok users =>
        let result := lazyLoad (fun index => replies (index + 1)) (some (users, replies 0)) rest
        (store users (replies 0) row :: result.1, result.2)

/-- `WorkbookManager.load`. The workbooks of the sample project are passed over. -/
def workbookLoad (sampleProjectId : Id) (replies : Nat → UsersReply) (rows : List OwnedRow) :
    LoadResult :=
  lazyLoad replies none (rows.filter fun row => row.projectId ≠ sampleProjectId)

/-- `DataSourceManager.load`. -/
def datasourceLoad (replies : Nat → UsersReply) (rows : List OwnedRow) : LoadResult :=
  lazyLoad replies none rows

/-- Each stored row has the system user that the users gave for it, or -1. -/
def Translated (result : LoadResult) : Prop :=
  ∀ stored ∈ result.1,
    stored.systemUserId = some ((stored.reply.gives stored.row.siteId stored.row.userId).getD (-1))

/-! ## Keys -/

/-- A number is written with digits and a sign. -/
theorem isDigit_of_mem_repr {id : Int} {char : Char} (member : char ∈ id.repr.toList) :
    char.isDigit = true ∨ char = '-' := by
  have digit : ∀ value : Nat, char ∈ value.repr.toList → char.isDigit = true := by
    intro value listed
    rw [Nat.toList_repr] at listed
    exact Nat.isDigit_of_mem_toDigits (by decide) (by decide) listed
  rw [Int.repr_eq_if] at member
  split at member
  · exact .inl (digit _ member)
  · rw [String.toList_append, List.mem_append] at member
    rcases member with sign | listed
    · exact .inr (by simpa using sign)
    · exact .inl (digit _ listed)

/-- No identifier has a colon. -/
theorem colon_notMem_str (id : Id) : ':' ∉ (str id).toList := by
  intro member
  cases id with
  | none => exact absurd member (by decide)
  | some id =>
    rcases isDigit_of_mem_repr member with digit | sign
    · exact absurd digit (by decide)
    · exact absurd sign (by decide)

/-- Different identifiers have different texts. -/
theorem str_injective {one other : Id} (same : str one = str other) : one = other := by
  have numbered : ∀ id : Int, str none ≠ str (some id) := by
    intro id same
    have member : 'N' ∈ (str (some id)).toList := same ▸ (by decide)
    rcases isDigit_of_mem_repr member with digit | sign
    · exact absurd digit (by decide)
    · exact absurd sign (by decide)
  cases one with
  | none =>
    cases other with
    | none => rfl
    | some id => exact absurd same (numbered id)
  | some id =>
    cases other with
    | none => exact absurd same.symm (numbered id)
    | some otherId => rw [Int.repr_injective same]

/-- The key tells the site and the user. -/
theorem key_inj {siteId userId otherSite otherUser : Id} :
    TableauUserCache.key siteId userId = TableauUserCache.key otherSite otherUser ↔
      siteId = otherSite ∧ userId = otherUser := by
  constructor
  · intro same
    have lists := congrArg String.toList same
    have colon : ":".toList = [':'] := rfl
    simp only [TableauUserCache.key, String.toList_append, List.append_assoc, colon,
      List.singleton_append] at lists
    obtain ⟨sites, -, users⟩ := (List.append_cons_inj_of_notMem (colon_notMem_str siteId)
      (colon_notMem_str userId)).mp lists
    exact ⟨str_injective (String.toList_injective sites), str_injective (String.toList_injective users)⟩
  · rintro ⟨rfl, rfl⟩
    rfl

/-! ## The cache agrees with the table -/

/-- An added user is found under its own site and identifier. -/
theorem get_add (cache : TableauUserCache) (siteId userId otherSite otherUser : Id) (id : Int) :
    (cache.add siteId userId id).get otherSite otherUser =
      if siteId = otherSite ∧ userId = otherUser then id else cache.get otherSite otherUser := by
  simp only [TableauUserCache.get, TableauUserCache.add, List.lookup_cons]
  by_cases same : siteId = otherSite ∧ userId = otherUser
  · obtain ⟨rfl, rfl⟩ := same
    simp
  · have other : TableauUserCache.key otherSite otherUser ≠ TableauUserCache.key siteId userId :=
      fun keys => same ((key_inj.mp keys).imp Eq.symm Eq.symm)
    simp [same, beq_false_of_ne other]

/-- Rows that are added have a system user each. -/
theorem isSome_of_addRows {rows : List UserRow} {before after : TableauUserCache}
    (added : addRows before rows = .ok after) {row : UserRow} (member : row ∈ rows) :
    ∃ id, row.systemUserId = some id := by
  induction rows generalizing before with
  | nil => exact absurd member List.not_mem_nil
  | cons first rest inductionHypothesis =>
    simp only [addRows] at added
    cases known : first.systemUserId with
    | none => simp [known] at added
    | some id =>
      rw [known] at added
      rcases List.mem_cons.mp member with rfl | later
      · exact ⟨id, known⟩
      · exact inductionHypothesis added later

/-- After the rows are added, the last row of a user counts, and then what was there. -/
theorem get_addRows {rows : List UserRow} {before after : TableauUserCache}
    (added : addRows before rows = .ok after) (siteId userId : Id) :
    after.get siteId userId =
      ((UsersReply.rows rows).gives siteId userId).getD (before.get siteId userId) := by
  induction rows generalizing before with
  | nil =>
    obtain rfl : before = after := by simpa [addRows] using added
    rfl
  | cons row rest inductionHypothesis =>
    simp only [addRows] at added
    cases known : row.systemUserId with
    | none => simp [known] at added
    | some systemUserId =>
      rw [known] at added
      rw [inductionHypothesis added, get_add]
      simp only [UsersReply.gives, List.reverse_cons, List.find?_append, List.find?_singleton]
      cases found : rest.reverse.find? fun row => decide (row.siteId = siteId ∧ row.id = userId) with
      | some later =>
        obtain ⟨id, told⟩ := isSome_of_addRows added
          (List.mem_reverse.mp (List.mem_of_find?_eq_some found))
        simp [told]
      | none =>
        by_cases same : row.siteId = siteId ∧ row.id = userId
        · simp [same, known]
        · simp [same]

/-- A row is stored with the right owner if the users could be read, or if the identifier
of its user happens to be -1. -/
theorem store_translated_iff {reply : UsersReply} {users : Users} (loaded : loadUsers reply = .ok users)
    (row : OwnedRow) :
    (store users reply row).systemUserId =
        some ((reply.gives row.siteId row.userId).getD (-1)) ↔
      reply.isRows = true ∨ row.userId = some (-1) := by
  cases reply with
  | error message =>
    obtain rfl : Users.dict = users := by simpa [loadUsers] using loaded
    simp [store, Users.get, UsersReply.gives, UsersReply.isRows]
  | missing =>
    obtain rfl : Users.dict = users := by simpa [loadUsers] using loaded
    simp [store, Users.get, UsersReply.gives, UsersReply.isRows]
  | rows rows =>
    cases added : addRows ⟨[]⟩ rows with
    | error failure => simp [loadUsers, added, Except.map] at loaded
    | ok cache =>
      obtain rfl : Users.cache cache = users := by simpa [loadUsers, added, Except.map] using loaded
      simp only [store, Users.get, get_addRows added, UsersReply.isRows, true_or, iff_true]
      rfl

/-- Users that could be read are a true object. -/
theorem truthy_iff {reply : UsersReply} {users : Users} (loaded : loadUsers reply = .ok users) :
    users.truthy = reply.isRows := by
  cases reply with
  | error message =>
    obtain rfl : Users.dict = users := by simpa [loadUsers] using loaded
    rfl
  | missing =>
    obtain rfl : Users.dict = users := by simpa [loadUsers] using loaded
    rfl
  | rows rows =>
    cases added : addRows ⟨[]⟩ rows with
    | error failure => simp [loadUsers, added, Except.map] at loaded
    | ok cache =>
      obtain rfl : Users.cache cache = users := by simpa [loadUsers, added, Except.map] using loaded
      rfl

/-! ## The loads translate -/

/-- The first row and the others. -/
theorem translated_cons {reply : UsersReply} {users : Users} (loaded : loadUsers reply = .ok users)
    (row : OwnedRow) {rest : List StoredRow} {failure : Option Failure} :
    Translated (store users reply row :: rest, failure) ↔
      (reply.isRows = true ∨ row.userId = some (-1)) ∧ Translated (rest, failure) := by
  rw [← store_translated_iff loaded row]
  exact List.forall_mem_cons

/-- Once the users are held, every row is stored with the right owner. -/
theorem lazyLoad_held {replies : Nat → UsersReply} {users : Users} {reply : UsersReply}
    (loaded : loadUsers reply = .ok users) (readable : reply.isRows = true) (rows : List OwnedRow) :
    Translated (lazyLoad replies (some (users, reply)) rows) := by
  have held : (some (users, reply)).filter (fun held => held.1.truthy) = some (users, reply) := by
    simp [Option.filter, truthy_iff loaded, readable]
  induction rows with
  | nil => simp [lazyLoad, Translated]
  | cons row rest inductionHypothesis =>
    simp only [lazyLoad, held]
    exact (translated_cons loaded row).mpr ⟨.inl readable, inductionHypothesis⟩

/-- The users are asked for with each row until they can be read. A row is stored with the
right owner if and only if they could be read by then, or if its own identifier is -1. -/
theorem lazyLoad_translated_iff {replies : Nat → UsersReply} {held : Option (Users × UsersReply)}
    (unheld : held.filter (fun held => held.1.truthy) = none) (rows : List OwnedRow) :
    Translated (lazyLoad replies held rows) ↔ ∀ index row, rows[index]? = some row →
      (∃ earlier ≤ index, (replies earlier).isRows = true) ∨ row.userId = some (-1) := by
  induction rows generalizing replies held with
  | nil => simp [lazyLoad, Translated]
  | cons row rest inductionHypothesis =>
    simp only [lazyLoad, unheld]
    cases loaded : loadUsers (replies 0) with
    | error failure =>
      have readable : (replies 0).isRows = true := by
        cases reply : replies 0 <;> simp_all [loadUsers, UsersReply.isRows]
      exact iff_of_true (by simp [Translated]) fun index _ _ => .inl ⟨0, Nat.zero_le index, readable⟩
    | ok users =>
      dsimp only
      rw [translated_cons loaded row]
      cases readable : (replies 0).isRows with
      | true =>
        exact iff_of_true ⟨.inl rfl, lazyLoad_held loaded readable rest⟩
          fun index _ _ => .inl ⟨0, Nat.zero_le index, readable⟩
      | false =>
        have still : (some (users, replies 0)).filter (fun held => held.1.truthy) = none := by
          simp [Option.filter, truthy_iff loaded, readable]
        have later : ∀ index, (∃ earlier ≤ index + 1, (replies earlier).isRows = true) ↔
            ∃ earlier ≤ index, (replies (earlier + 1)).isRows = true := by
          intro index
          constructor
          · rintro ⟨earlier, bound, asked⟩
            cases earlier with
            | zero => simp [readable] at asked
            | succ earlier => exact ⟨earlier, by omega, asked⟩
          · rintro ⟨earlier, bound, asked⟩
            exact ⟨earlier + 1, by omega, asked⟩
        rw [inductionHypothesis still]
        constructor
        · rintro ⟨first, others⟩ index other found
          cases index with
          | zero =>
            obtain rfl : row = other := by simpa using found
            exact first.elim (fun impossible => absurd impossible (by simp)) .inr
          | succ index =>
            rw [later]
            exact others index other (by simpa using found)
        · intro all
          constructor
          · rcases all 0 row rfl with ⟨earlier, bound, asked⟩ | own
            · obtain rfl : earlier = 0 := by omega
              exact .inl (readable.symm.trans asked)
            · exact .inr own
          · intro index other found
            have either := all (index + 1) other (by simpa using found)
            rwa [later] at either

/-- Each load stores the right owners if and only if, for each of its rows, the users
could be read by then, or the identifier of the user at the site is -1. -/
theorem owners_translated_iff (reply : UsersReply) (replies : Nat → UsersReply)
    (sampleProjectId : Id) (rows : List OwnedRow) :
    (Translated (httpLoad reply rows) ↔
      reply.isRows = true ∨ ∀ row ∈ rows, row.userId = some (-1)) ∧
    (Translated (workbookLoad sampleProjectId replies rows) ↔
      ∀ index row, (rows.filter fun row => row.projectId ≠ sampleProjectId)[index]? = some row →
        (∃ earlier ≤ index, (replies earlier).isRows = true) ∨ row.userId = some (-1)) ∧
    (Translated (datasourceLoad replies rows) ↔ ∀ index row, rows[index]? = some row →
      (∃ earlier ≤ index, (replies earlier).isRows = true) ∨ row.userId = some (-1)) := by
  refine ⟨?_, lazyLoad_translated_iff rfl _, lazyLoad_translated_iff rfl _⟩
  simp only [httpLoad]
  cases loaded : loadUsers reply with
  | error failure =>
    have readable : reply.isRows = true := by
      cases reply <;> simp_all [loadUsers, UsersReply.isRows]
    exact iff_of_true (by simp [Translated]) (.inl readable)
  | ok users =>
    simp only [Translated, List.forall_mem_map]
    have each := store_translated_iff loaded
    simp only [store] at each ⊢
    simp only [each]
    constructor
    · intro all
      by_cases readable : reply.isRows = true
      · exact .inl readable
      · exact .inr fun row member => (all row member).resolve_left readable
    · rintro (readable | own) row member
      · exact .inl readable
      · exact .inr (own row member)

/-- The users cannot be read, and a request of the user 7 at a site is stored as one of the
system user 7. -/
theorem failed_query_not_translated :
    ¬Translated (httpLoad (.error "Communication failure with agent.") [⟨some 1, none, some 7⟩]) := by
  intro translated
  exact absurd (translated _ List.mem_cons_self) (by decide)

end Palette.Load.Owners
