import Palette.Foundation.Mirroring
import Mathlib.Data.String.Basic

/-!
# Copying Tableau's tables and settings

Each sync reads a reply of the remote database, or the settings document, and writes
one local table that holds the rows of every environment. Sites, projects and data
connections are placed row by row and the rows whose primary key was not collected are
deleted. Settings are placed entry by entry and the rows whose key is not in the
document are deleted.

A new row has no primary key when its identity is collected: it is pending in the
session and reaches the database at the next query. A sync that raises commits
nothing. What the database refuses, beyond several matches of one key, is a parameter.
-/

namespace Palette.Sync

open Palette.Foundation

universe u v w

/-- A value of the remote database as it arrives. -/
inductive Cell where
  | null
  | bool (value : Bool)
  | int (value : Int)
  | text (value : String)
  deriving DecidableEq, Repr

/-- NULL is looked up as `IS NULL`, every other value by equality. -/
def Cell.toKey : Cell → Option Cell
  | .null => none
  | cell => some cell

/-- The answer to a select: an error text, the rows under the empty key, and the flat
column description under `$schema` and `Info`. -/
structure OdbcReply where
  error : Option String
  rows : Option (List (List Cell))
  info : Option (List String)

/-- Exceptions that leave a sync. -/
inductive SyncException where
  | keyError
  | indexError
  | valueError
  | typeError
  | attributeError
  | multipleResultsFound
  | integrityError
  deriving DecidableEq, Repr

/-- The dictionary that a sync returns. -/
inductive SyncReply where
  | failure (error : String)
  | ok (count : Nat)
  deriving DecidableEq, Repr

/-- Environments are numbered. -/
abbrev Envid := Nat

/-- A sync ends with a table and a reply or an exception. -/
abbrev SyncResult (Key : Type u) (Values : Type v) (Reply : Type w) :=
  Table Envid Key Values × Except SyncException Reply

section Shared

variable {Item : Type u} {Values : Type v}

/-- The exception that a fault of the database raises. -/
def Fault.exception : Fault → SyncException
  | .multipleResults => .multipleResultsFound
  | .integrity => .integrityError

/-- Place the items, delete the rows that were not collected, commit and count. -/
def mirrorReply (source : Source Item Cell Values)
    (accepts : List (Row Envid Cell Values) → Bool) (envid : Envid) (items : List Item)
    (table : Table Envid Cell Values) : SyncResult Cell Values SyncReply :=
  match source.placeAll accepts envid table items with
  | .error fault => (table, .error (Fault.exception fault))
  | .ok (final, ids) => (final.deleteIds ids, .ok (.ok items.length))

/-- The text of a reply without the empty key. -/
def missingRows : String := "Missing '' key in query response."

/-- The shape shared by the three table syncs. -/
def syncTable (source : Source Item Cell Values)
    (decode : OdbcReply → List (List Cell) → Except SyncException (List Item))
    (accepts : List (Row Envid Cell Values) → Bool) (envid : Envid) (data : OdbcReply)
    (table : Table Envid Cell Values) : SyncResult Cell Values SyncReply :=
  match data.error, data.rows with
  | some error, _ => (table, .ok (.failure error))
  | none, none => (table, .ok (.failure missingRows))
  | none, some rows =>
      match decode data rows with
      | .error exception => (table, .error exception)
      | .ok items => mirrorReply source accepts envid items table

/-- Rows of fixed positions; a row that is too short raises wherever it stands. -/
def decodeRows (ofRow : List Cell → Option Item) (_ : OdbcReply) (rows : List (List Cell)) :
    Except SyncException (List Item) :=
  match rows.mapM ofRow with
  | some items => .ok items
  | none => .error .indexError

end Shared

/-! ## Sites -/

/-- The columns of a site besides its environment and id. -/
structure SiteColumns where
  name : Cell
  status : Cell
  createdAt : Cell
  updatedAt : Cell
  userQuota : Cell
  contentAdminMode : Cell
  storageQuota : Cell
  metricsLevel : Cell
  statusReason : Cell
  subscriptionsEnabled : Cell
  customSubscriptionFooter : Cell
  customSubscriptionEmail : Cell
  luid : Cell
  queryLimit : Cell
  urlNamespace : Cell
  deriving DecidableEq, Repr

namespace Site

/-- The positions of the site query. -/
def ofRow : List Cell → Option (Cell × SiteColumns)
  | id :: name :: status :: createdAt :: updatedAt :: userQuota :: contentAdminMode ::
      storageQuota :: metricsLevel :: statusReason :: subscriptionsEnabled ::
      customSubscriptionFooter :: customSubscriptionEmail :: luid :: queryLimit ::
      urlNamespace :: _ =>
    some (id, ⟨name, status, createdAt, updatedAt, userQuota, contentAdminMode, storageQuota,
      metricsLevel, statusReason, subscriptionsEnabled, customSubscriptionFooter,
      customSubscriptionEmail, luid, queryLimit, urlNamespace⟩)
  | _ => none

/-- A site row takes all its columns from the reply. -/
def source : Source (Cell × SiteColumns) Cell SiteColumns where
  key item := item.1.toKey
  assign item _ := item.2
  blank := ⟨.null, .null, .null, .null, .null, .null, .null, .null, .null, .null, .null, .null,
    .null, .null, .null⟩

/-- `Site.sync` after its query was answered. -/
def sync (accepts : List (Row Envid Cell SiteColumns) → Bool) (envid : Envid) (data : OdbcReply)
    (table : Table Envid Cell SiteColumns) : SyncResult Cell SiteColumns SyncReply :=
  syncTable source (decodeRows ofRow) accepts envid data table

end Site

/-! ## Projects -/

/-- The columns of a project besides its environment and id. -/
structure ProjectColumns where
  name : Cell
  ownerId : Cell
  createdAt : Cell
  updatedAt : Cell
  state : Cell
  description : Cell
  siteId : Cell
  special : Cell
  deriving DecidableEq, Repr

namespace Project

/-- The positions of the project query. -/
def ofRow : List Cell → Option (Cell × ProjectColumns)
  | id :: name :: ownerId :: createdAt :: updatedAt :: state :: description :: siteId ::
      special :: _ =>
    some (id, ⟨name, ownerId, createdAt, updatedAt, state, description, siteId, special⟩)
  | _ => none

/-- A project row takes all its columns from the reply. -/
def source : Source (Cell × ProjectColumns) Cell ProjectColumns where
  key item := item.1.toKey
  assign item _ := item.2
  blank := ⟨.null, .null, .null, .null, .null, .null, .null, .null⟩

/-- `Project.sync` after its query was answered. It notes a missing empty key without
returning, so the loop over the rows raises. -/
def sync (accepts : List (Row Envid Cell ProjectColumns) → Bool) (envid : Envid)
    (data : OdbcReply) (table : Table Envid Cell ProjectColumns) :
    SyncResult Cell ProjectColumns SyncReply :=
  match data.error, data.rows with
  | none, none => (table, .error .keyError)
  | _, _ => syncTable source (decodeRows ofRow) accepts envid data table

end Project

/-! ## Data connections -/

namespace ODBC

/-- Setting a key of an ordered dictionary keeps the place of a key that is there. -/
def setItem (column ctype : String) : List (String × String) → List (String × String)
  | [] => [(column, ctype)]
  | first :: rest =>
      if first.1 = column then (column, ctype) :: rest else first :: setItem column ctype rest

/-- Read the description in triples of which the first entry is not used. -/
def schemaFrom (known : List (String × String)) :
    List String → Except SyncException (List (String × String))
  | [] => .ok known
  | _ :: column :: ctype :: rest =>
      let bare := if ctype.startsWith "System." then (ctype.drop 7).toString else ctype
      schemaFrom (setItem column bare known) rest
  | _ => .error .indexError

/-- `ODBC.schema`: the columns of a reply with their types. -/
def schema (data : OdbcReply) : Except SyncException (List (String × String)) :=
  match data.info with
  | none => .error .keyError
  | some info => schemaFrom [] info

/-- The value kept for one cell. Only dates are converted; the parser is that of the
date library. -/
def convert (parse : String → Option Cell) (ctype : String) : Cell → Except SyncException Cell
  | cell =>
      if ctype = "DateTime" then
        match cell with
        | .null => .ok .null
        | .text value =>
            match parse (if value.endsWith "Z" then value.replace " " "T" else value) with
            | some date => .ok date
            | none => .error .valueError
        | _ => .error .attributeError
      else .ok cell

/-- `ODBCData`: the columns of one row with their converted values. -/
def dataOf (parse : String → Option Cell) :
    List (String × String) → List Cell → Except SyncException (List (String × Cell))
  | [], _ => .ok []
  | _ :: _, [] => .error .indexError
  | (column, ctype) :: columns, cell :: cells => do
      let value ← convert parse ctype cell
      let rest ← dataOf parse columns cells
      return (column, value) :: rest

/-- `ODBC.load`: every row of a reply is read before the first one is used. -/
def load (parse : String → Option Cell) (data : OdbcReply) (rows : List (List Cell)) :
    Except SyncException (List (List (String × Cell))) := do
  let columns ← schema data
  rows.mapM (dataOf parse columns)

end ODBC

namespace DataConnection

/-- A loaded row together with its id. -/
structure Item where
  id : Cell
  data : List (String × Cell)

/-- The id of a loaded row; a reply without such a column raises. -/
def withId (data : List (String × Cell)) : Except SyncException Item :=
  match data.lookup "id" with
  | some id => .ok ⟨id, data⟩
  | none => .error .keyError

/-- Load the rows and read their ids. -/
def decode (parse : String → Option Cell) (data : OdbcReply) (rows : List (List Cell)) :
    Except SyncException (List Item) := do
  let loaded ← ODBC.load parse data rows
  loaded.mapM withId

/-- `copyto` sets an attribute for each column of the reply and leaves the others. -/
def copyto (data : List (String × Cell)) (attributes : String → Cell) : String → Cell :=
  fun name => (data.lookup name).getD (attributes name)

/-- A data connection row keeps the attributes that the reply does not have. -/
def source : Source Item Cell (String → Cell) where
  key item := item.id.toKey
  assign item attributes := copyto item.data attributes
  blank := fun _ => .null

/-- `DataConnection.sync` after its query was answered. -/
def sync (parse : String → Option Cell) (accepts : List (Row Envid Cell (String → Cell)) → Bool)
    (envid : Envid) (data : OdbcReply) (table : Table Envid Cell (String → Cell)) :
    SyncResult Cell (String → Cell) SyncReply :=
  syncTable source (decode parse) accepts envid data table

end DataConnection

/-! ## Settings of the server -/

/-- A value of the settings document. Dates are kept as their text. -/
inductive YamlValue where
  | date (shown : String)
  | plain (value : Cell)
  deriving DecidableEq, Repr

/-- What the value becomes, so that it can be serialised later. -/
def YamlValue.jsonSafe : YamlValue → Cell
  | .date shown => .text shown
  | .plain value => value

/-- The mapping of a parsed document: its keys differ. A key may be null. -/
structure YamlMapping where
  entries : List (Option String × YamlValue)
  distinct : (entries.map Prod.fst).Nodup

namespace YmlEntry

/-- A settings row takes its value from the document. -/
def source : Source (Option String × YamlValue) String Cell where
  key entry := entry.1
  assign entry _ := entry.2.jsonSafe
  blank := .null

/-- `YmlEntry.sync`: replace the settings by those of a document. A document that does
not parse to a mapping raises. The new contents are returned. -/
def sync (load : String → Option YamlMapping) (accepts : List (Row Envid String Cell) → Bool)
    (envid : Envid) (yml : String) (table : Table Envid String Cell) :
    SyncResult String Cell (List (Option String × Cell)) :=
  match load yml with
  | none => (table, .error .attributeError)
  | some parsed =>
      match source.placeAll accepts envid table parsed.entries with
      | .error fault => (table, .error (Fault.exception fault))
      | .ok (final, _) =>
          (final.deleteKeys (parsed.entries.map source.key),
            .ok (parsed.entries.map fun entry => (entry.1, entry.2.jsonSafe)))

end YmlEntry

end Palette.Sync
