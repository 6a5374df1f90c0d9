import Palette.Sync.Tables

/-!
# Importing Tableau's users

The import reads two queries. The first gives the system users, the second their
logins and licences per site, merged into one entry for each system user. A system
user is looked up without regard to letter case among the users of the environment; a
new one is inserted, an existing one is changed. After a commit, every user whose name
was not read is marked inactive, in one update that does not look at the environment.

Login times are instants; the text form of an instant is the date library's concern and
a parameter, as is what the database refuses at a flush. Reading a date or a number
that is not one raises.
-/

namespace Palette.Sync

open Palette.Foundation Palette.Foundation.Sql

/-- Licensing roles of the remote database. -/
def License.unlicensed : Int := 3

def License.interactor : Int := 2

def License.viewer : Int := 1

/-- Roles of this system. -/
def Role.noAdmin : Int := 0

def Role.superAdmin : Int := 3

/-- What is known of a system user from its sites. -/
structure TableauUserEntry where
  loginAt : Option Int
  adminLevel : Int
  licensingRoleId : Int
  publisher : Bool
  deriving DecidableEq, Repr

namespace TableauUserEntry

/-- A later login replaces an earlier or missing one. -/
def updateLoginAt (entry : TableauUserEntry) (loginAt : Option Int) : TableauUserEntry :=
  match loginAt, entry.loginAt with
  | none, _ => entry
  | some _, none => { entry with loginAt := loginAt }
  | some new, some known => if known < new then { entry with loginAt := loginAt } else entry

/-- An interactor stays one; a viewer replaces everything else. -/
def updateLicensingRole (entry : TableauUserEntry) (licensingRoleId : Int) : TableauUserEntry :=
  if licensingRoleId = License.interactor then
    { entry with licensingRoleId := License.interactor }
  else if licensingRoleId = License.viewer ∧ entry.licensingRoleId ≠ License.interactor then
    { entry with licensingRoleId := License.viewer }
  else entry

end TableauUserEntry

namespace AuthManager

/-- Python's conversion to a number. -/
def toInt : Cell → Except SyncException Int
  | .int value => .ok value
  | .bool value => .ok (if value then 1 else 0)
  | .text value => match value.toInt? with
      | some number => .ok number
      | none => .error .valueError
  | .null => .error .typeError

/-- `odbc2dt`: a missing date stays missing. -/
def odbc2dt (parse : String → Option Int) : Cell → Except SyncException (Option Int)
  | .null => .ok none
  | .text value => match parse value with
      | some instant => .ok (some instant)
      | none => .error .valueError
  | _ => .error .attributeError

/-- The entries by system user id, in the order they were first seen. -/
abbrev Cache := List (Int × TableauUserEntry)

/-- Merge one row into the entry of its system user. -/
def mergeRow (cache : Cache) (sysid : Int) (loginAt : Option Int) (adminLevel : Int)
    (licensingRoleId : Int) : Cache :=
  match cache with
  | [] => [(sysid, ⟨loginAt, adminLevel, licensingRoleId, false⟩)]
  | (known, entry) :: rest =>
      if known = sysid then
        let seen := entry.updateLoginAt loginAt
        let raised := if seen.adminLevel < adminLevel then { seen with adminLevel := adminLevel }
          else seen
        (known, raised.updateLicensingRole licensingRoleId) :: rest
      else (known, entry) :: mergeRow rest sysid loginAt adminLevel licensingRoleId

/-- Read the rows of the second query in order. -/
def mergeRows (parse : String → Option Int) (cache : Cache) :
    List (List Cell) → Except SyncException Cache
  | [] => .ok cache
  | (sysid :: login :: admin :: licensing :: _) :: rest => do
      let sysid ← toInt sysid
      let loginAt ← odbc2dt parse login
      let adminLevel ← if admin = .null then pure 0 else toInt admin
      let licensingRoleId ← if licensing = .null then pure License.unlicensed else toInt licensing
      mergeRows parse (mergeRow cache sysid loginAt adminLevel licensingRoleId) rest
  | _ :: _ => .error .indexError

/-- `load_users`: an error or a reply without rows gives an empty cache. -/
def loadUsers (parse : String → Option Int) (data : OdbcReply) : Except SyncException Cache :=
  match data.error, data.rows with
  | none, some rows => mergeRows parse [] rows
  | _, _ => .ok []

/-- The columns of a user besides its id, environment and name. -/
structure UserProfile where
  active : Bool
  emailLevel : Int
  email : Cell
  hashedPassword : Cell
  salt : Cell
  friendlyName : Cell
  systemAdminLevel : Cell
  systemCreatedAt : Cell
  systemUserId : Cell
  loginAt : Option Int
  userAdminLevel : Option Int
  licensingRoleId : Option Int
  publisher : Option Bool
  roleid : Int
  modificationTime : Int
  deriving DecidableEq, Repr

/-- Users of all environments, with their names as keys. -/
abbrev Users := Table Envid String UserProfile

/-- One row of the first query. -/
structure SystemUser where
  name : String
  email : Cell
  hashedPassword : Cell
  salt : Cell
  friendlyName : Cell
  adminLevel : Cell
  createdAt : Cell
  sysid : Cell
  deriving DecidableEq, Repr

/-- Names that are never imported. -/
def excludes : List String := ["guest", "_system"]

/-- The positions of the user query after the name. -/
def SystemUser.ofColumns (name : String) : List Cell → Except SyncException SystemUser
  | email :: hashedPassword :: salt :: friendlyName :: adminLevel :: createdAt :: sysid :: _ =>
    .ok ⟨name, email, hashedPassword, salt, friendlyName, adminLevel, createdAt, sysid⟩
  | _ => .error .indexError

/-- The rows that are imported. An excluded name is skipped before its columns are read;
a name that is no text has no lower case. -/
def readUsers : List (List Cell) → Except SyncException (List SystemUser)
  | [] => .ok []
  | (.text name :: columns) :: rest =>
      if name.toLower ∈ excludes then readUsers rest
      else do
        let user ← SystemUser.ofColumns name columns
        let others ← readUsers rest
        return user :: others
  | [] :: _ => .error .indexError
  | _ => .error .attributeError

/-- The names that keep their users active. -/
def names (users : List SystemUser) : List String :=
  "palette" :: users.map SystemUser.name

/-- The columns of a user that was just created. -/
def newProfile (defaultEmailLevel : Int) (now : Int) : UserProfile :=
  ⟨true, defaultEmailLevel, .null, .null, .null, .null, .null, .null, .null, none, none, none, none,
    Role.noAdmin, now⟩

/-- What the import writes into a user. -/
def assign (cache : Cache) (firstLoad : Bool) (user : SystemUser) (profile : UserProfile) :
    UserProfile :=
  let copied := { profile with
    email := user.email
    hashedPassword := user.hashedPassword
    salt := user.salt
    friendlyName := user.friendlyName
    systemAdminLevel := user.adminLevel
    systemCreatedAt := user.createdAt
    systemUserId := user.sysid }
  let merged := match user.sysid with
    | .int sysid => match cache.lookup sysid with
        | some entry => { copied with
            loginAt := entry.loginAt
            userAdminLevel := some entry.adminLevel
            licensingRoleId := some entry.licensingRoleId
            publisher := some entry.publisher }
        | none => copied
    | _ => copied
  if firstLoad ∧ user.adminLevel = .int 10 then { merged with roleid := Role.superAdmin } else merged

/-- An update stamps a row only when it changes it. -/
def stamped (now : Int) (change : UserProfile → UserProfile) (profile : UserProfile) : UserProfile :=
  if change profile = profile then profile else { change profile with modificationTime := now }

/-- `get_by_name`: the users of the environment with that name in lower case. -/
def getByName (users : Users) (envid : Envid) (name : String) :
    List (Row Envid String UserProfile) :=
  users.rows.filter fun row => row.env = envid ∧ row.key.map String.toLower = some name.toLower

/-- One pass of the import loop, flushed at the next query. -/
def importUser (accepts : List (Row Envid String UserProfile) → Bool) (envid : Envid) (now : Int)
    (defaultEmailLevel : Int) (cache : Cache) (firstLoad : Bool) (users : Users)
    (user : SystemUser) : Except SyncException Users :=
  match getByName users envid user.name with
  | [] =>
      let next := users.insert envid (some user.name)
        (assign cache firstLoad user (newProfile defaultEmailLevel now))
      if accepts next.rows then .ok next else .error .integrityError
  | [row] =>
      let next := users.revise row.pk (stamped now (assign cache firstLoad user))
      if accepts next.rows then .ok next else .error .integrityError
  | _ => .error .multipleResultsFound

/-- The bulk update: users whose name was not read become inactive and are stamped. -/
def deactivate (now : Int) (kept : List String) (users : Users) : Users :=
  users.reviseWhere (fun row => selects (notIn row.key (kept.map some)))
    fun profile => { profile with active := false, modificationTime := now }

/-- What the import depends on besides the users and the two replies. -/
structure Setting where
  envid : Envid
  now : Int
  busy : Bool
  checkOdbcState : Bool
  odbcOk : Bool
  mainState : String
  alertsNewUserEnabled : String
  parse : String → Option Int
  accepts : List (Row Envid String UserProfile) → Bool
  notified : Except SyncException Unit

/-- The notification about the read-only password needs the built-in user, whose id is
zero, to be one of the environment; with a password its own outcome follows. -/
def eventit (setting : Setting) (users : Users) : Except SyncException Unit :=
  match users.rows.find? fun row => row.env = setting.envid ∧ row.pk = 0 with
  | none => .error .attributeError
  | some row =>
      if row.values.hashedPassword = .null ∨ row.values.hashedPassword = .text "" then .ok ()
      else setting.notified

/-- The import of read rows: place them, commit, then mark the others inactive. -/
def importAll (setting : Setting) (cache : Cache) (rows : List SystemUser) (users : Users) :
    Except SyncException Users := do
  let defaultEmailLevel := if setting.alertsNewUserEnabled = "yes" then 1 else 0
  let firstLoad := decide ((users.rows.filter fun row => row.env = setting.envid).length ≤ 1)
  let placed ← rows.foldlM (fun known user =>
    importUser setting.accepts setting.envid setting.now defaultEmailLevel cache firstLoad known user)
    users
  return deactivate setting.now (names rows) placed

/-- `AuthManager.load`. -/
def load (setting : Setting) (data usersData : OdbcReply) (users : Users) :
    SyncResult String UserProfile SyncReply :=
  if setting.busy then (users, .ok (.failure "auth: busy"))
  else if setting.checkOdbcState ∧ ¬ setting.odbcOk then
    (users, .ok (.failure ("Cannot run command while in state: " ++ setting.mainState)))
  else
    match eventit setting users, data.error, data.rows with
    | .error exception, _, _ => (users, .error exception)
    | .ok _, some error, _ => (users, .ok (.failure error))
    | .ok _, none, none => (users, .error .keyError)
    | .ok _, none, some rows =>
        match (do
            let cache ← loadUsers setting.parse usersData
            let read ← readUsers rows
            importAll setting cache read users) with
        | .error exception => (users, .error exception)
        | .ok after => (after, .ok (.ok rows.length))

end AuthManager

end Palette.Sync
