import Palette.Files.Catalogue
import Palette.Foundation.Script

/-!
# Archiving workbook updates

Each update of a workbook is fetched by the agent, looked at, copied to the controller and put
into its place; then its url is set. Many calls are made for it, and how each of them ends is
given in advance. Some failures are caught and reported by an event, others pass through the
loop over the updates.

An update whose file is gone is removed, and one that is refused for the credentials ends the
loop and switches archiving off.
-/

namespace Palette.Archives

open Palette.Commands (Failure)
open Palette.Files (Agent Path)
open Palette.Foundation Script

/-! ## Calls and what they give -/

/-- What is raised. -/
inductive Raised where
  | badCredentials
  | indexError
  | other (failure : Failure)
  deriving DecidableEq, Repr

/-- The body of a command, as far as it has these keys. -/
structure CmdBody where
  error : Option (List Char)
  stderr : Option (List Char)
  deriving DecidableEq, Repr

/-- The body of a question for the type of a file. -/
structure TypeBody where
  type : Option (List Char)
  signature : Option (List Nat)
  deriving DecidableEq, Repr

/-- The body of a question for the size of a file. -/
structure SizeBody where
  error : Option (List Char)
  size : Option Nat
  deriving DecidableEq, Repr

/-- What `archive_file` meets: the size of the file, and the id of the file entry that it is
placed with, if it is. -/
structure Placing where
  filesize : Except Failure SizeBody
  place : Except Failure (Option Nat)

/-- How the calls for an update end. -/
structure Calls (Content : Type) where
  /-- A user has set the number of archives to keep. -/
  retainCount : Option Int
  odbcOk : Bool
  /-- An update whose row was deleted cannot be refreshed. -/
  refresh : Option Failure
  /-- The update has a workbook. -/
  workbook : Bool
  diskCheck : Except Failure Path
  /-- The cleaned filename, if the row of the workbook is found. -/
  filename : Option (Except Failure Path)
  siteId : Nat
  /-- There is a row of the site. -/
  site : Bool
  tabcmd : Nat → Except Failure CmdBody
  eventgen : Nat → Option Failure
  removeWbu : Option Failure
  filetype : Except Failure TypeBody
  ptwbx : Except Failure CmdBody
  archiveSaveTwbx : Bool
  deleteTwbx : Option Failure
  move : Option Failure
  get : Except Failure Content
  twb : Placing
  twbx : Placing
  commit : Option Failure

/-- The columns of an update that archiving writes. -/
structure UpdateEntry (Content : Type) where
  url : Option Path
  fileid : Option Nat
  fileidTwbx : Option Nat
  twb : Option Content
  deriving DecidableEq, Repr

/-- The kinds of events about an update. -/
inductive UpdateEvent where
  | workbookArchiveFailed
  | credentialsFailed
  deriving DecidableEq, Repr

/-- The updates by their ids, those that were removed, the number of archives to keep, the updates
that were attempted and the events. -/
structure Archiving (Content : Type) where
  entries : Nat → UpdateEntry Content
  removed : List Nat
  retainCount : Int
  attempted : List Nat
  events : List (Nat × UpdateEvent)

variable {Content : Type}

/-- What is done with the updates. -/
abbrev ArchiveWork (Content : Type) := Script (Archiving Content) Raised

/-- Raise a failure, if there is one. -/
def raiseIf (failure : Option Failure) : ArchiveWork Content PUnit :=
  match failure with
  | some failure => throw (.other failure)
  | none => pure ⟨⟩

/-- Return or raise as a call ends. -/
def called {Value : Type} (outcome : Except Failure Value) : ArchiveWork Content Value :=
  settle (outcome.mapError .other)

/-- Change an update. -/
def Archiving.revise (wuid : Nat) (change : UpdateEntry Content → UpdateEntry Content)
    (archiving : Archiving Content) : Archiving Content :=
  { archiving with entries :=
      Function.update archiving.entries wuid (change (archiving.entries wuid)) }

/-- A text has another one in it. -/
def includes (text : List Char) (part : String) : Bool :=
  text.tails.any fun rest => part.toList.isPrefixOf rest

/-! ## Fetching -/

section Fetching

variable (calls : Calls Content)

/-- `_eventgen`, for the event of a turn. -/
def eventgen (wuid turn : Nat) (key : UpdateEvent) : ArchiveWork Content PUnit := do
  raiseIf (calls.eventgen turn)
  modify fun archiving => { archiving with events := archiving.events ++ [(wuid, key)] }

/-- A command is tried again: it says nothing of why it failed, or that the service is not
available. -/
def CmdBody.again (body : CmdBody) : Bool :=
  body.error.isSome && match body.stderr with
    | none => true
    | some stderr => includes stderr "Service Unavailable"

/-- The attempts of a command, with so many left after this one. -/
def tabcmdAttempts : Nat → Nat → Except Failure CmdBody
  | 0, turn => calls.tabcmd turn
  | left + 1, turn => do
    let body ← calls.tabcmd turn
    if body.again then tabcmdAttempts left (turn + 1) else return body

/-- `tabcmd_run`, with three attempts. -/
def tabcmdRun : Except Failure CmdBody :=
  if calls.site then tabcmdAttempts calls 2 0
  else .ok ⟨some ("Missing site id: " ++ toString calls.siteId).toList, none⟩

/-- `_remove_wbu`. -/
def removeWbu (wuid : Nat) : ArchiveWork Content PUnit := do
  raiseIf calls.removeWbu
  modify fun archiving => { archiving with removed := archiving.removed ++ [wuid] }

/-- What is left to do after a command that failed. -/
def tabcmdFailed (wuid : Nat) (body : CmdBody) : ArchiveWork Content PUnit := do
  eventgen calls wuid 0 .workbookArchiveFailed
  match body.stderr with
  | none => pure ⟨⟩
  | some stderr =>
    if includes stderr "Not authorized" then
      modify fun archiving => { archiving with retainCount := 0 }
      eventgen calls wuid 1 .credentialsFailed
      throw .badCredentials
    else if includes stderr "404" ∧ includes stderr "Not Found" then removeWbu calls wuid

/-- `_tabcmd_get`. A missing row of the workbook is reported by an attribute that no update has. -/
def tabcmdGet (agent : Agent) (wuid : Nat) (tmpdir : Path) : ArchiveWork Content (Option Path) := do
  match calls.filename with
  | none => throw (.other ⟨.attributeError,
      "'WorkbookUpdateEntry' object has no attribute 'workbookdid'"⟩)
  | some filename =>
    let filename ← called filename
    let dst := agent.join tmpdir (filename ++ ".twbx".toList)
    let body ← called (tabcmdRun calls)
    if body.error.isSome then
      tabcmdFailed calls wuid body
      return none
    else return some dst

end Fetching

/-! ## The file -/

/-- The types of files that are archived. -/
inductive FileType where
  | zip
  | xml
  deriving DecidableEq, Repr

/-- A signature begins with some bytes. They are compared one after the other, up to the first
one that is another one or that is missing. -/
def beginsWith : List Nat → List Nat → Except Raised Bool
  | [], _ => .ok true
  | _ :: _, [] => .error .indexError
  | expected :: more, byte :: rest => if byte = expected then beginsWith more rest else .ok false

section Files

variable (calls : Calls Content)

/-- `get_archive_file_type`. -/
def getArchiveFileType : Except Raised FileType := do
  let body ← match calls.filetype with
    | .ok body => .ok body
    | .error failure =>
      if failure.isIOError then .error (.other ⟨.ioError, "Filetype failed"⟩)
      else .error (.other failure)
  match body.type with
  | none => .error (.other ⟨.keyError, "'type'"⟩)
  | some type =>
    if type = "ZIP".toList then return .zip
    else
      match body.signature with
      | none => .error (.other ⟨.keyError, "'signature'"⟩)
      | some signature =>
        if ← beginsWith [60, 63, 120, 109, 108] signature then return .xml
        else .error (.other ⟨.ioError, "file is an unknown type"⟩)

/-- Raise a failure that is no `IOError`. -/
def raiseUnlessIOError (failure : Option Failure) : ArchiveWork Content PUnit :=
  match failure with
  | some failure => if failure.isIOError then pure ⟨⟩ else throw (.other failure)
  | none => pure ⟨⟩

/-- `_extract_twb_from_twbx`. -/
def extractTwbFromTwbx (wuid : Nat) (dst : Path) : ArchiveWork Content (Option Path) := do
  let body ← called calls.ptwbx
  if !calls.archiveSaveTwbx then raiseUnlessIOError calls.deleteTwbx
  if body.error.isSome then
    eventgen calls wuid 0 .workbookArchiveFailed
    return none
  else return some dst.dropLast

/-- `_copy_twb_to_controller`. -/
def copyTwbToController (wuid : Nat) : ArchiveWork Content (ULift Bool) := do
  match calls.get with
  | .ok contents =>
    modify (Archiving.revise wuid fun entry => { entry with twb := some contents })
    return ⟨true⟩
  | .error failure => if failure.isIOError then return ⟨false⟩ else throw (.other failure)

/-- `archive_file`. -/
def archiveFile (placing : Placing) : ArchiveWork Content (Option Nat) := do
  match placing.filesize with
  | .error failure => raiseUnlessIOError (some failure)
  | .ok body =>
    if body.error.isNone ∧ body.size = none then throw (.other ⟨.keyError, "'size'"⟩)
  called placing.place

/-- The id of the file entry that a file was placed with. -/
def placedFileid (placed : Option Nat) : ArchiveWork Content Nat :=
  match placed with
  | some fileid => pure fileid
  | none => throw (.other ⟨.attributeError, "'NoneType' object has no attribute 'fileid'"⟩)

/-- The twb file and the twbx file of a fetched file of a type. -/
def twbFiles (wuid : Nat) (dst : Path) :
    FileType → ArchiveWork Content (Option (Path × Option Path))
  | .zip => do
    match ← extractTwbFromTwbx calls wuid dst with
    | none => return none
    | some dstTwb => return some (dstTwb, some dst)
  | .xml => do
    raiseIf calls.move
    return some (dst.dropLast, none)

/-- The last part of `_build_twb`: copy the file and place it. -/
def placeTwb (wuid : Nat) (dstTwb : Path) (dstTwbx : Option Path) :
    ArchiveWork Content (Option Path) := do
  if (← copyTwbToController calls wuid).down then
    let fileid ← placedFileid (← archiveFile calls.twb)
    modify (Archiving.revise wuid fun entry => { entry with fileid := some fileid })
    if dstTwbx.isSome ∧ calls.archiveSaveTwbx then
      let fileidTwbx ← placedFileid (← archiveFile calls.twbx)
      modify (Archiving.revise wuid fun entry => { entry with fileidTwbx := some fileidTwbx })
    return some dstTwb
  else return none

/-- `_build_twb`. -/
def buildTwb (agent : Agent) (wuid : Nat) : ArchiveWork Content (Option Path) := do
  match calls.diskCheck with
  | .error failure =>
    if failure.isDiskException then
      eventgen calls wuid 0 .workbookArchiveFailed
      return none
    else throw (.other failure)
  | .ok tmpdir =>
    match ← tabcmdGet calls agent wuid tmpdir with
    | none => return none
    | some dst =>
      match getArchiveFileType calls with
      | .error (.other failure) =>
        if failure.isIOError then
          eventgen calls wuid 0 .workbookArchiveFailed
          return none
        else throw (.other failure)
      | .error raised => throw raised
      | .ok type =>
        match ← twbFiles calls wuid dst type with
        | none => return none
        | some (dstTwb, dstTwbx) => placeTwb calls wuid dstTwb dstTwbx

/-- `_archive_wb`. -/
def archiveWb (agent : Agent) (wuid : Nat) : ArchiveWork Content PUnit := do
  if calls.workbook then
    match ← buildTwb calls agent wuid with
    | none => pure ⟨⟩
    | some filename =>
      modify (Archiving.revise wuid fun entry => { entry with url := some (agent.basename filename) })
      raiseIf calls.commit
  else throw (.other ⟨.attributeError, "'NoneType' object has no attribute 'repository_url'"⟩)

end Files

/-! ## The updates -/

/-- What `_archive_updates` returns. -/
structure ArchiveData where
  error : Bool
  updatesArchived : Nat
  retainRemovedCount : Nat
  deriving DecidableEq, Repr

section Updates

variable (calls : Nat → Calls Content) (agent : Agent)

/-- The loop of `_archive_updates`, with the count so far. It returns the count and whether the
credentials were refused. -/
def archiveLoop : List Nat → Nat → ArchiveWork Content (Nat × Bool)
  | [], count => return (count, false)
  | wuid :: rest, count => do
    modify fun archiving => { archiving with
      retainCount := (calls wuid).retainCount.getD archiving.retainCount }
    if (← get).retainCount = 0 then return (count, false)
    else if !(calls wuid).odbcOk then return (count, false)
    else
      raiseIf (calls wuid).refresh
      modify fun archiving => { archiving with attempted := archiving.attempted ++ [wuid] }
      match ← attempt (· = .badCredentials) (archiveWb (calls wuid) agent wuid) with
      | .error _ => return (count, true)
      | .ok _ => archiveLoop rest (count + 1)

/-- `_archive_updates`, with what becomes of `_retain_some`. -/
def archiveUpdates (retainSome : Except Failure Nat) (updates : List Nat) :
    ArchiveWork Content ArchiveData := do
  let (count, refused) ← archiveLoop calls agent updates 0
  let removed ← if 0 < count then called retainSome else pure 0
  return ⟨refused, count, removed⟩

end Updates

end Palette.Archives
