import Palette.Foundation.Transition
import Palette.Processes.Tabadmin
import Palette.Status.MainState

/-!
# The checks of the status

The status thread looks at Tableau every minute. If the system information can be used,
it is fetched through the agent and read; where this fails the thread either concludes
that Tableau is stopped, or records that the status is unknown, or falls back to
`tabadmin status -v`. Some of the steps commit the session in passing: the notification
about the system information is saved, and a command for the agent begins with a commit
of its request.

After each check the session is rolled back. An exception that nobody handles ends the
controller, which then starts again.

Values that a text only shows are left out of it.
-/

namespace Palette.Processes

open Palette.Cli Palette.Commands Palette.Foundation Palette.Status Script

/-! ## Fetching the system information -/

/-- A page that comes back, and what a reader makes of it. -/
structure Page where
  contentType : String
  loads : Option Json
  parsed : Parsed

/-- What comes back for a page. -/
inductive Answer where
  | lost (message : String)
  | raises (failure : Failure)
  | page (page : Page)

/-- `text.find(part) != -1`. -/
def mentions (part text : String) : Bool := part.toList <:+: text.toList

/-- `key in data`. -/
def hasKey (key : String) : Json → Except Failure Bool
  | .object fields => .ok (Dict.has fields key)
  | .text value => .ok (mentions key value)
  | .list items => .ok (items.any (Json.isText · key))
  | _ => .error ⟨.typeError, "argument is not iterable"⟩

/-- `data['error']` as a text to search in. -/
def errorText : Json → Except Failure String
  | .object fields =>
    match Dict.get fields "error" with
    | some (.text message) => .ok message
    | some _ => .error ⟨.attributeError, "object has no attribute 'find'"⟩
    | none => .error ⟨.keyError, "error"⟩
  | _ => .error ⟨.typeError, "indices must be integers"⟩

/-- `'status-code' in data and data['status-code'] == 404`. -/
def isNotFound : Json → Bool
  | .object fields => (Dict.get fields "status-code").bind Json.numeric = some 404
  | _ => false

/-- The trouble that the agent reports. -/
def reportedTrouble (data : Json) : Except Failure SysteminfoError := do
  if ← hasKey "error" data then
    let message ← errorText data
    if mentions "Unable to connect to the remote server" message then pure .connectFailure
    else if mentions "The operation has timed out" message then pure .commTimedout
    else if isNotFound data then pure .notFound
    else do
      data.str
      pure .unexpectedResponse
  else do
    data.str
    pure .unexpectedResponse

/-- `TableauStatusMonitor._systeminfo_get`. -/
def systeminfoGet (url : String) : Answer → Except Fault Parsed
  | .lost message => .error (.systeminfo .commFailure s!"_systeminfo_get {url} failed: {message}")
  | .raises failure => .error (.other failure)
  | .page page =>
    if page.contentType.toLower = "application/x-json" then
      match page.loads with
      | none => .error (.systeminfo .jsonParseFailure s!"Invalid json returned for {url}")
      | some data =>
        match reportedTrouble data with
        | .ok errnum => .error (.systeminfo errnum s!"HTTP GET {url} reported failed")
        | .error failure => .error (.other failure)
    else .ok page.parsed

/-! ## Settings -/

/-- What `urlparse` tells of a URL. -/
structure Address where
  scheme : String
  port : Option Nat
  deriving DecidableEq, Repr

/-- `_systeminfo_url`. An internal URL comes first. -/
def systeminfoUrl (internal external : Option Address) : Option String :=
  match internal <|> external with
  | none => none
  | some ⟨scheme, port⟩ =>
    if scheme = "" then none
    else
      match port with
      | none | some 0 => some s!"{scheme}://127.0.0.1/admin/systeminfo.xml"
      | some port => some s!"{scheme}://127.0.0.1:{port}/admin/systeminfo.xml"

/-- `is_systeminfo_api_capable`. -/
def isSysteminfoApiCapable (tableauVersion : String) : Bool :=
  match intOfText (String.ofList ((tableauVersion.toList.splitOn '.').headD [])) with
  | some major => 9 ≤ major
  | none => false

/-- `_tableau_systeminfo_enabled`. -/
def tableauSysteminfoEnabled (referrers : String) : Bool :=
  mentions "127.0.0.1" referrers || mentions "localhost" referrers

/-- When a check takes place. -/
inductive Occasion where
  | upgrading
  | noPrimary
  | unconnected
  | userAction
  | connected
  deriving DecidableEq, Repr

/-- Everything that a check meets: the settings, the main state, and what the agent
replies. A removed agent may leave another primary one. -/
structure Check where
  monitor : Monitor
  occasion : Occasion
  internalUrl : Option Address
  externalUrl : Option Address
  version : String
  referrers : String
  systeminfo : Bool
  systeminfoOnly : Bool
  mainState : MainState
  answer : Answer
  dialogue : Dialogue
  otherPrimary : Bool

/-- The URL for the system information if it can be used. -/
def Check.url (check : Check) : Option String :=
  if isSysteminfoApiCapable check.version ∧ check.systeminfo ∧
      tableauSysteminfoEnabled check.referrers then
    systeminfoUrl check.internalUrl check.externalUrl
  else none

/-! ## The thread -/

/-- What is stored of the notification about the system information. -/
structure Notification where
  color : Option String
  description : Option String
  deriving DecidableEq, Repr

/-- The status thread: its session, and the URL that has worked. -/
structure StatusThread where
  session : Session Process
  urlWorked : Option String
  notification : Notification
  deriving DecidableEq, Repr

/-- A script of the status thread. -/
abbrev Duty (Value : Type) : Type := Script StatusThread Fault Value

/-- A script on the session of the thread. -/
def onSession {Value : Type} (visit : Visit Value) : Duty Value :=
  within StatusThread.session (fun thread session => { thread with session := session }) visit

/-- The notification that the system information failed. -/
def failedNotification (url : String) : Notification := ⟨some "red", some url⟩

/-- `_systeminfo_eventit`. -/
def systeminfoEventit (failed : Bool) (url : String) : Duty PUnit := do
  onSession query
  let notification := (← get).notification
  if failed then
    if notification ≠ failedNotification url then do
      modify fun thread => { thread with notification := failedNotification url }
      onSession commit
  else
    if notification.color = some "red" then do
      modify fun thread => { thread with notification := ⟨some "green", some url⟩ }
      onSession commit

/-- `_set_status_stopped` and `_set_status_unknown`. -/
def setStatus (monitor : Monitor) (tableauStatus : String) : Visit PUnit := do
  let _prevTableauStatus ← getTableauStatus monitor
  removeAllStatus
  add monitor.agentid "Status" 0 tableauStatus
  finishStatus monitor

/-- `_set_status_stopped`. -/
def setStatusStopped (monitor : Monitor) : Visit PUnit := setStatus monitor "STOPPED"

/-- `_set_status_unknown`. -/
def setStatusUnknown (monitor : Monitor) : Visit PUnit := setStatus monitor "UNKNOWN"

/-- The command's talk with the agent. -/
def statusTalk (check : Check) : Except Failure Dict × Wire :=
  (cliCmd { check.dialogue with command := "tabadmin status -v", timeout := 300 }).run.run
    ⟨0, [], false⟩

/-- `Controller.status_cmd`. The request is committed first; the removal of the last
primary agent deletes all rows. -/
def statusCmd (check : Check) : Visit Dict :=
  match check.dialogue.table.insert with
  | .error failure => throw (.other failure)
  | .ok _ => do
    commit
    if (statusTalk check).2.removed ∧ check.otherPrimary = false then do
      removeAllStatus
      commit
    settle ((statusTalk check).1.mapError .other)

/-- `TableauStatusMonitor._get_status_tabadmin`. -/
def getStatusTabadmin (check : Check) : Visit PUnit := do
  let body ← statusCmd check
  readTabadmin check.monitor body

/-- `except SysteminfoException`. -/
def Fault.isSysteminfo : Fault → Bool
  | .systeminfo _ _ => true
  | .other _ => false

/-- The attempt to use the system information. -/
def trySysteminfo (check : Check) (url : String) : Duty PUnit := do
  let xmlResult ← settle (systeminfoGet url check.answer)
  modify fun thread => { thread with urlWorked := some url }
  onSession (systeminfoParse check.monitor xmlResult)
  systeminfoEventit false url

/-- What follows the trouble with the system information. -/
def afterTrouble (check : Check) (url : String) (errnum : SysteminfoError) (message : String) :
    Duty PUnit := do
  onSession query
  let worked := (← get).urlWorked = some url
  if errnum = .notFound ∧ worked ∧
      (check.mainState = .stopped ∨ check.mainState = .stopping) then
    onSession (setStatusStopped check.monitor)
  else if errnum = .connectFailure ∧ worked then do
    onSession (setStatusStopped check.monitor)
    systeminfoEventit false url
  else do
    -- The message is joined to the text that was read, which has other characters, too.
    if errnum = .parseFailure ∧ isAscii message = false then throw unencodable
    systeminfoEventit true url
    onSession query
    if check.systeminfoOnly then onSession (setStatusUnknown check.monitor)
    else onSession (getStatusTabadmin check)

/-- `TableauStatusMonitor.check_status_with_connection`. -/
def checkStatusWithConnection (check : Check) : Duty PUnit :=
  match check.url with
  | none => onSession (getStatusTabadmin check)
  | some url => do
    match ← attempt Fault.isSysteminfo (trySysteminfo check url) with
    | .error (.systeminfo errnum message) => afterTrouble check url errnum message
    | _ => pure ⟨⟩

/-- `TableauStatusMonitor.check_status`. -/
def checkStatus (check : Check) : Duty PUnit :=
  match check.occasion with
  | .upgrading | .noPrimary | .userAction => pure ⟨⟩
  | .unconnected => onSession do
    removeAllStatus
    commit
  | .connected => checkStatusWithConnection check

/-- One round of `tableau_status_loop`. After an exception the controller starts again. -/
def loopOnce (check : Check) (thread : StatusThread) : StatusThread :=
  match (checkStatus check).run.run thread with
  | (.ok _, final) =>
    { final with session := .begin final.session.committed final.session.published }
  | (.error _, final) =>
    { final with
      session := .begin final.session.committed final.session.published, urlWorked := none }

/-- The status thread of a controller whose agents keep their types. -/
def statusLoop (isPrimary : Nat → Bool) :
    Machine StatusThread { check : Check // check.monitor.isPrimary = isPrimary } where
  initial thread := thread.session = .begin [] [] ∧ thread.urlWorked = none
  step thread check := some (loopOnce check thread)

end Palette.Processes
