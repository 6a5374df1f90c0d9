import Mathlib.Data.List.SplitBy
import Mathlib.Data.List.Infix
import Palette.Cli.Json
import Palette.Load.Owners

/-!
# Alerts about requests

A request that was loaded is tested once it is stored. A bad status of a page, or a page
that took long, leads to an event. The test uses the columns of the row as they are: a
column that is NULL, a status without a name, or a text that cannot be decoded raises.

Where a page is requested in two steps, the row of the other step is looked for among the
rows of the batch and then in the table. Times are in microseconds.
-/

namespace Palette.Http

open Palette.Cli Palette.Commands Palette.Load

/-- The columns of a request that the test reads. -/
structure Request where
  id : Int
  siteId : Owners.Id
  userId : Owners.Id
  action : Option String
  uri : Option String
  referer : Option String
  vizqlSession : Option String
  currentsheet : Option String
  status : Option Int
  createdAt : Option Int
  completedAt : Option Int
  deriving DecidableEq, Repr

/-- The kinds of events about requests. -/
inductive HttpEvent where
  | badStatus
  | loadError
  | loadWarn
  | loadType3
  deriving DecidableEq, Repr

/-- What an event tells of the page. -/
structure Body where
  uri : String
  repositoryUrl : Option String
  view : Option String
  site : Option String
  duration : Option Int
  deriving DecidableEq, Repr

/-- An event that is sent. -/
structure Sent where
  key : HttpEvent
  request : Request
  body : Body
  deriving DecidableEq, Repr

/-- The settings of the test, and what sending an event may raise. A threshold of zero
switches an alert off. -/
structure Control where
  /-- `controldata.status_exclude`. -/
  statusExclude : Int → String → Bool
  /-- `controldata.load_exclude`. -/
  loadExclude : String → Bool
  errorlevel : Int
  warnlevel : Int
  /-- What `event_control.gen` raises. -/
  gen : Sent → Option Failure

/-! ## Paths -/

/-- `text.lower()`, as far as it is compared with `views` or `t`: the capital I with a dot is the
only other character with one of their letters. -/
def lower (text : List Char) : List Char :=
  text.map fun char => if char = 'İ' then 'i' else char.toLower

/-- `_parseuri`. -/
def parseuri (uri : String) : Body :=
  let tokens := (uri.toList.drop 1).splitOn '/'
  let token (index : Nat) : List Char := tokens.getD index []
  let name (index : Nat) : Option String := some (String.ofList (token index))
  if tokens.length = 3 ∧ lower (token 0) = "views".toList then
    ⟨uri, name 1, name 2, none, none⟩
  else if tokens.length = 5 ∧ lower (token 0) = "t".toList then
    ⟨uri, name 3, name 4, name 1, none⟩
  else if 7 ≤ tokens.length ∧ token 0 = "vizql".toList then
    if token 1 = "t".toList ∧ token 3 = "w".toList ∧ token 5 = "v".toList then
      ⟨uri, name 4, name 6, name 2, none⟩
    else if token 1 = "w".toList ∧ token 3 = "v".toList then
      ⟨uri, name 2, name 4, none, none⟩
    else ⟨uri, none, none, none, none⟩
  else ⟨uri, none, none, none, none⟩

example : parseuri "/t/Sales/views/Forecast/Overview" =
    ⟨"/t/Sales/views/Forecast/Overview", some "Forecast", some "Overview", some "Sales", none⟩ := by
  decide +kernel

/-- The value of a hexadecimal digit. -/
def hexValue (char : Char) : Option Nat :=
  if char.isDigit then some (char.toNat - '0'.toNat)
  else if 'a' ≤ char ∧ char ≤ 'f' then some (char.toNat - 'a'.toNat + 10)
  else if 'A' ≤ char ∧ char ≤ 'F' then some (char.toNat - 'A'.toNat + 10)
  else none

/-- All characters of a text are ASCII once its escapes are undone. -/
def unquotesToAscii : List Char → Bool
  | [] => true
  | '%' :: high :: low :: rest =>
    match hexValue high, hexValue low with
    | some value, some _ => value < 8 && unquotesToAscii rest
    | _, _ => unquotesToAscii (high :: low :: rest)
  | char :: rest => char.toNat < 128 && unquotesToAscii rest

/-- `unquote(text).decode('utf8')`. A text that is not ASCII has to be encoded first. -/
def unquoteDecode (text : List Char) : Except Failure Unit :=
  if unquotesToAscii text then .ok ()
  else .error ⟨.valueError, "'ascii' codec can't encode character: ordinal not in range(128)"⟩

/-- The address up to its path: no query, no fragment, and no parameters of the last
segment. -/
def urlPath (url : String) : List Char :=
  let path := url.toList.takeWhile fun char => char ≠ '?' ∧ char ≠ '#'
  let segment := (path.reverse.takeWhile (· ≠ '/')).reverse
  path.take (path.length - segment.length) ++ segment.takeWhile (· ≠ ';')

/-! ## Events -/

/-- The keys of `httplib.responses`. -/
def hasResponse (status : Int) : Bool :=
  status ∈ [100, 101] || (200 ≤ status && status ≤ 206) || (300 ≤ status && status ≤ 307) ||
    (400 ≤ status && status ≤ 417) || (500 ≤ status && status ≤ 505)

/-- `_eventgen`. The lookups of users and workbooks only add texts. -/
def eventgen (control : Control) (key : HttpEvent) (request : Request) (body : Body) :
    Except Failure Sent := do
  match request.status with
  | none => throw ⟨.keyError, "None"⟩
  | some status => if hasResponse status = false then throw ⟨.keyError, toString status⟩
  match request.referer with
  | none => pure ()
  | some referer => unquoteDecode referer.toList
  match request.uri with
  | none => pure ()
  | some uri => unquoteDecode (urlPath uri)
  if request.completedAt = none then
    throw ⟨.attributeError, "'NoneType' object has no attribute 'replace'"⟩
  match control.gen ⟨key, request, body⟩ with
  | some failure => throw failure
  | none => pure ⟨key, request, body⟩

/-- `int(timedelta_total_seconds(completed_at, created_at))`. -/
def wholeSeconds (completedAt createdAt : Option Int) : Except Failure Int :=
  match completedAt, createdAt with
  | some completed, some created => .ok ((completed - created).tdiv 1000000)
  | _, _ => .error ⟨.typeError, "unsupported operand type(s) for -"⟩

/-- `get_by_vizql_action`: the latest row of the table; a row without a time comes first. -/
def getByVizqlAction (table : List Request) (vizqlSession action : Option String) :
    Option Request :=
  let later (one other : Request) : Bool :=
    match one.createdAt, other.createdAt with
    | none, _ => true
    | some _, none => false
    | some time, some otherTime => otherTime < time
  (table.filter fun row => row.vizqlSession = vizqlSession ∧ vizqlSession ≠ none ∧
    row.action = action).foldl (fun best row =>
      match best with
      | some found => if later row found then some row else some found
      | none => some row) none

/-- `_find_vizql_entry`. -/
def findVizqlEntry (rows table : List Request) (request : Request) (action : String) :
    Option Request :=
  match rows.find? fun row => row.vizqlSession = request.vizqlSession ∧ row.action = some action with
  | some row => some row
  | none => getByVizqlAction table request.vizqlSession (some action)

/-- A text that is there and not empty. -/
def given (text : Option String) : Bool := text ≠ none && text ≠ some ""

/-- The events about the time that a page took. -/
def durationAlert (control : Control) (request : Request) (body : Body) (seconds : Int) :
    Except Failure (Option Sent) :=
  if control.errorlevel ≠ 0 ∧ control.errorlevel ≤ seconds then
    some <$> eventgen control .loadError request { body with duration := some seconds }
  else if control.warnlevel ≠ 0 ∧ control.warnlevel ≤ seconds then
    some <$> eventgen control .loadWarn request { body with duration := some seconds }
  else pure none

/-- The body for the row of the page itself. Its address is parsed again. -/
def bodyOf (request : Request) : Except Failure Body :=
  match request.uri with
  | some uri => .ok (parseuri uri)
  | none => .error ⟨.attributeError, "'NoneType' object has no attribute 'split'"⟩

/-- `_test_for_load_alerts`. -/
def testForLoadAlerts (control : Control) (rows table : List Request) (request : Request)
    (body : Body) : Except Failure (Option Sent) :=
  if control.errorlevel = 0 ∧ control.warnlevel = 0 then pure none
  else if request.action ∈ [some "performPostLoadOperations", some "sessions",
      some "get_customized_views"] then do
    let seconds ← wholeSeconds request.completedAt request.createdAt
    durationAlert control request body seconds
  else if request.action = some "bootstrapSession" then
    if given request.currentsheet ∧ given request.vizqlSession ∧ request.status = some 200 then do
      let compute ← wholeSeconds request.completedAt request.createdAt
      match findVizqlEntry rows table request "show" with
      | none => pure none
      | some shown => do
        let load ← wholeSeconds shown.completedAt shown.createdAt
        let body ← bodyOf shown
        durationAlert control shown body (compute + load)
    else if given request.vizqlSession ∧ request.status = some 500 then
      match findVizqlEntry rows table request "show" with
      | none => pure none
      | some shown => do
        let body ← bodyOf shown
        some <$> eventgen control .loadType3 shown body
    else pure none
  else pure none

/-- `_test_for_alerts`. A missing status is less than any number. -/
def testForAlerts (control : Control) (rows table : List Request) (request : Request) :
    Except Failure (Option Sent) :=
  match request.uri with
  | none => throw ⟨.attributeError, "'NoneType' object has no attribute 'startswith'"⟩
  | some uri =>
    if "/admin".toList <+: uri.toList then pure none
    else
      match request.status with
      | some status =>
        if 400 ≤ status ∧ request.action = some "show" then
          if control.statusExclude status uri then pure none
          else some <$> eventgen control .badStatus request (parseuri uri)
        else pageAlerts uri
      | none => pageAlerts uri
where
  /-- The test of the pages that are timed. -/
  pageAlerts (uri : String) : Except Failure (Option Sent) :=
    if request.action ∈ [some "show", some "bootstrapSession", some "performPostLoadOperations",
        some "sessions", some "get_customized_views"] then
      if control.loadExclude uri then pure none
      else testForLoadAlerts control rows table request (parseuri uri)
    else pure none

end Palette.Http
