import Palette.Events.Generation
import Palette.Events.Values
import Palette.Foundation.Script

/-!
# Generating an event

An event is described by a row of `event_control`, whose subject is a template for `%` and whose
description and mail are templates of mako. The dictionary of the caller is completed by the
settings and by what is known of the user, the event and the environment. An incomplete row is
added to `events` and committed, so that its number is known; then the texts are made and the row
is completed. Last the event is mailed.

The subject is caught when it raises a ValueError or a KeyError, the description when mako raises
one of its own exceptions or a TypeError, and the mail when it raises a StandardError, which the
exceptions of mako are not. Commits succeed.
-/

namespace Palette.Events

open Palette.Commands (Failure)
open Palette.Foundation Palette.Foundation.Json Palette.Telnet Script

/-! ## Rows -/

/-- A row of `event_control`. -/
structure EventControl where
  key : Text
  level : Option Text
  sendEmail : Bool
  subject : Option Text
  eventDescription : Option Text
  emailSubject : Option Text
  emailMessage : Option Text
  icon : Option Text
  color : Option Text
  eventType : Option Text
  eventTypeLabel : Option Text
  eventLabel : Option Text
  eventLabelDesc : Option Text
  adminVisibility : Bool
  publisherVisibility : Bool
  deriving DecidableEq, Repr

/-- A time: its text, its text in the local zone, and whether it has a zone itself. -/
structure Timestamp where
  text : Text
  localText : Text
  aware : Bool
  deriving DecidableEq, Repr

/-- A row of `events`. -/
structure EventEntry where
  eventid : Nat
  complete : Bool
  key : Text
  timestamp : Timestamp
  envid : Option Int
  title : Option Text
  description : Option PyText
  level : Option Text
  icon : Option Text
  color : Option Text
  eventType : Option Text
  summary : Option Text
  userid : Option Int
  siteId : Option Int
  deriving DecidableEq, Repr

/-- The table of events. Numbers are handed out in order. -/
structure EventTable where
  rows : List EventEntry
  nextId : Nat
  below : ∀ row ∈ rows, row.eventid < nextId

/-- The key of an incomplete row. -/
def incompleteKey : Text := "incomplete".toList

/-- A row without texts. -/
def incompleteRow (eventid : Nat) (timestamp : Timestamp) : EventEntry :=
  ⟨eventid, false, incompleteKey, timestamp, none, none, none, none, none, none, none, none, none,
    none⟩

namespace EventTable

/-- The table with an incomplete row. -/
def addIncomplete (timestamp : Timestamp) (table : EventTable) : EventTable where
  rows := table.rows ++ [incompleteRow table.nextId timestamp]
  nextId := table.nextId + 1
  below := by
    intro row member
    rcases List.mem_append.mp member with old | new
    · exact Nat.lt_succ_of_lt (table.below row old)
    · rw [List.mem_singleton.mp new]
      exact Nat.lt_succ_self _

/-- The table with another row under a number. -/
def merge (entry : EventEntry) (table : EventTable) : EventTable where
  rows := table.rows.map fun row => if row.eventid = entry.eventid then entry else row
  nextId := table.nextId
  below := by
    intro row member
    obtain ⟨earlier, stored, rfl⟩ := List.mem_map.mp member
    have bound := table.below earlier stored
    split
    next same => rw [← same]; exact bound
    next => exact bound

/-- The incomplete row that was added is the one that is completed. -/
theorem merge_addIncomplete (table : EventTable) (timestamp : Timestamp) (entry : EventEntry)
    (same : entry.eventid = table.nextId) :
    ((table.addIncomplete timestamp).merge entry).rows = table.rows ++ [entry] := by
  have kept : table.rows.map (fun row => if row.eventid = entry.eventid then entry else row) =
      table.rows := by
    refine (List.map_congr_left fun row stored => ?_).trans (List.map_id _)
    rw [if_neg]
    · rfl
    · rw [same]
      exact (table.below row stored).ne
  show (table.rows ++ [incompleteRow table.nextId timestamp]).map _ = _
  rw [List.map_append, kept]
  simp [incompleteRow, same]

end EventTable

/-! ## The surroundings -/

/-- How mako fails: with an exception of its own, or with one that the template raised. -/
inductive RenderFailure where
  | mako (message : String)
  | raised (failure : Failure)
  deriving DecidableEq, Repr

/-- A user. -/
structure Profile where
  userid : Int
  displayName : Text
  email : Option Text
  deriving DecidableEq, Repr

/-- What is read, and how mako and Python write texts. `render` is told whether the text is
escaped for HTML. -/
structure Surroundings where
  envid : Int
  platform : Settings.Platform
  settings : Settings.Table
  controls : List EventControl
  profiles : List Profile
  siteName : Value → Option Text
  projectName : Value → Option Text
  canonicalUrl : Option Text
  environmentName : Text
  eventDebug : Bool
  now : Timestamp
  render : Bool → Text → Data → Except RenderFailure PyText
  errorTemplate : RenderFailure → Text
  dataText : Data → Text
  equal : Value → Value → Bool
  conversionText : Template.Directive → Char → Value → Text
  padded : Template.Directive → Text → Text

/-- What a caller passes. -/
structure Call where
  key : Text
  data : Option Data
  userid : Option Int
  siteId : Option Int
  timestamp : Option Timestamp

/-- A Unicode text as a value. -/
def unicodeText (text : Text) : Value := .text (.unicode (text.map Char.toNat))

/-- A text of the database as a value. -/
def columnText : Option Text → Value
  | none => .none
  | some text => unicodeText text

namespace Surroundings

variable (surroundings : Surroundings)

/-- `get_event_control_entry`. -/
def getEventControlEntry (key : Text) : Option EventControl :=
  surroundings.controls.find? fun entry => entry.key = key

/-- `UserProfile.get`. -/
def profile (userid : Int) : Option Profile :=
  surroundings.profiles.find? fun profile => profile.userid = userid

/-- `SystemManager.__getitem__`, as a value. -/
def setting (key : String) : Except Failure Value :=
  (Settings.getItem surroundings.platform surroundings.envid surroundings.settings
    key.toList).map Value.ofSetting

/-- `public_url`. -/
def publicUrl : Except Failure (Option Value) := do
  let url ← surroundings.setting "tableau-server-url"
  if url.truthy then return some url
  return (surroundings.canonicalUrl.filter (· ≠ [])).map unicodeText

/-! ## Completing the dictionary -/

/-- The dictionary with all settings, which replace what the caller passed. -/
def withSettings (data : Data) : Except Failure Data := do
  let settings ← Settings.todict surroundings.platform surroundings.envid false true
    surroundings.settings
  return fun key => ((settings.reverse.lookup key).map Value.ofSetting).or (data key)

/-- The exit status under a name that templates can use. -/
def withExitStatus (data : Data) : Data :=
  match data "exit-status".toList with
  | none => data
  | some status => (data.put "exit_status" status).del "exit-status"

/-- What is known of the user. -/
def withUser (userid : Option Int) (data : Data) : Data :=
  let profile := if data.has "username" then none else userid.bind surroundings.profile
  let known :=
    match profile with
    | none => data
    | some profile =>
      let named := (data.put "username" (unicodeText profile.displayName)).put "userid"
        (.int profile.userid)
      match profile.email.filter (· ≠ []) with
      | none => named
      | some email => named.put "email" (unicodeText email)
  let passed :=
    match userid.filter (· ≠ 0) with
    | none => known
    | some userid => known.put "userid" (.int userid)
  if passed.has "username" then passed
  else passed.put "username" (.text (PyText.ofString "NONE"))

/-- What is known of the event. -/
def withControl (entry : EventControl) (data : Data) : Data :=
  (((((data.put "event_type" (columnText entry.eventType)).put
    "event_type_label" (columnText entry.eventTypeLabel)).put
    "event_label" (columnText entry.eventLabel)).put
    "event_label_desc" (columnText entry.eventLabelDesc)).put
    "admin_visibility" (.bool entry.adminVisibility)).put
    "publisher_visiblity" (.bool entry.publisherVisibility)

/-- The servers and the environment. -/
def withServers (data : Data) : Except Failure Data := do
  let data := data.put "server_url" (← surroundings.setting "server-url")
  let data :=
    match ← surroundings.publicUrl with
    | none => data
    | some url => data.put "tableau_server_url" url
  return if data.has "environment" then data
    else data.put "environment" (unicodeText surroundings.environmentName)

/-- A name for a number, unless there is one. -/
def withName (number name : String) (lookup : Value → Option Text) (data : Data) : Data :=
  match data number.toList with
  | none => data
  | some value =>
    if data.has name then data
    else
      match lookup value with
      | none => data
      | some text => data.put name (unicodeText text)

/-- The dictionary of an event, but for its number. -/
def completed (entry : EventControl) (call : Call) (data : Data) : Except Failure Data := do
  let timestamp := call.timestamp.getD surroundings.now
  let data ← surroundings.withSettings data
  let data := (withExitStatus data).put "timestamp"
    (.text (.bytes (timestamp.text.map Char.toNat)))
  let data ← surroundings.withServers
    (withControl entry (surroundings.withUser call.userid data))
  return withName "project_id" "project" surroundings.projectName
    (withName "site_id" "site" surroundings.siteName data)

/-! ## Texts -/

/-- How `%` converts the values of an event. -/
def conversions : Template.Conversions Value where
  whole
    | .int _ => true
    | .bool _ => true
    | _ => false
  convert directive char value :=
    (value.convert char).map fun _ => surroundings.conversionText directive char value
  pad := surroundings.padded

/-- `subject % data`. A directive without a key is about the dictionary. -/
def percent (subject : Text) (data : Data) : Except Template.Trouble Text :=
  Template.format surroundings.conversions data
    (some (.object (codes (String.ofList (surroundings.dataText data))) true))
    (Template.pieces subject)

/-- The title. A subject that is none is no text to convert. -/
def title (entry : EventControl) (data : Data) : Except Failure Text :=
  match entry.subject with
  | none => .error ⟨.typeError, "unsupported operand type(s) for %"⟩
  | some subject =>
    let converted (error : String) : Text :=
      "Template subject conversion failure: ".toList ++ error.toList ++ "subject: ".toList ++
        subject ++ ", data: ".toList ++ surroundings.dataText data
    match surroundings.percent subject data with
    | .ok text => .ok text
    | .error .key => .ok (converted "KeyError")
    | .error .value => .ok (converted "ValueError")
    | .error .type => .error ⟨.typeError, "not enough arguments or a number is required"⟩
    | .error .overflow => .error ⟨.otherException, "OverflowError: number too large"⟩

/-- The number of newlines that begin a text, with and without a carriage return, and of their
characters. -/
def newlines : List Nat → Nat × Nat
  | 10 :: rest => ((newlines rest).1 + 1, (newlines rest).2 + 1)
  | 13 :: 10 :: rest => ((newlines rest).1 + 1, (newlines rest).2 + 2)
  | _ => (0, 0)

/-- Three newlines and more become two, after some characters that were read already. -/
def squeezeAfter : Nat → List Nat → List Nat
  | _, [] => []
  | skipped + 1, _ :: rest => squeezeAfter skipped rest
  | 0, char :: rest =>
    if 3 ≤ (newlines (char :: rest)).1 then
      10 :: 10 :: squeezeAfter ((newlines (char :: rest)).2 - 1) rest
    else char :: squeezeAfter 0 rest

/-- The description without many newlines, with one at its end, and with the dictionary if that is
wanted. -/
def tidied (data : Data) (content : List Nat) : List Nat :=
  let squeezed := squeezeAfter 0 content
  let ended := if squeezed.getLast? = some 10 then squeezed else squeezed ++ [10]
  if surroundings.eventDebug then
    ended ++ codes "--------\n" ++ (surroundings.dataText data).map Char.toNat
  else ended

/-- The same change for bytes and for Unicode. -/
def tidy (data : Data) : PyText → PyText
  | .bytes content => .bytes (surroundings.tidied data content)
  | .unicode content => .unicode (surroundings.tidied data content)

/-- The text about a template that failed. -/
def renderFailed (failure : RenderFailure) (message : Text) (description : Text) (data : Data) :
    PyText :=
  .unicode (("Mako template message conversion failure: ".toList ++
    (match failure with
      | .mako _ => surroundings.errorTemplate failure
      | .raised _ => message) ++
    "\ntemplate: ".toList ++ description ++ "\ndata: ".toList ++
    surroundings.dataText data).map Char.toNat)

/-- The description, before it is tidied. -/
def described (entry : EventControl) (data : Data) : Except Failure PyText :=
  match entry.eventDescription.filter (· ≠ []) with
  | none => makeDefaultDescription surroundings.equal data
  | some description =>
    match surroundings.render true description data with
    | .ok text => .ok text
    | .error (.mako message) =>
      .ok (surroundings.renderFailed (.mako message) [] description data)
    | .error (.raised failure) =>
      if failure.kind = .typeError then
        .ok (surroundings.renderFailed (.raised failure) failure.message.toList description data)
      else .error failure

/-- What escapes from `AlertEmail.send` and from the handler around it. A subject that raises
something else than a ValueError or a KeyError ends it with a StandardError, which is caught. -/
def mailEscapes (entry : EventControl) (data : Data) : Option Failure :=
  let subject := entry.emailSubject.or entry.subject
  match subject.map (surroundings.percent · data) with
  | none => none
  | some (.error .type) => none
  | some (.error .overflow) => none
  | some _ =>
    match entry.emailMessage.filter (· ≠ []) with
    | none => none
    | some message =>
      match surroundings.render false message data with
      | .ok _ => none
      | .error (.mako text) => some ⟨.otherException, text⟩
      | .error (.raised failure) => if failure.isStandardError then none else some failure

/-! ## The method -/

/-- The row with its texts. -/
def completeRow (entry : EventControl) (call : Call) (eventid : Nat) (title : Text)
    (description : PyText) : EventEntry :=
  let timestamp := call.timestamp.getD surroundings.now
  { eventid := eventid
    complete := true
    key := call.key
    timestamp := timestamp
    envid := some surroundings.envid
    title := some title
    description := some description
    level := entry.level
    icon := entry.icon
    color := entry.color
    eventType := entry.eventType
    summary := some (if timestamp.aware then timestamp.text else timestamp.localText)
    userid := call.userid
    siteId := call.siteId }

/-- The data of a call. -/
def callData (call : Call) : Data := call.data.getD fun _ => none

/-- The event is about an agent that is disabled. -/
def disabled (call : Call) : Bool :=
  (callData call "enabled".toList).any fun value => !value.truthy

/-- The part of `gen` that comes after the entry was found. -/
def genEntry (entry : EventControl) (call : Call) : Script EventTable Failure PUnit := do
  let data ← settle (surroundings.completed entry call (callData call))
  let eventid := (← get).nextId
  modify (EventTable.addIncomplete (call.timestamp.getD surroundings.now))
  let data := data.put "eventid" (.long eventid)
  let title ← settle (surroundings.title entry data)
  let description ← settle (surroundings.described entry data)
  modify (EventTable.merge (surroundings.completeRow entry call eventid title
    (surroundings.tidy data description)))
  if entry.sendEmail then
    match surroundings.mailEscapes entry data with
    | none => pure ⟨⟩
    | some failure => throw failure

/-- `EventControlManager.gen`. -/
def gen (call : Call) : Script EventTable Failure PUnit :=
  if disabled call then pure ⟨⟩
  else
    match surroundings.getEventControlEntry call.key with
    | none => pure ⟨⟩
    | some entry => surroundings.genEntry entry call

end Surroundings

end Palette.Events
