import Palette.Foundation.SlidingWindow
import Palette.Foundation.Transition
import Mathlib.Data.List.Dedup

/-!
# Mailing events

An event is mailed to those who want mails, unless alerts are disabled, the license has
expired or the limit is reached. Events with the level of an error are limited: each is
logged, the log is pruned to the last minutes, and one too many in it disables the alerts
after an event of its own was generated. An administrator who enables alerts again also
empties the log.

The mail about a disconnected agent may be muted. It is handed to a thread that sleeps and
then sends it, unless the agent has connected or disconnected meanwhile. Times are in
microseconds. The rows of events and the texts of mails are not modelled, and a mail that
the mail server refuses counts as sent.
-/

namespace Palette.Alerts

open Palette.Foundation Palette.Foundation.SlidingWindow

/-- Microseconds. -/
abbrev Time := Int

/-! ## Events -/

/-- The keys that the mailing distinguishes. -/
inductive EventKey where
  | emailTest
  | emailSpike
  | emailDisabledReminder
  | agentDisconnect
  | agentCommunication
  | initStateStarted
  | initStateStopped
  | initStateDegraded
  | phoneHomeFailed
  | phoneHomeOk
  | other (name : String)
  deriving DecidableEq, Repr

/-- The level of an event. -/
inductive Level where
  | error
  | warning
  | info
  deriving DecidableEq, Repr

/-- A row of the table of events. The reminder that alerts are disabled is no error. -/
structure EventEntry where
  key : EventKey
  level : Level
  sendEmail : Bool
  adminVisibility : Bool
  publisherVisibility : Bool
  reminder : key = .emailDisabledReminder → level ≠ .error

/-- The event counts against the limit. -/
def EventEntry.Limited (entry : EventEntry) : Prop :=
  entry.level = .error ∧ entry.key ∉ [.emailTest, .emailSpike]

instance (entry : EventEntry) : Decidable entry.Limited :=
  inferInstanceAs (Decidable (_ ∧ _))

/-- The entries that the mailing looks up itself. -/
structure EventTable where
  spike : EventEntry
  spike_key : spike.key = .emailSpike
  test : EventEntry
  test_key : test.key = .emailTest

/-- The settings that stay as they are. -/
structure Settings where
  emailMaxCount : Nat
  emailLookbackMinutes : Nat
  emailMuteReconnectSeconds : Nat
  alertsEnabled : Bool
  maxSilenceTime : Int

/-- The length of the window. -/
def Settings.lookback (settings : Settings) : Time := settings.emailLookbackMinutes * 60000000

/-- What an event is about, the addresses that want its mail, and the row of the domain. -/
structure Occasion where
  agentid : Option Nat
  admins : List String
  publisher : List String
  diagnostics : Option String
  expirationTime : Option Time
  contactTime : Option Time
  deriving DecidableEq, Repr

/-- A mail, and whether its event counts against the limit. -/
structure Mail where
  limited : Bool
  toEmails : List String
  bcc : Option String
  deriving DecidableEq, Repr

/-! ## States -/

/-- The times of an agent's row. -/
structure AgentRow where
  lastConnectionTime : Time
  lastDisconnectTime : Option Time
  deriving DecidableEq, Repr

/-- `Agent.connected`. -/
def AgentRow.connected (row : AgentRow) : Bool :=
  match row.lastDisconnectTime with
  | none => true
  | some time => time < row.lastConnectionTime

/-- A thread that was handed a mail, before and after it read the agent's row. -/
inductive Thread where
  | started (mail : Mail) (agentid : Option Nat)
  | sleeping (mail : Mail) (agentid : Nat) (due : Time) (lastDisconnectTime : Option Time)
  deriving DecidableEq, Repr

/-- What is observed since an administrator last enabled alerts. -/
inductive Occurrence where
  | mail (time : Time) (mail : Mail)
  | exceeded (time : Time)
  | spike (time : Time)
  deriving DecidableEq, Repr

/-- The log of limited events, the settings that change, the agents, the threads and what
was observed. -/
structure State where
  clock : Time
  log : List Time
  adminEnabled : Bool
  publisherEnabled : Bool
  spikeDisabledAlerts : Bool
  agents : List (Nat × AgentRow)
  threads : List Thread
  period : List Occurrence
  deriving DecidableEq, Repr

namespace State

/-- `Agent.get_by_id`. -/
def agent (state : State) (agentid : Nat) : Option AgentRow := state.agents.lookup agentid

/-- Observe something. -/
def note (state : State) (occurrence : Occurrence) : State :=
  { state with period := state.period ++ [occurrence] }

/-- `_do_send`. -/
def doSend (state : State) (mail : Mail) : State := state.note (.mail state.clock mail)

end State

/-! ## Sending -/

section Sending

variable (settings : Settings) (table : EventTable)

/-- `admin_emails`. -/
def adminEmails (entry : EventEntry) (occasion : Occasion) (state : State) : List String :=
  if state.adminEnabled = false ∧ entry.key ≠ .emailDisabledReminder then [] else occasion.admins

/-- `publisher_email`. -/
def publisherEmail (occasion : Occasion) (state : State) : List String :=
  if state.publisherEnabled then occasion.publisher else []

/-- The address that a mail is forced to. An empty one does not force it. -/
def forced (recipient : Option String) : Option String := recipient.filter (· ≠ "")

/-- Those who get a mail, if anybody does. -/
def addressees (entry : EventEntry) (occasion : Occasion) (recipient : Option String)
    (state : State) : Option (List String × Option String) :=
  let toEmails :=
    match forced recipient with
    | some address => some [address]
    | none =>
      if settings.alertsEnabled then
        some ((if entry.publisherVisibility then publisherEmail occasion state else []) ++
          if entry.adminVisibility then adminEmails entry occasion state else []).dedup
      else none
  let bcc :=
    if state.adminEnabled ∧ forced recipient = none then
      occasion.diagnostics.filter (· ≠ "")
    else none
  match toEmails with
  | none => none
  | some toEmails => if toEmails = [] ∧ bcc = none then none else some (toEmails, bcc)

/-- The license has expired or the contact was lost too long ago, for an event that needs
them. -/
def silenced (entry : EventEntry) (occasion : Occasion) (now : Time) : Bool :=
  entry.key ∉ [.phoneHomeFailed, .phoneHomeOk, .emailTest] &&
    (occasion.expirationTime.any (· < now) ||
      occasion.contactTime.any fun contact =>
        settings.maxSilenceTime * 1000000 < now - contact && settings.maxSilenceTime ≠ -1)

/-- `_mute_reconn_check`. -/
def muteReconnCheck (agentid : Option Nat) (state : State) : Bool :=
  match (agentid.bind state.agent).bind AgentRow.lastDisconnectTime with
  | none => true
  | some time => settings.emailMuteReconnectSeconds < (state.clock - time).tdiv 1000000

/-- Send a mail, or mute it. -/
def deliver (entry : EventEntry) (occasion : Occasion) (mail : Mail) (state : State) : State :=
  if settings.emailMuteReconnectSeconds = 0 then state.doSend mail
  else if entry.key = .agentDisconnect then
    { state with threads := state.threads ++ [.started mail occasion.agentid] }
  else if entry.key ∈ [.agentCommunication, .initStateStarted, .initStateStopped,
      .initStateDegraded] then
    if muteReconnCheck settings occasion.agentid state then state.doSend mail else state
  else state.doSend mail

/-- `AlertEmail.send`, with the check of the limit as it is for the event. -/
def sendWith (reached : State → Bool × State) (entry : EventEntry) (occasion : Occasion)
    (recipient : Option String) (state : State) : State :=
  match addressees settings entry occasion recipient state with
  | none => state
  | some (toEmails, bcc) =>
    if silenced settings entry occasion state.clock then state
    else
      match reached state with
      | (true, state) => state
      | (false, state) =>
        deliver settings entry occasion ⟨decide entry.Limited, toEmails, bcc⟩ state

/-- `_eventit`: the event about the limit, which is not limited itself. It has no user and
no agent. -/
def eventit (occasion : Occasion) (state : State) : State :=
  let noted := state.note (.spike state.clock)
  if table.spike.sendEmail then
    sendWith settings (fun state => (false, state)) table.spike
      { occasion with agentid := none, publisher := [] } none noted
  else noted

/-- `_log_email` and `_prune`. -/
def logged (state : State) : State :=
  { state with log := recent state.clock settings.lookback (state.log ++ [state.clock]) }

/-- `email_limit_reached`. -/
def emailLimitReached (entry : EventEntry) (occasion : Occasion) (state : State) : Bool × State :=
  if ¬entry.Limited then (false, state)
  else
    let logged := logged settings state
    if settings.emailMaxCount < logged.log.length then
      let after := eventit settings table occasion (logged.note (.exceeded logged.clock))
      (true, { after with
        adminEnabled := false, publisherEnabled := false, spikeDisabledAlerts := true })
    else (false, logged)

/-- The check of the limit lets the event about the limit through. -/
theorem emailLimitReached_spike (occasion : Occasion) (state : State) :
    emailLimitReached settings table table.spike occasion state = (false, state) := by
  simp [emailLimitReached, EventEntry.Limited, table.spike_key]

/-- `AlertEmail.send`. -/
def send (entry : EventEntry) (occasion : Occasion) (recipient : Option String) (state : State) :
    State :=
  sendWith settings (emailLimitReached settings table entry occasion) entry occasion recipient state

/-- `event_control.gen`. -/
def gen (entry : EventEntry) (occasion : Occasion) (state : State) : State :=
  if entry.sendEmail then send settings table entry occasion none state else state

end Sending

/-! ## Steps -/

/-- What happens: an event, a test mail, a thread that reads its agent's row or wakes up, a
change of an agent's row, and an administrator who saves which alerts are enabled. -/
inductive Action where
  | event (entry : EventEntry) (occasion : Occasion)
  | test (occasion : Occasion) (recipient : Option String)
  | reads (thread : Nat)
  | wakes (thread : Nat)
  | agent (agentid : Nat) (row : AgentRow)
  | save (publishers admins : Bool)

/-- The thread whose mail is sent when it wakes: its agent is still disconnected and has not
disconnected again. -/
def sendsMail (state : State) (agentid : Nat) (lastDisconnectTime : Option Time) : Bool :=
  match state.agent agentid with
  | none => false
  | some row => !row.connected && row.lastDisconnectTime = lastDisconnectTime

/-- `_dis_thread` up to its sleep. -/
def readAgent (settings : Settings) (state : State) (thread : Nat) : Option State :=
  match state.threads[thread]? with
  | some (.started mail agentid) =>
    match agentid with
    | none => some { state with threads := state.threads.eraseIdx thread }
    | some agentid =>
      match state.agent agentid with
      | none => some { state with threads := state.threads.eraseIdx thread }
      | some row => some { state with
          threads := state.threads.set thread (.sleeping mail agentid
            (state.clock + settings.emailMuteReconnectSeconds * 1000000) row.lastDisconnectTime) }
  | _ => none

/-- `_dis_thread` after its sleep, which takes the time at least. -/
def wakeUp (state : State) (thread : Nat) : Option State :=
  match state.threads[thread]? with
  | some (.sleeping mail agentid due lastDisconnectTime) =>
    if state.clock < due then none
    else
      let ended := { state with threads := state.threads.eraseIdx thread }
      some (if sendsMail state agentid lastDisconnectTime then ended.doSend mail else ended)
  | _ => none

/-- The settings for alerts are saved: `EmailAlertApplication.service_POST`. -/
def saveAlerts (publishers admins : Bool) (state : State) : State :=
  let saved := { state with publisherEnabled := publishers, adminEnabled := admins }
  if publishers || admins then { saved with spikeDisabledAlerts := false, log := [], period := [] }
  else saved

/-- Take an action. -/
def act (settings : Settings) (table : EventTable) (state : State) : Action → Option State
  | .event entry occasion => some (gen settings table entry occasion state)
  | .test occasion recipient => some (send settings table table.test occasion recipient state)
  | .reads thread => readAgent settings state thread
  | .wakes thread => wakeUp state thread
  | .agent agentid row => some { state with agents := (agentid, row) :: state.agents }
  | .save publishers admins => some (saveAlerts publishers admins state)

/-- The mailing. It starts without threads, with a log that may hold earlier times. -/
def mailing (settings : Settings) (table : EventTable) : Machine State (Time × Action) where
  initial state := state.threads = [] ∧ state.period = []
  step state label :=
    if label.1 < state.clock then none
    else act settings table { state with clock := label.1 } label.2

end Palette.Alerts
