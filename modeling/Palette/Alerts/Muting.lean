import Palette.Alerts.Email

/-!
# Disconnections and their mails

The mails of one agent are followed through the runs of the mailing. A disconnection begins with
a write of its time to the agent's row. The event about it is generated afterwards and may be
handed to a thread, its check; the events about a new connection and about the first state are
generated at any time later and may be muted by the time that passed since the row's disconnection.

A chronicle records each disconnection with what came of it. What it records changes nothing: its
steps are steps of the mailing.
-/

namespace Palette.Alerts

open Palette.Foundation

/-! ## What gets as far as the muting -/

/-- The keys of the events that a short disconnection mutes. -/
def mutedKeys : List EventKey :=
  [.agentCommunication, .initStateStarted, .initStateStopped, .initStateDegraded]

/-- The mail of an event that is neither held back nor limited, and the state then. -/
def passed (settings : Settings) (table : EventTable) (entry : EventEntry) (occasion : Occasion)
    (state : State) : Option (Mail × State) :=
  if entry.sendEmail then
    match addressees settings entry occasion none state with
    | none => none
    | some (toEmails, bcc) =>
      if silenced settings entry occasion state.clock then none
      else
        match emailLimitReached settings table entry occasion state with
        | (true, _) => none
        | (false, state) => some (⟨decide entry.Limited, toEmails, bcc⟩, state)
  else none

/-- The time, the agents and the threads are as before. -/
structure Unmoved (before after : State) : Prop where
  clock : after.clock = before.clock
  agents : after.agents = before.agents
  threads : after.threads = before.threads

section Passed

variable {settings : Settings} {table : EventTable} {entry : EventEntry} {occasion : Occasion}
  {state middle : State} {mail : Mail}

/-- The event about the limit starts no thread. -/
theorem eventit_unmoved : Unmoved state (eventit settings table occasion state) := by
  have delivered (occasion : Occasion) (mail : Mail) (state : State) :
      deliver settings table.spike occasion mail state = state.doSend mail := by
    simp [deliver, table.spike_key]
  unfold eventit sendWith
  simp only [delivered]
  split
  · split
    · exact ⟨rfl, rfl, rfl⟩
    · split <;> exact ⟨rfl, rfl, rfl⟩
  · exact ⟨rfl, rfl, rfl⟩

/-- The check of the limit starts no thread. -/
theorem emailLimitReached_unmoved :
    Unmoved state (emailLimitReached settings table entry occasion state).2 := by
  unfold emailLimitReached
  simp only []
  split
  · exact ⟨rfl, rfl, rfl⟩
  · split
    · have same := @eventit_unmoved settings table occasion
        ((logged settings state).note (.exceeded (logged settings state).clock))
      exact ⟨same.clock, same.agents, same.threads⟩
    · exact ⟨rfl, rfl, rfl⟩

/-- What gets as far as the muting is delivered, and nothing moved before. -/
theorem gen_of_passed (found : passed settings table entry occasion state = some (mail, middle)) :
    gen settings table entry occasion state = deliver settings entry occasion mail middle ∧
      Unmoved state middle := by
  have unmoved := @emailLimitReached_unmoved settings table entry occasion state
  unfold passed at found
  unfold gen send sendWith
  cases mails : entry.sendEmail with
  | false =>
    rw [mails] at found
    cases found
  | true =>
    rw [mails] at found
    simp only [↓reduceIte] at found ⊢
    cases addresses : addressees settings entry occasion none state with
    | none =>
      rw [addresses] at found
      cases found
    | some pair =>
      rw [addresses] at found
      simp only [] at found ⊢
      by_cases silent : silenced settings entry occasion state.clock = true
      · rw [if_pos silent] at found
        cases found
      · rw [if_neg silent] at found ⊢
        generalize emailLimitReached settings table entry occasion state = outcome at *
        rcases outcome with ⟨limited, after⟩
        cases limited with
        | true => cases found
        | false =>
          cases found
          exact ⟨rfl, unmoved⟩

/-- What does not get that far moves nothing. -/
theorem gen_of_held (held : passed settings table entry occasion state = none) :
    Unmoved state (gen settings table entry occasion state) := by
  have unmoved := @emailLimitReached_unmoved settings table entry occasion state
  unfold passed at held
  unfold gen send sendWith
  cases mails : entry.sendEmail with
  | false => exact ⟨rfl, rfl, rfl⟩
  | true =>
    rw [mails] at held
    simp only [↓reduceIte] at held ⊢
    cases addresses : addressees settings entry occasion none state with
    | none => exact ⟨rfl, rfl, rfl⟩
    | some pair =>
      rw [addresses] at held
      simp only [] at held ⊢
      by_cases silent : silenced settings entry occasion state.clock = true
      · rw [if_pos silent]
        exact ⟨rfl, rfl, rfl⟩
      · rw [if_neg silent] at held ⊢
        generalize emailLimitReached settings table entry occasion state = outcome at *
        rcases outcome with ⟨limited, after⟩
        cases limited with
        | true => exact unmoved
        | false => cases held

end Passed

/-! ## Chronicles -/

/-- A disconnection of the agent and what came of it. -/
structure Disconnection where
  time : Time
  /-- The time of the next connection. -/
  reconnected : Option Time
  /-- A check of it ended while the agent was disconnected. -/
  checked : Bool
  /-- An event to be muted came, with a mail, when more than the seconds had passed. -/
  late : Bool
  /-- The mail about it was sent. -/
  mailed : Bool
  /-- A mail about a connection or a first state was sent after it. -/
  followed : Bool
  deriving DecidableEq, Repr

namespace Disconnection

/-- The agent connects. -/
def connect (now : Time) (known : Disconnection) : Disconnection :=
  { known with reconnected := known.reconnected.or (some now) }

/-- An event about a connection comes. -/
def follow (late sent : Bool) (known : Disconnection) : Disconnection :=
  { known with late := known.late || late, followed := known.followed || sent }

/-- A check ends. -/
def awake (latest sent : Bool) (known : Disconnection) : Disconnection :=
  { known with
    checked := known.checked || (latest && known.reconnected.isNone)
    mailed := known.mailed || sent }

end Disconnection

/-- A state with the disconnections so far, the latest with the number `count`, and the
disconnection that a thread is a check of. -/
structure Chronicle where
  state : State
  count : Nat
  disconnections : Nat → Disconnection
  origins : List (Option Nat)

/-- What happens, for the sake of one agent. -/
inductive Happening where
  /-- The time of a disconnection is written. -/
  | drop
  /-- The time of a connection is written. -/
  | connect
  /-- The event about a disconnection is generated. -/
  | announce (disconnection : Nat) (entry : EventEntry) (occasion : Occasion)
  /-- The event about a connection or the first state of it is generated. -/
  | follow (entry : EventEntry) (occasion : Occasion)
  /-- A thread reads the row of its agent. -/
  | reads (thread : Nat)
  /-- A thread wakes up. -/
  | wakes (thread : Nat)
  /-- Anything else. -/
  | other (action : Action)

namespace Happening

/-- What happens, as an action of the mailing. -/
def action (agentid : Nat) (now : Time) (row : AgentRow) : Happening → Action
  | drop => .agent agentid { row with lastDisconnectTime := some now }
  | connect => .agent agentid { row with lastConnectionTime := now }
  | announce _ entry occasion => .event entry occasion
  | follow entry occasion => .event entry occasion
  | reads thread => .reads thread
  | wakes thread => .wakes thread
  | other action => action

/-- Events and rows of the agent bear their names. -/
def Fits (agentid count : Nat) : Happening → Prop
  | announce disconnection entry occasion => 0 < disconnection ∧ disconnection ≤ count ∧
      entry.key = .agentDisconnect ∧ occasion.agentid = some agentid
  | follow entry occasion => entry.key ∈ mutedKeys ∧ occasion.agentid = some agentid
  | other (.event entry occasion) => occasion.agentid = some agentid →
      entry.key ≠ .agentDisconnect ∧ entry.key ∉ mutedKeys
  | other (.agent agent _) => agent ≠ agentid
  | other (.reads _) => False
  | other (.wakes _) => False
  | _ => True

instance (agentid count : Nat) (happening : Happening) :
    Decidable (happening.Fits agentid count) := by
  unfold Fits
  split <;> infer_instance

end Happening

namespace Chronicle

variable (settings : Settings) (table : EventTable) (agentid : Nat)

/-- The latest disconnection. -/
def latest (chronicle : Chronicle) : Disconnection := chronicle.disconnections chronicle.count

/-- A disconnection has a check that has not ended. -/
def Pending (chronicle : Chronicle) (disconnection : Nat) : Prop :=
  some disconnection ∈ chronicle.origins

instance (chronicle : Chronicle) (disconnection : Nat) :
    Decidable (chronicle.Pending disconnection) := inferInstanceAs (Decidable (_ ∈ _))

/-- What is known of a disconnection changes. -/
def revise (chronicle : Chronicle) (disconnection : Nat) (change : Disconnection → Disconnection) :
    Chronicle :=
  { chronicle with
    disconnections := Function.update chronicle.disconnections disconnection
      (change (chronicle.disconnections disconnection)) }

/-- What is known of it then. -/
theorem revise_self (chronicle : Chronicle) (disconnection : Nat)
    (change : Disconnection → Disconnection) :
    (chronicle.revise disconnection change).disconnections disconnection =
      change (chronicle.disconnections disconnection) := Function.update_self ..

/-- An event is mailed unless it is muted, and comes when more than the seconds have passed since
the latest disconnection. -/
def isLate (chronicle : Chronicle) (now : Time) (entry : EventEntry) (occasion : Occasion) : Bool :=
  (passed settings table entry occasion { chronicle.state with clock := now }).isSome &&
    decide (settings.emailMuteReconnectSeconds < (now - chronicle.latest.time).tdiv 1000000)

/-- The mail of an event about a connection is sent. -/
def sendsFollowing (chronicle : Chronicle) (now : Time) (entry : EventEntry)
    (occasion : Occasion) : Bool :=
  (passed settings table entry occasion { chronicle.state with clock := now }).any
    fun found => muteReconnCheck settings (some agentid) found.2

/-- A thread sends its mail when it wakes. -/
def sendsAwake (chronicle : Chronicle) (thread : Nat) : Bool :=
  match chronicle.state.threads[thread]? with
  | some (.sleeping _ agentid _ lastDisconnectTime) =>
    sendsMail chronicle.state agentid lastDisconnectTime
  | _ => false

/-- The disconnection that a thread is a check of. -/
def origin (chronicle : Chronicle) (thread : Nat) : Option Nat :=
  (chronicle.origins[thread]?).join

/-- A check ended: it sent its mail or not. -/
def awake (chronicle : Chronicle) (thread : Nat) : Chronicle :=
  match chronicle.origin thread with
  | none => chronicle
  | some disconnection => chronicle.revise disconnection (Disconnection.awake
      (disconnection = chronicle.count) (chronicle.sendsAwake thread))

/-- Tell what happened and what the state is after it. -/
def tell (now : Time) (chronicle : Chronicle) (happening : Happening) (after : State) :
    Chronicle :=
  let started := after.threads.length - chronicle.state.threads.length
  match happening with
  | .drop => { chronicle with
      state := after
      count := chronicle.count + 1
      disconnections := Function.update chronicle.disconnections (chronicle.count + 1)
        ⟨now, none, false, false, false, false⟩ }
  | .connect => { chronicle with
      state := after
      disconnections := fun number => (chronicle.disconnections number).connect now }
  | .announce disconnection _ _ => { chronicle with
      state := after
      origins := chronicle.origins ++ List.replicate started (some disconnection) }
  | .follow entry occasion =>
    { chronicle.revise chronicle.count (Disconnection.follow
        (chronicle.isLate settings table now entry occasion)
        (chronicle.sendsFollowing settings table agentid now entry occasion)) with
      state := after }
  | .reads thread => { chronicle with
      state := after
      origins := if after.threads.length < chronicle.state.threads.length then
        chronicle.origins.eraseIdx thread else chronicle.origins }
  | .wakes thread => { chronicle.awake thread with
      state := after
      origins := chronicle.origins.eraseIdx thread }
  | .other _ => { chronicle with
      state := after
      origins := chronicle.origins ++ List.replicate started none }

end Chronicle

/-- The mail that is recorded as following a disconnection is the one that is sent. -/
theorem gen_follow {settings : Settings} {table : EventTable} {agentid : Nat}
    {chronicle : Chronicle} {now : Time} {entry : EventEntry} {occasion : Occasion} {mail : Mail}
    {middle : State} (muting : 0 < settings.emailMuteReconnectSeconds)
    (muted : entry.key ∈ mutedKeys) (own : occasion.agentid = some agentid)
    (found : passed settings table entry occasion { chronicle.state with clock := now } =
      some (mail, middle)) :
    gen settings table entry occasion { chronicle.state with clock := now } =
      if chronicle.sendsFollowing settings table agentid now entry occasion then
        middle.doSend mail else middle := by
  have other : entry.key ≠ .agentDisconnect := by
    rintro same
    rw [same] at muted
    revert muted
    decide
  rw [(gen_of_passed found).1]
  unfold deliver Chronicle.sendsFollowing
  unfold mutedKeys at muted
  rw [found, if_neg muting.ne', if_neg other, if_pos muted, own]
  rfl

/-- The mail that is recorded as sent by a check is the one that is sent. -/
theorem wakeUp_awake {chronicle : Chronicle} {now : Time} {thread : Nat} {after : State}
    (woke : wakeUp { chronicle.state with clock := now } thread = some after) :
    ∃ mail, after = if chronicle.sendsAwake thread then
      State.doSend { chronicle.state with
        clock := now, threads := chronicle.state.threads.eraseIdx thread } mail
      else { chronicle.state with
        clock := now, threads := chronicle.state.threads.eraseIdx thread } := by
  unfold wakeUp at woke
  unfold Chronicle.sendsAwake
  simp only [] at woke
  cases found : chronicle.state.threads[thread]? with
  | none =>
    rw [found] at woke
    cases woke
  | some work =>
    rw [found] at woke
    cases work with
    | started => cases woke
    | sleeping mail subject due seen =>
      obtain ⟨-, ended⟩ := Option.ite_none_left_eq_some.mp woke
      exact ⟨mail, (Option.some.inj ended).symm⟩

/-- The runs of the mailing with what they are to an agent, which has a row. They begin when the
muting is on and no disconnection is under way. -/
def muting (settings : Settings) (table : EventTable) (agentid : Nat) :
    Machine Chronicle (Time × Happening) where
  initial chronicle :=
    (mailing settings table).initial chronicle.state ∧ 0 < settings.emailMuteReconnectSeconds ∧
      chronicle.count = 0 ∧ chronicle.origins = [] ∧
      ∃ row, chronicle.state.agent agentid = some row ∧
        row.lastConnectionTime ≤ chronicle.state.clock ∧
        ∀ time ∈ row.lastDisconnectTime, time ≤ chronicle.state.clock
  step chronicle label :=
    match chronicle.state.agent agentid with
    | none => none
    | some row =>
      if label.2.Fits agentid chronicle.count then
        ((mailing settings table).step chronicle.state
          (label.1, label.2.action agentid label.1 row)).map
          (chronicle.tell settings table agentid label.1 label.2)
      else none

/-- A step of a chronicle is one of the mailing. -/
theorem muting_step {settings : Settings} {table : EventTable} {agentid : Nat}
    {chronicle next : Chronicle} {label : Time × Happening}
    (stepped : (muting settings table agentid).step chronicle label = some next) :
    ∃ row after, chronicle.state.agent agentid = some row ∧
      label.2.Fits agentid chronicle.count ∧
      (mailing settings table).step chronicle.state
        (label.1, label.2.action agentid label.1 row) = some after ∧
      next = chronicle.tell settings table agentid label.1 label.2 after := by
  simp only [muting] at stepped
  cases found : chronicle.state.agent agentid with
  | none =>
    rw [found] at stepped
    cases stepped
  | some row =>
    rw [found] at stepped
    obtain ⟨fits, taken⟩ := Option.ite_none_right_eq_some.mp stepped
    obtain ⟨after, acted, told⟩ := Option.map_eq_some_iff.mp taken
    exact ⟨row, after, rfl, fits, acted, told.symm⟩

end Palette.Alerts
