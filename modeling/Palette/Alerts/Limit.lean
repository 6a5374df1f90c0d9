import Palette.Alerts.Email
import Mathlib.Algebra.Order.Group.Int

/-!
# The limit on mails

The log holds the time of every limited mail that is sent at once, so that no window holds
more of them than the limit. Once the limit is exceeded the event about it is generated and
alerts are disabled, which leaves no one to send a limited mail to.

A mail that a thread was handed is counted when it is handed over and leaves later: it can
exceed a window's limit, and it leaves even when alerts were disabled meanwhile. The limit
holds in the runs in which no thread sends a limited mail.
-/

namespace Palette.Alerts

open Palette.Foundation Palette.Foundation.SlidingWindow

/-! ## What is observed -/

/-- The times of the limited mails. -/
def limitedTimes (period : List Occurrence) : List Time :=
  period.filterMap fun occurrence =>
    match occurrence with
    | .mail time mail => if mail.limited then some time else none
    | _ => none

/-- How often the event about the limit was generated. -/
def spikes (period : List Occurrence) : Nat :=
  period.countP fun occurrence =>
    match occurrence with
    | .spike _ => true
    | _ => false

/-- What was observed since the limit was first exceeded, if it was. -/
def sinceExceeded : List Occurrence → Option (List Occurrence)
  | [] => none
  | .exceeded _ :: rest => some rest
  | .mail _ _ :: rest => sinceExceeded rest
  | .spike _ :: rest => sinceExceeded rest

/-- What is to hold from one enabling of the alerts to the next: no window holds more limited
mails than the limit, and an exceeded limit leads to one event about it and to no further
limited mail. -/
structure Limits (settings : Settings) (period : List Occurrence) : Prop where
  window : AtMost settings.emailMaxCount settings.lookback (limitedTimes period)
  disabled : ∀ after, sinceExceeded period = some after →
    spikes after = 1 ∧ limitedTimes after = []

@[simp] theorem limitedTimes_append (period others : List Occurrence) :
    limitedTimes (period ++ others) = limitedTimes period ++ limitedTimes others :=
  List.filterMap_append ..

@[simp] theorem spikes_append (period others : List Occurrence) :
    spikes (period ++ others) = spikes period + spikes others :=
  List.countP_append ..

/-- What was observed since the limit was exceeded grows with what is observed. -/
theorem sinceExceeded_append (period others : List Occurrence) :
    sinceExceeded (period ++ others) =
      match sinceExceeded period with
      | some after => some (after ++ others)
      | none => sinceExceeded others := by
  induction period with
  | nil => rfl
  | cons occurrence rest inductionHypothesis =>
    cases occurrence with
    | mail time mail => exact inductionHypothesis
    | exceeded time => rfl
    | spike time => exact inductionHypothesis

/-- Nothing is observed but mails that are not limited. -/
def Unlimited (extra : List Occurrence) : Prop :=
  ∀ occurrence ∈ extra, ∃ time mail, occurrence = .mail time mail ∧ mail.limited = false

theorem unlimited_nil : Unlimited [] := fun _ member => absurd member List.not_mem_nil

theorem unlimited_mail {time : Time} {mail : Mail} (unlimited : mail.limited = false) :
    Unlimited [.mail time mail] := by
  intro occurrence member
  exact ⟨time, mail, List.mem_singleton.mp member, unlimited⟩

/-- Mails that are not limited count nowhere. -/
theorem Unlimited.counts {extra : List Occurrence} (unlimited : Unlimited extra) :
    limitedTimes extra = [] ∧ spikes extra = 0 ∧ sinceExceeded extra = none := by
  induction extra with
  | nil => exact ⟨rfl, rfl, rfl⟩
  | cons occurrence rest inductionHypothesis =>
    obtain ⟨time, mail, rfl, other⟩ := unlimited occurrence List.mem_cons_self
    obtain ⟨times, spike, since⟩ :=
      inductionHypothesis fun later member => unlimited later (List.mem_cons_of_mem _ member)
    refine ⟨?_, ?_, since⟩
    · simpa [limitedTimes, other] using times
    · simpa [spikes] using spike

/-! ## The invariant -/

/-- The log covers the limited mails, their windows are within the limit, and alerts are
disabled after it was exceeded. -/
structure Kept (settings : Settings) (state : State) : Prop where
  covered : ∀ later, state.clock ≤ later →
    (recent later settings.lookback (limitedTimes state.period)).length ≤
      (recent later settings.lookback state.log).length
  window : AtMost settings.emailMaxCount settings.lookback (limitedTimes state.period)
  disabled : ∀ after, sinceExceeded state.period = some after →
    state.adminEnabled = false ∧ state.publisherEnabled = false ∧
      spikes after = 1 ∧ limitedTimes after = []

theorem Kept.limits {settings : Settings} {state : State} (kept : Kept settings state) :
    Limits settings state.period :=
  ⟨kept.window, fun after since => (kept.disabled after since).2.2⟩

variable {settings : Settings} {table : EventTable} {state : State}

/-- The invariant survives mails that are not limited, and changes of what it does not
speak of. -/
theorem Kept.extend (kept : Kept settings state) {extra : List Occurrence}
    (unlimited : Unlimited extra) (threads : List Thread) :
    Kept settings { state with threads := threads, period := state.period ++ extra } := by
  obtain ⟨times, spike, since⟩ := unlimited.counts
  constructor
  · simpa [times] using kept.covered
  · simpa [times] using kept.window
  · intro after observed
    dsimp only at observed
    rw [sinceExceeded_append] at observed
    cases before : sinceExceeded state.period with
    | none => simp [before, since] at observed
    | some earlier =>
      obtain ⟨admin, publisher, one, none⟩ := kept.disabled earlier before
      simp only [before, Option.some.injEq] at observed
      subst observed
      exact ⟨admin, publisher, by simp [one, spike], by simp [none, times]⟩

/-- Time goes on. -/
theorem Kept.later (kept : Kept settings state) {now : Time} (ordered : state.clock ≤ now) :
    Kept settings { state with clock := now } :=
  ⟨fun later reached => kept.covered later (ordered.trans reached), kept.window, kept.disabled⟩

/-- The log loses nothing that counts later. -/
theorem recent_logged (settings : Settings) (state : State) {later : Time}
    (reached : state.clock ≤ later) :
    recent later settings.lookback (logged settings state).log =
      recent later settings.lookback state.log ++ recent later settings.lookback [state.clock] := by
  unfold logged
  rw [recent_recent reached, recent_append]

/-- A logged time leaves the mails covered. -/
theorem Kept.logged (kept : Kept settings state) : Kept settings (logged settings state) := by
  refine ⟨?_, kept.window, kept.disabled⟩
  intro later reached
  have covered := kept.covered later reached
  rw [recent_logged settings state reached, List.length_append]
  exact covered.trans (Nat.le_add_right _ _)

/-- A limited mail is covered by the time that was logged for it. -/
theorem Kept.mail (kept : Kept settings state) (mail : Mail)
    (few : (Alerts.logged settings state).log.length ≤ settings.emailMaxCount)
    (enabled : sinceExceeded state.period = none) :
    Kept settings ((Alerts.logged settings state).doSend mail) := by
  cases limited : mail.limited with
  | false => exact kept.logged.extend (unlimited_mail limited) _
  | true =>
    have times : limitedTimes ((Alerts.logged settings state).doSend mail).period =
        limitedTimes state.period ++ [state.clock] := by
      simp [State.doSend, State.note, Alerts.logged, limitedTimes, limited]
    constructor
    · intro later reached
      have covered := kept.covered later reached
      have log : recent later settings.lookback ((Alerts.logged settings state).doSend mail).log =
          recent later settings.lookback (Alerts.logged settings state).log := rfl
      rw [times, log, recent_logged settings state reached, recent_append, List.length_append,
        List.length_append]
      omega
    · rw [times]
      apply kept.window.append
      have covered := kept.covered state.clock le_rfl
      simp only [Alerts.logged, recent_append, List.length_append] at few ⊢
      omega
    · intro after observed
      simp [State.doSend, State.note, Alerts.logged, sinceExceeded_append, enabled,
        sinceExceeded] at observed

/-- The limit is exceeded for the first time: the event about it follows, and the alerts
are disabled. -/
theorem Kept.exceed (kept : Kept settings state) (enabled : sinceExceeded state.period = none)
    {threads : List Thread} {extra : List Occurrence} (unlimited : Unlimited extra) :
    Kept settings { Alerts.logged settings state with
      threads := threads
      period := state.period ++ [.exceeded state.clock] ++ .spike state.clock :: extra
      adminEnabled := false
      publisherEnabled := false
      spikeDisabledAlerts := true } := by
  obtain ⟨times, spike, -⟩ := unlimited.counts
  have limited : limitedTimes (state.period ++ [.exceeded state.clock] ++
      .spike state.clock :: extra) = limitedTimes state.period := by
    have others : limitedTimes (.spike state.clock :: extra) = limitedTimes extra := rfl
    have exceeded : limitedTimes [.exceeded state.clock] = [] := rfl
    rw [limitedTimes_append, limitedTimes_append, others, times, exceeded, List.append_nil,
      List.append_nil]
  constructor
  · intro later reached
    dsimp only
    rw [limited]
    exact kept.logged.covered later reached
  · dsimp only
    rw [limited]
    exact kept.window
  · intro after observed
    dsimp only at observed
    rw [List.append_assoc, sinceExceeded_append, enabled] at observed
    have after_eq : after = .spike state.clock :: extra := (Option.some.inj observed).symm
    subst after_eq
    refine ⟨rfl, rfl, ?_, ?_⟩
    · simpa [spikes] using spike
    · exact times

/-! ## Sending -/

/-- What is delivered for an event is a mail at once or a thread. -/
theorem deliver_cases (settings : Settings) (entry : EventEntry) (occasion : Occasion)
    (mail : Mail) (state : State) :
    deliver settings entry occasion mail state = state.doSend mail ∨
      ∃ threads, deliver settings entry occasion mail state =
        { state with threads := threads } := by
  unfold deliver
  split
  · exact .inl rfl
  · split
    · exact .inr ⟨_, rfl⟩
    · split
      · split
        · exact .inl rfl
        · exact .inr ⟨state.threads, rfl⟩
      · exact .inl rfl

/-- An event that is not limited leads to nothing but mails that are not limited. -/
theorem sendWith_unlimited (settings : Settings) (entry : EventEntry) (occasion : Occasion)
    (recipient : Option String) (reached : State → Bool × State) (state : State)
    (passes : reached state = (false, state)) (unlimited : ¬entry.Limited) :
    ∃ threads extra, Unlimited extra ∧ sendWith settings reached entry occasion recipient state =
      { state with threads := threads, period := state.period ++ extra } := by
  have unchanged : ∃ threads extra, Unlimited extra ∧
      state = { state with threads := threads, period := state.period ++ extra } :=
    ⟨state.threads, [], unlimited_nil, by simp⟩
  unfold sendWith
  cases addressees settings entry occasion recipient state with
  | none => exact unchanged
  | some addresses =>
    dsimp only
    split
    · exact unchanged
    · rw [passes]
      dsimp only
      rcases deliver_cases settings entry occasion
        ⟨decide entry.Limited, addresses.1, addresses.2⟩ state with sent | ⟨threads, muted⟩
      · rw [sent]
        exact ⟨state.threads, _, unlimited_mail (by simp [unlimited]), rfl⟩
      · rw [muted]
        exact ⟨threads, [], unlimited_nil, by simp⟩

/-- The event about the limit is generated once, and its mails are not limited. -/
theorem eventit_eq (settings : Settings) (table : EventTable) (occasion : Occasion)
    (state : State) :
    ∃ threads extra, Unlimited extra ∧ eventit settings table occasion state =
      { state with
        threads := threads, period := state.period ++ .spike state.clock :: extra } := by
  unfold eventit
  dsimp only
  split
  · have unlimited : ¬table.spike.Limited := by simp [EventEntry.Limited, table.spike_key]
    obtain ⟨threads, extra, mails, sent⟩ := sendWith_unlimited settings table.spike
      { occasion with agentid := none, publisher := [] } none (fun state => (false, state))
      (state.note (.spike state.clock)) rfl unlimited
    refine ⟨threads, extra, mails, sent.trans ?_⟩
    simp [State.note]
  · exact ⟨state.threads, [], unlimited_nil, rfl⟩

/-- Once alerts are disabled no one is left for a limited mail. -/
theorem addressees_disabled {entry : EventEntry} {occasion : Occasion} (limited : entry.Limited)
    (admin : state.adminEnabled = false) (publisher : state.publisherEnabled = false) :
    addressees settings entry occasion none state = none := by
  have key : entry.key ≠ .emailDisabledReminder := fun same => entry.reminder same limited.1
  have admins : adminEmails entry occasion state = [] := by simp [adminEmails, admin, key]
  have publishers : publisherEmail occasion state = [] := by simp [publisherEmail, publisher]
  simp only [addressees, forced, Option.filter_none, admins, publishers, admin]
  cases settings.alertsEnabled <;> simp

/-- A limited event keeps the invariant: it is mailed within the limit, or it exceeds the
limit and disables the alerts. -/
theorem Kept.sendLimited (kept : Kept settings state) (entry : EventEntry) (occasion : Occasion)
    (limited : entry.Limited) : Kept settings (send settings table entry occasion none state) := by
  unfold send sendWith
  cases addresses : addressees settings entry occasion none state with
  | none => exact kept
  | some found =>
    dsimp only
    split
    · exact kept
    · have enabled : sinceExceeded state.period = none := by
        cases since : sinceExceeded state.period with
        | none => rfl
        | some after =>
          obtain ⟨admin, publisher, -⟩ := kept.disabled after since
          rw [addressees_disabled limited admin publisher] at addresses
          cases addresses
      unfold emailLimitReached
      simp only [limited, not_true_eq_false, ite_false]
      by_cases exceeds : settings.emailMaxCount < (Alerts.logged settings state).log.length
      · simp only [exceeds, ite_true]
        obtain ⟨threads, extra, mails, generated⟩ := eventit_eq settings table occasion
          ((Alerts.logged settings state).note (.exceeded (Alerts.logged settings state).clock))
        rw [generated]
        exact kept.exceed enabled mails
      · simp only [exceeds, ite_false]
        rcases deliver_cases settings entry occasion ⟨decide True, found.1, found.2⟩
          (Alerts.logged settings state) with sent | ⟨threads, muted⟩
        · rw [sent]
          exact kept.mail _ (not_lt.mp exceeds) enabled
        · rw [muted]
          exact ⟨kept.logged.covered, kept.logged.window, kept.logged.disabled⟩

/-- Sending keeps the invariant. Only an event that is not limited is sent to an address
that is forced. -/
theorem Kept.send (kept : Kept settings state) (entry : EventEntry) (occasion : Occasion)
    (recipient : Option String) (forcing : recipient = none ∨ ¬entry.Limited) :
    Kept settings (send settings table entry occasion recipient state) := by
  by_cases limited : entry.Limited
  · obtain rfl : recipient = none := forcing.resolve_right (not_not.mpr limited)
    exact kept.sendLimited entry occasion limited
  · have passes : emailLimitReached settings table entry occasion state = (false, state) := by
      simp [emailLimitReached, limited]
    obtain ⟨threads, extra, mails, sent⟩ :=
      sendWith_unlimited settings entry occasion recipient _ state passes limited
    unfold Alerts.send
    rw [sent]
    exact kept.extend mails threads

/-! ## Runs -/

/-- A thread is about to send a limited mail. -/
def delaysLimited (state : State) (thread : Nat) : Bool :=
  match state.threads[thread]? with
  | some (.sleeping mail agentid _ lastDisconnectTime) =>
    mail.limited && sendsMail state agentid lastDisconnectTime
  | _ => false

/-- No thread sends a limited mail. -/
def Prompt (state : State) (label : Time × Action) : Prop :=
  match label.2 with
  | .wakes thread => delaysLimited state thread = false
  | _ => True

instance (state : State) (label : Time × Action) : Decidable (Prompt state label) := by
  unfold Prompt
  split <;> infer_instance

/-- A thread that wakes up and sends no limited mail keeps the invariant. -/
theorem Kept.wakeUp (kept : Kept settings state) {thread : Nat} {next : State}
    (prompt : delaysLimited state thread = false) (woke : wakeUp state thread = some next) :
    Kept settings next := by
  unfold Alerts.wakeUp at woke
  unfold delaysLimited at prompt
  split at woke
  · rename_i mail agentid due lastDisconnectTime sleeping
    simp only [sleeping, Bool.and_eq_false_iff] at prompt
    split at woke
    · cases woke
    · cases sends : sendsMail state agentid lastDisconnectTime with
      | false =>
        simp only [sends, Bool.false_eq_true, ite_false, Option.some.injEq] at woke
        subst woke
        exact ⟨kept.covered, kept.window, kept.disabled⟩
      | true =>
        simp only [sends, reduceCtorEq, or_false] at prompt
        simp only [sends, ite_true, Option.some.injEq] at woke
        subst woke
        exact kept.extend (unlimited_mail prompt) _
  · cases woke

/-- A thread that reads its agent's row keeps the invariant. -/
theorem Kept.readAgent (kept : Kept settings state) {thread : Nat} {next : State}
    (read : readAgent settings state thread = some next) : Kept settings next := by
  have others (threads : List Thread) : Kept settings { state with threads := threads } :=
    ⟨kept.covered, kept.window, kept.disabled⟩
  unfold Alerts.readAgent at read
  split at read
  · split at read
    · cases read
      exact others _
    · split at read
      · cases read
        exact others _
      · cases read
        exact others _
  · cases read

/-- Saved settings keep the invariant: enabled alerts begin anew, and others send less. -/
theorem Kept.saveAlerts (kept : Kept settings state) (publishers admins : Bool) :
    Kept settings (saveAlerts publishers admins state) := by
  unfold Alerts.saveAlerts
  cases saves : publishers || admins with
  | true =>
    constructor
    · exact fun _ _ => le_rfl
    · exact atMost_nil _ _
    · intro after observed
      cases observed
  | false =>
    obtain ⟨rfl, rfl⟩ := Bool.or_eq_false_iff.mp saves
    exact ⟨kept.covered, kept.window, fun after observed =>
      ⟨rfl, rfl, (kept.disabled after observed).2.2⟩⟩

/-- A step in which no thread sends a limited mail keeps the invariant. -/
theorem Kept.step (kept : Kept settings state) {label : Time × Action} {next : State}
    (prompt : Prompt state label)
    (stepped : (mailing settings table).step state label = some next) : Kept settings next := by
  obtain ⟨now, action⟩ := label
  simp only [mailing] at stepped
  split at stepped
  · cases stepped
  · rename_i ordered
    have here := kept.later (not_lt.mp ordered)
    cases action with
    | event entry occasion =>
      simp only [act, gen, Option.some.injEq] at stepped
      subst stepped
      split
      · exact here.send entry occasion none (.inl rfl)
      · exact here
    | test occasion recipient =>
      simp only [act, Option.some.injEq] at stepped
      subst stepped
      exact here.send table.test occasion recipient
        (.inr (by simp [EventEntry.Limited, table.test_key]))
    | reads thread => exact here.readAgent stepped
    | wakes thread => exact here.wakeUp prompt stepped
    | agent agentid row =>
      simp only [act, Option.some.injEq] at stepped
      subst stepped
      exact ⟨here.covered, here.window, here.disabled⟩
    | save publishers admins =>
      simp only [act, Option.some.injEq] at stepped
      subst stepped
      exact here.saveAlerts publishers admins

/-- One limited mail in a minute, and disconnections that are muted for two. -/
def oneInAMinute : Settings := ⟨1, 1, 120, true, -1⟩

/-- The event about a disconnected agent. -/
def disconnected : EventEntry := ⟨.agentDisconnect, .error, true, true, false, by decide⟩

/-- The event about a failed backup. -/
def backupFailed : EventEntry := ⟨.other "BACKUP-FAILED", .error, true, true, false, by decide⟩

/-- The entries that the mailing looks up. -/
def shippedTable : EventTable where
  spike := ⟨.emailSpike, .error, true, true, false, by decide⟩
  spike_key := rfl
  test := ⟨.emailTest, .info, true, true, false, by decide⟩
  test_key := rfl

/-- One administrator wants the mails of an agent's events. -/
def aboutAgent : Occasion := ⟨some 1, ["admin@localhost"], [], none, none, none⟩

/-- Alerts are enabled for administrators, and the agent is disconnected. -/
def oneDisconnected : State := ⟨0, [], true, false, false, [(1, ⟨-10, some (-5)⟩)], [], []⟩

end Palette.Alerts
