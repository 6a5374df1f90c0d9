import Palette.Alerts.Limit
import Palette.Alerts.Muting
import Mathlib.Tactic.Common

/-!
# Muted reconnects

A short disconnection is mailed neither when it begins nor when it ends if its check decides
before the agent connects again, or the events that follow come within the seconds. The check
compares the row that it read with the row that it finds, but the events that follow compare the
time of their own with the row: an event that comes late after a short disconnection is mailed,
and nothing was said about the disconnection.

A run is timely if this does not happen: nothing late follows a disconnection whose check was
overtaken, a thread reads its agent's row before the next disconnection, and no two times in a
row are the same.
-/

namespace Palette.Alerts

open Palette.Foundation

/-! ## Mails in pairs -/

namespace Chronicle

/-- The mail about a disconnection is still going to be sent: the agent is disconnected and a
check has not ended. -/
def Going (chronicle : Chronicle) (disconnection : Nat) : Prop :=
  disconnection = chronicle.count ∧
    (chronicle.disconnections disconnection).reconnected = none ∧ chronicle.Pending disconnection

/-- A disconnection that is mailed is a long one, and what follows it is mailed with it. -/
structure InPairs (settings : Settings) (chronicle : Chronicle) (disconnection : Nat) : Prop where
  long : (chronicle.disconnections disconnection).mailed = true →
    ∀ time ∈ (chronicle.disconnections disconnection).reconnected,
      (chronicle.disconnections disconnection).time +
        settings.emailMuteReconnectSeconds * 1000000 < time
  paired : (chronicle.disconnections disconnection).followed = true →
    (chronicle.disconnections disconnection).mailed = true ∨ chronicle.Going disconnection

end Chronicle

/-- The row may be written: its times are over, and nothing late followed a disconnection whose
check has not ended. -/
def MayWrite (agentid : Nat) (chronicle : Chronicle) (now : Time) : Prop :=
  (∀ row ∈ chronicle.state.agent agentid, ∀ time ∈ row.lastDisconnectTime, time < now) ∧
    (0 < chronicle.count → chronicle.latest.late = true → chronicle.latest.checked = true)

instance (agentid : Nat) (chronicle : Chronicle) (now : Time) :
    Decidable (MayWrite agentid chronicle now) := inferInstanceAs (Decidable (_ ∧ _))

/-- A step of a timely run. -/
def Timely (settings : Settings) (table : EventTable) (agentid : Nat) (chronicle : Chronicle)
    (label : Time × Happening) : Prop :=
  match label.2 with
  | .drop => MayWrite agentid chronicle label.1
  | .connect => MayWrite agentid chronicle label.1
  | .reads thread => ∀ disconnection ∈ chronicle.origin thread,
      disconnection = chronicle.count ∧ chronicle.latest.time < label.1
  | .follow entry occasion => 0 < chronicle.count →
      chronicle.isLate settings table label.1 entry occasion = true →
        chronicle.latest.checked = true ∨
          chronicle.latest.reconnected = none ∧ chronicle.Pending chronicle.count
  | _ => True

instance (settings : Settings) (table : EventTable) (agentid : Nat) (chronicle : Chronicle)
    (label : Time × Happening) : Decidable (Timely settings table agentid chronicle label) := by
  unfold Timely
  split <;> infer_instance

/-! ## The invariant -/

/-- A thread is a check of a disconnection of the agent. -/
def IsCheck (settings : Settings) (agentid : Nat) (known : Disconnection) : Thread → Prop
  | .started _ subject => subject = some agentid
  | .sleeping _ subject due seen => subject = agentid ∧ seen = some known.time ∧
      known.time + settings.emailMuteReconnectSeconds * 1000000 < due

/-- What came of a disconnection, in a timely run. -/
structure Known (settings : Settings) (chronicle : Chronicle) (disconnection : Nat) : Prop where
  long : (chronicle.disconnections disconnection).mailed = true →
    (chronicle.disconnections disconnection).time +
        settings.emailMuteReconnectSeconds * 1000000 < chronicle.state.clock ∧
      ∀ time ∈ (chronicle.disconnections disconnection).reconnected,
        (chronicle.disconnections disconnection).time +
          settings.emailMuteReconnectSeconds * 1000000 < time
  followed : (chronicle.disconnections disconnection).followed = true →
    (chronicle.disconnections disconnection).late = true
  late : (chronicle.disconnections disconnection).late = true →
    (chronicle.disconnections disconnection).mailed = true ∨ chronicle.Going disconnection
  checked : (chronicle.disconnections disconnection).checked = true →
    (chronicle.disconnections disconnection).mailed = true

/-- What the row of the agent says of its latest disconnection. -/
structure Shown (chronicle : Chronicle) (row : AgentRow) : Prop where
  connection : row.lastConnectionTime ≤ chronicle.state.clock
  disconnection : ∀ time ∈ row.lastDisconnectTime, time ≤ chronicle.state.clock
  latest : 0 < chronicle.count → row.lastDisconnectTime = some chronicle.latest.time ∧
    (chronicle.latest.reconnected = none ↔ row.connected = false)

/-- The invariant of timely runs. -/
structure Faithful (settings : Settings) (agentid : Nat) (chronicle : Chronicle) : Prop where
  row : ∃ row, chronicle.state.agent agentid = some row ∧ Shown chronicle row
  aligned : chronicle.origins.length = chronicle.state.threads.length
  ordered : ∀ disconnection, 0 < disconnection → disconnection < chronicle.count →
    (chronicle.disconnections disconnection).time < chronicle.latest.time
  checks : ∀ thread disconnection : Nat, chronicle.origins[thread]? = some (some disconnection) →
    0 < disconnection ∧ disconnection ≤ chronicle.count ∧
      ∃ work, chronicle.state.threads[thread]? = some work ∧
        IsCheck settings agentid (chronicle.disconnections disconnection) work
  known : ∀ disconnection, 0 < disconnection → disconnection ≤ chronicle.count →
    Known settings chronicle disconnection

/-- Under the invariant the mails come in pairs. -/
theorem Known.inPairs {settings : Settings} {chronicle : Chronicle} {disconnection : Nat}
    (known : Known settings chronicle disconnection) :
    chronicle.InPairs settings disconnection :=
  ⟨fun mailed => (known.long mailed).2, fun followed => known.late (known.followed followed)⟩

/-! ## Steps -/

section Steps

variable {settings : Settings} {table : EventTable} {agentid : Nat} {chronicle : Chronicle}
  {now : Time} {after : State}

/-- A step of the mailing sets the clock and acts. -/
theorem mailing_step {state : State} {action : Action} :
    (mailing settings table).step state (now, action) = some after ↔
      state.clock ≤ now ∧ act settings table { state with clock := now } action = some after := by
  simp only [mailing]
  rw [Option.ite_none_left_eq_some, not_lt]

/-- What is known stays known while time goes on. -/
theorem Known.later {disconnection : Nat} (known : Known settings chronicle disconnection)
    {next : Chronicle}
    (same : next.disconnections disconnection = chronicle.disconnections disconnection)
    (clock : chronicle.state.clock ≤ next.state.clock)
    (going : chronicle.Going disconnection → next.Going disconnection) :
    Known settings next disconnection := by
  constructor
  · intro mailed
    rw [same] at mailed ⊢
    exact ⟨(known.long mailed).1.trans_le clock, (known.long mailed).2⟩
  · rw [same]
    exact known.followed
  · rw [same]
    exact fun late => (known.late late).imp_right going
  · rw [same]
    exact known.checked

/-- What came late was mailed when the row may be written. -/
theorem Faithful.settled (faithful : Faithful settings agentid chronicle)
    (may : MayWrite agentid chronicle now) {disconnection : Nat} (positive : 0 < disconnection)
    (within : disconnection ≤ chronicle.count)
    (late : (chronicle.disconnections disconnection).late = true) :
    (chronicle.disconnections disconnection).mailed = true := by
  have known := faithful.known disconnection positive within
  rcases known.late late with mailed | ⟨rfl, -⟩
  · exact mailed
  · exact known.checked (may.2 positive late)

/-- The time of a disconnection is written. -/
theorem Faithful.drop (faithful : Faithful settings agentid chronicle)
    (may : MayWrite agentid chronicle now) (ordered : chronicle.state.clock ≤ now)
    {row : AgentRow} (found : chronicle.state.agent agentid = some row) :
    Faithful settings agentid (chronicle.tell settings table agentid now .drop
      { chronicle.state with
        clock := now
        agents := (agentid, { row with lastDisconnectTime := some now }) ::
          chronicle.state.agents }) := by
  obtain ⟨stored, same, shown⟩ := faithful.row
  cases found.symm.trans same
  have kept {disconnection : Nat} (within : disconnection ≤ chronicle.count) :
      Function.update chronicle.disconnections (chronicle.count + 1)
        ⟨now, none, false, false, false, false⟩ disconnection =
      chronicle.disconnections disconnection := Function.update_of_ne (by omega) _ _
  have latest : 0 < chronicle.count → chronicle.latest.time < now := fun positive =>
    may.1 row found _ (shown.latest positive).1
  constructor
  · refine ⟨{ row with lastDisconnectTime := some now },
      by simp [State.agent, Chronicle.tell], ?_⟩
    refine ⟨shown.connection.trans ordered, by simp [Chronicle.tell], fun _ => ?_⟩
    have disconnected : ¬ now < row.lastConnectionTime :=
      not_lt.mpr (shown.connection.trans ordered)
    simp [Chronicle.tell, Chronicle.latest, AgentRow.connected, disconnected]
  · exact faithful.aligned
  · intro disconnection positive within
    have within : disconnection ≤ chronicle.count := Nat.lt_succ_iff.mp within
    simp only [Chronicle.tell, Chronicle.latest, kept within, Function.update_self]
    rcases within.lt_or_eq with earlier | rfl
    · exact (faithful.ordered disconnection positive earlier).trans
        (latest (positive.trans earlier))
    · exact latest positive
  · intro thread disconnection listed
    obtain ⟨positive, within, work, stored, check⟩ := faithful.checks thread disconnection listed
    refine ⟨positive, within.trans (Nat.le_succ _), work, stored, ?_⟩
    simp only [Chronicle.tell, kept within]
    exact check
  · intro disconnection positive within
    rcases (show disconnection ≤ chronicle.count + 1 from within).lt_or_eq with earlier | rfl
    · have within : disconnection ≤ chronicle.count := Nat.lt_succ_iff.mp earlier
      have known := faithful.known disconnection positive within
      have same : (chronicle.tell settings table agentid now .drop { chronicle.state with
          clock := now
          agents := (agentid, { row with lastDisconnectTime := some now }) ::
            chronicle.state.agents }).disconnections disconnection =
          chronicle.disconnections disconnection := kept within
      constructor
      · intro mailed
        rw [same] at mailed ⊢
        exact ⟨(known.long mailed).1.trans_le ordered, (known.long mailed).2⟩
      · rw [same]
        exact known.followed
      · rw [same]
        exact fun late => .inl (faithful.settled may positive within late)
      · rw [same]
        exact known.checked
    · have fresh : (chronicle.tell settings table agentid now .drop { chronicle.state with
          clock := now
          agents := (agentid, { row with lastDisconnectTime := some now }) ::
            chronicle.state.agents }).disconnections (chronicle.count + 1) =
          ⟨now, none, false, false, false, false⟩ := Function.update_self ..
      constructor <;> rw [fresh] <;> nofun

/-- The time of a connection is written. -/
theorem Faithful.connect (faithful : Faithful settings agentid chronicle)
    (may : MayWrite agentid chronicle now) (ordered : chronicle.state.clock ≤ now)
    {row : AgentRow} (found : chronicle.state.agent agentid = some row) :
    Faithful settings agentid (chronicle.tell settings table agentid now .connect
      { chronicle.state with
        clock := now
        agents := (agentid, { row with lastConnectionTime := now }) ::
          chronicle.state.agents }) := by
  obtain ⟨stored, same, shown⟩ := faithful.row
  cases found.symm.trans same
  constructor
  · refine ⟨{ row with lastConnectionTime := now }, by simp [State.agent, Chronicle.tell], ?_⟩
    refine ⟨le_rfl, fun time listed => (shown.disconnection time listed).trans ordered,
      fun positive => ?_⟩
    have disconnected := (shown.latest positive).1
    have earlier := may.1 row found _ disconnected
    refine ⟨disconnected, ?_⟩
    simp [Chronicle.tell, Chronicle.latest, Disconnection.connect, AgentRow.connected, disconnected]
    exact earlier
  · exact faithful.aligned
  · exact faithful.ordered
  · intro thread disconnection listed
    obtain ⟨positive, within, work, stored, check⟩ := faithful.checks thread disconnection listed
    refine ⟨positive, within, work, stored, ?_⟩
    cases work <;> exact check
  · intro disconnection positive within
    have known := faithful.known disconnection positive within
    constructor
    · intro mailed
      obtain ⟨elapsed, long⟩ := known.long mailed
      refine ⟨elapsed.trans_le ordered, fun time listed => ?_⟩
      cases reconnected : (chronicle.disconnections disconnection).reconnected with
      | none =>
        simp [Chronicle.tell, Disconnection.connect, reconnected] at listed
        rw [← listed]
        exact elapsed.trans_le ordered
      | some earlier =>
        simp [Chronicle.tell, Disconnection.connect, reconnected] at listed
        rw [← listed]
        exact long earlier reconnected
    · exact known.followed
    · exact fun late => .inl (faithful.settled may positive within late)
    · exact known.checked

/-- Threads come and go, and a check that goes leaves no disconnection unmailed. -/
theorem Faithful.rethread (faithful : Faithful settings agentid chronicle) {state : State}
    {origins : List (Option Nat)} (agent : state.agent agentid = chronicle.state.agent agentid)
    (ordered : chronicle.state.clock ≤ state.clock)
    (aligned : origins.length = state.threads.length)
    (checks : ∀ thread disconnection : Nat, origins[thread]? = some (some disconnection) →
      0 < disconnection ∧ disconnection ≤ chronicle.count ∧
        ∃ work, state.threads[thread]? = some work ∧
          IsCheck settings agentid (chronicle.disconnections disconnection) work)
    (pending : ∀ disconnection, chronicle.Going disconnection →
      (chronicle.disconnections disconnection).mailed = true ∨ some disconnection ∈ origins) :
    Faithful settings agentid { chronicle with state := state, origins := origins } := by
  constructor
  · obtain ⟨row, stored, shown⟩ := faithful.row
    exact ⟨row, agent.trans stored, shown.connection.trans ordered,
      fun time listed => (shown.disconnection time listed).trans ordered, shown.latest⟩
  · exact aligned
  · exact faithful.ordered
  · exact checks
  · intro disconnection positive within
    have known := faithful.known disconnection positive within
    refine ⟨fun mailed => ⟨(known.long mailed).1.trans_le ordered, (known.long mailed).2⟩,
      known.followed, fun late => ?_, known.checked⟩
    rcases known.late late with mailed | going
    · exact .inl mailed
    · rcases pending disconnection going with mailed | listed
      · exact .inl mailed
      · exact .inr ⟨going.1, going.2.1, listed⟩

/-- More becomes known of a disconnection. -/
theorem Faithful.revise (faithful : Faithful settings agentid chronicle) (disconnection : Nat)
    (change : Disconnection → Disconnection) (time : ∀ known, (change known).time = known.time)
    (reconnected : ∀ known, (change known).reconnected = known.reconnected)
    (changed : 0 < disconnection → disconnection ≤ chronicle.count →
      Known settings (chronicle.revise disconnection change) disconnection) :
    Faithful settings agentid (chronicle.revise disconnection change) := by
  have times (number : Nat) : ((chronicle.revise disconnection change).disconnections number).time =
      (chronicle.disconnections number).time := by
    by_cases same : number = disconnection
    · subst same
      exact (congrArg _ (chronicle.revise_self ..)).trans (time _)
    · exact congrArg _ (Function.update_of_ne same ..)
  have connections (number : Nat) :
      ((chronicle.revise disconnection change).disconnections number).reconnected =
        (chronicle.disconnections number).reconnected := by
    by_cases same : number = disconnection
    · subst same
      exact (congrArg _ (chronicle.revise_self ..)).trans (reconnected _)
    · exact congrArg _ (Function.update_of_ne same ..)
  constructor
  · obtain ⟨row, stored, shown⟩ := faithful.row
    refine ⟨row, stored, shown.connection, shown.disconnection, fun positive => ?_⟩
    unfold Chronicle.latest
    rw [times, connections]
    exact shown.latest positive
  · exact faithful.aligned
  · intro number positive within
    unfold Chronicle.latest
    rw [times, times]
    exact faithful.ordered number positive within
  · intro thread number listed
    obtain ⟨positive, within, work, stored, check⟩ := faithful.checks thread number listed
    refine ⟨positive, within, work, stored, ?_⟩
    cases work with
    | started mail subject => exact check
    | sleeping mail subject due seen =>
      unfold IsCheck
      rw [times]
      exact check
  · intro number positive within
    by_cases same : number = disconnection
    · subst same
      exact changed positive within
    · refine (faithful.known number positive within).later (Function.update_of_ne same ..) le_rfl ?_
      rintro ⟨latest, disconnected, pending⟩
      exact ⟨latest, (connections number).trans disconnected, pending⟩

/-- A thread is erased with its origin. -/
theorem Faithful.erase (faithful : Faithful settings agentid chronicle) (thread : Nat)
    (ended : ∀ disconnection ∈ chronicle.origin thread, chronicle.Going disconnection →
      (chronicle.disconnections disconnection).mailed = true) :
    Faithful settings agentid { chronicle with
      state := { chronicle.state with threads := chronicle.state.threads.eraseIdx thread }
      origins := chronicle.origins.eraseIdx thread } := by
  refine faithful.rethread rfl le_rfl ?_ ?_ ?_
  · simp only [List.length_eraseIdx, faithful.aligned]
  · intro other disconnection listed
    rw [List.getElem?_eraseIdx] at listed
    rw [List.getElem?_eraseIdx]
    split at listed
    next before =>
      rw [if_pos before]
      exact faithful.checks other disconnection listed
    next after =>
      rw [if_neg after]
      exact faithful.checks (other + 1) disconnection listed
  · intro disconnection going
    obtain ⟨place, stored⟩ := List.mem_iff_getElem?.mp going.2.2
    by_cases same : place = thread
    · subst same
      refine .inl (ended disconnection ?_ going)
      simp [Chronicle.origin, stored]
    · exact .inr (List.mem_eraseIdx_iff_getElem?.mpr ⟨place, same, stored⟩)

/-- Threads are started, each with its origin. -/
theorem Faithful.start (faithful : Faithful settings agentid chronicle) {state : State}
    {extra : List Thread} {origin : Option Nat}
    (agent : state.agent agentid = chronicle.state.agent agentid)
    (ordered : chronicle.state.clock ≤ state.clock)
    (threads : state.threads = chronicle.state.threads ++ extra)
    (checks : ∀ disconnection ∈ origin, 0 < disconnection ∧ disconnection ≤ chronicle.count ∧
      ∀ work ∈ extra, IsCheck settings agentid (chronicle.disconnections disconnection) work) :
    Faithful settings agentid { chronicle with
      state := state
      origins := chronicle.origins ++
        List.replicate (state.threads.length - chronicle.state.threads.length) origin } := by
  have count : state.threads.length - chronicle.state.threads.length = extra.length := by
    rw [threads, List.length_append]
    omega
  rw [count]
  refine faithful.rethread agent ordered ?_ ?_ ?_
  · rw [threads]
    simp [faithful.aligned]
  · intro thread disconnection listed
    rw [threads]
    by_cases earlier : thread < chronicle.origins.length
    · rw [List.getElem?_append_left earlier] at listed
      rw [List.getElem?_append_left (faithful.aligned ▸ earlier)]
      exact faithful.checks thread disconnection listed
    · have later : chronicle.origins.length ≤ thread := not_lt.mp earlier
      rw [List.getElem?_append_right later] at listed
      rw [List.getElem?_append_right (faithful.aligned ▸ later), ← faithful.aligned]
      obtain ⟨inside, same⟩ := List.getElem?_eq_some_iff.mp listed
      rw [List.length_replicate] at inside
      rw [List.getElem_replicate] at same
      obtain ⟨positive, within, all⟩ := checks disconnection same
      exact ⟨positive, within, _, List.getElem?_eq_getElem inside, all _ (List.getElem_mem inside)⟩
  · exact fun disconnection going => .inr (List.mem_append_left _ going.2.2)

/-- Time goes on. -/
theorem Faithful.clock (faithful : Faithful settings agentid chronicle)
    (ordered : chronicle.state.clock ≤ now) :
    Faithful settings agentid
      { chronicle with state := { chronicle.state with clock := now } } :=
  faithful.rethread rfl ordered faithful.aligned faithful.checks
    fun _ going => .inr going.2.2

/-- The work of a check. -/
theorem Faithful.check (faithful : Faithful settings agentid chronicle)
    {thread disconnection : Nat} (origin : chronicle.origin thread = some disconnection) :
    0 < disconnection ∧ disconnection ≤ chronicle.count ∧
      ∃ work, chronicle.state.threads[thread]? = some work ∧
        IsCheck settings agentid (chronicle.disconnections disconnection) work :=
  faithful.checks thread disconnection (Option.join_eq_some_iff.mp origin)

/-- A thread reads the row of its agent. -/
theorem Faithful.reads (faithful : Faithful settings agentid chronicle) {thread : Nat}
    (timely : ∀ disconnection ∈ chronicle.origin thread,
      disconnection = chronicle.count ∧ chronicle.latest.time < now)
    (ordered : chronicle.state.clock ≤ now)
    (read : readAgent settings { chronicle.state with clock := now } thread = some after) :
    Faithful settings agentid
      (chronicle.tell settings table agentid now (.reads thread) after) := by
  have moved := faithful.clock ordered
  obtain ⟨row, stored, shown⟩ := faithful.row
  unfold readAgent at read
  simp only [] at read
  cases found : chronicle.state.threads[thread]? with
  | none =>
    rw [found] at read
    cases read
  | some work =>
    rw [found] at read
    cases work with
    | sleeping => cases read
    | started mail subject =>
      have inside : thread < chronicle.state.threads.length :=
        (List.getElem?_eq_some_iff.mp found).1
      -- A check is about the agent, so only a thread about another one ends here.
      have erased (apart : subject ≠ some agentid)
          (ended : some { chronicle.state with
            clock := now, threads := chronicle.state.threads.eraseIdx thread } = some after) :
          Faithful settings agentid
            (chronicle.tell settings table agentid now (.reads thread) after) := by
        cases ended
        have shorter : (chronicle.state.threads.eraseIdx thread).length <
            chronicle.state.threads.length := by
          rw [List.length_eraseIdx_of_lt inside]
          omega
        have erase := moved.erase thread fun disconnection origin _ => by
          obtain ⟨-, -, work, same, check⟩ := faithful.check origin
          cases found.symm.trans same
          exact absurd check apart
        simpa only [Chronicle.tell, if_pos shorter] using erase
      cases subject with
      | none => exact erased nofun read
      | some subject =>
        cases agent : State.agent { chronicle.state with clock := now } subject with
        | none =>
          simp only [agent] at read
          refine erased ?_ read
          rintro ⟨⟩
          cases agent.symm.trans stored
        | some read =>
          rename_i same
          simp only [agent, Option.some.injEq] at same
          subst same
          have length : (chronicle.state.threads.set thread (.sleeping mail subject
              (now + settings.emailMuteReconnectSeconds * 1000000)
              read.lastDisconnectTime)).length = chronicle.state.threads.length :=
            List.length_set
          simp only [Chronicle.tell, length, lt_irrefl, if_false]
          refine faithful.rethread rfl ordered (faithful.aligned.trans length.symm) ?_
            fun _ going => .inr going.2.2
          intro other disconnection listed
          obtain ⟨positive, within, work, started, check⟩ :=
            faithful.checks other disconnection listed
          refine ⟨positive, within, ?_⟩
          by_cases same : thread = other
          · subst same
            obtain ⟨rfl, earlier⟩ := timely disconnection (by simp [Chronicle.origin, listed])
            cases found.symm.trans started
            obtain rfl : subject = agentid := Option.some.inj check
            obtain rfl : read = row := Option.some.inj (agent.symm.trans stored)
            refine ⟨_, List.getElem?_set_self inside, rfl, (shown.latest positive).1, ?_⟩
            exact add_lt_add_left earlier _
          · rw [List.getElem?_set_ne same]
            exact ⟨work, started, check⟩

/-- A check that ends tells what the row says: the mail is sent if the disconnection is the latest
one and the agent has not connected since. -/
theorem Faithful.sendsAwake (faithful : Faithful settings agentid chronicle)
    {thread disconnection : Nat} (origin : chronicle.origin thread = some disconnection)
    {mail : Mail} {subject : Nat} {due : Time} {seen : Option Time}
    (sleeping : chronicle.state.threads[thread]? = some (.sleeping mail subject due seen)) :
    chronicle.sendsAwake thread = true ↔ disconnection = chronicle.count ∧
      (chronicle.disconnections disconnection).reconnected = none := by
  obtain ⟨positive, within, work, same, check⟩ := faithful.check origin
  cases sleeping.symm.trans same
  obtain ⟨rfl, rfl, -⟩ := check
  obtain ⟨row, stored, shown⟩ := faithful.row
  obtain ⟨time, connected⟩ := shown.latest (positive.trans_le within)
  have sends : chronicle.sendsAwake thread = true ↔ row.connected = false ∧
      row.lastDisconnectTime = some (chronicle.disconnections disconnection).time := by
    unfold Chronicle.sendsAwake sendsMail
    rw [sleeping]
    simp [stored]
  rw [sends, time, Option.some.injEq]
  constructor
  · rintro ⟨disconnected, same⟩
    rcases within.lt_or_eq with earlier | rfl
    · exact absurd same.symm (faithful.ordered disconnection positive earlier).ne
    · exact ⟨rfl, connected.mpr disconnected⟩
  · rintro ⟨rfl, none⟩
    exact ⟨connected.mp none, rfl⟩

/-- What is known after a check ended. -/
theorem Known.awake {disconnection : Nat} (known : Known settings chronicle disconnection)
    {sent : Bool} (elapsed : (chronicle.disconnections disconnection).time +
      settings.emailMuteReconnectSeconds * 1000000 < chronicle.state.clock)
    (sends : sent = true ↔ disconnection = chronicle.count ∧
      (chronicle.disconnections disconnection).reconnected = none) :
    Known settings (chronicle.revise disconnection
      (Disconnection.awake (disconnection = chronicle.count) sent)) disconnection := by
  have record : (chronicle.revise disconnection
      (Disconnection.awake (disconnection = chronicle.count) sent)).disconnections disconnection =
      (chronicle.disconnections disconnection).awake (disconnection = chronicle.count) sent :=
    chronicle.revise_self ..
  constructor
  · intro mailed
    rw [record] at mailed ⊢
    rcases Bool.or_eq_true_iff.mp mailed with before | now
    · exact known.long before
    · refine ⟨elapsed, fun time listed => ?_⟩
      cases (sends.mp now).2.symm.trans listed
  · rw [record]
    exact known.followed
  · rw [record]
    intro late
    refine .inl (Bool.or_eq_true_iff.mpr ?_)
    exact (known.late late).imp_right fun going => sends.mpr ⟨going.1, going.2.1⟩
  · rw [record]
    intro checked
    refine Bool.or_eq_true_iff.mpr ?_
    refine (Bool.or_eq_true_iff.mp checked).imp known.checked fun ended => sends.mpr ?_
    simpa using ended

/-- A thread wakes up. -/
theorem Faithful.wakes (faithful : Faithful settings agentid chronicle) {thread : Nat}
    (ordered : chronicle.state.clock ≤ now)
    (woke : wakeUp { chronicle.state with clock := now } thread = some after) :
    Faithful settings agentid
      (chronicle.tell settings table agentid now (.wakes thread) after) := by
  have moved := faithful.clock ordered
  unfold wakeUp at woke
  simp only [] at woke
  cases found : chronicle.state.threads[thread]? with
  | none =>
    rw [found] at woke
    cases woke
  | some work =>
    rw [found] at woke
    cases work with
    | started => cases woke
    | sleeping mail subject due seen =>
      simp only [Option.ite_none_left_eq_some, not_lt] at woke
      obtain ⟨elapsed, ended⟩ := woke
      have same : after.clock = now ∧ after.agents = chronicle.state.agents ∧
          after.threads = chronicle.state.threads.eraseIdx thread := by
        cases ended
        split <;> exact ⟨rfl, rfl, rfl⟩
      obtain ⟨clock, agents, threads⟩ := same
      -- The state after it differs from the erased one by what was observed only.
      have finish (earlier : Chronicle) (state : earlier.state = { chronicle.state with clock := now })
          (erased : Faithful settings agentid { earlier with
            state := { earlier.state with threads := earlier.state.threads.eraseIdx thread }
            origins := earlier.origins.eraseIdx thread }) :
          Faithful settings agentid { earlier with
            state := after, origins := earlier.origins.eraseIdx thread } := by
        refine erased.rethread ?_ ?_ ?_ ?_ fun _ going => .inr going.2.2
        · exact congrArg (List.lookup agentid) (by simp only [agents, state])
        · simp only [clock, state, le_refl]
        · rw [threads]
          simpa only [state] using erased.aligned
        · rw [threads]
          simpa only [state] using erased.checks
      cases origin : chronicle.origin thread with
      | none =>
        have erase := moved.erase thread fun disconnection listed => by
          cases origin.symm.trans listed
        simpa only [Chronicle.tell, Chronicle.awake, origin] using finish _ rfl erase
      | some disconnection =>
        have sends := faithful.sendsAwake origin found
        obtain ⟨positive, within, work, same, check⟩ := faithful.check origin
        cases found.symm.trans same
        obtain ⟨-, -, late⟩ := check
        have known := (moved.known disconnection positive within).awake
          (late.trans_le elapsed) sends
        have revised := moved.revise disconnection (Disconnection.awake
          (disconnection = chronicle.count) (chronicle.sendsAwake thread)) (fun _ => rfl)
          (fun _ => rfl) fun _ _ => known
        have erase := revised.erase thread fun number same going => by
          obtain rfl : disconnection = number := Option.some.inj (origin.symm.trans same)
          have record := going.2.1
          rw [Chronicle.revise_self] at record ⊢
          exact Bool.or_eq_true_iff.mpr (.inr (sends.mpr ⟨going.1, record⟩))
        have told := finish _ rfl erase
        simp only [Chronicle.tell, Chronicle.awake, origin]
        exact told

/-! ## Events -/

/-- Time has come, and there may be more threads. -/
structure Grown (before after : State) (extra : List Thread) : Prop where
  clock : after.clock = before.clock
  agents : after.agents = before.agents
  threads : after.threads = before.threads ++ extra

/-- Nothing moved, so there are no more threads. -/
theorem Unmoved.grown {before : State} (unmoved : Unmoved before after) :
    Grown before after [] :=
  ⟨unmoved.clock, unmoved.agents, by rw [unmoved.threads, List.append_nil]⟩

/-- What is delivered is a mail at once, or nothing, or a thread for a disconnection. -/
theorem deliver_grown (entry : EventEntry) (occasion : Occasion) (mail : Mail) (state : State) :
    ∃ extra, Grown state (deliver settings entry occasion mail state) extra ∧
      ∀ work ∈ extra, entry.key = .agentDisconnect ∧ work = .started mail occasion.agentid := by
  have still (after : State) (unmoved : Unmoved state after) : ∃ extra, Grown state after extra ∧
      ∀ work ∈ extra, entry.key = .agentDisconnect ∧ work = .started mail occasion.agentid :=
    ⟨[], unmoved.grown, nofun⟩
  unfold deliver
  split
  · exact still _ ⟨rfl, rfl, rfl⟩
  · split
    next disconnect =>
      exact ⟨[_], ⟨rfl, rfl, rfl⟩, fun work listed => ⟨disconnect, List.mem_singleton.mp listed⟩⟩
    · split
      · split <;> exact still _ ⟨rfl, rfl, rfl⟩
      · exact still _ ⟨rfl, rfl, rfl⟩

/-- A mail starts a thread for a disconnection only. -/
theorem send_grown (entry : EventEntry) (occasion : Occasion) (recipient : Option String)
    (state : State) :
    ∃ extra, Grown state (send settings table entry occasion recipient state) extra ∧
      ∀ work ∈ extra, entry.key = .agentDisconnect ∧
        ∃ mail, work = .started mail occasion.agentid := by
  have unmoved := @emailLimitReached_unmoved settings table entry occasion state
  unfold send sendWith
  cases addressees settings entry occasion recipient state with
  | none => exact ⟨[], ⟨rfl, rfl, (List.append_nil _).symm⟩, nofun⟩
  | some pair =>
    simp only []
    split
    · exact ⟨[], ⟨rfl, rfl, (List.append_nil _).symm⟩, nofun⟩
    · generalize emailLimitReached settings table entry occasion state = outcome at *
      rcases outcome with ⟨limited, middle⟩
      cases limited with
      | true => exact ⟨[], unmoved.grown, nofun⟩
      | false =>
        obtain ⟨extra, grown, works⟩ := @deliver_grown settings entry occasion
          ⟨decide entry.Limited, pair.1, pair.2⟩ middle
        refine ⟨extra, ⟨grown.clock.trans unmoved.clock, grown.agents.trans unmoved.agents,
          grown.threads.trans (congrArg (· ++ extra) unmoved.threads)⟩, fun work listed => ?_⟩
        exact ⟨(works work listed).1, _, (works work listed).2⟩

/-- An event starts a thread for a disconnection only. -/
theorem gen_grown (entry : EventEntry) (occasion : Occasion) (state : State) :
    ∃ extra, Grown state (gen settings table entry occasion state) extra ∧
      ∀ work ∈ extra, entry.key = .agentDisconnect ∧
        ∃ mail, work = .started mail occasion.agentid := by
  unfold gen
  split
  · exact send_grown entry occasion none state
  · exact ⟨[], ⟨rfl, rfl, (List.append_nil _).symm⟩, nofun⟩

/-- The event about a disconnection is generated. -/
theorem Faithful.announce (faithful : Faithful settings agentid chronicle)
    (ordered : chronicle.state.clock ≤ now) {disconnection : Nat} {entry : EventEntry}
    {occasion : Occasion} (positive : 0 < disconnection) (within : disconnection ≤ chronicle.count)
    (own : occasion.agentid = some agentid) :
    Faithful settings agentid (chronicle.tell settings table agentid now
      (.announce disconnection entry occasion)
      (gen settings table entry occasion { chronicle.state with clock := now })) := by
  obtain ⟨extra, grown, works⟩ := @gen_grown settings table entry occasion
    { chronicle.state with clock := now }
  refine faithful.start (congrArg (List.lookup agentid) grown.agents) (ordered.trans grown.clock.ge) grown.threads ?_
  rintro _ ⟨⟩
  refine ⟨positive, within, fun work listed => ?_⟩
  obtain ⟨-, mail, rfl⟩ := works work listed
  exact own

/-- A mail that is muted by the time of the row is late if it is sent. -/
theorem Faithful.sendsFollowing (faithful : Faithful settings agentid chronicle)
    (positive : 0 < chronicle.count) (entry : EventEntry) (occasion : Occasion) :
    chronicle.sendsFollowing settings table agentid now entry occasion =
      chronicle.isLate settings table now entry occasion := by
  obtain ⟨row, stored, shown⟩ := faithful.row
  unfold Chronicle.sendsFollowing Chronicle.isLate
  cases found : passed settings table entry occasion { chronicle.state with clock := now } with
  | none => rfl
  | some pair =>
    have unmoved := (gen_of_passed found).2
    have agent : pair.2.agent agentid = some row := by
      unfold State.agent at stored ⊢
      rw [unmoved.agents]
      exact stored
    have check : muteReconnCheck settings (some agentid) pair.2 =
        decide ((settings.emailMuteReconnectSeconds : Int) <
          (now - chronicle.latest.time).tdiv 1000000) := by
      unfold muteReconnCheck
      simp [agent, (shown.latest positive).1, unmoved.clock]
    simpa using check

/-- The event about a connection or its first state is generated. -/
theorem Faithful.follow (faithful : Faithful settings agentid chronicle)
    (ordered : chronicle.state.clock ≤ now) {entry : EventEntry} {occasion : Occasion}
    (muted : entry.key ∈ mutedKeys)
    (timely : 0 < chronicle.count →
      chronicle.isLate settings table now entry occasion = true →
        chronicle.latest.checked = true ∨
          chronicle.latest.reconnected = none ∧ chronicle.Pending chronicle.count) :
    Faithful settings agentid (chronicle.tell settings table agentid now (.follow entry occasion)
      (gen settings table entry occasion { chronicle.state with clock := now })) := by
  obtain ⟨extra, grown, works⟩ := @gen_grown settings table entry occasion
    { chronicle.state with clock := now }
  obtain rfl : extra = [] := by
    refine List.eq_nil_iff_forall_not_mem.mpr fun work listed => ?_
    rw [(works work listed).1] at muted
    revert muted
    decide
  have revised := faithful.revise chronicle.count (Disconnection.follow
    (chronicle.isLate settings table now entry occasion)
    (chronicle.sendsFollowing settings table agentid now entry occasion)) (fun _ => rfl)
    (fun _ => rfl) fun positive within => by
      have known := faithful.known chronicle.count positive within
      have record := chronicle.revise_self chronicle.count (Disconnection.follow
        (chronicle.isLate settings table now entry occasion)
        (chronicle.sendsFollowing settings table agentid now entry occasion))
      have sends := @Faithful.sendsFollowing settings table agentid chronicle now faithful positive
        entry occasion
      constructor
      · rw [record]
        exact known.long
      · rw [record]
        intro followed
        refine Bool.or_eq_true_iff.mpr ?_
        exact (Bool.or_eq_true_iff.mp followed).imp known.followed fun sent => sends ▸ sent
      · unfold Chronicle.Going
        rw [record]
        intro late
        rcases Bool.or_eq_true_iff.mp late with before | now
        · exact known.late before
        · rcases timely positive now with checked | ⟨disconnected, pending⟩
          · exact .inl (known.checked checked)
          · exact .inr ⟨rfl, disconnected, pending⟩
      · rw [record]
        exact known.checked
  have threads : (gen settings table entry occasion { chronicle.state with clock := now }).threads =
      chronicle.state.threads := grown.threads.trans (List.append_nil _)
  refine revised.rethread (congrArg (List.lookup agentid) grown.agents) (ordered.trans grown.clock.ge) ?_ ?_
    fun _ going => .inr going.2.2
  · rw [threads]
    exact faithful.aligned
  · rw [threads]
    exact revised.checks

/-- Whatever else happens leaves the agent's row and starts no check of it. -/
theorem Faithful.other (faithful : Faithful settings agentid chronicle)
    (ordered : chronicle.state.clock ≤ now) {action : Action}
    (fits : (Happening.other action).Fits agentid chronicle.count)
    (acted : act settings table { chronicle.state with clock := now } action = some after) :
    Faithful settings agentid (chronicle.tell settings table agentid now (.other action) after) := by
  have grows (extra : List Thread) (agent : after.agent agentid = chronicle.state.agent agentid)
      (clock : after.clock = now) (threads : after.threads = chronicle.state.threads ++ extra) :
      Faithful settings agentid
        (chronicle.tell settings table agentid now (.other action) after) :=
    faithful.start agent (ordered.trans clock.ge) threads nofun
  cases action with
  | event entry occasion =>
    cases acted
    obtain ⟨extra, grown, -⟩ := @gen_grown settings table entry occasion
      { chronicle.state with clock := now }
    exact grows extra (congrArg (List.lookup agentid) grown.agents) grown.clock grown.threads
  | test occasion recipient =>
    cases acted
    obtain ⟨extra, grown, -⟩ := @send_grown settings table table.test occasion recipient
      { chronicle.state with clock := now }
    exact grows extra (congrArg (List.lookup agentid) grown.agents) grown.clock grown.threads
  | reads thread => exact absurd fits id
  | wakes thread => exact absurd fits id
  | agent other row =>
    cases acted
    have apart : (agentid == other) = false := beq_false_of_ne (Ne.symm fits)
    refine grows [] ?_ rfl (List.append_nil _).symm
    unfold State.agent
    simp only [List.lookup_cons, apart]
  | save publishers admins =>
    cases acted
    have saved (state : State) : Unmoved state (saveAlerts publishers admins state) := by
      unfold saveAlerts
      cases publishers || admins <;> exact ⟨rfl, rfl, rfl⟩
    have grown := (saved { chronicle.state with clock := now }).grown
    exact grows [] (congrArg (List.lookup agentid) grown.agents) grown.clock grown.threads

/-- A timely step keeps the invariant. -/
theorem Faithful.step (faithful : Faithful settings agentid chronicle) {next : Chronicle}
    {label : Time × Happening} (timely : Timely settings table agentid chronicle label)
    (stepped : (muting settings table agentid).step chronicle label = some next) :
    Faithful settings agentid next := by
  obtain ⟨row, after, stored, fits, taken, rfl⟩ := muting_step stepped
  obtain ⟨now, happening⟩ := label
  obtain ⟨ordered, acted⟩ := mailing_step.mp taken
  cases happening with
  | drop =>
    cases acted
    exact faithful.drop timely ordered stored
  | connect =>
    cases acted
    exact faithful.connect timely ordered stored
  | announce disconnection entry occasion =>
    cases acted
    exact faithful.announce ordered fits.1 fits.2.1 fits.2.2.2
  | follow entry occasion =>
    cases acted
    exact faithful.follow ordered fits.1 timely
  | reads thread => exact faithful.reads timely ordered acted
  | wakes thread => exact faithful.wakes ordered acted
  | other action => exact faithful.other ordered fits acted

/-- A run begins without a disconnection. -/
theorem Faithful.initial (initial : (muting settings table agentid).initial chronicle) :
    Faithful settings agentid chronicle := by
  obtain ⟨⟨threads, -⟩, -, count, origins, row, stored, connection, disconnection⟩ := initial
  constructor
  · exact ⟨row, stored, connection, disconnection, fun positive => by omega⟩
  · rw [threads, origins]
    rfl
  · intro number positive within
    omega
  · intro thread number listed
    rw [origins] at listed
    cases listed
  · intro number positive within
    omega

end Steps

/-! ## Runs -/

/-- In a timely run a mail about a disconnection is about a long one, and no mail about a
connection or a first state follows a disconnection that is not mailed. -/
theorem muted_in_pairs {settings : Settings} {table : EventTable} {agentid : Nat}
    {chronicle : Chronicle}
    (reachable : ((muting settings table agentid).restrict
      (Timely settings table agentid)).Reachable chronicle) :
    ∀ disconnection, 0 < disconnection → disconnection ≤ chronicle.count →
      chronicle.InPairs settings disconnection := by
  have invariant : ((muting settings table agentid).restrict
      (Timely settings table agentid)).Invariant (Faithful settings agentid) := by
    refine ⟨fun _ initial => Faithful.initial initial, fun _ _ _ faithful stepped => ?_⟩
    obtain ⟨timely, taken⟩ := Machine.restrict_step_eq_some.mp stepped
    exact faithful.step timely taken
  exact fun disconnection positive within =>
    ((invariant.reachable reachable).known disconnection positive within).inPairs

/-- Disconnections are muted for a minute. -/
def muteAMinute : Settings := ⟨10, 1, 60, true, -1⟩

/-- The event about an agent that connected. -/
def communication : EventEntry := ⟨.agentCommunication, .info, true, true, false, by decide⟩

/-- The event about the first state of an agent, which is started. -/
def initStarted : EventEntry := ⟨.initStateStarted, .info, true, true, false, by decide⟩

/-- An agent that is connected, before any disconnection. -/
def oneConnected : Chronicle where
  state := ⟨0, [], true, false, false, [(1, ⟨-10, none⟩)], [], []⟩
  count := 0
  disconnections _ := ⟨0, none, false, false, false, false⟩
  origins := []

/-- The agent is disconnected for two minutes: its check ends after one, and the new connection is
mailed. -/
def longDisconnection : List (Time × Happening) :=
  [(1000000, .drop), (1000000, .announce 1 disconnected aboutAgent), (2000000, .reads 0),
    (62000000, .wakes 0), (121000000, .connect), (121000000, .follow communication aboutAgent)]

/-- What came of it. -/
def afterLong : Chronicle :=
  (((muting muteAMinute shippedTable 1).restrict (Timely muteAMinute shippedTable 1)).run
    oneConnected longDisconnection).get (by decide +kernel)

/-- A long disconnection is mailed, and so is the connection. -/
theorem muted_in_pairs_long :
    afterLong.latest = ⟨1000000, some 121000000, true, true, true, true⟩ ∧
      afterLong.InPairs muteAMinute 1 :=
  ⟨by decide +kernel, muted_in_pairs ⟨oneConnected, longDisconnection,
    ⟨⟨rfl, rfl⟩, by decide, rfl, rfl, ⟨-10, none⟩, rfl, by decide, nofun⟩,
    (Option.some_get _).symm⟩ 1 (by decide) (by decide +kernel)⟩

/-- The agent is disconnected for ten seconds, and its first state is known two minutes later. -/
def shortDisconnection : List (Time × Happening) :=
  [(1000000, .drop), (1000000, .announce 1 disconnected aboutAgent), (2000000, .reads 0),
    (11000000, .connect), (11000000, .follow communication aboutAgent), (62000000, .wakes 0),
    (131000000, .follow initStarted aboutAgent)]

/-- The first state is mailed, and the disconnection was not. -/
theorem first_state_unpaired :
    ¬∀ (settings : Settings) (table : EventTable) (agentid : Nat) (chronicle : Chronicle),
      (muting settings table agentid).Reachable chronicle →
        ∀ disconnection, 0 < disconnection → disconnection ≤ chronicle.count →
          chronicle.InPairs settings disconnection := by
  intro pairs
  have told : ((muting muteAMinute shippedTable 1).run oneConnected shortDisconnection).any
      fun chronicle => chronicle.count = 1 ∧
        chronicle.latest = ⟨1000000, some 11000000, false, true, false, true⟩ := by
    decide +kernel
  obtain ⟨chronicle, reached, known⟩ := (Option.any_eq_true _ _).mp told
  obtain ⟨count, latest⟩ := of_decide_eq_true known
  have same : chronicle.disconnections 1 = _ := (congrArg _ count.symm).trans latest
  have pair := (pairs muteAMinute shippedTable 1 chronicle ⟨oneConnected, shortDisconnection,
    ⟨⟨rfl, rfl⟩, by decide, rfl, rfl, ⟨-10, none⟩, rfl, by decide, nofun⟩, reached⟩ 1 (by decide)
    count.ge).paired
  unfold Chronicle.Going at pair
  rw [same] at pair
  rcases pair rfl with mailed | ⟨-, disconnected, -⟩
  · cases mailed
  · cases disconnected

end Palette.Alerts
