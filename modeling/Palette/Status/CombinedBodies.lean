import Palette.Status.MaintenanceRuns

/-!
# The combined bodies of servers

The archive servers and the maintenance servers of all agents are started and stopped together,
and what the agents reply is combined into one body: the texts of each key with the names of the
agents in front of them, and an error where there was one.

The loop over the maintenance servers looks at each key for itself. The loop over the archive
servers looks at one key and reads the other two wherever that one is there.
-/

namespace Palette.Status

open Palette.Commands (Failure)
open Palette.Events (Generation)
open Palette.Foundation Script

/-! ## Replies -/

/-- An agent with its reply. -/
abbrev Contact := Registered × MaintBody

/-- A key of a body that holds a text. -/
abbrev Key := MaintBody → Option String

/-- The lines of the texts under a key. -/
def lines (key : Key) (contacts : List Contact) : String :=
  contacts.foldr (fun contact rest =>
    ((key contact.2).map (Combined.line contact.1.displayname)).getD "" ++ rest) ""

/-- Some reply has an error. -/
def HasError (contacts : List Contact) : Prop :=
  ∃ contact ∈ contacts, contact.2.error.isSome = true

/-- No agent gives a text under a key twice. -/
def OnceUnder (key : Key) (contacts : List Contact) : Prop :=
  ((contacts.filter fun contact => (key contact.2).isSome).map fun contact =>
    contact.1.agentid).Nodup

/-- A body has an error exactly if a reply has one or nobody was reached, and its texts are those
of the agents, each once. -/
structure IsFaithful (contacts : List Contact) (unreached : Prop) (body : MaintBody) : Prop where
  failed : body.error.isSome = true ↔ HasError contacts ∨ unreached
  stdout : body.stdout.getD "" = lines MaintBody.stdout contacts
  stderr : body.stderr.getD "" = lines MaintBody.stderr contacts
  error : HasError contacts → body.error = some (lines MaintBody.error contacts)
  once : OnceUnder MaintBody.stdout contacts ∧ OnceUnder MaintBody.stderr contacts ∧
    OnceUnder MaintBody.error contacts

/-! ## The archive servers -/

/-- What the loop over the archive servers has collected. -/
structure ArchiveCombined where
  stdout : String
  stderr : String
  error : String
  archiveSuccess : Bool
  deriving DecidableEq, Repr

/-- `body[key]`. -/
def getitem (key : String) : Option String → Except Failure String
  | some text => .ok text
  | none => .error ⟨.keyError, key⟩

/-- The loop of `archive` over the agents. -/
def archiveLoop (combined : ArchiveCombined) : List Contact → Except Failure ArchiveCombined
  | [] => .ok combined
  | (agent, body) :: rest =>
    match body.stdout with
    | none => archiveLoop combined rest
    | some stdout => do
      let stderr ← getitem "stderr" body.stderr
      let error ← getitem "error" body.error
      archiveLoop
        { stdout := combined.stdout ++ Combined.line agent.displayname stdout
          stderr := combined.stderr ++ Combined.line agent.displayname stderr
          error := combined.error ++ Combined.line agent.displayname error
          archiveSuccess := false } rest

/-- The agents that are connected, each under one key. -/
structure ConnectedAgents where
  agents : List Registered
  distinct : (agents.map Registered.agentid).Nodup

/-- The agents with their replies. -/
def ConnectedAgents.contacts (connected : ConnectedAgents) (reply : Registered → MaintBody) :
    List Contact :=
  connected.agents.map fun agent => (agent, reply agent)

/-- `archive`, for the agent that is given or for all agents. -/
def archive (agent : Option Registered) (connected : ConnectedAgents)
    (reply : Registered → MaintBody) : Except Failure MaintBody :=
  match agent with
  | some agent => .ok (reply agent)
  | none => do
    let combined ← archiveLoop ⟨"", "", "", true⟩ (connected.contacts reply)
    return ⟨some combined.stdout, some combined.stderr,
      if combined.archiveSuccess then none else some combined.error⟩

/-- A reply has all three texts, or none. -/
def IsWhole (body : MaintBody) : Prop :=
  (body.stdout.isSome = true ∧ body.stderr.isSome = true ∧ body.error.isSome = true) ∨
    (body.stdout = none ∧ body.stderr = none ∧ body.error = none)

section Lines

variable {key : Key} {contact : Contact} {contacts rest : List Contact}

theorem lines_cons : lines key (contact :: rest) =
    ((key contact.2).map (Combined.line contact.1.displayname)).getD "" ++ lines key rest := rfl

/-- A text under a key is a line. -/
theorem lines_some {text : String} (there : key contact.2 = some text) :
    lines key (contact :: rest) =
      Combined.line contact.1.displayname text ++ lines key rest := by
  rw [lines_cons, there]
  rfl

/-- Nothing under a key is no line. -/
theorem lines_none (absent : key contact.2 = none) :
    lines key (contact :: rest) = lines key rest := by
  rw [lines_cons, absent]
  exact String.empty_append

/-- A line is not empty. -/
theorem length_line (displayname text : String) :
    0 < (Combined.line displayname text).length := by
  simp only [Combined.line, String.length_append]
  have blank : (": " : String).length = 2 := by decide
  omega

/-- Leaving out replies does not make the lines longer. -/
theorem length_lines_filter_le (kept : Contact → Bool) :
    (lines key (contacts.filter kept)).length ≤ (lines key contacts).length := by
  induction contacts with
  | nil => exact le_rfl
  | cons first rest inductionHypothesis =>
    rw [lines_cons, String.length_append]
    by_cases isKept : kept first = true
    · rw [List.filter_cons_of_pos isKept, lines_cons, String.length_append]
      omega
    · rw [List.filter_cons_of_neg isKept]
      omega

/-- If leaving out replies leaves the lines as they are, then no text was left out. -/
theorem kept_of_lines_filter (kept : Contact → Bool)
    (same : lines key (contacts.filter kept) = lines key contacts) :
    ∀ contact ∈ contacts, (key contact.2).isSome = true → kept contact = true := by
  intro contact listed there
  by_contra left
  have shorter : (lines key (contacts.filter kept)).length < (lines key contacts).length := by
    clear same
    induction contacts with
    | nil => cases listed
    | cons first rest inductionHypothesis =>
      have others : (lines key (rest.filter kept)).length ≤ (lines key rest).length :=
        length_lines_filter_le kept
      rw [lines_cons, String.length_append]
      rcases List.mem_cons.mp listed with rfl | behind
      · obtain ⟨text, isText⟩ := Option.isSome_iff_exists.mp there
        have line := length_line contact.1.displayname text
        rw [List.filter_cons_of_neg left, isText, Option.map_some, Option.getD_some]
        omega
      · have less := inductionHypothesis behind
        by_cases isKept : kept first = true
        · rw [List.filter_cons_of_pos isKept, lines_cons, String.length_append]
          omega
        · rw [List.filter_cons_of_neg isKept]
          omega
  rw [same] at shorter
  exact lt_irrefl _ shorter

/-- Leaving out replies without a text leaves the lines as they are. -/
theorem lines_filter (kept : Contact → Bool)
    (holds : ∀ contact ∈ contacts, (key contact.2).isSome = true → kept contact = true) :
    lines key (contacts.filter kept) = lines key contacts := by
  induction contacts with
  | nil => rfl
  | cons first rest inductionHypothesis =>
    have others := inductionHypothesis fun contact listed =>
      holds contact (List.mem_cons_of_mem _ listed)
    by_cases isKept : kept first = true
    · rw [List.filter_cons_of_pos isKept, lines_cons, lines_cons, others]
    · have absent : key first.2 = none := by
        by_contra there
        exact isKept (holds first List.mem_cons_self (Option.isSome_iff_ne_none.mpr there))
      rw [List.filter_cons_of_neg isKept, lines_none absent, others]

end Lines

section Archives

variable {contacts : List Contact} {combined : ArchiveCombined}

/-- The agents whose replies have the key that the loop looks at. -/
def answered (contacts : List Contact) : List Contact :=
  contacts.filter fun contact => contact.2.stdout.isSome

/-- Where that key is there, the others are. -/
def AreComplete (contacts : List Contact) : Prop :=
  ∀ contact ∈ contacts, contact.2.stdout.isSome = true →
    contact.2.stderr.isSome = true ∧ contact.2.error.isSome = true

/-- The loop collects the texts of these agents. -/
theorem archiveLoop_eq (complete : AreComplete contacts) :
    archiveLoop combined contacts = .ok
      { stdout := combined.stdout ++ lines MaintBody.stdout (answered contacts)
        stderr := combined.stderr ++ lines MaintBody.stderr (answered contacts)
        error := combined.error ++ lines MaintBody.error (answered contacts)
        archiveSuccess := combined.archiveSuccess && (answered contacts).isEmpty } := by
  induction contacts generalizing combined with
  | nil => simp [archiveLoop, answered, lines]
  | cons first rest inductionHypothesis =>
    obtain ⟨agent, body⟩ := first
    have others : AreComplete rest := fun contact listed =>
      complete contact (List.mem_cons_of_mem _ listed)
    cases there : body.stdout with
    | none =>
      have left : answered ((agent, body) :: rest) = answered rest := by
        simp [answered, there]
      rw [left]
      simp only [archiveLoop, there]
      exact inductionHypothesis others
    | some stdout =>
      obtain ⟨hasStderr, hasError⟩ := complete (agent, body) List.mem_cons_self (by simp [there])
      obtain ⟨stderr, isStderr⟩ : ∃ stderr, body.stderr = some stderr :=
        Option.isSome_iff_exists.mp hasStderr
      obtain ⟨error, isError⟩ : ∃ error, body.error = some error :=
        Option.isSome_iff_exists.mp hasError
      have kept : answered ((agent, body) :: rest) = (agent, body) :: answered rest := by
        simp [answered, there]
      rw [kept, lines_some there, lines_some isStderr, lines_some isError]
      simp only [archiveLoop, there, isStderr, isError, getitem, bind, Except.bind,
        inductionHypothesis others]
      simp [String.append_assoc]

/-- If the loop returns, every reply that it looked into was complete. -/
theorem complete_of_archiveLoop {result : ArchiveCombined}
    (returned : archiveLoop combined contacts = .ok result) : AreComplete contacts := by
  induction contacts generalizing combined with
  | nil => exact fun contact listed => absurd listed List.not_mem_nil
  | cons first rest inductionHypothesis =>
    obtain ⟨agent, body⟩ := first
    rw [archiveLoop] at returned
    intro contact listed
    cases there : body.stdout with
    | none =>
      simp only [there] at returned
      rcases List.mem_cons.mp listed with rfl | behind
      · simp [there]
      · exact inductionHypothesis returned contact behind
    | some stdout =>
      cases isStderr : body.stderr with
      | none => simp [there, isStderr, getitem, bind, Except.bind] at returned
      | some stderr =>
        cases isError : body.error with
        | none => simp [there, isStderr, isError, getitem, bind, Except.bind] at returned
        | some error =>
          simp only [there, isStderr, isError, getitem, bind, Except.bind] at returned
          rcases List.mem_cons.mp listed with rfl | behind
          · simp [isStderr, isError]
          · exact inductionHypothesis returned contact behind

/-- Agents of which each has one reply give each text once. -/
theorem onceUnder_of_distinct {key : Key}
    (distinct : (contacts.map fun contact => contact.1.agentid).Nodup) :
    OnceUnder key contacts :=
  distinct.sublist (List.Sublist.map _ List.filter_sublist)

/-- The body of `archive` has the texts of these agents. -/
theorem archive_eq {connected : ConnectedAgents} {reply : Registered → MaintBody}
    (complete : AreComplete (connected.contacts reply)) :
    archive none connected reply = .ok
      ⟨some (lines MaintBody.stdout (answered (connected.contacts reply))),
        some (lines MaintBody.stderr (answered (connected.contacts reply))),
        if (answered (connected.contacts reply)).isEmpty then none
        else some (lines MaintBody.error (answered (connected.contacts reply)))⟩ := by
  simp only [archive, archiveLoop_eq complete, bind, Except.bind, String.empty_append,
    Bool.true_and]
  rfl

/-- If `archive` returns, every reply that it looked into was complete. -/
theorem complete_of_archive {connected : ConnectedAgents} {reply : Registered → MaintBody}
    {body : MaintBody} (returned : archive none connected reply = .ok body) :
    AreComplete (connected.contacts reply) := by
  cases looped : archiveLoop ⟨"", "", "", true⟩ (connected.contacts reply) with
  | error failure =>
    simp only [archive, looped, bind, Except.bind] at returned
    cases returned
  | ok combined => exact complete_of_archiveLoop looped

/-- `archive` is faithful exactly to replies that have all three texts or none. -/
theorem archive_faithful_iff (connected : ConnectedAgents) (reply : Registered → MaintBody) :
    (∃ body, archive none connected reply = .ok body ∧
      IsFaithful (connected.contacts reply) False body) ↔
    ∀ agent ∈ connected.agents, IsWhole (reply agent) := by
  have member {agent : Registered} (listed : agent ∈ connected.agents) :
      (agent, reply agent) ∈ connected.contacts reply := List.mem_map_of_mem listed
  constructor
  · rintro ⟨body, returned, faithful⟩ agent listed
    have complete := complete_of_archive returned
    rw [archive_eq complete] at returned
    cases returned
    cases there : (reply agent).stdout with
    | some stdout =>
      have rest := complete _ (member listed) (by simp [there])
      exact .inl ⟨by simp [there], rest⟩
    | none =>
      have isNone (key : Key) (same : lines key (answered (connected.contacts reply)) =
          lines key (connected.contacts reply)) : key (reply agent) = none := by
        by_contra some
        have kept := kept_of_lines_filter _ same _ (member listed)
          (Option.isSome_iff_ne_none.mpr some)
        simp [there] at kept
      refine .inr ⟨there, isNone _ faithful.stderr, ?_⟩
      by_contra some
      have hasError : HasError (connected.contacts reply) :=
        ⟨_, member listed, Option.isSome_iff_ne_none.mpr some⟩
      have text := faithful.error hasError
      split at text
      · cases text
      · exact some (isNone _ (Option.some.inj text))
  · intro whole
    have wholeContact : ∀ contact ∈ connected.contacts reply, IsWhole contact.2 := by
      intro contact listed
      obtain ⟨agent, among, rfl⟩ := List.mem_map.mp listed
      exact whole agent among
    have complete : AreComplete (connected.contacts reply) := by
      intro contact listed there
      rcases wholeContact contact listed with all | none
      · exact all.2
      · simp [none.1] at there
    have same (key : Key) (stdoutToo : ∀ body, IsWhole body → (key body).isSome = true →
        body.stdout.isSome = true) :
        lines key (answered (connected.contacts reply)) =
          lines key (connected.contacts reply) :=
      lines_filter _ fun contact listed there =>
        stdoutToo contact.2 (wholeContact contact listed) there
    have distinct : ((connected.contacts reply).map fun contact => contact.1.agentid).Nodup := by
      have ids : ((connected.contacts reply).map fun contact => contact.1.agentid) =
          connected.agents.map Registered.agentid := by
        simp [ConnectedAgents.contacts]
      rw [ids]
      exact connected.distinct
    have stdoutLines := same MaintBody.stdout fun _ _ there => there
    have stderrLines := same MaintBody.stderr fun body whole there =>
      whole.elim (fun all => all.1) fun none => by simp [none.2.1] at there
    have errorLines := same MaintBody.error fun body whole there =>
      whole.elim (fun all => all.1) fun none => by simp [none.2.2] at there
    have errors : HasError (connected.contacts reply) ↔
        (answered (connected.contacts reply)).isEmpty = false := by
      rw [List.isEmpty_eq_false_iff_exists_mem]
      constructor
      · rintro ⟨contact, listed, error⟩
        have stdout := (wholeContact contact listed).elim (fun all => all.1) fun none => by
          simp [none.2.2] at error
        exact ⟨contact, List.mem_filter.mpr ⟨listed, stdout⟩⟩
      · rintro ⟨contact, listed⟩
        obtain ⟨among, stdout⟩ := List.mem_filter.mp listed
        exact ⟨contact, among, (complete contact among stdout).2⟩
    refine ⟨_, archive_eq complete, ?_, ?_, ?_, ?_, ?_⟩
    · rw [errors, or_false]
      cases (answered (connected.contacts reply)).isEmpty <;> simp
    · exact stdoutLines
    · exact stderrLines
    · intro hasError
      dsimp only
      rw [errors.mp hasError, if_neg Bool.false_ne_true, errorLines]
    · exact ⟨onceUnder_of_distinct distinct, onceUnder_of_distinct distinct,
        onceUnder_of_distinct distinct⟩

end Archives

/-! ## The maintenance servers -/

/-- The body of a reply. -/
def Answer.body : Answer → MaintBody
  | done stdout stderr => ⟨stdout, stderr, none⟩
  | failed error stdout stderr _ => ⟨stdout, stderr, some error⟩
  | raised _ _ => ⟨none, none, none⟩

/-- The generation of an event raises nothing. -/
def IsCalm : Generation → Prop
  | .skipped => True
  | .raised _ | .incomplete _ => False
  | .generated raises => raises = none

/-- The event of an action that failed or did not fail. -/
def MaintAction.event : MaintAction → Bool → MaintEvent
  | start, true => .startFailed
  | stop, true => .stopFailed
  | start, false => .online
  | stop, false => .offline

section Maintenance

variable {names : HostNames} {exchange : Exchange} {action : MaintAction} {state : Maint}

/-- The agents that an action for some hosts reaches, with their replies. -/
def contacts (names : HostNames) (exchange : Exchange) (agents : List Registered)
    (hosts : List (String × Nat)) : List Contact :=
  hosts.filterMap fun host =>
    (names.gatewayAgent agents (exchange.connected host.2) host.1).map fun agent =>
      (agent, (exchange.answer host.2).body)

/-- What is collected of some agents. -/
def Combined.collect (combined : Combined) (contacts : List Contact) : Combined :=
  contacts.foldl (fun combined contact => combined.add contact.1 contact.2) combined

/-- A request that raises nothing returns the body of the reply. -/
theorem sendMaint_completes {agentid : Nat} {answer : Answer} (quiet : answer.isRaised = false)
    {returned : MaintBody → Maint → Prop} :
    (sendMaint action agentid answer).Completes state returned ↔
      returned answer.body (state.ask action agentid answer) := by
  cases answer with
  | done stdout stderr => exact Iff.rfl
  | failed error stdout stderr runs => exact Iff.rfl
  | raised failure runs => cases quiet

/-- The loop over the hosts collects the replies of the agents that it reaches. -/
theorem foldlM_completes (quiet : ∀ index, (exchange.answer index).isRaised = false)
    (hosts : List (String × Nat)) (combined : Combined) {returned : Combined → Prop} :
    (hosts.foldlM (maintHost names exchange action) combined).Completes state
        (fun result _ => returned result) ↔
      returned (combined.collect (contacts names exchange state.agents hosts)) := by
  induction hosts generalizing state combined with
  | nil => exact Iff.rfl
  | cons host rest inductionHypothesis =>
    rw [List.foldlM_cons, completes_bind]
    unfold maintHost
    rw [completes_bind, completes_get]
    cases found : names.gatewayAgent state.agents (exchange.connected host.2) host.1 with
    | none =>
      have same : contacts names exchange state.agents (host :: rest) =
          contacts names exchange state.agents rest := by
        unfold contacts
        rw [List.filterMap_cons, found]
        rfl
      rw [same]
      exact inductionHypothesis combined
    | some agent =>
      have same : contacts names exchange state.agents (host :: rest) =
          (agent, (exchange.answer host.2).body) :: contacts names exchange state.agents rest := by
        unfold contacts
        rw [List.filterMap_cons, found]
        rfl
      rw [same]
      dsimp only
      rw [completes_bind, sendMaint_completes (quiet host.2), completes_pure]
      exact inductionHypothesis (combined.add agent (exchange.answer host.2).body)

/-- What is collected are the lines of the texts, and whether there was an error or an agent. -/
theorem collect_eq (combined : Combined) (contacts : List Contact) :
    combined.collect contacts =
      { stdout := combined.stdout ++ lines MaintBody.stdout contacts
        stderr := combined.stderr ++ lines MaintBody.stderr contacts
        error := combined.error ++ lines MaintBody.error contacts
        maintSuccess := combined.maintSuccess && contacts.all fun contact =>
          contact.2.error.isNone
        agentConnected := combined.agentConnected.or
          (contacts.head?.map fun contact => contact.1.agentid) } := by
  induction contacts generalizing combined with
  | nil => simp [Combined.collect, lines]
  | cons first rest inductionHypothesis =>
    have next : combined.collect (first :: rest) = (combined.add first.1 first.2).collect rest := rfl
    rw [next, inductionHypothesis, lines_cons, lines_cons, lines_cons]
    simp [Combined.add, String.append_assoc, Bool.and_assoc]

/-- The body of some agents that were reached. -/
def combinedBody (contacts : List Contact) : MaintBody :=
  ⟨some (lines MaintBody.stdout contacts), some (lines MaintBody.stderr contacts),
    if contacts.all fun contact => contact.2.error.isNone then none
    else some (lines MaintBody.error contacts)⟩

/-- An event is told of without an exception if its generation raises nothing. -/
theorem tell_completes {event : MaintEvent} {returned : Prop} :
    (exchange.tell event).Completes state (fun _ _ => returned) ↔
      IsCalm (exchange.gen event) ∧ returned := by
  unfold Exchange.tell
  cases exchange.gen event with
  | skipped => simp [IsCalm]
  | raised failure => simp [IsCalm]
  | incomplete failure => simp [IsCalm]
  | generated raises =>
    rw [completes_bind, completes_modify]
    cases raises with
    | none => simp [IsCalm]
    | some failure => simp [IsCalm]

/-- The event of a body is told of without an exception if its generation raises nothing. -/
theorem sendMaintEvent_completes {body : MaintBody} {returned : Prop} :
    (exchange.sendMaintEvent action body).Completes state (fun _ _ => returned) ↔
      IsCalm (exchange.gen (action.event body.error.isSome)) ∧ returned := by
  unfold Exchange.sendMaintEvent
  rw [completes_ite]
  cases body.error.isSome <;> cases action <;> exact tell_completes

/-- The agents that an action for all gateway hosts reaches, with their replies. -/
def Maint.contacts (names : HostNames) (exchange : Exchange) (state : Maint) : List Contact :=
  Status.contacts names exchange state.agents ((state.gatewayHosts.getD []).zipIdx)

/-- The body of an action: an error where nobody was reached, and else the combined one. -/
def Maint.bodyOf (action : MaintAction) (state : Maint) (contacts : List Contact) : MaintBody :=
  match state.gatewayHosts with
  | none =>
    ⟨none, none, some ("maint " ++ action.word ++ ": No yml entry for 'gateway.hosts'.")⟩
  | some _ =>
    if contacts = [] then ⟨some "", some "", some "No agents are connected."⟩
    else combinedBody contacts

/-- The event about the agents that were reached can be told of. -/
def TellsCalmly (exchange : Exchange) (action : MaintAction) (sendAlert : Bool)
    (contacts : List Contact) : Prop :=
  sendAlert = true → contacts ≠ [] →
    IsCalm (exchange.gen (action.event !(contacts.all fun contact => contact.2.error.isNone)))

/-- The combined body has an error where a reply has one. -/
theorem error_combinedBody (contacts : List Contact) :
    (combinedBody contacts).error.isSome =
      !(contacts.all fun contact => contact.2.error.isNone) := by
  unfold combinedBody
  cases contacts.all fun contact => contact.2.error.isNone <;> rfl

/-- The end of an action returns, unless the event about it raises. -/
theorem maint_end_completes {combined : Combined} {sendAlert : Bool}
    {returned : MaintBody → Prop} :
    (if combined.agentConnected.isNone then
        pure ⟨some combined.stdout, some combined.stderr, some "No agents are connected."⟩
      else do
        updateMaintStatus action combined.body
        if sendAlert then exchange.sendMaintEvent action combined.body
        return combined.body : MaintWork MaintBody).Completes state
        (fun body _ => returned body) ↔
      if combined.agentConnected.isNone then
        returned ⟨some combined.stdout, some combined.stderr, some "No agents are connected."⟩
      else (sendAlert = true → IsCalm (exchange.gen (action.event combined.body.error.isSome))) ∧
        returned combined.body := by
  rw [completes_ite]
  split
  · exact Iff.rfl
  · unfold updateMaintStatus
    rw [completes_bind, completes_modify]
    cases sendAlert with
    | true =>
      rw [if_pos rfl, completes_bind]
      simp only [completes_pure, forall_const]
      exact sendMaintEvent_completes
    | false =>
      rw [if_neg Bool.false_ne_true]
      simp

/-- An action for all gateway hosts whose replies all come returns its body, unless the event about
it raises. -/
theorem maint_completes (quiet : ∀ index, (exchange.answer index).isRaised = false)
    (sendAlert : Bool) {returned : MaintBody → Prop} :
    (maint names exchange action none sendAlert).Completes state (fun body _ => returned body) ↔
      TellsCalmly exchange action sendAlert (state.contacts names exchange) ∧
        returned (state.bodyOf action (state.contacts names exchange)) := by
  unfold maint
  rw [completes_bind, completes_get]
  cases configured : state.gatewayHosts with
  | none =>
    have nobody : state.contacts names exchange = [] := by
      simp [Maint.contacts, Status.contacts, configured]
    rw [nobody]
    simp [TellsCalmly, Maint.bodyOf, configured]
  | some hosts =>
    have reached : state.contacts names exchange =
        contacts names exchange state.agents hosts.zipIdx := by
      simp [Maint.contacts, configured]
    rw [reached]
    dsimp only
    rw [completes_bind]
    simp only [maint_end_completes]
    rw [foldlM_completes quiet, collect_eq]
    cases replies : contacts names exchange state.agents hosts.zipIdx with
    | nil => simp [TellsCalmly, Maint.bodyOf, configured, Combined.empty, lines]
    | cons first rest =>
      have success : Combined.body
          { stdout := Combined.empty.stdout ++ lines MaintBody.stdout (first :: rest)
            stderr := Combined.empty.stderr ++ lines MaintBody.stderr (first :: rest)
            error := Combined.empty.error ++ lines MaintBody.error (first :: rest)
            maintSuccess := Combined.empty.maintSuccess && (first :: rest).all fun contact =>
              contact.2.error.isNone
            agentConnected := Combined.empty.agentConnected.or
              ((first :: rest).head?.map fun contact => contact.1.agentid) } =
          combinedBody (first :: rest) := by
        simp only [Combined.body, combinedBody, Combined.empty, String.empty_append, Bool.true_and]
      rw [success]
      simp [TellsCalmly, Maint.bodyOf, configured, Combined.empty, error_combinedBody]

/-- Every text of the agents is given once. -/
def GivesOnce (contacts : List Contact) : Prop :=
  OnceUnder MaintBody.stdout contacts ∧ OnceUnder MaintBody.stderr contacts ∧
    OnceUnder MaintBody.error contacts

/-- Some reply has an error if not all have none. -/
theorem hasError_iff (contacts : List Contact) :
    HasError contacts ↔ (contacts.all fun contact => contact.2.error.isNone) = false := by
  rw [List.all_eq_false]
  simp [HasError, Option.isSome_iff_ne_none]

/-- The body of an action is faithful exactly if no agent gives a text twice. -/
theorem bodyOf_faithful_iff (state : Maint) :
    IsFaithful (state.contacts names exchange) (state.contacts names exchange = [])
        (state.bodyOf action (state.contacts names exchange)) ↔
      GivesOnce (state.contacts names exchange) := by
  refine ⟨fun faithful => faithful.once, fun once => ?_⟩
  unfold Maint.bodyOf
  cases configured : state.gatewayHosts with
  | none =>
    have nobody : state.contacts names exchange = [] := by
      simp [Maint.contacts, Status.contacts, configured]
    rw [nobody] at once ⊢
    exact ⟨by simp, rfl, rfl, fun ⟨_, listed, _⟩ => absurd listed List.not_mem_nil, once⟩
  | some hosts =>
    dsimp only
    by_cases nobody : state.contacts names exchange = []
    · rw [nobody] at once ⊢
      rw [if_pos rfl]
      exact ⟨by simp, rfl, rfl, fun ⟨_, listed, _⟩ => absurd listed List.not_mem_nil, once⟩
    · rw [if_neg nobody]
      refine ⟨?_, rfl, rfl, fun hasError => ?_, once⟩
      · rw [error_combinedBody, hasError_iff]
        simp [nobody]
      · unfold combinedBody
        rw [(hasError_iff _).mp hasError]
        rfl

/-- `maint` is faithful exactly if no agent gives a text twice and the event can be told of. -/
theorem maint_faithful_iff (quiet : ∀ index, (exchange.answer index).isRaised = false)
    (sendAlert : Bool) :
    (maint names exchange action none sendAlert).Completes state (fun body _ =>
      IsFaithful (state.contacts names exchange) (state.contacts names exchange = []) body) ↔
    GivesOnce (state.contacts names exchange) ∧
      TellsCalmly exchange action sendAlert (state.contacts names exchange) := by
  rw [maint_completes quiet, bodyOf_faithful_iff, and_comm]

/-- The body of the archive servers is faithful exactly if every reply has all three texts or none,
and that of the maintenance servers exactly if no agent gives a text twice and the event can be
told of. -/
theorem combined_bodies_faithful_iff (connected : ConnectedAgents)
    (reply : Registered → MaintBody)
    (quiet : ∀ index, (exchange.answer index).isRaised = false) (sendAlert : Bool) :
    ((∃ body, archive none connected reply = .ok body ∧
        IsFaithful (connected.contacts reply) False body) ↔
      ∀ agent ∈ connected.agents, IsWhole (reply agent)) ∧
    ((maint names exchange action none sendAlert).Completes state (fun body _ =>
        IsFaithful (state.contacts names exchange) (state.contacts names exchange = []) body) ↔
      GivesOnce (state.contacts names exchange) ∧
        TellsCalmly exchange action sendAlert (state.contacts names exchange)) :=
  ⟨archive_faithful_iff connected reply, maint_faithful_iff quiet sendAlert⟩

end Maintenance

/-- A primary that is connected. -/
def onePrimary : Registered := ⟨1, "Tableau Primary", "primary", "10.0.0.1", true, .primary⟩

/-- Maintenance with the primary as the only gateway host. -/
def primaryGateway (hosts : List String) : Maint where
  maintStarted := false
  running _ := false
  gatewayHosts := some hosts
  agents := [onePrimary]
  events := []

/-- The primary is connected and replies without an error. -/
def primaryReplies : Exchange where
  connected _ _ := true
  answer _ := .done (some "started") none
  gen _ := .generated none

/-- With one gateway host and a reply without texts both bodies are faithful. -/
theorem one_primary_faithful :
    (∃ body, archive none ⟨[onePrimary], by decide⟩ (fun _ => ⟨none, none, none⟩) = .ok body ∧
        IsFaithful (ConnectedAgents.contacts ⟨[onePrimary], by decide⟩
          fun _ => ⟨none, none, none⟩) False body) ∧
    (maint plainNames primaryReplies .start none true).Completes (primaryGateway ["localhost"])
      (fun body _ => IsFaithful ((primaryGateway ["localhost"]).contacts plainNames primaryReplies)
        ((primaryGateway ["localhost"]).contacts plainNames primaryReplies = []) body) := by
  have both := @combined_bodies_faithful_iff plainNames primaryReplies .start
    (primaryGateway ["localhost"]) ⟨[onePrimary], by decide⟩ (fun _ => ⟨none, none, none⟩)
    (fun _ => rfl) true
  have reached : (primaryGateway ["localhost"]).contacts plainNames primaryReplies =
      [(onePrimary, ⟨some "started", none, none⟩)] := by decide +kernel
  refine ⟨both.1.mpr fun _ _ => .inr ⟨rfl, rfl, rfl⟩, both.2.mpr ⟨?_, fun _ _ => rfl⟩⟩
  rw [reached]
  refine ⟨?_, ?_, ?_⟩ <;> unfold OnceUnder <;> decide

/-- An error without other texts is lost, and an output without the other texts raises. A host that
is listed under two names gives its texts twice. -/
theorem error_lost_and_text_doubled :
    (¬ ∃ body, archive none ⟨[onePrimary], by decide⟩ (fun _ => ⟨none, none, some "failed"⟩) =
        .ok body ∧ IsFaithful (ConnectedAgents.contacts ⟨[onePrimary], by decide⟩
          fun _ => ⟨none, none, some "failed"⟩) False body) ∧
    (¬ ∃ body, archive none ⟨[onePrimary], by decide⟩ (fun _ => ⟨some "done", none, none⟩) =
        .ok body ∧ IsFaithful (ConnectedAgents.contacts ⟨[onePrimary], by decide⟩
          fun _ => ⟨some "done", none, none⟩) False body) ∧
    ¬ (maint plainNames primaryReplies .start none true).Completes
        (primaryGateway ["localhost", "127.0.0.1"]) (fun body _ => IsFaithful
          ((primaryGateway ["localhost", "127.0.0.1"]).contacts plainNames primaryReplies)
          ((primaryGateway ["localhost", "127.0.0.1"]).contacts plainNames primaryReplies = [])
          body) := by
  refine ⟨?_, ?_, ?_⟩
  · rintro ⟨body, returned, faithful⟩
    cases returned
    have failed := faithful.failed.mpr (.inl ⟨_, List.mem_cons_self, rfl⟩)
    cases failed
  · rintro ⟨body, returned, -⟩
    cases returned
  · intro completes
    have once := ((maint_faithful_iff (fun _ => rfl) true).mp completes).1.1
    have reached : (primaryGateway ["localhost", "127.0.0.1"]).contacts plainNames primaryReplies =
        [(onePrimary, ⟨some "started", none, none⟩), (onePrimary, ⟨some "started", none, none⟩)] := by
      decide +kernel
    rw [reached, OnceUnder] at once
    revert once
    decide

end Palette.Status
