import Palette.Status.Maintenance

/-!
# When the flag covers the servers

The flag is meant to be set whenever a maintenance server runs on a gateway agent. One answer
of an agent that fails clears it at a start, whatever the other agents answered, and one that
succeeds clears it at the stop of a single agent, whatever runs on the others. What every step
does to the flag is computed from the answers, and from that it follows exactly which steps keep
the servers covered.
-/

namespace Palette.Status

open Palette.Commands (Failure)
open Palette.Foundation Script

/-! ## Requests -/

namespace Answer

/-- An agent did what it was asked to do. -/
def isDone : Answer → Bool
  | done _ _ => true
  | _ => false

/-- A request ended with an exception. -/
def isRaised : Answer → Bool
  | raised _ _ => true
  | _ => false

end Answer

/-- The requests of an action with their answers, one for each host with a connected agent. -/
def requests (names : HostNames) (exchange : Exchange) (agents : List Registered)
    (hosts : List (String × Nat)) : List (Nat × Answer) :=
  hosts.filterMap fun host =>
    (names.gatewayAgent agents (exchange.connected host.2) host.1).map fun agent =>
      (agent.agentid, exchange.answer host.2)

/-- The requests that are made: none after an exception. -/
def made : List (Nat × Answer) → List (Nat × Answer)
  | [] => []
  | request :: rest => if request.2.isRaised then [request] else request :: made rest

/-- The state after some requests. -/
def asked (action : MaintAction) (state : Maint) (answers : List (Nat × Answer)) : Maint :=
  answers.foldl (fun state request => state.ask action request.1 request.2) state

/-- The flag after some requests. An exception leaves it as it is, and so does an action that
finds no agent. -/
def flagAfter (action : MaintAction) (before : Bool) (answers : List (Nat × Answer)) : Bool :=
  if answers.any fun request => request.2.isRaised then before
  else if answers = [] then before
  else match action with
    | .start => answers.all fun request => request.2.isDone
    | .stop => !answers.all fun request => request.2.isDone

section Requests

variable {names : HostNames} {exchange : Exchange} {action : MaintAction} {state : Maint}

/-- Requests change which servers run, and nothing else. -/
theorem asked_eq (answers : List (Nat × Answer)) :
    asked action state answers = { state with running := (asked action state answers).running } := by
  induction answers generalizing state with
  | nil => rfl
  | cons request rest inductionHypothesis =>
    exact @inductionHypothesis (state.ask action request.1 request.2)

/-- A server that was not asked for runs if it ran before. -/
theorem asked_running_of_not_mem {answers : List (Nat × Answer)} {agentid : Nat}
    (absent : agentid ∉ answers.map Prod.fst) :
    (asked action state answers).running agentid = state.running agentid := by
  induction answers generalizing state with
  | nil => rfl
  | cons request rest inductionHypothesis =>
    rw [List.map_cons, List.mem_cons, not_or] at absent
    exact (@inductionHypothesis (state.ask action request.1 request.2) absent.2).trans
      (Function.update_of_ne absent.1 ..)

/-- Agents that did what they were asked to do run their servers if it was a start. -/
theorem asked_running_of_mem {answers : List (Nat × Answer)} {agentid : Nat}
    (done : ∀ request ∈ answers, request.2.isDone = true)
    (asks : agentid ∈ answers.map Prod.fst) :
    (asked action state answers).running agentid = decide (action = .start) := by
  induction answers generalizing state with
  | nil => cases asks
  | cons request rest inductionHypothesis =>
    have restDone : ∀ other ∈ rest, other.2.isDone = true := fun other listed =>
      done other (List.mem_cons_of_mem _ listed)
    by_cases later : agentid ∈ rest.map Prod.fst
    · exact @inductionHypothesis (state.ask action request.1 request.2) restDone later
    · have first : agentid = request.1 := (List.mem_cons.mp asks).resolve_right later
      have answered : request.2.runs action = decide (action = .start) := by
        have first := done request List.mem_cons_self
        cases answer : request.2 with
        | done _ _ => rfl
        | failed _ _ _ _ => rw [answer] at first; cases first
        | raised _ _ => rw [answer] at first; cases first
      have after : (asked action (state.ask action request.1 request.2) rest).running agentid =
          (state.ask action request.1 request.2).running agentid := asked_running_of_not_mem later
      refine after.trans ?_
      rw [first]
      exact (Function.update_self ..).trans answered

/-- All requests are made where none raises. -/
theorem made_eq {answers : List (Nat × Answer)}
    (quiet : ∀ request ∈ answers, request.2.isRaised = false) : made answers = answers := by
  induction answers with
  | nil => rfl
  | cons request rest inductionHypothesis =>
    rw [made, quiet request List.mem_cons_self,
      inductionHypothesis fun other listed => quiet other (List.mem_cons_of_mem _ listed)]
    rfl

/-- A request for an agent asks it, and returns what it answered. -/
theorem sendMaint_ends (agentid : Nat) (answer : Answer) :
    (sendMaint action agentid answer).Ends state
      (fun body final => final = state.ask action agentid answer ∧ answer.isRaised = false ∧
        body.error.isNone = answer.isDone)
      fun _ final => final = state.ask action agentid answer ∧ answer.isRaised = true := by
  unfold sendMaint
  rw [ends_bind, ends_modify]
  cases answer with
  | done stdout stderr => exact ⟨rfl, rfl, rfl⟩
  | failed error stdout stderr runs => exact ⟨rfl, rfl, rfl⟩
  | raised failure runs => exact ⟨rfl, rfl⟩

/-- The loop makes the requests of the hosts, up to the first exception. -/
theorem foldlM_ends (hosts : List (String × Nat)) (combined : Combined) :
    (hosts.foldlM (maintHost names exchange action) combined).Ends state
      (fun result final =>
        (∀ request ∈ requests names exchange state.agents hosts, request.2.isRaised = false) ∧
        final = asked action state (requests names exchange state.agents hosts) ∧
        result.maintSuccess = (combined.maintSuccess &&
          (requests names exchange state.agents hosts).all fun request => request.2.isDone) ∧
        (result.agentConnected = none ↔
          combined.agentConnected = none ∧ requests names exchange state.agents hosts = []))
      fun _ final =>
        (∃ request ∈ requests names exchange state.agents hosts, request.2.isRaised = true) ∧
        final = asked action state (made (requests names exchange state.agents hosts)) := by
  induction hosts generalizing state combined with
  | nil =>
    refine ⟨fun _ listed => absurd listed List.not_mem_nil, rfl, ?_, ?_⟩
    · exact (Bool.and_true _).symm
    · exact ⟨fun nothing => ⟨nothing, rfl⟩, And.left⟩
  | cons host rest inductionHypothesis =>
    rw [List.foldlM_cons, ends_bind]
    unfold maintHost
    rw [ends_bind, ends_get]
    cases found : names.gatewayAgent state.agents (exchange.connected host.2) host.1 with
    | none =>
      have same : requests names exchange state.agents (host :: rest) =
          requests names exchange state.agents rest := by
        unfold requests
        rw [List.filterMap_cons, found]
        rfl
      rw [same]
      exact inductionHypothesis combined
    | some agent =>
      have same : requests names exchange state.agents (host :: rest) =
          (agent.agentid, exchange.answer host.2) :: requests names exchange state.agents rest := by
        unfold requests
        rw [List.filterMap_cons, found]
        rfl
      rw [same]
      dsimp only
      rw [ends_bind]
      refine (sendMaint_ends agent.agentid (exchange.answer host.2)).mono ?_ ?_
      · rintro body _ ⟨rfl, quiet, success⟩
        rw [ends_pure]
        refine (@inductionHypothesis (state.ask action agent.agentid (exchange.answer host.2))
          (combined.add agent body)).mono ?_ ?_
        · rintro result final ⟨restQuiet, rfl, allDone, connected⟩
          refine ⟨?_, rfl, ?_, ?_⟩
          · intro request listed
            rcases List.mem_cons.mp listed with rfl | later
            · exact quiet
            · exact restQuiet request later
          · rw [allDone, List.all_cons]
            unfold Combined.add
            dsimp only
            rw [success, Bool.and_assoc]
            rfl
          · refine iff_of_false (fun nothing => ?_) fun nothing => by cases nothing.2
            have none := (connected.mp nothing).1
            unfold Combined.add at none
            simp at none
        · rintro failure final ⟨⟨request, listed, raised⟩, rfl⟩
          refine ⟨⟨request, List.mem_cons_of_mem _ listed, raised⟩, ?_⟩
          rw [made, if_neg (by rw [quiet]; exact Bool.false_ne_true)]
          rfl
      · rintro failure _ ⟨rfl, raised⟩
        refine ⟨⟨_, List.mem_cons_self, raised⟩, ?_⟩
        rw [made, if_pos raised]
        rfl

end Requests

/-! ## The flag -/

/-- The requests for all gateway agents. -/
def Maint.gatewayRequests (names : HostNames) (exchange : Exchange) (state : Maint) :
    List (Nat × Answer) :=
  requests names exchange state.agents ((state.gatewayHosts.getD []).zipIdx)

/-- A state with the flag and the servers as they are in another one, and with its
configuration. -/
structure Matches (final expected : Maint) : Prop where
  flag : final.maintStarted = expected.maintStarted
  running : final.running = expected.running
  hosts : final.gatewayHosts = expected.gatewayHosts
  agents : final.agents = expected.agents

section Flag

variable {names : HostNames} {exchange : Exchange} {action : MaintAction} {state expected : Maint}

/-- What holds however a script ends holds of the state after it. -/
theorem matches_after {Value : Type} {work : MaintWork Value}
    (ends : work.Ends state (fun _ final => Matches final expected)
      fun _ final => Matches final expected) : Matches (state.after work) expected :=
  (@ends_state _ _ _ state work fun final => Matches final expected).mp ends

/-- Events do not touch the flag. -/
theorem tell_ends (event : MaintEvent) (same : Matches state expected) :
    (exchange.tell event).Ends state (fun _ final => Matches final expected)
      fun _ final => Matches final expected := by
  unfold Exchange.tell
  cases exchange.gen event with
  | skipped => exact same
  | raised failure => exact same
  | incomplete failure => exact same
  | generated raises =>
    rw [ends_bind, ends_modify]
    cases raises with
    | none => exact ⟨same.flag, same.running, same.hosts, same.agents⟩
    | some failure => exact ⟨same.flag, same.running, same.hosts, same.agents⟩

/-- The event of an action does not touch the flag. -/
theorem sendMaintEvent_ends (body : MaintBody) (same : Matches state expected) :
    (exchange.sendMaintEvent action body).Ends state (fun _ final => Matches final expected)
      fun _ final => Matches final expected := by
  unfold Exchange.sendMaintEvent
  rw [ends_ite]
  split <;> cases action <;> exact tell_ends _ same

/-- The end of an action sets the flag by the body, and then tells of it if it has to. -/
theorem updateMaintStatus_ends (body : MaintBody) (sendAlert : Bool)
    (same : Matches { state with maintStarted := match action with
      | .start => body.error.isNone
      | .stop => body.error.isSome } expected) :
    (do
      updateMaintStatus action body
      if sendAlert then exchange.sendMaintEvent action body
      return body : MaintWork MaintBody).Ends state (fun _ final => Matches final expected)
      fun _ final => Matches final expected := by
  unfold updateMaintStatus
  rw [ends_bind, ends_modify]
  split
  · rw [ends_bind]
    exact (sendMaintEvent_ends body same).mono (fun _ _ kept => kept) fun _ _ kept => kept
  · exact same

/-- The state after an action for all gateway agents: they were asked, and the flag is that of
their answers. -/
def Maint.acted (names : HostNames) (exchange : Exchange) (action : MaintAction) (state : Maint) :
    Maint :=
  { asked action state (made (state.gatewayRequests names exchange)) with
    maintStarted := flagAfter action state.maintStarted (state.gatewayRequests names exchange) }

/-- The state after an agent was asked alone to stop its server. -/
def Maint.stopped (state : Maint) (agentid : Nat) (answer : Answer) : Maint :=
  if state.gatewayHosts = none then state
  else
    { state.ask .stop agentid answer with
      maintStarted := match answer with
        | .done _ _ => false
        | .failed _ _ _ _ => true
        | .raised _ _ => state.maintStarted }

/-- An action for all gateway agents makes their requests and sets the flag by the answers. -/
theorem maint_ends (sendAlert : Bool) :
    (maint names exchange action none sendAlert).Ends state
      (fun _ final => Matches final (state.acted names exchange action))
      fun _ final => Matches final (state.acted names exchange action) := by
  unfold Maint.acted
  unfold maint
  rw [ends_bind, ends_get]
  cases configured : state.gatewayHosts with
  | none =>
    have nothing : state.gatewayRequests names exchange = [] := by
      unfold Maint.gatewayRequests
      rw [configured]
      rfl
    rw [nothing]
    exact ⟨rfl, rfl, rfl, rfl⟩
  | some hosts =>
    have same : state.gatewayRequests names exchange =
        requests names exchange state.agents hosts.zipIdx := by
      unfold Maint.gatewayRequests
      rw [configured]
      rfl
    rw [same]
    dsimp only
    rw [ends_bind]
    generalize listed : requests names exchange state.agents hosts.zipIdx = answers
    refine (foldlM_ends hosts.zipIdx Combined.empty).mono ?_ ?_
    · rintro combined final ⟨quiet, rfl, success, connected⟩
      rw [listed] at quiet success connected ⊢
      have noRaise : (answers.any fun request => request.2.isRaised) = false := by
        rw [List.any_eq_false]
        exact fun request member => by rw [quiet request member]; exact Bool.false_ne_true
      rw [made_eq quiet]
      unfold flagAfter
      rw [noRaise]
      split
      · next nobody =>
        have empty := (connected.mp (Option.isNone_iff_eq_none.mp nobody)).2
        rw [empty]
        exact ⟨rfl, rfl, rfl, rfl⟩
      · next somebody =>
        have asks : answers ≠ [] := fun empty =>
          somebody (Option.isNone_iff_eq_none.mpr (connected.mpr ⟨rfl, empty⟩))
        have body : combined.body.error.isNone = answers.all fun request => request.2.isDone := by
          unfold Combined.body
          rw [success]
          cases answers.all fun request => request.2.isDone <;> rfl
        refine updateMaintStatus_ends combined.body sendAlert ⟨?_, rfl, ?_, ?_⟩
        · rw [if_neg Bool.false_ne_true, if_neg asks]
          cases action with
          | start => exact body
          | stop =>
            have other : combined.body.error.isSome = !combined.body.error.isNone := by
              cases combined.body.error <;> rfl
            exact other.trans (congrArg _ body)
        · rw [asked_eq]
        · rw [asked_eq]
    · rintro failure final ⟨⟨request, member, raised⟩, rfl⟩
      rw [listed] at member ⊢
      have some : (answers.any fun request => request.2.isRaised) = true :=
        List.any_eq_true.mpr ⟨request, member, raised⟩
      unfold flagAfter
      rw [some, if_pos rfl]
      refine ⟨?_, rfl, ?_, ?_⟩ <;> rw [asked_eq]

/-- The stop for a single agent asks that agent and sets the flag by its answer. -/
theorem maint_one_ends (agentid : Nat) :
    (maint names exchange .stop (some agentid) false).Ends state
      (fun _ final => Matches final (state.stopped agentid (exchange.answer 0)))
      fun _ final => Matches final (state.stopped agentid (exchange.answer 0)) := by
  unfold maint Maint.stopped
  rw [ends_bind, ends_get]
  cases configured : state.gatewayHosts with
  | none => exact ⟨rfl, rfl, rfl, rfl⟩
  | some hosts =>
    rw [if_neg (fun none => by cases none)]
    unfold sendMaint
    cases exchange.answer 0 with
    | done stdout stderr => exact ⟨rfl, rfl, rfl, rfl⟩
    | failed error stdout stderr runs => exact ⟨rfl, rfl, rfl, rfl⟩
    | raised failure runs => exact ⟨rfl, rfl, rfl, rfl⟩

end Flag

/-! ## Covered servers -/

/-- An agent is one of the gateway hosts: the primary itself, or the only agent of a host. -/
def IsGateway (names : HostNames) (state : Maint) (agentid : Nat) : Prop :=
  ∃ host ∈ state.gatewayHosts.getD [],
    if HostNames.isLocal host then
      ∃ agent ∈ state.agents, agent.agentid = agentid ∧ agent.enabled = true ∧
        agent.agentType = .primary
    else names.agentidFromHost state.agents host = some agentid

/-- Whenever a maintenance server runs on a gateway agent, the flag is set. -/
def Covered (names : HostNames) (state : Maint) : Prop :=
  ∀ agentid, IsGateway names state agentid → state.running agentid = true →
    state.maintStarted = true

/-- No maintenance server runs on a gateway agent. -/
def Idle (names : HostNames) (state : Maint) : Prop :=
  ∀ agentid, IsGateway names state agentid → state.running agentid = false

/-- The answers of the gateway agents to an action are such that their servers are covered. If an
agent fails to start, no server may run; if all of them stop, those that run must be among them;
and after an exception the flag must be set or no server may run. -/
def Shelters (names : HostNames) (exchange : Exchange) (action : MaintAction) (state : Maint) :
    Prop :=
  let answers := state.gatewayRequests names exchange
  if answers.any fun request => request.2.isRaised then
    state.maintStarted = true ∨ Idle names (asked action state (made answers))
  else answers = [] ∨ match action with
    | .start => (∀ request ∈ answers, request.2.isDone = true) ∨
        Idle names (asked action state answers)
    | .stop => (∃ request ∈ answers, request.2.isDone = false) ∨
        ∀ agentid, IsGateway names state agentid → state.running agentid = true →
          agentid ∈ answers.map Prod.fst

/-- The answer of a single agent to a stop is such that the servers are covered: if it stops, no
server of another gateway agent may run. -/
def SheltersStop (names : HostNames) (state : Maint) (agentid : Nat) : Answer → Prop
  | .done _ _ => ∀ other, IsGateway names state other → other ≠ agentid →
      state.running other = false
  | .failed _ _ _ _ => True
  | .raised failure runs => state.maintStarted = true ∨
      Idle names (state.ask .stop agentid (.raised failure runs))

/-- A step leaves the servers covered. A new configuration may make no agent a gateway agent whose
server runs without the flag. -/
def MaintStep.Shelters (names : HostNames) (state : Maint) : MaintStep → Prop
  | .maint action exchange => Status.Shelters names exchange action state
  | .start exchange | .upgrade exchange =>
    state.maintStarted = true → Status.Shelters names exchange .stop state
  | .stop exchange => Status.Shelters names exchange .start state
  | .status before82 prevState reported exchange =>
    (∃ info ∈ newStateInfo before82 prevState reported, info.maintStop = true) →
      state.maintStarted = true → Status.Shelters names exchange .stop state
  | .connects agent exchange =>
    (agent.agentType = .primary ∨ agent.agentType = .worker) → state.gatewayHosts ≠ none →
      SheltersStop names state agent.agentid (exchange.answer 0)
  | .configure gatewayHosts agents => state.maintStarted = true ∨
      Idle names { state with gatewayHosts := gatewayHosts, agents := agents }

section Cover

variable {names : HostNames} {exchange : Exchange} {action : MaintAction} {state expected : Maint}

/-- Covered are states that agree in the flag, the servers and the configuration. -/
theorem Matches.covered_iff {final : Maint} (same : Matches final expected) :
    Covered names final ↔ Covered names expected := by
  unfold Covered IsGateway
  rw [same.flag, same.running, same.hosts, same.agents]

/-- Gateway agents are the same after some requests. -/
theorem isGateway_asked (answers : List (Nat × Answer)) (agentid : Nat) :
    IsGateway names (asked action state answers) agentid ↔ IsGateway names state agentid := by
  rw [asked_eq]
  rfl

/-- The servers are covered by a flag that is set, or none of them runs. -/
theorem covered_flag (flag : Bool) :
    Covered names { state with maintStarted := flag } ↔ flag = true ∨ Idle names state := by
  constructor
  · intro covered
    cases flag with
    | true => exact .inl rfl
    | false =>
      refine .inr fun agentid gateway => Bool.eq_false_iff.mpr fun runs => ?_
      cases covered agentid gateway runs
  · rintro (set | idle) agentid gateway runs
    · exact set
    · rw [idle agentid gateway] at runs
      cases runs

/-- After agents stopped their servers, none runs if and only if those that ran were asked. -/
theorem idle_stopped {answers : List (Nat × Answer)}
    (done : ∀ request ∈ answers, request.2.isDone = true) :
    Idle names (asked .stop state answers) ↔
      ∀ agentid, IsGateway names state agentid → state.running agentid = true →
        agentid ∈ answers.map Prod.fst := by
  constructor
  · intro idle agentid gateway runs
    by_contra absent
    have off := idle agentid ((isGateway_asked answers agentid).mpr gateway)
    rw [asked_running_of_not_mem absent, runs] at off
    cases off
  · intro asks agentid gateway
    by_cases listed : agentid ∈ answers.map Prod.fst
    · exact asked_running_of_mem done listed
    · rw [asked_running_of_not_mem listed]
      refine Bool.eq_false_iff.mpr fun runs => listed ?_
      exact asks agentid ((isGateway_asked answers agentid).mp gateway) runs

/-- An action for all gateway agents leaves the servers covered if and only if the answers are
such. -/
theorem covered_maint_iff (covered : Covered names state) (sendAlert : Bool) :
    Covered names (state.after (maint names exchange action none sendAlert)) ↔
      Shelters names exchange action state := by
  rw [(matches_after (maint_ends sendAlert)).covered_iff, Maint.acted, covered_flag]
  unfold Shelters flagAfter
  generalize state.gatewayRequests names exchange = answers
  dsimp only
  split
  · exact Iff.rfl
  · next quiet =>
    have noRaise : ∀ request ∈ answers, request.2.isRaised = false := fun request listed =>
      Bool.eq_false_iff.mpr fun raised => quiet (List.any_eq_true.mpr ⟨request, listed, raised⟩)
    rw [made_eq noRaise]
    split
    · next empty =>
      refine iff_of_true ?_ (.inl empty)
      rw [empty]
      exact (covered_flag state.maintStarted).mp covered
    · next asks =>
      rw [or_iff_right asks]
      cases action with
      | start =>
        dsimp only
        rw [List.all_eq_true]
      | stop =>
        dsimp only
        by_cases done : ∀ request ∈ answers, request.2.isDone = true
        · rw [idle_stopped done, List.all_eq_true.mpr done]
          refine or_congr_left (iff_of_false (fun same => by cases same) ?_)
          rintro ⟨request, listed, failed⟩
          rw [done request listed] at failed
          cases failed
        · refine iff_of_true (.inl ?_) (.inl ?_)
          · rw [Bool.not_eq_true', Bool.eq_false_iff]
            exact fun all => done (List.all_eq_true.mp all)
          · by_contra none
            refine done fun request listed => ?_
            by_contra failed
            exact none ⟨request, listed, Bool.eq_false_iff.mpr failed⟩

/-- The stop of a started maintenance server. -/
theorem covered_stopStarted_iff (covered : Covered names state) (sendAlert : Bool) :
    Covered names (state.after (stopStarted names exchange sendAlert)) ↔
      (state.maintStarted = true → Shelters names exchange .stop state) := by
  have same : state.after (stopStarted names exchange sendAlert) =
      if state.maintStarted then state.after (maint names exchange .stop none sendAlert)
      else state := by
    have ends : (stopStarted names exchange sendAlert).Ends state
        (fun _ final => final = if state.maintStarted then
          state.after (maint names exchange .stop none sendAlert) else state)
        fun _ final => final = if state.maintStarted then
          state.after (maint names exchange .stop none sendAlert) else state := by
      unfold stopStarted
      rw [ends_bind, ends_get, ends_ite]
      split
      · rw [ends_bind]
        exact (ends_state _).mpr rfl
      · rfl
    exact (ends_state _).mp ends
  rw [same]
  split
  · next started =>
    rw [covered_maint_iff covered]
    exact ⟨fun shelters _ => shelters, fun shelters => shelters started⟩
  · next stopped => exact iff_of_true covered fun started => absurd started stopped

/-- The stop of the server of an agent that connects. -/
theorem covered_connects_iff (covered : Covered names state) (agent : Registered) :
    Covered names (state.after (configServers names exchange agent)) ↔
      ((agent.agentType = .primary ∨ agent.agentType = .worker) → state.gatewayHosts ≠ none →
        SheltersStop names state agent.agentid (exchange.answer 0)) := by
  by_cases applies : agent.agentType = .primary ∨ agent.agentType = .worker
  · have ends : (configServers names exchange agent).Ends state
        (fun _ final => Matches final (state.stopped agent.agentid (exchange.answer 0)))
        fun _ final => Matches final (state.stopped agent.agentid (exchange.answer 0)) := by
      unfold configServers
      rw [if_pos applies, ends_bind]
      refine (maint_one_ends agent.agentid).mono (fun body final same => ?_) fun _ _ same => same
      rw [ends_ite]
      split
      · exact tell_ends _ same
      · exact same
    rw [(matches_after ends).covered_iff]
    unfold Maint.stopped
    split
    · next unconfigured => exact iff_of_true covered fun _ configured => absurd unconfigured configured
    · next configured =>
      rw [covered_flag]
      cases exchange.answer 0 with
      | done stdout stderr =>
        rw [or_iff_right (fun set => by cases set)]
        constructor
        · intro idle _ _ other gateway apart
          exact (Function.update_of_ne apart ..).symm.trans (idle other gateway)
        · intro others other gateway
          by_cases same : other = agent.agentid
          · subst same
            exact Function.update_self ..
          · exact (Function.update_of_ne same ..).trans (others applies configured other gateway same)
      | failed error stdout stderr runs => exact iff_of_true (.inl rfl) fun _ _ => trivial
      | raised failure runs => exact ⟨fun kept _ _ => kept, fun kept => kept applies configured⟩
  · have same : state.after (configServers names exchange agent) = state := by
      unfold Maint.after configServers
      rw [if_neg applies]
      rfl
    rw [same]
    exact iff_of_true covered fun other => absurd other applies

/-- A report of a running Tableau. -/
theorem covered_status_iff (covered : Covered names state) (before82 : Bool) (prevState : MainState)
    (status : TableauStatus) :
    Covered names (state.after (setMainStateMaint names exchange before82 prevState status)) ↔
      ((∃ info ∈ newStateInfo before82 prevState status, info.maintStop = true) →
        state.maintStarted = true → Shelters names exchange .stop state) := by
  unfold setMainStateMaint
  cases found : newStateInfo before82 prevState status with
  | none => exact iff_of_true covered fun ⟨info, listed, _⟩ => by cases listed
  | some info =>
    dsimp only
    split
    · next stops =>
      rw [covered_stopStarted_iff covered]
      exact ⟨fun shelters _ => shelters, fun shelters => shelters ⟨info, rfl, stops⟩⟩
    · next goes =>
      refine iff_of_true covered fun ⟨other, listed, stops⟩ => absurd ?_ goes
      cases listed
      exact stops

/-- A step leaves covered servers covered if and only if it shelters them. -/
theorem covered_next_iff (covered : Covered names state) (step : MaintStep) :
    Covered names (state.next names step) ↔ step.Shelters names state := by
  cases step with
  | maint action exchange => exact covered_maint_iff covered true
  | start exchange => exact covered_stopStarted_iff covered true
  | stop exchange => exact covered_maint_iff covered true
  | upgrade exchange => exact covered_stopStarted_iff covered false
  | status before82 prevState status exchange =>
    exact covered_status_iff covered before82 prevState status
  | connects agent exchange => exact covered_connects_iff covered agent
  | configure gatewayHosts agents =>
    exact @covered_flag names { state with gatewayHosts := gatewayHosts, agents := agents }
      state.maintStarted

end Cover

/-! ## Runs -/

open Classical in
/-- The runs whose steps all shelter the servers. -/
noncomputable def shelteringMachine (names : HostNames) : Machine Maint MaintStep :=
  (maintMachine names).restrict fun state step => step.Shelters names state

/-- The flag covers the servers throughout a run if and only if every step of it shelters them. -/
theorem maint_started_iff {names : HostNames} {start final : Maint} {steps : List MaintStep}
    (initial : (maintMachine names).initial start)
    (reached : (maintMachine names).run start steps = some final) :
    (∀ earlier middle, earlier <+: steps → (maintMachine names).run start earlier = some middle →
      Covered names middle) ↔ (shelteringMachine names).run start steps = some final := by
  classical
  refine Machine.run_restrict_iff (fun state step next covered stepped => ?_) ?_ reached
  · cases stepped
    exact covered_next_iff covered step
  · intro agentid _ runs
    rw [initial.2 agentid] at runs
    cases runs

/-! ## A start that fails on one of two agents -/

/-- Names without addresses. -/
def plainNames : HostNames := ⟨fun _ => false, id⟩

/-- A primary and a worker that are both gateways. -/
def twoGateways : Maint where
  maintStarted := false
  running _ := false
  gatewayHosts := some ["localhost", "worker"]
  agents := [⟨1, "Primary", "tableau", "10.0.0.1", true, .primary⟩,
    ⟨2, "Worker", "worker", "10.0.0.2", true, .worker⟩]
  events := []

/-- Both agents are connected; the worker gives an answer. -/
def workerAnswers (answer : Answer) : Exchange where
  connected _ _ := true
  answer turn := if turn = 1 then answer else .done none none
  gen _ := .generated none

/-- The servers are started on the primary but not on the worker. -/
def halfStarted : Maint :=
  twoGateways.next plainNames (.maint .start (workerAnswers (.failed "port in use" none none false)))

/-- The flag is cleared while the server of the primary runs. -/
theorem halfStarted_uncovered :
    ¬ ∀ (names : HostNames) (state : Maint), (maintMachine names).Reachable state →
      Covered names state := by
  intro always
  have reachable : (maintMachine plainNames).Reachable halfStarted :=
    ⟨twoGateways, [.maint .start (workerAnswers (.failed "port in use" none none false))],
      ⟨rfl, fun _ => rfl⟩, rfl⟩
  have hosts : halfStarted.gatewayHosts = some ["localhost", "worker"] := by decide +kernel
  have agents : halfStarted.agents = twoGateways.agents := by decide +kernel
  have gateway : IsGateway plainNames halfStarted 1 := by
    refine ⟨"localhost", ?_, ?_⟩
    · rw [hosts]
      exact List.mem_cons_self
    · rw [if_pos (by decide), agents]
      exact ⟨_, List.mem_cons_self, rfl, rfl, rfl⟩
  have runs : halfStarted.running 1 = true := by decide +kernel
  have cleared : halfStarted.maintStarted = false := by decide +kernel
  have started := always plainNames halfStarted reachable 1 gateway runs
  rw [cleared] at started
  cases started

/-- The servers are started on both agents. -/
def bothStarted : Maint := twoGateways.next plainNames (.maint .start (workerAnswers (.done none none)))

/-- A start of both servers is covered if it shelters them. -/
theorem bothStarted_iff :
    bothStarted.maintStarted = true ∧
      ((∀ earlier middle, earlier <+: [MaintStep.maint .start (workerAnswers (.done none none))] →
        (maintMachine plainNames).run twoGateways earlier = some middle →
          Covered plainNames middle) ↔
        (shelteringMachine plainNames).run twoGateways
          [.maint .start (workerAnswers (.done none none))] = some bothStarted) :=
  ⟨by decide +kernel, maint_started_iff ⟨rfl, fun _ => rfl⟩ rfl⟩

end Palette.Status
