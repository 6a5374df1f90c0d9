import Mathlib.Data.List.ReduceOption
import Palette.Agents.Manager

/-!
# Looking an agent up

Two functions of the manager look a connected and enabled agent up by the id of its row. The
first one walks over the agents themselves and returns its loop variable after the last pass,
so it returns the last agent where none has the id. The second one walks over the keys and reads
the agents again from the dictionary, which may have changed by then.

Before that, both collect the enabled agents. An agent whose row is gone is meant to be left out
with a message, but the missing row is handed to the mapper first, which raises.
-/

namespace Palette.Agents

open Palette.Foundation

universe u

namespace Manager

variable {Uuid : Type u}

/-! ## The enabled agents -/

/-- The pass of `all_agents` for a key: the agent, if it is enabled. -/
def enabledAgent (manager : Manager Uuid) (key : Nat) : Except Failure (Option (Agent Uuid)) :=
  match manager.agents.lookup key with
  | none => .ok none
  | some agent =>
    match manager.rows agent.uuid with
    | none => .error .missingRow
    | some row => .ok (if row.enabled then some agent else none)

/-- The passes of `all_agents` for some keys. -/
def enabledAgents (manager : Manager Uuid) : List Nat → Except Failure (List (Agent Uuid))
  | [] => .ok []
  | key :: keys => do
    let agent ← manager.enabledAgent key
    let agents ← manager.enabledAgents keys
    return agent.toList ++ agents

/-- `all_agents`. -/
def allAgents (manager : Manager Uuid) : Except Failure (List (Agent Uuid)) :=
  manager.enabledAgents (manager.agents.entries.map Agent.connId)

/-! ## The lookups -/

section Lookups

variable (agentidOf : Uuid → Nat)

/-- The loop of `agent_by_agentid` with its variable. -/
def walk (agentid : Nat) : Option (Agent Uuid) → List (Agent Uuid) → Option (Agent Uuid)
  | loopVariable, [] => loopVariable
  | _, agent :: rest =>
    if agentidOf agent.uuid = agentid then some agent else walk agentid (some agent) rest

/-- `agent_by_agentid`. -/
def agentByAgentid (manager : Manager Uuid) (agentid : Nat) :
    Except Failure (Option (Agent Uuid)) := do
  let agents ← manager.allAgents
  return walk agentidOf agentid none agents

/-- `agent_by_id`, with the dictionary in which the agents are read again. -/
def agentById (manager : Manager Uuid) (later : Dictionary (@Agent.connId Uuid)) (agentid : Nat) :
    Except Failure (Option (Agent Uuid)) := do
  let agents ← manager.allAgents
  return agents.findSome? fun agent =>
    (later.lookup agent.connId).filter fun current => agentidOf current.uuid = agentid

end Lookups

/-! ## What they find -/

/-- An agent is connected and enabled. -/
def IsEnabled (manager : Manager Uuid) (agent : Agent Uuid) : Prop :=
  agent ∈ manager.agents.entries ∧ ∃ row, manager.rows agent.uuid = some row ∧ row.enabled = true

/-- Every connected agent has a row. -/
def HasRows (manager : Manager Uuid) : Prop :=
  ∀ agent ∈ manager.agents.entries, manager.rows agent.uuid ≠ none

/-- What was found is the connected and enabled agent with the id, or there is none. -/
def Finds (agentidOf : Uuid → Nat) (manager : Manager Uuid) (agentid : Nat) :
    Option (Agent Uuid) → Prop
  | some agent => manager.IsEnabled agent ∧ agentidOf agent.uuid = agentid
  | none => ∀ agent, manager.IsEnabled agent → agentidOf agent.uuid ≠ agentid

/-- Both lookups return what there is to be found. -/
def LookupsAgree (agentidOf : Uuid → Nat) (manager : Manager Uuid) (agentid : Nat) : Prop :=
  ∃ found, manager.agentByAgentid agentidOf agentid = .ok found ∧
    manager.agentById agentidOf manager.agents agentid = .ok found ∧
    manager.Finds agentidOf agentid found

section Finding

variable {agentidOf : Uuid → Nat} {manager : Manager Uuid}

/-- Where some rows are missing, collecting the agents raises. -/
theorem enabledAgents_missing {agents : List (Agent Uuid)}
    (connected : ∀ agent ∈ agents, agent ∈ manager.agents.entries)
    (missing : ∃ agent ∈ agents, manager.rows agent.uuid = none) :
    manager.enabledAgents (agents.map Agent.connId) = .error .missingRow := by
  induction agents with
  | nil => simp at missing
  | cons agent rest inductionHypothesis =>
    have looked : manager.agents.lookup agent.connId = some agent :=
      (Dictionary.lookup_eq_some _ _ _).mpr ⟨connected agent List.mem_cons_self, rfl⟩
    rw [List.map_cons, enabledAgents, enabledAgent, looked]
    cases row : manager.rows agent.uuid with
    | none =>
      simp only [row]
      rfl
    | some row =>
      have later : ∃ agent ∈ rest, manager.rows agent.uuid = none := by
        obtain ⟨other, listed, gone⟩ := missing
        rcases List.mem_cons.mp listed with rfl | behind
        · rw [row] at gone
          cases gone
        · exact ⟨other, behind, gone⟩
      have raises := inductionHypothesis
        (fun other listed => connected other (List.mem_cons_of_mem _ listed)) later
      simp only [row, raises]
      rfl

/-- Where all rows exist, exactly the enabled agents are collected. -/
theorem enabledAgents_stored {agents : List (Agent Uuid)}
    (connected : ∀ agent ∈ agents, agent ∈ manager.agents.entries)
    (stored : ∀ agent ∈ agents, manager.rows agent.uuid ≠ none) :
    ∃ enabled, manager.enabledAgents (agents.map Agent.connId) = .ok enabled ∧
      ∀ agent, agent ∈ enabled ↔ agent ∈ agents ∧ manager.IsEnabled agent := by
  induction agents with
  | nil => exact ⟨[], rfl, by simp⟩
  | cons agent rest inductionHypothesis =>
    have here := connected agent List.mem_cons_self
    have looked : manager.agents.lookup agent.connId = some agent :=
      (Dictionary.lookup_eq_some _ _ _).mpr ⟨here, rfl⟩
    obtain ⟨row, found⟩ := Option.ne_none_iff_exists'.mp (stored agent List.mem_cons_self)
    obtain ⟨enabled, collected, exact⟩ := inductionHypothesis
      (fun other listed => connected other (List.mem_cons_of_mem _ listed))
      fun other listed => stored other (List.mem_cons_of_mem _ listed)
    have own : manager.IsEnabled agent ↔ row.enabled = true := by
      simp [IsEnabled, here, found]
    refine ⟨(if row.enabled then some agent else none).toList ++ enabled, ?_, fun other => ?_⟩
    · rw [List.map_cons, enabledAgents, enabledAgent, looked]
      simp only [found, collected]
      rfl
    · rw [List.mem_append, exact, List.mem_cons, or_and_right]
      refine or_congr ?_ Iff.rfl
      constructor
      · intro listed
        split at listed
        · next on =>
          obtain rfl : other = agent := by simpa using listed
          exact ⟨rfl, own.mpr on⟩
        · simp at listed
      · rintro ⟨rfl, on⟩
        simp [own.mp on]

/-- The agents are collected exactly if every connected agent has a row, and then they are the
enabled ones. -/
theorem allAgents_cases (manager : Manager Uuid) :
    (¬ manager.HasRows ∧ manager.allAgents = .error .missingRow) ∨
      (manager.HasRows ∧ ∃ enabled, manager.allAgents = .ok enabled ∧
        ∀ agent, agent ∈ enabled ↔ manager.IsEnabled agent) := by
  by_cases stored : manager.HasRows
  · obtain ⟨enabled, collected, exact⟩ := enabledAgents_stored (fun _ listed => listed) stored
    refine .inr ⟨stored, enabled, collected, fun agent => (exact agent).trans ?_⟩
    exact and_iff_right_of_imp And.left
  · have missing : ∃ agent ∈ manager.agents.entries, manager.rows agent.uuid = none := by
      simpa [HasRows] using stored
    exact .inl ⟨stored, enabledAgents_missing (fun _ listed => listed) missing⟩

/-- The walk over the agents ends at the first one with the id, or with its variable. -/
theorem walk_eq (agentid : Nat) (agents : List (Agent Uuid)) (loopVariable : Option (Agent Uuid)) :
    walk agentidOf agentid loopVariable agents =
      (agents.find? fun agent => agentidOf agent.uuid = agentid).or
        (agents.getLast?.or loopVariable) := by
  induction agents generalizing loopVariable with
  | nil => rfl
  | cons agent rest inductionHypothesis =>
    rw [walk, List.find?_cons]
    by_cases same : agentidOf agent.uuid = agentid
    · simp [same]
    · simp only [same, ↓reduceIte, decide_false, inductionHypothesis]
      cases rest with
      | nil => rfl
      | cons next rest =>
        obtain ⟨last, ends⟩ : ∃ last, (next :: rest).getLast? = some last :=
          ⟨_, List.getLast?_eq_some_getLast (List.cons_ne_nil next rest)⟩
        simp only [ends, List.getLast?_cons_cons, Option.some_or]

/-- Reading an agent again from a dictionary that did not change finds it. -/
theorem findSome_again (agentid : Nat) {agents : List (Agent Uuid)}
    (connected : ∀ agent ∈ agents, agent ∈ manager.agents.entries) :
    (agents.findSome? fun agent => (manager.agents.lookup agent.connId).filter
        fun current => agentidOf current.uuid = agentid) =
      agents.find? fun agent => agentidOf agent.uuid = agentid := by
  induction agents with
  | nil => rfl
  | cons agent rest inductionHypothesis =>
    have looked : manager.agents.lookup agent.connId = some agent :=
      (Dictionary.lookup_eq_some _ _ _).mpr ⟨connected agent List.mem_cons_self, rfl⟩
    have rest := inductionHypothesis fun other listed => connected other (List.mem_cons_of_mem _ listed)
    rw [List.findSome?_cons, List.find?_cons, looked, rest]
    by_cases same : agentidOf agent.uuid = agentid
    · simp [Option.filter, same]
    · simp [Option.filter, same]

/-- Whatever happened to the dictionary, `agent_by_id` returns no agent with another id. -/
theorem agentById_own {later : Dictionary (@Agent.connId Uuid)} {agentid : Nat}
    {agent : Agent Uuid} (found : manager.agentById agentidOf later agentid = .ok (some agent)) :
    agentidOf agent.uuid = agentid := by
  unfold agentById at found
  rcases allAgents_cases manager with ⟨-, raised⟩ | ⟨-, enabled, collected, -⟩
  · rw [raised] at found
    cases found
  · rw [collected] at found
    obtain ⟨_, _, read⟩ := List.exists_of_findSome?_eq_some (Except.ok.inj found)
    simpa using (Option.filter_eq_some_iff.mp read).2

/-- The lookups agree exactly if every connected agent has a row, and some enabled agent has the
id or no agent is enabled. -/
theorem lookups_agree_iff (agentidOf : Uuid → Nat) (manager : Manager Uuid) (agentid : Nat) :
    manager.LookupsAgree agentidOf agentid ↔
      manager.HasRows ∧ ((∃ agent, manager.IsEnabled agent ∧ agentidOf agent.uuid = agentid) ∨
        ∀ agent, ¬ manager.IsEnabled agent) := by
  rcases allAgents_cases manager with ⟨missing, raised⟩ | ⟨stored, enabled, collected, exact⟩
  · refine iff_of_false ?_ fun condition => missing condition.1
    rintro ⟨found, returned, -⟩
    rw [agentByAgentid, raised] at returned
    cases returned
  · have connected (agent : Agent Uuid) (listed : agent ∈ enabled) :
        agent ∈ manager.agents.entries := ((exact agent).mp listed).1
    have byAgentid : manager.agentByAgentid agentidOf agentid =
        .ok ((enabled.find? fun agent => agentidOf agent.uuid = agentid).or enabled.getLast?) := by
      rw [agentByAgentid, collected, ← Option.or_none (o := enabled.getLast?), ← walk_eq]
      rfl
    have byId : manager.agentById agentidOf manager.agents agentid =
        .ok (enabled.find? fun agent => agentidOf agent.uuid = agentid) := by
      rw [agentById, collected, ← findSome_again agentid connected]
      rfl
    rw [LookupsAgree, byAgentid, byId, and_iff_right stored]
    cases found : enabled.find? fun agent => agentidOf agent.uuid = agentid with
    | some agent =>
      have named : agentidOf agent.uuid = agentid := by simpa using List.find?_some found
      have present := (exact agent).mp (List.mem_of_find?_eq_some found)
      exact iff_of_true ⟨some agent, rfl, rfl, present, named⟩ (.inl ⟨agent, present, named⟩)
    | none =>
      have absent (agent : Agent Uuid) (present : manager.IsEnabled agent) :
          agentidOf agent.uuid ≠ agentid := by
        simpa using List.find?_eq_none.mp found agent ((exact agent).mpr present)
      constructor
      · rintro ⟨result, last, same, -⟩
        cases same
        refine .inr fun agent present => ?_
        have nothing : enabled = [] := by simpa using last
        have listed := (exact agent).mpr present
        rw [nothing] at listed
        cases listed
      · rintro (⟨agent, present, named⟩ | alone)
        · exact absurd named (absent agent present)
        · have nothing : enabled = [] :=
            List.eq_nil_iff_forall_not_mem.mpr fun agent listed => alone agent ((exact agent).mp listed)
          exact ⟨none, by rw [nothing]; rfl, rfl, absent⟩

end Finding

/-- A manager with one connected and enabled agent. -/
def lonely : Manager Nat where
  agents := Dictionary.empty.put ⟨1, 7, .worker⟩
  rows uuid := if uuid = 7 then some ⟨true, 0, none⟩ else none
  closed _ := false
  sentDisconnectEvent _ := false
  mainState := .stopped
  events := []

/-- An id that no agent has leads to the only agent that is connected. -/
theorem lonely_disagrees :
    ¬ ∀ (agentidOf : Nat → Nat) (manager : Manager Nat) (agentid : Nat),
      manager.LookupsAgree agentidOf agentid := by
  intro always
  obtain ⟨found, byAgentid, byId, -⟩ := always id lonely 8
  have returned : lonely.agentByAgentid id 8 = .ok (some ⟨1, 7, .worker⟩) := rfl
  have missed : lonely.agentById id lonely.agents 8 = .ok none := rfl
  rw [returned] at byAgentid
  rw [missed, ← byAgentid] at byId
  cases byId

end Manager

end Palette.Agents
