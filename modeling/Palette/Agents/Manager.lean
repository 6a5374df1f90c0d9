import Palette.Foundation.Dictionary
import Palette.Status.MainState

/-!
# The agent manager

The manager keeps the registered agents in a dictionary under the identifiers of their
connections, and the table of agents in the database. A row remembers when its agent
last connected and disconnected. A time is the start of the transaction that writes
it, so a write carries its own stamp.

Removing an agent and registering one run under the manager's lock, each as one
section. A removal ends with the removal of the thread's session. What becomes of the
connecting agent, which registration still reads and changes afterwards, is up to the
mapper of objects to rows: it may or may not let a detached object be read, and it may
or may not write a later change of it.

The display name and the reclassification of archive agents write columns that no
operation here reads.
-/

namespace Palette.Agents

open Palette.Foundation Palette.Status

universe u

/-- The agent types. -/
inductive AgentType where
  | primary
  | worker
  | archive
  deriving DecidableEq, Repr

/-- An agent object with the identifier of its connection. -/
structure Agent (Uuid : Type u) where
  connId : Nat
  uuid : Uuid
  agentType : AgentType
  deriving DecidableEq, Repr

/-- Both agents are primaries. -/
def BothPrimary {Uuid : Type u} (agent entry : Agent Uuid) : Prop :=
  agent.agentType = .primary ∧ entry.agentType = .primary

instance {Uuid : Type u} (agent entry : Agent Uuid) : Decidable (BothPrimary agent entry) :=
  inferInstanceAs (Decidable (_ ∧ _))

/-- The columns of an agent's row that the manager reads. -/
structure AgentRow where
  enabled : Bool
  lastConnectionTime : Nat
  lastDisconnectTime : Option Nat
  deriving DecidableEq, Repr

/-- `Agent.connected`. -/
def AgentRow.Connected (row : AgentRow) : Prop :=
  ∀ disconnect ∈ row.lastDisconnectTime, disconnect < row.lastConnectionTime

instance (row : AgentRow) : Decidable row.Connected :=
  inferInstanceAs (Decidable (∀ disconnect ∈ row.lastDisconnectTime, _))

/-- Why an agent is removed. -/
inductive Reason (Uuid : Type u) where
  | agentCommunicationFailure
  | alreadyConnectedWithUuid (uuid : Uuid)
  | primaryAlreadyConnected
  | other (text : String)
  deriving DecidableEq, Repr

/-- The data of a disconnect event. -/
structure DisconnectEvent (Uuid : Type u) where
  uuid : Uuid
  connId : Nat
  error : Reason Uuid
  deriving DecidableEq, Repr

/-- The exceptions that leave a section of the manager. -/
inductive Failure where
  | dictionaryChangedSize
  | detachedInstance
  | missingRow
  deriving DecidableEq, Repr

/-- How the mapper treats an object after its session is gone. -/
structure Mapper where
  readable : Bool
  flushed : Bool
  deriving DecidableEq, Repr

/-- The registered agents, the agent table and what the manager has told others. -/
structure Manager (Uuid : Type u) where
  agents : Dictionary (@Agent.connId Uuid)
  rows : Uuid → Option AgentRow
  closed : Nat → Bool
  sentDisconnectEvent : Nat → Bool
  mainState : MainState
  events : List (DisconnectEvent Uuid)

namespace Manager

variable {Uuid : Type u}

/-- Generate the disconnect event of an agent. A disabled agent has none. -/
def genDisconnect (manager : Manager Uuid) (agent : Agent Uuid) (reason : Reason Uuid)
    (row : AgentRow) : Manager Uuid :=
  if manager.sentDisconnectEvent agent.connId then manager
  else
    { manager with
      events := if row.enabled then ⟨agent.uuid, agent.connId, reason⟩ :: manager.events
        else manager.events
      sentDisconnectEvent := Function.update manager.sentDisconnectEvent agent.connId true }

/-- The disconnect event concerns neither the registered agents nor their rows. -/
@[simp] theorem genDisconnect_agents (manager : Manager Uuid) (agent : Agent Uuid)
    (reason : Reason Uuid) (row : AgentRow) :
    (manager.genDisconnect agent reason row).agents = manager.agents := by
  unfold genDisconnect
  split <;> rfl

@[simp] theorem genDisconnect_rows (manager : Manager Uuid) (agent : Agent Uuid)
    (reason : Reason Uuid) (row : AgentRow) :
    (manager.genDisconnect agent reason row).rows = manager.rows := by
  unfold genDisconnect
  split <;> rfl

@[simp] theorem genDisconnect_closed (manager : Manager Uuid) (agent : Agent Uuid)
    (reason : Reason Uuid) (row : AgentRow) :
    (manager.genDisconnect agent reason row).closed = manager.closed := by
  unfold genDisconnect
  split <;> rfl

/-- At most the agent's own event is generated. -/
theorem genDisconnect_events (manager : Manager Uuid) (agent : Agent Uuid)
    (reason : Reason Uuid) (row : AgentRow) :
    (manager.genDisconnect agent reason row).events = manager.events ∨
      (manager.genDisconnect agent reason row).events =
        ⟨agent.uuid, agent.connId, reason⟩ :: manager.events := by
  unfold genDisconnect
  split
  · exact Or.inl rfl
  · by_cases enabled : row.enabled
    · exact Or.inr (if_pos enabled)
    · exact Or.inl (if_neg enabled)

/-- `_close`. -/
def close (manager : Manager Uuid) (connId : Nat) : Manager Uuid :=
  { manager with closed := Function.update manager.closed connId true }

/-- The registered agents have rows: connecting writes one and nothing deletes it. -/
def Known (manager : Manager Uuid) : Prop :=
  ∀ entry ∈ manager.agents.entries, (manager.rows entry.uuid).isSome

/-- A registered entry is found under its own key. -/
theorem hasKey_of_mem (manager : Manager Uuid) {entry : Agent Uuid}
    (registered : entry ∈ manager.agents.entries) : manager.agents.HasKey entry.connId :=
  ⟨entry, registered, rfl⟩

variable [DecidableEq Uuid]

/-- Change the row of an agent if there is one. -/
def reviseRow (manager : Manager Uuid) (uuid : Uuid) (change : AgentRow → AgentRow) :
    Manager Uuid :=
  { manager with rows := Function.update manager.rows uuid ((manager.rows uuid).map change) }

/-- Writing a row leaves everything but the table alone. -/
@[simp] theorem reviseRow_agents (manager : Manager Uuid) (uuid : Uuid)
    (change : AgentRow → AgentRow) : (manager.reviseRow uuid change).agents = manager.agents := rfl

@[simp] theorem reviseRow_closed (manager : Manager Uuid) (uuid : Uuid)
    (change : AgentRow → AgentRow) : (manager.reviseRow uuid change).closed = manager.closed := rfl

@[simp] theorem reviseRow_events (manager : Manager Uuid) (uuid : Uuid)
    (change : AgentRow → AgentRow) : (manager.reviseRow uuid change).events = manager.events := rfl

/-- `forget`. Its lookup of the connection's identifier only chooses a line of the log;
the disconnect time is written in either case. -/
def forget (manager : Manager Uuid) (agent : Agent Uuid) (stamp : Nat) : Manager Uuid :=
  manager.reviseRow agent.uuid fun row => { row with lastDisconnectTime := some stamp }

/-- `remove_agent`. An event is generated whatever the caller asked for. -/
def removeAgent (manager : Manager Uuid) (agent : Agent Uuid) (reason : Reason Uuid) (stamp : Nat) :
    Except Failure (Manager Uuid) :=
  if manager.agents.HasKey agent.connId then
    let forgotten := manager.forget agent stamp
    match forgotten.rows agent.uuid with
    | none => .error .missingRow
    | some row =>
      let told := (forgotten.genDisconnect agent reason row).close agent.connId
      .ok { told with
        agents := told.agents.del agent.connId
        mainState := if agent.agentType = .primary then .disconnected else told.mainState }
  else .ok manager

/-- What the removal of a registered agent with a row leaves behind. -/
structure Removed (manager : Manager Uuid) (agent : Agent Uuid) (reason : Reason Uuid)
    (stamp : Nat) (after : Manager Uuid) : Prop where
  agents : after.agents = manager.agents.del agent.connId
  rows : after.rows = (manager.forget agent stamp).rows
  closed : after.closed = Function.update manager.closed agent.connId true
  events : after.events = manager.events ∨
    after.events = ⟨agent.uuid, agent.connId, reason⟩ :: manager.events

/-- The removal of a registered agent succeeds when the agent has a row. -/
theorem removeAgent_registered (manager : Manager Uuid) (agent : Agent Uuid)
    (reason : Reason Uuid) (stamp : Nat) (registered : manager.agents.HasKey agent.connId)
    (known : (manager.rows agent.uuid).isSome) :
    ∃ after, manager.removeAgent agent reason stamp = .ok after ∧
      manager.Removed agent reason stamp after := by
  obtain ⟨row, stored⟩ := Option.isSome_iff_exists.mp known
  have forgotten : (manager.forget agent stamp).rows agent.uuid =
      some { row with lastDisconnectTime := some stamp } := by
    simp [forget, reviseRow, stored]
  rw [removeAgent, if_pos registered]
  simp only [forgotten]
  refine ⟨_, rfl, ?_, ?_, ?_, ?_⟩
  · simp [close, forget]
  · simp [close]
  · simp [close, forget, reviseRow]
  · exact (manager.forget agent stamp).genDisconnect_events agent reason _

/-- The entry that is removed is the one that was registered under its connection. -/
theorem Removed.mem_iff {manager after : Manager Uuid} {removed : Agent Uuid}
    {reason : Reason Uuid} {stamp : Nat} (outcome : manager.Removed removed reason stamp after)
    (registered : removed ∈ manager.agents.entries) (entry : Agent Uuid) :
    entry ∈ after.agents.entries ↔ entry ∈ manager.agents.entries ∧ entry ≠ removed := by
  rw [outcome.agents, Dictionary.mem_del]
  constructor
  · rintro ⟨stored, apart⟩
    exact ⟨stored, fun same => apart (by rw [same])⟩
  · rintro ⟨stored, apart⟩
    exact ⟨stored, fun same => apart (manager.agents.entry_unique stored registered same)⟩

/-- What the loop of `register` changes: the manager, and whether the thread's session
still has the connecting agent. -/
structure Visit (Uuid : Type u) where
  manager : Manager Uuid
  attached : Bool

/-- One pass of the loop of `register`. -/
def evictBody (agent : Agent Uuid) (stamp : Nat) (atmp : Agent Uuid) (visit : Visit Uuid) :
    Except Failure (Pass (Visit Uuid)) :=
  if atmp.uuid = agent.uuid then
    (visit.manager.removeAgent atmp (.alreadyConnectedWithUuid agent.uuid) stamp).map
      fun manager => .stop ⟨manager, false⟩
  else if BothPrimary agent atmp then
    (visit.manager.removeAgent atmp .primaryAlreadyConnected stamp).map
      fun manager => .next ⟨manager, false⟩
  else .ok (.next visit)

/-- The loop of `register` over the registered agents. -/
def evict (manager : Manager Uuid) (agent : Agent Uuid) (stamp : Nat) :
    Except Failure (Visit Uuid) :=
  iterate (fun visit => visit.manager.agents.entries.length) .dictionaryChangedSize
    (evictBody agent stamp) manager.agents.entries.length manager.agents.entries ⟨manager, true⟩

/-- Write the connection time of a registered agent. The time of a detached agent reaches
its row only when the mapper flushes it. -/
def timeConnection (mapper : Mapper) (visit : Visit Uuid) (agent : Agent Uuid) (stamp : Nat) :
    Manager Uuid :=
  if visit.attached ∨ mapper.flushed then
    visit.manager.reviseRow agent.uuid fun row => { row with lastConnectionTime := stamp }
  else visit.manager

/-- `register` after its loop. Its log line reads the agent's display name. -/
def enroll (mapper : Mapper) (visit : Visit Uuid) (agent : Agent Uuid) (stamp : Nat) :
    Except Failure (Manager Uuid) :=
  let timed := timeConnection mapper visit agent stamp
  if visit.attached ∨ mapper.readable then
    .ok { timed with
      agents := timed.agents.put agent
      mainState := if agent.agentType = .primary then .pending else timed.mainState }
  else .error .detachedInstance

/-- `register`. -/
def register (mapper : Mapper) (manager : Manager Uuid) (agent : Agent Uuid)
    (evicted connected : Nat) : Except Failure (Manager Uuid) :=
  match manager.evict agent evicted with
  | .error failure => .error failure
  | .ok visit => enroll mapper visit agent connected

end Manager

end Palette.Agents
