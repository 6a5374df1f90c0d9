import Palette.Foundation.Transition
import Palette.Agents.Registration

/-!
# Agent connections and their threads

Every connection has one handler thread. It builds the agent from the reply to its
first request, sets an enabled agent up and registers it, and then pings it. A disabled
agent is only pinged until a user enables it. When the handler fails, its error path
closes the socket and writes the disconnect time of the agent's row, whatever other
connections the agent has by then. When the ping of a disabled agent fails, the thread
ends and writes nothing.

Any thread may remove an agent whose object it holds. The manager's sections and the
handler's own writes interleave in any order. Every write of a time carries the stamp
of its transaction, which may have begun long before the write.

An exception that leaves a section ends the process.
-/

namespace Palette.Agents

open Palette.Foundation Palette.Status

universe u

/-- How far the handler of a connection has come. -/
inductive Stage where
  | setup
  | unmonitored
  | serving
  | ended
  deriving DecidableEq, Repr

/-- A handler and the agent object that it holds. -/
structure Handler (Uuid : Type u) where
  agent : Agent Uuid
  stage : Stage
  deriving DecidableEq, Repr

/-- The key of a handler is the identifier of its connection. -/
def Handler.connId {Uuid : Type u} (handler : Handler Uuid) : Nat := handler.agent.connId

/-- The manager, every handler so far, and whether the process has exited. -/
structure State (Uuid : Type u) where
  manager : Manager Uuid
  handlers : Dictionary (@Handler.connId Uuid)
  exited : Bool

/-- What happens next. Times are the stamps of the writes. -/
inductive Label (Uuid : Type u) where
  | build (agent : Agent Uuid) (stamp : Nat)
  | enable (connId : Nat) (stamp : Nat)
  | register (connId : Nat) (evicted connected : Nat)
  | fail (connId : Nat) (stamp : Nat)
  | lose (connId : Nat)
  | finish (connId : Nat)
  | remove (connId : Nat) (reason : Reason Uuid) (stamp : Nat)
  | setEnabled (uuid : Uuid) (enabled : Bool)
  | relay (entries : List (Agent Uuid))

variable {Uuid : Type u} [DecidableEq Uuid]

/-- The row that `Agent.build` leaves: a new agent is enabled. -/
def builtRow (stored : Option AgentRow) (stamp : Nat) : AgentRow :=
  match stored with
  | some row => { row with lastConnectionTime := stamp }
  | none => ⟨true, stamp, none⟩

/-- `Agent.build`. -/
def Manager.build (manager : Manager Uuid) (agent : Agent Uuid) (stamp : Nat) : Manager Uuid :=
  { manager with
    rows := Function.update manager.rows agent.uuid
      (some (builtRow (manager.rows agent.uuid) stamp)) }

/-- What the error path of `handle_agent_connection` does: it closes the socket and writes
the disconnect time into the agent's row. -/
def Manager.failConnection (manager : Manager Uuid) (agent : Agent Uuid) (stamp : Nat) :
    Manager Uuid :=
  (manager.close agent.connId).reviseRow agent.uuid
    fun row => { row with lastDisconnectTime := some stamp }

/-- The agent's row says that the agent is enabled. -/
def Manager.Enabled (manager : Manager Uuid) (uuid : Uuid) : Prop :=
  ∃ row ∈ manager.rows uuid, row.enabled = true

omit [DecidableEq Uuid] in
instance (manager : Manager Uuid) (uuid : Uuid) : Decidable (manager.Enabled uuid) :=
  inferInstanceAs (Decidable (∃ row ∈ manager.rows uuid, row.enabled = true))

namespace State

/-- Replace the handler of a connection. -/
def handle (state : State Uuid) (manager : Manager Uuid) (handler : Handler Uuid) : State Uuid where
  manager := manager
  handlers := state.handlers.put handler
  exited := state.exited

/-- The process ends with the exception of a section. What the section did before it
raised is not kept: no step follows. -/
def exit (state : State Uuid) : State Uuid :=
  { state with exited := true }

/-- A reply to the first request of a new connection builds its agent. -/
def stepBuild (state : State Uuid) (agent : Agent Uuid) (stamp : Nat) : Option (State Uuid) :=
  if state.handlers.HasKey agent.connId then none
  else
    let built := state.manager.build agent stamp
    some (state.handle built ⟨agent, if built.Enabled agent.uuid then .setup else .unmonitored⟩)

/-- The ping of a disabled agent finds it enabled, and the agent is built again. -/
def stepEnable (state : State Uuid) (handler : Handler Uuid) (stamp : Nat) : Option (State Uuid) :=
  if handler.stage = .unmonitored ∧ state.manager.Enabled handler.agent.uuid then
    some (state.handle (state.manager.build handler.agent stamp) ⟨handler.agent, .setup⟩)
  else none

/-- The handler registers the agent that it has set up. -/
def stepRegister (mapper : Mapper) (state : State Uuid) (handler : Handler Uuid)
    (evicted connected : Nat) : Option (State Uuid) :=
  if handler.stage = .setup then
    match Manager.register mapper state.manager handler.agent evicted connected with
    | .error _ => some state.exit
    | .ok registered => some (state.handle registered ⟨handler.agent, .serving⟩)
  else none

/-- The error path of `handle_agent_connection`. -/
def stepFail (state : State Uuid) (handler : Handler Uuid) (stamp : Nat) : Option (State Uuid) :=
  if handler.stage = .ended then none
  else some (state.handle (state.manager.failConnection handler.agent stamp) ⟨handler.agent, .ended⟩)

/-- The ping of a disabled agent fails. -/
def stepLose (state : State Uuid) (handler : Handler Uuid) : Option (State Uuid) :=
  if handler.stage = .unmonitored then
    some (state.handle state.manager ⟨handler.agent, .ended⟩)
  else none

/-- `ping_check` returns: the agent is gone, or it was disabled and its ping failed. -/
def stepFinish (state : State Uuid) (handler : Handler Uuid) : Option (State Uuid) :=
  if handler.stage = .serving ∧ (¬ state.manager.agents.HasKey handler.agent.connId ∨
      ¬ state.manager.Enabled handler.agent.uuid) then
    some (state.handle state.manager ⟨handler.agent, .ended⟩)
  else none

/-- Some thread removes an agent whose object it holds. -/
def stepRemove (state : State Uuid) (handler : Handler Uuid) (reason : Reason Uuid)
    (stamp : Nat) : Option (State Uuid) :=
  match state.manager.removeAgent handler.agent reason stamp with
  | .error _ => some state.exit
  | .ok removed => some { state with manager := removed }

/-- A user enables or disables an agent. -/
def stepSetEnabled (state : State Uuid) (uuid : Uuid) (enabled : Bool) : State Uuid :=
  { state with manager := state.manager.reviseRow uuid fun row => { row with enabled := enabled } }

/-- The dictionary of registered agents is laid out anew. -/
def stepRelay (state : State Uuid) (entries : List (Agent Uuid)) : Option (State Uuid) :=
  if same : entries.Perm state.manager.agents.entries then
    some { state with
      manager := { state.manager with agents := state.manager.agents.relay entries same } }
  else none

/-- One step of some thread. A process that has exited takes none. -/
def step (mapper : Mapper) (state : State Uuid) (label : Label Uuid) : Option (State Uuid) :=
  if state.exited then none
  else
    match label with
    | .build agent stamp => state.stepBuild agent stamp
    | .enable connId stamp => (state.handlers.lookup connId).bind (state.stepEnable · stamp)
    | .register connId evicted connected =>
        (state.handlers.lookup connId).bind (stepRegister mapper state · evicted connected)
    | .fail connId stamp => (state.handlers.lookup connId).bind (state.stepFail · stamp)
    | .lose connId => (state.handlers.lookup connId).bind state.stepLose
    | .finish connId => (state.handlers.lookup connId).bind state.stepFinish
    | .remove connId reason stamp =>
        (state.handlers.lookup connId).bind (state.stepRemove · reason stamp)
    | .setEnabled uuid enabled => some (state.stepSetEnabled uuid enabled)
    | .relay entries => state.stepRelay entries

end State

/-- `update_last_disconnect_time` on one row. -/
def AgentRow.updateLastDisconnectTime (row : AgentRow) (stamp : Nat) : AgentRow :=
  if row.Connected then { row with lastDisconnectTime := some stamp } else row

/-- A started process: no connection yet, no agent registered, and a disconnect time for
every agent that was connected when the process stopped. -/
def Started (state : State Uuid) : Prop :=
  state.exited = false ∧ state.handlers.entries = [] ∧ state.manager.agents.entries = [] ∧
    (∀ connId, state.manager.closed connId = false) ∧
    ∃ (stored : Uuid → Option AgentRow) (stamp : Nat),
      (∀ uuid, ∀ row ∈ stored uuid, row.lastConnectionTime ≤ stamp) ∧
      ∀ uuid, state.manager.rows uuid =
        (stored uuid).map fun row => row.updateLastDisconnectTime stamp

/-- The manager and the handlers as a machine. -/
def connections (mapper : Mapper) : Machine (State Uuid) (Label Uuid) where
  initial := Started
  step := State.step mapper

/-! ## What one step can do -/

/-- The accepted steps, each with the test that leads to it. -/
inductive Effect (mapper : Mapper) (state : State Uuid) : Label Uuid → State Uuid → Prop where
  | built (agent : Agent Uuid) (stamp : Nat) (stage : Stage)
      (fresh : ¬ state.handlers.HasKey agent.connId)
      (begins : stage = .setup ∨ stage = .unmonitored) :
      Effect mapper state (.build agent stamp)
        (state.handle (state.manager.build agent stamp) ⟨agent, stage⟩)
  | enabled (handler : Handler Uuid) (stamp : Nat) (stored : handler ∈ state.handlers.entries)
      (waits : handler.stage = .unmonitored) :
      Effect mapper state (.enable handler.connId stamp)
        (state.handle (state.manager.build handler.agent stamp) ⟨handler.agent, .setup⟩)
  | registered (handler : Handler Uuid) (evicted connected : Nat) (after : Manager Uuid)
      (stored : handler ∈ state.handlers.entries) (waits : handler.stage = .setup)
      (done : Manager.register mapper state.manager handler.agent evicted connected = .ok after) :
      Effect mapper state (.register handler.connId evicted connected)
        (state.handle after ⟨handler.agent, .serving⟩)
  | registrationRaised (handler : Handler Uuid) (evicted connected : Nat) (failure : Failure)
      (stored : handler ∈ state.handlers.entries) (waits : handler.stage = .setup)
      (raised : Manager.register mapper state.manager handler.agent evicted connected =
        .error failure) :
      Effect mapper state (.register handler.connId evicted connected) state.exit
  | failed (handler : Handler Uuid) (stamp : Nat) (stored : handler ∈ state.handlers.entries)
      (runs : handler.stage ≠ .ended) :
      Effect mapper state (.fail handler.connId stamp)
        (state.handle (state.manager.failConnection handler.agent stamp) ⟨handler.agent, .ended⟩)
  | lost (handler : Handler Uuid) (stored : handler ∈ state.handlers.entries)
      (waits : handler.stage = .unmonitored) :
      Effect mapper state (.lose handler.connId)
        (state.handle state.manager ⟨handler.agent, .ended⟩)
  | finished (handler : Handler Uuid) (stored : handler ∈ state.handlers.entries)
      (serves : handler.stage = .serving) :
      Effect mapper state (.finish handler.connId)
        (state.handle state.manager ⟨handler.agent, .ended⟩)
  | removed (handler : Handler Uuid) (reason : Reason Uuid) (stamp : Nat) (after : Manager Uuid)
      (stored : handler ∈ state.handlers.entries)
      (done : state.manager.removeAgent handler.agent reason stamp = .ok after) :
      Effect mapper state (.remove handler.connId reason stamp) { state with manager := after }
  | removalRaised (handler : Handler Uuid) (reason : Reason Uuid) (stamp : Nat) (failure : Failure)
      (stored : handler ∈ state.handlers.entries)
      (raised : state.manager.removeAgent handler.agent reason stamp = .error failure) :
      Effect mapper state (.remove handler.connId reason stamp) state.exit
  | enabledSet (uuid : Uuid) (enabled : Bool) :
      Effect mapper state (.setEnabled uuid enabled) (state.stepSetEnabled uuid enabled)
  | relaid (entries : List (Agent Uuid)) (same : entries.Perm state.manager.agents.entries) :
      Effect mapper state (.relay entries)
        { state with
          manager := { state.manager with agents := state.manager.agents.relay entries same } }

omit [DecidableEq Uuid] in
/-- A step of the handler under a key is a step of a stored handler with that key. -/
theorem bind_lookup_eq_some (state next : State Uuid) (connId : Nat)
    (act : Handler Uuid → Option (State Uuid))
    (stepped : (state.handlers.lookup connId).bind act = some next) :
    ∃ handler ∈ state.handlers.entries, handler.connId = connId ∧ act handler = some next := by
  obtain ⟨handler, found, acted⟩ := Option.bind_eq_some_iff.mp stepped
  obtain ⟨stored, same⟩ := (state.handlers.lookup_eq_some connId handler).mp found
  exact ⟨handler, stored, same, acted⟩

/-- Every accepted step is one of the effects. -/
theorem step_effect (mapper : Mapper) (state next : State Uuid) (label : Label Uuid)
    (stepped : State.step mapper state label = some next) :
    state.exited = false ∧ Effect mapper state label next := by
  unfold State.step at stepped
  by_cases exited : state.exited
  · simp [exited] at stepped
  refine ⟨Bool.eq_false_iff.mpr exited, ?_⟩
  rw [if_neg exited] at stepped
  cases label with
  | build agent stamp =>
    simp only [State.stepBuild, Option.ite_none_left_eq_some, Option.some.injEq] at stepped
    obtain ⟨fresh, rfl⟩ := stepped
    apply Effect.built agent stamp _ fresh
    split
    · exact Or.inl rfl
    · exact Or.inr rfl
  | enable connId stamp =>
    obtain ⟨handler, stored, rfl, acted⟩ := bind_lookup_eq_some _ _ _ _ stepped
    simp only [State.stepEnable, Option.ite_none_right_eq_some, Option.some.injEq] at acted
    obtain ⟨⟨waits, _⟩, rfl⟩ := acted
    exact .enabled handler stamp stored waits
  | register connId evicted connected =>
    obtain ⟨handler, stored, rfl, acted⟩ := bind_lookup_eq_some _ _ _ _ stepped
    simp only [State.stepRegister, Option.ite_none_right_eq_some] at acted
    obtain ⟨waits, acted⟩ := acted
    cases outcome : Manager.register mapper state.manager handler.agent evicted connected with
    | error failure =>
      simp only [outcome, Option.some.injEq] at acted
      subst acted
      exact .registrationRaised handler evicted connected failure stored waits outcome
    | ok after =>
      simp only [outcome, Option.some.injEq] at acted
      subst acted
      exact .registered handler evicted connected after stored waits outcome
  | fail connId stamp =>
    obtain ⟨handler, stored, rfl, acted⟩ := bind_lookup_eq_some _ _ _ _ stepped
    simp only [State.stepFail, Option.ite_none_left_eq_some, Option.some.injEq] at acted
    obtain ⟨runs, rfl⟩ := acted
    exact .failed handler stamp stored runs
  | lose connId =>
    obtain ⟨handler, stored, rfl, acted⟩ := bind_lookup_eq_some _ _ _ _ stepped
    simp only [State.stepLose, Option.ite_none_right_eq_some, Option.some.injEq] at acted
    obtain ⟨waits, rfl⟩ := acted
    exact .lost handler stored waits
  | finish connId =>
    obtain ⟨handler, stored, rfl, acted⟩ := bind_lookup_eq_some _ _ _ _ stepped
    simp only [State.stepFinish, Option.ite_none_right_eq_some, Option.some.injEq] at acted
    obtain ⟨⟨serves, _⟩, rfl⟩ := acted
    exact .finished handler stored serves
  | remove connId reason stamp =>
    obtain ⟨handler, stored, rfl, acted⟩ := bind_lookup_eq_some _ _ _ _ stepped
    unfold State.stepRemove at acted
    cases outcome : state.manager.removeAgent handler.agent reason stamp with
    | error failure =>
      simp only [outcome, Option.some.injEq] at acted
      subst acted
      exact .removalRaised handler reason stamp failure stored outcome
    | ok after =>
      simp only [outcome, Option.some.injEq] at acted
      subst acted
      exact .removed handler reason stamp after stored outcome
  | setEnabled uuid enabled =>
    simp only [Option.some.injEq] at stepped
    subst stepped
    exact .enabledSet uuid enabled
  | relay entries =>
    simp only [State.stepRelay, Option.dite_none_right_eq_some, Option.some.injEq] at stepped
    obtain ⟨same, rfl⟩ := stepped
    exact .relaid entries same

end Palette.Agents
