import Palette.Agents.Connections

/-!
# Rows and live connections

The manager holds a connection while its socket is open and it is being set up, pinged
as disabled, or registered. An agent's row is to say that the agent is connected exactly
when the manager holds a connection of it.

A write of the disconnect time is harmless when the manager holds no other connection of
the agent at that moment. The error path, the removal and the ping of a disabled agent
make no such test, so the runs in which rows and connections agree are those whose steps
meet it by themselves. The rest is kept by an invariant: a registered agent has a handler
that is done with its setup, a handler that is not done has an open socket, and the
registered agents are consistent.
-/

namespace Palette.Agents

open Palette.Foundation Palette.Status

universe u

variable {Uuid : Type u}

/-- The handler has not registered its agent yet. -/
def Handler.Waits (handler : Handler Uuid) : Prop :=
  handler.stage = .setup ∨ handler.stage = .unmonitored

/-- The manager holds the connection of a handler. -/
def Manager.Live (manager : Manager Uuid) (handler : Handler Uuid) : Prop :=
  manager.closed handler.connId = false ∧
    (handler.Waits ∨ manager.agents.HasKey handler.connId)

/-- The manager holds a connection of the agent. -/
def State.Held (state : State Uuid) (uuid : Uuid) : Prop :=
  ∃ handler ∈ state.handlers.entries, handler.agent.uuid = uuid ∧ state.manager.Live handler

/-- The manager holds a connection of the agent other than the given one. -/
def State.HeldBeside (state : State Uuid) (connId : Nat) (uuid : Uuid) : Prop :=
  ∃ handler ∈ state.handlers.entries, handler.connId ≠ connId ∧ handler.agent.uuid = uuid ∧
    state.manager.Live handler

/-- The agent's row says that the agent is connected. -/
def Manager.RowConnected (manager : Manager Uuid) (uuid : Uuid) : Prop :=
  ∃ row ∈ manager.rows uuid, row.Connected

instance (manager : Manager Uuid) (uuid : Uuid) : Decidable (manager.RowConnected uuid) :=
  inferInstanceAs (Decidable (∃ row ∈ manager.rows uuid, row.Connected))

/-- A stamp is later than the times in the agent's row. -/
def Manager.Later (manager : Manager Uuid) (uuid : Uuid) (stamp : Nat) : Prop :=
  ∀ row ∈ manager.rows uuid, row.lastConnectionTime < stamp ∧
    ∀ disconnect ∈ row.lastDisconnectTime, disconnect < stamp

instance (handler : Handler Uuid) : Decidable handler.Waits :=
  inferInstanceAs (Decidable (_ ∨ _))

instance (manager : Manager Uuid) (handler : Handler Uuid) : Decidable (manager.Live handler) :=
  inferInstanceAs (Decidable (_ ∧ (_ ∨ _)))

instance (manager : Manager Uuid) (uuid : Uuid) (stamp : Nat) :
    Decidable (manager.Later uuid stamp) :=
  inferInstanceAs (Decidable (∀ row ∈ manager.rows uuid, _ ∧ _))

/-- What every orderly run keeps. -/
structure Sound (state : State Uuid) : Prop where
  running : state.exited = false
  rowed : ∀ handler ∈ state.handlers.entries, (state.manager.rows handler.agent.uuid).isSome
  consistent : Consistent state.manager.agents.entries
  backed : ∀ entry ∈ state.manager.agents.entries, ∃ handler ∈ state.handlers.entries,
    handler.agent = entry ∧ ¬ handler.Waits
  waiting : ∀ handler ∈ state.handlers.entries,
    handler.Waits → state.manager.closed handler.connId = false
  closed : ∀ connId, state.manager.closed connId = true → state.handlers.HasKey connId
  tracks : ∀ uuid, state.manager.RowConnected uuid ↔ state.Held uuid

/-! ## Rows -/

namespace Manager

/-- Managers with the same row agree on whether its agent is connected. -/
theorem rowConnected_congr {left right : Manager Uuid} {uuid : Uuid}
    (same : left.rows uuid = right.rows uuid) : left.RowConnected uuid ↔ right.RowConnected uuid := by
  rw [RowConnected, RowConnected, same]

/-- A disconnect time that is later than the row's connection time disconnects it. -/
theorem disconnected_of_later (manager after : Manager Uuid) (uuid : Uuid) (stamp : Nat)
    (later : manager.Later uuid stamp)
    (rows : after.rows uuid =
      (manager.rows uuid).map fun row => { row with lastDisconnectTime := some stamp }) :
    ¬ after.RowConnected uuid := by
  rintro ⟨row, stored, connected⟩
  rw [rows, Option.mem_def, Option.map_eq_some_iff] at stored
  obtain ⟨old, oldStored, rfl⟩ := stored
  have before := (later old oldStored).1
  have after := connected stamp rfl
  exact absurd before (Nat.lt_asymm after)

/-- A connection time that is later than the row's disconnect time connects it. -/
theorem connected_of_later (manager after : Manager Uuid) (uuid : Uuid) (stamp : Nat)
    (row : AgentRow) (stored : manager.rows uuid = some row)
    (later : ∀ disconnect ∈ row.lastDisconnectTime, disconnect < stamp)
    (rows : after.rows uuid =
      (manager.rows uuid).map fun row => { row with lastConnectionTime := stamp }) :
    after.RowConnected uuid :=
  ⟨{ row with lastConnectionTime := stamp }, by rw [rows, stored]; rfl, later⟩

/-- Only the socket and the registration of its own connection make a handler live. -/
theorem live_congr {left right : Manager Uuid} {handler : Handler Uuid}
    (closed : left.closed handler.connId = right.closed handler.connId)
    (registered : left.agents.HasKey handler.connId ↔ right.agents.HasKey handler.connId) :
    left.Live handler ↔ right.Live handler := by
  rw [Live, Live, closed, registered]

end Manager

/-! ## Held connections -/

/-- An agent's connection is held through a stored handler or beside it. -/
theorem held_iff_of_stored (state : State Uuid) (handler : Handler Uuid) (uuid : Uuid)
    (stored : handler ∈ state.handlers.entries) :
    state.Held uuid ↔ (handler.agent.uuid = uuid ∧ state.manager.Live handler) ∨
      state.HeldBeside handler.connId uuid := by
  constructor
  · rintro ⟨other, otherStored, same, live⟩
    by_cases equal : other.connId = handler.connId
    · rw [state.handlers.entry_unique otherStored stored equal] at same live
      exact Or.inl ⟨same, live⟩
    · exact Or.inr ⟨other, otherStored, equal, same, live⟩
  · rintro (⟨same, live⟩ | ⟨other, otherStored, _, same, live⟩)
    · exact ⟨handler, stored, same, live⟩
    · exact ⟨other, otherStored, same, live⟩

/-- A connection of another agent plays no part. -/
theorem held_iff_beside (state : State Uuid) (connId : Nat) (uuid : Uuid)
    (foreign : ∀ handler ∈ state.handlers.entries, handler.connId = connId →
      handler.agent.uuid ≠ uuid) : state.Held uuid ↔ state.HeldBeside connId uuid := by
  constructor
  · rintro ⟨handler, stored, same, live⟩
    exact ⟨handler, stored, fun equal => foreign handler stored equal same, same, live⟩
  · rintro ⟨handler, stored, _, same, live⟩
    exact ⟨handler, stored, same, live⟩

/-- The connections beside one are held alike when their handlers are the same and live
alike. -/
theorem heldBeside_congr {state next : State Uuid} {connId : Nat} {uuid : Uuid}
    (handlers : ∀ handler : Handler Uuid, handler.connId ≠ connId →
      (handler ∈ next.handlers.entries ↔ handler ∈ state.handlers.entries))
    (live : ∀ handler ∈ state.handlers.entries, handler.connId ≠ connId →
      handler.agent.uuid = uuid → (next.manager.Live handler ↔ state.manager.Live handler)) :
    next.HeldBeside connId uuid ↔ state.HeldBeside connId uuid := by
  constructor
  · rintro ⟨handler, stored, apart, same, held⟩
    have kept := (handlers handler apart).mp stored
    exact ⟨handler, kept, apart, same, (live handler kept apart same).mp held⟩
  · rintro ⟨handler, stored, apart, same, held⟩
    exact ⟨handler, (handlers handler apart).mpr stored, apart, same,
      (live handler stored apart same).mpr held⟩

/-- Replacing a handler leaves the handlers of other connections alone. -/
theorem mem_handle_of_ne (state : State Uuid) (manager : Manager Uuid)
    (replaced handler : Handler Uuid) (apart : handler.connId ≠ replaced.connId) :
    handler ∈ (state.handle manager replaced).handlers.entries ↔
      handler ∈ state.handlers.entries := by
  rw [State.handle, Dictionary.mem_put]
  constructor
  · rintro (rfl | ⟨stored, _⟩)
    · exact absurd rfl apart
    · exact stored
  · exact fun stored => Or.inr ⟨stored, apart⟩

/-- A replaced handler is stored. -/
theorem mem_handle_self (state : State Uuid) (manager : Manager Uuid) (replaced : Handler Uuid) :
    replaced ∈ (state.handle manager replaced).handlers.entries := by
  rw [State.handle, Dictionary.mem_put]
  exact Or.inl rfl

/-- Beside a moved handler whose manager keeps the other sockets and the registered
agents, the same connections are held. -/
theorem heldBeside_handle (state : State Uuid) (manager : Manager Uuid) (moved : Handler Uuid)
    (uuid : Uuid) (agents : manager.agents = state.manager.agents)
    (sockets : ∀ connId, connId ≠ moved.connId →
      manager.closed connId = state.manager.closed connId) :
    (state.handle manager moved).HeldBeside moved.connId uuid ↔
      state.HeldBeside moved.connId uuid :=
  heldBeside_congr (mem_handle_of_ne state manager moved) fun handler _ apart _ =>
    Manager.live_congr (sockets _ apart) (by rw [State.handle, agents])

/-- Handlers of one connection hold one agent. -/
theorem agent_unique (state : State Uuid) (handler : Handler Uuid)
    (stored : handler ∈ state.handlers.entries) (other : Handler Uuid)
    (otherStored : other ∈ state.handlers.entries) (same : other.connId = handler.connId) : other.agent = handler.agent :=
  congrArg Handler.agent (state.handlers.entry_unique otherStored stored same)

/-! ## The steps that only move a handler and its agent's row -/

namespace Sound

variable {state : State Uuid}

/-- The registered agents of a sound state have rows. -/
theorem known (sound : Sound state) : state.manager.Known := by
  intro entry registered
  obtain ⟨handler, stored, rfl, _⟩ := sound.backed entry registered
  exact sound.rowed handler stored

/-- The handler of a registered connection holds the registered agent and is done with
its setup. -/
theorem registered_handler (sound : Sound state) {handler : Handler Uuid}
    (stored : handler ∈ state.handlers.entries) {entry : Agent Uuid}
    (registered : entry ∈ state.manager.agents.entries) (same : entry.connId = handler.connId) :
    handler.agent = entry ∧ ¬ handler.Waits := by
  obtain ⟨backing, backingStored, rfl, done⟩ := sound.backed entry registered
  have equal : handler = backing := state.handlers.entry_unique stored backingStored same.symm
  exact ⟨by rw [equal], by rwa [equal]⟩

/-- A waiting handler's agent is not registered. -/
theorem not_registered (sound : Sound state) {handler : Handler Uuid}
    (stored : handler ∈ state.handlers.entries) (waits : handler.Waits) :
    ¬ state.manager.agents.HasKey handler.connId := by
  rintro ⟨entry, registered, same⟩
  exact (sound.registered_handler stored registered same).2 waits

/-- Moving one handler and writing its agent's row keeps a state sound when the row and
the connections of that agent agree afterwards. -/
theorem handle (sound : Sound state) (manager : Manager Uuid) (moved : Handler Uuid)
    (agents : manager.agents = state.manager.agents)
    (rowed : ∀ uuid, uuid = moved.agent.uuid ∨ (state.manager.rows uuid).isSome →
      (manager.rows uuid).isSome)
    (rows : ∀ uuid, uuid ≠ moved.agent.uuid → manager.rows uuid = state.manager.rows uuid)
    (sockets : ∀ connId, connId ≠ moved.connId →
      manager.closed connId = state.manager.closed connId)
    (own : ∀ handler ∈ state.handlers.entries, handler.connId = moved.connId →
      handler.agent = moved.agent)
    (steady : manager.agents.HasKey moved.connId → ¬ moved.Waits)
    (opened : moved.Waits → manager.closed moved.connId = false)
    (here : manager.RowConnected moved.agent.uuid ↔
      (state.handle manager moved).Held moved.agent.uuid) :
    Sound (state.handle manager moved) where
  running := sound.running
  rowed := by
    intro handler stored
    by_cases same : handler.connId = moved.connId
    · have equal := (state.handle manager moved).handlers.entry_unique stored
        (mem_handle_self state manager moved) same
      exact rowed _ (Or.inl (by rw [equal]))
    · exact rowed _ (Or.inr (sound.rowed handler
        ((mem_handle_of_ne state manager moved handler same).mp stored)))
  consistent := by
    rw [State.handle, agents]
    exact sound.consistent
  backed := by
    intro entry registered
    rw [State.handle, agents] at registered
    obtain ⟨handler, stored, rfl, done⟩ := sound.backed entry registered
    by_cases same : handler.connId = moved.connId
    · exact ⟨moved, mem_handle_self state manager moved, (own handler stored same).symm,
        steady (agents ▸ ⟨handler.agent, registered, same⟩)⟩
    · exact ⟨handler, (mem_handle_of_ne state manager moved handler same).mpr stored, rfl, done⟩
  waiting := by
    intro handler stored waits
    by_cases same : handler.connId = moved.connId
    · have equal := (state.handle manager moved).handlers.entry_unique stored
        (mem_handle_self state manager moved) same
      exact equal ▸ opened (equal ▸ waits)
    · exact (sockets _ same).trans (sound.waiting handler
        ((mem_handle_of_ne state manager moved handler same).mp stored) waits)
  closed := by
    intro connId shut
    by_cases same : connId = moved.connId
    · exact ⟨moved, mem_handle_self state manager moved, same.symm⟩
    · obtain ⟨handler, stored, equal⟩ := sound.closed connId ((sockets connId same).symm.trans shut)
      exact ⟨handler, (mem_handle_of_ne state manager moved handler
        (fun collides => same (equal.symm.trans collides))).mpr stored, equal⟩
  tracks := by
    intro uuid
    by_cases same : uuid = moved.agent.uuid
    · rw [same]
      exact here
    · have before : state.Held uuid ↔ state.HeldBeside moved.connId uuid :=
        held_iff_beside state moved.connId uuid fun handler stored equal =>
          own handler stored equal ▸ Ne.symm same
      have after : (state.handle manager moved).Held uuid ↔
          (state.handle manager moved).HeldBeside moved.connId uuid := by
        apply held_iff_beside
        intro handler stored equal
        have moves := (state.handle manager moved).handlers.entry_unique stored
          (mem_handle_self state manager moved) equal
        exact moves ▸ Ne.symm same
      have beside : (state.handle manager moved).HeldBeside moved.connId uuid ↔
          state.HeldBeside moved.connId uuid :=
        heldBeside_handle state manager moved uuid agents sockets
      have written : (state.handle manager moved).manager.RowConnected uuid ↔
          state.manager.RowConnected uuid := Manager.rowConnected_congr (rows uuid same)
      rw [written, sound.tracks uuid, before, ← beside, ← after]

end Sound

/-! ## Orderly steps -/

variable [DecidableEq Uuid]

instance (state : State Uuid) (uuid : Uuid) : Decidable (state.Held uuid) :=
  inferInstanceAs (Decidable (∃ handler ∈ state.handlers.entries, _ ∧ _))

instance (state : State Uuid) (connId : Nat) (uuid : Uuid) :
    Decidable (state.HeldBeside connId uuid) :=
  inferInstanceAs (Decidable (∃ handler ∈ state.handlers.entries, _ ∧ _ ∧ _))

/-- The steps that keep rows and connections in agreement: written times are later than
those in the row, a disconnect time is written only when no other connection of the agent
is held, the connection of a disabled agent is lost only while another one is held, and
an agent is registered where registration completes and its connection time is kept. -/
def Orderly (mapper : Mapper) (state : State Uuid) : Label Uuid → Prop
  | .build agent stamp => state.manager.Later agent.uuid stamp
  | .enable connId stamp =>
      ∀ handler ∈ state.handlers.lookup connId, state.manager.Later handler.agent.uuid stamp
  | .register connId evicted connected =>
      ∀ handler ∈ state.handlers.lookup connId,
        state.manager.Later handler.agent.uuid evicted ∧ evicted < connected ∧
        Admissible mapper state.manager.agents.entries handler.agent ∧
        ((∃ entry ∈ state.manager.agents.entries, entry.uuid = handler.agent.uuid) →
          mapper.flushed = true)
  | .fail connId stamp =>
      ∀ handler ∈ state.handlers.lookup connId,
        state.manager.Later handler.agent.uuid stamp ∧
        ¬ state.HeldBeside connId handler.agent.uuid
  | .lose connId =>
      ∀ handler ∈ state.handlers.lookup connId, state.HeldBeside connId handler.agent.uuid
  | .remove connId _ stamp =>
      state.manager.agents.HasKey connId → ∀ handler ∈ state.handlers.lookup connId,
        state.manager.Later handler.agent.uuid stamp ∧
        ¬ state.HeldBeside connId handler.agent.uuid
  | .finish _ | .setEnabled _ _ | .relay _ => True

instance (mapper : Mapper) (state : State Uuid) (label : Label Uuid) :
    Decidable (Orderly mapper state label) := by
  cases label <;> unfold Orderly <;> infer_instance

namespace Manager

/-- Building an agent later than its row's times connects it. -/
theorem build_rowConnected (manager : Manager Uuid) (agent : Agent Uuid) (stamp : Nat)
    (later : manager.Later agent.uuid stamp) :
    (manager.build agent stamp).RowConnected agent.uuid := by
  refine ⟨builtRow (manager.rows agent.uuid) stamp, by simp [build], ?_⟩
  cases stored : manager.rows agent.uuid with
  | none => simp [builtRow, AgentRow.Connected]
  | some row => exact (later row stored).2

/-- Changing a row keeps every row. -/
theorem reviseRow_isSome (manager : Manager Uuid) (changed uuid : Uuid)
    (change : AgentRow → AgentRow) (stored : (manager.rows uuid).isSome) :
    ((manager.reviseRow changed change).rows uuid).isSome := by
  by_cases same : uuid = changed
  · subst same
    simpa [reviseRow] using stored
  · simpa [reviseRow, same] using stored

/-- Changing a row leaves the others alone. -/
theorem reviseRow_rows_of_ne (manager : Manager Uuid) (changed uuid : Uuid)
    (change : AgentRow → AgentRow) (apart : uuid ≠ changed) :
    (manager.reviseRow changed change).rows uuid = manager.rows uuid := by
  simp [reviseRow, apart]

/-- Changing a row replaces it. -/
theorem reviseRow_rows_self (manager : Manager Uuid) (uuid : Uuid)
    (change : AgentRow → AgentRow) :
    (manager.reviseRow uuid change).rows uuid = (manager.rows uuid).map change := by
  simp [reviseRow]

/-- Building an agent keeps every row. -/
theorem build_isSome (manager : Manager Uuid) (agent : Agent Uuid) (stamp : Nat) (uuid : Uuid)
    (stored : uuid = agent.uuid ∨ (manager.rows uuid).isSome) :
    ((manager.build agent stamp).rows uuid).isSome := by
  by_cases same : uuid = agent.uuid
  · simp [build, same]
  · simpa [build, same] using stored

/-- Building an agent leaves the other rows alone. -/
theorem build_rows_of_ne (manager : Manager Uuid) (agent : Agent Uuid) (stamp : Nat) (uuid : Uuid)
    (apart : uuid ≠ agent.uuid) : (manager.build agent stamp).rows uuid = manager.rows uuid := by
  simp [build, apart]

end Manager

end Palette.Agents
