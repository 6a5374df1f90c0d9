import Palette.Agents.Liveness

/-!
# Orderly runs keep rows and connections in agreement

One lemma for each kind of step shows that an orderly step keeps a state sound, and the
rule for restricted machines turns them into a result about runs. A disconnect event is
generated by a removal only, and names the registered agent that the removal takes out.
-/

namespace Palette.Agents

open Palette.Foundation Palette.Status

universe u

variable {Uuid : Type u}

namespace Sound

variable {state : State Uuid}

/-- The ping of a disabled agent fails while another connection of the agent is held. -/
theorem lost (sound : Sound state) (handler : Handler Uuid)
    (stored : handler ∈ state.handlers.entries)
    (beside : state.HeldBeside handler.connId handler.agent.uuid) :
    Sound (state.handle state.manager ⟨handler.agent, .ended⟩) := by
  apply sound.handle
  · rfl
  · rintro uuid (rfl | known)
    · exact sound.rowed handler stored
    · exact known
  · exact fun _ _ => rfl
  · exact fun _ _ => rfl
  · exact fun other otherStored same => agent_unique state handler stored other otherStored same
  · exact fun _ waiting => waiting.elim nofun nofun
  · exact fun waiting => waiting.elim nofun nofun
  · have before : state.Held handler.agent.uuid :=
      (held_iff_of_stored state handler _ stored).mpr (Or.inr beside)
    apply iff_of_true ((sound.tracks _).mpr before)
    rw [held_iff_of_stored _ _ _ (mem_handle_self state _ _)]
    exact Or.inr ((heldBeside_handle state state.manager ⟨handler.agent, .ended⟩
      handler.agent.uuid rfl fun _ _ => rfl).mpr beside)

/-- The handler of a registered agent stops pinging. -/
theorem finished (sound : Sound state) (handler : Handler Uuid)
    (stored : handler ∈ state.handlers.entries) (serves : handler.stage = .serving) :
    Sound (state.handle state.manager ⟨handler.agent, .ended⟩) := by
  apply sound.handle
  · rfl
  · rintro uuid (rfl | known)
    · exact sound.rowed handler stored
    · exact known
  · exact fun _ _ => rfl
  · exact fun _ _ => rfl
  · exact fun other otherStored same => agent_unique state handler stored other otherStored same
  · exact fun _ waiting => waiting.elim nofun nofun
  · exact fun waiting => waiting.elim nofun nofun
  · have done : ¬ handler.Waits := by simp [Handler.Waits, serves]
    have ended : ¬ (⟨handler.agent, .ended⟩ : Handler Uuid).Waits := by simp [Handler.Waits]
    have alike : state.manager.Live handler ↔ state.manager.Live ⟨handler.agent, .ended⟩ := by
      simp only [Manager.Live, done, ended, false_or]
      rfl
    have beside := heldBeside_handle state state.manager ⟨handler.agent, .ended⟩
      handler.agent.uuid rfl fun _ _ => rfl
    rw [sound.tracks, held_iff_of_stored state handler _ stored,
      held_iff_of_stored _ _ _ (mem_handle_self state state.manager ⟨handler.agent, .ended⟩),
      beside, alike]
    rfl

/-- The order of the registered agents plays no part. -/
theorem relaid (sound : Sound state) (entries : List (Agent Uuid))
    (same : entries.Perm state.manager.agents.entries) :
    Sound { state with
      manager := { state.manager with agents := state.manager.agents.relay entries same } } := by
  have live : ∀ handler : Handler Uuid,
      Manager.Live { state.manager with agents := state.manager.agents.relay entries same } handler ↔
        state.manager.Live handler := by
    intro handler
    apply Manager.live_congr
    · rfl
    · constructor
      · rintro ⟨entry, member, key⟩
        exact ⟨entry, same.mem_iff.mp member, key⟩
      · rintro ⟨entry, member, key⟩
        exact ⟨entry, same.mem_iff.mpr member, key⟩
  constructor
  · exact sound.running
  · exact sound.rowed
  · intro left leftMember right rightMember
    exact sound.consistent left (same.mem_iff.mp leftMember) right (same.mem_iff.mp rightMember)
  · intro entry member
    exact sound.backed entry (same.mem_iff.mp member)
  · exact sound.waiting
  · exact sound.closed
  · intro uuid
    apply (sound.tracks uuid).trans
    constructor
    · rintro ⟨handler, stored, equal, held⟩
      exact ⟨handler, stored, equal, (live handler).mpr held⟩
    · rintro ⟨handler, stored, equal, held⟩
      exact ⟨handler, stored, equal, (live handler).mp held⟩

variable [DecidableEq Uuid]

/-- A new connection is held from the moment its agent is built. -/
theorem built (sound : Sound state) (agent : Agent Uuid) (stamp : Nat) (stage : Stage)
    (fresh : ¬ state.handlers.HasKey agent.connId) (begins : stage = .setup ∨ stage = .unmonitored)
    (later : state.manager.Later agent.uuid stamp) :
    Sound (state.handle (state.manager.build agent stamp) ⟨agent, stage⟩) := by
  have unused : ¬ state.manager.agents.HasKey agent.connId := by
    rintro ⟨entry, registered, same⟩
    obtain ⟨handler, stored, rfl, _⟩ := sound.backed entry registered
    exact fresh ⟨handler, stored, same⟩
  have opened : state.manager.closed agent.connId = false :=
    Bool.eq_false_iff.mpr fun shut => fresh (sound.closed agent.connId shut)
  apply sound.handle
  · rfl
  · exact fun uuid stored => state.manager.build_isSome agent stamp uuid stored
  · exact fun uuid apart => state.manager.build_rows_of_ne agent stamp uuid apart
  · exact fun _ _ => rfl
  · exact fun handler stored same => absurd ⟨handler, stored, same⟩ fresh
  · exact fun registered => absurd registered unused
  · exact fun _ => opened
  · exact iff_of_true (state.manager.build_rowConnected agent stamp later)
      ⟨⟨agent, stage⟩, mem_handle_self _ _ _, rfl, opened, Or.inl begins⟩

/-- A disabled agent that is enabled is built again on the same connection. -/
theorem enabled (sound : Sound state) (handler : Handler Uuid) (stamp : Nat)
    (stored : handler ∈ state.handlers.entries) (waits : handler.stage = .unmonitored)
    (later : state.manager.Later handler.agent.uuid stamp) :
    Sound (state.handle (state.manager.build handler.agent stamp) ⟨handler.agent, .setup⟩) := by
  have opened := sound.waiting handler stored (Or.inr waits)
  have unregistered := sound.not_registered stored (Or.inr waits)
  apply sound.handle
  · rfl
  · exact fun uuid known => state.manager.build_isSome handler.agent stamp uuid known
  · exact fun uuid apart => state.manager.build_rows_of_ne handler.agent stamp uuid apart
  · exact fun _ _ => rfl
  · exact fun other otherStored same => agent_unique state handler stored other otherStored same
  · exact fun registered => absurd registered unregistered
  · exact fun _ => opened
  · exact iff_of_true (state.manager.build_rowConnected handler.agent stamp later)
      ⟨⟨handler.agent, .setup⟩, mem_handle_self _ _ _, rfl, opened, Or.inl (Or.inl rfl)⟩

/-- The error path of a handler whose agent has no other connection. -/
theorem failed (sound : Sound state) (handler : Handler Uuid) (stamp : Nat)
    (stored : handler ∈ state.handlers.entries)
    (later : state.manager.Later handler.agent.uuid stamp)
    (alone : ¬ state.HeldBeside handler.connId handler.agent.uuid) :
    Sound (state.handle (state.manager.failConnection handler.agent stamp)
      ⟨handler.agent, .ended⟩) := by
  have sockets : ∀ connId, connId ≠ handler.agent.connId →
      (state.manager.failConnection handler.agent stamp).closed connId =
        state.manager.closed connId :=
    fun connId apart => Function.update_of_ne apart _ _
  apply sound.handle
  · rfl
  · rintro uuid known
    apply Manager.reviseRow_isSome
    rcases known with rfl | known
    · exact sound.rowed handler stored
    · exact known
  · exact fun uuid apart => Manager.reviseRow_rows_of_ne _ _ uuid _ apart
  · exact sockets
  · exact fun other otherStored same => agent_unique state handler stored other otherStored same
  · exact fun _ waits => waits.elim nofun nofun
  · exact fun waits => waits.elim nofun nofun
  · apply iff_of_false
    · exact Manager.disconnected_of_later state.manager _ handler.agent.uuid stamp later
        (Manager.reviseRow_rows_self _ _ _)
    · rw [held_iff_of_stored _ _ _ (mem_handle_self state _ _)]
      rintro (⟨_, opened, _⟩ | beside)
      · simp [State.handle, Manager.failConnection, Manager.close, Handler.connId] at opened
      · exact alone ((heldBeside_handle state (state.manager.failConnection handler.agent stamp)
          ⟨handler.agent, .ended⟩ handler.agent.uuid rfl sockets).mp beside)

/-- The removal of a registered agent that has no other connection. -/
theorem removed (sound : Sound state) (handler : Handler Uuid) (reason : Reason Uuid) (stamp : Nat)
    (after : Manager Uuid) (stored : handler ∈ state.handlers.entries)
    (registered : state.manager.agents.HasKey handler.connId)
    (outcome : state.manager.Removed handler.agent reason stamp after)
    (later : state.manager.Later handler.agent.uuid stamp)
    (alone : ¬ state.HeldBeside handler.connId handler.agent.uuid) :
    Sound { state with manager := after } := by
  have sockets : ∀ connId, connId ≠ handler.connId →
      after.closed connId = state.manager.closed connId := by
    intro connId apart
    rw [outcome.closed]
    exact Function.update_of_ne apart _ _
  have members : ∀ entry, entry ∈ after.agents.entries ↔
      entry ∈ state.manager.agents.entries ∧ entry.connId ≠ handler.connId := by
    intro entry
    rw [outcome.agents, Dictionary.mem_del]
    rfl
  have beside : ∀ uuid, State.HeldBeside { state with manager := after } handler.connId uuid ↔
      state.HeldBeside handler.connId uuid := by
    intro uuid
    apply heldBeside_congr
    · exact fun _ _ => Iff.rfl
    · intro other otherStored apart _
      apply Manager.live_congr (sockets other.connId apart)
      constructor
      · rintro ⟨entry, member, same⟩
        exact ⟨entry, ((members entry).mp member).1, same⟩
      · rintro ⟨entry, member, same⟩
        exact ⟨entry, (members entry).mpr ⟨member, fun equal => apart (same.symm.trans equal)⟩, same⟩
  constructor
  · exact sound.running
  · intro other otherStored
    simp only [outcome.rows]
    exact Manager.reviseRow_isSome _ _ _ _ (sound.rowed other otherStored)
  · intro left leftMember right rightMember
    exact sound.consistent left ((members left).mp leftMember).1 right
      ((members right).mp rightMember).1
  · intro entry member
    exact sound.backed entry ((members entry).mp member).1
  · intro other otherStored waits
    have apart : other.connId ≠ handler.connId := by
      intro same
      exact sound.not_registered otherStored waits (same ▸ registered)
    exact (sockets other.connId apart).trans (sound.waiting other otherStored waits)
  · intro connId shut
    by_cases same : connId = handler.connId
    · exact ⟨handler, stored, same.symm⟩
    · exact sound.closed connId ((sockets connId same).symm.trans shut)
  · intro uuid
    rw [held_iff_of_stored { state with manager := after } handler uuid stored, beside uuid]
    by_cases same : uuid = handler.agent.uuid
    · subst same
      apply iff_of_false
      · apply Manager.disconnected_of_later state.manager after handler.agent.uuid stamp later
        rw [outcome.rows]
        exact Manager.reviseRow_rows_self _ _ _
      · rintro (⟨_, opened, _⟩ | held)
        · simp [outcome.closed, Handler.connId] at opened
        · exact alone held
    · have written : after.RowConnected uuid ↔ state.manager.RowConnected uuid := by
        apply Manager.rowConnected_congr
        rw [outcome.rows]
        exact Manager.reviseRow_rows_of_ne _ _ _ _ same
      rw [written, sound.tracks, held_iff_of_stored state handler uuid stored]
      simp only [Ne.symm same, false_and]

/-- The entries that a completed registration leaves. -/
theorem mem_registered (sound : Sound state) {mapper : Mapper} {handler : Handler Uuid}
    {evicted connected : Nat} {visit : Manager.Visit Uuid} {after : Manager Uuid}
    (stored : handler ∈ state.handlers.entries) (waits : handler.Waits)
    (loop : state.manager.Evicted handler.agent evicted visit)
    (admitted : Manager.Admitted mapper visit handler.agent connected after) (entry : Agent Uuid) :
    entry ∈ after.agents.entries ↔
      entry = handler.agent ∨ entry ∈ visit.manager.agents.entries := by
  rw [admitted.agents, Dictionary.mem_put]
  constructor
  · exact Or.imp_right And.left
  · exact Or.imp_right fun member =>
      ⟨member, fun same => sound.not_registered stored waits ⟨entry, loop.subset member, same⟩⟩

/-- Registration closes no socket of another agent's handler, and none of a waiting one. -/
theorem registered_sockets (sound : Sound state) {mapper : Mapper} {handler : Handler Uuid}
    {evicted connected : Nat} {visit : Manager.Visit Uuid} {after : Manager Uuid}
    (loop : state.manager.Evicted handler.agent evicted visit)
    (admitted : Manager.Admitted mapper visit handler.agent connected after)
    {other : Handler Uuid} (stored : other ∈ state.handlers.entries)
    (safe : other.Waits ∨ other.agent.uuid ≠ handler.agent.uuid) :
    after.closed other.connId = state.manager.closed other.connId := by
  rw [admitted.closed]
  cases loop with
  | nobody harmless => rfl
  | one atmp removed registered same outcome =>
    rw [outcome.closed]
    apply Function.update_of_ne
    intro collides
    obtain ⟨holds, done⟩ := sound.registered_handler stored registered collides.symm
    rcases safe with waits | apart
    · exact done waits
    · exact apart (holds ▸ same)

/-- Registration leaves the rows of other agents alone and keeps every row. -/
theorem registered_rows {mapper : Mapper} {agent : Agent Uuid} {evicted connected : Nat}
    {visit : Manager.Visit Uuid} {after : Manager Uuid}
    (loop : state.manager.Evicted agent evicted visit)
    (admitted : Manager.Admitted mapper visit agent connected after) (uuid : Uuid) :
    (uuid ≠ agent.uuid → after.rows uuid = state.manager.rows uuid) ∧
      ((state.manager.rows uuid).isSome → (after.rows uuid).isSome) := by
  have evictions : (uuid ≠ agent.uuid → visit.manager.rows uuid = state.manager.rows uuid) ∧
      ((state.manager.rows uuid).isSome → (visit.manager.rows uuid).isSome) := by
    cases loop with
    | nobody harmless => exact ⟨fun _ => rfl, id⟩
    | one atmp removed registered same outcome =>
      simp only [outcome.rows]
      exact ⟨fun apart => Manager.reviseRow_rows_of_ne _ _ _ _ (same ▸ apart),
        Manager.reviseRow_isSome _ _ _ _⟩
  rw [admitted.rows, Manager.timeConnection]
  split
  · exact ⟨fun apart => (Manager.reviseRow_rows_of_ne _ _ _ _ apart).trans (evictions.1 apart),
      fun known => Manager.reviseRow_isSome _ _ _ _ (evictions.2 known)⟩
  · exact evictions

/-- A registration whose connection time is kept leaves its agent connected: the time is
later than the disconnect time of an evicted connection. -/
theorem registered_rowConnected {mapper : Mapper} {agent : Agent Uuid} {evicted connected : Nat}
    {visit : Manager.Visit Uuid} {after : Manager Uuid}
    (loop : state.manager.Evicted agent evicted visit)
    (admitted : Manager.Admitted mapper visit agent connected after)
    (known : (state.manager.rows agent.uuid).isSome)
    (later : state.manager.Later agent.uuid evicted) (ordered : evicted < connected)
    (kept : (∃ entry ∈ state.manager.agents.entries, entry.uuid = agent.uuid) →
      mapper.flushed = true) : after.RowConnected agent.uuid := by
  obtain ⟨row, stored⟩ := Option.isSome_iff_exists.mp known
  cases loop with
  | nobody harmless =>
    apply Manager.connected_of_later state.manager after agent.uuid connected row stored
    · exact fun disconnect owed => Nat.lt_trans ((later row stored).2 disconnect owed) ordered
    · rw [admitted.rows, Manager.timeConnection, if_pos (Or.inl rfl)]
      exact Manager.reviseRow_rows_self _ _ _
  | one atmp removed registered same outcome =>
    have forgotten : removed.rows agent.uuid = some { row with lastDisconnectTime := some evicted } := by
      rw [outcome.rows, Manager.forget, same, Manager.reviseRow_rows_self, stored]
      rfl
    apply Manager.connected_of_later removed after agent.uuid connected _ forgotten
    · rintro disconnect ⟨⟩
      exact ordered
    · rw [admitted.rows, Manager.timeConnection,
        if_pos (Or.inr (kept ⟨atmp, registered, same⟩))]
      exact Manager.reviseRow_rows_self _ _ _

/-- An orderly registration: the handler's agent joins the registered ones, and the
connections of other agents are held as before. -/
theorem registered (sound : Sound state) (mapper : Mapper) (handler : Handler Uuid)
    (evicted connected : Nat) (after : Manager Uuid) (stored : handler ∈ state.handlers.entries)
    (setup : handler.stage = .setup)
    (done : Manager.register mapper state.manager handler.agent evicted connected = .ok after)
    (later : state.manager.Later handler.agent.uuid evicted) (ordered : evicted < connected)
    (admissible : Admissible mapper state.manager.agents.entries handler.agent)
    (kept : (∃ entry ∈ state.manager.agents.entries, entry.uuid = handler.agent.uuid) →
      mapper.flushed = true) : Sound (state.handle after ⟨handler.agent, .serving⟩) := by
  have waits : handler.Waits := Or.inl setup
  have fresh := sound.not_registered stored waits
  have settled := Manager.registered_of_coherent mapper state.manager handler.agent evicted
    connected after sound.known fresh done admissible (sound.consistent.coherent handler.agent)
  obtain ⟨visit, loop, _, admitted⟩ :=
    Manager.register_eq_ok mapper state.manager handler.agent evicted connected after sound.known done
  have members := sound.mem_registered stored waits loop admitted
  have serves : ¬ (⟨handler.agent, .serving⟩ : Handler Uuid).Waits := by simp [Handler.Waits]
  have opened : after.closed handler.connId = false :=
    (sound.registered_sockets loop admitted stored (Or.inl waits)).trans
      (sound.waiting handler stored waits)
  have moved := mem_handle_of_ne state after ⟨handler.agent, .serving⟩
  have self := mem_handle_self state after ⟨handler.agent, .serving⟩
  constructor
  · exact sound.running
  · intro other otherStored
    apply (registered_rows loop admitted _).2
    by_cases same : other.connId = handler.connId
    · rw [agent_unique (state.handle after ⟨handler.agent, .serving⟩) _ self other otherStored same]
      exact sound.rowed handler stored
    · exact sound.rowed other ((moved other same).mp otherStored)
  · exact settled.consistent
  · intro entry member
    rcases (members entry).mp member with rfl | member
    · exact ⟨⟨handler.agent, .serving⟩, self, rfl, serves⟩
    · obtain ⟨backing, backingStored, rfl, finished⟩ := sound.backed entry (loop.subset member)
      have apart : backing.connId ≠ handler.connId :=
        fun same => fresh ⟨backing.agent, loop.subset member, same⟩
      exact ⟨backing, (moved backing apart).mpr backingStored, rfl, finished⟩
  · intro other otherStored waiting
    by_cases same : other.connId = handler.connId
    · rw [same]
      exact opened
    · have old := (moved other same).mp otherStored
      exact (sound.registered_sockets loop admitted old (Or.inl waiting)).trans
        (sound.waiting other old waiting)
  · intro connId shut
    have known : state.handlers.HasKey connId := by
      rw [State.handle, admitted.closed] at shut
      cases loop with
      | nobody harmless => exact sound.closed connId shut
      | one atmp removed registered same outcome =>
        rw [outcome.closed] at shut
        by_cases collides : connId = atmp.connId
        · obtain ⟨backing, backingStored, rfl, _⟩ := sound.backed atmp registered
          exact ⟨backing, backingStored, collides.symm⟩
        · exact sound.closed connId ((Function.update_of_ne collides _ _).symm.trans shut)
    obtain ⟨other, otherStored, rfl⟩ := known
    by_cases same : other.connId = handler.connId
    · exact ⟨⟨handler.agent, .serving⟩, self, same.symm⟩
    · exact ⟨other, (moved other same).mpr otherStored, rfl⟩
  · intro uuid
    by_cases same : uuid = handler.agent.uuid
    · subst same
      refine iff_of_true (registered_rowConnected loop admitted (sound.rowed handler stored) later
        ordered kept) ⟨⟨handler.agent, .serving⟩, self, rfl, opened, Or.inr ?_⟩
      exact ⟨handler.agent, settled.present, rfl⟩
    · have written : (state.handle after ⟨handler.agent, .serving⟩).manager.RowConnected uuid ↔
          state.manager.RowConnected uuid :=
        Manager.rowConnected_congr ((registered_rows loop admitted uuid).1 same)
      have before : state.Held uuid ↔ state.HeldBeside handler.connId uuid :=
        held_iff_beside state handler.connId uuid fun other otherStored equal =>
          agent_unique state handler stored other otherStored equal ▸ Ne.symm same
      have later : (state.handle after ⟨handler.agent, .serving⟩).Held uuid ↔
          (state.handle after ⟨handler.agent, .serving⟩).HeldBeside handler.connId uuid :=
        held_iff_beside _ handler.connId uuid fun other otherStored equal =>
          agent_unique (state.handle after ⟨handler.agent, .serving⟩) _ self other otherStored
            equal ▸ Ne.symm same
      have beside : (state.handle after ⟨handler.agent, .serving⟩).HeldBeside handler.connId uuid ↔
          state.HeldBeside handler.connId uuid := by
        apply heldBeside_congr moved
        intro other otherStored apart equal
        have foreign : other.agent.uuid ≠ handler.agent.uuid := equal ▸ same
        apply Manager.live_congr (sound.registered_sockets loop admitted otherStored (Or.inr foreign))
        constructor
        · rintro ⟨entry, member, key⟩
          rcases (members entry).mp member with rfl | member
          · exact absurd key.symm apart
          · exact ⟨entry, loop.subset member, key⟩
        · rintro ⟨entry, member, key⟩
          have holds := (sound.registered_handler otherStored member key).1
          exact ⟨entry, (members entry).mpr (Or.inr (loop.kept member (holds ▸ foreign))), key⟩
      rw [written, sound.tracks uuid, before, ← beside, ← later]

/-- Enabling or disabling an agent changes no time. -/
theorem enabledSet (sound : Sound state) (uuid : Uuid) (enabled : Bool) :
    Sound (state.stepSetEnabled uuid enabled) := by
  have times : ∀ other, (state.stepSetEnabled uuid enabled).manager.RowConnected other ↔
      state.manager.RowConnected other := by
    intro other
    by_cases same : other = uuid
    · subst same
      simp only [Manager.RowConnected, State.stepSetEnabled, Manager.reviseRow_rows_self]
      cases state.manager.rows other <;> simp [AgentRow.Connected]
    · exact Manager.rowConnected_congr (Manager.reviseRow_rows_of_ne _ _ _ _ same)
  exact ⟨sound.running,
    fun handler stored => Manager.reviseRow_isSome _ _ _ _ (sound.rowed handler stored),
    sound.consistent, sound.backed, sound.waiting, sound.closed,
    fun other => (times other).trans (sound.tracks other)⟩

/-- Every orderly step keeps a state sound. -/
theorem step (sound : Sound state) (mapper : Mapper) (label : Label Uuid) (next : State Uuid)
    (orderly : Orderly mapper state label)
    (stepped : State.step mapper state label = some next) : Sound next := by
  obtain ⟨_, effect⟩ := step_effect mapper state next label stepped
  have lookup : ∀ handler ∈ state.handlers.entries,
      handler ∈ state.handlers.lookup handler.connId :=
    fun handler stored => (state.handlers.lookup_eq_some _ _).mpr ⟨stored, rfl⟩
  cases effect with
  | built agent stamp stage fresh begins => exact sound.built agent stamp stage fresh begins orderly
  | enabled handler stamp stored waits =>
    exact sound.enabled handler stamp stored waits (orderly handler (lookup handler stored))
  | registered handler evicted connected after stored waits done =>
    obtain ⟨later, ordered, admissible, kept⟩ := orderly handler (lookup handler stored)
    exact sound.registered mapper handler evicted connected after stored waits done later ordered
      admissible kept
  | registrationRaised handler evicted connected failure stored waits raised =>
    obtain ⟨_, _, admissible, _⟩ := orderly handler (lookup handler stored)
    obtain ⟨after, done⟩ := Manager.register_completes mapper state.manager handler.agent evicted
      connected sound.known admissible
    rw [done] at raised
    exact absurd raised (by simp)
  | failed handler stamp stored runs =>
    obtain ⟨later, alone⟩ := orderly handler (lookup handler stored)
    exact sound.failed handler stamp stored later alone
  | lost handler stored waits =>
    exact sound.lost handler stored (orderly handler (lookup handler stored))
  | finished handler stored serves => exact sound.finished handler stored serves
  | removed handler reason stamp after stored done =>
    by_cases registered : state.manager.agents.HasKey handler.connId
    · obtain ⟨later, alone⟩ := orderly registered handler (lookup handler stored)
      obtain ⟨other, succeeded, outcome⟩ := state.manager.removeAgent_registered handler.agent reason
        stamp registered (sound.rowed handler stored)
      rw [succeeded, Except.ok.injEq] at done
      exact sound.removed handler reason stamp after stored registered (done ▸ outcome) later alone
    · have unchanged : state.manager.removeAgent handler.agent reason stamp = .ok state.manager :=
        if_neg registered
      rw [unchanged, Except.ok.injEq] at done
      exact done ▸ sound
  | removalRaised handler reason stamp failure stored raised =>
    by_cases registered : state.manager.agents.HasKey handler.connId
    · obtain ⟨other, succeeded, _⟩ := state.manager.removeAgent_registered handler.agent reason
        stamp registered (sound.rowed handler stored)
      rw [succeeded] at raised
      exact absurd raised (by simp)
    · have unchanged : state.manager.removeAgent handler.agent reason stamp = .ok state.manager :=
        if_neg registered
      rw [unchanged] at raised
      exact absurd raised (by simp)
  | enabledSet uuid enabled => exact sound.enabledSet uuid enabled
  | relaid entries same => exact sound.relaid entries same

/-- An event is the disconnect event of a registered agent that the step takes out, and no
other registered agent has its identifier. -/
theorem events (sound : Sound state) (mapper : Mapper) (label : Label Uuid) (next : State Uuid)
    (stepped : State.step mapper state label = some next) :
    next.manager.events = state.manager.events ∨
      ∃ entry ∈ state.manager.agents.entries, ∃ reason,
        next.manager.events = ⟨entry.uuid, entry.connId, reason⟩ :: state.manager.events ∧
        entry ∉ next.manager.agents.entries ∧
        ∀ other ∈ state.manager.agents.entries, other.uuid = entry.uuid → other = entry := by
  have only : ∀ entry ∈ state.manager.agents.entries, ∀ other ∈ state.manager.agents.entries,
      other.uuid = entry.uuid → other = entry := by
    intro entry member other otherMember same
    exact (sound.consistent.coherent entry).single other otherMember entry member same rfl
  obtain ⟨_, effect⟩ := step_effect mapper state next label stepped
  cases effect with
  | registered handler evicted connected after stored setup done =>
    obtain ⟨visit, loop, _, admitted⟩ := Manager.register_eq_ok mapper state.manager handler.agent
      evicted connected after sound.known done
    have members := sound.mem_registered stored (Or.inl setup) loop admitted
    cases loop with
    | nobody harmless => exact Or.inl admitted.events
    | one atmp removed registered same outcome =>
      refine outcome.events.imp admitted.events.trans fun told =>
        ⟨atmp, registered, _, admitted.events.trans told, ?_, only atmp registered⟩
      intro stays
      rcases (members atmp).mp stays with equal | stays
      · exact sound.not_registered stored (Or.inl setup) ⟨atmp, registered, by rw [equal]; rfl⟩
      · exact ((outcome.mem_iff registered atmp).mp stays).2 rfl
  | removed handler reason stamp after stored done =>
    by_cases registered : state.manager.agents.HasKey handler.connId
    · obtain ⟨other, succeeded, outcome⟩ := state.manager.removeAgent_registered handler.agent reason
        stamp registered (sound.rowed handler stored)
      rw [succeeded, Except.ok.injEq] at done
      subst done
      obtain ⟨entry, member, key⟩ := registered
      have holds := (sound.registered_handler stored member key).1
      refine outcome.events.imp id fun told =>
        ⟨handler.agent, holds ▸ member, reason, told, ?_, holds ▸ only entry member⟩
      intro stays
      exact ((outcome.mem_iff (holds ▸ member) handler.agent).mp stays).2 rfl
    · have unchanged : state.manager.removeAgent handler.agent reason stamp = .ok state.manager :=
        if_neg registered
      rw [unchanged, Except.ok.injEq] at done
      exact Or.inl (done ▸ rfl)
  | built | enabled | registrationRaised | failed | lost | finished | removalRaised | enabledSet
  | relaid => exact Or.inl rfl

end Sound

/-! ## Orderly runs -/

/-- A started process has no connected row and no connection. -/
theorem sound_of_started (state : State Uuid) (started : Started state) : Sound state := by
  obtain ⟨running, handlers, agents, sockets, stored, stamp, before, rows⟩ := started
  have nothing : ∀ uuid, ¬ state.manager.RowConnected uuid := by
    rintro uuid ⟨row, member, connected⟩
    rw [rows uuid, Option.mem_def, Option.map_eq_some_iff] at member
    obtain ⟨old, oldStored, rfl⟩ := member
    unfold AgentRow.updateLastDisconnectTime at connected
    by_cases was : old.Connected
    · rw [if_pos was] at connected
      exact absurd (connected stamp rfl) (Nat.not_lt.mpr (before uuid old oldStored))
    · rw [if_neg was] at connected
      exact was connected
  constructor
  · exact running
  · simp [handlers]
  · simp [agents, Consistent]
  · simp [agents]
  · simp [handlers]
  · intro connId shut
    rw [sockets connId] at shut
    exact absurd shut Bool.false_ne_true
  · intro uuid
    apply iff_of_false (nothing uuid)
    simp [State.Held, handlers]

variable [DecidableEq Uuid]

/-- The orderly runs. -/
def orderlyConnections (mapper : Mapper) : Machine (State Uuid) (Label Uuid) :=
  (connections mapper).restrict (Orderly mapper)

/-- Soundness is an invariant of the orderly runs. -/
theorem sound_invariant (mapper : Mapper) :
    (orderlyConnections mapper : Machine (State Uuid) (Label Uuid)).Invariant Sound where
  starts := sound_of_started
  preserved state label next sound stepped := by
    obtain ⟨orderly, accepted⟩ := Machine.restrict_step_eq_some.mp stepped
    exact sound.step mapper label next orderly accepted

/-- A process that has just started with an empty table. -/
def justStarted : State Nat where
  manager :=
    { agents := .empty
      rows := fun _ => none
      closed := fun _ => false
      sentDisconnectEvent := fun _ => false
      mainState := .disconnected
      events := [] }
  handlers := .empty
  exited := false

theorem justStarted_started : Started justStarted :=
  ⟨rfl, rfl, rfl, fun _ => rfl, fun _ => none, 0, by simp, by simp [justStarted]⟩

/-- An agent connects, is registered and reconnects before its first connection fails. -/
def reconnection : List (Label Nat) :=
  [.build ⟨1, 10, .archive⟩ 1, .register 1 2 3, .build ⟨2, 10, .archive⟩ 4, .register 2 5 6]

/-- The state in which the new connection is registered. -/
def reconnected : State Nat :=
  ((connections ⟨true, true⟩).run justStarted reconnection).getD justStarted

end Palette.Agents
