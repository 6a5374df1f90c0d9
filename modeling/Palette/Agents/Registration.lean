import Palette.Agents.Manager

/-!
# Registration and the consistency of the registered agents

Registration evicts entries that clash with the connecting agent. Its loop gets no
further than the first clashing entry: at an entry with the agent's own identifier it
stops, and at another primary the removal makes the iterator raise. So registration
leaves a consistent set exactly when no other primary is registered beside a connecting
primary, at most one entry has the agent's identifier, the remaining entries agree with
one another, and an evicting registration can still read the agent it registers.
-/

namespace Palette.Agents

open Palette.Foundation Palette.Status

universe u

variable {Uuid : Type u} [DecidableEq Uuid]

/-- Two entries that may be registered together. -/
def Apart (left right : Agent Uuid) : Prop :=
  left.uuid ≠ right.uuid ∧ ¬ BothPrimary left right

/-- Registered entries agree with one another. -/
def Consistent (entries : List (Agent Uuid)) : Prop :=
  ∀ left ∈ entries, ∀ right ∈ entries, left ≠ right → Apart left right

/-- An entry that conflicts with a connecting agent. -/
def Clashes (agent entry : Agent Uuid) : Prop :=
  entry.uuid = agent.uuid ∨ BothPrimary agent entry

instance (agent entry : Agent Uuid) : Decidable (Clashes agent entry) :=
  inferInstanceAs (Decidable (_ ∨ _))

/-- What registration is to leave behind. -/
structure Registered (before : Manager Uuid) (agent : Agent Uuid) (after : Manager Uuid) :
    Prop where
  present : agent ∈ after.agents.entries
  consistent : Consistent after.agents.entries
  kept : ∀ entry ∈ before.agents.entries, ¬ Clashes agent entry → entry ∈ after.agents.entries

/-- No other primary is registered beside a connecting primary, and an evicting
registration can read its agent. -/
structure Admissible (mapper : Mapper) (entries : List (Agent Uuid)) (agent : Agent Uuid) :
    Prop where
  noRival : ∀ entry ∈ entries, entry.uuid ≠ agent.uuid → ¬ BothPrimary agent entry
  readable : (∃ entry ∈ entries, entry.uuid = agent.uuid) → mapper.readable = true

/-- The entries with other identifiers agree with one another, and at most one entry
has the agent's identifier. -/
structure Coherent (entries : List (Agent Uuid)) (agent : Agent Uuid) : Prop where
  others : Consistent (entries.filter fun entry => entry.uuid ≠ agent.uuid)
  single : ∀ left ∈ entries, ∀ right ∈ entries,
    left.uuid = agent.uuid → right.uuid = agent.uuid → left = right

/-- A consistent set is coherent for every agent. -/
theorem Consistent.coherent {entries : List (Agent Uuid)} (consistent : Consistent entries)
    (agent : Agent Uuid) : Coherent entries agent := by
  constructor
  · intro left leftMember right rightMember
    exact consistent left (List.mem_of_mem_filter leftMember) right
      (List.mem_of_mem_filter rightMember)
  · intro left leftMember right rightMember leftSame rightSame
    by_contra different
    exact (consistent left leftMember right rightMember different).1 (leftSame.trans rightSame.symm)

instance (mapper : Mapper) (entries : List (Agent Uuid)) (agent : Agent Uuid) :
    Decidable (Admissible mapper entries agent) :=
  decidable_of_iff
    ((∀ entry ∈ entries, entry.uuid ≠ agent.uuid → ¬ BothPrimary agent entry) ∧
      ((∃ entry ∈ entries, entry.uuid = agent.uuid) → mapper.readable = true))
    ⟨fun holds => ⟨holds.1, holds.2⟩, fun holds => ⟨holds.noRival, holds.readable⟩⟩

namespace Manager

/-! ## The loop of registration -/

/-- A completed loop found no clash, or stopped at the first clashing entry, which had
the agent's identifier. A loop that meets another primary first raises. -/
theorem evict_eq (manager : Manager Uuid) (agent : Agent Uuid) (stamp : Nat)
    (known : manager.Known) :
    manager.evict agent stamp =
      match manager.agents.entries.find? (fun entry => decide (Clashes agent entry)) with
      | none => .ok ⟨manager, true⟩
      | some atmp =>
        if atmp.uuid = agent.uuid then
          (manager.removeAgent atmp (.alreadyConnectedWithUuid agent.uuid) stamp).map
            fun removed => ⟨removed, false⟩
        else .error .dictionaryChangedSize := by
  unfold evict
  rw [show manager.agents.entries.length =
      (fun visit : Visit Uuid => visit.manager.agents.entries.length) ⟨manager, true⟩ from rfl,
    iterate_eq_first (fun entry => decide (Clashes agent entry))]
  · cases chosen : manager.agents.entries.find? (fun entry => decide (Clashes agent entry)) with
    | none => rfl
    | some atmp =>
      have registered := List.mem_of_find?_eq_some chosen
      have clash : Clashes agent atmp := by simpa using List.find?_some chosen
      by_cases same : atmp.uuid = agent.uuid
      · simp only [evictBody, if_pos same]
        cases manager.removeAgent atmp (.alreadyConnectedWithUuid agent.uuid) stamp <;> rfl
      · have rival : BothPrimary agent atmp := clash.resolve_left same
        obtain ⟨after, removed, _⟩ := manager.removeAgent_registered atmp .primaryAlreadyConnected
          stamp (manager.hasKey_of_mem registered) (known atmp registered)
        simp only [evictBody, if_neg same, if_pos rival, removed, Except.map]
  · intro entry registered harmless
    have apart : ¬ Clashes agent entry := of_decide_eq_false harmless
    rw [evictBody, if_neg fun same => apart (Or.inl same), if_neg fun rival => apart (Or.inr rival)]
  · intro entry registered clash changed went
    have present := manager.hasKey_of_mem registered
    by_cases same : entry.uuid = agent.uuid
    · simp only [evictBody, if_pos same] at went
      cases outcome : manager.removeAgent entry (.alreadyConnectedWithUuid agent.uuid) stamp with
      | error failure => simp [outcome, Except.map] at went
      | ok after => simp [outcome, Except.map] at went
    · by_cases rival : BothPrimary agent entry
      · obtain ⟨after, removed, gone⟩ := manager.removeAgent_registered entry
          .primaryAlreadyConnected stamp present (known entry registered)
        simp only [evictBody, if_neg same, if_pos rival, removed, Except.map, Except.ok.injEq,
          Pass.next.injEq] at went
        rw [← went, gone.agents]
        exact Nat.ne_of_lt (manager.agents.length_del_lt present)
      · exact absurd (of_decide_eq_true clash) (not_or.mpr ⟨same, rival⟩)

/-- How a completed loop got there: no entry clashed, or the first entry that did had
the agent's identifier and was removed. -/
inductive Evicted (manager : Manager Uuid) (agent : Agent Uuid) (stamp : Nat) :
    Visit Uuid → Prop where
  | nobody (harmless : ∀ entry ∈ manager.agents.entries, ¬ Clashes agent entry) :
      Evicted manager agent stamp ⟨manager, true⟩
  | one (atmp : Agent Uuid) (removed : Manager Uuid) (registered : atmp ∈ manager.agents.entries)
      (same : atmp.uuid = agent.uuid)
      (outcome : manager.Removed atmp (.alreadyConnectedWithUuid agent.uuid) stamp removed) :
      Evicted manager agent stamp ⟨removed, false⟩

theorem evicted_of_ok (manager : Manager Uuid) (agent : Agent Uuid) (stamp : Nat)
    (visit : Visit Uuid) (known : manager.Known) (done : manager.evict agent stamp = .ok visit) :
    manager.Evicted agent stamp visit := by
  rw [manager.evict_eq agent stamp known] at done
  cases chosen : manager.agents.entries.find? (fun entry => decide (Clashes agent entry)) with
  | none =>
    simp only [chosen, Except.ok.injEq] at done
    subst done
    exact .nobody fun entry registered =>
      of_decide_eq_false (Bool.not_eq_true _ ▸ List.find?_eq_none.mp chosen entry registered)
  | some atmp =>
    have registered := List.mem_of_find?_eq_some chosen
    obtain ⟨removed, succeeded, outcome⟩ := manager.removeAgent_registered atmp
      (.alreadyConnectedWithUuid agent.uuid) stamp (manager.hasKey_of_mem registered)
      (known atmp registered)
    by_cases same : atmp.uuid = agent.uuid
    · simp only [chosen, if_pos same, succeeded, Except.map, Except.ok.injEq] at done
      subst done
      exact .one atmp removed registered same outcome
    · simp [chosen, same] at done

/-- Without another primary beside a connecting primary the loop completes. -/
theorem evict_completes (manager : Manager Uuid) (agent : Agent Uuid) (stamp : Nat)
    (known : manager.Known)
    (noRival : ∀ entry ∈ manager.agents.entries, entry.uuid ≠ agent.uuid →
      ¬ BothPrimary agent entry) :
    ∃ visit, manager.evict agent stamp = .ok visit := by
  rw [manager.evict_eq agent stamp known]
  cases chosen : manager.agents.entries.find? (fun entry => decide (Clashes agent entry)) with
  | none => exact ⟨_, rfl⟩
  | some atmp =>
    have registered := List.mem_of_find?_eq_some chosen
    have clash : Clashes agent atmp := by simpa using List.find?_some chosen
    have same : atmp.uuid = agent.uuid := by
      by_contra apart
      exact clash.elim apart (noRival atmp registered apart)
    obtain ⟨removed, succeeded, _⟩ := manager.removeAgent_registered atmp
      (.alreadyConnectedWithUuid agent.uuid) stamp (manager.hasKey_of_mem registered)
      (known atmp registered)
    simp only [if_pos same, succeeded, Except.map]
    exact ⟨_, rfl⟩

/-- A completed loop keeps the entries with other identifiers. -/
theorem Evicted.kept {manager : Manager Uuid} {agent : Agent Uuid} {stamp : Nat}
    {visit : Visit Uuid} (evicted : manager.Evicted agent stamp visit) {entry : Agent Uuid}
    (registered : entry ∈ manager.agents.entries) (apart : entry.uuid ≠ agent.uuid) :
    entry ∈ visit.manager.agents.entries := by
  cases evicted with
  | nobody harmless => exact registered
  | one atmp removed stored same outcome =>
    exact (outcome.mem_iff stored entry).mpr ⟨registered, fun equal => apart (equal ▸ same)⟩

/-- A completed loop adds no entry. -/
theorem Evicted.subset {manager : Manager Uuid} {agent : Agent Uuid} {stamp : Nat}
    {visit : Visit Uuid} (evicted : manager.Evicted agent stamp visit) {entry : Agent Uuid}
    (stays : entry ∈ visit.manager.agents.entries) : entry ∈ manager.agents.entries := by
  cases evicted with
  | nobody harmless => exact stays
  | one atmp removed stored same outcome => exact ((outcome.mem_iff stored entry).mp stays).1

/-- Where at most one entry has the agent's identifier, a completed loop leaves none. -/
theorem Evicted.cleared {manager : Manager Uuid} {agent : Agent Uuid} {stamp : Nat}
    {visit : Visit Uuid} (evicted : manager.Evicted agent stamp visit)
    (single : ∀ left ∈ manager.agents.entries, ∀ right ∈ manager.agents.entries,
      left.uuid = agent.uuid → right.uuid = agent.uuid → left = right)
    {entry : Agent Uuid} (stays : entry ∈ visit.manager.agents.entries) :
    entry.uuid ≠ agent.uuid := by
  cases evicted with
  | nobody harmless => exact fun same => harmless entry stays (Or.inl same)
  | one atmp removed stored same outcome =>
    obtain ⟨registered, other⟩ := (outcome.mem_iff stored entry).mp stays
    exact fun equal => other (single entry registered atmp stored equal same)

/-! ## Admission -/

/-- What admission after the loop leaves behind. -/
structure Admitted (mapper : Mapper) (visit : Visit Uuid) (agent : Agent Uuid) (stamp : Nat)
    (after : Manager Uuid) : Prop where
  agents : after.agents = visit.manager.agents.put agent
  rows : after.rows = (timeConnection mapper visit agent stamp).rows
  closed : after.closed = visit.manager.closed
  events : after.events = visit.manager.events

/-- Admission succeeds exactly when the agent can still be read. -/
theorem enroll_eq_ok (mapper : Mapper) (visit : Visit Uuid) (agent : Agent Uuid) (stamp : Nat)
    (after : Manager Uuid) (done : enroll mapper visit agent stamp = .ok after) :
    (visit.attached ∨ mapper.readable) ∧ Admitted mapper visit agent stamp after := by
  by_cases legible : visit.attached ∨ mapper.readable
  · simp only [enroll, if_pos legible, Except.ok.injEq] at done
    subst done
    have untouched : (timeConnection mapper visit agent stamp).agents = visit.manager.agents ∧
        (timeConnection mapper visit agent stamp).closed = visit.manager.closed ∧
        (timeConnection mapper visit agent stamp).events = visit.manager.events := by
      unfold timeConnection
      split <;> exact ⟨rfl, rfl, rfl⟩
    exact ⟨legible, by rw [untouched.1], rfl, untouched.2.1, untouched.2.2⟩
  · simp [enroll, legible] at done

theorem enroll_completes (mapper : Mapper) (visit : Visit Uuid) (agent : Agent Uuid) (stamp : Nat)
    (legible : visit.attached ∨ mapper.readable) :
    ∃ after, enroll mapper visit agent stamp = .ok after := by
  unfold enroll
  rw [if_pos legible]
  exact ⟨_, rfl⟩

/-- A registration that returns completed its loop and admitted the agent. -/
theorem register_eq_ok (mapper : Mapper) (manager : Manager Uuid) (agent : Agent Uuid)
    (evicted connected : Nat) (after : Manager Uuid) (known : manager.Known)
    (done : register mapper manager agent evicted connected = .ok after) :
    ∃ visit, manager.Evicted agent evicted visit ∧ (visit.attached ∨ mapper.readable) ∧
      Admitted mapper visit agent connected after := by
  unfold register at done
  cases loop : manager.evict agent evicted with
  | error failure => simp [loop] at done
  | ok visit =>
    simp only [loop] at done
    exact ⟨visit, manager.evicted_of_ok agent evicted visit known loop,
      enroll_eq_ok mapper visit agent connected after done⟩

/-- An admissible agent is registered. -/
theorem register_completes (mapper : Mapper) (manager : Manager Uuid) (agent : Agent Uuid)
    (evicted connected : Nat) (known : manager.Known)
    (admissible : Admissible mapper manager.agents.entries agent) :
    ∃ after, register mapper manager agent evicted connected = .ok after := by
  obtain ⟨visit, loop⟩ := manager.evict_completes agent evicted known admissible.noRival
  unfold register
  simp only [loop]
  apply enroll_completes
  cases manager.evicted_of_ok agent evicted visit known loop with
  | nobody harmless => exact Or.inl rfl
  | one atmp removed registered same outcome =>
    exact Or.inr (admissible.readable ⟨atmp, registered, same⟩)

/-- A registration that leaves a consistent set met no other primary beside a connecting
primary and could read its agent: an entry with another identifier is kept. -/
theorem admissible_of_registered (mapper : Mapper) (manager : Manager Uuid) (agent : Agent Uuid)
    (evicted connected : Nat) (after : Manager Uuid) (known : manager.Known)
    (fresh : ¬ manager.agents.HasKey agent.connId)
    (done : register mapper manager agent evicted connected = .ok after)
    (registered : Registered manager agent after) :
    Admissible mapper manager.agents.entries agent := by
  obtain ⟨visit, loop, legible, admitted⟩ := register_eq_ok _ _ _ _ _ _ known done
  constructor
  · intro entry stored apart rival
    have stays : entry ∈ after.agents.entries := by
      rw [admitted.agents, Dictionary.mem_put]
      exact Or.inr ⟨loop.kept stored apart, fun same => fresh ⟨entry, stored, same⟩⟩
    have different : agent ≠ entry := fun same => apart (same ▸ rfl)
    exact (registered.consistent agent registered.present entry stays different).2 rival
  · rintro ⟨entry, stored, same⟩
    cases loop with
    | nobody harmless => exact absurd (Or.inl same) (harmless entry stored)
    | one atmp removed registered same outcome => exact legible.resolve_left Bool.false_ne_true

/-- The entries that such a registration met agreed with one another, apart from at most
one that it replaced. -/
theorem coherent_of_registered (mapper : Mapper) (manager : Manager Uuid) (agent : Agent Uuid)
    (evicted connected : Nat) (after : Manager Uuid) (known : manager.Known)
    (fresh : ¬ manager.agents.HasKey agent.connId)
    (done : register mapper manager agent evicted connected = .ok after)
    (registered : Registered manager agent after) : Coherent manager.agents.entries agent := by
  obtain ⟨visit, loop, _, admitted⟩ := register_eq_ok _ _ _ _ _ _ known done
  have stays : ∀ entry ∈ visit.manager.agents.entries, entry ∈ after.agents.entries := by
    intro entry stored
    rw [admitted.agents, Dictionary.mem_put]
    exact Or.inr ⟨stored, fun same => fresh ⟨entry, loop.subset stored, same⟩⟩
  constructor
  · intro left leftStored right rightStored different
    obtain ⟨leftMember, leftApart⟩ := List.mem_filter.mp leftStored
    obtain ⟨rightMember, rightApart⟩ := List.mem_filter.mp rightStored
    exact registered.consistent
      left (stays left (loop.kept leftMember (of_decide_eq_true leftApart)))
      right (stays right (loop.kept rightMember (of_decide_eq_true rightApart))) different
  · have replaced : ∀ entry ∈ visit.manager.agents.entries, entry.uuid ≠ agent.uuid := by
      intro entry stored same
      have different : entry ≠ agent := fun equal => fresh ⟨entry, loop.subset stored, by rw [equal]⟩
      exact (registered.consistent entry (stays entry stored) agent registered.present different).1
        same
    intro left leftStored right rightStored leftSame rightSame
    cases loop with
    | nobody harmless => exact absurd (Or.inl leftSame) (harmless left leftStored)
    | one atmp removed stored same outcome =>
      have only : ∀ entry ∈ manager.agents.entries, entry.uuid = agent.uuid → entry = atmp := by
        intro entry member equal
        by_contra other
        exact replaced entry ((outcome.mem_iff stored entry).mpr ⟨member, other⟩) equal
      rw [only left leftStored leftSame, only right rightStored rightSame]

/-- Admission into coherent entries leaves a consistent set. -/
theorem registered_of_coherent (mapper : Mapper) (manager : Manager Uuid) (agent : Agent Uuid)
    (evicted connected : Nat) (after : Manager Uuid) (known : manager.Known)
    (fresh : ¬ manager.agents.HasKey agent.connId)
    (done : register mapper manager agent evicted connected = .ok after)
    (admissible : Admissible mapper manager.agents.entries agent)
    (coherent : Coherent manager.agents.entries agent) : Registered manager agent after := by
  obtain ⟨visit, loop, _, admitted⟩ := register_eq_ok _ _ _ _ _ _ known done
  have members : ∀ entry, entry ∈ after.agents.entries ↔
      entry = agent ∨ entry ∈ visit.manager.agents.entries := by
    intro entry
    rw [admitted.agents, Dictionary.mem_put]
    constructor
    · exact Or.imp_right And.left
    · exact Or.imp_right fun stored => ⟨stored, fun same => fresh ⟨entry, loop.subset stored, same⟩⟩
  have other : ∀ entry ∈ visit.manager.agents.entries, entry.uuid ≠ agent.uuid :=
    fun entry stored => loop.cleared coherent.single stored
  have harmless : ∀ entry ∈ visit.manager.agents.entries, ¬ BothPrimary agent entry :=
    fun entry stored => admissible.noRival entry (loop.subset stored) (other entry stored)
  constructor
  · exact (members agent).mpr (Or.inl rfl)
  · intro left leftStored right rightStored different
    rcases (members left).mp leftStored with rfl | leftOld
    · rcases (members right).mp rightStored with rfl | rightOld
      · exact absurd rfl different
      · exact ⟨(other right rightOld).symm, harmless right rightOld⟩
    · rcases (members right).mp rightStored with rfl | rightOld
      · exact ⟨other left leftOld, fun rival => harmless left leftOld rival.symm⟩
      · exact coherent.others
          left (List.mem_filter.mpr ⟨loop.subset leftOld, decide_eq_true (other left leftOld)⟩)
          right (List.mem_filter.mpr ⟨loop.subset rightOld, decide_eq_true (other right rightOld)⟩)
          different
  · intro entry stored apart
    exact (members entry).mpr (Or.inr (loop.kept stored fun same => apart (Or.inl same)))

/-- Registration completes and leaves the connecting agent among consistent entries, with
every entry kept that does not conflict with it, exactly when no other primary is
registered beside a connecting primary, an evicting registration can read its agent, and
the entries were coherent to begin with. -/
theorem register_keeps_consistent_iff (mapper : Mapper) (manager : Manager Uuid)
    (agent : Agent Uuid) (evicted connected : Nat) (known : manager.Known)
    (fresh : ¬ manager.agents.HasKey agent.connId) :
    (∃ after, register mapper manager agent evicted connected = .ok after ∧
      Registered manager agent after) ↔
      Admissible mapper manager.agents.entries agent ∧ Coherent manager.agents.entries agent := by
  constructor
  · rintro ⟨after, done, registered⟩
    exact ⟨admissible_of_registered _ _ _ _ _ _ known fresh done registered,
      coherent_of_registered _ _ _ _ _ _ known fresh done registered⟩
  · rintro ⟨admissible, coherent⟩
    obtain ⟨after, done⟩ := register_completes mapper manager agent evicted connected known
      admissible
    exact ⟨after, done,
      registered_of_coherent _ _ _ _ _ _ known fresh done admissible coherent⟩

/-- One registered primary. -/
def onePrimary : Manager Nat where
  agents := Dictionary.empty.put ⟨1, 10, .primary⟩
  rows _ := some ⟨true, 3, none⟩
  closed _ := false
  sentDisconnectEvent _ := false
  mainState := .started
  events := []

/-- The primary reconnects with its own identifier. -/
theorem reconnect_keeps_consistent :
    ∃ after, register ⟨true, true⟩ onePrimary ⟨2, 10, .primary⟩ 5 6 = .ok after ∧
      Registered onePrimary ⟨2, 10, .primary⟩ after := by
  apply (register_keeps_consistent_iff ⟨true, true⟩ onePrimary ⟨2, 10, .primary⟩ 5 6
    (fun _ _ => rfl) (by decide)).mpr
  refine ⟨by decide, ?_, ?_⟩
  · intro left member
    exact absurd (List.mem_filter.mp member).2 (by
      have only : left = ⟨1, 10, .primary⟩ := List.mem_singleton.mp (List.mem_filter.mp member).1
      simp [only])
  · intro left leftStored right rightStored _ _
    exact (List.mem_singleton.mp leftStored).trans (List.mem_singleton.mp rightStored).symm

/-- Another primary connects while one is registered: the loop removes the registered
one, and the iterator raises at its next call. -/
theorem second_primary_ends_registration :
    onePrimary.Known ∧ ¬ onePrimary.agents.HasKey 2 ∧ Consistent onePrimary.agents.entries ∧
      ¬ ∃ after, register ⟨true, true⟩ onePrimary ⟨2, 20, .primary⟩ 5 6 = .ok after ∧
        Registered onePrimary ⟨2, 20, .primary⟩ after := by
  refine ⟨fun _ _ => rfl, by decide, ?_, ?_⟩
  · intro left leftStored right rightStored different
    exact absurd ((List.mem_singleton.mp leftStored).trans (List.mem_singleton.mp rightStored).symm)
      different
  · rintro ⟨after, done, _⟩
    have raised : register ⟨true, true⟩ onePrimary ⟨2, 20, .primary⟩ 5 6 =
        .error .dictionaryChangedSize := rfl
    rw [raised] at done
    exact absurd done (by simp)

end Manager

end Palette.Agents
