import Palette.Foundation.Superseded
import Palette.Load.RevisionRuns

/-!
# A load does not prune what it added

A record that a load adds is of the greatest revision that its item ever had, and the records
of greater revisions are not older: no record of the item is later than the new one. This holds
in every run, also where loads fail and leave items behind, and whatever happens to the records
between the loads: some are archived later, and some are removed.
-/

namespace Palette.Load

open Palette.Foundation

universe u

variable {Content : Type u}

/-- The columns of the records that the prune statement reads. -/
def missedColumns : Sql.Columns UpdateEntry ItemKey where
  group update := some update.key
  age := UpdateEntry.timestamp
  counts update := some !update.archived

/-- Removing missed revisions is the prune statement. -/
theorem pruneMissedRevisions_eq (store : Store Content) :
    store.pruneMissedRevisions.updates = missedColumns.rest store.updates := by
  refine List.filter_congr fun update stored => ?_
  have unspared : ¬ missedColumns.Spared store.updates update := by
    rintro ⟨newest, -, -, -, unknown | unknown⟩ <;> cases unknown
  rw [Bool.eq_iff_iff, Bool.not_eq_true', ← Bool.not_eq_true, Sql.Columns.deletes_iff stored,
    decide_eq_true_eq]
  simp only [Sql.Columns.Counts, Sql.Columns.Superseded, missedColumns, Sql.selects,
    Option.some.injEq, beq_iff_eq, Bool.not_eq_true'] at unspared ⊢
  constructor
  · rintro (archived | newest) ⟨missed, ⟨later, laterStored, laterMissed, same, older⟩, -⟩
    · rw [missed] at archived
      cases archived
    · exact absurd (newest later laterStored same laterMissed) (Nat.not_le_of_lt older)
  · intro stays
    cases missed : update.archived with
    | true => exact .inl rfl
    | false =>
      refine .inr fun other otherStored same otherMissed => Nat.le_of_not_lt fun older => ?_
      exact stays ⟨missed, ⟨other, otherStored, otherMissed, same, older⟩, unspared⟩

/-- What happens to the records: the remote table changes, loads run, records are removed, and
missed ones are archived later. -/
inductive Happening (Content : Type u) where
  | change (label : Label Content)
  | discard (keeps : UpdateEntry → Bool)
  | fixup (built : UpdateEntry → Bool)

/-- Removing some of the records. -/
def Store.discard (store : Store Content) (keeps : UpdateEntry → Bool) : Store Content :=
  { store with updates := store.updates.filter keeps }

/-- The records that a load adds and is to archive. -/
def added (sample : Option Int) (reply : List (RemoteItem Content)) (store : Store Content) :
    List UpdateEntry :=
  ((unskipped sample reply).filter fun item => ¬ store.Recorded item).map RemoteItem.update

variable [DecidableEq Content]

/-- One step. -/
def State.happen (sample : Option Int) (state : State Content) :
    Happening Content → Option (State Content)
  | .change label => state.step sample label
  | .discard keeps => some { state with store := state.store.discard keeps }
  | .fixup built => some { state with store := state.store.archive built }

/-- Loads and everything that happens between them. -/
def prunedMachine (sample : Option Int) : Machine (State Content) (Happening Content) where
  initial state := state = State.init
  step := State.happen sample

/-- What holds in every run. -/
structure InOrder (state : State Content) : Prop where
  remoteDistinct : (state.remote.map RemoteItem.key).Nodup
  past : ∀ item ∈ state.remote, item.updatedAt ≤ state.clock
  current : ∀ item ∈ state.remote, item.revision = state.revisions item.key
  store : StoreKept state.clock state.revisions state.store

omit [DecidableEq Content] in
/-- Removing records keeps the local tables in order. -/
theorem StoreKept.discard {clock : Instant} {revisions : ItemKey → Nat} {store : Store Content}
    (kept : StoreKept clock revisions store) (keeps : UpdateEntry → Bool) :
    StoreKept clock revisions (store.discard keeps) where
  stamped := kept.stamped
  distinct := kept.distinct.filter _
  bounded update member := kept.bounded update (List.mem_of_mem_filter member)
  dated update member := kept.dated update (List.mem_of_mem_filter member)
  ordered left leftMember right rightMember :=
    kept.ordered left (List.mem_of_mem_filter leftMember) right (List.mem_of_mem_filter rightMember)

omit [DecidableEq Content] in
/-- A load reads current items, with different keys, that are later than everything stored. -/
theorem InOrder.reads {state : State Content} (inOrder : InOrder state) {known : Option Int}
    {reply : List (RemoteItem Content)} (answered : reply.Perm state.selected) :
    ((unskipped known reply).map RemoteItem.key).Nodup ∧
      ∀ item ∈ unskipped known reply, item ∈ state.remote ∧
        ∀ entry ∈ state.store.entries, entry.updatedAt < item.updatedAt := by
  have selectedUnique : (state.selected.map RemoteItem.key).Nodup :=
    inOrder.remoteDistinct.sublist (List.filter_sublist.map _)
  have replyUnique : (reply.map RemoteItem.key).Nodup :=
    ((answered.map RemoteItem.key).nodup_iff).mpr selectedUnique
  refine ⟨replyUnique.sublist (List.filter_sublist.map _), fun item listed => ?_⟩
  have selected := answered.mem_iff.mp (List.mem_of_mem_filter listed)
  obtain ⟨present, later⟩ := List.mem_filter.mp selected
  exact ⟨present, (selects_iff state.store item).mp later⟩

omit [DecidableEq Content] in
/-- Committing a part of what a load reads keeps the local tables in order. -/
theorem InOrder.commit {state : State Content} (inOrder : InOrder state) {known : Option Int}
    {reply processed stored : List (RemoteItem Content)} {final : Store Content}
    (answered : reply.Perm state.selected) (sublist : processed.Sublist (unskipped known reply))
    (storedSublist : stored.Sublist (unskipped known reply))
    (committed : Committed state.store processed stored final) :
    StoreKept state.clock state.revisions final := by
  obtain ⟨unique, reads⟩ := @InOrder.reads _ _ inOrder known _ answered
  exact committed.kept inOrder.store (unique.sublist (sublist.map _))
    (fun item listed => inOrder.past item (reads item (storedSublist.subset listed)).1)
    (fun item listed => (reads item (storedSublist.subset listed)).2)
    (fun item listed => inOrder.current item (reads item (sublist.subset listed)).1)

omit [DecidableEq Content] in
/-- The tables are in order before a load prunes. -/
theorem InOrder.processed {state : State Content} (inOrder : InOrder state) {known : Option Int}
    {reply : List (RemoteItem Content)} (answered : reply.Perm state.selected) :
    StoreKept state.clock state.revisions
      ((unskipped known reply).foldl Store.process state.store) :=
  inOrder.commit answered (.refl _) (.refl _)
    (foldl_committed (unskipped known reply) state.store (inOrder.reads answered).1)

omit [DecidableEq Content] in
/-- A load keeps the order, however far it gets. -/
theorem InOrder.load {state : State Content} (inOrder : InOrder state) {known : Option Int}
    {reply : List (RemoteItem Content)} (answered : reply.Perm state.selected)
    (outcome : Outcome) :
    InOrder { state with store := loadItems known reply outcome state.store } := by
  refine ⟨inOrder.remoteDistinct, inOrder.past, inOrder.current, ?_⟩
  cases outcome with
  | completed built => exact (inOrder.processed answered).prune.archive built
  | failed full half =>
    exact inOrder.commit answered (List.take_sublist _ _) (List.take_sublist _ _)
      (failed_committed known reply full half state.store (inOrder.reads answered).1)

omit [DecidableEq Content] in
/-- A publication keeps the order: its revision is the greatest of its key, and it is not
before anything. -/
theorem InOrder.publish {state : State Content} (inOrder : InOrder state)
    (item : RemoteItem Content) (stamped : state.clock ≤ item.updatedAt)
    (counted : state.revisions item.key ≤ item.revision) :
    InOrder { state with
      remote := (state.remote.filter fun row => row.key ≠ item.key) ++ [item]
      clock := item.updatedAt
      revisions := Function.update state.revisions item.key item.revision } := by
  have member : ∀ row, row ∈ (state.remote.filter fun row => row.key ≠ item.key) ++ [item] ↔
      row ∈ state.remote ∧ row.key ≠ item.key ∨ row = item := by
    intro row
    simp only [List.mem_append, List.mem_filter, decide_eq_true_eq, List.mem_singleton]
  constructor
  case remoteDistinct =>
    have others : ((state.remote.filter fun row => row.key ≠ item.key).map RemoteItem.key).Nodup :=
      inOrder.remoteDistinct.sublist (List.filter_sublist.map _)
    rw [List.map_append, List.nodup_append]
    refine ⟨others, List.nodup_singleton _, ?_⟩
    intro key listed other single same
    obtain ⟨row, filtered, rfl⟩ := List.mem_map.mp listed
    have different : row.key ≠ item.key := by simpa using (List.mem_filter.mp filtered).2
    exact different (same.trans (List.mem_singleton.mp single))
  case past =>
    intro row present
    rcases (member row).mp present with ⟨before, -⟩ | rfl
    · exact Nat.le_trans (inOrder.past row before) stamped
    · exact Nat.le_refl _
  case current =>
    intro row present
    rcases (member row).mp present with ⟨before, different⟩ | rfl
    · simpa only [Function.update_of_ne different] using inOrder.current row before
    · simp only [Function.update_self]
  case store =>
    refine ⟨fun entry stored => Nat.le_trans (inOrder.store.stamped entry stored) stamped,
      inOrder.store.distinct, fun update stored => ?_, inOrder.store.dated, inOrder.store.ordered⟩
    have bound := inOrder.store.bounded update stored
    by_cases same : update.key = item.key
    · rw [same] at bound ⊢
      simpa only [Function.update_self] using Nat.le_trans bound counted
    · simpa only [Function.update_of_ne same] using bound

/-- The order holds in every run. -/
theorem inOrder_invariant (sample : Option Int) :
    (prunedMachine sample : Machine (State Content) (Happening Content)).Invariant InOrder where
  starts state initial := by
    subst initial
    refine ⟨by simp [State.init], ?_, ?_, ⟨?_, ?_, ?_, ?_, ?_⟩⟩ <;> simp [State.init]
  preserved state happening next inOrder stepped := by
    cases happening with
    | discard keeps =>
      cases stepped
      exact ⟨inOrder.remoteDistinct, inOrder.past, inOrder.current, inOrder.store.discard keeps⟩
    | fixup built =>
      cases stepped
      exact ⟨inOrder.remoteDistinct, inOrder.past, inOrder.current, inOrder.store.archive built⟩
    | change label =>
      cases label with
      | publish item =>
        simp only [prunedMachine, State.happen, State.step, Option.ite_none_right_eq_some,
          Option.some.injEq] at stepped
        obtain ⟨⟨stamped, counted⟩, rfl⟩ := stepped
        exact inOrder.publish item stamped counted
      | remove key =>
        cases stepped
        exact ⟨inOrder.remoteDistinct.sublist (List.filter_sublist.map _),
          fun item present => inOrder.past item (List.mem_of_mem_filter present),
          fun item present => inOrder.current item (List.mem_of_mem_filter present), inOrder.store⟩
      | load reply outcome =>
        simp only [prunedMachine, State.happen, State.step, Option.ite_none_right_eq_some,
          Option.some.injEq] at stepped
        obtain ⟨⟨answered, -⟩, rfl⟩ := stepped
        exact inOrder.load answered outcome
      | workbookLoad known reply outcome =>
        simp only [prunedMachine, State.happen, State.step, Option.ite_none_right_eq_some,
          Option.some.injEq] at stepped
        obtain ⟨⟨answered, -⟩, rfl⟩ := stepped
        exact inOrder.load answered outcome

/-- What a load adds in a run is not pruned before the load archives it. -/
theorem added_unpruned {sample known : Option Int} {state : State Content}
    (reachable : (prunedMachine sample).Reachable state) {reply : List (RemoteItem Content)}
    (answered : reply.Perm state.selected) :
    ∀ update ∈ added known reply state.store,
      update ∈ ((unskipped known reply).foldl Store.process state.store).pruneMissedRevisions.updates := by
  have inOrder := (inOrder_invariant sample).reachable reachable
  have kept := @InOrder.processed _ _ inOrder known _ answered
  obtain ⟨unique, reads⟩ := @InOrder.reads _ _ inOrder known _ answered
  intro update listed
  obtain ⟨item, filtered, rfl⟩ := List.mem_map.mp listed
  have current := inOrder.current item (reads item (List.mem_of_mem_filter filtered)).1
  have stored : item.update ∈ ((unskipped known reply).foldl Store.process state.store).updates := by
    rw [(foldl_process _ state.store unique).2]
    exact List.mem_append_right _ listed
  refine List.mem_filter.mpr ⟨stored, decide_eq_true (.inr fun other otherStored same _ => ?_)⟩
  refine kept.ordered other otherStored item.update stored same ?_
  have bound := kept.bounded other otherStored
  rw [same] at bound
  exact bound.trans current.ge

end Palette.Load
