import Palette.Load.Revisions

/-!
# No revision is lost in a lossless run

The invariant says of every remote item that counts: it is later than everything
stored, so the next load asks for it, or its revision is recorded. A publication makes
its item pending, because it does not tie with a stored one. A load turns the pending
items it processes into recorded ones and, being lossless when it fails, leaves the
rest pending.

Removing missed revisions does not remove a current one: updates of one item with
greater revisions are not older, and the current revision is the greatest the item
ever had.
-/

namespace Palette.Load

open Palette.Foundation

universe u

variable {Content : Type u}

/-- What a load leaves when it commits the entries of some items and the records of the
first of these. -/
structure Committed (store : Store Content) (processed stored : List (RemoteItem Content))
    (final : Store Content) : Prop where
  entries : ∀ entry, entry ∈ final.entries ↔
    (entry ∈ store.entries ∧ ∀ item ∈ stored, entry.key ≠ item.key) ∨
      ∃ item ∈ stored, entry = item.entry
  updates : final.updates =
    store.updates ++ (processed.filter fun item => ¬ store.Recorded item).map RemoteItem.update
  within : ∀ item ∈ processed, item ∈ stored

/-- Processing every item commits all of them. -/
theorem foldl_committed (items : List (RemoteItem Content)) (store : Store Content)
    (unique : (items.map RemoteItem.key).Nodup) :
    Committed store items items (items.foldl Store.process store) :=
  ⟨(foldl_process items store unique).1, (foldl_process items store unique).2, fun _ => id⟩

/-- A failing load commits the records of the items before its failure and the entries
of those and possibly one more. -/
theorem failed_committed (sample : Option Int) (reply : List (RemoteItem Content)) (full : Nat)
    (half : Bool) (store : Store Content)
    (unique : ((unskipped sample reply).map RemoteItem.key).Nodup) :
    Committed store ((unskipped sample reply).take full)
      ((unskipped sample reply).take (copied full half))
      (loadItems sample reply (.failed full half) store) := by
  have prefixUnique : (((unskipped sample reply).take full).map RemoteItem.key).Nodup :=
    unique.sublist ((List.take_sublist _ _).map _)
  have base := foldl_committed ((unskipped sample reply).take full) store prefixUnique
  have more : (unskipped sample reply).take (copied full true) =
      (unskipped sample reply).take full ++ (unskipped sample reply)[full]?.toList := by
    rw [copied, if_pos rfl, List.take_add_one]
  cases half with
  | false => simpa only [loadItems, copied, Bool.false_eq_true, if_false, Nat.add_zero] using base
  | true =>
    cases found : (unskipped sample reply)[full]? with
    | none =>
      rw [more, found, Option.toList_none, List.append_nil]
      simpa only [loadItems, found] using base
    | some item =>
      rw [more, found, Option.toList_some]
      have fresh : ∀ other ∈ (unskipped sample reply).take full, item.key ≠ other.key := by
        have distinct : (((unskipped sample reply).take full ++ [item]).map RemoteItem.key).Nodup := by
          rw [← Option.toList_some, ← found, ← more]
          exact unique.sublist ((List.take_sublist _ _).map _)
        rw [List.map_append, List.nodup_append] at distinct
        intro other member same
        exact distinct.2.2 _ (List.mem_map_of_mem member) _ (List.mem_singleton_self _) same.symm
      simp only [loadItems, found]
      refine ⟨fun entry => ?_, base.updates, fun other member => List.mem_append_left _ member⟩
      rw [mem_copy, base.entries]
      simp only [List.mem_append, List.mem_singleton, or_imp, forall_and, forall_eq]
      constructor
      · rintro (⟨⟨stored, others⟩ | ⟨other, member, rfl⟩, apart⟩ | rfl)
        · exact .inl ⟨stored, others, apart⟩
        · exact .inr ⟨other, .inl member, rfl⟩
        · exact .inr ⟨item, .inr rfl, rfl⟩
      · rintro (⟨stored, others, apart⟩ | ⟨other, member | rfl, rfl⟩)
        · exact .inl ⟨.inl ⟨stored, others⟩, apart⟩
        · exact .inl ⟨.inr ⟨other, member, rfl⟩, (fresh other member).symm⟩
        · exact .inr rfl

/-- After a commit an item is recorded exactly when it was before or one of the
processed items has its key and revision. -/
theorem Committed.recorded {store final : Store Content}
    {processed stored : List (RemoteItem Content)}
    (committed : Committed store processed stored final) (item : RemoteItem Content) :
    final.Recorded item ↔ store.Recorded item ∨
      ∃ other ∈ processed, other.key = item.key ∧ other.revision = item.revision := by
  unfold Store.Recorded
  rw [committed.updates]
  simp only [List.mem_append, List.mem_map, List.mem_filter, decide_eq_true_eq]
  constructor
  · rintro ⟨update, before | ⟨other, ⟨member, -⟩, rfl⟩, records⟩
    · exact .inl ⟨update, before, records⟩
    · exact .inr ⟨other, member, records⟩
  · rintro (⟨update, before, records⟩ | ⟨other, member, same⟩)
    · exact ⟨update, .inl before, records⟩
    · by_cases known : store.Recorded other
      · obtain ⟨update, before, records⟩ := known
        exact ⟨update, .inl before, records.1.trans same.1, records.2.trans same.2⟩
      · exact ⟨other.update, .inr ⟨other, ⟨member, known⟩, rfl⟩, same⟩

/-- What always holds of the local tables, given the clock and the greatest revisions. -/
structure StoreKept (clock : Instant) (revisions : ItemKey → Nat) (store : Store Content) :
    Prop where
  stamped : ∀ entry ∈ store.entries, entry.updatedAt ≤ clock
  distinct : store.updates.Pairwise fun left right =>
    left.key = right.key → left.revision ≠ right.revision
  bounded : ∀ update ∈ store.updates, update.revision ≤ revisions update.key
  dated : ∀ update ∈ store.updates, ∃ entry ∈ store.entries, entry.key = update.key ∧
    update.timestamp ≤ entry.updatedAt
  ordered : ∀ left ∈ store.updates, ∀ right ∈ store.updates, left.key = right.key →
    left.revision ≤ right.revision → left.timestamp ≤ right.timestamp

/-- Committing items that are later than everything stored and carry the greatest
revisions of their keys keeps the local tables in order. A new record is of a greater
revision than the others of its key, and later than their entry was. -/
theorem Committed.kept {clock : Instant} {revisions : ItemKey → Nat} {store final : Store Content}
    {processed stored : List (RemoteItem Content)} (kept : StoreKept clock revisions store)
    (committed : Committed store processed stored final)
    (unique : (processed.map RemoteItem.key).Nodup)
    (past : ∀ item ∈ stored, item.updatedAt ≤ clock)
    (later : ∀ item ∈ stored, ∀ entry ∈ store.entries, entry.updatedAt < item.updatedAt)
    (current : ∀ item ∈ processed, item.revision = revisions item.key) :
    StoreKept clock revisions final := by
  have member : ∀ update, update ∈ final.updates ↔ update ∈ store.updates ∨
      ∃ item ∈ processed, ¬ store.Recorded item ∧ item.update = update := by
    intro update
    rw [committed.updates]
    simp only [List.mem_append, List.mem_map, List.mem_filter, decide_eq_true_eq, and_assoc]
  have older : ∀ update ∈ store.updates, ∀ item ∈ stored, update.timestamp < item.updatedAt := by
    intro update before item listed
    obtain ⟨entry, present, -, bound⟩ := kept.dated update before
    exact Nat.lt_of_le_of_lt bound (later item listed entry present)
  refine ⟨?_, ?_, ?_, ?_, ?_⟩
  · intro entry present
    rcases (committed.entries entry).mp present with ⟨before, -⟩ | ⟨item, listed, rfl⟩
    · exact kept.stamped entry before
    · exact past item listed
  · rw [committed.updates, List.pairwise_append]
    refine ⟨kept.distinct, ?_, ?_⟩
    · rw [List.pairwise_map]
      have apart : processed.Pairwise fun left right => left.key ≠ right.key :=
        List.pairwise_map.mp unique
      exact (apart.filter _).imp fun different same => absurd same different
    · intro update before added listed same equal
      obtain ⟨item, filtered, rfl⟩ := List.mem_map.mp listed
      have unrecorded : ¬ store.Recorded item := by simpa using (List.mem_filter.mp filtered).2
      exact unrecorded ⟨update, before, same, equal⟩
  · intro update present
    rcases (member update).mp present with before | ⟨item, listed, -, rfl⟩
    · exact kept.bounded update before
    · exact (current item listed).le
  · intro update present
    rcases (member update).mp present with before | ⟨item, listed, -, rfl⟩
    · obtain ⟨entry, stays, same, bound⟩ := kept.dated update before
      by_cases replaced : ∃ item ∈ stored, entry.key = item.key
      · obtain ⟨item, listed, key⟩ := replaced
        refine ⟨item.entry, (committed.entries _).mpr (.inr ⟨item, listed, rfl⟩),
          key.symm.trans same, ?_⟩
        exact Nat.le_of_lt (older update before item listed)
      · refine ⟨entry, (committed.entries _).mpr (.inl ⟨stays, fun item listed key => ?_⟩), same, bound⟩
        exact replaced ⟨item, listed, key⟩
    · exact ⟨item.entry, (committed.entries _).mpr
        (.inr ⟨item, committed.within item listed, rfl⟩), rfl, Nat.le_refl _⟩
  · intro left leftPresent right rightPresent same order
    rcases (member left).mp leftPresent with leftBefore | ⟨item, listed, unrecorded, rfl⟩ <;>
      rcases (member right).mp rightPresent with rightBefore | ⟨other, otherListed, _, rfl⟩
    · exact kept.ordered left leftBefore right rightBefore same order
    · exact Nat.le_of_lt (older left leftBefore other (committed.within other otherListed))
    · -- the recorded revision is the greatest, so the item would have been recorded
      refine absurd ⟨right, rightBefore, same.symm, ?_⟩ unrecorded
      have bound := kept.bounded right rightBefore
      have greatest := current item listed
      have sameKey : right.key = item.key := same.symm
      rw [sameKey, ← greatest] at bound
      exact Nat.le_antisymm bound order
    · have equal := List.inj_on_of_nodup_map unique listed otherListed same
      rw [equal]

/-- Removing missed revisions keeps the local tables in order. -/
theorem StoreKept.prune {clock : Instant} {revisions : ItemKey → Nat} {store : Store Content}
    (kept : StoreKept clock revisions store) :
    StoreKept clock revisions store.pruneMissedRevisions where
  stamped := kept.stamped
  distinct := kept.distinct.filter _
  bounded update member := kept.bounded update (List.mem_of_mem_filter member)
  dated update member := kept.dated update (List.mem_of_mem_filter member)
  ordered left leftMember right rightMember :=
    kept.ordered left (List.mem_of_mem_filter leftMember) right (List.mem_of_mem_filter rightMember)

/-- Archiving keeps the local tables in order: it changes urls only. -/
theorem StoreKept.archive {clock : Instant} {revisions : ItemKey → Nat} {store : Store Content}
    (kept : StoreKept clock revisions store) (built : UpdateEntry → Bool) :
    StoreKept clock revisions (store.archive built) := by
  have same : ∀ update : UpdateEntry, (if built update then { update with archived := true }
      else update).key = update.key ∧ (if built update then { update with archived := true }
      else update).revision = update.revision ∧
      (if built update then { update with archived := true } else update).timestamp =
        update.timestamp := by
    intro update
    split <;> exact ⟨rfl, rfl, rfl⟩
  refine ⟨kept.stamped, ?_, ?_, ?_, ?_⟩
  · refine List.pairwise_map.mpr (kept.distinct.imp fun {left right} apart => ?_)
    rw [(same left).1, (same right).1, (same left).2.1, (same right).2.1]
    exact apart
  · intro update member
    obtain ⟨origin, stored, rfl⟩ := List.mem_map.mp member
    rw [(same origin).1, (same origin).2.1]
    exact kept.bounded origin stored
  · intro update member
    obtain ⟨origin, stored, rfl⟩ := List.mem_map.mp member
    rw [(same origin).1, (same origin).2.2]
    exact kept.dated origin stored
  · intro left leftMember right rightMember
    obtain ⟨leftOrigin, leftStored, rfl⟩ := List.mem_map.mp leftMember
    obtain ⟨rightOrigin, rightStored, rfl⟩ := List.mem_map.mp rightMember
    rw [(same leftOrigin).1, (same rightOrigin).1, (same leftOrigin).2.1, (same rightOrigin).2.1,
      (same leftOrigin).2.2, (same rightOrigin).2.2]
    exact kept.ordered leftOrigin leftStored rightOrigin rightStored

/-- Removing missed revisions spares an item's greatest one, which no update of the item
postdates. -/
theorem recorded_prune {clock : Instant} {revisions : ItemKey → Nat} {store : Store Content}
    (kept : StoreKept clock revisions store) {item : RemoteItem Content}
    (current : item.revision = revisions item.key) (recorded : store.Recorded item) :
    store.pruneMissedRevisions.Recorded item := by
  obtain ⟨update, stored, key, revision⟩ := recorded
  refine ⟨update, List.mem_filter.mpr ⟨stored, ?_⟩, key, revision⟩
  simp only [Bool.decide_or, Bool.or_eq_true, decide_eq_true_eq]
  refine .inr fun other otherStored same _ => ?_
  refine kept.ordered other otherStored update stored same ?_
  have bound := kept.bounded other otherStored
  rwa [same, key, ← current, ← revision] at bound

/-- Archiving changes neither the item nor the revision of an update. -/
theorem recorded_archive (store : Store Content) (built : UpdateEntry → Bool)
    (item : RemoteItem Content) (recorded : store.Recorded item) :
    (store.archive built).Recorded item := by
  obtain ⟨update, stored, records⟩ := recorded
  refine ⟨_, List.mem_map.mpr ⟨update, stored, rfl⟩, ?_⟩
  split <;> exact records

/-- The invariant of the machine. -/
structure Kept (sample : Option Int) (state : State Content) : Prop where
  remoteDistinct : (state.remote.map RemoteItem.key).Nodup
  past : ∀ item ∈ state.remote, item.updatedAt ≤ state.clock
  current : ∀ item ∈ state.remote, item.revision = state.revisions item.key
  store : StoreKept state.clock state.revisions state.store
  processed : ∀ item ∈ state.remote, some item.key.projectId ≠ sample →
    (∀ entry ∈ state.store.entries, entry.updatedAt < item.updatedAt) ∨ state.store.Recorded item

/-- What a load reads: items of the remote table, with different keys, later than
everything stored; and every such item that counts. -/
structure Reads (sample : Option Int) (state : State Content) (items : List (RemoteItem Content)) :
    Prop where
  unique : (items.map RemoteItem.key).Nodup
  remote : ∀ item ∈ items, item ∈ state.remote
  later : ∀ item ∈ items, ∀ entry ∈ state.store.entries, entry.updatedAt < item.updatedAt
  complete : ∀ item ∈ state.remote, some item.key.projectId ≠ sample →
    (∀ entry ∈ state.store.entries, entry.updatedAt < item.updatedAt) → item ∈ items

/-- The items of a reply that are not skipped are what a load reads. -/
theorem unskipped_reads {sample known : Option Int} {state : State Content}
    {reply : List (RemoteItem Content)} (kept : Kept sample state)
    (answered : reply.Perm state.selected) (knows : known = none ∨ known = sample) :
    Reads sample state (unskipped known reply) := by
  have member : ∀ item, item ∈ reply ↔ item ∈ state.remote ∧
      ∀ entry ∈ state.store.entries, entry.updatedAt < item.updatedAt := by
    intro item
    rw [answered.mem_iff, State.selected, List.mem_filter, selects_iff]
  have selectedUnique : (state.selected.map RemoteItem.key).Nodup :=
    kept.remoteDistinct.sublist (List.filter_sublist.map _)
  refine ⟨?_, ?_, ?_, ?_⟩
  · have replyUnique : (reply.map RemoteItem.key).Nodup :=
      ((answered.map RemoteItem.key).nodup_iff).mpr selectedUnique
    exact replyUnique.sublist (List.filter_sublist.map _)
  · exact fun item listed => ((member item).mp (List.mem_of_mem_filter listed)).1
  · exact fun item listed => ((member item).mp (List.mem_of_mem_filter listed)).2
  · intro item present counts later
    refine List.mem_filter.mpr ⟨(member item).mpr ⟨present, later⟩, ?_⟩
    rcases knows with rfl | rfl
    · simp
    · simpa using counts

/-- Committing part of what a load reads keeps the invariant when every item left out is
later than every item stored, unless it was recorded already. -/
theorem Kept.commit {sample : Option Int} {state : State Content} (kept : Kept sample state)
    {items processed stored : List (RemoteItem Content)} {final : Store Content}
    (reads : Reads sample state items) (sublist : processed.Sublist items)
    (storedSublist : stored.Sublist items) (committed : Committed state.store processed stored final)
    (leftLater : ∀ item ∈ items, item ∉ processed → ¬ state.store.Recorded item →
      ∀ other ∈ stored, other.updatedAt < item.updatedAt) :
    Kept sample { state with store := final } where
  remoteDistinct := kept.remoteDistinct
  past := kept.past
  current := kept.current
  store := committed.kept kept.store (reads.unique.sublist (sublist.map _))
    (fun item listed => kept.past item (reads.remote item (storedSublist.subset listed)))
    (fun item listed => reads.later item (storedSublist.subset listed))
    (fun item listed => kept.current item (reads.remote item (sublist.subset listed)))
  processed item present counts := by
    rcases kept.processed item present counts with later | recorded
    · have listed := reads.complete item present counts later
      by_cases done : item ∈ processed
      · exact .inr ((committed.recorded item).mpr (.inr ⟨item, done, rfl, rfl⟩))
      · by_cases recorded : state.store.Recorded item
        · exact .inr ((committed.recorded item).mpr (.inl recorded))
        · refine .inl fun entry member => ?_
          rcases (committed.entries entry).mp member with ⟨before, -⟩ | ⟨other, otherListed, rfl⟩
          · exact later entry before
          · exact leftLater item listed done recorded other otherListed
    · exact .inr ((committed.recorded item).mpr (.inl recorded))

/-- A load that gets to its end keeps the invariant and records every item that counts. -/
theorem load_completed {sample known : Option Int} {state : State Content}
    {reply : List (RemoteItem Content)} (kept : Kept sample state)
    (answered : reply.Perm state.selected) (knows : known = none ∨ known = sample)
    (built : UpdateEntry → Bool) :
    Kept sample { state with store := loadItems known reply (.completed built) state.store } ∧
      ∀ item ∈ state.remote, some item.key.projectId ≠ sample →
        (loadItems known reply (.completed built) state.store).Recorded item := by
  have reads := unskipped_reads kept answered knows
  have committed := foldl_committed (unskipped known reply) state.store reads.unique
  have after := kept.commit reads (List.Sublist.refl _) (List.Sublist.refl _) committed
    (fun item listed absent => absurd listed absent)
  have recorded : ∀ item ∈ state.remote, some item.key.projectId ≠ sample →
      ((unskipped known reply).foldl Store.process state.store).Recorded item := by
    intro item present counts
    rw [committed.recorded]
    rcases kept.processed item present counts with later | before
    · exact .inr ⟨item, reads.complete item present counts later, rfl, rfl⟩
    · exact .inl before
  have final : ∀ item ∈ state.remote, some item.key.projectId ≠ sample →
      (loadItems known reply (.completed built) state.store).Recorded item := fun item present counts =>
    recorded_archive _ built item
      (recorded_prune after.store (kept.current item present) (recorded item present counts))
  exact ⟨⟨kept.remoteDistinct, kept.past, kept.current, after.store.prune.archive built,
    fun item present counts => .inr (final item present counts)⟩, final⟩

/-- A lossless load keeps the invariant, however far it gets. -/
theorem Kept.load {sample known : Option Int} {state : State Content}
    {reply : List (RemoteItem Content)} (kept : Kept sample state)
    (answered : reply.Perm state.selected) (knows : known = none ∨ known = sample)
    (outcome : Outcome) (lossless : LeavesNothingBehind known state.store reply outcome) :
    Kept sample { state with store := loadItems known reply outcome state.store } := by
  cases outcome with
  | completed built => exact (load_completed kept answered knows built).1
  | failed full half =>
    have reads := unskipped_reads kept answered knows
    refine kept.commit reads (List.take_sublist _ _) (List.take_sublist _ _)
      (failed_committed known reply full half state.store reads.unique) ?_
    intro item listed absent
    refine lossless item ?_
    rw [← List.take_append_drop full (unskipped known reply)] at listed
    exact (List.mem_append.mp listed).resolve_left absent

/-- A published item is pending: the clock is not before anything stored, and the item
does not tie with an entry. -/
theorem Kept.publish {sample : Option Int} {state : State Content} (kept : Kept sample state)
    (item : RemoteItem Content) (stamped : state.clock ≤ item.updatedAt)
    (counted : state.revisions item.key ≤ item.revision)
    (apart : ∀ entry ∈ state.store.entries, entry.updatedAt ≠ item.updatedAt) :
    Kept sample { state with
      remote := (state.remote.filter fun row => row.key ≠ item.key) ++ [item]
      clock := item.updatedAt
      revisions := Function.update state.revisions item.key item.revision } := by
  have member : ∀ row, row ∈ (state.remote.filter fun row => row.key ≠ item.key) ++ [item] ↔
      row ∈ state.remote ∧ row.key ≠ item.key ∨ row = item := by
    intro row
    simp only [List.mem_append, List.mem_filter, decide_eq_true_eq, List.mem_singleton]
  refine ⟨?_, ?_, ?_, ?_, ?_⟩
  · have others : ((state.remote.filter fun row => row.key ≠ item.key).map RemoteItem.key).Nodup :=
      kept.remoteDistinct.sublist (List.filter_sublist.map _)
    rw [List.map_append, List.nodup_append]
    refine ⟨others, List.nodup_singleton _, ?_⟩
    intro key listed other single same
    obtain ⟨row, filtered, rfl⟩ := List.mem_map.mp listed
    have different : row.key ≠ item.key := by simpa using (List.mem_filter.mp filtered).2
    exact different (same.trans (List.mem_singleton.mp single))
  · intro row present
    rcases (member row).mp present with ⟨before, -⟩ | rfl
    · exact Nat.le_trans (kept.past row before) stamped
    · exact Nat.le_refl _
  · intro row present
    rcases (member row).mp present with ⟨before, different⟩ | rfl
    · simpa only [Function.update_of_ne different] using kept.current row before
    · simp only [Function.update_self]
  · refine ⟨fun entry stored => Nat.le_trans (kept.store.stamped entry stored) stamped,
      kept.store.distinct, fun update stored => ?_, kept.store.dated, kept.store.ordered⟩
    have bound := kept.store.bounded update stored
    by_cases same : update.key = item.key
    · rw [same] at bound ⊢
      simpa only [Function.update_self] using Nat.le_trans bound counted
    · simpa only [Function.update_of_ne same] using bound
  · intro row present counts
    rcases (member row).mp present with ⟨before, -⟩ | rfl
    · exact kept.processed row before counts
    · refine .inl fun entry stored => ?_
      have bound := Nat.le_trans (kept.store.stamped entry stored) stamped
      exact Nat.lt_of_le_of_ne bound (apart entry stored)

/-- A removed item makes no further demand. -/
theorem Kept.remove {sample : Option Int} {state : State Content} (kept : Kept sample state)
    (key : ItemKey) :
    Kept sample { state with remote := state.remote.filter fun row => row.key ≠ key } where
  remoteDistinct := kept.remoteDistinct.sublist (List.filter_sublist.map _)
  past item present := kept.past item (List.mem_of_mem_filter present)
  current item present := kept.current item (List.mem_of_mem_filter present)
  store := kept.store
  processed item present := kept.processed item (List.mem_of_mem_filter present)

variable [DecidableEq Content]

/-- The invariant holds in every lossless run. -/
theorem kept_invariant (sample : Option Int) :
    (losslessMachine sample : Machine (State Content) (Label Content)).Invariant (Kept sample) where
  starts state initial := by
    subst initial
    refine ⟨by simp [State.init], ?_, ?_, ⟨?_, ?_, ?_, ?_, ?_⟩, ?_⟩ <;> simp [State.init]
  preserved state label next kept stepped := by
    obtain ⟨lossless, stepped⟩ := Machine.restrict_step_eq_some.mp stepped
    cases label with
    | publish item =>
      simp only [machine, State.step, Option.ite_none_right_eq_some, Option.some.injEq] at stepped
      obtain ⟨⟨stamped, counted⟩, rfl⟩ := stepped
      exact kept.publish item stamped counted lossless
    | remove key =>
      simp only [machine, State.step, Option.some.injEq] at stepped
      subst stepped
      exact kept.remove key
    | load reply outcome =>
      simp only [machine, State.step, Option.ite_none_right_eq_some, Option.some.injEq] at stepped
      obtain ⟨⟨answered, -⟩, rfl⟩ := stepped
      exact kept.load answered (.inl rfl) outcome lossless
    | workbookLoad known reply outcome =>
      simp only [machine, State.step, Option.ite_none_right_eq_some, Option.some.injEq] at stepped
      obtain ⟨⟨answered, knows⟩, rfl⟩ := stepped
      exact kept.load answered knows outcome lossless

/-- The updates of an item's current revision. -/
def Store.recordsOf (store : Store Content) (item : RemoteItem Content) : List UpdateEntry :=
  store.updates.filter fun update => update.Records item

omit [DecidableEq Content] in
/-- A recorded revision is recorded once. -/
theorem recorded_once {clock : Instant} {revisions : ItemKey → Nat} {store : Store Content}
    (kept : StoreKept clock revisions store) {item : RemoteItem Content}
    (recorded : store.Recorded item) : (store.recordsOf item).length = 1 := by
  obtain ⟨update, stored, records⟩ := recorded
  have listed : update ∈ store.recordsOf item :=
    List.mem_filter.mpr ⟨stored, decide_eq_true records⟩
  have apart : (store.recordsOf item).Pairwise fun left right =>
      left.key = right.key → left.revision ≠ right.revision := kept.distinct.filter _
  match found : store.recordsOf item with
  | [] => simp [found] at listed
  | [_] => rfl
  | first :: second :: rest =>
    rw [found] at apart
    have of_member : ∀ other ∈ store.recordsOf item, other.Records item := fun other member =>
      of_decide_eq_true (List.mem_filter.mp member).2
    obtain ⟨firstKey, firstRevision⟩ := of_member first (by simp [found])
    obtain ⟨secondKey, secondRevision⟩ := of_member second (by simp [found])
    have different := (List.pairwise_cons.mp apart).1 second List.mem_cons_self
    exact absurd (firstRevision.trans secondRevision.symm)
      (different (firstKey.trans secondKey.symm))

/-- After a load that gets to its end in a lossless run, every remote item that counts has
its revision recorded exactly once. -/
theorem completed_load_records {sample known : Option Int} {state : State Content}
    (reachable : (losslessMachine sample).Reachable state) {reply : List (RemoteItem Content)}
    (answered : reply.Perm state.selected) (knows : known = none ∨ known = sample)
    (built : UpdateEntry → Bool) :
    ∀ item ∈ state.remote, some item.key.projectId ≠ sample →
      ((loadItems known reply (.completed built) state.store).recordsOf item).length = 1 := by
  have kept := (kept_invariant sample).reachable reachable
  obtain ⟨after, recorded⟩ := load_completed kept answered knows built
  exact fun item present counts => recorded_once after.store (recorded item present counts)

end Palette.Load
