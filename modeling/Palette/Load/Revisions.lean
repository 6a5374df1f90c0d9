import Palette.Foundation.Transition
import Palette.Foundation.Watermark
import Mathlib.Data.List.Perm.Basic

/-!
# Incremental loads of workbooks and data sources

A load asks for the remote items that were updated after the newest time it has
stored, in no particular order. For each item it commits the item's local entry and
only then adds an update record for the item's revision, which reaches the database
with the next commit. A failure may fall between any two commits. A load that gets to
its end removes the update records that were never archived and are not the newest of
their item, and archives some of the others.

Items of the sample project are skipped by the workbook load once it knows that
project. Revisions of an item count its publications and never go back; times are
instants and never go back either.

The columns that decide nothing are carried along as the content of an item.
-/

namespace Palette.Load

open Palette.Foundation

universe u

abbrev Instant := Nat

/-- What a local entry is looked up by within its environment. -/
structure ItemKey where
  siteId : Int
  projectId : Int
  luid : String
  deriving DecidableEq, Repr

/-- A row of the remote table. -/
structure RemoteItem (Content : Type u) where
  key : ItemKey
  revision : Nat
  updatedAt : Instant
  content : Content
  deriving DecidableEq, Repr

/-- A local entry; the revision is not copied. -/
structure Entry (Content : Type u) where
  key : ItemKey
  updatedAt : Instant
  content : Content
  deriving DecidableEq, Repr

/-- A recorded revision of an item. It is archived once it has a url. -/
structure UpdateEntry where
  key : ItemKey
  revision : Nat
  timestamp : Instant
  archived : Bool
  deriving DecidableEq, Repr

/-- The committed rows of both local tables. -/
structure Store (Content : Type u) where
  entries : List (Entry Content)
  updates : List UpdateEntry

variable {Content : Type u}

/-- The entry that copying an item leaves. -/
def RemoteItem.entry (item : RemoteItem Content) : Entry Content :=
  ⟨item.key, item.updatedAt, item.content⟩

/-- The record of an item's revision; the time of the update is its publish time. -/
def RemoteItem.update (item : RemoteItem Content) : UpdateEntry :=
  ⟨item.key, item.revision, item.updatedAt, false⟩

/-- An update record is of an item's current revision. -/
def UpdateEntry.Records (update : UpdateEntry) (item : RemoteItem Content) : Prop :=
  update.key = item.key ∧ update.revision = item.revision

instance (update : UpdateEntry) (item : RemoteItem Content) : Decidable (update.Records item) :=
  inferInstanceAs (Decidable (_ ∧ _))

namespace Store

/-- The resume condition of the query: later than `get_last_updated_at`. -/
def selects (store : Store Content) (item : RemoteItem Content) : Bool :=
  Watermark.exceeds (store.entries.map Entry.updatedAt) item.updatedAt

/-- An item's revision is in the updates table. -/
def Recorded (store : Store Content) (item : RemoteItem Content) : Prop :=
  ∃ update ∈ store.updates, update.Records item

instance (store : Store Content) (item : RemoteItem Content) : Decidable (store.Recorded item) :=
  inferInstanceAs (Decidable (∃ _ ∈ _, _))

/-- The first commit of an item: create or overwrite its entry. -/
def copy (store : Store Content) (item : RemoteItem Content) : Store Content :=
  { store with entries := (store.entries.filter fun entry => entry.key ≠ item.key) ++ [item.entry] }

/-- Record the item's revision unless it is recorded. -/
def record (store : Store Content) (item : RemoteItem Content) : Store Content :=
  if store.Recorded item then store else { store with updates := store.updates ++ [item.update] }

/-- The updates that recording an item leaves. -/
theorem record_updates (store : Store Content) (item : RemoteItem Content) :
    (store.record item).updates =
      if store.Recorded item then store.updates else store.updates ++ [item.update] := by
  unfold record
  split <;> rfl

/-- An item with both of its commits. -/
def process (store : Store Content) (item : RemoteItem Content) : Store Content :=
  (store.copy item).record item

/-- `_prune_missed_revisions`: an update that was not archived stays only if none of its
item's updates that were not archived is newer. -/
def pruneMissedRevisions (store : Store Content) : Store Content :=
  { store with
    updates := store.updates.filter fun update =>
      update.archived ∨ ∀ other ∈ store.updates, other.key = update.key → other.archived = false →
        other.timestamp ≤ update.timestamp }

/-- The archive pass sets the url of the updates whose files were built. -/
def archive (store : Store Content) (built : UpdateEntry → Bool) : Store Content :=
  { store with
    updates := store.updates.map fun update =>
      if built update then { update with archived := true } else update }

end Store

/-- How far a load gets: to its end, or to a failure after some items with both of their
commits and possibly one more with its first. -/
inductive Outcome where
  | completed (built : UpdateEntry → Bool)
  | failed (full : Nat) (half : Bool)

/-- The items of a reply that a load does not skip. -/
def unskipped (sample : Option Int) (reply : List (RemoteItem Content)) :
    List (RemoteItem Content) :=
  reply.filter fun item => some item.key.projectId ≠ sample

/-- How many of the items have their entry committed when a load fails. -/
def copied (full : Nat) (half : Bool) : Nat := full + if half then 1 else 0

/-- What a load commits. -/
def loadItems (sample : Option Int) (reply : List (RemoteItem Content)) (outcome : Outcome)
    (store : Store Content) : Store Content :=
  let items := unskipped sample reply
  match outcome with
  | .completed built => ((items.foldl Store.process store).pruneMissedRevisions).archive built
  | .failed full half =>
      let processed := (items.take full).foldl Store.process store
      match half, items[full]? with
      | true, some item => processed.copy item
      | _, _ => processed

/-- `WorkbookManager.load`, given the sample project as far as it is known. -/
def WorkbookManager.load (sampleProjectId : Option Int) (reply : List (RemoteItem Content))
    (outcome : Outcome) (store : Store Content) : Store Content :=
  loadItems sampleProjectId reply outcome store

/-- `DataSourceManager.load` skips nothing. -/
def DataSourceManager.load (reply : List (RemoteItem Content)) (outcome : Outcome)
    (store : Store Content) : Store Content :=
  loadItems none reply outcome store

/-- The remote table with its clock, the greatest revision each key ever had, and the
local store. -/
structure State (Content : Type u) where
  remote : List (RemoteItem Content)
  clock : Instant
  revisions : ItemKey → Nat
  store : Store Content

/-- Remote changes and loads. The reply is the one the query gives at that moment. -/
inductive Label (Content : Type u) where
  | publish (item : RemoteItem Content)
  | remove (key : ItemKey)
  | load (reply : List (RemoteItem Content)) (outcome : Outcome)
  | workbookLoad (sampleProjectId : Option Int) (reply : List (RemoteItem Content))
      (outcome : Outcome)

/-- Nothing stored, nothing published. -/
def State.init : State Content := ⟨[], 0, fun _ => 0, ⟨[], []⟩⟩

variable [DecidableEq Content]

/-- The rows that the query selects. -/
def State.selected (state : State Content) : List (RemoteItem Content) :=
  state.remote.filter state.store.selects

/-- One step. A published row is stamped no earlier than any before it. The workbook
load knows the sample project of the machine or none yet. -/
def State.step (sample : Option Int) (state : State Content) :
    Label Content → Option (State Content)
  | .publish item =>
      if state.clock ≤ item.updatedAt ∧ state.revisions item.key ≤ item.revision then
        some { state with
          remote := (state.remote.filter fun row => row.key ≠ item.key) ++ [item]
          clock := item.updatedAt
          revisions := Function.update state.revisions item.key item.revision }
      else none
  | .remove key => some { state with remote := state.remote.filter fun row => row.key ≠ key }
  | .load reply outcome =>
      if reply.Perm state.selected ∧ sample = none then
        some { state with store := DataSourceManager.load reply outcome state.store }
      else none
  | .workbookLoad known reply outcome =>
      if reply.Perm state.selected ∧ (known = none ∨ known = sample) then
        some { state with store := WorkbookManager.load known reply outcome state.store }
      else none

/-- The remote table and one loader's local tables. -/
def machine (sample : Option Int) : Machine (State Content) (Label Content) where
  initial state := state = State.init
  step := State.step sample

/-- A failing load leaves no item behind that is unrecorded and not later than an item it
stored. -/
def LeavesNothingBehind (sample : Option Int) (store : Store Content)
    (reply : List (RemoteItem Content)) : Outcome → Prop
  | .completed _ => True
  | .failed full half => ∀ item ∈ (unskipped sample reply).drop full, ¬ store.Recorded item →
      ∀ stored ∈ (unskipped sample reply).take (copied full half), stored.updatedAt < item.updatedAt

instance (sample : Option Int) (store : Store Content) (reply : List (RemoteItem Content))
    (outcome : Outcome) : Decidable (LeavesNothingBehind sample store reply outcome) := by
  cases outcome <;> unfold LeavesNothingBehind <;> infer_instance

/-- The steps that lose nothing: no published row ties with a stored one, and no failing
load leaves an item behind. -/
def Lossless (state : State Content) : Label Content → Prop
  | .publish item => ∀ entry ∈ state.store.entries, entry.updatedAt ≠ item.updatedAt
  | .remove _ => True
  | .load reply outcome => LeavesNothingBehind none state.store reply outcome
  | .workbookLoad known reply outcome => LeavesNothingBehind known state.store reply outcome

instance (state : State Content) (label : Label Content) : Decidable (Lossless state label) := by
  cases label <;> unfold Lossless <;> infer_instance

/-- Runs whose steps all lose nothing. -/
def losslessMachine (sample : Option Int) : Machine (State Content) (Label Content) :=
  (machine sample).restrict Lossless

/-! ## What processing a list of items commits -/

omit [DecidableEq Content] in
/-- The query selects exactly the items later than every entry. -/
theorem selects_iff (store : Store Content) (item : RemoteItem Content) :
    store.selects item = true ↔ ∀ entry ∈ store.entries, entry.updatedAt < item.updatedAt := by
  unfold Store.selects
  rw [Watermark.exceeds_iff]
  simp only [List.mem_map, forall_exists_index, and_imp, forall_apply_eq_imp_iff₂]

omit [DecidableEq Content] in
/-- Copying an item replaces the entry with its key and no other. -/
theorem mem_copy (store : Store Content) (item : RemoteItem Content) (entry : Entry Content) :
    entry ∈ (store.copy item).entries ↔
      entry ∈ store.entries ∧ entry.key ≠ item.key ∨ entry = item.entry := by
  simp only [Store.copy, List.mem_append, List.mem_filter, decide_eq_true_eq, List.mem_singleton]

omit [DecidableEq Content] in
/-- Recording touches no entry. -/
@[simp] theorem record_entries (store : Store Content) (item : RemoteItem Content) :
    (store.record item).entries = store.entries := by
  unfold Store.record
  split <;> rfl

omit [DecidableEq Content] in
/-- Processing items with different keys replaces their entries and adds one record for
each revision that was not recorded. Induct on the items; a record added for one item
is of another key than the later ones. -/
theorem foldl_process (items : List (RemoteItem Content)) (store : Store Content)
    (unique : (items.map RemoteItem.key).Nodup) :
    (∀ entry, entry ∈ (items.foldl Store.process store).entries ↔
      (entry ∈ store.entries ∧ ∀ item ∈ items, entry.key ≠ item.key) ∨
        ∃ item ∈ items, entry = item.entry) ∧
      (items.foldl Store.process store).updates =
        store.updates ++ (items.filter fun item => ¬ store.Recorded item).map RemoteItem.update := by
  induction items generalizing store with
  | nil => simp
  | cons item rest inductionHypothesis =>
    obtain ⟨fresh, restUnique⟩ := List.nodup_cons.mp unique
    have apart : ∀ other ∈ rest, item.key ≠ other.key := fun other member same =>
      fresh (same ▸ List.mem_map_of_mem member)
    obtain ⟨entries, updates⟩ := inductionHypothesis (store.process item) restUnique
    have processed : (store.process item).updates =
        if store.Recorded item then store.updates else store.updates ++ [item.update] :=
      Store.record_updates (store.copy item) item
    have recorded : ∀ other ∈ rest, (store.process item).Recorded other ↔ store.Recorded other := by
      intro other member
      by_cases known : store.Recorded item
      · rw [Store.Recorded, processed, if_pos known, Store.Recorded]
      · rw [Store.Recorded, processed, if_neg known]
        simp only [List.mem_append, List.mem_singleton]
        constructor
        · rintro ⟨update, stored | rfl, records⟩
          · exact ⟨update, stored, records⟩
          · exact absurd records.1 (apart other member)
        · rintro ⟨update, stored, records⟩
          exact ⟨update, .inl stored, records⟩
    refine ⟨fun entry => ?_, ?_⟩
    · rw [List.foldl_cons, entries]
      simp only [Store.process, record_entries, mem_copy, List.mem_cons, forall_eq_or_imp,
        exists_eq_or_imp]
      constructor
      · rintro (⟨⟨stored, other⟩ | rfl, others⟩ | later)
        · exact .inl ⟨stored, other, others⟩
        · exact .inr (.inl rfl)
        · exact .inr (.inr later)
      · rintro (⟨stored, other, others⟩ | rfl | later)
        · exact .inl ⟨.inl ⟨stored, other⟩, others⟩
        · exact .inl ⟨.inr rfl, apart⟩
        · exact .inr later
    · have sameFilter : (rest.filter fun other => ¬ (store.process item).Recorded other) =
          rest.filter fun other => ¬ store.Recorded other :=
        List.filter_congr fun other member => by simp only [recorded other member]
      rw [List.foldl_cons, updates, sameFilter]
      by_cases known : store.Recorded item
      · rw [processed, if_pos known, List.filter_cons_of_neg (by simpa using known)]
      · rw [processed, if_neg known, List.filter_cons_of_pos (by simpa using known), List.map_cons,
          List.append_assoc, List.singleton_append]

end Palette.Load
