import Palette.Load.RevisionRuns

/-!
# Incremental loads of extract jobs

A load first removes the local jobs whose id exceeds the greatest remote one. Over an
empty local table it asks only for the refresh or increment job with the greatest id;
otherwise for those updated after the newest stored time. Each job is stored and
examined in one commit, and a failure may fall between commits. The removal reaches
the database with the first commit.

A load over an empty table thus takes one job as its base and passes over the others.
The jobs passed over, until they change again, are kept as a ghost.
-/

namespace Palette.Load.Extracts

open Palette.Foundation

universe u

variable {Content : Type u}

/-- A row of the remote background jobs. Only refresh and increment jobs are extracts. -/
structure Job (Content : Type u) where
  id : Nat
  updatedAt : Instant
  extract : Bool
  content : Content
  deriving DecidableEq, Repr

/-- The committed snapshots, and the snapshots that were examined. -/
structure Store (Content : Type u) where
  entries : List (Job Content)
  examined : List (Nat × Instant)

namespace Store

/-- `_prune`: local jobs beyond the greatest remote id are gone. -/
def prune (store : Store Content) (remote : List (Job Content)) : Store Content :=
  { store with
    entries := store.entries.filter fun entry =>
      entry.id ≤ ((remote.map Job.id).max?).getD 0 }

/-- Store a snapshot over the job's earlier one and examine it, in one commit. -/
def process (store : Store Content) (job : Job Content) : Store Content where
  entries := (store.entries.filter fun entry => entry.id ≠ job.id) ++ [job]
  examined := store.examined ++ [(job.id, job.updatedAt)]

end Store

/-- The query of a load: the job with the greatest id over an empty table, else the jobs
later than everything stored. -/
def selected (store : Store Content) (remote : List (Job Content)) : List (Job Content) :=
  let jobs := remote.filter Job.extract
  if store.entries = [] then jobs.filter fun job => some job.id = (jobs.map Job.id).max?
  else jobs.filter fun job => Watermark.exceeds (store.entries.map Job.updatedAt) job.updatedAt

/-- How far a load gets: to its end, or to a failure after some commits. Without a commit
the removal may be rolled back. -/
inductive Outcome where
  | completed
  | failed (full : Nat) (pruned : Bool)
  deriving DecidableEq, Repr

/-- The jobs of a reply that a load commits. -/
def Outcome.committed (outcome : Outcome) (reply : List (Job Content)) : List (Job Content) :=
  match outcome with
  | .completed => reply
  | .failed full _ => reply.take full

/-- The removal stays unless the load fails before its first commit and rolls it back. -/
def Outcome.prunes (outcome : Outcome) : Bool :=
  match outcome with
  | .completed => true
  | .failed full pruned => decide (0 < full) || pruned

/-- `ExtractManager.load`. -/
def ExtractManager.load (remote reply : List (Job Content)) (outcome : Outcome)
    (store : Store Content) : Store Content :=
  (outcome.committed reply).foldl Store.process
    (if outcome.prunes then store.prune remote else store)

/-- The remote jobs with their clock, the local tables, and the ids passed over. -/
structure State (Content : Type u) where
  remote : List (Job Content)
  clock : Instant
  store : Store Content
  passedOver : List Nat

/-- Remote changes and loads. -/
inductive Label (Content : Type u) where
  | change (job : Job Content)
  | remove (id : Nat)
  | load (reply : List (Job Content)) (outcome : Outcome)

/-- No jobs, nothing stored. -/
def State.init : State Content := ⟨[], 0, ⟨[], []⟩, []⟩

/-- The ids passed over after a load: one over an empty table that commits passes over all
extract jobs but those it commits. -/
def passedOverAfter (state : State Content) (reply : List (Job Content)) (outcome : Outcome) :
    List Nat :=
  if (state.store.prune state.remote).entries = [] ∧ outcome.committed reply ≠ [] then
    ((state.remote.filter Job.extract).map Job.id).filter fun id =>
      id ∉ (outcome.committed reply).map Job.id
  else state.passedOver

/-! ## What processing a list of jobs commits -/

/-- Processing a job replaces the snapshot with its id and no other. -/
theorem mem_process (store : Store Content) (job entry : Job Content) :
    entry ∈ (store.process job).entries ↔ entry ∈ store.entries ∧ entry.id ≠ job.id ∨ entry = job := by
  simp only [Store.process, List.mem_append, List.mem_filter, decide_eq_true_eq, List.mem_singleton]

/-- Processing jobs with different ids replaces their snapshots and examines each. -/
theorem foldl_process (jobs : List (Job Content)) (store : Store Content)
    (unique : (jobs.map Job.id).Nodup) :
    (∀ entry, entry ∈ (jobs.foldl Store.process store).entries ↔
      (entry ∈ store.entries ∧ ∀ job ∈ jobs, entry.id ≠ job.id) ∨ entry ∈ jobs) ∧
      (jobs.foldl Store.process store).examined =
        store.examined ++ jobs.map fun job => (job.id, job.updatedAt) := by
  induction jobs generalizing store with
  | nil => simp
  | cons job rest inductionHypothesis =>
    obtain ⟨fresh, restUnique⟩ := List.nodup_cons.mp unique
    have apart : ∀ other ∈ rest, job.id ≠ other.id := fun other member same =>
      fresh (same ▸ List.mem_map_of_mem member)
    obtain ⟨entries, examined⟩ := inductionHypothesis (store.process job) restUnique
    refine ⟨fun entry => ?_, ?_⟩
    · rw [List.foldl_cons, entries]
      simp only [mem_process, List.mem_cons, forall_eq_or_imp]
      constructor
      · rintro (⟨⟨stored, other⟩ | rfl, others⟩ | later)
        · exact .inl ⟨stored, other, others⟩
        · exact .inr (.inl rfl)
        · exact .inr (.inr later)
      · rintro (⟨stored, other, others⟩ | rfl | later)
        · exact .inl ⟨.inl ⟨stored, other⟩, others⟩
        · exact .inl ⟨.inr rfl, apart⟩
        · exact .inr later
    · rw [List.foldl_cons, examined]
      simp only [Store.process, List.append_assoc, List.singleton_append, List.map_cons]

/-- A snapshot after processing was there or is one of the jobs, whatever their ids. -/
theorem mem_foldl_process (jobs : List (Job Content)) (store : Store Content) (entry : Job Content)
    (listed : entry ∈ (jobs.foldl Store.process store).entries) :
    entry ∈ store.entries ∨ entry ∈ jobs := by
  induction jobs generalizing store with
  | nil => exact .inl listed
  | cons first rest inductionHypothesis =>
    rcases inductionHypothesis _ listed with early | late
    · rcases (mem_process store first entry).mp early with ⟨before, -⟩ | rfl
      · exact .inl before
      · exact .inr List.mem_cons_self
    · exact .inr (List.mem_cons_of_mem _ late)

/-- A snapshot of a job that is still there is not removed. -/
theorem mem_prune {store : Store Content} {remote : List (Job Content)} {job : Job Content}
    (stored : job ∈ store.entries) (present : job ∈ remote) :
    job ∈ (store.prune remote).entries := by
  refine List.mem_filter.mpr ⟨stored, decide_eq_true ?_⟩
  cases greatest : (remote.map Job.id).max? with
  | none =>
    rw [List.max?_eq_none_iff, List.map_eq_nil_iff] at greatest
    simp [greatest] at present
  | some bound => exact (List.max?_eq_some_iff.mp greatest).2 _ (List.mem_map_of_mem present)

/-- Over an empty table the query selects a job as soon as there is an extract job. -/
theorem selected_nonempty {store : Store Content} {remote : List (Job Content)}
    (empty : store.entries = []) {job : Job Content} (present : job ∈ remote)
    (extract : job.extract = true) : selected store remote ≠ [] := by
  have listed : job ∈ remote.filter Job.extract := List.mem_filter.mpr ⟨present, extract⟩
  unfold selected
  rw [if_pos empty]
  cases greatest : ((remote.filter Job.extract).map Job.id).max? with
  | none =>
    rw [List.max?_eq_none_iff, List.map_eq_nil_iff] at greatest
    simp [greatest] at listed
  | some bound =>
    obtain ⟨newest, member, same⟩ := List.mem_map.mp (List.max?_eq_some_iff.mp greatest).1
    refine List.ne_nil_of_mem (a := newest) (List.mem_filter.mpr ⟨member, ?_⟩)
    simp only [same, decide_true]

/-- A selected job is a remote extract job. -/
theorem mem_remote_of_selected {store : Store Content} {remote : List (Job Content)}
    {job : Job Content} (chosen : job ∈ selected store remote) :
    job ∈ remote ∧ job.extract = true := by
  unfold selected at chosen
  split at chosen <;> exact List.mem_filter.mp (List.mem_of_mem_filter chosen)

/-- Over a nonempty table an extract job is selected when it is later than everything
stored. -/
theorem selected_of_later {store : Store Content} {remote : List (Job Content)}
    (nonempty : store.entries ≠ []) {job : Job Content} (present : job ∈ remote)
    (extract : job.extract = true)
    (later : ∀ entry ∈ store.entries, entry.updatedAt < job.updatedAt) :
    job ∈ selected store remote := by
  unfold selected
  rw [if_neg nonempty]
  refine List.mem_filter.mpr ⟨List.mem_filter.mpr ⟨present, extract⟩, ?_⟩
  rw [Watermark.exceeds_iff]
  simpa only [List.mem_map, forall_exists_index, and_imp, forall_apply_eq_imp_iff₂] using later

variable [DecidableEq Content]

/-- One step. A changed job is stamped no earlier than any before it. -/
def State.step (state : State Content) : Label Content → Option (State Content)
  | .change job =>
      if state.clock ≤ job.updatedAt then
        some { state with
          remote := (state.remote.filter fun row => row.id ≠ job.id) ++ [job]
          clock := job.updatedAt
          passedOver := state.passedOver.filter fun id => id ≠ job.id }
      else none
  | .remove id => some { state with remote := state.remote.filter fun row => row.id ≠ id }
  | .load reply outcome =>
      if reply.Perm (selected (state.store.prune state.remote) state.remote) then
        some { state with
          store := ExtractManager.load state.remote reply outcome state.store
          passedOver := passedOverAfter state reply outcome }
      else none

/-- The remote jobs and the local tables. -/
def machine : Machine (State Content) (Label Content) where
  initial state := state = State.init
  step := State.step

/-- The steps that lose nothing: no changed job ties with a stored one, and a failing load
leaves no job behind that is not later than a job it stored. -/
def Lossless (state : State Content) : Label Content → Prop
  | .change job => ∀ entry ∈ state.store.entries, entry.updatedAt ≠ job.updatedAt
  | .remove _ => True
  | .load _ .completed => True
  | .load reply (.failed full _) => ∀ job ∈ reply.drop full, ∀ stored ∈ reply.take full,
      stored.updatedAt < job.updatedAt

instance (state : State Content) (label : Label Content) : Decidable (Lossless state label) := by
  unfold Lossless
  split <;> infer_instance

/-- Runs whose steps all lose nothing. -/
def losslessMachine : Machine (State Content) (Label Content) :=
  machine.restrict Lossless

/-- A job's current snapshot is stored and was examined. -/
def Store.Holds (store : Store Content) (job : Job Content) : Prop :=
  job ∈ store.entries ∧ (job.id, job.updatedAt) ∈ store.examined

/-- The invariant of the machine: an extract job that was not passed over is stored and
examined, or the next load that finds anything stored asks for it. -/
structure Kept (state : State Content) : Prop where
  remoteDistinct : (state.remote.map Job.id).Nodup
  past : ∀ job ∈ state.remote, job.updatedAt ≤ state.clock
  stamped : ∀ entry ∈ state.store.entries, entry.updatedAt ≤ state.clock
  processed : ∀ job ∈ state.remote, job.extract = true → job.id ∉ state.passedOver →
    state.store.entries = [] ∨ (∀ entry ∈ state.store.entries, entry.updatedAt < job.updatedAt) ∨
      state.store.Holds job

omit [DecidableEq Content] in
/-- What a load leaves of a job that was not passed over: it is stored and examined, or
the load failed and the job is later than everything stored, or nothing is stored and
nothing was committed. -/
theorem load_holds {state : State Content} (kept : Kept state) {reply : List (Job Content)}
    {outcome : Outcome}
    (answered : reply.Perm (selected (state.store.prune state.remote) state.remote))
    (prunes : outcome.prunes = true)
    (sublist : (outcome.committed reply).Sublist reply)
    (leftLater : ∀ job ∈ reply, job ∉ outcome.committed reply →
      ∀ stored ∈ outcome.committed reply, stored.updatedAt < job.updatedAt)
    {job : Job Content} (present : job ∈ state.remote) (extract : job.extract = true)
    (demanded : job.id ∉ passedOverAfter state reply outcome) :
    (ExtractManager.load state.remote reply outcome state.store).Holds job ∨
      job ∈ reply ∧ job ∉ outcome.committed reply ∧
        (∀ entry ∈ (ExtractManager.load state.remote reply outcome state.store).entries,
          entry.updatedAt < job.updatedAt) ∨
      (state.store.prune state.remote).entries = [] ∧ outcome.committed reply = [] := by
  have fromReply : ∀ other ∈ reply, other ∈ state.remote ∧ other.extract = true :=
    fun other listed => mem_remote_of_selected (answered.mem_iff.mp listed)
  have replyUnique : (reply.map Job.id).Nodup := by
    have selectedUnique : ((selected (state.store.prune state.remote) state.remote).map Job.id).Nodup := by
      refine kept.remoteDistinct.sublist (List.Sublist.map _ ?_)
      unfold selected
      split <;> exact List.filter_sublist.trans List.filter_sublist
    exact ((answered.map Job.id).nodup_iff).mpr selectedUnique
  obtain ⟨entries, examined⟩ := foldl_process (outcome.committed reply)
    (state.store.prune state.remote) (replyUnique.sublist (sublist.map _))
  have loaded : ExtractManager.load state.remote reply outcome state.store =
      (outcome.committed reply).foldl Store.process (state.store.prune state.remote) := by
    rw [ExtractManager.load, if_pos prunes]
  have sameId : ∀ other ∈ outcome.committed reply, other.id = job.id → other = job := by
    intro other committed same
    exact List.inj_on_of_nodup_map kept.remoteDistinct
      (fromReply other (sublist.subset committed)).1 present same
  rw [loaded]
  by_cases committed : job ∈ outcome.committed reply
  · refine .inl ⟨(entries job).mpr (.inr committed), ?_⟩
    rw [examined]
    exact List.mem_append_right _ (List.mem_map.mpr ⟨job, committed, rfl⟩)
  · by_cases empty : (state.store.prune state.remote).entries = []
    · by_cases nothing : outcome.committed reply = []
      · exact .inr (.inr ⟨empty, nothing⟩)
      · refine absurd ?_ demanded
        rw [passedOverAfter, if_pos ⟨empty, nothing⟩]
        refine List.mem_filter.mpr ⟨List.mem_map_of_mem (List.mem_filter.mpr ⟨present, extract⟩), ?_⟩
        simp only [decide_eq_true_eq, List.mem_map, not_exists, not_and]
        exact fun other listed same => committed (sameId other listed same ▸ listed)
    · rw [passedOverAfter, if_neg fun both => empty both.1] at demanded
      have pruned : ∀ entry ∈ (state.store.prune state.remote).entries, entry ∈ state.store.entries :=
        fun entry member => List.mem_of_mem_filter member
      rcases kept.processed job present extract demanded with none_stored | later | held
      · obtain ⟨entry, member⟩ := List.exists_mem_of_ne_nil _ empty
        exact absurd (pruned entry member) (by simp [none_stored])
      · have asked := answered.mem_iff.mpr (selected_of_later empty present extract
          fun entry member => later entry (pruned entry member))
        refine .inr (.inl ⟨asked, committed, fun entry member => ?_⟩)
        rcases (entries entry).mp member with ⟨before, -⟩ | stored
        · exact later entry (pruned entry before)
        · exact leftLater job asked committed entry stored
      · refine .inl ⟨(entries job).mpr (.inl ⟨mem_prune held.1 present, fun other listed same => ?_⟩), ?_⟩
        · exact committed (sameId other listed same.symm ▸ listed)
        · rw [examined]
          exact List.mem_append_left _ held.2

omit [DecidableEq Content] in
/-- A failing load commits a part of its reply, and a lossless one leaves the rest later. -/
theorem lossless_left_later {state : State Content} {reply : List (Job Content)}
    {outcome : Outcome} (lossless : Lossless state (.load reply outcome)) :
    (outcome.committed reply).Sublist reply ∧
      ∀ job ∈ reply, job ∉ outcome.committed reply →
        ∀ stored ∈ outcome.committed reply, stored.updatedAt < job.updatedAt := by
  cases outcome with
  | completed => exact ⟨List.Sublist.refl _, fun job listed absent => absurd listed absent⟩
  | failed full pruned =>
    refine ⟨List.take_sublist _ _, fun job listed absent => lossless job ?_⟩
    rw [← List.take_append_drop full reply] at listed
    exact (List.mem_append.mp listed).resolve_left absent

omit [DecidableEq Content] in
/-- A lossless load keeps the invariant, however far it gets. -/
theorem Kept.load {state : State Content} (kept : Kept state) {reply : List (Job Content)}
    {outcome : Outcome}
    (answered : reply.Perm (selected (state.store.prune state.remote) state.remote))
    (lossless : Lossless state (.load reply outcome)) :
    Kept { state with
      store := ExtractManager.load state.remote reply outcome state.store
      passedOver := passedOverAfter state reply outcome } := by
  obtain ⟨sublist, leftLater⟩ := lossless_left_later lossless
  by_cases prunes : outcome.prunes = true
  · refine ⟨kept.remoteDistinct, kept.past, fun entry member => ?_, fun job present extract demanded => ?_⟩
    · have origin : entry ∈ state.store.entries ∨ entry ∈ state.remote := by
        have inReply : ∀ other ∈ outcome.committed reply, other ∈ state.remote := fun other listed =>
          (mem_remote_of_selected (answered.mem_iff.mp (sublist.subset listed))).1
        rw [ExtractManager.load, if_pos prunes] at member
        rcases mem_foldl_process _ _ _ member with before | listed
        · exact .inl (List.mem_of_mem_filter before)
        · exact .inr (inReply entry listed)
      exact origin.elim (kept.stamped entry) (kept.past entry)
    · rcases load_holds kept answered prunes sublist leftLater present extract demanded with
        held | ⟨-, -, later⟩ | ⟨empty, nothing⟩
      · exact .inr (.inr held)
      · exact .inr (.inl later)
      · refine .inl ?_
        rw [ExtractManager.load, if_pos prunes, nothing]
        exact empty
  · have untouched : outcome.committed reply = [] := by
      cases outcome with
      | completed => exact absurd rfl prunes
      | failed full pruned =>
        simp only [Outcome.prunes, Bool.or_eq_true, decide_eq_true_eq, not_or] at prunes
        have noneFull : full = 0 := by omega
        simp only [Outcome.committed, noneFull, List.take_zero]
    have sameStore : ExtractManager.load state.remote reply outcome state.store = state.store := by
      rw [ExtractManager.load, if_neg prunes, untouched, List.foldl_nil]
    have samePassed : passedOverAfter state reply outcome = state.passedOver :=
      if_neg fun both => both.2 untouched
    rw [sameStore, samePassed]
    exact kept

omit [DecidableEq Content] in
/-- A changed job is pending or the first: the clock is not before anything stored, and the
job does not tie with a stored one. -/
theorem Kept.change {state : State Content} (kept : Kept state) (job : Job Content)
    (stamped : state.clock ≤ job.updatedAt)
    (apart : ∀ entry ∈ state.store.entries, entry.updatedAt ≠ job.updatedAt) :
    Kept { state with
      remote := (state.remote.filter fun row => row.id ≠ job.id) ++ [job]
      clock := job.updatedAt
      passedOver := state.passedOver.filter fun id => id ≠ job.id } := by
  have member : ∀ row, row ∈ (state.remote.filter fun row => row.id ≠ job.id) ++ [job] ↔
      row ∈ state.remote ∧ row.id ≠ job.id ∨ row = job := by
    intro row
    simp only [List.mem_append, List.mem_filter, decide_eq_true_eq, List.mem_singleton]
  refine ⟨?_, ?_, fun entry stored => Nat.le_trans (kept.stamped entry stored) stamped, ?_⟩
  · rw [List.map_append, List.nodup_append]
    refine ⟨kept.remoteDistinct.sublist (List.filter_sublist.map _), List.nodup_singleton _, ?_⟩
    intro id listed other single same
    obtain ⟨row, filtered, rfl⟩ := List.mem_map.mp listed
    have different : row.id ≠ job.id := by simpa using (List.mem_filter.mp filtered).2
    exact different (same.trans (List.mem_singleton.mp single))
  · intro row present
    rcases (member row).mp present with ⟨before, -⟩ | rfl
    · exact Nat.le_trans (kept.past row before) stamped
    · exact Nat.le_refl _
  · intro row present extract demanded
    rcases (member row).mp present with ⟨before, different⟩ | rfl
    · refine kept.processed row before extract fun passed => demanded ?_
      exact List.mem_filter.mpr ⟨passed, decide_eq_true different⟩
    · refine .inr (.inl fun entry stored => ?_)
      have bound := Nat.le_trans (kept.stamped entry stored) stamped
      exact Nat.lt_of_le_of_ne bound (apart entry stored)

/-- The invariant holds in every lossless run. -/
theorem kept_invariant :
    (losslessMachine : Machine (State Content) (Label Content)).Invariant Kept where
  starts state initial := by
    subst initial
    refine ⟨by simp [State.init], ?_, ?_, ?_⟩ <;> simp [State.init]
  preserved state label next kept stepped := by
    obtain ⟨lossless, stepped⟩ := Machine.restrict_step_eq_some.mp stepped
    cases label with
    | change job =>
      simp only [machine, State.step, Option.ite_none_right_eq_some, Option.some.injEq] at stepped
      obtain ⟨stamped, rfl⟩ := stepped
      exact kept.change job stamped lossless
    | remove id =>
      simp only [machine, State.step, Option.some.injEq] at stepped
      subst stepped
      exact ⟨kept.remoteDistinct.sublist (List.filter_sublist.map _),
        fun job present => kept.past job (List.mem_of_mem_filter present), kept.stamped,
        fun job present => kept.processed job (List.mem_of_mem_filter present)⟩
    | load reply outcome =>
      simp only [machine, State.step, Option.ite_none_right_eq_some, Option.some.injEq] at stepped
      obtain ⟨answered, rfl⟩ := stepped
      exact kept.load answered lossless

/-- After a load that gets to its end in a lossless run, every extract job that was not
passed over has its current snapshot stored and examined. -/
theorem completed_load_holds {state : State Content}
    (reachable : losslessMachine.Reachable state) {reply : List (Job Content)}
    (answered : reply.Perm (selected (state.store.prune state.remote) state.remote)) :
    ∀ job ∈ state.remote, job.extract = true → job.id ∉ passedOverAfter state reply .completed →
      (ExtractManager.load state.remote reply .completed state.store).Holds job := by
  intro job present extract demanded
  have kept := kept_invariant.reachable reachable
  have prunes : Outcome.completed.prunes = true := rfl
  rcases load_holds kept answered prunes (List.Sublist.refl _)
    (fun job listed absent => absurd listed absent) present extract demanded with
    held | ⟨asked, absent, -⟩ | ⟨empty, nothing⟩
  · exact held
  · exact absurd asked absent
  · have none_asked : reply = [] := nothing
    subst none_asked
    exact absurd answered.nil_eq.symm (selected_nonempty empty present extract)

end Palette.Load.Extracts
