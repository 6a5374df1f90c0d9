import Palette.Load.Examinations

/-!
# Threshold alerts of the jobs

What is noted of a job is what was sent for it, as long as every examination notes exactly the
alert that it sends and no prune removes a row of which an alert was noted. Then no alert is
sent twice, and no warning follows an error of its kind.

An alert is sent and not noted if something raises after its event was committed and before
the row is committed with the note. It is noted and not sent for an agent that is disabled.
-/

namespace Palette.Jobs

open Palette.Commands Palette.Foundation Palette.Load Palette.Sync Script

/-- An alert is noted in the row of a job. -/
def HasBit (rows : List Entry) (key : Nat × Int) (alert : JobEvent) : Prop :=
  ∃ entry ∈ rows, entry.key = key ∧ entry.notified.has alert = true

/-- An event was sent for a job. -/
def WasSent (sent : List Sent) (key : Nat × Int) (event : JobEvent) : Prop :=
  ∃ earlier ∈ sent, earlier.entry.key = key ∧ earlier.key = event

/-- The alerts that are not to follow an alert: itself, and after an error the warning. -/
def JobEvent.bars : JobEvent → List JobEvent
  | .delayWarn => [.delayWarn]
  | .delayError => [.delayError, .delayWarn]
  | .durationWarn => [.durationWarn]
  | .durationError => [.durationError, .durationWarn]
  | .ok | .failed => []

/-- An event may follow an earlier one. -/
def MayFollow (earlier later : Sent) : Prop :=
  earlier.entry.key = later.entry.key → later.key ∉ earlier.key.bars

/-- What is noted is what was sent, and nothing was sent that was not to follow. -/
structure Faithful (rows : List Entry) (sent : List Sent) : Prop where
  unique : (rows.map Entry.key).Nodup
  bits : ∀ key alert, alert.isAlert = true → (HasBit rows key alert ↔ WasSent sent key alert)
  order : sent.Pairwise MayFollow

/-! ## Rows -/

section Rows

variable {store : Store} {entry : Entry} {key : Nat × Int} {alert : JobEvent}

/-- Two rows have the same number in the same environment. -/
theorem sameRow_iff (other : Entry) :
    (decide (other.envid = entry.envid ∧ other.job.id = entry.job.id)) = true ↔
      other.key = entry.key := by
  simp [Entry.key]

/-- A row is written over the one with its number. -/
theorem mem_put (other : Entry) : other ∈ (store.put entry).view ↔
    other = entry ∨ (other ∈ store.view ∧ other.key ≠ entry.key) := by
  unfold Store.put
  simp only [sameRow_iff]
  split
  next written =>
    obtain ⟨row, listed, same⟩ := List.any_eq_true.mp written
    rw [sameRow_iff] at same
    rw [List.mem_map]
    constructor
    · rintro ⟨earlier, earlierListed, rfl⟩
      split
      · exact .inl rfl
      next apart => exact .inr ⟨earlierListed, apart⟩
    · rintro (rfl | ⟨otherListed, apart⟩)
      · exact ⟨row, listed, if_pos same⟩
      · exact ⟨other, otherListed, if_neg apart⟩
  next fresh =>
    have apart : ∀ row ∈ store.view, row.key ≠ entry.key := by
      intro row listed same
      exact fresh (List.any_eq_true.mpr ⟨row, listed, (sameRow_iff row).mpr same⟩)
    rw [List.mem_append, List.mem_singleton]
    constructor
    · rintro (listed | rfl)
      · exact .inr ⟨listed, apart other listed⟩
      · exact .inl rfl
    · rintro (rfl | ⟨listed, -⟩)
      · exact .inr rfl
      · exact .inl listed

/-- Rows with numbers of their own keep them when one is written. -/
theorem put_unique (unique : (store.view.map Entry.key).Nodup) :
    ((store.put entry).view.map Entry.key).Nodup := by
  unfold Store.put
  simp only [sameRow_iff]
  split
  · have kept : (store.view.map fun other => if other.key = entry.key then entry else other).map
        Entry.key = store.view.map Entry.key := by
      rw [List.map_map]
      refine List.map_congr_left fun other _ => ?_
      simp only [Function.comp_apply]
      split
      next same => exact same.symm
      · rfl
    exact kept ▸ unique
  next fresh =>
    rw [List.map_append, List.nodup_append]
    refine ⟨unique, List.nodup_singleton _, ?_⟩
    rintro number listed other isEntry rfl
    obtain ⟨row, rowListed, same⟩ := List.mem_map.mp listed
    have number : row.key = entry.key := same.trans (List.mem_singleton.mp isEntry)
    exact fresh (List.any_eq_true.mpr ⟨row, rowListed, (sameRow_iff row).mpr number⟩)

/-- What is noted once a row is written. -/
theorem hasBit_put : HasBit (store.put entry).view key alert ↔
    (key = entry.key ∧ entry.notified.has alert = true) ∨
      (key ≠ entry.key ∧ HasBit store.view key alert) := by
  constructor
  · rintro ⟨other, listed, rfl, noted⟩
    rcases (mem_put other).mp listed with rfl | ⟨earlier, apart⟩
    · exact .inl ⟨rfl, noted⟩
    · exact .inr ⟨apart, other, earlier, rfl, noted⟩
  · rintro (⟨rfl, noted⟩ | ⟨apart, other, listed, rfl, noted⟩)
    · exact ⟨entry, (mem_put entry).mpr (.inl rfl), rfl, noted⟩
    · exact ⟨other, (mem_put other).mpr (.inr ⟨listed, apart⟩), rfl, noted⟩

@[simp] theorem entryOf_key (envid : Nat) (job : Job) :
    (store.entryOf envid job).key = (envid, job.id) := by
  unfold Store.entryOf
  split
  next found =>
    have same := List.find?_some found
    simp only [decide_eq_true_eq] at same
    simp [Entry.key, same.1]
  · rfl

/-- The row of a job has what was noted for the job. -/
theorem entryOf_has (unique : (store.view.map Entry.key).Nodup) (envid : Nat) (job : Job) :
    (store.entryOf envid job).notified.has alert = true ↔
      HasBit store.view (envid, job.id) alert := by
  unfold Store.entryOf
  split
  next row found =>
    have listed := List.mem_of_find?_eq_some found
    have same : row.key = (envid, job.id) := by
      simpa [Entry.key] using List.find?_some found
    constructor
    · exact fun noted => ⟨row, listed, same, noted⟩
    · rintro ⟨other, otherListed, number, noted⟩
      have itself : other = row :=
        List.inj_on_of_nodup_map unique otherListed listed (number.trans same.symm)
      exact itself ▸ noted
  next missing =>
    refine iff_of_false ?_ ?_
    · cases alert <;> simp [Notified.none, Notified.has]
    · rintro ⟨other, listed, number, -⟩
      have apart := List.find?_eq_none.mp missing other listed
      simp only [decide_eq_true_eq] at apart
      exact apart ⟨congrArg Prod.fst number, congrArg Prod.snd number⟩

/-- Storing a job does not change what is noted. -/
theorem hasBit_entryOf (unique : (store.view.map Entry.key).Nodup) (envid : Nat) (job : Job) :
    HasBit (store.put (store.entryOf envid job)).view key alert ↔ HasBit store.view key alert := by
  rw [hasBit_put, entryOf_key, entryOf_has unique]
  by_cases same : key = (envid, job.id)
  · simp [same]
  · simp [same]

end Rows

/-! ## Notes and events -/

/-- A note adds an alert to what is noted. -/
theorem noting_has (notified : Notified) {alert other : JobEvent} (isAlert : alert.isAlert = true) :
    (notified.noting alert).has other = (decide (other = alert) || notified.has other) := by
  cases alert <;> cases other <;> simp [Notified.noting, Notified.has, JobEvent.isAlert] at *

/-- The event that is barred by another one is an alert, and so is the other one. -/
theorem isAlert_of_bars {earlier later : JobEvent} (barred : later ∈ earlier.bars) :
    earlier.isAlert = true ∧ later.isAlert = true := by
  cases earlier <;> simp [JobEvent.bars] at barred <;> rcases barred with rfl | rfl <;>
    exact ⟨rfl, rfl⟩

section Due

variable {control : Control} {now : DbNow} {entry : Entry} {alert : JobEvent}

/-- An alert is due if nothing is noted that bars it. -/
theorem due_unbarred {error warn : JobEvent} {errorThreshold warnThreshold micros : Int}
    {notified : Notified}
    (errorBars : ∀ earlier : JobEvent, error ∈ earlier.bars → earlier = error)
    (warnBars : ∀ earlier : JobEvent, warn ∈ earlier.bars → earlier = warn ∨ earlier = error)
    (isDue : due error warn errorThreshold warnThreshold micros notified = some alert)
    (earlier : JobEvent) (barred : alert ∈ earlier.bars) : notified.has earlier = false := by
  unfold due at isDue
  split at isDue
  next unsent =>
    cases isDue
    exact errorBars earlier barred ▸ unsent.2
  · split at isDue
    next unsent =>
      cases isDue
      rcases warnBars earlier barred with rfl | rfl
      · exact unsent.2.1
      · exact unsent.2.2
    · cases isDue

/-- An examination is for an alert that nothing bars. -/
theorem dueAlert_unbarred (isDue : dueAlert control now entry = .ok (some alert))
    (earlier : JobEvent) (barred : alert ∈ earlier.bars) :
    entry.notified.has earlier = false := by
  unfold dueAlert at isDue
  split at isDue
  · obtain ⟨delay, -, isDue⟩ := bind_eq_ok.mp isDue
    exact due_unbarred
      (fun earlier barred => by cases earlier <;> simp [JobEvent.bars] at barred ⊢)
      (fun earlier barred => by cases earlier <;> simp [JobEvent.bars] at barred ⊢)
      (Except.ok.inj isDue) earlier barred
  · obtain ⟨duration, -, isDue⟩ := bind_eq_ok.mp isDue
    exact due_unbarred
      (fun earlier barred => by cases earlier <;> simp [JobEvent.bars] at barred ⊢)
      (fun earlier barred => by cases earlier <;> simp [JobEvent.bars] at barred ⊢)
      (Except.ok.inj isDue) earlier barred

end Due

namespace Faithful

variable {rows : List Entry} {sent : List Sent} {entry : Entry}

/-- An event about an outcome changes nothing about alerts. -/
theorem outcome (faithful : Faithful rows sent) {event : Sent}
    (isOutcome : event.key.isAlert = false) : Faithful rows (sent ++ [event]) where
  unique := faithful.unique
  bits key alert isAlert := by
    have apart : event.key ≠ alert := by
      rintro rfl
      rw [isAlert] at isOutcome
      cases isOutcome
    rw [faithful.bits key alert isAlert]
    simp [WasSent, or_and_right, exists_or, apart]
  order := by
    rw [List.pairwise_append]
    refine ⟨faithful.order, List.pairwise_singleton _ _, fun earlier _ later isEvent _ barred => ?_⟩
    rw [List.mem_singleton.mp isEvent] at barred
    rw [(isAlert_of_bars barred).2] at isOutcome
    cases isOutcome

/-- Storing a job changes nothing about alerts. -/
theorem store {store : Store} (faithful : Faithful store.view sent) (envid : Nat) (job : Job) :
    Faithful (store.put (store.entryOf envid job)).view sent where
  unique := put_unique faithful.unique
  bits key alert isAlert :=
    (hasBit_entryOf faithful.unique envid job).trans (faithful.bits key alert isAlert)
  order := faithful.order

/-- Sending an alert that nothing bars and noting it in the row of the job. -/
theorem note {store : Store} (faithful : Faithful store.view sent) (listed : entry ∈ store.view)
    {alert : JobEvent} (isAlert : alert.isAlert = true)
    (unbarred : ∀ earlier : JobEvent, alert ∈ earlier.bars → entry.notified.has earlier = false) :
    Faithful (store.put (entry.noting alert)).view (sent ++ [⟨alert, entry⟩]) where
  unique := put_unique faithful.unique
  bits key other isOther := by
    have own : HasBit store.view entry.key other ↔ entry.notified.has other = true := by
      constructor
      · rintro ⟨row, rowListed, same, noted⟩
        exact List.inj_on_of_nodup_map faithful.unique rowListed listed same ▸ noted
      · exact fun noted => ⟨entry, listed, rfl, noted⟩
    have before := faithful.bits key other isOther
    have sends : WasSent (sent ++ [⟨alert, entry⟩]) key other ↔
        WasSent sent key other ∨ (entry.key = key ∧ alert = other) := by
      simp [WasSent, or_and_right, exists_or]
    have same : (entry.noting alert).key = entry.key := rfl
    rw [hasBit_put, sends, ← before, same]
    simp only [Entry.noting, noting_has _ isAlert, Bool.or_eq_true, decide_eq_true_eq]
    by_cases mine : key = entry.key
    · subst mine
      rw [own]
      simp only [true_and, ne_eq, not_true_eq_false, false_and, or_false]
      exact or_comm.trans (or_congr_right eq_comm)
    · simp [mine, Ne.symm mine]
  order := by
    rw [List.pairwise_append]
    refine ⟨faithful.order, List.pairwise_singleton _ _, fun earlier earlierSent later isEvent => ?_⟩
    rw [List.mem_singleton.mp isEvent]
    intro same barred
    have noted := (faithful.bits entry.key earlier.key (isAlert_of_bars barred).1).mpr
      ⟨earlier, earlierSent, same, rfl⟩
    obtain ⟨row, rowListed, number, has⟩ := noted
    rw [List.inj_on_of_nodup_map faithful.unique rowListed listed number,
      unbarred earlier.key barred] at has
    cases has

/-- Removing rows of which nothing was noted changes nothing about alerts. -/
theorem filter (faithful : Faithful rows sent) (keeps : Entry → Bool)
    (quiet : ∀ row ∈ rows, keeps row = false → ∀ alert, row.notified.has alert = false) :
    Faithful (rows.filter keeps) sent where
  unique := faithful.unique.sublist (List.filter_sublist.map Entry.key)
  bits key alert isAlert := by
    rw [← faithful.bits key alert isAlert]
    constructor
    · rintro ⟨row, listed, same, noted⟩
      exact ⟨row, List.mem_of_mem_filter listed, same, noted⟩
    · rintro ⟨row, listed, same, noted⟩
      cases kept : keeps row with
      | true => exact ⟨row, List.mem_filter.mpr ⟨listed, kept⟩, same, noted⟩
      | false =>
        rw [quiet row listed kept alert] at noted
        cases noted
  order := faithful.order

end Faithful

/-! ## Examinations -/

section Examining

variable (load : Load) (store : Store) (entry : Entry)

/-- The row is committed with the note of an alert. -/
def Notes (alert : JobEvent) : Prop :=
  ¬ Unreadable entry ∧ (load.control.gen ⟨alert, entry⟩ = .skipped ∨
      load.control.gen ⟨alert, entry⟩ = .generated none) ∧
    Commits load (entry.noting alert) ((store.put entry).put (entry.noting alert)).view

/-- An examination notes the alert that is due if and only if it generates it. -/
def NotesAnnounced (load : Load) (now : DbNow) (store : Store) (entry : Entry) : Prop :=
  ∀ alert, dueAlert load.control now entry = .ok (some alert) →
    (Announces load entry alert ↔ Notes load store entry alert)

/-- A prune removes no row of which an alert was noted. -/
def PrunesQuiet (store : Store) (envid : Nat) (maxid : Int) : Prop :=
  ∀ entry ∈ store.view, entry.envid = envid → maxid < entry.job.id →
    ∀ alert, entry.notified.has alert = false

end Examining

/-- The committed rows are faithful to what was sent. -/
def Store.IsFaithful (store : Store) : Prop := Faithful store.committed store.sent

section Steps

variable {load : Load} {store : Store} {entry : Entry}

/-- An event about an outcome is no alert. -/
theorem isAlert_outcomeKey {outcome : JobEvent} (finished : outcomeKey entry = some outcome) :
    outcome.isAlert = false := by
  unfold outcomeKey at finished
  split at finished
  · cases finished
  · rw [← Option.some.inj finished]
    split <;> rfl

/-- The end of an examination sends no alert. -/
theorem Concluded.faithful {rows : List Entry} {final : Store}
    (concluded : Concluded load entry store final) (faithful : Faithful rows store.sent) :
    Faithful rows final.sent := by
  by_cases reports : ∃ outcome, Reports load entry outcome
  · obtain ⟨outcome, reports⟩ := reports
    rw [concluded.reported outcome reports]
    exact faithful.outcome (isAlert_outcomeKey reports.1.1)
  · rw [concluded.unreported fun outcome made => reports ⟨outcome, made⟩]
    exact faithful

/-- The end of an examination leaves rows that are faithful, if those that it commits are. -/
theorem concluded_isFaithful {final : Store} (concluded : Concluded load entry store final)
    (saved : Commits load entry store.view → Faithful store.view store.sent)
    (left : ¬ Commits load entry store.view → Faithful store.committed store.sent) :
    final.IsFaithful := by
  refine concluded.faithful ?_
  by_cases commits : Commits load entry store.view
  · exact concluded.committed commits ▸ saved commits
  · exact concluded.uncommitted commits ▸ left commits

/-- The end of an examination keeps what is faithful, if what it commits is. -/
theorem finish_faithful (saved : Commits load entry store.view → Faithful store.view store.sent)
    (left : ¬ Commits load entry store.view → Faithful store.committed store.sent) :
    (load.checkFinished entry >>= fun _ => load.commit).Ends store
      (fun _ final => Kept Store.IsFaithful final) fun _ final => final.undone.IsFaithful := by
  refine finish_ends.mono ?_ ?_
  · rintro _ final ⟨concluded, same⟩
    have faithful : Faithful final.committed final.sent := concluded_isFaithful concluded saved left
    have view : Faithful final.view final.sent := same ▸ faithful
    exact ⟨faithful, view⟩
  · intro _ final concluded
    have faithful : Faithful final.committed final.sent := concluded_isFaithful concluded saved left
    exact faithful

/-- An examination that notes what it announces keeps the rows faithful. -/
theorem examine_faithful {now : DbNow} {envid : Nat} {job : Job}
    (notes : NotesAnnounced load now store (store.entryOf envid job))
    (kept : Kept Store.IsFaithful store) :
    (load.examine now (store.entryOf envid job)).Ends store
      (fun _ final => Kept Store.IsFaithful final) fun _ final => final.undone.IsFaithful := by
  generalize written : store.put (store.entryOf envid job) = middle
  have committed : Faithful middle.committed middle.sent := by
    rw [← written, Store.put_committed, Store.put_sent]
    exact kept.1
  have view : Faithful middle.view middle.sent := by
    rw [← written, Store.put_sent]
    exact Faithful.store kept.2 envid job
  have listed : store.entryOf envid job ∈ middle.view :=
    written ▸ (mem_put _).mpr (.inl rfl)
  rw [examine_eq, ends_bind, ends_modify, written, ends_bind, ends_settle]
  cases isDue : dueAlert load.control now (store.entryOf envid job) with
  | error failure => exact committed
  | ok alert =>
    simp only []
    rw [ends_bind]
    cases alert with
    | none => exact finish_faithful (fun _ => view) fun _ => committed
    | some alert =>
      have isAlert := isAlert_dueAlert isDue
      have unbarred := dueAlert_unbarred isDue
      have decided := notes alert isDue
      refine (notify_ends isAlert).mono ?_ ?_
      · rintro noted final ⟨rfl, readable, ⟨skipped, rfl⟩ | ⟨made, rfl⟩⟩
        · have unannounced : ¬ Announces load (store.entryOf envid job) alert := by
            rintro ⟨-, raises, made⟩
            cases skipped.symm.trans made
          have unnoted : ¬ Commits load ((store.entryOf envid job).noting alert)
              (middle.put ((store.entryOf envid job).noting alert)).view := fun commits =>
            unannounced (decided.mpr ⟨readable, .inl skipped, written.symm ▸ commits⟩)
          exact finish_faithful (fun commits => absurd commits unnoted) fun _ => by
            simpa using committed
        · have commits := (decided.mp ⟨readable, none, made⟩).2.2
          rw [written] at commits
          have sameView : ((middle.saved.sending ⟨alert, store.entryOf envid job⟩).put
              ((store.entryOf envid job).noting alert)).view =
                (middle.put ((store.entryOf envid job).noting alert)).view :=
            Store.put_view _ rfl
          refine finish_faithful (fun _ => ?_) fun uncommitted => ?_
          · rw [sameView, Store.put_sent]
            exact Faithful.note view listed isAlert unbarred
          · exact absurd commits (sameView ▸ uncommitted)
      · rintro failure final (⟨-, rfl | ⟨rfl, -⟩⟩ | ⟨failure, made, readable, rfl⟩)
        · exact committed
        · exact view
        · have impossible := (decided.mp ⟨readable, some failure, made⟩).2.1
          rcases impossible with skipped | generated
          · cases made.symm.trans skipped
          · cases made.symm.trans generated

end Steps

/-! ## Runs -/

/-- A load notes what it announces: each of its examinations does, and its prune removes no
row of which an alert was noted. -/
def NotesAll : Store → Load → Prop := Load.Cautious PrunesQuiet NotesAnnounced

/-- Quiet prunes and examinations that note what they announce keep the rows faithful. -/
theorem keeps_faithful : Keeps Store.IsFaithful PrunesQuiet NotesAnnounced where
  pruned store envid maxid quiet kept := by
    refine ⟨kept.1, Faithful.filter kept.2 _ fun row listed dropped => ?_⟩
    simp only [decide_eq_false_iff_not, not_not] at dropped
    exact quiet row listed dropped.1 dropped.2
  examined _ _ _ _ _ notes kept := examine_faithful notes kept

open Classical in
/-- In every run of loads that note what they announce, the rows are faithful. -/
theorem faithful_run {start final : Store} {schedule : List Load} (faithful : start.IsFaithful)
    (reached : (loads.restrict NotesAll).run start schedule = some final) : final.IsFaithful := by
  refine Machine.Preserves.run (fun store load next kept stepped => ?_) start final schedule
    faithful reached
  obtain ⟨notes, performed⟩ := Machine.restrict_step_eq_some.mp stepped
  rw [← Option.some.inj performed]
  exact perform_keeps keeps_faithful notes kept

/-- A run only adds to what was sent. -/
theorem run_grows {start final : Store} {schedule : List Load}
    (reached : loads.run start schedule = some final) : start.sent <+: final.sent := by
  have grows : loads.Preserves fun store => start.sent <+: store.sent :=
    fun store load next grown performed =>
      Option.some.inj performed ▸ grown.trans (perform_grows load store)
  exact grows.run start final schedule (List.prefix_refl _) reached

/-- Before anything was sent nothing is noted. -/
theorem empty_faithful : Store.empty.IsFaithful where
  unique := List.nodup_nil
  bits := by simp [Store.empty, HasBit, WasSent]
  order := .nil

open Classical in
/-- In every run of loads that note what they announce, what is noted of a job is what was
sent for it, no alert is sent twice and no warning follows its error, and what is noted stays
noted. -/
theorem alerts_once {earlier later : Store} {before after : List Load}
    (reached : (loads.restrict NotesAll).run .empty before = some earlier)
    (continued : (loads.restrict NotesAll).run earlier after = some later) :
    (∀ key alert, alert.isAlert = true →
        (HasBit later.committed key alert ↔ WasSent later.sent key alert)) ∧
      later.sent.Pairwise MayFollow ∧
      ∀ key alert, alert.isAlert = true → HasBit earlier.committed key alert →
        HasBit later.committed key alert := by
  have faithfulEarlier : earlier.IsFaithful := faithful_run empty_faithful reached
  have faithful : later.IsFaithful := faithful_run faithfulEarlier continued
  refine ⟨faithful.bits, faithful.order, fun key alert isAlert noted => ?_⟩
  obtain ⟨event, sent, same⟩ := (faithfulEarlier.bits key alert isAlert).mp noted
  have stays := (run_grows (Machine.run_of_restrict continued)).subset sent
  exact (faithful.bits key alert isAlert).mpr ⟨event, stays, same⟩

/-! ## Two runs -/

/-- A job that was created and has not started. -/
def waitingJob : Job where
  id := 7
  subtitle := none
  args := none
  progress := none
  finishCode := none
  updatedAt := some 0
  createdAt := some 0
  startedAt := none
  completedAt := none

/-- A load of the waiting job after its threshold, where everything succeeds. -/
def waitingLoad (maximum : OdbcReply) : Load where
  envid := 1
  busy := false
  odbcOk := true
  maximum := ⟨maximum, false⟩
  jobs := ⟨.rows true [⟨waitingJob, none⟩], false⟩
  now := ⟨⟨none, some [], none⟩, false⟩
  nowAgain := ⟨⟨none, some [], none⟩, false⟩
  clock := ⟨fun _ => none, 100000000⟩
  control := ⟨0, 10, 0, 0, fun _ => .unneeded, fun _ => .generated none⟩
  accepts := fun _ => true

/-- A reply with the greatest number. -/
def numbered : OdbcReply := ⟨none, some [[.int 7]], none⟩

/-- A reply without rows. -/
def unnumbered : OdbcReply := ⟨none, none, none⟩

/-- The waiting job after its alert. -/
def notedJob : Store := ((waitingLoad numbered).perform .empty).2

/-- A reply without rows removes the row, and the alert is sent again. -/
theorem alert_repeated :
    ¬ ∀ (earlier later : Store) (before after : List Load),
      loads.run .empty before = some earlier → loads.run earlier after = some later →
      (∀ key alert, alert.isAlert = true →
          (HasBit later.committed key alert ↔ WasSent later.sent key alert)) ∧
        later.sent.Pairwise MayFollow ∧
        ∀ key alert, alert.isAlert = true → HasBit earlier.committed key alert →
          HasBit later.committed key alert := by
  intro always
  obtain ⟨-, order, -⟩ := always notedJob ((waitingLoad unnumbered).perform notedJob).2
    [waitingLoad numbered] [waitingLoad unnumbered] rfl rfl
  have twice : [(⟨.delayError, ⟨1, waitingJob, .none⟩⟩ : Sent),
      ⟨.delayError, ⟨1, waitingJob, .none⟩⟩].Pairwise MayFollow := order
  exact (List.pairwise_cons.mp twice).1 _ (List.mem_singleton_self _) rfl (by decide)

/-- The first alert of the waiting job is noted as it is sent. -/
theorem waiting_notes : NotesAll .empty (waitingLoad numbered) := by
  intro _ _ maxid _
  refine ⟨fun entry listed => (List.not_mem_nil listed).elim, ?_⟩
  intro rows now jobs loaded told converted
  cases loaded
  cases told
  cases converted
  refine ⟨⟨fun alert isDue => ?_, trivial⟩, fun again _ => trivial⟩
  have error : alert = .delayError := by
    have decided : dueAlert (waitingLoad numbered).control (.time 100000000)
        ⟨1, waitingJob, .none⟩ = .ok (some .delayError) := by decide
    exact (Option.some.inj (Except.ok.inj (decided.symm.trans isDue))).symm
  subst error
  have readable : ¬ Unreadable ⟨1, waitingJob, .none⟩ := by decide
  exact iff_of_true ⟨readable, none, rfl⟩ ⟨readable, .inr rfl, .inl ⟨rfl, rfl⟩⟩

/-- After its first alert, the waiting job is noted as sent. -/
theorem waiting_alerts_once :
    (∀ key alert, alert.isAlert = true →
        (HasBit notedJob.committed key alert ↔ WasSent notedJob.sent key alert)) ∧
      notedJob.sent.Pairwise MayFollow ∧
      ∀ key alert, alert.isAlert = true → HasBit notedJob.committed key alert →
        HasBit notedJob.committed key alert := by
  classical
  have reached : (loads.restrict NotesAll).run .empty [waitingLoad numbered] = some notedJob :=
    (Machine.run_cons_eq_some _ _ _ _).mpr
      ⟨notedJob, Machine.restrict_step_eq_some.mpr ⟨waiting_notes, rfl⟩, rfl⟩
  exact @alerts_once notedJob notedJob [waitingLoad numbered] [] reached rfl

end Palette.Jobs
