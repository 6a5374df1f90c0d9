import Palette.Foundation.Transition
import Palette.Load.Jobs

/-!
# Runs of loads

The loads of the jobs follow one another, each in a session of its own and with replies of
its own. What a load leaves is what was committed; a failed one may leave part of what it was
to do. A property of the table and of what was sent is kept over all loads if it is kept by
the prune and by every examination, both for what is committed and for what would be if the
session were committed.

A load is cautious about a condition if its prune and each of its examinations meet it, in the
state in which they are made.
-/

namespace Palette.Jobs

open Palette.Commands Palette.Foundation Palette.Load Script

namespace Store

/-- A table without rows, before anything was sent. -/
def empty : Store := ⟨[], [], [], []⟩

@[simp] theorem undone_undone (store : Store) : store.undone.undone = store.undone := rfl

@[simp] theorem saved_undone (store : Store) : store.saved.undone = store.saved := rfl

@[simp] theorem undone_saved (store : Store) : store.undone.saved = store.undone := rfl

@[simp] theorem saved_saved (store : Store) : store.saved.saved = store.saved := rfl

@[simp] theorem put_committed (store : Store) (entry : Entry) :
    (store.put entry).committed = store.committed := by
  simp only [put]
  split <;> rfl

@[simp] theorem put_sent (store : Store) (entry : Entry) :
    (store.put entry).sent = store.sent := by
  simp only [put]
  split <;> rfl

/-- A row is written to the view, whatever else the table holds. -/
theorem put_view {store other : Store} (entry : Entry) (same : store.view = other.view) :
    (store.put entry).view = (other.put entry).view := by
  simp only [put, same]
  split <;> rfl

@[simp] theorem put_archived (store : Store) (entry : Entry) :
    (store.put entry).archived = store.archived := by
  simp only [put]
  split <;> rfl

end Store

/-- Something holds of what is committed, and of what would be after a commit. -/
def Kept (holds : Store → Prop) (store : Store) : Prop := holds store.undone ∧ holds store.saved

/-- A commit keeps what is kept. -/
theorem Kept.save {holds : Store → Prop} {store : Store} (kept : Kept holds store) :
    Kept holds store.saved := ⟨kept.2, kept.2⟩

/-- A commit that may be made keeps what is kept. -/
theorem Kept.maySave {holds : Store → Prop} {store : Store} (kept : Kept holds store)
    (removes : Bool) : Kept holds (if removes then store.saved else store) := by
  cases removes with
  | true => exact kept.save
  | false => exact kept

namespace Load

/-- The table once a load has pruned it and asked for the jobs and the time. -/
def queried (load : Load) (store : Store) (maxid : Int) : Store :=
  let pruned := store.undone.pruned load.envid maxid
  let asked := if load.jobs.removes then pruned.saved else pruned
  if load.now.removes then asked.saved else asked

/-- The prune of a load and each of its examinations meet their conditions. -/
def Cautious (prunes : Store → Nat → Int → Prop) (examines : Load → DbNow → Store → Entry → Prop)
    (store : Store) (load : Load) : Prop :=
  load.busy = false → load.odbcOk = true →
    ∀ maxid, lastBackgroundJobsId load.maximum.reply = .ok maxid →
      prunes store.undone load.envid maxid ∧
      ∀ rows now jobs, load.jobs.reply = .rows true rows →
        getDbNowUtc load.clock load.now.reply = .ok now → convertAll rows = .ok jobs →
        Along (load.storeJob now)
            (fun state job => examines load now state (state.entryOf load.envid job)) jobs
            (load.queried store maxid) ∧
          (jobs.forM (load.storeJob now)).Upholds (load.queried store maxid) fun _ stored =>
            ∀ again, getDbNowUtc load.clock load.nowAgain.reply = .ok again →
              Along (load.examineAgain again)
                (fun state row => examines load again state (state.entryOf row.envid row.job))
                (unfinished stored.view)
                (if load.nowAgain.removes then stored.saved else stored)

end Load

/-! ## What an examination does -/

section Examination

variable (load : Load) (entry : Entry)

/-- The item of a job is to be looked up but cannot be, and the event raises. -/
def Unreadable : Prop := isArchived entry.job = true ∧ entry.job.args = none

instance : Decidable (Unreadable entry) := inferInstanceAs (Decidable (_ ∧ _))

/-- An alert is generated. -/
def Announces (alert : JobEvent) : Prop :=
  ¬ Unreadable entry ∧ ∃ raises, load.control.gen ⟨alert, entry⟩ = .generated raises

/-- The event about the outcome comes to be generated: a job with a readable item that was
archived, if it was to be. -/
def Concludes (outcome : JobEvent) : Prop :=
  outcomeKey entry = some outcome ∧ ¬ Unreadable entry ∧
    (outcome = .ok → ∀ failure, load.control.archive entry ≠ .refused failure)

/-- The outcome of a job is reported. -/
def Reports (outcome : JobEvent) : Prop :=
  Concludes load entry outcome ∧ ∃ raises, load.control.gen ⟨outcome, entry⟩ = .generated raises

/-- A finished job is archived. -/
def Archives : Prop :=
  outcomeKey entry = some .ok ∧ ¬ Unreadable entry ∧ load.control.archive entry = .added

/-- The end of an examination commits what the session holds: at its very end, or for the
archive or the event about the outcome. -/
def Commits (view : List Entry) : Prop :=
  (outcomeKey entry = none ∧ load.accepts view = true) ∨ Archives load entry ∨
    ∃ outcome, Concludes load entry outcome ∧
      match load.control.gen ⟨outcome, entry⟩ with
      | .skipped => load.accepts view = true
      | .raised _ => False
      | .incomplete _ | .generated _ => True

/-- What the end of an examination does. -/
structure Concluded (store final : Store) : Prop where
  view : final.view = store.view
  committed : Commits load entry store.view → final.committed = store.view
  uncommitted : ¬ Commits load entry store.view → final.committed = store.committed
  reported : ∀ outcome, Reports load entry outcome → final.sent = store.sent ++ [⟨outcome, entry⟩]
  unreported : (∀ outcome, ¬ Reports load entry outcome) → final.sent = store.sent
  archived : Archives load entry → final.archived = store.archived ++ [entry]
  unarchived : ¬ Archives load entry → final.archived = store.archived

end Examination

section Ending

variable {load : Load} {entry : Entry} {store : Store}

/-- An event of an unreadable job raises; the archive comes before the others. -/
theorem eventgen_eq (key : JobEvent) : load.eventgen key entry =
    if Unreadable entry then
      throw ⟨.attributeError, "'NoneType' object has no attribute 'split'"⟩
    else (if key = .ok then load.archive entry else pure ⟨⟩) >>= fun _ =>
      load.gen ⟨key, entry⟩ := by
  unfold Load.eventgen Unreadable
  split
  · rfl
  · split <;> rfl

/-- Before the event about the outcome nothing was done but for the archive. -/
theorem archive_ends {outcome : JobEvent} (readable : ¬ Unreadable entry)
    (finished : outcomeKey entry = some outcome) :
    (if outcome = .ok then load.archive entry else pure ⟨⟩ : Work PUnit).Ends store
      (fun _ final => Concludes load entry outcome ∧
        ((Archives load entry ∧
          final = { store.saved with archived := store.archived ++ [entry] }) ∨
        (¬ Archives load entry ∧ final = store)))
      fun _ final => ¬ Concludes load entry outcome ∧ ¬ Archives load entry ∧ final = store := by
  by_cases isOk : outcome = .ok
  · subst isOk
    unfold Load.archive
    cases asked : load.control.archive entry <;>
      simp [Concludes, Archives, finished, readable, asked]
  · simp [isOk, Concludes, Archives, finished, readable]

/-- A finished job is not concluded where its end raised before the event. -/
theorem concluded_unmade {outcome : JobEvent} (finished : outcomeKey entry = some outcome)
    (unmade : ¬ Concludes load entry outcome) (unarchived : ¬ Archives load entry) :
    Concluded load entry store store := by
  have never (other : JobEvent) : ¬ Concludes load entry other := fun concludes =>
    unmade (Option.some.inj (finished.symm.trans concludes.1) ▸ concludes)
  have uncommitted (view : List Entry) : ¬ Commits load entry view := by
    rintro (⟨unfinished, -⟩ | archives | ⟨other, concludes, -⟩)
    · cases finished.symm.trans unfinished
    · exact unarchived archives
    · exact never other concludes
  exact ⟨rfl, fun commits => absurd commits (uncommitted _), fun _ => rfl,
    fun other reports => absurd reports.1 (never other), fun _ => rfl,
    fun archives => absurd archives unarchived, fun _ => rfl⟩

/-- What the event about the outcome and the last commit do after the archive. -/
theorem gen_ends {outcome : JobEvent} (concludes : Concludes load entry outcome)
    {middle : Store} (view : middle.view = store.view) (sent : middle.sent = store.sent)
    (archived : Archives load entry → middle.archived = store.archived ++ [entry] ∧
      middle.committed = store.view)
    (unarchived : ¬ Archives load entry → middle.archived = store.archived ∧
      middle.committed = store.committed) :
    (load.gen ⟨outcome, entry⟩ >>= fun _ => load.commit).Ends middle
      (fun _ final => Concluded load entry store final ∧ final.committed = final.view)
      fun _ final => Concluded load entry store final := by
  have only (other : JobEvent) (concludesOther : Concludes load entry other) : other = outcome :=
    Option.some.inj (concludesOther.1.symm.trans concludes.1)
  have finished : outcomeKey entry ≠ none := by simp [concludes.1]
  have commits : Commits load entry store.view ↔ Archives load entry ∨
      match load.control.gen ⟨outcome, entry⟩ with
      | .skipped => load.accepts store.view = true
      | .raised _ => False
      | .incomplete _ | .generated _ => True := by
    constructor
    · rintro (⟨unfinished, -⟩ | archives | ⟨other, concludesOther, made⟩)
      · exact absurd unfinished finished
      · exact .inl archives
      · exact .inr (only other concludesOther ▸ made)
    · rintro (archives | made)
      · exact .inr (.inl archives)
      · exact .inr (.inr ⟨outcome, concludes, made⟩)
  have reports (other : JobEvent) : Reports load entry other ↔
      other = outcome ∧ ∃ raises, load.control.gen ⟨outcome, entry⟩ = .generated raises := by
    constructor
    · rintro ⟨concludesOther, made⟩
      have same := only other concludesOther
      exact ⟨same, same ▸ made⟩
    · rintro ⟨rfl, made⟩
      exact ⟨concludes, made⟩
  have concluded (final : Store) (sameView : final.view = store.view)
      (sameArchive : final.archived = middle.archived)
      (saves : Commits load entry store.view → final.committed = store.view)
      (leaves : ¬ Commits load entry store.view → final.committed = store.committed)
      (sends : ∀ raises, load.control.gen ⟨outcome, entry⟩ = .generated raises →
        final.sent = store.sent ++ [⟨outcome, entry⟩])
      (silent : (∀ raises, load.control.gen ⟨outcome, entry⟩ ≠ .generated raises) →
        final.sent = store.sent) : Concluded load entry store final := by
    refine ⟨sameView, saves, leaves, fun other made => ?_, fun never => ?_,
      fun archives => sameArchive.trans (archived archives).1,
      fun spared => sameArchive.trans (unarchived spared).1⟩
    · obtain ⟨rfl, raises, generated⟩ := (reports other).mp made
      exact sends raises generated
    · exact silent fun raises made => never outcome ((reports outcome).mpr ⟨rfl, raises, made⟩)
  have left (uncommitted : ¬ Commits load entry store.view) :
      middle.committed = store.committed :=
    (unarchived fun archives => uncommitted (commits.mpr (.inl archives))).2
  unfold Load.gen Load.commit
  cases made : load.control.gen ⟨outcome, entry⟩ with
  | skipped =>
    simp only [made] at commits concluded
    simp only [ends_bind, ends_pure, ends_get, ends_ite, ends_modify, ends_throw, view]
    split
    next accepted =>
      exact ⟨concluded _ view rfl (fun _ => view)
        (fun uncommitted => absurd (commits.mpr (.inr accepted)) uncommitted)
        (fun _ impossible => by cases impossible) fun _ => sent, rfl⟩
    next refused =>
      refine concluded _ view rfl (fun committed => ?_) left
        (fun _ impossible => by cases impossible) fun _ => sent
      exact (archived ((commits.mp committed).resolve_right refused)).2
  | raised failure =>
    simp only [made, or_false] at commits concluded
    exact concluded _ view rfl (fun committed => (archived (commits.mp committed)).2) left
      (fun _ impossible => by cases impossible) fun _ => sent
  | incomplete failure =>
    simp only [made, or_true, iff_true] at commits concluded
    exact concluded _ view rfl (fun _ => view) (fun uncommitted => absurd commits uncommitted)
      (fun _ impossible => by cases impossible) fun _ => sent
  | generated raises =>
    simp only [made, or_true, iff_true] at commits concluded
    have done (final : Store) (same : final = middle.saved.sending ⟨outcome, entry⟩) :
        Concluded load entry store final := by
      subst same
      exact concluded _ view rfl (fun _ => view) (fun uncommitted => absurd commits uncommitted)
        (fun _ _ => congrArg (· ++ _) sent) fun never => absurd rfl (never raises)
    cases raises with
    | some failure => exact done _ rfl
    | none =>
      simp only [ends_bind, ends_modify, ends_pure, ends_get, ends_ite, ends_throw]
      split
      · exact ⟨done _ rfl, rfl⟩
      · exact done _ rfl

/-- The end of an examination does what it is to do, and where it returns nothing is left
uncommitted. -/
theorem finish_ends :
    (load.checkFinished entry >>= fun _ => load.commit).Ends store
      (fun _ final => Concluded load entry store final ∧ final.committed = final.view)
      fun _ final => Concluded load entry store final := by
  unfold Load.checkFinished
  cases finished : outcomeKey entry with
  | none =>
    have noReport (outcome : JobEvent) : ¬ Reports load entry outcome := fun reports => by
      cases finished.symm.trans reports.1.1
    have noArchive : ¬ Archives load entry := fun archives => by
      cases finished.symm.trans archives.1
    have commits : Commits load entry store.view ↔ load.accepts store.view = true := by
      simp [Commits, Concludes, noArchive, finished]
    unfold Load.commit
    simp only [pure_bind, ends_bind, ends_get, ends_ite, ends_modify, ends_throw]
    split
    next accepted =>
      exact ⟨⟨rfl, fun _ => rfl, fun uncommitted => absurd (commits.mpr accepted) uncommitted,
        fun outcome reports => absurd reports (noReport outcome), fun _ => rfl,
        fun archives => absurd archives noArchive, fun _ => rfl⟩, rfl⟩
    next refused =>
      exact ⟨rfl, fun committed => absurd (commits.mp committed) refused, fun _ => rfl,
        fun outcome reports => absurd reports (noReport outcome), fun _ => rfl,
        fun archives => absurd archives noArchive, fun _ => rfl⟩
  | some outcome =>
    simp only []
    rw [eventgen_eq]
    by_cases unreadable : Unreadable entry
    · have unmade : ¬ Concludes load entry outcome := fun concludes => concludes.2.1 unreadable
      rw [if_pos unreadable]
      exact concluded_unmade finished unmade fun archives => archives.2.1 unreadable
    · rw [if_neg unreadable, bind_assoc, ends_bind]
      refine (archive_ends unreadable finished).mono (fun _ middle before => ?_) ?_
      · obtain ⟨concludes, ⟨archives, rfl⟩ | ⟨spared, rfl⟩⟩ := before
        · exact gen_ends concludes rfl rfl (fun _ => ⟨rfl, rfl⟩)
            fun spared => absurd archives spared
        · exact gen_ends concludes rfl rfl (fun archives => absurd archives spared)
            fun _ => ⟨rfl, rfl⟩
      · rintro failure final ⟨unmade, unarchived, rfl⟩
        exact concluded_unmade finished unmade unarchived

/-- The check of a threshold sends the alert and notes it, if it returns. It raises before the
alert, or after the alert or a part of it was committed. -/
theorem notify_ends {alert : JobEvent} (isAlert : alert.isAlert = true) :
    (load.notify entry (some alert)).Ends store
      (fun noted final => noted = entry.noting alert ∧ ¬ Unreadable entry ∧
        ((load.control.gen ⟨alert, entry⟩ = .skipped ∧ final = store.put noted) ∨
          (load.control.gen ⟨alert, entry⟩ = .generated none ∧
            final = (store.saved.sending ⟨alert, entry⟩).put noted)))
      fun _ final => (¬ Announces load entry alert ∧ (final = store ∨
          (final = store.saved ∧ ¬ Unreadable entry ∧
            ∃ failure, load.control.gen ⟨alert, entry⟩ = .incomplete failure))) ∨
        ∃ failure, load.control.gen ⟨alert, entry⟩ = .generated (some failure) ∧
          ¬ Unreadable entry ∧
          final = store.saved.sending ⟨alert, entry⟩ := by
  have other : alert ≠ .ok := fun same => by simp [same, JobEvent.isAlert] at isAlert
  simp only [Load.notify, eventgen_eq, other, ↓reduceIte, pure_bind]
  by_cases unreadable : Unreadable entry
  · rw [if_pos unreadable]
    exact .inl ⟨fun announces => announces.1 unreadable, .inl rfl⟩
  · rw [if_neg unreadable]
    unfold Load.gen
    cases made : load.control.gen ⟨alert, entry⟩ with
    | skipped => exact ⟨rfl, unreadable, .inl ⟨rfl, rfl⟩⟩
    | raised failure =>
      refine .inl ⟨fun announces => ?_, .inl rfl⟩
      obtain ⟨raises, generated⟩ := announces.2
      cases made.symm.trans generated
    | incomplete failure =>
      refine .inl ⟨fun announces => ?_, .inr ⟨rfl, unreadable, failure, rfl⟩⟩
      obtain ⟨raises, generated⟩ := announces.2
      cases made.symm.trans generated
    | generated raises =>
      cases raises with
      | none => exact ⟨rfl, unreadable, .inr ⟨rfl, rfl⟩⟩
      | some failure => exact .inr ⟨failure, rfl, unreadable, rfl⟩

/-- The alert that is due is one of its kind. -/
theorem due_kind {error warn alert : JobEvent} {errorThreshold warnThreshold micros : Int}
    {notified : Notified}
    (isDue : due error warn errorThreshold warnThreshold micros notified = some alert) :
    alert = error ∨ alert = warn := by
  unfold due at isDue
  split at isDue
  · exact .inl (Option.some.inj isDue).symm
  · split at isDue
    · exact .inr (Option.some.inj isDue).symm
    · cases isDue

/-- A job is examined for an alert and not for its outcome. -/
theorem isAlert_dueAlert {control : Control} {now : DbNow} {alert : JobEvent}
    (isDue : dueAlert control now entry = .ok (some alert)) : alert.isAlert = true := by
  unfold dueAlert at isDue
  split at isDue
  · obtain ⟨delay, -, isDue⟩ := bind_eq_ok.mp isDue
    rcases due_kind (Except.ok.inj isDue) with rfl | rfl <;> rfl
  · obtain ⟨duration, -, isDue⟩ := bind_eq_ok.mp isDue
    rcases due_kind (Except.ok.inj isDue) with rfl | rfl <;> rfl

/-- An examination asks which alert is due, sends it, and ends. -/
theorem examine_eq (now : DbNow) : load.examine now entry = (do
    modify fun store => store.put entry
    let checked ← load.notify entry (← settle (dueAlert load.control now entry))
    load.checkFinished checked
    load.commit) := by
  unfold Load.examine Load.process Load.checkStartDelay Load.checkDurationExceeded dueAlert
  split <;> simp only [bind_assoc]

end Ending

/-- The loads that follow one another, from a table without rows. -/
def loads : Machine Store Load where
  initial store := store = .empty
  step store load := some (load.perform store).2

section Keeping

variable {holds : Store → Prop} {prunes : Store → Nat → Int → Prop}
  {examines : Load → DbNow → Store → Entry → Prop}

/-- What the prune and the examinations that meet their conditions keep. -/
structure Keeps (holds : Store → Prop) (prunes : Store → Nat → Int → Prop)
    (examines : Load → DbNow → Store → Entry → Prop) : Prop where
  pruned : ∀ store envid maxid, prunes store envid maxid → Kept holds store →
    Kept holds (store.pruned envid maxid)
  examined : ∀ (load : Load) now store envid job,
    examines load now store (store.entryOf envid job) → Kept holds store →
    (load.examine now (store.entryOf envid job)).Ends store (fun _ final => Kept holds final)
      fun _ final => holds final.undone

/-- The loops of a load keep what examinations keep. -/
theorem takeJobs_keeps (keeps : Keeps holds prunes examines) {load : Load} {store : Store}
    {maxid : Int} (cautious : load.Cautious prunes examines store) (idle : load.busy = false)
    (odbcOk : load.odbcOk = true)
    (taken : Load.lastBackgroundJobsId load.maximum.reply = .ok maxid)
    (kept : Kept holds (store.undone.pruned load.envid maxid)) :
    load.takeJobs.Ends (store.undone.pruned load.envid maxid) (fun _ final => holds final.undone)
      fun _ final => holds final.undone := by
  have examinations := (cautious idle odbcOk maxid taken).2
  have asked := kept.maySave load.jobs.removes
  unfold Load.takeJobs
  rw [ends_bind, ends_ask]
  cases replied : load.jobs.reply with
  | error message => exact asked.1
  | missing => exact asked.1
  | rows schema rows =>
    have queried : Kept holds (load.queried store maxid) := asked.maySave load.now.removes
    simp only [ends_bind, ends_ask, ends_settle]
    cases told : getDbNowUtc load.clock load.now.reply with
    | error failure => exact queried.1
    | ok now =>
      cases schema with
      | false => exact queried.1
      | true =>
        simp only [Bool.true_eq_false, ↓reduceIte]
        rw [ends_bind, ends_settle]
        cases converted : Load.convertAll rows with
        | error failure => exact queried.1
        | ok jobs =>
          simp only [ends_bind, ends_pure]
          obtain ⟨stores, rest⟩ := examinations rows now jobs replied told converted
          have stored : (jobs.forM (load.storeJob now)).Ends (load.queried store maxid)
              (fun _ final => Kept holds final) fun _ final => holds final.undone :=
            stores.ends (fun state job examines kept =>
              keeps.examined load now state load.envid job examines kept) queried
          refine (stored.and rest).mono (fun _ middle both => ?_) fun _ _ both => both.1
          simp only [Load.checkExistingUnfinished, ends_bind, ends_get, ends_ask, ends_settle]
          have again := both.1.maySave load.nowAgain.removes
          cases toldAgain : getDbNowUtc load.clock load.nowAgain.reply with
          | error failure => exact again.1
          | ok later =>
            have examined : ((Load.unfinished middle.view).forM (load.examineAgain later)).Ends
                (if load.nowAgain.removes then middle.saved else middle)
                (fun _ final => Kept holds final) fun _ final => holds final.undone :=
              (both.2 later toldAgain).ends (fun state row examines kept =>
                keeps.examined load later state row.envid row.job examines kept) again
            exact examined.mono (fun _ _ kept => kept.1) fun _ _ kept => kept

/-- A cautious load keeps what its prune and its examinations keep. -/
theorem perform_keeps (keeps : Keeps holds prunes examines) {load : Load} {store : Store}
    (cautious : load.Cautious prunes examines store) (before : holds store.undone) :
    holds (load.perform store).2 := by
  have kept : Kept holds store.undone := ⟨before, before⟩
  suffices ends : load.run.Ends store.undone (fun _ final => holds final.undone)
      fun _ final => holds final.undone from (ends_state load.run).mp ends
  unfold Load.run
  cases idle : load.busy with
  | true => exact before
  | false =>
    cases odbcOk : load.odbcOk with
    | false => exact before
    | true =>
      simp only [Bool.false_eq_true, ↓reduceIte, reduceCtorEq, ends_bind, ends_attempt, Load.prune,
        ends_ask, ends_settle, ends_modify]
      have asked : (if load.maximum.removes then store.undone.saved else store.undone) =
          store.undone := by cases load.maximum.removes <;> rfl
      rw [asked]
      cases taken : Load.lastBackgroundJobsId load.maximum.reply with
      | error failure =>
        simp only []
        split <;> exact before
      | ok maxid =>
        have allowed := (cautious idle odbcOk maxid taken).1
        exact takeJobs_keeps keeps cautious idle odbcOk taken (keeps.pruned _ _ _ allowed kept)

/-- Every load is cautious about what holds always. -/
theorem cautious_of_forall (pruned : ∀ store envid maxid, prunes store envid maxid)
    (examined : ∀ load now store entry, examines load now store entry) (load : Load)
    (store : Store) : load.Cautious prunes examines store := by
  intro _ _ maxid _
  refine ⟨pruned _ _ _, fun rows now jobs _ _ _ => ⟨?_, ?_⟩⟩
  · exact along_of_forall (fun state _ => examined load now state _) jobs _
  · refine upholds_of_forall _ fun _ stored again _ => ?_
    exact along_of_forall (fun state _ => examined load again state _) _ _

end Keeping

/-! ## What only grows -/

/-- The end of an examination only adds to what was sent. -/
theorem Concluded.grows {load : Load} {entry : Entry} {store final : Store}
    (concluded : Concluded load entry store final) : store.sent <+: final.sent := by
  by_cases reports : ∃ outcome, Reports load entry outcome
  · obtain ⟨outcome, reports⟩ := reports
    rw [concluded.reported outcome reports]
    exact List.prefix_append _ _
  · rw [concluded.unreported fun outcome made => reports ⟨outcome, made⟩]

/-- An examination only adds to what was sent. -/
theorem examine_grows (load : Load) (now : DbNow) (entry : Entry) (store : Store) :
    (load.examine now entry).Ends store (fun _ final => store.sent <+: final.sent)
      fun _ final => store.sent <+: final.sent := by
  have finishes (middle : Store) (checked : Entry) (grown : store.sent <+: middle.sent) :
      (load.checkFinished checked >>= fun _ => load.commit).Ends middle
        (fun _ final => store.sent <+: final.sent) fun _ final => store.sent <+: final.sent :=
    finish_ends.mono (fun _ _ ended => grown.trans ended.1.grows)
      fun _ _ concluded => grown.trans concluded.grows
  have written : store.sent <+: (store.put entry).sent := by simp
  rw [examine_eq, ends_bind, ends_modify, ends_bind, ends_settle]
  cases isDue : dueAlert load.control now entry with
  | error failure => exact written
  | ok alert =>
    simp only []
    rw [ends_bind]
    cases alert with
    | none => exact finishes _ entry written
    | some alert =>
      refine (notify_ends (isAlert_dueAlert isDue)).mono ?_ ?_
      · rintro noted final ⟨-, -, ⟨-, rfl⟩ | ⟨-, rfl⟩⟩
        · exact finishes _ noted (by simp)
        · exact finishes _ noted (by simp [Store.sending, Store.saved])
      · rintro failure final (⟨-, rfl | ⟨rfl, -⟩⟩ | ⟨failure, -, -, rfl⟩)
        · exact written
        · exact written
        · simp [Store.sending, Store.saved]

/-- A load only adds to what was sent. -/
theorem perform_grows (load : Load) (store : Store) :
    store.sent <+: (load.perform store).2.sent := by
  have keeps : Keeps (fun final => store.sent <+: final.sent) (fun _ _ _ => True)
      fun _ _ _ _ => True :=
    { pruned := fun _ _ _ _ kept => kept
      examined := fun load now middle envid job _ kept =>
        (examine_grows load now (middle.entryOf envid job) middle).mono
          (fun _ _ grown => ⟨kept.1.trans grown, kept.1.trans grown⟩)
          fun _ _ grown => kept.1.trans grown }
  exact perform_keeps keeps (cautious_of_forall (fun _ _ _ => trivial) (fun _ _ _ _ => trivial)
    load store) (List.prefix_refl _)

end Palette.Jobs
