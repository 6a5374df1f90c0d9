import Palette.Load.Thresholds

/-!
# The outcome of a job

The outcome of a job is generated by every examination of its finished row. A row is examined
each time that it was updated, and by the scan as long as its progress is not complete, in the
same load, too. Nothing is noted about it.

So a finished job is reported once if no examination after the one that reported it is of a
finished row, and if the examination that commits the finished row does report it.
-/

namespace Palette.Jobs

open Palette.Commands Palette.Foundation Palette.Load Palette.Sync Script

/-- The jobs whose outcome was reported, one for each event. -/
def outcomes (sent : List Sent) : List (Nat × Int) :=
  (sent.filter fun event => !event.key.isAlert).map fun event => event.entry.key

/-- A row that is finished is one of a job that was reported. -/
def Known (sent : List Sent) (entry : Entry) : Prop :=
  outcomeKey entry ≠ none → entry.key ∈ outcomes sent

/-- What was reported and archived: no job twice, and each job with the outcome that its
finished row had. -/
structure WellLogged (sent : List Sent) (archived : List Entry) : Prop where
  once : (outcomes sent).Nodup
  finished : ∀ event ∈ sent, event.key.isAlert = false → outcomeKey event.entry = some event.key
  archivedOnce : (archived.map Entry.key).Nodup

/-- The committed rows that are finished are those of jobs that were reported, once. -/
structure Store.IsReported (store : Store) : Prop where
  log : WellLogged store.sent store.archived
  known : ∀ entry ∈ store.committed, Known store.sent entry

/-! ## The log -/

section Log

variable {sent : List Sent} {archived : List Entry}

/-- An alert reports no outcome. -/
theorem outcomes_alert {event : Sent} (isAlert : event.key.isAlert = true) :
    outcomes (sent ++ [event]) = outcomes sent := by
  simp [outcomes, isAlert]

/-- An outcome is reported for its job. -/
theorem outcomes_outcome {event : Sent} (isOutcome : event.key.isAlert = false) :
    outcomes (sent ++ [event]) = outcomes sent ++ [event.entry.key] := by
  simp [outcomes, isOutcome]

/-- An alert changes nothing about outcomes. -/
theorem WellLogged.alert {event : Sent} (log : WellLogged sent archived)
    (isAlert : event.key.isAlert = true) : WellLogged (sent ++ [event]) archived where
  once := (outcomes_alert isAlert).symm ▸ log.once
  finished other listed isOutcome := by
    rcases List.mem_append.mp listed with before | new
    · exact log.finished other before isOutcome
    · rw [List.mem_singleton.mp new, isAlert] at isOutcome
      cases isOutcome
  archivedOnce := log.archivedOnce

/-- The outcome of a job that was not reported. -/
theorem WellLogged.outcome {event : Sent} (log : WellLogged sent archived)
    (finished : outcomeKey event.entry = some event.key)
    (fresh : event.entry.key ∉ outcomes sent) : WellLogged (sent ++ [event]) archived where
  once := by
    rw [outcomes_outcome (isAlert_outcomeKey finished), List.nodup_append]
    refine ⟨log.once, List.nodup_singleton _, ?_⟩
    rintro key reported other new rfl
    exact fresh (List.mem_singleton.mp new ▸ reported)
  finished other listed isOutcome := by
    rcases List.mem_append.mp listed with before | new
    · exact log.finished other before isOutcome
    · rw [List.mem_singleton.mp new]
      exact finished
  archivedOnce := log.archivedOnce

/-- A job that was not archived is archived. -/
theorem WellLogged.archive {entry : Entry} (log : WellLogged sent archived)
    (fresh : entry.key ∉ archived.map Entry.key) : WellLogged sent (archived ++ [entry]) where
  once := log.once
  finished := log.finished
  archivedOnce := by
    rw [List.map_append, List.nodup_append]
    refine ⟨log.archivedOnce, List.nodup_singleton _, ?_⟩
    rintro key archived other new rfl
    exact fresh (List.mem_singleton.mp new ▸ archived)

/-- What is reported stays reported. -/
theorem outcomes_grow {later : List Sent} (grown : sent <+: later) {key : Nat × Int}
    (reported : key ∈ outcomes sent) : key ∈ outcomes later :=
  ((grown.sublist.filter _).map _).subset reported

/-- A row of a job that was reported stays one. -/
theorem Known.grows {later : List Sent} {entry : Entry} (known : Known sent entry)
    (grown : sent <+: later) : Known later entry :=
  fun finished => outcomes_grow grown (known finished)

end Log

/-! ## Examinations -/

section Examining

variable (load : Load) (now : DbNow) (store : Store) (entry : Entry)

/-- An examination comes to the outcome, with the row as the check of the threshold left it. -/
def Passes (checked : Entry) : Prop :=
  (dueAlert load.control now entry = .ok none ∧ checked = entry) ∨
    ∃ alert, dueAlert load.control now entry = .ok (some alert) ∧ ¬ Unreadable entry ∧
      (load.control.gen ⟨alert, entry⟩ = .skipped ∨
        load.control.gen ⟨alert, entry⟩ = .generated none) ∧ checked = entry.noting alert

/-- The event of an alert commits the row. -/
def CommitsAlert : Prop :=
  ∃ alert, dueAlert load.control now entry = .ok (some alert) ∧ ¬ Unreadable entry ∧
    ((∃ failure, load.control.gen ⟨alert, entry⟩ = .incomplete failure) ∨
      ∃ raises, load.control.gen ⟨alert, entry⟩ = .generated raises)

/-- An examination reports the outcome. -/
def ReportsOutcome : Prop :=
  ∃ checked outcome, Passes load now entry checked ∧ Reports load checked outcome

/-- An examination commits the row that it examines. -/
def CommitsRow : Prop :=
  CommitsAlert load now entry ∨ ∃ checked, Passes load now entry checked ∧
    Commits load checked ((store.put entry).put checked).view

/-- An examination archives the job. -/
def ArchivesJob : Prop := ∃ checked, Passes load now entry checked ∧ Archives load checked

/-- An examination reports only a job that was not reported, reports a finished job whose row
it commits unless it was reported, and archives only a job that was not archived. -/
structure ReportsOnce (load : Load) (now : DbNow) (store : Store) (entry : Entry) : Prop where
  fresh : ReportsOutcome load now entry → entry.key ∉ outcomes store.sent
  reports : CommitsRow load now store entry → outcomeKey entry ≠ none →
    entry.key ∈ outcomes store.sent ∨ ReportsOutcome load now entry
  archives : ArchivesJob load now entry → entry.key ∉ store.archived.map Entry.key

end Examining

section Steps

variable {load : Load} {now : DbNow} {store : Store} {entry checked : Entry}

/-- Writing a row twice writes it. -/
theorem put_put_view : ((store.put entry).put entry).view = (store.put entry).view := by
  have written : (store.put entry).view.any
      (fun other => decide (other.envid = entry.envid ∧ other.job.id = entry.job.id)) = true :=
    List.any_eq_true.mpr ⟨entry, (mem_put entry).mpr (.inl rfl), (sameRow_iff entry).mpr rfl⟩
  have only (other : Entry) (listed : other ∈ (store.put entry).view)
      (same : other.key = entry.key) : other = entry :=
    ((mem_put other).mp listed).resolve_right fun old => old.2 same
  generalize store.put entry = middle at written only ⊢
  simp only [Store.put, written, ↓reduceIte, sameRow_iff]
  refine (List.map_congr_left fun other listed => ?_).trans (List.map_id _)
  split
  next same => exact (only other listed same).symm
  · rfl

/-- The check of the threshold leaves one row. -/
theorem Passes.unique {other : Entry} (passes : Passes load now entry checked)
    (otherPasses : Passes load now entry other) : other = checked := by
  rcases passes with ⟨isDue, rfl⟩ | ⟨alert, isDue, -, -, rfl⟩ <;>
    rcases otherPasses with ⟨otherDue, rfl⟩ | ⟨otherAlert, otherDue, -, -, rfl⟩
  · rfl
  · cases isDue.symm.trans otherDue
  · cases isDue.symm.trans otherDue
  · rw [Option.some.inj (Except.ok.inj (isDue.symm.trans otherDue))]

/-- A note leaves the job as it is. -/
theorem Passes.job (passes : Passes load now entry checked) :
    checked.key = entry.key ∧ outcomeKey checked = outcomeKey entry := by
  rcases passes with ⟨-, rfl⟩ | ⟨alert, -, -, -, rfl⟩
  · exact ⟨rfl, rfl⟩
  · exact ⟨rfl, rfl⟩

/-- A row that is committed is known, or the examination reports it. -/
theorem ReportsOnce.known (once : ReportsOnce load now store entry)
    (passes : Passes load now entry checked) (commits : CommitsRow load now store entry) :
    Known store.sent entry ∨ ∃ outcome, Reports load checked outcome := by
  by_cases finished : outcomeKey entry = none
  · exact .inl fun impossible => absurd finished impossible
  · rcases once.reports commits finished with reported | ⟨other, outcome, otherPasses, reports⟩
    · exact .inl fun _ => reported
    · exact .inr ⟨outcome, passes.unique otherPasses ▸ reports⟩

/-- The end of an examination keeps what is well logged. -/
theorem concluded_log {final : Store} (concluded : Concluded load checked store final)
    (log : WellLogged store.sent store.archived)
    (fresh : ∀ outcome, Reports load checked outcome → checked.key ∉ outcomes store.sent)
    (unarchived : Archives load checked → checked.key ∉ store.archived.map Entry.key) :
    WellLogged final.sent final.archived := by
  have logged : WellLogged final.sent store.archived := by
    by_cases reports : ∃ outcome, Reports load checked outcome
    · obtain ⟨outcome, reports⟩ := reports
      rw [concluded.reported outcome reports]
      exact log.outcome reports.1.1 (fresh outcome reports)
    · rw [concluded.unreported fun outcome made => reports ⟨outcome, made⟩]
      exact log
  by_cases archives : Archives load checked
  · rw [concluded.archived archives]
    exact logged.archive (unarchived archives)
  · rw [concluded.unarchived archives]
    exact logged

/-- The job of an outcome is known once it was reported. -/
theorem concluded_known {final : Store} (concluded : Concluded load checked store final)
    {row : Entry} (same : row.key = checked.key) {outcome : JobEvent}
    (reports : Reports load checked outcome) : Known final.sent row := by
  intro _
  rw [concluded.reported outcome reports, outcomes_outcome (isAlert_outcomeKey reports.1.1)]
  exact List.mem_append_right _ (List.mem_singleton.mpr same)

/-- The end of an examination leaves rows that are known, if it reports the job of a finished
row that is committed. -/
theorem finish_reported (log : WellLogged store.sent store.archived)
    (fresh : ∀ outcome, Reports load checked outcome → checked.key ∉ outcomes store.sent)
    (unarchived : Archives load checked → checked.key ∉ store.archived.map Entry.key)
    (view : Commits load checked store.view → ∀ row ∈ store.view, Known store.sent row ∨
      (row.key = checked.key ∧ ∃ outcome, Reports load checked outcome))
    (committed : ∀ row ∈ store.committed, Known store.sent row ∨
      (row.key = checked.key ∧ ∃ outcome, Reports load checked outcome)) :
    (load.checkFinished checked >>= fun _ => load.commit).Ends store
      (fun _ final => Kept Store.IsReported final) fun _ final => final.undone.IsReported := by
  have reported (final : Store) (concluded : Concluded load checked store final) :
      final.IsReported := by
    refine ⟨concluded_log concluded log fresh unarchived, fun row listed => ?_⟩
    have known : Known store.sent row ∨
        (row.key = checked.key ∧ ∃ outcome, Reports load checked outcome) := by
      by_cases commits : Commits load checked store.view
      · exact view commits row (concluded.committed commits ▸ listed)
      · exact committed row (concluded.uncommitted commits ▸ listed)
    rcases known with known | ⟨same, outcome, reports⟩
    · exact known.grows concluded.grows
    · exact concluded_known concluded same reports
  refine finish_ends.mono ?_ ?_
  · rintro _ final ⟨concluded, same⟩
    have kept := reported final concluded
    exact ⟨⟨kept.log, kept.known⟩, kept.log, fun row listed => kept.known row (same ▸ listed)⟩
  · rintro _ final concluded
    have kept := reported final concluded
    exact ⟨kept.log, kept.known⟩

/-- The end of an examination that reports once keeps what is reported. -/
theorem ReportsOnce.finish (once : ReportsOnce load now store entry)
    (kept : Kept Store.IsReported store) (passes : Passes load now entry checked) {middle : Store}
    (log : WellLogged middle.sent store.archived) (sent : outcomes middle.sent = outcomes store.sent)
    (archived : middle.archived = store.archived)
    (view : middle.view = ((store.put entry).put checked).view)
    (committed : middle.committed = store.committed ∨
      middle.committed = (store.put entry).view ∧ CommitsAlert load now entry) :
    (load.checkFinished checked >>= fun _ => load.commit).Ends middle
      (fun _ final => Kept Store.IsReported final) fun _ final => final.undone.IsReported := by
  obtain ⟨sameKey, sameOutcome⟩ := passes.job
  have knownAt (row : Entry) (known : Known store.sent row) : Known middle.sent row :=
    fun finished => sent ▸ known finished
  -- A row that was there before is known, and the one that is examined is reported if it is
  -- committed.
  have own (commits : CommitsRow load now store entry) (row : Entry) (key : row.key = entry.key)
      (outcome : outcomeKey row = outcomeKey entry) : Known middle.sent row ∨
        (row.key = checked.key ∧ ∃ outcome, Reports load checked outcome) := by
    rcases once.known passes commits with known | reports
    · refine .inl (knownAt row fun finished => ?_)
      exact key ▸ known (outcome ▸ finished)
    · exact .inr ⟨key.trans sameKey.symm, reports⟩
  refine finish_reported (archived ▸ log) (fun outcome reports => ?_) (fun archives => ?_)
    (fun commits row listed => ?_) fun row listed => ?_
  · rw [sameKey, sent]
    exact once.fresh ⟨checked, outcome, passes, reports⟩
  · rw [sameKey, archived]
    exact once.archives ⟨checked, passes, archives⟩
  · rw [view] at commits listed
    have commitsRow : CommitsRow load now store entry := .inr ⟨checked, passes, commits⟩
    rcases (mem_put row).mp listed with rfl | ⟨before, -⟩
    · exact own commitsRow row sameKey sameOutcome
    · rcases (mem_put row).mp before with rfl | ⟨old, -⟩
      · exact own commitsRow row rfl rfl
      · exact .inl (knownAt row (kept.2.known row old))
  · rcases committed with same | ⟨same, commitsAlert⟩
    · exact .inl (knownAt row (kept.1.known row (same ▸ listed)))
    · rw [same] at listed
      rcases (mem_put row).mp listed with rfl | ⟨old, -⟩
      · exact own (.inl commitsAlert) row rfl rfl
      · exact .inl (knownAt row (kept.2.known row old))

/-- A row that an alert commits is known where the examination does not come to the outcome. -/
theorem ReportsOnce.stopped (once : ReportsOnce load now store entry)
    (commits : CommitsAlert load now entry) {alert : JobEvent}
    (isDue : dueAlert load.control now entry = .ok (some alert))
    (unskipped : load.control.gen ⟨alert, entry⟩ ≠ .skipped)
    (unmade : load.control.gen ⟨alert, entry⟩ ≠ .generated none) : Known store.sent entry := by
  intro finished
  refine (once.reports (.inl commits) finished).resolve_right ?_
  rintro ⟨checked, outcome, ⟨otherDue, -⟩ | ⟨other, otherDue, -, passed, -⟩, -⟩
  · cases isDue.symm.trans otherDue
  · cases isDue.symm.trans otherDue
    exact passed.elim unskipped unmade

/-- The rows are known after a row that is known was written. -/
theorem saved_put_isReported (kept : Kept Store.IsReported store)
    (known : Known store.sent entry) : (store.put entry).saved.IsReported where
  log := by
    have log : WellLogged store.sent store.archived := kept.1.log
    simpa [Store.saved] using log
  known row listed := by
    have same : (store.put entry).saved.sent = store.sent := Store.put_sent ..
    rw [same]
    rcases (mem_put row).mp listed with rfl | ⟨old, -⟩
    · exact known
    · exact kept.2.known row old

/-- An alert changes nothing about outcomes. -/
theorem Store.IsReported.alert (reported : store.IsReported) {event : Sent}
    (isAlert : event.key.isAlert = true) : (store.sending event).IsReported where
  log := reported.log.alert isAlert
  known row listed finished := by
    have same : outcomes (store.sending event).sent = outcomes store.sent :=
      outcomes_alert isAlert
    exact same ▸ reported.known row listed finished

/-- An examination that reports once keeps what is reported. -/
theorem examine_reported (once : ReportsOnce load now store entry)
    (kept : Kept Store.IsReported store) :
    (load.examine now entry).Ends store (fun _ final => Kept Store.IsReported final)
      fun _ final => final.undone.IsReported := by
  have log : WellLogged store.sent store.archived := kept.1.log
  have unsaved : (store.put entry).undone.IsReported := by
    refine ⟨?_, fun row listed => ?_⟩
    · simpa [Store.undone] using log
    · simp only [Store.undone, Store.put_committed, Store.put_sent] at listed ⊢
      exact kept.1.known row listed
  rw [examine_eq, ends_bind, ends_modify, ends_bind, ends_settle]
  cases isDue : dueAlert load.control now entry with
  | error failure => exact unsaved
  | ok alert =>
    simp only []
    rw [ends_bind]
    cases alert with
    | none =>
      exact once.finish kept (.inl ⟨isDue, rfl⟩) (by simpa using log) (by simp) (by simp)
        put_put_view.symm (.inl (by simp))
    | some alert =>
      have isAlert := isAlert_dueAlert isDue
      refine (notify_ends isAlert).mono ?_ ?_
      · rintro noted final ⟨rfl, readable, ⟨skipped, rfl⟩ | ⟨made, rfl⟩⟩
        · exact once.finish kept (.inr ⟨alert, isDue, readable, .inl skipped, rfl⟩)
            (by simpa using log) (by simp) (by simp) rfl (.inl (by simp))
        · refine once.finish kept (.inr ⟨alert, isDue, readable, .inr made, rfl⟩) ?_ ?_ ?_
            (Store.put_view _ rfl) (.inr ⟨?_, alert, isDue, readable, .inr ⟨none, made⟩⟩)
          · simpa [Store.sending, Store.saved] using
              @WellLogged.alert _ _ ⟨alert, entry⟩ log isAlert
          · simpa [Store.sending, Store.saved] using @outcomes_alert _ ⟨alert, entry⟩ isAlert
          · simp [Store.sending, Store.saved]
          · simp [Store.sending, Store.saved]
      · rintro failure final (⟨-, rfl | ⟨rfl, readable, failure, incomplete⟩⟩ |
          ⟨failure, made, readable, rfl⟩)
        · exact unsaved
        · have known := once.stopped ⟨alert, isDue, readable, .inl ⟨failure, incomplete⟩⟩
            isDue (by simp [incomplete]) (by simp [incomplete])
          exact saved_put_isReported kept known
        · have known := once.stopped ⟨alert, isDue, readable, .inr ⟨some failure, made⟩⟩
            isDue (by simp [made]) (by simp [made])
          exact (saved_put_isReported kept known).alert isAlert

end Steps

/-! ## Runs -/

/-- A load reports once: each of its examinations does. -/
def ReportsAll : Store → Load → Prop := Load.Cautious (fun _ _ _ => True) ReportsOnce

/-- Examinations that report once keep what is reported. -/
theorem keeps_reported : Keeps Store.IsReported (fun _ _ _ => True) ReportsOnce where
  pruned _ _ _ _ kept :=
    ⟨kept.1, kept.2.log, fun row listed => kept.2.known row (List.mem_of_mem_filter listed)⟩
  examined _ _ _ _ _ once kept := examine_reported once kept

open Classical in
/-- In every run of loads that report once, the committed rows are reported. -/
theorem reported_run {start final : Store} {schedule : List Load} (reported : start.IsReported)
    (reached : (loads.restrict ReportsAll).run start schedule = some final) :
    final.IsReported := by
  refine Machine.Preserves.run (fun store load next kept stepped => ?_) start final schedule
    reported reached
  obtain ⟨once, performed⟩ := Machine.restrict_step_eq_some.mp stepped
  rw [← Option.some.inj performed]
  exact perform_keeps keeps_reported once ⟨kept.log, kept.known⟩

/-- Nothing was reported of a table without rows. -/
theorem empty_reported : Store.empty.IsReported where
  log := ⟨List.nodup_nil, fun _ listed => (List.not_mem_nil listed).elim, List.nodup_nil⟩
  known _ listed := (List.not_mem_nil listed).elim

/-- A job that finished, with some progress. -/
def finishedJob (progress : Int) : Job where
  id := 7
  subtitle := none
  args := none
  progress := some progress
  finishCode := some 0
  updatedAt := some 5
  createdAt := some 0
  startedAt := some 1
  completedAt := some 5

/-- A load of the finished job without thresholds, where everything succeeds. -/
def finishedLoad (progress : Int) : Load :=
  { waitingLoad numbered with
    jobs := ⟨.rows true [⟨finishedJob progress, none⟩], false⟩
    control := ⟨0, 0, 0, 0, fun _ => .unneeded, fun _ => .generated none⟩ }

/-- The finished job after a load. -/
def reportedJob (progress : Int) : Store := ((finishedLoad progress).perform .empty).2

/-- The load of a job that finished with complete progress reports it once. -/
theorem finished_reports : ReportsAll .empty (finishedLoad 100) := by
  intro _ _ maxid _
  refine ⟨trivial, ?_⟩
  intro rows now jobs loaded told converted
  cases loaded
  cases told
  cases converted
  have notDue : dueAlert (finishedLoad 100).control (.time 100000000)
      ⟨1, finishedJob 100, .none⟩ = .ok none := by decide
  have readable : ¬ Unreadable ⟨1, finishedJob 100, .none⟩ := by decide
  refine ⟨⟨⟨fun _ => List.not_mem_nil, fun _ _ => .inr ?_, fun _ => List.not_mem_nil⟩, trivial⟩,
    fun again _ => trivial⟩
  exact ⟨_, .ok, .inl ⟨notDue, rfl⟩, ⟨rfl, readable, fun _ _ same => by cases same⟩, none, rfl⟩

end Palette.Jobs
