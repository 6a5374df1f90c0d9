import Palette.Cli.Verdict
import Palette.Processes.Check
import Palette.Processes.Fidelity

/-!
# An unambiguous table

The lookup of Tableau's status expects at most one row for it, and the table should have
one row for each process that was reported. The rows are merged under generated keys, so
nothing but the reports themselves keeps them apart: a report with a repeated line is
committed with a repeated row.

If no report repeats itself before it is committed, the table is unambiguous for ever.
-/

namespace Palette.Processes

open Palette.Cli Palette.Commands Palette.Foundation Palette.Status Script

/-- No two rows tell the status of one agent, no two rows are about one process, and the
status can be looked up. -/
structure Unambiguous (isPrimary : Nat → Bool) (rows : List Process) : Prop where
  statuses : rows.Pairwise fun one other =>
    one.name = "Status" → other.name = "Status" → one.agentid ≠ other.agentid
  processes : rows.Pairwise fun one other =>
    one.agentid = other.agentid → one.name = other.name → one.pid ≠ other.pid
  status : ∃ told, tableauStatus isPrimary rows = .ok told

/-- What others see of the table, and ever saw, is unambiguous. -/
structure Sound (isPrimary : Nat → Bool) (session : Session Process) : Prop where
  committed : Unambiguous isPrimary session.committed
  published : ∀ rows ∈ session.published, Unambiguous isPrimary rows

/-- All rows that are written can be stored, up to the end of the work or its failure, and
so can the last one. -/
def Written (works : List (Work Process Fault)) : Prop :=
  Work.Storable Process.storable none works ∧
    (Work.unwritten none works).all Process.storable = true

/-! ## Reports that come to be committed -/

/-- The trouble with a text, if there is any. -/
def readingTrouble (monitor : Monitor) : Parsed → Option Fault
  | .raises failure => some (.other failure)
  | .parseError message => some (parseFailure s!"xml parse error: '{message}'")
  | .tree root =>
    if root.tag ≠ "systeminfo" then some (parseFailure s!"wrong root tag: {root.tag}")
    else
      match Work.failure (works monitor none (entries monitor root)) with
      | some fault => some fault
      | none =>
        if (toldStatus monitor (entries monitor root)).isSome then none
        else some (parseFailure "Tableau status not valid")

namespace Check

variable (check : Check) (thread : StatusThread)

/-- After a trouble with the system information, something is committed before the rows
are deleted again: the notification, or the request for the other command. -/
def CommitsTrouble (url : String) : Prop :=
  thread.notification ≠ failedNotification url ∨
    check.systeminfoOnly = false ∧ ∃ xid, check.dialogue.table.insert = .ok xid

/-- The rows of a text come to be committed: it is read to its end by a check that may
speak for the server, or up to a fault that the check handles. -/
def CommitsText (url : String) (root : Element) : Prop :=
  Written (works check.monitor none (entries check.monitor root)) ∧
    match Work.failure (works check.monitor none (entries check.monitor root)) with
    | none =>
      (toldStatus check.monitor (entries check.monitor root)).isSome ∧ check.monitor.busy = false
    | some fault => fault.IsSysteminfo ∧ check.CommitsTrouble thread url

/-- The rows of an output come to be committed. -/
def CommitsOutput (stdout : String) : Prop :=
  Written (outputWorks check.monitor stdout) ∧
    Work.failure (outputWorks check.monitor stdout) = none ∧
    (outputStatus check.monitor stdout).isSome ∧ check.monitor.busy = false

/-- The trouble with the system information, if there is any. -/
def trouble (url : String) : Option Fault :=
  match systeminfoGet url check.answer with
  | .error fault => some fault
  | .ok parsed => readingTrouble check.monitor parsed

/-- Tableau is taken to be stopped. -/
def AssumesStopped (url : String) (errnum : SysteminfoError) : Prop :=
  thread.urlWorked = some url ∧
    (errnum = .connectFailure ∨
      errnum = .notFound ∧ (check.mainState = .stopped ∨ check.mainState = .stopping))

/-- The check comes to ask for the output of `tabadmin status -v`. -/
def AsksTabadmin : Prop :=
  check.occasion = .connected ∧
    match check.url with
    | none => True
    | some url =>
      check.systeminfoOnly = false ∧ ∃ errnum message,
        check.trouble url = some (.systeminfo errnum message) ∧
          ¬check.AssumesStopped thread url errnum

/-- No report of the check repeats itself, as far as it comes to be committed. -/
structure Unrepeated : Prop where
  text : ∀ url root, check.occasion = .connected → check.url = some url →
    systeminfoGet url check.answer = .ok (.tree root) → root.tag = "systeminfo" →
    check.CommitsText thread url root →
    Unambiguous check.monitor.isPrimary
      (Work.merged (works check.monitor none (entries check.monitor root)))
  output : ∀ body stdout, check.AsksTabadmin thread → (statusTalk check).1 = .ok body →
    stdoutOf body = .ok (some stdout) → check.CommitsOutput stdout →
    Unambiguous check.monitor.isPrimary (Work.merged (outputWorks check.monitor stdout))

end Check

/-! ## What a script leaves behind -/

/-- An empty table is unambiguous. -/
theorem unambiguous_nil (isPrimary : Nat → Bool) : Unambiguous isPrimary [] where
  statuses := .nil
  processes := .nil
  status := ⟨"UNKNOWN", rfl⟩

/-- A table with one row is unambiguous. -/
theorem unambiguous_singleton (isPrimary : Nat → Bool) (row : Process) :
    Unambiguous isPrimary [row] where
  statuses := List.pairwise_singleton _ _
  processes := List.pairwise_singleton _ _
  status := by
    by_cases told : row.name = "Status" ∧ isPrimary row.agentid = true
    · exact ⟨row.status, by simp [tableauStatus, statusRows, told]⟩
    · exact ⟨"UNKNOWN", by simp [tableauStatus, statusRows, told]⟩

variable {isPrimary : Nat → Bool} {session : Session Process}

/-- A commit of unambiguous rows. -/
theorem Sound.saved (sound : Sound isPrimary session)
    (rows : Unambiguous isPrimary session.view) : Sound isPrimary session.saved where
  committed := rows
  published := by
    intro other member
    rcases List.mem_cons.mp member with rfl | old
    · exact rows
    · exact sound.published other old

/-- What is committed does not change with the other parts of a session. -/
theorem Sound.of_same {other : Session Process} (sound : Sound isPrimary session)
    (committed : other.committed = session.committed)
    (published : other.published = session.published) : Sound isPrimary other where
  committed := committed ▸ sound.committed
  published := published ▸ sound.published

/-- The session has no rows that others do not see. -/
structure Rested (session : Session Process) : Prop where
  pending : session.pending = none
  view : session.view = session.committed

theorem rested_undone (session : Session Process) : Rested session.undone := ⟨rfl, rfl⟩

/-- A new session is at rest. -/
theorem rested_begin (committed : List Process) (published : List (List Process)) :
    Rested (.begin committed published) := ⟨rfl, rfl⟩

/-- How a check is finished: the table is as before, or has the rows of the session. -/
theorem sound_finishStatus {monitor : Monitor} (sound : Sound isPrimary session)
    (rows : monitor.busy = false → session.pending.all Process.storable = true →
      Unambiguous isPrimary session.contents) :
    Ends (finishStatus monitor) session
      (fun _ final => Sound isPrimary final ∧ Rested final)
      fun fault final => Sound isPrimary final ∧ fault = outOfRange := by
  rw [ends_finishStatus]
  cases busy : monitor.busy with
  | true => exact ⟨sound.of_same rfl rfl, rested_undone session⟩
  | false =>
    cases fits : session.pending.all Process.storable with
    | false => exact ⟨sound, rfl⟩
    | true =>
      have flushed : Sound isPrimary session.flushed := sound.of_same rfl rfl
      have saved : Sound isPrimary session.flushed.saved := flushed.saved (rows busy fits)
      simp only [finished, if_true, Bool.false_eq_true, if_false]
      split
      · exact ⟨saved.saved (rows busy fits), rfl, rfl⟩
      · exact ⟨saved, rfl, rfl⟩

/-- A statement of a session without a pending row. -/
theorem sound_setStatus {monitor : Monitor} {status : String} (sound : Sound isPrimary session)
    (clean : session.pending = none) :
    Ends (setStatus monitor status) session
      (fun _ final => Sound isPrimary final ∧ Rested final) fun _ final => Sound isPrimary final := by
  have cleared : (cleared session).pending = none := clean
  simp only [setStatus, ends_bind, ends_getTableauStatus clean]
  cases tableauStatus monitor.isPrimary session.view with
  | error fault => exact sound
  | ok prev =>
    simp only [ends_removeAllStatus clean, add, Session.ends_merge, cleared, Option.all_none,
      if_true]
    have joined : Sound isPrimary ((Processes.cleared session).joined
        ⟨monitor.agentid, "Status", 0, status⟩) := sound.of_same rfl rfl
    apply (sound_finishStatus joined ?_).mono
    · rintro _ final ended
      exact ended
    · rintro _ final ended
      exact ended.1
    · intro _ _
      simp only [Session.contents, Processes.cleared, clean]
      exact unambiguous_singleton _ _

/-- The notification is saved together with the rows of the session. -/
theorem sound_systeminfoEventit {failed : Bool} {url : String} (thread : StatusThread)
    (sound : Sound isPrimary thread.session) (clean : thread.session.pending = none)
    (rows : (if failed then thread.notification ≠ failedNotification url
        else thread.notification.color = some "red") →
      Unambiguous isPrimary thread.session.view) :
    Ends (systeminfoEventit failed url) thread
      (fun _ final => Sound isPrimary final.session ∧ final.session.pending = none ∧
        final.session.view = thread.session.view)
      fun _ _ => False := by
  simp only [systeminfoEventit, ends_bind, onSession, ends_within, ends_query, clean,
    Option.all_none, if_true, flushed_of_clean clean, ends_get, ends_ite, ends_modify,
    ends_commit, ends_pure]
  have saved : ∀ known : Unambiguous isPrimary thread.session.view,
      Sound isPrimary thread.session.saved ∧ thread.session.saved.pending = none ∧
        thread.session.saved.view = thread.session.view :=
    fun known => ⟨sound.saved known, clean, rfl⟩
  cases failed with
  | true =>
    simp only [if_true] at rows ⊢
    split
    · rename_i other
      exact saved (rows other)
    · exact ⟨sound, trivial, trivial⟩
  | false =>
    simp only [Bool.false_eq_true, if_false] at rows ⊢
    split
    · rename_i red
      exact saved (rows red)
    · exact ⟨sound, trivial, trivial⟩

/-! ## Commands -/

/-- The rows of an output that comes to be committed are unambiguous. -/
def SingleOutput (isPrimary : Nat → Bool) (check : Check) : Prop :=
  ∀ body stdout, (statusTalk check).1 = .ok body → stdoutOf body = .ok (some stdout) →
    check.CommitsOutput stdout →
    Unambiguous isPrimary (Work.merged (outputWorks check.monitor stdout))

/-- A command begins with a commit of what the session has. -/
theorem sound_statusCmd {check : Check} (sound : Sound isPrimary session)
    (clean : session.pending = none)
    (rows : ∀ xid, check.dialogue.table.insert = .ok xid → Unambiguous isPrimary session.view) :
    Ends (statusCmd check) session
      (fun body final => (statusTalk check).1 = .ok body ∧ Sound isPrimary final ∧
        final.pending = none ∧ Unambiguous isPrimary final.view)
      fun _ final => Sound isPrimary final := by
  simp only [statusCmd]
  cases inserted : check.dialogue.table.insert with
  | error failure => exact sound
  | ok xid =>
    have known : Unambiguous isPrimary session.view := rows xid inserted
    have savedClean : session.saved.pending = none := clean
    have clearedClean : (cleared session.saved).pending = none := clean
    have emptied : Sound isPrimary (cleared session.saved) := (sound.saved known).of_same rfl rfl
    have settled : ∀ final : Session Process, Sound isPrimary final → final.pending = none →
        Unambiguous isPrimary final.view →
        Ends (settle ((statusTalk check).1.mapError Fault.other)) final
          (fun body final => (statusTalk check).1 = .ok body ∧ Sound isPrimary final ∧
            final.pending = none ∧ Unambiguous isPrimary final.view)
          fun _ final => Sound isPrimary final := by
      intro final finalSound finalClean finalKnown
      rw [ends_settle]
      cases (statusTalk check).1 with
      | error failure => exact finalSound
      | ok body => exact ⟨rfl, finalSound, finalClean, finalKnown⟩
    rw [ends_bind, ends_commit, clean]
    simp only [Option.all_none, if_true, flushed_of_clean clean, ends_ite]
    split
    · simp only [ends_bind, ends_removeAllStatus savedClean, ends_commit, clearedClean,
        Option.all_none, if_true, flushed_of_clean clearedClean]
      exact settled _ (emptied.saved (unambiguous_nil isPrimary)) clearedClean
        (unambiguous_nil isPrimary)
    · exact settled _ (sound.saved known) clean known

/-- An output is read from an unambiguous table. -/
theorem sound_readTabadmin {check : Check} {body : Dict} (sound : Sound isPrimary session)
    (same : check.monitor.isPrimary = isPrimary) (clean : session.pending = none)
    (known : Unambiguous isPrimary session.view) (talk : (statusTalk check).1 = .ok body)
    (single : SingleOutput isPrimary check) :
    Ends (readTabadmin check.monitor body) session
      (fun _ final => Sound isPrimary final) fun _ final => Sound isPrimary final := by
  cases replied : stdoutOf body with
  | error fault =>
    simp only [readTabadmin, replied, ends_bind, ends_settle_error]
    exact sound
  | ok output =>
    cases output with
    | none =>
      simp only [readTabadmin, replied, ends_bind, ends_settle_ok, ends_pure]
      exact sound
    | some stdout =>
      obtain ⟨status, found⟩ := known.status
      rw [ends_readTabadmin replied clean (by rw [same]; exact found)]
      have empty : (cleared session).contents = [] := by simp [cleared, Session.contents, clean]
      by_cases storable : Work.Storable Process.storable none (outputWorks check.monitor stdout)
      · apply (Work.ends_performAll Process.storable outOfRange (outputWorks check.monitor stdout)
          (cleared session) (by rw [cleared, clean]; exact storable)).mono
        · rintro _ final ⟨whole, left⟩
          have finalSound : Sound isPrimary final :=
            sound.of_same left.committed left.published
          have contents : final.contents = Work.merged (outputWorks check.monitor stdout) := by
            rw [left.contents, empty, List.nil_append]
          have pending : final.pending = Work.unwritten none (outputWorks check.monitor stdout) := by
            rw [left.pending, cleared, clean]
          split
          · rename_i told
            apply (sound_finishStatus finalSound ?_).mono
            · rintro _ later ended
              exact ended.1
            · rintro _ later ended
              exact ended.1
            · intro free fits
              rw [contents]
              rw [pending] at fits
              exact single body stdout talk replied ⟨⟨storable, fits⟩, whole, told, free⟩
          · exact finalSound.of_same rfl rfl
        · rintro _ final ⟨_, left⟩
          exact sound.of_same left.committed left.published
      · apply (Work.ends_performAll_refused Process.storable outOfRange
          (outputWorks check.monitor stdout) (cleared session)
          (by rw [cleared, clean]; exact storable)).mono
        · rintro _ _ impossible
          exact impossible.elim
        · rintro _ final ⟨_, committed, published⟩
          exact sound.of_same committed published

/-- The older way to learn the state, from a session that others may see. -/
theorem sound_getStatusTabadmin {check : Check} (sound : Sound isPrimary session)
    (same : check.monitor.isPrimary = isPrimary) (clean : session.pending = none)
    (rows : ∀ xid, check.dialogue.table.insert = .ok xid → Unambiguous isPrimary session.view)
    (single : SingleOutput isPrimary check) :
    Ends (getStatusTabadmin check) session
      (fun _ final => Sound isPrimary final) fun _ final => Sound isPrimary final := by
  rw [getStatusTabadmin, ends_bind]
  apply (sound_statusCmd sound clean rows).mono
  · rintro body final ⟨talk, finalSound, finalClean, known⟩
    exact sound_readTabadmin finalSound same finalClean known talk single
  · rintro _ final left
    exact left

/-! ## The system information -/

/-- Every fault of an entry that the check handles is a fault of the text. -/
theorem errnum_of_work {monitor : Monitor} {port : Option Int} {entry : Entry}
    {errnum : SysteminfoError} {message : String}
    (raised : entry.work monitor port = .raise (.systeminfo errnum message)) :
    errnum = .parseFailure := by
  have ofPort : ∀ {host worker : String},
      workerPort monitor host worker = .error (.systeminfo errnum message) →
        errnum = .parseFailure := by
    intro host worker failed
    simp only [workerPort, intOfDigits, parseFailure, unencodable] at failed
    repeat' split at failed
    all_goals simp_all
  cases entry with
  | nameless => simp_all [Entry.work, parseFailure]
  | otherName => simp [Entry.work, unencodable] at raised
  | lookup => simp [Entry.work] at raised
  | process agentid host info =>
    simp only [Entry.work, parseFailure] at raised
    split at raised
    · simp_all
    · split at raised
      · split at raised
        · simp at raised
        · rename_i failed
          simp only [Work.raise.injEq] at raised
          exact ofPort (raised ▸ failed)
      · split at raised <;> simp at raised
  | service element =>
    simp only [Entry.work, parseFailure] at raised
    split at raised <;> simp_all

/-- The same for all entries. -/
theorem errnum_of_failure {monitor : Monitor} {port : Option Int} {entries : List Entry}
    {errnum : SysteminfoError} {message : String}
    (failed : Work.failure (works monitor port entries) = some (.systeminfo errnum message)) :
    errnum = .parseFailure := by
  induction entries generalizing port with
  | nil => simp [works, Work.failure] at failed
  | cons entry rest inductionHypothesis =>
    simp only [works] at failed
    cases work : entry.work monitor port with
    | query => exact inductionHypothesis (by simpa [work, Work.failure] using failed)
    | merge row => exact inductionHypothesis (by simpa [work, Work.failure] using failed)
    | raise fault =>
      simp only [work, Work.failure, Option.some.injEq] at failed
      exact errnum_of_work (failed ▸ work)

/-- The trouble with a text is a fault of the text. -/
theorem errnum_of_readingTrouble {monitor : Monitor} {parsed : Parsed}
    {errnum : SysteminfoError} {message : String}
    (trouble : readingTrouble monitor parsed = some (.systeminfo errnum message)) :
    errnum = .parseFailure := by
  cases parsed with
  | raises failure => simp [readingTrouble] at trouble
  | parseError text => simp_all [readingTrouble, parseFailure]
  | tree root =>
    simp only [readingTrouble] at trouble
    split at trouble
    · simp_all [parseFailure]
    · split at trouble
      · rename_i failed
        exact errnum_of_failure (by rw [failed, trouble])
      · split at trouble <;> simp_all [parseFailure]

/-- A text is read: the table is as before or has all rows of the text, or there is a
trouble that leaves rows in the session. -/
theorem sound_systeminfoParse {check : Check} (thread : StatusThread) (url : String)
    {parsed : Parsed} (sound : Sound isPrimary session) (rested : Rested session)
    (same : check.monitor.isPrimary = isPrimary)
    (single : ∀ root, parsed = .tree root → root.tag = "systeminfo" →
      check.CommitsText thread url root → Unambiguous isPrimary
        (Work.merged (works check.monitor none (entries check.monitor root)))) :
    Ends (systeminfoParse check.monitor parsed) session
      (fun _ final => Sound isPrimary final ∧ Rested final)
      fun fault final => Sound isPrimary final ∧ (fault.isSysteminfo = true →
        readingTrouble check.monitor parsed = some fault ∧
          (check.CommitsTrouble thread url → final.pending.all Process.storable = true →
            Unambiguous isPrimary final.contents)) := by
  have unchanged : Unambiguous isPrimary session.contents := by
    rw [Session.contents, rested.pending, rested.view]
    simpa using sound.committed
  cases parsed with
  | raises failure => exact ⟨sound, fun handled => absurd handled (by simp [Fault.isSysteminfo])⟩
  | parseError message => exact ⟨sound, fun _ => ⟨rfl, fun _ _ => unchanged⟩⟩
  | tree root =>
    by_cases tag : root.tag = "systeminfo"
    · obtain ⟨status, found⟩ : ∃ status, tableauStatus isPrimary session.view = .ok status := by
        rw [rested.view]
        exact sound.committed.status
      rw [ends_systeminfoParse tag rested.pending (by rw [same]; exact found)]
      have empty : (cleared session).contents = [] := by
        simp [cleared, Session.contents, rested.pending]
      by_cases storable : Work.Storable Process.storable none
          (works check.monitor none (entries check.monitor root))
      · apply (Work.ends_performAll Process.storable outOfRange
          (works check.monitor none (entries check.monitor root)) (cleared session)
          (by rw [cleared, rested.pending]; exact storable)).mono
        · rintro _ final ⟨whole, left⟩
          have finalSound : Sound isPrimary final := sound.of_same left.committed left.published
          have contents : final.contents =
              Work.merged (works check.monitor none (entries check.monitor root)) := by
            rw [left.contents, empty, List.nil_append]
          have pending : final.pending =
              Work.unwritten none (works check.monitor none (entries check.monitor root)) := by
            rw [left.pending, cleared, rested.pending]
          split
          · rename_i told
            apply (sound_finishStatus finalSound ?_).mono
            · rintro _ later ended
              exact ended
            · rintro fault later ⟨laterSound, rfl⟩
              exact ⟨laterSound, fun handled => absurd handled (by
                simp [Fault.isSysteminfo, outOfRange])⟩
            · intro free fits
              rw [contents]
              rw [pending] at fits
              exact single root rfl tag ⟨⟨storable, fits⟩, by simp [whole, told, free]⟩
          · rename_i silent
            refine ⟨finalSound.of_same rfl rfl, fun _ => ⟨?_, fun _ _ => ?_⟩⟩
            · simp [readingTrouble, tag, whole, silent]
            · have committed : final.undone.contents = session.committed := by
                simp [Session.undone, Session.contents, left.committed, cleared]
              rw [committed]
              exact sound.committed
        · rintro fault final ⟨failed, left⟩
          refine ⟨sound.of_same left.committed left.published, fun handled => ⟨?_, ?_⟩⟩
          · simp [readingTrouble, tag, failed]
          · intro commits fits
            rw [left.contents, empty, List.nil_append]
            rw [left.pending, cleared, rested.pending] at fits
            refine single root rfl tag ⟨⟨storable, fits⟩, ?_⟩
            rw [failed]
            exact ⟨by cases fault <;> simp_all [Fault.isSysteminfo, Fault.IsSysteminfo], commits⟩
      · apply (Work.ends_performAll_refused Process.storable outOfRange
          (works check.monitor none (entries check.monitor root)) (cleared session)
          (by rw [cleared, rested.pending]; exact storable)).mono
        · rintro _ _ impossible
          exact impossible.elim
        · rintro _ final ⟨rfl, committed, published⟩
          exact ⟨sound.of_same committed published,
            fun handled => absurd handled (by simp [Fault.isSysteminfo, outOfRange])⟩
    · simp only [systeminfoParse, ne_eq, tag, not_false_eq_true, if_true, ends_throw]
      refine ⟨sound, fun _ => ⟨?_, fun _ _ => unchanged⟩⟩
      simp [readingTrouble, tag]

/-! ## Checks -/

/-- The notification is saved, and the status is unknown or asked for in the older way. -/
theorem sound_fallback {check : Check} {url : String} (thread : StatusThread)
    (sound : Sound isPrimary thread.session) (same : check.monitor.isPrimary = isPrimary)
    (clean : thread.session.pending = none)
    (rows : check.CommitsTrouble thread url → Unambiguous isPrimary thread.session.view)
    (single : check.systeminfoOnly = false → SingleOutput isPrimary check) :
    Ends (do
        systeminfoEventit true url
        onSession query
        if check.systeminfoOnly then onSession (setStatusUnknown check.monitor)
        else onSession (getStatusTabadmin check)) thread
      (fun _ final => Sound isPrimary final.session)
      fun _ final => Sound isPrimary final.session := by
  rw [ends_bind]
  have noted : (if true then thread.notification ≠ failedNotification url
      else thread.notification.color = some "red") → Unambiguous isPrimary thread.session.view :=
    fun other => rows (.inl other)
  apply (sound_systeminfoEventit thread sound clean noted).mono
  · rintro _ noted ⟨notedSound, notedClean, view⟩
    rw [ends_bind, onSession, ends_within, ends_query, notedClean]
    simp only [Option.all_none, if_true, flushed_of_clean notedClean, ends_ite, onSession,
      ends_within]
    split
    · apply (sound_setStatus notedSound notedClean).mono
      · rintro _ final ended
        exact ended.1
      · rintro _ final ended
        exact ended
    · rename_i other
      have falls : check.systeminfoOnly = false := Bool.eq_false_of_not_eq_true other
      apply sound_getStatusTabadmin notedSound same notedClean _ (single falls)
      intro xid inserted
      rw [view]
      exact rows (.inr ⟨falls, xid, inserted⟩)
  · rintro _ _ impossible
    exact impossible.elim

/-- What follows a trouble with the system information. -/
theorem sound_afterTrouble {check : Check} (thread : StatusThread) {url : String}
    {errnum : SysteminfoError} {message : String} (sound : Sound isPrimary thread.session)
    (same : check.monitor.isPrimary = isPrimary)
    (rows : check.CommitsTrouble thread url → thread.session.pending.all Process.storable = true →
      Unambiguous isPrimary thread.session.contents)
    (single : check.systeminfoOnly = false → ¬check.AssumesStopped thread url errnum →
      SingleOutput isPrimary check) :
    Ends (afterTrouble check url errnum message) thread
      (fun _ final => Sound isPrimary final.session) fun _ final => Sound isPrimary final.session := by
  simp only [afterTrouble, ends_bind, onSession, ends_within, ends_query]
  cases fits : thread.session.pending.all Process.storable with
  | false => exact sound
  | true =>
    have flushed : Sound isPrimary thread.session.flushed := sound.of_same rfl rfl
    have clean : thread.session.flushed.pending = none := rfl
    have stopped : Ends (setStatusStopped check.monitor) thread.session.flushed
        (fun _ final => Sound isPrimary final ∧ Rested final) fun _ final => Sound isPrimary final :=
      sound_setStatus flushed clean
    simp only [if_true, ends_get, ends_ite]
    split
    · rw [ends_within]
      apply stopped.mono
      · rintro _ final ended
        exact ended.1
      · rintro _ final ended
        exact ended
    · rename_i notFound
      split
      · rw [ends_bind, ends_within]
        apply stopped.mono
        · rintro _ final ⟨finalSound, rested⟩
          have known : Unambiguous isPrimary final.view := rested.view ▸ finalSound.committed
          apply (sound_systeminfoEventit { thread with session := final } finalSound
            rested.pending fun _ => known).mono
          · rintro _ later ended
            exact ended.1
          · rintro _ _ impossible
            exact impossible.elim
        · rintro _ final ended
          exact ended
      · rename_i noConnection
        have unstopped : ¬check.AssumesStopped thread url errnum := by
          rintro ⟨worked, failed | ⟨missing, halted⟩⟩
          · exact noConnection ⟨failed, worked⟩
          · exact notFound ⟨missing, worked, halted⟩
        split
        · exact flushed
        · exact sound_fallback { thread with session := thread.session.flushed } flushed
            same clean (fun commits => rows commits fits) fun other => single other unstopped

/-- A check whose reports do not repeat themselves. -/
theorem sound_checkStatus {check : Check} {thread : StatusThread}
    (sound : Sound isPrimary thread.session) (rested : Rested thread.session)
    (same : check.monitor.isPrimary = isPrimary) (unrepeated : check.Unrepeated thread) :
    Ends (checkStatus check) thread
      (fun _ final => Sound isPrimary final.session) fun _ final => Sound isPrimary final.session := by
  have known : Unambiguous isPrimary thread.session.view := rested.view ▸ sound.committed
  cases occasion : check.occasion with
  | upgrading =>
    simp only [checkStatus, occasion, ends_pure]
    exact sound
  | noPrimary =>
    simp only [checkStatus, occasion, ends_pure]
    exact sound
  | userAction =>
    simp only [checkStatus, occasion, ends_pure]
    exact sound
  | unconnected =>
    have clean : (cleared thread.session).pending = none := rested.pending
    have emptied : Sound isPrimary (cleared thread.session) := sound.of_same rfl rfl
    simp only [checkStatus, occasion, onSession, ends_within, ends_bind,
      ends_removeAllStatus rested.pending, ends_commit, clean, Option.all_none, if_true,
      flushed_of_clean clean]
    exact emptied.saved (unambiguous_nil isPrimary)
  | connected =>
    simp only [checkStatus, occasion, checkStatusWithConnection]
    cases found : check.url with
    | none =>
      have single : SingleOutput isPrimary check := by
        intro body stdout talk replied commits
        rw [← same]
        exact unrepeated.output body stdout ⟨occasion, by simp [found]⟩ talk replied commits
      simp only [onSession, ends_within]
      exact sound_getStatusTabadmin sound same rested.pending (fun _ _ => known) single
    | some url =>
      have single : ∀ {errnum message}, check.trouble url = some (.systeminfo errnum message) →
          check.systeminfoOnly = false → ¬check.AssumesStopped thread url errnum →
          SingleOutput isPrimary check := by
        intro errnum message trouble falls unstopped body stdout talk replied commits
        rw [← same]
        refine unrepeated.output body stdout ⟨occasion, ?_⟩ talk replied commits
        simp only [found]
        exact ⟨falls, errnum, message, trouble, unstopped⟩
      simp only [trySysteminfo, ends_bind, ends_attempt, ends_settle]
      cases fetched : systeminfoGet url check.answer with
      | error fault =>
        cases fault with
        | other failure => exact sound
        | systeminfo errnum message =>
          have trouble : check.trouble url = some (.systeminfo errnum message) := by
            simp [Check.trouble, fetched]
          apply sound_afterTrouble thread sound same _ (single trouble)
          intro _ _
          rw [Session.contents, rested.pending]
          simpa using known
      | ok parsed =>
        simp only [ends_modify, onSession, ends_within]
        apply (sound_systeminfoParse thread url sound rested same _).mono
        · rintro _ final ⟨finalSound, finalRested⟩
          have finalKnown : Unambiguous isPrimary final.view :=
            finalRested.view ▸ finalSound.committed
          apply (sound_systeminfoEventit ⟨final, some url, thread.notification⟩ finalSound
            finalRested.pending fun _ => finalKnown).mono
          · rintro _ later ended
            exact ended.1
          · rintro _ _ impossible
            exact impossible.elim
        · rintro fault final ⟨finalSound, left⟩
          cases fault with
          | other failure => exact finalSound
          | systeminfo errnum message =>
            obtain ⟨trouble, rows⟩ := left rfl
            have parse : errnum = .parseFailure := errnum_of_readingTrouble trouble
            have troubled : check.trouble url = some (.systeminfo errnum message) := by
              simp [Check.trouble, fetched, trouble]
            have unstopped : ¬check.AssumesStopped thread url errnum := by
              rintro ⟨_, failed | ⟨missing, _⟩⟩
              · exact absurd (parse.symm.trans failed) (by decide)
              · exact absurd (parse.symm.trans missing) (by decide)
            exact sound_afterTrouble ⟨final, some url, thread.notification⟩ finalSound same rows
              fun falls _ => single troubled falls unstopped
        · rintro root rfl tag commits
          rw [← same]
          exact unrepeated.text url root occasion found fetched tag commits

/-! ## Runs -/

/-- The table is sound and the session at rest after each round. -/
theorem sound_loopOnce {check : Check} {thread : StatusThread}
    (sound : Sound isPrimary thread.session) (rested : Rested thread.session)
    (same : check.monitor.isPrimary = isPrimary) (unrepeated : check.Unrepeated thread) :
    Sound isPrimary (loopOnce check thread).session ∧ Rested (loopOnce check thread).session := by
  have ended := (ends_state (checkStatus check)).1 (sound_checkStatus sound rested same unrepeated)
  simp only [loopOnce]
  generalize (checkStatus check).run.run thread = outcome at *
  obtain ⟨failure | value, final⟩ := outcome
  · exact ⟨ended.of_same rfl rfl, rested_begin _ _⟩
  · exact ⟨ended.of_same rfl rfl, rested_begin _ _⟩

/-- A check by `tabadmin status -v` that prints a text at once. -/
def printingCheck (stdout : String) : Check where
  monitor := plainMonitor
  occasion := .connected
  internalUrl := none
  externalUrl := none
  version := "8.3"
  referrers := ""
  systeminfo := false
  systeminfoOnly := false
  mainState := .started
  answer := .lost "unused"
  dialogue := {
    command := ""
    displayname := "Tableau Primary"
    timeout := 300
    table := plainTable
    start := okReply [("xid", .number 1), ("run-status", .text "finished"),
      ("exit-status", .number 0), ("stdout", .text stdout)]
    polls := []
    kill := okReply []
    cleanup := okReply [] }
  otherPrimary := false

/-- A thread that has not checked anything. -/
def freshThread : StatusThread := ⟨.begin [] [], none, ⟨none, none⟩⟩

/-- One check of a fresh thread reaches what its round makes of it. -/
theorem reachable_printing (stdout : String) :
    (statusLoop plainMonitor.isPrimary).Reachable (loopOnce (printingCheck stdout) freshThread) :=
  Machine.Reachable.next (Machine.Reachable.start ⟨rfl, rfl⟩)
    (show (statusLoop plainMonitor.isPrimary).step freshThread ⟨printingCheck stdout, rfl⟩ = _ from rfl)

/-- A check that prints one line with the status does not repeat itself. -/
theorem printing_unrepeated : (printingCheck "Status: RUNNING").Unrepeated freshThread where
  text url root _ found := by
    have unused : (printingCheck "Status: RUNNING").url = none := by decide
    simp [unused] at found
  output body stdout _ talk replied _ := by
    have printed : (((statusTalk (printingCheck "Status: RUNNING")).1.toOption.map fun body =>
        (stdoutOf body).toOption) = some (some (some "Status: RUNNING"))) := by
      decide +kernel
    rw [talk] at printed
    have same : stdout = "Status: RUNNING" := by simpa [Except.toOption, replied] using printed
    have merged : Work.merged (outputWorks plainMonitor "Status: RUNNING") =
        [⟨1, "Status", 0, "RUNNING"⟩] := by
      decide +kernel
    rw [same, show (printingCheck "Status: RUNNING").monitor = plainMonitor from rfl, merged]
    exact unambiguous_singleton _ _

/-- A table with the status of an agent twice is not unambiguous. -/
theorem not_sound_of_repeated {row : Process} (twice : session.committed = [row, row])
    (told : row.name = "Status") : ¬Sound isPrimary session := by
  intro sound
  have apart := sound.committed.statuses
  rw [twice, List.pairwise_cons] at apart
  exact apart.1 row (List.mem_singleton_self row) told told rfl

end Palette.Processes
