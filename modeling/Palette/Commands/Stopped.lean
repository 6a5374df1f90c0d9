import Palette.Commands.RestoreUrl
import Palette.Commands.Robustness
import Palette.Foundation.History

/-!
# Restores into a stopped server

Tableau can be restored only while it is stopped. A restore may be sent if the server was
last recorded as stopped, or if the same command has stopped it. The two commands send it
through the same function, and that function stops the server in one of four statuses.
-/

namespace Palette.Commands

open Palette.Foundation Palette.Status

/-- The server is stopped, as far as the record and what was done with the agent tell. -/
def StoppedBefore (scene : Scene) (past : List Action) : Prop :=
  scene.statusAtRestore = .ok .stopped ∨
    .tabadmin .stop ∈ past ∧ ∃ body, scene.cliCmd .stop = .ok body ∧ body.failed = false

/-- A restore was sent only while the server was stopped. -/
def Safe (scene : Scene) (actions : List Action) : Prop :=
  Always (fun action past => action = .tabadmin .restore → StoppedBefore scene past) actions.reverse

/-- However the script ends, it has sent a restore only while the server was stopped. -/
def Safely {Value : Type} (scene : Scene) (script : Handling Value) (progress : Progress) : Prop :=
  script.Ends progress (fun _ final => Safe scene final.actions)
    fun _ final => Safe scene final.actions

/-- Neither a stop nor a restore has been sent. -/
def Unsent (progress : Progress) : Prop :=
  ∀ action ∈ progress.actions, action ≠ .tabadmin .stop ∧ action ≠ .tabadmin .restore

/-! ## Scripts that send no restore -/

variable {scene : Scene} {Value Result : Type}

theorem safe_nil : Safe scene [] := always_nil _

/-- One more action asks for a stopped server if it is a restore. -/
theorem safe_snoc (actions : List Action) (action : Action) :
    Safe scene (actions ++ [action]) ↔
      (action = .tabadmin .restore → StoppedBefore scene actions.reverse) ∧ Safe scene actions := by
  unfold Safe
  rw [List.reverse_append, List.reverse_singleton, List.singleton_append, always_cons]

@[simp] theorem after_actions (action : Action) (progress : Progress) :
    (progress.after scene action).actions = progress.actions ++ [action] := by
  simp only [Progress.after]
  split <;> rfl

@[simp] theorem withState_actions (state : MainState) (progress : Progress) :
    (progress.withState state).actions = progress.actions := rfl

/-- What has not sent a restore is safe. -/
theorem Unsent.safe {progress : Progress} (unsent : Unsent progress) :
    Safe scene progress.actions := by
  intro action past entry same
  have member : action ∈ progress.actions :=
    List.mem_reverse.mp (entry.subset List.mem_cons_self)
  exact absurd same (unsent action member).2

/-- Another action keeps a stop and a restore unsent. -/
theorem Unsent.after {progress : Progress} (unsent : Unsent progress) {action : Action}
    (noStop : action ≠ .tabadmin .stop) (noRestore : action ≠ .tabadmin .restore) :
    Unsent (progress.after scene action) := by
  intro other member
  rw [after_actions, List.mem_append, List.mem_singleton] at member
  rcases member with earlier | rfl
  · exact unsent other earlier
  · exact ⟨noStop, noRestore⟩

/-- The script sends no restore. -/
def Quiet (scene : Scene) (script : Handling Value) : Prop :=
  ∀ progress, script.Ends progress
    (fun _ final => Safe scene final.actions ↔ Safe scene progress.actions)
    fun _ final => Safe scene final.actions ↔ Safe scene progress.actions

/-- A step that does nothing with the agent is quiet. -/
theorem quiet_of_same {script : Handling Value}
    (same : ∀ progress, script.Ends progress (fun _ final => final.actions = progress.actions)
      fun _ final => final.actions = progress.actions) : Quiet scene script := by
  intro progress
  refine (same progress).mono ?_ ?_
  · exact fun _ _ actions => by rw [actions]
  · exact fun _ _ actions => by rw [actions]

theorem quiet_pure (value : Value) : Quiet scene (pure value : Handling Value) :=
  fun _ => Iff.rfl

theorem quiet_throw (failure : Failure) : Quiet scene (throw failure : Handling Value) :=
  fun _ => Iff.rfl

theorem quiet_settle (outcome : Except Failure Value) :
    Quiet scene (Script.settle outcome : Handling Value) := by
  intro progress
  cases outcome with
  | ok value => exact Iff.rfl
  | error failure => exact Iff.rfl

theorem quiet_modify {change : Progress → Progress}
    (same : ∀ progress, (change progress).actions = progress.actions) :
    Quiet scene (modify change : Handling PUnit) :=
  quiet_of_same same

theorem quiet_bind {script : Handling Value} {next : Value → Handling Result}
    (first : Quiet scene script) (second : ∀ value, Quiet scene (next value)) :
    Quiet scene (script >>= next) := by
  intro progress
  rw [Script.ends_bind]
  refine (first progress).mono ?_ fun _ _ same => same
  intro value middle same
  refine (second value middle).mono ?_ ?_
  · exact fun _ _ later => later.trans same
  · exact fun _ _ later => later.trans same

theorem quiet_ite {condition : Prop} [Decidable condition] {yes no : Handling Value}
    (onYes : Quiet scene yes) (onNo : Quiet scene no) :
    Quiet scene (if condition then yes else no) := by
  split
  · exact onYes
  · exact onNo

theorem quiet_perform {action : Action} (noRestore : action ≠ .tabadmin .restore)
    (answer : Except Failure Value) : Quiet scene (perform scene action answer) := by
  intro progress
  have same : Safe scene (progress.after scene action).actions ↔ Safe scene progress.actions := by
    rw [after_actions, safe_snoc]
    exact and_iff_right fun restoring => absurd restoring noRestore
  rw [ends_perform]
  cases answer with
  | ok value => exact same
  | error failure => exact same

theorem quiet_update (state : MainState) : Quiet scene (update state) := quiet_modify fun _ => rfl

theorem quiet_gen (event : Event) : Quiet scene (gen scene event) := quiet_settle _

theorem quiet_respond (response : Response) : Quiet scene (respond response) :=
  quiet_modify fun _ => rfl

theorem quiet_unlock : Quiet scene userActionUnlock := by
  intro progress
  unfold userActionUnlock
  simp only [Script.ends_bind, Script.ends_get, Script.ends_ite, Script.ends_throw,
    Script.ends_modify]
  split <;> trivial

theorem quiet_checkStatus : Quiet scene (checkStatusWithConnection scene) := by
  refine quiet_bind (quiet_perform (by decide) _) fun report => ?_
  cases report with
  | none => exact quiet_pure _
  | some report => exact quiet_modify fun _ => rfl

/-- What follows a script and sends no restore leaves its safety as it is. -/
theorem safely_bind_quiet {script : Handling Value} {next : Value → Handling Result}
    (quiet : ∀ value, Quiet scene (next value)) (progress : Progress) :
    Safely scene (script >>= next) progress ↔ Safely scene script progress := by
  unfold Safely
  rw [Script.ends_bind]
  have settled : ∀ value middle, (next value).Ends middle
      (fun _ final => Safe scene final.actions) (fun _ final => Safe scene final.actions) ↔
        Safe scene middle.actions := by
    intro value middle
    have same := quiet value middle
    unfold Script.Ends at same ⊢
    generalize (next value).run.run middle = result at same ⊢
    rcases result with ⟨failure | returned, final⟩
    · exact same
    · exact same
  simp only [settled]

/-- An attempt is as safe as the script. -/
theorem safely_attempt {caught : Failure → Bool} {script : Handling Value} (progress : Progress) :
    Safely scene (Script.attempt caught script) progress ↔ Safely scene script progress := by
  unfold Safely
  simp only [Script.ends_attempt, ite_self]

/-- A script without a restore is safe where it starts safe. -/
theorem Quiet.safely {script : Handling Value} (quiet : Quiet scene script) {progress : Progress}
    (safe : Safe scene progress.actions) : Safely scene script progress :=
  (quiet progress).mono (fun _ _ same => same.mpr safe) fun _ _ same => same.mpr safe

/-! ## The restore itself -/

/-- The status that a restore finds lets it stop the server, or says that it is stopped. -/
def StopsFirst (scene : Scene) : Prop :=
  ∀ status, scene.statusAtRestore = .ok status → status = .running ∨ status = .stopped

/-- A restore is sent safely if the server is stopped by then. -/
theorem sendRestore_safely {progress : Progress} (safe : Safe scene progress.actions) :
    Safely scene (sendRestore scene) progress ↔ StoppedBefore scene progress.actions.reverse := by
  have sent : Safe scene ((progress.withState .startingRestore).after scene
      (.tabadmin .restore)).actions ↔ StoppedBefore scene progress.actions.reverse := by
    rw [after_actions, withState_actions, safe_snoc]
    simp [safe]
  unfold sendRestore Safely
  simp only [Script.ends_bind, ends_update, Script.ends_attempt, ends_perform]
  cases scene.cliCmd .restore with
  | ok body => exact sent
  | error failure =>
    cases caught : failure.isHTTPException with
    | true =>
      simp only [caught, if_true]
      exact sent
    | false =>
      simp only [caught, Bool.false_eq_true, if_false]
      exact sent

/-- The restore on the primary is safe if the status it finds lets it stop the server. -/
theorem restoreLocal_safely {progress : Progress} (unsent : Unsent progress) :
    Safely scene (restoreLocal scene) progress ↔
      (Replied (scene.gen (.restore .started)) → StopsFirst scene) := by
  have noStop : .tabadmin .stop ∉ progress.actions := fun member => (unsent _ member).1 rfl
  unfold restoreLocal gen Safely StopsFirst
  simp only [Script.ends_bind, Script.ends_ite]
  cases scene.gen (.restore .started) with
  | error failure => simp [unsent.safe, Replied]
  | ok told =>
    cases found : scene.statusAtRestore with
    | error failure => simp [unsent.safe]
    | ok status =>
      simp only [Script.ends_settle_ok, Replied, exists_const, forall_true_left, Except.ok.injEq,
        forall_eq']
      by_cases running : status = .running
      · simp only [running, if_true, ends_update, ends_perform, true_or, iff_true]
        have safe : Safe scene ((progress.withState .stoppingRestore).after scene
            (.tabadmin .stop)).actions := by
          rw [after_actions, withState_actions, safe_snoc]
          exact ⟨fun same => absurd same (by decide), unsent.safe⟩
        cases stopped : scene.cliCmd .stop with
        | error failure => exact safe
        | ok stopBody =>
          cases failed : stopBody.failed with
          | true =>
            simp only [failed, if_true]
            exact safe
          | false =>
            simp only [failed, Bool.false_eq_true, if_false]
            cases scene.gen .stateStopped with
            | error failure => exact safe
            | ok told =>
              refine (sendRestore_safely safe).mpr (.inr ⟨?_, stopBody, stopped, failed⟩)
              simp
      · simp only [running, if_false, false_or]
        refine (sendRestore_safely unsent.safe).trans ?_
        simp [StoppedBefore, found, noStop]

/-! ## What goes before -/

/-- A step before the restore either lets the command go on or ends it, and it sends
neither a stop nor a restore. -/
theorem safely_bind_decided {step : Handling Value} {next : Value → Handling Result}
    {progress : Progress} {goes : Value → Prop} {goesOn calm : Prop}
    (decided : step.Ends progress (fun value middle => Unsent middle ∧ (goes value ↔ goesOn))
      fun _ middle => Unsent middle ∧ ¬ goesOn)
    (continues : ∀ value middle, goes value → Unsent middle →
      (Safely scene (next value) middle ↔ calm))
    (ends : ∀ value middle, ¬ goes value → Unsent middle → Safely scene (next value) middle) :
    Safely scene (step >>= next) progress ↔ (goesOn → calm) := by
  unfold Safely at continues ends ⊢
  rw [Script.ends_bind]
  unfold Script.Ends at decided ⊢
  generalize step.run.run progress = result at decided ⊢
  rcases result with ⟨failure | value, middle⟩
  · exact iff_of_true decided.1.safe fun holds => absurd holds decided.2
  · obtain ⟨unsent, gone⟩ := decided
    by_cases going : goes value
    · have holds : goesOn := gone.mp going
      exact (continues value middle going unsent).trans
        ⟨fun calm _ => calm, fun calm => calm holds⟩
    · exact iff_of_true (ends value middle going unsent) fun holds => absurd (gone.mpr holds) going

/-- An outcome that is needed. -/
theorem safely_settle_bind {outcome : Except Failure Value} {next : Value → Handling Result}
    {progress : Progress} (unsent : Unsent progress) :
    Safely scene (Script.settle outcome >>= next) progress ↔
      ∀ value, outcome = .ok value → Safely scene (next value) progress := by
  unfold Safely
  rw [Script.ends_bind]
  cases outcome with
  | ok value => simp
  | error failure => simpa using unsent.safe

/-- An action that is neither a stop nor a restore. -/
theorem safely_perform_bind {action : Action} {answer : Except Failure Value}
    {next : Value → Handling Result} {progress : Progress} (unsent : Unsent progress)
    (noStop : action ≠ .tabadmin .stop) (noRestore : action ≠ .tabadmin .restore) :
    Safely scene (perform scene action answer >>= next) progress ↔
      ∀ value, answer = .ok value → Safely scene (next value) (progress.after scene action) := by
  have safe : Safe scene (progress.after scene action).actions :=
    (unsent.after noStop noRestore).safe
  unfold Safely
  rw [Script.ends_bind, ends_perform]
  cases answer with
  | ok value => simp
  | error failure => simpa using safe

/-- Reading the main state does nothing with the agent. -/
theorem safely_getState_bind {next : MainState → Handling Value} {progress : Progress} :
    Safely scene (getState >>= next) progress ↔
      Safely scene (next progress.board.mainState) progress := Iff.rfl

/-- Writing the main state does nothing with the agent. -/
theorem safely_update_bind {state : MainState} {next : PUnit → Handling Value}
    {progress : Progress} :
    Safely scene (update state >>= next) progress ↔
      Safely scene (next ⟨⟩) (progress.withState state) := Iff.rfl

/-- Telling the client does nothing with the agent. -/
theorem safely_ack_bind {next : PUnit → Handling Value} {progress : Progress} :
    Safely scene (ack >>= next) progress ↔
      Safely scene (next ⟨⟩) { progress with responses := progress.responses ++ [.ok] } := Iff.rfl

/-- Giving up does nothing with the agent. -/
theorem giveUp_ends {progress : Progress} (unsent : Unsent progress) (state : MainState)
    (body : Body) : (giveUp state body).Ends progress (fun _ final => Unsent final)
      fun _ final => Unsent final := by
  unfold giveUp
  simp only [Script.ends_bind, ends_update, ends_reportStatus, ends_userActionUnlock]
  split <;> exact unsent

theorem licenseCheck_decided {command : Command} {progress : Progress} (unsent : Unsent progress)
    (state : MainState) :
    (licenseCheck scene command state).Ends progress
      (fun go middle => Unsent middle ∧ (go = true ↔ LicensePasses scene command))
      fun _ middle => Unsent middle ∧ ¬ LicensePasses scene command := by
  unfold licenseCheck LicensePasses
  cases command.nolicense with
  | true => simpa using unsent
  | false =>
    have unsentAfter : Unsent (progress.after scene .license) :=
      unsent.after (by decide) (by decide)
    simp only [Bool.false_eq_true, if_false, Script.ends_bind, ends_perform, false_or]
    cases scene.license with
    | error failure => simpa using unsentAfter
    | ok body =>
      cases failed : body.failed with
      | true =>
        simp only [failed, if_true, Script.ends_bind]
        refine (giveUp_ends unsentAfter state body).mono ?_ ?_
        · intro _ middle held
          simpa [failed] using held
        · intro _ middle held
          simpa [failed] using held
      | false => simpa [failed] using unsentAfter

/-- The backup before a restore is made and stored where it should be. -/
def BackupStored (scene : Scene) : Prop :=
  Replied (scene.gen (.backup .beforeRestore .started)) ∧
    ∃ body, backupCmd scene = .ok body ∧
      Replied (scene.gen (.backup .beforeRestore (backupStage body))) ∧
        body.failed = false ∧ body.has "copy-failed" = false

theorem concludeBackupBeforeRestore_decided {progress : Progress} (unsent : Unsent progress)
    (state : MainState) (body : Body) :
    (concludeBackupBeforeRestore scene state body).Ends progress
      (fun go middle => Unsent middle ∧ (go = true ↔
        Replied (scene.gen (.backup .beforeRestore (backupStage body))) ∧
          body.failed = false ∧ body.has "copy-failed" = false))
      fun _ middle => Unsent middle ∧ ¬ (
        Replied (scene.gen (.backup .beforeRestore (backupStage body))) ∧
          body.failed = false ∧ body.has "copy-failed" = false) := by
  unfold concludeBackupBeforeRestore gen
  simp only [Script.ends_bind, Script.ends_ite, Script.ends_pure]
  cases scene.gen (.backup .beforeRestore (backupStage body)) with
  | error failure => simpa [Replied] using unsent
  | ok told =>
    simp only [Script.ends_settle_ok, Replied, exists_const, true_and]
    by_cases bad : body.failed = true ∨ body.has "copy-failed" = true
    · have notGood : ¬ (body.failed = false ∧ body.has "copy-failed" = false) := by
        rintro ⟨succeeded, copied⟩
        simp [succeeded, copied] at bad
      simp only [if_pos bad, ends_update, ends_reportStatus, ends_userActionUnlock]
      by_cases owned : progress.acquired ≤ progress.released
      · exact Eq.mpr (if_pos owned) ⟨unsent, notGood⟩
      · exact Eq.mpr (if_neg owned) ⟨unsent, iff_of_false Bool.false_ne_true notGood⟩
    · have good : body.failed = false ∧ body.has "copy-failed" = false := by simpa using bad
      simpa [bad, good] using unsent

theorem backupBeforeRestore_decided {progress : Progress} (unsent : Unsent progress)
    (state : MainState) :
    (backupBeforeRestore scene state).Ends progress
      (fun go middle => Unsent middle ∧ (go = true ↔ BackupStored scene))
      fun _ middle => Unsent middle ∧ ¬ BackupStored scene := by
  have unsentAfter : Unsent (progress.after scene .backup) :=
    unsent.after (by decide) (by decide)
  unfold backupBeforeRestore BackupStored
  simp only [Script.ends_bind, Script.ends_attempt, ends_perform]
  unfold gen
  cases scene.gen (.backup .beforeRestore .started) with
  | error failure => simpa [Replied] using unsent
  | ok told =>
    simp only [Script.ends_settle_ok]
    cases replied : backupCmd scene with
    | ok body =>
      refine (concludeBackupBeforeRestore_decided unsentAfter state body).mono ?_ ?_
      · intro go middle held
        simpa [Replied] using held
      · intro failure middle held
        simpa [Replied] using held
    | error failure =>
      cases caught : failure.isStandardError with
      | true =>
        simp only [caught, if_true]
        refine (concludeBackupBeforeRestore_decided unsentAfter state
          (.error ("Backup For Restore Error. Traceback: " ++ failure.message))).mono ?_ ?_
        · intro go middle held
          have failed : Body.failed (.error ("Backup For Restore Error. Traceback: " ++
              failure.message)) = true := rfl
          simpa [failed] using held
        · intro failure middle held
          simpa using held.1
      | false => simpa [caught] using unsentAfter

/-! ## Whole commands -/

/-- An action whose failure may be caught. -/
theorem safely_attempt_bind {action : Action} {caught : Failure → Bool}
    {answer : Except Failure Value} {next : Except Failure Value → Handling Result}
    {progress : Progress} (unsent : Unsent progress)
    (noStop : action ≠ .tabadmin .stop) (noRestore : action ≠ .tabadmin .restore)
    (onFailure : ∀ failure middle, Unsent middle → Safely scene (next (.error failure)) middle) :
    Safely scene (Script.attempt caught (perform scene action answer) >>= next) progress ↔
      ∀ value, answer = .ok value →
        Safely scene (next (.ok value)) (progress.after scene action) := by
  have unsentAfter : Unsent (progress.after scene action) := unsent.after noStop noRestore
  unfold Safely at onFailure ⊢
  rw [Script.ends_bind, Script.ends_attempt, ends_perform]
  cases answer with
  | ok value => simp
  | error failure =>
    simp only [reduceCtorEq, false_implies, implies_true, iff_true]
    split
    · exact onFailure failure _ unsentAfter
    · exact unsentAfter.safe

theorem quiet_concludeRestore (body : Body) : Quiet scene (concludeRestore scene body) := by
  refine quiet_ite ?_ ?_
  · exact quiet_bind quiet_checkStatus fun _ => quiet_bind (quiet_gen _) fun _ =>
      quiet_bind quiet_unlock fun _ => quiet_respond _
  · exact quiet_bind (quiet_perform (by decide) _) fun _ => quiet_bind (quiet_settle _) fun _ =>
      quiet_bind quiet_checkStatus fun _ => quiet_bind (quiet_gen _) fun _ =>
        quiet_bind quiet_unlock fun _ => quiet_respond _

theorem quiet_deleteCopy (copied : Bool) (body : Body) :
    Quiet scene (deleteCopy scene copied body) := by
  refine quiet_ite (quiet_bind (quiet_perform (by decide) _) fun deleteBody => ?_) (quiet_pure _)
  split
  · exact quiet_pure _
  · exact quiet_pure _
  · exact quiet_throw _

/-- The last part of a restore is safe if the restore on the primary is. -/
theorem runRestore_safely {progress : Progress} (unsent : Unsent progress) (state : MainState) :
    Safely scene (runRestore scene state) progress ↔
      (Replied scene.getFile → Replied (scene.gen (.restore .started)) → StopsFirst scene) := by
  have closing : ∀ copied body, Quiet scene (do
      if body.failed then update state
      deleteCopy scene copied body) := fun copied body =>
    quiet_ite (quiet_bind (quiet_update _) fun _ => quiet_deleteCopy _ _) (quiet_deleteCopy _ _)
  have restored : ∀ copied, Safely scene (do
      let body ← restoreLocal scene
      if body.failed then update state
      deleteCopy scene copied body) (progress.after scene .getFile) ↔
        (Replied (scene.gen (.restore .started)) → StopsFirst scene) := by
    intro copied
    rw [safely_bind_quiet (closing copied)]
    exact restoreLocal_safely (unsent.after (by decide) (by decide))
  unfold runRestore
  rw [safely_bind_quiet, safely_attempt]
  · unfold restoreCmd
    rw [safely_attempt_bind unsent (by decide) (by decide)]
    · simp only [restored, Replied, forall_exists_index]
    · exact fun failure middle unsentMiddle =>
        (quiet_bind (quiet_update _) fun _ => quiet_pure _).safely unsentMiddle.safe
  · intro outcome
    cases outcome with
    | ok body => exact quiet_concludeRestore body
    | error failure => exact quiet_bind (quiet_update _) fun _ => quiet_concludeRestore _

/-- The command gets as far as the restore: it is accepted, nothing before it fails, and
the file is there. -/
structure RestoreReached (scene : Scene) (command : Command) : Prop where
  usage : ¬ (command.args.length = 0 ∨ 2 < command.args.length)
  agent : agentOf scene command = .ok none
  user : UserCalm command
  free : scene.busy = false
  state : Running scene.board.mainState ∨ Halted scene.board.mainState
  file : Replied scene.findFile
  status : ∃ status, scene.tableauStatus = .ok status ∧ status ≠ .unknown
  license : LicensePasses scene command
  backup : command.nobackup = false → BackupStored scene
  copy : Replied scene.getFile
  told : Replied (scene.gen (.restore .started))

theorem acceptedRestore_safely {command : Command} {progress : Progress}
    (unsent : Unsent progress) (state : MainState) :
    Safely scene (acceptedRestore scene command state) progress ↔
      (LicensePasses scene command → (command.nobackup = false → BackupStored scene) →
        Replied scene.getFile → Replied (scene.gen (.restore .started)) → StopsFirst scene) := by
  have acknowledged : Unsent { progress with responses := progress.responses ++ [.ok] } := unsent
  unfold acceptedRestore
  rw [safely_ack_bind]
  refine safely_bind_decided (licenseCheck_decided acknowledged state) ?_ ?_
  · rintro _ middle rfl unsentMiddle
    simp only [if_true]
    cases command.nobackup with
    | true => simpa using runRestore_safely unsentMiddle state
    | false =>
      simp only [Bool.false_eq_true, if_false, forall_true_left]
      refine safely_bind_decided (backupBeforeRestore_decided unsentMiddle state) ?_ ?_
      · rintro _ last rfl unsentLast
        simpa using runRestore_safely unsentLast state
      · intro go last stays unsentLast
        rw [if_neg stays]
        exact (quiet_pure _).safely unsentLast.safe
  · intro go middle stays unsentMiddle
    rw [if_neg stays]
    exact (quiet_pure _).safely unsentMiddle.safe

theorem quiet_refuse (errnum : ClientError) (message : String) :
    Quiet scene (refuse errnum message) :=
  quiet_bind (quiet_respond _) fun _ => quiet_unlock

theorem restoreLocked_safely {command : Command} {progress : Progress}
    (unsent : Unsent progress) :
    Safely scene (restoreLocked scene command) progress ↔
      (Running progress.board.mainState ∨ Halted progress.board.mainState →
        Replied scene.findFile →
        ∀ status, scene.tableauStatus = .ok status → status ≠ .unknown →
        LicensePasses scene command → (command.nobackup = false → BackupStored scene) →
        Replied scene.getFile → Replied (scene.gen (.restore .started)) → StopsFirst scene) := by
  have unsentAfter : Unsent (progress.after scene .findFile) :=
    unsent.after (by decide) (by decide)
  unfold restoreLocked
  rw [safely_getState_bind]
  by_cases accepted : Running progress.board.mainState ∨ Halted progress.board.mainState
  · rw [if_neg (not_not_intro accepted)]
    simp only [accepted, forall_true_left]
    rw [safely_attempt_bind unsent (by decide) (by decide)]
    · have going : ∀ state, Unsent ((progress.after scene .findFile).withState state) :=
        fun _ => unsentAfter
      refine Iff.trans (forall₂_congr fun found _ => ?_) exists_imp.symm
      rw [safely_settle_bind unsentAfter]
      refine forall₂_congr fun status _ => ?_
      cases status with
      | running =>
        exact (acceptedRestore_safely (going _) _).trans
          ⟨fun holds _ => holds, fun holds => holds (by decide)⟩
      | degraded =>
        exact (acceptedRestore_safely (going _) _).trans
          ⟨fun holds _ => holds, fun holds => holds (by decide)⟩
      | stopped =>
        exact (acceptedRestore_safely (going _) _).trans
          ⟨fun holds _ => holds, fun holds => holds (by decide)⟩
      | unknown =>
        exact iff_of_true ((quiet_refuse _ _).safely unsentAfter.safe) fun known => absurd rfl known
    · exact fun failure middle unsentMiddle =>
        (quiet_bind (quiet_respond _) fun _ => quiet_bind (quiet_gen _) fun _ =>
          quiet_unlock).safely unsentMiddle.safe
  · rw [if_pos accepted]
    exact iff_of_true ((quiet_refuse _ _).safely unsent.safe) fun holds => absurd holds accepted

/-- A command that finds no agent sends nothing. -/
theorem safely_getAgent_bind {command : Command} {next : Bool → Handling Value}
    {progress : Progress} (unsent : Unsent progress) (quiet : Quiet scene (next false)) :
    Safely scene (getAgent scene command >>= next) progress ↔
      (agentOf scene command = .ok none → Safely scene (next true) progress) := by
  unfold getAgent Safely
  rw [Script.ends_bind, Script.ends_bind]
  cases agentOf scene command with
  | error failure => simpa using unsent.safe
  | ok refusal =>
    rcases refusal with _ | ⟨errnum, message⟩
    · simp
    · have refused : Unsent { progress with
        responses := progress.responses ++ [.error errnum message] } := unsent
      refine iff_of_true ?_ fun none => absurd none (by simp)
      exact quiet.safely refused.safe

/-- A lock that is taken ends the command. -/
theorem safely_userActionLock_bind {next : Bool → Handling Value} {progress : Progress}
    (unsent : Unsent progress) (quiet : Quiet scene (next false)) :
    Safely scene (userActionLock scene >>= next) progress ↔
      (scene.busy = false →
        Safely scene (next true)
          { progress.noting (.tried true) with acquired := progress.acquired + 1 }) := by
  unfold userActionLock Safely
  cases scene.busy with
  | true => exact iff_of_true (quiet.safely unsent.safe) fun free => absurd free (by decide)
  | false => simp

/-- A restore of a stored file is sent safely if and only if the status that it finds,
when it gets that far, lets it stop the server. -/
theorem doRestore_safely (scene : Scene) (command : Command) :
    Safely scene (doRestore scene command) scene.start ↔
      (RestoreReached scene command → StopsFirst scene) := by
  have start : Unsent scene.start := fun _ member => absurd member List.not_mem_nil
  unfold doRestore
  by_cases usage : command.args.length = 0 ∨ 2 < command.args.length
  · rw [if_pos usage]
    exact iff_of_true ((quiet_respond _).safely start.safe) fun reached =>
      absurd usage reached.usage
  · rw [if_neg usage, safely_getAgent_bind start]
    · simp only [if_true]
      have locked : Unsent
        { scene.start.noting (.tried true) with acquired := scene.start.acquired + 1 } := start
      have users : (∀ user, command.user = .ok user → scene.busy = false →
          Safely scene (restoreLocked scene command)
            { scene.start.noting (.tried true) with acquired := scene.start.acquired + 1 }) ↔
          (UserCalm command → scene.busy = false → Safely scene (restoreLocked scene command)
            { scene.start.noting (.tried true) with acquired := scene.start.acquired + 1 }) := by
        rw [← user_replied]
        exact exists_imp.symm
      rw [safely_settle_bind start]
      refine (imp_congr_right fun _ => forall₂_congr fun user _ =>
        safely_userActionLock_bind start ?_).trans ?_
      · exact quiet_respond _
      simp only [if_true]
      rw [users, restoreLocked_safely locked]
      constructor
      · rintro safely ⟨-, agent, user, free, state, file, ⟨status, read, known⟩, license, backup,
          copy, told⟩
        exact safely agent user free state file status read known license backup copy told
      · intro calm agent user free state file status read known license backup copy told
        exact calm ⟨usage, agent, user, free, state, file, ⟨status, read, known⟩, license, backup,
          copy, told⟩
    · exact quiet_pure _

/-! ## Restores from an address -/

section Addresses

variable {scene : UrlScene} {command : Command}

/-- The file of the address is on the primary, or can be brought there. -/
def Locates (scene : UrlScene) (url : Url) : Prop :=
  if url.scheme = "file" then
    ∀ hostname, url.hostname = some hostname → hostname ≠ "" →
      scene.agentidFromHost hostname = .ok (some scene.agentid)
  else if url.scheme = "s3" ∨ url.scheme = "gcs" then
    ∃ body, scene.download = .ok body ∧ body.failed = false ∧ body.has "path" = true
  else True

/-- Finding the file sends neither a stop nor a restore. -/
theorem locate_decided {progress : Progress} (unsent : Unsent progress) (url : Url) :
    (locate scene url).Ends progress
      (fun located middle => Unsent middle ∧
        ((∃ cleanupFile, located = .placed cleanupFile) ↔ Locates scene url))
      fun _ middle => Unsent middle ∧ ¬ Locates scene url := by
  have unsentAfter : Unsent (progress.after scene.toScene .getFile) :=
    unsent.after (by decide) (by decide)
  unfold locate Locates
  by_cases local' : url.scheme = "file"
  · simp only [local', if_true]
    split
    · rename_i nowhere
      simpa [nowhere] using unsent
    · rename_i nowhere
      simpa [nowhere] using unsent
    · rename_i hostname named given
      have asked : (∀ other, url.hostname = some other → other ≠ "" →
          scene.agentidFromHost other = .ok (some scene.agentid)) ↔
          scene.agentidFromHost hostname = .ok (some scene.agentid) := by
        constructor
        · exact fun each => each hostname given fun empty => named empty
        · rintro same other again -
          obtain rfl := Option.some.inj (given.symm.trans again)
          exact same
      rw [asked]
      simp only [Script.ends_bind]
      cases scene.agentidFromHost hostname with
      | error failure => simpa using unsent
      | ok agentid =>
        by_cases same : agentid = some scene.agentid
        · simpa [same] using unsent
        · simpa [same] using unsent
  · simp only [local', if_false]
    by_cases cloud : url.scheme = "s3" ∨ url.scheme = "gcs"
    · simp only [if_pos cloud, Script.ends_bind, ends_perform]
      cases scene.download with
      | error failure => simpa using unsentAfter
      | ok body =>
        cases failed : body.failed <;> cases found : body.has "path" <;>
          simpa [failed, found] using unsentAfter
    · simpa [cloud] using unsent

theorem restoreUrl_safely {progress : Progress} (unsent : Unsent progress) (url : Url) :
    Safely scene.toScene (restoreUrl scene url) progress ↔
      (Locates scene url → Replied (scene.gen (.restore .started)) → StopsFirst scene.toScene) := by
  refine safely_bind_decided (locate_decided unsent url) ?_ ?_
  · rintro _ middle ⟨cleanupFile, rfl⟩ unsentMiddle
    have closing : ∀ body : Body, Quiet scene.toScene (do
        if cleanupFile then perform scene.toScene .deleteFile scene.deletePath
        pure body) := fun body =>
      quiet_ite (quiet_bind (quiet_perform (by decide) _) fun _ => quiet_pure _) (quiet_pure _)
    exact (safely_bind_quiet closing middle).trans (restoreLocal_safely unsentMiddle)
  · intro located middle elsewhere unsentMiddle
    cases located with
    | refused body => exact (quiet_pure _).safely unsentMiddle.safe
    | placed cleanupFile => exact absurd ⟨cleanupFile, rfl⟩ elsewhere

theorem quiet_concludeRestoreUrl (body : Body) :
    Quiet scene.toScene (concludeRestoreUrl scene body) :=
  quiet_bind quiet_checkStatus fun _ => quiet_bind (quiet_gen _) fun _ =>
    quiet_bind quiet_unlock fun _ => quiet_respond _

theorem restoreUrlLocked_safely {progress : Progress} (unsent : Unsent progress) (url : Url) :
    Safely scene.toScene (restoreUrlLocked scene command url) progress ↔
      (Running progress.board.mainState ∨ Halted progress.board.mainState → UserCalm command →
        Locates scene url → Replied (scene.gen (.restore .started)) →
          StopsFirst scene.toScene) := by
  have acknowledged : Unsent { progress with responses := progress.responses ++ [.ok] } := unsent
  unfold restoreUrlLocked
  rw [safely_getState_bind]
  by_cases accepted : Running progress.board.mainState ∨ Halted progress.board.mainState
  · rw [if_neg (not_not_intro accepted)]
    simp only [accepted, forall_true_left]
    unfold acceptedRestoreUrl
    rw [safely_ack_bind, safely_settle_bind acknowledged, ← user_replied]
    refine Iff.trans (forall₂_congr fun user _ => ?_) exists_imp.symm
    rw [safely_bind_quiet, safely_attempt]
    · exact restoreUrl_safely acknowledged url
    · intro outcome
      cases outcome with
      | ok body => exact quiet_concludeRestoreUrl body
      | error failure => exact quiet_concludeRestoreUrl _
  · rw [if_pos accepted]
    exact iff_of_true ((quiet_refuse _ _).safely unsent.safe) fun holds => absurd holds accepted

/-- The command gets as far as the restore: it is accepted, and the file is on the primary
or can be brought there. -/
structure UrlReached (scene : UrlScene) (command : Command) (url : Url) : Prop where
  address : ∃ address rest, command.args = address :: rest ∧ rest.length ≤ 1 ∧
    scene.urlsplit address = .ok url
  agent : agentOf scene.toScene command = .ok none
  scheme : url.scheme ∈ restoreSchemes
  state : Running scene.board.mainState ∨ Halted scene.board.mainState
  user : UserCalm command
  located : Locates scene url
  told : Replied (scene.gen (.restore .started))

/-- A restore from an address is sent safely if and only if the status that it finds, when
it gets that far, lets it stop the server. -/
theorem doRestoreUrl_safely (scene : UrlScene) (command : Command) :
    Safely scene.toScene (doRestoreUrl scene command) scene.start ↔
      ((∃ url, UrlReached scene command url) → StopsFirst scene.toScene) := by
  have start : Unsent scene.start := fun _ member => absurd member List.not_mem_nil
  have locked : Unsent
    { scene.start.noting .waited with acquired := scene.start.acquired + 1 } := start
  unfold doRestoreUrl
  split
  · rename_i none
    refine iff_of_true ((quiet_respond _).safely start.safe) ?_
    rintro ⟨url, ⟨⟨address, rest, given, -⟩, -⟩⟩
    simp [none] at given
  · rename_i first second third rest many
    refine iff_of_true ((quiet_respond _).safely start.safe) ?_
    rintro ⟨url, ⟨⟨address, others, given, few, -⟩, -⟩⟩
    obtain ⟨rfl, rfl⟩ := List.cons.inj (many.symm.trans given)
    simp at few
  · rename_i address rest many given
    have few : rest.length ≤ 1 := by
      rcases rest with _ | ⟨second, _ | ⟨third, others⟩⟩
      · exact Nat.zero_le 1
      · exact Nat.le_refl 1
      · exact (many _ _ _ rfl).elim
    have sent : ∀ url, Safely scene.toScene (do
        if url.scheme ∉ restoreSchemes then
          error .badValue ("Invalid URL scheme : '" ++ url.scheme ++ "'")
        else
          modify fun progress =>
            { progress.noting .waited with acquired := progress.acquired + 1 }
          restoreUrlLocked scene command url) scene.start ↔
        (url.scheme ∈ restoreSchemes → Running scene.board.mainState ∨ Halted scene.board.mainState →
          UserCalm command → Locates scene url → Replied (scene.gen (.restore .started)) →
            StopsFirst scene.toScene) := by
      intro url
      by_cases known : url.scheme ∈ restoreSchemes
      · rw [if_neg (not_not_intro known)]
        exact (restoreUrlLocked_safely locked url).trans
          ⟨fun holds _ => holds, fun holds => holds known⟩
      · rw [if_pos known]
        exact iff_of_true ((quiet_respond _).safely start.safe) fun holds => absurd holds known
    rw [safely_getAgent_bind start]
    · simp only [if_true]
      rw [safely_settle_bind start]
      simp only [sent]
      constructor
      · rintro safely ⟨url, ⟨other, others, again, -, split⟩, agent, scheme, state, user, located,
          told⟩
        obtain ⟨rfl, rfl⟩ := List.cons.inj (given.symm.trans again)
        exact safely agent url split scheme state user located told
      · intro calm agent url split scheme state user located told
        exact calm ⟨url, ⟨address, rest, given, few, split⟩, agent, scheme, state, user, located,
          told⟩
    · exact quiet_pure _

end Addresses

/-- Both commands send a restore only into a stopped server if and only if the status that
they find, when they get that far, is running or stopped. -/
theorem restores_safe_iff (scene : UrlScene) (command : Command) :
    (Safely scene.toScene (doRestore scene.toScene command) scene.start ↔
      (RestoreReached scene.toScene command → StopsFirst scene.toScene)) ∧
    (Safely scene.toScene (doRestoreUrl scene command) scene.start ↔
      ((∃ url, UrlReached scene command url) → StopsFirst scene.toScene)) :=
  ⟨doRestore_safely scene.toScene command, doRestoreUrl_safely scene command⟩

/-- A degraded server whose agent answers everything well. -/
def degradedScene : Scene :=
  { oldScene with
    before82 := false
    board := ⟨.degraded, false, none, false, []⟩
    tableauStatus := .ok .degraded
    statusAtRestore := .ok .degraded }

/-- A degraded server is restored without a stop. -/
theorem degraded_restore_unsafe :
    (handle degradedScene (doRestore degradedScene restoreCommand)).2.actions =
      [.findFile, .license, .backup, .getFile, .tabadmin .restore, .rotate, .statusCheck] ∧
    ¬ Safely degradedScene (doRestore degradedScene restoreCommand) degradedScene.start := by
  refine ⟨rfl, fun safely => ?_⟩
  rcases safely (.tabadmin .restore) [.getFile, .backup, .license, .findFile] (by decide) rfl with
    recorded | ⟨stopped, -⟩
  · exact absurd recorded (by decide)
  · exact absurd stopped (by decide)

end Palette.Commands
