import Palette.Commands.Others
import Palette.Commands.Robustness

/-!
# Exclusion of user actions

Any number of threads run commands on any number of agent connections, each with a lock
of its own. A command asks for the lock once, stops when it is turned away, and works,
writes the main state and gives the lock back only while it holds it. This holds of all
of them except the support case, and for that one only as long as it gets the lock.
-/

namespace Palette.Commands

open Palette.Foundation Palette.Status

/-! ## Scripts and the lock -/

/-- The command holds the lock that it has asked for. -/
structure Working (progress : Progress) : Prop where
  held : progress.Held
  phase : phaseAfter progress.steps = some .holding

/-- The command has not asked for the lock. -/
structure Fresh (progress : Progress) : Prop where
  acquired : progress.acquired = 0
  released : progress.released = 0
  phase : phaseAfter progress.steps = some .outside

/-- What the command has done is in order. -/
def Tidy (progress : Progress) : Prop := Orderly progress.steps

theorem Working.tidy {progress : Progress} (working : Working progress) : Tidy progress := by
  rw [Tidy, Orderly, working.phase]
  exact Option.some_ne_none _

theorem Fresh.tidy {progress : Progress} (fresh : Fresh progress) : Tidy progress := by
  rw [Tidy, Orderly, fresh.phase]
  exact Option.some_ne_none _

variable {Value Result : Type}

/-- Two moments of a command between which nothing concerned the lock. -/
def SameLock (progress final : Progress) : Prop :=
  final.steps = progress.steps ∧ final.acquired = progress.acquired ∧
    final.released = progress.released

/-- The script does nothing that concerns the lock. -/
def Aside (script : Handling Value) : Prop :=
  ∀ progress, script.Ends progress (fun _ final => SameLock progress final)
    fun _ final => SameLock progress final

/-- The script works under the lock and keeps it. -/
def Works (script : Handling Value) : Prop :=
  ∀ progress, Working progress →
    script.Ends progress (fun _ final => Working final) fun _ final => Working final

/-- The script works under the lock to the end. -/
def Closes (script : Handling Value) : Prop :=
  ∀ progress, Working progress →
    script.Ends progress (fun _ final => Tidy final) fun _ final => Tidy final

/-- The script goes on under the lock or ends in order. -/
def Decides (script : Handling Bool) : Prop :=
  ∀ progress, Working progress →
    script.Ends progress (fun goes final => if goes then Working final else Tidy final)
      fun _ final => Tidy final

/-- The script is in order from its start to its end. -/
def Begins (script : Handling Value) : Prop :=
  ∀ progress, Fresh progress →
    script.Ends progress (fun _ final => Tidy final) fun _ final => Tidy final

/-! ### Scripts beside the lock -/

theorem SameLock.refl (progress : Progress) : SameLock progress progress := ⟨rfl, rfl, rfl⟩

theorem SameLock.trans {first second third : Progress} (early : SameLock first second)
    (late : SameLock second third) : SameLock first third :=
  ⟨late.1.trans early.1, late.2.1.trans early.2.1, late.2.2.trans early.2.2⟩

theorem aside_pure (value : Value) : Aside (pure value : Handling Value) := SameLock.refl

theorem aside_throw (failure : Failure) : Aside (throw failure : Handling Value) := SameLock.refl

theorem aside_settle (outcome : Except Failure Value) :
    Aside (Script.settle outcome : Handling Value) := by
  intro progress
  cases outcome with
  | ok value => exact SameLock.refl progress
  | error failure => exact SameLock.refl progress

theorem aside_respond (response : Response) : Aside (respond response) := fun _ => ⟨rfl, rfl, rfl⟩

theorem aside_getState : Aside getState := SameLock.refl

theorem aside_get : Aside (get : Handling Progress) := SameLock.refl

theorem aside_bind {script : Handling Value} {next : Value → Handling Result}
    (first : Aside script) (second : ∀ value, Aside (next value)) : Aside (script >>= next) := by
  intro progress
  rw [Script.ends_bind]
  refine (first progress).mono ?_ fun _ _ same => same
  intro value middle early
  exact (second value middle).mono (fun _ _ late => early.trans late) fun _ _ late =>
    early.trans late

theorem aside_getAgent (scene : Scene) (command : Command) : Aside (getAgent scene command) := by
  refine aside_bind (aside_settle _) fun refusal => ?_
  rcases refusal with _ | ⟨errnum, message⟩
  · exact aside_pure _
  · exact aside_bind (aside_respond _) fun _ => aside_pure _

/-! ### Scripts under the lock -/

theorem Working.of_same {progress final : Progress} (working : Working progress)
    (same : SameLock progress final) : Working final := by
  obtain ⟨steps, acquired, released⟩ := same
  refine ⟨⟨acquired.trans working.held.1, released.trans working.held.2⟩, ?_⟩
  rw [steps]
  exact working.phase

/-- A holder may act and write. -/
theorem Working.noted {progress final : Progress} (working : Working progress)
    {step : LockStep MainState} (allowed : Phase.holding.next step = some .holding)
    (noted : final.steps = progress.steps ++ [step]) (acquired : final.acquired = progress.acquired)
    (released : final.released = progress.released) : Working final := by
  refine ⟨⟨acquired.trans working.held.1, released.trans working.held.2⟩, ?_⟩
  rw [noted, phaseAfter_snoc, working.phase]
  exact allowed

theorem Aside.works {script : Handling Value} (aside : Aside script) : Works script :=
  fun progress working => (aside progress).mono (fun _ _ same => working.of_same same)
    fun _ _ same => working.of_same same

theorem works_bind {script : Handling Value} {next : Value → Handling Result}
    (first : Works script) (second : ∀ value, Works (next value)) : Works (script >>= next) := by
  intro progress working
  rw [Script.ends_bind]
  exact (first progress working).mono (fun value middle going => second value middle going)
    fun _ _ going => going

theorem works_ite {condition : Prop} [Decidable condition] {yes no : Handling Value}
    (onYes : Works yes) (onNo : Works no) : Works (if condition then yes else no) := by
  split
  · exact onYes
  · exact onNo

theorem works_attempt {caught : Failure → Bool} {script : Handling Value} (works : Works script) :
    Works (Script.attempt caught script) := by
  intro progress working
  rw [Script.ends_attempt]
  refine (works progress working).mono (fun _ _ going => going) ?_
  intro failure middle going
  split <;> exact going

theorem works_update (state : MainState) : Works (update state) := by
  intro progress working
  have allowed : Phase.holding.next (.wrote state) = some .holding := rfl
  have wrote : Working (progress.withState state) := working.noted allowed rfl rfl rfl
  exact wrote

theorem after_steps (scene : Scene) (action : Action) (progress : Progress) :
    (progress.after scene action).steps = progress.steps ++ [.acted] := by
  simp only [Progress.after]
  split <;> rfl

theorem works_perform (scene : Scene) (action : Action) (answer : Except Failure Value) :
    Works (perform scene action answer) := by
  intro progress working
  have acted : Working (progress.after scene action) :=
    working.noted rfl (after_steps scene action progress) (Progress.after_acquired _ _ _)
      (Progress.after_released _ _ _)
  rw [ends_perform]
  cases answer with
  | ok value => exact acted
  | error failure => exact acted

theorem works_gen (scene : Scene) (event : Event) : Works (gen scene event) :=
  (aside_settle _).works

theorem works_applyReport (scene : Scene) (report : Option Report) :
    Works (applyReport scene report) := by
  cases report with
  | none => exact (aside_pure _).works
  | some report =>
    intro progress working
    have allowed : Phase.holding.next
        (.wrote (progress.checked scene (some report)).board.mainState) = some .holding := rfl
    have wrote : Working (progress.checked scene (some report)) :=
      working.noted allowed rfl rfl rfl
    exact wrote

theorem works_checkStatus (scene : Scene) : Works (checkStatusWithConnection scene) :=
  works_bind (works_perform _ _ _) fun _ => works_applyReport _ _

theorem works_maint (scene : Scene) (action : MaintAction) : Works (maint scene action) := by
  refine works_bind (works_perform _ _ _) fun reply => ?_
  refine works_bind (Aside.works fun _ => ⟨rfl, rfl, rfl⟩) fun _ => (aside_pure _).works

/-! ### Scripts that give the lock back -/

theorem Working.unlocked {progress : Progress} (working : Working progress) :
    Tidy { progress.noting .released with released := progress.released + 1 } := by
  have finished : phaseAfter (progress.steps ++ [.released]) = some .finished := by
    rw [phaseAfter_snoc, working.phase]
    rfl
  rw [Tidy, Orderly]
  exact fun disordered => absurd (finished.symm.trans disordered) (by simp)

theorem Works.closes {script : Handling Value} (works : Works script) : Closes script :=
  fun progress working => (works progress working).mono (fun _ _ going => going.tidy)
    fun _ _ going => going.tidy

theorem closes_bind {script : Handling Value} {next : Value → Handling Result}
    (first : Works script) (second : ∀ value, Closes (next value)) : Closes (script >>= next) := by
  intro progress working
  rw [Script.ends_bind]
  exact (first progress working).mono (fun value middle going => second value middle going)
    fun _ _ going => going.tidy

theorem closes_ite {condition : Prop} [Decidable condition] {yes no : Handling Value}
    (onYes : Closes yes) (onNo : Closes no) : Closes (if condition then yes else no) := by
  split
  · exact onYes
  · exact onNo

/-- What follows the release does not concern the lock. -/
theorem closes_unlock_bind {next : PUnit → Handling Value} (aside : Aside (next ⟨⟩)) :
    Closes (userActionUnlock >>= next) := by
  intro progress working
  obtain ⟨acquired, released⟩ := working.held
  have owned : ¬ progress.acquired ≤ progress.released := by omega
  rw [Script.ends_bind, ends_userActionUnlock, if_neg owned]
  refine (aside _).mono ?_ ?_
  · intro value final same
    rw [Tidy, same.1]
    exact working.unlocked
  · intro failure final same
    rw [Tidy, same.1]
    exact working.unlocked

theorem closes_unlock : Closes userActionUnlock := by
  intro progress working
  obtain ⟨acquired, released⟩ := working.held
  have owned : ¬ progress.acquired ≤ progress.released := by omega
  rw [ends_userActionUnlock, if_neg owned]
  exact working.unlocked

/-- A decision to stop has already ended in order. -/
theorem closes_decided {step : Handling Bool} {next : Bool → Handling Result}
    (decides : Decides step) (goes : Closes (next true)) (stops : Aside (next false)) :
    Closes (step >>= next) := by
  intro progress working
  rw [Script.ends_bind]
  refine (decides progress working).mono ?_ fun _ _ tidy => tidy
  intro going middle reached
  cases going with
  | true => exact goes middle reached
  | false =>
    refine (stops middle).mono ?_ ?_
    · intro value final same
      rw [Tidy, same.1]
      exact reached
    · intro failure final same
      rw [Tidy, same.1]
      exact reached

theorem decides_bind {script : Handling Value} {next : Value → Handling Bool}
    (first : Works script) (second : ∀ value, Decides (next value)) :
    Decides (script >>= next) := by
  intro progress working
  rw [Script.ends_bind]
  exact (first progress working).mono (fun value middle going => second value middle going)
    fun _ _ going => going.tidy

theorem decides_ite {condition : Prop} [Decidable condition] {yes no : Handling Bool}
    (onYes : Decides yes) (onNo : Decides no) : Decides (if condition then yes else no) := by
  split
  · exact onYes
  · exact onNo

theorem decides_true : Decides (pure true) := fun _ working => working

theorem decides_false {script : Handling Value} (closes : Closes script) :
    Decides (script >>= fun _ => pure false) := by
  intro progress working
  rw [Script.ends_bind]
  exact (closes progress working).mono (fun _ _ tidy => tidy) fun _ _ tidy => tidy

theorem decides_decided {step : Handling Bool} {next : Bool → Handling Bool}
    (decides : Decides step) (goes : Decides (next true)) (stops : next false = pure false) :
    Decides (step >>= next) := by
  intro progress working
  rw [Script.ends_bind]
  refine (decides progress working).mono ?_ fun _ _ tidy => tidy
  intro going middle reached
  cases going with
  | true => exact goes middle reached
  | false =>
    rw [stops]
    exact reached

/-! ### Whole scripts -/

theorem Aside.begins {script : Handling Value} (aside : Aside script) : Begins script := by
  intro progress fresh
  refine (aside progress).mono ?_ ?_
  · intro value final same
    rw [Tidy, same.1]
    exact fresh.tidy
  · intro failure final same
    rw [Tidy, same.1]
    exact fresh.tidy

theorem begins_bind {script : Handling Value} {next : Value → Handling Result}
    (first : Aside script) (second : ∀ value, Begins (next value)) : Begins (script >>= next) := by
  intro progress fresh
  rw [Script.ends_bind]
  refine (first progress).mono ?_ ?_
  · rintro value middle ⟨steps, acquired, released⟩
    refine second value middle ⟨acquired.trans fresh.acquired, released.trans fresh.released, ?_⟩
    rw [steps]
    exact fresh.phase
  · intro failure final same
    rw [Tidy, same.1]
    exact fresh.tidy

theorem begins_ite {condition : Prop} [Decidable condition] {yes no : Handling Value}
    (onYes : Begins yes) (onNo : Begins no) : Begins (if condition then yes else no) := by
  split
  · exact onYes
  · exact onNo

/-- A command that got the lock works, and one that was turned away stops. -/
theorem begins_lock {scene : Scene} {next : Bool → Handling Value}
    (goes : scene.busy = false → Closes (next true))
    (stops : scene.busy = true → Aside (next false)) :
    Begins (userActionLock scene >>= next) := by
  intro progress fresh
  have asked : ∀ got, phaseAfter (progress.steps ++ [.tried got]) =
      Phase.next .outside (.tried got : LockStep MainState) := by
    intro got
    rw [phaseAfter_snoc, fresh.phase]
    rfl
  unfold userActionLock
  cases busy : scene.busy with
  | true =>
    have tidy : Orderly (progress.steps ++ [.tried false]) := by
      rw [Orderly, asked]
      exact Option.some_ne_none _
    refine (stops busy (progress.noting (.tried false))).mono ?_ ?_
    · intro value final same
      rw [Tidy, same.1]
      exact tidy
    · intro failure final same
      rw [Tidy, same.1]
      exact tidy
  | false =>
    have working : Working
        { progress.noting (.tried true) with acquired := progress.acquired + 1 } :=
      ⟨⟨congrArg (· + 1) fresh.acquired, fresh.released⟩, asked true⟩
    exact goes busy _ working

/-! ## The commands -/

variable (scene : Scene) (command : Command)

theorem aside_ite {condition : Prop} [Decidable condition] {yes no : Handling Value}
    (onYes : Aside yes) (onNo : Aside no) : Aside (if condition then yes else no) := by
  split
  · exact onYes
  · exact onNo

theorem closes_refuse (errnum : ClientError) (message : String) :
    Closes (refuse errnum message) :=
  closes_bind (aside_respond _).works fun _ => closes_unlock

theorem closes_giveUp (state : MainState) (body : Body) : Closes (giveUp state body) :=
  closes_bind (works_update _) fun _ => closes_bind (aside_respond _).works fun _ => closes_unlock

theorem begins_underLock {errnum : ClientError} {message : String} {work : Handling PUnit}
    (closes : Closes work) : Begins (underLock scene command errnum message work) := by
  refine begins_bind (aside_getAgent scene command) fun found => ?_
  refine begins_ite ?_ (aside_pure _).begins
  exact begins_lock (fun _ => closes) fun _ => aside_respond _

theorem closes_underState {whileRunning whileHalted : MainState} {work : Handling Body}
    (works : Works work) : Closes (underState whileRunning whileHalted work) := by
  refine closes_bind aside_getState.works fun state => closes_ite ?_ (closes_refuse _ _)
  refine closes_bind (works_update _) fun _ => closes_bind works fun body => ?_
  exact closes_bind (works_update _) fun _ => closes_unlock_bind (aside_respond _)

theorem closes_concludeBackup (state : MainState) (occasion : Occasion) (body : Body) :
    Closes (concludeBackup scene state occasion body) := by
  refine closes_bind (works_perform _ _ _) fun rotateInfo => ?_
  refine closes_bind (aside_settle _).works fun told => closes_bind (works_gen _ _) fun _ => ?_
  refine closes_bind (works_update _) fun _ => closes_unlock_bind ?_
  refine aside_ite (aside_respond _) ?_
  split
  · refine aside_bind (aside_settle _) fun entry => ?_
    cases entry with
    | some entry => exact aside_respond _
    | none => exact aside_throw _
  · exact aside_throw _

theorem closes_runBackup (state : MainState) (userid : Option Int) :
    Closes (runBackup scene state userid) := by
  refine closes_bind (works_gen _ _) fun _ => closes_bind (aside_respond _).works fun _ => ?_
  refine closes_bind (works_attempt (works_perform _ _ _)) fun outcome => ?_
  cases outcome with
  | ok body => exact closes_concludeBackup _ _ _ _
  | error failure => exact closes_concludeBackup _ _ _ _

theorem begins_doBackup : Begins (doBackup scene command) := by
  refine begins_ite (aside_respond _).begins ?_
  refine begins_bind (aside_settle _) fun userid => begins_ite ?_ ?_
  · exact (aside_bind (aside_respond _) fun _ => aside_respond _).begins
  · refine begins_underLock scene command ?_
    refine closes_bind aside_getState.works fun state => closes_ite (closes_refuse _ _) ?_
    refine closes_bind (aside_settle _).works fun status => ?_
    cases status with
    | running => exact closes_bind (works_update _) fun _ => closes_runBackup _ _ _
    | degraded => exact closes_bind (works_update _) fun _ => closes_runBackup _ _ _
    | stopped => exact closes_bind (works_update _) fun _ => closes_runBackup _ _ _
    | unknown => exact closes_refuse _ _

theorem closes_finishStart : Closes (finishStart scene) := by
  refine closes_bind (works_perform _ _ _) fun body => ?_
  refine closes_bind (works_checkStatus _) fun _ => closes_ite ?_ ?_
  · exact closes_bind (works_gen _ _) fun _ => closes_bind (works_update _) fun _ =>
      closes_bind (works_gen _ _) fun _ => closes_unlock_bind (aside_respond _)
  · exact closes_bind (works_update _) fun _ =>
      closes_bind (works_gen _ _) fun _ => closes_unlock_bind (aside_respond _)

theorem begins_doStart : Begins (doStart scene command) := by
  refine begins_ite (aside_respond _).begins (begins_underLock scene command ?_)
  refine closes_bind aside_getState.works fun state => closes_ite (closes_refuse _ _) ?_
  refine closes_bind (aside_settle _).works fun status => closes_ite (closes_refuse _ _) ?_
  refine closes_bind (works_update _) fun _ => closes_bind (aside_respond _).works fun _ => ?_
  refine closes_bind (aside_settle _).works fun _ => closes_bind aside_get.works fun progress => ?_
  refine closes_ite ?_ (closes_finishStart scene)
  exact closes_bind (works_maint _ _) fun _ => closes_finishStart scene

theorem decides_licenseCheck (state : MainState) : Decides (licenseCheck scene command state) := by
  refine decides_ite decides_true (decides_bind (works_perform _ _ _) fun body => ?_)
  exact decides_ite (decides_false (closes_giveUp _ _)) decides_true

theorem decides_backupBefore (action : StopAction) (state : MainState) :
    Decides (backupBefore scene action state) := by
  refine decides_bind (works_update _) fun _ => decides_bind (works_gen _ _) fun _ => ?_
  refine decides_bind (works_perform _ _ _) fun body => decides_bind (works_gen _ _) fun _ => ?_
  refine decides_ite (decides_bind (aside_settle _).works fun told => ?_) decides_true
  exact decides_false (closes_giveUp _ _)

theorem decides_preStop (action : StopAction) : Decides (preStop scene command action) := by
  refine decides_bind aside_getState.works fun state => decides_ite ?_ ?_
  · exact decides_false (closes_refuse _ _)
  · refine decides_bind (aside_settle _).works fun status => decides_ite ?_ ?_
    · exact decides_false (closes_refuse _ _)
    · refine decides_bind (aside_respond _).works fun _ => ?_
      refine decides_decided (decides_licenseCheck scene command state) ?_ rfl
      rw [if_pos rfl]
      exact decides_ite decides_true (decides_backupBefore scene action state)

theorem begins_doRestart : Begins (doRestart scene command) := by
  refine begins_ite (aside_respond _).begins (begins_bind (aside_settle _) fun _ => ?_)
  refine begins_underLock scene command (closes_decided (decides_preStop scene command _) ?_
    (aside_pure _))
  refine closes_bind (works_update _) fun _ => closes_bind (works_gen _ _) fun _ => ?_
  refine closes_bind (works_perform _ _ _) fun body => closes_ite ?_ ?_
  · exact closes_bind (works_gen _ _) fun _ => closes_bind (works_checkStatus _) fun _ =>
      closes_unlock_bind (aside_respond _)
  · exact closes_bind (works_update _) fun _ => closes_bind (works_gen _ _) fun _ =>
      closes_unlock_bind (aside_respond _)

theorem works_startMaint (body : Body) : Works (startMaint scene command body) := by
  refine works_ite (aside_pure _).works (works_bind (works_maint _ _) fun maintBody => ?_)
  exact works_ite (aside_settle _).works (aside_pure _).works

theorem begins_doStop : Begins (doStop scene command) := by
  refine begins_ite (aside_respond _).begins (begins_bind (aside_settle _) fun _ => ?_)
  refine begins_underLock scene command (closes_decided (decides_preStop scene command _) ?_
    (aside_pure _))
  refine closes_bind (works_update _) fun _ => closes_bind (works_perform _ _ _) fun reply => ?_
  refine closes_bind (works_startMaint scene command reply) fun body => ?_
  refine closes_bind (works_checkStatus _) fun _ => closes_ite ?_ ?_
  · exact closes_bind (works_gen _ _) fun _ => closes_unlock_bind (aside_respond _)
  · exact closes_unlock_bind (aside_respond _)

theorem begins_doZiplogs : Begins (doZiplogs scene command) := by
  refine begins_ite (aside_respond _).begins (begins_bind (aside_settle _) fun userid => ?_)
  refine begins_ite (aside_bind (aside_respond _) fun _ => aside_respond _).begins ?_
  exact begins_underLock scene command (closes_underState
    (works_bind (aside_respond _).works fun _ => works_perform _ _ _))

theorem begins_doCleanup : Begins (doCleanup scene command) := by
  refine begins_ite (aside_respond _).begins (begins_underLock scene command ?_)
  exact closes_underState (works_bind (aside_settle _).works fun _ =>
    works_bind (aside_respond _).works fun _ => works_perform _ _ _)

theorem works_sendRestore : Works (sendRestore scene) := by
  refine works_bind (works_update _) fun _ => works_bind (works_attempt (works_perform _ _ _))
    fun outcome => ?_
  cases outcome with
  | ok body => exact (aside_pure _).works
  | error failure => exact (aside_pure _).works

theorem works_restoreLocal : Works (restoreLocal scene) := by
  refine works_bind (works_gen _ _) fun _ => works_bind (aside_settle _).works fun status => ?_
  refine works_ite ?_ (works_sendRestore scene)
  refine works_bind (works_update _) fun _ => works_bind (works_perform _ _ _) fun body => ?_
  exact works_ite (aside_pure _).works
    (works_bind (works_gen _ _) fun _ => works_sendRestore scene)

theorem works_deleteCopy (copied : Bool) (body : Body) : Works (deleteCopy scene copied body) := by
  refine works_ite (works_bind (works_perform _ _ _) fun deleteBody => ?_) (aside_pure _).works
  split
  · exact (aside_pure _).works
  · exact (aside_pure _).works
  · exact (aside_throw _).works

theorem works_restoreCmd (state : MainState) : Works (restoreCmd scene state) := by
  refine works_bind (works_attempt (works_perform _ _ _)) fun outcome => ?_
  cases outcome with
  | error failure => exact works_bind (works_update _) fun _ => (aside_pure _).works
  | ok copied =>
    refine works_bind (works_restoreLocal scene) fun body => works_ite ?_ ?_
    · exact works_bind (works_update _) fun _ => works_deleteCopy _ _ _
    · exact works_deleteCopy _ _ _

theorem closes_concludeRestore (body : Body) : Closes (concludeRestore scene body) := by
  refine closes_ite ?_ ?_
  · exact closes_bind (works_checkStatus _) fun _ => closes_bind (works_gen _ _) fun _ =>
      closes_unlock_bind (aside_respond _)
  · exact closes_bind (works_perform _ _ _) fun _ => closes_bind (aside_settle _).works fun _ =>
      closes_bind (works_checkStatus _) fun _ => closes_bind (works_gen _ _) fun _ =>
        closes_unlock_bind (aside_respond _)

theorem closes_runRestore (state : MainState) : Closes (runRestore scene state) := by
  refine closes_bind (works_attempt (works_restoreCmd scene state)) fun outcome => ?_
  cases outcome with
  | ok body => exact closes_concludeRestore scene body
  | error failure => exact closes_bind (works_update _) fun _ => closes_concludeRestore scene _

theorem decides_concludeBackupBeforeRestore (state : MainState) (body : Body) :
    Decides (concludeBackupBeforeRestore scene state body) := by
  refine decides_bind (works_gen _ _) fun _ => decides_ite ?_ decides_true
  exact decides_bind (aside_respond _).works fun _ => decides_bind (works_update _) fun _ =>
    decides_false closes_unlock

theorem decides_backupBeforeRestore (state : MainState) :
    Decides (backupBeforeRestore scene state) := by
  refine decides_bind (works_gen _ _) fun _ => ?_
  refine decides_bind (works_attempt (works_perform _ _ _)) fun outcome => ?_
  cases outcome with
  | ok body => exact decides_concludeBackupBeforeRestore scene state body
  | error failure => exact decides_concludeBackupBeforeRestore scene state _

theorem closes_acceptedRestore (state : MainState) : Closes (acceptedRestore scene command state) := by
  refine closes_bind (aside_respond _).works fun _ => ?_
  refine closes_decided (decides_licenseCheck scene command state) ?_ (aside_pure _)
  rw [if_pos rfl]
  refine closes_ite (closes_runRestore scene state) ?_
  exact closes_decided (decides_backupBeforeRestore scene state) (closes_runRestore scene state)
    (aside_pure _)

theorem begins_doRestore : Begins (doRestore scene command) := by
  refine begins_ite (aside_respond _).begins ?_
  refine begins_bind (aside_getAgent scene command) fun found => ?_
  refine begins_ite ?_ (aside_pure _).begins
  refine begins_bind (aside_settle _) fun _ => begins_lock (fun _ => ?_) fun _ => aside_respond _
  refine closes_bind aside_getState.works fun state => closes_ite (closes_refuse _ _) ?_
  refine closes_bind (works_attempt (works_perform _ _ _)) fun outcome => ?_
  cases outcome with
  | error failure =>
    exact closes_bind (aside_respond _).works fun _ => closes_bind (works_gen _ _) fun _ =>
      closes_unlock
  | ok found =>
    refine closes_bind (aside_settle _).works fun status => ?_
    cases status with
    | running => exact closes_bind (works_update _) fun _ => closes_acceptedRestore _ _ _
    | degraded => exact closes_bind (works_update _) fun _ => closes_acceptedRestore _ _ _
    | stopped => exact closes_bind (works_update _) fun _ => closes_acceptedRestore _ _ _
    | unknown => exact closes_refuse _ _

/-! ## The others -/

section Others

variable (scene : FullScene)

theorem works_locate (url : Url) : Works (locate scene.toUrlScene url) := by
  refine works_ite ?_ (works_ite ?_ (aside_pure _).works)
  · split
    · exact (aside_pure _).works
    · exact (aside_pure _).works
    · exact works_bind (aside_settle _).works fun _ => works_ite (aside_pure _).works
        (aside_pure _).works
  · exact works_bind (works_perform _ _ _) fun _ => works_ite (aside_pure _).works
      (works_ite (aside_pure _).works (aside_throw _).works)

theorem works_restoreUrl (url : Url) : Works (restoreUrl scene.toUrlScene url) := by
  refine works_bind (works_locate scene url) fun located => ?_
  cases located with
  | refused body => exact (aside_pure _).works
  | placed cleanupFile =>
    refine works_bind (works_restoreLocal _) fun body => works_ite ?_ (aside_pure _).works
    exact works_bind (works_perform _ _ _) fun _ => (aside_pure _).works

theorem closes_concludeRestoreUrl (body : Body) :
    Closes (concludeRestoreUrl scene.toUrlScene body) :=
  closes_bind (works_checkStatus _) fun _ => closes_bind (works_gen _ _) fun _ =>
    closes_unlock_bind (aside_respond _)

theorem closes_restoreUrlLocked (url : Url) :
    Closes (restoreUrlLocked scene.toUrlScene command url) := by
  refine closes_bind aside_getState.works fun state => closes_ite (closes_refuse _ _) ?_
  refine closes_bind (aside_respond _).works fun _ => closes_bind (aside_settle _).works fun _ => ?_
  refine closes_bind (works_attempt (works_restoreUrl scene url)) fun outcome => ?_
  cases outcome with
  | ok body => exact closes_concludeRestoreUrl scene body
  | error failure => exact closes_concludeRestoreUrl scene _

theorem begins_doRestoreUrl : Begins (doRestoreUrl scene.toUrlScene command) := by
  unfold doRestoreUrl
  split
  · exact (aside_respond _).begins
  · exact (aside_respond _).begins
  · refine begins_bind (aside_getAgent _ command) fun found => begins_ite ?_ (aside_pure _).begins
    refine begins_bind (aside_settle _) fun url => begins_ite (aside_respond _).begins ?_
    intro progress fresh
    have waited : phaseAfter (progress.steps ++ [.waited]) = some .holding := by
      rw [phaseAfter_snoc, fresh.phase]
      rfl
    have working : Working
        { progress.noting .waited with acquired := progress.acquired + 1 } :=
      ⟨⟨congrArg (· + 1) fresh.acquired, fresh.released⟩, waited⟩
    exact closes_restoreUrlLocked command scene url _ working

theorem begins_doDeletefile : Begins (doDeletefile scene command) := by
  unfold doDeletefile
  split
  · refine begins_bind (aside_settle _) fun found => begins_ite ?_ (aside_respond _).begins
    exact begins_underLock _ command (closes_underState
      (works_bind (aside_respond _).works fun _ => works_perform _ _ _))
  · exact (aside_respond _).begins

/-- The maintenance command works outside the lock. -/
theorem begins_maint (action : MaintAction) :
    Begins (maint scene.toScene action >>= reportStatus) := by
  intro progress fresh
  have acted : phaseAfter (progress.after scene.toScene (.maint action)).steps =
      some .outside := by
    rw [after_steps, phaseAfter_snoc, fresh.phase]
    rfl
  have tidy : ∀ final : Progress,
      final.steps = (progress.after scene.toScene (.maint action)).steps → Tidy final := by
    intro final same
    rw [Tidy, Orderly, same, acted]
    exact Option.some_ne_none _
  unfold maint
  simp only [Script.ends_bind, ends_perform, Script.ends_modify, Script.ends_pure,
    ends_reportStatus]
  cases scene.maint action with
  | ok reply => exact tidy _ rfl
  | error failure => exact tidy _ rfl

theorem begins_doMaint : Begins (doMaint scene command) := by
  unfold doMaint
  split
  · refine begins_ite ?_ (begins_ite ?_ (aside_respond _).begins)
    · exact begins_bind (aside_respond _) fun _ => begins_maint scene _
    · exact begins_bind (aside_respond _) fun _ => begins_maint scene _
  · exact (aside_respond _).begins

theorem begins_probe : Begins (probe scene) :=
  begins_lock (fun _ => closes_unlock) fun _ => aside_pure _

theorem begins_finishStatus : Begins (finishStatus scene) :=
  begins_lock (fun _ => closes_bind (aside_settle _).works fun _ =>
    closes_bind (works_applyReport _ _) fun _ => closes_unlock) fun _ => aside_pure _

/-- A support case gets as far as the lock while another thread holds it. -/
def Barges (scene : FullScene) (command : Command) : Prop :=
  agentOf scene.toScene command = .ok none ∧ UserCalm command ∧ scene.busy = true

instance (scene : FullScene) (command : Command) : Decidable (Barges scene command) :=
  inferInstanceAs (Decidable (_ ∧ command.userid ≠ some none ∧ _))

/-- A command that finds its agent goes on. -/
theorem begins_getAgent_bind {scene : Scene} {next : Bool → Handling Value}
    (goes : agentOf scene command = .ok none → Begins (next true)) (stops : Aside (next false)) :
    Begins (getAgent scene command >>= next) := by
  intro progress fresh
  unfold getAgent
  rw [Script.ends_bind, Script.ends_bind]
  cases found : agentOf scene command with
  | error failure => exact fresh.tidy
  | ok refusal =>
    rcases refusal with _ | ⟨errnum, message⟩
    · exact goes found progress fresh
    · exact (aside_bind (aside_respond _) fun _ => stops).begins progress fresh

/-- A command whose user is a number goes on. -/
theorem begins_user_bind {next : Option Int → Handling Value}
    (goes : UserCalm command → ∀ userid, Begins (next userid)) :
    Begins (Script.settle command.user >>= next) := by
  intro progress fresh
  rw [Script.ends_bind]
  cases found : command.user with
  | error failure => exact fresh.tidy
  | ok userid => exact goes (user_replied.mp ⟨userid, found⟩) userid progress fresh

/-- A support case is in order unless it meets a lock that is taken. -/
theorem begins_doSupportCase (patient : ¬ Barges scene command) :
    Begins (doSupportCase scene command) := by
  have proceeds : Begins (do
      if ← getAgent scene.toScene command then
        let _ ← Script.settle command.user
        ack
        let _ ← userActionLock scene.toScene
        let body ← perform scene.toScene (.tabadmin .ziplogs) scene.supportCase
        userActionUnlock
        reportStatus body) := by
    refine begins_getAgent_bind command (fun agent => ?_) (aside_pure _)
    rw [if_pos rfl]
    refine begins_user_bind command fun user _ => begins_bind (aside_respond _) fun _ => ?_
    refine begins_lock (fun _ => ?_) fun busy => absurd ⟨agent, user, busy⟩ patient
    exact closes_bind (works_perform _ _ _) fun _ => closes_unlock_bind (aside_respond _)
  exact begins_ite (begins_bind (aside_respond _) fun _ => proceeds) proceeds

/-! ## Any interleaving -/

/-- What a thread is asked to do. -/
structure Work where
  activity : Activity
  scene : FullScene
  command : Command

/-- What the work of commands and of the monitor comes down to. -/
def activities : Trade MainState Work where
  steps work :=
    (handle work.scene.toScene (work.activity.script work.scene work.command)).2.steps
  raises work :=
    (handle work.scene.toScene (work.activity.script work.scene work.command)).1 ≠ .nextCommand

/-- The turn starts no support case that meets a taken lock. -/
def Patient {Thread : Type} {Lock : Type} :
    FloorTurn Thread Lock MainState Work → Prop
  | .start _ _ work => work.activity = .supportCase → ¬ Barges work.scene work.command
  | _ => True

instance {Thread Lock : Type} (turn : FloorTurn Thread Lock MainState Work) :
    Decidable (Patient turn) :=
  match turn with
  | .start _ _ work =>
    inferInstanceAs (Decidable (work.activity = .supportCase → ¬ Barges work.scene work.command))
  | .step _ | .finish _ | .write _ => isTrue trivial

/-- A support case that meets a taken lock works all the same. -/
theorem barging_disorderly {scene : FullScene} {command : Command}
    (barges : Barges scene command) :
    ¬ Orderly (activities.steps ⟨.supportCase, scene, command⟩) := by
  obtain ⟨agent, user, busy⟩ := barges
  obtain ⟨userid, found⟩ := user_replied.mpr user
  have acts : (doSupportCase scene command).Ends scene.start
      (fun _ final => ∃ rest, final.steps = [.tried false, .acted] ++ rest)
      fun _ final => ∃ rest, final.steps = [.tried false, .acted] ++ rest := by
    have tail : ∀ progress : Progress, progress.steps = [] → progress.acquired = 0 →
        Script.Ends (do
          if ← getAgent scene.toScene command then
            let _ ← Script.settle command.user
            ack
            let _ ← userActionLock scene.toScene
            let body ← perform scene.toScene (.tabadmin .ziplogs) scene.supportCase
            userActionUnlock
            reportStatus body : Handling PUnit) progress
          (fun _ final => ∃ rest, final.steps = [.tried false, .acted] ++ rest)
          fun _ final => ∃ rest, final.steps = [.tried false, .acted] ++ rest := by
      intro progress steps acquired
      unfold getAgent userActionLock ack respond
      simp only [Script.ends_bind, agent, Script.ends_settle_ok, Script.ends_pure, if_true, found,
        Script.ends_modify, busy, ends_perform]
      cases scene.supportCase with
      | error failure =>
        refine ⟨[], ?_⟩
        rw [after_steps, Progress.noting, steps]
        rfl
      | ok body =>
        simp only [ends_userActionUnlock, ends_reportStatus]
        split
        · refine ⟨[.misreleased], ?_⟩
          rw [Progress.noting, after_steps, Progress.noting, steps]
          rfl
        · rename_i owned
          refine absurd ?_ owned
          simp [acquired]
    unfold doSupportCase
    rw [Script.ends_ite]
    split
    · exact tail _ rfl rfl
    · exact tail _ rfl rfl
  unfold Script.Ends at acts
  simp only [activities, handle, Activity.script]
  generalize (doSupportCase scene command).run.run scene.start = result at acts ⊢
  intro orderly
  rcases result with ⟨failure | value, final⟩
  · obtain ⟨rest, steps⟩ := acts
    rw [steps] at orderly
    exact orderly.of_append rfl
  · obtain ⟨rest, steps⟩ := acts
    rw [steps] at orderly
    exact orderly.of_append rfl

/-- Whatever is not a support case at a taken lock is in order. -/
theorem activities_orderly {work : Work}
    (patient : work.activity = .supportCase → ¬ Barges work.scene work.command) :
    Orderly (activities.steps work) := by
  have fresh : Fresh work.scene.start := ⟨rfl, rfl, rfl⟩
  have begins : Begins (work.activity.script work.scene work.command) := by
    cases kind : work.activity with
    | user which =>
      cases which with
      | backup => exact begins_doBackup _ _
      | restore => exact begins_doRestore _ _
      | start => exact begins_doStart _ _
      | stop => exact begins_doStop _ _
      | restart => exact begins_doRestart _ _
      | ziplogs => exact begins_doZiplogs _ _
      | cleanup => exact begins_doCleanup _ _
    | restoreUrl => exact begins_doRestoreUrl _ _
    | deletefile => exact begins_doDeletefile _ _
    | supportCase => exact begins_doSupportCase _ _ (patient kind)
    | maintenance => exact begins_doMaint _ _
    | probe => exact begins_probe _
    | finishStatus => exact begins_finishStatus _
  have tidy := begins _ fresh
  unfold Script.Ends at tidy
  simp only [activities, handle]
  generalize (work.activity.script work.scene work.command).run.run work.scene.start = result
    at tidy ⊢
  rcases result with ⟨failure | value, final⟩
  · exact tidy
  · exact tidy

end Others

/-- The scene of the garbled stop for all commands. -/
def fullScene : FullScene :=
  { garbledScene with
    urlsplit := fun _ => .ok ⟨"file", none⟩
    agentid := 1
    agentidFromHost := fun _ => .ok (some 1)
    download := .ok fun _ => none
    deletePath := .ok ()
    fileByName := fun _ => .ok true
    delfile := .ok fun _ => none
    supportCase := .ok fun _ => none }

/-- The floor before any work, with a running server. -/
def quietFloor : Floor Nat Nat MainState :=
  ⟨fun _ => none, .started, fun _ => none, false⟩

end Palette.Commands
