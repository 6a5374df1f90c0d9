import Palette.Commands.Answers
import Palette.Commands.Handler
import Palette.Status.Settled

/-!
# Robust commands

A command is robust if it returns to the command loop, has given the user-action lock
back once for each time it took it, at most once, and leaves a main state that settles.
-/

namespace Palette.Commands

open Palette.Foundation Palette.Status

/-- How a robust command leaves things: the lock was taken at most once and given back as
often, and the main state settles. -/
def Left (scene : Scene) (final : Progress) : Prop :=
  final.acquired ≤ 1 ∧ final.released = final.acquired ∧
    Settled scene.before82 final.board.mainState

/-- The command returns and leaves things as it should. -/
def Robust (scene : Scene) (script : Handling PUnit) : Prop :=
  script.Completes scene.start fun _ final => Left scene final

/-- The lock is held by the command. -/
def Progress.Held (progress : Progress) : Prop := progress.acquired = 1 ∧ progress.released = 0

/-! ## What the steps of a command do -/

namespace Progress

/-- The progress after something was done with the agent. -/
def after (scene : Scene) (action : Action) (progress : Progress) : Progress :=
  let acted := { progress.noting .acted with actions := progress.actions ++ [action] }
  if scene.lost action then acted.disconnected else acted

/-- The progress after a status check. -/
def checked (scene : Scene) (progress : Progress) : Option Report → Progress
  | none => progress
  | some report =>
    let board := setMainState ⟨scene.before82, report.minimum, report.now, report.obeys⟩
      progress.board progress.board.mainState report.status
    { progress.noting (.wrote board.mainState) with board := board }

variable (scene : Scene) (action : Action) (progress : Progress) (state : MainState)

@[simp] theorem noting_board (step : LockStep MainState) :
    (progress.noting step).board = progress.board := rfl

@[simp] theorem noting_acquired (step : LockStep MainState) :
    (progress.noting step).acquired = progress.acquired := rfl

@[simp] theorem noting_released (step : LockStep MainState) :
    (progress.noting step).released = progress.released := rfl

@[simp] theorem withState_mainState : (progress.withState state).board.mainState = state := rfl

@[simp] theorem withState_acquired : (progress.withState state).acquired = progress.acquired := rfl

@[simp] theorem withState_released : (progress.withState state).released = progress.released := rfl

@[simp] theorem after_acquired : (progress.after scene action).acquired = progress.acquired := by
  simp only [after]
  split <;> rfl

@[simp] theorem after_released : (progress.after scene action).released = progress.released := by
  simp only [after]
  split <;> rfl

theorem after_mainState : (progress.after scene action).board.mainState =
    if scene.lost action then .disconnected else progress.board.mainState := by
  simp only [after]
  split <;> rfl

@[simp] theorem checked_acquired (report : Option Report) :
    (progress.checked scene report).acquired = progress.acquired := by
  cases report <;> rfl

@[simp] theorem checked_released (report : Option Report) :
    (progress.checked scene report).released = progress.released := by
  cases report <;> rfl

theorem checked_mainState (report : Option Report) :
    (progress.checked scene report).board.mainState =
      match report with
      | none => progress.board.mainState
      | some report => reportedState scene.before82 progress.board.mainState report.status := by
  cases report with
  | none => rfl
  | some report => exact setMainState_mainState _ _ _

end Progress

section Steps

variable {scene : Scene} {progress : Progress} {returned : PUnit → Progress → Prop}

@[simp] theorem completes_update {state : MainState} :
    (update state).Completes progress returned ↔ returned ⟨⟩ (progress.withState state) := Iff.rfl

@[simp] theorem completes_getState {returned : MainState → Progress → Prop} :
    getState.Completes progress returned ↔ returned progress.board.mainState progress := Iff.rfl

@[simp] theorem completes_respond {response : Response} :
    (respond response).Completes progress returned ↔
      returned ⟨⟩ { progress with responses := progress.responses ++ [response] } := Iff.rfl

@[simp] theorem completes_ack : ack.Completes progress returned ↔
    returned ⟨⟩ { progress with responses := progress.responses ++ [.ok] } := Iff.rfl

@[simp] theorem completes_error {errnum : ClientError} {message : String} :
    (error errnum message).Completes progress returned ↔
      returned ⟨⟩ { progress with responses := progress.responses ++ [.error errnum message] } :=
  Iff.rfl

@[simp] theorem completes_reportStatus {body : Body} :
    (reportStatus body).Completes progress returned ↔
      returned ⟨⟩ { progress with
        responses := progress.responses ++
          [.status (body.set "status" (.text (if body.failed then "error" else "OK")))] } :=
  Iff.rfl

@[simp] theorem completes_userActionLock {returned : Bool → Progress → Prop} :
    (userActionLock scene).Completes progress returned ↔
      if scene.busy then returned false (progress.noting (.tried false))
      else returned true
        { progress.noting (.tried true) with acquired := progress.acquired + 1 } := by
  unfold userActionLock
  simp

@[simp] theorem completes_userActionUnlock :
    userActionUnlock.Completes progress returned ↔
      progress.released < progress.acquired ∧
        returned ⟨⟩ { progress.noting .released with released := progress.released + 1 } := by
  unfold userActionUnlock
  by_cases owned : progress.acquired ≤ progress.released
  · simp [Nat.not_lt.mpr owned]
  · simp [Nat.not_le.mp owned]

theorem ends_perform {Reply : Type} {action : Action} {answer : Except Failure Reply}
    {returned : Reply → Progress → Prop} {raised : Failure → Progress → Prop} :
    (perform scene action answer).Ends progress returned raised ↔
      match answer with
      | .ok reply => returned reply (progress.after scene action)
      | .error failure => raised failure (progress.after scene action) := by
  unfold perform Progress.after
  cases scene.lost action <;> cases answer <;> exact Iff.rfl

theorem completes_perform {Reply : Type} {action : Action} {answer : Except Failure Reply}
    {returned : Reply → Progress → Prop} :
    (perform scene action answer).Completes progress returned ↔
      ∃ reply, answer = .ok reply ∧ returned reply (progress.after scene action) := by
  unfold Script.Completes
  rw [ends_perform]
  cases answer <;> simp

@[simp] theorem completes_gen {event : Event} {returned : Unit → Progress → Prop} :
    (gen scene event).Completes progress returned ↔
      Replied (scene.gen event) ∧ returned () progress := by
  unfold gen Replied
  rw [Script.completes_settle]
  exact ⟨fun ⟨_, told, holds⟩ => ⟨⟨_, told⟩, holds⟩, fun ⟨⟨_, told⟩, holds⟩ => ⟨_, told, holds⟩⟩

theorem completes_maint {action : MaintAction} {returned : Body → Progress → Prop} :
    (maint scene action).Completes progress returned ↔
      ∃ body started, scene.maint action = .ok (body, started) ∧
        returned body { progress.after scene (.maint action) with
          board := { (progress.after scene (.maint action)).board with
            maintStarted := started } } := by
  unfold maint
  simp [completes_perform]

theorem completes_checkStatus :
    (checkStatusWithConnection scene).Completes progress returned ↔
      ∃ report, scene.statusCheck = .ok report ∧
        returned ⟨⟩ ((progress.after scene .statusCheck).checked scene report) := by
  unfold checkStatusWithConnection
  simp only [Script.completes_bind, completes_perform]
  refine exists_congr fun report => and_congr_right fun _ => ?_
  cases report <;> exact Iff.rfl

@[simp] theorem completes_getAgent {command : Command} {returned : Bool → Progress → Prop} :
    (getAgent scene command).Completes progress returned ↔
      ∃ refusal, agentOf scene command = .ok refusal ∧
        match refusal with
        | none => returned true progress
        | some (errnum, message) => returned false
            { progress with responses := progress.responses ++ [.error errnum message] } := by
  unfold getAgent
  simp only [Script.completes_bind, Script.completes_settle]
  refine exists_congr fun refusal => and_congr_right fun _ => ?_
  rcases refusal with _ | ⟨errnum, message⟩ <;> exact Iff.rfl

end Steps

section Ends

variable {progress : Progress} {returned : PUnit → Progress → Prop}
    {raised : Failure → Progress → Prop}

@[simp] theorem ends_update {state : MainState} :
    (update state).Ends progress returned raised ↔ returned ⟨⟩ (progress.withState state) := Iff.rfl

@[simp] theorem ends_reportStatus {body : Body} :
    (reportStatus body).Ends progress returned raised ↔
      returned ⟨⟩ { progress with
        responses := progress.responses ++
          [.status (body.set "status" (.text (if body.failed then "error" else "OK")))] } :=
  Iff.rfl

@[simp] theorem ends_userActionUnlock :
    userActionUnlock.Ends progress returned raised ↔
      if progress.acquired ≤ progress.released then
        raised ⟨.runtimeError, "cannot release un-acquired lock"⟩ (progress.noting .misreleased)
      else returned ⟨⟩ { progress.noting .released with released := progress.released + 1 } := by
  unfold userActionUnlock
  simp

end Ends

/-! ## The lock -/

/-- The condition of a command that first finds the agent and takes its lock: if it is
refused, the main state that it leaves as it was settles; otherwise what it then does
meets its condition. -/
def LockCalm (scene : Scene) (command : Command) (calm : Prop) : Prop :=
  ∃ refusal, agentOf scene command = .ok refusal ∧
    if refusal.isSome ∨ scene.busy then Settled scene.before82 scene.board.mainState else calm

/-- A command under the lock is robust if it leaves things as it should from where it
holds the lock. -/
theorem underLock_robust {scene : Scene} {command : Command} {errnum : ClientError}
    {message : String} {work : Handling PUnit} {calm : Prop}
    (holds : ∀ progress : Progress, progress.Held → progress.board = scene.board →
      (work.Completes progress (fun _ final => Left scene final) ↔ calm)) :
    Robust scene (underLock scene command errnum message work) ↔ LockCalm scene command calm := by
  unfold Robust underLock LockCalm
  simp only [Script.completes_bind, completes_getAgent]
  refine exists_congr fun refusal => and_congr_right fun _ => ?_
  rcases refusal with _ | ⟨errnum, message⟩
  · by_cases busy : scene.busy = true
    · simp [busy, Left, Scene.start]
    · simp only [busy, if_true, Script.completes_bind, completes_userActionLock, Bool.false_eq_true,
        if_false, Option.isSome_none, or_self]
      exact holds ⟨scene.board, 1, 0, [], [], [.tried true]⟩ ⟨rfl, rfl⟩ rfl
  · simp [Left, Scene.start]

/-- A refusal gives the lock back and leaves the main state as it was. -/
theorem refuse_left {scene : Scene} {progress : Progress} (held : progress.Held)
    {errnum : ClientError} {message : String} :
    (refuse errnum message).Completes progress (fun _ final => Left scene final) ↔
      Settled scene.before82 progress.board.mainState := by
  obtain ⟨acquired, released⟩ := held
  unfold refuse
  simp [Left, acquired, released]

end Palette.Commands
