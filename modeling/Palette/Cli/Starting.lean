import Palette.Cli.Harmless

/-!
# The start

A start reply is accepted if it carries the identifier of the request. An accepted start
is rejected all the same if the reply has an error or no run status that the controller
knows; every other one is passed on as it is.
-/

namespace Palette.Cli

open Palette.Commands Palette.Foundation Script

/-- The object of a start reply carries the identifier of the request. -/
def Dict.Accepts (body : Dict) (xid : ℕ+) : Prop :=
  (body.get "xid").bind Json.numeric = some ((xid : Nat) : Rat)

/-- The object of a start reply has an error, or no run status that the controller knows. -/
def Dict.Rejects (body : Dict) : Prop :=
  body.has "error" = true ∨
    ¬body.Says "run-status" "running" ∧ ¬body.Says "run-status" "finished"

/-- The controller can use the text of a start reply. -/
def Text.Startable (text : Text) : Prop :=
  match text.loads with
  | some .null => True
  | some (.object body) => ∀ value ∈ Dict.get body "xid", value.numeric.isSome
  | _ => False

/-- The controller can use the start reply. -/
def Reply.Startable (reply : Reply) : Prop :=
  match reply.ok with
  | none => ¬reply.Unprintable
  | some text => text.Startable

/-- A start reply that is accepted and not rejected is passed on. -/
theorem checkStart_started {xid : ℕ+} {body : Dict} (accepts : body.Accepts xid)
    (open_ : ¬body.Rejects) : checkStart xid body = .ok body := by
  simp only [checkStart]
  cases found : body.get "xid" with
  | none => simp [Dict.Accepts, found] at accepts
  | some value =>
    have same : value.numeric = some ((xid : Nat) : Rat) := by
      simpa [Dict.Accepts, found] using accepts
    simp only [Dict.Rejects, not_or, not_and_or, not_not, Dict.Says] at open_
    cases status : body.get "run-status" with
    | none => simp [status] at open_
    | some stated =>
      simp only [status, Option.any_some] at open_
      rcases open_.2 with known | known <;> simp [same, known]

/-- Any other start reply becomes an error, if the controller can use it. -/
theorem checkStart_other {xid : ℕ+} {body result : Dict}
    (other : body.Accepts xid → body.Rejects) (checked : checkStart xid body = .ok result) :
    result.has "error" = true := by
  simp only [checkStart] at checked
  cases found : body.get "xid" with
  | none =>
    rw [found] at checked
    rw [← Except.ok.inj checked, Dict.has_error]
  | some value =>
    simp only [found] at checked
    by_cases same : value.numeric = some ((xid : Nat) : Rat)
    · have rejects : body.Rejects := other (by simp [Dict.Accepts, found, same])
      rw [if_neg (not_not_intro same)] at checked
      cases status : body.get "run-status" with
      | none =>
        rw [status] at checked
        rw [← Except.ok.inj checked, Dict.has_error]
      | some stated =>
        simp only [status] at checked
        split at checked
        · rw [← Except.ok.inj checked, Dict.has_error]
        · rename_i known
          rw [← Except.ok.inj checked]
          rcases rejects with failed | unknown
          · exact failed
          · simp only [Dict.Says, status, Option.any_some, Bool.not_eq_true] at unknown
            exact absurd unknown known
    · rw [if_pos same] at checked
      obtain ⟨shown, _, checked⟩ := bind_eq_ok.1 checked
      rw [← Except.ok.inj checked, Dict.has_error]

/-- The checks return if the identifier, where there is one, is a number. -/
theorem checkStart_returns_iff (xid : ℕ+) (body : Dict) :
    (∃ result, checkStart xid body = .ok result) ↔
      ∀ value ∈ body.get "xid", value.numeric.isSome := by
  simp only [checkStart]
  cases found : body.get "xid" with
  | none => simp
  | some value =>
    simp only [Option.mem_def, Option.some.injEq, forall_eq']
    by_cases same : value.numeric = some ((xid : Nat) : Rat)
    · simp only [same, Option.isSome_some, iff_true]
      rw [if_neg (not_not_intro rfl)]
      cases body.get "run-status" with
      | none => exact ⟨_, rfl⟩
      | some stated =>
        dsimp only
        split <;> exact ⟨_, rfl⟩
    · rw [if_pos same, Json.decimal]
      cases value.numeric <;> simp [bind, Except.bind, pure, Except.pure]

/-- A text that is no object with the identifier becomes an error, if it can be used. -/
theorem readStart_other {xid : ℕ+} {text : Text} {result : Dict}
    (other : ∀ body, text.loads = some (.object body) → Dict.Accepts body xid → Dict.Rejects body)
    (read : readStart xid text = .ok result) : result.has "error" = true := by
  obtain ⟨value, decoded, read⟩ := bind_eq_ok.1 read
  have decoded : text.loads = some value := by
    cases found : text.loads <;> simp_all [loads]
  cases value with
  | null => rw [← Except.ok.inj read, Dict.has_error]
  | object body => exact checkStart_other (other body decoded) read
  | _ =>
    obtain ⟨_, _, raised⟩ := bind_eq_ok.1 read
    simp [throw, throwThe, MonadExceptOf.throw] at raised

/-- The controller returns for the texts that it can use. -/
theorem readStart_returns_iff (xid : ℕ+) (text : Text) :
    (∃ result, readStart xid text = .ok result) ↔ text.Startable := by
  simp only [readStart, loads, Text.Startable]
  cases decoded : text.loads with
  | none => simp [bind, Except.bind]
  | some value =>
    cases value with
    | null => exact iff_of_true ⟨_, rfl⟩ trivial
    | object body => exact checkStart_returns_iff xid body
    | _ => simp [bind_eq_ok, throw, throwThe, MonadExceptOf.throw]

/-- A reply that is accepted can be used. -/
theorem startable_of_accepts {xid : ℕ+} {reply : Reply} {body : Dict} (found : body ∈ reply.body)
    (accepts : body.Accepts xid) : reply.Startable := by
  obtain ⟨text, ok, decoded⟩ := body_eq_some.1 found
  obtain ⟨value, identifier, number⟩ := Option.bind_eq_some_iff.1 accepts
  simp [Reply.Startable, ok, Text.Startable, decoded, identifier, number]

section Starts

variable {dialogue : Dialogue} {wire : Wire} {xid : ℕ+}

/-- A start that is not accepted, or rejected, ends the command. -/
theorem ends_cliCmd_other (inserted : dialogue.table.insert = .ok xid)
    (other : ∀ body ∈ dialogue.start.body, Dict.Accepts body xid → Dict.Rejects body) :
    Ends (cliCmd dialogue) wire
      (fun body final => body.has "error" = true ∧ final.locks = wire.locks ∧
        dialogue.start.Startable)
      fun _ final => final.locks = wire.locks ∧ ¬dialogue.start.Startable := by
  simp only [cliCmd, ends_bind, ends_sendCli, inserted]
  cases ok : dialogue.start.ok with
  | none =>
    have startable : dialogue.start.Startable ↔ ¬dialogue.start.Unprintable := by
      simp [Reply.Startable, ok]
    by_cases unprintable : dialogue.start.Unprintable
    · simp only [unprintable, if_true]
      exact ⟨rfl, by simp [startable, unprintable]⟩
    · simp only [unprintable, if_false, has_error_refusal, if_true, ends_pure]
      exact ⟨trivial, rfl, startable.2 unprintable⟩
  | some text =>
    have startable : dialogue.start.Startable ↔ text.Startable := by simp [Reply.Startable, ok]
    have returns := readStart_returns_iff xid text
    dsimp only
    cases read : readStart xid text with
    | error failure => exact ⟨rfl, by simp [startable, ← returns, read]⟩
    | ok result =>
      have failed : result.has "error" = true := by
        refine readStart_other (fun body decoded => other body ?_) read
        simp [Reply.body, ok, decoded]
      simp only [failed, if_true, ends_pure]
      exact ⟨trivial, rfl, startable.2 (returns.1 ⟨result, read⟩)⟩

/-- A start that goes on is passed on as it is. -/
theorem readStart_started {text : Text} {body : Dict} (decoded : text.loads = some (.object body))
    (accepts : body.Accepts xid) (started : ¬body.Rejects) : readStart xid text = .ok body := by
  rw [readStart, loads, decoded]
  exact checkStart_started accepts started

/-- A start that goes on with a finished command ends the command at once. -/
theorem ends_cliCmd_finished {body : Dict} {returned : Dict → Wire → Prop}
    {raised : Failure → Wire → Prop} (inserted : dialogue.table.insert = .ok xid)
    (found : body ∈ dialogue.start.body) (accepts : body.Accepts xid) (started : ¬body.Rejects)
    (finished : body.Says "run-status" "finished") :
    Ends (cliCmd dialogue) wire returned raised ↔
      returned body (wire.told (.start xid) dialogue.start) := by
  obtain ⟨text, ok, decoded⟩ := body_eq_some.1 found
  simp only [cliCmd, ends_bind, ends_sendCli, inserted, ok,
    readStart_started decoded accepts started]
  have fine : body.has "error" = false := by
    simpa using (not_or.1 started).1
  simp only [fine, Bool.false_eq_true, if_false]
  cases status : body.get "run-status" with
  | none => simp [Dict.Says, status] at finished
  | some stated =>
    have finished : stated.isText "finished" = true := by simpa [Dict.Says, status] using finished
    simp only [finished, if_true, ends_pure]

/-- A start that goes on with a running command is followed by the waiting. -/
theorem ends_cliCmd_running {body : Dict} {returned : Dict → Wire → Prop}
    {raised : Failure → Wire → Prop} (inserted : dialogue.table.insert = .ok xid)
    (found : body ∈ dialogue.start.body) (accepts : body.Accepts xid) (started : ¬body.Rejects)
    (unfinished : ¬body.Says "run-status" "finished") :
    ∃ value, body.get "xid" = some value ∧ value.numeric = some ((xid : Nat) : Rat) ∧
      (Ends (cliCmd dialogue) wire returned raised ↔
        Ends (getCliStatus dialogue value dialogue.polls) (wire.told (.start xid) dialogue.start)
          (fun cliBody final => Ends (finishCli dialogue value cliBody) final returned raised)
          raised) := by
  obtain ⟨text, ok, decoded⟩ := body_eq_some.1 found
  obtain ⟨value, identifier, number⟩ := Option.bind_eq_some_iff.1 accepts
  refine ⟨value, identifier, number, ?_⟩
  simp only [cliCmd, ends_bind, ends_sendCli, inserted, ok,
    readStart_started decoded accepts started]
  have fine : body.has "error" = false := by
    simpa using (not_or.1 started).1
  simp only [fine, Bool.false_eq_true, if_false]
  cases status : body.get "run-status" with
  | none => simp [Dict.Rejects, Dict.Says, status] at started
  | some stated =>
    have unfinished : stated.isText "finished" = false := by
      simpa [Dict.Says, status] using unfinished
    simp only [unfinished, Bool.false_eq_true, if_false, identifier, ends_bind]

end Starts

end Palette.Cli
