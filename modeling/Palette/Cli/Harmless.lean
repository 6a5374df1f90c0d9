import Palette.Cli.Ends

/-!
# Replies that can be used

A status reply that ends the waiting either makes the controller remove the agent or does
not, and the controller can either make something of it or raises. Both depend on the
reply alone. The same holds for the kill, and for the end of the waiting altogether.
-/

namespace Palette.Cli

open Palette.Commands Palette.Foundation Script

/-! ## Messages -/

/-- The message starts the request with the identifier, or asks for its status. -/
def Message.About (xid : ℕ+) : Message → Prop
  | .start other => other = xid
  | .status value => value.numeric = some ((xid : Nat) : Rat)
  | .kill _ | .cleanup _ => False

/-- The message is the cleanup for the identifier. -/
def Message.isCleanup (xid : ℕ+) : Message → Bool
  | .cleanup other => other = xid
  | _ => false

/-- How many cleanups were sent for the identifier. -/
def Wire.cleanups (wire : Wire) (xid : ℕ+) : Nat :=
  wire.exchanges.countP fun exchange => exchange.message.isCleanup xid

@[simp] theorem cleanups_told (wire : Wire) (message : Message) (reply : Reply) (xid : ℕ+) :
    (wire.told message reply).cleanups xid =
      wire.cleanups xid + if message.isCleanup xid then 1 else 0 := by
  simp [Wire.cleanups, List.countP_cons]

@[simp] theorem cleanups_dropped (wire : Wire) (xid : ℕ+) :
    wire.dropped.cleanups xid = wire.cleanups xid := rfl

@[simp] theorem cleanups_locked (wire : Wire) (xid : ℕ+) :
    wire.locked.cleanups xid = wire.cleanups xid := rfl

/-- The waiting sends no cleanup. -/
@[simp] theorem cleanups_waited (timeout : Nat) (value : Json) (wire : Wire) (polls : List Poll)
    (xid : ℕ+) : (waited timeout value wire polls).cleanups xid = wire.cleanups xid := by
  induction polls generalizing wire with
  | nil => rfl
  | cons poll polls inductionHypothesis =>
    simp only [waited]
    split
    · rfl
    · split
      · rfl
      · split
        · rw [inductionHypothesis, cleanups_told]
          rfl
        · rfl

/-! ## Status replies -/

/-- A command that has finished is not running. -/
theorem not_running_of_finished {body : Dict} (finished : body.Says "run-status" "finished") :
    ¬body.Says "run-status" "running" := by
  simp only [Dict.Says] at *
  cases status : body.get "run-status" with
  | none => simp
  | some stated => cases stated <;> simp_all [Json.isText]

/-- The object says that the command finished with the exit status zero. -/
def Dict.Succeeded (body : Dict) : Prop :=
  body.Says "run-status" "finished" ∧
    (body.get "exit-status").any fun exit => exit.numeric = some 0

/-- The reply says that the command finished with the exit status zero. -/
def Reply.ReportsSuccess (reply : Reply) : Prop := ∃ body ∈ reply.body, Dict.Succeeded body

/-- A finished command of which the controller can say how it ended: with the exit status
zero there has to be an output or an error, with another one a text of the error or a
number. -/
def Dict.ExitReadable (body : Dict) (exit : Json) : Prop :=
  if exit.numeric = some 0 then body.has "stdout" ∨ body.has "error"
  else (body.get "stderr").any Json.truthy ∨ exit.numeric.isSome

/-- The value is a list or an object. -/
def Json.IsMapping : Json → Prop
  | .list _ | .object _ => True
  | _ => False

/-- The object of a status reply lacks a key or has an unknown run status. -/
def Dict.Drops (body : Dict) : Prop :=
  body.Says "run-status" "finished" → body.get "exit-status" = none

/-- The object of a status reply can be used. -/
def Dict.Harmless (body : Dict) : Prop :=
  match body.get "run-status" with
  | none => True
  | some status =>
    if status.isText "finished" then ∀ exit ∈ body.get "exit-status", body.ExitReadable exit
    else status.IsMapping

/-- The value is text or a list in which the key `run-status` is not found. -/
def Json.LacksRunStatus : Json → Prop
  | .text value => containsRunStatus value = false
  | .list items => items.any (fun item => item.isText "run-status") = false
  | _ => False

/-- The value of a status reply makes the controller remove the agent. -/
def Json.Drops : Json → Prop
  | .object body => Dict.Drops body
  | value => value.str = .ok () ∧ value.LacksRunStatus

/-- The controller can use the value of a status reply. -/
def Json.Harmless : Json → Prop
  | .null => True
  | .object body => Dict.Harmless body
  | value => value.str = .ok () ∧ value.LacksRunStatus

/-- The status reply makes the controller remove the agent. -/
def Reply.Drops (reply : Reply) : Prop :=
  match reply.ok with
  | none => True
  | some text => ∃ value, text.loads = some value ∧ value.Drops

/-- The controller can use the status reply. -/
def Reply.Harmless (reply : Reply) : Prop :=
  match reply.ok with
  | none => ¬reply.Unprintable
  | some text => ∃ value, text.loads = some value ∧ value.Harmless

/-- The controller can use the reply to a kill, which it shows. -/
def Reply.Showable (reply : Reply) : Prop :=
  match reply.ok with
  | none => ¬reply.Unprintable
  | some text => ∃ value, text.loads = some value ∧ value.str = .ok ()

namespace Ending

/-- The end of the waiting makes the controller remove the agent. -/
def Drops (kill : Reply) : Ending → Prop
  | timedOut => kill.ok = none
  | disconnected => False
  | answered reply => reply.Drops

/-- The controller can use the end of the waiting. -/
def Harmless (kill : Reply) : Ending → Prop
  | timedOut => kill.Showable
  | disconnected => True
  | answered reply => reply.Harmless

/-- The command has ended well. -/
def Succeeds : Ending → Prop
  | timedOut | disconnected => False
  | answered reply => ∃ body ∈ reply.body, Dict.Succeeded body ∧ Dict.has body "error" = false

end Ending

/-! ## The end of the waiting -/

/-- What the end of the waiting leaves of the connection. -/
structure Left (wire final : Wire) (dropped : Prop) : Prop where
  locks : final.locks = wire.locks
  cleanups : ∀ xid, final.cleanups xid = wire.cleanups xid
  removed : final.removed = true ↔ wire.removed = true ∨ dropped

/-- What the end of the waiting makes of a result. -/
structure Concluded (last : Ending) (kill : Reply) (value : Json) (wire : Wire) (body : Dict)
    (final : Wire) : Prop where
  left : Left wire final (last.Drops kill)
  usable : last.Harmless kill ↔ body.has "stdout" = true ∨ body.has "error" = true
  success : body.has "error" = false ↔ last.Succeeds
  reported : body.has "error" = false → ∃ exchange ∈ final.exchanges,
    exchange.message = .status value ∧ exchange.reply.ReportsSuccess

section Conclusions

variable {dialogue : Dialogue} {wire : Wire} {value : Json}

/-- An exchange that is no cleanup leaves nothing else behind. -/
theorem left_told (wire : Wire) {message : Message} (reply : Reply)
    (other : ∀ xid, message.isCleanup xid = false) {dropped : Prop} (kept : ¬dropped) :
    Left wire (wire.told message reply) dropped where
  locks := rfl
  cleanups xid := by simp [other xid]
  removed := by simp [kept]

/-- The same for an exchange after which the agent was removed. -/
theorem left_dropped (wire : Wire) {message : Message} (reply : Reply)
    (other : ∀ xid, message.isCleanup xid = false) {dropped : Prop} (removed : dropped) :
    Left wire (wire.told message reply).dropped dropped where
  locks := rfl
  cleanups xid := by simp [other xid]
  removed := by simp [removed]

/-- An error that the controller made itself is a use of the end of the waiting. -/
theorem concluded_error {last : Ending} {kill : Reply} {body : Dict} {final : Wire}
    (left : Left wire final (last.Drops kill)) (harmless : last.Harmless kill)
    (failed : body.has "error" = true) (unsuccessful : ¬last.Succeeds) :
    Concluded last kill value wire body final where
  left := left
  usable := by simp [harmless, failed]
  success := by simp [failed, unsuccessful]
  reported fine := absurd fine (by simp [failed])

/-- How a waiting ends whose time is over. -/
theorem ends_timedOut : Ends (timedOut dialogue value) wire
    (Concluded .timedOut dialogue.kill value wire)
    fun _ final => Left wire final (Ending.Drops dialogue.kill .timedOut) ∧
      ¬Ending.Harmless dialogue.kill .timedOut := by
  simp only [timedOut, ends_bind, ends_killCmd, ends_settle, ends_pure]
  cases ok : dialogue.kill.ok with
  | none =>
    have dropped : Ending.Drops dialogue.kill .timedOut := ok
    have left : Left wire (wire.told (.kill value) dialogue.kill).dropped
        (Ending.Drops dialogue.kill .timedOut) :=
      left_dropped wire dialogue.kill (fun _ => rfl) dropped
    by_cases unprintable : dialogue.kill.Unprintable
    · simp only [unprintable, if_true]
      exact ⟨left, fun harmless => by simp [Ending.Harmless, Reply.Showable, ok, unprintable] at harmless⟩
    · simp only [unprintable, if_false, Json.str]
      exact concluded_error left (by simp [Ending.Harmless, Reply.Showable, ok, unprintable])
        (Dict.has_error _ _) id
  | some text =>
    have kept : ¬Ending.Drops dialogue.kill .timedOut := by simp [Ending.Drops, ok]
    have left : Left wire (wire.told (.kill value) dialogue.kill)
        (Ending.Drops dialogue.kill .timedOut) :=
      left_told wire dialogue.kill (fun _ => rfl) kept
    have showable : Ending.Harmless dialogue.kill .timedOut ↔
        ∃ value, text.loads = some value ∧ value.str = .ok () := by
      simp [Ending.Harmless, Reply.Showable, ok]
    dsimp only
    cases decoded : text.loads with
    | none =>
      simp only [readBody, loads, decoded]
      exact ⟨left, by simp [showable, decoded]⟩
    | some found =>
      have shown : readBody text "POST //cli getresponse returned null body" =
          .ok (.object (Dict.error [] "POST //cli getresponse returned null body")) ∧ found = .null ∨
          readBody text "POST //cli getresponse returned null body" = .ok found := by
        cases found <;> simp [readBody, loads, decoded]
      rcases shown with ⟨body, rfl⟩ | body
      · rw [body]
        exact concluded_error left (by simp [showable, decoded, Json.str]) (Dict.has_error _ _) id
      · rw [body]
        dsimp only
        cases printed : found.str with
        | error failure => exact ⟨left, by simp [showable, decoded, printed]⟩
        | ok _ =>
          exact concluded_error left (by simp [showable, decoded, printed]) (Dict.has_error _ _) id

section Objects

variable {reply : Reply} {text : Text} {body : Dict} {kill : Reply}

/-- A status reply with an object is judged by the object. -/
theorem drops_answered (ok : reply.ok = some text) (decoded : text.loads = some (.object body)) :
    Ending.Drops kill (.answered reply) ↔ body.Drops := by
  simp [Ending.Drops, Reply.Drops, ok, decoded, Json.Drops]

theorem harmless_answered (ok : reply.ok = some text)
    (decoded : text.loads = some (.object body)) :
    Ending.Harmless kill (.answered reply) ↔ body.Harmless := by
  simp [Ending.Harmless, Reply.Harmless, ok, decoded, Json.Harmless]

theorem succeeds_answered (ok : reply.ok = some text)
    (decoded : text.loads = some (.object body)) :
    Ending.Succeeds (.answered reply) ↔ body.Succeeded ∧ body.has "error" = false := by
  simp [Ending.Succeeds, Reply.body, ok, decoded]

/-- How a waiting ends with a finished command. -/
theorem ends_finished (ok : reply.ok = some text) (decoded : text.loads = some (.object body))
    (finishes : body.Says "run-status" "finished") :
    Ends (finished body) (wire.told (.status value) reply)
      (Concluded (.answered reply) kill value wire)
      fun _ final => Left wire final (Ending.Drops kill (.answered reply)) ∧
        ¬Ending.Harmless kill (.answered reply) := by
  have drops : Ending.Drops kill (.answered reply) ↔ body.get "exit-status" = none := by
    simp [drops_answered ok decoded, Dict.Drops, finishes]
  have harmless : Ending.Harmless kill (.answered reply) ↔
      ∀ exit ∈ body.get "exit-status", body.ExitReadable exit := by
    rw [harmless_answered ok decoded, Dict.Harmless]
    cases status : body.get "run-status" with
    | none => simp [Dict.Says, status] at finishes
    | some found =>
      have finishes : found.isText "finished" = true := by simpa [Dict.Says, status] using finishes
      simp [finishes]
  have succeeds := succeeds_answered ok decoded
  simp only [finished]
  cases exits : body.get "exit-status" with
  | none =>
    exact concluded_error (left_dropped wire reply (fun _ => rfl) (drops.2 exits))
      (by simp [harmless, exits]) (Dict.has_error _ _) (by simp [succeeds, Dict.Succeeded, exits])
  | some exit =>
    have left : Left wire (wire.told (.status value) reply) (Ending.Drops kill (.answered reply)) :=
      left_told wire reply (fun _ => rfl) (by simp [drops, exits])
    have harmless : Ending.Harmless kill (.answered reply) ↔ body.ExitReadable exit := by
      simp [harmless, exits]
    have succeeds : Ending.Succeeds (.answered reply) ↔
        exit.numeric = some 0 ∧ body.has "error" = false := by
      simp [succeeds, Dict.Succeeded, finishes, exits]
    simp only [ends_ite]
    by_cases zero : exit.numeric = some 0
    · rw [if_neg (not_not_intro zero)]
      refine ⟨left, ?_, ?_, fun _ => ?_⟩
      · simp [harmless, Dict.ExitReadable, zero]
      · simp [succeeds, zero]
      · refine ⟨⟨.status value, reply⟩, by simp, rfl, body, ?_, ?_⟩
        · simp [Reply.body, ok, decoded]
        · simp [Dict.Succeeded, finishes, exits, zero]
    · rw [if_pos zero]
      have unsuccessful : ¬Ending.Succeeds (.answered reply) := by simp [succeeds, zero]
      rw [Dict.ExitReadable, if_neg zero] at harmless
      cases stderr : (body.get "stderr").filter Json.truthy with
      | some shown =>
        obtain ⟨present, truthy⟩ := Option.filter_eq_some_iff.1 stderr
        exact concluded_error left (harmless.2 (.inl (by simp [present, truthy])))
          (Dict.has_set_self _ _ _) unsuccessful
      | none =>
        have noText : (body.get "stderr").any Json.truthy = false := by
          cases present : body.get "stderr" with
          | none => rfl
          | some shown => simpa [present] using stderr
        simp only [ends_bind, ends_settle, Json.decimal]
        cases number : exit.numeric with
        | none => exact ⟨left, by simp [harmless, number, noText]⟩
        | some _ =>
          exact concluded_error left (harmless.2 (.inr (by simp [number]))) (Dict.has_error _ _)
            unsuccessful

/-- How a waiting ends with an object that is not running. -/
theorem ends_readObject (ok : reply.ok = some text)
    (decoded : text.loads = some (.object body)) (running : ¬body.Says "run-status" "running") :
    Ends (readObject body) (wire.told (.status value) reply)
      (fun result final => Concluded (.answered reply) kill value wire (result.getD []) final)
      fun _ final => Left wire final (Ending.Drops kill (.answered reply)) ∧
        ¬Ending.Harmless kill (.answered reply) := by
  have drops : Ending.Drops kill (.answered reply) ↔ body.Drops := drops_answered ok decoded
  have harmless : Ending.Harmless kill (.answered reply) ↔ body.Harmless :=
    harmless_answered ok decoded
  have succeeds := succeeds_answered ok decoded
  simp only [readObject]
  cases status : body.get "run-status" with
  | none =>
    have removed : Ending.Drops kill (.answered reply) := by
      simp [drops, Dict.Drops, Dict.Says, status]
    exact concluded_error (left_dropped wire reply (fun _ => rfl) removed)
      (by simp [harmless, Dict.Harmless, status]) (Dict.has_error _ _)
      (by simp [succeeds, Dict.Succeeded, Dict.Says, status])
  | some found =>
    have notRunning : found.isText "running" = false := by simpa [Dict.Says, status] using running
    simp only [notRunning, ends_ite, Bool.false_eq_true, if_false, ends_map]
    split
    · rename_i finishes
      exact ends_finished ok decoded (by simpa [Dict.Says, status] using finishes)
    · rename_i unknown
      have removed : Ending.Drops kill (.answered reply) := by
        simp [drops, Dict.Drops, Dict.Says, status, unknown]
      have left : Left wire (wire.told (.status value) reply).dropped
          (Ending.Drops kill (.answered reply)) :=
        left_dropped wire reply (fun _ => rfl) removed
      have harmless : Ending.Harmless kill (.answered reply) ↔ found.IsMapping := by
        simp [harmless, Dict.Harmless, status, unknown]
      have unsuccessful : ¬Ending.Succeeds (.answered reply) := by
        simp [succeeds, Dict.Succeeded, Dict.Says, status, unknown]
      simp only [unknownRunStatus, removeAgent, ends_bind, ends_modify, ends_settle]
      cases found with
      | list items =>
        exact concluded_error left (harmless.2 trivial) (Dict.has_error _ _) unsuccessful
      | object fields =>
        exact concluded_error left (harmless.2 trivial) (Dict.has_error _ _) unsuccessful
      | _ => exact ⟨left, harmless.1⟩

end Objects

/-- How a waiting ends with a reply that is not running. -/
theorem ends_answered {reply : Reply} (running : ¬reply.Running) :
    Ends (conclude dialogue value (.answered reply)) wire
      (Concluded (.answered reply) dialogue.kill value wire)
      fun _ final => Left wire final (Ending.Drops dialogue.kill (.answered reply)) ∧
        ¬Ending.Harmless dialogue.kill (.answered reply) := by
  simp only [conclude, ends_map, ends_pollOnce]
  cases ok : reply.ok with
  | none =>
    have dropped : Ending.Drops dialogue.kill (.answered reply) := by
      simp [Ending.Drops, Reply.Drops, ok]
    have left : Left wire (wire.told (.status value) reply).dropped
        (Ending.Drops dialogue.kill (.answered reply)) :=
      left_dropped wire reply (fun _ => rfl) dropped
    have harmless : Ending.Harmless dialogue.kill (.answered reply) ↔ ¬reply.Unprintable := by
      simp [Ending.Harmless, Reply.Harmless, ok]
    by_cases unprintable : reply.Unprintable
    · simp only [unprintable, if_true]
      exact ⟨left, by simp [harmless, unprintable]⟩
    · simp only [unprintable, if_false]
      exact concluded_error left (harmless.2 unprintable) (has_error_refusal _ _ _ _ _)
        (by simp [Ending.Succeeds, Reply.body, ok])
  | some text =>
    have drops : Ending.Drops dialogue.kill (.answered reply) ↔
        ∃ found, text.loads = some found ∧ found.Drops := by simp [Ending.Drops, Reply.Drops, ok]
    have harmless : Ending.Harmless dialogue.kill (.answered reply) ↔
        ∃ found, text.loads = some found ∧ found.Harmless := by
      simp [Ending.Harmless, Reply.Harmless, ok]
    have told (kept : ¬Ending.Drops dialogue.kill (.answered reply)) :
        Left wire (wire.told (.status value) reply) (Ending.Drops dialogue.kill (.answered reply)) :=
      left_told wire reply (fun _ => rfl) kept
    have dropped (removed : Ending.Drops dialogue.kill (.answered reply)) :
        Left wire (wire.told (.status value) reply).dropped
          (Ending.Drops dialogue.kill (.answered reply)) :=
      left_dropped wire reply (fun _ => rfl) removed
    dsimp only
    cases decoded : text.loads with
    | none =>
      simp only [readPoll, loads, decoded]
      exact ⟨told (by simp [drops, decoded]), by simp [harmless, decoded]⟩
    | some found =>
      simp only [decoded, Option.some.injEq, exists_eq_left'] at drops harmless
      have unsuccessful (other : ∀ fields, found ≠ .object fields) :
          ¬Ending.Succeeds (.answered reply) := by
        cases found <;> simp_all [Ending.Succeeds, Reply.body]
      cases found with
      | object body =>
        have other : ¬Dict.Says body "run-status" "running" := fun stated =>
          running ((running_iff reply).2 ⟨text, body, ok, decoded, stated⟩)
        simpa [readPoll, loads, decoded, Json.str, Except.map, readStatus]
          using ends_readObject ok decoded other
      | null =>
        simp only [readPoll, loads, decoded]
        exact concluded_error (told (by simp [drops, Json.Drops, Json.LacksRunStatus]))
          (harmless.2 trivial) (Dict.has_error _ _) (unsuccessful fun _ => Json.noConfusion)
      | text shown =>
        have unsuccessful := unsuccessful fun _ => Json.noConfusion
        simp only [readPoll, loads, decoded]
        cases ascii : isAscii shown with
        | false =>
          simp only [Json.str, ascii]
          exact ⟨told (by simp [drops, Json.Drops, Json.str, ascii]),
            by simp [harmless, Json.Harmless, Json.str, ascii]⟩
        | true =>
          simp only [Json.str, ascii, if_true, Except.map, readStatus, ends_ite, ends_throw]
          cases contained : containsRunStatus shown with
          | true =>
            exact ⟨told (by simp [drops, Json.Drops, Json.LacksRunStatus, contained]),
              by simp [harmless, Json.Harmless, Json.LacksRunStatus, contained]⟩
          | false =>
            have lacking : (Json.text shown).str = .ok () ∧ (Json.text shown).LacksRunStatus :=
              ⟨if_pos ascii, contained⟩
            exact concluded_error (dropped (drops.2 lacking)) (harmless.2 lacking)
              (Dict.has_error _ _) unsuccessful
      | list items =>
        have unsuccessful := unsuccessful fun _ => Json.noConfusion
        simp only [readPoll, loads, decoded, Json.str, Except.map, readStatus, ends_ite, ends_throw]
        cases contained : items.any fun item => item.isText "run-status" with
        | true =>
          exact ⟨told (by simp [drops, Json.Drops, Json.LacksRunStatus, contained]),
            by simp [harmless, Json.Harmless, Json.LacksRunStatus, contained]⟩
        | false =>
          have lacking : (Json.list items).str = .ok () ∧ (Json.list items).LacksRunStatus :=
            ⟨rfl, contained⟩
          exact concluded_error (dropped (drops.2 lacking)) (harmless.2 lacking)
            (Dict.has_error _ _) unsuccessful
      | _ =>
        simp only [readPoll, loads, decoded, Json.str, Except.map, readStatus, ends_throw]
        exact ⟨told (by simp [drops, Json.Drops, Json.LacksRunStatus]),
          by simp [harmless, Json.Harmless, Json.LacksRunStatus]⟩

/-- A waiting never ends with a reply that is running. -/
theorem not_running_of_ending {timeout : Nat} {polls : List Poll} {reply : Reply}
    (last : ending timeout polls = .answered reply) : ¬reply.Running := by
  induction polls with
  | nil => simp [ending] at last
  | cons poll polls inductionHypothesis =>
    simp only [ending] at last
    split at last
    · simp at last
    · split at last
      · simp at last
      · split at last
        · exact inductionHypothesis last
        · rename_i running
          rwa [← Ending.answered.inj last]

/-- The exchanges of the waiting are no part of what it leaves behind. -/
theorem Left.of_waited {timeout : Nat} {polls : List Poll} {final : Wire} {dropped : Prop}
    (left : Left (waited timeout value wire polls) final dropped) : Left wire final dropped where
  locks := by rw [left.locks, locks_waited]
  cleanups xid := by rw [left.cleanups xid, cleanups_waited]
  removed := by rw [left.removed, removed_waited]

/-- How the waiting ends. -/
theorem ends_waiting {polls : List Poll} :
    Ends (getCliStatus dialogue value polls) wire
      (Concluded (ending dialogue.timeout polls) dialogue.kill value wire)
      fun _ final => Left wire final ((ending dialogue.timeout polls).Drops dialogue.kill) ∧
        ¬(ending dialogue.timeout polls).Harmless dialogue.kill := by
  rw [ends_getCliStatus]
  have concluded : Ends (conclude dialogue value (ending dialogue.timeout polls))
      (waited dialogue.timeout value wire polls)
      (Concluded (ending dialogue.timeout polls) dialogue.kill value
        (waited dialogue.timeout value wire polls))
      fun _ final => Left (waited dialogue.timeout value wire polls) final
        ((ending dialogue.timeout polls).Drops dialogue.kill) ∧
        ¬(ending dialogue.timeout polls).Harmless dialogue.kill := by
    cases last : ending dialogue.timeout polls with
    | timedOut => exact ends_timedOut
    | disconnected =>
      exact concluded_error ⟨rfl, fun _ => rfl, by simp [Ending.Drops]⟩ trivial
        (Dict.has_error _ _) id
    | answered reply => exact ends_answered (not_running_of_ending last)
  refine concluded.mono ?_ ?_
  · intro body final found
    exact ⟨found.left.of_waited, found.usable, found.success, found.reported⟩
  · intro failure final found
    exact ⟨found.1.of_waited, found.2⟩

end Conclusions

end Palette.Cli
