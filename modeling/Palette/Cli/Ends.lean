import Palette.Cli.Command

/-!
# How the steps of a command end

Every step sends one message and then returns or raises, as the reply to it says. The
waiting ends at the first poll that is too late, finds the agent gone, or gets a reply
that does not say the command is running; the polls before it leave nothing behind but
their exchanges.
-/

namespace Palette.Cli

open Palette.Commands Palette.Foundation Script

/-! ## The connection -/

/-- The connection after one more exchange. -/
def Wire.told (wire : Wire) (message : Message) (reply : Reply) : Wire :=
  { wire with exchanges := ⟨message, reply⟩ :: wire.exchanges }

/-- The connection after the agent was removed. -/
def Wire.dropped (wire : Wire) : Wire := { wire with removed := true }

/-- The connection while the lock is held once more. -/
def Wire.locked (wire : Wire) : Wire := { wire with locks := wire.locks + 1 }

@[simp] theorem locks_told (wire : Wire) (message : Message) (reply : Reply) :
    (wire.told message reply).locks = wire.locks := rfl

@[simp] theorem removed_told (wire : Wire) (message : Message) (reply : Reply) :
    (wire.told message reply).removed = wire.removed := rfl

@[simp] theorem exchanges_told (wire : Wire) (message : Message) (reply : Reply) :
    (wire.told message reply).exchanges = ⟨message, reply⟩ :: wire.exchanges := rfl

@[simp] theorem locks_dropped (wire : Wire) : wire.dropped.locks = wire.locks := rfl

@[simp] theorem removed_dropped (wire : Wire) : wire.dropped.removed = true := rfl

@[simp] theorem exchanges_dropped (wire : Wire) : wire.dropped.exchanges = wire.exchanges := rfl

@[simp] theorem removed_locked (wire : Wire) : wire.locked.removed = wire.removed := rfl

@[simp] theorem locks_locked (wire : Wire) : wire.locked.locks = wire.locks + 1 := rfl

/-! ## Replies -/

/-- The text of a reply with the status OK. -/
def Reply.ok : Reply → Option Text
  | .lost _ => none
  | .response status _ text => if status = 200 then some text else none

/-- The connection failed with a text that is not ASCII. -/
def Reply.Unprintable : Reply → Prop
  | .lost loss => isAscii loss.message = false
  | .response _ _ _ => False

instance (reply : Reply) : Decidable reply.Unprintable :=
  match reply with
  | .lost loss => inferInstanceAs (Decidable (isAscii loss.message = false))
  | .response _ _ _ => inferInstanceAs (Decidable False)

/-- The dictionary for a reply without the status OK. -/
def Reply.refusal (reply : Reply) (displayname method uri : String) (failed : Loss → String) :
    Dict :=
  match reply with
  | .lost loss => Dict.error [] (failed loss)
  | .response status reason text => httperror displayname method uri status reason text.raw

@[simp] theorem has_error_refusal (reply : Reply) (displayname method uri : String)
    (failed : Loss → String) :
    (reply.refusal displayname method uri failed).has "error" = true := by
  cases reply with
  | lost loss => exact Dict.has_error [] (failed loss)
  | response status reason text => rfl

/-- The failure for a text that is not ASCII. -/
def undecodable : Failure :=
  ⟨.valueError, "'ascii' codec can't decode byte: ordinal not in range(128)"⟩

theorem decodeAscii_ascii {text : String} (ascii : isAscii text = true) :
    decodeAscii text = .ok text := if_pos ascii

theorem decodeAscii_not_ascii {text : String} (other : isAscii text = false) :
    decodeAscii text = .error undecodable := if_neg (ne_true_of_eq_false other)

section Steps

variable {dialogue : Dialogue} {wire : Wire} {raised : Failure → Wire → Prop}

@[simp] theorem ends_lock {returned : PUnit → Wire → Prop} :
    Ends lock wire returned raised ↔ returned ⟨⟩ wire.locked := Iff.rfl

/-- The lock that was taken before is given back. -/
theorem ends_finallyUnlock {Value : Type} {script : Talk Value} {returned : Value → Wire → Prop} :
    Ends (finallyUnlock script) wire returned raised ↔
      script.Ends wire (fun value final => returned value { final with locks := final.locks - 1 })
        fun failure final => raised failure { final with locks := final.locks - 1 } := by
  simp only [finallyUnlock, unlock, ends_bind, ends_attempt, ends_modify, ends_pure, ends_throw,
    if_true]

/-- How a post under the lock ends. -/
theorem ends_post {message : Message} {reply : Reply} {failed : String → String}
    {returned : Dict ⊕ Text → Wire → Prop} :
    Ends (post dialogue message reply failed) wire.locked returned raised ↔
      match reply.ok with
      | some text => returned (.inr text) (wire.told message reply)
      | none =>
        if reply.Unprintable then raised undecodable (wire.told message reply).dropped
        else returned (.inl (reply.refusal dialogue.displayname "POST" "/cli"
          fun loss => failed loss.message)) (wire.told message reply).dropped := by
  cases reply with
  | lost loss =>
    simp only [post, ends_finallyUnlock, exchange, removeAgent, ends_bind, ends_modify,
      Reply.ok]
    by_cases other : (Reply.lost loss).Unprintable
    · rw [decodeAscii_not_ascii other, if_pos other]
      rfl
    · rw [decodeAscii_ascii (eq_true_of_ne_false other), if_neg other]
      rfl
  | response status reason text =>
    simp only [post, ends_finallyUnlock, exchange, removeAgent, ends_bind, ends_modify,
      ends_ite, ends_pure, Reply.ok]
    by_cases accepted : status = 200
    · rw [if_neg (not_not_intro accepted), if_pos accepted]
      rfl
    · rw [if_pos accepted, if_neg accepted]
      rfl

/-- How the start ends. -/
theorem ends_sendCli {returned : Dict → Wire → Prop} :
    Ends (sendCli dialogue) wire returned raised ↔
      match dialogue.table.insert with
      | .error failure => raised failure wire.locked
      | .ok xid =>
        match dialogue.start.ok with
        | some text =>
          match readStart xid text with
          | .ok body => returned body (wire.told (.start xid) dialogue.start)
          | .error failure => raised failure (wire.told (.start xid) dialogue.start)
        | none =>
          if dialogue.start.Unprintable then
            raised undecodable (wire.told (.start xid) dialogue.start).dropped
          else
            returned (dialogue.start.refusal dialogue.displayname "POST" "/cli" fun loss =>
              s!"_send_cli: '{dialogue.shown}' command failed with: {loss.message}")
              (wire.told (.start xid) dialogue.start).dropped := by
  simp only [sendCli, ends_bind, ends_lock, ends_settle, cliStartRequest, requestEntry]
  cases dialogue.table.insert with
  | error failure => rfl
  | ok xid =>
    simp only [ends_post]
    cases dialogue.start.ok with
    | none => rfl
    | some text =>
      simp only [ends_settle]
      cases readStart xid text <;> rfl

/-- What comes of the text of a reply to a cleanup or to a kill. -/
def readBody (text : Text) (message : String) : Except Failure Json :=
  match loads text with
  | .error failure => .error failure
  | .ok .null => .ok (.object (Dict.error [] message))
  | .ok value => .ok value

/-- How the cleanup ends. -/
theorem ends_sendCleanup {xid : Json} {returned : Json → Wire → Prop} :
    Ends (sendCleanup dialogue xid) wire returned raised ↔
      match cleanupRequest dialogue.table xid with
      | .error failure => raised failure wire.locked
      | .ok entry =>
        match dialogue.cleanup.ok with
        | some text =>
          match readBody text "POST //cli getresponse returned null body" with
          | .ok body => returned body (wire.told (.cleanup entry) dialogue.cleanup)
          | .error failure => raised failure (wire.told (.cleanup entry) dialogue.cleanup)
        | none =>
          if dialogue.cleanup.Unprintable then
            raised undecodable (wire.told (.cleanup entry) dialogue.cleanup).dropped
          else
            returned (.object (dialogue.cleanup.refusal dialogue.displayname "POST" "/cli"
              fun loss => s!"'/cli' failed for command '{dialogue.command}' with: {loss.message}"))
              (wire.told (.cleanup entry) dialogue.cleanup).dropped := by
  simp only [sendCleanup, ends_bind, ends_lock, ends_settle]
  cases cleanupRequest dialogue.table xid with
  | error failure => rfl
  | ok entry =>
    simp only [ends_post]
    cases dialogue.cleanup.ok with
    | none => rfl
    | some text =>
      simp only [ends_bind, ends_settle, readBody]
      cases loads text with
      | error failure => rfl
      | ok value => cases value <;> rfl

/-- How a kill ends. -/
theorem ends_killCmd {xid : Json} {returned : Json → Wire → Prop} :
    Ends (killCmd dialogue xid) wire returned raised ↔
      match dialogue.kill.ok with
      | some text =>
        match readBody text "POST //cli getresponse returned null body" with
        | .ok body => returned body (wire.told (.kill xid) dialogue.kill)
        | .error failure => raised failure (wire.told (.kill xid) dialogue.kill)
      | none =>
        if dialogue.kill.Unprintable then
          raised undecodable (wire.told (.kill xid) dialogue.kill).dropped
        else
          returned (.object (dialogue.kill.refusal dialogue.displayname "POST" "/cli"
            fun loss => s!"kill_cmd: failed: {loss.message}"))
            (wire.told (.kill xid) dialogue.kill).dropped := by
  simp only [killCmd, ends_bind, ends_lock, ends_post]
  cases dialogue.kill.ok with
  | none => rfl
  | some text =>
    simp only [ends_settle, readBody]
    cases loads text with
    | error failure => rfl
    | ok value => cases value <;> rfl

/-- The text of the error for a connection that fails while the status is asked for. -/
def statusFailed (loss : Loss) : String :=
  match loss.kind with
  | .httpException => s!"GET /cli?xid= failed with HTTPException: {loss.message}"
  | .environmentError => s!"GET /cli?xid= failed with: {loss.message}"

/-- What comes of the text of a status reply. -/
def readPoll (text : Text) : Except Failure (Dict ⊕ Json) :=
  match loads text with
  | .error failure => .error failure
  | .ok .null => .ok (.inl (Dict.error [] "Get //cli?xid= getresponse returned a null body"))
  | .ok body => body.str.map fun _ => .inr body

/-- How a question for the status ends. -/
theorem ends_askStatus {xid : Json} {reply : Reply} {returned : Dict ⊕ Json → Wire → Prop} :
    Ends (askStatus dialogue xid reply) wire returned raised ↔
      match reply.ok with
      | some text =>
        match readPoll text with
        | .ok body => returned body (wire.told (.status xid) reply)
        | .error failure => raised failure (wire.told (.status xid) reply)
      | none =>
        if reply.Unprintable then raised undecodable (wire.told (.status xid) reply).dropped
        else
          returned (.inl (reply.refusal dialogue.displayname "GET" "/cli?xid=" statusFailed))
            (wire.told (.status xid) reply).dropped := by
  cases reply with
  | lost loss =>
    simp only [askStatus, ends_bind, ends_lock, ends_finallyUnlock, exchange, removeAgent,
      ends_modify, Reply.ok, Reply.refusal, statusFailed]
    by_cases other : (Reply.lost loss).Unprintable
    · rw [decodeAscii_not_ascii other, if_pos other]
      rfl
    · rw [decodeAscii_ascii (eq_true_of_ne_false other), if_neg other]
      cases loss.kind <;> rfl
  | response status reason text =>
    simp only [askStatus, ends_bind, ends_lock, ends_finallyUnlock, exchange, removeAgent,
      ends_modify, ends_ite, ends_pure, ends_settle, Reply.ok]
    by_cases accepted : status = 200
    · rw [if_neg (not_not_intro accepted), if_pos accepted]
      simp only [readPoll]
      cases loads text with
      | error failure => rfl
      | ok body =>
        cases body with
        | text value =>
          simp only [ends_bind, ends_settle]
          cases (Json.text value).str <;> rfl
        | _ => rfl
    · rw [if_pos accepted, if_neg accepted]
      rfl

end Steps

/-! ## The waiting -/

/-- The object of a reply. -/
def Reply.body (reply : Reply) : Option Dict :=
  match reply.ok.bind Text.loads with
  | some (.object body) => some body
  | _ => none

/-- The object of a reply is what its text decodes to. -/
theorem body_eq_some {reply : Reply} {body : Dict} : reply.body = some body ↔
    ∃ text, reply.ok = some text ∧ text.loads = some (.object body) := by
  simp only [Reply.body]
  cases reply.ok with
  | none => simp
  | some text =>
    cases decoded : text.loads with
    | none => simp [decoded]
    | some value => cases value <;> simp [decoded]

/-- The value of a key is a text. -/
def Dict.Says (dict : Dict) (key value : String) : Prop :=
  (dict.get key).any fun found => found.isText value

instance (dict : Dict) (key value : String) : Decidable (dict.Says key value) :=
  inferInstanceAs (Decidable (_ = true))

/-- The reply says that the command is running. -/
def Reply.Running (reply : Reply) : Prop :=
  reply.body.any fun body => body.Says "run-status" "running"

instance (reply : Reply) : Decidable reply.Running :=
  inferInstanceAs (Decidable (_ = true))

/-- How a waiting ends. -/
inductive Ending where
  | timedOut
  | disconnected
  | answered (reply : Reply)

/-- The end of the waiting. -/
def ending (timeout : Nat) : List Poll → Ending
  | [] => .timedOut
  | poll :: polls =>
    if timeout < poll.elapsed then .timedOut
    else if poll.initting = false ∧ poll.connected = false then .disconnected
    else if poll.reply.Running then ending timeout polls
    else .answered poll.reply

/-- The connection when the waiting ends, before its last exchange. -/
def waited (timeout : Nat) (xid : Json) (wire : Wire) : List Poll → Wire
  | [] => wire
  | poll :: polls =>
    if timeout < poll.elapsed then wire
    else if poll.initting = false ∧ poll.connected = false then wire
    else if poll.reply.Running then waited timeout xid (wire.told (.status xid) poll.reply) polls
    else wire

@[simp] theorem locks_waited (timeout : Nat) (xid : Json) (wire : Wire) (polls : List Poll) :
    (waited timeout xid wire polls).locks = wire.locks := by
  induction polls generalizing wire with
  | nil => rfl
  | cons poll polls inductionHypothesis =>
    simp only [waited]
    split
    · rfl
    · split
      · rfl
      · split
        · exact inductionHypothesis (wire.told (.status xid) poll.reply)
        · rfl

@[simp] theorem removed_waited (timeout : Nat) (xid : Json) (wire : Wire) (polls : List Poll) :
    (waited timeout xid wire polls).removed = wire.removed := by
  induction polls generalizing wire with
  | nil => rfl
  | cons poll polls inductionHypothesis =>
    simp only [waited]
    split
    · rfl
    · split
      · rfl
      · split
        · exact inductionHypothesis (wire.told (.status xid) poll.reply)
        · rfl

section Waiting

variable {dialogue : Dialogue} {wire : Wire} {xid : Json} {raised : Failure → Wire → Prop}

/-- How a reply without the key `run-status` ends. -/
@[simp] theorem ends_missingRunStatus {returned : Option Dict → Wire → Prop} :
    Ends missingRunStatus wire returned raised ↔
      returned (some (Dict.error [] "GET /cli?xid= command reply was missing 'run-status'!"))
        wire.dropped := Iff.rfl

/-- How one round of the waiting ends. -/
theorem ends_pollOnce {reply : Reply} {returned : Option Dict → Wire → Prop} :
    Ends (pollOnce dialogue xid reply) wire returned raised ↔
      match reply.ok with
      | some text =>
        match readPoll text with
        | .ok (.inl body) => returned (some body) (wire.told (.status xid) reply)
        | .ok (.inr value) =>
          Ends (readStatus value) (wire.told (.status xid) reply) returned raised
        | .error failure => raised failure (wire.told (.status xid) reply)
      | none =>
        if reply.Unprintable then raised undecodable (wire.told (.status xid) reply).dropped
        else
          returned (some (reply.refusal dialogue.displayname "GET" "/cli?xid=" statusFailed))
            (wire.told (.status xid) reply).dropped := by
  simp only [pollOnce, ends_bind, ends_askStatus]
  cases reply.ok with
  | none => rfl
  | some text =>
    dsimp only
    cases readPoll text with
    | error failure => rfl
    | ok body => cases body <;> rfl

/-- A reply is running if its object says so. -/
theorem running_iff (reply : Reply) : reply.Running ↔
    ∃ text body, reply.ok = some text ∧ text.loads = some (.object body) ∧
      Dict.Says body "run-status" "running" := by
  simp only [Reply.Running, Option.any_eq_true, body_eq_some, decide_eq_true_eq]
  constructor
  · rintro ⟨body, ⟨text, ok, decoded⟩, stated⟩
    exact ⟨text, body, ok, decoded, stated⟩
  · rintro ⟨text, body, ok, decoded, stated⟩
    exact ⟨body, ⟨text, ok, decoded⟩, stated⟩

/-- A reply that says the command is running leaves nothing behind but its exchange. -/
theorem ends_pollOnce_running {reply : Reply} {returned : Option Dict → Wire → Prop}
    (running : reply.Running) : Ends (pollOnce dialogue xid reply) wire returned raised ↔
      returned none (wire.told (.status xid) reply) := by
  obtain ⟨text, body, ok, decoded, stated⟩ := (running_iff reply).1 running
  rw [ends_pollOnce, ok]
  cases status : Dict.get body "run-status" with
  | none => simp [Dict.Says, status] at stated
  | some value =>
    have stated : value.isText "running" = true := by simpa [Dict.Says, status] using stated
    have notFinished : value.isText "finished" = false := by
      cases value <;> simp_all [Json.isText]
    simp [readPoll, loads, decoded, Json.str, Except.map, readStatus, readObject, status, stated,
      notFinished]

/-- Whatever the object of a reply ends with, it is a dictionary unless it is running. -/
theorem readObject_result {body : Dict} (running : ¬body.Says "run-status" "running") :
    Ends (readObject body) wire (fun result _ => result ≠ none) fun _ _ => True := by
  simp only [readObject]
  cases status : body.get "run-status" with
  | none => simp
  | some value =>
    have other : value.isText "running" = false := by simpa [Dict.Says, status] using running
    simp only [other, ends_ite, ends_map, Bool.false_eq_true, if_false]
    have result (script : Talk Dict) :
        Ends script wire (fun found _ => some found ≠ none) fun _ _ => True :=
      ends_of_forall script (fun found _ => Option.some_ne_none found) fun _ _ => trivial
    split
    · exact result (finished body)
    · exact result (unknownRunStatus body value)

/-- A round for a reply that is not running ends with a dictionary. -/
theorem pollOnce_result {reply : Reply} (running : ¬reply.Running) :
    Ends (pollOnce dialogue xid reply) wire (fun result _ => result ≠ none) fun _ _ => True := by
  rw [ends_pollOnce]
  cases ok : reply.ok with
  | none =>
    dsimp only
    split
    · trivial
    · exact Option.some_ne_none _
  | some text =>
    cases decoded : text.loads with
    | none => simp [readPoll, loads, decoded]
    | some value =>
      cases value with
      | object body =>
        have other : ¬Dict.Says body "run-status" "running" := fun stated =>
          running ((running_iff reply).2 ⟨text, body, ok, decoded, stated⟩)
        simpa [readPoll, loads, decoded, Json.str, Except.map, readStatus]
          using readObject_result other
      | text value =>
        cases ascii : isAscii value <;>
          simp [readPoll, loads, decoded, Json.str, ascii, Except.map, readStatus]
      | list items => simp [readPoll, loads, decoded, Json.str, Except.map, readStatus]
      | _ => simp [readPoll, loads, decoded, Json.str, Except.map, readStatus]

/-- What is done when the waiting ends. A reply that ends it always has a dictionary. -/
def conclude (dialogue : Dialogue) (xid : Json) : Ending → Talk Dict
  | .timedOut => timedOut dialogue xid
  | .disconnected => pure disconnected
  | .answered reply => (fun result => result.getD []) <$> pollOnce dialogue xid reply

/-- The waiting ends as its last round does. -/
theorem ends_getCliStatus {polls : List Poll} {returned : Dict → Wire → Prop} :
    Ends (getCliStatus dialogue xid polls) wire returned raised ↔
      Ends (conclude dialogue xid (ending dialogue.timeout polls))
        (waited dialogue.timeout xid wire polls) returned raised := by
  induction polls generalizing wire with
  | nil => rfl
  | cons poll polls inductionHypothesis =>
    simp only [getCliStatus, ending, waited]
    by_cases late : dialogue.timeout < poll.elapsed
    · simp only [late, if_true]
      rfl
    · by_cases gone : poll.initting = false ∧ poll.connected = false
      · simp only [late, gone, if_false]
        rfl
      · by_cases running : poll.reply.Running
        · simp only [late, gone, running, if_false, ends_bind]
          rw [ends_pollOnce_running running]
          exact inductionHypothesis
        · simp only [late, gone, running, if_false, conclude, ends_bind, ends_map]
          refine ends_congr ((pollOnce_result running).mono ?_ fun _ _ _ => Iff.rfl)
          intro result final some
          cases result with
          | none => exact absurd rfl some
          | some body => rfl

end Waiting

end Palette.Cli
