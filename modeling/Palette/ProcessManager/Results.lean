import Palette.Cli.Verdict
import Palette.ProcessManager.Replies

/-!
# The result of a command

The controller returns for a command what the agent replied about it. If what it returns has no
error, the command was over and `prun` had made its end known: the exit status, the output and the
errors that are returned are the ones of this command and of no other, whatever else was going on
at the agent. Unless the reply to the start already said that the command was over, the exit status
is zero.
-/

namespace Palette.ProcessManager

open Palette.Cli Palette.Foundation Script

/-! ## What the agent sends -/

/-- `getinfo` as a dictionary. -/
def Info.body (info : Info) : Dict :=
  ("xid", .number ((info.xid : Nat) : Rat)) ::
    ((info.pid.map fun pid : Int => ("pid", Json.number pid)).toList ++
      match info.outcome with
      | none => [("run-status", .text "running")]
      | some outcome =>
        [("run-status", .text "finished"), ("exit-status", .number outcome.exitStatus),
          ("stdout", .text (String.ofList outcome.stdout)),
          ("stderr", .text (String.ofList outcome.stderr))])

/-- What the agent sends for a request. -/
def replyBody (request : Request) : Option Info → Dict
  | none => [("xid", .number ((request.xid : Nat) : Rat))]
  | some info => info.body

/-- A reply is the agent's if it is one that the agent has sent for the request. Any other one is
refused, or the connection has failed. -/
def Answered (agent : Agent) (request : Request) (reply : Reply) : Prop :=
  ∀ text, reply.ok = some text → ∃ info, (request, info) ∈ agent.answers ∧
    text.loads = some (.object (replyBody request info))

/-- A command of the controller whose messages went to an agent. -/
structure Heard (agent : Agent) (dialogue : Dialogue) (xid : ℕ+) (cli : Telnet.Text)
    (immediate : Bool) : Prop where
  inserted : dialogue.table.insert = .ok xid
  start : Answered agent (.start xid cli immediate) dialogue.start
  polls : ∀ poll ∈ dialogue.polls, Answered agent (.status xid) poll.reply
  cleanup : Answered agent (.cleanup xid) dialogue.cleanup

/-- A dictionary shows an outcome. -/
structure Shows (body : Dict) (outcome : Outcome) : Prop where
  exitStatus : body.get "exit-status" = some (.number outcome.exitStatus)
  stdout : body.get "stdout" = some (.text (String.ofList outcome.stdout))
  stderr : body.get "stderr" = some (.text (String.ofList outcome.stderr))

/-- What is sent about a command that is over shows its outcome. -/
theorem shows_body (xid : ℕ+) (pid : Option Int) (outcome : Outcome) :
    Shows (Info.body ⟨xid, pid, some outcome⟩) outcome := by
  cases pid with
  | none => exact ⟨rfl, rfl, rfl⟩
  | some number => exact ⟨rfl, rfl, rfl⟩

/-- Only a command that is over is reported as finished. -/
theorem finished_body {info : Info} (finished : info.body.Says "run-status" "finished") :
    ∃ outcome ∈ info.outcome, Shows info.body outcome := by
  obtain ⟨xid, pid, outcome⟩ := info
  cases outcome with
  | none => cases pid <;> cases finished
  | some outcome => exact ⟨outcome, rfl, shows_body xid pid outcome⟩

/-- The reply to a cleanup is not about a command that is over. -/
theorem finished_replyBody {request : Request} {info : Option Info}
    (finished : (replyBody request info).Says "run-status" "finished") :
    ∃ known, info = some known ∧ ∃ outcome ∈ known.outcome, Shows (replyBody request info) outcome := by
  cases info with
  | none => cases finished
  | some known => exact ⟨known, rfl, finished_body finished⟩

/-! ## What the controller makes of it -/

section Waiting

variable {dialogue : Dialogue} {wire : Wire} {value : Json}

/-- The reply with which the waiting ends came for one of the questions. -/
theorem mem_of_ending {timeout : Nat} {polls : List Poll} {reply : Reply}
    (last : ending timeout polls = .answered reply) : ∃ poll ∈ polls, poll.reply = reply := by
  induction polls with
  | nil => cases last
  | cons poll polls inductionHypothesis =>
    simp only [ending] at last
    split at last
    · cases last
    · split at last
      · cases last
      · split at last
        · obtain ⟨found, member, same⟩ := inductionHypothesis last
          exact ⟨found, List.mem_cons_of_mem poll member, same⟩
        · exact ⟨poll, List.mem_cons_self, Ending.answered.inj last⟩

/-- A reply that reports success is what comes out of the waiting. -/
theorem ends_conclude_succeeded {reply : Reply} {body : Dict} (found : reply.body = some body)
    (succeeded : body.Succeeded) {returned : Dict → Wire → Prop}
    {raised : Commands.Failure → Wire → Prop} :
    Ends (conclude dialogue value (.answered reply)) wire returned raised ↔
      returned body (wire.told (.status value) reply) := by
  obtain ⟨text, ok, decoded⟩ := body_eq_some.1 found
  obtain ⟨finishes, exits⟩ := succeeded
  cases status : body.get "run-status" with
  | none => simp [Dict.Says, status] at finishes
  | some stated =>
    have finishes : stated.isText "finished" = true := by simpa [Dict.Says, status] using finishes
    cases exited : body.get "exit-status" with
    | none => simp [exited] at exits
    | some exit =>
      have zero : exit.numeric = some 0 := by simpa [exited] using exits
      simp only [conclude, ends_map, ends_pollOnce, ok, readPoll, loads, decoded, Json.str,
        Except.map, readStatus, readObject, status, finishes, if_true, finished, exited, zero,
        ne_eq, not_true_eq_false, if_false, ends_pure, Option.getD_some]

/-- What comes out of the waiting without an error is a status reply that reports success. -/
theorem ends_waiting_success {polls : List Poll} :
    Ends (getCliStatus dialogue value polls) wire
      (fun body _ => body.has "error" = false → ∃ poll ∈ polls, poll.reply.body = some body ∧
        body.Succeeded) fun _ _ => True := by
  by_cases succeeds : (ending dialogue.timeout polls).Succeeds
  · rw [ends_getCliStatus]
    cases last : ending dialogue.timeout polls with
    | timedOut | disconnected =>
      rw [last] at succeeds
      exact succeeds.elim
    | answered reply =>
      rw [last] at succeeds
      obtain ⟨body, found, succeeded, -⟩ := succeeds
      rw [ends_conclude_succeeded found succeeded]
      intro _
      obtain ⟨poll, member, rfl⟩ := mem_of_ending last
      exact ⟨poll, member, found, succeeded⟩
  · refine ends_waiting.mono (fun body final concluded fine => ?_) fun _ _ _ => trivial
    exact absurd (concluded.success.mp fine) succeeds

/-- What is chosen without an error is what came out of the waiting. -/
theorem chosen_success {cliBody body : Dict} {cleanupBody : Json}
    (found : chosen cliBody cleanupBody = .ok body) (fine : body.has "error" = false) :
    body = cliBody := by
  unfold chosen at found
  split at found
  · exact (Except.ok.inj found).symm
  · cases cleanupBody with
    | object fields =>
      have same := Except.ok.inj found
      split at same
      · rename_i failed
        rw [← same, failed] at fine
        cases fine
      · exact same.symm
    | _ => cases found

/-- What a command returns without an error after the waiting is what came out of the waiting. -/
theorem ends_finishCli_success {cliBody : Dict} :
    Ends (finishCli dialogue value cliBody) wire
      (fun body _ => body.has "error" = false → body = cliBody) fun _ _ => True := by
  by_cases lacking : cliBody.has "stdout" = false ∧ cliBody.has "error" = false
  · rw [ends_finishCli_lacking lacking]
    trivial
  · rw [ends_finishCli lacking]
    refine ends_of_forall _ (fun cleanupBody final => ?_) fun _ _ => trivial
    cases found : chosen cliBody cleanupBody with
    | ok body => exact chosen_success found
    | error failure => trivial

end Waiting

/-! ## End to end -/

section Commands

variable {agent : Agent} {dialogue : Dialogue} {xid : ℕ+} {cli : Telnet.Text} {immediate : Bool}

/-- A body that a reply of the agent has, and that says that the command is over, shows what `prun`
has made known of the command. -/
theorem Answered.shows (reachable : machine.Reachable agent) {request : Request} {reply : Reply}
    (answered : Answered agent request reply) {body : Dict} (found : reply.body = some body)
    (finished : body.Says "run-status" "finished") :
    ∃ outcome, agent.Tells request.xid outcome ∧ Shows body outcome := by
  obtain ⟨text, ok, decoded⟩ := body_eq_some.1 found
  obtain ⟨info, replied, sent⟩ := answered text ok
  obtain rfl : body = replyBody request info := by
    have same := Option.some.inj (decoded.symm.trans sent)
    exact Json.object.inj same
  obtain ⟨known, rfl, outcome, ended, shows⟩ := finished_replyBody finished
  exact ⟨outcome, (replies_truthful reachable replied).2 outcome ended, shows⟩

end Commands

/-! ## A command that prints a line -/

/-- What the agent has sent is its reply. -/
theorem answered_okReply {agent : Agent} {request : Request} {info : Option Info}
    (sent : (request, info) ∈ agent.answers) :
    Answered agent request (okReply (replyBody request info)) := by
  intro text ok
  have same : (⟨"", some (.object (replyBody request info))⟩ : Text) = text := Option.some.inj ok
  rw [← same]
  exact ⟨info, sent, rfl⟩

attribute [local instance] oneNotZero

/-- The controller asks once for the status of the command. -/
def askedOnce : Dialogue where
  command := "df"
  displayname := "Tableau Primary"
  timeout := 7200
  table := plainTable
  start := okReply (replyBody (.start 1 ['d', 'f'] false) (some ⟨1, some 17, none⟩))
  polls := [⟨1, false, true, okReply (replyBody (.status 1) (some ⟨1, some 17, some printed⟩))⟩]
  kill := okReply []
  cleanup := okReply (replyBody (.cleanup 1) none)

/-- The replies to the controller are the ones of the agent. -/
theorem askedOnce_heard {agent : Agent} (answers : agent.answers =
    [(.cleanup 1, none), (.status 1, some ⟨1, some 17, some printed⟩),
      (.start 1 ['d', 'f'] false, some ⟨1, some 17, none⟩)]) :
    Heard agent askedOnce 1 ['d', 'f'] false where
  inserted := rfl
  start := answered_okReply (by simp [answers])
  polls poll member := by
    rw [List.mem_singleton.mp member]
    exact answered_okReply (by simp [answers])
  cleanup := answered_okReply (by simp [answers])

end Palette.ProcessManager
