import Palette.Cli.Verdict

/-!
# Whatever the agent answers

A command should return a dictionary and give the connection's lock back whatever comes
from the agent. It does so for the replies that it can use; the others raise. The lock is
kept for good only where the database fails, because the entry of a request is written
under the lock and outside of the block that gives it back.
-/

namespace Palette.Cli

open Palette.Commands Palette.Foundation Script

/-- The controller can use the reply to the cleanup. A value that is neither null nor an
object is in the way only if the command has succeeded. -/
def Reply.Closing (reply : Reply) (succeeds : Prop) : Prop :=
  match reply.ok with
  | none => ¬reply.Unprintable
  | some text =>
    match text.loads with
    | none => False
    | some .null | some (.object _) => True
    | some _ => ¬succeeds

/-- Every reply can be used, as far as it is asked for, and the database gives the entry
of the request and closes it. -/
def Harmless (dialogue : Dialogue) : Prop :=
  ∃ xid, dialogue.table.insert = .ok xid ∧ dialogue.start.Startable ∧
    ∀ body ∈ dialogue.start.body, Dict.Accepts body xid → ¬Dict.Rejects body →
      ¬Dict.Says body "run-status" "finished" →
      (ending dialogue.timeout dialogue.polls).Harmless dialogue.kill ∧
      (∀ value ∈ Dict.get body "xid", EntryClosable dialogue.table value) ∧
      dialogue.cleanup.Closing (ending dialogue.timeout dialogue.polls).Succeeds

section Finishing

variable {dialogue : Dialogue} {wire : Wire} {value : Json} {cliBody : Dict}

/-- After the waiting the command returns if the entry can be closed and the reply to the
cleanup can be used. -/
theorem finishCli_total_iff (locks : Nat) (same : wire.locks = locks)
    (usable : cliBody.has "stdout" = true ∨ cliBody.has "error" = true) :
    Completes (finishCli dialogue value cliBody) wire (fun _ final => final.locks = locks) ↔
      EntryClosable dialogue.table value ∧
        dialogue.cleanup.Closing (cliBody.has "error" = false) := by
  have usable : ¬(cliBody.has "stdout" = false ∧ cliBody.has "error" = false) := by
    simpa only [not_and_or, Bool.not_eq_false] using usable
  rw [Completes, ends_finishCli usable, ends_sendCleanup]
  cases closed : cleanupRequest dialogue.table value with
  | error failure => simp [EntryClosable, closed]
  | ok entry =>
    have closable : EntryClosable dialogue.table value := ⟨entry, closed⟩
    simp only [closable, true_and, Reply.Closing]
    cases dialogue.cleanup.ok with
    | none =>
      dsimp only
      split
      · rename_i unprintable
        simp [unprintable]
      · rename_i printable
        cases failed : cliBody.has "error" <;> simp [chosen, failed, same, printable]
    | some text =>
      simp only [readBody, loads]
      cases text.loads with
      | none => simp
      | some found =>
        cases failed : cliBody.has "error" <;> cases found <;> simp [chosen, failed, same]

/-- A command that waits returns if the end of the waiting can be used, the entry can be
closed and the reply to the cleanup can be used. -/
theorem waiting_total_iff (locks : Nat) (same : wire.locks = locks) :
    Ends (getCliStatus dialogue value dialogue.polls) wire
      (fun cliBody final => Completes (finishCli dialogue value cliBody) final
        fun _ final => final.locks = locks) (fun _ _ => False) ↔
    (ending dialogue.timeout dialogue.polls).Harmless dialogue.kill ∧
      EntryClosable dialogue.table value ∧
      dialogue.cleanup.Closing (ending dialogue.timeout dialogue.polls).Succeeds := by
  refine ends_iff (ends_waiting.mono (fun cliBody final concluded => ?_) fun failure final ended => ?_)
  · rw [concluded.usable]
    by_cases usable : cliBody.has "stdout" = true ∨ cliBody.has "error" = true
    · rw [finishCli_total_iff locks (by rw [concluded.left.locks, same]) usable, concluded.success]
      simp only [usable, true_and]
    · have lacking : cliBody.has "stdout" = false ∧ cliBody.has "error" = false := by
        simpa only [not_or, Bool.not_eq_true] using usable
      rw [Completes, ends_finishCli_lacking lacking]
      simp only [usable, false_and]
  · simp only [ended.2, false_and]

end Finishing

section Lock

variable {dialogue : Dialogue} {wire : Wire} {value : Json} {cliBody : Dict}

/-- Whatever is chosen after a cleanup, the lock is as it is. -/
theorem chosen_unlocks {cleanupBody : Json} {final : Wire} {locks : Nat}
    (kept : final.locks = locks) :
    match chosen cliBody cleanupBody with
    | .ok _ => final.locks = locks
    | .error _ => final.locks = locks := by
  cases chosen cliBody cleanupBody <;> exact kept

/-- After the waiting the lock is given back unless the cleanup meets an entry that cannot
be closed. -/
theorem finishCli_unlocks_iff (locks : Nat) (same : wire.locks = locks) :
    Ends (finishCli dialogue value cliBody) wire (fun _ final => final.locks = locks)
      (fun _ final => final.locks = locks) ↔
    (cliBody.has "stdout" = true ∨ cliBody.has "error" = true →
      EntryClosable dialogue.table value) := by
  by_cases lacking : cliBody.has "stdout" = false ∧ cliBody.has "error" = false
  · rw [ends_finishCli_lacking lacking]
    simp [lacking, same]
  · have usable : cliBody.has "stdout" = true ∨ cliBody.has "error" = true := by
      simpa only [not_and_or, Bool.not_eq_false] using lacking
    rw [ends_finishCli lacking, ends_sendCleanup]
    simp only [usable, true_implies]
    cases closed : cleanupRequest dialogue.table value with
    | error failure => simp [EntryClosable, closed, same]
    | ok entry =>
      refine iff_of_true ?_ ⟨entry, closed⟩
      cases dialogue.cleanup.ok with
      | none =>
        dsimp only
        split
        · exact same
        · exact chosen_unlocks same
      | some text =>
        dsimp only
        split
        · exact chosen_unlocks same
        · exact same

end Lock

/-- A command gives the lock back, also when it raises, if and only if the database gives
the entry of the request and, where it comes to a cleanup, closes it. -/
theorem cliCmd_unlocks_iff (dialogue : Dialogue) (wire : Wire) :
    Ends (cliCmd dialogue) wire (fun _ final => final.locks = wire.locks)
      (fun _ final => final.locks = wire.locks) ↔
    ∃ xid, dialogue.table.insert = .ok xid ∧
      ∀ body ∈ dialogue.start.body, Dict.Accepts body xid → ¬Dict.Rejects body →
        ¬Dict.Says body "run-status" "finished" →
        (ending dialogue.timeout dialogue.polls).Harmless dialogue.kill →
        ∀ value ∈ Dict.get body "xid", EntryClosable dialogue.table value := by
  cases inserted : dialogue.table.insert with
  | error failure => simp [cliCmd, ends_sendCli, inserted]
  | ok xid =>
    simp only [Except.ok.injEq, exists_eq_left']
    by_cases going : ∃ body ∈ dialogue.start.body, Dict.Accepts body xid ∧ ¬Dict.Rejects body
    · obtain ⟨body, found, accepts, open_⟩ := going
      have single {condition : Dict → Prop} :
          (∀ other ∈ dialogue.start.body, condition other) ↔ condition body := by
        rw [Option.mem_def.1 found]
        simp
      simp only [single, accepts, open_, true_implies, not_false_eq_true]
      by_cases finished : Dict.Says body "run-status" "finished"
      · rw [ends_cliCmd_finished inserted found accepts open_ finished]
        simp [finished]
      · obtain ⟨value, identifier, number, ends⟩ :=
          ends_cliCmd_running inserted found accepts open_ finished
        rw [ends]
        simp only [finished, identifier, not_false_eq_true, true_implies, Option.mem_def,
          Option.some.injEq, forall_eq']
        refine ends_iff (ends_waiting.mono (fun cliBody final concluded => ?_)
          fun failure final ended => ?_)
        · rw [finishCli_unlocks_iff wire.locks concluded.left.locks, concluded.usable]
        · exact iff_of_true ended.1.locks fun harmless => absurd harmless ended.2
    · refine iff_of_true ((ends_cliCmd_other inserted fun body found accepts => ?_).mono
        (fun _ _ kept => kept.2.1) fun _ _ kept => kept.1) fun body found accepts open_ => ?_
      · by_contra open_
        exact going ⟨body, found, accepts, open_⟩
      · exact absurd ⟨body, found, accepts, open_⟩ going

/-! ## A silent success -/

/-- The status reply for a command that succeeded without an output. -/
def silentBody : Dict := [("run-status", .text "finished"), ("exit-status", .number 0)]

/-- A command that succeeds and says nothing. -/
def silentSuccess : Dialogue where
  command := "tabadmin cleanup"
  displayname := "Tableau Primary"
  timeout := 3600
  table := plainTable
  start := okReply [("xid", .number 1), ("run-status", .text "running")]
  polls := [⟨10, false, true, okReply silentBody⟩]
  kill := okReply []
  cleanup := okReply []

end Palette.Cli
