import Palette.Cli.Finishing

/-!
# The verdict on a command

A command should be reported as done only if the agent said that it finished with the
exit status zero, and every start that the agent accepted should be cleaned up once. The
polling keeps to both. A start reply that already says the command is finished is
returned as it is, without a look at its exit status and without a cleanup, and some
replies raise before the cleanup.
-/

namespace Palette.Cli

open Palette.Commands Palette.Foundation Script

/-- The agent reported the request as finished with the exit status zero. -/
def Wire.Reported (wire : Wire) (xid : ℕ+) : Prop :=
  ∃ exchange ∈ wire.exchanges, exchange.message.About xid ∧ exchange.reply.ReportsSuccess

/-- What is returned has an error, unless the agent reported success. -/
def Honest (xid : ℕ+) (body : Dict) (final : Wire) : Prop :=
  body.has "error" = false → final.Reported xid

/-- The waiting, which only follows a running start, finds that the agent is gone. -/
def Gone (dialogue : Dialogue) (body : Dict) : Prop :=
  body.Says "run-status" "running" ∧
    ending dialogue.timeout dialogue.polls = .disconnected

/-- Every start that was accepted is cleaned up once, unless it was rejected or the agent
was removed, by the command or before it asked again. -/
def Cleaned (dialogue : Dialogue) (xid : ℕ+) (final : Wire) : Prop :=
  ∀ body ∈ dialogue.start.body, Dict.Accepts body xid → Dict.Rejects body ∨
    Gone dialogue body ∨ final.removed = true ∨ final.cleanups xid = 1

/-- A start that is neither finished already nor followed by an end of the waiting that
raises while the agent stays. -/
def Tidy (dialogue : Dialogue) (xid : ℕ+) : Prop :=
  ∀ body ∈ dialogue.start.body, Dict.Accepts body xid → ¬Dict.Rejects body →
    ¬Dict.Says body "run-status" "finished" ∧
    (Gone dialogue body ∨ (ending dialogue.timeout dialogue.polls).Drops dialogue.kill ∨
      (ending dialogue.timeout dialogue.polls).Harmless dialogue.kill ∧
        ∀ value ∈ Dict.get body "xid", EntryClosable dialogue.table value)

section Finishing

variable {dialogue : Dialogue} {wire : Wire} {value : Json} {cliBody : Dict}

/-- What is returned is the result or has an error. -/
theorem chosen_honest {xid : ℕ+} {cleanupBody : Json} {body : Dict} {final : Wire}
    (honest : Honest xid cliBody final) (found : chosen cliBody cleanupBody = .ok body) :
    Honest xid body final := by
  simp only [chosen] at found
  split at found
  · rwa [← Except.ok.inj found]
  · cases cleanupBody with
    | object fields =>
      rw [← Except.ok.inj found]
      split
      · rename_i failed
        exact fun fine => absurd failed (ne_true_of_eq_false fine)
      · exact honest
    | _ => simp at found

/-- The entry of a cleanup is the one of the request. -/
theorem cleanupRequest_entry {table : XidTable} {xid entry : ℕ+}
    (number : value.numeric = some ((xid : Nat) : Rat))
    (closed : cleanupRequest table value = .ok entry) : entry = xid := by
  obtain ⟨found, looked, closed⟩ := bind_eq_ok.1 closed
  obtain ⟨_, _, same⟩ := bind_eq_ok.1 closed
  have positive : ((xid : Nat) : Rat) ≠ 0 := by simp
  have truthy : value.truthy = true := by
    cases value with
    | bool flag =>
      cases flag with
      | true => rfl
      | false => exact absurd (Option.some.inj number).symm positive
    | number found => simp_all [Json.numeric, Json.truthy]
    | _ => simp [Json.numeric] at number
  simp only [requestEntry, truthy, if_true] at looked
  have numbers := number.symm.trans (table.found value found looked)
  have entries : xid = found := PNat.eq (by simpa using numbers)
  rw [← Except.ok.inj same, entries]

/-- What is chosen after a cleanup that went out is sound. -/
theorem chosen_sound {entry : ℕ+} {gone : Prop} {cleanupBody : Json} {final : Wire}
    (counted : gone ∨ final.removed = true ∨ final.cleanups entry = 1)
    (honest : Honest entry cliBody final) :
    match chosen cliBody cleanupBody with
    | .ok body =>
      Honest entry body final ∧ (gone ∨ final.removed = true ∨ final.cleanups entry = 1)
    | .error _ => gone ∨ final.removed = true ∨ final.cleanups entry = 1 := by
  cases found : chosen cliBody cleanupBody with
  | ok body => exact ⟨chosen_honest honest found, counted⟩
  | error failure => exact counted

/-- After the waiting, a verdict is sound if the agent is gone or the cleanup goes out. -/
theorem finishCli_sound_iff {xid : ℕ+} {gone : Prop} (uncleaned : wire.cleanups xid = 0)
    (number : value.numeric = some ((xid : Nat) : Rat))
    (honest : Honest xid cliBody wire) :
    Ends (finishCli dialogue value cliBody) wire
      (fun body final => Honest xid body final ∧
        (gone ∨ final.removed = true ∨ final.cleanups xid = 1))
      (fun _ final => gone ∨ final.removed = true ∨ final.cleanups xid = 1) ↔
    gone ∨ wire.removed = true ∨ (cliBody.has "stdout" = true ∨ cliBody.has "error" = true) ∧
      EntryClosable dialogue.table value := by
  by_cases lacking : cliBody.has "stdout" = false ∧ cliBody.has "error" = false
  · rw [ends_finishCli_lacking lacking]
    simp [lacking, uncleaned]
  · have usable : cliBody.has "stdout" = true ∨ cliBody.has "error" = true := by
      simpa only [not_and_or, Bool.not_eq_false] using lacking
    rw [ends_finishCli lacking, ends_sendCleanup]
    simp only [usable, true_and]
    cases closed : cleanupRequest dialogue.table value with
    | error failure =>
      have open_ : ¬EntryClosable dialogue.table value := by simp [EntryClosable, closed]
      simp [open_, uncleaned]
    | ok entry =>
      obtain rfl := cleanupRequest_entry number closed
      have closable : EntryClosable dialogue.table value := ⟨entry, closed⟩
      simp only [closable, or_true, iff_true]
      have reported (message : Message) (found : wire.Reported entry) :
          (wire.told message dialogue.cleanup).Reported entry := by
        obtain ⟨exchange, member, about⟩ := found
        exact ⟨exchange, List.mem_cons_of_mem _ member, about⟩
      have sent : (wire.told (.cleanup entry) dialogue.cleanup).cleanups entry = 1 := by
        simp [uncleaned, Message.isCleanup]
      cases dialogue.cleanup.ok with
      | none =>
        dsimp only
        split
        · exact .inr (.inl rfl)
        · exact chosen_sound (.inr (.inr sent)) fun fine => reported _ (honest fine)
      | some text =>
        dsimp only
        split
        · exact chosen_sound (.inr (.inr sent)) fun fine => reported _ (honest fine)
        · exact .inr (.inr sent)

/-- A verdict after a waiting is sound if the agent is gone, or if the end of the waiting
can be used and the cleanup goes out. -/
theorem waiting_sound_iff {xid : ℕ+} {gone : Prop} (uncleaned : wire.cleanups xid = 0)
    (kept : wire.removed = false) (number : value.numeric = some ((xid : Nat) : Rat)) :
    Ends (getCliStatus dialogue value dialogue.polls) wire
      (fun cliBody final => Ends (finishCli dialogue value cliBody) final
        (fun body final => Honest xid body final ∧
          (gone ∨ final.removed = true ∨ final.cleanups xid = 1))
        (fun _ final => gone ∨ final.removed = true ∨ final.cleanups xid = 1))
      (fun _ final => gone ∨ final.removed = true ∨ final.cleanups xid = 1) ↔
    gone ∨ (ending dialogue.timeout dialogue.polls).Drops dialogue.kill ∨
      (ending dialogue.timeout dialogue.polls).Harmless dialogue.kill ∧
        EntryClosable dialogue.table value := by
  refine ends_iff (ends_waiting.mono (fun cliBody final concluded => ?_) fun failure final ended => ?_)
  · have honest : Honest xid cliBody final := fun fine => by
      obtain ⟨exchange, member, message, success⟩ := concluded.reported fine
      exact ⟨exchange, member, by rw [message]; exact number, success⟩
    rw [finishCli_sound_iff (by rw [concluded.left.cleanups, uncleaned]) number honest,
      concluded.left.removed, ← concluded.usable]
    simp [kept]
  · obtain ⟨left, harmful⟩ := ended
    simp [left.removed, left.cleanups, uncleaned, kept, harmful]

end Finishing

/-- A table that gives out the identifier one. -/
def plainTable : XidTable where
  insert := .ok 1
  find value :=
    if value.numeric = some 1 then .ok 1 else .error ⟨.otherException, "No row was found for one()"⟩
  finish _ := .ok ()
  found value xid found := by
    split at found
    · rename_i one
      rw [← Except.ok.inj found, one]
      rfl
    · simp at found

/-- An object as a reply with the status OK. -/
def okReply (body : Dict) : Reply := .response 200 "OK" ⟨"", some (.object body)⟩

/-- The start reply for a command that has already failed. -/
def hastyBody : Dict :=
  [("xid", .number 1), ("run-status", .text "finished"), ("exit-status", .number 1)]

/-- A cleanup that fails before the controller asks for its status. -/
def hastyStart : Dialogue where
  command := "tabadmin cleanup"
  displayname := "Tableau Primary"
  timeout := 3600
  table := plainTable
  start := okReply hastyBody
  polls := []
  kill := okReply []
  cleanup := okReply []

end Palette.Cli
