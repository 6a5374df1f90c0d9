import Palette.Cli.Starting

/-!
# The end of a command

After the waiting the command looks for an output, sends the cleanup and chooses between
the result and the reply to the cleanup. The cleanup is not sent if there is neither an
output nor an error, or if the entry of the request cannot be closed.
-/

namespace Palette.Cli

open Palette.Commands Palette.Foundation Script

/-- The entry of a request can be found and marked as finished. -/
def EntryClosable (table : XidTable) (value : Json) : Prop :=
  ∃ entry, cleanupRequest table value = .ok entry

section Finishing

variable {dialogue : Dialogue} {wire : Wire} {value : Json} {cliBody : Dict}

/-- Without an output and without an error the command raises. -/
theorem ends_finishCli_lacking {returned : Dict → Wire → Prop} {raised : Failure → Wire → Prop}
    (lacking : cliBody.has "stdout" = false ∧ cliBody.has "error" = false) :
    Ends (finishCli dialogue value cliBody) wire returned raised ↔
      raised ⟨.typeError, "%d format: a number is required, not str"⟩ wire := by
  simp only [finishCli, lacking, missingStdout, ends_bind, ends_ite, ends_settle_error, and_self,
    if_true]

/-- What the reply to the cleanup makes of the result. -/
def chosen (cliBody : Dict) (cleanupBody : Json) : Except Failure Dict :=
  if cliBody.has "error" then .ok cliBody
  else
    match cleanupBody with
    | .object fields => .ok (if Dict.has fields "error" then fields else cliBody)
    | _ => .error ⟨.attributeError, "object has no attribute 'has_key'"⟩

/-- Otherwise the cleanup follows. -/
theorem ends_finishCli {returned : Dict → Wire → Prop} {raised : Failure → Wire → Prop}
    (usable : ¬(cliBody.has "stdout" = false ∧ cliBody.has "error" = false)) :
    Ends (finishCli dialogue value cliBody) wire returned raised ↔
      Ends (sendCleanup dialogue value) wire (fun cleanupBody final =>
        match chosen cliBody cleanupBody with
        | .ok body => returned body final
        | .error failure => raised failure final) raised := by
  simp only [finishCli, usable, ends_bind, ends_ite, ends_pure, if_false]
  refine ends_congr (ends_of_forall _ (fun cleanupBody final => ?_) fun _ _ => Iff.rfl)
  simp only [chosen]
  split
  · rfl
  · cases cleanupBody with
    | object fields =>
      dsimp only
      split <;> rfl
    | _ => rfl

end Finishing

end Palette.Cli
