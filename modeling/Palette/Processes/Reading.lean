import Palette.Processes.Entries

/-!
# How the reading ends

A reading of a well-formed text does the work for its entries on a session whose rows are
deleted. Then it rolls back if no service told the status of the server; otherwise it
finishes the check.
-/

namespace Palette.Processes

open Palette.Cli Palette.Commands Palette.Foundation Script

variable {monitor : Monitor} {session : Session Process}

/-- The session after its rows were deleted. -/
def cleared (session : Session Process) : Session Process := { session with view := [] }

/-- The status of the server that the entries tell. -/
def toldStatus (monitor : Monitor) (entries : List Entry) : Option String :=
  (entries.foldl (Entry.after monitor) ⟨none, none⟩).tableauStatus

/-- Without a pending row a statement changes nothing. -/
theorem flushed_of_clean (clean : session.pending = none) : session.flushed = session := by
  obtain ⟨committed, view, pending, published, merges⟩ := session
  subst clean
  simp [Session.flushed, Session.contents]

section Ends

variable {raised : Fault → Session Process → Prop}

theorem ends_query {returned : PUnit → Session Process → Prop} :
    Ends query session returned raised ↔
      if session.pending.all Process.storable then returned ⟨⟩ session.flushed
      else raised outOfRange session := Session.ends_flush

theorem ends_commit {returned : PUnit → Session Process → Prop} :
    Ends commit session returned raised ↔
      if session.pending.all Process.storable then returned ⟨⟩ session.flushed.saved
      else raised outOfRange session := Session.ends_commit

@[simp] theorem ends_rollback {returned : PUnit → Session Process → Prop} :
    Ends Session.rollback session returned raised ↔ returned ⟨⟩ session.undone := Iff.rfl

/-- The lookup of the status in a session without a pending row. -/
theorem ends_getTableauStatus {returned : String → Session Process → Prop}
    (clean : session.pending = none) :
    Ends (getTableauStatus monitor) session returned raised ↔
      match tableauStatus monitor.isPrimary session.view with
      | .ok status => returned status session
      | .error fault => raised fault session := by
  simp only [getTableauStatus, ends_bind, ends_query, clean, Option.all_none, if_true,
    flushed_of_clean clean, ends_get]
  cases tableauStatus monitor.isPrimary session.view <;> rfl

/-- The deletion of the rows in a session without a pending row. -/
theorem ends_removeAllStatus {returned : PUnit → Session Process → Prop}
    (clean : session.pending = none) :
    Ends removeAllStatus session returned raised ↔ returned ⟨⟩ (cleared session) := by
  rw [removeAllStatus, Session.ends_deleteAll, clean]
  simp only [Option.all_none, if_true, flushed_of_clean clean]
  rfl

/-- The session after a check was finished without a user action in the way. -/
def finished (monitor : Monitor) (session : Session Process) : Session Process :=
  if monitor.saves then session.flushed.saved.saved else session.flushed.saved

/-- How a check is finished. -/
theorem ends_finishStatus {returned : PUnit → Session Process → Prop} :
    Ends (finishStatus monitor) session returned raised ↔
      if monitor.busy then returned ⟨⟩ session.undone
      else if session.pending.all Process.storable then returned ⟨⟩ (finished monitor session)
      else raised outOfRange session := by
  have clean : session.flushed.pending = none := rfl
  have saved : session.flushed.saved.pending = none := rfl
  simp only [finishStatus, ends_ite, ends_rollback, ends_bind, ends_query, ends_commit, clean,
    flushed_of_clean clean, Option.all_none, if_true]
  cases monitor.busy with
  | true => simp
  | false =>
    cases storable : session.pending.all Process.storable with
    | false => simp
    | true =>
      cases saves : monitor.saves <;>
        simp [finished, saves, saved, flushed_of_clean saved]

/-- How the reading of a well-formed text ends in a new session. -/
theorem ends_systeminfoParse {root : Element} {status : String}
    {returned : PUnit → Session Process → Prop} (tag : root.tag = "systeminfo")
    (clean : session.pending = none)
    (found : tableauStatus monitor.isPrimary session.view = .ok status) :
    Ends (systeminfoParse monitor (.tree root)) session returned raised ↔
      Ends (Work.performAll Process.storable outOfRange (works monitor none (entries monitor root)))
        (cleared session)
        (fun _ final =>
          if (toldStatus monitor (entries monitor root)).isSome then
            Ends (finishStatus monitor) final returned raised
          else raised (parseFailure "Tableau status not valid") final.undone)
        raised := by
  simp only [systeminfoParse, tag, ne_eq, not_true_eq_false, if_false, ends_bind,
    ends_getTableauStatus clean, found, ends_removeAllStatus clean, readChildren_eq,
    readEntries_eq, ends_pure]
  refine ends_congr (ends_of_forall _ (fun _ final => ?_) fun _ _ => Iff.rfl)
  simp only [toldStatus]
  split
  · rename_i none
    simp [none]
  · rename_i some
    simp [some]

end Ends

end Palette.Processes
