import Palette.Alerts.DiskArchives

/-!
# What a rejected report of volumes leaves

The flags of the agent's volumes are cleared before the report is looked at, and a report that is
rejected leaves that pending in the session. Both callers commit the session after it:
`get_pinfo` if the address of the agent is a new one, and the handler of a connection when it
records that the agent is disconnected.
-/

namespace Palette.Alerts

open Palette.Commands (Failure)
open Palette.Foundation Script

/-! ## Rejections -/

/-- How a session goes on: its transaction is committed or given up. -/
inductive Closing where
  | commit
  | rollback
  deriving DecidableEq, Repr

namespace Disks

/-- What is left of a transaction. -/
def closing (disks : Disks) : Closing → Disks
  | .commit => disks.commit
  | .rollback => disks.rollback

/-- Whatever the session does next, the rows that other transactions see are these. -/
def Keeps (rows : Volumes) (disks : Disks) : Prop :=
  ∀ later : List Closing, (later.foldl closing disks).stored = rows

end Disks

namespace DiskReport

variable (report : DiskReport)

/-- If a report returns `False`, the rows that other transactions see stay the same. -/
def RejectedUnchanged (disks : Disks) : Prop :=
  report.updateAgentPinfoVols.Upholds disks.rollback fun returned final =>
    returned.down = false → final.Keeps disks.stored

/-- A report of a known type is rejected for its directories. -/
def BadDirectories : Prop := report.hasType = true ∧ report.paletteDataDir = none

/-- An agent has no active volumes. -/
def Idle (volumes : Volumes) : Prop :=
  ∀ volume ∈ volumes.entries, volume.agentid = report.agentid → volume.active = false

end DiskReport

section Rejections

variable {report : DiskReport} {disks : Disks}

/-- The rows stay the same in every session that has nothing else pending. -/
theorem keeps_iff {rows : Volumes} : disks.Keeps rows ↔ disks.stored = rows ∧ disks.seen = rows := by
  constructor
  · intro keeps
    exact ⟨keeps [], keeps [.commit]⟩
  · rintro ⟨stored, seen⟩ later
    induction later generalizing disks with
    | nil => exact stored
    | cons first rest inductionHypothesis =>
      cases first with
      | commit => exact inductionHypothesis seen seen
      | rollback => exact inductionHypothesis stored stored

/-- Clearing the flags changes nothing where none is set. -/
theorem deactivate_eq_self {volumes : Volumes} :
    volumes.deactivate report.agentid = volumes ↔ report.Idle volumes := by
  constructor
  · intro same volume member own
    have cleared : { volume with active := false } ∈ volumes.entries := by
      have mapped := List.mem_map_of_mem (f := fun volume : Volume =>
        if volume.agentid = report.agentid then { volume with active := false } else volume) member
      rw [if_pos own] at mapped
      exact (congrArg Dictionary.entries same) ▸ mapped
    rw [volumes.entry_unique member cleared rfl]
  · intro idle
    have entries : (volumes.deactivate report.agentid).entries = volumes.entries := by
      refine (List.map_congr_left fun volume member => ?_).trans (List.map_id _)
      split
      · next own =>
        have inactive := idle volume member own
        cases volume
        cases inactive
        rfl
      · rfl
    cases volumes
    unfold Volumes.deactivate at entries ⊢
    congr

/-- A report that is rejected for its directories has cleared the flags. -/
theorem badDirectories_run (bad : report.BadDirectories) :
    report.updateAgentPinfoVols.run.run disks.rollback =
      (.ok ⟨false⟩, { disks.rollback with seen := disks.stored.deactivate report.agentid }) := by
  unfold DiskReport.updateAgentPinfoVols
  rw [bad.1, bad.2]
  rfl

/-- A report that returns `False` has changed nothing, or was rejected for its directories. -/
theorem rejected_upholds : report.updateAgentPinfoVols.Upholds disks.rollback
    fun returned final => returned.down = false → final = disks.rollback ∨ report.BadDirectories := by
  unfold DiskReport.updateAgentPinfoVols
  rw [upholds_ite]
  split
  · next typed =>
    rw [upholds_bind, upholds_modify]
    cases directory : report.paletteDataDir with
    | none => exact fun _ => .inr ⟨typed, directory⟩
    | some dataDir =>
      dsimp only
      rw [upholds_bind]
      refine upholds_settle.mpr fun scan _ => ?_
      rw [upholds_bind, upholds_modify, upholds_bind]
      exact upholds_of_forall _ fun _ _ => nofun
  · rw [upholds_ite]
    split
    · exact trivial
    · exact fun _ => .inl rfl

/-- A rejected report changes nothing exactly if it is not its directories that it is rejected
for, or none of the agent's volumes was active. -/
theorem rejected_unchanged_iff (report : DiskReport) (disks : Disks) :
    report.RejectedUnchanged disks ↔ (report.BadDirectories → report.Idle disks.stored) := by
  constructor
  · intro unchanged bad
    have kept := upholds_iff.mp unchanged ⟨false⟩ _ (badDirectories_run bad) rfl
    exact deactivate_eq_self.mp (keeps_iff.mp kept).2
  · intro idle
    refine upholds_iff.mpr fun returned final outcome rejected => keeps_iff.mpr ?_
    rcases upholds_iff.mp rejected_upholds returned final outcome rejected with rfl | bad
    · exact ⟨rfl, rfl⟩
    · cases (badDirectories_run bad).symm.trans outcome
      exact ⟨rfl, deactivate_eq_self.mpr (idle bad)⟩

end Rejections

/-! ## The callers -/

/-- A call of `get_pinfo` that updates the agent: the report, the address in it, unless it is
missing, and the address that the agent is known by. -/
structure PinfoCall extends DiskReport where
  reported : Option (Option String)
  ipAddress : Option String

namespace PinfoCall

variable (call : PinfoCall)

/-- The address of the agent is a new one. -/
def Moved : Prop := ∃ address, call.reported = some address ∧ address ≠ call.ipAddress

instance : Decidable call.Moved :=
  decidable_of_iff (call.reported.any fun address => address ≠ call.ipAddress)
    (by simp [Moved, Option.any_eq_true])

/-- `update_agent_pinfo_other`. -/
def updateAgentPinfoOther : DiskWork PUnit :=
  if call.Moved then modify Disks.commit else pure ⟨⟩

/-- `get_pinfo`, for an agent that is updated. -/
def getPinfo : DiskWork PUnit := do
  if call.hasType then
    let _ ← call.updateAgentPinfoVols
    call.updateAgentPinfoOther
  else throw ⟨.ioError, "get_pinfo: Could not update agent: unknown displayname."⟩

end PinfoCall

/-- The volumes of an agent that connects. A rejection ends the connection, and the handler
commits the time of that. -/
def DiskReport.setupVols (report : DiskReport) : DiskWork PUnit := do
  let accepted ← report.updateAgentPinfoVols
  if accepted.down then pure ⟨⟩ else modify Disks.commit

section Callers

variable {disks : Disks}

/-- After a report that was rejected for its directories, an agent at a new address has lost the
flags of its volumes. -/
theorem getPinfo_rejected {call : PinfoCall} (bad : call.BadDirectories) :
    call.getPinfo.Completes disks.rollback fun _ final => final.stored =
      if call.Moved then disks.stored.deactivate call.agentid else disks.stored := by
  unfold PinfoCall.getPinfo PinfoCall.updateAgentPinfoOther Completes
  rw [if_pos bad.1, ends_bind]
  unfold Ends
  rw [badDirectories_run bad]
  by_cases moved : call.Moved
  · simp only [if_pos moved]
    rfl
  · simp only [if_neg moved]
    rfl

/-- An agent that is disconnected for such a report has lost the flags of its volumes. -/
theorem setupVols_rejected {report : DiskReport} (bad : report.BadDirectories) :
    report.setupVols.Completes disks.rollback fun _ final =>
      final.stored = disks.stored.deactivate report.agentid := by
  unfold DiskReport.setupVols Completes
  rw [ends_bind]
  unfold Ends
  rw [badDirectories_run bad]
  rfl

end Callers

/-! ## A report without a data directory -/

/-- A primary on Windows reports no data directory. -/
def undirected : DiskReport :=
  { twoDisks with
    iswin := true
    primary := true
    dataDir := "C:/palette".toList }

/-- The active volume of the agent. -/
def fixedVolume : Volume :=
  ⟨1, some "C:".toList, some "/palette/Data".toList, some "Fixed".toList, none, none, some 100,
    some 50, none, true, some 100, true⟩

/-- The rejected report clears the flag of the volume. -/
theorem undirected_cleared :
    ¬ ∀ (report : DiskReport) (disks : Disks), report.RejectedUnchanged disks := by
  intro always
  have returned : (undirected.updateAgentPinfoVols.run.run
      (Disks.empty.put fixedVolume).commit.rollback).1 = .ok ⟨false⟩ := by
    decide +kernel
  have kept := upholds_iff.mp (always undirected (Disks.empty.put fixedVolume).commit) ⟨false⟩ _
    (Prod.ext returned rfl) rfl [.commit]
  have active := congrArg (fun rows : Volumes => rows.entries.map Volume.active) kept
  revert active
  decide +kernel

end Palette.Alerts
