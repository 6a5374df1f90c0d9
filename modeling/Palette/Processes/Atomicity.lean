import Palette.Processes.Fidelity

/-!
# All of a report or none of it

A reading should leave the table with the rows that the text describes, or raise the
exception that the check handles and leave the rows that were there for everybody else,
whatever is committed afterwards. The rows are deleted first, and only one of the exits
with an exception rolls back; after the others the next commit publishes the rows that
were merged so far.
-/

namespace Palette.Processes

open Palette.Cli Palette.Commands Palette.Foundation Script

/-- The rows are committed now and after another commit. -/
def Stays (rows : List Process) (session : Session Process) : Prop :=
  session.committed = rows ∧
    Ends commit session (fun _ later => later.committed = rows) fun _ later => later.committed = rows

/-- The reading of a text leaves its rows in the table, or raises what the check handles
and leaves the rows of before. -/
def Atomic (monitor : Monitor) (text : Parsed) (session : Session Process) : Prop :=
  Ends (systeminfoParse monitor text) session
    (fun _ final => final.committed.map some = described monitor text)
    fun fault final => fault.IsSysteminfo ∧ Stays session.committed final

/-- A fault is met before anything differs from what the table holds, or the next commit
is refused. -/
def Unnoticed (monitor : Monitor) (committed : List Process) (root : Element) : Prop :=
  Work.merged (works monitor none (entries monitor root)) = committed ∨
    (Work.unwritten none (works monitor none (entries monitor root))).all Process.storable = false

/-- The whole text is read, and the check is rolled back for lack of a status, or its rows
are those of the text. -/
def Whole (monitor : Monitor) (committed : List Process) (root : Element) : Prop :=
  toldStatus monitor (entries monitor root) = none ∨
    if monitor.busy then committed.map some = described monitor (.tree root)
    else
      (Work.unwritten none (works monitor none (entries monitor root))).all Process.storable = true ∧
        TellPorts monitor none (entries monitor root)

/-- The texts that are read as a whole or not at all. -/
def AtomicWhen (monitor : Monitor) (committed : List Process) : Parsed → Prop
  | .raises _ => False
  | .parseError _ => True
  | .tree root =>
    root.tag = "systeminfo" →
      (∃ status, tableauStatus monitor.isPrimary committed = .ok status) ∧
      Work.Storable Process.storable none (works monitor none (entries monitor root)) ∧
      match Work.failure (works monitor none (entries monitor root)) with
      | some fault => fault.IsSysteminfo ∧ Unnoticed monitor committed root
      | none => Whole monitor committed root

/-- A session without rows of its own stays as it is. -/
theorem stays_begin (committed : List Process) (published : List (List Process)) :
    Stays committed (.begin committed published) :=
  ⟨rfl, by simp [ends_commit, Session.begin, Session.flushed, Session.saved, Session.contents]⟩

/-- The same after a rollback. -/
theorem stays_undone {session : Session Process} {rows : List Process}
    (same : session.committed = rows) : Stays rows session.undone :=
  ⟨same, by simpa [ends_commit, Session.undone, Session.flushed, Session.saved, Session.contents]⟩

/-- Rows stay if the session has no others, or cannot commit them. -/
theorem stays_iff {session : Session Process} {rows : List Process}
    (same : session.committed = rows) : Stays rows session ↔
      session.contents = rows ∨ session.pending.all Process.storable = false := by
  simp only [Stays, same, true_and, ends_commit]
  cases session.pending.all Process.storable with
  | true => simp [Session.saved, Session.flushed]
  | false => simp

/-- All rows of a text that was read to its end are those it describes if it tells all
ports. -/
theorem merged_eq_described_iff {monitor : Monitor} {root : Element}
    (whole : Work.failure (works monitor none (entries monitor root)) = none) :
    (Work.merged (works monitor none (entries monitor root))).map some =
      described monitor (.tree root) ↔ TellPorts monitor none (entries monitor root) := by
  rw [← merged_described_iff]
  constructor
  · intro same
    exact ⟨[], by rw [List.append_nil, same, described]⟩
  · intro start
    exact start.eq_of_length (by rw [List.length_map, length_merged whole])

/-- A reading is not atomic if it raises and other rows are committed afterwards. -/
theorem not_atomic_of_later {monitor : Monitor} {text : Parsed} {session : Session Process}
    (raised : ((systeminfoParse monitor text).run.run session).1.isOk = false)
    (other : ((Session.commit Process.storable outOfRange).run.run
      ((systeminfoParse monitor text).run.run session).2).2.committed ≠ session.committed) :
    ¬Atomic monitor text session := by
  intro atomic
  simp only [Atomic, Ends] at atomic
  generalize (systeminfoParse monitor text).run.run session = outcome at *
  obtain ⟨result, final⟩ := outcome
  cases result with
  | ok status => simp [Except.isOk, Except.toBool] at raised
  | error fault => exact other ((ends_state _).1 atomic.2.2)

/-- Rows that an earlier reading left. -/
def earlierRows : List Process :=
  [{ agentid := 1, name := "gateway", pid := 80, status := "Active" },
   { agentid := 1, name := "Status", pid := 0, status := "RUNNING" }]

/-- A text whose second process has no status. -/
def brokenText : Parsed :=
  .tree (.node "systeminfo" [] [
    .node "machines" [] [
      .node "machine" [("name", "primary")] [
        .node "gateway" [("worker", "primary:80"), ("status", "Active")] [],
        .node "clustercontroller" [("worker", "primary:81")] []]],
    .node "service" [("status", "Active")] []])

end Palette.Processes
