import Palette.Processes.Reading

/-!
# Each row says what its element says

A row that the reading merges should have the agent of its machine and the status and the
port of its own element, and the reading should raise nothing but the exception that the
check handles. The variable for the port breaks the first, and the second, too, if there
is no earlier port; some texts raise while the message about them is made.
-/

namespace Palette.Processes

open Palette.Cli Palette.Commands Palette.Foundation Script

/-- The exception that the check handles. -/
def Fault.IsSysteminfo : Fault → Prop
  | .systeminfo _ _ => True
  | .other _ => False

/-- The lookup of the status does not raise it. -/
theorem not_systeminfo_of_tableauStatus {isPrimary : Nat → Bool} {rows : List Process}
    {fault : Fault} (found : tableauStatus isPrimary rows = .error fault) :
    ¬fault.IsSysteminfo := by
  simp only [tableauStatus] at found
  split at found
  · simp at found
  · simp at found
  · rw [← Except.error.inj found]
    exact id

/-- The rows that a text describes, one for each process of a known machine and each
service; a process that does not tell its port has none. -/
def described (monitor : Monitor) : Parsed → List (Option Process)
  | .tree root => (entries monitor root).filterMap (Entry.describes monitor)
  | _ => []

/-- Up to the first entry that cannot be read, every process tells its own port. -/
def TellPorts (monitor : Monitor) : Option Int → List Entry → Prop
  | _, [] => True
  | port, entry :: rest =>
    match entry.work monitor port with
    | .raise _ => True
    | _ => entry.TellsPort ∧ TellPorts monitor (entry.port monitor port) rest

/-- The merged rows are those that the first elements describe exactly if these tell
their ports. -/
theorem merged_described_iff (monitor : Monitor) (port : Option Int) (entries : List Entry) :
    (Work.merged (works monitor port entries)).map some <+:
      entries.filterMap (Entry.describes monitor) ↔ TellPorts monitor port entries := by
  induction entries generalizing port with
  | nil => simp [works, Work.merged, TellPorts]
  | cons entry rest inductionHypothesis =>
    cases entry with
    | nameless => simp [works, Work.merged, TellPorts, Entry.work]
    | otherName => simp [works, Work.merged, TellPorts, Entry.work]
    | lookup =>
      simpa [works, Work.merged, TellPorts, Entry.work, Entry.describes, Entry.TellsPort,
        Entry.port, List.filterMap_cons] using inductionHypothesis port
    | service element =>
      cases status : element.attrib "status" with
      | none => simp [works, Work.merged, TellPorts, Entry.work, status]
      | some told =>
        simpa [works, Work.merged, TellPorts, Entry.work, Entry.describes, Entry.TellsPort,
          Entry.port, status, List.cons_prefix_cons] using inductionHypothesis port
    | process agentid host info =>
      cases status : info.attrib "status" with
      | none => simp [works, Work.merged, TellPorts, Entry.work, status]
      | some told =>
        cases worker : info.attrib "worker" with
        | none =>
          cases port with
          | none => simp [works, Work.merged, TellPorts, Entry.work, status, worker]
          | some old =>
            simp [works, Work.merged, TellPorts, Entry.work, Entry.describes, Entry.TellsPort,
              status, worker, List.cons_prefix_cons]
        | some written =>
          cases own : workerPort monitor host written with
          | error fault => simp [works, Work.merged, TellPorts, Entry.work, status, worker, own]
          | ok new =>
            simpa [works, Work.merged, TellPorts, Entry.work, Entry.describes, Entry.TellsPort,
              Entry.port, status, worker, own, List.cons_prefix_cons]
              using inductionHypothesis (some new)

/-- If every entry can be read, there is a row for each that is described. -/
theorem length_merged {monitor : Monitor} {port : Option Int} {entries : List Entry}
    (whole : Work.failure (works monitor port entries) = none) :
    (Work.merged (works monitor port entries)).length =
      (entries.filterMap (Entry.describes monitor)).length := by
  induction entries generalizing port with
  | nil => rfl
  | cons entry rest inductionHypothesis =>
    simp only [works] at whole ⊢
    cases work : entry.work monitor port with
    | raise fault => simp [work, Work.failure] at whole
    | query =>
      rw [work, Work.failure] at whole
      rw [Work.merged, inductionHypothesis whole]
      have nothing : entry.describes monitor = none := by
        cases entry with
        | lookup => rfl
        | nameless => rfl
        | otherName => rfl
        | service element => simp only [Entry.work] at work; split at work <;> simp at work
        | process agentid host info =>
          simp only [Entry.work] at work
          split at work
          · simp at work
          · split at work
            · split at work <;> simp at work
            · split at work <;> simp at work
      simp [nothing]
    | merge row =>
      rw [work, Work.failure] at whole
      rw [Work.merged, List.length_cons, inductionHypothesis whole]
      have something : ∃ row, entry.describes monitor = some row := by
        cases entry with
        | lookup => simp [Entry.work] at work
        | nameless => simp [Entry.work] at work
        | otherName => simp [Entry.work] at work
        | service element => exact ⟨_, rfl⟩
        | process agentid host info => exact ⟨_, rfl⟩
      obtain ⟨row, something⟩ := something
      simp [something]

/-- The reading of a text in a new session raises nothing but what the check handles, and
the rows that it merges are those that the first elements describe. -/
def Faithful (monitor : Monitor) (text : Parsed) (session : Session Process) : Prop :=
  Ends (systeminfoParse monitor text) session
    (fun _ final => final.merges.map some <+: described monitor text)
    fun fault final => fault.IsSysteminfo ∧ final.merges.map some <+: described monitor text

/-- The merged rows of a faithful reading. -/
theorem Faithful.merges {monitor : Monitor} {text : Parsed} {session : Session Process}
    (faithful : Faithful monitor text session) :
    ((systeminfoParse monitor text).run.run session).2.merges.map some <+:
      described monitor text :=
  (ends_state (systeminfoParse monitor text)).1 (Ends.mono faithful (fun _ _ own => own)
    fun _ _ own => own.2)

/-- The table does not hold several statuses of primaries, the numbers that are written
fit their column, and up to the first element that the check reports as a fault every
process tells its own port and nothing else goes wrong. -/
def Readable (monitor : Monitor) (committed : List Process) (root : Element) : Prop :=
  (∃ status, tableauStatus monitor.isPrimary committed = .ok status) ∧
  Work.Storable Process.storable none (works monitor none (entries monitor root)) ∧
  (∀ fault, Work.failure (works monitor none (entries monitor root)) = some fault →
    fault.IsSysteminfo) ∧
  TellPorts monitor none (entries monitor root)

/-- The last number fits its column, if it is written when the check is finished. -/
def Closing (monitor : Monitor) (root : Element) : Prop :=
  Work.failure (works monitor none (entries monitor root)) = none →
    (toldStatus monitor (entries monitor root)).isSome → monitor.busy = false →
    (Work.unwritten none (works monitor none (entries monitor root))).all Process.storable = true

/-- The texts that are read faithfully. -/
def FaithfulWhen (monitor : Monitor) (committed : List Process) : Parsed → Prop
  | .raises _ => False
  | .parseError _ => True
  | .tree root =>
    root.tag = "systeminfo" → Readable monitor committed root ∧ Closing monitor root

/-- A monitor that knows one agent, and nothing but ASCII. -/
def plainMonitor : Monitor where
  agentid := 1
  agentidFromHost host := if host = "primary" then some 1 else none
  displayname _ := some "Tableau Primary"
  isPrimary agentid := agentid = 1
  busy := false
  saves := false
  isspace _ := false
  isdigit _ := false
  decimal _ := none

/-- Two processes of which only the first one tells its port. -/
def leftoverText : Parsed :=
  .tree (.node "systeminfo" [] [
    .node "machines" [] [
      .node "machine" [("name", "primary")] [
        .node "gateway" [("worker", "primary:80"), ("status", "Active")] [],
        .node "clustercontroller" [("status", "Active")] []]],
    .node "service" [("status", "Active")] []])

/-- A reading is not faithful if a row is merged that the text does not describe. -/
theorem not_faithful_of_merges {monitor : Monitor} {text : Parsed} {session : Session Process}
    (other : ¬((systeminfoParse monitor text).run.run session).2.merges.map some <+:
      described monitor text) : ¬Faithful monitor text session :=
  mt (fun faithful => faithful.merges) other

end Palette.Processes
