import Palette.Processes.Systeminfo

/-!
# The entries of the system information

Read in order, a text is a list of entries: the names of its machines, the lookups of
their agents, the processes of the known machines and the services. Each entry is one
piece of work on the session. It depends on the entries before it only through the port,
which is that of the nearest earlier process that tells one.
-/

namespace Palette.Processes

open Palette.Cli Palette.Commands Palette.Foundation Script

/-- What one step of the reading looks at. -/
inductive Entry where
  | nameless
  | otherName
  | lookup
  | process (agentid : Nat) (host : String) (info : Element)
  | service (element : Element)

namespace Entry

/-- The port that the variable holds after the entry. -/
def port (monitor : Monitor) (before : Option Int) : Entry → Option Int
  | process _ host info =>
    match info.attrib "worker" with
    | some worker =>
      match workerPort monitor host worker with
      | .ok port => some port
      | .error _ => before
    | none => before
  | _ => before

/-- The work for an entry, given the port that the variable holds. -/
def work (monitor : Monitor) (before : Option Int) : Entry → Work Process Fault
  | nameless => .raise (parseFailure "missing 'name' in machine attribute")
  | otherName => .raise unencodable
  | lookup => .query
  | process agentid host info =>
    match info.attrib "status" with
    | none => .raise (parseFailure s!"missing 'status' in machine {host} attrib")
    | some status =>
      match info.attrib "worker" with
      | some worker =>
        match workerPort monitor host worker with
        | .ok port => .merge ⟨agentid, info.tag, port, status⟩
        | .error fault => .raise fault
      | none =>
        match before with
        | some port => .merge ⟨agentid, info.tag, port, status⟩
        | none =>
          .raise (.other ⟨.otherException, "local variable 'port' referenced before assignment"⟩)
  | service element =>
    match element.attrib "status" with
    | none => .raise (parseFailure "Missing 'status'")
    | some status => .merge ⟨monitor.agentid, "Status", 0, serviceStatus status⟩

/-- The status of the server after the entry. -/
def tableauStatus (before : Option String) : Entry → Option String
  | service element => (element.attrib "status").map serviceStatus
  | _ => before

/-- The variables after the entry. -/
def after (monitor : Monitor) (locals : Locals) (entry : Entry) : Locals :=
  ⟨entry.port monitor locals.port, entry.tableauStatus locals.tableauStatus⟩

/-- The row that an entry describes by itself, if it describes one at all. -/
def describes (monitor : Monitor) : Entry → Option (Option Process)
  | process agentid host info =>
    some (match info.attrib "status", info.attrib "worker" with
      | some status, some worker =>
        match workerPort monitor host worker with
        | .ok port => some ⟨agentid, info.tag, port, status⟩
        | .error _ => none
      | _, _ => none)
  | service element =>
    some ((element.attrib "status").map fun status =>
      ⟨monitor.agentid, "Status", 0, serviceStatus status⟩)
  | _ => none

/-- The entry is no process, or tells its own port. -/
def TellsPort : Entry → Prop
  | process _ _ info => (info.attrib "worker").isSome
  | _ => True

/-- The entry is a service. -/
def isService : Entry → Bool
  | service _ => true
  | _ => false

end Entry

/-! ## Entries of elements -/

/-- The entries of a machine. -/
def machineEntries (monitor : Monitor) (machine : Element) : List Entry :=
  match machine.attrib "name" with
  | none => [.nameless]
  | some host =>
    if isAscii host then
      match monitor.agentidFromHost host with
      | none => [.lookup]
      | some agentid => .lookup :: .lookup :: machine.children.map (.process agentid host)
    else [.otherName]

/-- The entries of an element below the root. -/
def childEntries (monitor : Monitor) (child : Element) : List Entry :=
  if child.tag = "machines" then child.children.flatMap (machineEntries monitor)
  else if child.tag = "service" then [.service child]
  else []

/-- The entries of a text. -/
def entries (monitor : Monitor) (root : Element) : List Entry :=
  root.children.flatMap (childEntries monitor)

/-- The work for the entries of a text. -/
def works (monitor : Monitor) : Option Int → List Entry → List (Work Process Fault)
  | _, [] => []
  | port, entry :: rest => entry.work monitor port :: works monitor (entry.port monitor port) rest

/-! ## The reading as work -/

/-- Read one entry. -/
def readEntry (monitor : Monitor) (locals : Locals) (entry : Entry) : Visit Locals := do
  Work.perform Process.storable outOfRange (entry.work monitor locals.port)
  pure (entry.after monitor locals)

/-- A process element is read as its entry. -/
theorem readInfo_eq (monitor : Monitor) (agentid : Nat) (host : String) (locals : Locals)
    (info : Element) : readInfo monitor agentid host locals info =
      readEntry monitor locals (.process agentid host info) := by
  simp only [readInfo, readEntry, Entry.work, Entry.after, Entry.port, Entry.tableauStatus]
  cases info.attrib "status" with
  | none => rfl
  | some status =>
    cases info.attrib "worker" with
    | none => cases locals.port <;> rfl
    | some worker =>
      dsimp only
      cases workerPort monitor host worker <;> rfl

/-- A machine is read as its entries. -/
theorem readMachine_eq (monitor : Monitor) (locals : Locals) (machine : Element) :
    readMachine monitor locals machine =
      (machineEntries monitor machine).foldlM (readEntry monitor) locals := by
  simp only [readMachine, machineEntries]
  cases machine.attrib "name" with
  | none => rfl
  | some host =>
    dsimp only
    split
    · cases monitor.agentidFromHost host with
      | none =>
        simp [readEntry, Entry.work, Work.perform, query, Entry.after, Entry.port,
          Entry.tableauStatus]
      | some agentid =>
        have infos : readInfo monitor agentid host = fun locals info =>
            readEntry monitor locals (.process agentid host info) :=
          funext fun locals => funext fun info => readInfo_eq monitor agentid host locals info
        simp [readEntry, Entry.work, Work.perform, query, Entry.after, Entry.port,
          Entry.tableauStatus, infos, List.foldlM_map]
    · rfl

/-- Elements that are read as their entries are read as all of these. -/
theorem foldlM_entries {monitor : Monitor} {read : Locals → Element → Visit Locals}
    {entriesOf : Element → List Entry}
    (each : ∀ locals element,
      read locals element = (entriesOf element).foldlM (readEntry monitor) locals)
    (locals : Locals) (elements : List Element) :
    elements.foldlM read locals =
      (elements.flatMap entriesOf).foldlM (readEntry monitor) locals := by
  induction elements generalizing locals with
  | nil => rfl
  | cons element rest inductionHypothesis =>
    rw [List.foldlM_cons, List.flatMap_cons, List.foldlM_append, each]
    exact bind_congr inductionHypothesis

/-- The elements below the root are read as their entries. -/
theorem readChild_eq (monitor : Monitor) (locals : Locals) (child : Element) :
    readChild monitor locals child =
      (childEntries monitor child).foldlM (readEntry monitor) locals := by
  simp only [readChild, childEntries]
  split
  · exact foldlM_entries (readMachine_eq monitor) locals child.children
  · split
    · simp only [List.foldlM_cons, List.foldlM_nil, bind_pure]
      simp only [readService, readEntry, Entry.work, Entry.after, Entry.port, Entry.tableauStatus]
      cases child.attrib "status" <;> rfl
    · rfl

/-- The text is read as its entries. -/
theorem readChildren_eq (monitor : Monitor) (locals : Locals) (root : Element) :
    root.children.foldlM (readChild monitor) locals =
      (entries monitor root).foldlM (readEntry monitor) locals :=
  foldlM_entries (readChild_eq monitor) locals root.children

/-- Entries are read by doing their work. -/
theorem readEntries_eq (monitor : Monitor) (locals : Locals) (entries : List Entry) :
    entries.foldlM (readEntry monitor) locals = (do
      Work.performAll Process.storable outOfRange (works monitor locals.port entries)
      pure (entries.foldl (Entry.after monitor) locals)) := by
  induction entries generalizing locals with
  | nil => simp [works, Work.performAll]
  | cons entry rest inductionHypothesis =>
    simp only [List.foldlM_cons, readEntry, works, Work.performAll, List.foldl_cons, bind_assoc,
      pure_bind, inductionHypothesis]
    rfl

end Palette.Processes
