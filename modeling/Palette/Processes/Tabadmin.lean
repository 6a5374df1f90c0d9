import Palette.Cli.Command
import Palette.Processes.Reading

/-!
# Reading the output of `tabadmin status -v`

The older way to learn the state of Tableau is a command whose output is read line by
line: a line that ends with a colon names the machine of the lines after it, the lines
with `Status:` tell the status of the server, and the others tell of processes. A line
that is none of these becomes a row by itself.

As before, the rows of the table are deleted first, and a row is merged for each line.
The texts about failed processes, which only events use, are left out.
-/

namespace Palette.Processes

open Palette.Cli Palette.Commands Palette.Foundation Script

/-! ## The pattern of a process

A pattern gives all its matches at the beginning of a text with what is left of the text,
in the order in which they are tried.
-/

/-- The text as it stands. -/
def literal (text : String) (input : List Char) : List (List Char) :=
  if text.toList.isPrefixOf input then [input.drop text.length] else []

/-- As many accepted characters as possible, then fewer. -/
def many (accept : Char → Bool) : List Char → List (List Char × List Char)
  | [] => [([], [])]
  | char :: rest =>
    if accept char then
      (many accept rest).map (fun found => (char :: found.1, found.2)) ++ [([], char :: rest)]
    else [([], char :: rest)]

/-- One character of blank space, which is one of ASCII. -/
def blank : List Char → List (List Char)
  | [] => []
  | char :: rest => if char.toNat = 32 ∨ 9 ≤ char.toNat ∧ char.toNat ≤ 13 then [rest] else []

/-- The pattern or nothing. -/
def optional (pattern : List Char → List (List Char)) (input : List Char) : List (List Char) :=
  pattern input ++ [input]

/-- A number in brackets, or nothing. -/
def pidGroup (input : List Char) : List (Option (List Char) × List Char) :=
  ((literal "(" input).flatMap fun input =>
    (many Char.isDigit input).flatMap fun found =>
      (literal ")" found.2).map fun input => (some found.1, input)) ++ [(none, input)]

/-- What a line tells of a process. -/
structure ServiceLine where
  service : List Char
  pid : Option (List Char)
  status : List Char
  deriving DecidableEq, Repr

/-- The pattern at the beginning of a text. -/
def serviceLines (input : List Char) : List ServiceLine :=
  (literal "'Tableau Server " input).flatMap fun input =>
  (many (· ≠ '\n') input).flatMap fun service =>
  (literal "'" service.2).flatMap fun input =>
  (blank input).flatMap fun input =>
  (pidGroup input).flatMap fun pid =>
  (optional (literal "status") pid.2).flatMap fun input =>
  (optional blank input).flatMap fun input =>
  (literal "is" input).flatMap fun input =>
  (blank input).flatMap fun input =>
  (many (· ≠ '\n') input).flatMap fun status =>
  (literal "." status.2).map fun _ => ⟨service.1, pid.1, status.1⟩

/-- `re.search(pattern, line)`. -/
def searchService (line : List Char) : Option ServiceLine :=
  line.tails.findSome? fun input => (serviceLines input).head?

example : searchService "'Tableau Server Repository Database' (1764) is running.".toList =
    some ⟨"Repository Database".toList, some "1764".toList, "running".toList⟩ := by
  decide +kernel

/-! ## Lines -/

/-- A line of the output. -/
inductive Line where
  | process (service : String) (pid : Int) (status : String)
  | unmatched
  | status (serverStatus : String)
  | host (host : String)
  | other (line : String)
  | broken
  deriving DecidableEq, Repr

/-- `line.strip()`. -/
def strip (monitor : Monitor) (line : List Char) : List Char :=
  let isBlank : Char → Bool := fun char =>
    if char.toNat < 128 then
      9 ≤ char.toNat ∧ char.toNat ≤ 13 ∨ 28 ≤ char.toNat ∧ char.toNat ≤ 32
    else monitor.isspace char
  ((line.dropWhile isBlank).reverse.dropWhile isBlank).reverse

/-- A line about a process. Without a number in it, the number is -2. -/
def processLine (line : List Char) : Line :=
  match searchService line with
  | none => .unmatched
  | some found =>
    match found.pid.bind digitsValue with
    | some pid => .process (String.ofList found.service) pid (String.ofList found.status)
    | none => .process (String.ofList found.service) (-2) (String.ofList found.status)

/-- A line about anything else. -/
def otherLine (monitor : Monitor) (line first : List Char) : Line :=
  if line.getLast? = some ':' then
    .host (String.ofList ((strip monitor first).filter (· ≠ ':')))
  else .other (String.ofList line)

/-- What a line is. The second word of some lines is looked at without asking whether
there is one. -/
def parseLine (monitor : Monitor) (text : List Char) : Line :=
  let line := strip monitor text
  let parts := line.splitOn ' '
  let first := parts.headD []
  if first = "'Tableau".toList then
    match parts[1]? with
    | none => .broken
    | some second =>
      if second = "Server".toList then processLine line else otherLine monitor line first
  else if first = "Status:".toList then
    match parts[1]? with
    | none => .broken
    | some second => .status (String.ofList (strip monitor second))
  else otherLine monitor line first

/-! ## The reading -/

/-- The variables that outlive a line: the agent of the machine, unless it is unknown, and
the status of the server. -/
structure Section where
  agentid : Option Nat
  tableauStatus : Option String
  deriving DecidableEq, Repr

/-- `list index out of range`. -/
def indexError : Fault := .other ⟨.otherException, "list index out of range"⟩

/-- Add a row for the machine if its agent is known. -/
def addFor (agentid : Option Nat) (name : String) (pid : Int) (status : String) : Visit PUnit :=
  match agentid with
  | some agentid => add agentid name pid status
  | none => pure ⟨⟩

/-- The status of the server after a line that tells one. -/
def toldAfter (current : Section) (serverStatus : String) : Option String :=
  if current.agentid.isSome ∧ (current.tableauStatus = none ∨ serverStatus = "DEGRADED") then
    some serverStatus
  else current.tableauStatus

/-- Read a line. -/
def readLine (monitor : Monitor) (current : Section) (text : List Char) : Visit Section :=
  match parseLine monitor text with
  | .process service pid status => do
    addFor current.agentid service pid status
    pure current
  | .unmatched => pure current
  | .status serverStatus => do
    addFor current.agentid "Status" 0 serverStatus
    pure { current with tableauStatus := toldAfter current serverStatus }
  | .host host =>
    if isAscii host then do
      query
      query
      pure { current with agentid := monitor.agentidFromHost host }
    else throw unencodable
  | .other line => do
    addFor current.agentid line (-1) "error"
    pure current
  | .broken => throw indexError

/-- The output of the command, unless it failed. -/
def stdoutOf (body : Dict) : Except Fault (Option String) :=
  if body.has "error" then .ok none
  else
    match body.get "exit-status" with
    | none => .ok none
    | some status =>
      if status.truthy then .ok none
      else
        match body.get "stdout" with
        | none => .ok none
        | some (.text stdout) => .ok (some stdout)
        | some _ => .error (.other ⟨.attributeError, "object has no attribute 'split'"⟩)

/-- `string.split(stdout, '\n')`. -/
def linesOf (stdout : String) : List (List Char) := stdout.toList.splitOn '\n'

/-- The section in which the output begins. -/
def firstSection (monitor : Monitor) : Section := ⟨some monitor.agentid, none⟩

/-- `TableauStatusMonitor._get_status_tabadmin`, once the command has replied. -/
def readTabadmin (monitor : Monitor) (body : Dict) : Visit PUnit := do
  match ← settle (stdoutOf body) with
  | none => pure ⟨⟩
  | some stdout => do
    let _prevTableauStatus ← getTableauStatus monitor
    removeAllStatus
    query
    let final ← (linesOf stdout).foldlM (readLine monitor) (firstSection monitor)
    match final.tableauStatus with
    | none => Session.rollback
    | some _ => finishStatus monitor

/-! ## The reading as work -/

/-- The work of adding a row. -/
def addWork (agentid : Option Nat) (name : String) (pid : Int) (status : String) :
    List (Work Process Fault) :=
  match agentid with
  | some agentid => [.merge ⟨agentid, name, pid, status⟩]
  | none => []

namespace Line

/-- The work for a line. -/
def works (current : Section) : Line → List (Work Process Fault)
  | process service pid told => addWork current.agentid service pid told
  | unmatched => []
  | status serverStatus => addWork current.agentid "Status" 0 serverStatus
  | host address => if isAscii address then [.query, .query] else [.raise unencodable]
  | other line => addWork current.agentid line (-1) "error"
  | broken => [.raise indexError]

/-- The section after a line. -/
def after (monitor : Monitor) (current : Section) : Line → Section
  | status serverStatus => { current with tableauStatus := toldAfter current serverStatus }
  | host address => { current with agentid := monitor.agentidFromHost address }
  | _ => current

end Line

/-- The work for lines. -/
def lineWorks (monitor : Monitor) : Section → List Line → List (Work Process Fault)
  | _, [] => []
  | current, line :: rest => line.works current ++ lineWorks monitor (line.after monitor current) rest

/-- The lines of an output. -/
def outputLines (monitor : Monitor) (stdout : String) : List Line :=
  (linesOf stdout).map (parseLine monitor)

/-- The work for an output. -/
def outputWorks (monitor : Monitor) (stdout : String) : List (Work Process Fault) :=
  lineWorks monitor (firstSection monitor) (outputLines monitor stdout)

/-- The status of the server that an output tells. -/
def outputStatus (monitor : Monitor) (stdout : String) : Option String :=
  ((outputLines monitor stdout).foldl (Line.after monitor) (firstSection monitor)).tableauStatus

/-- Adding a row is work. -/
theorem addFor_eq (agentid : Option Nat) (name : String) (pid : Int) (status : String) :
    addFor agentid name pid status =
      Work.performAll Process.storable outOfRange (addWork agentid name pid status) := by
  cases agentid with
  | none => rfl
  | some agentid => simp [addFor, addWork, Work.performAll, Work.perform, add]

/-- A line is read by doing its work. -/
theorem readLine_eq (monitor : Monitor) (current : Section) (text : List Char) :
    readLine monitor current text = (do
      Work.performAll Process.storable outOfRange ((parseLine monitor text).works current)
      pure ((parseLine monitor text).after monitor current)) := by
  simp only [readLine]
  cases parseLine monitor text with
  | process service pid status => simp only [addFor_eq]; rfl
  | unmatched => rfl
  | status serverStatus => simp only [addFor_eq]; rfl
  | host host =>
    simp only [Line.works, Line.after]
    split
    · simp [Work.performAll, Work.perform, query]
    · rfl
  | other line => simp only [addFor_eq]; rfl
  | broken => rfl

/-- Lines are read by doing their work. -/
theorem readLines_eq (monitor : Monitor) (current : Section) (texts : List (List Char)) :
    texts.foldlM (readLine monitor) current = (do
      Work.performAll Process.storable outOfRange
        (lineWorks monitor current (texts.map (parseLine monitor)))
      pure ((texts.map (parseLine monitor)).foldl (Line.after monitor) current)) := by
  induction texts generalizing current with
  | nil => simp [lineWorks, Work.performAll]
  | cons text rest inductionHypothesis =>
    simp only [List.foldlM_cons, readLine_eq, List.map_cons, lineWorks, Work.performAll_append,
      List.foldl_cons, bind_assoc, pure_bind, inductionHypothesis]

section Ends

variable {monitor : Monitor} {session : Session Process} {raised : Fault → Session Process → Prop}

/-- How the reading of an output ends in a session without a pending row. -/
theorem ends_readTabadmin {body : Dict} {stdout status : String}
    {returned : PUnit → Session Process → Prop} (replied : stdoutOf body = .ok (some stdout))
    (clean : session.pending = none)
    (found : tableauStatus monitor.isPrimary session.view = .ok status) :
    Ends (readTabadmin monitor body) session returned raised ↔
      Ends (Work.performAll Process.storable outOfRange (outputWorks monitor stdout))
        (cleared session)
        (fun _ final =>
          if (outputStatus monitor stdout).isSome then
            Ends (finishStatus monitor) final returned raised
          else returned ⟨⟩ final.undone)
        raised := by
  have cleanAfter : (cleared session).pending = none := clean
  simp only [readTabadmin, replied, ends_bind, ends_settle_ok, ends_getTableauStatus clean, found,
    ends_removeAllStatus clean, ends_query, cleanAfter, Option.all_none, if_true,
    flushed_of_clean cleanAfter, readLines_eq, ends_pure]
  refine ends_congr (ends_of_forall _ (fun _ final => ?_) fun _ _ => Iff.rfl)
  simp only [outputStatus, outputLines]
  split
  · rename_i none
    simp [none]
  · rename_i some
    simp [some]

end Ends

end Palette.Processes
