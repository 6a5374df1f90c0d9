import Palette.Processes.Atomicity
import Palette.Processes.Tabadmin

/-!
# What the lines of `tabadmin status -v` should give

A line gives a row for the agent of its section: of a process, of the status of the server, or of
an error, which is any other line that is not the heading of a section. An empty line gives none.
The status of the server is `DEGRADED` if a line says so, and otherwise what the first one says.

The reading looks at the second word of some lines without asking whether there is one, and takes
an empty line for an error and a process that it does not understand for nothing.
-/

namespace Palette.Processes

open Palette.Cli Palette.Commands Palette.Foundation Script

/-! ## The lines of an output -/

variable (monitor : Monitor)

/-- The status that a line says: the first word after `Status:` that is not blank. -/
def said (text : List Char) : String :=
  String.ofList (((((strip monitor text).splitOn ' ').tail.map (strip monitor)).find?
    (· ≠ [])).getD [])

/-- The row that a line should give in the section of an agent. -/
def dueRow (agentid : Nat) (text : List Char) : Option Process :=
  if strip monitor text = [] then none
  else match parseLine monitor text with
    | .process service pid status => some ⟨agentid, service, pid, status⟩
    | .status _ => some ⟨agentid, "Status", 0, said monitor text⟩
    | .host _ => none
    | .unmatched | .other _ | .broken =>
      some ⟨agentid, String.ofList (strip monitor text), -1, "error"⟩

/-- The agent of the section after a line. -/
def agentAfter (agentid : Option Nat) (text : List Char) : Option Nat :=
  match parseLine monitor text with
  | .host host => monitor.agentidFromHost host
  | _ => agentid

/-- The rows that lines should give. -/
def dueRows : Option Nat → List (List Char) → List Process
  | _, [] => []
  | agentid, text :: rest =>
    (agentid.bind fun known => dueRow monitor known text).toList ++
      dueRows (agentAfter monitor agentid text) rest

/-- What a line says if it is about the status and in the section of an agent that is known. -/
def saidStatus (agentid : Option Nat) (text : List Char) : List String :=
  match agentid, parseLine monitor text with
  | some _, .status _ => [said monitor text]
  | _, _ => []

/-- What lines say of the status. -/
def saidStatuses : Option Nat → List (List Char) → List String
  | _, [] => []
  | agentid, text :: rest =>
    saidStatus monitor agentid text ++ saidStatuses (agentAfter monitor agentid text) rest

/-- The status of the server by what lines say. -/
def overall (statuses : List String) : Option String :=
  if "DEGRADED" ∈ statuses then some "DEGRADED" else statuses.head?

/-- A line of a known section gives the row that it should. -/
def Plain (text : List Char) : Prop :=
  strip monitor text ≠ [] ∧ match parseLine monitor text with
    | .unmatched => False
    | .status serverStatus => serverStatus = said monitor text
    | _ => True

/-- Every line of a known section gives the row that it should. -/
def AllPlain : Option Nat → List (List Char) → Prop
  | _, [] => True
  | agentid, text :: rest => (agentid.isSome → Plain monitor text) ∧
      AllPlain (agentAfter monitor agentid text) rest

/-- A line does not end the reading: it has the word that is looked at, and if it is a heading,
an ASCII one. -/
def Legible (text : List Char) : Prop :=
  match parseLine monitor text with
  | .broken => False
  | .host host => isAscii host = true
  | _ => True

/-! ## What the reading makes of lines -/

/-- The row that a line gives in the section of an agent. -/
def addedRow (agentid : Nat) (text : List Char) : Option Process :=
  match parseLine monitor text with
  | .process service pid status => some ⟨agentid, service, pid, status⟩
  | .status serverStatus => some ⟨agentid, "Status", 0, serverStatus⟩
  | .other line => some ⟨agentid, line, -1, "error"⟩
  | .unmatched | .host _ | .broken => none

/-- The rows that lines give. -/
def addedRows : Option Nat → List (List Char) → List Process
  | _, [] => []
  | agentid, text :: rest =>
    (agentid.bind fun known => addedRow monitor known text).toList ++
      addedRows (agentAfter monitor agentid text) rest

section Rows

variable {monitor} {agentid : Nat} {text : List Char}

/-- What a line is depends on it without the blanks around it. -/
theorem parseLine_congr {other : List Char} (same : strip monitor text = strip monitor other) :
    parseLine monitor text = parseLine monitor other := by
  unfold parseLine
  rw [same]

/-- An empty line is taken for an error. -/
theorem parseLine_blank (blank : strip monitor text = []) : parseLine monitor text = .other "" := by
  unfold parseLine
  rw [blank]
  rfl

/-- The ways in which a line is read. -/
theorem parseLine_cases : parseLine monitor text = processLine (strip monitor text) ∨
    parseLine monitor text =
      otherLine monitor (strip monitor text) (((strip monitor text).splitOn ' ').headD []) ∨
    (∃ serverStatus, parseLine monitor text = .status serverStatus) ∨
    parseLine monitor text = .broken := by
  unfold parseLine
  dsimp only
  split_ifs
  · cases ((strip monitor text).splitOn ' ')[1]? with
    | none => exact .inr (.inr (.inr rfl))
    | some second =>
      dsimp only
      split_ifs
      · exact .inl rfl
      · exact .inr (.inl rfl)
  · cases ((strip monitor text).splitOn ' ')[1]? with
    | none => exact .inr (.inr (.inr rfl))
    | some second => exact .inr (.inr (.inl ⟨_, rfl⟩))
  · exact .inr (.inl rfl)

/-- What a line about a process is read as. -/
theorem processLine_cases (line : List Char) : processLine line = .unmatched ∨
    ∃ service pid status, processLine line = .process service pid status ∧ pid ≠ -1 := by
  unfold processLine
  cases searchService line with
  | none => exact .inl rfl
  | some found =>
    dsimp only
    cases found.pid.bind digitsValue with
    | none =>
      exact .inr ⟨String.ofList found.service, -2, String.ofList found.status, rfl, by decide⟩
    | some pid =>
      exact .inr ⟨String.ofList found.service, pid, String.ofList found.status, rfl, by omega⟩

/-- What a line about anything else is read as. -/
theorem otherLine_cases (line first : List Char) :
    (∃ host, otherLine monitor line first = .host host) ∨
      otherLine monitor line first = .other (String.ofList line) := by
  unfold otherLine
  split
  · exact .inl ⟨_, rfl⟩
  · exact .inr rfl

/-- A line about a process has no negative number but -2. -/
theorem parseLine_process {service status : String} {pid : Int}
    (parsed : parseLine monitor text = .process service pid status) : pid ≠ -1 := by
  rcases @parseLine_cases monitor text with process | other | ⟨serverStatus, told⟩ | broken
  · rcases processLine_cases (strip monitor text) with unmatched | ⟨_, _, _, read, positive⟩
    · cases parsed.symm.trans (process.trans unmatched)
    · cases parsed.symm.trans (process.trans read)
      exact positive
  · rcases @otherLine_cases monitor (strip monitor text)
      (((strip monitor text).splitOn ' ').headD []) with ⟨host, heading⟩ | plain
    · cases parsed.symm.trans (other.trans heading)
    · cases parsed.symm.trans (other.trans plain)
  · cases parsed.symm.trans told
  · cases parsed.symm.trans broken

/-- A line that is none of the others is an error by its text. -/
theorem parseLine_other {line : String} (parsed : parseLine monitor text = .other line) :
    line = String.ofList (strip monitor text) := by
  rcases @parseLine_cases monitor text with process | other | ⟨serverStatus, told⟩ | broken
  · rcases processLine_cases (strip monitor text) with unmatched | ⟨_, _, _, read, -⟩
    · cases parsed.symm.trans (process.trans unmatched)
    · cases parsed.symm.trans (process.trans read)
  · rcases @otherLine_cases monitor (strip monitor text)
      (((strip monitor text).splitOn ' ').headD []) with ⟨host, heading⟩ | plain
    · cases parsed.symm.trans (other.trans heading)
    · cases parsed.symm.trans (other.trans plain)
      rfl
  · cases parsed.symm.trans told
  · cases parsed.symm.trans broken

/-- A row that should be given is no error without a text. -/
theorem dueRow_named {row : Process} (due : dueRow monitor agentid text = some row)
    (error : row.pid = -1) : row.name ≠ "" := by
  unfold dueRow at due
  split at due
  · cases due
  · next filled =>
    have named : String.ofList (strip monitor text) ≠ "" := fun empty =>
      filled (String.ofList_injective empty)
    split at due
    · next service pid status parsed =>
      cases due
      exact absurd error (parseLine_process parsed)
    · cases due
      cases error
    · cases due
    all_goals
      cases due
      exact named

/-- A row of an error that is given is that of a line that is none of the others. -/
theorem addedRow_error {row : Process} (added : addedRow monitor agentid text = some row)
    (error : row.pid = -1) : parseLine monitor text = .other row.name := by
  unfold addedRow at added
  split at added
  · next service pid status parsed =>
    cases added
    exact absurd error (parseLine_process parsed)
  · cases added
    cases error
  · next line parsed =>
    cases added
    exact parsed
  all_goals cases added

/-- A line gives the row that it should, or it is empty and gives an error, or it is about a
process and is not understood, or it says another status than is read. -/
theorem addedRow_cases (legible : Legible monitor text) :
    Plain monitor text ∧ addedRow monitor agentid text = dueRow monitor agentid text ∨
      ¬ Plain monitor text ∧
        (addedRow monitor agentid text = some ⟨agentid, "", -1, "error"⟩ ∧
            dueRow monitor agentid text = none ∨
          addedRow monitor agentid text = none ∧ parseLine monitor text = .unmatched ∧
            dueRow monitor agentid text =
              some ⟨agentid, String.ofList (strip monitor text), -1, "error"⟩ ∨
          ∃ read told, read ≠ told ∧
            addedRow monitor agentid text = some ⟨agentid, "Status", 0, read⟩ ∧
            dueRow monitor agentid text = some ⟨agentid, "Status", 0, told⟩) := by
  unfold Plain addedRow dueRow
  by_cases blank : strip monitor text = []
  · rw [parseLine_blank blank]
    exact .inr ⟨fun plain => plain.1 blank, .inl ⟨rfl, if_pos blank⟩⟩
  · rw [if_neg blank]
    cases parsed : parseLine monitor text with
    | process service pid status => exact .inl ⟨⟨blank, trivial⟩, rfl⟩
    | unmatched => exact .inr ⟨fun plain => plain.2, .inr (.inl ⟨rfl, rfl, rfl⟩)⟩
    | status serverStatus =>
      by_cases same : serverStatus = said monitor text
      · exact .inl ⟨⟨blank, same⟩, by rw [same]⟩
      · exact .inr ⟨fun plain => same plain.2, .inr (.inr ⟨_, _, same, rfl, rfl⟩)⟩
    | host host => exact .inl ⟨⟨blank, trivial⟩, rfl⟩
    | other line =>
      refine .inl ⟨⟨blank, trivial⟩, ?_⟩
      rw [parseLine_other parsed]
    | broken =>
      unfold Legible at legible
      rw [parsed] at legible
      exact legible.elim

end Rows

/-- The rows that are due are no errors without a text. -/
theorem dueRows_named {monitor : Monitor} {row : Process} (error : row.pid = -1)
    (unnamed : row.name = "") (agentid : Option Nat) (texts : List (List Char)) :
    row ∉ dueRows monitor agentid texts := by
  induction texts generalizing agentid with
  | nil => exact List.not_mem_nil
  | cons text rest inductionHypothesis =>
    intro member
    rcases List.mem_append.mp member with own | later
    · obtain ⟨known, -, due⟩ := Option.bind_eq_some_iff.mp (Option.mem_toList.mp own)
      exact dueRow_named due error unnamed
    · exact inductionHypothesis _ later

/-- The rows that are given have no error with the text of a line that is not understood. -/
theorem addedRows_understood {monitor : Monitor} {text : List Char} {row : Process}
    (error : row.pid = -1) (name : row.name = String.ofList (strip monitor text))
    (unmatched : parseLine monitor text = .unmatched) (agentid : Option Nat)
    (texts : List (List Char)) : row ∉ addedRows monitor agentid texts := by
  induction texts generalizing agentid with
  | nil => exact List.not_mem_nil
  | cons first rest inductionHypothesis =>
    intro member
    rcases List.mem_append.mp member with own | later
    · obtain ⟨known, -, added⟩ := Option.bind_eq_some_iff.mp (Option.mem_toList.mp own)
      have other := addedRow_error added error
      have same := String.ofList_injective (name.symm.trans (parseLine_other other))
      cases unmatched.symm.trans ((parseLine_congr same).trans other)
    · exact inductionHypothesis _ later

/-- The rows that are given are those that should be exactly if every line of a known section
gives the row that it should. -/
theorem addedRows_eq_iff {monitor : Monitor} (agentid : Option Nat) (texts : List (List Char))
    (legible : ∀ text ∈ texts, Legible monitor text) :
    addedRows monitor agentid texts = dueRows monitor agentid texts ↔
      AllPlain monitor agentid texts := by
  induction texts generalizing agentid with
  | nil => exact iff_of_true rfl trivial
  | cons text rest inductionHypothesis =>
    obtain ⟨own, others⟩ := List.forall_mem_cons.mp legible
    have continued := inductionHypothesis (agentAfter monitor agentid text) others
    unfold addedRows dueRows AllPlain
    cases agentid with
    | none =>
      simp only [Option.bind_none, Option.toList_none, List.nil_append, Option.isSome_none,
        Bool.false_eq_true, false_implies, true_and]
      exact continued
    | some known =>
      simp only [Option.bind_some, Option.isSome_some, true_implies]
      rcases @addedRow_cases monitor known text own with ⟨plain, same⟩ | ⟨bent, blank | missed | told⟩
      · rw [same, List.append_right_inj, continued]
        exact (and_iff_right plain).symm
      · refine iff_of_false (fun same => ?_) fun both => bent both.1
        rw [blank.1, blank.2, Option.toList_some, Option.toList_none, List.singleton_append,
          List.nil_append] at same
        refine @dueRows_named monitor ⟨known, "", -1, "error"⟩ rfl rfl
          (agentAfter monitor (some known) text) rest ?_
        rw [← same]
        exact List.mem_cons_self
      · refine iff_of_false (fun same => ?_) fun both => bent both.1
        obtain ⟨nothing, unmatched, due⟩ := missed
        rw [nothing, due, Option.toList_some, Option.toList_none, List.singleton_append,
          List.nil_append] at same
        refine @addedRows_understood monitor text
          ⟨known, String.ofList (strip monitor text), -1, "error"⟩ rfl rfl unmatched
          (agentAfter monitor (some known) text) rest ?_
        rw [same]
        exact List.mem_cons_self
      · refine iff_of_false (fun same => ?_) fun both => bent both.1
        obtain ⟨read, other, apart, added, due⟩ := told
        rw [added, due] at same
        have heads := (List.cons.inj same).1
        exact apart (congrArg Process.status heads)


/-! ## The work for lines -/

section Works

variable {monitor : Monitor}

/-- The rows merged by work without a failure, and by work after it. -/
theorem merged_append {Row Failure : Type} {first second : List (Work Row Failure)}
    (sound : Work.failure first = none) :
    Work.merged (first ++ second) = Work.merged first ++ Work.merged second := by
  induction first with
  | nil => rfl
  | cons work rest inductionHypothesis =>
    cases work with
    | query => exact inductionHypothesis sound
    | merge row => exact congrArg (List.cons row) (inductionHypothesis sound)
    | raise failure => cases sound

/-- The first failure of work and of work after it. -/
theorem failure_append {Row Failure : Type} (first second : List (Work Row Failure)) :
    Work.failure (first ++ second) = (Work.failure first).or (Work.failure second) := by
  induction first with
  | nil => rfl
  | cons work rest inductionHypothesis =>
    cases work with
    | query => exact inductionHypothesis
    | merge row => exact inductionHypothesis
    | raise failure => rfl

/-- The work for a line fails exactly if it ends the reading. -/
theorem failure_works (current : Section) (text : List Char) :
    Work.failure ((parseLine monitor text).works current) = none ↔ Legible monitor text := by
  have adds (agentid : Option Nat) (name : String) (pid : Int) (status : String) :
      Work.failure (addWork agentid name pid status) = none := by
    cases agentid <;> rfl
  unfold Legible
  cases parseLine monitor text with
  | process service pid status => exact iff_of_true (adds _ _ _ _) trivial
  | unmatched => exact iff_of_true rfl trivial
  | status serverStatus => exact iff_of_true (adds _ _ _ _) trivial
  | host host =>
    dsimp only [Line.works]
    split
    · next ascii => exact iff_of_true rfl ascii
    · next other => exact iff_of_false nofun other
  | other line => exact iff_of_true (adds _ _ _ _) trivial
  | broken => exact iff_of_false nofun id

/-- The row that the work for a line merges. -/
theorem merged_works (current : Section) {text : List Char} (legible : Legible monitor text) :
    Work.merged ((parseLine monitor text).works current) =
      (current.agentid.bind fun known => addedRow monitor known text).toList := by
  have adds (name : String) (pid : Int) (status : String) :
      Work.merged (addWork current.agentid name pid status) =
        (current.agentid.bind fun known => some ⟨known, name, pid, status⟩).toList := by
    cases current.agentid <;> rfl
  have nothing : ([] : List Process) = (current.agentid.bind fun _ => none).toList := by
    cases current.agentid <;> rfl
  unfold addedRow
  unfold Legible at legible
  cases parsed : parseLine monitor text with
  | process service pid status => exact adds _ _ _
  | unmatched => exact nothing
  | status serverStatus => exact adds _ _ _
  | host host =>
    rw [parsed] at legible
    dsimp only [Line.works]
    rw [if_pos legible]
    exact nothing
  | other line => exact adds _ _ _
  | broken =>
    rw [parsed] at legible
    exact legible.elim

/-- The section after a line is that of its agent. -/
theorem after_agentid (current : Section) (text : List Char) :
    ((parseLine monitor text).after monitor current).agentid =
      agentAfter monitor current.agentid text := by
  unfold agentAfter
  cases parseLine monitor text <;> rfl

/-- The work for lines fails exactly if one of them ends the reading. -/
theorem failure_lineWorks (current : Section) (texts : List (List Char)) :
    Work.failure (lineWorks monitor current (texts.map (parseLine monitor))) = none ↔
      ∀ text ∈ texts, Legible monitor text := by
  induction texts generalizing current with
  | nil => exact iff_of_true rfl nofun
  | cons text rest inductionHypothesis =>
    rw [List.map_cons, lineWorks, failure_append, Option.or_eq_none_iff, failure_works,
      inductionHypothesis, List.forall_mem_cons]

/-- The rows that the work for lines merges. -/
theorem merged_lineWorks (current : Section) {texts : List (List Char)}
    (legible : ∀ text ∈ texts, Legible monitor text) :
    Work.merged (lineWorks monitor current (texts.map (parseLine monitor))) =
      addedRows monitor current.agentid texts := by
  induction texts generalizing current with
  | nil => rfl
  | cons text rest inductionHypothesis =>
    obtain ⟨own, others⟩ := List.forall_mem_cons.mp legible
    rw [List.map_cons, lineWorks, merged_append ((failure_works current text).mpr own),
      merged_works current own, inductionHypothesis _ others, after_agentid]
    rfl

end Works

/-! ## The status that lines tell -/

section Told

variable {monitor : Monitor}

/-- The status of the server by more of what lines say. -/
def overallAfter (told : Option String) (statuses : List String) : Option String :=
  if "DEGRADED" ∈ statuses then some "DEGRADED" else told.or statuses.head?

/-- The status after a line that tells one. -/
theorem overallAfter_cons (told : Option String) (serverStatus : String) (rest : List String) :
    overallAfter (if told = none ∨ serverStatus = "DEGRADED" then some serverStatus else told) rest =
      overallAfter told (serverStatus :: rest) := by
  unfold overallAfter
  by_cases degraded : serverStatus = "DEGRADED"
  · simp [degraded]
  · cases told with
    | none => simp [Ne.symm degraded]
    | some status => simp [degraded, Ne.symm degraded]

/-- A line tells a status in the section of an agent that is known, and otherwise none. -/
theorem after_cases (current : Section) (text : List Char) :
    (∃ serverStatus, current.agentid.isSome ∧ parseLine monitor text = .status serverStatus ∧
        saidStatus monitor current.agentid text = [said monitor text] ∧
        ((parseLine monitor text).after monitor current).tableauStatus =
          if current.tableauStatus = none ∨ serverStatus = "DEGRADED" then some serverStatus
          else current.tableauStatus) ∨
      saidStatus monitor current.agentid text = [] ∧
        ((parseLine monitor text).after monitor current).tableauStatus =
          current.tableauStatus := by
  obtain ⟨agentid, told⟩ := current
  unfold saidStatus
  cases agentid with
  | none =>
    refine .inr ⟨rfl, ?_⟩
    cases parseLine monitor text with
    | status serverStatus => simp [Line.after, toldAfter]
    | _ => rfl
  | some known =>
    cases parsed : parseLine monitor text with
    | status serverStatus =>
      refine .inl ⟨serverStatus, rfl, rfl, rfl, ?_⟩
      simp [Line.after, toldAfter]
    | _ => exact .inr ⟨rfl, rfl⟩

/-- The status that is read of plain lines is the one that they tell. -/
theorem foldl_after {texts : List (List Char)} (current : Section)
    (plain : AllPlain monitor current.agentid texts) :
    ((texts.map (parseLine monitor)).foldl (Line.after monitor) current).tableauStatus =
      overallAfter current.tableauStatus (saidStatuses monitor current.agentid texts) := by
  induction texts generalizing current with
  | nil =>
    unfold overallAfter saidStatuses
    simp
  | cons text rest inductionHypothesis =>
    have continued := inductionHypothesis ((parseLine monitor text).after monitor current)
    rw [after_agentid] at continued
    have cons : saidStatuses monitor current.agentid (text :: rest) =
        saidStatus monitor current.agentid text ++
          saidStatuses monitor (agentAfter monitor current.agentid text) rest := rfl
    rw [List.map_cons, List.foldl_cons, continued plain.2, cons]
    rcases @after_cases monitor current text with ⟨status, known, parsed, own, told⟩ | ⟨none, kept⟩
    · have same := (plain.1 known).2
      rw [parsed] at same
      rw [told, overallAfter_cons, own, same]
      rfl
    · rw [none, kept, List.nil_append]

/-- A status is read exactly if a line of a known section tells one. -/
theorem foldl_after_isSome (texts : List (List Char)) (current : Section) :
    ((texts.map (parseLine monitor)).foldl (Line.after monitor) current).tableauStatus.isSome ↔
      current.tableauStatus.isSome ∨ saidStatuses monitor current.agentid texts ≠ [] := by
  induction texts generalizing current with
  | nil => simp [saidStatuses]
  | cons text rest inductionHypothesis =>
    have continued := inductionHypothesis ((parseLine monitor text).after monitor current)
    rw [after_agentid] at continued
    have cons : saidStatuses monitor current.agentid (text :: rest) =
        saidStatus monitor current.agentid text ++
          saidStatuses monitor (agentAfter monitor current.agentid text) rest := rfl
    rw [List.map_cons, List.foldl_cons, continued, cons]
    rcases @after_cases monitor current text with ⟨status, known, parsed, own, told⟩ | ⟨none, kept⟩
    · have some : ((parseLine monitor text).after monitor current).tableauStatus.isSome := by
        rw [told]
        split
        · rfl
        · next other =>
          rw [not_or] at other
          exact Option.isSome_iff_ne_none.mpr other.1
      refine iff_of_true (.inl some) (.inr ?_)
      rw [own]
      exact List.cons_ne_nil _ _
    · rw [none, kept, List.nil_append]

end Told

/-! ## The reading with what it records -/

/-- `_get_status_tabadmin`, with the status that it records as that of the server. -/
def recordTabadmin (body : Dict) : Visit (Option String) := do
  match ← settle (stdoutOf body) with
  | none => pure none
  | some stdout => do
    let _prevTableauStatus ← getTableauStatus monitor
    removeAllStatus
    query
    let final ← (linesOf stdout).foldlM (readLine monitor) (firstSection monitor)
    match final.tableauStatus with
    | none => do
      Session.rollback
      pure none
    | some tableauStatus => do
      finishStatus monitor
      pure (if monitor.busy then none else some tableauStatus)

/-- The reading is the one that records, but for what it returns. -/
theorem readTabadmin_eq_record (body : Dict) :
    readTabadmin monitor body = (do
      let _ ← recordTabadmin monitor body
      pure ⟨⟩) := by
  unfold readTabadmin recordTabadmin
  simp only [bind_assoc]
  refine bind_congr fun replied => ?_
  cases replied with
  | none => simp
  | some stdout =>
    simp only [bind_assoc]
    refine bind_congr fun _ => bind_congr fun _ => bind_congr fun _ => bind_congr fun final => ?_
    cases final.tableauStatus with
    | none => simp
    | some status => simp

/-! ## When an output is read as it is -/

/-- The status that an output tells. -/
def toldBy (stdout : String) : Option String :=
  overall (saidStatuses monitor (some monitor.agentid) (linesOf stdout))

/-- The reading raises nothing. If the output tells no status or a user action holds the lock,
nothing is recorded and the table stays as it was. Otherwise the status that is told is recorded,
and the table has the rows that the lines should give. -/
def ReadsStatus (body : Dict) (stdout : String) (session : Session Process) : Prop :=
  Ends (recordTabadmin monitor body) session
    (fun recorded final =>
      if (toldBy monitor stdout).isSome ∧ monitor.busy = false then
        recorded = toldBy monitor stdout ∧
          Stays (dueRows monitor (some monitor.agentid) (linesOf stdout)) final
      else recorded = none ∧ Stays session.committed final)
    fun _ _ => False

/-- The status can be looked up in the table, every line can be read, the numbers that are
written fit their column; and if the rows are to be committed, the last number fits as well and
every line of a known section gives the row that it should. -/
structure Unspoilt (stdout : String) (committed : List Process) : Prop where
  looked : ∃ status, tableauStatus monitor.isPrimary committed = .ok status
  legible : ∀ text ∈ linesOf stdout, Legible monitor text
  storable : Work.Storable Process.storable none (outputWorks monitor stdout)
  told : (toldBy monitor stdout).isSome → monitor.busy = false →
    (Work.unwritten none (outputWorks monitor stdout)).all Process.storable = true ∧
      AllPlain monitor (some monitor.agentid) (linesOf stdout)

section Reading

variable {monitor : Monitor} {stdout : String}

/-- How the reading of an output ends in a new session. -/
theorem ends_recordTabadmin {body : Dict} {status : String} {session : Session Process}
    {returned : Option String → Session Process → Prop}
    {raised : Fault → Session Process → Prop} (replied : stdoutOf body = .ok (some stdout))
    (clean : session.pending = none)
    (found : tableauStatus monitor.isPrimary session.view = .ok status) :
    Ends (recordTabadmin monitor body) session returned raised ↔
      Ends (Work.performAll Process.storable outOfRange (outputWorks monitor stdout))
        (cleared session)
        (fun _ final =>
          match outputStatus monitor stdout with
          | none => returned none final.undone
          | some told => Ends (finishStatus monitor) final
              (fun _ last => returned (if monitor.busy then none else some told) last) raised)
        raised := by
  have cleanAfter : (cleared session).pending = none := clean
  simp only [recordTabadmin, replied, ends_bind, ends_settle_ok, ends_getTableauStatus clean, found,
    ends_removeAllStatus clean, ends_query, cleanAfter, Option.all_none, if_true,
    flushed_of_clean cleanAfter, readLines_eq, ends_pure]
  refine ends_congr (ends_of_forall _ (fun _ final => ?_) fun _ _ => Iff.rfl)
  simp only [outputStatus, outputLines]
  split <;> simp

/-- An output tells a status where one is read. -/
theorem outputStatus_isSome :
    (outputStatus monitor stdout).isSome ↔ (toldBy monitor stdout).isSome := by
  have read := @foldl_after_isSome monitor (linesOf stdout) (firstSection monitor)
  have first : (firstSection monitor).agentid = some monitor.agentid := rfl
  have unknown : (firstSection monitor).tableauStatus.isSome ↔ False := iff_of_false nofun id
  rw [first, unknown, false_or] at read
  unfold outputStatus outputLines toldBy overall
  rw [read]
  split
  · next degraded => exact iff_of_true (List.ne_nil_of_mem degraded) rfl
  · rw [List.isSome_head?]

/-- What is read of plain lines is what they tell. -/
theorem outputStatus_eq (plain : AllPlain monitor (some monitor.agentid) (linesOf stdout)) :
    outputStatus monitor stdout = toldBy monitor stdout := by
  have read := foldl_after (firstSection monitor) plain
  unfold outputStatus outputLines toldBy overall
  rw [read]
  unfold overallAfter
  rfl

/-- A check that is finished has committed all its rows. -/
theorem committed_finished (session : Session Process) :
    (finished monitor session).committed = session.contents := by
  unfold finished
  split <;> rfl

/-- These rows stay. -/
theorem stays_finished (session : Session Process) :
    Stays session.contents (finished monitor session) := by
  refine ⟨committed_finished session, ?_⟩
  unfold finished
  split <;> simp [ends_commit, Session.saved, Session.flushed, Session.contents]

end Reading

/-- What an agent replies to the command. -/
def repliedWith (stdout : String) : Dict :=
  [("exit-status", .number 0), ("stdout", .text stdout)]

/-- The output that is taken from a reply. -/
theorem stdoutOf_eq_ok {body : Dict} {stdout : String}
    (taken : (stdoutOf body).toOption = some (some stdout)) :
    stdoutOf body = .ok (some stdout) := by
  cases replied : stdoutOf body with
  | error fault =>
    rw [replied] at taken
    cases taken
  | ok output =>
    rw [replied] at taken
    rw [Option.some.inj taken]

/-- An output that tells a status leaves the rows that its lines should give. -/
theorem ReadsStatus.committed {monitor : Monitor} {body : Dict} {stdout : String}
    {session : Session Process} (reads : ReadsStatus monitor body stdout session)
    (told : (toldBy monitor stdout).isSome ∧ monitor.busy = false) :
    ((recordTabadmin monitor body).run.run session).2.committed =
      dueRows monitor (some monitor.agentid) (linesOf stdout) := by
  have left : Ends (recordTabadmin monitor body) session
      (fun _ final => final.committed = dueRows monitor (some monitor.agentid) (linesOf stdout))
      (fun _ final => final.committed = dueRows monitor (some monitor.agentid) (linesOf stdout)) := by
    refine Ends.mono reads (fun _ final read => ?_) fun _ _ impossible => impossible.elim
    rw [if_pos told] at read
    exact read.2.1
  exact (ends_state _).mp left

/-- Nothing spoils a single line without an end. -/
theorem unspoilt_single :
    Unspoilt plainMonitor "Status: RUNNING" [] := by
  have lines : linesOf "Status: RUNNING" = ["Status: RUNNING".toList] := by decide +kernel
  have parsed : parseLine plainMonitor "Status: RUNNING".toList = .status "RUNNING" := by
    decide +kernel
  have legible : Legible plainMonitor "Status: RUNNING".toList := by
    unfold Legible
    rw [parsed]
    exact trivial
  have plain : Plain plainMonitor "Status: RUNNING".toList := by
    unfold Plain
    rw [parsed]
    decide +kernel
  have works : outputWorks plainMonitor "Status: RUNNING" =
      [.merge ⟨1, "Status", 0, "RUNNING"⟩] := by
    unfold outputWorks outputLines
    rw [lines, List.map_cons, parsed]
    rfl
  refine ⟨⟨"UNKNOWN", rfl⟩, ?_, ?_, fun _ _ => ⟨?_, ?_⟩⟩
  · rw [lines]
    exact List.forall_mem_singleton.mpr legible
  · rw [works]
    exact ⟨rfl, trivial⟩
  · rw [works]
    rfl
  · rw [lines]
    exact ⟨fun _ => plain, trivial⟩

/-- An output that tells a status is not read as it should be if it leaves other rows than those
that its lines should give. -/
theorem not_always_read {monitor : Monitor} {body : Dict} {stdout : String}
    (taken : (stdoutOf body).toOption = some (some stdout))
    (told : (toldBy monitor stdout).isSome ∧ monitor.busy = false)
    (apart : ((recordTabadmin monitor body).run.run (.begin [] [])).2.committed ≠
      dueRows monitor (some monitor.agentid) (linesOf stdout)) :
    ¬ ∀ (monitor : Monitor) (body : Dict) (stdout : String) (committed : List Process)
      (published : List (List Process)), stdoutOf body = .ok (some stdout) →
      ReadsStatus monitor body stdout (.begin committed published) := fun always =>
  apart ((always monitor body stdout [] [] (stdoutOf_eq_ok taken)).committed told)

end Palette.Processes
