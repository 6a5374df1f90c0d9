import Mathlib
import Palette.Settings.Defaults

/-!
# Running a command on an agent

The agent keeps a directory for every command that it was asked to run, and `prun` runs the
command in it. The command writes into the files `stdout` and `stderr`. Once it is over its exit
status is written into the file `tmp`, which then gets the name `returncode`. If `prun` cannot
open a file or cannot start the command, it writes the reason into `stderr` and -1 as the exit
status.

The directory may be removed while `prun` is at work. Then it cannot open a file there, and what
the command writes goes into files that have lost their names. A command that leaves a process
behind which goes on writing is not modelled.
-/

namespace Palette.ProcessManager

open Palette.Settings (intText)
open Palette.Telnet (Text)

/-- The files of a command. -/
inductive FileName where
  | pid
  | cmd
  | stdout
  | stderr
  | tmp
  | returncode
  deriving DecidableEq, Repr

/-- The names of all files. -/
def FileName.all : List FileName := [.pid, .cmd, .stdout, .stderr, .tmp, .returncode]

/-- The directory of a command with what is in its files. -/
abbrev Directory := FileName → Option Text

namespace Directory

/-- A new directory. -/
def empty : Directory := fun _ => none

/-- `open(name, 'w')`, and a text that is written into the file. -/
def put (directory : Directory) (name : FileName) (text : Text) : Directory :=
  Function.update directory name (some text)

/-- A text that is written into an open file. The file may have lost its name. -/
def append (directory : Directory) (name : FileName) (text : Text) : Directory :=
  Function.update directory name ((directory name).map (· ++ text))

/-- `os.unlink`. -/
def unlink (directory : Directory) (name : FileName) : Directory :=
  Function.update directory name none

/-- `os.rename('./tmp', './returncode')` where there is a file to rename. -/
def rename (directory : Directory) (text : Text) : Directory :=
  (directory.unlink .tmp).put .returncode text

end Directory

/-- What `prun` makes known: the exit status of the command, or why there is none. -/
inductive Verdict where
  | exited (returncode : Int)
  | failed (message : Text)
  deriving DecidableEq, Repr

/-- The number in the file `returncode`. -/
def Verdict.returncode : Verdict → Int
  | exited returncode => returncode
  | failed _ => -1

/-- What is in the file `stderr` in the end, for a command that has written `err` there. -/
def Verdict.stderr (err : Text) : Verdict → Text
  | exited _ => err
  | failed message => message ++ ['\n']

/-- What `prun` does next. -/
inductive Phase where
  /-- It opens `stdout`. -/
  | started
  /-- It opens `stderr`. -/
  | opening
  /-- It starts the command. -/
  | calling
  /-- It waits for the command. -/
  | running
  /-- It opens `tmp` for an exit status. -/
  | exited (returncode : Int)
  /-- It opens `stderr` again for a message. -/
  | failing (message : Text)
  /-- It writes the message. -/
  | explaining (message : Text)
  /-- It opens `tmp` for the exit status -1. -/
  | explained (message : Text)
  /-- It writes the exit status. -/
  | noting (verdict : Verdict)
  /-- It renames `tmp`. -/
  | noted (verdict : Verdict)
  /-- It has ended, with what it has made known. -/
  | done (verdict : Option Verdict)
  deriving DecidableEq, Repr

/-- A command that runs under `prun`, with all that it has written. -/
structure Process where
  phase : Phase
  out : Text
  err : Text
  deriving DecidableEq, Repr

/-- What `prun` has made known. -/
def Process.verdict (process : Process) : Option Verdict :=
  match process.phase with
  | .done verdict => verdict
  | _ => none

/-- `prun` when it is started. -/
def Process.begun : Process := ⟨.started, [], []⟩

/-- What happens to `prun` and its command. -/
inductive Move where
  /-- The next operation of `prun` succeeds. -/
  | goes
  /-- The command writes into `stdout`. -/
  | prints (text : Text)
  /-- The command writes into `stderr`. -/
  | complains (text : Text)
  /-- The command is over. -/
  | exits (returncode : Int)
  /-- The next operation raises what `prun` catches. -/
  | raises (message : Text)
  /-- `prun` ends before it has made anything known. -/
  | stops
  deriving DecidableEq, Repr

namespace Process

/-- The next operation of `prun`, where it succeeds. A file can only be opened or renamed in a
directory that is still there. -/
def goes (process : Process) (directory : Option Directory) : Option (Process × Option Directory) :=
  match process.phase with
  | .started =>
    directory.map fun files => ({ process with phase := .opening }, some (files.put .stdout []))
  | .opening =>
    directory.map fun files => ({ process with phase := .calling }, some (files.put .stderr []))
  | .calling => some ({ process with phase := .running }, directory)
  | .exited returncode =>
    directory.map fun files =>
      ({ process with phase := .noting (.exited returncode) }, some (files.put .tmp []))
  | .failing message =>
    directory.map fun files =>
      ({ process with phase := .explaining message }, some (files.put .stderr []))
  | .explaining message =>
    some ({ process with phase := .explained message },
      directory.map fun files => files.append .stderr (message ++ ['\n']))
  | .explained message =>
    directory.map fun files =>
      ({ process with phase := .noting (.failed message) }, some (files.put .tmp []))
  | .noting verdict =>
    some ({ process with phase := .noted verdict },
      directory.map fun files => files.append .tmp (intText verdict.returncode))
  | .noted verdict =>
    directory.bind fun files => (files .tmp).map fun text =>
      ({ process with phase := .done (some verdict) }, some (files.rename text))
  | .running | .done _ => none

/-- A step of `prun` or of its command. What is raised inside of the `try` leads to the handler;
what the handler raises, and a renaming that fails, end `prun`. -/
def step (process : Process) (directory : Option Directory) :
    Move → Option (Process × Option Directory)
  | .goes => process.goes directory
  | .prints text =>
    if process.phase = .running then
      some ({ process with out := process.out ++ text },
        directory.map fun files => files.append .stdout text)
    else none
  | .complains text =>
    if process.phase = .running then
      some ({ process with err := process.err ++ text },
        directory.map fun files => files.append .stderr text)
    else none
  | .exits returncode =>
    if process.phase = .running then
      some ({ process with phase := .exited returncode }, directory)
    else none
  | .raises message =>
    match process.phase with
    | .started | .opening | .calling | .exited _ | .noting (.exited _) =>
      some ({ process with phase := .failing message }, directory)
    | _ => none
  | .stops =>
    match process.phase with
    | .done _ => none
    | _ => some ({ process with phase := .done none }, directory)

end Process

/-! ## What the files say -/

/-- What is in `stderr`, as far as `prun` has come. Nothing is said about one that ended
early. -/
def Process.stderrIs (process : Process) (text : Text) : Prop :=
  match process.phase with
  | .explaining _ => text = []
  | .explained message => text = message ++ ['\n']
  | .noting verdict | .noted verdict | .done (some verdict) => text = verdict.stderr process.err
  | .done none => True
  | _ => text = process.err

/-- What is in `tmp` when `prun` has opened it. -/
def Process.tmpIs (process : Process) (text : Text) : Prop :=
  match process.phase with
  | .noting _ => text = []
  | .noted verdict => text = intText verdict.returncode
  | _ => True

/-- A command that has not been started has written nothing. -/
def Process.Silent (process : Process) : Prop :=
  match process.phase with
  | .started | .opening | .calling => process.out = [] ∧ process.err = []
  | _ => True

/-- The files of a command say what it has written, and its exit status is there only after
`prun` has made it known. -/
structure Records (process : Process) (directory : Directory) : Prop where
  silent : process.Silent
  stdout : ∀ text ∈ directory .stdout, text = process.out
  stderr : ∀ text ∈ directory .stderr, process.stderrIs text
  tmp : ∀ text ∈ directory .tmp, process.tmpIs text
  returncode : ∀ text ∈ directory .returncode, ∃ verdict,
    process.verdict = some verdict ∧ text = intText verdict.returncode

namespace Directory

variable {directory : Directory} {name other : FileName} {text written : Text}

@[simp] theorem put_self : directory.put name text name = some text := Function.update_self ..

@[simp] theorem put_of_ne (different : other ≠ name) :
    directory.put name text other = directory other := Function.update_of_ne different ..

@[simp] theorem append_self :
    directory.append name text name = (directory name).map (· ++ text) := Function.update_self ..

@[simp] theorem append_of_ne (different : other ≠ name) :
    directory.append name text other = directory other := Function.update_of_ne different ..

@[simp] theorem unlink_self : directory.unlink name name = none := Function.update_self ..

@[simp] theorem unlink_of_ne (different : other ≠ name) :
    directory.unlink name other = directory other := Function.update_of_ne different ..

/-- What is left after a file was unlinked was there before. -/
theorem mem_of_mem_unlink (left : written ∈ directory.unlink name other) :
    written ∈ directory other := by
  by_cases same : other = name
  · rw [same, unlink_self] at left
    cases left
  · rwa [unlink_of_ne same] at left

/-- What is true of a file stays true when another one is opened. -/
theorem forall_put {statement : Text → Prop} (holds : ∀ text ∈ directory other, statement text)
    (different : other ≠ name) : ∀ text ∈ directory.put name written other, statement text := by
  rw [put_of_ne different]
  exact holds

/-- What is true of a file stays true when another one is written to. -/
theorem forall_append {statement : Text → Prop} (holds : ∀ text ∈ directory other, statement text)
    (different : other ≠ name) : ∀ text ∈ directory.append name written other, statement text := by
  rw [append_of_ne different]
  exact holds

/-- A file that was opened is empty. -/
theorem mem_put_self : written ∈ directory.put name text name ↔ text = written := by
  rw [put_self, Option.mem_def, Option.some.injEq]

/-- A text that was added to an open file. -/
theorem mem_append_self : written ∈ directory.append name text name ↔
    ∃ before ∈ directory name, written = before ++ text := by
  rw [append_self, Option.mem_def, Option.map_eq_some_iff]
  exact exists_congr fun before => and_congr Iff.rfl eq_comm

end Directory

/-- A new directory is right for `prun` when it is started. -/
theorem records_begun : Records .begun .empty where
  silent := ⟨rfl, rfl⟩
  stdout _ found := by cases found
  stderr _ found := by cases found
  tmp _ found := by cases found
  returncode _ found := by cases found

namespace Records

variable {process : Process} {directory : Directory}

/-- A file that is unlinked takes nothing wrong away. -/
theorem unlink (records : Records process directory) (name : FileName) :
    Records process (directory.unlink name) :=
  ⟨records.silent, fun text left => records.stdout text (Directory.mem_of_mem_unlink left),
    fun text left => records.stderr text (Directory.mem_of_mem_unlink left),
    fun text left => records.tmp text (Directory.mem_of_mem_unlink left),
    fun text left => records.returncode text (Directory.mem_of_mem_unlink left)⟩

/-- A file of the agent's own says nothing about the command. -/
theorem note (records : Records process directory) {name : FileName}
    (aside : name = .pid ∨ name = .cmd) (text : Text) : Records process (directory.put name text) := by
  rcases aside with rfl | rfl
  · exact ⟨records.silent, records.stdout, records.stderr, records.tmp, records.returncode⟩
  · exact ⟨records.silent, records.stdout, records.stderr, records.tmp, records.returncode⟩

/-- No exit status is there before it is made known. -/
theorem hidden (records : Records process directory) (unknown : process.verdict = none) :
    directory .returncode = none := by
  cases found : directory .returncode with
  | none => rfl
  | some text =>
    obtain ⟨verdict, known, _⟩ := records.returncode text found
    rw [unknown] at known
    cases known

/-- The files stay right in a step that leaves the exit status hidden. -/
theorem of_hidden {next : Process} {after : Directory} (hidden : after .returncode = none)
    (silent : next.Silent) (stdout : ∀ text ∈ after .stdout, text = next.out)
    (stderr : ∀ text ∈ after .stderr, next.stderrIs text)
    (tmp : ∀ text ∈ after .tmp, next.tmpIs text) : Records next after where
  silent := silent
  stdout := stdout
  stderr := stderr
  tmp := tmp
  returncode text found := by
    rw [hidden] at found
    cases found

/-- The next operation of `prun` keeps the files right. -/
theorem goes (records : Records process directory) {next : Process} {after : Option Directory}
    (moved : process.goes (some directory) = some (next, after)) :
    ∃ files, after = some files ∧ Records next files := by
  obtain ⟨phase, out, err⟩ := process
  obtain ⟨silent, stdout, stderr, tmp, -⟩ := id records
  cases phase with
  | started =>
    cases moved
    refine ⟨_, rfl, of_hidden (records.hidden rfl) silent ?_ ?_ fun _ _ => trivial⟩
    · intro text found
      rw [← Directory.mem_put_self.mp found, silent.1]
    · exact Directory.forall_put stderr (by decide)
  | opening =>
    cases moved
    refine ⟨_, rfl, of_hidden (records.hidden rfl) silent ?_ ?_ fun _ _ => trivial⟩
    · exact Directory.forall_put stdout (by decide)
    · intro text found
      exact (Directory.mem_put_self.mp found).symm.trans silent.2.symm
  | calling =>
    cases moved
    exact ⟨_, rfl, of_hidden (records.hidden rfl) trivial stdout stderr fun _ _ => trivial⟩
  | running => cases moved
  | exited returncode =>
    cases moved
    refine ⟨_, rfl, of_hidden (records.hidden rfl) trivial ?_ ?_ ?_⟩
    · exact Directory.forall_put stdout (by decide)
    · exact Directory.forall_put stderr (by decide)
    · exact fun text found => (Directory.mem_put_self.mp found).symm
  | failing message =>
    cases moved
    refine ⟨_, rfl, of_hidden (records.hidden rfl) trivial ?_ ?_ fun _ _ => trivial⟩
    · exact Directory.forall_put stdout (by decide)
    · exact fun text found => (Directory.mem_put_self.mp found).symm
  | explaining message =>
    cases moved
    refine ⟨_, rfl, of_hidden (records.hidden rfl) trivial ?_ ?_ fun _ _ => trivial⟩
    · exact Directory.forall_append stdout (by decide)
    · intro text found
      obtain ⟨before, had, rfl⟩ := Directory.mem_append_self.mp found
      have nothing : before = [] := stderr before had
      rw [nothing]
      rfl
  | explained message =>
    cases moved
    refine ⟨_, rfl, of_hidden (records.hidden rfl) trivial ?_ ?_ ?_⟩
    · exact Directory.forall_put stdout (by decide)
    · exact Directory.forall_put stderr (by decide)
    · exact fun text found => (Directory.mem_put_self.mp found).symm
  | noting verdict =>
    cases moved
    refine ⟨_, rfl, of_hidden (records.hidden rfl) trivial ?_ ?_ ?_⟩
    · exact Directory.forall_append stdout (by decide)
    · exact Directory.forall_append stderr (by decide)
    · intro text found
      obtain ⟨before, had, rfl⟩ := Directory.mem_append_self.mp found
      have nothing : before = [] := tmp before had
      rw [nothing]
      rfl
  | noted verdict =>
    cases found : directory .tmp with
    | none => simp [Process.goes, found] at moved
    | some text =>
      simp only [Process.goes, found, Option.bind_some, Option.map_some, Option.some.injEq,
        Prod.mk.injEq] at moved
      obtain ⟨rfl, rfl⟩ := moved
      refine ⟨_, rfl, trivial, stdout, stderr, fun _ _ => trivial, fun code same => ?_⟩
      exact ⟨verdict, rfl, (Directory.mem_put_self.mp same).symm.trans (tmp text found)⟩
  | done verdict => cases moved

/-- A step of `prun` or its command keeps the files right. -/
theorem step (records : Records process directory) {move : Move} {next : Process}
    {after : Option Directory} (moved : process.step (some directory) move = some (next, after)) :
    ∃ files, after = some files ∧ Records next files := by
  obtain ⟨phase, out, err⟩ := process
  obtain ⟨silent, stdout, stderr, tmp, -⟩ := id records
  cases move with
  | goes => exact records.goes moved
  | prints text =>
    obtain ⟨rfl, same⟩ := Option.ite_none_right_eq_some.mp moved
    cases same
    refine ⟨_, rfl, of_hidden (records.hidden rfl) trivial ?_ ?_ fun _ _ => trivial⟩
    · intro written found
      obtain ⟨before, had, rfl⟩ := Directory.mem_append_self.mp found
      rw [stdout before had]
    · exact Directory.forall_append stderr (by decide)
  | complains text =>
    obtain ⟨rfl, same⟩ := Option.ite_none_right_eq_some.mp moved
    cases same
    refine ⟨_, rfl, of_hidden (records.hidden rfl) trivial ?_ ?_ fun _ _ => trivial⟩
    · exact Directory.forall_append stdout (by decide)
    · intro written found
      obtain ⟨before, had, rfl⟩ := Directory.mem_append_self.mp found
      have same : before = err := stderr before had
      rw [same]
      rfl
  | exits returncode =>
    obtain ⟨rfl, same⟩ := Option.ite_none_right_eq_some.mp moved
    cases same
    exact ⟨_, rfl, of_hidden (records.hidden rfl) trivial stdout stderr fun _ _ => trivial⟩
  | raises message =>
    cases phase with
    | started | opening | calling | exited _ =>
      cases moved
      exact ⟨_, rfl, of_hidden (records.hidden rfl) trivial stdout stderr fun _ _ => trivial⟩
    | noting verdict =>
      cases verdict with
      | exited returncode =>
        cases moved
        exact ⟨_, rfl, of_hidden (records.hidden rfl) trivial stdout stderr fun _ _ => trivial⟩
      | failed reason => cases moved
    | _ => cases moved
  | stops =>
    cases phase with
    | done verdict => cases moved
    | _ =>
      cases moved
      exact ⟨_, rfl, of_hidden (records.hidden rfl) trivial stdout (fun _ _ => trivial)
        fun _ _ => trivial⟩

/-- What the agent finds in the files of a command whose exit status is there. -/
theorem found (records : Records process directory) {code out err : Text}
    (coded : directory .returncode = some code) (printed : directory .stdout = some out)
    (complained : directory .stderr = some err) :
    ∃ verdict, process.verdict = some verdict ∧ code = intText verdict.returncode ∧
      out = process.out ∧ err = verdict.stderr process.err := by
  obtain ⟨verdict, known, same⟩ := records.returncode code coded
  refine ⟨verdict, known, same, records.stdout out printed, ?_⟩
  have whole := records.stderr err complained
  obtain ⟨phase, out, err⟩ := process
  cases phase with
  | done verdict' =>
    have same : verdict' = some verdict := known
    rw [same] at whole
    exact whole
  | _ => cases known

end Records

/-- When `prun` has made something known, nothing more happens. -/
theorem Process.step_of_verdict {process : Process} {verdict : Verdict}
    (known : process.verdict = some verdict) (directory : Option Directory) (move : Move) :
    process.step directory move = none := by
  obtain ⟨phase, out, err⟩ := process
  cases phase with
  | done verdict => cases move <;> rfl
  | _ => cases known

/-- A removed directory does not come back. -/
theorem Process.step_removed {process next : Process} {move : Move} {after : Option Directory}
    (moved : process.step none move = some (next, after)) : after = none := by
  obtain ⟨phase, out, err⟩ := process
  cases move with
  | goes =>
    cases phase <;> cases moved <;> rfl
  | prints text | complains text | exits returncode =>
    obtain ⟨-, same⟩ := Option.ite_none_right_eq_some.mp moved
    cases same
    rfl
  | raises message =>
    cases phase with
    | noting verdict =>
      cases verdict <;> cases moved
      rfl
    | _ => cases moved <;> rfl
  | stops =>
    cases phase <;> cases moved <;> rfl

end Palette.ProcessManager
