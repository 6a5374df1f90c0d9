import Palette.ProcessManager.Requests

/-!
# What an agent replies

The agent finds out about a command from several files, one after the other, while `prun` goes on.
What it replies about a command that is over is all the same what `prun` has made known of it: the
exit status gets its name after everything else is written, and from then on nothing changes until
the agent itself removes the directory.
-/

namespace Palette.ProcessManager

open Palette.Settings (intText intOfText intOfText_intText)
open Palette.Telnet (Text strip strip_strip)
open Palette.Foundation

/-- What there is to know of a command, once `prun` has made it known. -/
def Process.outcome (process : Process) (verdict : Verdict) : Outcome :=
  ⟨verdict.returncode, strip process.out, strip (verdict.stderr process.err)⟩

namespace Agent

/-- An outcome is the one of a command. -/
def Tells (agent : Agent) (xid : ℕ+) (outcome : Outcome) : Prop :=
  ∃ process verdict, agent.processes xid = some process ∧ process.verdict = some verdict ∧
    outcome = process.outcome verdict

/-- What is replied is about the command of the request, and an outcome is its outcome. -/
def Truthful (agent : Agent) (request : Request) (info : Option Info) : Prop :=
  ∀ known ∈ info, known.xid = request.xid ∧ ∀ outcome ∈ known.outcome, agent.Tells request.xid outcome

/-- What `getinfo` has collected so far is what the files say. -/
def Gathered (agent : Agent) (xid : ℕ+) : Reading → Prop
  | .pid | .isdone _ => True
  | .returncode _ => isdone (agent.directories xid) = true
  | .stdout _ exitStatus => isdone (agent.directories xid) = true ∧
      exitStatus = (Directory.readInt (agent.directories xid) .returncode).getD (-1)
  | .stderr _ exitStatus out => isdone (agent.directories xid) = true ∧
      exitStatus = (Directory.readInt (agent.directories xid) .returncode).getD (-1) ∧
      Directory.read (agent.directories xid) .stdout = some out

/-- What is true while the agent serves a request. -/
def Follows (agent : Agent) : Serving → Prop
  | .starting xid _ _ =>
    xid < agent.next ∧ agent.processes xid = none ∧ agent.directories xid = none
  | .made xid _ _ =>
    xid < agent.next ∧ agent.processes xid = none ∧ agent.directories xid = some .empty
  | .spawned xid .. | .numbered xid .. => agent.processes xid ≠ none
  | .waiting .. => True
  | .reading request reading => agent.Gathered request.xid reading
  | .clearing request info | .removing request info _ | .replying request info =>
    agent.Truthful request info

end Agent

/-- A number that has not been given out has no command, the files of a command say what it has
done, and a directory without a command is empty. -/
structure Stored (agent : Agent) : Prop where
  fresh : ∀ xid, agent.next ≤ xid → agent.processes xid = none ∧ agent.directories xid = none
  records : ∀ xid process files, agent.processes xid = some process →
    agent.directories xid = some files → Records process files
  unstarted : ∀ xid files, agent.processes xid = none → agent.directories xid = some files →
    files = .empty

/-- The state of an agent whose replies are right. -/
structure Sound (agent : Agent) : Prop where
  stored : Stored agent
  serving : ∀ serving ∈ agent.serving, agent.Follows serving
  answers : ∀ answer ∈ agent.answers, agent.Truthful answer.1 answer.2

/-! ## Reading -/

/-- The number in a text is the one in the stripped text. -/
theorem intOfText_strip (text : Text) : intOfText (strip text) = intOfText text := by
  unfold intOfText
  rw [strip_strip]

section Reading

variable {agent : Agent} {xid : ℕ+}

/-- A directory in which the exit status has its name belongs to a command of which everything is
known. -/
theorem Stored.known (stored : Stored agent) {files : Directory} {code : Text}
    (found : agent.directories xid = some files) (coded : files .returncode = some code) :
    ∃ process verdict, agent.processes xid = some process ∧ process.verdict = some verdict ∧
      Records process files ∧ code = intText verdict.returncode := by
  cases started : agent.processes xid with
  | none =>
    rw [stored.unstarted xid files started found] at coded
    cases coded
  | some process =>
    have records := stored.records xid process files started found
    obtain ⟨verdict, known, same⟩ := records.returncode code coded
    exact ⟨process, verdict, rfl, known, records, same⟩

/-- What is read from a directory is there. -/
theorem Directory.read_eq_some {directory : Option Directory} {name : FileName} {text : Text} :
    Directory.read directory name = some text ↔
      ∃ files written, directory = some files ∧ files name = some written ∧ text = strip written := by
  simp only [Directory.read, Option.map_eq_some_iff, Option.bind_eq_some_iff]
  constructor
  · rintro ⟨written, ⟨files, there, found⟩, same⟩
    exact ⟨files, written, there, found, same.symm⟩
  · rintro ⟨files, written, there, found, same⟩
    exact ⟨written, ⟨files, there, found⟩, same.symm⟩

/-- When all files have been read, they tell the outcome. -/
theorem Stored.tells (stored : Stored agent) {number : Option Int} {exitStatus : Int}
    {out err : Text} (gathered : agent.Gathered xid (.stderr number exitStatus out))
    (complained : Directory.read (agent.directories xid) .stderr = some err) :
    agent.Tells xid ⟨exitStatus, out, err⟩ := by
  obtain ⟨done, status, printed⟩ := gathered
  obtain ⟨files, printedText, found, atStdout, rfl⟩ := Directory.read_eq_some.mp printed
  obtain ⟨files', complainedText, again, atStderr, rfl⟩ := Directory.read_eq_some.mp complained
  obtain rfl := Option.some.inj (found.symm.trans again)
  rw [found] at done status
  obtain ⟨code, coded⟩ := Option.isSome_iff_exists.mp done
  obtain ⟨process, verdict, started, known, records, same⟩ := stored.known found coded
  obtain ⟨verdict', known', -, outSame, errSame⟩ := records.found coded atStdout atStderr
  obtain rfl := Option.some.inj (known.symm.trans known')
  have read : exitStatus = verdict.returncode := by
    rw [status, Directory.readInt, Directory.read, Option.bind_some, coded, Option.map_some,
      Option.bind_some, intOfText_strip, same, intOfText_intText, Option.getD_some]
  exact ⟨process, verdict, started, known, by rw [read, outSame, errSame]; rfl⟩

/-- What follows the collecting is right if the information is. -/
theorem follows_concluded {request : Request} {info : Info}
    (truthful : agent.Truthful request (some info)) : agent.Follows (concluded request info) := by
  unfold concluded
  split
  · exact truthful
  · exact truthful

/-- Every operation of `getinfo` goes on rightly. -/
theorem Stored.reads (stored : Stored agent) {request : Request} {reading : Reading}
    {serving : Serving} (gathered : agent.Gathered request.xid reading)
    (read : reading.next request (agent.directories request.xid) = some serving) :
    agent.Follows serving := by
  cases reading with
  | pid =>
    cases read
    trivial
  | isdone number =>
    by_cases done : isdone (agent.directories request.xid) = true
    · have same := (if_pos done).symm.trans read
      cases same
      exact done
    · have same := (if_neg done).symm.trans read
      cases same
      refine follows_concluded fun known same => ?_
      cases same
      exact ⟨rfl, fun outcome impossible => by cases impossible⟩
  | returncode number =>
    cases read
    exact ⟨gathered, rfl⟩
  | stdout number exitStatus =>
    obtain ⟨out, printed, rfl⟩ := Option.map_eq_some_iff.mp read
    exact ⟨gathered.1, gathered.2, printed⟩
  | stderr number exitStatus out =>
    obtain ⟨err, complained, rfl⟩ := Option.map_eq_some_iff.mp read
    refine follows_concluded fun known same => ?_
    cases same
    refine ⟨rfl, fun outcome same => ?_⟩
    cases same
    exact stored.tells gathered complained

end Reading

/-! ## What stays -/

/-- What was made known of a command stays as it is. -/
def Keeps (agent next : Agent) : Prop :=
  ∀ xid process verdict, agent.processes xid = some process → process.verdict = some verdict →
    next.processes xid = some process

namespace Keeps

variable {agent next : Agent}

theorem of_same (same : next.processes = agent.processes) : Keeps agent next := by
  intro xid process verdict started _
  rw [same]
  exact started

/-- What is replied stays right. -/
theorem truthful (keeps : Keeps agent next) {request : Request} {info : Option Info}
    (truthful : agent.Truthful request info) : next.Truthful request info := by
  intro known same
  obtain ⟨about, tells⟩ := truthful known same
  refine ⟨about, fun outcome told => ?_⟩
  obtain ⟨process, verdict, started, made, found⟩ := tells outcome told
  exact ⟨process, verdict, keeps _ process verdict started made, made, found⟩

/-- The replies that were sent stay right. -/
theorem answers (keeps : Keeps agent next) (same : next.answers = agent.answers)
    (sound : Sound agent) : ∀ answer ∈ next.answers, next.Truthful answer.1 answer.2 := by
  intro answer member
  rw [same] at member
  exact keeps.truthful (sound.answers answer member)

end Keeps

/-- What is collected depends on one directory only. -/
theorem gathered_congr {agent next : Agent} {xid : ℕ+} {reading : Reading}
    (same : isdone (agent.directories xid) = true →
      next.directories xid = agent.directories xid)
    (gathered : agent.Gathered xid reading) : next.Gathered xid reading := by
  cases reading with
  | pid | isdone number => trivial
  | returncode number =>
    unfold Agent.Gathered at gathered ⊢
    rw [same gathered]
    exact gathered
  | stdout number exitStatus | stderr number exitStatus out =>
    unfold Agent.Gathered at gathered ⊢
    rw [same gathered.1]
    exact gathered

/-! ## Steps of `prun` -/

section Prun

variable {agent next : Agent} {xid : ℕ+} {move : Move}

/-- What a step of `prun` changes. -/
theorem prun_cases (moved : agent.prun xid move = some next) :
    ∃ process after directory, agent.processes xid = some process ∧
      process.step (agent.directories xid) move = some (after, directory) ∧
      next = (agent.store xid directory).put xid after := by
  obtain ⟨process, started, rest⟩ := Option.bind_eq_some_iff.mp moved
  obtain ⟨⟨after, directory⟩, stepped, same⟩ := Option.map_eq_some_iff.mp rest
  exact ⟨process, after, directory, started, stepped, same.symm⟩

/-- A step of `prun` leaves the other commands. -/
theorem prun_others (moved : agent.prun xid move = some next) {other : ℕ+} (different : other ≠ xid) :
    next.processes other = agent.processes other ∧
      next.directories other = agent.directories other := by
  obtain ⟨process, after, directory, started, stepped, rfl⟩ := prun_cases moved
  exact ⟨(agent.store xid directory).process_put_of_ne after different,
    agent.directory_store_of_ne directory different⟩

/-- A step of `prun` leaves what was made known. -/
theorem keeps_prun (moved : agent.prun xid move = some next) : Keeps agent next := by
  intro other process verdict started known
  by_cases same : other = xid
  · subst same
    obtain ⟨process', after, directory, started', stepped, rfl⟩ := prun_cases moved
    obtain rfl := Option.some.inj (started.symm.trans started')
    rw [Process.step_of_verdict known] at stepped
    cases stepped
  · rw [(prun_others moved same).1]
    exact started

/-- A step of `prun` leaves a directory that is removed or has the exit status. -/
theorem Stored.prun_isdone (stored : Stored agent) (moved : agent.prun xid move = some next)
    {other : ℕ+} (done : isdone (agent.directories other) = true) :
    next.directories other = agent.directories other := by
  by_cases same : other = xid
  · subst same
    obtain ⟨process, after, directory, started, stepped, rfl⟩ := prun_cases moved
    refine (agent.directory_store_self other directory).trans ?_
    cases found : agent.directories other with
    | none =>
      rw [found] at stepped
      exact Process.step_removed stepped
    | some files =>
      rw [found] at done
      obtain ⟨code, coded⟩ := Option.isSome_iff_exists.mp done
      obtain ⟨process', verdict, started', known, -, -⟩ := stored.known found coded
      obtain rfl := Option.some.inj (started.symm.trans started')
      rw [Process.step_of_verdict known] at stepped
      cases stepped
  · exact (prun_others moved same).2

/-- A step of `prun` keeps the files right. -/
theorem Stored.prun (stored : Stored agent) (moved : agent.prun xid move = some next) :
    Stored next := by
  obtain ⟨process, after, directory, started, stepped, same⟩ := prun_cases moved
  have processSelf : next.processes xid = some after := by
    rw [same, Agent.process_put_self]
  have directorySelf : next.directories xid = directory := by
    rw [same]
    exact agent.directory_store_self xid directory
  have sameNext : next.next = agent.next := by
    rw [same]
    rfl
  constructor
  · intro other new
    rw [sameNext] at new
    have different : other ≠ xid := by
      rintro rfl
      rw [(stored.fresh other new).1] at started
      cases started
    rw [(prun_others moved different).1, (prun_others moved different).2]
    exact stored.fresh other new
  · intro other process' files started' found
    by_cases same : other = xid
    · subst same
      obtain rfl := Option.some.inj (processSelf.symm.trans started')
      have found : directory = some files := directorySelf.symm.trans found
      cases there : agent.directories other with
      | none =>
        rw [there] at stepped
        rw [Process.step_removed stepped] at found
        cases found
      | some before =>
        rw [there] at stepped
        obtain ⟨files', same, records⟩ :=
          (stored.records other process before started there).step stepped
        obtain rfl := Option.some.inj (same.symm.trans found)
        exact records
    · rw [(prun_others moved same).1] at started'
      rw [(prun_others moved same).2] at found
      exact stored.records other process' files started' found
  · intro other files unstarted found
    have different : other ≠ xid := by
      rintro rfl
      rw [processSelf] at unstarted
      cases unstarted
    rw [(prun_others moved different).1] at unstarted
    rw [(prun_others moved different).2] at found
    exact stored.unstarted other files unstarted found

/-- What is true of a request stays true when `prun` goes on. -/
theorem Sound.prun_follows (sound : Sound agent) (moved : agent.prun xid move = some next)
    {serving : Serving} (follows : agent.Follows serving) : next.Follows serving := by
  have keeps := keeps_prun moved
  obtain ⟨process, after, directory, started, stepped, same⟩ := prun_cases moved
  have sameNext : next.next = agent.next := by
    rw [same]
    rfl
  have processSelf : next.processes xid = some after := by
    rw [same, Agent.process_put_self]
  cases serving with
  | starting other cli immediate | made other cli immediate =>
    obtain ⟨below, unstarted, found⟩ := follows
    have different : other ≠ xid := by
      rintro rfl
      rw [unstarted] at started
      cases started
    obtain ⟨sameProcess, sameDirectory⟩ := prun_others moved different
    exact ⟨sameNext ▸ below, sameProcess.trans unstarted, sameDirectory.trans found⟩
  | spawned other cli immediate | numbered other cli immediate =>
    intro unstarted
    by_cases same : other = xid
    · subst same
      rw [processSelf] at unstarted
      cases unstarted
    · rw [(prun_others moved same).1] at unstarted
      exact follows unstarted
  | waiting => trivial
  | reading request reading =>
    exact gathered_congr (sound.stored.prun_isdone moved) follows
  | clearing request info | removing request info rest | replying request info =>
    exact keeps.truthful follows

end Prun

/-! ## Operations of the agent -/

section Operations

variable {agent : Agent} {xid : ℕ+}

/-- Another directory of a command that fits it keeps the files right. -/
theorem Stored.store (stored : Stored agent) {directory : Option Directory}
    (below : xid < agent.next)
    (records : ∀ process files, agent.processes xid = some process → directory = some files →
      Records process files)
    (unstarted : ∀ files, agent.processes xid = none → directory = some files → files = .empty) :
    Stored (agent.store xid directory) where
  fresh other new := by
    have different : other ≠ xid := (lt_of_lt_of_le below new).ne'
    exact ⟨(stored.fresh other new).1,
      (agent.directory_store_of_ne directory different).trans (stored.fresh other new).2⟩
  records other process files started found := by
    by_cases same : other = xid
    · subst same
      exact records process files started ((agent.directory_store_self other directory).symm.trans found)
    · exact stored.records other process files started
        ((agent.directory_store_of_ne directory same).symm.trans found)
  unstarted other files none found := by
    by_cases same : other = xid
    · subst same
      exact unstarted files none ((agent.directory_store_self other directory).symm.trans found)
    · exact stored.unstarted other files none
        ((agent.directory_store_of_ne directory same).symm.trans found)

/-- A command with a directory has a number that was given out. -/
theorem Stored.below (stored : Stored agent) {files : Directory}
    (found : agent.directories xid = some files) : xid < agent.next := by
  by_contra new
  rw [(stored.fresh xid (not_lt.mp new)).2] at found
  cases found

/-- The directory of a command may lose a file. -/
theorem Stored.unlink (stored : Stored agent) {files : Directory}
    (found : agent.directories xid = some files) (name : FileName) :
    Stored (agent.store xid (some (files.unlink name))) := by
  refine stored.store (stored.below found) ?_ ?_
  · intro process after started same
    obtain rfl := Option.some.inj same
    exact (stored.records xid process files started found).unlink name
  · intro after unstarted same
    obtain rfl := Option.some.inj same
    rw [stored.unstarted xid files unstarted found]
    exact Function.update_eq_self name Directory.empty

/-- The directory of a command may be removed. -/
theorem Stored.remove (stored : Stored agent) {files : Directory}
    (found : agent.directories xid = some files) : Stored (agent.store xid none) :=
  stored.store (stored.below found) (fun _ _ _ same => by cases same) fun _ _ same => by cases same

/-- The agent may note something of its own in the directory of a command. -/
theorem Stored.note (stored : Stored agent) (started : agent.processes xid ≠ none)
    {files : Directory} (found : agent.directories xid = some files) {name : FileName}
    (aside : name = .pid ∨ name = .cmd) (text : Text) :
    Stored (agent.store xid (some (files.put name text))) := by
  refine stored.store (stored.below found) ?_ fun _ unstarted => absurd unstarted started
  intro process after started same
  obtain rfl := Option.some.inj same
  exact (stored.records xid process files started found).note aside text

/-- The files stay right when the agent goes on. -/
theorem Stored.proceed (stored : Stored agent) (serving : Serving) :
    Stored (agent.proceed serving) :=
  ⟨stored.fresh, stored.records, stored.unstarted⟩

/-- Whoever goes on with right files, the same commands and the same replies stays sound. -/
theorem Sound.proceed (sound : Sound agent) {next : Agent} (stored : Stored next)
    (processes : next.processes = agent.processes) (answers : next.answers = agent.answers)
    (serving : ∀ serving ∈ next.serving, next.Follows serving) : Sound next :=
  ⟨stored, serving, (Keeps.of_same processes).answers answers sound⟩

/-- An operation of the agent for its request keeps it sound. -/
theorem Sound.serve (sound : Sound agent) {serving : Serving} {next : Agent}
    (follows : agent.Follows serving) (served : agent.serve serving = some next) : Sound next := by
  have stored := sound.stored
  cases serving with
  | starting xid cli immediate =>
    obtain ⟨below, unstarted, found⟩ := follows
    simp only [Agent.serve, found, Option.some.injEq] at served
    subst served
    refine sound.proceed ?_ rfl rfl fun serving same => ?_
    · refine (stored.store below (fun process files started => ?_)
        fun files _ same => ?_).proceed _
      · rw [unstarted] at started
        cases started
      · exact (Option.some.inj same).symm
    · cases same
      exact ⟨below, unstarted, agent.directory_store_self xid (some .empty)⟩
  | made xid cli immediate => cases served
  | spawned xid cli immediate pid =>
    obtain ⟨files, found, rfl⟩ := Option.map_eq_some_iff.mp served
    refine sound.proceed ((stored.note follows found (.inl rfl) _).proceed _) rfl rfl fun serving same => ?_
    cases same
    exact follows
  | numbered xid cli immediate =>
    obtain ⟨files, found, rfl⟩ := Option.map_eq_some_iff.mp served
    refine sound.proceed ((stored.note follows found (.inr rfl) _).proceed _) rfl rfl fun serving same => ?_
    cases immediate with
    | true =>
      cases same
      trivial
    | false =>
      cases same
      trivial
  | waiting xid cli =>
    simp only [Agent.serve] at served
    split at served
    · cases served
      refine sound.proceed (stored.proceed _) rfl rfl fun serving same => ?_
      cases same
      trivial
    · cases served
  | reading request reading =>
    obtain ⟨after, read, rfl⟩ := Option.map_eq_some_iff.mp served
    refine sound.proceed (stored.proceed _) rfl rfl fun serving same => ?_
    cases same
    exact stored.reads follows read
  | clearing request info => cases served
  | removing request info rest =>
    cases rest with
    | nil =>
      obtain ⟨files, found, removed⟩ := Option.bind_eq_some_iff.mp served
      obtain ⟨-, same⟩ := Option.ite_none_right_eq_some.mp removed
      cases same
      refine sound.proceed ((stored.remove found).proceed _) rfl rfl fun serving same => ?_
      cases same
      exact follows
    | cons name rest =>
      obtain ⟨files, found, removed⟩ := Option.bind_eq_some_iff.mp served
      obtain ⟨text, there, rfl⟩ := Option.map_eq_some_iff.mp removed
      refine sound.proceed ((stored.unlink found name).proceed _) rfl rfl fun serving same => ?_
      cases same
      exact follows
  | replying request info =>
    cases served
    refine ⟨⟨stored.fresh, stored.records, stored.unstarted⟩, fun serving same => ?_, ?_⟩
    · cases same
    · intro answer member
      rcases List.mem_cons.mp member with rfl | earlier
      · exact follows
      · exact sound.answers answer earlier

end Operations

/-! ## All steps -/

/-- A sound agent stays sound when it takes on a request. -/
theorem Sound.take {agent next : Agent} (sound : Sound agent) {request : Request}
    (taken : agent.take request = some next) : Sound next := by
  have stored := sound.stored
  cases request with
  | start xid cli immediate =>
    obtain ⟨rfl, same⟩ := Option.ite_none_right_eq_some.mp taken
    cases same
    have later : agent.next < agent.next + 1 := PNat.lt_add_right agent.next 1
    refine sound.proceed ⟨fun xid new => ?_, stored.records, stored.unstarted⟩ rfl rfl
      fun serving same => ?_
    · exact stored.fresh xid (later.le.trans new)
    · cases same
      exact ⟨later, stored.fresh agent.next le_rfl⟩
  | status xid =>
    cases taken
    refine sound.proceed (stored.proceed _) rfl rfl fun serving same => ?_
    cases same
    trivial
  | cleanup xid =>
    cases taken
    refine sound.proceed (stored.proceed _) rfl rfl fun serving same => ?_
    cases same
    exact fun known impossible => by cases impossible

/-- A sound agent stays sound when it starts `prun`. -/
theorem Sound.spawn {agent next : Agent} (sound : Sound agent) {pid : Nat}
    (spawned : agent.spawn pid = some next) : Sound next := by
  have stored := sound.stored
  unfold Agent.spawn at spawned
  split at spawned
  · rename_i xid cli immediate serving
    cases spawned
    obtain ⟨below, unstarted, found⟩ := sound.serving _ serving
    have others {other : ℕ+} (different : other ≠ xid) :
        (agent.put xid .begun).processes other = agent.processes other :=
      agent.process_put_of_ne .begun different
    have self : (agent.put xid .begun).processes xid = some .begun :=
      agent.process_put_self xid .begun
    have keeps : Keeps agent ((agent.put xid .begun).proceed (.spawned xid cli immediate pid)) := by
      intro other process verdict started known
      have different : other ≠ xid := by
        rintro rfl
        rw [unstarted] at started
        cases started
      exact (others different).trans started
    refine ⟨Stored.proceed ⟨fun other new => ?_, ?_, ?_⟩ _, fun serving same => ?_,
      keeps.answers rfl sound⟩
    · have different : other ≠ xid := (lt_of_lt_of_le below new).ne'
      exact ⟨(others different).trans (stored.fresh other new).1, (stored.fresh other new).2⟩
    · intro other process files started there
      by_cases same : other = xid
      · subst same
        obtain rfl := Option.some.inj (self.symm.trans started)
        obtain rfl := Option.some.inj (found.symm.trans there)
        exact records_begun
      · rw [others same] at started
        exact stored.records other process files started there
    · intro other files absent there
      have different : other ≠ xid := by
        rintro rfl
        rw [self] at absent
        cases absent
      rw [others different] at absent
      exact stored.unstarted other files absent there
    · cases same
      intro absent
      have impossible := self.symm.trans absent
      cases impossible
  · cases spawned

/-- A sound agent stays sound when it lists a directory. -/
theorem Sound.list {agent next : Agent} (sound : Sound agent) {names : List FileName}
    (listed : agent.list names = some next) : Sound next := by
  unfold Agent.list at listed
  split at listed
  · rename_i request info serving
    obtain ⟨files, found, checked⟩ := Option.bind_eq_some_iff.mp listed
    obtain ⟨-, same⟩ := Option.ite_none_right_eq_some.mp checked
    cases same
    refine sound.proceed (sound.stored.proceed _) rfl rfl fun after same => ?_
    cases same
    exact sound.serving _ serving
  · cases listed

/-- A sound agent stays sound. -/
theorem sound_invariant : machine.Invariant Sound where
  starts agent := by
    rintro ⟨directories, processes, serving, answers⟩
    refine ⟨⟨fun xid _ => ?_, fun xid process files started => ?_, fun xid files _ found => ?_⟩,
      fun request same => ?_, fun answer member => ?_⟩
    · rw [directories, processes]
      exact ⟨rfl, rfl⟩
    · rw [processes] at started
      cases started
    · rw [directories] at found
      cases found
    · rw [serving] at same
      cases same
    · rw [answers] at member
      cases member
  preserved agent event next sound stepped := by
    cases event with
    | skip =>
      cases stepped
      have later : agent.next ≤ agent.next + 1 := (PNat.lt_add_right agent.next 1).le
      refine sound.proceed ⟨fun xid new => sound.stored.fresh xid (later.trans new),
        sound.stored.records, sound.stored.unstarted⟩ rfl rfl fun serving same => ?_
      have follows := sound.serving serving same
      cases serving with
      | starting xid cli immediate | made xid cli immediate =>
        exact ⟨follows.1.trans_le later, follows.2⟩
      | _ => exact follows
    | take request => exact sound.take (Option.ite_none_right_eq_some.mp stepped).2
    | spawn pid => exact sound.spawn stepped
    | list names => exact sound.list stepped
    | serve =>
      obtain ⟨serving, same, served⟩ := Option.bind_eq_some_iff.mp stepped
      exact sound.serve (sound.serving serving same) served
    | raise =>
      obtain ⟨-, same⟩ := Option.ite_none_right_eq_some.mp stepped
      cases same
      exact sound.proceed ⟨sound.stored.fresh, sound.stored.records, sound.stored.unstarted⟩ rfl rfl
        fun serving same => by cases same
    | prun xid move =>
      have same : next.serving = agent.serving ∧ next.answers = agent.answers := by
        obtain ⟨process, after, directory, started, moved, rfl⟩ := prun_cases stepped
        exact ⟨rfl, rfl⟩
      refine ⟨sound.stored.prun stepped, fun serving found => ?_,
        (keeps_prun stepped).answers same.2 sound⟩
      rw [same.1] at found
      exact sound.prun_follows stepped (sound.serving serving found)

/-- Whatever is going on at an agent, a reply that a command is over has the exit status and all the
output of the command of the request, as `prun` has made them known. -/
theorem replies_truthful {agent : Agent} (reachable : machine.Reachable agent) {request : Request}
    {info : Info} (replied : (request, some info) ∈ agent.answers) :
    info.xid = request.xid ∧ ∀ outcome ∈ info.outcome, agent.Tells request.xid outcome :=
  (sound_invariant.reachable reachable).answers _ replied info rfl

/-! ## A command that prints a line -/

attribute [local instance] oneNotZero

/-- An agent that has done nothing yet. -/
def idle : Agent := ⟨1, fun _ => none, fun _ => none, none, []⟩

/-- A command is started and runs on; its status is asked for when it is over, and the directory is
removed. -/
def oneLine : List Event :=
  [.take (.start 1 ['d', 'f'] false), .serve, .spawn 17, .serve, .serve, .serve, .serve, .serve,
    .prun 1 .goes, .prun 1 .goes, .prun 1 .goes, .prun 1 (.prints ['5', '%', '\n']),
    .prun 1 (.exits 0), .prun 1 .goes, .prun 1 .goes, .prun 1 .goes,
    .take (.status 1), .serve, .serve, .serve, .serve, .serve, .serve,
    .take (.cleanup 1), .list [.pid, .cmd, .stdout, .stderr, .returncode],
    .serve, .serve, .serve, .serve, .serve, .serve, .serve]

/-- The end of this command. -/
def printed : Outcome := ⟨0, ['5', '%'], []⟩

/-- The replies of the agent. -/
theorem oneLine_answers : (machine.run idle oneLine).map Agent.answers =
    some [(.cleanup 1, none), (.status 1, some ⟨1, some 17, some printed⟩),
      (.start 1 ['d', 'f'] false, some ⟨1, some 17, none⟩)] := rfl

/-- The reply to the question for the status tells the end of the command. -/
theorem one_line_told : ∃ agent, machine.Reachable agent ∧
    (Request.status 1, some ⟨1, some 17, some printed⟩) ∈ agent.answers ∧
    agent.Tells 1 printed := by
  obtain ⟨agent, reached, answers⟩ := Option.map_eq_some_iff.mp oneLine_answers
  have reachable : machine.Reachable agent := ⟨idle, oneLine, ⟨rfl, rfl, rfl, rfl⟩, reached⟩
  have replied : (Request.status 1, some ⟨1, some 17, some printed⟩) ∈ agent.answers := by
    rw [answers]
    exact List.mem_cons_of_mem _ List.mem_cons_self
  exact ⟨agent, reachable, replied, (replies_truthful reachable replied).2 printed rfl⟩

end Palette.ProcessManager
