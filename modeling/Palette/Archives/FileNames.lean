import Palette.Files.Catalogue
import Palette.Foundation.Mirroring
import Palette.Foundation.Pieces

/-!
# The names of archives

An archive is named after its site, its project and its url, joined by dashes, with the revision
or the time stamp behind them. Blanks and the characters of paths become underscores, and what is
not ASCII after its compatibility decomposition is dropped.

None of the fields is kept free of dashes, so the name only tells the pieces between dashes. It is
missing altogether for a row without a url, which cannot be added to a text.
-/

namespace Palette.Archives.FileNames

open Palette.Commands (Failure)
open Palette.Files (Agent Path)
open Palette.Foundation (filter_image_eq_singleton)
open Palette.Foundation.Pieces

/-- A text of the database. -/
abbrev Text := List Char

/-- The ASCII characters of the compatibility decomposition of a character. Canonical reordering
moves no ASCII character, so that a text is decomposed one character after the other. -/
structure Unicode where
  ascii : Char → Text
  own : ∀ char : Char, char.toNat < 128 → ascii char = [char]

/-- The columns of a workbook or a data source that its archives are named after, with the names
of its site and its project as they are looked up. -/
structure ItemEntry where
  key : Nat
  site : Option Text
  siteId : Option Int
  project : Option Text
  projectId : Option Int
  repositoryUrl : Option Text
  deriving DecidableEq, Repr

/-- An update of a workbook. -/
structure UpdateEntry where
  wuid : Nat
  workbook : ItemEntry
  revision : Text
  deriving DecidableEq, Repr

/-- The item and the revision. -/
def UpdateEntry.pair (update : UpdateEntry) : Nat × Text := (update.workbook.key, update.revision)

/-- The workbooks of an environment and their updates. -/
structure Environment where
  workbooks : List ItemEntry
  updates : List UpdateEntry
  keysDiffer : (workbooks.map ItemEntry.key).Nodup
  belong : ∀ update ∈ updates, update.workbook ∈ workbooks
  pairsDiffer : (updates.map UpdateEntry.pair).Nodup

/-! ## Names -/

/-- `str()` of a number or of nothing. -/
def decimal : Option Int → Text
  | none => "None".toList
  | some (.ofNat number) => Nat.toDigits 10 number
  | some (.negSucc number) => '-' :: Nat.toDigits 10 (number + 1)

/-- A text that is true: there is one, and something is in it. -/
def given (text : Option Text) : Option Text := text.filter (· ≠ [])

/-- The name, or the id where there is none. -/
def named (name : Option Text) (id : Option Int) : Text := (given name).getD (decimal id)

/-- The calls of `replace`. -/
def replaced (char : Char) : Char := if char ∈ [' ', '/', '\\', ':'] then '_' else char

/-- What is left of a text in a name. -/
def folded (unicode : Unicode) (text : Text) : Text := (text.map replaced).flatMap unicode.ascii

/-- Adding nothing to a text, which is a byte string if both names are ids. -/
def cannotAdd (entry : ItemEntry) : Failure :=
  if given entry.site = none ∧ given entry.project = none then
    ⟨.typeError, "cannot concatenate 'str' and 'NoneType' objects"⟩
  else ⟨.typeError, "coercing to Unicode: need string or buffer, NoneType found"⟩

/-- `clean_filename`. -/
def cleanFilename (unicode : Unicode) (entry : ItemEntry) (revision dateStr : Option Text) :
    Except Failure Text := do
  let site := named entry.site entry.siteId
  let project := named entry.project entry.projectId
  let filename := site ++ ['-'] ++ project ++ ['-']
  let filename ← match entry.repositoryUrl with
    | none => throw (cannotAdd entry)
    | some url => pure (filename ++ url)
  let filename := match given revision with
    | none => filename
    | some revision => filename ++ "-rev".toList ++ revision
  let filename := match given dateStr with
    | none => filename
    | some dateStr => filename ++ ['-'] ++ dateStr
  return folded unicode filename

/-! ## Archived updates -/

/-- The path that `_tabcmd_get` has written on the agent. -/
def tabcmdGet (unicode : Unicode) (agent : Agent) (tmpdir : Path) (update : UpdateEntry) :
    Except Failure Path := do
  let name ← cleanFilename unicode update.workbook (some update.revision) none
  return agent.join tmpdir (name ++ ".twbx".toList)

/-- The url that `_archive_wb` stores when nothing fails: the last part of the path, which has lost
the `x` at its end. -/
def archiveUrl (unicode : Unicode) (agent : Agent) (tmpdir : Path) (update : UpdateEntry) :
    Except Failure Path := do
  let dst ← tabcmdGet unicode agent tmpdir update
  return agent.basename dst.dropLast

/-- `WorkbookUpdateEntry.get_by_url`, over updates with their urls. Several rows raise. -/
def getByUrl (rows : List (UpdateEntry × Option Path)) (url : Path) : Except Failure UpdateEntry :=
  match rows.filter fun row => row.2 = some url with
  | [] => .error ⟨.valueError, "No such value"⟩
  | [row] => .ok row.1
  | _ => .error ⟨.otherException, "Multiple rows were found for one()"⟩

/-- The rows once every update that has a name is archived, each in the directory of its time. -/
def archived (unicode : Unicode) (agent : Agent) (tmpdir : UpdateEntry → Path)
    (updates : List UpdateEntry) : List (UpdateEntry × Option Path) :=
  updates.map fun update => (update, (archiveUrl unicode agent (tmpdir update) update).toOption)

/-! ## Unique names -/

/-- Both are there, and they differ. -/
def Apart {α : Type} (first second : Option α) : Prop :=
  ∃ one, first = some one ∧ ∃ other, second = some other ∧ one ≠ other

/-- Different pairs of an item and a revision have different names and are written to different
files, different items have different names at every time stamp, and an archived update is what is
found by its url. -/
structure NamesUnique (unicode : Unicode) (agent : Agent) (tmpdir : UpdateEntry → Path)
    (environment : Environment) : Prop where
  revisions : ∀ update ∈ environment.updates, ∀ other ∈ environment.updates,
    update.pair ≠ other.pair →
    Apart (cleanFilename unicode update.workbook (some update.revision) none).toOption
      (cleanFilename unicode other.workbook (some other.revision) none).toOption
  files : ∀ update ∈ environment.updates, ∀ other ∈ environment.updates,
    update.pair ≠ other.pair →
    Apart (tabcmdGet unicode agent (tmpdir update) update).toOption
      (tabcmdGet unicode agent (tmpdir other) other).toOption
  items : ∀ dateStr, ∀ entry ∈ environment.workbooks, ∀ other ∈ environment.workbooks,
    entry.key ≠ other.key →
    Apart (cleanFilename unicode entry none (some dateStr)).toOption
      (cleanFilename unicode other none (some dateStr)).toOption
  found : ∀ update ∈ environment.updates, ∀ url,
    archiveUrl unicode agent (tmpdir update) update = .ok url →
    getByUrl (archived unicode agent tmpdir environment.updates) url = .ok update

/-! ## Pieces of names -/

/-- The fields that a name is joined from. -/
def fields (entry : ItemEntry) (revision dateStr : Option Text) (url : Text) : List Text :=
  [named entry.site entry.siteId, named entry.project entry.projectId, url] ++
    ((given revision).map fun revision => "rev".toList ++ revision).toList ++
    (given dateStr).toList

/-- The pieces between dashes, of what is left of the fields. -/
def namePieces (unicode : Unicode) (entry : ItemEntry) (revision : Option Text) :
    Option (List Text) :=
  entry.repositoryUrl.map fun url =>
    pieces '-' ((fields entry revision none url).map (folded unicode))

/-- What the agent's path functions leave of a name of the pieces. -/
def lastPart (agent : Agent) (tmpdir : Path) (parts : List Text) : Path :=
  agent.basename (agent.join tmpdir (['-'].intercalate parts ++ ".twbx".toList)).dropLast

/-- The pieces of different pairs and of different items differ, also in the last part of the path
that the agent makes of them. -/
structure PiecesDiffer (unicode : Unicode) (agent : Agent) (tmpdir : UpdateEntry → Path)
    (environment : Environment) : Prop where
  revisions : ∀ update ∈ environment.updates, ∀ other ∈ environment.updates,
    update.pair ≠ other.pair →
    Apart (namePieces unicode update.workbook (some update.revision))
      (namePieces unicode other.workbook (some other.revision))
  items : ∀ entry ∈ environment.workbooks, ∀ other ∈ environment.workbooks,
    entry.key ≠ other.key → Apart (namePieces unicode entry none) (namePieces unicode other none)
  lastParts : ∀ update ∈ environment.updates, ∀ other ∈ environment.updates,
    update.pair ≠ other.pair →
    Apart ((namePieces unicode update.workbook (some update.revision)).map
        (lastPart agent (tmpdir update)))
      ((namePieces unicode other.workbook (some other.revision)).map (lastPart agent (tmpdir other)))

variable {unicode : Unicode} {agent : Agent} {tmpdir : UpdateEntry → Path}
  {environment : Environment}

/-! ## What a name tells -/

/-- What is left of a text does not depend on what stands around it. -/
theorem folded_append (text other : Text) :
    folded unicode (text ++ other) = folded unicode text ++ folded unicode other := by
  simp [folded]

/-- What is left of a text, character by character. -/
theorem folded_cons (char : Char) (text : Text) :
    folded unicode (char :: text) = unicode.ascii (replaced char) ++ folded unicode text := rfl

/-- Dashes are left as they are. -/
theorem ascii_dash : unicode.ascii (replaced '-') = ['-'] := unicode.own '-' (by decide)

/-- A name is joined from the fields, and from nothing else. -/
theorem cleanFilename_eq (entry : ItemEntry) (revision dateStr : Option Text) :
    (cleanFilename unicode entry revision dateStr).toOption = entry.repositoryUrl.map fun url =>
      ['-'].intercalate ((fields entry revision dateStr url).map (folded unicode)) := by
  cases location : entry.repositoryUrl with
  | none =>
    simp [cleanFilename, location, throw, throwThe, MonadExceptOf.throw, bind, Except.bind,
      Except.toOption]
  | some url =>
    cases isRevised : given revision <;> cases isDated : given dateStr <;>
      simp [cleanFilename, location, isRevised, isDated, fields, folded_append, folded_cons,
        ascii_dash, bind, Except.bind, pure, Except.pure, Except.toOption, List.intercalate]

/-- Two names are the same exactly if the pieces of their fields are. -/
theorem name_eq_iff (entry other : ItemEntry) (revision otherRevision : Option Text)
    (url otherUrl : Text) :
    ['-'].intercalate ((fields entry revision none url).map (folded unicode)) =
        ['-'].intercalate ((fields other otherRevision none otherUrl).map (folded unicode)) ↔
      pieces '-' ((fields entry revision none url).map (folded unicode)) =
        pieces '-' ((fields other otherRevision none otherUrl).map (folded unicode)) :=
  intercalate_eq_iff (by simp [fields]) (by simp [fields])

/-- The same time stamp at the end of two names makes no difference. -/
theorem dated_eq_iff (entry other : ItemEntry) (dateStr : Text) (url otherUrl : Text) :
    ['-'].intercalate ((fields entry none (some dateStr) url).map (folded unicode)) =
        ['-'].intercalate ((fields other none (some dateStr) otherUrl).map (folded unicode)) ↔
      pieces '-' ((fields entry none none url).map (folded unicode)) =
        pieces '-' ((fields other none none otherUrl).map (folded unicode)) := by
  rw [intercalate_eq_iff (by simp [fields]) (by simp [fields])]
  have ends : ∀ (row : ItemEntry) (path : Text), fields row none (some dateStr) path =
      fields row none none path ++ (given (some dateStr)).toList := by
    intro row path
    simp [fields, given]
  rw [ends, ends, List.map_append, List.map_append, pieces_append, pieces_append,
    List.append_left_inj]

/-! ## Values that differ -/

/-- Values differ after a step exactly if they differ after another one that merges the same. -/
theorem apart_map_iff {α β γ δ : Type} {first : Option α} {second : Option β} {step : α → γ}
    {step' : β → γ} {other : α → δ} {other' : β → δ}
    (same : ∀ one two, step one = step' two ↔ other one = other' two) :
    Apart (first.map step) (second.map step') ↔ Apart (first.map other) (second.map other') := by
  cases first with
  | none => simp [Apart]
  | some one =>
    cases second with
    | none => simp [Apart]
    | some two => simp [Apart, same one two]

/-- Values that differ after a step differ before it. -/
theorem Apart.of_map {α β : Type} {first second : Option α} {step : α → β}
    (differ : Apart (first.map step) (second.map step)) : Apart first second := by
  obtain ⟨one, first_eq, other, second_eq, distinct⟩ := differ
  obtain ⟨value, rfl, rfl⟩ := Option.map_eq_some_iff.mp first_eq
  obtain ⟨second, rfl, rfl⟩ := Option.map_eq_some_iff.mp second_eq
  exact ⟨value, rfl, second, rfl, fun same => distinct (same ▸ rfl)⟩

/-! ## The names and their pieces -/

/-- The names of two updates differ exactly if their pieces do. -/
theorem revisions_apart_iff (update other : UpdateEntry) :
    Apart (cleanFilename unicode update.workbook (some update.revision) none).toOption
        (cleanFilename unicode other.workbook (some other.revision) none).toOption ↔
      Apart (namePieces unicode update.workbook (some update.revision))
        (namePieces unicode other.workbook (some other.revision)) := by
  rw [cleanFilename_eq, cleanFilename_eq]
  exact apart_map_iff (name_eq_iff _ _ _ _)

/-- The names of two items at a time differ exactly if their pieces do. -/
theorem items_apart_iff (entry other : ItemEntry) (dateStr : Text) :
    Apart (cleanFilename unicode entry none (some dateStr)).toOption
        (cleanFilename unicode other none (some dateStr)).toOption ↔
      Apart (namePieces unicode entry none) (namePieces unicode other none) := by
  rw [cleanFilename_eq, cleanFilename_eq]
  exact apart_map_iff (dated_eq_iff _ _ _)

/-- The path of an update is made of the text that its pieces are joined to. -/
theorem tabcmdGet_eq (directory : Path) (update : UpdateEntry) :
    (tabcmdGet unicode agent directory update).toOption =
      (namePieces unicode update.workbook (some update.revision)).map fun parts =>
        agent.join directory (['-'].intercalate parts ++ ".twbx".toList) := by
  have placed : (tabcmdGet unicode agent directory update).toOption =
      (cleanFilename unicode update.workbook (some update.revision) none).toOption.map
        fun name => agent.join directory (name ++ ".twbx".toList) := by
    unfold tabcmdGet
    cases cleanFilename unicode update.workbook (some update.revision) none <;> rfl
  have joined (url : Text) : ['-'].intercalate (pieces '-' ((fields update.workbook
      (some update.revision) none url).map (folded unicode))) =
      ['-'].intercalate ((fields update.workbook (some update.revision) none url).map
        (folded unicode)) := intercalate_pieces (by simp [fields])
  rw [placed, cleanFilename_eq, namePieces, Option.map_map, Option.map_map]
  apply congrArg (fun step => update.workbook.repositoryUrl.map step)
  funext url
  rw [Function.comp_apply, Function.comp_apply, joined]

/-- The url of an update is the last part of that path. -/
theorem archiveUrl_eq (directory : Path) (update : UpdateEntry) :
    (archiveUrl unicode agent directory update).toOption =
      (namePieces unicode update.workbook (some update.revision)).map
        (lastPart agent directory) := by
  have cut : (archiveUrl unicode agent directory update).toOption =
      (tabcmdGet unicode agent directory update).toOption.map
        fun dst => agent.basename dst.dropLast := by
    unfold archiveUrl
    cases tabcmdGet unicode agent directory update <;> rfl
  rw [cut, tabcmdGet_eq, Option.map_map]
  rfl

/-! ## Lookups -/

/-- Looking a url up gives an update exactly if it is the only one with that url. -/
theorem getByUrl_eq_ok_iff {rows : List (UpdateEntry × Option Path)} {url : Path}
    {update : UpdateEntry} : getByUrl rows url = .ok update ↔
      ∃ row, (rows.filter fun row => row.2 = some url) = [row] ∧ row.1 = update := by
  unfold getByUrl
  split
  · rename_i none_there
    simp [none_there]
  · rename_i row only
    simp [only]
  · rename_i several several'
    constructor
    · intro same
      cases same
    · rintro ⟨row, only, -⟩
      exact absurd only (several' row)

/-- An archived update is found by its url exactly if no other pair has that url. -/
theorem found_iff {update : UpdateEntry} (member : update ∈ environment.updates) {url : Path}
    (stored : archiveUrl unicode agent (tmpdir update) update = .ok url) :
    getByUrl (archived unicode agent tmpdir environment.updates) url = .ok update ↔
      ∀ other ∈ environment.updates, update.pair ≠ other.pair →
        (archiveUrl unicode agent (tmpdir other) other).toOption ≠ some url := by
  have rows_eq : ((archived unicode agent tmpdir environment.updates).filter
      fun row => row.2 = some url) = (environment.updates.filter fun other =>
        (archiveUrl unicode agent (tmpdir other) other).toOption = some url).map fun other =>
          (other, (archiveUrl unicode agent (tmpdir other) other).toOption) := by
    rw [archived, List.filter_map]
    rfl
  have listed : update ∈ environment.updates.filter fun other =>
      (archiveUrl unicode agent (tmpdir other) other).toOption = some url := by
    rw [List.mem_filter]
    exact ⟨member, by simp [stored, Except.toOption]⟩
  rw [getByUrl_eq_ok_iff, rows_eq]
  constructor
  · rintro ⟨row, only, -⟩ other otherMember differ same
    obtain ⟨single, single_eq, -⟩ := List.map_eq_singleton_iff.mp only
    have otherListed : other ∈ environment.updates.filter fun other =>
        (archiveUrl unicode agent (tmpdir other) other).toOption = some url := by
      rw [List.mem_filter]
      exact ⟨otherMember, by simpa using same⟩
    rw [single_eq, List.mem_singleton] at listed otherListed
    exact differ (by rw [listed, otherListed])
  · intro alone
    have same : (environment.updates.filter fun other =>
        (archiveUrl unicode agent (tmpdir other) other).toOption = some url) =
        environment.updates.filter fun other => other.pair = update.pair := by
      apply List.filter_congr
      intro other otherMember
      by_cases isSame : other.pair = update.pair
      · have equal : other = update :=
          List.inj_on_of_nodup_map environment.pairsDiffer otherMember member isSame
        simp [equal, stored, Except.toOption]
      · have differs := alone other otherMember (fun equal => isSame equal.symm)
        simp [isSame, differs]
    rw [same, filter_image_eq_singleton UpdateEntry.pair _ update environment.pairsDiffer member]
    exact ⟨_, rfl, rfl⟩

/-! ## When names are unique -/

/-- Two updates with names that are found by their urls have different urls. -/
theorem urls_apart (unique : NamesUnique unicode agent tmpdir environment)
    {update other : UpdateEntry} (member : update ∈ environment.updates)
    (otherMember : other ∈ environment.updates) (differ : update.pair ≠ other.pair) :
    Apart (archiveUrl unicode agent (tmpdir update) update).toOption
      (archiveUrl unicode agent (tmpdir other) other).toOption := by
  obtain ⟨parts, parts_eq, otherParts, otherParts_eq, -⟩ := (revisions_apart_iff update other).mp
    (unique.revisions update member other otherMember differ)
  have url := @archiveUrl_eq unicode agent (tmpdir update) update
  have otherUrl := @archiveUrl_eq unicode agent (tmpdir other) other
  rw [parts_eq, Option.map_some] at url
  rw [otherParts_eq, Option.map_some] at otherUrl
  refine ⟨_, url, _, otherUrl, fun same => ?_⟩
  cases stored : archiveUrl unicode agent (tmpdir update) update with
  | error failure => simp [stored, Except.toOption] at url
  | ok first =>
    have first_eq : first = lastPart agent (tmpdir update) parts := by
      simpa [stored, Except.toOption] using url
    have alone := (found_iff member stored).mp (unique.found update member first stored)
    exact alone other otherMember differ (by rw [otherUrl, first_eq, same])

/-- Names are unique, and archived updates found by their urls, exactly if the pieces between
dashes of different pairs and of different items differ, also in the last parts of the paths. -/
theorem names_unique_iff : NamesUnique unicode agent tmpdir environment ↔
    PiecesDiffer unicode agent tmpdir environment := by
  constructor
  · intro unique
    refine ⟨fun update member other otherMember differ => ?_,
      fun entry member other otherMember differ => ?_,
      fun update member other otherMember differ => ?_⟩
    · exact (revisions_apart_iff update other).mp
        (unique.revisions update member other otherMember differ)
    · exact (items_apart_iff entry other []).mp
        (unique.items [] entry member other otherMember differ)
    · have urls := urls_apart unique member otherMember differ
      rwa [archiveUrl_eq, archiveUrl_eq] at urls
  · intro apart
    refine ⟨fun update member other otherMember differ => ?_,
      fun update member other otherMember differ => ?_,
      fun dateStr entry member other otherMember differ => ?_,
      fun update member url stored => ?_⟩
    · exact (revisions_apart_iff update other).mpr
        (apart.revisions update member other otherMember differ)
    · have urls := apart.lastParts update member other otherMember differ
      rw [tabcmdGet_eq, tabcmdGet_eq]
      apply @Apart.of_map _ _ _ _ fun dst => agent.basename dst.dropLast
      rwa [Option.map_map, Option.map_map]
    · exact (items_apart_iff entry other dateStr).mpr
        (apart.items entry member other otherMember differ)
    · apply (found_iff member stored).mpr
      intro other otherMember differ same
      obtain ⟨first, first_eq, second, second_eq, distinct⟩ :=
        apart.lastParts update member other otherMember differ
      rw [← archiveUrl_eq, stored] at first_eq
      rw [← archiveUrl_eq, same] at second_eq
      have first_is : url = first := by simpa [Except.toOption] using first_eq
      have second_is : url = second := by simpa using second_eq
      exact distinct (first_is ▸ second_is)

/-- ASCII characters are kept, and all others dropped. -/
def asciiOnly : Unicode where
  ascii char := if char.toNat < 128 then [char] else []
  own _ isAscii := if_pos isAscii

/-- A workbook of the project `b-c`. -/
def dashedProject : ItemEntry :=
  ⟨1, some "Default".toList, some 1, some "b-c".toList, some 2, some "d".toList⟩

/-- A workbook of the project `b` with a dash in its url. -/
def dashedUrl : ItemEntry :=
  ⟨2, some "Default".toList, some 1, some "b".toList, some 3, some "c-d".toList⟩

/-- An environment with both, each with its first revision. -/
def dashed : Environment where
  workbooks := [dashedProject, dashedUrl]
  updates := [⟨1, dashedProject, "1".toList⟩, ⟨2, dashedUrl, "1".toList⟩]
  keysDiffer := by decide
  belong := by simp
  pairsDiffer := by decide

/-- Two workbooks whose project and url have the same pieces share a name. -/
theorem dashes_share_names : ¬ ∀ (unicode : Unicode) (agent : Agent) (tmpdir : UpdateEntry → Path)
    (environment : Environment), NamesUnique unicode agent tmpdir environment := by
  intro unique
  obtain ⟨first, first_eq, second, second_eq, distinct⟩ :=
    (unique asciiOnly ⟨1, true⟩ (fun _ => "C:\\Palette".toList) dashed).revisions
      ⟨1, dashedProject, "1".toList⟩ (by decide) ⟨2, dashedUrl, "1".toList⟩ (by decide) (by decide)
  have name : first = "Default-b-c-d-rev1".toList := by
    rw [← Option.some_inj, ← first_eq]
    decide +kernel
  have same : second = "Default-b-c-d-rev1".toList := by
    rw [← Option.some_inj, ← second_eq]
    decide +kernel
  exact distinct (name.trans same.symm)

end Palette.Archives.FileNames
