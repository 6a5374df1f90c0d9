import Mathlib
import Palette.Files.Catalogue
import Palette.Foundation.Words
import Palette.Telnet.Parsing

/-!
# Source paths of copies

A file on an archive volume is copied to another agent by a request to the archive server of its
own agent. The request names the volume and what is left of the file's path without the characters
that it shares with the volume's root. The server has a table of routes, a line `name:root` for
each archive volume, and puts the root in front of what is behind the name again.

The common characters may end in the middle of a name, and then the root does not fit to what is
left. How an agent compares names, and how the characters of a request arrive at its server, belongs
to the platform.
-/

namespace Palette.Files.SourcePaths

open Palette.Commands (Failure)
open Palette.Foundation.Words
open Palette.Telnet (strip)

/-! ## Platforms -/

/-- The characters between the names of a path. -/
def separates (iswin : Bool) (char : Char) : Bool :=
  if iswin then Nt.isSeparator char else char = '/'

/-- The platform of an agent: how its file system folds the characters of names, and how the
characters of a request arrive. Only separators may arrive as others. -/
structure Platform where
  agent : Agent
  fold : Char → Char
  exact : agent.iswin = false → ∀ char, fold char = char
  arrive : Char → Char
  separators : ∀ char, separates agent.iswin char = true →
    separates agent.iswin (arrive char) = true
  others : ∀ char, separates agent.iswin char = false → arrive char = char

namespace Platform

/-- The names of a path, as the file system compares them. -/
def names (platform : Platform) (path : Path) : List Path :=
  (words (separates platform.agent.iswin) path).map fun name => name.map platform.fold

/-- A file on a volume is another one. On Linux, volumes are parts of one tree. -/
def Same (platform : Platform) (file other : Path × Path) : Prop :=
  (platform.agent.iswin = true → file.1.map platform.fold = other.1.map platform.fold) ∧
    platform.names file.2 = platform.names other.2

/-- A path is below a root. -/
def Under (platform : Platform) (root path : Path) : Prop :=
  platform.names root <+: platform.names path ∧ platform.names root ≠ platform.names path

end Platform

/-! ## Routes -/

/-- A route: what a request starts with, the volume and its root. -/
structure Route where
  key : Path
  volume : Path
  root : Path
  deriving DecidableEq, Repr

/-- `text.split(':', 1)`, where there are two parts. -/
def splitColon (text : Path) : Option (Path × Path) :=
  if ':' ∈ text then some (text.takeWhile (· ≠ ':'), (text.dropWhile (· ≠ ':')).tail) else none

/-- A line of the routes. -/
def routeLine (volume : VolumeEntry) : Path :=
  volume.name ++ ':' :: (volume.path.getD "None".toList ++ ['\r', '\n'])

/-- `save_routes`, with the column `archive`. -/
def saveRoutes (volumes : Volumes) (archive : VolumeEntry → Bool) (agentid : Nat) : Path :=
  (volumes.entries.filter fun volume => volume.agentid = agentid && archive volume).flatMap
    routeLine

/-- The name of a volume between slashes. -/
def routeKey (name : Path) : Path :=
  let key := if name.head? = some '/' then name else '/' :: name
  if key.getLast? = some '/' then key else key ++ ['/']

/-- A line that is read. -/
def readLine (line : Path) : Option Route :=
  let line := strip line
  if line = [] ∨ line.head? = some '#' then none
  else
    match splitColon line with
    | none => some ⟨['/'], [], line⟩
    | some (name, root) => some ⟨routeKey name, name, root⟩

/-- `CGIRouter.parse`. -/
def parse (text : Path) : List Route := (text.splitOn '\n').filterMap readLine

/-- The route that answers a request: the last of its key, and of those with other keys the first
in reverse order. -/
def answering (routes : List Route) (url : Path) : Option Route :=
  (routes.reverse.insertionSort fun route other => other.key ≤ route.key).find? fun route =>
    route.key.isPrefixOf url

/-- What is left of a request behind the key, with a slash in front. -/
def remainder (route : Route) (url : Path) : Path :=
  let rest := url.drop route.key.length
  if rest = [] ∨ rest.head? = some '/' then rest else '/' :: rest

/-- The file that a route answers with. -/
def target (route : Route) (url : Path) : Path × Path :=
  (route.volume, route.root ++ remainder route url)

/-- `CGIRouter.resolve`. An empty path is not found. -/
def resolve (routes : List Route) (url : Path) : Option (Path × Path) :=
  ((answering routes url).map fun route => target route url).filter fun file => file.2 ≠ []

/-! ## Requests -/

/-- The path of the request that `copy_cmd` makes, as it arrives. An empty source is refused, and
without a slash the name would go on the port's number. -/
def requested (platform : Platform) (source : Path) : Option Path :=
  if source = [] then none
  else if platform.agent.iswin then some (('/' :: source).map platform.arrive)
  else if source.head? = some '/' then some (source.map platform.arrive)
  else none

/-- `os.path.commonprefix` of two texts. -/
def commonPrefix : Path → Path → Path
  | char :: rest, other :: others => if char = other then char :: commonPrefix rest others else []
  | _, _ => []

/-- The source path, for the name and the root of a volume and the path of a file on it. -/
def copySource (name root path : Path) : Path := name ++ path.drop (commonPrefix path root).length

/-- What `copy_to_agent` makes the source path of: the volume's name in the path, the root of the
row with this name, and the rest. Nothing comes of it if there is no row, or a failure. -/
def placeParts (volumes : Volumes) (agentid : Nat) (fullPath : Path) :
    Except Failure (Option (Path × Path × Path)) :=
  match splitColon fullPath with
  | none => .error ⟨.valueError, "need more than 1 value to unpack"⟩
  | some (backupVol, backupPath) => do
    match ← volumes.byName agentid backupVol with
    | none => pure none
    | some entry =>
      match entry.path with
      | none => throw ⟨.typeError, "'NoneType' object is not iterable"⟩
      | some root => pure (some (backupVol, root, backupPath))

/-- What `_get_agent_file` makes the source path of: the name and the root of the row of the file's
volume, and the path behind the first colon. -/
def getParts (volumes : Volumes) (volid : Nat) (fullPath : Path) :
    Except Failure (Path × Path × Path) :=
  match volumes.byVolid volid with
  | none => .error ⟨.ioError, "get_file: vol entry not found"⟩
  | some entry =>
    match splitColon fullPath with
    | none => .error ⟨.valueError, "need more than 1 value to unpack"⟩
    | some (_, pathSpec) =>
      match entry.path with
      | none => .error ⟨.typeError, "'NoneType' object is not iterable"⟩
      | some root => .ok (entry.name, root, pathSpec)

/-- The request for the parts. -/
def request (platform : Platform) (parts : Path × Path × Path) : Option Path :=
  requested platform (copySource parts.1 parts.2.1 parts.2.2)

/-- The file that a copy fetches, if it fetches one. -/
def fetched (platform : Platform) (routes : List Route) (parts : Option (Path × Path × Path)) :
    Option (Path × Path) :=
  (parts.bind (request platform)).bind (resolve routes)

/-! ## Copies of the same file -/

/-- The volumes of an agent with one archive volume and its root. -/
structure Setting where
  platform : Platform
  volumes : Volumes
  archive : VolumeEntry → Bool
  volume : VolumeEntry
  root : Path
  stored : volume ∈ volumes.entries
  own : volume.agentid = platform.agent.agentid
  archived : archive volume = true
  rooted : volume.path = some root

namespace Setting

/-- The routes as the server reads them. -/
def routes (setting : Setting) : List Route :=
  parse (saveRoutes setting.volumes setting.archive setting.platform.agent.agentid)

/-- The full path of a file on the volume. -/
def fullPath (setting : Setting) (path : Path) : Path := setting.volume.name ++ ':' :: path

/-- The parts for a file that is placed. -/
def placed (setting : Setting) (path : Path) : Option (Path × Path × Path) :=
  (placeParts setting.volumes setting.platform.agent.agentid
    (setting.fullPath path)).toOption.join

/-- The parts for a file that is fetched back. -/
def got (setting : Setting) (path : Path) : Option (Path × Path × Path) :=
  (getParts setting.volumes setting.volume.volid (setting.fullPath path)).toOption

/-- For a file below the root, both copies fetch this file; for any other one, both are refused or
fail. -/
def NamesSameFile (setting : Setting) (path : Path) : Prop :=
  (setting.platform.Under setting.root path →
    (∃ file, fetched setting.platform setting.routes (setting.placed path) = some file ∧
      setting.platform.Same file (setting.volume.name, path)) ∧
    ∃ file, fetched setting.platform setting.routes (setting.got path) = some file ∧
      setting.platform.Same file (setting.volume.name, path)) ∧
  (¬setting.platform.Under setting.root path →
    fetched setting.platform setting.routes (setting.placed path) = none ∧
    fetched setting.platform setting.routes (setting.got path) = none)

/-- The route of the volume. -/
def ownRoute (setting : Setting) : Route :=
  ⟨routeKey setting.volume.name, setting.volume.name, setting.root⟩

/-- The request for the parts is answered with the file. If they are those of the file and the
volume's own route answers, this comes down to the root: it has separators only behind the
characters that it shares with the path. -/
def Answered (setting : Setting) (path : Path) (parts : Option (Path × Path × Path)) : Prop :=
  ∃ found url route, parts = some found ∧ request setting.platform found = some url ∧
    answering setting.routes url = some route ∧
    if found = (setting.volume.name, setting.root, path) ∧ route = setting.ownRoute then
      ∀ char ∈ setting.root.drop (commonPrefix path setting.root).length,
        separates setting.platform.agent.iswin char = true
    else setting.platform.Same (target route url) (setting.volume.name, path)

/-- There is no request for the parts, or no route answers it with a path. -/
def Unanswered (setting : Setting) (parts : Option (Path × Path × Path)) : Prop :=
  ∀ found url route, parts = some found → request setting.platform found = some url →
    answering setting.routes url = some route → route.root = [] ∧ remainder route url = []

end Setting

/-! ## Common prefixes -/

/-- The common characters stand in front of both. -/
theorem commonPrefix_append (path root : Path) :
    path = commonPrefix path root ++ path.drop (commonPrefix path root).length ∧
      root = commonPrefix path root ++ root.drop (commonPrefix path root).length := by
  induction path generalizing root with
  | nil => exact ⟨by simp [commonPrefix], by simp [commonPrefix]⟩
  | cons char rest inductionHypothesis =>
    cases root with
    | nil => exact ⟨by simp [commonPrefix], by simp [commonPrefix]⟩
    | cons other others =>
      unfold commonPrefix
      split
      · rename_i same
        obtain ⟨first, second⟩ := inductionHypothesis others
        subst same
        exact ⟨congrArg (char :: ·) first, congrArg (char :: ·) second⟩
      · exact ⟨by simp, by simp⟩

section Names

variable {platform : Platform}

/-- Folding keeps the number of characters in names. -/
theorem length_flatten_names (path : Path) : (platform.names path).flatten.length =
    path.countP fun char => !separates platform.agent.iswin char := by
  rw [← length_flatten_words, Platform.names]
  simp [List.length_flatten, Function.comp_def]

/-- Separators at the end make no difference. -/
theorem words_append_separators {blank : Char → Bool} (path : Path) {ends : Path}
    (only : ∀ char ∈ ends, blank char = true) : words blank (path ++ ends) = words blank path := by
  induction ends generalizing path with
  | nil => rw [List.append_nil]
  | cons char rest inductionHypothesis =>
    have first : blank char = true := only char List.mem_cons_self
    have others := inductionHypothesis (path ++ [char])
      fun other member => only other (List.mem_cons_of_mem _ member)
    rw [List.append_cons, others, words_append_blank first]

/-- A path that is below what it starts with goes on with a new name. -/
theorem names_append_of_below {front rest : Path}
    (below : platform.names front <+: platform.names (front ++ rest)) :
    platform.names (front ++ rest) = platform.names front ++ platform.names rest := by
  unfold Platform.names at below ⊢
  rcases words_append (separates platform.agent.iswin) front rest with
    apart | ⟨before, last, more, others, goesOn, cut, whole⟩
  · rw [apart, List.map_append]
  · rw [cut, whole, List.map_append, List.map_append] at below
    obtain ⟨behind, same⟩ := below
    rw [List.append_assoc] at same
    have names := List.append_cancel_left same
    simp only [List.map_cons, List.map_nil, List.cons_append, List.nil_append, List.cons.injEq,
      List.map_append] at names
    have lengths := congrArg List.length names.1
    rw [List.length_append, List.length_map, List.length_map] at lengths
    exact absurd (List.length_eq_zero_iff.mp (by omega)) goesOn

/-- Below the root, the root with the rest of the path behind it is the path exactly if the root
has separators only behind the common characters. -/
theorem names_root_rest_iff {root path : Path}
    (below : platform.names root <+: platform.names path) :
    platform.names root ++ platform.names (path.drop (commonPrefix path root).length) =
        platform.names path ↔
      ∀ char ∈ root.drop (commonPrefix path root).length,
        separates platform.agent.iswin char = true := by
  obtain ⟨path_eq, root_eq⟩ := commonPrefix_append path root
  generalize commonPrefix path root = front at *
  generalize path.drop front.length = rest at *
  generalize root.drop front.length = ends at *
  subst path_eq root_eq
  constructor
  · intro same
    have lengths := congrArg (fun names : List Path => names.flatten.length) same
    simp only [List.flatten_append, List.length_append, length_flatten_names,
      List.countP_append] at lengths
    have none_left : ends.countP (fun char => !separates platform.agent.iswin char) = 0 := by
      omega
    simpa using List.countP_eq_zero.mp none_left
  · intro only
    have root_names : platform.names (front ++ ends) = platform.names front := by
      rw [Platform.names, words_append_separators front only, Platform.names]
    rw [root_names] at below ⊢
    exact (names_append_of_below below).symm

/-! ## What is left of a request -/

/-- A slash is a separator everywhere. -/
theorem slash_separates (iswin : Bool) : separates iswin '/' = true := by
  cases iswin <;> decide

/-- What is left of a request behind its key is put behind the root as it is. -/
theorem names_target (route : Route) (url : Path) :
    platform.names (target route url).2 =
      platform.names route.root ++ platform.names (url.drop route.key.length) := by
  have slash := slash_separates platform.agent.iswin
  unfold target remainder Platform.names
  dsimp only
  rw [← List.map_append]
  apply congrArg (List.map _)
  cases rest : url.drop route.key.length with
  | nil => simp [words]
  | cons char more =>
    by_cases isSlash : char = '/'
    · subst isSlash
      simp [words_append_cons slash, words_cons_blank slash]
    · simp [isSlash, words_append_cons slash]

/-- What arrives has the same names. -/
theorem names_arrive (path : Path) :
    platform.names (path.map platform.arrive) = platform.names path := by
  rw [Platform.names, words_map platform.separators platform.others, Platform.names]

/-- A key that ends with a slash one character behind a text that it starts with: what follows the
text is a separator. -/
theorem names_drop_succ {front rest key : Path} (length_eq : key.length = front.length + 1)
    (ends : key.getLast? = some '/') (starts : key <+: (front ++ rest).map platform.arrive) :
    platform.names (((front ++ rest).map platform.arrive).drop key.length) =
      platform.names rest := by
  obtain ⟨behind, whole⟩ := starts
  cases rest with
  | nil =>
    have lengths := congrArg List.length whole
    simp at lengths
    omega
  | cons char more =>
    have arrived : platform.arrive char = '/' := by
      have at_end : (key ++ behind)[front.length]? = some '/' := by
        rw [List.getElem?_append_left (by omega), ← ends, List.getLast?_eq_getElem?, length_eq]
        rfl
      rw [whole] at at_end
      simpa using at_end
    have separator : separates platform.agent.iswin char = true := by
      by_contra other
      have kept := platform.others char (by simpa using other)
      rw [arrived] at kept
      exact other (kept ▸ slash_separates _)
    have left : (front ++ char :: more).drop key.length = more := by
      rw [length_eq, ← List.drop_drop, List.drop_left]
      rfl
    rw [← List.map_drop, left, names_arrive, Platform.names, Platform.names,
      words_cons_blank separator]

/-- A key as long as a text. -/
theorem names_drop_length {front rest key : Path} (length_eq : key.length = front.length) :
    platform.names (((front ++ rest).map platform.arrive).drop key.length) =
      platform.names rest := by
  rw [← List.map_drop, length_eq, List.drop_left, names_arrive]

/-- The key of a name ends with a slash. -/
theorem routeKey_ends (name : Path) : (routeKey name).getLast? = some '/' := by
  unfold routeKey
  dsimp only
  generalize (if name.head? = some '/' then name else '/' :: name) = key
  split
  · assumption
  · exact List.getLast?_concat

/-- A key is as long as its name, or has a slash in front, or behind, or both. -/
theorem routeKey_length (name : Path) :
    (name.head? = some '/' ∧ (routeKey name).length = name.length ∧ name.getLast? = some '/') ∨
      (name.head? = some '/' ∧ (routeKey name).length = name.length + 1) ∨
      (name.head? ≠ some '/' ∧ (routeKey name).length = name.length + 1) ∨
      name.head? ≠ some '/' ∧ (routeKey name).length = name.length + 2 := by
  unfold routeKey
  by_cases starts : name.head? = some '/'
  · by_cases ends : name.getLast? = some '/'
    · simp [starts, ends]
    · simp [starts, ends]
  · by_cases ends : ('/' :: name).getLast? = some '/'
    · simp [starts, ends]
    · simp [starts, ends]

/-- Behind the volume's own key, what is left of the request has the names of the rest. -/
theorem names_own {name root path url : Path}
    (made : request platform (name, root, path) = some url) (starts : routeKey name <+: url) :
    platform.names (url.drop (routeKey name).length) =
      platform.names (path.drop (commonPrefix path root).length) := by
  unfold request requested copySource at made
  dsimp only at made
  generalize path.drop (commonPrefix path root).length = rest at *
  have ends := routeKey_ends name
  by_cases empty : name ++ rest = []
  · simp [empty] at made
  rw [if_neg empty] at made
  cases iswin : platform.agent.iswin with
  | true =>
    simp only [iswin, if_true, Option.some.injEq] at made
    subst made
    rw [← List.cons_append] at starts ⊢
    rcases routeKey_length name with ⟨slash, length_eq, last⟩ | ⟨-, length_eq⟩ |
      ⟨-, length_eq⟩ | ⟨-, length_eq⟩
    · obtain ⟨front, rfl⟩ := List.getLast?_eq_some_iff.mp last
      have moved : '/' :: (front ++ ['/']) ++ rest = ('/' :: front) ++ '/' :: rest := by simp
      rw [moved, names_drop_length (by simp [length_eq]), Platform.names,
        words_cons_blank (slash_separates _), Platform.names]
    · exact names_drop_length (by simp [length_eq])
    · exact names_drop_length (by simp [length_eq])
    · exact names_drop_succ (by simp [length_eq]) ends starts
  | false =>
    by_cases slash : (name ++ rest).head? = some '/'
    · simp only [iswin, slash, if_true, Bool.false_eq_true, if_false, Option.some.injEq] at made
      subst made
      rcases routeKey_length name with ⟨-, length_eq, -⟩ | ⟨-, length_eq⟩ |
        ⟨relative, length_eq⟩ | ⟨relative, length_eq⟩
      · exact names_drop_length length_eq
      · exact names_drop_succ length_eq ends starts
      · exact names_drop_succ length_eq ends starts
      · cases name with
        | nil => simp [routeKey] at length_eq
        | cons char more => exact absurd slash relative
    · simp only [iswin, slash, Bool.false_eq_true, if_false] at made
      cases made

end Names

/-! ## When copies fetch the same file -/

section Answers

variable {setting : Setting} {path : Path} {parts : Option (Path × Path × Path)}

/-- What a copy fetches, step by step. -/
theorem fetched_eq_some_iff {platform : Platform} {routes : List Route} {file : Path × Path} :
    fetched platform routes parts = some file ↔ ∃ found url route, parts = some found ∧
      request platform found = some url ∧ answering routes url = some route ∧
      target route url = file ∧ file.2 ≠ [] := by
  simp only [fetched, resolve, Option.bind_eq_some_iff, Option.filter_eq_some_iff,
    Option.map_eq_some_iff, decide_eq_true_eq]
  constructor
  · rintro ⟨url, ⟨found, parts_eq, made⟩, ⟨route, answers, hits⟩, someone⟩
    exact ⟨found, url, route, parts_eq, made, answers, hits, someone⟩
  · rintro ⟨found, url, route, parts_eq, made, answers, hits, someone⟩
    exact ⟨url, ⟨found, parts_eq, made⟩, ⟨route, answers, hits⟩, someone⟩

/-- A request is answered by a route whose key it starts with. -/
theorem starts_of_answering {routes : List Route} {url : Path} {route : Route}
    (answers : answering routes url = some route) : route.key <+: url :=
  List.isPrefixOf_iff_prefix.mp (by simpa using List.find?_some answers)

/-- The volume's own route answers with the file exactly if the root has separators only behind the
common characters. -/
theorem own_same_iff {url : Path} (below : setting.platform.Under setting.root path)
    (made : request setting.platform (setting.volume.name, setting.root, path) = some url)
    (starts : routeKey setting.volume.name <+: url) :
    setting.platform.Same (target setting.ownRoute url) (setting.volume.name, path) ↔
      ∀ char ∈ setting.root.drop (commonPrefix path setting.root).length,
        separates setting.platform.agent.iswin char = true := by
  rw [← names_root_rest_iff below.1, ← names_own made starts]
  have names := @names_target setting.platform setting.ownRoute url
  exact ⟨fun same => names.symm.trans same.2, fun same => ⟨fun _ => rfl, names.trans same⟩⟩

/-- Below the root, a copy fetches the file exactly if its request is answered with it. -/
theorem answered_iff (below : setting.platform.Under setting.root path) :
    (∃ file, fetched setting.platform setting.routes parts = some file ∧
        setting.platform.Same file (setting.volume.name, path)) ↔
      setting.Answered path parts := by
  have someNames : setting.platform.names path ≠ [] := by
    intro empty
    obtain ⟨isPrefix, differs⟩ := below
    rw [empty, List.prefix_nil] at isPrefix
    exact differs (isPrefix.trans empty.symm)
  have step {found : Path × Path × Path} {url : Path} {route : Route}
      (made : request setting.platform found = some url)
      (answers : answering setting.routes url = some route) :
      (if found = (setting.volume.name, setting.root, path) ∧ route = setting.ownRoute then
          ∀ char ∈ setting.root.drop (commonPrefix path setting.root).length,
            separates setting.platform.agent.iswin char = true
        else setting.platform.Same (target route url) (setting.volume.name, path)) ↔
        setting.platform.Same (target route url) (setting.volume.name, path) := by
    split
    · rename_i isOwn
      obtain ⟨rfl, rfl⟩ := isOwn
      exact (own_same_iff below made (starts_of_answering answers)).symm
    · exact Iff.rfl
  constructor
  · rintro ⟨file, fetches, same⟩
    obtain ⟨found, url, route, parts_eq, made, answers, rfl, -⟩ := fetched_eq_some_iff.mp fetches
    exact ⟨found, url, route, parts_eq, made, answers, (step made answers).mpr same⟩
  · rintro ⟨found, url, route, parts_eq, made, answers, right⟩
    have same := (step made answers).mp right
    refine ⟨target route url, fetched_eq_some_iff.mpr
      ⟨found, url, route, parts_eq, made, answers, rfl, fun empty => someNames ?_⟩, same⟩
    rw [← same.2, empty]
    rfl

/-- A copy fetches nothing exactly if its request is not answered. -/
theorem unanswered_iff :
    fetched setting.platform setting.routes parts = none ↔ setting.Unanswered parts := by
  rw [Option.eq_none_iff_forall_not_mem]
  constructor
  · intro nothing found url route parts_eq made answers
    by_contra someone
    refine nothing (target route url) (fetched_eq_some_iff.mpr
      ⟨found, url, route, parts_eq, made, answers, rfl, fun empty => someone ?_⟩)
    simpa [target] using empty
  · intro unanswered file fetches
    obtain ⟨found, url, route, parts_eq, made, answers, rfl, someone⟩ :=
      fetched_eq_some_iff.mp fetches
    obtain ⟨root, rest⟩ := unanswered found url route parts_eq made answers
    exact someone (by simp [target, root, rest])

end Answers

/-- A text is split at the colon behind a name without one. -/
theorem splitColon_append {name : Path} (plain : ':' ∉ name) (path : Path) :
    splitColon (name ++ ':' :: path) = some (name, path) := by
  have others : ∀ char ∈ name, decide (char ≠ ':') = true := fun char member => by
    simpa using fun same : char = ':' => plain (same ▸ member)
  rw [splitColon, if_pos (by simp), List.takeWhile_append_of_pos others,
    List.dropWhile_append_of_pos others]
  simp

/-- For a name without a colon that no other volume of the agent has, both copies make the source
path of the name, the root and the path of the file. -/
theorem parts_agree (setting : Setting) (path : Path) (plain : ':' ∉ setting.volume.name)
    (single : setting.volumes.byName setting.platform.agent.agentid setting.volume.name =
      .ok (some setting.volume)) :
    setting.placed path = some (setting.volume.name, setting.root, path) ∧
      setting.got path = some (setting.volume.name, setting.root, path) := by
  constructor
  · simp [Setting.placed, placeParts, Setting.fullPath, splitColon_append plain, single,
      setting.rooted, bind, Except.bind, pure, Except.pure, Except.toOption]
  · simp [Setting.got, getParts, Setting.fullPath, splitColon_append plain,
      setting.volumes.byVolid_of_mem setting.stored, setting.rooted, Except.toOption]

/-- The source paths name the same file exactly if, for a file below the root, both requests are
answered with it, and for any other one neither is answered. -/
theorem source_paths_iff (setting : Setting) (path : Path) : setting.NamesSameFile path ↔
    (setting.platform.Under setting.root path →
      setting.Answered path (setting.placed path) ∧ setting.Answered path (setting.got path)) ∧
    (¬setting.platform.Under setting.root path →
      setting.Unanswered (setting.placed path) ∧ setting.Unanswered (setting.got path)) := by
  unfold Setting.NamesSameFile
  constructor
  · rintro ⟨inside, outside⟩
    refine ⟨fun below => ?_, fun beside => ?_⟩
    · exact ⟨(answered_iff below).mp (inside below).1, (answered_iff below).mp (inside below).2⟩
    · exact ⟨unanswered_iff.mp (outside beside).1, unanswered_iff.mp (outside beside).2⟩
  · rintro ⟨inside, outside⟩
    refine ⟨fun below => ?_, fun beside => ?_⟩
    · exact ⟨(answered_iff below).mpr (inside below).1, (answered_iff below).mpr (inside below).2⟩
    · exact ⟨unanswered_iff.mpr (outside beside).1, unanswered_iff.mpr (outside beside).2⟩

/-- A Linux agent, whose requests arrive as they are. -/
def linux : Platform where
  agent := ⟨1, false⟩
  fold := id
  exact _ _ := rfl
  arrive := id
  separators _ isSeparator := isSeparator
  others _ _ := rfl

/-- The data directory of a Linux agent, on the volume of the root. -/
def dataVolume : VolumeEntry := ⟨1, 1, "/".toList, some "/var/palette/data".toList⟩

/-- An agent with this volume. -/
def dataSetting : Setting where
  platform := linux
  volumes := ⟨[dataVolume], by decide⟩
  archive _ := true
  volume := dataVolume
  root := "/var/palette/data".toList
  stored := List.mem_singleton_self _
  own := rfl
  archived := rfl
  rooted := rfl

/-- A file beside the data directory is asked for as one inside of it. -/
theorem sibling_fetched : ¬ ∀ (setting : Setting) (path : Path), setting.NamesSameFile path := by
  intro same
  have beside : ¬dataSetting.platform.Under dataSetting.root "/var/palette/other/x".toList := by
    rintro ⟨isPrefix, -⟩
    have outside : ¬ linux.names "/var/palette/data".toList <+:
        linux.names "/var/palette/other/x".toList := by
      decide +kernel
    exact outside isPrefix
  have nothing := ((same dataSetting "/var/palette/other/x".toList).2 beside).2
  have inside : fetched dataSetting.platform dataSetting.routes
      (dataSetting.got "/var/palette/other/x".toList) =
        some ("/".toList, "/var/palette/data/other/x".toList) := by
    decide +kernel
  rw [inside] at nothing
  cases nothing

end Palette.Files.SourcePaths
