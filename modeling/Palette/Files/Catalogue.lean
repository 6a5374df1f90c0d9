import Mathlib.Data.List.Nodup
import Palette.Commands.Reply
import Palette.Foundation.Script

/-!
# The catalogue of files

A row of the catalogue names a place: a path on the agent that owns a volume, or a path in
the bucket of a cloud entry. What is stored at the places is a map from places to contents.

Agents and clouds answer requests, and an answer that is no success may still have changed
the place that it was about. Every answer is given in advance, with what it leaves there.
-/

namespace Palette.Files

open Palette.Commands (Failure)
open Palette.Foundation

/-- A path as text. -/
abbrev Path := List Char

/-! ## Paths of the two kinds of agents -/

namespace Posix

/-- `posixpath.basename`. -/
def basename (path : Path) : Path := (path.reverse.takeWhile (· ≠ '/')).reverse

/-- `posixpath.join`. -/
def join (head tail : Path) : Path :=
  if tail.head? = some '/' then tail
  else if head = [] ∨ head.getLast? = some '/' then head ++ tail
  else head ++ '/' :: tail

end Posix

namespace Nt

/-- The characters that separate parts of a path. -/
def isSeparator (char : Char) : Bool := char = '\\' || char = '/'

/-- The length of the drive of a path: a letter with a colon, or host and share. -/
def driveLength (path : Path) : Nat :=
  match path with
  | first :: second :: rest =>
    if isSeparator first ∧ isSeparator second ∧ ¬ rest.head?.any isSeparator then
      let host := rest.takeWhile fun char => !isSeparator char
      match rest.drop host.length with
      | [] => 0
      | _ :: more =>
        let share := more.takeWhile fun char => !isSeparator char
        if share = [] ∧ more ≠ [] then 0 else 2 + host.length + 1 + share.length
    else if second = ':' then 2
    else 0
  | _ => 0

/-- `ntpath.basename`. -/
def basename (path : Path) : Path :=
  ((path.drop (driveLength path)).reverse.takeWhile fun char => !isSeparator char).reverse

/-- `ntpath.join`. -/
def join (head tail : Path) : Path :=
  let headDrive := head.take (driveLength head)
  let headPath := head.drop (driveLength head)
  let tailDrive := tail.take (driveLength tail)
  let tailPath := tail.drop (driveLength tail)
  if tailPath.head?.any isSeparator then
    if tailDrive ≠ [] ∨ headDrive = [] then tailDrive ++ tailPath else headDrive ++ tailPath
  else if tailDrive ≠ [] ∧ tailDrive ≠ headDrive ∧
      tailDrive.map Char.toLower ≠ headDrive.map Char.toLower then
    tailDrive ++ tailPath
  else
    let drive := if tailDrive ≠ [] then tailDrive else headDrive
    let path :=
      if headPath ≠ [] ∧ ¬ headPath.getLast?.any isSeparator then headPath ++ '\\' :: tailPath
      else headPath ++ tailPath
    if path ≠ [] ∧ ¬ path.head?.any isSeparator ∧ drive ≠ [] ∧ drive.getLast? ≠ some ':' then
      drive ++ '\\' :: path
    else drive ++ path

end Nt

/-- An agent, as far as files are concerned. -/
structure Agent where
  agentid : Nat
  iswin : Bool
  deriving DecidableEq, Repr

namespace Agent

/-- `agent.path.basename`. -/
def basename (agent : Agent) : Path → Path := if agent.iswin then Nt.basename else Posix.basename

/-- `agent.path.join`. -/
def join (agent : Agent) : Path → Path → Path := if agent.iswin then Nt.join else Posix.join

end Agent

/-! ## Rows and places -/

/-- `AgentVolumesEntry`. -/
structure VolumeEntry where
  volid : Nat
  agentid : Nat
  name : Path
  path : Option Path
  deriving DecidableEq, Repr

/-- The kinds of clouds. Any other text is an unknown kind. -/
inductive CloudType where
  | s3
  | gcs
  | unknown
  deriving DecidableEq, Repr

/-- `CloudEntry`. -/
structure CloudEntry where
  cloudid : Nat
  cloudType : CloudType
  deriving DecidableEq, Repr

/-- `STORAGE_TYPE_VOL` and `STORAGE_TYPE_CLOUD`. -/
inductive StorageType where
  | vol
  | cloud
  deriving DecidableEq, Repr

/-- The types of files. -/
inductive FileType where
  | backup
  | ziplog
  | workbook
  | datasource
  deriving DecidableEq, Repr

/-- `FileEntry`. -/
structure FileEntry where
  fileid : Nat
  envid : Nat
  name : Path
  fileType : FileType
  storageType : StorageType
  storageid : Nat
  size : Nat
  auto : Option Bool
  creationTime : Int
  deriving DecidableEq, Repr

/-- A place where a file may be: on an agent or in the bucket of a cloud entry. -/
inductive Location where
  | volume (agentid : Nat) (path : Path)
  | cloud (cloudid : Nat) (path : Path)
  deriving DecidableEq, Repr

/-- The volumes, whose ids are unique. -/
structure Volumes where
  entries : List VolumeEntry
  unique : (entries.map VolumeEntry.volid).Nodup

namespace Volumes

/-- `AgentVolumesEntry.get_vol_entry_by_volid`. -/
def byVolid (volumes : Volumes) (volid : Nat) : Option VolumeEntry :=
  volumes.entries.find? fun entry => entry.volid = volid

/-- `AgentVolumesEntry.get_vol_entry_by_agentid_vol_name`. Several rows raise. -/
def byName (volumes : Volumes) (agentid : Nat) (name : Path) :
    Except Failure (Option VolumeEntry) :=
  match volumes.entries.filter fun entry => entry.agentid = agentid && entry.name = name with
  | [] => .ok none
  | [entry] => .ok (some entry)
  | _ => .error ⟨.otherException, "Multiple rows were found for one()"⟩

/-- A stored volume is found by its id. -/
theorem byVolid_of_mem (volumes : Volumes) {entry : VolumeEntry}
    (stored : entry ∈ volumes.entries) : volumes.byVolid entry.volid = some entry := by
  cases found : volumes.byVolid entry.volid with
  | none =>
    have nowhere := List.find?_eq_none.mp found entry stored
    simp at nowhere
  | some other =>
    have same : other.volid = entry.volid := by simpa using List.find?_some found
    exact congrArg some (List.inj_on_of_nodup_map volumes.unique
      (List.mem_of_find?_eq_some found) stored same)

/-- The place that a row of the catalogue names. -/
def locate (volumes : Volumes) (entry : FileEntry) : Option Location :=
  match entry.storageType with
  | .vol => (volumes.byVolid entry.storageid).map fun volume => .volume volume.agentid entry.name
  | .cloud => some (.cloud entry.storageid entry.name)

end Volumes

/-- The columns of a new row. -/
structure NewFile where
  envid : Nat
  name : Path
  fileType : FileType
  storageType : StorageType
  storageid : Nat
  size : Nat
  auto : Bool
  now : Int
  deriving DecidableEq, Repr

/-- A new row with its id. -/
def NewFile.entry (file : NewFile) (fileid : Nat) : FileEntry :=
  ⟨fileid, file.envid, file.name, file.fileType, file.storageType, file.storageid, file.size,
    some file.auto, file.now⟩

/-- The table of files. Ids are handed out in order and are unique. -/
structure Catalogue where
  rows : List FileEntry
  nextFileid : Nat
  below : ∀ row ∈ rows, row.fileid < nextFileid
  distinct : (rows.map FileEntry.fileid).Nodup

namespace Catalogue

/-- A table without rows. -/
def empty : Catalogue := ⟨[], 1, by simp, by simp⟩

/-- The table with one more row. -/
def add (catalogue : Catalogue) (file : NewFile) : Catalogue where
  rows := catalogue.rows ++ [file.entry catalogue.nextFileid]
  nextFileid := catalogue.nextFileid + 1
  below := by
    intro row member
    rcases List.mem_append.mp member with old | new
    · exact Nat.lt_succ_of_lt (catalogue.below row old)
    · rw [List.mem_singleton.mp new]
      exact Nat.lt_succ_self _
  distinct := by
    rw [List.map_append, List.nodup_append]
    refine ⟨catalogue.distinct, List.nodup_singleton _, ?_⟩
    intro fileid old other new same
    obtain ⟨row, member, rfl⟩ := List.mem_map.mp old
    have fresh : other = catalogue.nextFileid := List.mem_singleton.mp new
    exact absurd (catalogue.below row member) (by omega)

/-- The table without some rows. -/
def keep (catalogue : Catalogue) (kept : FileEntry → Bool) : Catalogue where
  rows := catalogue.rows.filter kept
  nextFileid := catalogue.nextFileid
  below row member := catalogue.below row (List.mem_of_mem_filter member)
  distinct := catalogue.distinct.sublist (List.filter_sublist.map FileEntry.fileid)

/-- Equal ids belong to one row. -/
theorem row_unique (catalogue : Catalogue) {left right : FileEntry}
    (leftStored : left ∈ catalogue.rows) (rightStored : right ∈ catalogue.rows)
    (same : left.fileid = right.fileid) : left = right :=
  List.inj_on_of_nodup_map catalogue.distinct leftStored rightStored same

end Catalogue

section Stores

variable {Content : Type}

/-- The contents of all places and the catalogue. -/
structure Store (Content : Type) where
  contents : Location → Option Content
  catalogue : Catalogue

/-- What is done with files. -/
abbrev Filing (Content : Type) := Script (Store Content) Failure

namespace Store

/-- The rows of the catalogue. -/
def rows (store : Store Content) : List FileEntry := store.catalogue.rows

/-- Put a content, or nothing, at a place. -/
def put (store : Store Content) (location : Location) (content : Option Content) :
    Store Content :=
  { store with contents := Function.update store.contents location content }

/-- The store with one more row. -/
def adding (store : Store Content) (file : NewFile) : Store Content :=
  { store with catalogue := store.catalogue.add file }

/-- The row that is added next. -/
def next (store : Store Content) (file : NewFile) : FileEntry :=
  file.entry store.catalogue.nextFileid

@[simp] theorem put_rows (store : Store Content) (location : Location)
    (content : Option Content) : (store.put location content).rows = store.rows := rfl

@[simp] theorem put_self (store : Store Content) (location : Location)
    (content : Option Content) : (store.put location content).contents location = content :=
  Function.update_self ..

theorem put_of_ne (store : Store Content) {location other : Location} (content : Option Content)
    (apart : other ≠ location) : (store.put location content).contents other =
      store.contents other :=
  Function.update_of_ne apart ..

@[simp] theorem adding_contents (store : Store Content) (file : NewFile) :
    (store.adding file).contents = store.contents := rfl

@[simp] theorem adding_rows (store : Store Content) (file : NewFile) :
    (store.adding file).rows = store.rows ++ [store.next file] := rfl

end Store

/-- `FileManager.add`. -/
def add (file : NewFile) : Filing Content FileEntry := do
  let store ← get
  modify fun store => store.adding file
  return store.next file

/-! ## Deleting a file of an agent -/

/-- The answers to the two requests of a deletion. A size or an error text is read from the
reply; the second request may remove the file whatever it answers. -/
structure Deletion where
  filesize : Except Failure (Option String)
  removes : Bool
  delete : Except Failure (Option String)

/-- The error that a reply reports, if it reports one. An `IOError` is reported too. -/
def reported (answer : Except Failure (Option String)) : Except Failure (Option String) :=
  match answer with
  | .ok error => .ok error
  | .error failure => if failure.isIOError then .ok (some failure.message) else .error failure

/-- `FileManager.delete_vol_file`. -/
def deleteVolFile (agentid : Nat) (path : Path) (deletion : Deletion) :
    Filing Content (Option String) := do
  match ← Script.settle (reported deletion.filesize) with
  | some error => return some error
  | none =>
    if deletion.removes then modify fun store => store.put (.volume agentid path) none
    Script.settle (reported deletion.delete)

/-- An answer raises what is not reported. -/
def Raises (answer : Except Failure (Option String)) : Prop :=
  ∃ failure, answer = .error failure ∧ failure.isIOError = false

/-- A deletion raises if one of the requests that are made does. -/
def Deletion.Raises (deletion : Deletion) : Prop :=
  Files.Raises deletion.filesize ∨
    deletion.filesize = .ok none ∧ Files.Raises deletion.delete

end Stores

end Palette.Files
