import Palette.Files.Catalogue

/-!
# Placing a file

A file that a command made on an agent stays there, is copied to another agent or is put
into a cloud. The copy is a download that the target agent makes from the web server of the
source agent. Where a copy fails, the row of the catalogue names the original; where it
succeeds, the row names the copy and the original may be deleted.

The web servers and the programs of the agents lie outside: which file a server has for a
path, and under which name a download is saved, are given.
-/

namespace Palette.Files

open Palette.Commands (Failure)
open Palette.Foundation

/-- Where a file is to go, as the disk check found it. A file that leaves its agent is first
made on a volume of its own agent. -/
inductive Target where
  | cloud (targetEntry : CloudEntry) (primaryEntry : VolumeEntry)
  | vol (targetEntry : VolumeEntry) (targetAgent : Agent) (targetDir : Path)
      (primaryEntry : VolumeEntry)
  deriving DecidableEq, Repr

namespace Target

/-- The volume on which the file is made. -/
def primaryEntry : Target → VolumeEntry
  | cloud _ primaryEntry => primaryEntry
  | vol _ _ _ primaryEntry => primaryEntry

end Target

/-- `DiskCheck`. The volumes that it found are stored, the volume on which the file is made
is one of the agent, and the target volume is one of the target agent. -/
structure DiskCheck (volumes : Volumes) (agent : Agent) where
  target : Target
  parentDir : Path
  fileType : FileType
  primaryStored : target.primaryEntry ∈ volumes.entries
  primaryOwn : target.primaryEntry.agentid = agent.agentid
  targetStored : ∀ targetEntry targetAgent targetDir primaryEntry,
    target = .vol targetEntry targetAgent targetDir primaryEntry →
      targetEntry ∈ volumes.entries ∧ targetEntry.agentid = targetAgent.agentid

section Placing

variable {Content : Type}

/-- How a request that copies a file ends. One that does not complete may leave something
behind where it was to write. -/
inductive Attempt (Content : Type) where
  | completed
  | failed (error : String) (left : Option Content)
  | raised (failure : Failure) (left : Option Content)

/-- The answers that a copy to another agent gets, and what the web server of the source
agent has for a path and the name under which its download is saved. -/
structure Network (Content : Type) where
  sourceConnected : Bool
  targetConnected : Bool
  firewall : Except Failure (Option String)
  mkdirs : Except Failure Unit
  sourceKnown : Bool
  served : Path → Option Path
  savedName : Path → Path
  command : Attempt Content

/-- The exceptions of `mkdirs` that are caught. -/
def isMkdirsError (failure : Failure) : Bool :=
  failure.isIOError || failure.kind = .valueError

/-- The download that the target agent makes. A server without the file reports that. -/
def download (source target : Agent) (sourcePath targetDir : Path) (network : Network Content) :
    Filing Content (Option String) := do
  let store ← get
  let saved := Location.volume target.agentid (target.join targetDir (network.savedName sourcePath))
  match network.command with
  | .failed error left =>
    modify fun store => store.put saved left
    return some error
  | .raised failure left =>
    modify fun store => store.put saved left
    throw failure
  | .completed =>
    match (network.served sourcePath).bind fun path => store.contents (.volume source.agentid path) with
    | none => return some "Failed to GET"
    | some content =>
      modify fun store => store.put saved (some content)
      return none

/-- The part of `copy_cmd` behind the firewall: the directory of the target is made first. -/
def copyBehindFirewall (source target : Agent) (sourcePath targetDir : Path)
    (network : Network Content) : Filing Content (Option String) :=
  match network.mkdirs with
  | .error failure =>
    if isMkdirsError failure then pure (some "Could not create directory") else throw failure
  | .ok () =>
    if network.sourceKnown then download source target sourcePath targetDir network
    else pure (some "Source agent not found")

/-- `Controller.copy_cmd`, with the error of the reply. Only an agent with Windows has a
firewall, and its answer includes the event about a failure. -/
def copyCmd (source target : Agent) (sourcePath targetDir : Path) (network : Network Content) :
    Filing Content (Option String) :=
  if sourcePath = [] then pure (some "[ERROR] Invalid source path with no length.")
  else if network.sourceConnected = false ∨ network.targetConnected = false then
    pure (some "No connected agent")
  else do
    match ← if source.iswin then Script.settle network.firewall else pure none with
    | some error => return some error
    | none => copyBehindFirewall source target sourcePath targetDir network

/-- `os.path.commonprefix` of two texts, which compares characters. -/
def commonPrefix : Path → Path → Path
  | left :: lefts, right :: rights => if left = right then left :: commonPrefix lefts rights else []
  | _, _ => []

/-- The volume and the rest of a full path, split at the first colon. -/
def splitVolume (fullPath : Path) : Except Failure (Path × Path) :=
  if ':' ∈ fullPath then
    let volume := fullPath.takeWhile (· ≠ ':')
    .ok (volume, fullPath.drop (volume.length + 1))
  else .error ⟨.valueError, "need more than 1 value to unpack"⟩

/-- The path that is asked from the web server: the name of the volume and what follows the
path of the volume. A volume without a path cannot be compared. -/
def sourcePathOf (volume : VolumeEntry) (backupPath : Path) : Except Failure Path :=
  match volume.path with
  | none => .error ⟨.typeError, "'NoneType' object is not iterable"⟩
  | some path => .ok (volume.name ++ backupPath.drop (commonPrefix backupPath path).length)

/-- Everything that placing a file depends on besides the store. -/
structure Order (Content : Type) where
  volumes : Volumes
  agent : Agent
  dcheck : DiskCheck volumes agent
  envid : Nat
  fullPath : Path
  size : Nat
  auto : Bool
  now : Int
  enableDelete : Bool
  network : Network Content
  upload : Attempt Content
  deletion : Deletion

/-- The results of a `PlaceFile`. -/
structure Placement where
  placedFileEntry : Option FileEntry
  copied : Bool
  copyFailed : Bool
  deleteLocalBackup : Bool
  deriving DecidableEq, Repr

namespace Order

variable (order : Order Content)

/-- The name of the file without its directory. -/
def nameOnly : Path := order.agent.basename order.fullPath

/-- The place of the file before it is placed. -/
def original : Location := .volume order.agent.agentid order.fullPath

/-- A row for the file. -/
def newFile (name : Path) (storageType : StorageType) (storageid : Nat) : NewFile :=
  ⟨order.envid, name, order.dcheck.fileType, storageType, storageid, order.size, order.auto,
    order.now⟩

/-- A row for the original, which stays on its agent. -/
def remaining (volume : VolumeEntry) : NewFile := order.newFile order.fullPath .vol volume.volid

/-- The results where a copy failed. -/
def copyFailed (primaryEntry : VolumeEntry) : Filing Content Placement := do
  let entry ← add (order.remaining primaryEntry)
  return ⟨some entry, false, true, false⟩

/-- The results where a copy succeeded. -/
def copied (copy : NewFile) : Filing Content Placement := do
  let entry ← add copy
  return ⟨some entry, true, false, true⟩

/-- `PlaceFile.copy_to_cloud`. An unknown kind of cloud leaves the instance unbound. -/
def copyToCloud (targetEntry : CloudEntry) (primaryEntry : VolumeEntry) :
    Filing Content Placement := do
  let cloudPath := Posix.join order.dcheck.parentDir order.nameOnly
  let place := Location.cloud targetEntry.cloudid cloudPath
  if targetEntry.cloudType = .unknown then
    throw ⟨.otherException, "UnboundLocalError: cloud_instance"⟩
  match order.upload with
  | .raised failure left =>
    modify fun store => store.put place left
    throw failure
  | .failed _ left =>
    modify fun store => store.put place left
    order.copyFailed primaryEntry
  | .completed =>
    modify fun store => store.put place (store.contents order.original)
    copied (order.newFile cloudPath .cloud targetEntry.cloudid)

/-- The part of `copy_to_agent` after the copy was answered. -/
def concludeCopy (targetEntry : VolumeEntry) (targetAgent : Agent) (targetDir : Path)
    (primaryEntry : VolumeEntry) : Option String → Filing Content Placement
  | some _ => order.copyFailed primaryEntry
  | none => copied (order.newFile (targetAgent.join targetDir order.nameOnly) .vol targetEntry.volid)

/-- `PlaceFile.copy_to_agent`. Without the volume of the path nothing is done. -/
def copyToAgent (targetEntry : VolumeEntry) (targetAgent : Agent) (targetDir : Path)
    (primaryEntry : VolumeEntry) : Filing Content Placement := do
  let (backupVol, backupPath) ← Script.settle (splitVolume order.fullPath)
  let volume ← Script.settle (order.volumes.byName order.agent.agentid backupVol)
  match volume with
  | none => return ⟨none, false, false, false⟩
  | some volume =>
    let sourcePath ← Script.settle (sourcePathOf volume backupPath)
    let answer ← copyCmd order.agent targetAgent sourcePath targetDir order.network
    order.concludeCopy targetEntry targetAgent targetDir primaryEntry answer

/-- The deletion of the original after it was copied. A reported error is only noted. -/
def deleteLocal (placement : Placement) : Filing Content Placement := do
  if order.enableDelete && placement.deleteLocalBackup then
    let _ ← deleteVolFile order.agent.agentid order.fullPath order.deletion
  return placement

/-- `PlaceFile.do_copy`. -/
def doCopy : Filing Content Placement :=
  match order.dcheck.target with
  | .cloud targetEntry primaryEntry => do
    order.deleteLocal (← order.copyToCloud targetEntry primaryEntry)
  | .vol targetEntry targetAgent targetDir primaryEntry =>
    if targetAgent.agentid = order.agent.agentid then do
      let entry ← add (order.remaining targetEntry)
      return ⟨some entry, true, false, false⟩
    else do
      order.deleteLocal (← order.copyToAgent targetEntry targetAgent targetDir primaryEntry)

end Order

end Placing

end Palette.Files
