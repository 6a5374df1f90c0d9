import Palette.Files.PlaceFile

/-!
# A backup and the rotation after it

After every backup the oldest files are deleted, first of the scheduled and then of the other
backups, until as many are left as are to be retained. The rows are read in the order of
their creation; the database may order rows of the same time in any way. Deleting a file of
an agent removes its row whatever the agent answers; a cloud that reports an error keeps it.

Afterwards the row of the new backup is looked up by its id to be reported.
-/

namespace Palette.Files

open Palette.Commands (Failure)
open Palette.Foundation

/-! ## Deleting what a row names -/

/-- What happens when the file of a row is deleted. An agent may not be connected. A cloud may
have removed the file whatever it answers. -/
structure RowDeletion where
  connected : Bool
  onAgent : Deletion
  removes : Bool
  inCloud : Except Failure Unit

/-- How the rows of a query that orders by creation time are ordered. -/
structure RowOrder where
  order : List FileEntry → List FileEntry
  permutes : ∀ rows, (order rows).Perm rows
  sorted : ∀ rows, (order rows).Pairwise fun earlier later =>
    earlier.creationTime ≤ later.creationTime

/-- What rotating backups depends on besides the store. -/
structure Retention where
  volumes : Volumes
  envid : Nat
  autoRetain : Int
  userRetain : Int
  rowOrder : RowOrder
  deletionOf : FileEntry → RowDeletion

section Rotating

variable {Content : Type} (retention : Retention)

/-- `FileManager.remove`. -/
def remove (fileid : Nat) : Filing Content PUnit :=
  modify fun store => { store with
    catalogue := store.catalogue.keep fun row =>
      !(row.envid = retention.envid && row.fileid = fileid) }

/-- The part of `delfile_by_entry` for a file in a cloud. -/
def delfileInCloud (entry : FileEntry) : Filing Content (Option String) := do
  let deletion := retention.deletionOf entry
  if deletion.removes then
    modify fun store => store.put (.cloud entry.storageid entry.name) none
  match deletion.inCloud with
  | .ok () =>
    remove retention entry.fileid
    return none
  | .error failure =>
    if failure.isIOError then return some failure.message else throw failure

/-- The part of `delfile_by_entry` for a file of an agent. -/
def delfileOnAgent (entry : FileEntry) : Filing Content (Option String) := do
  match retention.volumes.byVolid entry.storageid with
  | none => return some "volid not found"
  | some volume =>
    let deletion := retention.deletionOf entry
    if deletion.connected then
      let error ← deleteVolFile volume.agentid entry.name deletion.onAgent
      remove retention entry.fileid
      return error
    else return some "Agentid not connected."

/-- `FileManager.delfile_by_entry`, with the error of the reply. -/
def delfileByEntry (entry : FileEntry) : Filing Content (Option String) :=
  match entry.storageType with
  | .cloud => delfileInCloud retention entry
  | .vol => delfileOnAgent retention entry

/-! ## Rotating -/

/-- `FileManager.find_by_auto_envid`. -/
def findByAutoEnvid (fileType : FileType) (rows : List FileEntry) : List FileEntry :=
  retention.rowOrder.order (rows.filter fun row =>
    row.envid = retention.envid && row.fileType = fileType && row.auto ≠ some false)

/-- `FileManager.find_by_non_auto_envid`. -/
def findByNonAutoEnvid (fileType : FileType) (rows : List FileEntry) : List FileEntry :=
  retention.rowOrder.order (rows.filter fun row =>
    row.envid = retention.envid && row.fileType = fileType && row.auto = some false)

/-- The rows that are deleted of those that were found. Minus one retains them all. -/
def outdated (retainCount : Int) (rows : List FileEntry) : List FileEntry :=
  if retainCount = -1 then [] else rows.take ((rows.length : Int) - retainCount).toNat

/-- `Controller.file_rotate`. Errors are only noted. -/
def fileRotate (retainCount : Int) (find : List FileEntry → List FileEntry) :
    Filing Content PUnit := do
  let store ← get
  (outdated retainCount (find store.rows)).forM fun entry => do
    let _ ← delfileByEntry retention entry

/-- `Controller.rotate_backups`. -/
def rotateBackups : Filing Content PUnit := do
  fileRotate retention retention.autoRetain (findByAutoEnvid retention .backup)
  fileRotate retention retention.userRetain (findByNonAutoEnvid retention .backup)

/-! ## The backup -/

/-- The part of a backup before the file is placed, and the computations after it: the
failure that is raised, or the error that is reported, or none. -/
structure Preparation where
  command : Except Failure (Option String)
  statistics : Except Failure Unit

/-- `Controller.backup_cmd`, with the error of the reply or the id of the row. The command
makes the file. -/
def backupCmd (backup : Order Content) (content : Content) (preparation : Preparation) :
    Filing Content (Except String Nat) := do
  match ← Script.settle preparation.command with
  | some error => return .error error
  | none =>
    modify fun store => store.put backup.original (some content)
    let placement ← backup.doCopy
    Script.settle preparation.statistics
    match placement.placedFileEntry with
    | none => throw ⟨.attributeError, "'NoneType' object has no attribute 'fileid'"⟩
    | some entry => return .ok entry.fileid

/-- The backup as `do_backup` runs it. A failure that is a standard error becomes a reply. -/
def attemptedBackup (backup : Order Content) (content : Content) (preparation : Preparation) :
    Filing Content (Except String Nat) := do
  match ← Script.attempt Failure.isStandardError (backupCmd backup content preparation) with
  | .ok reply => return reply
  | .error failure => return .error failure.message

/-- `FileManager.get_by_id`. -/
def getById (fileid : Nat) (rows : List FileEntry) : Option FileEntry :=
  rows.find? fun row => row.fileid = fileid

/-- The part of `do_backup` after the backup: rotation, the event, and the reply with the
entry or without one. The reply of an entry is built from its row. -/
def concludeBackup (event : Except Failure Unit) (api : FileEntry → Except Failure Unit)
    (reply : Except String Nat) : Filing Content (Option FileEntry) := do
  rotateBackups retention
  Script.settle event
  match reply with
  | .error _ => return none
  | .ok fileid =>
    match getById fileid (← get).rows with
    | none => throw ⟨.attributeError, "'NoneType' object has no attribute 'api'"⟩
    | some entry =>
      Script.settle (api entry)
      return some entry

end Rotating

end Palette.Files
