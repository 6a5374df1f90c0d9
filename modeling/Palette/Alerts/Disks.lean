import Mathlib
import Palette.Events.Generation
import Palette.Files.Catalogue
import Palette.Foundation.Alternation
import Palette.Foundation.Dictionary
import Palette.Foundation.Transition
import Palette.Metrics.Levels

/-!
# The disk alerts of an agent

An agent reports its volumes when it connects and when it is asked. Each volume is merged into
its row, or gets one; where the color of its disk usage is another one than the color that was
last notified, an event is generated and the color is written to the row.

All of this happens in one transaction, which is committed at the end of the report. The
generation of an event commits it on the way, with what was written so far: the rows of the
volumes before, but not the color of the event itself. An exception gives up what was not
committed.
-/

namespace Palette.Alerts

open Palette.Commands (Failure)
open Palette.Events (Generation)
open Palette.Files (Path)
open Palette.Foundation Script
open Palette.Metrics (Color)

/-! ## Rows and reports -/

/-- `AgentVolumesEntry`. The color that was notified is stored by its first letter. -/
structure Volume where
  agentid : Nat
  name : Option Path
  path : Option Path
  volType : Option Path
  label : Option Path
  driveFormat : Option Path
  size : Option Int
  availableSpace : Option Int
  watermarkNotifiedColor : Option Color
  archive : Bool
  archiveLimit : Option Int
  active : Bool
  deriving DecidableEq, Repr

/-- A volume is known by its agent and its name. -/
def Volume.key (volume : Volume) : Nat × Option Path := (volume.agentid, volume.name)

/-- The rows of `agent_volumes`. -/
abbrev Volumes := Dictionary Volume.key

/-- A field of a report, unless it is missing. Its value may be null. -/
abbrev Field (Value : Type) := Option (Option Value)

/-- A volume of a report. -/
structure VolumeInfo where
  name : Field Path
  path : Field Path
  type : Field Path
  label : Field Path
  driveFormat : Field Path
  size : Field Int
  availableSpace : Field Int
  deriving DecidableEq, Repr

/-- An event about a volume. -/
structure DiskEvent where
  agentid : Nat
  name : Option Path
  color : Color
  size : Int
  availableSpace : Int
  deriving DecidableEq, Repr

/-- The volume of an event. -/
def DiskEvent.key (event : DiskEvent) : Nat × Option Path := (event.agentid, event.name)

/-- What an agent reports, and what is known of it: whether it has a type, whether its
connection is that of the primary, and whether it has a name to display. Texts that are no
number make the settings raise; one that is missing is none. The database may refuse a row, as
one with a number of more than 64 bits. -/
structure DiskReport extends Files.Agent where
  hasType : Bool
  primary : Bool
  displayname : Option String
  dataDir : Path
  low : Option (Except Failure ℚ)
  high : Option (Except Failure ℚ)
  tableauDataDir : Option Path
  volumes : Option (List VolumeInfo)
  gen : DiskEvent → Generation
  refuses : Volume → Option Failure
  /-- A later commit stores what a report that returns `False` has written. -/
  keeps : Bool

/-- The rows that are committed, those that the session sees, whether an archive was found in
the report under way, and the events. -/
structure Disks where
  stored : Volumes
  seen : Volumes
  linuxArchiveVolumeFound : Bool
  events : List DiskEvent

/-- What is done with the disks. -/
abbrev DiskWork := Script Disks Failure

namespace Disks

/-- Commit what the session sees. -/
def commit (disks : Disks) : Disks := { disks with stored := disks.seen }

/-- Give up what was not committed. -/
def rollback (disks : Disks) : Disks := { disks with seen := disks.stored }

/-- Write a row, be it new or not. -/
def put (volume : Volume) (disks : Disks) : Disks := { disks with seen := disks.seen.put volume }

/-- Generate an event, which commits. -/
def generate (event : DiskEvent) (disks : Disks) : Disks :=
  { disks.commit with events := disks.events ++ [event] }

end Disks

/-- The rows with the volumes of an agent set to inactive. -/
def Volumes.deactivate (volumes : Volumes) (agentid : Nat) : Volumes where
  entries := volumes.entries.map fun volume =>
    if volume.agentid = agentid then { volume with active := false } else volume
  distinct := by
    have same : (volumes.entries.map fun volume =>
        if volume.agentid = agentid then { volume with active := false } else volume).map
          Volume.key = volumes.entries.map Volume.key := by
      rw [List.map_map]
      refine List.map_congr_left fun volume _ => ?_
      simp only [Function.comp_apply]
      split <;> rfl
    exact same ▸ volumes.distinct

/-! ## A volume -/

/-- `DATA_DIR`. -/
def dataDirName : Path := ['D', 'a', 't', 'a']

/-- `disk_watermark`. -/
def diskWatermark : Option (Except Failure ℚ) → Except Failure ℚ
  | none => .ok 100
  | some value => value

/-- `disk_color`. -/
def diskColor (used size : Int) (low high : ℚ) : Color :=
  if high / 100 * size < used then .red
  else if low / 100 * size < used then .yellow
  else .green

/-- What is known before the loop: where archives go, the watermarks and the volumes in the
order of the loop. -/
structure Scan where
  dataDir : Path
  low : ℚ
  high : ℚ
  volumes : List VolumeInfo

namespace DiskReport

variable (report : DiskReport)

/-- `palette_data_dir`, unless a directory has no drive. -/
def paletteDataDir : Option Path :=
  let drivenData : Bool := match report.tableauDataDir with
    | some dir => (dir.splitOn ':').length = 2
    | none => false
  if report.iswin then
    if report.primary ∧ ¬ drivenData then none
    else match report.dataDir.splitOn ':' with
      | [_, dir] => some (report.join dir dataDirName)
      | _ => none
  else some (report.join report.dataDir dataDirName)

/-- A name as it is compared. Null comes before all texts. -/
def sortKey (volume : VolumeInfo) : Path :=
  match volume.name with
  | some (some name) => ' ' :: name
  | _ => []

/-- The volumes by their names, the last one first. One without a name raises. -/
def volumesSorted (volumes : List VolumeInfo) : Except Failure (List VolumeInfo) :=
  if volumes.any fun volume => volume.name.isNone then .error ⟨.keyError, "'name'"⟩
  else .ok (volumes.insertionSort fun left right => sortKey right ≤ sortKey left)

/-- What is read before the loop. -/
def scan (dataDir : Path) : Except Failure Scan := do
  let low ← diskWatermark report.low
  let high ← diskWatermark report.high
  let volumes ← volumesSorted (report.volumes.getD [])
  return ⟨dataDir, low, high, volumes⟩

/-- The name of a volume; drive letters are upper case. -/
def nameOf (name : Option Path) : Except Failure (Option Path) :=
  if report.iswin then
    match name with
    | none => .error ⟨.attributeError, "'NoneType' object has no attribute 'upper'"⟩
    | some name => .ok (some (name.map Char.toUpper))
  else .ok name

/-- An existing row with what a report says of its volume. -/
def merge (scan : Scan) (volume : VolumeInfo) (entry : Volume) : Volume :=
  let size := volume.size.getD entry.size
  let volType := volume.type.getD entry.volType
  let archives : Bool := volType = some "Fixed".toList || !report.iswin
  { entry with
    size := size
    volType := volType
    archiveLimit := if archives then size else entry.archiveLimit
    archive := archives || entry.archive
    path := if archives ∧ entry.path.getD [] = [] then volume.path.getD (some scan.dataDir)
      else entry.path
    label := volume.label.getD entry.label
    driveFormat := volume.driveFormat.getD entry.driveFormat
    availableSpace := volume.availableSpace.getD entry.availableSpace }

/-- A new volume may take archives: a fixed one on Windows, and otherwise one on a disk below
which the data directory is. -/
def archives (name type : Option Path) : Except Failure Bool :=
  if report.iswin then .ok (type = some "Fixed".toList)
  else match type with
    | none => .error ⟨.typeError, "'NoneType' object has no attribute '__getitem__'"⟩
    | some type => .ok (type.take 7 = "/dev/sd".toList &&
        name.any fun name => name.isPrefixOf report.dataDir)

/-- `AgentVolumesEntry.build`, for a volume with a name and a type. -/
def build (scan : Scan) (volume : VolumeInfo) (name type : Option Path) :
    Except Failure Volume := do
  let archive ← report.archives name type
  return {
    agentid := report.agentid
    name := name
    path := if archive then some scan.dataDir else volume.path.getD none
    volType := type
    label := volume.label.getD none
    driveFormat := volume.driveFormat.getD none
    size := volume.size.getD none
    availableSpace := volume.availableSpace.getD none
    watermarkNotifiedColor := none
    archive := archive
    archiveLimit := if archive ∧ (volume.size.getD none).getD 0 ≠ 0 then volume.size.getD none
      else none
    active := true }

/-- The event that is due for a row: that of the color of the disk usage, if that can be told
and is worth one. A size that is null cannot be subtracted. -/
def due (scan : Scan) (volume : VolumeInfo) (entry : Volume) (worth : Color → Bool) :
    Except Failure (Option DiskEvent) :=
  match report.displayname, volume.size, volume.availableSpace with
  | some _, some (some size), some (some available) =>
    let color := diskColor (size - available) size scan.low scan.high
    if worth color then .ok (some ⟨entry.agentid, entry.name, color, size, available⟩)
    else .ok none
  | some _, some _, some _ => .error ⟨.typeError, "unsupported operand type(s) for -"⟩
  | _, _, _ => .ok none

/-- A color of an existing row is worth an event. -/
def changes (notified : Option Color) (color : Color) : Bool :=
  some color ≠ notified && ((color = .green && notified.isSome) || color ≠ .green)

/-- The sizes of an event that its text cannot show: the percentage divides by the size, and
no size may be negative. -/
def unshown (event : DiskEvent) : Option Failure :=
  if event.size = 0 then some ⟨.zeroDivisionError, "float division by zero"⟩
  else if event.size < 0 ∨ event.size - event.availableSpace < 0 ∨ event.availableSpace < 0 then
    some ⟨.valueError, "n < 0"⟩
  else none

/-- `gen_disk_event`. -/
def genDiskEvent (event : DiskEvent) : DiskWork PUnit :=
  match unshown event with
  | some failure => throw failure
  | none =>
    match report.gen event with
    | .skipped => pure ⟨⟩
    | .raised failure => throw failure
    | .incomplete failure => do
      modify Disks.commit
      throw failure
    | .generated raises => do
      modify (Disks.generate event)
      match raises with
      | some failure => throw failure
      | none => pure ⟨⟩

/-- Generate the event that is due, if any, and give its color to the row. -/
def announce (entry : Volume) : Option DiskEvent → DiskWork Volume
  | none => pure entry
  | some event => do
    report.genDiskEvent event
    return { entry with watermarkNotifiedColor := some event.color }

/-- A new row is the archive of an agent that is not on Windows if none was found before. -/
def claimArchive (entry : Volume) : DiskWork Volume := do
  if entry.archive ∧ ¬ report.iswin then
    if (← get).linuxArchiveVolumeFound then return { entry with archive := false }
    else
      modify fun disks => { disks with linuxArchiveVolumeFound := true }
      return entry
  else return entry

/-- Write a row, unless the database refuses it. -/
def store (entry : Volume) : DiskWork PUnit :=
  match report.refuses entry with
  | some failure => throw failure
  | none => modify (Disks.put entry)

/-- The part of the loop for a volume that has a row. -/
def updateRow (scan : Scan) (volume : VolumeInfo) (found : Volume) : DiskWork PUnit := do
  let entry := report.merge scan volume found
  report.store entry
  let due ← settle (report.due scan volume entry (changes entry.watermarkNotifiedColor))
  let told ← report.announce entry due
  modify (Disks.put { told with active := true })

/-- The part of the loop for a volume with a type that has no row. -/
def addRow (scan : Scan) (volume : VolumeInfo) (name type : Option Path) : DiskWork PUnit := do
  let built ← settle (report.build scan volume name type)
  let entry ← report.claimArchive built
  let due ← settle (report.due scan volume entry fun color => color ≠ .green)
  let told ← report.announce entry due
  report.store told

/-- The body of the loop over the volumes. -/
def updateVolume (scan : Scan) (volume : VolumeInfo) : DiskWork PUnit := do
  match volume.name with
  | none => pure ⟨⟩
  | some named =>
    let name ← settle (report.nameOf named)
    match (← get).seen.lookup (report.agentid, name) with
    | some found => report.updateRow scan volume found
    | none =>
      match volume.type with
      | none => pure ⟨⟩
      | some type => report.addRow scan volume name type

/-- `update_agent_pinfo_vols`. -/
def updateAgentPinfoVols : DiskWork (ULift Bool) := do
  if report.hasType then
    modify fun disks => { disks with seen := disks.seen.deactivate report.agentid }
    match report.paletteDataDir with
    | none => return ⟨false⟩
    | some dataDir =>
      let scan ← settle (report.scan dataDir)
      modify fun disks => { disks with linuxArchiveVolumeFound := false }
      scan.volumes.forM (report.updateVolume scan)
      modify Disks.commit
      return ⟨true⟩
  else if report.displayname.isNone then
    throw ⟨.typeError, "cannot concatenate 'str' and 'NoneType' objects"⟩
  else return ⟨false⟩

end DiskReport

/-! ## Runs -/

/-- What changes the rows: reports of agents, and whether a volume is an archive and up to
which size, as users set it. -/
inductive DiskStep where
  | report (report : DiskReport)
  | archive (key : Nat × Option Path) (archive : Bool) (archiveLimit : Option Int)

namespace Disks

/-- The session of a report ends. What was not committed is given up, unless it is that of a
report that returned `False` and a later commit stores it. -/
def close (report : DiskReport) : Except Failure (ULift Bool) × Disks → Disks
  | (.ok ⟨true⟩, final) => final
  | (.ok ⟨false⟩, final) => if report.keeps then final.commit else final.rollback
  | (.error _, final) => final.rollback

/-- The disks after a step. -/
def next (disks : Disks) : DiskStep → Disks
  | .report report => close report (report.updateAgentPinfoVols.run.run disks.rollback)
  | .archive key archive archiveLimit =>
    match disks.stored.lookup key with
    | none => disks
    | some entry => { disks with
        stored := disks.stored.put { entry with archive := archive, archiveLimit := archiveLimit } }

/-- No volumes and no events. -/
def empty : Disks := ⟨.empty, .empty, false, []⟩

end Disks

/-- Every sequence of reports of any agents. -/
def diskMachine : Machine Disks DiskStep where
  initial disks := disks = .empty
  step disks label := some (disks.next label)

/-! ## What was notified -/

/-- The color that is stored for a volume. -/
def Volumes.notified (volumes : Volumes) (key : Nat × Option Path) : Option Color :=
  (volumes.lookup key).bind Volume.watermarkNotifiedColor

/-- The colors of the events of a volume. -/
def diskColors (key : Nat × Option Path) (events : List DiskEvent) : List Color :=
  (events.filter fun event => event.key = key).map DiskEvent.color

end Palette.Alerts
