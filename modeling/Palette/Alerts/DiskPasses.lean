import Palette.Alerts.DiskArchives

/-!
# Which reports of volumes are processed without an exception

A pass of the loop raises where it uses a field that was not tested: the name of a volume in the
sort, a null name on Windows, a null type of a new volume elsewhere, a null size or available
space, and the size of an event in its text. What a pass writes when it does not raise is followed
by a function of the rows alone, so the condition on a whole report speaks of its volumes and of
the stored rows.
-/

namespace Palette.Alerts

open Palette.Commands (Failure)
open Palette.Files (Path)
open Palette.Foundation Script
open Palette.Metrics (Color)

/-- The rows, and whether an archive was found among the new ones. -/
structure Shelf where
  rows : Volumes
  claimed : Bool

/-- What the session sees of the disks. -/
def Disks.shelf (disks : Disks) : Shelf := ⟨disks.seen, disks.linuxArchiveVolumeFound⟩

/-- A row is active and has every value that a volume of a report gives. -/
structure Reflects (row : Volume) (volume : VolumeInfo) : Prop where
  active : row.active = true
  size : ∀ size ∈ volume.size, row.size = size
  availableSpace : ∀ space ∈ volume.availableSpace, row.availableSpace = space
  type : ∀ type ∈ volume.type, row.volType = type
  label : ∀ label ∈ volume.label, row.label = label
  driveFormat : ∀ driveFormat ∈ volume.driveFormat, row.driveFormat = driveFormat

namespace DiskReport

variable (report : DiskReport)

/-! ## What a pass writes -/

/-- A row with the color of what is due for it. -/
def colored (entry : Volume) (due : Except Failure (Option DiskEvent)) : Volume :=
  match due with
  | .ok event => recolor entry event
  | .error _ => entry

/-- What is due for a row that exists. -/
def dueKnown (scan : Scan) (volume : VolumeInfo) (found : Volume) :
    Except Failure (Option DiskEvent) :=
  report.due scan volume (report.merge scan volume found) (changes found.watermarkNotifiedColor)

/-- A row that exists after its pass. -/
def revised (scan : Scan) (volume : VolumeInfo) (found : Volume) : Volume :=
  { colored (report.merge scan volume found) (report.dueKnown scan volume found) with
    active := true }

/-- What is due for a new row. -/
def dueNew (scan : Scan) (volume : VolumeInfo) (entry : Volume) :
    Except Failure (Option DiskEvent) :=
  report.due scan volume entry fun color => color ≠ .green

/-- A new row with the archive claimed, unless another one has it. -/
def claiming (claimed : Bool) (entry : Volume) : Volume :=
  { entry with archive := entry.archive && (report.iswin || !claimed) }

/-- A new row as it is written. -/
def added (scan : Scan) (volume : VolumeInfo) (claimed : Bool) (entry : Volume) : Volume :=
  colored (report.claiming claimed entry) (report.dueNew scan volume entry)

/-- What a pass that returns leaves. -/
def place (scan : Scan) (shelf : Shelf) (volume : VolumeInfo) : Shelf :=
  match volume.name.map report.nameOf, volume.type with
  | some (.ok name), type =>
    match shelf.rows.lookup (report.agentid, name), type with
    | some found, _ => { shelf with rows := shelf.rows.put (report.revised scan volume found) }
    | none, some type =>
      match report.build scan volume name type with
      | .ok entry =>
        ⟨shelf.rows.put (report.added scan volume shelf.claimed entry),
          shelf.claimed || (entry.archive && !report.iswin)⟩
      | .error _ => shelf
    | none, none => shelf
  | _, _ => shelf

/-! ## Which passes return -/

/-- The text of an event can be made, and its generation returns. -/
def Tellable (event : DiskEvent) : Prop :=
  unshown event = none ∧ (report.gen event = .skipped ∨ report.gen event = .generated none)

/-- Whether something is due can be told, and so can be what is due. -/
def Clear : Except Failure (Option DiskEvent) → Prop
  | .error _ => False
  | .ok due => ∀ event ∈ due, report.Tellable event

/-- The pass for a volume does not raise. -/
def Passes (scan : Scan) (shelf : Shelf) (volume : VolumeInfo) : Prop :=
  match volume.name.map report.nameOf, volume.type with
  | none, _ => True
  | some (.error _), _ => False
  | some (.ok name), type =>
    match shelf.rows.lookup (report.agentid, name), type with
    | some found, _ => report.refuses (report.merge scan volume found) = none ∧
        report.Clear (report.dueKnown scan volume found)
    | none, some type =>
      match report.build scan volume name type with
      | .ok entry => report.Clear (report.dueNew scan volume entry) ∧
          report.refuses (report.added scan volume shelf.claimed entry) = none
      | .error _ => False
    | none, none => True

end DiskReport

section Passes

variable {report : DiskReport} {scan : Scan} {disks : Disks} {volume : VolumeInfo}

/-- The text of an event shows what is available of a size that is positive. -/
theorem unshown_eq_none {event : DiskEvent} : DiskReport.unshown event = none ↔
    0 < event.size ∧ 0 ≤ event.availableSpace ∧ event.availableSpace ≤ event.size := by
  unfold DiskReport.unshown
  split
  · next zero => exact iff_of_false (fun same => by cases same) fun shown => by omega
  · next nonzero =>
    split
    · next negative => exact iff_of_false (fun same => by cases same) fun shown => by omega
    · next plain =>
      refine iff_of_true rfl ?_
      omega

/-- What is due can be told: of an agent with a name, a volume that gives a size and what is
available gives no null in their place, and a color that is worth an event can be told. -/
theorem clear_due_iff {entry : Volume} {worth : Color → Bool} :
    report.Clear (report.due scan volume entry worth) ↔
      (report.displayname ≠ none → ∀ size available, volume.size = some size →
        volume.availableSpace = some available → ∃ bytes free, size = some bytes ∧
          available = some free ∧
          (worth (diskColor (bytes - free) bytes scan.low scan.high) = true →
            report.Tellable ⟨entry.agentid, entry.name,
              diskColor (bytes - free) bytes scan.low scan.high, bytes, free⟩)) := by
  unfold DiskReport.due
  rcases report.displayname with - | name
  · simp [DiskReport.Clear]
  · rcases volume.size with - | - | size
    · simp [DiskReport.Clear]
    · rcases volume.availableSpace with - | available <;> simp [DiskReport.Clear]
    · rcases volume.availableSpace with - | - | available
      · simp [DiskReport.Clear]
      · simp [DiskReport.Clear]
      · cases worthy : worth (diskColor (size - available) size scan.low scan.high) with
        | true => simp [DiskReport.Clear, worthy]
        | false => simp [DiskReport.Clear, worthy]

/-- An announcement returns exactly where what is due can be told. -/
theorem announce_returns {entry : Volume} {due : Option DiskEvent} :
    (report.announce entry due).Ends disks
      (fun written final => (∀ event ∈ due, report.Tellable event) ∧
        written = DiskReport.recolor entry due ∧ final.shelf = disks.shelf)
      fun _ _ => ¬ ∀ event ∈ due, report.Tellable event := by
  unfold DiskReport.announce
  cases due with
  | none =>
    have nothing : ∀ event ∈ (none : Option DiskEvent), report.Tellable event := nofun
    exact ⟨nothing, rfl, rfl⟩
  | some event =>
    have tellable (told : report.Tellable event) : ∀ other ∈ some event, report.Tellable other :=
      fun other same => Option.some.inj same ▸ told
    rw [ends_bind]
    unfold DiskReport.genDiskEvent
    cases unshown : DiskReport.unshown event with
    | some failure => exact fun told => by cases unshown.symm.trans (told event rfl).1
    | none =>
      cases generated : report.gen event with
      | skipped => exact ⟨tellable ⟨unshown, .inl generated⟩, rfl, rfl⟩
      | raised failure =>
        intro told
        rcases (told event rfl).2 with skipped | returned
        · cases generated.symm.trans skipped
        · cases generated.symm.trans returned
      | incomplete failure =>
        intro told
        rcases (told event rfl).2 with skipped | returned
        · cases generated.symm.trans skipped
        · cases generated.symm.trans returned
      | generated raises =>
        cases raises with
        | none => exact ⟨tellable ⟨unshown, .inr generated⟩, rfl, rfl⟩
        | some failure =>
          intro told
          rcases (told event rfl).2 with skipped | returned
          · cases generated.symm.trans skipped
          · cases generated.symm.trans returned

/-- The row that a pass writes last is the one that stays. -/
theorem put_revised {found : Volume} (volumes : Volumes) :
    (Dictionary.put volumes (report.merge scan volume found)).put
        (report.revised scan volume found) =
      volumes.put (report.revised scan volume found) := by
  refine Dictionary.put_put volumes ?_
  unfold DiskReport.revised DiskReport.colored
  cases report.dueKnown scan volume found <;> rfl

/-- A volume that has a row is merged into it exactly where nothing raises. -/
theorem updateRow_returns {found : Volume} :
    (report.updateRow scan volume found).Ends disks
      (fun _ final => (report.refuses (report.merge scan volume found) = none ∧
          report.Clear (report.dueKnown scan volume found)) ∧
        final.shelf = { disks.shelf with
          rows := disks.shelf.rows.put (report.revised scan volume found) })
      fun _ _ => ¬ (report.refuses (report.merge scan volume found) = none ∧
        report.Clear (report.dueKnown scan volume found)) := by
  have written := @put_revised report scan volume found disks.seen
  unfold DiskReport.updateRow DiskReport.store
  rw [ends_bind]
  cases refused : report.refuses (report.merge scan volume found) with
  | some failure => exact fun both => by cases both.1
  | none =>
    have kept : report.due scan volume (report.merge scan volume found)
        (DiskReport.changes (report.merge scan volume found).watermarkNotifiedColor) =
          report.dueKnown scan volume found := rfl
    dsimp only
    rw [ends_modify, ends_bind, ends_settle, kept]
    cases due : report.dueKnown scan volume found with
    | error failure => exact fun both => both.2
    | ok event =>
      dsimp only
      rw [ends_bind]
      refine announce_returns.mono (fun told final announced => ?_) fun _ _ untold both =>
        untold both.2
      obtain ⟨clear, rfl, shelf⟩ := announced
      rw [ends_modify]
      refine ⟨⟨rfl, clear⟩, ?_⟩
      have seen := congrArg Shelf.rows shelf
      have claimed := congrArg Shelf.claimed shelf
      have revised : { DiskReport.recolor (report.merge scan volume found) event with
          active := true } = report.revised scan volume found := by
        unfold DiskReport.revised
        rw [due]
        rfl
      rw [revised]
      unfold Disks.shelf Disks.put at *
      dsimp only at seen claimed ⊢
      rw [seen, claimed, written]

/-- A new row is written exactly where nothing raises. -/
theorem addRow_returns {name type : Option Path} {entry : Volume}
    (built : report.build scan volume name type = .ok entry) :
    (report.addRow scan volume name type).Ends disks
      (fun _ final => (report.Clear (report.dueNew scan volume entry) ∧
          report.refuses (report.added scan volume disks.linuxArchiveVolumeFound entry) = none) ∧
        final.shelf = ⟨disks.seen.put
            (report.added scan volume disks.linuxArchiveVolumeFound entry),
          disks.linuxArchiveVolumeFound || (entry.archive && !report.iswin)⟩)
      fun _ _ => ¬ (report.Clear (report.dueNew scan volume entry) ∧
        report.refuses (report.added scan volume disks.linuxArchiveVolumeFound entry) = none) := by
  unfold DiskReport.addRow
  rw [built, ends_bind, ends_settle_ok, ends_bind]
  refine (claimArchive_ends entry).mono ?_ fun _ _ impossible => impossible.elim
  rintro _ _ ⟨rfl, rfl⟩
  have claiming : { entry with
      archive := entry.archive && (report.iswin || !disks.linuxArchiveVolumeFound) } =
        report.claiming disks.linuxArchiveVolumeFound entry := rfl
  rw [claiming]
  have same : report.due scan volume
      (report.claiming disks.linuxArchiveVolumeFound entry) (fun color => color ≠ .green) =
        report.dueNew scan volume entry := rfl
  rw [ends_bind, ends_settle, same]
  cases due : report.dueNew scan volume entry with
  | error failure => exact fun both => both.1
  | ok event =>
    dsimp only
    rw [ends_bind]
    refine announce_returns.mono (fun told final announced => ?_) fun _ _ untold both =>
      untold both.1
    obtain ⟨clear, rfl, shelf⟩ := announced
    have colored : DiskReport.recolor
        (report.claiming disks.linuxArchiveVolumeFound entry) event =
          report.added scan volume disks.linuxArchiveVolumeFound entry := by
      unfold DiskReport.added
      rw [due]
      rfl
    rw [colored]
    unfold DiskReport.store
    cases refused : report.refuses
        (report.added scan volume disks.linuxArchiveVolumeFound entry) with
    | some failure => exact fun both => by cases both.2
    | none =>
      dsimp only
      rw [ends_modify]
      refine ⟨⟨clear, rfl⟩, ?_⟩
      have seen : final.seen = disks.seen := congrArg Shelf.rows shelf
      have found := congrArg Shelf.claimed shelf
      unfold Disks.shelf Disks.put at *
      dsimp only at found ⊢
      rw [seen, found]

/-- A pass returns exactly where nothing in it raises, and leaves what is followed. -/
theorem updateVolume_returns :
    (report.updateVolume scan volume).Ends disks
      (fun _ final => report.Passes scan disks.shelf volume ∧
        final.shelf = report.place scan disks.shelf volume)
      fun _ _ => ¬ report.Passes scan disks.shelf volume := by
  unfold DiskReport.updateVolume DiskReport.Passes DiskReport.place
  cases volume.name with
  | none => exact ⟨trivial, rfl⟩
  | some given =>
    simp only [Option.map_some]
    rw [ends_bind, ends_settle]
    cases report.nameOf given with
    | error failure => exact fun impossible => impossible
    | ok name =>
      dsimp only
      rw [ends_bind, ends_get]
      have looked : disks.shelf.rows.lookup (report.agentid, name) =
          disks.seen.lookup (report.agentid, name) := rfl
      rw [looked]
      cases disks.seen.lookup (report.agentid, name) with
      | some found =>
        dsimp only
        exact updateRow_returns
      | none =>
        cases volume.type with
        | none => exact ⟨trivial, rfl⟩
        | some type =>
          dsimp only
          cases built : report.build scan volume name type with
          | error failure =>
            unfold DiskReport.addRow
            rw [built]
            exact fun impossible => impossible
          | ok entry => exact addRow_returns built

/-! ## What the rows are after a pass -/

/-- A row that exists has the values of its volume after a pass. -/
theorem revised_reflects (found : Volume) :
    Reflects (report.revised scan volume found) volume ∧
      (report.revised scan volume found).key = found.key := by
  have merged : ∀ color, Reflects { report.merge scan volume found with
      watermarkNotifiedColor := color, active := true } volume := fun color =>
    { active := rfl
      size := fun size given => by simp [DiskReport.merge, Option.mem_def.mp given]
      availableSpace := fun space given => by simp [DiskReport.merge, Option.mem_def.mp given]
      type := fun type given => by simp [DiskReport.merge, Option.mem_def.mp given]
      label := fun label given => by simp [DiskReport.merge, Option.mem_def.mp given]
      driveFormat := fun format given => by simp [DiskReport.merge, Option.mem_def.mp given] }
  unfold DiskReport.revised DiskReport.colored
  cases report.dueKnown scan volume found with
  | error failure => exact ⟨merged _, rfl⟩
  | ok event => exact ⟨merged _, rfl⟩

/-- A new row has the values of its volume. -/
theorem added_reflects {name type : Option Path} {entry : Volume} (claimed : Bool)
    (typed : volume.type = some type) (built : report.build scan volume name type = .ok entry) :
    Reflects (report.added scan volume claimed entry) volume ∧
      (report.added scan volume claimed entry).key = (report.agentid, name) := by
  obtain ⟨archive, -, same⟩ := bind_eq_ok.mp built
  have fresh : ∀ color, Reflects { report.claiming claimed entry with
      watermarkNotifiedColor := color } volume := by
    cases same
    exact fun color =>
      { active := rfl
        size := fun size given => by simp [DiskReport.claiming, Option.mem_def.mp given]
        availableSpace := fun space given => by simp [DiskReport.claiming, Option.mem_def.mp given]
        type := fun other given => by
          simp [DiskReport.claiming, Option.some.inj (typed.symm.trans given)]
        label := fun label given => by simp [DiskReport.claiming, Option.mem_def.mp given]
        driveFormat := fun format given => by
          simp [DiskReport.claiming, Option.mem_def.mp given] }
  have key : ∀ color, Volume.key { report.claiming claimed entry with
      watermarkNotifiedColor := color } = (report.agentid, name) := by
    cases same
    exact fun _ => rfl
  unfold DiskReport.added DiskReport.colored
  cases report.dueNew scan volume entry with
  | error failure => exact ⟨fresh _, key _⟩
  | ok event => exact ⟨fresh _, key _⟩

end Passes

/-- A volume goes by a name. -/
def DiskReport.Names (report : DiskReport) (volume : VolumeInfo) (name : Option Path) : Prop :=
  volume.name.map report.nameOf = some (.ok name)

section Places

variable {report : DiskReport} {scan : Scan} {shelf : Shelf} {volume : VolumeInfo}
  {name : Option Path}

/-- A volume that has a row or a type has a row with its values after its pass. -/
theorem place_own (passes : report.Passes scan shelf volume) (names : report.Names volume name)
    (listed : shelf.rows.lists report.agentid name = true ∨ volume.type ≠ none) :
    ∃ row, (report.place scan shelf volume).rows.lookup (report.agentid, name) = some row ∧
      Reflects row volume := by
  unfold DiskReport.Names at names
  unfold DiskReport.Passes at passes
  unfold DiskReport.place
  rw [names] at passes ⊢
  dsimp only at passes ⊢
  cases looked : shelf.rows.lookup (report.agentid, name) with
  | some found =>
    obtain ⟨reflects, key⟩ := @revised_reflects report scan volume found
    have own := key.trans ((Dictionary.lookup_eq_some _ _ _).mp looked).2
    exact ⟨_, own ▸ Dictionary.lookup_put_self _ _, reflects⟩
  | none =>
    rw [looked] at passes
    have unlisted : shelf.rows.lists report.agentid name = false := by
      unfold Volumes.lists
      rw [looked]
      rfl
    cases typed : volume.type with
    | none =>
      rcases listed with listed | given
      · cases unlisted.symm.trans listed
      · exact absurd typed given
    | some type =>
      rw [typed] at passes
      dsimp only at passes ⊢
      cases built : report.build scan volume name type with
      | error failure =>
        rw [built] at passes
        exact passes.elim
      | ok entry =>
        obtain ⟨reflects, key⟩ := added_reflects shelf.claimed typed built
        exact ⟨_, key ▸ Dictionary.lookup_put_self _ _, reflects⟩

/-- A pass leaves the row of another name as it is. -/
theorem place_other (other : ¬ report.Names volume name) :
    (report.place scan shelf volume).rows.lookup (report.agentid, name) =
      shelf.rows.lookup (report.agentid, name) := by
  unfold DiskReport.Names at other
  unfold DiskReport.place
  cases called : volume.name.map report.nameOf with
  | none => rfl
  | some outcome =>
    cases outcome with
    | error failure => rfl
    | ok own =>
      rw [called] at other
      have apart : (report.agentid, name) ≠ (report.agentid, own) := fun same =>
        other (congrArg (some ∘ Except.ok) (congrArg Prod.snd same).symm)
      dsimp only
      cases looked : shelf.rows.lookup (report.agentid, own) with
      | some found =>
        have key := (@revised_reflects report scan volume found).2
        have stored := ((Dictionary.lookup_eq_some _ _ _).mp looked).2
        refine Dictionary.lookup_put_of_ne _ _ ?_
        rw [key, stored]
        exact apart
      | none =>
        cases typed : volume.type with
        | none => rfl
        | some type =>
          dsimp only
          cases built : report.build scan volume own type with
          | error failure => rfl
          | ok entry =>
            refine Dictionary.lookup_put_of_ne _ _ ?_
            rw [(added_reflects shelf.claimed typed built).2]
            exact apart

/-- A row that exists is kept by a pass, or has the values of the volume. -/
theorem place_kept (passes : report.Passes scan shelf volume) {row : Volume}
    (looked : shelf.rows.lookup (report.agentid, name) = some row) :
    ∃ left, (report.place scan shelf volume).rows.lookup (report.agentid, name) = some left ∧
      (left = row ∨ report.Names volume name ∧ Reflects left volume) := by
  by_cases names : report.Names volume name
  · have listed : shelf.rows.lists report.agentid name = true := by
      unfold Volumes.lists
      rw [looked]
      rfl
    obtain ⟨left, found, reflects⟩ := place_own passes names (.inl listed)
    exact ⟨left, found, .inr ⟨names, reflects⟩⟩
  · exact ⟨row, (place_other names).trans looked, .inl rfl⟩

/-- A row that exists is kept by a loop, or has the values of a volume of the loop. -/
theorem places_kept {volumes : List VolumeInfo} {row : Volume}
    (passes : Throughout (report.place scan) (report.Passes scan) shelf volumes)
    (looked : shelf.rows.lookup (report.agentid, name) = some row) :
    ∃ left, (volumes.foldl (report.place scan) shelf).rows.lookup (report.agentid, name) =
        some left ∧
      (left = row ∨ ∃ volume ∈ volumes, report.Names volume name ∧ Reflects left volume) := by
  induction volumes generalizing shelf row with
  | nil => exact ⟨row, looked, .inl rfl⟩
  | cons volume rest inductionHypothesis =>
    obtain ⟨middle, found, first⟩ := place_kept passes.1 looked
    obtain ⟨left, last, rfl | ⟨other, member, own⟩⟩ := inductionHypothesis passes.2 found
    · refine ⟨left, last, first.imp_right fun own => ⟨volume, List.mem_cons_self, own⟩⟩
    · exact ⟨left, last, .inr ⟨other, List.mem_cons_of_mem _ member, own⟩⟩

/-- A volume of a loop that has a row or a type has a row with the values of a volume of its
name. -/
theorem places_own {volumes : List VolumeInfo}
    (passes : Throughout (report.place scan) (report.Passes scan) shelf volumes)
    (member : volume ∈ volumes) (names : report.Names volume name)
    (listed : shelf.rows.lists report.agentid name = true ∨ volume.type ≠ none) :
    ∃ row, (volumes.foldl (report.place scan) shelf).rows.lookup (report.agentid, name) =
        some row ∧
      ∃ other ∈ volumes, report.Names other name ∧ Reflects row other := by
  induction volumes generalizing shelf with
  | nil => cases member
  | cons first rest inductionHypothesis =>
    rcases List.mem_cons.mp member with rfl | later
    · obtain ⟨row, found, reflects⟩ := place_own passes.1 names listed
      obtain ⟨left, last, rfl | ⟨other, later, own⟩⟩ := places_kept passes.2 found
      · exact ⟨left, last, volume, List.mem_cons_self, names, reflects⟩
      · exact ⟨left, last, other, List.mem_cons_of_mem _ later, own⟩
    · have stillListed : (report.place scan shelf first).rows.lists report.agentid name = true ∨
          volume.type ≠ none := by
        refine listed.imp_left fun known => ?_
        obtain ⟨row, looked⟩ := Option.isSome_iff_exists.mp known
        obtain ⟨left, found, -⟩ := place_kept passes.1 looked
        unfold Volumes.lists
        rw [found]
        rfl
      obtain ⟨row, found, other, otherLater, own⟩ :=
        inductionHypothesis passes.2 later stillListed
      exact ⟨row, found, other, List.mem_cons_of_mem _ otherLater, own⟩

end Places

/-! ## A whole report -/

namespace DiskReport

variable (report : DiskReport)

/-- A report without the volumes that have no name. -/
def namedOnly : DiskReport :=
  { report with volumes := report.volumes.map (List.filter fun volume => volume.name.isSome) }

/-- The volumes of a report are handled: nothing is raised, volumes without a name change
nothing, and where the report returns `True`, every other one that has a row or a type has a row
with the values of a volume of its name. -/
structure Handled (disks : Disks) : Prop where
  returns : report.updateAgentPinfoVols.Completes disks.rollback fun _ _ => True
  ignores : report.updateAgentPinfoVols.run.run disks.rollback =
    report.namedOnly.updateAgentPinfoVols.run.run disks.rollback
  processes : report.ReturnsTrue disks → ∀ volume ∈ report.volumes.getD [], ∀ name,
    report.Names volume name →
    disks.stored.lists report.agentid name = true ∨ volume.type ≠ none →
    ∃ row, (disks.next (.report report)).stored.lookup (report.agentid, name) = some row ∧
      ∃ other ∈ report.volumes.getD [], report.Names other name ∧ Reflects row other

/-- The loop with these watermarks passes over all the volumes, from the rows that are stored. -/
def PassesAll (stored : Volumes) (scan : Scan) : Prop :=
  Throughout (report.place scan) (report.Passes scan) ⟨stored.deactivate report.agentid, false⟩
    report.ordered

/-- The settings are numbers, every volume has a name, and no pass raises. -/
def Untroubled (stored : Volumes) (dataDir : Path) : Prop :=
  ∃ low high, diskWatermark report.low = .ok low ∧ diskWatermark report.high = .ok high ∧
    (∀ volume ∈ report.volumes.getD [], volume.name ≠ none) ∧
    report.PassesAll stored ⟨dataDir, low, high, report.ordered⟩

/-- An agent without a type has a name to be logged, and one whose report gets to its volumes
reports volumes that trouble nothing. -/
def Harmless (stored : Volumes) : Prop :=
  (report.hasType = false → report.displayname ≠ none) ∧
    (report.hasType = true → ∀ dataDir ∈ report.paletteDataDir, report.Untroubled stored dataDir)

end DiskReport

section Handling

variable {report : DiskReport} {disks : Disks}

/-- What is read before the loop is read where the settings are numbers and every volume has a
name. -/
theorem scan_eq_ok {dataDir : Path} {scan : Scan} : report.scan dataDir = .ok scan ↔
    ∃ low high, diskWatermark report.low = .ok low ∧ diskWatermark report.high = .ok high ∧
      (∀ volume ∈ report.volumes.getD [], volume.name ≠ none) ∧
      ⟨dataDir, low, high, report.ordered⟩ = scan := by
  unfold DiskReport.scan
  cases diskWatermark report.low with
  | error failure => simp [bind, Except.bind]
  | ok low =>
    cases diskWatermark report.high with
    | error failure => simp [bind, Except.bind]
    | ok high =>
      unfold DiskReport.volumesSorted
      by_cases unnamed : (report.volumes.getD []).any fun volume => volume.name.isNone
      · rw [if_pos unnamed]
        obtain ⟨volume, member, nameless⟩ := List.any_eq_true.mp unnamed
        have none : ¬ ∀ volume ∈ report.volumes.getD [], volume.name ≠ none := fun named =>
          named volume member (Option.isNone_iff_eq_none.mp nameless)
        simp only [bind, Except.bind, reduceCtorEq, none, false_and, and_false, exists_false]
      · rw [if_neg unnamed]
        have named : ∀ volume ∈ report.volumes.getD [], volume.name ≠ none :=
          fun volume member nameless =>
            unnamed (List.any_eq_true.mpr ⟨volume, member, by rw [nameless]; rfl⟩)
        constructor
        · intro read
          exact ⟨low, high, rfl, rfl, named, Except.ok.inj read⟩
        · rintro ⟨_, _, same, other, -, rfl⟩
          cases same
          cases other
          rfl

/-- Where the loop can be entered, a report is harmless if the loop passes over all volumes. -/
theorem untroubled_iff {dataDir : Path} {stored : Volumes} : report.Untroubled stored dataDir ↔
    ∃ scan, report.scan dataDir = .ok scan ∧ report.PassesAll stored scan := by
  unfold DiskReport.Untroubled
  simp only [scan_eq_ok]
  constructor
  · rintro ⟨low, high, lowRead, highRead, named, passes⟩
    exact ⟨_, ⟨low, high, lowRead, highRead, named, rfl⟩, passes⟩
  · rintro ⟨_, ⟨low, high, lowRead, highRead, named, rfl⟩, passes⟩
    exact ⟨low, high, lowRead, highRead, named, passes⟩

/-- A report returns exactly where it is harmless, and what it stores is what was followed. -/
theorem report_returns : report.updateAgentPinfoVols.Ends disks.rollback
    (fun returned final => report.Harmless disks.stored ∧ (returned.down = true →
      ∃ scan, report.PassesAll disks.stored scan ∧ final.stored = (report.ordered.foldl
        (report.place scan) ⟨disks.stored.deactivate report.agentid, false⟩).rows))
    fun _ _ => ¬ report.Harmless disks.stored := by
  unfold DiskReport.updateAgentPinfoVols DiskReport.Harmless
  rw [ends_ite]
  cases typed : report.hasType with
  | true =>
    rw [if_pos rfl, ends_bind, ends_modify]
    cases directory : report.paletteDataDir with
    | none =>
      have nothing : ∀ dataDir ∈ (none : Option Path), report.Untroubled disks.stored dataDir :=
        nofun
      exact ⟨⟨nofun, fun _ => nothing⟩, nofun⟩
    | some dataDir =>
      simp only [reduceCtorEq, false_implies, true_and, true_implies, Option.mem_some_iff,
        forall_eq', untroubled_iff]
      rw [ends_bind, ends_settle]
      cases read : report.scan dataDir with
      | error failure => exact fun ⟨_, impossible, _⟩ => nomatch impossible
      | ok scan =>
        have volumes := scan_volumes read
        dsimp only
        rw [ends_bind, ends_modify, ends_bind, volumes]
        have loop (state : Disks) : (report.ordered.forM (report.updateVolume scan)).Ends state
            (fun _ final =>
              Throughout (report.place scan) (report.Passes scan) state.shelf report.ordered ∧
                final.shelf = report.ordered.foldl (report.place scan) state.shelf)
            fun _ _ =>
              ¬ Throughout (report.place scan) (report.Passes scan) state.shelf report.ordered :=
          forM_ends_followed (fun _ _ => updateVolume_returns) report.ordered state
        refine (loop _).mono (fun _ final passed => ?_) fun _ _ failed => ?_
        · rw [ends_bind, ends_modify, ends_pure]
          exact ⟨⟨scan, rfl, passed.1⟩, fun _ => ⟨scan, passed.1, congrArg Shelf.rows passed.2⟩⟩
        · rintro ⟨_, same, passes⟩
          cases same
          exact failed passes
  | false =>
    rw [if_neg Bool.false_ne_true, ends_ite]
    cases displayed : report.displayname with
    | none => exact fun harmless => harmless.1 rfl rfl
    | some name => exact ⟨⟨nofun, nofun⟩, nofun⟩

/-- A harmless report has no volumes without a name, or does not get to them. -/
theorem namedOnly_run (harmless : report.Harmless disks.stored) :
    report.updateAgentPinfoVols.run.run disks.rollback =
      report.namedOnly.updateAgentPinfoVols.run.run disks.rollback := by
  cases typed : report.hasType with
  | false =>
    have unread (other : DiskReport) (untyped : other.hasType = false)
        (same : other.displayname = report.displayname) :
        other.updateAgentPinfoVols = if report.displayname.isNone then
          throw ⟨.typeError, "cannot concatenate 'str' and 'NoneType' objects"⟩
          else return ⟨false⟩ := by
      unfold DiskReport.updateAgentPinfoVols
      rw [untyped, same]
      rfl
    rw [unread report typed rfl, unread report.namedOnly typed rfl]
  | true =>
    cases directory : report.paletteDataDir with
    | none =>
      have unread (other : DiskReport) (known : other.hasType = true)
          (agent : other.agentid = report.agentid) (nowhere : other.paletteDataDir = none) :
          other.updateAgentPinfoVols = do
            modify fun disks => { disks with seen := disks.seen.deactivate report.agentid }
            return ⟨false⟩ := by
        unfold DiskReport.updateAgentPinfoVols
        rw [known, nowhere, agent]
        rfl
      rw [unread report typed rfl directory, unread report.namedOnly typed rfl directory]
    | some dataDir =>
      obtain ⟨_, _, _, _, named, _⟩ := harmless.2 typed dataDir directory
      have all : report.volumes.map (List.filter fun volume => volume.name.isSome) =
          report.volumes := by
        cases given : report.volumes with
        | none => rfl
        | some volumes =>
          rw [given] at named
          refine congrArg some (List.filter_eq_self.mpr fun volume member => ?_)
          exact Option.isSome_iff_ne_none.mpr (named volume member)
      unfold DiskReport.namedOnly
      rw [all]

end Handling

/-! ## A volume without a name -/

/-- A report of a volume without a name. -/
def nameless : DiskReport :=
  { twoDisks with volumes := some [⟨none, none, some (some "/dev/sda1".toList), none, none,
    some (some 100), some (some 50)⟩] }

end Palette.Alerts
