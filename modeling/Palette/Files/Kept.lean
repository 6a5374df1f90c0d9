import Mathlib.Data.List.Sort
import Palette.Files.Rotation
import Palette.Files.Truthful

/-!
# A successful backup is kept

The rotation comes after the success, and its counts include the new row: where none is to be
retained, or where the clock was set back, the new row is rotated out itself. Rows may also
name one place: two backups with one name, or a row whose removal a cloud reports as failed
after it removed the file. A backup is kept exactly where its own deletion is not among those
of the rotation, or leaves its row, and no deletion removes something at its place.
-/

namespace Palette.Files

open Palette.Commands (Failure)
open Palette.Foundation

variable {Content : Type} {retention : Retention}

/-- Deleting what a row names removes the file. -/
def Deletes (retention : Retention) (entry : FileEntry) : Prop :=
  match entry.storageType with
  | .cloud => (retention.deletionOf entry).removes = true
  | .vol => (retention.volumes.byVolid entry.storageid).isSome = true ∧
      (retention.deletionOf entry).connected = true ∧
      (retention.deletionOf entry).onAgent.filesize = .ok none ∧
      (retention.deletionOf entry).onAgent.removes = true

/-- Deleting what a row names removes the file at a place. -/
def DeletesAt (retention : Retention) (entry : FileEntry) (location : Location) : Prop :=
  Deletes retention entry ∧ retention.volumes.locate entry = some location

/-- Deleting what a row names removes the row. -/
def Unlists (retention : Retention) (entry : FileEntry) : Prop :=
  match entry.storageType with
  | .cloud => (retention.deletionOf entry).inCloud = .ok ()
  | .vol => (retention.volumes.byVolid entry.storageid).isSome = true ∧
      (retention.deletionOf entry).connected = true

/-- A row is removed when rows are deleted. Rows are removed by their ids. -/
def Unlisted (retention : Retention) (victims : List FileEntry) (row : FileEntry) : Prop :=
  ∃ victim ∈ victims, Unlists retention victim ∧ row.envid = retention.envid ∧
    row.fileid = victim.fileid

/-- What deleting rows does to the files: they are removed where a deletion removes
something. -/
structure Emptied (retention : Retention) (victims : List FileEntry)
    (before after : Location → Option Content) : Prop where
  gone : ∀ location, (∃ victim ∈ victims, DeletesAt retention victim location) →
    after location = none
  kept : ∀ location, (∀ victim ∈ victims, ¬ DeletesAt retention victim location) →
    after location = before location

/-- What deleting rows does. -/
structure Rotated (retention : Retention) (victims : List FileEntry)
    (before after : Store Content) : Prop where
  contents : Emptied retention victims before.contents after.contents
  rows : ∃ keeps : FileEntry → Bool, after.rows = before.rows.filter keeps ∧
    ∀ row, keeps row = false ↔ Unlisted retention victims row

/-- The rows that are left are those that are not removed. -/
theorem Rotated.mem_rows {victims : List FileEntry} {before after : Store Content}
    (rotated : Rotated retention victims before after) (row : FileEntry) :
    row ∈ after.rows ↔ row ∈ before.rows ∧ ¬ Unlisted retention victims row := by
  obtain ⟨keeps, rows, named⟩ := rotated.rows
  rw [rows, List.mem_filter, ← named, Bool.not_eq_false]

/-- Deleting nothing changes nothing. -/
theorem Rotated.refl (store : Store Content) : Rotated retention [] store store where
  contents := ⟨fun _ ⟨_, listed, _⟩ => absurd listed List.not_mem_nil, fun _ _ => rfl⟩
  rows := ⟨fun _ => true, by simp, by simp [Unlisted]⟩

/-- Emptying places twice empties all of them. -/
theorem Emptied.trans {first second : List FileEntry}
    {before middle after : Location → Option Content}
    (earlier : Emptied retention first before middle)
    (later : Emptied retention second middle after) :
    Emptied retention (first ++ second) before after where
  gone location := by
    rintro ⟨victim, listed, deletes⟩
    by_cases again : ∃ other ∈ second, DeletesAt retention other location
    · exact later.gone location again
    · have stays := later.kept location fun other member deletes =>
        again ⟨other, member, deletes⟩
      rcases List.mem_append.mp listed with inFirst | inSecond
      · exact stays.trans (earlier.gone location ⟨victim, inFirst, deletes⟩)
      · exact absurd ⟨victim, inSecond, deletes⟩ again
  kept location spared :=
    (later.kept location fun victim listed => spared victim (List.mem_append_right _ listed)).trans
      (earlier.kept location fun victim listed => spared victim (List.mem_append_left _ listed))

/-- A row is removed with two lists if it is with one of them. -/
theorem unlisted_append {first second : List FileEntry} {row : FileEntry} :
    Unlisted retention (first ++ second) row ↔
      Unlisted retention first row ∨ Unlisted retention second row := by
  simp only [Unlisted, List.mem_append, or_and_right, exists_or]

/-- Deleting some rows and then others deletes all of them. -/
theorem Rotated.trans {first second : List FileEntry} {before middle after : Store Content}
    (earlier : Rotated retention first before middle)
    (later : Rotated retention second middle after) :
    Rotated retention (first ++ second) before after where
  contents := earlier.contents.trans later.contents
  rows := by
    obtain ⟨keepsFirst, rowsFirst, firstNamed⟩ := earlier.rows
    obtain ⟨keepsSecond, rowsSecond, secondNamed⟩ := later.rows
    refine ⟨fun row => keepsFirst row && keepsSecond row, ?_, fun row => ?_⟩
    · rw [rowsSecond, rowsFirst, List.filter_filter]
      refine List.filter_congr fun row _ => Bool.and_comm _ _
    · rw [unlisted_append, Bool.and_eq_false_iff, firstNamed, secondNamed]

/-! ## One deletion -/

/-- Emptying the place of a row whose deletion removes the file is what its deletion does. -/
theorem emptied_put {entry : FileEntry} {location : Location} {store : Store Content}
    (place : retention.volumes.locate entry = some location) (deletes : Deletes retention entry) :
    Emptied retention [entry] store.contents (store.put location none).contents where
  gone other := by
    rintro ⟨victim, listed, -, there⟩
    rw [List.mem_singleton.mp listed, place] at there
    rw [← Option.some.inj there]
    exact Store.put_self ..
  kept other spared := by
    refine Store.put_of_ne store _ fun here => spared entry (List.mem_singleton_self entry) ?_
    exact ⟨deletes, here ▸ place⟩

/-- Doing nothing is what the deletion of a row does that removes no file. -/
theorem emptied_spared {entry : FileEntry} {contents : Location → Option Content}
    (spares : ¬ Deletes retention entry) : Emptied retention [entry] contents contents where
  gone location := by
    rintro ⟨victim, listed, deletes, -⟩
    exact absurd (List.mem_singleton.mp listed ▸ deletes) spares
  kept _ _ := rfl

/-- A deletion that removes the row. -/
theorem rotated_removed {entry : FileEntry} {before middle : Store Content}
    (contents : Emptied retention [entry] before.contents middle.contents)
    (rows : middle.rows = before.rows) (unlists : Unlists retention entry) :
    Rotated retention [entry] before { middle with
      catalogue := middle.catalogue.keep fun row =>
        !(row.envid = retention.envid && row.fileid = entry.fileid) } where
  contents := contents
  rows := ⟨_, congrArg (List.filter _) rows, fun row => by simp [Unlisted, unlists]⟩

/-- A deletion that leaves the row. -/
theorem rotated_left {entry : FileEntry} {before after : Store Content}
    (contents : Emptied retention [entry] before.contents after.contents)
    (rows : after.rows = before.rows) (leaves : ¬ Unlists retention entry) :
    Rotated retention [entry] before after where
  contents := contents
  rows := ⟨fun _ => true, by simp [rows], fun row => by simp [Unlisted, leaves]⟩

/-- Deleting a file of an agent empties its place, or does nothing where the file is not
there or the request leaves it. -/
theorem deleteVolFile_upholds (agentid : Nat) (path : Path) (deletion : Deletion)
    (store : Store Content) :
    (deleteVolFile agentid path deletion).Upholds store fun _ final =>
      ((deletion.filesize = .ok none ∧ deletion.removes = true) ∧
        final = store.put (.volume agentid path) none) ∨
      (¬ (deletion.filesize = .ok none ∧ deletion.removes = true) ∧ final = store) := by
  unfold deleteVolFile
  rw [Script.upholds_bind, Script.upholds_settle]
  intro size told
  cases size with
  | some error =>
    refine .inr ⟨fun there => ?_, rfl⟩
    rw [there.1] at told
    cases told
  | none =>
    have present : deletion.filesize = .ok none := reported_none told
    cases removes : deletion.removes with
    | true =>
      simp only [↓reduceIte, Script.upholds_bind]
      exact Script.upholds_settle.mpr fun _ _ => .inl ⟨⟨present, trivial⟩, rfl⟩
    | false =>
      simp only [Bool.false_eq_true, ↓reduceIte]
      exact Script.upholds_settle.mpr fun _ _ => .inr ⟨fun there => there.2.elim, rfl⟩

/-- What a cloud answers decides whether the row is removed. -/
theorem cloudAnswer_rotated {entry : FileEntry} (inCloud : entry.storageType = .cloud)
    {before middle : Store Content}
    (contents : Emptied retention [entry] before.contents middle.contents)
    (rows : middle.rows = before.rows) :
    Script.Upholds (match (retention.deletionOf entry).inCloud with
      | .ok () => do
        remove retention entry.fileid
        return none
      | .error failure =>
        if failure.isIOError then return some failure.message else throw failure :
      Filing Content (Option String)) middle fun _ final =>
        Rotated retention [entry] before final := by
  cases answer : (retention.deletionOf entry).inCloud with
  | ok => exact rotated_removed contents rows (by simp [Unlists, inCloud, answer])
  | error failure =>
    simp only [Script.upholds_ite]
    split
    · exact rotated_left contents rows (by simp [Unlists, inCloud, answer])
    · exact trivial

/-- Deleting what a row in a cloud names does what a deletion does. -/
theorem delfileInCloud_rotated {entry : FileEntry} (inCloud : entry.storageType = .cloud)
    (store : Store Content) :
    (delfileInCloud retention entry).Upholds store fun _ final =>
      Rotated retention [entry] store final := by
  have place : retention.volumes.locate entry = some (.cloud entry.storageid entry.name) := by
    simp [Volumes.locate, inCloud]
  unfold delfileInCloud
  cases removes : (retention.deletionOf entry).removes with
  | true =>
    have deletes : Deletes retention entry := by simp [Deletes, inCloud, removes]
    simp only [removes, ↓reduceIte]
    exact cloudAnswer_rotated inCloud (emptied_put place deletes) rfl
  | false =>
    have spares : ¬ Deletes retention entry := by simp [Deletes, inCloud, removes]
    simp only [removes, Bool.false_eq_true, ↓reduceIte]
    exact cloudAnswer_rotated inCloud (emptied_spared spares) rfl

/-- Deleting what a row of an agent names does what a deletion does. -/
theorem delfileOnAgent_rotated {entry : FileEntry} (onAgent : entry.storageType = .vol)
    (store : Store Content) :
    (delfileOnAgent retention entry).Upholds store fun _ final =>
      Rotated retention [entry] store final := by
  unfold delfileOnAgent
  cases found : retention.volumes.byVolid entry.storageid with
  | none =>
    exact rotated_left (emptied_spared (by simp [Deletes, onAgent, found])) rfl
      (by simp [Unlists, onAgent, found])
  | some volume =>
    have place : retention.volumes.locate entry = some (.volume volume.agentid entry.name) := by
      simp [Volumes.locate, onAgent, found]
    cases connected : (retention.deletionOf entry).connected with
    | false =>
      simp only [connected, Bool.false_eq_true, ↓reduceIte, Script.upholds_pure]
      exact rotated_left (emptied_spared (by simp [Deletes, onAgent, connected])) rfl
        (by simp [Unlists, onAgent, connected])
    | true =>
      simp only [connected, ↓reduceIte, Script.upholds_bind]
      refine (deleteVolFile_upholds ..).mono fun _ middle deleted => ?_
      have unlists : Unlists retention entry := by simp [Unlists, onAgent, found, connected]
      have decides : Deletes retention entry ↔
          (retention.deletionOf entry).onAgent.filesize = .ok none ∧
            (retention.deletionOf entry).onAgent.removes = true := by
        simp [Deletes, onAgent, found, connected]
      rcases deleted with ⟨removed, rfl⟩ | ⟨spared, rfl⟩
      · exact rotated_removed (emptied_put place (decides.mpr removed)) rfl unlists
      · refine rotated_removed (emptied_spared fun deletes => ?_) rfl unlists
        exact spared (decides.mp deletes)

/-- Deleting a row does what a deletion does, if it does not raise. -/
theorem delfileByEntry_rotated (entry : FileEntry) (store : Store Content) :
    (delfileByEntry retention entry).Upholds store fun _ final =>
      Rotated retention [entry] store final := by
  unfold delfileByEntry
  split
  next inCloud => exact delfileInCloud_rotated inCloud store
  next onAgent => exact delfileOnAgent_rotated onAgent store

/-! ## The rotation -/

/-- Deleting some rows one after another deletes all of them. -/
theorem forM_rotated (entries : List FileEntry) (store : Store Content) :
    (entries.forM fun entry => do
      let _ ← delfileByEntry retention entry : Filing Content PUnit).Upholds store fun _ final =>
        Rotated retention entries store final := by
  induction entries generalizing store with
  | nil => exact .refl store
  | cons entry entries inductionHypothesis =>
    rw [List.forM_eq_forM, List.forM_cons]
    simp only [Script.upholds_bind]
    refine (delfileByEntry_rotated entry store).mono fun _ middle first => ?_
    exact (inductionHypothesis middle).mono fun _ _ rest => first.trans rest

/-- The rows that a rotation deletes. -/
def victims (retention : Retention) (rows : List FileEntry) : List FileEntry :=
  outdated retention.autoRetain (findByAutoEnvid retention .backup rows) ++
    outdated retention.userRetain (findByNonAutoEnvid retention .backup rows)

/-- What is deleted of found rows was found. -/
theorem mem_of_outdated {retainCount : Int} {rows : List FileEntry} {row : FileEntry}
    (deleted : row ∈ outdated retainCount rows) : row ∈ rows := by
  unfold outdated at deleted
  split at deleted
  · cases deleted
  · exact List.mem_of_mem_take deleted

/-- The scheduled backups are not found among the others. -/
theorem findByAutoEnvid_mem {fileType : FileType} {rows : List FileEntry} {row : FileEntry}
    (found : row ∈ findByAutoEnvid retention fileType rows) :
    row ∈ rows ∧ row.auto ≠ some false := by
  have filtered := (retention.rowOrder.permutes _).mem_iff.mp found
  simp only [List.mem_filter, Bool.and_eq_true, decide_eq_true_eq] at filtered
  exact ⟨filtered.1, filtered.2.2⟩

/-- Deleting scheduled backups leaves the others to be found. -/
theorem findByNonAutoEnvid_rotated {entries : List FileEntry} {before after : Store Content}
    (scheduled : ∀ entry ∈ entries, entry ∈ before.rows ∧ entry.auto ≠ some false)
    (rotated : Rotated retention entries before after) (fileType : FileType) :
    findByNonAutoEnvid retention fileType after.rows =
      findByNonAutoEnvid retention fileType before.rows := by
  obtain ⟨keeps, rows, named⟩ := rotated.rows
  unfold findByNonAutoEnvid
  rw [rows, List.filter_filter]
  refine congrArg retention.rowOrder.order (List.filter_congr fun row stored => ?_)
  cases kept : keeps row with
  | true => rw [Bool.and_true]
  | false =>
    obtain ⟨victim, listed, -, -, same⟩ := (named row).mp kept
    obtain ⟨victimStored, auto⟩ := scheduled victim listed
    have itself : victim = row := before.catalogue.row_unique victimStored stored same.symm
    simp [← itself, auto]

/-- Rotating the backups deletes the rows that are outdated, if nothing raises. -/
theorem rotateBackups_rotated (store : Store Content) :
    (rotateBackups retention).Upholds store fun _ final =>
      Rotated retention (victims retention store.rows) store final := by
  unfold rotateBackups fileRotate
  simp only [bind_assoc, Script.upholds_bind, Script.upholds_get]
  refine (forM_rotated _ store).mono fun _ middle first => ?_
  have others := findByNonAutoEnvid_rotated (fun entry deleted =>
    findByAutoEnvid_mem (mem_of_outdated deleted)) first .backup
  rw [others]
  exact (forM_rotated _ middle).mono fun _ _ second => first.trans second

/-! ## The new row -/

/-- The row that a placement returns is the one that it adds. -/
def AddsPlaced (before : Store Content) (placement : Placement) (final : Store Content) : Prop :=
  ∀ entry, placement.placedFileEntry = some entry →
    final.rows = before.rows ++ [entry] ∧ entry.fileid = before.catalogue.nextFileid

section Placing

variable {order : Order Content} {before : Store Content}

/-- A row that is added to the rows that there were is the new one. -/
theorem addsPlaced_add {middle : Store Content} (same : middle.catalogue = before.catalogue)
    (file : NewFile) (copied copyFailed deleteLocalBackup : Bool) :
    AddsPlaced before ⟨some (middle.next file), copied, copyFailed, deleteLocalBackup⟩
      (middle.adding file) := by
  intro entry placed
  rw [← Option.some.inj placed, Store.adding_rows]
  simp [Store.rows, Store.next, NewFile.entry, same]

/-- The deletion of the original leaves the rows. -/
theorem deleteLocal_addsPlaced {placement : Placement} {middle : Store Content}
    (placed : AddsPlaced before placement middle) :
    (order.deleteLocal placement).Upholds middle (AddsPlaced before) := by
  unfold Order.deleteLocal
  split
  · simp only [Script.upholds_bind, Script.upholds_pure]
    refine (deleteVolFile_upholds ..).mono fun _ final deleted => ?_
    rcases deleted with ⟨-, rfl⟩ | ⟨-, rfl⟩ <;> exact placed
  · exact placed

/-- A copy to a cloud adds the row that it returns. -/
theorem copyToCloud_addsPlaced (targetEntry : CloudEntry) (primaryEntry : VolumeEntry) :
    (order.copyToCloud targetEntry primaryEntry).Upholds before (AddsPlaced before) := by
  unfold Order.copyToCloud
  dsimp only
  split
  · exact trivial
  · split
    · exact trivial
    · exact addsPlaced_add rfl _ _ _ _
    · exact addsPlaced_add rfl _ _ _ _

/-- A copy to another agent leaves the rows. -/
theorem Answered.catalogue {source target : Agent} {sourcePath targetDir : Path}
    {network : Network Content} {store final : Store Content} {answer : Option String}
    (answered : Answered source target sourcePath targetDir network store answer final) :
    final.catalogue = store.catalogue := by
  cases answer with
  | some error => rcases (answered.reported (by simp)).2 with rfl | ⟨left, rfl⟩ <;> rfl
  | none =>
    obtain ⟨content, -, rfl⟩ := answered.fetched rfl
    rfl

/-- A copy to another agent adds the row that it returns, if it returns one. -/
theorem copyToAgent_addsPlaced (targetEntry : VolumeEntry) (targetAgent : Agent)
    (targetDir : Path) (primaryEntry : VolumeEntry) :
    (order.copyToAgent targetEntry targetAgent targetDir primaryEntry).Upholds before
      (AddsPlaced before) := by
  unfold Order.copyToAgent
  simp only [Script.upholds_bind]
  refine Script.upholds_settle.mpr fun _ _ => Script.upholds_settle.mpr fun volume _ => ?_
  cases volume with
  | none => exact fun _ impossible => by cases impossible
  | some volume =>
    simp only [Script.upholds_bind]
    refine Script.upholds_settle.mpr fun sourcePath _ => ?_
    refine Script.Ends.mono copyCmd_ends (fun answer middle answered => ?_) fun _ _ _ => trivial
    have same : middle.catalogue = before.catalogue := answered.catalogue
    cases answer <;> exact addsPlaced_add same _ _ _ _

/-- Placing a file adds the row that it returns, if it returns one. -/
theorem doCopy_addsPlaced : order.doCopy.Upholds before (AddsPlaced before) := by
  unfold Order.doCopy
  split
  · rw [Script.upholds_bind]
    exact (copyToCloud_addsPlaced ..).mono fun _ _ placed => deleteLocal_addsPlaced placed
  · split
    · exact addsPlaced_add rfl _ _ _ _
    · rw [Script.upholds_bind]
      exact (copyToAgent_addsPlaced ..).mono fun _ _ placed => deleteLocal_addsPlaced placed

end Placing

/-- A reply with an id names the row that was added. -/
def AddsReported (before : Store Content) (reply : Except String Nat) (final : Store Content) :
    Prop :=
  ∀ fileid, reply = .ok fileid → fileid = before.catalogue.nextFileid ∧
    ∃ entry, entry.fileid = fileid ∧ final.rows = before.rows ++ [entry]

section Reporting

variable {backup : Order Content} {content : Content} {preparation : Preparation}
  {before : Store Content}

/-- A backup that reports an id added the row with it. -/
theorem backupCmd_adds :
    (backupCmd backup content preparation).Upholds before (AddsReported before) := by
  unfold backupCmd
  rw [Script.upholds_bind]
  refine Script.upholds_settle.mpr fun refused _ => ?_
  cases refused with
  | some error => exact fun _ impossible => by cases impossible
  | none =>
    simp only [Script.upholds_bind, Script.upholds_modify]
    refine Script.Upholds.mono doCopy_addsPlaced fun placement final placed => ?_
    refine Script.upholds_settle.mpr fun _ _ => ?_
    cases entryPlaced : placement.placedFileEntry with
    | none => exact trivial
    | some entry =>
      obtain ⟨rows, fileid⟩ := placed entry entryPlaced
      rintro reported same
      cases same
      exact ⟨fileid, entry, rfl, rows⟩

/-- The failure of a backup that becomes a reply reports no id. -/
theorem attemptedBackup_adds :
    (attemptedBackup backup content preparation).Upholds before (AddsReported before) := by
  unfold attemptedBackup
  rw [Script.upholds_bind, Script.upholds_attempt]
  refine Script.Ends.mono backupCmd_adds (fun _ _ adds => adds) fun failure final _ _ => ?_
  exact fun _ impossible => by cases impossible

end Reporting

/-! ## The claim -/

/-- A backup that was announced as successful is kept: its row was added, is still there and
is the only one that is reported, and the rotation left its data. -/
structure IsKept (retention : Retention) (before placed rotated : Store Content) (fileid : Nat)
    (reports : FileEntry → Prop) (entry : FileEntry) : Prop where
  made : entry.fileid = fileid
  added : placed.rows = before.rows ++ [entry]
  stays : entry ∈ rotated.rows
  data : ∀ location, retention.volumes.locate entry = some location →
    rotated.contents location = placed.contents location
  reported : ∀ other, reports other → other = entry

/-- The rotation spares a row: its own deletion does not remove it, and no deletion removes
data at its place. -/
def Spares (retention : Retention) (placed : Store Content) (entry : FileEntry) : Prop :=
  ¬ (entry ∈ victims retention placed.rows ∧ Unlists retention entry) ∧
    ∀ victim ∈ victims retention placed.rows, ∀ location,
      retention.volumes.locate entry = some location → DeletesAt retention victim location →
        placed.contents location = none

/-- The rotation and the event about a success. -/
def announce (retention : Retention) (event : Except Failure Unit) : Filing Content PUnit := do
  rotateBackups retention
  Script.settle event

/-- What was deleted for a rotation is exactly what the outdated rows say. -/
theorem announce_rotated {event : Except Failure Unit} {placed rotated : Store Content}
    (announced : (announce retention event).run.run placed = (.ok ⟨⟩, rotated)) :
    Rotated retention (victims retention placed.rows) placed rotated := by
  have upheld : (announce retention event).Upholds placed fun _ final =>
      Rotated retention (victims retention placed.rows) placed final := by
    unfold announce
    rw [Script.upholds_bind]
    exact (rotateBackups_rotated placed).mono fun _ _ done =>
      Script.upholds_settle.mpr fun _ _ => done
  exact Script.upholds_iff.mp upheld ⟨⟩ rotated announced

/-- The report of an entry after the success was announced. -/
def concludeReport (api : FileEntry → Except Failure Unit) (fileid : Nat) :
    Filing Content (Option FileEntry) := do
  match getById fileid (← get).rows with
  | none => throw ⟨.attributeError, "'NoneType' object has no attribute 'api'"⟩
  | some entry =>
    Script.settle (api entry)
    return some entry

/-- What is reported is the row that is found. -/
theorem concludeReport_upholds {api : FileEntry → Except Failure Unit} {fileid : Nat}
    {store : Store Content} : (concludeReport api fileid).Upholds store fun reported _ =>
      ∀ entry, reported = some entry → getById fileid store.rows = some entry := by
  unfold concludeReport
  rw [Script.upholds_bind, Script.upholds_get]
  cases found : getById fileid store.rows with
  | none => exact trivial
  | some entry =>
    simp only [Script.upholds_bind]
    exact Script.upholds_settle.mpr fun _ _ _ same => same

/-- What is reported after a success was announced is the row with its id. -/
theorem concludeBackup_reports {event : Except Failure Unit}
    {api : FileEntry → Except Failure Unit} {placed rotated final : Store Content}
    {fileid : Nat} {entry : FileEntry}
    (announced : (announce retention event).run.run placed = (.ok ⟨⟩, rotated))
    (reports : (concludeBackup retention event api (.ok fileid)).run.run placed =
      (.ok (some entry), final)) : getById fileid rotated.rows = some entry := by
  have upheld : (concludeBackup retention event api (.ok fileid)).Upholds placed
      fun reported _ => ∀ other, reported = some other →
        getById fileid rotated.rows = some other := by
    have split : (concludeBackup retention event api (.ok fileid) : Filing Content _) =
        announce retention event >>= fun _ => concludeReport api fileid := by
      unfold concludeBackup announce concludeReport
      exact (bind_assoc _ _ _).symm
    rw [split, Script.upholds_bind, Script.upholds_iff]
    intro _ final same
    rw [announced] at same
    cases same
    exact concludeReport_upholds
  exact Script.upholds_iff.mp upheld _ final reports entry rfl

/-- The rows that a rotation deletes are rows of its environment. -/
theorem mem_of_victims {rows : List FileEntry} {victim : FileEntry}
    (listed : victim ∈ victims retention rows) :
    victim ∈ rows ∧ victim.envid = retention.envid := by
  rcases List.mem_append.mp listed with scheduled | requested
  · have filtered := (retention.rowOrder.permutes _).mem_iff.mp (mem_of_outdated scheduled)
    simp only [List.mem_filter, Bool.and_eq_true, decide_eq_true_eq] at filtered
    exact ⟨filtered.1, filtered.2.1.1⟩
  · have filtered := (retention.rowOrder.permutes _).mem_iff.mp (mem_of_outdated requested)
    simp only [List.mem_filter, Bool.and_eq_true, decide_eq_true_eq] at filtered
    exact ⟨filtered.1, filtered.2.1.1⟩

/-- A stored row is removed by a rotation exactly if it is outdated and its own deletion
removes it, for ids are unique. -/
theorem unlisted_victims_iff {placed : Store Content} {entry : FileEntry}
    (stored : entry ∈ placed.rows) :
    Unlisted retention (victims retention placed.rows) entry ↔
      entry ∈ victims retention placed.rows ∧ Unlists retention entry := by
  constructor
  · rintro ⟨victim, listed, unlists, -, same⟩
    have itself : victim = entry :=
      placed.catalogue.row_unique (mem_of_victims listed).1 stored same.symm
    exact itself ▸ ⟨listed, unlists⟩
  · rintro ⟨listed, unlists⟩
    exact ⟨entry, listed, unlists, (mem_of_victims listed).2, rfl⟩

/-- Rows are deleted without touching the data at a place exactly if no deletion removes
something there. -/
theorem Emptied.same_iff {entries : List FileEntry} {before after : Location → Option Content}
    (emptied : Emptied retention entries before after) (location : Location) :
    after location = before location ↔
      ∀ victim ∈ entries, DeletesAt retention victim location → before location = none := by
  constructor
  · intro same victim listed deletes
    exact same.symm.trans (emptied.gone location ⟨victim, listed, deletes⟩)
  · intro absent
    by_cases deleted : ∃ victim ∈ entries, DeletesAt retention victim location
    · obtain ⟨victim, listed, deletes⟩ := deleted
      rw [emptied.gone location ⟨victim, listed, deletes⟩, absent victim listed deletes]
    · exact emptied.kept location fun victim listed deletes =>
        deleted ⟨victim, listed, deletes⟩

/-- An announced backup is kept if and only if the rotation spares its row. -/
theorem backup_kept_iff {backup : Order Content} {content : Content} {preparation : Preparation}
    {event : Except Failure Unit} {api : FileEntry → Except Failure Unit}
    {before placed rotated : Store Content} {fileid : Nat}
    (backedUp : (attemptedBackup backup content preparation).run.run before =
      (.ok (.ok fileid), placed))
    (announced : (announce retention event).run.run placed = (.ok ⟨⟩, rotated)) :
    (∃ entry, IsKept retention before placed rotated fileid (fun other => ∃ final,
        (concludeBackup retention event api (.ok fileid)).run.run placed =
          (.ok (some other), final)) entry) ↔
      ∀ entry ∈ placed.rows, entry.fileid = fileid → Spares retention placed entry := by
  have deleted := announce_rotated announced
  constructor
  · rintro ⟨kept, isKept⟩ entry stored same
    have keptStored : kept ∈ placed.rows := by simp [isKept.added]
    have itself : entry = kept :=
      placed.catalogue.row_unique stored keptStored (same.trans isKept.made.symm)
    subst itself
    constructor
    · rw [← unlisted_victims_iff stored]
      exact ((deleted.mem_rows entry).mp isKept.stays).2
    · intro victim listed location located
      exact (deleted.contents.same_iff location).mp (isKept.data location located) victim listed
  · intro spares
    obtain ⟨-, entry, made, added⟩ :=
      Script.upholds_iff.mp attemptedBackup_adds _ placed backedUp fileid rfl
    have stored : entry ∈ placed.rows := by simp [added]
    obtain ⟨listed, data⟩ := spares entry stored made
    refine ⟨entry, made, added, ?_, fun location located => ?_, ?_⟩
    · rw [deleted.mem_rows, unlisted_victims_iff stored]
      exact ⟨stored, listed⟩
    · exact (deleted.contents.same_iff location).mpr fun victim victimListed =>
        data victim victimListed location located
    · rintro other ⟨final, reports⟩
      have found := concludeBackup_reports announced reports
      have foundStored := (deleted.mem_rows other).mp (List.mem_of_find?_eq_some found)
      have foundId : other.fileid = fileid := by simpa using List.find?_some found
      exact placed.catalogue.row_unique foundStored.1 stored (foundId.trans made.symm)

/-! ## Two rotations -/

/-- Rows in the order of their creation, as they were for equal times. -/
def byCreation : RowOrder where
  order := List.insertionSort fun earlier later => earlier.creationTime ≤ later.creationTime
  permutes := List.perm_insertionSort _
  sorted rows :=
    haveI : Std.Total fun earlier later : FileEntry =>
        earlier.creationTime ≤ later.creationTime :=
      ⟨fun earlier later => Int.le_total earlier.creationTime later.creationTime⟩
    haveI : IsTrans FileEntry fun earlier later => earlier.creationTime ≤ later.creationTime :=
      ⟨fun _ _ _ => Int.le_trans⟩
    List.pairwise_insertionSort _ rows

/-- Some number of scheduled backups is retained, and every deletion succeeds. -/
def retaining (autoRetain : Int) : Retention :=
  ⟨twoVolumes, 1, autoRetain, -1, byCreation,
    fun _ => ⟨true, ⟨.ok none, true, .ok none⟩, true, .ok ()⟩⟩

/-- A file stays on its agent. -/
def stayingCheck : DiskCheck twoVolumes ⟨1, true⟩ where
  target := .vol ⟨1, 1, "C".toList, some "\\Data".toList⟩ ⟨1, true⟩
    "C:\\Data\\tableau-backups".toList ⟨1, 1, "C".toList, some "\\Data".toList⟩
  parentDir := "tableau-backups".toList
  fileType := .backup
  primaryStored := by decide
  primaryOwn := rfl
  targetStored := by
    intro targetEntry targetAgent targetDir primaryEntry same
    cases same
    decide

/-- A scheduled backup that stays on its agent. -/
def stayingBackup : Order Nat :=
  { copyOrder "C:\\x.tsbak".toList "x.tsbak".toList with dcheck := stayingCheck, now := 1 }

/-- A command that succeeds, and statistics that are computed. -/
def quietPreparation : Preparation := ⟨.ok none, .ok ()⟩

/-- A catalogue with an older scheduled backup of the same name. -/
def sameName : Store Nat :=
  ⟨fun _ => none, Catalogue.empty.add
    ⟨1, "C:\\x.tsbak".toList, .backup, .vol, 1, 0, true, 0⟩⟩

/-- After the backup of the same name. -/
def afterSameName : Store Nat :=
  ((attemptedBackup stayingBackup 7 quietPreparation).run.run sameName).2

/-- A backup whose older namesake is rotated out loses its data although it is reported. -/
theorem namesake_lost :
    ¬ ∀ (retention : Retention) (backup : Order Nat) (content : Nat) (preparation : Preparation)
      (event : Except Failure Unit) (api : FileEntry → Except Failure Unit)
      (before placed rotated : Store Nat) (fileid : Nat),
      (attemptedBackup backup content preparation).run.run before = (.ok (.ok fileid), placed) →
      (announce retention event).run.run placed = (.ok ⟨⟩, rotated) →
      (∃ reported final, (concludeBackup retention event api (.ok fileid)).run.run placed =
        (.ok (some reported), final)) →
      ∃ entry, IsKept retention before placed rotated fileid (fun other => ∃ final,
        (concludeBackup retention event api (.ok fileid)).run.run placed =
          (.ok (some other), final)) entry := by
  intro always
  obtain ⟨entry, kept⟩ := always (retaining 1) stayingBackup 7 quietPreparation (.ok ())
    (fun _ => .ok ()) sameName afterSameName
    ((announce (retaining 1) (.ok ())).run.run afterSameName).2 2 rfl rfl ⟨_, _, rfl⟩
  have stored : entry ∈ afterSameName.rows := by simp [kept.added]
  have located : twoVolumes.locate entry = some (.volume 1 "C:\\x.tsbak".toList) := by
    rcases List.mem_cons.mp stored with rfl | new
    · rfl
    · rw [List.mem_singleton.mp new]
      rfl
  have impossible : (none : Option Nat) = some 7 := kept.data _ located
  cases impossible

/-- Where all backups are retained, the backup is kept. -/
theorem backup_kept_retained :
    ∃ entry, IsKept (retaining (-1)) sameName afterSameName
      ((announce (retaining (-1)) (.ok ())).run.run afterSameName).2 2
      (fun other => ∃ final,
        (concludeBackup (retaining (-1)) (.ok ()) (fun _ => .ok ()) (.ok 2)).run.run afterSameName =
          (.ok (some other), final)) entry := by
  have nothing : victims (retaining (-1)) afterSameName.rows = [] := rfl
  refine (@backup_kept_iff Nat (retaining (-1)) stayingBackup 7 quietPreparation _ _ sameName
    afterSameName _ _ rfl rfl).mpr fun entry _ _ => ⟨fun listed => ?_, fun victim listed => ?_⟩
  · rw [nothing] at listed
    cases listed.1
  · rw [nothing] at listed
    cases listed

end Palette.Files
