import Palette.Alerts.DiskRuns

/-!
# The archive volume of an agent that is not on Windows

Only the first of the new volumes on a disk below which the data directory is becomes the
archive. A volume that has a row becomes one whenever it is reported, for that branch has a rule
of its own. So what is marked after a report is what was marked before it, the volumes that had a
row when the loop came to them, and the first of the new ones that may take archives.
-/

namespace Palette.Alerts

open Palette.Commands (Failure)
open Palette.Files (Path)
open Palette.Foundation Script

/-! ## What a report marks -/

/-- The names of volumes that have a row when the loop comes to them, when there are rows of some
names before it. -/
def repeatedNames : (Option Path → Bool) → List VolumeInfo → List (Option Path)
  | _, [] => []
  | known, volume :: rest =>
    match volume.name, volume.type with
    | none, _ => repeatedNames known rest
    | some name, type =>
      if known name then name :: repeatedNames known rest
      else if type.isSome then repeatedNames (fun other => other = name || known other) rest
      else repeatedNames known rest

/-- The names and types of the volumes that get a row. -/
def newVolumes : (Option Path → Bool) → List VolumeInfo → List (Option Path × Option Path)
  | _, [] => []
  | known, volume :: rest =>
    match volume.name, volume.type with
    | some name, some type =>
      if known name then newVolumes known rest
      else (name, type) :: newVolumes (fun other => other = name || known other) rest
    | _, _ => newVolumes known rest

namespace Volumes

variable (volumes : Volumes) (agentid : Nat)

/-- An agent has a row of a name. -/
def lists (name : Option Path) : Bool := (volumes.lookup (agentid, name)).isSome

/-- The row of a name is an archive. -/
def marks (name : Option Path) : Bool := (volumes.lookup (agentid, name)).any Volume.archive

end Volumes

namespace DiskReport

variable (report : DiskReport)

/-- A new volume may take archives. -/
def claims (volume : Option Path × Option Path) : Bool :=
  match report.archives volume.1 volume.2 with
  | .ok archive => archive
  | .error _ => false

/-- The first of the new volumes that may take archives. -/
def firstClaim (known : Option Path → Bool) (volumes : List VolumeInfo) : Option (Option Path) :=
  ((newVolumes known volumes).find? report.claims).map Prod.fst

end DiskReport

section Names

variable {report : DiskReport} {known : Option Path → Bool} {volume : VolumeInfo}
  {rest : List VolumeInfo} {name : Option Path}

/-- A volume that gets no row and has none is passed over. -/
theorem names_skipped (skipped : volume.name = none ∨
      ∃ name, volume.name = some name ∧ known name = false ∧ volume.type = none) :
    repeatedNames known (volume :: rest) = repeatedNames known rest ∧
      report.firstClaim known (volume :: rest) = report.firstClaim known rest := by
  unfold DiskReport.firstClaim
  rw [repeatedNames, newVolumes]
  rcases skipped with unnamed | ⟨name, named, unknown, untyped⟩
  · simp [unnamed]
  · simp [named, unknown, untyped]

/-- A volume that has a row is met again. -/
theorem names_repeated (named : volume.name = some name) (listed : known name = true) :
    repeatedNames known (volume :: rest) = name :: repeatedNames known rest ∧
      report.firstClaim known (volume :: rest) = report.firstClaim known rest := by
  unfold DiskReport.firstClaim
  rw [repeatedNames, newVolumes]
  cases typed : volume.type <;> simp [named, listed]

/-- A volume that gets a row is the first to claim the archive if it can. -/
theorem names_new {type : Option Path} (named : volume.name = some name)
    (unknown : known name = false) (typed : volume.type = some type) :
    repeatedNames known (volume :: rest) =
        repeatedNames (fun other => other = name || known other) rest ∧
      report.firstClaim known (volume :: rest) =
        if report.claims (name, type) then some name
        else report.firstClaim (fun other => other = name || known other) rest := by
  unfold DiskReport.firstClaim
  rw [repeatedNames, newVolumes]
  cases claims : report.claims (name, type) <;> simp [named, unknown, typed, claims]

end Names

section Marking

variable {report : DiskReport} {scan : Scan} {disks : Disks}

/-- Whether a row of a name exists after a row was written. -/
theorem lists_put {volumes : Volumes} {volume : Volume} {agentid : Nat} {name : Option Path}
    (key : volume.key = (agentid, name)) (other : Option Path) :
    Volumes.lists (volumes.put volume) agentid other =
      (decide (other = name) || volumes.lists agentid other) := by
  unfold Volumes.lists
  by_cases same : other = name
  · rw [same, ← key, Dictionary.lookup_put_self]
    simp
  · have apart : (agentid, other) ≠ volume.key := fun equal =>
      same (congrArg Prod.snd (equal.trans key))
    rw [Dictionary.lookup_put_of_ne volumes volume apart]
    simp [same]

/-- Whether the row of a name is an archive after a row was written. -/
theorem marks_put {volumes : Volumes} {volume : Volume} {agentid : Nat} {name : Option Path}
    (key : volume.key = (agentid, name)) (other : Option Path) :
    Volumes.marks (volumes.put volume) agentid other =
      if other = name then volume.archive else volumes.marks agentid other := by
  unfold Volumes.marks
  split
  · next same =>
    rw [same, ← key, Dictionary.lookup_put_self]
    rfl
  · next apart =>
    have different : (agentid, other) ≠ volume.key := fun equal =>
      apart (congrArg Prod.snd (equal.trans key))
    rw [Dictionary.lookup_put_of_ne volumes volume different]

/-- An announcement changes neither the rows that the session sees nor what the row is about. -/
theorem announce_upholds (entry : Volume) (due : Option DiskEvent) :
    (report.announce entry due).Upholds disks fun written final =>
      (written.key = entry.key ∧ written.archive = entry.archive) ∧
        final.seen = disks.seen ∧ final.linuxArchiveVolumeFound = disks.linuxArchiveVolumeFound := by
  unfold DiskReport.announce
  cases due with
  | none => exact ⟨⟨rfl, rfl⟩, rfl, rfl⟩
  | some event =>
    rw [upholds_bind]
    unfold DiskReport.genDiskEvent
    cases DiskReport.unshown event with
    | some failure => exact trivial
    | none =>
      cases report.gen event with
      | skipped =>
        exact ⟨⟨rfl, rfl⟩, rfl, rfl⟩
      | raised failure =>
        exact trivial
      | incomplete failure =>
        exact trivial
      | generated raises =>
        cases raises with
        | none =>
          exact ⟨⟨rfl, rfl⟩, rfl, rfl⟩
        | some failure =>
          exact trivial

/-- A row is stored unless the database refuses it. -/
theorem store_upholds (entry : Volume) :
    (report.store entry).Upholds disks fun _ final => final = disks.put entry := by
  unfold DiskReport.store
  cases report.refuses entry with
  | some failure => exact trivial
  | none => rfl

/-- What a loop over volumes leaves: the rows that exist, the archives, and whether an archive
was found. -/
structure Leaves (agentid : Nat) (final : Disks) (lists marks : Option Path → Bool)
    (found : Bool) : Prop where
  lists : ∀ name, final.seen.lists agentid name = lists name
  marks : ∀ name, final.seen.marks agentid name = marks name
  found : final.linuxArchiveVolumeFound = found

/-- What writing a row leaves. -/
theorem leaves_put {volume : Volume} {agentid : Nat} {name : Option Path}
    (key : volume.key = (agentid, name)) (before : Disks) :
    Leaves agentid (before.put volume)
      (fun other => other = name || before.seen.lists agentid other)
      (fun other => if other = name then volume.archive else before.seen.marks agentid other)
      before.linuxArchiveVolumeFound :=
  ⟨lists_put key, marks_put key, rfl⟩

/-- A volume that has a row becomes an archive. -/
theorem updateRow_leaves (linux : report.iswin = false) {volume : VolumeInfo} {found : Volume}
    {name : Option Path}
    (looked : disks.seen.lookup (report.agentid, name) = some found) :
    (report.updateRow scan volume found).Upholds disks fun _ final =>
      Leaves report.agentid final (disks.seen.lists report.agentid)
        (fun other => other = name || disks.seen.marks report.agentid other)
        disks.linuxArchiveVolumeFound := by
  have key : found.key = (report.agentid, name) :=
    ((Dictionary.lookup_eq_some _ _ _).mp looked).2
  have listed : disks.seen.lists report.agentid name = true := by
    unfold Volumes.lists
    rw [looked]
    rfl
  have archive : (report.merge scan volume found).archive = true := by
    simp [DiskReport.merge, linux]
  have mergedKey : (report.merge scan volume found).key = (report.agentid, name) := key
  have merged := leaves_put mergedKey disks
  unfold DiskReport.updateRow
  rw [upholds_bind]
  refine (store_upholds _).mono ?_
  rintro _ _ rfl
  rw [upholds_bind, upholds_settle]
  intro due _
  rw [upholds_bind]
  refine (announce_upholds _ due).mono fun written final announced => ?_
  obtain ⟨⟨sameKey, sameArchive⟩, seen, flag⟩ := announced
  have written := @leaves_put { written with active := true } _ _ (sameKey.trans mergedKey) final
  rw [upholds_modify]
  refine ⟨fun other => ?_, fun other => ?_, flag⟩
  · rw [written.lists, seen, merged.lists]
    by_cases same : other = name
    · simp [same, listed]
    · simp [same]
  · rw [written.marks, seen, merged.marks]
    by_cases same : other = name
    · simp [same, sameArchive, archive]
    · simp [same]

/-- A new volume becomes an archive if it may take archives and none was found before. -/
theorem addRow_leaves (linux : report.iswin = false) {volume : VolumeInfo}
    {name type : Option Path} :
    (report.addRow scan volume name type).Upholds disks fun _ final =>
      Leaves report.agentid final
        (fun other => other = name || disks.seen.lists report.agentid other)
        (fun other => if other = name then
            report.claims (name, type) && !disks.linuxArchiveVolumeFound
          else disks.seen.marks report.agentid other)
        (disks.linuxArchiveVolumeFound || report.claims (name, type)) := by
  unfold DiskReport.addRow
  rw [upholds_bind, upholds_settle]
  intro built same
  obtain ⟨key, -, may⟩ := build_ok same
  have claims : report.claims (name, type) = built.archive := by
    simp only [DiskReport.claims, may]
  rw [upholds_bind]
  refine (claimArchive_ends built).mono ?_ fun _ _ impossible => impossible.elim
  rintro _ _ ⟨rfl, rfl⟩
  rw [linux, Bool.false_or, Bool.not_false, Bool.and_true]
  rw [upholds_bind, upholds_settle]
  intro due _
  rw [upholds_bind]
  refine (announce_upholds _ due).mono fun written final announced => ?_
  obtain ⟨⟨sameKey, sameArchive⟩, seen, flag⟩ := announced
  refine (store_upholds _).mono ?_
  rintro _ _ rfl
  have stored := leaves_put (sameKey.trans key) final
  rw [claims]
  refine ⟨fun other => ?_, fun other => ?_, flag⟩
  · rw [stored.lists, seen]
  · rw [stored.marks, seen, sameArchive]

/-- A row that does not exist is no archive. -/
theorem marks_of_unlisted {volumes : Volumes} {agentid : Nat} {name : Option Path}
    (unlisted : volumes.lists agentid name = false) : volumes.marks agentid name = false := by
  unfold Volumes.lists at unlisted
  unfold Volumes.marks
  rw [Option.isSome_eq_false_iff, Option.isNone_iff_eq_none] at unlisted
  rw [unlisted]
  rfl

section Passes

variable {volume : VolumeInfo} {name : Option Path}

/-- The pass for a volume with a name looks for its row. -/
theorem updateVolume_looks (linux : report.iswin = false) (named : volume.name = some name)
    {returned : PUnit → Disks → Prop} :
    (report.updateVolume scan volume).Upholds disks returned ↔
      Upholds (match disks.seen.lookup (report.agentid, name) with
        | some found => report.updateRow scan volume found
        | none =>
          match volume.type with
          | none => pure ⟨⟩
          | some type => report.addRow scan volume name type) disks returned := by
  have called : report.nameOf name = .ok name := by simp [DiskReport.nameOf, linux]
  unfold DiskReport.updateVolume
  simp only [named, called, upholds_bind, upholds_settle, Except.ok.injEq, forall_eq', upholds_get]
  all_goals exact Iff.rfl

/-- The pass for a volume that has a row. -/
theorem updateVolume_known (linux : report.iswin = false) (named : volume.name = some name)
    (known : disks.seen.lists report.agentid name = true) :
    (report.updateVolume scan volume).Upholds disks fun _ final =>
      Leaves report.agentid final (disks.seen.lists report.agentid)
        (fun other => other = name || disks.seen.marks report.agentid other)
        disks.linuxArchiveVolumeFound := by
  obtain ⟨found, looked⟩ := Option.isSome_iff_exists.mp known
  rw [updateVolume_looks linux named, looked]
  exact updateRow_leaves linux looked

/-- The pass for a volume that has no row. -/
theorem updateVolume_new (linux : report.iswin = false) (named : volume.name = some name)
    (unknown : disks.seen.lists report.agentid name = false) :
    (report.updateVolume scan volume).Upholds disks fun _ final =>
      match volume.type with
      | none => final = disks
      | some type => Leaves report.agentid final
          (fun other => other = name || disks.seen.lists report.agentid other)
          (fun other => if other = name then
              report.claims (name, type) && !disks.linuxArchiveVolumeFound
            else disks.seen.marks report.agentid other)
          (disks.linuxArchiveVolumeFound || report.claims (name, type)) := by
  have absent : disks.seen.lookup (report.agentid, name) = none := by
    simpa [Volumes.lists] using unknown
  rw [updateVolume_looks linux named, absent]
  cases volume.type with
  | none => rfl
  | some type => exact addRow_leaves linux

end Passes

/-- What the loop over the volumes marks. -/
theorem forM_marks (linux : report.iswin = false) (volumes : List VolumeInfo) (disks : Disks) :
    (volumes.forM (report.updateVolume scan)).Upholds disks fun _ final =>
      ∀ name, final.seen.marks report.agentid name = true ↔
        disks.seen.marks report.agentid name = true ∨
          name ∈ repeatedNames (disks.seen.lists report.agentid) volumes ∨
          disks.linuxArchiveVolumeFound = false ∧
            report.firstClaim (disks.seen.lists report.agentid) volumes = some name := by
  induction volumes generalizing disks with
  | nil =>
    intro name
    simp [repeatedNames, DiskReport.firstClaim, newVolumes]
  | cons volume rest inductionHypothesis =>
    rw [List.forM_eq_forM, List.forM_cons, upholds_bind]
    cases named : volume.name with
    | none =>
      obtain ⟨repeats, claims⟩ := @names_skipped report
        (disks.seen.lists report.agentid) volume rest (.inl named)
      unfold DiskReport.updateVolume
      rw [named, repeats, claims]
      exact inductionHypothesis disks
    | some name =>
      cases known : disks.seen.lists report.agentid name with
      | true =>
        obtain ⟨repeats, claims⟩ := @names_repeated report _ _ rest _ named known
        refine (updateVolume_known linux named known).mono fun _ middle left => ?_
        refine (inductionHypothesis middle).mono fun _ final later other => ?_
        rw [later other, left.marks, left.found, funext left.lists, repeats, claims]
        simp only [Bool.or_eq_true, decide_eq_true_eq, List.mem_cons]
        tauto
      | false =>
        have pass := @updateVolume_new report scan disks _ _ linux named known
        cases typed : volume.type with
        | none =>
          obtain ⟨repeats, claims⟩ := @names_skipped report _ _ rest
            (.inr ⟨name, named, known, typed⟩)
          rw [typed] at pass
          refine pass.mono fun _ middle same => ?_
          rw [same, repeats, claims]
          exact inductionHypothesis disks
        | some type =>
          obtain ⟨repeats, claims⟩ := @names_new report _ _ rest _ _ named known typed
          rw [typed] at pass
          refine pass.mono fun _ middle left => ?_
          refine (inductionHypothesis middle).mono fun _ final later other => ?_
          rw [later other, left.marks, left.found, funext left.lists, repeats, claims]
          have unmarked := marks_of_unlisted known
          cases claimed : report.claims (name, type) with
          | false =>
            by_cases same : other = name
            · simp [same, unmarked]
            · simp [same]
          | true =>
            by_cases same : other = name
            · simp [same, unmarked, or_comm]
            · simp [same, Ne.symm same]

/-- Inactive rows are still there. -/
theorem lists_deactivate (volumes : Volumes) (agentid : Nat) :
    (volumes.deactivate agentid).lists agentid = volumes.lists agentid := by
  funext name
  unfold Volumes.lists
  rw [lookup_deactivate, Option.isSome_map]

/-- Inactive rows are the archives that they were. -/
theorem marks_deactivate (volumes : Volumes) (agentid : Nat) (name : Option Path) :
    (volumes.deactivate agentid).marks agentid name = volumes.marks agentid name := by
  unfold Volumes.marks
  rw [lookup_deactivate]
  cases volumes.lookup (agentid, name) with
  | none => rfl
  | some volume =>
    simp only [Option.map_some, Option.any_some]
    split <;> rfl

end Marking

/-! ## The archives after a report -/

namespace DiskReport

variable (report : DiskReport)

/-- The volumes in the order of the loop. -/
def ordered : List VolumeInfo :=
  (report.volumes.getD []).insertionSort fun left right => sortKey right ≤ sortKey left

/-- The names that a report leaves as archives: those that were, those of volumes that have a row
when the loop comes to them, and that of the first new volume that may take archives. -/
def Marked (stored : Volumes) (name : Option Path) : Prop :=
  stored.marks report.agentid name = true ∨
    name ∈ repeatedNames (stored.lists report.agentid) report.ordered ∨
    report.firstClaim (stored.lists report.agentid) report.ordered = some name

/-- The data directory is below a mount point. -/
def holdsDataDir (name : Option Path) : Bool := name.any fun name => name.isPrefixOf report.dataDir

/-- All the names are one mount point, below which the data directory is. -/
def MarksOne (stored : Volumes) : Prop :=
  (∀ name, report.Marked stored name → report.holdsDataDir name = true) ∧
    ∀ name other, report.Marked stored name → report.Marked stored other → name = other

/-- A report returns `True`. -/
def ReturnsTrue (disks : Disks) : Prop :=
  (report.updateAgentPinfoVols.run.run disks.rollback).1 = .ok ⟨true⟩

end DiskReport

/-- The rows of an agent that are archives. -/
def Volumes.archivesOf (volumes : Volumes) (agentid : Nat) : List Volume :=
  volumes.entries.filter fun volume => volume.agentid = agentid && volume.archive

/-- An agent has at most one archive, and it is one below which its data directory is. -/
def SoleArchive (report : DiskReport) (volumes : Volumes) : Prop :=
  (volumes.archivesOf report.agentid).length ≤ 1 ∧
    ∀ volume ∈ volumes.archivesOf report.agentid, report.holdsDataDir volume.name = true

section Archives

variable {report : DiskReport} {disks : Disks} {volumes : Volumes} {agentid : Nat}

/-- A name is marked by a row that is an archive. -/
theorem marks_iff {name : Option Path} : volumes.marks agentid name = true ↔
    ∃ volume ∈ volumes.archivesOf agentid, volume.name = name := by
  unfold Volumes.marks Volumes.archivesOf
  rw [Option.any_eq_true]
  constructor
  · rintro ⟨volume, looked, archive⟩
    obtain ⟨stored, key⟩ := (Dictionary.lookup_eq_some _ _ _).mp looked
    have own : volume.agentid = agentid := congrArg Prod.fst key
    exact ⟨volume, by simp [stored, own, archive], congrArg Prod.snd key⟩
  · rintro ⟨volume, member, rfl⟩
    obtain ⟨stored, both⟩ := List.mem_filter.mp member
    rw [Bool.and_eq_true, decide_eq_true_eq] at both
    obtain ⟨rfl, archive⟩ := both
    exact ⟨volume, (Dictionary.lookup_eq_some _ _ _).mpr ⟨stored, rfl⟩, archive⟩

/-- Archives of one name are one row. -/
theorem archive_unique {left right : Volume} (leftStored : left ∈ volumes.archivesOf agentid)
    (rightStored : right ∈ volumes.archivesOf agentid) (same : left.name = right.name) :
    left = right := by
  obtain ⟨leftMember, leftOwn⟩ := List.mem_filter.mp leftStored
  obtain ⟨rightMember, rightOwn⟩ := List.mem_filter.mp rightStored
  rw [Bool.and_eq_true, decide_eq_true_eq] at leftOwn rightOwn
  exact volumes.entry_unique leftMember rightMember
    (Prod.ext (leftOwn.1.trans rightOwn.1.symm) same)

/-- There is at most one archive where all that are marked have one name. -/
theorem length_archivesOf_le_one : (volumes.archivesOf agentid).length ≤ 1 ↔
    ∀ name other, volumes.marks agentid name = true → volumes.marks agentid other = true →
      name = other := by
  have distinct : (volumes.archivesOf agentid).Nodup :=
    List.Nodup.filter _ (List.Nodup.of_map _ volumes.distinct)
  rw [← List.toFinset_card_of_nodup distinct, Finset.card_le_one]
  simp only [List.mem_toFinset]
  constructor
  · intro sole name other marked otherMarked
    obtain ⟨volume, member, rfl⟩ := marks_iff.mp marked
    obtain ⟨otherVolume, otherMember, rfl⟩ := marks_iff.mp otherMarked
    rw [sole volume member otherVolume otherMember]
  · intro unique left leftStored right rightStored
    exact archive_unique leftStored rightStored
      (unique _ _ (marks_iff.mpr ⟨left, leftStored, rfl⟩) (marks_iff.mpr ⟨right, rightStored, rfl⟩))

/-- An agent has a sole archive as far as its marks tell. -/
theorem soleArchive_iff : SoleArchive report volumes ↔
    (∀ name, volumes.marks report.agentid name = true → report.holdsDataDir name = true) ∧
      ∀ name other, volumes.marks report.agentid name = true →
        volumes.marks report.agentid other = true → name = other := by
  unfold SoleArchive
  rw [length_archivesOf_le_one, and_comm]
  refine and_congr_left fun _ => ⟨fun holds name marked => ?_, fun holds volume member => ?_⟩
  · obtain ⟨volume, member, rfl⟩ := marks_iff.mp marked
    exact holds volume member
  · exact holds _ (marks_iff.mpr ⟨volume, member, rfl⟩)

/-- The volumes that are read before the loop are in its order. -/
theorem scan_volumes {dataDir : Path} {scan : Scan} (read : report.scan dataDir = .ok scan) :
    scan.volumes = report.ordered := by
  unfold DiskReport.scan at read
  obtain ⟨low, -, read⟩ := bind_eq_ok.mp read
  obtain ⟨high, -, read⟩ := bind_eq_ok.mp read
  obtain ⟨volumes, sorted, read⟩ := bind_eq_ok.mp read
  cases read
  unfold DiskReport.volumesSorted at sorted
  split at sorted
  · cases sorted
  · cases sorted
    rfl

/-- What a report that returns `True` marks. -/
theorem report_marks (linux : report.iswin = false) :
    report.updateAgentPinfoVols.Upholds disks.rollback fun returned final =>
      returned.down = true → ∀ name,
        final.stored.marks report.agentid name = true ↔ report.Marked disks.stored name := by
  unfold DiskReport.updateAgentPinfoVols
  rw [upholds_ite]
  split
  · rw [upholds_bind, upholds_modify]
    cases report.paletteDataDir with
    | none => exact fun returned => by cases returned
    | some dataDir =>
      dsimp only
      rw [upholds_bind, upholds_settle]
      intro scan read
      rw [upholds_bind, upholds_modify, upholds_bind, scan_volumes read]
      refine (forM_marks linux report.ordered _).mono fun _ final marked => ?_
      intro _ name
      have left := marked name
      simp only [Disks.rollback, lists_deactivate, marks_deactivate, true_and] at left
      exact left
  · rw [upholds_ite]
    split
    · exact trivial
    · exact fun returned => by cases returned

/-- What a report that returns `True` leaves stays. -/
theorem next_of_returnsTrue (returned : report.ReturnsTrue disks) :
    disks.next (.report report) = (report.updateAgentPinfoVols.run.run disks.rollback).2 := by
  have closed : Disks.close report (report.updateAgentPinfoVols.run.run disks.rollback) =
      (report.updateAgentPinfoVols.run.run disks.rollback).2 := by
    rw [← Prod.mk.eta (p := report.updateAgentPinfoVols.run.run disks.rollback),
      show (report.updateAgentPinfoVols.run.run disks.rollback).1 = .ok ⟨true⟩ from returned]
    rfl
  exact closed

/-- A report that returns `True` leaves a sole archive where all that it marks is one. -/
theorem soleArchive_next_iff (linux : report.iswin = false) (returned : report.ReturnsTrue disks) :
    SoleArchive report (disks.next (.report report)).stored ↔ report.MarksOne disks.stored := by
  have marks := upholds_iff.mp (@report_marks report disks linux) ⟨true⟩ _
    (Prod.ext returned rfl) rfl
  rw [soleArchive_iff, next_of_returnsTrue returned]
  unfold DiskReport.MarksOne
  simp only [marks]

end Archives

/-! ## Runs -/

/-- The disks after a sequence of steps. -/
def disksAfter (steps : List DiskStep) : Disks := steps.foldl Disks.next .empty

/-- After each report of an agent that is not on Windows that returns `True`, its agent has a
sole archive. -/
def SoleThroughout (steps : List DiskStep) : Prop :=
  ∀ earlier report later, steps = earlier ++ .report report :: later → report.iswin = false →
    report.ReturnsTrue (disksAfter earlier) →
    SoleArchive report (disksAfter (earlier ++ [.report report])).stored

/-- Each of these reports marks one mount point. -/
def MarkedThroughout (steps : List DiskStep) : Prop :=
  ∀ earlier report later, steps = earlier ++ .report report :: later → report.iswin = false →
    report.ReturnsTrue (disksAfter earlier) → report.MarksOne (disksAfter earlier).stored

/-- In a sequence of reports an agent keeps a sole archive exactly if each report marks one mount
point. -/
theorem sole_throughout_iff (steps : List DiskStep) :
    SoleThroughout steps ↔ MarkedThroughout steps := by
  have last (earlier : List DiskStep) (report : DiskReport) :
      disksAfter (earlier ++ [.report report]) = (disksAfter earlier).next (.report report) := by
    unfold disksAfter
    rw [List.foldl_append]
    rfl
  constructor
  · intro sole earlier report later split linux returned
    have left := sole earlier report later split linux returned
    rw [last] at left
    exact (soleArchive_next_iff linux returned).mp left
  · intro marked earlier report later split linux returned
    rw [last]
    exact (soleArchive_next_iff linux returned).mpr (marked earlier report later split linux returned)

/-! ## The same volumes twice -/

/-- A disk of some name. -/
def plainDisk (name : Path) : VolumeInfo :=
  ⟨some (some name), none, some (some "/dev/sda1".toList), none, none, none, none⟩

/-- A report of two disks by an agent whose data directory is `/var/palette`. -/
def twoDisks : DiskReport where
  agentid := 1
  iswin := false
  hasType := true
  primary := false
  displayname := none
  dataDir := "/var/palette".toList
  low := some (.ok 50)
  high := some (.ok 80)
  tableauDataDir := none
  volumes := some [plainDisk "/mnt".toList, plainDisk "/".toList]
  gen _ := .generated none
  refuses _ := none
  keeps := false

/-- Both disks are archives once they were reported twice. -/
theorem twoDisks_archived :
    ¬ ∀ reports : List DiskReport, SoleThroughout (reports.map .report) := by
  intro always
  have returned : twoDisks.ReturnsTrue (disksAfter [.report twoDisks]) := by
    unfold DiskReport.ReturnsTrue
    decide +kernel
  have sole := always [twoDisks, twoDisks] [.report twoDisks] twoDisks [] rfl rfl returned
  have both : ((disksAfter [.report twoDisks, .report twoDisks]).stored.archivesOf 1).length = 2 := by
    decide +kernel
  have short := sole.1
  rw [List.singleton_append] at short
  exact absurd (both.symm.trans_le short) (by decide)

end Palette.Alerts
