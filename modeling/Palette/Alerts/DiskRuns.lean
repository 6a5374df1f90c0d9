import Palette.Alerts.Disks

/-!
# The disk alerts of every run

What a session sees agrees with the events at any time: the color of a volume is that of its
last event. What is stored agrees with them as long as no event was generated since it was
committed. So an exception does no harm before the first event of a report, and after it the
colors of the events of that report are lost.
-/

namespace Palette.Alerts

open Palette.Commands (Failure)
open Palette.Events (Generation)
open Palette.Foundation Script
open Palette.Metrics (Color)

/-- The rows agree with the events. -/
def Agrees (volumes : Volumes) (events : List DiskEvent) : Prop :=
  ∀ key, Foundation.Faithful .green (volumes.notified key) (diskColors key events)

/-! ## Rows -/

section Rows

variable {volumes : Volumes} {volume : Volume} {events : List DiskEvent}

/-- The color of a row that was written. -/
theorem notified_put (key : Nat × Option Files.Path) : Volumes.notified (volumes.put volume) key =
    if key = volume.key then volume.watermarkNotifiedColor else volumes.notified key := by
  unfold Volumes.notified
  split
  · next same =>
    rw [same, Dictionary.lookup_put_self]
    rfl
  · next apart => rw [Dictionary.lookup_put_of_ne volumes volume apart]

/-- The row under a key after the volumes of an agent were set to inactive. -/
theorem lookup_deactivate (agentid : Nat) (key : Nat × Option Files.Path) :
    (volumes.deactivate agentid).lookup key = (volumes.lookup key).map fun volume =>
      if volume.agentid = agentid then { volume with active := false } else volume := by
  unfold Volumes.deactivate Dictionary.lookup
  rw [List.find?_map]
  congr 2
  funext volume
  simp only [Function.comp_apply]
  split <;> rfl

/-- Inactive volumes keep their colors. -/
theorem notified_deactivate (agentid : Nat) (key : Nat × Option Files.Path) :
    (volumes.deactivate agentid).notified key = volumes.notified key := by
  unfold Volumes.notified
  rw [lookup_deactivate]
  cases volumes.lookup key with
  | none => rfl
  | some volume =>
    simp only [Option.map_some, Option.bind_some]
    split <;> rfl

/-- The colors of a volume after one more event. -/
theorem diskColors_snoc (event : DiskEvent) (key : Nat × Option Files.Path) :
    diskColors key (events ++ [event]) =
      if key = event.key then diskColors key events ++ [event.color] else diskColors key events := by
  unfold diskColors
  rw [List.filter_append, List.map_append, List.filter_singleton]
  by_cases same : event.key = key
  · simp [same]
  · simp [same, Ne.symm same]

/-- A row whose color stays is written. -/
theorem Agrees.put (agrees : Agrees volumes events)
    (same : volume.watermarkNotifiedColor = volumes.notified volume.key) :
    Agrees (volumes.put volume) events := by
  intro key
  rw [notified_put]
  split
  · next here =>
    subst here
    rw [same]
    exact agrees _
  · exact agrees key

/-- An event that is due is generated and its color is written. -/
theorem Agrees.send (agrees : Agrees volumes events) {event : DiskEvent}
    (own : event.key = volume.key) (color : volume.watermarkNotifiedColor = some event.color)
    (other : volumes.notified volume.key ≠ some event.color)
    (worth : event.color = .green → volumes.notified volume.key ≠ none) :
    Agrees (volumes.put volume) (events ++ [event]) := by
  intro key
  rw [notified_put, diskColors_snoc, own]
  split
  · next here =>
    subst here
    rw [color]
    exact (agrees _).send other worth
  · exact agrees key

/-- Volumes of an agent are set to inactive. -/
theorem Agrees.deactivate (agrees : Agrees volumes events) (agentid : Nat) :
    Agrees (volumes.deactivate agentid) events := by
  intro key
  rw [notified_deactivate]
  exact agrees key

end Rows

/-! ## A report -/

namespace DiskReport

variable (report : DiskReport)

/-- An event is generated and lets the report go on, or it is not generated at all, the report
ends with that, and no event was generated in it before. -/
def Tells (before : List DiskEvent) (disks : Disks) (event : DiskEvent) : Prop :=
  (unshown event = none ∧ report.gen event = .generated none) ∨
    (disks.events = before ∧ (unshown event ≠ none ∨
      ∃ failure, report.gen event = .raised failure ∨ report.gen event = .incomplete failure))

/-- The event that is due, if any, is told. An exception in its place comes before any event. -/
def TellsDue (before : List DiskEvent) (disks : Disks) :
    Except Failure (Option DiskEvent) → Prop
  | .error _ => disks.events = before
  | .ok due => ∀ event ∈ due, report.Tells before disks event

/-- A row with the color of the event that is due for it, if any. -/
def recolor (entry : Volume) (due : Option DiskEvent) : Volume :=
  { entry with
    watermarkNotifiedColor := (due.map DiskEvent.color).or entry.watermarkNotifiedColor }

/-- The database takes a row that exists, or refuses it before any event; then what is due is
told. -/
def UpdateTold (scan : Scan) (before : List DiskEvent) (disks : Disks) (volume : VolumeInfo)
    (found : Volume) : Prop :=
  (report.refuses (report.merge scan volume found) ≠ none → disks.events = before) ∧
    (report.refuses (report.merge scan volume found) = none →
      report.TellsDue before disks (report.due scan volume (report.merge scan volume found)
        (changes found.watermarkNotifiedColor)))

/-- What is due for a new row is told; then the database takes the row, or refuses it where there
was no event at all. -/
def AddTold (scan : Scan) (before : List DiskEvent) (disks : Disks) (volume : VolumeInfo) :
    Except Failure Volume → Prop
  | .error _ => disks.events = before
  | .ok entry =>
    let due := report.due scan volume entry fun color => color ≠ .green
    report.TellsDue before disks due ∧ ∀ event archive, due = .ok event →
      report.refuses (recolor { entry with archive := archive } event) ≠ none →
        disks.events = before ∧ event = none

/-- What a volume makes due, as the rows that the session sees are, is told. -/
def Told (scan : Scan) (before : List DiskEvent) (disks : Disks) (volume : VolumeInfo) : Prop :=
  match volume.name with
  | none => True
  | some named =>
    match report.nameOf named with
    | .error _ => disks.events = before
    | .ok name =>
      match disks.seen.lookup (report.agentid, name) with
      | some found => report.UpdateTold scan before disks volume found
      | none =>
        match volume.type with
        | none => True
        | some type => report.AddTold scan before disks volume (report.build scan volume name type)

/-- Every event that comes to be due in a report is told. -/
def Reliable (disks : Disks) : Prop :=
  ∀ dataDir ∈ report.paletteDataDir, ∀ scan, report.scan dataDir = .ok scan →
    Along (report.updateVolume scan) (report.Told scan disks.events) scan.volumes
      { disks with
        seen := disks.stored.deactivate report.agentid
        linuxArchiveVolumeFound := false }

end DiskReport

/-- What holds in a report with the events that were there before it: what the session sees
agrees with the events, and what is stored does if there are no others. -/
structure Scanning (before : List DiskEvent) (disks : Disks) : Prop where
  seen : Agrees disks.seen disks.events
  stored : disks.events = before → Agrees disks.stored disks.events
  earlier : before.length ≤ disks.events.length

section Reports

variable {report : DiskReport} {scan : Scan} {before : List DiskEvent} {disks : Disks}

/-- An event that is due is about the row and has a color that is worth one. -/
theorem due_eq_some {volume : VolumeInfo} {entry : Volume} {worth : Color → Bool}
    {event : DiskEvent} (due : report.due scan volume entry worth = .ok (some event)) :
    event.key = entry.key ∧ worth event.color = true := by
  unfold DiskReport.due at due
  split at due
  · dsimp only at due
    split at due
    · next worthy =>
      cases due
      exact ⟨rfl, worthy⟩
    · cases due
  · cases due
  · cases due

/-- A row of a report is announced: nothing else is done if no event is due, and otherwise the
event is generated. -/
theorem announce_ends {entry : Volume} {due : Option DiskEvent} (scanning : Scanning before disks)
    (told : ∀ event ∈ due, report.Tells before disks event) :
    (report.announce entry due).Ends disks
      (fun written final => written = DiskReport.recolor entry due ∧
        final = due.elim disks disks.generate)
      fun _ final => Agrees final.stored final.events := by
  cases due with
  | none => exact ⟨rfl, rfl⟩
  | some event =>
    unfold DiskReport.announce DiskReport.genDiskEvent
    rw [ends_bind]
    rcases told event rfl with ⟨shown, generated⟩ | ⟨same, unshown | ⟨failure, raised | incomplete⟩⟩
    · rw [shown]
      simp only [generated]
      exact ⟨rfl, rfl⟩
    · obtain ⟨failure, fails⟩ := Option.ne_none_iff_exists'.mp unshown
      rw [fails]
      exact scanning.stored same
    · cases shown : DiskReport.unshown event with
      | some other => exact scanning.stored same
      | none =>
        simp only [raised]
        exact scanning.stored same
    · cases shown : DiskReport.unshown event with
      | some other => exact scanning.stored same
      | none =>
        simp only [incomplete]
        exact scanning.seen

/-- A row is written with the color of the event that was due for it, or with the color that it
had. -/
theorem Scanning.write (scanning : Scanning before disks) {volume : Volume}
    {due : Option DiskEvent} (color : volume.watermarkNotifiedColor =
      (due.map DiskEvent.color).or (disks.seen.notified volume.key))
    (worth : ∀ event ∈ due, event.key = volume.key ∧
      disks.seen.notified volume.key ≠ some event.color ∧
        (event.color = .green → disks.seen.notified volume.key ≠ none)) :
    Scanning before ((due.elim disks disks.generate).put volume) := by
  cases due with
  | none => exact ⟨scanning.seen.put color, scanning.stored, scanning.earlier⟩
  | some event =>
    obtain ⟨own, other, okay⟩ := worth event rfl
    have longer : ((disks.generate event).put volume).events.length = disks.events.length + 1 :=
      List.length_append
    have earlier := scanning.earlier
    refine ⟨scanning.seen.send own color other okay, fun same => ?_, ?_⟩
    · have length : disks.events.length + 1 = before.length := longer.symm.trans (congrArg _ same)
      omega
    · exact longer ▸ Nat.le_succ_of_le earlier

/-- A color of an existing row is worth an event. -/
theorem changes_eq_true {notified : Option Color} {color : Color}
    (changes : DiskReport.changes notified color = true) :
    notified ≠ some color ∧ (color = .green → notified ≠ none) := by
  constructor
  · rintro rfl
    simp [DiskReport.changes] at changes
  · rintro rfl rfl
    simp [DiskReport.changes] at changes

/-- The color of a row that is found. -/
theorem notified_of_lookup {volumes : Volumes} {found : Volume}
    (stored : volumes.lookup found.key = some found) :
    volumes.notified found.key = found.watermarkNotifiedColor := by
  unfold Volumes.notified
  rw [stored]
  rfl

/-- A volume that has a row keeps the agreement. -/
theorem updateRow_ends {volume : VolumeInfo} {found : Volume}
    (stored : disks.seen.lookup found.key = some found)
    (told : report.UpdateTold scan before disks volume found) (scanning : Scanning before disks) :
    (report.updateRow scan volume found).Ends disks (fun _ final => Scanning before final)
      fun _ final => Agrees final.stored final.events := by
  have own : disks.seen.notified found.key = found.watermarkNotifiedColor :=
    notified_of_lookup stored
  have merged := @Scanning.write _ disks scanning (report.merge scan volume found) none own.symm
    fun _ due => by cases due
  have color : (disks.put (report.merge scan volume found)).seen.notified found.key =
      found.watermarkNotifiedColor := (notified_put found.key).trans (if_pos rfl)
  unfold DiskReport.updateRow DiskReport.store
  rw [ends_bind]
  cases refused : report.refuses (report.merge scan volume found) with
  | some failure => exact scanning.stored (told.1 (by simp [refused]))
  | none =>
    have due := told.2 refused
    have kept : (report.merge scan volume found).watermarkNotifiedColor =
        found.watermarkNotifiedColor := rfl
    dsimp only
    rw [ends_modify, ends_bind, ends_settle, kept]
    cases known : report.due scan volume (report.merge scan volume found)
        (DiskReport.changes found.watermarkNotifiedColor) with
    | error failure =>
      rw [known] at due
      exact merged.stored due
    | ok event =>
      rw [known] at due
      dsimp only
      rw [ends_bind]
      refine (announce_ends merged due).mono (fun written final announced => ?_) fun _ _ left => left
      obtain ⟨rfl, rfl⟩ := announced
      rw [ends_modify]
      refine merged.write (congrArg (Option.or _) color.symm) fun event worthy => ?_
      obtain ⟨same, worth⟩ := due_eq_some (known.trans (congrArg _ worthy))
      obtain ⟨other, okay⟩ := changes_eq_true worth
      exact ⟨same, fun equal => other (color.symm.trans equal), fun green equal =>
        okay green (color.symm.trans equal)⟩

/-- A new row on a disk of another system is the archive if none was found before. -/
theorem claimArchive_ends (entry : Volume) :
    (report.claimArchive entry).Ends disks
      (fun written final =>
        written = { entry with
          archive := entry.archive && (report.iswin || !disks.linuxArchiveVolumeFound) } ∧
        final = { disks with
          linuxArchiveVolumeFound :=
            disks.linuxArchiveVolumeFound || (entry.archive && !report.iswin) })
      fun _ _ => False := by
  unfold DiskReport.claimArchive
  cases archive : entry.archive with
  | false =>
    simp only [Bool.false_eq_true, false_and, ↓reduceIte, ends_pure, Bool.false_and,
      Bool.or_false, and_true]
    rw [← archive]
  | true =>
    cases windows : report.iswin with
    | true =>
      simp only [not_true_eq_false, and_false, ↓reduceIte, ends_pure, Bool.true_or, Bool.and_true,
        Bool.not_true, Bool.and_false, Bool.or_false, and_true]
      rw [← archive]
    | false =>
      simp only [Bool.false_eq_true, not_false_eq_true, and_self, ↓reduceIte]
      rw [ends_bind, ends_get]
      cases disks
      cases entry
      cases archive
      cases found : (Disks.mk _ _ _ _).linuxArchiveVolumeFound <;> cases found <;> exact ⟨rfl, rfl⟩

/-- What is built for a new row: its key, no color, and whether it may take archives. -/
theorem build_ok {volume : VolumeInfo} {name type : Option Files.Path} {entry : Volume}
    (built : report.build scan volume name type = .ok entry) :
    entry.key = (report.agentid, name) ∧ entry.watermarkNotifiedColor = none ∧
      report.archives name type = .ok entry.archive := by
  obtain ⟨archive, may, same⟩ := bind_eq_ok.mp built
  cases same
  exact ⟨rfl, rfl, may⟩

/-- A new row keeps the agreement. -/
theorem addRow_ends {volume : VolumeInfo} {name type : Option Files.Path}
    (absent : disks.seen.lookup (report.agentid, name) = none)
    (told : report.AddTold scan before disks volume (report.build scan volume name type))
    (scanning : Scanning before disks) :
    (report.addRow scan volume name type).Ends disks (fun _ final => Scanning before final)
      fun _ final => Agrees final.stored final.events := by
  unfold DiskReport.addRow
  rw [ends_bind, ends_settle]
  cases built : report.build scan volume name type with
  | error failure =>
    rw [built] at told
    exact scanning.stored told
  | ok entry =>
    rw [built] at told
    obtain ⟨tells, taken⟩ := told
    obtain ⟨key, fresh, -⟩ := build_ok built
    have nothing : disks.seen.notified entry.key = none := by
      unfold Volumes.notified
      rw [key, absent]
      rfl
    dsimp only
    rw [ends_bind]
    refine (claimArchive_ends entry).mono ?_ fun _ _ impossible => impossible.elim
    rintro _ _ ⟨rfl, rfl⟩
    generalize (entry.archive && (report.iswin || !disks.linuxArchiveVolumeFound)) = archive
    generalize (disks.linuxArchiveVolumeFound || (entry.archive && !report.iswin)) = found
    rw [ends_bind, ends_settle]
    have same : report.due scan volume { entry with archive := archive }
        (fun color => color ≠ .green) =
          report.due scan volume entry fun color => color ≠ .green := rfl
    rw [same]
    cases known : report.due scan volume entry fun color => color ≠ .green with
    | error failure =>
      rw [known] at tells
      exact scanning.stored tells
    | ok due =>
      rw [known] at tells
      have marked : Scanning before { disks with linuxArchiveVolumeFound := found } :=
        ⟨scanning.seen, scanning.stored, scanning.earlier⟩
      dsimp only
      rw [ends_bind]
      refine (announce_ends marked tells).mono (fun written final announced => ?_)
        fun _ _ left => left
      obtain ⟨rfl, rfl⟩ := announced
      unfold DiskReport.store
      cases refused : report.refuses
          (DiskReport.recolor { entry with archive := archive } due) with
      | some failure =>
        obtain ⟨earlier, rfl⟩ := taken due archive known (by simp [refused])
        exact scanning.stored earlier
      | none =>
        dsimp only
        rw [ends_modify]
        refine marked.write ?_ fun event worthy => ?_
        · exact congrArg (Option.or _) (fresh.trans nothing.symm)
        · obtain ⟨own, worth⟩ := due_eq_some (known.trans (congrArg _ worthy))
          have bad : event.color ≠ .green := of_decide_eq_true worth
          refine ⟨own, fun equal => ?_, fun green => absurd green bad⟩
          have known : none = some event.color := nothing.symm.trans equal
          cases known

/-- A volume keeps the agreement, and an exception leaves what is stored in agreement. -/
theorem updateVolume_ends {volume : VolumeInfo} (told : report.Told scan before disks volume)
    (scanning : Scanning before disks) :
    (report.updateVolume scan volume).Ends disks (fun _ final => Scanning before final)
      fun _ final => Agrees final.stored final.events := by
  unfold DiskReport.Told at told
  unfold DiskReport.updateVolume
  cases named : volume.name with
  | none => exact scanning
  | some given =>
    rw [named] at told
    dsimp only at told ⊢
    rw [ends_bind, ends_settle]
    cases called : report.nameOf given with
    | error failure =>
      rw [called] at told
      exact scanning.stored told
    | ok name =>
      rw [called] at told
      dsimp only at told ⊢
      rw [ends_bind, ends_get]
      cases looked : disks.seen.lookup (report.agentid, name) with
      | some found =>
        rw [looked] at told
        have key := ((Dictionary.lookup_eq_some _ _ _).mp looked).2
        exact updateRow_ends (key ▸ looked) told scanning
      | none =>
        rw [looked] at told
        dsimp only at told ⊢
        cases typed : volume.type with
        | none => exact scanning
        | some type =>
          rw [typed] at told
          exact addRow_ends looked told scanning

/-- What a report leaves agrees with the events. -/
theorem report_ends (reliable : report.Reliable disks) (agrees : Agrees disks.stored disks.events) :
    Agrees (Disks.next disks (.report report)).stored (Disks.next disks (.report report)).events := by
  have left : report.updateAgentPinfoVols.Ends disks.rollback
      (fun returned final => if returned.down then Agrees final.stored final.events
        else Agrees final.stored final.events ∧ Agrees final.seen final.events)
      fun _ final => Agrees final.stored final.events := by
    unfold DiskReport.updateAgentPinfoVols
    rw [ends_ite]
    split
    · rw [ends_bind, ends_modify]
      have inactive := agrees.deactivate report.agentid
      cases directory : report.paletteDataDir with
      | none => exact ⟨agrees, inactive⟩
      | some dataDir =>
        dsimp only
        rw [ends_bind, ends_settle]
        cases read : report.scan dataDir with
        | error failure => exact agrees
        | ok scan =>
          dsimp only
          rw [ends_bind, ends_modify, ends_bind]
          have each (middle : Disks) (volume : VolumeInfo)
              (told : report.Told scan disks.events middle volume)
              (scanning : Scanning disks.events middle) :
              (report.updateVolume scan volume).Ends middle
                (fun _ final => Scanning disks.events final)
                fun _ final => Agrees final.stored final.events := updateVolume_ends told scanning
          refine (Along.ends each (reliable dataDir directory scan read)
            ⟨inactive, fun _ => agrees, le_rfl⟩).mono (fun _ final scanning => ?_) fun _ _ left => left
          rw [ends_bind, ends_modify, ends_pure]
          exact scanning.seen
    · rw [ends_ite]
      split
      · exact agrees
      · exact ⟨agrees, agrees⟩
  unfold Ends at left
  simp only [Disks.next]
  split at left
  · next returned final outcome =>
    rw [outcome]
    rcases returned with ⟨_ | _⟩
    · have closed : Disks.close report (.ok ⟨false⟩, final) =
          if report.keeps then final.commit else final.rollback := rfl
      rw [closed]
      split
      · exact left.2
      · exact left.1
    · exact left
  · next failure final outcome =>
    rw [outcome]
    exact left

/-- The settings of a volume do not touch what was notified. -/
theorem archive_agrees (agrees : Agrees disks.stored disks.events) (key : Nat × Option Files.Path)
    (archive : Bool) (archiveLimit : Option Int) :
    Agrees (Disks.next disks (.archive key archive archiveLimit)).stored
      (Disks.next disks (.archive key archive archiveLimit)).events := by
  simp only [Disks.next]
  cases looked : disks.stored.lookup key with
  | none => exact agrees
  | some entry =>
    refine agrees.put ?_
    have same := ((Dictionary.lookup_eq_some _ _ _).mp looked).2
    have found : disks.stored.lookup entry.key = some entry := same ▸ looked
    have notified : disks.stored.notified entry.key = entry.watermarkNotifiedColor := by
      unfold Volumes.notified
      rw [found]
      rfl
    exact notified.symm

end Reports

/-! ## Runs -/

/-- Every event that comes to be due in a step is told. -/
def ReliableStep (disks : Disks) : DiskStep → Prop
  | .report report => report.Reliable disks
  | .archive _ _ _ => True

open Classical in
/-- The runs in which every event that comes to be due is told. -/
noncomputable def reliableDisks : Machine Disks DiskStep := diskMachine.restrict ReliableStep

/-- In these runs the rows that are committed agree with the events. -/
theorem reliableDisks_agree : reliableDisks.Invariant fun disks =>
    Agrees disks.stored disks.events where
  starts disks initial := by
    cases initial
    exact fun _ => .start
  preserved disks label next agrees stepped := by
    classical
    obtain ⟨reliable, accepted⟩ := Machine.restrict_step_eq_some.mp stepped
    cases accepted
    cases label with
    | report report => exact report_ends reliable agrees
    | archive key archive archiveLimit => exact archive_agrees agrees key archive archiveLimit

end Palette.Alerts
