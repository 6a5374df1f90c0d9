import Palette.Files.Kept

/-!
# What a rotation tries to delete

A rotation reads the scheduled files of a type, deletes the oldest ones beyond the number to be
retained, and does the same with the files that users asked for. It logs every file before it
deletes it. An error that a deletion reports is noted and the rotation goes on. An exception that
is no `IOError` ends it, and with it whatever was still to be deleted.
-/

namespace Palette.Files

open Palette.Commands (Failure)
open Palette.Foundation Script

/-! ## Rotating with a log -/

/-- The store, and the entries that were logged before they were deleted. -/
structure Rotating (Content : Type) where
  store : Store Content
  deleting : List FileEntry

/-- What a rotation does. -/
abbrev Rotation (Content : Type) := Script (Rotating Content) Failure

section Logging

variable {Content : Type} (retention : Retention)

/-- The body of the loop of `file_rotate`. -/
def deleteLogged (entry : FileEntry) : Rotation Content PUnit := do
  modify fun rotating => { rotating with deleting := rotating.deleting ++ [entry] }
  let _ ← within Rotating.store (fun rotating store => { rotating with store := store })
    (delfileByEntry retention entry)

/-- `Controller.file_rotate`, with what it logs. -/
def fileRotateLogged (retainCount : Int) (find : List FileEntry → List FileEntry) :
    Rotation Content PUnit := do
  let rotating ← get
  (outdated retainCount (find rotating.store.rows)).forM (deleteLogged retention)

/-- The rotation of the files of a type, with what it logs. -/
def rotateLogged (fileType : FileType) : Rotation Content PUnit := do
  fileRotateLogged retention retention.autoRetain (findByAutoEnvid retention fileType)
  fileRotateLogged retention retention.userRetain (findByNonAutoEnvid retention fileType)

/-- `Controller.rotate_ziplogs`. -/
def rotateZiplogs : Filing Content PUnit := do
  fileRotate retention retention.autoRetain (findByAutoEnvid retention .ziplog)
  fileRotate retention retention.userRetain (findByNonAutoEnvid retention .ziplog)

end Logging

/-! ## Without the log -/

section Forgetting

variable {Content Value Result : Type} {retention : Retention}

/-- A rotation does with the store what a script does, whatever it logs. -/
def Forgets (logged : Rotation Content Value) (plain : Filing Content Value) : Prop :=
  ∀ rotating, (logged.run.run rotating).1 = (plain.run.run rotating.store).1 ∧
    (logged.run.run rotating).2.store = (plain.run.run rotating.store).2

/-- Two scripts in a row do what the rotations do. -/
theorem Forgets.bind {logged : Rotation Content Value} {plain : Filing Content Value}
    {next : Value → Rotation Content Result} {plainNext : Value → Filing Content Result}
    (first : Forgets logged plain) (second : ∀ value, Forgets (next value) (plainNext value)) :
    Forgets (logged >>= next) (plain >>= plainNext) := by
  intro rotating
  obtain ⟨outcome, store⟩ := first rotating
  simp only [ExceptT.run_bind, StateT.run_bind]
  rcases ran : logged.run.run rotating with ⟨_ | value, middle⟩
  · rcases plainRan : plain.run.run rotating.store with ⟨_ | _, final⟩
    · rw [ran, plainRan] at outcome store
      cases outcome
      exact ⟨rfl, store⟩
    · rw [ran, plainRan] at outcome
      cases outcome
  · rcases plainRan : plain.run.run rotating.store with ⟨_ | other, final⟩
    · rw [ran, plainRan] at outcome
      cases outcome
    · rw [ran, plainRan] at outcome store
      cases outcome
      cases store
      exact second value middle

/-- A script on the store is what a rotation does with it. -/
theorem within_forgets (plain : Filing Content Value) :
    Forgets (within Rotating.store (fun rotating store => { rotating with store := store }) plain)
      plain :=
  fun _ => ⟨rfl, rfl⟩

/-- The body of the loop deletes the file. -/
theorem deleteLogged_forgets (entry : FileEntry) :
    Forgets (deleteLogged retention entry : Rotation Content PUnit) (do
      let _ ← delfileByEntry retention entry) := by
  have logs : Forgets (modify fun rotating : Rotating Content =>
      { rotating with deleting := rotating.deleting ++ [entry] }) (pure ⟨⟩) :=
    fun _ => ⟨rfl, rfl⟩
  have ends : Forgets (pure ⟨⟩ : Rotation Content PUnit) (pure ⟨⟩) := fun _ => ⟨rfl, rfl⟩
  exact logs.bind fun _ => (within_forgets (delfileByEntry retention entry)).bind fun _ => ends

/-- The loop deletes the files. -/
theorem forM_forgets (entries : List FileEntry) :
    Forgets (entries.forM (deleteLogged retention) : Rotation Content PUnit)
      (entries.forM fun entry => do
        let _ ← delfileByEntry retention entry) := by
  induction entries with
  | nil => exact fun _ => ⟨rfl, rfl⟩
  | cons entry rest inductionHypothesis =>
    rw [List.forM_eq_forM, List.forM_cons, List.forM_eq_forM, List.forM_cons]
    exact (deleteLogged_forgets entry).bind fun _ => inductionHypothesis

/-- Rotating the files of one class with a log is rotating them. -/
theorem fileRotateLogged_forgets (retainCount : Int) (find : List FileEntry → List FileEntry) :
    Forgets (fileRotateLogged retention retainCount find : Rotation Content PUnit)
      (fileRotate retention retainCount find) :=
  fun rotating => forM_forgets (outdated retainCount (find rotating.store.rows)) rotating

/-- Without its log, the rotation of backups is `rotate_backups`. -/
theorem rotateLogged_backups :
    Forgets (rotateLogged retention .backup : Rotation Content PUnit) (rotateBackups retention) :=
  (fileRotateLogged_forgets _ _).bind fun _ => fileRotateLogged_forgets _ _

/-- Without its log, the rotation of ziplogs is `rotate_ziplogs`. -/
theorem rotateLogged_ziplogs :
    Forgets (rotateLogged retention .ziplog : Rotation Content PUnit) (rotateZiplogs retention) :=
  (fileRotateLogged_forgets _ _).bind fun _ => fileRotateLogged_forgets _ _

end Forgetting

/-! ## Deletions that end a rotation -/

/-- Deleting what a row names raises an exception that is not noted. -/
def Aborts (retention : Retention) (entry : FileEntry) : Prop :=
  match entry.storageType with
  | .cloud => ∃ failure, (retention.deletionOf entry).inCloud = .error failure ∧
      failure.isIOError = false
  | .vol => (retention.volumes.byVolid entry.storageid).isSome = true ∧
      (retention.deletionOf entry).connected = true ∧
      (retention.deletionOf entry).onAgent.Raises

section Deleting

variable {Content : Type} {retention : Retention}

/-- What is not reported of an answer is raised. -/
theorem settle_reported {answer : Except Failure (Option String)} {store : Store Content}
    {returned : Option String → Store Content → Prop} {raised : Failure → Store Content → Prop}
    (onReturn : ∀ error, ¬ Files.Raises answer → (error = none ↔ answer = .ok none) →
      returned error store)
    (onRaise : ∀ failure, Files.Raises answer → raised failure store) :
    (settle (reported answer)).Ends store returned raised := by
  cases answer with
  | ok error =>
    refine onReturn error (fun raises => ?_) (by simp)
    obtain ⟨_, impossible, -⟩ := raises
    cases impossible
  | error failure =>
    cases caught : failure.isIOError with
    | true =>
      rw [reported, caught]
      refine onReturn _ (fun raises => ?_) (by simp)
      obtain ⟨_, same, other⟩ := raises
      cases same
      rw [caught] at other
      cases other
    | false =>
      rw [reported, caught]
      exact onRaise failure ⟨failure, rfl, caught⟩

/-- Deleting a file of an agent raises exactly if one of its requests does. -/
theorem deleteVolFile_raises (agentid : Nat) (path : Path) (deletion : Deletion)
    (store : Store Content) :
    (deleteVolFile agentid path deletion).Ends store (fun _ _ => ¬ deletion.Raises)
      fun _ _ => deletion.Raises := by
  unfold deleteVolFile
  rw [ends_bind]
  refine settle_reported (fun error quiet present => ?_) fun _ raises => Or.inl raises
  cases error with
  | some error =>
    have missing : deletion.filesize ≠ .ok none := fun there => by cases present.mpr there
    exact fun raises => raises.elim quiet fun later => missing later.1
  | none =>
    have there := present.mp rfl
    have rest (middle : Store Content) : (settle (reported deletion.delete)).Ends middle
        (fun _ _ => ¬ deletion.Raises) fun _ _ => deletion.Raises :=
      settle_reported (fun _ silent _ raises => raises.elim quiet fun later => silent later.2)
        fun _ raises => .inr ⟨there, raises⟩
    cases removes : deletion.removes with
    | true => exact rest _
    | false => exact rest _

/-- What the answer of a bucket leads to aborts if the answer is no input or output error. -/
theorem cloudAnswer_aborts (entry : FileEntry) (store : Store Content) :
    Ends (match (retention.deletionOf entry).inCloud with
      | .ok () => do
        remove retention entry.fileid
        return none
      | .error failure =>
        if failure.isIOError then return some failure.message else throw failure :
      Filing Content (Option String)) store
      (fun _ _ => ¬ ∃ failure, (retention.deletionOf entry).inCloud = .error failure ∧
        failure.isIOError = false)
      fun _ _ => ∃ failure, (retention.deletionOf entry).inCloud = .error failure ∧
        failure.isIOError = false := by
  cases answer : (retention.deletionOf entry).inCloud with
  | ok =>
    rintro ⟨_, impossible, _⟩
    cases impossible
  | error failure =>
    cases caught : failure.isIOError with
    | true =>
      simp only [caught, ↓reduceIte, ends_pure]
      rintro ⟨_, same, other⟩
      cases same
      rw [caught] at other
      cases other
    | false =>
      simp only [caught, Bool.false_eq_true, ↓reduceIte, ends_throw]
      exact ⟨failure, rfl, caught⟩

/-- Deleting a file raises exactly if its deletion is one that aborts. -/
theorem delfileByEntry_aborts (entry : FileEntry) (store : Store Content) :
    (delfileByEntry retention entry).Ends store (fun _ _ => ¬ Aborts retention entry)
      fun _ _ => Aborts retention entry := by
  unfold delfileByEntry Aborts
  cases entry.storageType with
  | cloud =>
    unfold delfileInCloud
    cases removes : (retention.deletionOf entry).removes with
    | true =>
      simp only [removes, ↓reduceIte]
      exact cloudAnswer_aborts entry _
    | false =>
      simp only [removes, Bool.false_eq_true, ↓reduceIte]
      exact cloudAnswer_aborts entry _
  | vol =>
    unfold delfileOnAgent
    cases found : retention.volumes.byVolid entry.storageid with
    | none => exact fun aborts => by cases aborts.1
    | some volume =>
      cases connected : (retention.deletionOf entry).connected with
      | false =>
        simp only [connected, Bool.false_eq_true, ↓reduceIte, ends_pure]
        exact fun aborts => aborts.2.1.elim
      | true =>
        simp only [connected, ↓reduceIte, ends_bind]
        refine (deleteVolFile_raises ..).mono (fun _ _ quiet aborts => quiet aborts.2.2)
          fun _ _ raises => ⟨rfl, trivial, raises⟩

/-- The body of the loop logs the entry and then deletes it. -/
theorem deleteLogged_ends (entry : FileEntry) (rotating : Rotating Content) :
    (deleteLogged retention entry).Ends rotating
      (fun _ final => ¬ Aborts retention entry ∧
        final.deleting = rotating.deleting ++ [entry] ∧
        Rotated retention [entry] rotating.store final.store)
      fun _ final => Aborts retention entry ∧
        final.deleting = rotating.deleting ++ [entry] := by
  unfold deleteLogged
  rw [ends_bind, ends_modify, ends_bind, ends_within]
  have both := (@delfileByEntry_aborts Content retention entry rotating.store).and
    (delfileByEntry_rotated entry rotating.store)
  exact both.mono (fun _ _ deleted => ⟨deleted.1, rfl, deleted.2⟩)
    fun _ _ raised => ⟨raised.1, rfl⟩

/-- The loop deletes the entries up to the first one whose deletion aborts. -/
theorem forM_deletes (entries : List FileEntry) (rotating : Rotating Content) :
    (entries.forM (deleteLogged retention)).Ends rotating
      (fun _ final => (∀ entry ∈ entries, ¬ Aborts retention entry) ∧
        final.deleting = rotating.deleting ++ entries ∧
        Rotated retention entries rotating.store final.store)
      fun _ final => ∃ deleted aborting rest, entries = deleted ++ aborting :: rest ∧
        (∀ entry ∈ deleted, ¬ Aborts retention entry) ∧ Aborts retention aborting ∧
        final.deleting = rotating.deleting ++ (deleted ++ [aborting]) := by
  induction entries generalizing rotating with
  | nil => exact ⟨by simp, by simp, .refl rotating.store⟩
  | cons entry rest inductionHypothesis =>
    rw [List.forM_eq_forM, List.forM_cons, ends_bind]
    refine (deleteLogged_ends entry rotating).mono (fun _ middle first => ?_) fun _ final raised => ?_
    · obtain ⟨calm, logged, rotated⟩ := first
      refine (inductionHypothesis middle).mono (fun _ final others => ?_) fun _ final raised => ?_
      · obtain ⟨calmOthers, loggedOthers, rotatedOthers⟩ := others
        refine ⟨List.forall_mem_cons.mpr ⟨calm, calmOthers⟩, ?_, rotated.trans rotatedOthers⟩
        rw [loggedOthers, logged, List.append_assoc, List.singleton_append]
      · obtain ⟨deleted, aborting, left, split, calmDeleted, aborts, loggedOthers⟩ := raised
        refine ⟨entry :: deleted, aborting, left, by rw [split, List.cons_append],
          List.forall_mem_cons.mpr ⟨calm, calmDeleted⟩, aborts, ?_⟩
        rw [loggedOthers, logged, List.append_assoc, List.singleton_append, List.cons_append]
    · exact ⟨[], entry, rest, rfl, by simp, raised.1, raised.2⟩

/-! ## The oldest files -/

/-- A scheduled file of the environment. One without a mark counts as scheduled. -/
def isScheduled (retention : Retention) (fileType : FileType) (row : FileEntry) : Bool :=
  row.envid = retention.envid && row.fileType = fileType && row.auto ≠ some false

/-- A file of the environment that a user asked for. -/
def isRequested (retention : Retention) (fileType : FileType) (row : FileEntry) : Bool :=
  row.envid = retention.envid && row.fileType = fileType && row.auto = some false

/-- Files are the oldest ones of a class, as many as there are beyond the number to be retained.
Minus one retains them all. -/
structure Oldest (belongs : FileEntry → Bool) (retainCount : Int) (rows tried : List FileEntry) :
    Prop where
  belong : ∀ entry ∈ tried, entry ∈ rows ∧ belongs entry = true
  once : tried.Nodup
  number : (tried.length : Int) =
    if retainCount = -1 then 0 else max 0 ((rows.countP belongs : Int) - retainCount)
  oldest : ∀ entry ∈ tried, ∀ other ∈ rows, belongs other = true → other ∉ tried →
    entry.creationTime ≤ other.creationTime

/-- The number of the rows that are deleted of those that were found. -/
theorem length_outdated {retainCount : Int} (least : -1 ≤ retainCount) (rows : List FileEntry) :
    ((outdated retainCount rows).length : Int) =
      if retainCount = -1 then 0 else max 0 ((rows.length : Int) - retainCount) := by
  unfold outdated
  split
  · rfl
  · rw [List.length_take]
    omega

/-- The rows that are deleted of those that were found are the oldest ones. -/
theorem outdated_oldest (rowOrder : RowOrder) (belongs : FileEntry → Bool) {retainCount : Int}
    (least : -1 ≤ retainCount) {rows : List FileEntry} (once : rows.Nodup) :
    Oldest belongs retainCount rows
      (outdated retainCount (rowOrder.order (rows.filter belongs))) := by
  have same := rowOrder.permutes (rows.filter belongs)
  have found (entry : FileEntry) : entry ∈ rowOrder.order (rows.filter belongs) ↔
      entry ∈ rows ∧ belongs entry = true := same.mem_iff.trans List.mem_filter
  refine ⟨fun entry listed => (found entry).mp (mem_of_outdated listed), ?_, ?_, ?_⟩
  · unfold outdated
    split
    · exact List.nodup_nil
    · exact (same.nodup_iff.mpr (once.filter _)).sublist (List.take_sublist _ _)
  · rw [length_outdated least, same.length_eq, List.countP_eq_length_filter]
  · intro entry listed other stored belongsOther spared
    have present := (found other).mpr ⟨stored, belongsOther⟩
    unfold outdated at listed spared
    split at listed
    · cases listed
    · rw [if_neg ‹_›] at spared
      have split := List.take_append_drop
        ((rowOrder.order (rows.filter belongs)).length - retainCount).toNat
        (rowOrder.order (rows.filter belongs))
      rw [← split] at present
      have behind := (List.mem_append.mp present).resolve_left spared
      have sorted := rowOrder.sorted (rows.filter belongs)
      rw [← split] at sorted
      exact (List.pairwise_append.mp sorted).2.2 entry listed other behind

/-- The files of a type that a rotation is to delete. -/
def victimsOf (retention : Retention) (fileType : FileType) (rows : List FileEntry) :
    List FileEntry :=
  outdated retention.autoRetain (findByAutoEnvid retention fileType rows) ++
    outdated retention.userRetain (findByNonAutoEnvid retention fileType rows)

/-- A rotation deletes its files up to the first one whose deletion aborts. -/
theorem rotateLogged_ends (fileType : FileType) (rotating : Rotating Content) :
    (rotateLogged retention fileType).Ends rotating
      (fun _ final => (∀ entry ∈ victimsOf retention fileType rotating.store.rows,
          ¬ Aborts retention entry) ∧
        final.deleting = rotating.deleting ++ victimsOf retention fileType rotating.store.rows ∧
        Rotated retention (victimsOf retention fileType rotating.store.rows) rotating.store
          final.store)
      fun _ final => ∃ deleted aborting rest,
        victimsOf retention fileType rotating.store.rows = deleted ++ aborting :: rest ∧
        (∀ entry ∈ deleted, ¬ Aborts retention entry) ∧ Aborts retention aborting ∧
        final.deleting = rotating.deleting ++ (deleted ++ [aborting]) := by
  unfold rotateLogged fileRotateLogged victimsOf
  simp only [ends_bind, ends_get]
  refine (forM_deletes _ rotating).mono (fun _ middle first => ?_) fun _ final raised => ?_
  · obtain ⟨calm, logged, rotated⟩ := first
    have others := findByNonAutoEnvid_rotated (fun entry deleted =>
      findByAutoEnvid_mem (mem_of_outdated deleted)) rotated fileType
    rw [others]
    refine (forM_deletes _ middle).mono (fun _ final second => ?_) fun _ final raised => ?_
    · obtain ⟨calmOthers, loggedOthers, rotatedOthers⟩ := second
      refine ⟨fun entry listed => (List.mem_append.mp listed).elim (calm entry)
        (calmOthers entry), ?_, rotated.trans rotatedOthers⟩
      rw [loggedOthers, logged, List.append_assoc]
    · obtain ⟨deleted, aborting, rest, split, calmDeleted, aborts, loggedOthers⟩ := raised
      refine ⟨_ ++ deleted, aborting, rest, by rw [split, List.append_assoc],
        fun entry listed => (List.mem_append.mp listed).elim (calm entry)
          (calmDeleted entry), aborts, ?_⟩
      rw [loggedOthers, logged, List.append_assoc, List.append_assoc]
  · obtain ⟨deleted, aborting, rest, split, calmDeleted, aborts, logged⟩ := raised
    exact ⟨deleted, aborting, rest ++ _, by rw [split, List.append_assoc, List.cons_append],
      calmDeleted, aborts, logged⟩

/-- The rows of a catalogue are different. -/
theorem nodup_rows (store : Store Content) : store.rows.Nodup :=
  List.Nodup.of_map _ store.catalogue.distinct

/-- What a rotation is to delete are the oldest scheduled files and the oldest other ones. -/
theorem victimsOf_oldest (auto : -1 ≤ retention.autoRetain) (user : -1 ≤ retention.userRetain)
    (fileType : FileType) (store : Store Content) :
    ∃ scheduled requested, victimsOf retention fileType store.rows = scheduled ++ requested ∧
      Oldest (isScheduled retention fileType) retention.autoRetain store.rows scheduled ∧
      Oldest (isRequested retention fileType) retention.userRetain store.rows requested :=
  ⟨_, _, rfl, outdated_oldest retention.rowOrder _ auto (nodup_rows store),
    outdated_oldest retention.rowOrder _ user (nodup_rows store)⟩

/-- Where the oldest rows of a class are gone, nothing more is to be deleted. -/
theorem outdated_left (rowOrder again : RowOrder) (belongs : FileEntry → Bool) {retainCount : Int}
    (least : -1 ≤ retainCount) {before after : List FileEntry} (once : after.Nodup)
    (left : ∀ row ∈ after, belongs row = true → row ∈ before ∧
      row ∉ outdated retainCount (rowOrder.order (before.filter belongs))) :
    outdated retainCount (again.order (after.filter belongs)) = [] := by
  unfold outdated
  split
  · rfl
  next counted =>
    rw [List.take_eq_nil_iff, (again.permutes _).length_eq]
    refine .inl ?_
    have spared : after.filter belongs ⊆ (rowOrder.order (before.filter belongs)).drop
        ((rowOrder.order (before.filter belongs)).length - retainCount).toNat := by
      intro row listed
      obtain ⟨stored, member⟩ := List.mem_filter.mp listed
      obtain ⟨earlier, untried⟩ := left row stored member
      rw [outdated, if_neg counted] at untried
      have found := (rowOrder.permutes _).mem_iff.mpr (List.mem_filter.mpr ⟨earlier, member⟩)
      rw [← List.take_append_drop ((rowOrder.order (before.filter belongs)).length -
        retainCount).toNat (rowOrder.order (before.filter belongs))] at found
      exact (List.mem_append.mp found).resolve_left untried
    have shorter := (List.subperm_of_subset (once.filter belongs) spared).length_le
    rw [List.length_drop] at shorter
    omega

/-- A rotation that has nothing to delete changes nothing. -/
theorem rotateLogged_nothing {fileType : FileType} {store : Store Content}
    (scheduled : outdated retention.autoRetain (findByAutoEnvid retention fileType store.rows) = [])
    (requested : outdated retention.userRetain
      (findByNonAutoEnvid retention fileType store.rows) = []) :
    (rotateLogged retention fileType).run.run (⟨store, []⟩ : Rotating Content) =
      (.ok ⟨⟩, ⟨store, []⟩) := by
  have first : (fileRotateLogged retention retention.autoRetain
      (findByAutoEnvid retention fileType)).run.run (⟨store, []⟩ : Rotating Content) =
        (.ok ⟨⟩, ⟨store, []⟩) := by
    unfold fileRotateLogged
    simp only [ExceptT.run_bind, StateT.run_bind]
    exact congrArg (fun entries => ((List.forM entries (deleteLogged retention)).run.run
      (⟨store, []⟩ : Rotating Content))) scheduled
  have second : (fileRotateLogged retention retention.userRetain
      (findByNonAutoEnvid retention fileType)).run.run (⟨store, []⟩ : Rotating Content) =
        (.ok ⟨⟩, ⟨store, []⟩) := by
    unfold fileRotateLogged
    simp only [ExceptT.run_bind, StateT.run_bind]
    exact congrArg (fun entries => ((List.forM entries (deleteLogged retention)).run.run
      (⟨store, []⟩ : Rotating Content))) requested
  unfold rotateLogged
  simp only [ExceptT.run_bind, StateT.run_bind, first]
  exact second

end Deleting

/-! ## The claim -/

/-- A later rotation with the same numbers to retain. -/
structure Repeats (retention again : Retention) : Prop where
  envid : again.envid = retention.envid
  autoRetain : again.autoRetain = retention.autoRetain
  userRetain : again.userRetain = retention.userRetain

/-- A rotation deletes the oldest files. -/
structure RotatesOldest {Content : Type} (retention : Retention) (fileType : FileType)
    (store : Store Content) (rotated : Rotating Content) : Prop where
  tries : ∃ scheduled requested, rotated.deleting = scheduled ++ requested ∧
    Oldest (isScheduled retention fileType) retention.autoRetain store.rows scheduled ∧
    Oldest (isRequested retention fileType) retention.userRetain store.rows requested
  leaves : (∀ entry ∈ rotated.deleting, Unlists retention entry ∧ ¬ Aborts retention entry) →
    (∀ row, row ∈ rotated.store.rows ↔ row ∈ store.rows ∧ row ∉ rotated.deleting) ∧
      ∀ again, Repeats retention again →
        (rotateLogged again fileType).run.run (⟨rotated.store, []⟩ : Rotating Content) =
          (.ok ⟨⟩, ⟨rotated.store, []⟩)

section Claim

variable {Content : Type} {retention : Retention} {fileType : FileType}

/-- Where all files were deleted, the rest is left and nothing is to be deleted again. -/
theorem leaves_rest (auto : -1 ≤ retention.autoRetain) (user : -1 ≤ retention.userRetain)
    {store final : Store Content}
    (rotated : Rotated retention (victimsOf retention fileType store.rows) store final)
    (unlisted : ∀ entry ∈ victimsOf retention fileType store.rows, Unlists retention entry) :
    (∀ row, row ∈ final.rows ↔
        row ∈ store.rows ∧ row ∉ victimsOf retention fileType store.rows) ∧
      ∀ again, Repeats retention again →
        (rotateLogged again fileType).run.run (⟨final, []⟩ : Rotating Content) =
          (.ok ⟨⟩, ⟨final, []⟩) := by
  have own {entry : FileEntry} (listed : entry ∈ victimsOf retention fileType store.rows) :
      entry ∈ store.rows ∧ entry.envid = retention.envid := by
    obtain ⟨scheduled, requested, split, first, second⟩ :=
      victimsOf_oldest auto user fileType store
    rw [split] at listed
    rcases List.mem_append.mp listed with inFirst | inSecond
    · have belongs := first.belong entry inFirst
      simp only [isScheduled, Bool.and_eq_true, decide_eq_true_eq] at belongs
      exact ⟨belongs.1, belongs.2.1.1⟩
    · have belongs := second.belong entry inSecond
      simp only [isRequested, Bool.and_eq_true, decide_eq_true_eq] at belongs
      exact ⟨belongs.1, belongs.2.1.1⟩
  have rest (row : FileEntry) : row ∈ final.rows ↔
      row ∈ store.rows ∧ row ∉ victimsOf retention fileType store.rows := by
    rw [rotated.mem_rows]
    refine and_congr_right fun stored => not_congr ?_
    constructor
    · rintro ⟨victim, listed, -, -, same⟩
      have itself := store.catalogue.row_unique (own listed).1 stored same.symm
      exact itself ▸ listed
    · exact fun listed => ⟨row, listed, unlisted row listed, (own listed).2, rfl⟩
  refine ⟨rest, fun again repeats => ?_⟩
  have scheduledAgain : isScheduled again fileType = isScheduled retention fileType := by
    funext row
    simp only [isScheduled, repeats.envid]
  have requestedAgain : isRequested again fileType = isRequested retention fileType := by
    funext row
    simp only [isRequested, repeats.envid]
  refine rotateLogged_nothing ?_ ?_
  · rw [repeats.autoRetain]
    have left := outdated_left retention.rowOrder again.rowOrder (isScheduled retention fileType)
      auto (nodup_rows final) fun row stored _ => by
        obtain ⟨earlier, untried⟩ := (rest row).mp stored
        exact ⟨earlier, fun listed => untried (List.mem_append_left _ listed)⟩
    rw [← scheduledAgain] at left
    exact left
  · rw [repeats.userRetain]
    have left := outdated_left retention.rowOrder again.rowOrder (isRequested retention fileType)
      user (nodup_rows final) fun row stored _ => by
        obtain ⟨earlier, untried⟩ := (rest row).mp stored
        exact ⟨earlier, fun listed => untried (List.mem_append_right _ listed)⟩
    rw [← requestedAgain] at left
    exact left

/-- A rotation deletes the oldest files if and only if no deletion but the last one aborts. -/
theorem rotates_oldest_iff (auto : -1 ≤ retention.autoRetain) (user : -1 ≤ retention.userRetain)
    (store : Store Content) :
    RotatesOldest retention fileType store
        ((rotateLogged retention fileType).run.run ⟨store, []⟩).2 ↔
      ∀ entry ∈ (victimsOf retention fileType store.rows).dropLast, ¬ Aborts retention entry := by
  have ends := @rotateLogged_ends Content retention fileType ⟨store, []⟩
  have oldest := victimsOf_oldest auto user fileType store
  unfold Ends at ends
  split at ends
  · next _ final ran =>
    obtain ⟨calm, logged, rotated⟩ := ends
    simp only [List.nil_append] at logged
    rw [ran]
    refine iff_of_true ⟨logged ▸ oldest, fun deleted => ?_⟩ fun entry listed =>
      calm entry (List.dropLast_subset _ listed)
    rw [logged] at deleted ⊢
    exact leaves_rest auto user rotated fun entry listed => (deleted entry listed).1
  · next _ final ran =>
    obtain ⟨deleted, aborting, rest, split, calm, aborts, logged⟩ := ends
    simp only [List.nil_append] at logged split
    rw [ran]
    have unfinished : ¬ ∀ entry ∈ final.deleting, Unlists retention entry ∧
        ¬ Aborts retention entry := fun all =>
      (all aborting (by simp [logged])).2 aborts
    constructor
    · rintro ⟨⟨scheduled, requested, tried, first, second⟩, -⟩
      obtain ⟨ownScheduled, ownRequested, own, ownFirst, ownSecond⟩ := oldest
      have lengths : final.deleting.length = (victimsOf retention fileType store.rows).length := by
        have scheduledLength := first.number.trans ownFirst.number.symm
        have requestedLength := second.number.trans ownSecond.number.symm
        rw [tried, own, List.length_append, List.length_append]
        omega
      have last : rest = [] := by
        rw [logged, split] at lengths
        simpa using lengths
      rw [split, last, List.dropLast_concat]
      exact calm
    · intro quiet
      have last : rest = [] := by
        by_contra more
        refine quiet aborting ?_ aborts
        rw [split, List.dropLast_append_of_ne_nil (List.cons_ne_nil _ _),
          List.dropLast_cons_of_ne_nil more]
        simp
      rw [last] at split
      exact ⟨by rw [logged, ← split]; exact oldest, fun all => absurd all unfinished⟩

end Claim

/-! ## Two scheduled backups in a cloud -/

/-- Two scheduled backups in a cloud, none of which is to be retained. -/
def cloudBackups : Store Nat :=
  ⟨fun _ => none, (Catalogue.empty.add
    ⟨1, "first.tsbak".toList, .backup, .cloud, 1, 0, true, 0⟩).add
      ⟨1, "second.tsbak".toList, .backup, .cloud, 1, 0, true, 1⟩⟩

/-- Deleting in the cloud raises an exception that is no `IOError`. -/
def uncertified : Retention :=
  { retaining 0 with
    deletionOf := fun _ => ⟨true, ⟨.ok none, true, .ok none⟩, false,
      .error ⟨.valueError, "hostname doesn't match the certificate"⟩⟩ }

/-- After such an exception the second backup is not deleted. -/
theorem uncertified_stops :
    ¬ ∀ (retention : Retention) (fileType : FileType) (store : Store Nat),
      -1 ≤ retention.autoRetain → -1 ≤ retention.userRetain →
      RotatesOldest retention fileType store
        ((rotateLogged retention fileType).run.run ⟨store, []⟩).2 := by
  intro always
  obtain ⟨⟨scheduled, requested, tried, first, -⟩, -⟩ :=
    always uncertified .backup cloudBackups (by decide) (by decide)
  have one : scheduled.length + requested.length = 1 := by
    rw [← List.length_append, ← tried]
    decide +kernel
  have two : (scheduled.length : Int) = 2 := first.number
  omega

/-- Where all deletions succeed, both backups are deleted. -/
theorem cloudBackups_rotated :
    RotatesOldest (retaining 0) .backup cloudBackups
      ((rotateLogged (retaining 0) .backup).run.run ⟨cloudBackups, []⟩).2 := by
  refine (rotates_oldest_iff (by decide) (by decide) cloudBackups).mpr fun entry _ aborts => ?_
  unfold Aborts at aborts
  cases stored : entry.storageType with
  | cloud =>
    rw [stored] at aborts
    obtain ⟨_, impossible, -⟩ := aborts
    cases impossible
  | vol =>
    rw [stored] at aborts
    rcases aborts.2.2 with ⟨_, impossible, -⟩ | ⟨-, _, impossible, -⟩
    · cases impossible
    · cases impossible

end Palette.Files
