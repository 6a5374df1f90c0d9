import Mathlib.Data.Option.NAry
import Palette.Commands.Reply
import Palette.Foundation.Paging
import Palette.Foundation.Sql

/-!
# Room on a volume

Two checks ask whether a volume has room for a file. For a staging directory the database is
searched for a volume of an agent, and conditions on NULL are unknown there. For the configured
volume the row is read and compared in Python, where `None` is below every number and cannot be
subtracted or shown as a size.

The search wants what is in use afterwards to stay below the limit, and the other check lets it
reach the limit.
-/

namespace Palette.Files.Space

open Palette.Commands (Failure Value)
open Palette.Foundation
open Palette.Foundation.Sql (Truth equal selects)

/-! ## Tables -/

/-- A row of `agent_volumes`. Every volume belongs to an agent. -/
structure Volume where
  volid : Int
  agentid : Int
  name : Option String
  path : Option String
  label : Option String
  volType : Option String
  archive : Option Bool
  active : Option Bool
  size : Option Int
  availableSpace : Option Int
  archiveLimit : Option Int
  priority : Option Int
  deriving DecidableEq, Repr

/-- A row of `agent`. -/
structure AgentRow where
  agentid : Int
  displayname : Option String
  enabled : Bool
  deriving DecidableEq, Repr

/-- The tables. The order of the volumes is the one in which the database finds them. -/
structure Tables where
  volumes : List Volume
  agents : List AgentRow

/-! ## The search -/

/-- `size - available_space + needed`, which is NULL where a part of it is. -/
def Volume.afterwards (volume : Volume) (needed : Int) : Option Int :=
  Option.map₂ (fun size available => size - available + needed) volume.size volume.availableSpace

/-- The filters of `has_available_space` on a row. -/
def filters (agentid needed : Int) (volume : Volume) : List Truth :=
  [equal (some volume.agentid) (some agentid),
    equal volume.volType (some "Fixed"),
    equal volume.archive (some true),
    equal volume.active (some true),
    volume.availableSpace.map fun available => decide (available ≥ needed),
    Option.map₂ (fun used limit => decide (used < limit)) (volume.afterwards needed)
      volume.archiveLimit]

/-- A row passes the filters. -/
def accepts (agentid needed : Int) (volume : Volume) : Bool :=
  (filters agentid needed volume).all selects

/-- `ORDER BY priority DESC`: NULL is above all numbers. -/
def goesFirst (volume other : Volume) : Bool :=
  match volume.priority, other.priority with
  | none, _ => true
  | some _, none => false
  | some own, some priority => priority ≤ own

/-- `has_available_space`. -/
def hasAvailableSpace (tables : Tables) (agentid needed : Int) : Option Volume :=
  ((tables.volumes.filter (accepts agentid needed)).insertionSort
    fun volume other => goesFirst volume other = true).head?

/-! ## The check of the configured volume -/

/-- `left < right` in Python: `None` is below every number. -/
def less : Option Int → Option Int → Bool
  | _, none => false
  | none, some _ => true
  | some left, some right => left < right

/-- `left - right` in Python. -/
def minus : Option Int → Option Int → Except Failure Int
  | some left, some right => .ok (left - right)
  | _, _ => .error ⟨.typeError, "unsupported operand type(s) for -"⟩

/-- `'%s' % text`. -/
def shown (text : Option String) : String := text.getD "None"

/-- `left + right` for texts. -/
def concat : Option String → String → Except Failure String
  | some left, right => .ok (left ++ right)
  | none, _ => .error ⟨.typeError, "unsupported operand type(s) for +"⟩

/-- A column as a value. -/
def stored : Option Int → Value
  | none => .null
  | some number => .number number

/-- The refusal for lack of room. -/
def notEnough (volume : Volume) (displayname : Option String) (available need : String) :
    Failure :=
  ⟨.diskException, "Not enough available space on '" ++ shown displayname ++ "' volume '" ++
    shown volume.name ++ "' volid " ++ toString volume.volid ++ ": Available space: " ++
    available ++ ", needed: " ++ need⟩

/-- The refusal because of the limit. -/
def aboveLimit (volume : Volume) (need size afterwards limit available : String) : Failure :=
  ⟨.diskException, "Minimum space needed greater than archive limit." ++ "volid: " ++
    toString volume.volid ++ ". Need: " ++ need ++ ". Size: " ++ size ++
    ". With vol would have: " ++ afterwards ++ ". Allowed/archive limit: " ++ limit ++
    ". Volume name: " ++ shown volume.name ++ ". Volume label: " ++ shown volume.label ++
    ". Volume available: " ++ available⟩

section Checks

/-! How `sizestr` writes a number with its unit is a parameter. -/

variable (sizeText : Int → String)

/-- `sizestr`. -/
def sizestr (size : Option Int) : Except Failure String := do
  (stored size).sizestr
  return sizeText (size.getD 0)

/-- The part of `_config_vol_target` that looks at the room on the volume. -/
def checkSpace (volume : Volume) (displayname : Option String) (needed : Int) :
    Except Failure Unit := do
  if less volume.availableSpace (some needed) then
    let available ← sizestr sizeText volume.availableSpace
    let need ← sizestr sizeText (some needed)
    throw (notEnough volume displayname available need)
  let used ← minus volume.size volume.availableSpace
  if less volume.archiveLimit (some (used + needed)) then
    let need ← sizestr sizeText (some needed)
    let size ← sizestr sizeText volume.size
    let afterwards ← sizestr sizeText (some (used + needed))
    let limit ← sizestr sizeText volume.archiveLimit
    let available ← sizestr sizeText volume.availableSpace
    throw (aboveLimit volume need size afterwards limit available)

/-- The directory on a volume: `name + ":" + path + "\\" + parent_dir`. -/
def directory (volume : Volume) (parentDir : String) : Except Failure String := do
  let drive ← concat volume.name ":"
  match volume.path with
  | none => throw ⟨.typeError, "cannot concatenate 'str' and 'NoneType' objects"⟩
  | some path => return drive ++ path ++ "\\" ++ parentDir

/-- `get_primary_loc`. -/
def getPrimaryLoc (tables : Tables) (agentid : Int) (parentDir : String) (needed : Int) :
    Except Failure (String × Volume) :=
  match hasAvailableSpace tables agentid needed with
  | some volume => do
    let primaryDir ← directory volume parentDir
    return (primaryDir, volume)
  | none => throw ⟨.diskException, "There is not enough disk space on any volumes on the " ++
      "Tableau Primary to temporarily hold the file for this operation."⟩

/-- What `_config_vol_target` sets. -/
structure Target where
  targetEntry : Volume
  targetAgent : AgentRow
  targetDir : String
  primaryDir : String
  primaryEntry : Volume
  primaryFinalDest : Bool

/-- `_config_vol_target` for the agent on which the command runs. The message at the end shows
the sizes again. -/
def configVolTarget (tables : Tables) (backupDestId : Int) (agentid : Int) (parentDir : String)
    (needed : Int) : Except Failure Target := do
  let some entry := tables.volumes.find? fun volume => volume.volid = backupDestId
    | throw ⟨.diskException, "volid not found: " ++ toString backupDestId⟩
  let some targetAgent := tables.agents.find? fun agent => agent.agentid = entry.agentid
    | throw ⟨.diskException, "No such agentid " ++ toString entry.agentid ++
        " referenced by volid " ++ toString entry.volid ++ " in backupid " ++
        toString backupDestId⟩
  if !targetAgent.enabled then
    throw ⟨.diskException, "Cannot save to Storage Location on agent '" ++
      shown targetAgent.displayname ++ "': agent is disabled."⟩
  checkSpace sizeText entry targetAgent.displayname needed
  let targetDir ← directory entry parentDir
  let (primaryDir, primaryEntry) ←
    if targetAgent.agentid = agentid then pure (targetDir, entry)
    else getPrimaryLoc tables agentid parentDir needed
  let _ ← sizestr sizeText (some needed)
  let _ ← sizestr sizeText entry.availableSpace
  let _ ← sizestr sizeText entry.size
  let _ ← sizestr sizeText entry.archiveLimit
  return { targetEntry := entry, targetAgent, targetDir, primaryDir, primaryEntry,
           primaryFinalDest := targetAgent.agentid = agentid }

end Checks

/-! ## The search finds the first -/

section Searching

variable {tables : Tables} {volume : Volume} {agentid needed : Int}

/-- What a search among rows with a condition returns: a row that goes before all the others that
meet the condition, or none where no row meets it. -/
def IsFirst (meets : Volume → Bool) (volumes : List Volume) : Option Volume → Prop
  | none => ∀ volume ∈ volumes, meets volume = false
  | some volume => volume ∈ volumes ∧ meets volume = true ∧
      ∀ other ∈ volumes, meets other = true → goesFirst volume other = true

/-- The rows can be sorted by their priorities. -/
theorem goesFirst_preorder : Paging.Preorder goesFirst where
  total volume other := by
    unfold goesFirst
    cases volume.priority <;> cases other.priority <;> simp [le_total]
  trans volume middle other first second := by
    unfold goesFirst at *
    cases own : volume.priority with
    | none => rfl
    | some priority =>
      cases between : middle.priority with
      | none => simp [own, between] at first
      | some next =>
        cases last : other.priority with
        | none => simp [between, last] at second
        | some lowest =>
          have upper : next ≤ priority := by simpa [own, between] using first
          have lower : lowest ≤ next := by simpa [between, last] using second
          simpa using lower.trans upper

/-- `has_available_space` returns a row of maximal priority among those that pass its filters. -/
theorem hasAvailableSpace_isFirst :
    IsFirst (accepts agentid needed) tables.volumes (hasAvailableSpace tables agentid needed) := by
  have sorted := goesFirst_preorder.ordered_insertionSort
    (tables.volumes.filter (accepts agentid needed))
  unfold hasAvailableSpace
  cases arranged : (tables.volumes.filter (accepts agentid needed)).insertionSort
      fun volume other => goesFirst volume other = true with
  | nil =>
    rw [arranged] at sorted
    have empty := sorted.perm.nil_eq
    intro volume listed
    by_contra passes
    have kept : volume ∈ tables.volumes.filter (accepts agentid needed) :=
      List.mem_filter.mpr ⟨listed, by simpa using passes⟩
    rw [← empty] at kept
    cases kept
  | cons volume rest =>
    rw [arranged] at sorted
    have kept := List.mem_filter.mp (sorted.perm.mem_iff.mp List.mem_cons_self)
    refine ⟨kept.1, kept.2, fun other listed passes => ?_⟩
    have among : other ∈ volume :: rest :=
      sorted.perm.mem_iff.mpr (List.mem_filter.mpr ⟨listed, passes⟩)
    rcases List.mem_cons.mp among with rfl | behind
    · exact goesFirst_preorder.refl other
    · exact List.rel_of_pairwise_cons sorted.sorted behind

end Searching

/-! ## The two checks -/

/-- A size of the row is NULL. -/
def Volume.HasNull (volume : Volume) : Prop :=
  volume.size = none ∨ volume.availableSpace = none ∨ volume.archiveLimit = none

/-- The row is of the kind that the search is for. -/
structure Volume.IsArchive (volume : Volume) : Prop where
  fixed : volume.volType = some "Fixed"
  archive : volume.archive = some true
  active : volume.active = some true

/-- The row has the sizes that are compared, and the limit is not reached exactly. Where there is
not enough room to begin with, the other sizes may be missing. -/
def Volume.IsDecided (volume : Volume) (needed : Int) : Prop :=
  ∃ available, volume.availableSpace = some available ∧
    if available < needed then 0 ≤ available ∨ ¬ volume.HasNull
    else ∃ size limit, volume.size = some size ∧ volume.archiveLimit = some limit ∧
      size - available + needed ≠ limit

section Agreement

variable (sizeText : Int → String) (tables : Tables) (volume : Volume)
  (displayname : Option String) (needed : Int)

/-- The check of the configured volume and the search agree on a row, the search returns a row of
maximal priority among those that it accepts, and missing sizes do not raise. -/
structure ChecksAgree : Prop where
  agree : checkSpace sizeText volume displayname needed = .ok () ↔
    accepts volume.agentid needed volume = true
  first : ∀ agentid, IsFirst (accepts agentid needed) tables.volumes
    (hasAvailableSpace tables agentid needed)
  calm : volume.HasNull → ∀ failure, checkSpace sizeText volume displayname needed =
    .error failure → failure.isDiskException = true

variable {sizeText tables volume displayname needed} {size available limit : Int}

/-- The search accepts an archive volume that has all its sizes, enough room, and stays below its
limit. -/
theorem accepts_iff (archive : volume.IsArchive) :
    accepts volume.agentid needed volume = true ↔ ∃ available size limit,
      volume.availableSpace = some available ∧ volume.size = some size ∧
      volume.archiveLimit = some limit ∧ needed ≤ available ∧
      size - available + needed < limit := by
  cases free : volume.availableSpace <;> cases whole : volume.size <;>
    cases bound : volume.archiveLimit <;>
    simp [accepts, filters, selects, equal, Volume.afterwards, archive.fixed, archive.archive,
      archive.active, free, whole, bound]

/-- A size can be shown unless it is NULL or negative. -/
theorem sizestr_of_nonneg (nonnegative : 0 ≤ size) :
    sizestr sizeText (some size) = .ok (sizeText size) := by
  have readable : (stored (some size)).sizestr = .ok () := by
    simp [stored, Value.sizestr, Value.toInt, nonnegative]
  simp [sizestr, readable, bind, Except.bind, pure, Except.pure]

/-- A negative size is refused. -/
theorem sizestr_of_neg (negative : size < 0) :
    sizestr sizeText (some size) = .error ⟨.valueError, "n < 0"⟩ := by
  have refused : (stored (some size)).sizestr = .error ⟨.valueError, "n < 0"⟩ := by
    simp [stored, Value.sizestr, Value.toInt, negative]
  simp [sizestr, refused, bind, Except.bind]

/-- NULL is no size. -/
theorem sizestr_none : sizestr sizeText none =
    .error ⟨.typeError, "int() argument must be a string or a number"⟩ := rfl

/-- Showing a size raises no exception of the disk check. -/
theorem not_isDiskException_sizestr {shownSize : Option Int} {failure : Failure}
    (raised : sizestr sizeText shownSize = .error failure) : failure.isDiskException = false := by
  cases shownSize with
  | none =>
    rw [sizestr_none] at raised
    cases raised
    rfl
  | some size =>
    rcases lt_or_ge size 0 with negative | nonnegative
    · rw [sizestr_of_neg negative] at raised
      cases raised
      rfl
    · rw [sizestr_of_nonneg nonnegative] at raised
      cases raised

/-! Each of the next lemmas is one way through the check. -/

/-- Unknown room is less than what is needed, and cannot be shown in the message. -/
theorem checkSpace_unknown (unknown : volume.availableSpace = none) :
    ∃ failure, checkSpace sizeText volume displayname needed = .error failure ∧
      failure.isDiskException = false := by
  simp [checkSpace, unknown, less, sizestr_none, bind, Except.bind, Failure.isDiskException]

/-- Where there is not enough room, the volume is refused. -/
theorem checkSpace_short (known : volume.availableSpace = some available)
    (short : available < needed) :
    ∃ failure, checkSpace sizeText volume displayname needed = .error failure ∧
      (failure.isDiskException = true ↔ 0 ≤ available) := by
  rcases lt_or_ge available 0 with negative | nonnegative
  · refine ⟨⟨.valueError, "n < 0"⟩, ?_, by simp [Failure.isDiskException, negative]⟩
    simp [checkSpace, known, less, short, sizestr_of_neg negative, bind, Except.bind]
  · have shownNeed : sizestr sizeText (some needed) = .ok (sizeText needed) :=
      sizestr_of_nonneg (nonnegative.trans short.le)
    refine ⟨notEnough volume displayname (sizeText available) (sizeText needed), ?_,
      by simp [notEnough, Failure.isDiskException, nonnegative]⟩
    simp [checkSpace, known, less, short, sizestr_of_nonneg nonnegative, shownNeed, bind,
      Except.bind, throw, throwThe, MonadExceptOf.throw]

/-- Nothing can be subtracted from a size that is not known. -/
theorem checkSpace_sizeless (known : volume.availableSpace = some available)
    (room : needed ≤ available) (unknown : volume.size = none) :
    ∃ failure, checkSpace sizeText volume displayname needed = .error failure ∧
      failure.isDiskException = false := by
  simp [checkSpace, known, less, room.not_gt, unknown, minus, bind, Except.bind,
    Failure.isDiskException]

/-- A limit that is not known is below every number, and the message cannot show it. -/
theorem checkSpace_limitless (known : volume.availableSpace = some available)
    (room : needed ≤ available) (sized : volume.size = some size)
    (unknown : volume.archiveLimit = none) :
    ∃ failure, checkSpace sizeText volume displayname needed = .error failure ∧
      failure.isDiskException = false := by
  simp only [checkSpace, known, less, room.not_gt, sized, unknown, minus, bind, Except.bind, pure,
    Except.pure, decide_false, Bool.false_eq_true, if_false, if_true]
  cases need : sizestr sizeText (some needed) with
  | error failure => exact ⟨failure, rfl, not_isDiskException_sizestr need⟩
  | ok needText =>
    cases whole : sizestr sizeText (some size) with
    | error failure => exact ⟨failure, rfl, not_isDiskException_sizestr whole⟩
    | ok sizeShown =>
      cases after : sizestr sizeText (some (size - available + needed)) with
      | error failure => exact ⟨failure, rfl, not_isDiskException_sizestr after⟩
      | ok afterwards => exact ⟨_, rfl, rfl⟩

/-- With all sizes known and enough room, the limit decides. -/
theorem checkSpace_known (known : volume.availableSpace = some available)
    (room : needed ≤ available) (sized : volume.size = some size)
    (bounded : volume.archiveLimit = some limit) :
    checkSpace sizeText volume displayname needed = .ok () ↔
      size - available + needed ≤ limit := by
  simp only [checkSpace, known, less, room.not_gt, sized, bounded, minus, bind, Except.bind, pure,
    Except.pure, decide_false, Bool.false_eq_true, if_false, decide_eq_true_eq]
  by_cases above : limit < size - available + needed
  · rw [if_pos above]
    refine ⟨fun passed => ?_, fun under => absurd under (not_le.mpr above)⟩
    revert passed
    repeat' split
    all_goals simp [throw, throwThe, MonadExceptOf.throw]
  · rw [if_neg above]
    simpa using above

/-- A check that raises on a missing size is not calm. -/
theorem not_checksAgree_of_raises (null : volume.HasNull)
    (raises : ∃ failure, checkSpace sizeText volume displayname needed = .error failure ∧
      failure.isDiskException = false) :
    ¬ ChecksAgree sizeText tables volume displayname needed := by
  obtain ⟨failure, raised, notRefused⟩ := raises
  intro checks
  have refused := checks.calm null failure raised
  rw [notRefused] at refused
  cases refused

/-- Where there is not enough room both refuse, and the message can be written unless what is left
is negative. -/
theorem checksAgree_short (archive : volume.IsArchive)
    (known : volume.availableSpace = some available) (short : available < needed) :
    ChecksAgree sizeText tables volume displayname needed ↔
      0 ≤ available ∨ ¬ volume.HasNull := by
  obtain ⟨failure, raised, refused⟩ :
      ∃ failure, checkSpace sizeText volume displayname needed = .error failure ∧
        (failure.isDiskException = true ↔ 0 ≤ available) := checkSpace_short known short
  have passedOver : ¬ accepts volume.agentid needed volume = true := by
    rw [accepts_iff archive]
    rintro ⟨other, -, -, same, -, -, enough, -⟩
    rw [known, Option.some.injEq] at same
    omega
  constructor
  · intro checks
    by_cases null : volume.HasNull
    · exact .inl (refused.mp (checks.calm null failure raised))
    · exact .inr null
  · intro decides
    refine ⟨?_, fun agentid => hasAvailableSpace_isFirst, fun null other again => ?_⟩
    · rw [raised]
      simpa using passedOver
    · rw [raised, Except.error.injEq] at again
      rw [← again]
      exact refused.mpr (decides.resolve_right (not_not_intro null))

/-- With all sizes known and enough room, only a limit that is met exactly keeps the checks
apart. -/
theorem checksAgree_known (archive : volume.IsArchive)
    (known : volume.availableSpace = some available) (room : needed ≤ available)
    (sized : volume.size = some size) (bounded : volume.archiveLimit = some limit) :
    ChecksAgree sizeText tables volume displayname needed ↔
      size - available + needed ≠ limit := by
  have passes : checkSpace sizeText volume displayname needed = .ok () ↔
      size - available + needed ≤ limit := checkSpace_known known room sized bounded
  have below : accepts volume.agentid needed volume = true ↔
      size - available + needed < limit := by
    rw [accepts_iff archive]
    simp [known, sized, bounded, room]
  constructor
  · rintro ⟨agree, -, -⟩ exactly
    rw [passes, below] at agree
    omega
  · intro apart
    refine ⟨?_, fun agentid => hasAvailableSpace_isFirst, fun null => ?_⟩
    · rw [passes, below]
      omega
    · simp [Volume.HasNull, known, sized, bounded] at null

/-- The checks agree and do not raise on missing sizes exactly for the rows that are decided:
where the limit is met exactly one accepts and the other does not, and a missing size raises. -/
theorem space_checks_agree_iff (archive : volume.IsArchive) :
    ChecksAgree sizeText tables volume displayname needed ↔ volume.IsDecided needed := by
  cases known : volume.availableSpace with
  | none =>
    have apart : ¬ ChecksAgree sizeText tables volume displayname needed :=
      not_checksAgree_of_raises (.inr (.inl known)) (checkSpace_unknown known)
    simp [Volume.IsDecided, known, apart]
  | some available =>
    rcases lt_or_ge available needed with short | room
    · rw [checksAgree_short archive known short]
      simp [Volume.IsDecided, known, short]
    · cases sized : volume.size with
      | none =>
        have apart : ¬ ChecksAgree sizeText tables volume displayname needed :=
          not_checksAgree_of_raises (.inl sized) (checkSpace_sizeless known room sized)
        simp [Volume.IsDecided, known, room.not_gt, sized, apart]
      | some size =>
        cases bounded : volume.archiveLimit with
        | none =>
          have apart : ¬ ChecksAgree sizeText tables volume displayname needed :=
            not_checksAgree_of_raises (.inr (.inr bounded))
              (checkSpace_limitless known room sized bounded)
          simp [Volume.IsDecided, known, room.not_gt, bounded, apart]
        | some limit =>
          rw [checksAgree_known archive known room sized bounded]
          simp [Volume.IsDecided, known, room.not_gt, sized, bounded]

end Agreement

/-- A volume of 100 units with 60 free, of which 50 may be used. -/
def halfUsable : Volume where
  volid := 1
  agentid := 1
  name := some "D"
  path := some "palette"
  label := none
  volType := some "Fixed"
  archive := some true
  active := some true
  size := some 100
  availableSpace := some 60
  archiveLimit := some 50
  priority := none

/-- With room for 5 more the checks agree. -/
theorem half_usable_agrees :
    halfUsable.IsArchive ∧ halfUsable.IsDecided 5 ∧
      ChecksAgree (fun size => toString size) ⟨[halfUsable], []⟩ halfUsable none 5 := by
  have archive : halfUsable.IsArchive := ⟨rfl, rfl, rfl⟩
  have decided : halfUsable.IsDecided 5 := ⟨60, rfl, by simp [halfUsable]⟩
  exact ⟨archive, decided, (space_checks_agree_iff archive).mpr decided⟩

/-- A file of 10 units fills the volume up to its limit: it is accepted as the configured volume,
but not found in the search. A volume whose size is not known raises. -/
theorem filled_to_the_limit :
    ¬ ChecksAgree (fun size => toString size) ⟨[halfUsable], []⟩ halfUsable none 10 ∧
      ¬ ChecksAgree (fun size => toString size) ⟨[halfUsable], []⟩
        { halfUsable with size := none } none 10 := by
  constructor
  · intro checks
    have accepted : accepts halfUsable.agentid 10 halfUsable = true := checks.agree.mp rfl
    revert accepted
    decide
  · intro checks
    have refused := checks.calm (.inl rfl) _ rfl
    revert refused
    decide

/-! ## The check within the configuration of the target -/

section Placing

variable {sizeText : Int → String} {tables : Tables} {backupDestId agentid needed : Int}
  {parentDir : String}

/-- A volume that is not accepted on space grounds is not taken as the target. -/
theorem configVolTarget_refused {volume : Volume} {agent : AgentRow} {failure : Failure}
    (found : (tables.volumes.find? fun volume => volume.volid = backupDestId) = some volume)
    (owned : (tables.agents.find? fun agent => agent.agentid = volume.agentid) = some agent)
    (enabled : agent.enabled = true)
    (refused : checkSpace sizeText volume agent.displayname needed = .error failure) :
    configVolTarget sizeText tables backupDestId agentid parentDir needed = .error failure := by
  simp only [configVolTarget, found, owned, enabled, refused]
  rfl

/-- The volume of a target was accepted on space grounds. -/
theorem checkSpace_of_configVolTarget {target : Target}
    (placed : configVolTarget sizeText tables backupDestId agentid parentDir needed = .ok target) :
    checkSpace sizeText target.targetEntry target.targetAgent.displayname needed = .ok () := by
  cases found : tables.volumes.find? fun volume => volume.volid = backupDestId with
  | none => simp [configVolTarget, found, throw, throwThe, MonadExceptOf.throw] at placed
  | some volume =>
    cases owned : tables.agents.find? fun agent => agent.agentid = volume.agentid with
    | none => simp [configVolTarget, found, owned, throw, throwThe, MonadExceptOf.throw] at placed
    | some agent =>
      cases enabled : agent.enabled with
      | false =>
        simp [configVolTarget, found, owned, enabled, throw, throwThe, MonadExceptOf.throw, bind,
          Except.bind] at placed
      | true =>
        cases checked : checkSpace sizeText volume agent.displayname needed with
        | error failure =>
          rw [configVolTarget_refused found owned enabled checked] at placed
          cases placed
        | ok passed =>
          simp only [configVolTarget, found, owned, enabled, checked, bind, Except.bind,
            pure, Except.pure] at placed
          repeat' split at placed
          all_goals cases placed
          all_goals exact checked

end Placing

end Palette.Files.Space
