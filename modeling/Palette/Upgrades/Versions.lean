import Palette.Commands.Reply
import Palette.Foundation.Numerals

/-!
# Upgrades from one version to the next

At every start the controller reads the version that was saved last, saves its own one, and later
upgrades what is stored. From 2.0 on, a retain count of zero no longer means that everything is
kept, so an upgrade from an older version has to change the counts once.

Whether they have been changed is told from the text of the last version: it begins with `2.` then.
The users set the counts at any time between two starts.
-/

namespace Palette.Upgrades

open Palette.Commands Palette.Foundation.Numerals

/-- The numbers of a version. -/
structure Version where
  major : Nat
  minors : List Nat
  deriving DecidableEq, Repr

/-- What is archived, and how much of it is kept. -/
structure Retention where
  archiveEnabled : Bool
  retainCount : Int
  deriving DecidableEq, Repr

/-- The settings that an upgrade looks at. -/
structure Settings where
  workbook : Retention
  datasource : Retention
  deriving DecidableEq, Repr

namespace Version

/-- The numbers behind the first one. -/
def minorsText (minors : List Nat) : List Char :=
  minors.flatMap fun number => '.' :: Nat.toDigits 10 number

/-- A version as it is saved. -/
def text (version : Version) : List Char :=
  Nat.toDigits 10 version.major ++ minorsText version.minors

/-- No digit follows the first number. -/
theorem minorsText_ends (minors : List Nat) :
    ∀ char ∈ (minorsText minors).head?, char.isDigit = false := by
  cases minors with
  | nil => simp [minorsText]
  | cons number rest => simp [minorsText]

/-- Further numbers are told apart by their text. -/
theorem minorsText_injective {minors others : List Nat}
    (same : minorsText minors = minorsText others) : minors = others := by
  induction minors generalizing others with
  | nil =>
    cases others with
    | nil => rfl
    | cons => simp [minorsText] at same
  | cons number rest inductionHypothesis =>
    cases others with
    | nil => simp [minorsText] at same
    | cons other more =>
      have tails := (List.cons.inj same).2
      obtain ⟨rfl, equal⟩ :=
        toDigits_append_inj (minorsText_ends rest) (minorsText_ends more) tails
      rw [inductionHypothesis equal]

/-- Versions are told apart by their text. -/
theorem text_injective {version other : Version} (same : version.text = other.text) :
    version = other := by
  obtain ⟨major, minors⟩ := version
  obtain ⟨otherMajor, otherMinors⟩ := other
  obtain ⟨rfl, equal⟩ :=
    toDigits_append_inj (minorsText_ends minors) (minorsText_ends otherMinors) same
  rw [minorsText_injective equal]

/-- There is a number in a version. -/
theorem text_ne_nil (version : Version) : version.text ≠ [] :=
  List.append_ne_nil_of_left_ne_nil Nat.toDigits_ne_nil _

/-- A version before 2.0. -/
def isOld (version : Version) : Bool := version.major < 2

/-- A version of 2.0 or later whose text shows it. -/
structure IsMarked (version : Version) : Prop where
  major : version.major = 2
  minors : version.minors ≠ []

/-- A version of 1.5, behind which there are further numbers. -/
structure IsOneFive (version : Version) : Prop where
  major : version.major = 1
  minors : ∃ third further, version.minors = 5 :: third :: further

/-- The text begins with `2.` where the version is marked. -/
theorem take_two_iff (version : Version) : version.text.take 2 = ['2', '.'] ↔ version.IsMarked := by
  obtain ⟨major, minors⟩ := version
  have two : Nat.toDigits 10 2 = ['2'] := by decide
  constructor
  · intro begins
    have same : Nat.toDigits 10 major ++ minorsText minors =
        Nat.toDigits 10 2 ++ '.' :: (text ⟨major, minors⟩).drop 2 := by
      rw [two, List.singleton_append]
      exact (List.take_append_drop 2 _).symm.trans (congrArg (· ++ _) begins)
    obtain ⟨rfl, behind⟩ := toDigits_append_inj (minorsText_ends minors) (by simp) same
    refine ⟨rfl, ?_⟩
    rintro rfl
    cases behind
  · rintro ⟨first, further⟩
    obtain rfl : major = 2 := first
    cases minors with
    | nil => exact absurd rfl further
    | cons number rest =>
      rw [text, two]
      rfl

/-- The text begins with `1.5.` where the version is one of 1.5 with further numbers. -/
theorem take_four_iff (version : Version) :
    version.text.take 4 = ['1', '.', '5', '.'] ↔ version.IsOneFive := by
  obtain ⟨major, minors⟩ := version
  have one : Nat.toDigits 10 1 = ['1'] := by decide
  have five : Nat.toDigits 10 5 = ['5'] := by decide
  constructor
  · intro begins
    have same : Nat.toDigits 10 major ++ minorsText minors =
        Nat.toDigits 10 1 ++ '.' :: (Nat.toDigits 10 5 ++
          '.' :: (text ⟨major, minors⟩).drop 4) := by
      rw [one, five, List.singleton_append, List.singleton_append]
      exact (List.take_append_drop 4 _).symm.trans (congrArg (· ++ _) begins)
    obtain ⟨rfl, behind⟩ := toDigits_append_inj (minorsText_ends minors) (by simp) same
    cases minors with
    | nil => cases behind
    | cons number rest =>
      obtain ⟨rfl, last⟩ :=
        toDigits_append_inj (minorsText_ends rest) (by simp) (List.cons.inj behind).2
      cases rest with
      | nil => cases last
      | cons third further => exact ⟨rfl, third, further, rfl⟩
  · rintro ⟨first, third, further, rest⟩
    obtain rfl : major = 1 := first
    obtain rfl : minors = 5 :: third :: further := rest
    rw [text, one, minorsText, List.flatMap_cons, List.flatMap_cons, five]
    rfl

end Version

/-- What the counts of one kind become. -/
def Retention.migrate (retention : Retention) : Retention :=
  if retention.archiveEnabled then
    if retention.retainCount = 0 then { retention with retainCount := -1 } else retention
  else { retention with retainCount := 0 }

/-- The block behind the comment on 2.0. -/
def Settings.migrate (settings : Settings) : Settings :=
  ⟨settings.workbook.migrate, settings.datasource.migrate⟩

/-- `upgrade_version`, with the failure of `move_twb_to_db` if it fails. Where the last block is
reached, the settings that it leaves are returned. -/
def upgradeVersion (moveTwbToDb : Option Failure) (previousVersion : Option (List Char))
    (version : List Char) (settings : Settings) : Except Failure (Option Settings) :=
  match previousVersion with
  | none => .ok none
  | some previous =>
    if previous = version ∨ previous = [] then .ok none
    else
      match if previous.take 4 = ['1', '.', '5', '.'] then moveTwbToDb else none with
      | some failure => .error failure
      | none =>
        if previous.take 2 = ['2', '.'] then .ok none
        else .ok (some settings.migrate)

/-- A start of the controller: its version, what is raised between saving the version and the
upgrade, and what is raised when the workbooks are moved. -/
structure Start where
  version : Version
  interruption : Option Failure
  moveTwbToDb : Option Failure
  deriving DecidableEq, Repr

/-- The version that was saved last, and the settings. -/
structure Installation where
  previousVersion : Option Version
  settings : Settings
  deriving DecidableEq, Repr

/-- What happens to an installation. -/
inductive Event where
  | set (settings : Settings)
  | start (start : Start)
  deriving DecidableEq, Repr

/-- A start of an installation. -/
structure Upgrade where
  before : Installation
  start : Start
  deriving DecidableEq, Repr

namespace Upgrade

variable (upgrade : Upgrade)

/-- What the start comes to. -/
def outcome : Except Failure (Option Settings) :=
  match upgrade.start.interruption with
  | some failure => .error failure
  | none =>
    upgradeVersion upgrade.start.moveTwbToDb (upgrade.before.previousVersion.map Version.text)
      upgrade.start.version.text upgrade.before.settings

/-- The retain counts are migrated. -/
def migrated : Bool :=
  match upgrade.outcome with
  | .ok (some _) => true
  | _ => false

/-- The version is saved before anything else is done. -/
def after : Installation where
  previousVersion := some upgrade.start.version
  settings :=
    match upgrade.outcome with
    | .ok (some settings) => settings
    | _ => upgrade.before.settings

end Upgrade

/-- One event. -/
def Installation.next (installation : Installation) : Event → Installation
  | .set settings => { installation with settings }
  | .start start => (Upgrade.mk installation start).after

/-- The starts among the events. -/
def upgrades : Installation → List Event → List Upgrade
  | _, [] => []
  | installation, .set settings :: rest => upgrades (installation.next (.set settings)) rest
  | installation, .start start :: rest =>
    ⟨installation, start⟩ :: upgrades (installation.next (.start start)) rest

/-! ## The migration -/

namespace Upgrade

variable {upgrade : Upgrade} {previous : Version}

/-- The last version is before 2.0, and the new one is not. -/
def crosses (upgrade : Upgrade) : Bool :=
  upgrade.before.previousVersion.any Version.isOld && !upgrade.start.version.isOld

/-- Something is raised before the counts are looked at. -/
def Fails (upgrade : Upgrade) (previous : Version) : Prop :=
  upgrade.start.interruption ≠ none ∨ previous.IsOneFive ∧ upgrade.start.moveTwbToDb ≠ none

/-- A start with a new version migrates unless the last version is marked or something fails. -/
theorem migrated_iff (saved : upgrade.before.previousVersion = some previous) :
    upgrade.migrated = true ↔
      previous ≠ upgrade.start.version ∧ ¬ previous.IsMarked ∧ ¬ upgrade.Fails previous := by
  have same : previous.text = upgrade.start.version.text ↔ previous = upgrade.start.version :=
    ⟨Version.text_injective, congrArg Version.text⟩
  rw [← previous.take_two_iff, Fails, ← previous.take_four_iff]
  cases interrupted : upgrade.start.interruption with
  | some failure => simp [migrated, outcome, interrupted]
  | none =>
    simp only [migrated, outcome, interrupted, upgradeVersion, saved, Option.map_some, same,
      previous.text_ne_nil, or_false, ne_eq, not_true_eq_false, false_or]
    by_cases unchanged : previous = upgrade.start.version
    · simp [unchanged]
    · by_cases oneFive : previous.text.take 4 = ['1', '.', '5', '.']
      · cases moved : upgrade.start.moveTwbToDb with
        | some failure => simp [unchanged, oneFive]
        | none => by_cases marked : previous.text.take 2 = ['2', '.'] <;> simp [unchanged, marked]
      · by_cases marked : previous.text.take 2 = ['2', '.'] <;> simp [unchanged, oneFive, marked]

/-- The first start of an installation migrates nothing. -/
theorem migrated_first (first : upgrade.before.previousVersion = none) :
    upgrade.migrated = false := by
  cases interrupted : upgrade.start.interruption <;>
    simp [migrated, outcome, interrupted, first, upgradeVersion]

/-- Where nothing is migrated, the settings stay. -/
theorem settings_of_not_migrated (unmigrated : upgrade.migrated = false) :
    upgrade.after.settings = upgrade.before.settings := by
  unfold migrated at unmigrated
  unfold after
  split at unmigrated
  · cases unmigrated
  · rfl

end Upgrade

/-! ## A history of upgrades -/

variable {installation : Installation} {events : List Event}

/-- The first number of the version never falls. -/
def Rises (installation : Installation) (events : List Event) : Prop :=
  ∀ upgrade ∈ upgrades installation events, ∀ previous ∈ upgrade.before.previousVersion,
    previous.major ≤ upgrade.start.version.major

/-- The migration is made when 2.0 is crossed and at no other start, which is once where versions
rise from before 2.0 to 2.0 or later. From 2.0 on, the settings stay as they were. -/
structure Survives (installation : Installation) (events : List Event) : Prop where
  crossing : ∀ upgrade ∈ upgrades installation events, upgrade.migrated = upgrade.crosses
  once : Rises installation events → installation.previousVersion.any Version.isOld = true →
    (∃ upgrade ∈ upgrades installation events, upgrade.start.version.isOld = false) →
      (upgrades installation events).countP Upgrade.migrated = 1
  kept : ∀ upgrade ∈ upgrades installation events,
    ∀ previous ∈ upgrade.before.previousVersion, previous.isOld = false →
      upgrade.after.settings = upgrade.before.settings

/-- Where 2.0 is crossed nothing fails, and every other start with a new version comes from a marked
version, if it does not fail. -/
def Upgrade.IsServed (upgrade : Upgrade) : Prop :=
  ∀ previous ∈ upgrade.before.previousVersion, previous ≠ upgrade.start.version →
    if upgrade.crosses then ¬ upgrade.Fails previous
    else previous.IsMarked ∨ upgrade.Fails previous

namespace Upgrade

variable {upgrade : Upgrade} {previous : Version}

/-- A crossing leaves a version that is another one and is not marked. -/
theorem apart_of_crosses (saved : upgrade.before.previousVersion = some previous)
    (crosses : upgrade.crosses = true) :
    previous ≠ upgrade.start.version ∧ ¬ previous.IsMarked := by
  rw [Upgrade.crosses, saved, Option.any_some, Bool.and_eq_true, Bool.not_eq_true'] at crosses
  obtain ⟨old, new⟩ := crosses
  constructor
  · rintro rfl
    rw [old] at new
    cases new
  · intro marked
    rw [Version.isOld, marked.major] at old
    cases old

/-- A start migrates exactly where it crosses 2.0 if it is served, and only then. -/
theorem migrated_eq_crosses_iff (upgrade : Upgrade) :
    upgrade.migrated = upgrade.crosses ↔ upgrade.IsServed := by
  cases saved : upgrade.before.previousVersion with
  | none => simp [migrated_first saved, IsServed, crosses, saved]
  | some previous =>
    have served : upgrade.IsServed ↔ (previous ≠ upgrade.start.version →
        if upgrade.crosses then ¬ upgrade.Fails previous
        else previous.IsMarked ∨ upgrade.Fails previous) := by
      simp [IsServed, saved]
    rw [served, Bool.eq_iff_iff, migrated_iff saved]
    cases crossed : upgrade.crosses with
    | true =>
      obtain ⟨different, unmarked⟩ := apart_of_crosses saved crossed
      simp [different, unmarked]
    | false =>
      simp only [Bool.false_eq_true, if_false, iff_false, not_and, not_not, or_iff_not_imp_left]

end Upgrade

/-- The settings that a user sets are no upgrade. -/
theorem upgrades_set (settings : Settings) (rest : List Event) :
    upgrades installation (.set settings :: rest) =
      upgrades { installation with settings } rest := rfl

/-- A start is one, and its version is the last one afterwards. -/
theorem upgrades_start (start : Start) (rest : List Event) :
    upgrades installation (.start start :: rest) =
      ⟨installation, start⟩ :: upgrades (Upgrade.mk installation start).after rest := rfl

/-- The versions behind a first event rise. -/
theorem Rises.tail {event : Event} {rest : List Event}
    (rises : Rises installation (event :: rest)) : Rises (installation.next event) rest := by
  cases event with
  | set settings => exact rises
  | start start => exact fun upgrade listed => rises upgrade (List.mem_cons_of_mem _ listed)

/-- Where the versions rise from 2.0 or later, 2.0 is not crossed. -/
theorem not_crosses_of_rises {previous : Version}
    (saved : installation.previousVersion = some previous) (new : previous.isOld = false)
    (rises : Rises installation events) :
    ∀ upgrade ∈ upgrades installation events, upgrade.crosses = false := by
  induction events generalizing installation previous with
  | nil => simp [upgrades]
  | cons event rest inductionHypothesis =>
    cases event with
    | set settings => exact inductionHypothesis saved new rises.tail
    | start start =>
      rw [upgrades_start]
      intro upgrade listed
      rcases List.mem_cons.mp listed with rfl | later
      · simp [Upgrade.crosses, saved, new]
      · have ordered := rises ⟨installation, start⟩ List.mem_cons_self previous saved
        have newer : start.version.isOld = false := by
          simp only [Version.isOld, decide_eq_false_iff_not] at new ⊢
          exact fun older => new (ordered.trans_lt older)
        exact inductionHypothesis rfl newer rises.tail upgrade later

/-- Where the versions rise from before 2.0 to 2.0 or later, 2.0 is crossed once. -/
theorem crosses_once {previous : Version}
    (saved : installation.previousVersion = some previous) (old : previous.isOld = true)
    (rises : Rises installation events)
    (reached : ∃ upgrade ∈ upgrades installation events, upgrade.start.version.isOld = false) :
    (upgrades installation events).countP Upgrade.crosses = 1 := by
  induction events generalizing installation previous with
  | nil => simp [upgrades] at reached
  | cons event rest inductionHypothesis =>
    cases event with
    | set settings => exact inductionHypothesis saved old rises.tail reached
    | start start =>
      rw [upgrades_start] at reached ⊢
      cases older : start.version.isOld with
      | true =>
        have stays : ¬ (Upgrade.mk installation start).crosses = true := by
          simp [Upgrade.crosses, older]
        obtain ⟨upgrade, listed, new⟩ := reached
        rcases List.mem_cons.mp listed with rfl | later
        · rw [older] at new
          cases new
        · rw [List.countP_cons_of_neg stays]
          exact inductionHypothesis rfl older rises.tail ⟨upgrade, later, new⟩
      | false =>
        have crosses : (Upgrade.mk installation start).crosses = true := by
          simp [Upgrade.crosses, saved, old, older]
        have others : (upgrades (Upgrade.mk installation start).after rest).countP
            Upgrade.crosses = 0 := by
          refine List.countP_eq_zero.mpr fun upgrade listed => ?_
          rw [not_crosses_of_rises rfl older rises.tail upgrade listed]
          decide
        rw [List.countP_cons_of_pos crosses, others]

/-- The settings survive a history of upgrades exactly where every start of it is served. -/
theorem survives_iff (installation : Installation) (events : List Event) :
    Survives installation events ↔
      ∀ upgrade ∈ upgrades installation events, upgrade.IsServed := by
  constructor
  · exact fun survives upgrade listed =>
      upgrade.migrated_eq_crosses_iff.mp (survives.crossing upgrade listed)
  · intro served
    have crossing : ∀ upgrade ∈ upgrades installation events,
        upgrade.migrated = upgrade.crosses :=
      fun upgrade listed => upgrade.migrated_eq_crosses_iff.mpr (served upgrade listed)
    refine ⟨crossing, ?_, ?_⟩
    · intro rises known reached
      obtain ⟨previous, saved, old⟩ := (Option.any_eq_true _ _).mp known
      rw [List.countP_congr fun upgrade listed => by rw [crossing upgrade listed]]
      exact crosses_once saved old rises reached
    · intro upgrade listed previous saved new
      refine Upgrade.settings_of_not_migrated ?_
      rw [crossing upgrade listed]
      simp [Upgrade.crosses, Option.mem_def.mp saved, new]

/-- Coming from 3.0, the count that a user has set is lost. -/
theorem counts_reset_at_three :
    ¬ Survives ⟨some ⟨3, [0]⟩, ⟨⟨false, 5⟩, ⟨false, 5⟩⟩⟩ [.start ⟨⟨3, [1]⟩, none, none⟩] := by
  intro survives
  have kept := survives.kept _ List.mem_cons_self ⟨3, [0]⟩ rfl rfl
  revert kept
  decide

end Palette.Upgrades
