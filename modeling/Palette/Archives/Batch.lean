import Palette.Archives.Updates

/-!
# One bad update

The calls for an update decide how the work on it ends: the update is archived, its credentials
are refused, it is given up for a failure that is caught, or something else is raised. Only what
is raised leaves the loop over the updates, but an update that was given up is counted all the
same.
-/

namespace Palette.Archives

open Palette.Commands (Failure)
open Palette.Files (Agent Path)
open Palette.Foundation Script

variable {Content : Type}

/-! ## What the calls come to -/

section Verdicts

variable (calls : Calls Content)

/-- The command was refused for the credentials. -/
def CmdBody.refused (body : CmdBody) : Bool :=
  body.stderr.any fun stderr => includes stderr "Not authorized"

/-- The command did not find the workbook. -/
def CmdBody.missing (body : CmdBody) : Bool :=
  body.stderr.any fun stderr => includes stderr "404" && includes stderr "Not Found"

/-- The command is run for a file in a directory, and its body is this one. -/
def Calls.Runs (tmpdir filename : Path) (body : CmdBody) : Prop :=
  calls.workbook = true ∧ calls.diskCheck = .ok tmpdir ∧ calls.filename = some (.ok filename) ∧
    tabcmdRun calls = .ok body

/-- The file is fetched. -/
def Calls.Fetches : Prop :=
  ∃ tmpdir filename body, calls.Runs tmpdir filename body ∧ body.error = none

/-- A failed command is refused, and both events are written. -/
def Calls.RefusedBy (body : CmdBody) : Prop :=
  body.refused = true ∧ calls.eventgen 0 = none ∧ calls.eventgen 1 = none

/-- The credentials are refused. -/
def Calls.Refused : Prop :=
  ∃ tmpdir filename body, calls.Runs tmpdir filename body ∧ body.error.isSome ∧
    calls.RefusedBy body

/-- A failed command is let be: its event is written, and an update without a workbook is
removed. -/
def Calls.LetBe (body : CmdBody) : Prop :=
  calls.eventgen 0 = none ∧ body.refused = false ∧ (body.missing = true → calls.removeWbu = none)

/-- The file is not fetched, and the failed command is let be. -/
def Calls.Forgoes : Prop :=
  ∃ tmpdir filename body, calls.Runs tmpdir filename body ∧ body.error.isSome ∧ calls.LetBe body

/-- A fetched file that is not kept is deleted, or an `IOError` says that it is not. -/
def Calls.Tidies : Prop :=
  calls.archiveSaveTwbx = true ∨ ∀ failure, calls.deleteTwbx = some failure → failure.isIOError

/-- The twb file is made of a fetched file of a type. -/
def Calls.Extracts : FileType → Prop
  | .zip => calls.Tidies ∧ ∃ body, calls.ptwbx = .ok body ∧ body.error = none
  | .xml => calls.move = none

/-- The twb file cannot be extracted, and the event is written. -/
def Calls.Jams : FileType → Prop
  | .zip => calls.Tidies ∧ (∃ body, calls.ptwbx = .ok body ∧ body.error.isSome) ∧
      calls.eventgen 0 = none
  | .xml => False

/-- The question for the size is answered, or it fails by an `IOError`. -/
def Placing.Sized (placing : Placing) : Prop :=
  match placing.filesize with
  | .error failure => failure.isIOError
  | .ok body => body.error.isSome ∨ body.size.isSome

/-- The file is placed with a file entry. -/
def Placing.Places (placing : Placing) : Prop :=
  placing.Sized ∧ ∃ fileid, placing.place = .ok (some fileid)

/-- The twb file is copied and placed, and so is the twbx file if there is one to keep. -/
def Calls.Stores (twbx : Prop) : Prop :=
  (∃ contents, calls.get = .ok contents) ∧ calls.twb.Places ∧
    (twbx → calls.archiveSaveTwbx = true → calls.twbx.Places)

/-- The twb file cannot be copied. -/
def Calls.Uncopied : Prop := ∃ failure, calls.get = .error failure ∧ failure.isIOError

/-- The file is fetched, the twb file is made of it, and what is kept is stored. -/
def Calls.Builds : Prop :=
  calls.Fetches ∧ ∃ type, getArchiveFileType calls = .ok type ∧ calls.Extracts type ∧
    calls.Stores (type = .zip)

/-- Every call for the update does what it is for. -/
def Calls.Succeeds : Prop := calls.Builds ∧ calls.commit = none

/-- A call fails, and the failure is caught. -/
def Calls.GivesUp : Prop :=
  (calls.workbook = true ∧ calls.eventgen 0 = none ∧
    ∃ failure, calls.diskCheck = .error failure ∧ failure.isDiskException) ∨
  calls.Forgoes ∨
  (calls.Fetches ∧ calls.eventgen 0 = none ∧
    ∃ failure, getArchiveFileType calls = .error (.other failure) ∧ failure.isIOError) ∨
  calls.Fetches ∧ ∃ type, getArchiveFileType calls = .ok type ∧
    (calls.Jams type ∨ calls.Extracts type ∧ calls.Uncopied)

/-- The url of an update that is archived: the name of its twb file. -/
def Calls.twbName (agent : Agent) : Option Path :=
  match calls.diskCheck, calls.filename with
  | .ok tmpdir, some (.ok filename) =>
    some (agent.basename (agent.join tmpdir (filename ++ ".twbx".toList)).dropLast)
  | _, _ => none

variable {calls} {tmpdir filename : Path} {body : CmdBody}

/-- The command has one body. -/
theorem Calls.Runs.body_eq {otherDir otherName : Path} {other : CmdBody}
    (runs : calls.Runs tmpdir filename body) (again : calls.Runs otherDir otherName other) :
    body = other :=
  Except.ok.inj (runs.2.2.2.symm.trans again.2.2.2)

/-- A file that is fetched is not forgone. -/
theorem Calls.Fetches.not_forgoes (fetches : calls.Fetches) : ¬ calls.Forgoes := by
  rintro ⟨_, _, body, runs, failed, _⟩
  obtain ⟨_, _, other, again, succeeded⟩ := fetches
  rw [runs.body_eq again, succeeded] at failed
  cases failed

/-- A file is not fetched where the credentials are refused. -/
theorem Calls.Refused.not_fetches (refused : calls.Refused) : ¬ calls.Fetches := by
  rintro ⟨_, _, body, runs, succeeded⟩
  obtain ⟨_, _, other, again, failed, _⟩ := refused
  rw [← runs.body_eq again, succeeded] at failed
  cases failed

/-- Refused credentials are no failure that is let be. -/
theorem Calls.Refused.not_forgoes (refused : calls.Refused) : ¬ calls.Forgoes := by
  rintro ⟨_, _, body, runs, _, letBe⟩
  obtain ⟨_, _, other, again, _, refusedBy⟩ := refused
  rw [← runs.body_eq again] at refusedBy
  exact Bool.noConfusion (refusedBy.1.symm.trans letBe.2.1)

/-- What is refused is not given up. -/
theorem Calls.Refused.not_givesUp (refused : calls.Refused) : ¬ calls.GivesUp := by
  rintro (unchecked | forgoes | untyped | unmade)
  · obtain ⟨_, _, failure, failed, _⟩ := unchecked
    obtain ⟨_, _, _, runs, _⟩ := refused
    cases failed.symm.trans runs.2.1
  · exact refused.not_forgoes forgoes
  · exact refused.not_fetches untyped.1
  · exact refused.not_fetches unmade.1

/-- What can be extracted does not jam. -/
theorem Calls.Extracts.not_jams {type : FileType} (extracts : calls.Extracts type) :
    ¬ calls.Jams type := by
  intro jams
  cases type with
  | xml => exact jams
  | zip =>
    obtain ⟨_, ⟨body, ran, failed⟩, _⟩ := jams
    obtain ⟨_, other, again, succeeded⟩ := extracts
    rw [Except.ok.inj (ran.symm.trans again), succeeded] at failed
    cases failed

/-- What is built is not given up. -/
theorem Calls.Builds.not_givesUp (builds : calls.Builds) : ¬ calls.GivesUp := by
  obtain ⟨fetches, type, typed, extracts, ⟨contents, got⟩, _⟩ := builds
  rintro (unchecked | forgoes | untyped | unmade)
  · obtain ⟨_, _, failure, failed, _⟩ := unchecked
    obtain ⟨_, _, _, runs, _⟩ := fetches
    cases failed.symm.trans runs.2.1
  · exact fetches.not_forgoes forgoes
  · obtain ⟨_, _, failure, failed, _⟩ := untyped
    cases failed.symm.trans typed
  · obtain ⟨_, other, again, unmade⟩ := unmade
    obtain rfl := Except.ok.inj (typed.symm.trans again)
    rcases unmade with jams | ⟨_, failure, uncopied, _⟩
    · exact extracts.not_jams jams
    · cases got.symm.trans uncopied

end Verdicts

/-! ## What the work leaves alone -/

/-- The attempts and the urls are as before. -/
structure Unmoved (initial final : Archiving Content) : Prop where
  attempted : final.attempted = initial.attempted
  urls : ∀ wuid, (final.entries wuid).url = (initial.entries wuid).url

/-- The number of archives to keep is as before, too. -/
structure Steady (initial final : Archiving Content) : Prop extends Unmoved initial final where
  retainCount : final.retainCount = initial.retainCount

namespace Steady

variable {initial middle final : Archiving Content}

theorem refl : Steady initial initial := ⟨⟨rfl, fun _ => rfl⟩, rfl⟩

theorem trans (first : Steady initial middle) (second : Steady middle final) :
    Steady initial final :=
  ⟨⟨second.attempted.trans first.attempted, fun wuid => (second.urls wuid).trans (first.urls wuid)⟩,
    second.retainCount.trans first.retainCount⟩

/-- Other columns of an update may change. -/
theorem revise {change : UpdateEntry Content → UpdateEntry Content} (wuid : Nat)
    (spares : ∀ entry, (change entry).url = entry.url) :
    Steady initial (initial.revise wuid change) := by
  refine ⟨⟨rfl, fun other => ?_⟩, rfl⟩
  by_cases same : other = wuid
  · subst same
    simp [Archiving.revise, spares]
  · simp [Archiving.revise, same]

end Steady

theorem Unmoved.trans {initial middle final : Archiving Content} (first : Unmoved initial middle)
    (second : Unmoved middle final) : Unmoved initial final :=
  ⟨second.attempted.trans first.attempted, fun wuid => (second.urls wuid).trans (first.urls wuid)⟩

/-! ## The calls one after the other -/

section Stages

variable (calls : Calls Content) {state : Archiving Content}

/-- A failure is raised, if there is one. -/
theorem raiseIf_ends (failure : Option Failure) :
    (raiseIf failure).Ends state (fun _ final => final = state ∧ failure = none)
      fun raised final => final = state ∧ raised ≠ .badCredentials ∧ failure ≠ none := by
  cases failure with
  | none => exact ⟨rfl, rfl⟩
  | some failure => exact ⟨rfl, Raised.noConfusion, Option.some_ne_none failure⟩

/-- An event is written or not. -/
theorem eventgen_ends (wuid turn : Nat) (key : UpdateEvent) :
    (eventgen calls wuid turn key).Ends state
      (fun _ final => Steady state final ∧ calls.eventgen turn = none)
      fun raised final => Unmoved state final ∧ raised ≠ .badCredentials ∧
        calls.eventgen turn ≠ none := by
  unfold eventgen
  rw [ends_bind]
  refine (raiseIf_ends _).mono (fun _ _ passed => ?_) fun _ _ failed => ?_
  · obtain ⟨rfl, written⟩ := passed
    exact ⟨⟨⟨rfl, fun _ => rfl⟩, rfl⟩, written⟩
  · obtain ⟨rfl, failed⟩ := failed
    exact ⟨Steady.refl.toUnmoved, failed⟩

/-- An update is removed or not. -/
theorem removeWbu_ends (wuid : Nat) :
    (removeWbu calls wuid).Ends state (fun _ final => Steady state final ∧ calls.removeWbu = none)
      fun raised final => Unmoved state final ∧ raised ≠ .badCredentials ∧
        calls.removeWbu ≠ none := by
  unfold removeWbu
  rw [ends_bind]
  refine (raiseIf_ends _).mono (fun _ _ passed => ?_) fun _ _ failed => ?_
  · obtain ⟨rfl, removed⟩ := passed
    exact ⟨⟨⟨rfl, fun _ => rfl⟩, rfl⟩, removed⟩
  · obtain ⟨rfl, failed⟩ := failed
    exact ⟨Steady.refl.toUnmoved, failed⟩

/-- A failed command is let be, or it is refused. -/
theorem tabcmdFailed_ends (wuid : Nat) (body : CmdBody) :
    (tabcmdFailed calls wuid body).Ends state
      (fun _ final => Steady state final ∧ calls.LetBe body)
      fun raised final => Unmoved state final ∧ ¬ calls.LetBe body ∧
        (raised = .badCredentials ↔ calls.RefusedBy body) := by
  unfold tabcmdFailed
  rw [ends_bind]
  refine (eventgen_ends calls wuid 0 _).mono (fun _ middle written => ?_) fun raised _ failed =>
    ⟨failed.1, fun letBe => failed.2.2 letBe.1, fun same => absurd same failed.2.1,
      fun refused => absurd refused.2.1 failed.2.2⟩
  cases told : body.stderr with
  | none => exact ⟨written.1, written.2, by simp [CmdBody.refused, told],
      by simp [CmdBody.missing, told]⟩
  | some stderr =>
    rw [ends_ite]
    split
    next refuses =>
      have refused : body.refused = true := by simpa [CmdBody.refused, told] using refuses
      rw [ends_bind, ends_modify, ends_bind]
      have cleared : Unmoved state { middle with retainCount := 0 } :=
        ⟨written.1.attempted, written.1.urls⟩
      refine (eventgen_ends calls wuid 1 _).mono (fun _ _ second => ?_) fun raised _ failed => ?_
      · exact ⟨cleared.trans second.1.toUnmoved, fun letBe => by simp [letBe.2.1] at refused,
          fun _ => ⟨refused, written.2, second.2⟩, fun _ => rfl⟩
      · exact ⟨cleared.trans failed.1, fun letBe => by simp [letBe.2.1] at refused,
          fun same => absurd same failed.2.1, fun refused => absurd refused.2.2 failed.2.2⟩
    next accepts =>
      have unrefused : body.refused = false := by simpa [CmdBody.refused, told] using accepts
      have missing : body.missing = true ↔ includes stderr "404" ∧ includes stderr "Not Found" := by
        simp [CmdBody.missing, told]
      rw [ends_ite]
      split
      next found =>
        refine (removeWbu_ends calls wuid).mono (fun _ _ removed => ?_) fun raised _ failed => ?_
        · exact ⟨written.1.trans removed.1, written.2, unrefused, fun _ => removed.2⟩
        · exact ⟨written.1.toUnmoved.trans failed.1,
            fun letBe => failed.2.2 (letBe.2.2 (missing.mpr found)),
            fun same => absurd same failed.2.1, fun refused => by simp [refused.1] at unrefused⟩
      next present =>
        exact ⟨written.1, written.2, unrefused, fun named => absurd (missing.mp named) present⟩

/-- The file is fetched, its command is let be, or something is raised. -/
theorem tabcmdGet_ends (agent : Agent) (wuid : Nat) {tmpdir : Path}
    (workbook : calls.workbook = true) (checked : calls.diskCheck = .ok tmpdir) :
    (tabcmdGet calls agent wuid tmpdir).Ends state
      (fun value final => Steady state final ∧ match value with
        | none => calls.Forgoes
        | some dst => calls.Fetches ∧ calls.twbName agent = some (agent.basename dst.dropLast))
      fun raised final => Unmoved state final ∧ ¬ calls.Fetches ∧ ¬ calls.Forgoes ∧
        (raised = .badCredentials ↔ calls.Refused) := by
  unfold tabcmdGet
  cases named : calls.filename with
  | none =>
    simp [Calls.Forgoes, Calls.Fetches, Calls.Refused, Calls.Runs, named, Steady.refl.toUnmoved]
  | some filename =>
    cases filename with
    | error failure =>
      simp [called, Except.mapError, Calls.Forgoes, Calls.Fetches, Calls.Refused, Calls.Runs,
        named, Steady.refl.toUnmoved]
    | ok filename =>
      cases ran : tabcmdRun calls with
      | error failure =>
        simp [called, Except.mapError, Calls.Forgoes, Calls.Fetches, Calls.Refused, Calls.Runs,
          named, ran, Steady.refl.toUnmoved]
      | ok body =>
        have runs : ∀ directory name other, calls.Runs directory name other ↔
            directory = tmpdir ∧ name = filename ∧ other = body := by
          simp [Calls.Runs, workbook, checked, named, ran, eq_comm]
        simp only [called, Except.mapError, ends_bind, ends_settle_ok]
        rw [ends_ite]
        split
        next failed =>
          rw [ends_bind]
          refine (tabcmdFailed_ends calls wuid body).mono (fun _ _ letBe => ?_)
            fun raised _ refused => ?_
          · exact ⟨letBe.1, tmpdir, filename, body, (runs _ _ _).mpr ⟨rfl, rfl, rfl⟩, failed,
              letBe.2⟩
          · have unfetched : ¬ calls.Fetches := by
              simp [Calls.Fetches, runs, Option.isSome_iff_ne_none.mp failed]
            refine ⟨refused.1, unfetched, ?_, refused.2.2.trans ?_⟩
            · simpa [Calls.Forgoes, runs, failed] using refused.2.1
            · simp [Calls.Refused, runs, failed]
        next succeeded =>
          have fetched : calls.Fetches :=
            ⟨tmpdir, filename, body, (runs _ _ _).mpr ⟨rfl, rfl, rfl⟩, by simpa using succeeded⟩
          exact ⟨Steady.refl, fetched, by simp [Calls.twbName, checked, named]⟩

/-- A failure that is no `IOError` is raised, if there is one. -/
theorem raiseUnlessIOError_ends (failure : Option Failure) :
    (raiseUnlessIOError failure).Ends state
      (fun _ final => final = state ∧ ∀ raised, failure = some raised → raised.isIOError)
      fun raised final => final = state ∧ raised ≠ .badCredentials ∧
        ¬ ∀ raised, failure = some raised → raised.isIOError := by
  cases failure with
  | none => simp [raiseUnlessIOError]
  | some failure => cases caught : failure.isIOError <;> simp [raiseUnlessIOError, caught]

/-- The twb file is extracted, an event says that it cannot be, or something is raised. -/
theorem extractTwbFromTwbx_ends (wuid : Nat) (dst : Path) :
    (extractTwbFromTwbx calls wuid dst).Ends state
      (fun value final => Steady state final ∧ match value with
        | none => calls.Jams .zip
        | some dstTwb => calls.Extracts .zip ∧ dstTwb = dst.dropLast)
      fun raised final => Unmoved state final ∧ raised ≠ .badCredentials ∧
        ¬ calls.Extracts .zip ∧ ¬ calls.Jams .zip := by
  unfold extractTwbFromTwbx
  cases ran : calls.ptwbx with
  | error failure =>
    simp [called, Except.mapError, Calls.Extracts, Calls.Jams, ran, Steady.refl.toUnmoved]
  | ok body =>
    have jams : calls.Jams .zip ↔
        calls.Tidies ∧ body.error.isSome ∧ calls.eventgen 0 = none := by
      simp [Calls.Jams, ran]
    have extracts : calls.Extracts .zip ↔ calls.Tidies ∧ body.error = none := by
      simp [Calls.Extracts, ran]
    have answered (tidied : calls.Tidies) :
        (if body.error.isSome then do
          eventgen calls wuid 0 .workbookArchiveFailed
          return none
        else return some dst.dropLast : ArchiveWork Content (Option Path)).Ends state
          (fun value final => Steady state final ∧ match value with
            | none => calls.Jams .zip
            | some dstTwb => calls.Extracts .zip ∧ dstTwb = dst.dropLast)
          fun raised final => Unmoved state final ∧ raised ≠ .badCredentials ∧
            ¬ calls.Extracts .zip ∧ ¬ calls.Jams .zip := by
      rw [ends_ite, jams, extracts]
      split
      next failed =>
        rw [ends_bind]
        refine (eventgen_ends calls wuid 0 _).mono (fun _ _ written => ?_) fun _ _ unwritten => ?_
        · exact ⟨written.1, tidied, failed, written.2⟩
        · exact ⟨unwritten.1, unwritten.2.1, fun extracts => by simp [extracts.2] at failed,
            fun jams => unwritten.2.2 jams.2.2⟩
      next extracted => exact ⟨Steady.refl, ⟨tidied, by simpa using extracted⟩, rfl⟩
    simp only [called, Except.mapError, ends_bind, ends_settle_ok]
    cases kept : calls.archiveSaveTwbx with
    | true => exact answered (.inl kept)
    | false =>
      have tidies : calls.Tidies ↔
          ∀ failure, calls.deleteTwbx = some failure → failure.isIOError := by
        simp [Calls.Tidies, kept]
      simp only [Bool.not_false, if_true, ends_bind]
      refine (raiseUnlessIOError_ends calls.deleteTwbx).mono (fun _ _ passed => ?_)
        fun _ _ failed => ?_
      · obtain ⟨rfl, tidied⟩ := passed
        exact answered (tidies.mpr tidied)
      · obtain ⟨rfl, other, failed⟩ := failed
        exact ⟨Steady.refl.toUnmoved, other, fun extracts => failed (tidies.mp extracts.1),
          fun jams => failed (tidies.mp jams.1)⟩

/-- The twb file is made of the fetched one, an event says that it cannot be, or something is
raised. -/
theorem twbFiles_ends (wuid : Nat) (dst : Path) (type : FileType) :
    (twbFiles calls wuid dst type).Ends state
      (fun value final => Steady state final ∧ match value with
        | none => calls.Jams type
        | some (dstTwb, dstTwbx) => calls.Extracts type ∧ dstTwb = dst.dropLast ∧
            (dstTwbx.isSome ↔ type = .zip))
      fun raised final => Unmoved state final ∧ raised ≠ .badCredentials ∧ ¬ calls.Extracts type ∧
        ¬ calls.Jams type := by
  cases type with
  | xml =>
    rw [twbFiles, ends_bind]
    refine (raiseIf_ends calls.move).mono (fun _ _ passed => ?_) fun _ _ failed => ?_
    · obtain ⟨rfl, moved⟩ := passed
      exact ⟨Steady.refl, moved, rfl, by simp⟩
    · obtain ⟨rfl, other, failed⟩ := failed
      exact ⟨Steady.refl.toUnmoved, other, failed, id⟩
  | zip =>
    rw [twbFiles, ends_bind]
    refine (extractTwbFromTwbx_ends calls wuid dst).mono (fun value _ passed => ?_)
      fun _ _ failed => failed
    cases value with
    | none => exact passed
    | some dstTwb => exact ⟨passed.1, passed.2.1, passed.2.2, by simp⟩

/-- A file is placed with an entry, or something is raised. -/
theorem placed_ends (placing : Placing) :
    (archiveFile placing >>= placedFileid : ArchiveWork Content Nat).Ends state
      (fun _ final => final = state ∧ placing.Places)
      fun raised final => final = state ∧ raised ≠ .badCredentials ∧ ¬ placing.Places := by
  have placed : (called placing.place >>= placedFileid : ArchiveWork Content Nat).Ends state
      (fun _ final => final = state ∧ ∃ fileid, placing.place = .ok (some fileid))
      fun raised final => final = state ∧ raised ≠ .badCredentials ∧
        ¬ ∃ fileid, placing.place = .ok (some fileid) := by
    cases placing.place with
    | error failure => simp [called, Except.mapError]
    | ok place => cases place <;> simp [called, Except.mapError, placedFileid]
  obtain ⟨filesize, place⟩ := placing
  cases filesize with
  | error failure =>
    cases caught : failure.isIOError with
    | true => simpa [archiveFile, raiseUnlessIOError, caught, Placing.Places, Placing.Sized] using placed
    | false => simp [archiveFile, raiseUnlessIOError, caught, Placing.Places, Placing.Sized]
  | ok body =>
    by_cases unsized : body.error = none ∧ body.size = none
    · have missing : ¬ Placing.Sized ⟨.ok body, place⟩ := by
        simp [Placing.Sized, unsized.1, unsized.2]
      simp [archiveFile, Placing.Places, missing, unsized]
    · have sized : Placing.Sized ⟨.ok body, place⟩ := by
        rcases body with ⟨error, size⟩
        cases error <;> cases size <;> simp_all [Placing.Sized]
      simpa [archiveFile, Placing.Places, sized, unsized] using placed

/-- A script goes on from a file that is placed with an entry. -/
theorem ends_place {Result : Type} {placing : Placing} {next : Nat → ArchiveWork Content Result}
    {returned : Result → Archiving Content → Prop} {raised : Raised → Archiving Content → Prop}
    (placed : placing.Places → ∀ fileid, (next fileid).Ends state returned raised)
    (unplaced : ¬ placing.Places → ∀ failure, failure ≠ .badCredentials → raised failure state) :
    (archiveFile placing >>= fun place => placedFileid place >>= next).Ends state returned
      raised := by
  rw [← bind_assoc, ends_bind]
  refine (placed_ends placing).mono (fun fileid _ places => ?_) fun failure _ failed => ?_
  · obtain ⟨rfl, places⟩ := places
    exact placed places fileid
  · obtain ⟨rfl, other, failed⟩ := failed
    exact unplaced failed failure other

/-- The twb file is stored, it cannot be copied, or something is raised. -/
theorem placeTwb_ends (wuid : Nat) (dstTwb : Path) (dstTwbx : Option Path) :
    (placeTwb calls wuid dstTwb dstTwbx).Ends state
      (fun value final => Steady state final ∧ match value with
        | none => calls.Uncopied
        | some stored => calls.Stores dstTwbx.isSome ∧ stored = dstTwb)
      fun raised final => Unmoved state final ∧ raised ≠ .badCredentials ∧ ¬ calls.Uncopied ∧
        ¬ calls.Stores dstTwbx.isSome := by
  unfold placeTwb copyTwbToController
  cases got : calls.get with
  | error failure =>
    cases caught : failure.isIOError with
    | true => simp [caught, Calls.Uncopied, got, Steady.refl]
    | false => simp [caught, Calls.Uncopied, Calls.Stores, got, Steady.refl.toUnmoved]
  | ok contents =>
    have copied : ¬ calls.Uncopied := by simp [Calls.Uncopied, got]
    have urls : ∀ change : UpdateEntry Content → UpdateEntry Content,
        (∀ entry, (change entry).url = entry.url) → ∀ middle, Steady state middle →
          Steady state (middle.revise wuid change) :=
      fun change spares middle steady => steady.trans (Steady.revise wuid spares)
    have begun := urls (fun entry => { entry with twb := some contents }) (fun _ => rfl) _ .refl
    simp only [bind_assoc, pure_bind, if_true]
    rw [ends_bind, ends_modify]
    refine ends_place (fun twb fileid => ?_) fun untwb failure other =>
      ⟨begun.toUnmoved, other, copied, fun stores => untwb stores.2.1⟩
    rw [ends_bind, ends_modify]
    have entered := urls (fun entry => { entry with fileid := some fileid }) (fun _ => rfl) _ begun
    rw [ends_ite]
    split
    next keeps =>
      refine ends_place (fun twbx fileidTwbx => ?_) fun untwbx failure other =>
        ⟨entered.toUnmoved, other, copied, fun stores => untwbx (stores.2.2 keeps.1 keeps.2)⟩
      exact ⟨urls (fun entry => { entry with fileidTwbx := some fileidTwbx }) (fun _ => rfl) _
        entered, ⟨⟨contents, got⟩, twb, fun _ _ => twbx⟩, rfl⟩
    next drops =>
      exact ⟨entered, ⟨⟨contents, got⟩, twb, fun twbx kept => absurd ⟨twbx, kept⟩ drops⟩, rfl⟩

/-- No type of a file says that credentials are refused. -/
theorem getArchiveFileType_ne : getArchiveFileType calls ≠ .error .badCredentials := by
  have compared : ∀ bytes signature, beginsWith bytes signature ≠ .error .badCredentials := by
    intro bytes signature
    fun_induction beginsWith bytes signature <;> simp_all
  intro refused
  cases asked : calls.filetype with
  | error failure =>
    cases caught : failure.isIOError <;>
      simp [getArchiveFileType, asked, caught, bind, Except.bind] at refused
  | ok body =>
    obtain ⟨type, signature⟩ := body
    cases type with
    | none => simp [getArchiveFileType, asked, bind, Except.bind] at refused
    | some type =>
      by_cases zip : type = ['Z', 'I', 'P']
      · simp [getArchiveFileType, asked, zip, bind, Except.bind, pure, Except.pure] at refused
      · cases signature with
        | none => simp [getArchiveFileType, asked, zip, bind, Except.bind] at refused
        | some signature =>
          cases begins : beginsWith [60, 63, 120, 109, 108] signature with
          | error raised =>
            simp [getArchiveFileType, asked, zip, begins, bind, Except.bind] at refused
            exact compared _ _ (begins.trans (congrArg _ refused))
          | ok begun =>
            cases begun <;> simp [getArchiveFileType, asked, zip, begins, bind, Except.bind, pure,
              Except.pure] at refused

/-- What a fetched file comes to. -/
theorem buildFetched_ends (agent : Agent) (wuid : Nat) {tmpdir dst : Path}
    (checked : calls.diskCheck = .ok tmpdir) (fetches : calls.Fetches)
    (named : calls.twbName agent = some (agent.basename dst.dropLast)) :
    (match getArchiveFileType calls with
      | .error (.other failure) =>
        if failure.isIOError then do
          eventgen calls wuid 0 .workbookArchiveFailed
          return none
        else throw (.other failure)
      | .error raised => throw raised
      | .ok type => do
        match ← twbFiles calls wuid dst type with
        | none => return none
        | some (dstTwb, dstTwbx) => placeTwb calls wuid dstTwb dstTwbx :
          ArchiveWork Content (Option Path)).Ends state
      (fun value final => Steady state final ∧ match value with
        | none => calls.GivesUp
        | some stored => calls.Builds ∧ calls.twbName agent = some (agent.basename stored))
      fun raised final => Unmoved state final ∧ ¬ calls.Builds ∧ ¬ calls.GivesUp ∧
        raised ≠ .badCredentials := by
  have checks : ∀ failure, calls.diskCheck ≠ .error failure := by simp [checked]
  have unforgone := fetches.not_forgoes
  cases typed : getArchiveFileType calls with
  | error raised =>
    have builds : ¬ calls.Builds := by simp [Calls.Builds, typed]
    have givesUp : calls.GivesUp ↔ calls.eventgen 0 = none ∧
        ∃ failure, raised = .other failure ∧ failure.isIOError := by
      simp [Calls.GivesUp, checks, unforgone, fetches, typed]
    rw [givesUp]
    cases raised with
    | badCredentials => exact absurd typed (getArchiveFileType_ne calls)
    | indexError =>
      exact ⟨Steady.refl.toUnmoved, builds, fun given => by simp at given, Raised.noConfusion⟩
    | other failure =>
      dsimp only
      rw [ends_ite]
      split
      next caught =>
        rw [ends_bind]
        refine (eventgen_ends calls wuid 0 _).mono (fun _ _ written => ?_) fun _ _ failed => ?_
        · exact ⟨written.1, written.2, failure, rfl, caught⟩
        · exact ⟨failed.1, builds, fun given => failed.2.2 given.1, failed.2.1⟩
      next uncaught =>
        exact ⟨Steady.refl.toUnmoved, builds, fun given => uncaught (by simpa using given.2),
          Raised.noConfusion⟩
  | ok type =>
    have builds : calls.Builds ↔ calls.Extracts type ∧ calls.Stores (type = .zip) := by
      simp [Calls.Builds, fetches, typed]
    have givesUp : calls.GivesUp ↔ calls.Jams type ∨ calls.Extracts type ∧ calls.Uncopied := by
      simp [Calls.GivesUp, checks, unforgone, fetches, typed]
    rw [builds, givesUp]
    dsimp only
    rw [ends_bind]
    refine (twbFiles_ends calls wuid dst type).mono (fun value middle made => ?_)
      fun _ _ failed => ?_
    · rcases value with _ | ⟨dstTwb, dstTwbx⟩
      · exact ⟨made.1, .inl made.2⟩
      · obtain ⟨steady, extracts, rfl, kept⟩ := made
        refine (placeTwb_ends calls wuid _ dstTwbx).mono (fun value _ placed => ?_)
          fun _ _ failed => ?_
        · cases value with
          | none => exact ⟨steady.trans placed.1, .inr ⟨extracts, placed.2⟩⟩
          | some stored =>
            obtain ⟨placed, stores, rfl⟩ := placed
            rw [propext kept] at stores
            exact ⟨steady.trans placed, ⟨extracts, stores⟩, named⟩
        · obtain ⟨unmoved, other, copied, unstored⟩ := failed
          rw [propext kept] at unstored
          exact ⟨steady.toUnmoved.trans unmoved, fun both => unstored both.2,
            fun given => given.elim extracts.not_jams fun both => copied both.2, other⟩
    · exact ⟨failed.1, fun both => failed.2.2.1 both.1,
        fun given => given.elim failed.2.2.2 fun both => failed.2.2.1 both.1, failed.2.1⟩

/-- The file is built, it is given up, or something is raised. -/
theorem buildTwb_ends (agent : Agent) (wuid : Nat) (workbook : calls.workbook = true) :
    (buildTwb calls agent wuid).Ends state
      (fun value final => Steady state final ∧ match value with
        | none => calls.GivesUp
        | some stored => calls.Builds ∧ calls.twbName agent = some (agent.basename stored))
      fun raised final => Unmoved state final ∧ ¬ calls.Builds ∧ ¬ calls.GivesUp ∧
        (raised = .badCredentials ↔ calls.Refused) := by
  unfold buildTwb
  cases checked : calls.diskCheck with
  | error failure =>
    have unrun : ∀ tmpdir filename body, ¬ calls.Runs tmpdir filename body := by
      simp [Calls.Runs, checked]
    have unfetched : ¬ calls.Fetches := by simp [Calls.Fetches, unrun]
    have unrefused : ¬ calls.Refused := by simp [Calls.Refused, unrun]
    have givesUp : calls.GivesUp ↔ calls.eventgen 0 = none ∧ failure.isDiskException := by
      simp [Calls.GivesUp, Calls.Forgoes, unrun, unfetched, workbook, checked]
    have unbuilt : ¬ calls.Builds := fun builds => unfetched builds.1
    rw [givesUp]
    dsimp only
    rw [ends_ite]
    split
    next caught =>
      rw [ends_bind]
      refine (eventgen_ends calls wuid 0 _).mono (fun _ _ written => ?_) fun raised _ failed => ?_
      · exact ⟨written.1, written.2, caught⟩
      · exact ⟨failed.1, unbuilt, fun givesUp => failed.2.2 givesUp.1,
          iff_of_false failed.2.1 unrefused⟩
    next uncaught =>
      exact ⟨Steady.refl.toUnmoved, unbuilt, fun givesUp => uncaught givesUp.2,
        iff_of_false Raised.noConfusion unrefused⟩
  | ok tmpdir =>
    dsimp only
    rw [ends_bind]
    refine (tabcmdGet_ends calls agent wuid workbook checked).mono (fun value middle got => ?_)
      fun raised _ failed => ?_
    · cases value with
      | none => exact ⟨got.1, .inr (.inl got.2)⟩
      | some dst =>
        obtain ⟨steady, fetches, named⟩ := got
        exact (buildFetched_ends calls agent wuid checked fetches named).mono
          (fun _ _ built => ⟨steady.trans built.1, built.2⟩)
          fun _ _ failed => ⟨steady.toUnmoved.trans failed.1, failed.2.1, failed.2.2.1,
            iff_of_false failed.2.2.2 fun refused => refused.not_fetches fetches⟩
    · obtain ⟨unmoved, unfetched, unforgone, bad⟩ := failed
      refine ⟨unmoved, fun builds => unfetched builds.1, ?_, bad⟩
      rintro (unchecked | forgoes | untyped | unmade)
      · obtain ⟨_, _, failure, failed, _⟩ := unchecked
        cases failed.symm.trans checked
      · exact unforgone forgoes
      · exact unfetched untyped.1
      · exact unfetched unmade.1

/-- An update is archived, it is given up, or something is raised. -/
theorem archiveWb_ends (agent : Agent) (wuid : Nat) :
    (archiveWb calls agent wuid).Ends state
      (fun _ final => final.attempted = state.attempted ∧ final.retainCount = state.retainCount ∧
        (∀ other, other ≠ wuid → (final.entries other).url = (state.entries other).url) ∧
        (calls.Succeeds ∧ (final.entries wuid).url = calls.twbName agent ∨
          calls.GivesUp ∧ (final.entries wuid).url = (state.entries wuid).url))
      fun raised final => (raised = .badCredentials → Unmoved state final) ∧ ¬ calls.Succeeds ∧
        ¬ calls.GivesUp ∧ (raised = .badCredentials ↔ calls.Refused) := by
  unfold archiveWb
  cases workbook : calls.workbook with
  | false =>
    have unrun : ∀ tmpdir filename body, ¬ calls.Runs tmpdir filename body := by
      simp [Calls.Runs, workbook]
    have unfetched : ¬ calls.Fetches := by simp [Calls.Fetches, unrun]
    have givesUp : ¬ calls.GivesUp := by
      simp [Calls.GivesUp, Calls.Forgoes, unrun, unfetched, workbook]
    exact ⟨fun _ => Steady.refl.toUnmoved, fun succeeds => unfetched succeeds.1.1, givesUp,
      iff_of_false Raised.noConfusion fun refused => by simp [Calls.Refused, unrun] at refused⟩
  | true =>
    simp only [if_true]
    rw [ends_bind]
    refine (buildTwb_ends calls agent wuid workbook).mono (fun value middle built => ?_)
      fun _ _ failed => ⟨fun _ => failed.1, fun succeeds => failed.2.1 succeeds.1, failed.2.2⟩
    cases value with
    | none =>
      obtain ⟨steady, givesUp⟩ := built
      exact ⟨steady.attempted, steady.retainCount, fun other _ => steady.urls other,
        .inr ⟨givesUp, steady.urls wuid⟩⟩
    | some stored =>
      obtain ⟨steady, builds, named⟩ := built
      dsimp only
      rw [ends_bind, ends_modify]
      refine (raiseIf_ends calls.commit).mono (fun _ _ passed => ?_) fun raised _ failed => ?_
      · obtain ⟨rfl, committed⟩ := passed
        refine ⟨steady.attempted, steady.retainCount, fun other different => ?_,
          .inl ⟨⟨builds, committed⟩, ?_⟩⟩
        · simpa [Archiving.revise, different] using steady.urls other
        · simp [Archiving.revise, named]
      · exact ⟨fun same => absurd same failed.2.1, fun succeeds => failed.2.2 succeeds.2,
          builds.not_givesUp, iff_of_false failed.2.1 fun refused => refused.not_fetches builds.1⟩

end Stages

/-! ## The loop -/

section Loop

variable (calls : Nat → Calls Content) (agent : Agent)

open Classical in
/-- The updates that are due: those up to the first one whose credentials are refused, as long
as archives are to be kept. -/
noncomputable def dueUpdates : List Nat → Int → List Nat
  | [], _ => []
  | wuid :: rest, count =>
    let count := (calls wuid).retainCount.getD count
    if count = 0 then [] else if (calls wuid).Refused then [wuid]
    else wuid :: dueUpdates rest count

/-- The loop comes to the update and goes on or stops as it should. -/
def Passes (wuid : Nat) : Prop :=
  (calls wuid).odbcOk = true ∧ (calls wuid).refresh = none ∧
    ((calls wuid).Succeeds ∨ (calls wuid).GivesUp ∨ (calls wuid).Refused)

open Classical in
/-- The url of an update after the due ones were attempted. -/
noncomputable def urlAfter (due : List Nat) (initial : Archiving Content) (wuid : Nat) :
    Option Path :=
  if wuid ∈ due ∧ (calls wuid).Succeeds then (calls wuid).twbName agent
  else (initial.entries wuid).url

variable {calls agent}

/-- What succeeds is not refused. -/
theorem Calls.Succeeds.not_refused {calls : Calls Content} (succeeds : calls.Succeeds) :
    ¬ calls.Refused := fun refused => refused.not_fetches succeeds.1.1

/-- What is due is one of the updates. -/
theorem mem_of_mem_dueUpdates {updates : List Nat} {count : Int} {wuid : Nat}
    (due : wuid ∈ dueUpdates calls updates count) : wuid ∈ updates := by
  induction updates generalizing count with
  | nil => exact due
  | cons first rest inductionHypothesis =>
    unfold dueUpdates at due
    dsimp only at due
    split_ifs at due
    · exact absurd due List.not_mem_nil
    · exact List.mem_singleton.mp due ▸ List.mem_cons_self
    · rcases List.mem_cons.mp due with rfl | behind
      · exact List.mem_cons_self
      · exact List.mem_cons_of_mem _ (inductionHypothesis behind)

open Classical in
/-- The loop attempts the due updates if each of them passes, and counts those that are not
refused. -/
theorem archiveLoop_ends {updates : List Nat} (distinct : updates.Nodup) (count : Nat)
    (state : Archiving Content) :
    (archiveLoop calls agent updates count).Ends state
      (fun result final =>
        (final.attempted = state.attempted ++ dueUpdates calls updates state.retainCount ↔
          ∀ wuid ∈ dueUpdates calls updates state.retainCount, Passes calls wuid) ∧
        ((∀ wuid ∈ dueUpdates calls updates state.retainCount, Passes calls wuid) →
          result.1 = count + ((dueUpdates calls updates state.retainCount).filter
            fun wuid => ¬ (calls wuid).Refused).length ∧
          ∀ wuid, (final.entries wuid).url =
            urlAfter calls agent (dueUpdates calls updates state.retainCount) state wuid))
      fun _ _ => ¬ ∀ wuid ∈ dueUpdates calls updates state.retainCount, Passes calls wuid := by
  induction updates generalizing count state with
  | nil =>
    simp [archiveLoop, dueUpdates, urlAfter]
  | cons wuid rest inductionHypothesis =>
    unfold archiveLoop dueUpdates
    generalize kept : (calls wuid).retainCount.getD state.retainCount = retainCount
    rw [ends_bind, ends_modify, ends_bind, ends_get]
    dsimp only
    rw [kept, ends_ite]
    by_cases off : retainCount = 0
    · simp [off, urlAfter]
    rw [if_neg off, if_neg off, ends_ite]
    generalize dueIs : (if (calls wuid).Refused then [wuid]
      else wuid :: dueUpdates calls rest retainCount) = due
    have comes : wuid ∈ due := by
      rw [← dueIs]
      split <;> exact List.mem_cons_self
    split
    next stopped =>
      have blocked : ¬ ∀ other ∈ due, Passes calls other := fun all => by
        simp [(all wuid comes).1] at stopped
      refine ⟨iff_of_false (fun same => ?_) blocked, fun all => absurd all blocked⟩
      rw [List.self_eq_append_right.mp same] at comes
      exact List.not_mem_nil comes
    next going =>
      rw [ends_bind]
      refine (raiseIf_ends _).mono (fun _ fresh passed => ?_)
        fun _ _ failed all => failed.2.2 (all wuid comes).2.1
      obtain ⟨rfl, refreshed⟩ := passed
      rw [ends_bind, ends_modify, ends_bind, ends_attempt]
      refine (archiveWb_ends (calls wuid) agent wuid).mono (fun _ middle worked => ?_)
        fun raised middle failed => ?_
      · obtain ⟨attempted, stillKept, others, outcome⟩ := worked
        have unrefused : ¬ (calls wuid).Refused := by
          rcases outcome with ⟨succeeds, _⟩ | ⟨givesUp, _⟩
          · exact succeeds.not_refused
          · exact fun refused => refused.not_givesUp givesUp
        have passes : Passes calls wuid := ⟨by simpa using going, refreshed, by tauto⟩
        rw [if_neg unrefused] at dueIs
        subst dueIs
        have continued := inductionHypothesis (List.nodup_cons.mp distinct).2 (count + 1) middle
        rw [stillKept] at continued
        dsimp only at attempted continued ⊢
        rw [attempted, List.append_assoc, List.singleton_append] at continued
        have restPasses : (∀ other ∈ wuid :: dueUpdates calls rest retainCount,
            Passes calls other) ↔ ∀ other ∈ dueUpdates calls rest retainCount,
            Passes calls other := by
          rw [List.forall_mem_cons, and_iff_right passes]
        rw [restPasses]
        refine continued.mono (fun result final goes => ⟨goes.1, fun all => ?_⟩) fun _ _ fails => fails
        obtain ⟨total, urls⟩ := goes.2 all
        refine ⟨?_, fun other => (urls other).trans ?_⟩
        · rw [total, List.filter_cons_of_pos (by simpa using unrefused), List.length_cons]
          omega
        · by_cases same : other = wuid
          · subst same
            have passed : other ∉ dueUpdates calls rest retainCount := fun due =>
              (List.nodup_cons.mp distinct).1 (mem_of_mem_dueUpdates due)
            rcases outcome with ⟨succeeds, set⟩ | ⟨givesUp, unset⟩
            · simp [urlAfter, passed, succeeds, set]
            · have fails : ¬ (calls other).Succeeds := fun succeeds =>
                succeeds.1.not_givesUp givesUp
              simp [urlAfter, fails, unset]
          · simp [urlAfter, same, others other same]
      · obtain ⟨unmoved, unarchived, kept, bad⟩ := failed
        by_cases refused : raised = .badCredentials
        · rw [if_pos (by simpa using refused)]
          have credentials := bad.mp refused
          have passes : Passes calls wuid := ⟨by simpa using going, refreshed, .inr (.inr credentials)⟩
          rw [if_pos credentials] at dueIs
          subst dueIs
          refine ⟨iff_of_true (unmoved refused).attempted (by simpa using passes), fun _ => ⟨?_, ?_⟩⟩
          · simp [credentials]
          · intro other
            rw [urlAfter, if_neg, (unmoved refused).urls other]
            rintro ⟨listed, succeeds⟩
            rw [List.mem_singleton.mp listed] at succeeds
            exact unarchived succeeds
        · rw [if_neg (by simpa using refused)]
          intro all
          rcases (all wuid comes).2.2 with succeeds | givesUp | credentials
          · exact unarchived succeeds
          · exact kept givesUp
          · exact refused (bad.mpr credentials)

/-! ## The batch -/

/-- There is no url. -/
def IsUnset (url : Option Path) : Prop := url = none ∨ url = some []

/-- The due updates were attempted, and those that succeed have got their urls. -/
structure GoesOn (calls : Nat → Calls Content) (agent : Agent) (due : List Nat)
    (initial final : Archiving Content) : Prop where
  attempted : final.attempted = initial.attempted ++ due
  unset : ∀ wuid ∈ due, ¬ (calls wuid).Succeeds → IsUnset (final.entries wuid).url
  set : ∀ wuid ∈ due, (calls wuid).Succeeds → ∃ name,
    (calls wuid).twbName agent = some name ∧ (final.entries wuid).url = some name

/-- What succeeds has a name. -/
theorem Calls.Succeeds.named {calls : Calls Content} (succeeds : calls.Succeeds) (agent : Agent) :
    ∃ name, calls.twbName agent = some name := by
  obtain ⟨tmpdir, filename, _, runs, _⟩ := succeeds.1.1
  exact ⟨_, by rw [twbName, runs.2.1, runs.2.2.1]⟩

/-- Where one condition is stronger than another one, they keep equally many items if no item
meets the weaker one alone. -/
theorem length_filter_eq_iff {Item : Type} {items : List Item} {strong weak : Item → Prop}
    [DecidablePred strong] [DecidablePred weak]
    (weaker : ∀ item ∈ items, strong item → weak item) :
    (items.filter fun item => strong item).length = (items.filter fun item => weak item).length ↔
      ∀ item ∈ items, weak item → strong item := by
  have nested : items.filter (fun item => strong item) =
      (items.filter fun item => weak item).filter fun item => strong item := by
    rw [List.filter_filter]
    refine List.filter_congr fun item listed => ?_
    have weaker := weaker item listed
    by_cases strong item <;> simp_all
  rw [nested, List.length_filter_eq_length_iff]
  simp [List.mem_filter]

open Classical in
/-- The batch returns where every due update passes, unless the retention fails. -/
theorem archiveUpdates_ends {updates : List Nat} (distinct : updates.Nodup)
    (retainSome : Except Failure Nat) (archiving : Archiving Content)
    (unset : ∀ wuid ∈ updates, IsUnset (archiving.entries wuid).url) :
    (archiveUpdates calls agent retainSome updates).Ends archiving
      (fun data final =>
        (GoesOn calls agent (dueUpdates calls updates archiving.retainCount) archiving final ↔
          ∀ wuid ∈ dueUpdates calls updates archiving.retainCount, Passes calls wuid) ∧
        ((∀ wuid ∈ dueUpdates calls updates archiving.retainCount, Passes calls wuid) →
          data.updatesArchived = ((dueUpdates calls updates archiving.retainCount).filter
            fun wuid => ¬ (calls wuid).Refused).length) ∧
        (0 < data.updatesArchived → ∃ removed, retainSome = .ok removed))
      fun _ _ => ¬ ((∀ wuid ∈ dueUpdates calls updates archiving.retainCount, Passes calls wuid) ∧
        (0 < ((dueUpdates calls updates archiving.retainCount).filter
          fun wuid => ¬ (calls wuid).Refused).length → ∃ removed, retainSome = .ok removed)) := by
  unfold archiveUpdates
  rw [ends_bind]
  refine (archiveLoop_ends distinct 0 archiving).mono (fun result final loop => ?_)
    fun _ _ fails both => fails both.1
  obtain ⟨count, refused⟩ := result
  have goesOn : GoesOn calls agent (dueUpdates calls updates archiving.retainCount) archiving final ↔
      ∀ wuid ∈ dueUpdates calls updates archiving.retainCount, Passes calls wuid := by
    refine ⟨fun goesOn => loop.1.mp goesOn.attempted, fun all => ⟨loop.1.mpr all, ?_, ?_⟩⟩
    · intro wuid due fails
      rw [(loop.2 all).2 wuid, urlAfter, if_neg fun both => fails both.2]
      exact unset wuid (mem_of_mem_dueUpdates due)
    · intro wuid due succeeds
      rw [(loop.2 all).2 wuid, urlAfter, if_pos ⟨due, succeeds⟩]
      obtain ⟨name, named⟩ := succeeds.named agent
      exact ⟨name, named, named⟩
  rw [Nat.zero_add] at loop
  dsimp only at loop ⊢
  split
  next some =>
    cases retained : retainSome with
    | ok removed =>
      simp only [called, Except.mapError, ends_bind, ends_settle_ok, ends_pure]
      exact ⟨goesOn, fun all => (loop.2 all).1, fun _ => ⟨removed, rfl⟩⟩
    | error failure =>
      simp only [called, Except.mapError, ends_bind, ends_settle_error]
      rintro ⟨all, retains⟩
      rw [(loop.2 all).1] at some
      obtain ⟨removed, same⟩ := retains some
      cases same
  next none =>
    exact ⟨goesOn, fun all => (loop.2 all).1, fun some => absurd some none⟩

open Classical in
/-- Without the count: the batch goes on past each bad update exactly where what goes wrong for it
is caught. -/
theorem goes_on_iff {updates : List Nat} (distinct : updates.Nodup)
    (retainSome : Except Failure Nat) (archiving : Archiving Content)
    (unset : ∀ wuid ∈ updates, IsUnset (archiving.entries wuid).url) :
    ((archiveUpdates calls agent retainSome updates).Completes archiving fun _ final =>
        GoesOn calls agent (dueUpdates calls updates archiving.retainCount) archiving final) ↔
      (∀ wuid ∈ dueUpdates calls updates archiving.retainCount, Passes calls wuid) ∧
      ((∃ wuid ∈ dueUpdates calls updates archiving.retainCount, ¬ (calls wuid).Refused) →
        ∃ removed, retainSome = .ok removed) := by
  have counted : (∃ wuid ∈ dueUpdates calls updates archiving.retainCount,
      ¬ (calls wuid).Refused) ↔ 0 < ((dueUpdates calls updates archiving.retainCount).filter
        fun wuid => ¬ (calls wuid).Refused).length := by
    simp [List.length_pos_iff_exists_mem, List.mem_filter]
  rw [counted]
  refine ends_iff ((archiveUpdates_ends distinct retainSome archiving unset).mono
    (fun data final ends => ?_) fun _ _ fails => iff_of_false id fails)
  obtain ⟨goesOn, count, retains⟩ := ends
  rw [goesOn]
  exact ⟨fun all => ⟨all, fun some => retains (by rwa [count all])⟩, fun both => both.1⟩

open Classical in
/-- One bad update does not stop the batch, and the number of updates that succeeded is reported,
exactly where no due update goes wrong in another way than by refused credentials. -/
theorem one_bad_update_iff {updates : List Nat} (distinct : updates.Nodup)
    (retainSome : Except Failure Nat) (archiving : Archiving Content)
    (unset : ∀ wuid ∈ updates, IsUnset (archiving.entries wuid).url) :
    ((archiveUpdates calls agent retainSome updates).Completes archiving fun data final =>
        GoesOn calls agent (dueUpdates calls updates archiving.retainCount) archiving final ∧
        data.updatesArchived = ((dueUpdates calls updates archiving.retainCount).filter
          fun wuid => (calls wuid).Succeeds).length) ↔
      (∀ wuid ∈ dueUpdates calls updates archiving.retainCount, (calls wuid).odbcOk = true ∧
        (calls wuid).refresh = none ∧ ((calls wuid).Succeeds ∨ (calls wuid).Refused)) ∧
      ((∃ wuid ∈ dueUpdates calls updates archiving.retainCount, (calls wuid).Succeeds) →
        ∃ removed, retainSome = .ok removed) := by
  have good : (∀ wuid ∈ dueUpdates calls updates archiving.retainCount,
      (calls wuid).odbcOk = true ∧ (calls wuid).refresh = none ∧
        ((calls wuid).Succeeds ∨ (calls wuid).Refused)) ↔
      (∀ wuid ∈ dueUpdates calls updates archiving.retainCount, Passes calls wuid) ∧
        ((dueUpdates calls updates archiving.retainCount).filter
          fun wuid => (calls wuid).Succeeds).length =
        ((dueUpdates calls updates archiving.retainCount).filter
          fun wuid => ¬ (calls wuid).Refused).length := by
    rw [length_filter_eq_iff fun wuid _ succeeds => succeeds.not_refused]
    refine ⟨fun all => ⟨fun wuid due => ?_, fun wuid due => (all wuid due).2.2.resolve_right⟩,
      fun both wuid due => ?_⟩
    · exact ⟨(all wuid due).1, (all wuid due).2.1, (all wuid due).2.2.imp_right .inr⟩
    · exact ⟨(both.1 wuid due).1, (both.1 wuid due).2.1,
        or_iff_not_imp_right.mpr (both.2 wuid due)⟩
  have counted : (∃ wuid ∈ dueUpdates calls updates archiving.retainCount,
      (calls wuid).Succeeds) ↔ 0 < ((dueUpdates calls updates archiving.retainCount).filter
        fun wuid => (calls wuid).Succeeds).length := by
    simp [List.length_pos_iff_exists_mem, List.mem_filter]
  rw [good, counted]
  refine ends_iff ((archiveUpdates_ends distinct retainSome archiving unset).mono
    (fun data final ends => ?_) fun _ _ fails => iff_of_false id fun both => fails ⟨both.1.1, ?_⟩)
  · obtain ⟨goesOn, count, retains⟩ := ends
    rw [goesOn]
    constructor
    · rintro ⟨all, archived⟩
      exact ⟨⟨all, archived.symm.trans (count all)⟩, fun some => retains (by rwa [archived])⟩
    · rintro ⟨⟨all, same⟩, _⟩
      exact ⟨all, (count all).trans same.symm⟩
  · rw [← both.1.2]
    exact both.2

end Loop

/-! ## Two batches -/

/-- An update that is archived. -/
def archivable : Calls Unit where
  retainCount := none
  odbcOk := true
  refresh := none
  workbook := true
  diskCheck := .ok "/archive".toList
  filename := some (.ok "sales-rev1".toList)
  siteId := 1
  site := true
  tabcmd _ := .ok ⟨none, none⟩
  eventgen _ := none
  removeWbu := none
  filetype := .ok ⟨some "ZIP".toList, some [80, 75]⟩
  ptwbx := .ok ⟨none, none⟩
  archiveSaveTwbx := false
  deleteTwbx := none
  move := none
  get := .ok ()
  twb := ⟨.ok ⟨none, some 512⟩, .ok (some 1)⟩
  twbx := ⟨.ok ⟨none, some 512⟩, .ok (some 2)⟩
  commit := none

/-- An update whose credentials are refused. -/
def unauthorized : Calls Unit :=
  { archivable with tabcmd := fun _ => .ok ⟨some "1".toList, some "Not authorized".toList⟩ }

/-- An update for which there is no room. -/
def unplaceable : Calls Unit :=
  { archivable with diskCheck := .error ⟨.diskException, "disk full"⟩ }

/-- Two updates without urls, of which three versions are kept. -/
def unarchived : Archiving Unit := ⟨fun _ => ⟨none, none, none, none⟩, [], 3, [], []⟩

theorem archivable_succeeds : archivable.Succeeds := by
  refine ⟨⟨⟨_, _, _, ⟨rfl, rfl, rfl, rfl⟩, rfl⟩, .zip, ?_, ⟨.inr ?_, _, rfl, rfl⟩, ⟨_, rfl⟩,
    ⟨.inr rfl, _, rfl⟩, ?_⟩, rfl⟩
  · rfl
  · exact fun failure failed => by cases failed
  · exact fun _ kept => by cases kept

theorem unauthorized_refused : unauthorized.Refused :=
  ⟨_, _, _, ⟨rfl, rfl, rfl, rfl⟩, rfl, by decide +kernel, rfl, rfl⟩

theorem unplaceable_fails : ¬ unplaceable.Succeeds := by
  rintro ⟨⟨⟨_, _, _, runs, _⟩, _⟩, _⟩
  cases runs.2.1

open Classical in
/-- A batch of an update that is archived and one that is refused. -/
theorem refused_batch_reported :
    (archiveUpdates (fun wuid => if wuid = 0 then archivable else unauthorized) ⟨1, false⟩ (.ok 0)
        [0, 1]).Completes unarchived fun data final =>
      GoesOn (fun wuid => if wuid = 0 then archivable else unauthorized) ⟨1, false⟩
        (dueUpdates (fun wuid => if wuid = 0 then archivable else unauthorized) [0, 1] 3)
        unarchived final ∧
      data.updatesArchived =
        ((dueUpdates (fun wuid => if wuid = 0 then archivable else unauthorized) [0, 1] 3).filter
          fun wuid => (if wuid = 0 then archivable else unauthorized).Succeeds).length := by
  refine (one_bad_update_iff (by decide) (.ok 0) unarchived fun _ _ => .inl rfl).mpr
    ⟨fun wuid _ => ?_, fun _ => ⟨0, rfl⟩⟩
  split
  · exact ⟨rfl, rfl, .inl archivable_succeeds⟩
  · exact ⟨rfl, rfl, .inr unauthorized_refused⟩

open Classical in
/-- An update for which there is no room is counted as archived. -/
theorem unplaceable_counted :
    ¬ (archiveUpdates (fun _ => unplaceable) ⟨1, false⟩ (.ok 0) [0]).Completes unarchived
      fun data final =>
        GoesOn (fun _ => unplaceable) ⟨1, false⟩ (dueUpdates (fun _ => unplaceable) [0] 3)
          unarchived final ∧
        data.updatesArchived = ((dueUpdates (fun _ => unplaceable) [0] 3).filter
          fun _ => unplaceable.Succeeds).length := by
  intro completes
  have archived : (archiveUpdates (fun _ => unplaceable) ⟨1, false⟩ (.ok 0) [0]).Completes
      unarchived fun data _ => data.updatesArchived = 1 := rfl
  refine (ends_const _).mp ((Ends.and completes archived).mono (fun data final both => ?_)
    fun _ _ raised => raised.1)
  obtain ⟨⟨_, count⟩, one⟩ := both
  rw [one, List.filter_eq_nil_iff.mpr fun _ _ => by simpa using unplaceable_fails] at count
  exact absurd count (by decide)

end Palette.Archives
