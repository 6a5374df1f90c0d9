import Palette.Files.PlaceFile

/-!
# A placed file is where the catalogue says

Placing a file is truthful if it adds one row, the row names a place with a complete copy of
the file, the original is only gone if that place is another one, and the row is what the
placement returns.

It is truthful unless something raises, the volume of the path is not found, or the download
was one of another file or was saved under another name.
-/

namespace Palette.Files

open Palette.Commands (Failure)
open Palette.Foundation

variable {Content : Type}

/-- What is expected of a placement. -/
structure Truthful (order : Order Content) (before : Store Content) (content : Content)
    (placement : Placement) (final : Store Content) (entry : FileEntry) (location : Location) :
    Prop where
  placed : placement.placedFileEntry = some entry
  added : final.rows = before.rows ++ [entry]
  located : order.volumes.locate entry = some location
  complete : final.contents location = some content
  elsewhere : final.contents order.original ≠ before.contents order.original →
    location ≠ order.original

/-! ## Copying to another agent -/

namespace Network

variable (network : Network Content) (source : Agent) (sourcePath : Path)

/-- Both agents are connected, and there is something to ask for. -/
def Connected : Prop :=
  sourcePath ≠ [] ∧ network.sourceConnected = true ∧ network.targetConnected = true

/-- The firewall lets the download pass. Only an agent with Windows has one. -/
def Passes : Prop := source.iswin = true → network.firewall = .ok none

/-- The download is made. -/
def Starts : Prop :=
  network.Connected sourcePath ∧ network.Passes source ∧ network.mkdirs = .ok () ∧
    network.sourceKnown = true

/-- Some request of the copy raises what is not caught. -/
def Raises : Prop :=
  network.Connected sourcePath ∧
    ((source.iswin = true ∧ ∃ failure, network.firewall = .error failure) ∨
      (network.Passes source ∧ ∃ failure, network.mkdirs = .error failure ∧
        isMkdirsError failure = false) ∨
      (network.Starts source sourcePath ∧ ∃ failure left, network.command = .raised failure left))

/-- The download completes with a content. -/
def Fetches (store : Store Content) (content : Content) : Prop :=
  network.Starts source sourcePath ∧ network.command = .completed ∧
    (network.served sourcePath).bind (fun path => store.contents (.volume source.agentid path)) =
      some content

end Network

/-- Where a download is saved. -/
def savedAt (target : Agent) (sourcePath targetDir : Path) (network : Network Content) : Location :=
  .volume target.agentid (target.join targetDir (network.savedName sourcePath))

/-- A copy that does not raise reports an error and only touches the place where it was to be
saved, or it fetches a content and saves it there. -/
structure Answered (source target : Agent) (sourcePath targetDir : Path)
    (network : Network Content) (store : Store Content) (answer : Option String)
    (final : Store Content) : Prop where
  quiet : ¬ network.Raises source sourcePath
  reported : answer ≠ none → (∀ content, ¬ network.Fetches source sourcePath store content) ∧
    (final = store ∨
      ∃ left, final = store.put (savedAt target sourcePath targetDir network) left)
  fetched : answer = none → ∃ content, network.Fetches source sourcePath store content ∧
    final = store.put (savedAt target sourcePath targetDir network) (some content)

section Copying

variable {source target : Agent} {sourcePath targetDir : Path} {network : Network Content}
  {store : Store Content}

/-- A copy that is given up before the download reports an error. -/
theorem answered_unstarted (quiet : ¬ network.Raises source sourcePath)
    (unstarted : ¬ network.Starts source sourcePath) (error : String) :
    Answered source target sourcePath targetDir network store (some error) store :=
  ⟨quiet, fun _ => ⟨fun _ fetches => unstarted fetches.1, .inl rfl⟩, fun none => by cases none⟩

/-- The download is answered if it is made, unless it raises. -/
theorem download_ends (starts : network.Starts source sourcePath) :
    (download source target sourcePath targetDir network).Ends store
      (Answered source target sourcePath targetDir network store)
      fun _ _ => network.Raises source sourcePath := by
  have onlyCommand : network.Raises source sourcePath ↔
      ∃ failure left, network.command = .raised failure left := by
    obtain ⟨connected, passes, made, known⟩ := starts
    refine ⟨fun raises => ?_, fun raised => ⟨connected, .inr (.inr ⟨?_, raised⟩)⟩⟩
    · rcases raises.2 with ⟨windows, failure, refused⟩ | ⟨-, failure, refused, -⟩ | ⟨-, raised⟩
      · cases (passes windows).symm.trans refused
      · cases made.symm.trans refused
      · exact raised
    · exact ⟨connected, passes, made, known⟩
  unfold download
  rw [Script.ends_bind, Script.ends_get]
  cases ended : network.command with
  | failed error left =>
    have quiet : ¬ network.Raises source sourcePath := by
      rw [onlyCommand, ended]
      rintro ⟨_, _, impossible⟩
      cases impossible
    refine ⟨quiet, fun _ => ⟨fun content fetches => ?_, .inr ⟨left, rfl⟩⟩, fun none => by cases none⟩
    cases ended.symm.trans fetches.2.1
  | raised failure left => exact onlyCommand.mpr ⟨failure, left, ended⟩
  | completed =>
    have quiet : ¬ network.Raises source sourcePath := by
      rw [onlyCommand, ended]
      rintro ⟨_, _, impossible⟩
      cases impossible
    cases has : (network.served sourcePath).bind fun path =>
        store.contents (.volume source.agentid path) with
    | none =>
      refine ⟨quiet, fun _ => ⟨fun content fetches => ?_, .inl rfl⟩, fun none => by cases none⟩
      cases has.symm.trans fetches.2.2
    | some content =>
      exact ⟨quiet, fun impossible => absurd rfl impossible,
        fun _ => ⟨content, ⟨starts, ended, has⟩, rfl⟩⟩

/-- Behind the firewall, a copy is answered unless it raises. -/
theorem copyBehindFirewall_ends (connected : network.Connected sourcePath)
    (passes : network.Passes source) :
    (copyBehindFirewall source target sourcePath targetDir network).Ends store
      (Answered source target sourcePath targetDir network store)
      fun _ _ => network.Raises source sourcePath := by
  unfold copyBehindFirewall
  cases made : network.mkdirs with
  | error failure =>
    have unstarted : ¬ network.Starts source sourcePath := fun starts => by
      cases made.symm.trans starts.2.2.1
    cases caught : isMkdirsError failure with
    | false =>
      simp only [caught, Bool.false_eq_true, ↓reduceIte, Script.ends_throw]
      exact ⟨connected, .inr (.inl ⟨passes, failure, made, caught⟩)⟩
    | true =>
      simp only [caught, ↓reduceIte, Script.ends_pure]
      have quiet : ¬ network.Raises source sourcePath := by
        rintro ⟨-, ⟨windows, other, refused⟩ | ⟨-, other, refused, foreign⟩ | ⟨starts, -⟩⟩
        · cases (passes windows).symm.trans refused
        · cases made.symm.trans refused
          cases caught.symm.trans foreign
        · exact unstarted starts
      exact answered_unstarted quiet unstarted _
  | ok =>
    cases known : network.sourceKnown with
    | false =>
      have unstarted : ¬ network.Starts source sourcePath := fun starts => by
        cases known.symm.trans starts.2.2.2
      have quiet : ¬ network.Raises source sourcePath := by
        rintro ⟨-, ⟨windows, other, refused⟩ | ⟨-, other, refused, -⟩ | ⟨starts, -⟩⟩
        · cases (passes windows).symm.trans refused
        · cases made.symm.trans refused
        · exact unstarted starts
      exact answered_unstarted quiet unstarted _
    | true => exact download_ends ⟨connected, passes, made, known⟩

/-- A copy is answered unless it raises. The requests are made in turn, and each of them may
end it. -/
theorem copyCmd_ends :
    (copyCmd source target sourcePath targetDir network).Ends store
      (Answered source target sourcePath targetDir network store)
      fun _ _ => network.Raises source sourcePath := by
  unfold copyCmd
  split
  next nothing =>
    exact answered_unstarted (fun raises => raises.1.1 nothing) (fun starts => starts.1.1 nothing) _
  next something =>
    split
    next gone =>
      have unconnected : ¬ network.Connected sourcePath := by
        rintro ⟨-, sourceConnected, targetConnected⟩
        rcases gone with sourceGone | targetGone
        · cases sourceGone.symm.trans sourceConnected
        · cases targetGone.symm.trans targetConnected
      exact answered_unstarted (fun raises => unconnected raises.1)
        (fun starts => unconnected starts.1) _
    next both =>
      have connected : network.Connected sourcePath := by
        simp only [not_or, Bool.not_eq_false] at both
        exact ⟨something, both⟩
      cases windows : source.iswin with
      | false =>
        exact copyBehindFirewall_ends connected fun impossible => by
          cases windows.symm.trans impossible
      | true =>
        rw [if_pos rfl, Script.ends_bind, Script.ends_settle]
        cases asked : network.firewall with
        | error failure => exact ⟨connected, .inl ⟨windows, failure, asked⟩⟩
        | ok answer =>
          cases answer with
          | none => exact copyBehindFirewall_ends connected fun _ => asked
          | some error =>
            have closed : ¬ network.Passes source := fun passes => by
              cases asked.symm.trans (passes windows)
            have quiet : ¬ network.Raises source sourcePath := by
              rintro ⟨-, ⟨-, other, refused⟩ | ⟨passes, -⟩ | ⟨starts, -⟩⟩
              · cases asked.symm.trans refused
              · exact closed passes
              · exact closed starts.2.1
            exact answered_unstarted quiet (fun starts => closed starts.2.1) _

end Copying

/-! ## Deleting the original -/

/-- What is reported of an answer that does not raise. -/
theorem reported_ok {answer : Except Failure (Option String)} (quiet : ¬ Raises answer) :
    ∃ error, reported answer = .ok error := by
  cases answer with
  | ok error => exact ⟨error, rfl⟩
  | error failure =>
    cases caught : failure.isIOError with
    | true => exact ⟨some failure.message, by simp [reported, caught]⟩
    | false => exact absurd ⟨failure, rfl, caught⟩ quiet

/-- An answer that raises is not reported. -/
theorem reported_error {answer : Except Failure (Option String)} (raises : Raises answer) :
    ∃ failure, reported answer = .error failure := by
  obtain ⟨failure, rfl, foreign⟩ := raises
  exact ⟨failure, by simp [reported, foreign]⟩

/-- No error is reported of an answer without one only. -/
theorem reported_none {answer : Except Failure (Option String)}
    (silent : reported answer = .ok none) : answer = .ok none := by
  cases answer with
  | ok error => exact silent
  | error failure => cases caught : failure.isIOError <;> simp [reported, caught] at silent

/-- A deletion ends with the place of the original changed at most, and it raises if one of
its requests does. -/
theorem deleteVolFile_ends (agentid : Nat) (path : Path) (deletion : Deletion)
    (store : Store Content) :
    (deleteVolFile agentid path deletion).Ends store
      (fun _ final => ¬ deletion.Raises ∧ (final = store ∨
        final = store.put (.volume agentid path) none))
      fun _ _ => deletion.Raises := by
  unfold deleteVolFile
  rw [Script.ends_bind, Script.ends_settle]
  by_cases sizeRaises : Raises deletion.filesize
  · obtain ⟨failure, told⟩ := reported_error sizeRaises
    rw [told]
    exact .inl sizeRaises
  · obtain ⟨error, told⟩ := reported_ok sizeRaises
    rw [told]
    cases error with
    | some error =>
      refine ⟨?_, .inl rfl⟩
      rintro (raises | ⟨present, -⟩)
      · exact sizeRaises raises
      · rw [present] at told
        cases told
    | none =>
      have present : deletion.filesize = .ok none := reported_none told
      have decides : deletion.Raises ↔ Raises deletion.delete := by
        simp [Deletion.Raises, present, Files.Raises]
      simp only [Script.ends_bind, Script.ends_ite, Script.ends_modify, Script.ends_settle]
      by_cases deleteRaises : Raises deletion.delete
      · obtain ⟨failure, refused⟩ := reported_error deleteRaises
        rw [refused]
        split <;> exact decides.mpr deleteRaises
      · obtain ⟨answer, answered⟩ := reported_ok deleteRaises
        rw [answered]
        split
        · exact ⟨fun raises => deleteRaises (decides.mp raises), .inr trivial⟩
        · exact ⟨fun raises => deleteRaises (decides.mp raises), .inl trivial⟩

section Deciding

variable {order : Order Content} {before : Store Content} {content : Content}

/-- The placement is truthful about some row and some place. -/
def IsTruthful (order : Order Content) (before : Store Content) (content : Content)
    (placement : Placement) (final : Store Content) : Prop :=
  ∃ entry location, Truthful order before content placement final entry location

/-- Where the original may be deleted, the placement is truthful exactly if its row names
another place with a complete copy and the deletion does not raise. -/
theorem deleteLocal_completes {placement : Placement} {middle : Store Content}
    {entry : FileEntry} {location : Location}
    (placed : placement.placedFileEntry = some entry)
    (added : middle.rows = before.rows ++ [entry])
    (located : order.volumes.locate entry = some location)
    (marked : placement.deleteLocalBackup = true) (apart : location ≠ order.original) :
    (order.deleteLocal placement).Completes middle (IsTruthful order before content) ↔
      middle.contents location = some content ∧
        (order.enableDelete = true → ¬ order.deletion.Raises) := by
  have decides (final : Store Content) (rows : final.rows = middle.rows)
      (same : final.contents location = middle.contents location) :
      IsTruthful order before content placement final ↔ middle.contents location = some content := by
    refine ⟨fun ⟨other, place, truthful⟩ => ?_, fun complete => ⟨entry, location, placed,
      rows.trans added, located, same.trans complete, fun _ => apart⟩⟩
    have sameEntry : other = entry := Option.some.inj (truthful.placed.symm.trans placed)
    have samePlace : place = location :=
      Option.some.inj (truthful.located.symm.trans (sameEntry ▸ located))
    rw [← same, ← samePlace]
    exact truthful.complete
  unfold Order.deleteLocal
  rw [marked, Bool.and_true]
  cases enabled : order.enableDelete with
  | false =>
    simp only [Bool.false_eq_true, ↓reduceIte, Script.completes_pure, false_implies, and_true]
    exact decides middle rfl rfl
  | true =>
    simp only [↓reduceIte, true_implies]
    rw [Script.completes_bind, Script.Completes]
    refine Script.ends_iff ((deleteVolFile_ends order.agent.agentid order.fullPath
      order.deletion middle).mono (fun _ final ended => ?_) fun _ _ raises => ?_)
    · rw [Script.completes_pure, and_iff_left ended.1]
      rcases ended.2 with rfl | rfl
      · exact decides _ rfl rfl
      · exact decides _ rfl (Store.put_of_ne middle none apart)
    · simp [raises]

/-- A file that stays where it was made is truthfully placed. -/
theorem remaining_truthful (made : before.contents order.original = some content)
    {volume : VolumeEntry} (stored : volume ∈ order.volumes.entries)
    (own : volume.agentid = order.agent.agentid) {middle : Store Content}
    (rows : middle.rows = before.rows)
    (same : middle.contents order.original = before.contents order.original)
    {copied copyFailed : Bool} :
    IsTruthful order before content
      ⟨some (middle.next (order.remaining volume)), copied, copyFailed, false⟩
      (middle.adding (order.remaining volume)) := by
  refine ⟨_, order.original, rfl, ?_, ?_, same.trans made, fun changed => absurd same changed⟩
  · rw [Store.adding_rows, rows]
  · have found := order.volumes.byVolid_of_mem stored
    simp only [Volumes.locate, Store.next, Order.remaining, Order.newFile, NewFile.entry, found,
      Option.map_some, own]
    rfl

/-- A copy that failed and touched another place at most leaves a truthful placement. -/
theorem copyFailed_completes (made : before.contents order.original = some content)
    {volume : VolumeEntry} (stored : volume ∈ order.volumes.entries)
    (own : volume.agentid = order.agent.agentid) {middle : Store Content}
    (rows : middle.rows = before.rows)
    (same : middle.contents order.original = before.contents order.original) :
    (order.copyFailed volume >>= order.deleteLocal).Completes middle
      (IsTruthful order before content) := by
  have truthful := @remaining_truthful _ order before content made _ stored own middle rows same
    false true
  simp only [Order.copyFailed, add, Order.deleteLocal, bind_assoc, pure_bind,
    Script.completes_bind, Script.completes_get, Script.completes_modify, Bool.and_false,
    Bool.false_eq_true, ↓reduceIte, Script.completes_pure]
  exact truthful

/-- A copy that succeeded is truthfully placed exactly if its row names another place with a
complete copy and the deletion does not raise. -/
theorem copied_completes {copy : NewFile} {middle : Store Content} {location : Location}
    (rows : middle.rows = before.rows)
    (located : order.volumes.locate (middle.next copy) = some location)
    (apart : location ≠ order.original) :
    (Order.copied copy >>= order.deleteLocal).Completes middle
        (IsTruthful order before content) ↔
      middle.contents location = some content ∧
        (order.enableDelete = true → ¬ order.deletion.Raises) := by
  simp only [Order.copied, add, bind_assoc, pure_bind, Script.completes_bind,
    Script.completes_get, Script.completes_modify]
  refine deleteLocal_completes rfl ?_ located rfl apart
  rw [Store.adding_rows, rows]

/-- A copy to a cloud is truthful exactly if the kind of the cloud is known and neither the
upload nor the deletion after it raises. -/
theorem copyToCloud_truthful_iff (made : before.contents order.original = some content)
    (targetEntry : CloudEntry) {primaryEntry : VolumeEntry}
    (stored : primaryEntry ∈ order.volumes.entries)
    (own : primaryEntry.agentid = order.agent.agentid) :
    (order.copyToCloud targetEntry primaryEntry >>= order.deleteLocal).Completes before
        (IsTruthful order before content) ↔
      targetEntry.cloudType ≠ .unknown ∧ (∀ failure left, order.upload ≠ .raised failure left) ∧
        (order.upload = .completed → order.enableDelete = true → ¬ order.deletion.Raises) := by
  unfold Order.copyToCloud
  by_cases unknown : targetEntry.cloudType = .unknown
  · simp [unknown]
  · have apart : Location.cloud targetEntry.cloudid
        (Posix.join order.dcheck.parentDir order.nameOnly) ≠ order.original :=
      fun same => by cases same
    cases ended : order.upload with
    | raised failure left => simp [unknown]
    | failed error left =>
      have truthful := @copyFailed_completes _ order before content made primaryEntry stored own
        (before.put _ left) rfl (Store.put_of_ne before left apart.symm)
      simpa [unknown] using truthful
    | completed =>
      have decided := @copied_completes _ order before content
        (order.newFile (Posix.join order.dcheck.parentDir order.nameOnly) .cloud
          targetEntry.cloudid)
        (before.put (.cloud targetEntry.cloudid (Posix.join order.dcheck.parentDir order.nameOnly))
          (before.contents order.original))
        (.cloud targetEntry.cloudid (Posix.join order.dcheck.parentDir order.nameOnly)) rfl rfl apart
      rw [Store.put_self] at decided
      simpa [unknown, made] using decided

/-- What a copy to another agent needs: the path names a volume of the agent, the requests do
not raise, what is fetched is the file and is saved under its name, and the deletion does
not raise. -/
structure CopyReaches (order : Order Content) (targetAgent : Agent) (targetDir : Path)
    (before : Store Content) (content : Content) (volume : VolumeEntry) (sourcePath : Path) :
    Prop where
  colon : ':' ∈ order.fullPath
  owned : order.volumes.byName order.agent.agentid (order.fullPath.takeWhile (· ≠ ':')) =
    .ok (some volume)
  source : sourcePathOf volume
    (order.fullPath.drop ((order.fullPath.takeWhile (· ≠ ':')).length + 1)) = .ok sourcePath
  quiet : ¬ order.network.Raises order.agent sourcePath
  fetched : ∀ fetched, order.network.Fetches order.agent sourcePath before fetched →
    (before.put (savedAt targetAgent sourcePath targetDir order.network) (some fetched)).contents
        (.volume targetAgent.agentid (targetAgent.join targetDir order.nameOnly)) = some content ∧
      (order.enableDelete = true → ¬ order.deletion.Raises)

/-- After a copy was answered, the placement is truthful exactly if what was fetched is the
file, is saved under its name, and the deletion does not raise. -/
theorem answered_truthful_iff (made : before.contents order.original = some content)
    {targetEntry primaryEntry : VolumeEntry} {targetAgent : Agent} {sourcePath targetDir : Path}
    (targetStored : targetEntry ∈ order.volumes.entries)
    (targetOwn : targetEntry.agentid = targetAgent.agentid)
    (stored : primaryEntry ∈ order.volumes.entries)
    (own : primaryEntry.agentid = order.agent.agentid)
    (other : targetAgent.agentid ≠ order.agent.agentid)
    {answer : Option String} {middle : Store Content}
    (answered : Answered order.agent targetAgent sourcePath targetDir order.network before answer
      middle) :
    (order.concludeCopy targetEntry targetAgent targetDir primaryEntry answer >>=
        order.deleteLocal).Completes middle (IsTruthful order before content) ↔
      ∀ fetched, order.network.Fetches order.agent sourcePath before fetched →
        (before.put (savedAt targetAgent sourcePath targetDir order.network) (some fetched)).contents
            (.volume targetAgent.agentid (targetAgent.join targetDir order.nameOnly)) =
              some content ∧
          (order.enableDelete = true → ¬ order.deletion.Raises) := by
  have apart (path : Path) : Location.volume targetAgent.agentid path ≠ order.original :=
    fun same => other (by injection same)
  cases answer with
  | some error =>
    obtain ⟨unfetched, left⟩ := answered.reported (by simp)
    refine iff_of_true ?_ fun fetched fetches => absurd fetches (unfetched fetched)
    rcases left with rfl | ⟨left, rfl⟩
    · exact copyFailed_completes made stored own rfl rfl
    · exact copyFailed_completes made stored own rfl (Store.put_of_ne before left (apart _).symm)
  | none =>
    obtain ⟨fetched, fetches, rfl⟩ := answered.fetched rfl
    have found := order.volumes.byVolid_of_mem targetStored
    have located : order.volumes.locate (before.next (order.newFile
        (targetAgent.join targetDir order.nameOnly) .vol targetEntry.volid)) =
          some (.volume targetAgent.agentid (targetAgent.join targetDir order.nameOnly)) := by
      simp only [Volumes.locate, Store.next, Order.newFile, NewFile.entry, found, Option.map_some,
        targetOwn]
    have decided := @copied_completes _ order before content _
      (before.put (savedAt targetAgent sourcePath targetDir order.network) (some fetched)) _ rfl
      located (apart _)
    refine decided.trans ⟨fun complete again fetchesAgain => ?_, fun all => all fetched fetches⟩
    have same : again = fetched := Option.some.inj (fetchesAgain.2.2.symm.trans fetches.2.2)
    exact same ▸ complete

/-- A copy to another agent is truthful exactly if it has what it needs. -/
theorem copyToAgent_truthful_iff (made : before.contents order.original = some content)
    {targetEntry primaryEntry : VolumeEntry} {targetAgent : Agent} {targetDir : Path}
    (targetStored : targetEntry ∈ order.volumes.entries)
    (targetOwn : targetEntry.agentid = targetAgent.agentid)
    (stored : primaryEntry ∈ order.volumes.entries)
    (own : primaryEntry.agentid = order.agent.agentid)
    (other : targetAgent.agentid ≠ order.agent.agentid) :
    (order.copyToAgent targetEntry targetAgent targetDir primaryEntry >>=
        order.deleteLocal).Completes before (IsTruthful order before content) ↔
      ∃ volume sourcePath,
        CopyReaches order targetAgent targetDir before content volume sourcePath := by
  unfold Order.copyToAgent
  rw [bind_assoc, Script.completes_bind, Script.completes_settle]
  by_cases colon : ':' ∈ order.fullPath
  · rw [splitVolume, if_pos colon]
    simp only [Except.ok.injEq, exists_eq_left']
    rw [bind_assoc, Script.completes_bind, Script.completes_settle]
    cases found : order.volumes.byName order.agent.agentid
        (order.fullPath.takeWhile (· ≠ ':')) with
    | error failure =>
      refine iff_of_false ?_ ?_
      · rintro ⟨_, impossible, _⟩
        cases impossible
      · rintro ⟨volume, sourcePath, reaches⟩
        cases found.symm.trans reaches.owned
    | ok volume =>
      simp only [Except.ok.injEq, exists_eq_left']
      cases volume with
      | none =>
        refine iff_of_false ?_ ?_
        · simp only [pure_bind, Order.deleteLocal, Bool.and_false, Bool.false_eq_true, ↓reduceIte,
            Script.completes_pure]
          rintro ⟨entry, location, truthful⟩
          cases truthful.placed
        · rintro ⟨volume, sourcePath, reaches⟩
          cases found.symm.trans reaches.owned
      | some volume =>
        simp only []
        rw [bind_assoc, Script.completes_bind, Script.completes_settle]
        cases source : sourcePathOf volume
            (order.fullPath.drop ((order.fullPath.takeWhile (· ≠ ':')).length + 1)) with
        | error failure =>
          refine iff_of_false ?_ ?_
          · rintro ⟨_, impossible, _⟩
            cases impossible
          · rintro ⟨other, sourcePath, reaches⟩
            cases found.symm.trans reaches.owned
            cases source.symm.trans reaches.source
        | ok sourcePath =>
          simp only [Except.ok.injEq, exists_eq_left']
          rw [bind_assoc, Script.completes_bind, Script.Completes]
          refine Script.ends_iff (copyCmd_ends.mono (fun answer middle answered => ?_)
            fun _ _ raises => ?_)
          · refine (answered_truthful_iff made targetStored targetOwn stored own other
              answered).trans ⟨fun fetched => ⟨volume, sourcePath, colon, found, source,
                answered.quiet, fetched⟩, ?_⟩
            rintro ⟨other, path, reaches⟩
            cases found.symm.trans reaches.owned
            cases source.symm.trans reaches.source
            exact reaches.fetched
          · refine iff_of_false id ?_
            rintro ⟨other, path, reaches⟩
            cases found.symm.trans reaches.owned
            cases source.symm.trans reaches.source
            exact reaches.quiet raises
  · rw [splitVolume, if_neg colon]
    refine iff_of_false ?_ ?_
    · rintro ⟨_, impossible, _⟩
      cases impossible
    · rintro ⟨volume, sourcePath, reaches⟩
      exact colon reaches.colon

/-- A placement has what it needs. A file that stays on its agent needs nothing. -/
def Placeable (order : Order Content) (before : Store Content) (content : Content) : Prop :=
  match order.dcheck.target with
  | .cloud targetEntry _ =>
    targetEntry.cloudType ≠ .unknown ∧ (∀ failure left, order.upload ≠ .raised failure left) ∧
      (order.upload = .completed → order.enableDelete = true → ¬ order.deletion.Raises)
  | .vol _ targetAgent targetDir _ =>
    targetAgent.agentid = order.agent.agentid ∨ ∃ volume sourcePath,
      CopyReaches order targetAgent targetDir before content volume sourcePath

/-- Placing a file that was made is truthful if and only if the placement has what it
needs. -/
theorem placed_truthful_iff (made : before.contents order.original = some content) :
    order.doCopy.Completes before (fun placement final => ∃ entry location,
        Truthful order before content placement final entry location) ↔
      Placeable order before content := by
  have stored := order.dcheck.primaryStored
  have own := order.dcheck.primaryOwn
  unfold Order.doCopy Placeable
  cases target : order.dcheck.target with
  | cloud targetEntry primaryEntry =>
    rw [target] at stored own
    exact copyToCloud_truthful_iff made targetEntry stored own
  | vol targetEntry targetAgent targetDir primaryEntry =>
    rw [target] at stored own
    obtain ⟨targetStored, targetOwn⟩ := order.dcheck.targetStored _ _ _ _ target
    by_cases same : targetAgent.agentid = order.agent.agentid
    · simp only [same, ↓reduceIte, true_or, iff_true]
      exact remaining_truthful made targetStored (targetOwn.trans same) rfl rfl
    · simp only [same, ↓reduceIte, false_or]
      exact copyToAgent_truthful_iff made targetStored targetOwn stored own same

end Deciding

/-! ## Two placements -/

/-- The volume of the agent on which a file is made, and one of another agent. -/
def twoVolumes : Volumes :=
  ⟨[⟨1, 1, "C".toList, some "\\Data".toList⟩, ⟨2, 2, "D".toList, some "\\Data".toList⟩], by decide⟩

/-- A file is to go to the other agent. -/
def otherAgentCheck : DiskCheck twoVolumes ⟨1, true⟩ where
  target := .vol ⟨2, 2, "D".toList, some "\\Data".toList⟩ ⟨2, true⟩
    "D:\\Data\\tableau-backups".toList ⟨1, 1, "C".toList, some "\\Data".toList⟩
  parentDir := "tableau-backups".toList
  fileType := .backup
  primaryStored := by decide
  primaryOwn := rfl
  targetStored := by
    intro targetEntry targetAgent targetDir primaryEntry same
    cases same
    decide

/-- The web server has the file that is asked for, and every request succeeds. -/
def goodNetwork (fullPath name : Path) : Network Nat :=
  ⟨true, true, .ok none, .ok (), true, fun _ => some fullPath, fun _ => name, .completed⟩

/-- A file on the agent is to be copied to the other agent and then deleted. -/
def copyOrder (fullPath name : Path) : Order Nat where
  volumes := twoVolumes
  agent := ⟨1, true⟩
  dcheck := otherAgentCheck
  envid := 1
  fullPath := fullPath
  size := 0
  auto := true
  now := 0
  enableDelete := true
  network := goodNetwork fullPath name
  upload := .completed
  deletion := ⟨.ok none, true, .ok none⟩

/-- A store with one file. -/
def oneFile (path : Path) : Store Nat :=
  ⟨fun location => if location = .volume 1 path then some 7 else none, Catalogue.empty⟩

/-- A file on a volume without a row is not copied and gets no row. -/
theorem unknown_volume_unplaced :
    ¬ ∀ (order : Order Nat) (before : Store Nat) (content : Nat),
      before.contents order.original = some content →
      order.doCopy.Completes before (fun placement final => ∃ entry location,
        Truthful order before content placement final entry location) := by
  intro always
  have truthful : ∃ entry location, Truthful (copyOrder "E:\\x.tsbak".toList "x.tsbak".toList)
      (oneFile "E:\\x.tsbak".toList) 7 ⟨none, false, false, false⟩
      (oneFile "E:\\x.tsbak".toList) entry location :=
    always (copyOrder "E:\\x.tsbak".toList "x.tsbak".toList) (oneFile "E:\\x.tsbak".toList) 7
      (by decide)
  obtain ⟨entry, location, placed⟩ := truthful
  cases placed.placed

/-- The placement of a file that is copied under its name and deleted. -/
theorem placed_truthful_copied :
    (copyOrder "C:\\Data\\x.tsbak".toList "x.tsbak".toList).doCopy.Completes
      (oneFile "C:\\Data\\x.tsbak".toList) (fun placement final => ∃ entry location,
        Truthful (copyOrder "C:\\Data\\x.tsbak".toList "x.tsbak".toList)
          (oneFile "C:\\Data\\x.tsbak".toList) 7 placement final entry location) := by
  refine (placed_truthful_iff (by decide)).mpr (.inr ⟨⟨1, 1, "C".toList, some "\\Data".toList⟩,
    "C\\x.tsbak".toList, by decide, rfl, rfl, ?_, fun fetched fetches => ?_⟩)
  · rintro ⟨-, ⟨-, failure, refused⟩ | ⟨-, failure, refused, -⟩ | ⟨-, failure, left, refused⟩⟩ <;>
      cases refused
  · obtain ⟨-, -, same⟩ := fetches
    have seven : fetched = 7 := (Option.some.inj same).symm
    subst seven
    refine ⟨rfl, fun _ raises => ?_⟩
    rcases raises with ⟨failure, refused, -⟩ | ⟨-, failure, refused, -⟩ <;> cases refused

end Palette.Files
