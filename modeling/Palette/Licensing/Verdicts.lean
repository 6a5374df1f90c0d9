import Palette.Licensing.Entries

/-!
# The licence verdict and the last report

Two histories of checks that end with the same output leave the same row, and a report that shows
nothing is not judged valid by an earlier one, if the output was understood and its numbers can
be stored. An output that was not understood leaves the interactors and viewers of the report
before it, and one that cannot be printed or stored leaves the whole row.
-/

namespace Palette.Licensing

open Palette.Commands (Failure Value digitsValue)
open Palette.Events (Generation)
open Palette.Foundation Script
open Palette.Metrics (Color)

/-! ## Histories -/

/-- The state after a check, however it ended. -/
def checked (platform : Platform) (state : LicenseState) (call : LicenseCall) : LicenseState :=
  ((check platform call).run.run state).2

/-- The state after some checks of an agent that has no row yet. The notification may have a
color, for it is that of all agents. -/
def history (platform : Platform) (color : Option Color) (calls : List LicenseCall) :
    LicenseState :=
  calls.foldl (checked platform) ⟨none, color, []⟩

/-- An agent answers with an output. -/
def Reports (call : LicenseCall) (output : String) : Prop :=
  ∃ status, isZero status = true ∧ call.body = .ok ⟨some status, some (.text output)⟩

/-- The row after an output was reported. -/
def entryAfter (platform : Platform) (output : String) (before : Option LicenseEntry) :
    Option LicenseEntry :=
  match parse platform output.toList with
  | .ok data => if (LicenseEntry.get before data).fits then some (.get before data) else before
  | .error _ => before

section Checking

variable {platform : Platform}

/-- An announcement does not touch the row. -/
theorem announce_ends (call : LicenseCall) (valid : Bool) (entry : LicenseEntry)
    (state : LicenseState) :
    (announce call valid entry).Ends state (fun _ final => final.entry = state.entry)
      fun _ final => final.entry = state.entry := by
  unfold announce
  cases call.gen valid entry with
  | skipped => rfl
  | raised failure => rfl
  | incomplete failure => rfl
  | generated raises =>
    cases raises with
    | none => rfl
    | some failure => rfl

/-- A judgement does not touch the row. -/
theorem judge_ends (call : LicenseCall) (data : LicenseData) (entry : LicenseEntry)
    (state : LicenseState) :
    (judge call data entry).Ends state (fun _ final => final.entry = state.entry)
      fun _ final => final.entry = state.entry := by
  have told (valid : Bool) (reply : LicenseReply) :
      Ends (do
        announce call valid entry
        return reply) state (fun _ final => final.entry = state.entry)
        fun _ final => final.entry = state.entry := by
    rw [ends_bind]
    exact announce_ends call valid entry state
  unfold judge
  rw [ends_bind, ends_get]
  cases entry.valid with
  | true =>
    by_cases red : state.color = some .red
    · simp only [↓reduceIte, red]
      exact told true (.read data)
    · simp only [↓reduceIte, red]
      rfl
  | false =>
    by_cases red : state.color = some .red
    · simp only [Bool.false_eq_true, ↓reduceIte, red]
      rfl
    · simp only [Bool.false_eq_true, ↓reduceIte, red, ne_eq, not_false_eq_true]
      exact told false (.invalid entry)

/-- A reported output changes the row as it says. -/
theorem checked_entry {call : LicenseCall} {output : String} (reports : Reports call output)
    (state : LicenseState) :
    (checked platform state call).entry = entryAfter platform output state.entry := by
  obtain ⟨status, zero, body⟩ := reports
  have ends : (check platform call).Ends state
      (fun _ final => final.entry = entryAfter platform output state.entry)
      fun _ final => final.entry = entryAfter platform output state.entry := by
    unfold check entryAfter
    rw [ends_bind, body, ends_settle_ok]
    simp only [Option.any_some, zero, ↓reduceIte]
    rw [ends_bind]
    cases parse platform output.toList with
    | error failure => rfl
    | ok data =>
      rw [ends_settle_ok, ends_bind, ends_get]
      cases fits : (LicenseEntry.get state.entry data).fits with
      | true =>
        simp only [fits, ↓reduceIte]
        rw [ends_bind, ends_modify]
        exact judge_ends call data _ _
      | false =>
        simp only [fits, Bool.false_eq_true, ↓reduceIte]
        rfl
  exact (@ends_state _ _ _ state (check platform call) fun final =>
    final.entry = entryAfter platform output state.entry).mp ends

/-- The row after a history that ends with an output. -/
theorem history_snoc {call : LicenseCall} {output : String} (reports : Reports call output)
    (color : Option Color) (calls : List LicenseCall) :
    (history platform color (calls ++ [call])).entry =
      entryAfter platform output (history platform color calls).entry := by
  unfold history
  rw [List.foldl_append]
  exact checked_entry reports _

end Checking

/-! ## The claim -/

/-- A report shows interactors, viewers or cores. -/
def LicenseData.Shows : LicenseData → Prop
  | namedUsers interactors viewers => digitsValue interactors ≠ some 0 ∨ digitsValue viewers ≠ some 0
  | cores used _ => used ≠ 0
  | nothing => False

/-- A report has all its numbers, and they can be stored. -/
def LicenseData.Complete : LicenseData → Prop
  | namedUsers interactors viewers => ∃ left right, digitsValue interactors = some left ∧
      digitsValue viewers = some right ∧ left ≤ 2147483647 ∧ right ≤ 2147483647
  | cores used licensed => storable (some used) = true ∧ storable (some licensed) = true
  | nothing => False

/-- The last report alone decides about the row and the verdict. -/
structure LastDecides (platform : Platform) (output : String) : Prop where
  same : ∀ (left right : List LicenseCall) (leftLast rightLast : LicenseCall)
    (leftColor rightColor : Option Color), Reports leftLast output → Reports rightLast output →
    (history platform leftColor (left ++ [leftLast])).entry =
      (history platform rightColor (right ++ [rightLast])).entry
  strict : (∀ data, parse platform output.toList = .ok data → ¬ data.Shows) →
    ∀ (calls : List LicenseCall) (last : LicenseCall) (color : Option Color),
      Reports last output → ∀ entry ∈ (history platform color (calls ++ [last])).entry,
        entry.valid = false

section Claim

variable {platform : Platform}

/-- A call that is answered with an output. -/
def answering (output : String) : LicenseCall :=
  ⟨.ok ⟨some (.number 0), some (.text output)⟩, fun _ _ => .skipped⟩

/-- It reports this output. -/
theorem answering_reports (output : String) : Reports (answering output) output :=
  ⟨.number 0, rfl, rfl⟩

/-- The row of named users. -/
def namedEntry (interactors viewers : Nat) : LicenseEntry :=
  ⟨some interactors, some viewers, some 0, some 0, some .namedUser⟩

/-- The row of cores. -/
def coreEntry (cores coreLicenses : Int) : LicenseEntry :=
  ⟨some 0, some 0, some cores, some coreLicenses, some .core⟩

/-- A number of people fits its column if it is not too large. -/
theorem storable_natural (number : Nat) :
    storable (some (number : Int)) = true ↔ number ≤ 2147483647 := by
  simp only [storable, Option.all_some, decide_eq_true_eq]
  omega

/-- The row of named users can be stored if both numbers can. -/
theorem fits_namedEntry (interactors viewers : Nat) :
    (namedEntry interactors viewers).fits = true ↔
      interactors ≤ 2147483647 ∧ viewers ≤ 2147483647 := by
  have zero : storable (some 0) = true := by decide
  simp only [LicenseEntry.fits, namedEntry, zero, Bool.and_true, Bool.and_eq_true,
    storable_natural]

/-- The row of cores can be stored if both numbers can. -/
theorem fits_coreEntry (cores coreLicenses : Int) :
    (coreEntry cores coreLicenses).fits = true ↔
      storable (some cores) = true ∧ storable (some coreLicenses) = true := by
  have zero : storable (some 0) = true := by decide
  simp only [LicenseEntry.fits, coreEntry, zero, Bool.true_and, Bool.and_eq_true]

/-- Two numbers of named users give a row that does not depend on the row before. -/
theorem get_namedUsers {interactors viewers : Text} {left right : Nat}
    (leftRead : digitsValue interactors = some left)
    (rightRead : digitsValue viewers = some right) (before : Option LicenseEntry) :
    LicenseEntry.get before (.namedUsers interactors viewers) = namedEntry left right := by
  simp only [LicenseEntry.get, leftRead, rightRead]
  rfl

/-- A complete report gives a row that does not depend on the row before. -/
theorem get_complete {data : LicenseData} (complete : data.Complete) :
    ∃ entry : LicenseEntry, entry.fits = true ∧ (∀ before, LicenseEntry.get before data = entry) ∧
      (entry.valid = true → data.Shows) := by
  cases data with
  | namedUsers interactors viewers =>
    obtain ⟨left, right, leftRead, rightRead, small⟩ := complete
    refine ⟨namedEntry left right, (fits_namedEntry left right).mpr small,
      get_namedUsers leftRead rightRead, fun valid => ?_⟩
    have positive : left ≠ 0 ∨ right ≠ 0 := by
      simpa [LicenseEntry.valid, namedEntry, truthy] using valid
    simpa [LicenseData.Shows, leftRead, rightRead] using positive
  | cores used licensed =>
    refine ⟨coreEntry used licensed, (fits_coreEntry used licensed).mpr complete, fun _ => rfl,
      fun valid => ?_⟩
    have positive : used ≠ 0 := of_decide_eq_true valid
    exact positive
  | nothing => exact complete.elim

/-- The row of one interactor and one viewer. -/
def oneOfEach : LicenseEntry := namedEntry 1 1

/-- A history that leaves this row. -/
theorem history_oneOfEach :
    (history platform none [answering "1 interactors, 1 viewers"]).entry = some oneOfEach := by
  have found : searchNamedUsers "1 interactors, 1 viewers".toList =
      some (.namedUsers ['1'] ['1']) := by decide +kernel
  have after := @checked_entry platform _ _
    (answering_reports "1 interactors, 1 viewers") ⟨none, none, []⟩
  rw [entryAfter, parse, found] at after
  exact after

/-- A report that is not complete leaves something of the row before. -/
theorem entryAfter_incomplete {output : String}
    (incomplete : ∀ data, parse platform output.toList = .ok data → ¬ data.Complete) :
    entryAfter platform output (some oneOfEach) ≠ entryAfter platform output none := by
  unfold entryAfter
  cases read : parse platform output.toList with
  | error failure => exact fun same => by cases same
  | ok data =>
    have lacks := incomplete data read
    have fixed (entry : LicenseEntry) (always : ∀ before, LicenseEntry.get before data = entry)
        (large : entry.fits = false) :
        (if (LicenseEntry.get (some oneOfEach) data).fits then
            some (LicenseEntry.get (some oneOfEach) data) else some oneOfEach) ≠
          if (LicenseEntry.get none data).fits then some (LicenseEntry.get none data) else none := by
      rw [always, always, large]
      exact fun same => by cases same
    cases data with
    | namedUsers interactors viewers =>
      cases left : digitsValue interactors with
      | none =>
        simp only [LicenseEntry.get, left]
        exact fun same => by cases same
      | some leftNumber =>
        cases right : digitsValue viewers with
        | none =>
          simp only [LicenseEntry.get, left, right]
          intro same
          split at same
          · split at same
            · cases same
            · cases same
          · split at same
            · cases same
            · cases same
        | some rightNumber =>
          refine fixed _ (get_namedUsers left right) (Bool.eq_false_iff.mpr fun fits => lacks ?_)
          exact ⟨leftNumber, rightNumber, left, right, (fits_namedEntry _ _).mp fits⟩
    | cores used licensed =>
      refine fixed (coreEntry used licensed) (fun _ => rfl) (Bool.eq_false_iff.mpr fun fits => ?_)
      exact lacks ((fits_coreEntry used licensed).mp fits)
    | nothing => exact fun same => by cases same

/-- The last report alone decides if and only if it is complete. -/
theorem last_decides_iff (platform : Platform) (output : String) :
    LastDecides platform output ↔
      ∃ data, parse platform output.toList = .ok data ∧ data.Complete := by
  constructor
  · intro decides
    by_contra none
    have incomplete (data : LicenseData) (read : parse platform output.toList = .ok data) :
        ¬ data.Complete := fun complete => none ⟨data, read, complete⟩
    have last := answering_reports output
    have same := decides.same [answering "1 interactors, 1 viewers"] [] _ _ Option.none Option.none
      last last
    rw [history_snoc last, history_snoc last, history_oneOfEach] at same
    exact entryAfter_incomplete incomplete same
  · rintro ⟨data, read, complete⟩
    obtain ⟨entry, fits, always, shows⟩ := get_complete complete
    have after (before : Option LicenseEntry) :
        entryAfter platform output before = some entry := by
      rw [entryAfter, read]
      simp only [always, fits, ↓reduceIte]
    constructor
    · intro left right leftLast rightLast leftColor rightColor leftReports rightReports
      rw [history_snoc leftReports, history_snoc rightReports, after, after]
    · intro blank calls last color reports entry' stored
      rw [history_snoc reports, after] at stored
      cases stored
      by_contra valid
      exact blank data read (shows (by simpa using valid))

end Claim

/-- A platform that knows no other characters than those of ASCII and prints everything. -/
def plain : Platform := ⟨fun _ => false, fun _ => none, fun _ => none⟩

/-- An output that is not understood keeps the licence that was reported before. -/
theorem unreadable_keeps_licence :
    ¬ ∀ (platform : Platform) (output : String), LastDecides platform output := by
  intro always
  have last := answering_reports ""
  have same := (always plain "").same [answering "1 interactors, 1 viewers"] [] _ _ none none last
    last
  rw [history_snoc last, history_snoc last, history_oneOfEach] at same
  have kept : entryAfter plain "" (some oneOfEach) = some oneOfEach := by decide +kernel
  have fresh : entryAfter plain "" none =
      some ⟨none, none, some 0, some 0, some .namedUser⟩ := by decide +kernel
  have empty : (history plain none []).entry = none := rfl
  rw [kept, empty, fresh] at same
  cases same

end Palette.Licensing
