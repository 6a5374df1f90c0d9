import Mathlib.Data.List.Lex
import Palette.Foundation.Numerals
import Palette.Foundation.Transition
import Palette.Web.Archive

/-!
# The revision that is shown as the current one

Updates are recorded as they are published, each with a greater number and a later time than the
earlier ones of its entry. Afterwards their files and notes change and some of them are removed.
The page takes the update whose number comes last in a dictionary. This is the one that was
published last exactly if no update that is left has a number above the first digits of the last
one, as many as the number has itself.
-/

namespace Palette.Web.Archive

open Palette.Foundation Numerals

/-! ## Recording updates -/

/-- The number that a revision is. -/
def UpdateEntry.number (update : UpdateEntry) : Nat := value decimalWeight 10 update.revision.toList

/-- What happens to the rows of the updates. -/
inductive Change where
  /-- An update with a revision number is added when its publication is loaded. -/
  | record (update : UpdateEntry) (number : Nat)
  /-- The archive of an update is stored, or its note changes. -/
  | revise (id : Nat) (fileid fileidTwbx : Option Nat) (url note : Option String)
  /-- Retention, pruning and failed archives leave some of the rows. -/
  | remove (kept : UpdateEntry → Bool)

/-- A change of the files and the note of a row. -/
def UpdateEntry.revise (update : UpdateEntry) (id : Nat) (fileid fileidTwbx : Option Nat)
    (url note : Option String) : UpdateEntry :=
  if update.id = id then
    { update with fileid := fileid, fileidTwbx := fileidTwbx, url := url, note := note }
  else update

/-- The update has a greater number and a later time than those of its entry that are left. -/
def Follows (rows : List UpdateEntry) (update : UpdateEntry) (number : Nat) : Prop :=
  ∀ earlier ∈ rows, earlier.parent = update.parent →
    earlier.number < number ∧ earlier.timestamp < update.timestamp

instance (rows : List UpdateEntry) (update : UpdateEntry) (number : Nat) :
    Decidable (Follows rows update number) :=
  inferInstanceAs (Decidable (∀ earlier ∈ rows, earlier.parent = update.parent →
    earlier.number < number ∧ earlier.timestamp < update.timestamp))

/-- The rows of the updates from an empty table on. Revisions are recorded in the order in which
they were published. -/
def publishing : Machine (List UpdateEntry) Change where
  initial rows := rows = []
  step
    | rows, .record update number =>
      if update.revision = toString number ∧ Follows rows update number then some (rows ++ [update])
      else none
    | rows, .revise id fileid fileidTwbx url note =>
      some (rows.map (·.revise id fileid fileidTwbx url note))
    | rows, .remove kept => some (rows.filter kept)

/-! ## What the page should show -/

/-- The rows of an entry. -/
def ofEntry (rows : List UpdateEntry) (entry : Entry) : List UpdateEntry :=
  rows.filter (·.parent = some entry.key)

/-- The update with the greatest publish time. -/
def IsLast (updates : List UpdateEntry) (last : UpdateEntry) : Prop :=
  last ∈ updates ∧ ∀ update ∈ updates, update.timestamp ≤ last.timestamp

/-- The current revision of an entry, its user and its time are those of the last update. -/
def Application.Reports (application : Application) (last : UpdateEntry) (data : EntryData) :
    Prop :=
  data.currentRevision = some last.revision ∧
    data.lastUpdatedBy = some (username application.around last) ∧
    data.lastUpdatedAt = some (application.strftime last.timestamp)

/-- The page is shown and reports the last update of every entry on it. -/
def Application.ShowsLast (application : Application) (rows : List UpdateEntry)
    (entries : List Entry) : Prop :=
  ∃ datas, application.pageData rows entries [] = .ok datas ∧
    List.Forall₂ (fun entry data =>
      ∀ last, IsLast (ofEntry rows entry) last → application.Reports last data) entries datas

/-- No number is above the first digits of that of the last update, as many as it has itself. -/
def LastLeads (updates : List UpdateEntry) : Prop :=
  ∀ last, IsLast updates last → ∀ update ∈ updates,
    update.number ≤ last.number / 10 ^ (last.revision.length - update.revision.length)

/-! ## Rows in the order of their publication -/

/-- Revisions are decimal numbers, and the rows of an entry are in the order of these and of their
times. -/
structure InOrder (rows : List UpdateEntry) : Prop where
  numbered : ∀ update ∈ rows, update.revision = toString update.number
  apart : rows.Pairwise fun earlier later => earlier.parent = later.parent →
    earlier.number < later.number ∧ earlier.timestamp < later.timestamp

theorem number_of_revision {update : UpdateEntry} {number : Nat}
    (same : update.revision = toString number) : update.number = number := by
  rw [UpdateEntry.number, same, Nat.toString_eq_ofList_toDigits, String.toList_ofList,
    value_toDigits]

/-- A change of the files and the note keeps everything else. -/
theorem revise_keeps (update : UpdateEntry) (id : Nat) (fileid fileidTwbx : Option Nat)
    (url note : Option String) :
    (update.revise id fileid fileidTwbx url note).parent = update.parent ∧
      (update.revise id fileid fileidTwbx url note).revision = update.revision ∧
      (update.revise id fileid fileidTwbx url note).timestamp = update.timestamp := by
  unfold UpdateEntry.revise
  split <;> exact ⟨rfl, rfl, rfl⟩

/-- Rows stay in order. -/
theorem inOrder_preserved : publishing.Preserves InOrder := by
  intro rows change next inOrder stepped
  cases change with
  | record update number =>
    obtain ⟨⟨same, follows⟩, rfl⟩ := Option.ite_some_none_eq_some.mp stepped
    have numbered := number_of_revision same
    constructor
    · intro other member
      rcases List.mem_append.mp member with earlier | added
      · exact inOrder.numbered other earlier
      · rw [List.mem_singleton.mp added, numbered, same]
    · refine List.pairwise_append.mpr ⟨inOrder.apart, List.pairwise_singleton _ _, ?_⟩
      intro earlier member later added parent
      rw [List.mem_singleton.mp added] at parent ⊢
      rw [numbered]
      exact follows earlier member parent
  | revise id fileid fileidTwbx url note =>
    cases stepped
    constructor
    · intro changed member
      obtain ⟨update, stored, rfl⟩ := List.mem_map.mp member
      have keeps := revise_keeps update id fileid fileidTwbx url note
      rw [UpdateEntry.number, keeps.2.1]
      exact inOrder.numbered update stored
    · refine List.pairwise_map.mpr (inOrder.apart.imp fun {earlier later} ordered parent => ?_)
      have keeps := revise_keeps earlier id fileid fileidTwbx url note
      have laterKeeps := revise_keeps later id fileid fileidTwbx url note
      rw [keeps.1, laterKeeps.1] at parent
      rw [UpdateEntry.number, UpdateEntry.number, keeps.2.1, keeps.2.2, laterKeeps.2.1,
        laterKeeps.2.2]
      exact ordered parent
  | remove kept =>
    cases stepped
    exact ⟨fun update member => inOrder.numbered update (List.mem_of_mem_filter member),
      inOrder.apart.filter kept⟩

/-- Rows that were recorded in a run are in order. -/
theorem inOrder_run {start rows : List UpdateEntry} {schedule : List Change}
    (initial : publishing.initial start) (reached : publishing.run start schedule = some rows) :
    InOrder rows := by
  have empty : start = [] := initial
  exact inOrder_preserved.run start rows schedule (empty ▸ ⟨nofun, .nil⟩) reached

/-! ## The order of the database -/

section Order

variable {rows : List UpdateEntry} {entry : Entry} {update other last : UpdateEntry}

theorem toDigits_all_isDigit (number : Nat) : (Nat.toDigits 10 number).all Char.isDigit = true :=
  List.all_eq_true.mpr fun _ member => Nat.isDigit_of_mem_toDigits (by decide) (by decide) member

/-- The database compares revisions as a dictionary does. -/
theorem le_revision (collation : Collation) (numbered : update.revision = toString update.number)
    (otherNumbered : other.revision = toString other.number) :
    collation.le update.revision other.revision = true ↔
      ¬ List.Lex (· < ·) (Nat.toDigits 10 other.number) (Nat.toDigits 10 update.number) := by
  rw [numbered, otherNumbered, Nat.toString_eq_ofList_toDigits, Nat.toString_eq_ofList_toDigits]
  exact collation.digits _ _ (toDigits_all_isDigit _) (toDigits_all_isDigit _)

/-- A smaller number is not above a greater one exactly if it is not above its first digits. -/
theorem le_revision_iff (collation : Collation)
    (numbered : update.revision = toString update.number)
    (lastNumbered : last.revision = toString last.number) (ordered : update.number ≤ last.number) :
    collation.le update.revision last.revision = true ↔
      update.number ≤ last.number / 10 ^ (last.revision.length - update.revision.length) := by
  have lengths (number : Nat) : (toString number).length = (Nat.toDigits 10 number).length := by
    rw [Nat.toString_eq_ofList_toDigits, String.length_ofList]
  rw [le_revision collation numbered lastNumbered, toDigits_lex_iff ordered, Nat.not_lt,
    numbered, lastNumbered, lengths, lengths]

/-- Revisions of which neither is above the other are the same number. -/
theorem number_eq_of_le (collation : Collation)
    (numbered : update.revision = toString update.number)
    (otherNumbered : other.revision = toString other.number)
    (below : collation.le update.revision other.revision = true)
    (above : collation.le other.revision update.revision = true) :
    update.number = other.number := by
  have same : Nat.toDigits 10 update.number = Nat.toDigits 10 other.number :=
    Std.Trichotomous.trichotomous (r := List.Lex (· < ·)) _ _
      ((le_revision collation otherNumbered numbered).mp above)
      ((le_revision collation numbered otherNumbered).mp below)
  rw [← value_toDigits update.number, same, value_toDigits]

theorem mem_updates (collation : Collation) :
    update ∈ collation.updates rows entry ↔ update ∈ ofEntry rows entry :=
  (List.perm_insertionSort _ _).mem_iff

/-- No update of an entry is above the first one. -/
theorem le_head (collation : Collation) {first : UpdateEntry} {rest : List UpdateEntry}
    (sorted : collation.updates rows entry = first :: rest) (member : update ∈ ofEntry rows entry) :
    collation.le update.revision first.revision = true := by
  have total : Std.Total fun update other : UpdateEntry =>
      collation.le other.revision update.revision = true :=
    ⟨fun _ _ => collation.total _ _⟩
  have transitive : IsTrans UpdateEntry fun update other =>
      collation.le other.revision update.revision = true :=
    ⟨fun _ _ _ first second => collation.trans _ _ _ second first⟩
  have pairwise : (collation.updates rows entry).Pairwise fun update other =>
      collation.le other.revision update.revision = true :=
    List.pairwise_insertionSort _ (ofEntry rows entry)
  rcases List.mem_cons.mp (sorted ▸ (mem_updates collation).mpr member) with rfl | later
  · exact (collation.total _ _).elim id id
  · rw [sorted] at pairwise
    exact List.rel_of_pairwise_cons pairwise later

/-- Of two updates of an entry one has both the smaller number and the earlier time. -/
theorem InOrder.compare (inOrder : InOrder rows) (member : update ∈ ofEntry rows entry)
    (otherMember : other ∈ ofEntry rows entry) :
    update = other ∨ (update.number < other.number ∧ update.timestamp < other.timestamp) ∨
      (other.number < update.number ∧ other.timestamp < update.timestamp) := by
  let Apart (update other : UpdateEntry) : Prop :=
    update = other ∨ (update.number < other.number ∧ update.timestamp < other.timestamp) ∨
      (other.number < update.number ∧ other.timestamp < update.timestamp)
  have symmetric : Std.Symm Apart :=
    ⟨fun _ _ apart => apart.imp Eq.symm Or.symm⟩
  have pairwise : (ofEntry rows entry).Pairwise Apart :=
    (inOrder.apart.filter _).imp_of_mem fun left right ordered =>
      .inr (.inl (ordered ((of_decide_eq_true (List.mem_filter.mp left).2).trans
        (of_decide_eq_true (List.mem_filter.mp right).2).symm)))
  exact pairwise.forall_of_forall (fun _ _ => .inl rfl) member otherMember

/-- Updates of one entry with the same number are the same. -/
theorem InOrder.unique (inOrder : InOrder rows) (member : update ∈ ofEntry rows entry)
    (otherMember : other ∈ ofEntry rows entry) (same : update.number = other.number) :
    update = other := by
  rcases inOrder.compare member otherMember with equal | before | after
  · exact equal
  · omega
  · omega

/-- The last update has the greatest number. -/
theorem InOrder.number_le (inOrder : InOrder rows) (isLast : IsLast (ofEntry rows entry) last)
    (member : update ∈ ofEntry rows entry) : update.number ≤ last.number := by
  have earlier := isLast.2 update member
  rcases inOrder.compare member isLast.1 with rfl | before | after
  · exact le_rfl
  · exact before.1.le
  · omega

/-- The first update is the last published one exactly if no update is above that. -/
theorem InOrder.head_eq_iff (inOrder : InOrder rows) (collation : Collation)
    (isLast : IsLast (ofEntry rows entry) last) {first : UpdateEntry} {rest : List UpdateEntry}
    (sorted : collation.updates rows entry = first :: rest) :
    first = last ↔ ∀ update ∈ ofEntry rows entry,
      update.number ≤ last.number / 10 ^ (last.revision.length - update.revision.length) := by
  have stored {update : UpdateEntry} (member : update ∈ ofEntry rows entry) :
      update.revision = toString update.number :=
    inOrder.numbered update (List.mem_of_mem_filter member)
  have firstMember : first ∈ ofEntry rows entry := by
    rw [← mem_updates collation, sorted]
    exact List.mem_cons_self
  have below {update : UpdateEntry} (member : update ∈ ofEntry rows entry) :=
    le_revision_iff collation (stored member) (stored isLast.1) (inOrder.number_le isLast member)
  constructor
  · rintro rfl update member
    exact (below member).mp (le_head collation sorted member)
  · intro leads
    refine inOrder.unique firstMember isLast.1 ?_
    exact number_eq_of_le collation (stored firstMember) (stored isLast.1)
      ((below firstMember).mpr (leads first firstMember)) (le_head collation sorted isLast.1)

end Order

/-! ## The page -/

section Page

variable {rows : List UpdateEntry} {entry : Entry} {last : UpdateEntry}

/-- A page reports the last update exactly if that comes first. -/
theorem reports_iff (inOrder : InOrder rows) (application : Application)
    (isLast : IsLast (ofEntry rows entry) last) :
    application.Reports last (application.entryData entry
        ((application.collation.updates rows entry).map application.shown)) ↔
      ∀ update ∈ ofEntry rows entry,
        update.number ≤ last.number / 10 ^ (last.revision.length - update.revision.length) := by
  cases sorted : application.collation.updates rows entry with
  | nil =>
    have member := (mem_updates application.collation).mpr isLast.1
    rw [sorted] at member
    cases member
  | cons first rest =>
    rw [← inOrder.head_eq_iff application.collation isLast sorted]
    have firstMember : first ∈ ofEntry rows entry := by
      rw [← mem_updates application.collation, sorted]
      exact List.mem_cons_self
    constructor
    · intro reports
      have revision : first.revision = last.revision := Option.some.inj reports.1
      refine inOrder.unique firstMember isLast.1 ?_
      rw [UpdateEntry.number, UpdateEntry.number, revision]
    · rintro rfl
      exact ⟨rfl, rfl, rfl⟩

/-- A page shows the last published revisions exactly if every update on it has a user and of no
entry a number is above the first digits of the last one. -/
theorem shows_last_iff (application : Application) (entries : List Entry)
    (start rows : List UpdateEntry) (schedule : List Change) (initial : publishing.initial start)
    (reached : publishing.run start schedule = some rows) :
    application.ShowsLast rows entries ↔
      ∀ entry ∈ entries, (∀ update ∈ ofEntry rows entry, update.systemUserId ≠ none) ∧
        LastLeads (ofEntry rows entry) := by
  have inOrder := inOrder_run initial reached
  have settles := pageData_settles (cached_nil application.around) rows entries
  have users : (∀ entry ∈ entries, ∀ update ∈ application.collation.updates rows entry,
      update.systemUserId ≠ none) ↔
        ∀ entry ∈ entries, ∀ update ∈ ofEntry rows entry, update.systemUserId ≠ none := by
    simp only [mem_updates]
  constructor
  · rintro ⟨datas, shown, reports⟩ entry member
    obtain ⟨known, rfl⟩ := settles.of_ok shown
    refine ⟨users.mp known entry member, fun last isLast => ?_⟩
    have reported := List.forall₂_map_right_iff.mp reports
    exact (reports_iff inOrder application isLast).mp
      (List.forall₂_same.mp reported entry member last isLast)
  · intro good
    obtain ⟨datas, shown, rfl⟩ := settles.exists_ok
      (users.mpr fun entry member => (good entry member).1)
    refine ⟨_, shown, List.forall₂_map_right_iff.mpr (List.forall₂_same.mpr ?_)⟩
    intro entry member last isLast
    exact (reports_iff inOrder application isLast).mpr ((good entry member).2 last isLast)

end Page

/-! ## Ten revisions -/

/-- A list that another does not come before comes no later. -/
theorem not_lex_iff (left right : List Char) : ¬ List.Lex (· < ·) right left ↔ left ≤ right := by
  have same : right < left ↔ List.Lex (· < ·) right left := Iff.rfl
  rw [← same, not_lt]

/-- Texts in the order of their characters. -/
def bytewise : Collation where
  le left right := decide (left.toList ≤ right.toList)
  total left right := by
    simpa using le_total left.toList right.toList
  trans left middle right first second :=
    decide_eq_true ((of_decide_eq_true first).trans (of_decide_eq_true second))
  digits left right _ _ := by
    rw [not_lex_iff, decide_eq_true_iff, String.toList_ofList, String.toList_ofList]

/-- The page of the workbooks of an environment with one user. -/
def oneUserPage : Application :=
  workbookApplication ⟨1, [], [], [⟨1, "mila", none, some 5⟩]⟩ bytewise fun _ => "noon"

/-- A workbook. -/
def salesWorkbook : Entry := ⟨7, 1, some 1, some 2, some 5, some "Sales", some 1⟩

/-- An update of the workbook. -/
def salesUpdate (id : Nat) (revision : String) : UpdateEntry :=
  ⟨id, some 7, revision, none, none, id, some 5, some "", none⟩

/-- Of one revision the page shows that one. -/
theorem only_revision_shown :
    oneUserPage.ShowsLast [salesUpdate 1 "1"] [salesWorkbook] := by
  refine (shows_last_iff oneUserPage [salesWorkbook] [] [salesUpdate 1 "1"]
    [.record (salesUpdate 1 "1") 1] rfl (by decide +kernel)).mpr ?_
  refine List.forall_mem_singleton.mpr ⟨by decide +kernel, ?_⟩
  have single : ofEntry [salesUpdate 1 "1"] salesWorkbook = [salesUpdate 1 "1"] := by
    decide +kernel
  rw [single]
  rintro last ⟨member, -⟩ update updateMember
  rw [List.mem_singleton.mp member, List.mem_singleton.mp updateMember]
  decide +kernel

/-- After the tenth revision the page still shows the ninth. -/
theorem ninth_still_shown :
    ¬ ∀ (application : Application) (entries : List Entry) (start rows : List UpdateEntry)
      (schedule : List Change), publishing.initial start →
      publishing.run start schedule = some rows → application.ShowsLast rows entries := by
  intro always
  obtain ⟨datas, shown, reports⟩ := always oneUserPage [salesWorkbook] []
    [salesUpdate 1 "9", salesUpdate 2 "10"]
    [.record (salesUpdate 1 "9") 9, .record (salesUpdate 2 "10") 10] rfl (by decide +kernel)
  have revisions : ((oneUserPage.pageData [salesUpdate 1 "9", salesUpdate 2 "10"]
      [salesWorkbook] []).toOption.map fun datas => datas.map (·.currentRevision)) =
        some [some "9"] := by
    decide +kernel
  have isLast : IsLast (ofEntry [salesUpdate 1 "9", salesUpdate 2 "10"] salesWorkbook)
      (salesUpdate 2 "10") := by
    unfold IsLast
    decide +kernel
  cases reports with
  | cons reported none =>
    rw [shown] at revisions
    have ninth := (List.cons.inj (Option.some.inj revisions)).1
    have tenth := (reported _ isLast).1
    exact absurd (tenth.symm.trans ninth) (by decide +kernel)

end Palette.Web.Archive
