import Palette.Events.Gen
import Palette.Settings.Typed

/-!
# Events with complete rows

The generation of an event ends with one complete row if nothing is raised that it does not
catch: by the settings, before there is a row; by the subject or the description, while the row is
incomplete; or by the mail, after it is complete. A disabled agent gets no row at all.

What the subject raises depends on how its directives use the values, and what the description
raises on mako or, where there is no template for it, on which values can be split into lines.
-/

namespace Palette.Events

open Palette.Commands (Failure)
open Palette.Foundation Palette.Telnet Script

/-! ## What is wanted -/

/-- One row was added, which is complete and has the key. No incomplete row was left. -/
structure OneComplete (key : Text) (before after : EventTable) : Prop where
  added : ∃ row, after.rows = before.rows ++ [row] ∧ row.complete = true ∧ row.key = key
  clean : key ≠ incompleteKey → ∀ row ∈ after.rows, row ∉ before.rows → row.key ≠ incompleteKey

/-- A complete row with the key is all that is wanted. -/
theorem oneComplete_of_added {key : Text} {before after : EventTable} {row : EventEntry}
    (rows : after.rows = before.rows ++ [row]) (complete : row.complete = true)
    (named : row.key = key) : OneComplete key before after := by
  refine ⟨⟨row, rows, complete, named⟩, fun apart other listed fresh => ?_⟩
  rw [rows, List.mem_append, List.mem_singleton] at listed
  rcases listed with old | rfl
  · exact absurd old fresh
  · exact named ▸ apart

namespace Surroundings

variable (surroundings : Surroundings)

/-- The event is generated: the method returns after it added one complete row. -/
def EndsWell (call : Call) (table : EventTable) : Prop :=
  (surroundings.gen call).Completes table fun _ final => OneComplete call.key table final

/-- Every setting of the environment that is stored has the type of its default. -/
def Readable : Prop :=
  ∀ row ∈ surroundings.settings.rows, row.envid = surroundings.envid →
    ∃ setting, row.typed surroundings.platform = .ok setting

/-- A directive of the subject that is reached lacks a value or has one of the wrong kind. -/
def Misused (subject : Text) (data : Data) : Prop :=
  Template.Misused surroundings.conversions data
    (some (.object (Json.codes (String.ofList (surroundings.dataText data))) true))
    (Template.pieces subject)

/-- The texts of an event can be made: its subject is a text whose directives are not misused;
its description raises, if anything, what is caught, or its values can be described; and mako
raises, if anything, a StandardError for its mail. -/
structure Presentable (entry : EventControl) (data : Data) : Prop where
  subject : ∃ subject, entry.subject = some subject ∧ ¬surroundings.Misused subject data
  description : match entry.eventDescription.filter (· ≠ []) with
    | none => Describable surroundings.equal data
    | some description => ∀ failure,
        surroundings.render true description data = .error (.raised failure) →
          failure.kind = .typeError
  mail : entry.sendEmail = true → ∀ message ∈ entry.emailMessage, message ≠ [] →
    ∀ subject ∈ entry.emailSubject.or entry.subject, ¬surroundings.Misused subject data →
      ∀ failure, surroundings.render false message data = .error failure →
        ∃ raised, failure = .raised raised ∧ raised.isStandardError = true

variable {surroundings} {entry : EventControl} {call : Call} {data : Data}

/-! ## The dictionary -/

/-- A known setting is read. -/
theorem setting_isOk (readable : surroundings.Readable) (key : String)
    (known : Settings.isKnown key.toList = true) :
    ∃ value, surroundings.setting key = .ok value := by
  have read : ∃ setting, Settings.getItem surroundings.platform surroundings.envid
      surroundings.settings key.toList = .ok setting := by
    unfold Settings.getItem
    split
    next row found =>
      obtain ⟨stored, own, name⟩ := Settings.entry_eq_some_iff.mp found
      obtain ⟨setting, typed⟩ := readable row stored own
      exact ⟨setting, name ▸ typed⟩
    next =>
      obtain ⟨entry, default⟩ := Settings.isKnown_iff.mp known
      rw [default]
      exact ⟨_, rfl⟩
  obtain ⟨found, read⟩ := read
  unfold Surroundings.setting
  rw [read]
  exact ⟨_, rfl⟩

/-- Outcomes of a list are all values if each is one. -/
theorem mapM_isOk {Item Result : Type} {make : Item → Except Failure Result} {items : List Item} :
    (∃ results, items.mapM make = .ok results) ↔ ∀ item ∈ items, ∃ result, make item = .ok result := by
  induction items with
  | nil => exact iff_of_true ⟨[], rfl⟩ nofun
  | cons item rest inductionHypothesis =>
    rw [List.mapM_cons, List.forall_mem_cons, ← inductionHypothesis]
    simp only [bind_eq_ok]
    constructor
    · rintro ⟨results, result, made, others, madeOthers, -⟩
      exact ⟨⟨result, made⟩, others, madeOthers⟩
    · rintro ⟨⟨result, made⟩, others, madeOthers⟩
      exact ⟨_, result, made, others, madeOthers, rfl⟩

/-- The settings are put into the dictionary if they are readable. -/
theorem withSettings_isOk :
    (∃ after, surroundings.withSettings data = .ok after) ↔ surroundings.Readable := by
  have rows : (∃ overridden, (surroundings.settings.rows.filter fun row =>
      row.envid = surroundings.envid).mapM (fun row => do
        return (Settings.translateKey false row.key, ← row.typed surroundings.platform)) =
          (.ok overridden : Except Failure (List (Text × Settings.Setting)))) ↔
      surroundings.Readable := by
    rw [mapM_isOk]
    simp only [List.mem_filter, decide_eq_true_eq, and_imp, bind_eq_ok, Readable]
    refine forall_congr' fun row => forall_congr' fun stored => forall_congr' fun own => ?_
    exact ⟨fun ⟨_, setting, typed, _⟩ => ⟨setting, typed⟩, fun ⟨setting, typed⟩ =>
      ⟨_, setting, typed, rfl⟩⟩
  rw [← rows]
  unfold Surroundings.withSettings Settings.todict
  simp only [bind_eq_ok]
  constructor
  · rintro ⟨after, settings, ⟨overridden, made, -⟩, -⟩
    exact ⟨overridden, made⟩
  · rintro ⟨overridden, made⟩
    exact ⟨_, _, ⟨overridden, made, rfl⟩, rfl⟩

/-- The key of a default is known. -/
theorem isKnown_of_mem {default : String × Settings.Default}
    (member : default ∈ Settings.defaults) : Settings.isKnown default.1.toList = true := by
  rw [Settings.isKnown, List.any_eq_true]
  exact ⟨default, member, decide_eq_true rfl⟩

/-- The servers are put into the dictionary if the settings are readable. -/
theorem withServers_isOk (readable : surroundings.Readable) :
    ∃ after, surroundings.withServers data = .ok after := by
  have ownUrl : Settings.isKnown "server-url".toList = true :=
    @isKnown_of_mem ("server-url", .plain (.str "https://localhost".toList))
      (by simp [Settings.defaults])
  have tableauUrl : Settings.isKnown "tableau-server-url".toList = true :=
    @isKnown_of_mem ("tableau-server-url", .plain .none) (by simp [Settings.defaults])
  obtain ⟨server, readServer⟩ := setting_isOk readable "server-url" ownUrl
  obtain ⟨tableau, readTableau⟩ := setting_isOk readable "tableau-server-url" tableauUrl
  unfold Surroundings.withServers Surroundings.publicUrl
  rw [readServer, readTableau]
  simp only [bind, Except.bind]
  cases tableau.truthy <;> exact ⟨_, rfl⟩

/-- The dictionary is completed if the settings are readable. -/
theorem completed_isOk :
    (∃ after, surroundings.completed entry call data = .ok after) ↔ surroundings.Readable := by
  rw [← @withSettings_isOk surroundings data]
  unfold Surroundings.completed
  simp only [bind_eq_ok]
  constructor
  · rintro ⟨after, settings, put, -⟩
    exact ⟨settings, put⟩
  · rintro ⟨settings, put⟩
    obtain ⟨servers, served⟩ := withServers_isOk (withSettings_isOk.mp ⟨settings, put⟩)
    exact ⟨_, settings, put, servers, served, rfl⟩

/-! ## The texts -/

/-- There is a title if the directives of the subject are not misused. -/
theorem title_isOk : (∃ title, surroundings.title entry data = .ok title) ↔
    ∃ subject, entry.subject = some subject ∧ ¬surroundings.Misused subject data := by
  unfold Surroundings.title
  cases entry.subject with
  | none => simp
  | some subject =>
    have misused := @Template.format_misused _ surroundings.conversions data
      (some (.object (Json.codes (String.ofList (surroundings.dataText data))) true))
      (Template.pieces subject)
    simp only [Option.some.injEq, exists_eq_left']
    unfold Misused Surroundings.percent
    rw [← misused]
    split <;> simp_all

/-- There is a description if what is raised is caught, or nothing is. -/
theorem described_isOk : (∃ text, surroundings.described entry data = .ok text) ↔
    match entry.eventDescription.filter (· ≠ []) with
    | none => Describable surroundings.equal data
    | some description => ∀ failure,
        surroundings.render true description data = .error (.raised failure) →
          failure.kind = .typeError := by
  unfold Surroundings.described
  cases entry.eventDescription.filter (· ≠ []) with
  | none => exact makeDefaultDescription_isOk surroundings.equal data
  | some description =>
    simp only []
    cases surroundings.render true description data with
    | ok text => simp
    | error failure =>
      cases failure with
      | mako message => simp
      | raised failure =>
        by_cases caught : failure.kind = .typeError <;> simp [caught]

/-- Nothing escapes from the mail if mako raises StandardErrors only, or the subject is misused
before it is asked. -/
theorem mailEscapes_eq_none : surroundings.mailEscapes entry data = none ↔
    ∀ message ∈ entry.emailMessage, message ≠ [] →
      ∀ subject ∈ entry.emailSubject.or entry.subject, ¬surroundings.Misused subject data →
        ∀ failure, surroundings.render false message data = .error failure →
          ∃ raised, failure = .raised raised ∧ raised.isStandardError = true := by
  unfold Surroundings.mailEscapes
  cases entry.emailSubject.or entry.subject with
  | none => simp
  | some subject =>
    have misused := @Template.format_misused _ surroundings.conversions data
      (some (.object (Json.codes (String.ofList (surroundings.dataText data))) true))
      (Template.pieces subject)
    change (surroundings.percent subject data = .error .type ∨
      surroundings.percent subject data = .error .overflow) ↔
        surroundings.Misused subject data at misused
    simp only [Option.map_some, Option.mem_def, Option.some.injEq, forall_eq']
    split
    next absent => cases absent
    next type =>
      have failed := misused.mp (.inl (Option.some.inj type))
      exact iff_of_true rfl fun _ _ _ unmisused => absurd failed unmisused
    next overflow =>
      have failed := misused.mp (.inr (Option.some.inj overflow))
      exact iff_of_true rfl fun _ _ _ unmisused => absurd failed unmisused
    next typeless overflowless same =>
      have unmisused : ¬surroundings.Misused subject data := by
        rw [← misused]
        rintro (type | overflow)
        · exact typeless ((Option.some.inj same).symm.trans type)
        · exact overflowless ((Option.some.inj same).symm.trans overflow)
      simp only [unmisused, not_false_eq_true, forall_true_left]
      cases entry.emailMessage with
      | none => simp
      | some message =>
        by_cases empty : message = []
        · simp [empty, Option.filter_some]
        · simp only [Option.filter_some, empty, ne_eq, not_false_eq_true, decide_true, if_true,
            Option.some.injEq, forall_eq', forall_true_left]
          cases surroundings.render false message data with
          | ok text => simp
          | error failure =>
            cases failure with
            | mako text => simp
            | raised failure => cases standard : failure.isStandardError <;> simp [standard]

/-! ## The method -/

/-- The method for an entry that was found ends well if the settings are readable and the texts
can be made. -/
theorem genEntry_completes (table : EventTable) :
    ((surroundings.genEntry entry call).Completes table fun _ final =>
        OneComplete call.key table final) ↔
      ∃ data, surroundings.completed entry call (callData call) = .ok data ∧
        surroundings.Presentable entry (data.put "eventid" (.long table.nextId)) := by
  unfold Surroundings.genEntry
  simp only [completes_bind, completes_settle, completes_get, completes_modify]
  refine exists_congr fun data => and_congr_right fun _ => ?_
  generalize data.put "eventid" (.long table.nextId) = known
  have complete (title : Text) (description : PyText) := oneComplete_of_added
    (table.merge_addIncomplete (call.timestamp.getD surroundings.now)
      (surroundings.completeRow entry call table.nextId title description) rfl) rfl rfl
  constructor
  · rintro ⟨title, titled, description, described, mailed⟩
    refine ⟨title_isOk.mp ⟨title, titled⟩, described_isOk.mp ⟨description, described⟩,
      fun sends => mailEscapes_eq_none.mp ?_⟩
    rw [sends, if_pos rfl] at mailed
    cases escapes : surroundings.mailEscapes entry known with
    | none => rfl
    | some failure =>
      rw [escapes] at mailed
      exact absurd mailed id
  · intro presentable
    obtain ⟨title, titled⟩ := title_isOk.mpr presentable.subject
    obtain ⟨description, described⟩ := described_isOk.mpr presentable.description
    refine ⟨title, titled, description, described, ?_⟩
    cases sends : entry.sendEmail with
    | false => exact complete title _
    | true =>
      rw [if_pos rfl, mailEscapes_eq_none.mpr (presentable.mail sends)]
      exact complete title _

/-- What the method leaves behind if it ends in one of the ways that its callers know. -/
def Describes (call : Call) (timestamp : Timestamp) (before : EventTable) :
    Generation → Except Failure PUnit → EventTable → Prop
  | .skipped, ended, after => ended = .ok ⟨⟩ ∧ after = before
  | .raised failure, ended, after => ended = .error failure ∧ after = before
  | .incomplete failure, ended, after =>
    ended = .error failure ∧ after = before.addIncomplete timestamp
  | .generated raises, ended, after =>
    (match raises with
      | none => ended = .ok ⟨⟩
      | some failure => ended = .error failure) ∧ OneComplete call.key before after

/-- The method ends in one of the ways that its callers know. -/
theorem gen_describes (call : Call) (table : EventTable) :
    (surroundings.gen call).Ends table
      (fun _ final => ∃ generation, Describes call (call.timestamp.getD surroundings.now) table
        generation (.ok ⟨⟩) final)
      fun failure final => ∃ generation, Describes call (call.timestamp.getD surroundings.now) table
        generation (.error failure) final := by
  unfold Surroundings.gen
  cases disabled call with
  | true => exact ⟨.skipped, rfl, rfl⟩
  | false =>
    simp only [Bool.false_eq_true, if_false]
    cases surroundings.getEventControlEntry call.key with
    | none => exact ⟨.skipped, rfl, rfl⟩
    | some entry =>
      simp only [Surroundings.genEntry, ends_bind, ends_settle]
      cases surroundings.completed entry call (callData call) with
      | error failure => exact ⟨.raised failure, rfl, rfl⟩
      | ok data =>
        simp only [ends_get, ends_modify]
        have complete (title : Text) (description : PyText) := oneComplete_of_added
          (table.merge_addIncomplete (call.timestamp.getD surroundings.now)
            (surroundings.completeRow entry call table.nextId title description) rfl) rfl rfl
        cases surroundings.title entry (data.put "eventid" (.long table.nextId)) with
        | error failure => exact ⟨.incomplete failure, rfl, rfl⟩
        | ok title =>
          simp only []
          cases surroundings.described entry (data.put "eventid" (.long table.nextId)) with
          | error failure => exact ⟨.incomplete failure, rfl, rfl⟩
          | ok description =>
            simp only [ends_ite]
            split
            · split
              · exact ⟨.generated none, rfl, complete title _⟩
              · exact ⟨.generated (some _), rfl, complete title _⟩
            · exact ⟨.generated none, rfl, complete title _⟩

/-! ## An event about a disk -/

/-- One kind of event, with a subject that is edited. -/
def diskControl (subject : Text) : EventControl :=
  ⟨['D'], some ['E'], false, some subject, some ['F', 'u', 'l', 'l'], none, none, none, none, none,
    none, none, none, true, false⟩

/-- A server with the default settings and that kind of event. -/
def diskServer (subject : Text) : Surroundings where
  envid := 1
  platform := ⟨fun _ => true, fun _ => none⟩
  settings := ⟨[], by decide⟩
  controls := [diskControl subject]
  profiles := []
  siteName _ := none
  projectName _ := none
  canonicalUrl := none
  environmentName := []
  eventDebug := false
  now := ⟨[], [], true⟩
  render _ text _ := .ok (.unicode (text.map Char.toNat))
  errorTemplate _ := []
  dataText _ := []
  equal left right := decide (left = right)
  conversionText _ _ _ := []
  padded _ text := text

/-- A call without data. -/
def diskCall : Call := ⟨['D'], none, none, none, none⟩

/-- A table without events. -/
def noEvents : EventTable := ⟨[], 1, fun _ member => absurd member List.not_mem_nil⟩

end Surroundings

end Palette.Events
