import Palette.Foundation.Script
import Palette.Telnet.Parsing

/-!
# When a line is parsed

A line leads to a command, to an error that is reported, or to another exception, which
ends the controller. The latter happens when the database cannot take an option that it is
asked with, and when the id of the user is given without a value.
-/

namespace Palette.Telnet

open Palette.Commands Palette.Foundation

/-- The options that every command has. -/
def Options.Filled (options : Options) : Prop :=
  ∀ key ∈ ["domainid", "envid", "uuid"], (options.get key).isSome

/-- A command has a name, its options are filled in and the id of its user is a number; the
only exception is the one that is reported. -/
def Total : Except Raise Command → Prop
  | .ok command => command.name ≠ [] ∧ command.options.Filled ∧
      ∀ value, command.options.get "userid" = some value →
        ∃ text, value = .text text ∧ (intOfText (String.ofList text)).isSome
  | .error (.command _) => True
  | .error (.other _) => False

variable {database : Database} {options : Options}

/-! ## What the database takes -/

/-- No option of a line is a number. -/
def Options.Plain (options : Options) : Prop :=
  ∀ key number, options.get key ≠ some (.number number)

/-- The value of an option is none or a text. -/
theorem keyValue_ne_number (option : Text) (number : Int) : (keyValue option).2 ≠ .number number := by
  unfold keyValue
  dsimp only
  split <;> simp

/-- The options of a line are plain. -/
theorem plain_parse (tokens : List Text) (plain : options.Plain) :
    (parse options tokens).options.Plain := by
  induction tokens generalizing options with
  | nil => exact plain
  | cons token rest inductionHypothesis =>
    unfold parse
    split
    · rename_i option
      apply inductionHypothesis
      intro key number
      unfold Options.get
      rw [List.lookup_cons]
      split
      · simpa using keyValue_ne_number option number
      · exact plain key number
    · exact plain

/-- The database takes the value of an option. -/
def Takes (database : Database) (value : Option OptionValue) : Prop :=
  ∀ text, value = some (.text text) → database.accepts text = true

/-- The environment is a number if it is given as a text. -/
def EnvidTaken (options : Options) : Prop :=
  ∀ text, options.get "envid" = some (.text text) → (bigintOf text).isSome

/-- Every query that the options lead to is taken. -/
def QueriesTaken (database : Database) (options : Options) : Prop :=
  if options.describes then
    EnvidTaken options ∧ ∀ key ∈ ["uuid", "displayname", "hostname", "type"],
      Takes database (options.get key)
  else (options.get "uuid").isSome ∨ EnvidTaken options

theorem isOk_textIs {value : Option OptionValue} (plain : ∀ number, value ≠ some (.number number)) :
    (textIs database value).isOk = true ↔ Takes database value := by
  unfold textIs Takes
  cases value with
  | none => simp [Except.isOk, Except.toBool]
  | some given =>
    cases given with
    | none => simp [Except.isOk, Except.toBool]
    | number number => exact absurd rfl (plain number)
    | text text => cases taken : database.accepts text <;> simp [taken, Except.isOk, Except.toBool]

theorem isOk_envidIs : (envidIs (options.envid database)).isOk = true ↔ EnvidTaken options := by
  unfold EnvidTaken Options.envid
  cases given : options.get "envid" with
  | none => simp [envidIs, Except.isOk, Except.toBool]
  | some value =>
    cases value with
    | none => simp [envidIs, Except.isOk, Except.toBool]
    | number number => simp [envidIs, Except.isOk, Except.toBool]
    | text text =>
      cases taken : bigintOf text <;> simp [envidIs, taken, Except.isOk, Except.toBool]

/-- Two outcomes in a row are a value where both are. -/
theorem isOk_bind {Value Result : Type} {outcome : Except Failure Value}
    {next : Value → Except Failure Result} {condition : Prop}
    (always : ∀ value, outcome = .ok value → ((next value).isOk = true ↔ condition)) :
    (outcome >>= next).isOk = true ↔ outcome.isOk = true ∧ condition := by
  cases outcome with
  | error failure => simp [bind, Except.bind, Except.isOk, Except.toBool]
  | ok value =>
    rw [← always value rfl]
    simp [bind, Except.bind, Except.isOk, Except.toBool]

/-- The description of an agent can be looked up if the database takes all of it. -/
theorem isOk_describedAgents (plain : options.Plain) :
    (describedAgents database options (options.envid database)).isOk = true ↔
      EnvidTaken options ∧ ∀ key ∈ ["uuid", "displayname", "hostname", "type"],
        Takes database (options.get key) := by
  unfold describedAgents
  rw [isOk_bind fun _ _ => isOk_bind fun _ _ => isOk_bind fun _ _ => isOk_bind fun _ _ =>
    isOk_bind fun _ _ => Iff.of_eq (eq_true rfl)]
  simp only [isOk_envidIs, isOk_textIs (plain _), List.forall_mem_cons, List.not_mem_nil,
    false_implies, implies_true, and_true]

/-! ## Completed options -/

theorem get_set_self (key : String) (value : OptionValue) :
    (options.set key value).get key = some value := by
  simp [Options.get, Options.set]

theorem get_set_of_ne {key other : String} (value : OptionValue) (different : other ≠ key) :
    (options.set key value).get other = options.get other := by
  have apart : (other.toList == key.toList) = false := by
    simpa using fun same => different (String.toList_inj.mp same)
  simp [Options.get, Options.set, List.lookup_cons, apart]

/-- Filling in an option. -/
def Options.fill (options : Options) (key : String) (value : OptionValue) : Options :=
  if (options.get key).isSome then options else options.set key value

theorem get_fill_self (key : String) (value : OptionValue) :
    ((options.fill key value).get key).isSome := by
  unfold Options.fill
  split
  · assumption
  · simp [get_set_self]

theorem get_fill_of_ne {key other : String} (value : OptionValue) (different : other ≠ key) :
    (options.fill key value).get other = options.get other := by
  unfold Options.fill
  split
  · rfl
  · exact get_set_of_ne value different

/-- The options with their domain and environment. -/
def Options.placed (options : Options) (database : Database) : Options :=
  (options.fill "domainid" (.number database.domainid)).fill "envid" (options.envid database)

/-- Other options stay as they are. -/
theorem get_placed {key : String} (domainid : key ≠ "domainid") (envid : key ≠ "envid") :
    (options.placed database).get key = options.get key := by
  unfold Options.placed
  rw [get_fill_of_ne _ envid, get_fill_of_ne _ domainid]

/-- The lookup of the agent does not depend on what was filled in. -/
theorem lookupUuid_placed (envid : OptionValue) :
    lookupUuid database (options.placed database) envid = lookupUuid database options envid := by
  have same (key : String) (domainid : key ≠ "domainid") (other : key ≠ "envid") :
      (options.placed database).get key = options.get key := get_placed domainid other
  have uuid := same "uuid" (by decide) (by decide)
  have describes : (options.placed database).describes = options.describes := by
    simp only [Options.describes, same "displayname" (by decide) (by decide),
      same "hostname" (by decide) (by decide), same "type" (by decide) (by decide)]
  have described : describedAgents database (options.placed database) envid =
      describedAgents database options envid := by
    simp only [describedAgents, uuid, same "displayname" (by decide) (by decide),
      same "hostname" (by decide) (by decide), same "type" (by decide) (by decide)]
  unfold lookupUuid
  rw [describes, described, uuid]

/-- The completed options, with the uuid if one was looked up. -/
def Options.completed (options : Options) (database : Database) (uuid : Option OptionValue) :
    Options :=
  match uuid with
  | some value => (options.placed database).set "uuid" value
  | none => options.placed database

/-- A uuid that is looked up is filled in, and one that is not was given. -/
theorem filled_completed {uuid : Option OptionValue}
    (found : lookupUuid database options (options.envid database) = .ok uuid) :
    (options.completed database uuid).Filled := by
  have placed (key : String) (member : key ∈ ["domainid", "envid"]) :
      ((options.placed database).get key).isSome := by
    simp only [List.mem_cons, List.not_mem_nil, or_false] at member
    unfold Options.placed
    rcases member with rfl | rfl
    · rw [get_fill_of_ne _ (by decide)]
      exact get_fill_self _ _
    · exact get_fill_self _ _
  cases uuid with
  | some value =>
    intro key member
    unfold Options.completed
    simp only [List.mem_cons, List.not_mem_nil, or_false] at member
    rcases member with rfl | rfl | rfl
    · rw [get_set_of_ne _ (by decide)]
      exact placed _ (by simp)
    · rw [get_set_of_ne _ (by decide)]
      exact placed _ (by simp)
    · simp [get_set_self]
  | none =>
    have given : (options.get "uuid").isSome := by
      unfold lookupUuid at found
      split at found
      · split at found
        · assumption
        · split at found <;> cases found
      · split at found <;> cases found
    intro key member
    unfold Options.completed
    simp only [List.mem_cons, List.not_mem_nil, or_false] at member
    rcases member with rfl | rfl | rfl
    · exact placed _ (by simp)
    · exact placed _ (by simp)
    · rw [get_placed (by decide) (by decide)]
      exact given

/-- The id of the user is not filled in. -/
theorem get_userid_completed (database : Database) (options : Options)
    (uuid : Option OptionValue) :
    (options.completed database uuid).get "userid" = options.get "userid" := by
  have placed : (options.placed database).get "userid" = options.get "userid" :=
    get_placed (by decide) (by decide)
  cases uuid with
  | some value => exact (get_set_of_ne value (by decide)).trans placed
  | none => exact placed

/-- The options are completed once the agent is found and the id of the user is checked. -/
theorem sanity_eq : sanity database options = (do
    let uuid ← lookupUuid database options (options.envid database)
    checkUserid options
    return options.completed database uuid) := by
  have envid : (options.fill "domainid" (.number database.domainid)).envid database =
      options.envid database := by
    simp only [Options.envid, get_fill_of_ne _ (show "envid" ≠ "domainid" by decide)]
  have whole : sanity database options = (do
      let uuid ← lookupUuid database (options.placed database) (options.envid database)
      checkUserid (options.completed database uuid)
      return options.completed database uuid) := by
    simp only [Options.completed, Options.placed, ← envid]
    rfl
  have userid (uuid : Option OptionValue) :
      checkUserid (options.completed database uuid) = checkUserid options := by
    simp only [checkUserid, get_userid_completed]
  rw [whole, lookupUuid_placed]
  simp only [userid]

/-! ## Lines -/

/-- The options describe no agent, or more than one. -/
def AgentRefused (database : Database) (options : Options) : Prop :=
  options.describes = true ∧
    ∀ row, describedAgents database options (options.envid database) ≠ .ok [row]

/-- The database takes the options of the line, and the id of the user has a value unless
the agent is refused before it is looked at. A line that cannot be split or has no name is
reported. -/
def Understood (database : Database) (line : Text) : Prop :=
  ∀ tokens, Shlex.split line = .ok tokens → (parse [] tokens).name ≠ [] →
    QueriesTaken database (parse [] tokens).options ∧
      ((parse [] tokens).options.get "userid" = some .none →
        AgentRefused database (parse [] tokens).options)

/-- The outcome of the lookup, by what the database takes. -/
theorem lookupUuid_cases (database : Database) (plain : options.Plain) :
    (¬QueriesTaken database options ∧
      ∃ failure, lookupUuid database options (options.envid database) = .error (.other failure)) ∨
    (QueriesTaken database options ∧ AgentRefused database options ∧
      ∃ message, lookupUuid database options (options.envid database) =
        .error (.command message)) ∨
    (QueriesTaken database options ∧ ¬AgentRefused database options ∧
      ∃ uuid, lookupUuid database options (options.envid database) = .ok uuid) := by
  unfold lookupUuid QueriesTaken AgentRefused
  cases describes : options.describes with
  | false =>
    simp only [ite_true, Bool.false_eq_true, ite_false, false_and, not_false_eq_true, true_and]
    cases given : (options.get "uuid").isSome with
    | true => simp
    | false =>
      simp only [Bool.false_eq_true, ite_false, false_or, ← @isOk_envidIs database options]
      unfold primaryAgents
      cases envidIs (options.envid database) with
      | error failure => simp [bind, Except.bind, Except.isOk, Except.toBool]
      | ok inEnvironment =>
        right
        right
        refine ⟨rfl, ?_⟩
        simp only [bind, Except.bind, pure, Except.pure]
        split
        · simp_all
        · exact ⟨_, rfl⟩
        · exact ⟨_, rfl⟩
  | true =>
    simp only [reduceCtorEq, ite_false, ite_true, true_and, ← isOk_describedAgents plain]
    cases found : describedAgents database options (options.envid database) with
    | error failure => simp [Except.isOk, Except.toBool]
    | ok rows =>
      right
      match rows with
      | [] => exact .inl ⟨rfl, by simp, _, rfl⟩
      | [row] => exact .inr ⟨rfl, by simp, _, rfl⟩
      | _ :: _ :: _ => exact .inl ⟨rfl, by simp, _, rfl⟩

/-- A digit is no blank. -/
theorem isWhitespace_of_isDigit {char : Char} (digit : char.isDigit = true) :
    char.isWhitespace = false := by
  simp only [Char.isWhitespace, Bool.or_eq_false_iff, decide_eq_false_iff_not]
  refine ⟨⟨⟨?_, ?_⟩, ?_⟩, ?_⟩ <;> rintro rfl <;> cases digit

/-- Digits are a number. -/
theorem intOfText_digits {text : Text} (digits : (digitsValue text).isSome) :
    (intOfText (String.ofList text)).isSome := by
  have all : text ≠ [] ∧ text.all Char.isDigit := by
    unfold digitsValue at digits
    split at digits
    · assumption
    · cases digits
  have digit : ∀ char ∈ text, char.isDigit = true := List.all_eq_true.mp all.2
  have first (others : List Char) (same : ∀ char ∈ others, char.isDigit = true) :
      others.dropWhile Char.isWhitespace = others := by
    cases others with
    | nil => rfl
    | cons char rest =>
      have blank : char.isWhitespace = false :=
        isWhitespace_of_isDigit (same char List.mem_cons_self)
      rw [List.dropWhile_cons_of_neg (by simp [blank])]
  have stripped : Commands.strip (String.ofList text) = text := by
    unfold Commands.strip
    rw [String.toList_ofList, first text digit, first text.reverse fun char member =>
      digit char (List.mem_reverse.mp member), List.reverse_reverse]
  obtain ⟨char, rest, rfl⟩ := List.exists_cons_of_ne_nil all.1
  have leading := digit char List.mem_cons_self
  unfold intOfText
  rw [stripped]
  split
  · simp_all
  · simp_all
  · simpa using digits

/-- A line leads to a command or an error that is reported if and only if it is
understood. -/
theorem command_total_iff (database : Database) (line : Text) :
    Total (Command.init database line) ↔ Understood database line := by
  unfold Command.init Understood
  cases splits : Shlex.split line with
  | error fault => cases fault <;> simp [Total]
  | ok tokens =>
    simp only [Except.ok.injEq, forall_eq']
    by_cases named : (parse [] tokens).name = []
    · simp [named, Total]
    · have plain : (parse [] tokens).options.Plain := plain_parse tokens fun key number => by
        simp [Options.get]
      simp only [named, ite_false, not_false_eq_true, forall_const, ne_eq]
      generalize (parse [] tokens).options = options at plain
      rw [sanity_eq]
      rcases lookupUuid_cases database plain with ⟨refused, failure, found⟩ |
        ⟨taken, refused, message, found⟩ | ⟨taken, accepted, uuid, found⟩
      · simp [found, bind, Except.bind, Total, refused]
      · simp [found, bind, Except.bind, Total, taken, refused]
      · have filled := filled_completed found
        have userid := get_userid_completed database options uuid
        have renamed : (parse [] tokens).name.map (fun char => if char = '-' then '_' else char) ≠
            [] := by
          simpa using named
        cases given : options.get "userid" with
        | none =>
          have checked : checkUserid options = .ok () := by simp [checkUserid, given]
          rw [given] at userid
          simpa [found, checked, bind, Except.bind, pure, Except.pure, Total, userid, filled, taken]
            using renamed
        | some value =>
          rw [given] at userid
          cases value with
          | none =>
            have raises : checkUserid options =
                .error (.other ⟨.attributeError, "object has no attribute 'isdigit'"⟩) := by
              simp [checkUserid, given]
            simp [found, raises, bind, Except.bind, Total, accepted]
          | number number => exact absurd given (plain "userid" number)
          | text text =>
            cases digits : (digitsValue text).isSome with
            | false =>
              have refused : checkUserid options =
                  .error (.command "Invalid userid: must be an integer.") := by
                simp [checkUserid, given, digits]
              simp [found, refused, bind, Except.bind, Total, taken]
            | true =>
              have checked : checkUserid options = .ok () := by simp [checkUserid, given, digits]
              have number := intOfText_digits digits
              simpa [found, checked, bind, Except.bind, pure, Except.pure, Total, userid, filled,
                taken, number] using renamed

/-- The id of the user is given without a value. -/
theorem userid_without_value_not_total :
    ¬Total (Command.init ⟨fun _ => true, 1, 1, []⟩ "/userid status".toList) := by
  have raises : Command.init ⟨fun _ => true, 1, 1, []⟩ "/userid status".toList =
      .error (.other ⟨.attributeError, "object has no attribute 'isdigit'"⟩) := by
    decide +kernel
  rw [raises]
  exact fun total => total

end Palette.Telnet
