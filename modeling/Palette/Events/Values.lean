import Palette.Foundation.Template
import Palette.Settings.Table
import Palette.Telnet.Reporting

/-!
# The values of an event

The dictionary of an event holds whatever its caller put there: replies of agents, numbers from
the database, exceptions, settings. Texts are byte strings or Unicode. They are joined as long as
the byte strings are plain; an exception whose message is Unicode cannot be shown unless it is
plain, either.

The description that an event has by default shows some values on a line and indents others. To
be indented a value is split into lines, which texts can be. A whole number that fits into a word
is shown instead, and what counts as false is left out. Every other value raises.
-/

namespace Palette.Events

open Palette.Commands (Failure)
open Palette.Foundation Palette.Foundation.Json Palette.Telnet

/-- A value of Python. A number that is not whole is given by its whole part, which it does not
have if it is not finite, whether it is zero, and its text. An object of another class, such as a
list, a dictionary or a time, is given by its text and whether it counts as true. -/
inductive Value where
  | none
  | bool (flag : Bool)
  | int (number : Int)
  | long (number : Int)
  | float (whole : Option Int) (zero : Bool) (literal : List Nat)
  | text (text : PyText)
  | exception (message : PyText)
  | object (shown : List Nat) (truthy : Bool)
  deriving DecidableEq, Repr

/-- A dictionary of values. -/
abbrev Data := Text → Option Value

namespace Data

/-- `data[key] = value`. -/
def put (data : Data) (key : String) (value : Value) : Data :=
  Function.update data key.toList (some value)

/-- `del data[key]`. -/
def del (data : Data) (key : String) : Data := Function.update data key.toList none

/-- `key in data`. -/
def has (data : Data) (key : String) : Bool := (data key.toList).isSome

end Data

/-! ## Texts -/

/-- A text is put between two of the program's own. -/
def around (before after : String) : PyText → PyText
  | .bytes content => .bytes (codes before ++ content ++ codes after)
  | .unicode content => .unicode (codes before ++ content ++ codes after)

/-- A byte string that is not plain. -/
def isForeign (text : PyText) : Bool := !text.isUnicode && !text.isAscii

/-- `+` of two texts. -/
def plus (left right : PyText) : Except Failure PyText :=
  match join [left, right] with
  | some text => .ok text
  | none => .error ⟨.valueError, "'ascii' codec can't decode byte: ordinal not in range(128)"⟩

/-- `str()` of a whole number. -/
def numeral (number : Int) : List Nat := (Settings.intText number).map Char.toNat

namespace Value

/-- The truth of a value as a condition. -/
def truthy : Value → Bool
  | none => false
  | bool flag => flag
  | int number => number ≠ 0
  | long number => number ≠ 0
  | float _ zero _ => !zero
  | text content => content.content ≠ []
  | exception _ => true
  | object _ truthy => truthy

/-- What `%s` makes of a value in a byte string: `str()`, unless it is Unicode. -/
def shown : Value → Except Failure PyText
  | none => .ok (.bytes (codes "None"))
  | bool flag => .ok (.bytes (codes (if flag then "True" else "False")))
  | int number => .ok (.bytes (numeral number))
  | long number => .ok (.bytes (numeral number))
  | float _ _ literal => .ok (.bytes literal)
  | text content => .ok content
  | exception message =>
    if message.isUnicode ∧ message.isAscii = false then
      .error ⟨.valueError, "'ascii' codec can't encode character: ordinal not in range(128)"⟩
    else .ok (.bytes message.content)
  | object shown _ => .ok (.bytes shown)

/-- The lines of a text, indented. -/
def indentLines (content : List Nat) : List Nat :=
  (content.splitOn 10).flatMap fun line => codes "    " ++ line ++ [10]

/-- `AlertEmail.indented`. -/
def indented (section_ : String) (value : Value) (alwaysInclude : Bool) : Except Failure PyText :=
  match value with
  | int number => .ok (.bytes (codes section_ ++ codes ": " ++ numeral number ++ [10]))
  | text (.bytes content) =>
    if content = [] ∧ alwaysInclude = false then .ok (.bytes [])
    else .ok (.bytes (codes section_ ++ codes ":\n" ++ indentLines content))
  | text (.unicode content) =>
    if content = [] ∧ alwaysInclude = false then .ok (.bytes [])
    else .ok (.unicode (codes section_ ++ codes ":\n" ++ indentLines content))
  | other =>
    if other.truthy = false ∧ alwaysInclude = false then .ok (.bytes [])
    else .error ⟨.attributeError, "object has no attribute 'split'"⟩

/-- A setting as a value. -/
def ofSetting : Settings.Setting → Value
  | .none => none
  | .bool flag => bool flag
  | .int number => int number
  | .str content => text (.bytes (content.map Char.toNat))

/-- The whole part of a number. -/
def whole : Value → Option Int
  | bool flag => some (if flag then 1 else 0)
  | int number => some number
  | long number => some number
  | float whole _ _ => whole
  | _ => Option.none

/-- The least whole number that is too large to become one with a fraction. -/
def floatLimit : Nat := 2 ^ 1024 - 2 ^ 970

/-- What `%` makes of a value in a Unicode text, without the text: the characters of the
conversions, the kinds of values that they take, and the sizes. -/
def convert (char : Char) (value : Value) : Except Template.Trouble Unit :=
  if char = 's' then
    match value with
    | text content => if isForeign content then .error .value else .ok ⟨⟩
    | exception message => if isForeign message then .error .value else .ok ⟨⟩
    | object shown _ => if isForeign (.bytes shown) then .error .value else .ok ⟨⟩
    | _ => .ok ⟨⟩
  else if char = 'r' then .ok ⟨⟩
  else if char ∈ ['d', 'i', 'o', 'u', 'x', 'X'] then
    if value.whole.isSome then .ok ⟨⟩ else .error .type
  else if char ∈ ['e', 'E', 'f', 'F', 'g', 'G'] then
    match value with
    | float _ _ _ => .ok ⟨⟩
    | _ =>
      match value.whole with
      | some number => if number.natAbs < floatLimit then .ok ⟨⟩ else .error .overflow
      | Option.none => .error .type
  else if char = 'c' then
    match value with
    | text content => if content.content.length = 1 then .ok ⟨⟩ else .error .type
    | _ =>
      match value.whole with
      | some number =>
        if number.natAbs < 2 ^ 63 then
          if 0 ≤ number ∧ number < 0x110000 then .ok ⟨⟩ else .error .overflow
        else .error .type
      | Option.none => .error .type
  else .error .value

end Value

/-! ## The description by default -/

section Description

variable (equal : Value → Value → Bool) (data : Data)

/-- A value on a line of its own. -/
def labelled (label : String) (value : Value) : Except Failure PyText :=
  value.shown.map (around label "\n")

/-- A value that is indented, and an empty line. -/
def indentedLine (section_ : String) (value : Value) : Except Failure PyText :=
  (value.indented section_ false).map (around "" "\n")

/-- Standard error is shown unless it is the error. -/
def showsStderr (stderr : Value) : Bool :=
  match data "error".toList with
  | none => true
  | some error => !equal stderr error

/-- What the description is put together of, in its order. -/
def descriptionParts : List (Except Failure PyText) :=
  ((data "username".toList).map (labelled "Requested by user: ")).toList ++
  ((data "displayname".toList).map (labelled "Agent: ")).toList ++
  ((data "error".toList).map (indentedLine "Error")).toList ++
  (((data "info".toList).filter Value.truthy).map (indentedLine "Additional information")).toList ++
  (((data "stderr".toList).filter (showsStderr equal data)).map
    (Value.indented "Error" · false)).toList ++
  ((data "stdout".toList).map (Value.indented "Output" · false)).toList

/-- `make_default_description`. -/
def makeDefaultDescription : Except Failure PyText :=
  (descriptionParts equal data).foldlM (fun description part => do plus description (← part))
    (.bytes [])

end Description

/-! ## Which values raise -/

/-- `str()` of the value raises. -/
def Value.isHidden : Value → Bool
  | exception message => message.isUnicode && !message.isAscii
  | _ => false

/-- The value can neither be split into lines nor be left out. -/
def Value.isSolid : Value → Bool
  | int _ => false
  | text _ => false
  | other => other.truthy

/-- There is Unicode among the texts, and a byte string that is not plain. -/
def mixed (texts : List PyText) : Bool := texts.any PyText.isUnicode && texts.any isForeign

/-- A change of a text raises nothing. -/
theorem map_isOk {outcome : Except Failure PyText} (change : PyText → PyText) :
    (∃ text, outcome.map change = .ok text) ↔ ∃ text, outcome = .ok text := by
  cases outcome <;> simp [Except.map]

/-- A value that can be shown is. -/
theorem labelled_isOk (label : String) (value : Value) :
    (∃ text, labelled label value = .ok text) ↔ value.isHidden = false := by
  unfold labelled
  rw [map_isOk]
  unfold Value.shown Value.isHidden
  cases value with
  | exception message =>
    simp only [Bool.and_eq_false_iff, Bool.not_eq_false']
    split
    next hidden => simp [hidden.1, hidden.2]
    next apart =>
      refine iff_of_true ⟨_, rfl⟩ ?_
      cases unicode : message.isUnicode with
      | false => exact .inl rfl
      | true => exact .inr (by simpa [unicode] using apart)
  | _ => simp

/-- A value that can be split or left out is indented. -/
theorem indented_isOk (section_ : String) (value : Value) :
    (∃ text, value.indented section_ false = .ok text) ↔ value.isSolid = false := by
  unfold Value.indented Value.isSolid
  cases value with
  | int number => simp
  | text content =>
    cases content <;> simp only [and_true, iff_true] <;> split <;> exact ⟨_, rfl⟩
  | none => simp [Value.truthy]
  | bool flag => cases flag <;> simp [Value.truthy]
  | long number => by_cases zero : number = 0 <;> simp [Value.truthy, zero]
  | float whole zero literal => cases zero <;> simp [Value.truthy]
  | exception message => simp [Value.truthy]
  | object shown truthy => cases truthy <;> simp [Value.truthy]

/-- Texts that are not mixed are joined. -/
theorem join_isSome (texts : List PyText) : (join texts).isSome = !mixed texts := by
  unfold join mixed
  cases texts.any PyText.isUnicode with
  | false => rfl
  | true =>
    have same : (texts.all fun piece => piece.isUnicode || piece.isAscii) =
        !texts.any isForeign := by
      rw [List.not_any_eq_all_not]
      congr 1
      funext piece
      simp [isForeign]
    simp only [if_true, same]
    cases texts.any isForeign <;> rfl

/-- What two texts that were joined are. -/
theorem join_pair {left right joined : PyText} (same : join [left, right] = some joined) :
    joined.isUnicode = (left.isUnicode || right.isUnicode) ∧
      joined.isAscii = (left.isAscii && right.isAscii) := by
  unfold join at same
  split at same
  next unicode =>
    obtain ⟨-, rfl⟩ := Option.ite_none_right_eq_some.mp same |>.imp_right Option.some.inj
    refine ⟨?_, by simp [PyText.isAscii, PyText.content]⟩
    rw [List.any_cons, List.any_cons, List.any_nil, Bool.or_false] at unicode
    exact unicode.symm
  next bytes =>
    cases same
    refine ⟨?_, by simp [PyText.isAscii, PyText.content]⟩
    rw [List.any_cons, List.any_cons, List.any_nil, Bool.or_false, Bool.not_eq_true] at bytes
    exact bytes.symm

/-- Two texts that were joined may be taken for one. -/
theorem mixed_join {left right joined : PyText} (texts : List PyText)
    (same : join [left, right] = some joined) :
    mixed (joined :: texts) = mixed (left :: right :: texts) := by
  have unmixed : mixed [left, right] = false := by
    have some := join_isSome [left, right]
    rw [same] at some
    simpa using some.symm
  obtain ⟨unicode, ascii⟩ := join_pair same
  simp only [mixed, isForeign, List.any_cons, List.any_nil, unicode, ascii] at unmixed ⊢
  revert unmixed
  cases left.isUnicode <;> cases right.isUnicode <;> cases left.isAscii <;> cases right.isAscii <;>
    simp

/-- Parts are put together if each has a text and the texts are not mixed. -/
theorem foldlM_plus_isOk (parts : List (Except Failure PyText)) (start : PyText) :
    (∃ text, parts.foldlM (fun description part => do plus description (← part)) start =
        .ok text) ↔
      (∀ part ∈ parts, ∃ text, part = .ok text) ∧
        mixed (start :: parts.filterMap Except.toOption) = false := by
  induction parts generalizing start with
  | nil => cases start <;> simp [mixed, isForeign, PyText.isUnicode, pure, Except.pure]
  | cons part rest inductionHypothesis =>
    rw [List.foldlM_cons]
    cases part with
    | error failure => simp [bind, Except.bind]
    | ok text =>
      have texts : (Except.ok text :: rest).filterMap Except.toOption =
          text :: rest.filterMap (Except.toOption (ε := Failure)) := rfl
      rw [texts]
      cases joined : join [start, text] with
      | none =>
        have both := join_isSome [start, text]
        rw [joined] at both
        have mixes : mixed (start :: text :: rest.filterMap Except.toOption) = true := by
          simp only [Option.isSome_none, mixed, List.any_cons, List.any_nil, Bool.or_false] at both ⊢
          revert both
          cases start.isUnicode <;> cases text.isUnicode <;> cases isForeign start <;>
            cases isForeign text <;> simp
        simp [bind, Except.bind, plus, joined, mixes]
      | some found =>
        rw [← mixed_join _ joined]
        simpa [bind, Except.bind, plus, joined] using inductionHypothesis found

/-- The values of a description can be shown or indented, and their texts go together. -/
structure Describable (equal : Value → Value → Bool) (data : Data) : Prop where
  username : ∀ value ∈ data "username".toList, value.isHidden = false
  displayname : ∀ value ∈ data "displayname".toList, value.isHidden = false
  error : ∀ value ∈ data "error".toList, value.isSolid = false
  info : ∀ value ∈ data "info".toList, value.isSolid = false
  stderr : ∀ value ∈ data "stderr".toList, showsStderr equal data value = true →
    value.isSolid = false
  stdout : ∀ value ∈ data "stdout".toList, value.isSolid = false
  unmixed : mixed ((descriptionParts equal data).filterMap Except.toOption) = false

/-- A value that counts as false is left out. -/
theorem isSolid_of_falsy {value : Value} (falsy : value.truthy = false) : value.isSolid = false := by
  unfold Value.isSolid
  cases value <;> first | rfl | exact falsy

/-- There is a description by default if the values of the dictionary allow it. -/
theorem makeDefaultDescription_isOk (equal : Value → Value → Bool) (data : Data) :
    (∃ text, makeDefaultDescription equal data = .ok text) ↔ Describable equal data := by
  have start (texts : List PyText) : mixed (.bytes [] :: texts) = mixed texts := by
    simp [mixed, isForeign, PyText.isUnicode, PyText.isAscii, PyText.content]
  have line (section_ : String) (value : Value) :
      (∃ text, indentedLine section_ value = .ok text) ↔ value.isSolid = false :=
    (map_isOk _).trans (indented_isOk section_ value)
  have optional (found : Option Value) (make : Value → Except Failure PyText)
      (fits : Value → Prop) (each : ∀ value, (∃ text, make value = .ok text) ↔ fits value) :
      (∀ part ∈ (found.map make).toList, ∃ text, part = .ok text) ↔
        ∀ value ∈ found, fits value := by
    cases found <;> simp [each]
  unfold makeDefaultDescription
  rw [foldlM_plus_isOk, start]
  have parts : (∀ part ∈ descriptionParts equal data, ∃ text, part = .ok text) ↔
      (∀ value ∈ data "username".toList, value.isHidden = false) ∧
      (∀ value ∈ data "displayname".toList, value.isHidden = false) ∧
      (∀ value ∈ data "error".toList, value.isSolid = false) ∧
      (∀ value ∈ data "info".toList, value.truthy = true → value.isSolid = false) ∧
      (∀ value ∈ data "stderr".toList, showsStderr equal data value = true →
        value.isSolid = false) ∧
      ∀ value ∈ data "stdout".toList, value.isSolid = false := by
    unfold descriptionParts
    simp only [List.mem_append, or_imp, forall_and, and_assoc]
    rw [optional _ _ _ (labelled_isOk _), optional _ _ _ (labelled_isOk _),
      optional _ _ _ (line _), optional _ _ _ (line _), optional _ _ _ (indented_isOk _),
      optional _ _ _ (indented_isOk _)]
    simp only [Option.mem_def, Option.filter_eq_some_iff, and_imp]
  rw [parts]
  constructor
  · rintro ⟨⟨username, displayname, error, info, stderr, stdout⟩, unmixed⟩
    refine ⟨username, displayname, error, fun value found => ?_, stderr, stdout, unmixed⟩
    cases truthy : value.truthy with
    | true => exact info value found truthy
    | false => exact isSolid_of_falsy truthy
  · intro describable
    exact ⟨⟨describable.username, describable.displayname, describable.error,
      fun value found _ => describable.info value found, describable.stderr, describable.stdout⟩,
      describable.unmixed⟩

end Palette.Events
