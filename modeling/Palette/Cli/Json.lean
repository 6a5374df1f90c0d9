import Mathlib.Data.List.Infix
import Palette.Commands.Reply

/-!
# Decoded replies

The text of an agent's reply is decoded as JSON, and the agent chooses every value in it.
The controller compares such values with numbers and texts, tests their truth, looks for
keys in them and formats them into its own messages. Each of these is defined on some
kinds of values only; on the others it raises.

Numbers are whole or not, and the decoder also accepts the three numbers that are not
finite. A boolean is a number wherever a number is expected.
-/

namespace Palette.Cli

open Palette.Commands

/-- A decoded value. The keys of an object stand in a list; the first entry counts. -/
inductive Json where
  | null
  | bool (flag : Bool)
  | number (value : Rat)
  | nonFinite
  | text (value : String)
  | list (items : List Json)
  | object (fields : List (String × Json))

/-- A text of ASCII characters only. -/
def isAscii (text : String) : Bool := text.toList.all fun char => char.toNat < 128

/-- A text that is mixed into a unicode text has to be ASCII. -/
def decodeAscii (text : String) : Except Failure String :=
  if isAscii text then .ok text
  else .error ⟨.valueError, "'ascii' codec can't decode byte: ordinal not in range(128)"⟩

namespace Json

/-- The truth of a value as a condition. -/
def truthy : Json → Bool
  | null => false
  | bool flag => flag
  | number value => value ≠ 0
  | nonFinite => true
  | text value => value ≠ ""
  | list items => !items.isEmpty
  | object fields => !fields.isEmpty

/-- The number that a value compares equal to. -/
def numeric : Json → Option Rat
  | bool flag => some (if flag then 1 else 0)
  | number value => some value
  | _ => none

/-- `"%d" % value`. A number that is not whole is cut off towards zero. -/
def decimal (value : Json) : Except Failure String :=
  match value.numeric with
  | some found => .ok (toString (found.num.tdiv found.den))
  | none => .error ⟨.typeError, "%d format: a number is required"⟩

/-- `value == "…"`. -/
def isText (value : Json) (expected : String) : Bool :=
  match value with
  | text found => found = expected
  | _ => false

/-- `str(value)`. A text has to be ASCII; every other value is shown with escapes. -/
def str : Json → Except Failure Unit
  | text value =>
    if isAscii value then .ok ()
    else .error ⟨.valueError, "'ascii' codec can't encode character: ordinal not in range(128)"⟩
  | _ => .ok ()

end Json

/-- A decoded object. -/
abbrev Dict := List (String × Json)

namespace Dict

/-- `dict.get(key)`. -/
def get (dict : Dict) (key : String) : Option Json := dict.lookup key

/-- `dict.has_key(key)`. -/
def has (dict : Dict) (key : String) : Bool := (dict.get key).isSome

/-- `dict[key] = value`. -/
def set (dict : Dict) (key : String) (value : Json) : Dict := (key, value) :: dict

/-- `Controller.error` with a dictionary to add to. -/
def error (dict : Dict) (message : String) : Dict := dict.set "error" (.text message)

@[simp] theorem get_set_self (dict : Dict) (key : String) (value : Json) :
    (dict.set key value).get key = some value := by
  simp [get, set]

@[simp] theorem has_set_self (dict : Dict) (key : String) (value : Json) :
    (dict.set key value).has key = true := by
  simp [has]

@[simp] theorem has_error (dict : Dict) (message : String) :
    (dict.error message).has "error" = true :=
  has_set_self dict "error" (.text message)

end Dict

end Palette.Cli
