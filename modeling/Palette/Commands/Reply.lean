import Mathlib.Logic.Function.Basic

/-!
# Replies and exceptions

What an agent replies is a dictionary of values of any kind, because the agent wrote it.
A reply with the key `error` is a failure. Where a command uses a value, the value's kind
decides whether the command goes on or raises.

Exceptions are told apart as far as some handler tells them apart, and they carry the
text that their handlers print.
-/

namespace Palette.Commands

/-- The classes of exceptions. -/
inductive ExceptionClass where
  | ioError
  | valueError
  | typeError
  | keyError
  | attributeError
  | zeroDivisionError
  | runtimeError
  | invalidStateError
  | httpException
  | diskException
  | otherException
  deriving DecidableEq, Repr

/-- An exception and its text. -/
structure Failure where
  kind : ExceptionClass
  message : String
  deriving DecidableEq, Repr

namespace Failure

/-- `except StandardError`. The disk check, the HTTP library and the database raise
exceptions that are none. -/
def isStandardError (failure : Failure) : Bool :=
  match failure.kind with
  | .httpException | .diskException | .otherException => false
  | _ => true

/-- `except IOError`. -/
def isIOError (failure : Failure) : Bool := failure.kind = .ioError

/-- `except DiskException`. -/
def isDiskException (failure : Failure) : Bool := failure.kind = .diskException

/-- `except httplib.HTTPException`. -/
def isHTTPException (failure : Failure) : Bool := failure.kind = .httpException

/-- `except exc.InvalidStateError`. -/
def isInvalidStateError (failure : Failure) : Bool := failure.kind = .invalidStateError

end Failure

/-- A value of a reply. Of lists and dictionaries only their emptiness is looked at. -/
inductive Value where
  | null
  | bool (flag : Bool)
  | number (value : Int)
  | text (value : String)
  | list (empty : Bool)
  | dict (empty : Bool)
  deriving DecidableEq, Repr

/-- The digits as a number, if they are digits. -/
def digitsValue (digits : List Char) : Option Nat :=
  if digits ≠ [] ∧ digits.all Char.isDigit then
    some (digits.foldl (fun value digit => 10 * value + (digit.toNat - '0'.toNat)) 0)
  else none

/-- The digits of a number are that number. -/
theorem digitsValue_toDigits (number : Nat) :
    digitsValue (Nat.toDigits 10 number) = some number := by
  have digits : (Nat.toDigits 10 number).all Char.isDigit = true :=
    List.all_eq_true.mpr fun char member =>
      Nat.isDigit_of_mem_toDigits (by decide) (by decide) member
  have same := Nat.ofDigitChars_ten_toDigits (n := number)
  rw [Nat.ofDigitChars_eq_foldl] at same
  simpa [digitsValue, digits, Nat.toDigits_ne_nil] using same

/-- Different numbers have different digits. -/
theorem toDigits_injective {number other : Nat}
    (same : Nat.toDigits 10 number = Nat.toDigits 10 other) : number = other := by
  have read := congrArg digitsValue same
  rw [digitsValue_toDigits, digitsValue_toDigits] at read
  exact Option.some.inj read

/-- The characters of a text without the blanks around them. -/
def strip (text : String) : List Char :=
  ((text.toList.dropWhile Char.isWhitespace).reverse.dropWhile Char.isWhitespace).reverse

/-- `int()` of a text: blanks around it and one sign are allowed. -/
def intOfText (text : String) : Option Int :=
  match strip text with
  | '-' :: digits => (digitsValue digits).map fun value => -(value : Int)
  | '+' :: digits => (digitsValue digits).map Int.ofNat
  | digits => (digitsValue digits).map Int.ofNat

namespace Value

/-- The truth of a value as a condition. -/
def truthy : Value → Bool
  | null => false
  | bool flag => flag
  | number value => value ≠ 0
  | text value => value ≠ ""
  | list empty => !empty
  | dict empty => !empty

/-- `value += text`. A list takes the characters in. -/
def append (value : Value) (suffix : String) : Except Failure Value :=
  match value with
  | text value => .ok (text (value ++ suffix))
  | list empty => .ok (list (empty && suffix = ""))
  | _ => .error ⟨.typeError, "unsupported operand type(s) for +="⟩

/-- `int()` of a value. -/
def toInt : Value → Except Failure Int
  | bool flag => .ok (if flag then 1 else 0)
  | number value => .ok value
  | text value =>
    match intOfText value with
    | some value => .ok value
    | none => .error ⟨.valueError, "invalid literal for int() with base 10"⟩
  | _ => .error ⟨.typeError, "int() argument must be a string or a number"⟩

/-- The checks of `sizestr`, which returns the number as a text with a unit. -/
def sizestr (size : Value) : Except Failure Unit :=
  match size.toInt with
  | .ok value => if value < 0 then .error ⟨.valueError, "n < 0"⟩ else .ok ()
  | .error failure => .error failure

end Value

/-- A dictionary that a command passes on. -/
abbrev Body := String → Option Value

namespace Body

/-- A dictionary with one key. -/
def single (key : String) (value : Value) : Body :=
  fun other => if other = key then some value else none

/-- `body[key] = value`. -/
def set (body : Body) (key : String) (value : Value) : Body := Function.update body key (some value)

/-- `key in body`. -/
def has (body : Body) (key : String) : Bool := (body key).isSome

/-- `failed`. -/
def failed (body : Body) : Bool := body.has "error"

/-- `Controller.error`, the dictionary that reports a failure. -/
def error (message : String) : Body := single "error" (.text message)

/-- Add a text to the value of a key, or store the text there is no value yet. -/
def extend (body : Body) (key suffix start : String) : Except Failure Body :=
  match body key with
  | some value => do
    let longer ← value.append suffix
    pure (body.set key longer)
  | none => .ok (body.set key (.text start))

end Body

end Palette.Commands
