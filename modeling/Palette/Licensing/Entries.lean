import Palette.Events.Generation
import Palette.Foundation.Script
import Palette.Metrics.Levels
import Palette.Processes.Tabadmin

/-!
# The licences of Tableau

An agent is asked for `tabadmin license`, whose output tells either of named users or of cores.
What was found is written to the row of the agent. Where neither was found, the row becomes one
of named users without cores, and the numbers of interactors and viewers stay what they were.

Then the licence is judged by the row, and an event tells when the judgement changed. Texts that
are not understood are printed, which the console may refuse. The numbers are 32-bit integers.
-/

namespace Palette.Licensing

open Palette.Commands (Failure Value digitsValue)
open Palette.Events (Generation)
open Palette.Foundation Script
open Palette.Metrics (Color)
open Palette.Processes (literal many)

/-- A text of an answer. -/
abbrev Text := List Char

/-! ## Rows -/

/-- The types of licences. -/
inductive LicenseType where
  | namedUser
  | core
  deriving DecidableEq, Repr

/-- `LicenseEntry`. A new row has no values. -/
structure LicenseEntry where
  interactors : Option Int := none
  viewers : Option Int := none
  cores : Option Int := none
  coreLicenses : Option Int := none
  licenseType : Option LicenseType := none
  deriving DecidableEq, Repr

/-- What an output tells, as `LicenseEntry.get` takes it. -/
inductive LicenseData where
  | namedUsers (interactors viewers : Text)
  | cores (cores coreLicenses : Int)
  | nothing
  deriving DecidableEq, Repr

/-- The truth of a number that may be missing. -/
def truthy (number : Option Int) : Bool := number.getD 0 ≠ 0

/-- A number fits its column. -/
def storable (number : Option Int) : Bool :=
  number.all fun value => -2147483648 ≤ value ∧ value ≤ 2147483647

namespace LicenseEntry

/-- `LicenseEntry.get`, for the row that is stored, if there is one. -/
def get (stored : Option LicenseEntry) (data : LicenseData) : LicenseEntry :=
  let entry := stored.getD {}
  let unknown : LicenseEntry :=
    { entry with licenseType := some .namedUser, cores := some 0, coreLicenses := some 0 }
  match data with
  | .namedUsers interactors viewers =>
    match digitsValue interactors with
    | some number =>
      { interactors := some number
        viewers := ((digitsValue viewers).map Int.ofNat).or entry.viewers
        cores := some 0
        coreLicenses := some 0
        licenseType := some .namedUser }
    | none => unknown
  | .cores cores coreLicenses =>
    { interactors := some 0
      viewers := some 0
      cores := some cores
      coreLicenses := some coreLicenses
      licenseType := some .core }
  | .nothing => unknown

/-- `LicenseEntry.valid`. As long as nothing was reported, a licence is valid. -/
def valid (entry : LicenseEntry) : Bool :=
  match entry.licenseType with
  | some .core => truthy entry.cores
  | some .namedUser => truthy entry.interactors || truthy entry.viewers
  | none => true

/-- The database takes the row. -/
def fits (entry : LicenseEntry) : Bool :=
  storable entry.interactors && storable entry.viewers && storable entry.cores &&
    storable entry.coreLicenses

end LicenseEntry

/-! ## Reading an output -/

/-- What is known of the characters that are not ASCII, and of the console: a text that it
cannot print raises. -/
structure Platform where
  isspace : Char → Bool
  decimal : Char → Option Nat
  refuses : Text → Option Failure

section Reading

variable (platform : Platform)

/-- The pattern of named users at the beginning of a text. -/
def namedUsers (input : Text) : List LicenseData :=
  (many Char.isDigit input).flatMap fun interactors =>
  if interactors.1 = [] then [] else
  (literal " interactors, " interactors.2).flatMap fun input =>
  (many Char.isDigit input).flatMap fun viewers =>
  if viewers.1 = [] then [] else
  (literal " viewers" viewers.2).map fun _ => .namedUsers interactors.1 viewers.1

/-- `re.search(pattern, output)`. -/
def searchNamedUsers (output : Text) : Option LicenseData :=
  output.tails.findSome? fun input => (namedUsers input).head?

/-- `text.find("Cores used") != -1`. -/
def mentionsCores (text : Text) : Bool :=
  text.tails.any fun rest => "Cores used".toList.isPrefixOf rest

/-- A character that ends a line. -/
def endsLine (char : Char) : Bool :=
  char.toNat ∈ [10, 11, 12, 13, 28, 29, 30, 133, 8232, 8233]

/-- The lines of a text. Between a carriage return and a line feed there is an empty one, which
`splitlines` leaves out. -/
def splitlines (text : Text) : List Text := text.splitOnP endsLine

/-- `char.isspace()`. -/
def isBlank (char : Char) : Bool :=
  if char.toNat < 128 then 9 ≤ char.toNat ∧ char.toNat ≤ 13 ∨ 28 ≤ char.toNat ∧ char.toNat ≤ 32
  else platform.isspace char

/-- `line.split()`. -/
def words (line : Text) : List Text := (line.splitOnP (isBlank platform)).filter (· ≠ [])

/-- The value of a decimal digit. -/
def decimalValue (char : Char) : Option Nat :=
  if char.toNat < 128 then if char.isDigit then some (char.toNat - '0'.toNat) else none
  else platform.decimal char

/-- The value of decimal digits. -/
def decimalsValue (digits : Text) : Option Nat :=
  if digits = [] then none
  else (digits.mapM (decimalValue platform)).map fun values =>
    values.foldl (fun value digit => 10 * value + digit) 0

/-- `int(word)` for a word without blanks. -/
def intOfWord : Text → Option Int
  | '-' :: digits => (decimalsValue platform digits).map fun value => -(value : Int)
  | '+' :: digits => (decimalsValue platform digits).map Int.ofNat
  | digits => (decimalsValue platform digits).map Int.ofNat

/-- The cores that a line tells: the third to last word and the last one. -/
def coresOf (line : Text) : Option LicenseData :=
  match (words platform line).reverse with
  | last :: _ :: third :: _ => do
    let cores ← intOfWord platform third
    let coreLicenses ← intOfWord platform last
    return .cores cores coreLicenses
  | _ => none

/-- Print a text that is not understood. -/
def printed (text : Text) : Except Failure LicenseData :=
  match platform.refuses text with
  | none => .ok .nothing
  | some failure => .error failure

/-- `LicenseEntry.parse`. -/
def parse (output : Text) : Except Failure LicenseData :=
  match searchNamedUsers output with
  | some data => .ok data
  | none =>
    if mentionsCores output then
      match (splitlines output).find? mentionsCores with
      | some line =>
        match coresOf platform line with
        | some data => .ok data
        | none => printed platform line
      | none => printed platform []
    else printed platform output

end Reading

example : searchNamedUsers "License 10 interactors, 2 viewers".toList =
    some (.namedUsers "10".toList "2".toList) := by
  decide +kernel

/-! ## Checking a licence -/

/-- The body of an answer to `tabadmin license`. -/
structure LicenseBody where
  exitStatus : Option Value
  stdout : Option Value

/-- What a check is answered, and how its events are generated. -/
structure LicenseCall where
  body : Except Failure LicenseBody
  gen : Bool → LicenseEntry → Generation

/-- The row of the agent, the color of the notification and the events so far: whether a licence
was valid, and its row. -/
structure LicenseState where
  entry : Option LicenseEntry
  color : Option Color
  events : List (Bool × LicenseEntry)

/-- What a check does. -/
abbrev LicenseWork := Script LicenseState Failure

/-- What a check returns: the answer itself, what was read, or that the licence is invalid. -/
inductive LicenseReply where
  | answer
  | read (data : LicenseData)
  | invalid (entry : LicenseEntry)
  deriving DecidableEq, Repr

/-- A status is equal to zero. -/
def isZero : Value → Bool
  | .number value => value = 0
  | .bool flag => !flag
  | _ => false

/-- An event tells of the licence, and the notification takes its color. -/
def announce (call : LicenseCall) (valid : Bool) (entry : LicenseEntry) : LicenseWork PUnit := do
  match call.gen valid entry with
  | .skipped => pure ⟨⟩
  | .raised failure => throw failure
  | .incomplete failure => throw failure
  | .generated raises => do
    modify fun state => { state with events := state.events ++ [(valid, entry)] }
    match raises with
    | some failure => throw failure
    | none => pure ⟨⟩
  modify fun state => { state with color := some (if valid then .green else .red) }

/-- The part of `LicenseManager.check` after the row was committed. -/
def judge (call : LicenseCall) (data : LicenseData) (entry : LicenseEntry) :
    LicenseWork LicenseReply := do
  let color := (← get).color
  if entry.valid then
    if color = some .red then announce call true entry
    return .read data
  else
    if color ≠ some .red then announce call false entry
    return .invalid entry

/-- `LicenseManager.check`. -/
def check (platform : Platform) (call : LicenseCall) : LicenseWork LicenseReply := do
  let body ← settle call.body
  if body.exitStatus.any isZero then
    match body.stdout with
    | none => return .answer
    | some (.text stdout) =>
      let data ← settle (parse platform stdout.toList)
      let entry := LicenseEntry.get (← get).entry data
      if entry.fits then
        modify fun state => { state with entry := some entry }
        judge call data entry
      else throw ⟨.otherException, "DataError: integer out of range"⟩
    | some _ => throw ⟨.typeError, "expected string or buffer"⟩
  else return .answer

end Palette.Licensing
