import Mathlib
import Palette.Commands.Reply
import Palette.Foundation.Shlex

/-!
# Parsing a command

A line is split like a shell does it. The first tokens that begin with a slash are options,
the next token is the name of the command and the others are its arguments. The options are
then completed: the agent that they describe is looked up, and without a description the
only primary one is taken.

A character of a line is a byte. What the database cannot take makes a query raise.
-/

namespace Palette.Telnet

open Palette.Commands Palette.Foundation

/-- A byte string. -/
abbrev Text := List Char

/-- The characters that `strip()` removes. -/
def isSpace (char : Char) : Bool := char ∈ [' ', '\t', '\n', '\r', '\x0b', '\x0c']

/-- `text.strip()`. -/
def strip (text : Text) : Text :=
  ((text.dropWhile isSpace).reverse.dropWhile isSpace).reverse

/-- The value of an option: missing, a text of the line, or a number that was filled in. -/
inductive OptionValue where
  | none
  | text (value : Text)
  | number (value : Int)
  deriving DecidableEq, Repr

/-- The options. The first entry of a key counts. -/
abbrev Options := List (Text × OptionValue)

/-- `dict.get(key)`. -/
def Options.get (options : Options) (key : String) : Option OptionValue :=
  options.lookup key.toList

/-- `dict[key] = value`. -/
def Options.set (options : Options) (key : String) (value : OptionValue) : Options :=
  (key.toList, value) :: options

/-- A command. -/
structure Command where
  name : Text
  options : Options
  args : List Text
  deriving DecidableEq, Repr

/-- What building a command raises. -/
inductive Raise where
  | command (message : String)
  | other (failure : Failure)
  deriving DecidableEq, Repr

/-! ## Options, name and arguments -/

/-- The key and the value of an option. -/
def keyValue (token : Text) : Text × OptionValue :=
  let key := token.takeWhile (· ≠ '=')
  if '=' ∈ token then (strip key, .text (strip (token.drop (key.length + 1))))
  else (strip token, .none)

/-- The options, the name and the arguments that tokens give. A missing name is empty. -/
def parse : Options → List Text → Command
  | options, [] => ⟨[], options, []⟩
  | options, token :: rest =>
    match token with
    | '/' :: option => parse (keyValue option :: options) rest
    | name => ⟨name, options, rest.map strip⟩

/-! ## The agent -/

/-- A row of the table of agents. -/
structure AgentRow where
  envid : Int
  uuid : Option Text
  displayname : Option Text
  hostname : Option Text
  agentType : Option Text
  deriving DecidableEq, Repr

/-- The database: what it takes for a text, its domain and environment, and the agents. -/
structure Database where
  accepts : Text → Bool
  domainid : Int
  envid : Int
  agents : List AgentRow

/-- How the database reads a number of 64 bits. -/
def bigintOf (text : Text) : Option Int :=
  let number :=
    match strip text with
    | '-' :: digits => (digitsValue digits).map fun value => -(value : Int)
    | '+' :: digits => (digitsValue digits).map Int.ofNat
    | digits => (digitsValue digits).map Int.ofNat
  number.filter fun value => -(2 ^ 63) ≤ value ∧ value < 2 ^ 63

/-- The comparison of a column of numbers with a value. NULL is equal to no number. -/
def envidIs (value : OptionValue) : Except Failure (Int → Bool) :=
  match value with
  | .none => .ok fun _ => false
  | .number number => .ok (· = number)
  | .text text =>
    match bigintOf text with
    | some number => .ok (· = number)
    | none => .error ⟨.otherException, "DataError: invalid input syntax for integer"⟩

/-- The comparison of a column of texts with the value of an option, if it is given. -/
def textIs (database : Database) (value : Option OptionValue) :
    Except Failure (Option Text → Bool) :=
  match value with
  | none => .ok fun _ => true
  | some .none => .ok fun column => column = none
  | some (.number _) => .error ⟨.otherException, "ProgrammingError: operator does not exist"⟩
  | some (.text text) =>
    if database.accepts text then .ok fun column => column = some text
    else .error ⟨.otherException, "DataError: invalid byte sequence for encoding"⟩

/-- Any description of an agent besides its uuid. -/
def Options.describes (options : Options) : Bool :=
  (options.get "displayname").isSome || (options.get "hostname").isSome ||
    (options.get "type").isSome

/-- The agents that the options describe. -/
def describedAgents (database : Database) (options : Options) (envid : OptionValue) :
    Except Failure (List AgentRow) := do
  let inEnvironment ← envidIs envid
  let uuid ← textIs database (options.get "uuid")
  let displayname ← textIs database (options.get "displayname")
  let hostname ← textIs database (options.get "hostname")
  let agentType ← textIs database (options.get "type")
  return database.agents.filter fun row => inEnvironment row.envid && uuid row.uuid &&
    displayname row.displayname && hostname row.hostname && agentType row.agentType

/-- The primary agents of an environment. -/
def primaryAgents (database : Database) (envid : OptionValue) : Except Failure (List AgentRow) := do
  let inEnvironment ← envidIs envid
  return database.agents.filter fun row =>
    inEnvironment row.envid && row.agentType = some "primary".toList

/-- The value of a column. -/
def ofColumn : Option Text → OptionValue
  | none => .none
  | some text => .text text

/-- The value for the uuid that is filled in, if any is. -/
def lookupUuid (database : Database) (options : Options) (envid : OptionValue) :
    Except Raise (Option OptionValue) :=
  if options.describes = false then
    if (options.get "uuid").isSome then .ok none
    else
      match primaryAgents database envid with
      | .error failure => .error (.other failure)
      | .ok [row] => .ok (some (ofColumn row.uuid))
      | .ok _ => .ok (some .none)
  else
    match describedAgents database options envid with
    | .error failure => .error (.other failure)
    | .ok [] => .error (.command "no matching agent found")
    | .ok [row] => .ok (some (ofColumn row.uuid))
    | .ok (_ :: _ :: _) => .error (.command "agent must be unique")

/-- The value for the environment. -/
def Options.envid (options : Options) (database : Database) : OptionValue :=
  (options.get "envid").getD (.number database.envid)

/-- The check of the user's id. -/
def checkUserid (options : Options) : Except Raise Unit :=
  match options.get "userid" with
  | none => .ok ()
  | some (.text text) =>
    if (digitsValue text).isSome then .ok ()
    else .error (.command "Invalid userid: must be an integer.")
  | some _ => .error (.other ⟨.attributeError, "object has no attribute 'isdigit'"⟩)

/-- `Command.sanity`. -/
def sanity (database : Database) (options : Options) : Except Raise Options := do
  let options :=
    if (options.get "domainid").isSome then options
    else options.set "domainid" (.number database.domainid)
  let envid := options.envid database
  let options := if (options.get "envid").isSome then options else options.set "envid" envid
  let uuid ← lookupUuid database options envid
  let options :=
    match uuid with
    | some value => options.set "uuid" value
    | none => options
  checkUserid options
  return options

/-- `Command.__init__`. -/
def Command.init (database : Database) (line : Text) : Except Raise Command :=
  match Shlex.split line with
  | .error .noClosingQuotation => .error (.command "No closing quotation")
  | .error .noEscapedCharacter => .error (.command "No escaped character")
  | .ok tokens => do
    let parsed := parse [] tokens
    if parsed.name = [] then .error (.command ("Missing command: " ++ String.ofList line))
    else
      let options ← sanity database parsed.options
      return ⟨parsed.name.map fun char => if char = '-' then '_' else char, options, parsed.args⟩

end Palette.Telnet
