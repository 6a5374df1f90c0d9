import Palette.Foundation.Json

/-!
# Reporting the result of a command

The body of a result is a dictionary of Python. Its strings are byte strings or unicode
strings. It is written as JSON without escapes for the characters outside of ASCII. If there
is a unicode string in it, the JSON text is a unicode string too, provided that the byte
strings are ASCII. Such a text is then normalised and what is not ASCII is left out.

A body that cannot be written is replaced by a text of its own, which is no JSON.
-/

namespace Palette.Telnet

open Palette.Foundation Palette.Foundation.Json

/-! ## Bodies -/

/-- A string of Python: bytes or code points. -/
inductive PyText where
  | bytes (content : List Nat)
  | unicode (content : List Nat)
  deriving DecidableEq, Repr

namespace PyText

/-- The bytes or the code points. -/
def content : PyText → List Nat
  | bytes content => content
  | unicode content => content

/-- The string is a unicode string. -/
def isUnicode : PyText → Bool
  | bytes _ => false
  | unicode _ => true

/-- There are only characters of ASCII. -/
def isAscii (text : PyText) : Bool := text.content.all fun point => point < 0x80

/-- Two strings are equal. A byte string is equal to a unicode string if both are ASCII. -/
def equal (text other : PyText) : Bool :=
  text.content = other.content && (text.isUnicode = other.isUnicode || text.isAscii)

/-- The text that the string stands for, if it is one. -/
def points : PyText → Option (List Nat)
  | bytes content => utf8 content
  | unicode content => some content

end PyText

/-- A string of the program's own. -/
def PyText.ofString (text : String) : PyText := .bytes (codes text)

/-- A finite number by its `repr`. -/
structure Numeral where
  literal : List Nat
  isNumber : number literal = some (literal, [])

/-- A value in a body. -/
inductive Reported where
  | none
  | bool (flag : Bool)
  | number (numeral : Numeral)
  | constant (name : Constant)
  | date
  | text (text : PyText)
  | list (items : List Reported)
  | dict (entries : List (PyText × Reported))

/-- No two entries have equal keys. -/
def DistinctKeys (entries : List (PyText × Reported)) : Prop :=
  entries.Pairwise fun entry other => entry.1.equal other.1 = false

/-- The dictionary that a command reports. -/
structure Body where
  entries : List (PyText × Reported)
  distinct : DistinctKeys entries

/-! ## Writing -/

/-- `key in dict`. -/
def hasKey (key : String) (entries : List (PyText × Reported)) : Bool :=
  entries.any fun entry => entry.1.equal (PyText.ofString key)

/-- `dict[key] = value`. A key that is there stays. -/
def assign (key : String) (value : Reported) :
    List (PyText × Reported) → List (PyText × Reported)
  | [] => [(PyText.ofString key, value)]
  | entry :: more =>
    if entry.1.equal (PyText.ofString key) then (entry.1, value) :: more
    else entry :: assign key value more

/-- `success`. -/
def success (body : Body) : Bool := !hasKey "error" body.entries

/-- The status that is reported. -/
def statusOf (body : Body) : String := if success body then "OK" else "error"

/-- The body with its status. -/
def withStatus (body : Body) : List (PyText × Reported) :=
  assign "status" (.text (PyText.ofString (statusOf body))) body.entries

/-- A string with quotes and escapes. It stays bytes or unicode. -/
def encodeBasestring : PyText → PyText
  | .bytes content => .bytes (quoted content)
  | .unicode content => .unicode (quoted content)

mutual

/-- The pieces of a JSON text. A date cannot be written. -/
def chunks : Reported → Option (List PyText)
  | .none => some [PyText.ofString "null"]
  | .bool flag => some [PyText.ofString (if flag then "true" else "false")]
  | .number numeral => some [.bytes numeral.literal]
  | .constant name => some [.bytes name.name]
  | .date => none
  | .text text => some [encodeBasestring text]
  | .list items =>
    (chunksItems items).map fun inner => PyText.ofString "[" :: inner ++ [PyText.ofString "]"]
  | .dict entries =>
    (chunksEntries entries).map fun inner => PyText.ofString "\x7b" :: inner ++ [PyText.ofString "\x7d"]

/-- The pieces of the items with commas between them. -/
def chunksItems : List Reported → Option (List PyText)
  | [] => some []
  | item :: more =>
    match chunks item, chunksItems more with
    | some first, some others =>
      some (first ++ if more.isEmpty then [] else PyText.ofString ", " :: others)
    | _, _ => none

/-- The pieces of the entries with commas between them. -/
def chunksEntries : List (PyText × Reported) → Option (List PyText)
  | [] => some []
  | (key, value) :: more =>
    match chunks value, chunksEntries more with
    | some first, some others =>
      some (encodeBasestring key :: PyText.ofString ": " :: first ++
        if more.isEmpty then [] else PyText.ofString ", " :: others)
    | _, _ => none

end

/-- `''.join(chunks)`. With a unicode string among them the byte strings have to be ASCII. -/
def join (pieces : List PyText) : Option PyText :=
  if pieces.any PyText.isUnicode then
    if pieces.all fun piece => piece.isUnicode || piece.isAscii then
      some (.unicode (pieces.flatMap PyText.content))
    else none
  else some (.bytes (pieces.flatMap PyText.content))

/-- `json.dumps` without escapes for the characters outside of ASCII. -/
def dumps (value : Reported) : Option PyText := (chunks value).bind join

/-- The characters of ASCII that the normalisation and the encoding leave of a code point. -/
structure Normalization where
  ascii : Nat → List Nat
  ascii_of_ascii : ∀ point < 0x80, ascii point = [point]
  printable : ∀ point, 0x80 ≤ point → ∀ byte ∈ ascii point, 0x20 ≤ byte ∧ byte < 0x7F

/-- What `print_client` writes for a text. -/
def printClient (normalization : Normalization) : PyText → List Nat
  | .bytes content => content ++ [0x0A]
  | .unicode content => content.flatMap normalization.ascii ++ [0x0A]

/-- The text that stands for a body that cannot be written. -/
def fallback : PyText :=
  PyText.ofString "\x7b'status': 'error', 'error': 'json decode error.  See log.'\x7d"

/-- `CliHandler.report_status`. -/
def reportStatus (normalization : Normalization) (body : Body) : List Nat :=
  printClient normalization ((dumps (.dict (withStatus body))).getD fallback)

/-! ## What a client should get -/

mutual

/-- A decoded value has the keys and the ASCII strings of a value in a body. -/
def Keeps : Reported → Value → Prop
  | .text text, found => text.isAscii = true → found = .text text.content
  | .list items, found => ∃ others, found = .list others ∧ KeepsItems items others
  | .dict entries, found => ∃ members, found = .object members ∧ KeepsEntries entries members
  | _, _ => True

/-- Decoded items correspond to items one by one. -/
def KeepsItems : List Reported → List Value → Prop
  | [], found => found = []
  | item :: more, found =>
    ∃ first others, found = first :: others ∧ Keeps item first ∧ KeepsItems more others

/-- Decoded members correspond to entries one by one. -/
def KeepsEntries : List (PyText × Reported) → List (List Nat × Value) → Prop
  | [], found => found = []
  | (key, value) :: more, found =>
    ∃ points first others, found = (points, first) :: others ∧ key.points = some points ∧
      Keeps value first ∧ KeepsEntries more others

end

/-- The value of a member. The last one of a key counts. -/
def member (key : String) (members : List (List Nat × Value)) : Option Value :=
  members.reverse.lookup (codes key)

/-- What was written is one line, the line is JSON of the standard for an object with the keys
and the ASCII strings of the body, and its status is that of the body. -/
def Decodes (written : List Nat) (body : Body) : Prop :=
  (∃ line, written = line ++ [0x0A] ∧ 0x0A ∉ line) ∧
    ∃ members, loads written = some (.object members) ∧ Value.standardMembers members = true ∧
      KeepsEntries (withStatus body) members ∧
        (member "status" members = some (.text (codes "OK")) ↔ success body = true)

/-! ## Which bodies are decoded -/

mutual

/-- There is a date in the value. -/
def Reported.hasDate : Reported → Bool
  | .date => true
  | .list items => hasDateItems items
  | .dict entries => hasDateEntries entries
  | _ => false

/-- There is a date in the items. -/
def hasDateItems : List Reported → Bool
  | [] => false
  | item :: more => item.hasDate || hasDateItems more

/-- There is a date in the entries. -/
def hasDateEntries : List (PyText × Reported) → Bool
  | [] => false
  | (_, value) :: more => value.hasDate || hasDateEntries more

end

mutual

/-- All numbers in the value are finite. -/
def Reported.finite : Reported → Bool
  | .constant _ => false
  | .list items => finiteItems items
  | .dict entries => finiteEntries entries
  | _ => true

/-- All numbers in the items are finite. -/
def finiteItems : List Reported → Bool
  | [] => true
  | item :: more => item.finite && finiteItems more

/-- All numbers in the entries are finite. -/
def finiteEntries : List (PyText × Reported) → Bool
  | [] => true
  | (_, value) :: more => value.finite && finiteEntries more

end

mutual

/-- The keys in the value. -/
def Reported.keys : Reported → List PyText
  | .list items => keysItems items
  | .dict entries => keysEntries entries
  | _ => []

/-- The keys in the items. -/
def keysItems : List Reported → List PyText
  | [] => []
  | item :: more => item.keys ++ keysItems more

/-- The keys of the entries and in them. -/
def keysEntries : List (PyText × Reported) → List PyText
  | [] => []
  | (key, value) :: more => key :: value.keys ++ keysEntries more

end

mutual

/-- The strings in the value, keys among them. -/
def Reported.texts : Reported → List PyText
  | .text text => [text]
  | .list items => textsItems items
  | .dict entries => textsEntries entries
  | _ => []

/-- The strings in the items. -/
def textsItems : List Reported → List PyText
  | [] => []
  | item :: more => item.texts ++ textsItems more

/-- The keys of the entries and the strings in them. -/
def textsEntries : List (PyText × Reported) → List PyText
  | [] => []
  | (key, value) :: more => key :: value.texts ++ textsEntries more

end

/-- No character of the body becomes a quote or a backslash when it is normalised. -/
def Body.Clear (normalization : Normalization) (body : Body) : Prop :=
  ∀ text ∈ textsEntries (withStatus body), text.isUnicode = true →
    ∀ point ∈ text.content, 0x80 ≤ point →
      quote ∉ normalization.ascii point ∧ backslash ∉ normalization.ascii point

/-- With its status the body has no date and only finite numbers. If there is a unicode string
in it, its keys and its byte strings are ASCII. Otherwise its byte strings are UTF-8. -/
def Body.Sound (body : Body) : Prop :=
  hasDateEntries (withStatus body) = false ∧ finiteEntries (withStatus body) = true ∧
    if (textsEntries (withStatus body)).any PyText.isUnicode then
      (∀ key ∈ keysEntries (withStatus body), key.isAscii = true) ∧
        ∀ text ∈ textsEntries (withStatus body), text.isUnicode = false → text.isAscii = true
    else ∀ text ∈ textsEntries (withStatus body), text.points.isSome = true

end Palette.Telnet
