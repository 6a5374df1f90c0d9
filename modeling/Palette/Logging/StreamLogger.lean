import Mathlib.Data.List.DropRight
import Palette.Cli.SafeCommand
import Palette.Foundation.Lines
import Palette.Telnet.Parsing

/-!
# A stream that writes to the log

What is written is cut into lines. A line that ends with a carriage return or a newline is logged,
and the rest waits for the next call. A unicode text has further ends of lines, and a line that
ends so waits, too, while the lines behind it are logged.

What is logged does not depend on how the text is cut into calls. It is the text line by line
exactly if nothing has to wait for long.
-/

namespace Palette.Logging

open Palette.Foundation.Lines

/-- A byte string or a unicode text. -/
abbrev Text := List Char

/-- The two kinds of strings. -/
inductive Kind where
  | bytes
  | unicode
  deriving DecidableEq, Repr

namespace Kind

/-- The characters at which `splitlines` cuts. -/
def ends : Kind → Char → Bool
  | bytes, char => char = '\n' || char = '\r'
  | unicode, char => char.toNat ∈ [10, 11, 12, 13, 28, 29, 30, 0x85, 0x2028, 0x2029]

/-- A carriage return and a newline are one end together. -/
def marks (kind : Kind) : Marks Char where
  ends := kind.ends
  pair first second := first = '\r' && second = '\n'
  ends_of_pair first second paired := by
    simp only [Bool.and_eq_true, decide_eq_true_eq] at paired
    rw [paired.1, paired.2]
    cases kind <;> decide

/-- `text.splitlines(True)`. -/
def splitlines (kind : Kind) (text : Text) : List Text := splitLines kind.marks text

/-- The characters that are stripped. -/
def isSpace : Kind → Char → Bool
  | bytes => Telnet.isSpace
  | unicode => Cli.isBlank

/-- `text.rstrip()`. -/
def rstrip (kind : Kind) (text : Text) : Text := text.rdropWhile kind.isSpace

end Kind

/-- `line.endswith('\r') or line.endswith('\n')`. -/
def isEnded (line : Text) : Bool := line.getLast? = some '\r' || line.getLast? = some '\n'

/-- A line with its tag, if there is one. -/
def tagged : Option Text → Text → Text
  | none, line => line
  | some [], line => line
  | some tag, line => '[' :: tag ++ "] ".toList ++ line

/-- `StreamLogger`, with the lines that were logged. -/
structure StreamLogger where
  tag : Option Text
  buf : Text
  logged : List Text
  deriving DecidableEq, Repr

namespace StreamLogger

/-- `StreamLogger(tag)`. -/
def init (tag : Option Text) : StreamLogger := ⟨tag, [], []⟩

variable (kind : Kind) (logger : StreamLogger)

/-- `writeln`. -/
def writeln (line : Text) : StreamLogger :=
  if kind.rstrip line = [] then logger
  else { logger with logged := logger.logged ++ [tagged logger.tag (kind.rstrip line)] }

/-- The loop of `write`. -/
def writeLine (line : Text) : StreamLogger :=
  if isEnded line then logger.writeln kind line else { logger with buf := logger.buf ++ line }

/-- `write`. -/
def write (text : Text) : StreamLogger :=
  (kind.splitlines (logger.buf ++ text)).foldl (writeLine kind) { logger with buf := [] }

/-- `flush`. -/
def flush : StreamLogger := { logger.writeln kind logger.buf with buf := [] }

end StreamLogger

/-- What is logged of a text that comes in chunks. -/
def logs (kind : Kind) (tag : Option Text) (chunks : List Text) : List Text :=
  ((chunks.foldl (StreamLogger.write kind) (.init tag)).flush kind).logged

/-- The lines of a text that are not blank, stripped at the right. -/
def nonBlankLines (kind : Kind) (text : Text) : List Text :=
  ((kind.splitlines text).map kind.rstrip).filter (· ≠ [])

/-- Nothing waits for long: of the lines from the first one that is not ended, those that are not
ended are blank, or all that are not blank behind the first one are ended and read as it does. -/
def KeepsUp (kind : Kind) (text : Text) : Prop :=
  match (kind.splitlines text).dropWhile isEnded with
  | [] => True
  | first :: after =>
    (∀ line ∈ first :: after, isEnded line = false → kind.rstrip line = []) ∨
      ∀ line ∈ after, kind.rstrip line ≠ [] →
        isEnded line = true ∧ kind.rstrip line = kind.rstrip first

example : logs .bytes (some "STDOUT".toList) ["a\r".toList, "\n \nb".toList, "c ".toList] =
    ["[STDOUT] a".toList, "[STDOUT] bc".toList] := by decide

example : logs .unicode none ["a\x0bb\n".toList] = ["b".toList, "a".toList] := by decide

end Palette.Logging
