import Palette.Telnet.Parsing

/-!
# Commands from the web

The web application pastes the strings of a request into a line: within double quotes for a
restore, without quotes elsewhere. The line is encoded as ASCII, or sending it raises. The
controller reads a line without the blanks around it and splits it like a shell.

The name of a file or a URL arrives unchanged if the quotes keep it and nothing is stripped
from it. The other strings have to be single words.
-/

namespace Palette.Telnet

open Palette.Foundation Palette.Foundation.Shlex

/-! ## Lines -/

/-- The characters of ASCII. -/
def isAscii (char : Char) : Bool := char.toNat < 128

/-- The two kinds of clouds that are tested. -/
inductive CloudType where
  | s3
  | gcs
  deriving DecidableEq, Repr

/-- The name of the command for a cloud. -/
def CloudType.name : CloudType → Text
  | s3 => "s3".toList
  | gcs => "gcs".toList

/-- What is restored: a file of the table or a URL. -/
inductive RestoreSource where
  | filename (name : Text)
  | url (address : Text)
  deriving DecidableEq, Repr

/-- The name of the command for a source. -/
def RestoreSource.name : RestoreSource → Text
  | filename _ => "restore".toList
  | url _ => "restore-url".toList

/-- The string that the source is given by. -/
def RestoreSource.text : RestoreSource → Text
  | filename name => name
  | url address => address

/-- The requests that paste strings into a line. A password that is missing is empty, and
the secret key is a ciphertext in hexadecimal digits. -/
inductive Request where
  | restore (userid : Nat) (source : RestoreSource) (password : Text)
      (noconfig nobackup nolicense : Bool)
  | adVerify (agent : Option Text) (username password : Text)
  | cloudTest (userid : Nat) (cloud : CloudType) (accessKey : Text) (cipher : List UInt8)
      (bucket : Text)

/-- The digits of `base64.b16encode`. -/
def b16encode (bytes : List UInt8) : Text :=
  bytes.flatMap fun byte =>
    [(byte.toNat / 16).digitChar.toUpper, (byte.toNat % 16).digitChar.toUpper]

/-- The preamble of a request with a user. -/
def useridOption (userid : Nat) : Text := "/userid=".toList ++ Nat.toDigits 10 userid

/-- The options of a restore. -/
def restoreFlags (noconfig nobackup nolicense : Bool) : List Text :=
  (if nolicense then ["/nolicense".toList] else []) ++
    (if nobackup then ["/nobackup".toList] else []) ++
      (if noconfig then ["/noconfig".toList] else [])

/-- Words with a blank after each. -/
def spaced (words : List Text) : Text := words.flatMap fun word => word ++ [' ']

/-- The line that `send_cmd` writes, without its end. -/
def Request.line : Request → Text
  | restore userid source password noconfig nobackup nolicense =>
    ' ' :: (spaced ([useridOption userid] ++ restoreFlags noconfig nobackup nolicense ++
      [source.name]) ++ quoted source.text ++
        if password = [] then [] else ' ' :: quoted password)
  | adVerify agent username password =>
    ' ' :: ((if agent.isSome then "/uuid=%s ".toList else []) ++ "ad verify ".toList ++ username ++
      ' ' :: password)
  | cloudTest userid cloud accessKey cipher bucket =>
    ' ' :: (spaced [useridOption userid, "/access-key=".toList ++ accessKey,
      "/secret-key=".toList ++ b16encode cipher, "/bucket=".toList ++ bucket, cloud.name] ++
        "test".toList)

/-- The option for the id of the user. -/
def useridEntry (userid : Nat) : Text × OptionValue :=
  ("userid".toList, .text (Nat.toDigits 10 userid))

/-- The command that is meant by a request. -/
def Request.intended : Request → Command
  | restore userid source password noconfig nobackup nolicense =>
    ⟨source.name,
      ((restoreFlags noconfig nobackup nolicense).map fun flag => (flag.drop 1, .none)) ++
        [useridEntry userid],
      source.text :: if password = [] then [] else [password]⟩
  | adVerify agent username password =>
    ⟨"ad".toList, (agent.map fun uuid => ("uuid".toList, .text uuid)).toList,
      ["verify".toList, username, password]⟩
  | cloudTest userid cloud accessKey cipher bucket =>
    ⟨cloud.name, [("bucket".toList, .text bucket), ("secret-key".toList, .text (b16encode cipher)),
      ("access-key".toList, .text accessKey), useridEntry userid], ["test".toList]⟩

/-- Two commands have one name, the same arguments and the same options in any order. -/
def Command.Same (command other : Command) : Prop :=
  command.name = other.name ∧ command.args = other.args ∧
    ∀ key, command.options.lookup key = other.options.lookup key

/-- The line is written as one line, and reading it gives the command. -/
def Arrives (line : Text) (intended : Command) : Prop :=
  (∀ char ∈ line, isAscii char = true) ∧ '\n' ∉ line ∧
    ∃ tokens, split (strip line) = .ok tokens ∧ (parse [] tokens).Same intended

/-! ## What may be pasted -/

/-- The text arrives from within double quotes. -/
def Quotable (text : Text) : Prop :=
  Literal text ∧ strip text = text ∧ '\n' ∉ text ∧ ∀ char ∈ text, isAscii char = true

/-- The text is a word without characters that a shell looks at. -/
def IsWord (text : Text) : Prop :=
  (∀ char ∈ text, isPlain char = true) ∧ strip text = text ∧ ∀ char ∈ text, isAscii char = true

/-- The strings of a request arrive. The agent of a login is not pasted into the line. -/
def Request.Pasteable : Request → Prop
  | restore _ source password _ _ _ => Quotable source.text ∧ Quotable password
  | adVerify agent username password => (agent = none ∨ agent = some "%s".toList) ∧
      IsWord username ∧ username ≠ [] ∧ IsWord password ∧ password ≠ []
  | cloudTest _ _ accessKey _ bucket => IsWord accessKey ∧ IsWord bucket

end Palette.Telnet
