import Palette.Foundation.SqlText
import Palette.Telnet.Parsing
import Mathlib.Data.Nat.Digits.Defs

/-!
# The statements of the web application's own storage

The tokens of the requests and the failed logins are stored through SQL texts that
`format_sql` puts together: a string is put between two quotes of the template as it
is, a number and a time are put as they are shown.

What a statement should mean is its list of tokens, with the given strings as its
literals. The text is read as that list exactly if no given string has a quote.
-/

namespace Palette.Web

open Foundation.SqlText Palette.Telnet

/-! ## Formatting -/

/-- A time of the server. -/
structure Datetime where
  year : Nat
  month : Nat
  day : Nat
  hour : Nat
  minute : Nat
  second : Nat
  microsecond : Nat

/-- A number with at least that many digits. -/
def padded (width number : Nat) : Text :=
  let digits := Nat.toDigits 10 number
  List.replicate (width - digits.length) '0' ++ digits

/-- `isoformat()`: the microseconds are shown if there are any. -/
def Datetime.isoformat (time : Datetime) : Text :=
  padded 4 time.year ++ '-' :: padded 2 time.month ++ '-' :: padded 2 time.day ++ 'T' ::
    padded 2 time.hour ++ ':' :: padded 2 time.minute ++ ':' :: padded 2 time.second ++
    if time.microsecond = 0 then [] else '.' :: padded 6 time.microsecond

/-- What a statement is formatted with. -/
inductive Argument
  | string (text : Text)
  | number (value : Nat)
  | datetime (time : Datetime)

/-- How an argument is shown; nothing in a string is escaped. -/
def Argument.escape : Argument → Text
  | string text => text
  | number value => Nat.toDigits 10 value
  | datetime time => time.isoformat

/-- A part of a format string: fixed characters, or the number of an argument. -/
inductive Piece
  | text (run : Text)
  | field (index : Nat)
  deriving DecidableEq

/-- A fixed character before the other parts. -/
def prepend (char : Char) : List Piece → List Piece
  | .text run :: rest => .text (char :: run) :: rest
  | pieces => .text [char] :: pieces

/-- The parts of a format string with fields of one digit: a doubled brace, a field, any
other character. A brace alone raises. -/
def parse : Text → Option (List Piece)
  | [] => some []
  | [char] => if char = '\x7b' ∨ char = '\x7d' then none else some [.text [char]]
  | char :: second :: rest =>
    if char = '\x7b' then
      if second = '\x7b' then (parse rest).map (prepend char)
      else
        match rest with
        | close :: others =>
          if second.isDigit ∧ close = '\x7d' then
            (parse others).map (.field (second.toNat - '0'.toNat) :: ·)
          else none
        | [] => none
    else if char = '\x7d' then
      if second = '\x7d' then (parse rest).map (prepend char) else none
    else (parse (second :: rest)).map (prepend char)

/-- The characters of a part; a field without an argument raises. -/
def Piece.shown (arguments : List Text) : Piece → Option Text
  | text run => some run
  | field index => arguments[index]?

/-- `format()`: nothing in an argument is formatted again. -/
def format (formatString : Text) (arguments : List Text) : Option Text := do
  let pieces ← parse formatString
  let shown ← pieces.mapM (Piece.shown arguments)
  return shown.flatten

/-- Format a statement. -/
def formatSql (formatString : Text) (arguments : List Argument) : Option Text :=
  format formatString (arguments.map Argument.escape)

/-- The format strings of `SqlCsrfStorage` and `UserLockoutStorage`. -/
inductive Template
  | insertToken
  | deleteToken
  | countToken
  | deleteUser
  | updateUser
  | insertUser
  | selectUser

/-- The text of a format string. -/
def Template.formatString : Template → Text
  | insertToken =>
    "INSERT INTO \x7b0\x7d (token_str, expires_at) VALUES ('\x7b1\x7d', '\x7b2\x7d')".toList
  | deleteToken => "DELETE FROM \x7b0\x7d WHERE token_str='\x7b1\x7d'".toList
  | countToken => "SELECT COUNT(1) FROM \x7b0\x7d WHERE token_str = '\x7b1\x7d'".toList
  | deleteUser => "DELETE FROM \x7b0\x7d WHERE user_name = '\x7b1\x7d'".toList
  | updateUser => "UPDATE \x7b0\x7d SET attempt_count=\x7b1\x7d WHERE user_name='\x7b2\x7d'".toList
  | insertUser => "INSERT INTO \x7b0\x7d (user_name, attempt_count) VALUES ('\x7b1\x7d', 1)".toList
  | selectUser => "SELECT attempt_count FROM \x7b0\x7d WHERE user_name = '\x7b1\x7d'".toList

/-- The statements, with what they are formatted with. -/
inductive Statement
  | insertToken (token : Text) (expires : Datetime)
  | deleteToken (token : Text)
  | countToken (token : Text)
  | deleteUser (name : Text)
  | updateUser (count : Nat) (name : Text)
  | insertUser (name : Text)
  | selectUser (name : Text)

/-- Why a statement fails. -/
inductive DatabaseError
  | uniqueViolation
  | valueTooLong
  | other
  deriving DecidableEq

/-- The table of the tokens. -/
def csrfTable : Text := "palette_csrf_tokens".toList

/-- The table of the failed logins. -/
def lockoutTable : Text := "palette_user_lockout".toList

namespace Statement

/-- The format string of a statement. -/
def template : Statement → Template
  | insertToken _ _ => .insertToken
  | deleteToken _ => .deleteToken
  | countToken _ => .countToken
  | deleteUser _ => .deleteUser
  | updateUser _ _ => .updateUser
  | insertUser _ => .insertUser
  | selectUser _ => .selectUser

/-- What a statement is formatted with, the table first. -/
def arguments : Statement → List Argument
  | insertToken token expires => [.string csrfTable, .string token, .datetime expires]
  | deleteToken token | countToken token => [.string csrfTable, .string token]
  | updateUser count name => [.string lockoutTable, .number count, .string name]
  | deleteUser name | insertUser name | selectUser name => [.string lockoutTable, .string name]

/-- The text that `run_sql` sends. -/
def sql (statement : Statement) : Option Text :=
  formatSql statement.template.formatString statement.arguments

/-- The string from a cookie or a request body in a statement. -/
def given : Statement → Text
  | insertToken token _ | deleteToken token | countToken token => token
  | deleteUser name | updateUser _ name | insertUser name | selectUser name => name

/-- What a statement is meant to be, up to its string. -/
def opening : Statement → List Token
  | insertToken _ _ =>
    [.word "INSERT".toList, .word "INTO".toList, .word csrfTable, .symbol '(',
      .word "token_str".toList, .symbol ',', .word "expires_at".toList, .symbol ')',
      .word "VALUES".toList, .symbol '(']
  | deleteToken _ =>
    [.word "DELETE".toList, .word "FROM".toList, .word csrfTable, .word "WHERE".toList,
      .word "token_str".toList, .symbol '=']
  | countToken _ =>
    [.word "SELECT".toList, .word "COUNT".toList, .symbol '(', .number ['1'], .symbol ')',
      .word "FROM".toList, .word csrfTable, .word "WHERE".toList, .word "token_str".toList,
      .symbol '=']
  | deleteUser _ =>
    [.word "DELETE".toList, .word "FROM".toList, .word lockoutTable, .word "WHERE".toList,
      .word "user_name".toList, .symbol '=']
  | updateUser count _ =>
    [.word "UPDATE".toList, .word lockoutTable, .word "SET".toList, .word "attempt_count".toList,
      .symbol '=', .number (Nat.toDigits 10 count), .word "WHERE".toList,
      .word "user_name".toList, .symbol '=']
  | insertUser _ =>
    [.word "INSERT".toList, .word "INTO".toList, .word lockoutTable, .symbol '(',
      .word "user_name".toList, .symbol ',', .word "attempt_count".toList, .symbol ')',
      .word "VALUES".toList, .symbol '(']
  | selectUser _ =>
    [.word "SELECT".toList, .word "attempt_count".toList, .word "FROM".toList,
      .word lockoutTable, .word "WHERE".toList, .word "user_name".toList, .symbol '=']

/-- What a statement is meant to be, from its string on. -/
def closing : Statement → List Token
  | insertToken _ expires => [.symbol ',', .literal expires.isoformat, .symbol ')']
  | insertUser _ => [.symbol ',', .number ['1'], .symbol ')']
  | deleteToken _ | countToken _ | deleteUser _ | updateUser _ _ | selectUser _ => []

/-- What a statement is meant to be: one statement, with the string as its literal. -/
def tokens (statement : Statement) : List Token :=
  statement.opening ++ .literal statement.given :: statement.closing

/-- Run a statement. What the database does for a text that is not read as meant is its
own affair. -/
def execute {Result : Type} (effect : Statement → Result) (injected : Option Text → Result)
    (statement : Statement) : Result :=
  if statement.sql.bind lex = some statement.tokens then effect statement
  else injected statement.sql

/-- The text of a statement is read as the statement that is meant. -/
def Faithful (statement : Statement) : Prop :=
  ∃ text, statement.sql = some text ∧ lex text = some statement.tokens

end Statement

/-! ## The texts -/

/-- The parts of a format string. -/
def Template.pieces : Template → List Piece
  | insertToken => [.text "INSERT INTO ".toList, .field 0,
      .text " (token_str, expires_at) VALUES ('".toList, .field 1, .text "', '".toList, .field 2,
      .text "')".toList]
  | deleteToken => [.text "DELETE FROM ".toList, .field 0, .text " WHERE token_str='".toList,
      .field 1, .text "'".toList]
  | countToken => [.text "SELECT COUNT(1) FROM ".toList, .field 0,
      .text " WHERE token_str = '".toList, .field 1, .text "'".toList]
  | deleteUser => [.text "DELETE FROM ".toList, .field 0, .text " WHERE user_name = '".toList,
      .field 1, .text "'".toList]
  | updateUser => [.text "UPDATE ".toList, .field 0, .text " SET attempt_count=".toList, .field 1,
      .text " WHERE user_name='".toList, .field 2, .text "'".toList]
  | insertUser => [.text "INSERT INTO ".toList, .field 0,
      .text " (user_name, attempt_count) VALUES ('".toList, .field 1, .text "', 1)".toList]
  | selectUser => [.text "SELECT attempt_count FROM ".toList, .field 0,
      .text " WHERE user_name = '".toList, .field 1, .text "'".toList]

theorem Template.parse_formatString (template : Template) :
    parse template.formatString = some template.pieces := by
  cases template <;> decide +kernel

namespace Statement

/-- The parts of a statement before its string, its quote included. -/
def before : Statement → List Text
  | insertToken _ _ => ["INSERT INTO ".toList, csrfTable,
      " (token_str, expires_at) VALUES ('".toList]
  | deleteToken _ => ["DELETE FROM ".toList, csrfTable, " WHERE token_str='".toList]
  | countToken _ => ["SELECT COUNT(1) FROM ".toList, csrfTable, " WHERE token_str = '".toList]
  | deleteUser _ => ["DELETE FROM ".toList, lockoutTable, " WHERE user_name = '".toList]
  | updateUser count _ => ["UPDATE ".toList, lockoutTable, " SET attempt_count=".toList,
      Nat.toDigits 10 count, " WHERE user_name='".toList]
  | insertUser _ => ["INSERT INTO ".toList, lockoutTable,
      " (user_name, attempt_count) VALUES ('".toList]
  | selectUser _ => ["SELECT attempt_count FROM ".toList, lockoutTable,
      " WHERE user_name = '".toList]

/-- The parts of a statement after its string. -/
def after : Statement → List Text
  | insertToken _ expires => ["', '".toList, expires.isoformat, "')".toList]
  | insertUser _ => ["', 1)".toList]
  | deleteToken _ | countToken _ | deleteUser _ | updateUser _ _ | selectUser _ => ["'".toList]

/-- The string of a statement stands in its text as it is given. -/
theorem sql_eq (statement : Statement) :
    statement.sql = some (statement.before.flatten ++ (statement.given ++ statement.after.flatten)) := by
  rw [sql, formatSql, format, Template.parse_formatString]
  cases statement <;>
    simp only [template, Template.pieces, arguments, Argument.escape, List.map_cons, List.map_nil,
      Piece.shown, List.mapM_cons, List.mapM_nil, List.getElem?_cons_zero, List.getElem?_cons_succ,
      Option.pure_def, Option.bind_eq_bind, Option.bind_some, List.flatten_cons, List.flatten_nil,
      before, after, given, List.append_assoc, List.append_nil]

/-- A number is shown in digits. -/
theorem toDigits_isDigit (number : Nat) :
    ∀ digit ∈ Nat.toDigits 10 number, digit.isDigit = true := fun _ member =>
  Nat.isDigit_of_mem_toDigits (by decide) (by decide) member

/-- A statement with an empty string. -/
def empty : Template → Statement
  | .insertToken => insertToken [] ⟨0, 0, 0, 0, 0, 0, 0⟩
  | .deleteToken => deleteToken []
  | .countToken => countToken []
  | .deleteUser => deleteUser []
  | .updateUser => updateUser 0 []
  | .insertUser => insertUser []
  | .selectUser => selectUser []

/-- Up to its string, the text of an empty statement is read as meant, and it has the one
quote of the string. -/
theorem before_empty (template : Template) :
    scan ⟨[], .between⟩ (empty template).before.flatten =
        ⟨(empty template).opening.reverse, .literal []⟩ ∧
      quotes (empty template).before.flatten = 1 := by
  cases template <;> decide +kernel

/-- The same for every statement; only a number differs from the empty one. -/
theorem before_facts (statement : Statement) :
    scan ⟨[], .between⟩ statement.before.flatten = ⟨statement.opening.reverse, .literal []⟩ ∧
      quotes statement.before.flatten = 1 := by
  cases statement with
  | insertToken token expires => exact before_empty .insertToken
  | deleteToken token => exact before_empty .deleteToken
  | countToken token => exact before_empty .countToken
  | deleteUser name => exact before_empty .deleteUser
  | insertUser name => exact before_empty .insertUser
  | selectUser name => exact before_empty .selectUser
  | updateUser count name =>
    have split : (updateUser count name).before.flatten =
        ["UPDATE ".toList, lockoutTable, " SET attempt_count=".toList].flatten ++
          (Nat.toDigits 10 count ++ " WHERE user_name='".toList) := by
      simp only [before, List.flatten_cons, List.flatten_nil, List.append_nil, List.append_assoc]
    have table : scan ⟨[], .between⟩
          ["UPDATE ".toList, lockoutTable, " SET attempt_count=".toList].flatten =
          ⟨[.symbol '=', .word "attempt_count".toList, .word "SET".toList, .word lockoutTable,
            .word "UPDATE".toList], .between⟩ ∧
        quotes ["UPDATE ".toList, lockoutTable, " SET attempt_count=".toList].flatten = 0 :=
      ⟨rfl, rfl⟩
    have named : ∀ done read, scan ⟨done, .number read⟩ " WHERE user_name='".toList =
        ⟨.symbol '=' :: .word "user_name".toList :: .word "WHERE".toList ::
          .number read.reverse :: done, .literal []⟩ := fun _ _ => rfl
    have unquoted : quotes (Nat.toDigits 10 count) = 0 :=
      quotes_eq_zero.mpr fun member => absurd (toDigits_isDigit count _ member) (by decide)
    constructor
    · rw [split, scan_append, table.1, scan_append, scan_digits _ Nat.toDigits_ne_nil
        (toDigits_isDigit count), named, List.reverse_reverse]
      rfl
    · rw [split, quotes_append, table.2, quotes_append, unquoted]
      rfl

/-- A time is shown without quotes. -/
theorem isoformat_unquoted (time : Datetime) : '\'' ∉ time.isoformat := by
  have numbers : ∀ width number, '\'' ∉ padded width number := fun width number member => by
    rcases List.mem_append.mp member with zero | digit
    · exact absurd (List.eq_of_mem_replicate zero) (by decide)
    · exact absurd (toDigits_isDigit number _ digit) (by decide)
  simp only [Datetime.isoformat]
  split_ifs <;> simp [numbers]

/-- After its string, the text of a statement is read as meant. -/
theorem finish_after (statement : Statement) (done : List Token) (read : Text) :
    finish (scan ⟨done, .literal read⟩ statement.after.flatten) =
      some (done.reverse ++ .literal read.reverse :: statement.closing) := by
  have closed : finish (scan ⟨done, .literal read⟩ (["'".toList] : List Text).flatten) =
      some (done.reverse ++ [.literal read.reverse]) := by
    rw [← List.reverse_cons]
    rfl
  cases statement with
  | insertToken token expires =>
    have between : ∀ done read, scan ⟨done, .literal read⟩ "', '".toList =
        ⟨.symbol ',' :: .literal read.reverse :: done, .literal []⟩ := fun _ _ => rfl
    have last : ∀ done read, finish (scan ⟨done, .literal read⟩ "')".toList) =
        some (.symbol ')' :: .literal read.reverse :: done).reverse := fun _ _ => rfl
    simp only [after, closing, List.flatten_cons, List.flatten_nil, List.append_nil, scan_append,
      between, scan_literal _ _ _ (isoformat_unquoted expires), last, List.reverse_cons,
      List.reverse_reverse, List.append_assoc, List.cons_append, List.nil_append]
  | insertUser name =>
    have last : finish (scan ⟨done, .literal read⟩ "', 1)".toList) =
        some (.symbol ')' :: .number ['1'] :: .symbol ',' :: .literal read.reverse ::
          done).reverse := rfl
    simp only [after, closing, List.flatten_cons, List.flatten_nil, List.append_nil, last,
      List.reverse_cons, List.append_assoc, List.cons_append, List.nil_append]
  | _ => exact closed

/-- After its string, the text of a statement has the quote of the string and those of
the literals that follow. -/
theorem quotes_after (statement : Statement) :
    quotes statement.after.flatten = 1 + (statement.closing.map Token.needs).sum := by
  cases statement with
  | insertToken token expires =>
    have unquoted := quotes_eq_zero.mpr (isoformat_unquoted expires)
    have between : quotes "', '".toList = 2 := rfl
    have last : quotes "')".toList = 1 := rfl
    simp only [after, closing, List.flatten_cons, List.flatten_nil, List.append_nil, quotes_append,
      between, last, unquoted, List.map_cons, List.map_nil, List.sum_cons, List.sum_nil,
      Token.needs]
    omega
  | insertUser name =>
    have last : quotes ["', 1)".toList].flatten = 1 := rfl
    exact last
  | _ =>
    have last : quotes ["'".toList].flatten = 1 := rfl
    exact last

/-- Nothing before the string of a statement needs quotes. -/
theorem opening_needs (statement : Statement) :
    (statement.opening.map Token.needs).sum = 0 := by
  cases statement <;> rfl

/-- A string without quotes is the literal that it is put into. -/
theorem meant_of_unquoted {statement : Statement} (unquoted : '\'' ∉ statement.given) :
    statement.sql.bind lex = some statement.tokens := by
  rw [sql_eq, Option.bind_some, lex, scan_append, (before_facts statement).1, scan_append,
    scan_literal _ _ _ unquoted, finish_after, List.reverse_reverse, List.append_nil,
    List.reverse_reverse, tokens]

/-- A statement about a string without quotes does what is meant. -/
theorem execute_eq {Result : Type} {effect : Statement → Result} {injected : Option Text → Result}
    {statement : Statement} (unquoted : '\'' ∉ statement.given) :
    statement.execute effect injected = effect statement :=
  if_pos (meant_of_unquoted unquoted)

/-- The text of a statement is read as the statement that is meant, a single one whose
literals are the given strings, exactly if the string has no quote. -/
theorem faithful_iff (statement : Statement) :
    statement.Faithful ↔ '\'' ∉ statement.given := by
  have quoteBefore := (before_facts statement).2
  constructor
  · rintro ⟨text, sent, read⟩
    obtain rfl := Option.some.inj ((sql_eq statement).symm.trans sent)
    have enough := lex_needs read
    simp only [tokens, List.map_append, List.map_cons, List.sum_append, List.sum_cons,
      Token.needs, quotes_append, quoteBefore, quotes_after, opening_needs] at enough
    exact quotes_eq_zero.mp (by omega)
  · intro unquoted
    refine ⟨_, sql_eq statement, ?_⟩
    have read := meant_of_unquoted unquoted
    rwa [sql_eq, Option.bind_some] at read

/-- The token `' OR ''='` is read as a second condition, which every row meets. -/
theorem quote_unfaithful : ¬∀ statement : Statement, statement.Faithful := by
  intro faithful
  let token := ['\'', ' ', 'O', 'R', ' ', '\'', '\'', '=', '\'']
  obtain ⟨text, sent, read⟩ := faithful (.countToken token)
  have meant : (countToken token).sql.bind lex = some (countToken token).tokens := by
    rw [sent, Option.bind_some, read]
  have injected : (countToken token).sql.bind lex =
      some ((countToken token).opening ++
        [.literal [], .word ['O', 'R'], .literal [], .symbol '=', .literal []]) := by
    decide +kernel
  exact absurd (injected.symm.trans meant) (by decide +kernel)

end Statement

end Palette.Web
