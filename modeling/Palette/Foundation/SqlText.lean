import Mathlib

/-!
# Reading the text of SQL statements

The lexer is a machine over characters: what it has read is a list of tokens and a
mode, and one character changes both. So a text that starts with fixed characters is
read by evaluation up to the first character that is not fixed.

String literals are the standard ones: two quotes inside stand for one, a backslash
stands for itself, and two literals with a line break between them are one. Comments
nest and are blanks. Operators are read character by character.

Every character of a literal that is a quote was written as two, and the literal
itself as two more. So the tokens of a text bound the quotes in it from below, and a
text with fewer quotes than its tokens need is not read as those tokens.
-/

namespace Palette.Foundation.SqlText

/-- What a statement consists of. -/
inductive Token
  | word (text : List Char)
  | number (text : List Char)
  | literal (text : List Char)
  | prefixed (text : List Char)
  | quoted (text : List Char)
  | dollarQuoted (text : List Char)
  | symbol (char : Char)
  deriving DecidableEq

/-- What is being read; the characters of an unfinished token come last first. -/
inductive Mode
  | between
  | word (read : List Char)
  | number (read : List Char)
  | literal (read : List Char)
  | closed (read : List Char)
  | gap (read : List Char) (newline : Bool)
  | gapDash (read : List Char)
  | gapComment (read : List Char)
  | prefixed (escapes : Bool) (read : List Char)
  | escape (read : List Char)
  | prefixedClosed (escapes : Bool) (read : List Char)
  | quoted (read : List Char)
  | quotedClosed (read : List Char)
  | dash
  | slash
  | lineComment
  | block (depth : Nat)
  | blockStar (depth : Nat)
  | blockSlash (depth : Nat)
  | dollar (tag : List Char)
  | dollarBody (tag : List Char) (read : List Char)
  deriving DecidableEq

/-- The tokens that are finished, last first, and the mode. -/
structure State where
  done : List Token
  mode : Mode
  deriving DecidableEq

/-- The characters that end a line. -/
def isNewline (char : Char) : Bool := char = '\n' || char = '\r'

/-- The blanks between tokens. -/
def isBlank (char : Char) : Bool :=
  char = ' ' || char = '\t' || char = Char.ofNat 12 || isNewline char

/-- The characters that a word starts with. -/
def isLetter (char : Char) : Bool := char.isAlpha || char = '_' || 128 ≤ char.toNat

/-- The characters that a word goes on with. -/
def isWordChar (char : Char) : Bool := isLetter char || char.isDigit || char = '$'

/-- A character between two tokens starts the next one. -/
def start (done : List Token) (char : Char) : State :=
  if char = '\'' then ⟨done, .literal []⟩
  else if char = '"' then ⟨done, .quoted []⟩
  else if isBlank char then ⟨done, .between⟩
  else if isLetter char then ⟨done, .word [char]⟩
  else if char.isDigit then ⟨done, .number [char]⟩
  else if char = '-' then ⟨done, .dash⟩
  else if char = '/' then ⟨done, .slash⟩
  else if char = '$' then ⟨done, .dollar []⟩
  else ⟨.symbol char :: done, .between⟩

/-- A quote after one of these words is the quote of a prefixed literal. -/
def isPrefix (word : List Char) : Bool := word.map Char.toLower ∈ [['e'], ['b'], ['x'], ['n']]

/-- The end of a body between dollar tags. -/
def endsBody (tag read : List Char) : Bool := ('$' :: tag ++ ['$']).isPrefixOf read

/-- Read one character. -/
def step (state : State) (char : Char) : State :=
  let done := state.done
  match state.mode with
  | .between => start done char
  | .word read =>
    if char = '\'' && isPrefix read then
      ⟨done, .prefixed (read.map Char.toLower = ['e']) []⟩
    else if isWordChar char then ⟨done, .word (char :: read)⟩
    else start (.word read.reverse :: done) char
  | .number read =>
    if char.isDigit || char = '.' then ⟨done, .number (char :: read)⟩
    else start (.number read.reverse :: done) char
  | .literal read =>
    if char = '\'' then ⟨done, .closed read⟩ else ⟨done, .literal (char :: read)⟩
  | .closed read =>
    if char = '\'' then ⟨done, .literal ('\'' :: read)⟩
    else if isBlank char then ⟨done, .gap read (isNewline char)⟩
    else if char = '-' then ⟨done, .gapDash read⟩
    else start (.literal read.reverse :: done) char
  | .gap read newline =>
    if char = '\'' then
      if newline then ⟨done, .literal read⟩ else start (.literal read.reverse :: done) char
    else if isBlank char then ⟨done, .gap read (newline || isNewline char)⟩
    else if char = '-' then ⟨done, .gapDash read⟩
    else start (.literal read.reverse :: done) char
  | .gapDash read =>
    if char = '-' then ⟨done, .gapComment read⟩
    else start (.symbol '-' :: .literal read.reverse :: done) char
  | .gapComment read =>
    if isNewline char then ⟨done, .gap read true⟩ else ⟨done, .gapComment read⟩
  | .prefixed escapes read =>
    if char = '\'' then ⟨done, .prefixedClosed escapes read⟩
    else if escapes && char = '\\' then ⟨done, .escape (char :: read)⟩
    else ⟨done, .prefixed escapes (char :: read)⟩
  | .escape read => ⟨done, .prefixed true (char :: read)⟩
  | .prefixedClosed escapes read =>
    if char = '\'' then ⟨done, .prefixed escapes ('\'' :: read)⟩
    else start (.prefixed read.reverse :: done) char
  | .quoted read =>
    if char = '"' then ⟨done, .quotedClosed read⟩ else ⟨done, .quoted (char :: read)⟩
  | .quotedClosed read =>
    if char = '"' then ⟨done, .quoted ('"' :: read)⟩
    else start (.quoted read.reverse :: done) char
  | .dash => if char = '-' then ⟨done, .lineComment⟩ else start (.symbol '-' :: done) char
  | .slash => if char = '*' then ⟨done, .block 0⟩ else start (.symbol '/' :: done) char
  | .lineComment => if isNewline char then ⟨done, .between⟩ else ⟨done, .lineComment⟩
  | .block depth =>
    if char = '*' then ⟨done, .blockStar depth⟩
    else if char = '/' then ⟨done, .blockSlash depth⟩
    else ⟨done, .block depth⟩
  | .blockStar depth =>
    if char = '*' then ⟨done, .blockStar depth⟩
    else if char = '/' then
      match depth with
      | 0 => ⟨done, .between⟩
      | outer + 1 => ⟨done, .block outer⟩
    else ⟨done, .block depth⟩
  | .blockSlash depth =>
    if char = '*' then ⟨done, .block (depth + 1)⟩
    else if char = '/' then ⟨done, .blockSlash depth⟩
    else ⟨done, .block depth⟩
  | .dollar tag =>
    if char = '$' then ⟨done, .dollarBody tag []⟩
    else if isLetter char || char.isDigit then ⟨done, .dollar (char :: tag)⟩
    else start (.word ('$' :: tag.reverse) :: done) char
  | .dollarBody tag read =>
    if endsBody tag (char :: read) then
      ⟨.dollarQuoted ((read.drop (tag.length + 1)).reverse) :: done, .between⟩
    else ⟨done, .dollarBody tag (char :: read)⟩

/-- Read a text. -/
def scan (state : State) (text : List Char) : State := text.foldl step state

/-- The end of the text finishes a token, unless its end mark is missing. -/
def finish (state : State) : Option (List Token) :=
  match state.mode with
  | .between | .lineComment => some state.done.reverse
  | .word read => some (.word read.reverse :: state.done).reverse
  | .number read => some (.number read.reverse :: state.done).reverse
  | .closed read | .gap read _ | .gapComment read =>
    some (.literal read.reverse :: state.done).reverse
  | .gapDash read => some (.symbol '-' :: .literal read.reverse :: state.done).reverse
  | .prefixedClosed _ read => some (.prefixed read.reverse :: state.done).reverse
  | .quotedClosed read => some (.quoted read.reverse :: state.done).reverse
  | .dash => some (.symbol '-' :: state.done).reverse
  | .slash => some (.symbol '/' :: state.done).reverse
  | .dollar tag => some (.word ('$' :: tag.reverse) :: state.done).reverse
  | .literal _ | .prefixed _ _ | .escape _ | .quoted _ | .block _ | .blockStar _ | .blockSlash _
  | .dollarBody _ _ => none

/-- The tokens of a text, if each of them ends. -/
def lex (text : List Char) : Option (List Token) := finish (scan ⟨[], .between⟩ text)

/-! ## Composition -/

@[simp] theorem scan_nil (state : State) : scan state [] = state := rfl

@[simp] theorem scan_cons (state : State) (char : Char) (rest : List Char) :
    scan state (char :: rest) = scan (step state char) rest := rfl

theorem scan_append (state : State) (first second : List Char) :
    scan state (first ++ second) = scan (scan state first) second := List.foldl_append

/-- A character of a literal that is no quote belongs to its content. -/
theorem step_literal (done : List Token) (read : List Char) {char : Char} (other : char ≠ '\'') :
    step ⟨done, .literal read⟩ char = ⟨done, .literal (char :: read)⟩ := if_neg other

/-- A digit goes on with the number. -/
theorem step_number (done : List Token) (read : List Char) {digit : Char}
    (numeric : digit.isDigit = true) :
    step ⟨done, .number read⟩ digit = ⟨done, .number (digit :: read)⟩ :=
  if_pos (by rw [numeric, Bool.true_or])

/-- A text without quotes is the content of the literal that it is read in. -/
theorem scan_literal (done : List Token) (read text : List Char) (unquoted : '\'' ∉ text) :
    scan ⟨done, .literal read⟩ text = ⟨done, .literal (text.reverse ++ read)⟩ := by
  induction text generalizing read with
  | nil => rfl
  | cons char rest inductionHypothesis =>
    have other : char ≠ '\'' := fun same => unquoted (same ▸ List.mem_cons_self)
    rw [scan_cons, step_literal done read other,
      inductionHypothesis _ fun later => unquoted (List.mem_cons_of_mem char later)]
    simp

/-- Digits go on with the number that they are read in. -/
theorem scan_number (done : List Token) (read digits : List Char)
    (numeric : ∀ digit ∈ digits, digit.isDigit = true) :
    scan ⟨done, .number read⟩ digits = ⟨done, .number (digits.reverse ++ read)⟩ := by
  induction digits generalizing read with
  | nil => rfl
  | cons digit rest inductionHypothesis =>
    rw [scan_cons, step_number done read (numeric digit List.mem_cons_self),
      inductionHypothesis _ fun later member => numeric later (List.mem_cons_of_mem digit member)]
    simp

/-- A digit between two tokens starts a number. -/
theorem step_digit (done : List Token) {digit : Char} (numeric : digit.isDigit = true) :
    step ⟨done, .between⟩ digit = ⟨done, .number [digit]⟩ := by
  have other : ∀ char : Char, char.isDigit = false → digit ≠ char := fun char plain same => by
    rw [same, plain] at numeric
    exact absurd numeric Bool.false_ne_true
  have solid : isBlank digit = false := by
    simp [isBlank, isNewline, other ' ' rfl, other '\t' rfl, other '\n' rfl, other '\r' rfl,
      other (Char.ofNat 12) rfl]
  have letterless : isLetter digit = false := by
    have bounds := Char.isDigit_iff_toNat.mp numeric
    simp only [isLetter, Char.isAlpha, Char.isUpper, Char.isLower, other '_' rfl, decide_false,
      Bool.or_false, Bool.or_eq_false_iff, decide_eq_false_iff_not, Bool.and_eq_false_iff,
      ge_iff_le, UInt32.le_iff_toNat_le]
    have low : digit.toNat ≤ 57 := bounds.2
    have upper : 'A'.val.toNat = 65 := rfl
    have lower : 'a'.val.toNat = 97 := rfl
    have same : digit.val.toNat = digit.toNat := rfl
    omega
  rw [step, start, if_neg (other '\'' rfl), if_neg (other '"' rfl), if_neg (by rw [solid]; nofun),
    if_neg (by rw [letterless]; nofun), if_pos numeric]

/-- Digits between two tokens are a number. -/
theorem scan_digits (done : List Token) {digits : List Char} (nonempty : digits ≠ [])
    (numeric : ∀ digit ∈ digits, digit.isDigit = true) :
    scan ⟨done, .between⟩ digits = ⟨done, .number digits.reverse⟩ := by
  obtain ⟨digit, rest, rfl⟩ := List.exists_cons_of_ne_nil nonempty
  rw [scan_cons, step_digit done (numeric digit List.mem_cons_self),
    scan_number done [digit] rest fun later member => numeric later (List.mem_cons_of_mem digit member),
    List.reverse_cons]

/-! ## What the tokens need -/

/-- The quotes in a text. -/
def quotes (text : List Char) : Nat := text.count '\''

/-- The quotes that a token was written with, at least. -/
def Token.needs : Token → Nat
  | .literal text => 2 + 2 * quotes text
  | _ => 0

/-- The quotes that the unfinished token was written with so far, at least. -/
def Mode.needs : Mode → Nat
  | .literal read => 1 + 2 * quotes read
  | .closed read | .gap read _ | .gapDash read | .gapComment read => 2 + 2 * quotes read
  | _ => 0

/-- The quotes that were needed so far, at least. -/
def State.needs (state : State) : Nat := (state.done.map Token.needs).sum + state.mode.needs

@[simp] theorem quotes_reverse (text : List Char) : quotes text.reverse = quotes text :=
  List.count_reverse

@[simp] theorem quotes_nil : quotes [] = 0 := rfl

@[simp] theorem quotes_quote : quotes ['\''] = 1 := rfl

theorem quotes_cons (char : Char) (rest : List Char) :
    quotes (char :: rest) = quotes rest + quotes [char] := by
  simp [quotes, List.count_cons]

theorem quotes_append (first second : List Char) :
    quotes (first ++ second) = quotes first + quotes second := List.count_append

theorem quotes_eq_zero {text : List Char} : quotes text = 0 ↔ '\'' ∉ text := List.count_eq_zero

/-- A token that starts needs its quote only. -/
theorem start_needs (done : List Token) (char : Char) :
    (start done char).needs ≤
      (done.map Token.needs).sum + quotes [char] := by
  unfold start
  split_ifs with quote
  · rw [quote]
    exact Nat.le_refl _
  all_goals
    simp only [State.needs, Mode.needs, Token.needs, List.map_cons, List.sum_cons]
    omega

/-- A character that changes the mode only pays for what the new mode needs more. -/
theorem keep_needs {done : List Token} {mode next : Mode} {char : Char}
    (paid : next.needs ≤ mode.needs + quotes [char]) :
    State.needs ⟨done, next⟩ ≤ State.needs ⟨done, mode⟩ + quotes [char] := by
  simp only [State.needs]
  omega

/-- A character that finishes a token pays for the next one, if the mode has paid for
the finished one. -/
theorem settle_needs {done : List Token} {token : Token} {mode : Mode} {char : Char}
    (paid : token.needs ≤ mode.needs) :
    (start (token :: done) char).needs ≤
      State.needs ⟨done, mode⟩ + quotes [char] := by
  have started := start_needs (token :: done) char
  simp only [List.map_cons, List.sum_cons, State.needs] at started ⊢
  omega

/-- One character pays for what it adds, by cases on the mode. -/
theorem step_needs (state : State) (char : Char) :
    (step state char).needs ≤ state.needs + quotes [char] := by
  obtain ⟨done, mode⟩ := state
  have reversed : ∀ read : List Char,
      (Token.literal read.reverse).needs = 2 + 2 * quotes read := fun read => by
    rw [Token.needs, quotes_reverse]
  cases mode with
  | between => exact start_needs done char
  | literal read =>
    simp only [step]
    split_ifs with quote
    · refine keep_needs ?_
      simp only [Mode.needs, quote, quotes_quote]
      omega
    · refine keep_needs ?_
      have none : quotes [char] = 0 :=
        quotes_eq_zero.mpr fun member => quote (List.mem_singleton.mp member).symm
      rw [Mode.needs, Mode.needs, quotes_cons]
      omega
  | closed read =>
    simp only [step]
    split_ifs with quote
    · refine keep_needs ?_
      rw [Mode.needs, Mode.needs, quotes_cons, quote, quotes_quote]
      omega
    · refine keep_needs ?_
      simp only [Mode.needs]
      omega
    · refine keep_needs ?_
      simp only [Mode.needs]
      omega
    · exact settle_needs (Nat.le_of_eq (reversed read))
  | gap read newline =>
    simp only [step]
    split_ifs with quote
    · refine keep_needs ?_
      simp only [Mode.needs]
      omega
    · exact settle_needs (Nat.le_of_eq (reversed read))
    · refine keep_needs ?_
      simp only [Mode.needs]
      omega
    · refine keep_needs ?_
      simp only [Mode.needs]
      omega
    · exact settle_needs (Nat.le_of_eq (reversed read))
  | gapDash read =>
    simp only [step]
    split_ifs
    · refine keep_needs ?_
      simp only [Mode.needs]
      omega
    · have started := start_needs (.symbol '-' :: .literal read.reverse :: done) char
      have paid := reversed read
      simp only [List.map_cons, List.sum_cons, State.needs, Mode.needs, Token.needs,
        quotes_reverse] at started ⊢
      omega
  | gapComment read =>
    simp only [step]
    split_ifs <;> exact keep_needs (Nat.le_add_right _ _)
  | blockStar depth =>
    cases depth <;> simp only [step] <;> split_ifs <;> exact keep_needs (Nat.zero_le _)
  | escape read => exact keep_needs (Nat.zero_le _)
  | dollarBody tag read =>
    simp only [step]
    split_ifs
    · simp [State.needs, Mode.needs, Token.needs]
    · exact keep_needs (Nat.zero_le _)
  | _ =>
    simp only [step]
    split_ifs
    all_goals first | with_reducible refine keep_needs ?_ | with_reducible refine settle_needs ?_
    all_goals exact Nat.zero_le _

/-- A text pays for what it adds, by induction on its characters. -/
theorem scan_needs (state : State) (text : List Char) :
    (scan state text).needs ≤ state.needs + quotes text := by
  induction text generalizing state with
  | nil => exact Nat.le_refl _
  | cons char rest inductionHypothesis =>
    have paid := step_needs state char
    have later := inductionHypothesis (step state char)
    rw [scan_cons, quotes_cons]
    omega

/-- The end of the text finishes a token that was paid for. -/
theorem finish_needs {state : State} {tokens : List Token} (finished : finish state = some tokens) :
    (tokens.map Token.needs).sum ≤ state.needs := by
  obtain ⟨done, mode⟩ := state
  cases mode <;> simp only [finish, Option.some.injEq, reduceCtorEq] at finished <;>
    subst finished <;>
    simp [State.needs, Mode.needs, Token.needs, Nat.add_comm]

/-- The quotes in a text are enough for its tokens. -/
theorem lex_needs {text : List Char} {tokens : List Token} (read : lex text = some tokens) :
    (tokens.map Token.needs).sum ≤ quotes text := by
  have scanned := scan_needs ⟨[], .between⟩ text
  have finished := finish_needs read
  have nothing : State.needs ⟨[], .between⟩ = 0 := rfl
  omega

end Palette.Foundation.SqlText
