import Mathlib.Data.List.TakeWhile

/-!
# Strings and numbers of JSON

A JSON text is a list of bytes, and a string of it is a list of code points that are encoded
as UTF-8. A string is written with escapes for quotes, backslashes and control characters
only, and it is read as what was written if and only if its bytes are UTF-8.

A number is kept as the text that it is written by. It ends where a character follows that no
number goes on with.
-/

namespace Palette.Foundation.Json

/-- The code of a character of ASCII. -/
def code (char : Char) : Nat := char.toNat

/-- The codes of a text of ASCII. -/
def codes (text : String) : List Nat := text.toList.map code

/-! ## UTF-8 -/

/-- The code points of bytes, if so many bytes of a character are still owed and the next one
is within bounds. The point is what the bytes before have contributed. Surrogates are let
through. -/
def utf8From : Nat → Nat → Nat → Nat → List Nat → Option (List Nat)
  | 0, _, _, _, [] => some []
  | _ + 1, _, _, _, [] => none
  | 0, _, _, _, byte :: rest =>
    if byte < 0x80 then (utf8From 0 0x80 0xBF 0 rest).map (byte :: ·)
    else if 0xC2 ≤ byte ∧ byte ≤ 0xDF then utf8From 1 0x80 0xBF (byte - 0xC0) rest
    else if byte = 0xE0 then utf8From 2 0xA0 0xBF 0 rest
    else if 0xE1 ≤ byte ∧ byte ≤ 0xEF then utf8From 2 0x80 0xBF (byte - 0xE0) rest
    else if byte = 0xF0 then utf8From 3 0x90 0xBF 0 rest
    else if 0xF1 ≤ byte ∧ byte ≤ 0xF3 then utf8From 3 0x80 0xBF (byte - 0xF0) rest
    else if byte = 0xF4 then utf8From 3 0x80 0x8F 4 rest
    else none
  | owed + 1, low, high, point, byte :: rest =>
    if low ≤ byte ∧ byte ≤ high then
      let point := point * 64 + (byte - 0x80)
      if owed = 0 then (utf8From 0 0x80 0xBF 0 rest).map (point :: ·)
      else utf8From owed 0x80 0xBF point rest
    else none

/-- `bytes.decode('utf-8')`. -/
def utf8 (bytes : List Nat) : Option (List Nat) := utf8From 0 0x80 0xBF 0 bytes

example : utf8 [0x61, 0xC3, 0xA9, 0xE2, 0x82, 0xAC] = some [0x61, 0xE9, 0x20AC] := by decide

/-- Between characters the other arguments do not matter. -/
theorem utf8From_zero (low high point : Nat) (bytes : List Nat) :
    utf8From 0 low high point bytes = utf8 bytes := by
  cases bytes <;> rfl

/-- A byte of ASCII is a character, and it ends none. -/
theorem utf8From_split (owed low high point : Nat) (before : List Nat) {byte : Nat}
    (rest : List Nat) (ascii : byte < 0x80) (bound : 0x80 ≤ low) :
    utf8From owed low high point (before ++ byte :: rest) =
      (utf8From owed low high point before).bind fun points =>
        (utf8 rest).map fun more => points ++ byte :: more := by
  induction before generalizing owed low high point with
  | nil =>
    cases owed with
    | zero =>
      simp only [List.nil_append, utf8From, ascii, ite_true, Option.bind_some]
      rfl
    | succ owed =>
      have outside : ¬(low ≤ byte ∧ byte ≤ high) := by omega
      simp [utf8From, outside]
  | cons first more inductionHypothesis =>
    have push (head : Nat) (result : Option (List Nat)) :
        (result.bind fun points => (utf8 rest).map fun more => points ++ byte :: more).map
            (head :: ·) =
          (result.map (head :: ·)).bind fun points =>
            (utf8 rest).map fun more => points ++ byte :: more := by
      cases result with
      | none => rfl
      | some points => cases utf8 rest <;> rfl
    cases owed with
    | zero =>
      simp only [List.cons_append, utf8From]
      split_ifs
      · rw [inductionHypothesis _ _ _ _ (by decide), push]
      · exact inductionHypothesis _ _ _ _ (by decide)
      · exact inductionHypothesis _ _ _ _ (by decide)
      · exact inductionHypothesis _ _ _ _ (by decide)
      · exact inductionHypothesis _ _ _ _ (by decide)
      · exact inductionHypothesis _ _ _ _ (by decide)
      · exact inductionHypothesis _ _ _ _ (by decide)
      · rfl
    | succ owed =>
      simp only [List.cons_append, utf8From]
      split_ifs
      · rw [inductionHypothesis _ _ _ _ (by decide), push]
      · exact inductionHypothesis _ _ _ _ (by decide)
      · rfl

/-- A byte of ASCII is decoded by itself. -/
theorem utf8_split (before : List Nat) {byte : Nat} (rest : List Nat) (ascii : byte < 0x80) :
    utf8 (before ++ byte :: rest) =
      (utf8 before).bind fun points => (utf8 rest).map fun more => points ++ byte :: more :=
  utf8From_split 0 0x80 0xBF 0 before rest ascii (by decide)

/-- A text of ASCII is decoded as itself. -/
theorem utf8_of_ascii {bytes : List Nat} (ascii : ∀ byte ∈ bytes, byte < 0x80) :
    utf8 bytes = some bytes := by
  induction bytes with
  | nil => rfl
  | cons byte rest inductionHypothesis =>
    obtain ⟨first, remaining⟩ := List.forall_mem_cons.mp ascii
    have split := utf8_split [] rest first
    rw [List.nil_append, inductionHypothesis remaining] at split
    exact split

/-- What the bytes of a character that is not ASCII have contributed so far. -/
def Contributes : Nat → Nat → Nat → Prop
  | 1, _, point => 2 ≤ point
  | 2, low, point => 1 ≤ point ∨ 0xA0 ≤ low
  | 3, low, point => 1 ≤ point ∨ 0x90 ≤ low
  | _, _, _ => False

/-- A character of several bytes is not ASCII. -/
theorem utf8From_large {owed low high point : Nat} {bytes points : List Nat}
    (contributes : Contributes owed low point)
    (decoded : utf8From owed low high point bytes = some points) :
    ∃ large more, points = large :: more ∧ 0x80 ≤ large := by
  induction bytes generalizing owed low high point with
  | nil =>
    cases owed with
    | zero => cases contributes
    | succ owed => cases decoded
  | cons byte rest inductionHypothesis =>
    cases owed with
    | zero => cases contributes
    | succ owed =>
      simp only [utf8From] at decoded
      split_ifs at decoded with within last
      · obtain ⟨more, -, rfl⟩ := Option.map_eq_some_iff.mp decoded
        subst last
        have enough : 2 ≤ point := contributes
        exact ⟨_, more, rfl, by omega⟩
      · refine inductionHypothesis ?_ decoded
        match owed, contributes, last with
        | 1, contributes, _ =>
          have enough : 1 ≤ point ∨ 0xA0 ≤ low := contributes
          change 2 ≤ point * 64 + (byte - 0x80)
          omega
        | 2, contributes, _ =>
          have enough : 1 ≤ point ∨ 0x90 ≤ low := contributes
          change 1 ≤ point * 64 + (byte - 0x80) ∨ 0xA0 ≤ 0x80
          omega

/-- Bytes are a text of ASCII if they are decoded to one. -/
theorem utf8_ascii {bytes points : List Nat} (decoded : utf8 bytes = some points)
    (ascii : ∀ point ∈ points, point < 0x80) : bytes = points := by
  induction bytes generalizing points with
  | nil => exact Option.some.inj decoded
  | cons byte rest inductionHypothesis =>
    have notLarge {owed low high point : Nat}
        (later : utf8From owed low high point rest = some points)
        (contributes : Contributes owed low point) : byte :: rest = points := by
      obtain ⟨large, more, rfl, bound⟩ := utf8From_large contributes later
      have small := ascii large List.mem_cons_self
      omega
    simp only [utf8, utf8From] at decoded
    split_ifs at decoded with small two three threes four fours last
    · obtain ⟨more, later, rfl⟩ := Option.map_eq_some_iff.mp decoded
      rw [inductionHypothesis later fun point member => ascii point (List.mem_cons_of_mem _ member)]
    · exact notLarge decoded (show 2 ≤ byte - 0xC0 by omega)
    · exact notLarge decoded (show 1 ≤ 0 ∨ 0xA0 ≤ 0xA0 by omega)
    · exact notLarge decoded (show 1 ≤ byte - 0xE0 ∨ 0xA0 ≤ 0x80 by omega)
    · exact notLarge decoded (show 1 ≤ 0 ∨ 0x90 ≤ 0x90 by omega)
    · exact notLarge decoded (show 1 ≤ byte - 0xF0 ∨ 0x90 ≤ 0x80 by omega)
    · exact notLarge decoded (show 1 ≤ 4 ∨ 0x90 ≤ 0x80 by omega)

/-! ## Strings -/

/-- The quotation mark. -/
abbrev quote : Nat := code '"'

/-- The character in front of an escape. -/
abbrev backslash : Nat := code '\\'

/-- The value of a hexadecimal digit. -/
def hexValue (digit : Nat) : Option Nat :=
  if code '0' ≤ digit ∧ digit ≤ code '9' then some (digit - code '0')
  else if code 'a' ≤ digit ∧ digit ≤ code 'f' then some (digit - code 'a' + 10)
  else if code 'A' ≤ digit ∧ digit ≤ code 'F' then some (digit - code 'A' + 10)
  else none

/-- The value of four hexadecimal digits. -/
def hex4 (first second third fourth : Nat) : Option Nat :=
  match hexValue first, hexValue second, hexValue third, hexValue fourth with
  | some a, some b, some c, some d => some (((a * 16 + b) * 16 + c) * 16 + d)
  | _, _, _, _ => none

/-- The character that an escape of one letter stands for. -/
def unescape (mark : Nat) : Option Nat :=
  if mark = quote then some quote
  else if mark = backslash then some backslash
  else if mark = code '/' then some (code '/')
  else if mark = code 'b' then some 0x08
  else if mark = code 'f' then some 0x0C
  else if mark = code 'n' then some 0x0A
  else if mark = code 'r' then some 0x0D
  else if mark = code 't' then some 0x09
  else none

/-- The code points up to the closing quote, and what follows it. The chunk is what was taken
since the last escape, which is decoded at once. -/
def string (chunk : List Nat) : List Nat → Option (List Nat × List Nat)
  | [] => none
  | byte :: rest =>
    if byte = quote then (utf8 chunk).map fun points => (points, rest)
    else if byte = backslash then
      match rest with
      | [] => none
      | mark :: rest =>
        if mark = code 'u' then
          match rest with
          | first :: second :: third :: fourth :: rest =>
            match utf8 chunk, hex4 first second third fourth, string [] rest with
            | some before, some point, some (after, rest) => some (before ++ point :: after, rest)
            | _, _, _ => none
          | _ => none
        else
          match utf8 chunk, unescape mark, string [] rest with
          | some before, some point, some (after, rest) => some (before ++ point :: after, rest)
          | _, _, _ => none
    else if byte < 0x20 then none
    else string (chunk ++ [byte]) rest

/-- The hexadecimal digit for a value below sixteen. -/
def hexDigit (value : Nat) : Nat := if value < 10 then code '0' + value else code 'a' + (value - 10)

/-- How a byte or a code point is written. -/
def escape (point : Nat) : List Nat :=
  if point = quote then [backslash, quote]
  else if point = backslash then [backslash, backslash]
  else if point = 0x08 then [backslash, code 'b']
  else if point = 0x0C then [backslash, code 'f']
  else if point = 0x0A then [backslash, code 'n']
  else if point = 0x0D then [backslash, code 'r']
  else if point = 0x09 then [backslash, code 't']
  else if point < 0x20 then
    [backslash, code 'u', code '0', code '0', hexDigit (point / 16), hexDigit (point % 16)]
  else [point]

/-- A string as it is written. -/
def quoted (points : List Nat) : List Nat := quote :: points.flatMap escape ++ [quote]

/-- A digit is read as its value. -/
theorem hexValue_hexDigit {value : Nat} (small : value < 16) :
    hexValue (hexDigit value) = some value := by
  have all : ∀ value < 16, hexValue (hexDigit value) = some value := by decide
  exact all value small

/-- The characters that are written with a backslash. -/
def isSpecial (point : Nat) : Bool := point = quote || point = backslash || point < 0x20

/-- The other characters are written as they are. -/
theorem escape_of_not_special {point : Nat} (plain : isSpecial point = false) :
    escape point = [point] := by
  simp only [isSpecial, Bool.or_eq_false_iff, decide_eq_false_iff_not] at plain
  obtain ⟨⟨notQuote, notBackslash⟩, printable⟩ := plain
  have notControl (control : Nat) (below : control < 0x20) : point ≠ control := by omega
  simp [escape, notQuote, notBackslash, printable, notControl]

/-- No control character is written. -/
theorem escape_printable (point : Nat) : ∀ byte ∈ escape point, 0x20 ≤ byte := by
  have digit (value : Nat) : 0x20 ≤ hexDigit value := by
    have values : code '0' = 48 ∧ code 'a' = 97 := by decide
    unfold hexDigit
    split <;> omega
  have letters : ∀ letter ∈ [quote, backslash, code 'b', code 'f', code 'n', code 'r', code 't',
      code 'u', code '0'], 0x20 ≤ letter := by decide
  simp only [List.forall_mem_cons] at letters
  unfold escape
  split_ifs <;> simp [letters, digit]
  omega

/-- A character of ASCII is written in ASCII. -/
theorem escape_ascii {point : Nat} (ascii : point < 0x80) : ∀ byte ∈ escape point, byte < 0x80 := by
  have digit (value : Nat) (small : value < 16) : hexDigit value < 0x80 := by
    have all : ∀ value < 16, hexDigit value < 0x80 := by decide
    exact all value small
  have letters : ∀ letter ∈ [quote, backslash, code 'b', code 'f', code 'n', code 'r', code 't',
      code 'u', code '0'], letter < 0x80 := by decide
  simp only [List.forall_mem_cons] at letters
  unfold escape
  split_ifs with _ _ _ _ _ _ _ control
  all_goals simp only [List.forall_mem_cons, letters, true_and]
  all_goals try exact fun byte member => absurd member List.not_mem_nil
  · exact ⟨digit _ (by omega), digit _ (by omega), fun byte member =>
      absurd member List.not_mem_nil⟩
  · exact ⟨ascii, fun byte member => absurd member List.not_mem_nil⟩

/-- Characters that are written as they are. -/
theorem flatMap_escape {points : List Nat} (plain : ∀ point ∈ points, isSpecial point = false) :
    points.flatMap escape = points := by
  induction points with
  | nil => rfl
  | cons point more inductionHypothesis =>
    obtain ⟨first, others⟩ := List.forall_mem_cons.mp plain
    rw [List.flatMap_cons, escape_of_not_special first, inductionHypothesis others,
      List.singleton_append]

/-- A character that is written as it is belongs to the chunk. -/
theorem string_of_not_special (chunk : List Nat) {point : Nat} (rest : List Nat)
    (plain : isSpecial point = false) :
    string chunk (point :: rest) = string (chunk ++ [point]) rest := by
  simp only [isSpecial, Bool.or_eq_false_iff, decide_eq_false_iff_not] at plain
  obtain ⟨⟨notQuote, notBackslash⟩, printable⟩ := plain
  rw [string.eq_def]
  simp [notQuote, notBackslash, printable]

/-- An escape of one letter ends the chunk. -/
theorem string_mark (chunk : List Nat) {mark point : Nat} (rest : List Nat)
    (notUnicode : mark ≠ code 'u') (means : unescape mark = some point) :
    string chunk (backslash :: mark :: rest) = (utf8 chunk).bind fun before =>
      (string [] rest).map fun after => (before ++ point :: after.1, after.2) := by
  have notQuote : backslash ≠ quote := by decide
  rw [string.eq_def]
  simp only [notQuote, notUnicode, means, ite_true, ite_false]
  cases utf8 chunk with
  | none => rfl
  | some before => cases string [] rest <;> rfl

/-- An escape of a number ends the chunk. -/
theorem string_hex (chunk : List Nat) {first second third fourth point : Nat} (rest : List Nat)
    (means : hex4 first second third fourth = some point) :
    string chunk (backslash :: code 'u' :: first :: second :: third :: fourth :: rest) =
      (utf8 chunk).bind fun before =>
        (string [] rest).map fun after => (before ++ point :: after.1, after.2) := by
  have notQuote : backslash ≠ quote := by decide
  rw [string.eq_def]
  simp only [notQuote, means, ite_true, ite_false]
  cases utf8 chunk with
  | none => rfl
  | some before => cases string [] rest <;> rfl

/-- A character that is escaped is read as itself and ends the chunk. -/
theorem string_of_special (chunk : List Nat) {point : Nat} (rest : List Nat)
    (special : isSpecial point = true) :
    string chunk (escape point ++ rest) = (utf8 chunk).bind fun before =>
      (string [] rest).map fun after => (before ++ point :: after.1, after.2) := by
  unfold escape
  split_ifs with isQuote isBackslash backspace feed newline return_ tab control
  · subst isQuote
    exact string_mark chunk rest (by decide) rfl
  · subst isBackslash
    exact string_mark chunk rest (by decide) rfl
  · subst backspace
    exact string_mark chunk rest (by decide) rfl
  · subst feed
    exact string_mark chunk rest (by decide) rfl
  · subst newline
    exact string_mark chunk rest (by decide) rfl
  · subst return_
    exact string_mark chunk rest (by decide) rfl
  · subst tab
    exact string_mark chunk rest (by decide) rfl
  · refine string_hex chunk rest ?_
    have zero : hexValue (code '0') = some 0 := by decide
    simp only [hex4, zero, hexValue_hexDigit (show point / 16 < 16 by omega),
      hexValue_hexDigit (show point % 16 < 16 by omega), Option.some.injEq]
    omega
  · simp [isSpecial, isQuote, isBackslash, control] at special

/-- What was written is read up to the closing quote if it is UTF-8. -/
theorem string_written (chunk points rest : List Nat) :
    string chunk (points.flatMap escape ++ quote :: rest) =
      (utf8 (chunk ++ points)).map fun read => (read, rest) := by
  induction points generalizing chunk with
  | nil =>
    rw [List.flatMap_nil, List.nil_append, List.append_nil, string.eq_def]
    simp
  | cons point more inductionHypothesis =>
    rw [List.flatMap_cons, List.append_assoc]
    by_cases special : isSpecial point = true
    · have ascii : point < 0x80 := by
        simp only [isSpecial, Bool.or_eq_true, decide_eq_true_eq] at special
        have small : quote < 0x80 ∧ backslash < 0x80 := by decide
        omega
      rw [string_of_special chunk _ special, inductionHypothesis, utf8_split chunk more ascii,
        List.nil_append]
      cases utf8 chunk with
      | none => rfl
      | some before => cases utf8 more <;> rfl
    · rw [Bool.not_eq_true] at special
      rw [escape_of_not_special special, List.singleton_append,
        string_of_not_special chunk _ special, inductionHypothesis, List.append_assoc,
        List.singleton_append]

/-! ## Numbers -/

/-- The digits. -/
def isDigit (byte : Nat) : Bool := code '0' ≤ byte && byte ≤ code '9'

/-- A whole number without sign and what follows it. -/
def digits : List Nat → Option (List Nat × List Nat)
  | [] => none
  | byte :: rest =>
    if byte = code '0' then some ([byte], rest)
    else if isDigit byte then some (byte :: rest.takeWhile isDigit, rest.dropWhile isDigit)
    else none

/-- A whole number and what follows it. -/
def integer : List Nat → Option (List Nat × List Nat)
  | [] => none
  | byte :: rest =>
    if byte = code '-' then (digits rest).map fun found => (byte :: found.1, found.2)
    else digits (byte :: rest)

/-- The digits after a point, if there are any. -/
def fraction : List Nat → List Nat × List Nat
  | point :: digit :: rest =>
    if point = code '.' ∧ isDigit digit then
      (point :: digit :: rest.takeWhile isDigit, rest.dropWhile isDigit)
    else ([], point :: digit :: rest)
  | rest => ([], rest)

/-- The mark of an exponent. -/
def isExponent (byte : Nat) : Bool := byte = code 'e' || byte = code 'E'

/-- A sign. -/
def isSign (byte : Nat) : Bool := byte = code '+' || byte = code '-'

/-- The exponent, if there is one. -/
def exponent : List Nat → List Nat × List Nat
  | mark :: sign :: digit :: rest =>
    if isExponent mark ∧ isSign sign ∧ isDigit digit then
      (mark :: sign :: digit :: rest.takeWhile isDigit, rest.dropWhile isDigit)
    else if isExponent mark ∧ isDigit sign then
      (mark :: sign :: (digit :: rest).takeWhile isDigit, (digit :: rest).dropWhile isDigit)
    else ([], mark :: sign :: digit :: rest)
  | [mark, digit] =>
    if isExponent mark ∧ isDigit digit then ([mark, digit], []) else ([], [mark, digit])
  | rest => ([], rest)

/-- A number and what follows it. -/
def number (input : List Nat) : Option (List Nat × List Nat) :=
  (integer input).map fun whole =>
    (whole.1 ++ (fraction whole.2).1 ++ (exponent (fraction whole.2).2).1,
      (exponent (fraction whole.2).2).2)

example : number (codes "-1.50e+16, 2") = some (codes "-1.50e+16", codes ", 2") := by decide

/-- The bytes that go on with a number. -/
def isNumeric (byte : Nat) : Bool :=
  isDigit byte || byte = code '.' || isExponent byte || isSign byte

/-- What follows does not go on with a number. -/
def Ends (rest : List Nat) : Prop := ∀ byte ∈ rest.head?, isNumeric byte = false

theorem ends_nil : Ends [] := by simp [Ends]

theorem ends_cons {byte : Nat} {rest : List Nat} :
    Ends (byte :: rest) ↔ isDigit byte = false ∧ byte ≠ code '.' ∧ isExponent byte = false ∧
      isSign byte = false := by
  simp [Ends, isNumeric, and_assoc]

/-- Digits end before what does not go on with them. -/
theorem digits_ends (text : List Nat) {rest : List Nat} (ends : Ends rest) :
    (text ++ rest).takeWhile isDigit = text.takeWhile isDigit ∧
      (text ++ rest).dropWhile isDigit = text.dropWhile isDigit ++ rest := by
  induction text with
  | nil =>
    cases rest with
    | nil => exact ⟨rfl, rfl⟩
    | cons byte more => simp [(ends_cons.mp ends).1]
  | cons digit more inductionHypothesis =>
    cases found : isDigit digit with
    | true => simp [found, inductionHypothesis]
    | false => simp [found]

theorem digits_append {text whole left rest : List Nat} (ends : Ends rest)
    (found : digits text = some (whole, left)) :
    digits (text ++ rest) = some (whole, left ++ rest) := by
  cases text with
  | nil => simp [digits] at found
  | cons byte more =>
    simp only [List.cons_append, digits] at found ⊢
    split_ifs at found ⊢ with zero digit
    · obtain ⟨rfl, rfl⟩ := Prod.mk.inj (Option.some.inj found)
      rfl
    · obtain ⟨rfl, rfl⟩ := Prod.mk.inj (Option.some.inj found)
      rw [(digits_ends more ends).1, (digits_ends more ends).2]

theorem integer_append {text whole left rest : List Nat} (ends : Ends rest)
    (found : integer text = some (whole, left)) :
    integer (text ++ rest) = some (whole, left ++ rest) := by
  cases text with
  | nil => simp [integer] at found
  | cons byte more =>
    simp only [List.cons_append, integer] at found ⊢
    split_ifs at found ⊢ with minus
    · obtain ⟨⟨inner, remaining⟩, read, same⟩ := Option.map_eq_some_iff.mp found
      obtain ⟨rfl, rfl⟩ := Prod.mk.inj same
      rw [digits_append ends read]
      rfl
    · exact digits_append ends found

theorem fraction_append (text : List Nat) {rest : List Nat} (ends : Ends rest) :
    fraction (text ++ rest) = ((fraction text).1, (fraction text).2 ++ rest) := by
  match text with
  | [] =>
    match rest with
    | [] => rfl
    | [byte] => rfl
    | byte :: next :: more => simp [fraction, (ends_cons.mp ends).2.1]
  | [point] =>
    match rest with
    | [] => rfl
    | byte :: more => simp [fraction, (ends_cons.mp ends).1]
  | point :: digit :: more =>
    simp only [List.cons_append, fraction]
    split_ifs
    · rw [(digits_ends more ends).1, (digits_ends more ends).2]
    · rfl

theorem exponent_append (text : List Nat) {rest : List Nat} (ends : Ends rest) :
    exponent (text ++ rest) = ((exponent text).1, (exponent text).2 ++ rest) := by
  match text with
  | [] =>
    match rest with
    | [] => rfl
    | [byte] => rfl
    | [byte, next] => simp [exponent, (ends_cons.mp ends).2.2.1]
    | byte :: next :: third :: more => simp [exponent, (ends_cons.mp ends).2.2.1]
  | [mark] =>
    match rest with
    | [] => rfl
    | [byte] => simp [exponent, (ends_cons.mp ends).1]
    | byte :: next :: more =>
      simp [exponent, (ends_cons.mp ends).1, (ends_cons.mp ends).2.2.2]
  | [mark, digit] =>
    match rest with
    | [] => simp [exponent]
    | byte :: more =>
      have none := (ends_cons.mp ends).1
      simp only [List.cons_append, List.nil_append, exponent, none]
      by_cases found : isExponent mark = true ∧ isDigit digit = true
      · simp [found, none]
      · simp [found]
  | mark :: sign :: digit :: more =>
    simp only [List.cons_append, exponent]
    have after := digits_ends (digit :: more) ends
    rw [List.cons_append] at after
    split_ifs
    · rw [(digits_ends more ends).1, (digits_ends more ends).2]
    · rw [after.1, after.2]
    · rfl

/-- A number ends before what does not go on with it. -/
theorem number_append {text literal left rest : List Nat} (ends : Ends rest)
    (found : number text = some (literal, left)) :
    number (text ++ rest) = some (literal, left ++ rest) := by
  obtain ⟨⟨whole, remaining⟩, read, same⟩ := Option.map_eq_some_iff.mp found
  obtain ⟨rfl, rfl⟩ := Prod.mk.inj same
  rw [number, integer_append ends read]
  simp only [Option.map_some, fraction_append _ ends, exponent_append _ ends]

/-- A number begins with a digit or with a sign and a digit. -/
theorem number_head {text literal left : List Nat} (found : number text = some (literal, left)) :
    ∃ head rest, text = head :: rest ∧ (isDigit head = true ∨
      head = code '-' ∧ ∃ next more, rest = next :: more ∧ isDigit next = true) := by
  have digits_head {text : List Nat} {found : List Nat × List Nat}
      (read : digits text = some found) :
      ∃ head rest, text = head :: rest ∧ isDigit head = true := by
    cases text with
    | nil => simp [digits] at read
    | cons byte more =>
      refine ⟨byte, more, rfl, ?_⟩
      simp only [digits] at read
      split_ifs at read with zero digit
      · rw [zero]
        decide
      · exact digit
  obtain ⟨whole, read, -⟩ := Option.map_eq_some_iff.mp found
  cases text with
  | nil => simp [integer] at read
  | cons byte more =>
    simp only [integer] at read
    split_ifs at read with minus
    · obtain ⟨inner, readDigits, -⟩ := Option.map_eq_some_iff.mp read
      obtain ⟨next, others, rfl, digit⟩ := digits_head readDigits
      exact ⟨byte, _, rfl, .inr ⟨minus, next, others, rfl, digit⟩⟩
    · obtain ⟨head, rest, same, digit⟩ := digits_head read
      exact ⟨head, rest, same, .inl digit⟩

theorem isNumeric_of_digit {byte : Nat} (digit : isDigit byte = true) : isNumeric byte = true := by
  simp [isNumeric, digit]

/-- Digits are characters of a number. -/
theorem takeWhile_numeric (rest : List Nat) :
    ∀ byte ∈ rest.takeWhile isDigit, isNumeric byte = true :=
  fun _ member => isNumeric_of_digit (List.mem_takeWhile_imp member)

theorem digits_numeric {text : List Nat} {found : List Nat × List Nat}
    (read : digits text = some found) : ∀ byte ∈ found.1, isNumeric byte = true := by
  cases text with
  | nil => simp [digits] at read
  | cons head rest =>
    simp only [digits] at read
    split_ifs at read with zero digit
    · obtain rfl := Option.some.inj read
      simp only [List.mem_singleton, forall_eq, zero]
      decide
    · obtain rfl := Option.some.inj read
      exact List.forall_mem_cons.mpr ⟨isNumeric_of_digit digit, takeWhile_numeric rest⟩

theorem integer_numeric {text : List Nat} {found : List Nat × List Nat}
    (read : integer text = some found) : ∀ byte ∈ found.1, isNumeric byte = true := by
  cases text with
  | nil => simp [integer] at read
  | cons head rest =>
    simp only [integer] at read
    split_ifs at read with minus
    · obtain ⟨inner, readDigits, rfl⟩ := Option.map_eq_some_iff.mp read
      refine List.forall_mem_cons.mpr ⟨?_, digits_numeric readDigits⟩
      rw [minus]
      decide
    · exact digits_numeric read

theorem fraction_numeric (text : List Nat) :
    ∀ byte ∈ (fraction text).1, isNumeric byte = true := by
  match text with
  | [] => simp [fraction]
  | [point] => simp [fraction]
  | point :: digit :: rest =>
    simp only [fraction]
    split_ifs with both
    · refine List.forall_mem_cons.mpr ⟨by simp [isNumeric, both.1], ?_⟩
      exact List.forall_mem_cons.mpr ⟨isNumeric_of_digit both.2, takeWhile_numeric rest⟩
    · exact fun byte member => absurd member List.not_mem_nil

theorem exponent_numeric (text : List Nat) :
    ∀ byte ∈ (exponent text).1, isNumeric byte = true := by
  match text with
  | [] => simp [exponent]
  | [mark] => simp [exponent]
  | [mark, digit] =>
    simp only [exponent]
    split_ifs with both
    · simp [isNumeric, both.1, both.2]
    · exact fun byte member => absurd member List.not_mem_nil
  | mark :: sign :: digit :: rest =>
    simp only [exponent]
    split_ifs with all both
    · refine List.forall_mem_cons.mpr ⟨by simp [isNumeric, all.1], ?_⟩
      refine List.forall_mem_cons.mpr ⟨by simp [isNumeric, all.2.1], ?_⟩
      exact List.forall_mem_cons.mpr ⟨isNumeric_of_digit all.2.2, takeWhile_numeric rest⟩
    · refine List.forall_mem_cons.mpr ⟨by simp [isNumeric, both.1], ?_⟩
      exact List.forall_mem_cons.mpr
        ⟨isNumeric_of_digit both.2, takeWhile_numeric (digit :: rest)⟩
    · exact fun byte member => absurd member List.not_mem_nil

/-- The characters of a number are printable characters of ASCII. -/
theorem number_printable {text literal left : List Nat}
    (found : number text = some (literal, left)) : ∀ byte ∈ literal, 0x20 ≤ byte ∧ byte < 0x80 := by
  have printable (byte : Nat) (numeric : isNumeric byte = true) : 0x20 ≤ byte ∧ byte < 0x80 := by
    have values : code '0' = 48 ∧ code '9' = 57 ∧ code '.' = 46 ∧ code 'e' = 101 ∧ code 'E' = 69 ∧
        code '+' = 43 ∧ code '-' = 45 := by decide
    simp only [isNumeric, isDigit, isExponent, isSign, Bool.or_eq_true, Bool.and_eq_true,
      decide_eq_true_eq] at numeric
    omega
  obtain ⟨⟨whole, remaining⟩, read, same⟩ := Option.map_eq_some_iff.mp found
  obtain ⟨rfl, -⟩ := Prod.mk.inj same
  simp only [List.forall_mem_append]
  exact ⟨⟨fun byte member => printable byte (integer_numeric read byte member),
    fun byte member => printable byte (fraction_numeric _ byte member)⟩,
    fun byte member => printable byte (exponent_numeric _ byte member)⟩

end Palette.Foundation.Json
