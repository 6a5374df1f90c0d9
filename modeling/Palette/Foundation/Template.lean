import Mathlib

/-!
# Texts with conversions

A template is a text in which a percent sign begins a directive. A directive may name a key in
parentheses, and then it is about the value under that key; otherwise it is about the values that
the directive before it left, which at the beginning is the whole dictionary. Each value is used
once: by a star, which takes a whole number for a width, or by the conversion at the end.

A template is applied from left to right, and the first directive that cannot be converted ends
it. Whether that one had no value to convert, or one of the wrong kind, or was not well written
or about a missing key, are different kinds of trouble; the first two are a misuse.
-/

namespace Palette.Foundation.Template

/-! ## Directives -/

/-- A directive: the key that it names, the flags and numbers, how many of these are stars, and
the character of the conversion, if the text has got one. -/
structure Directive where
  key : Option (List Char)
  spec : List Char
  stars : Nat
  conversion : Option Char
  deriving DecidableEq, Repr

/-- What a template is made of. -/
inductive Piece where
  | plain (char : Char)
  | directive (directive : Directive)
  | unclosed
  deriving DecidableEq, Repr

/-- The key up to the parenthesis that closes it, and what follows. -/
def closeKey : Nat → List Char → Option (List Char × List Char)
  | _, [] => none
  | depth, char :: rest =>
    if char = ')' ∧ depth = 0 then some ([], rest)
    else
      let inner := if char = ')' then depth - 1 else if char = '(' then depth + 1 else depth
      (closeKey inner rest).map fun found => (char :: found.1, found.2)

/-- The flags. -/
def isFlag (char : Char) : Bool := char ∈ ['-', '+', ' ', '#', '0']

/-- The largest number in a directive. -/
def maxNumber : Nat := 2 ^ 63 - 1

/-- What follows the digits, unless their number is too large. -/
def digits : Nat → List Char → Option (List Char)
  | _, [] => some []
  | value, char :: rest =>
    if char.isDigit then
      let next := 10 * value + (char.toNat - '0'.toNat)
      if maxNumber < next then none else digits next rest
    else some (char :: rest)

/-- A width or a precision: whether it is a star, and what follows. -/
def field : List Char → Option (Nat × List Char)
  | '*' :: rest => some (1, rest)
  | text => (digits 0 text).map (0, ·)

/-- The precision, if there is one. -/
def precision : List Char → Option (Nat × List Char)
  | '.' :: rest => field rest
  | text => some (0, text)

/-- What follows the length, which means nothing. -/
def skipLength : List Char → List Char
  | char :: rest => if char ∈ ['h', 'l', 'L'] then rest else char :: rest
  | [] => []

/-- The directive after a key, and what follows it. A number that is too large ends it. -/
def specify (key : Option (List Char)) (text : List Char) : Directive × List Char :=
  match field (text.dropWhile isFlag) with
  | none => (⟨key, text, 0, none⟩, [])
  | some (width, rest) =>
    match precision rest with
    | none => (⟨key, text, width, none⟩, [])
    | some (precise, rest) =>
      match skipLength rest with
      | [] => (⟨key, text, width + precise, none⟩, [])
      | char :: after =>
        (⟨key, text.take (text.length - after.length - 1), width + precise, some char⟩, after)

/-- The directive after a percent sign, and what follows it. -/
def directive : List Char → Option (Directive × List Char)
  | '(' :: rest => (closeKey 0 rest).map fun found => specify (some found.1) found.2
  | text => some (specify none text)

/-- The pieces of a text after some characters that were read already. -/
def piecesAfter : Nat → List Char → List Piece
  | _, [] => []
  | skipped + 1, _ :: rest => piecesAfter skipped rest
  | 0, char :: rest =>
    if char = '%' then
      match directive rest with
      | none => [.unclosed]
      | some (found, after) => .directive found :: piecesAfter (rest.length - after.length) rest
    else .plain char :: piecesAfter 0 rest

/-- The pieces of a template. -/
def pieces (text : List Char) : List Piece := piecesAfter 0 text

/-! ## Applying a template -/

/-- What goes wrong with a directive. -/
inductive Trouble where
  | key
  | value
  | type
  | overflow
  deriving DecidableEq, Repr

/-- How values are converted: which are whole numbers for a star, what becomes of a value, and
how a text is padded. -/
structure Conversions (Value : Type) where
  whole : Value → Bool
  convert : Directive → Char → Value → Except Trouble (List Char)
  pad : Directive → List Char → List Char

section Apply

variable {Value : Type} (conversions : Conversions Value) (lookup : List Char → Option Value)

/-- The value that a directive is about, if it was not used. -/
def Directive.subject (directive : Directive) (left : Option Value) :
    Except Trouble (Option Value) :=
  match directive.key with
  | none => .ok left
  | some key =>
    match lookup key with
    | none => .error .key
    | some value => .ok (some value)

/-- Stars use values that are whole numbers. -/
def takeStars : Nat → Option Value → Except Trouble (Option Value)
  | 0, left => .ok left
  | _ + 1, none => .error .type
  | stars + 1, some value =>
    if conversions.whole value then takeStars stars none else .error .type

/-- The conversion at the end uses a value, unless it is a percent sign. -/
def Directive.finish (directive : Directive) (left : Option Value) :
    Except Trouble (List Char × Option Value) :=
  match directive.conversion with
  | none => .error .value
  | some char =>
    if char = '%' then .ok (conversions.pad directive ['%'], left)
    else
      match left with
      | none => .error .type
      | some value => (conversions.convert directive char value).map (·, none)

/-- A directive: its text and the value that it leaves. -/
def Directive.apply (directive : Directive) (left : Option Value) :
    Except Trouble (List Char × Option Value) := do
  directive.finish conversions (← takeStars conversions directive.stars
    (← directive.subject lookup left))

/-- A piece: its text and the value that it leaves. -/
def Piece.apply (left : Option Value) : Piece → Except Trouble (List Char × Option Value)
  | .plain char => .ok ([char], left)
  | .directive found => found.apply conversions lookup left
  | .unclosed => .error .value

/-- The text of the pieces. -/
def format : Option Value → List Piece → Except Trouble (List Char)
  | _, [] => .ok []
  | left, piece :: rest =>
    match piece.apply conversions lookup left with
    | .error trouble => .error trouble
    | .ok (text, after) =>
      match format after rest with
      | .error trouble => .error trouble
      | .ok others => .ok (text ++ others)

/-- A value is of the wrong kind for a conversion. -/
def Directive.misfit (directive : Directive) (char : Char) (value : Value) : Bool :=
  match conversions.convert directive char value with
  | .error .type => true
  | .error .overflow => true
  | _ => false

/-- The conversion has no value or one of the wrong kind. -/
def Directive.misuses (directive : Directive) (left : Option Value) : Bool :=
  match directive.conversion with
  | none => false
  | some char =>
    char ≠ '%' && match left with
      | none => true
      | some value => directive.misfit conversions char value

/-- A star has no whole number, or the conversion is left without a value or has one of the wrong
kind. A missing key is no misuse. -/
def Directive.misused (directive : Directive) (left : Option Value) : Bool :=
  match directive.subject lookup left, directive.stars with
  | .error _, _ => false
  | .ok left, 0 => directive.misuses conversions left
  | .ok none, _ => true
  | .ok (some value), 1 => !conversions.whole value || directive.misuses conversions none
  | .ok (some _), _ => true

/-- Pieces that are converted one after the other, with the value that they leave. -/
inductive Converts : Option Value → List Piece → Option Value → Prop where
  | nil (left : Option Value) : Converts left [] left
  | cons {left middle after : Option Value} {piece : Piece} {rest : List Piece} {text : List Char}
      (applied : piece.apply conversions lookup left = .ok (text, middle))
      (others : Converts middle rest after) : Converts left (piece :: rest) after

/-- Some directive that is reached is misused. -/
def Misused (left : Option Value) (pieces : List Piece) : Prop :=
  ∃ before directive after reached, pieces = before ++ .directive directive :: after ∧
    Converts conversions lookup left before reached ∧
      directive.misused conversions lookup reached = true

/-! ## Trouble -/

variable {conversions lookup}

/-- Trouble with a conversion is a misuse if it is about a kind or a size. -/
theorem Directive.finish_misuses (directive : Directive) (left : Option Value) :
    (directive.finish conversions left = .error .type ∨
      directive.finish conversions left = .error .overflow) ↔
      directive.misuses conversions left = true := by
  unfold finish misuses
  cases directive.conversion with
  | none => simp
  | some char =>
    by_cases percent : char = '%'
    · simp [percent]
    · cases left with
      | none => simp [percent]
      | some value =>
        unfold misfit
        simp only [percent, if_false]
        cases conversions.convert directive char value with
        | ok text => simp [Except.map]
        | error trouble => cases trouble <;> simp [Except.map, percent]

/-- Trouble with a directive is a misuse if it is about a kind or a size. -/
theorem Directive.apply_misused (directive : Directive) (left : Option Value) :
    (directive.apply conversions lookup left = .error .type ∨
      directive.apply conversions lookup left = .error .overflow) ↔
      directive.misused conversions lookup left = true := by
  unfold apply misused
  cases found : directive.subject lookup left with
  | error trouble =>
    unfold subject at found
    split at found
    · cases found
    · split at found
      · cases found
        simp [bind, Except.bind]
      · cases found
  | ok left =>
    simp only [bind, Except.bind]
    match directive.stars, left with
    | 0, left => exact directive.finish_misuses left
    | _ + 1, none => simp [takeStars]
    | 1, some value =>
      cases whole : conversions.whole value with
      | true => simpa [takeStars, whole] using directive.finish_misuses none
      | false => simp [takeStars, whole]
    | stars + 2, some value =>
      cases whole : conversions.whole value <;> simp [takeStars, whole]

/-- A template is in trouble about a kind or a size if a directive that is reached is misused. -/
theorem format_misused (left : Option Value) (pieces : List Piece) :
    (format conversions lookup left pieces = .error .type ∨
      format conversions lookup left pieces = .error .overflow) ↔
      Misused conversions lookup left pieces := by
  induction pieces generalizing left with
  | nil =>
    refine iff_of_false (by simp [format]) ?_
    rintro ⟨before, directive, after, reached, same, -⟩
    simp at same
  | cons piece rest inductionHypothesis =>
    unfold format
    cases applied : piece.apply conversions lookup left with
    | error trouble =>
      constructor
      · intro failed
        cases piece with
        | plain char => cases applied
        | unclosed =>
          cases applied
          simp at failed
        | directive directive =>
          refine ⟨[], directive, rest, left, rfl, .nil left, ?_⟩
          refine (directive.apply_misused left).mp ?_
          have same : directive.apply conversions lookup left = .error trouble := applied
          rw [same]
          simpa using failed
      · rintro ⟨before, directive, after, reached, same, converts, misused⟩
        cases converts with
        | nil =>
          obtain ⟨rfl, -⟩ := List.cons.inj same
          have failed := (directive.apply_misused left).mpr misused
          have same : directive.apply conversions lookup left = .error trouble := applied
          rw [same] at failed
          simpa using failed
        | cons first others =>
          obtain ⟨rfl, -⟩ := List.cons.inj same
          cases applied.symm.trans first
    | ok found =>
      obtain ⟨text, middle⟩ := found
      have tail : (format conversions lookup middle rest = .error .type ∨
          format conversions lookup middle rest = .error .overflow) ↔
          Misused conversions lookup left (piece :: rest) := by
        rw [inductionHypothesis middle]
        constructor
        · rintro ⟨before, directive, after, reached, rfl, converts, misused⟩
          exact ⟨piece :: before, directive, after, reached, rfl, .cons applied converts, misused⟩
        · rintro ⟨before, directive, after, reached, same, converts, misused⟩
          cases converts with
          | nil =>
            obtain ⟨rfl, -⟩ := List.cons.inj same
            have failed := (directive.apply_misused left).mpr misused
            have same : directive.apply conversions lookup left = .ok (text, middle) := applied
            rw [same] at failed
            simp at failed
          | cons first others =>
            obtain ⟨rfl, rfl⟩ := List.cons.inj same
            cases applied.symm.trans first
            exact ⟨_, directive, after, reached, rfl, others, misused⟩
      rw [← tail]
      simp only []
      cases format conversions lookup middle rest <;> simp

end Apply

end Palette.Foundation.Template
