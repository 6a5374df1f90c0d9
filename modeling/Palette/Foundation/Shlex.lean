import Mathlib.Data.List.Perm.Basic
import Mathlib.Data.List.Count

/-!
# Splitting a line like a shell

A line is split into tokens at blanks. Within quotes blanks belong to the token; a
backslash makes the next character literal, within double quotes only a double quote or
another backslash. The splitting fails if the line ends within quotes or after a backslash.

A character of the line is in a token or is lost: the blanks between the tokens, the
quotes around something and the backslashes before something. What is lost decides whether
texts that were put into a line come out of it unchanged.
-/

namespace Palette.Foundation.Shlex

/-- The characters that separate tokens. -/
def isBlank (char : Char) : Bool := char ∈ [' ', '\t', '\r', '\n']

/-- The two quotation marks. -/
def isQuote (char : Char) : Bool := char = '"' || char = '\''

/-- A character that stands for itself outside of quotes. -/
def isPlain (char : Char) : Bool := !isBlank char && !isQuote char && char ≠ '\\'

/-- Where the splitting stands: between tokens, in a token, within quotes, and after a
backslash outside or inside of double quotes. -/
inductive Mode where
  | blank
  | word (quoted : Bool) (token : List Char)
  | quote (mark : Char) (token : List Char)
  | escape (quoted : Bool) (token : List Char)
  | quotedEscape (mark : Char) (token : List Char)
  deriving DecidableEq, Repr

/-- Why a line cannot be split. -/
inductive Fault where
  | noClosingQuotation
  | noEscapedCharacter
  deriving DecidableEq, Repr

/-- A token that ends. It counts if it has characters or quotes. -/
def emit (quoted : Bool) (token : List Char) : List (List Char) :=
  if token ≠ [] ∨ quoted then [token] else []

/-- The tokens of the rest of a line. -/
def tokens : Mode → List Char → Except Fault (List (List Char))
  | .blank, [] => .ok []
  | .word quoted token, [] => .ok (emit quoted token)
  | .quote _ _, [] => .error .noClosingQuotation
  | .escape _ _, [] => .error .noEscapedCharacter
  | .quotedEscape _ _, [] => .error .noEscapedCharacter
  | .blank, char :: rest =>
    if isBlank char then tokens .blank rest
    else if char = '\\' then tokens (.escape false []) rest
    else if isQuote char then tokens (.quote char []) rest
    else tokens (.word false [char]) rest
  | .word quoted token, char :: rest =>
    if isBlank char then (emit quoted token ++ ·) <$> tokens .blank rest
    else if isQuote char then tokens (.quote char token) rest
    else if char = '\\' then tokens (.escape quoted token) rest
    else tokens (.word quoted (token ++ [char])) rest
  | .quote mark token, char :: rest =>
    if char = mark then tokens (.word true token) rest
    else if char = '\\' ∧ mark = '"' then tokens (.quotedEscape mark token) rest
    else tokens (.quote mark (token ++ [char])) rest
  | .escape quoted token, char :: rest => tokens (.word quoted (token ++ [char])) rest
  | .quotedEscape mark token, char :: rest =>
    if char ≠ '\\' ∧ char ≠ mark then tokens (.quote mark (token ++ ['\\', char])) rest
    else tokens (.quote mark (token ++ [char])) rest

/-- `shlex.split`. -/
def split (line : List Char) : Except Fault (List (List Char)) := tokens .blank line

example : split "restore \"C:\\data\\my file\" 'x'y".toList =
    .ok ["restore".toList, "C:\\data\\my file".toList, "xy".toList] := by
  decide

/-- The characters of the rest of a line that get lost. -/
def lost : Mode → List Char → List Char
  | _, [] => []
  | .blank, char :: rest =>
    if isBlank char then char :: lost .blank rest
    else if char = '\\' then char :: lost (.escape false []) rest
    else if isQuote char then char :: lost (.quote char []) rest
    else lost (.word false [char]) rest
  | .word quoted token, char :: rest =>
    if isBlank char then char :: lost .blank rest
    else if isQuote char then char :: lost (.quote char token) rest
    else if char = '\\' then char :: lost (.escape quoted token) rest
    else lost (.word quoted (token ++ [char])) rest
  | .quote mark token, char :: rest =>
    if char = mark then char :: lost (.word true token) rest
    else if char = '\\' ∧ mark = '"' then lost (.quotedEscape mark token) rest
    else lost (.quote mark (token ++ [char])) rest
  | .escape quoted token, char :: rest => lost (.word quoted (token ++ [char])) rest
  | .quotedEscape mark token, char :: rest =>
    if char ≠ '\\' ∧ char ≠ mark then lost (.quote mark (token ++ ['\\', char])) rest
    else '\\' :: lost (.quote mark (token ++ [char])) rest

/-- What a mode has taken of its token. -/
def Mode.held : Mode → List Char
  | blank => []
  | word _ token => token
  | quote _ token => token
  | escape _ token => token
  | quotedEscape _ token => token ++ ['\\']

/-- The token that ends has the characters that were taken. -/
@[simp] theorem flatten_emit (quoted : Bool) (token : List Char) :
    (emit quoted token).flatten = token := by
  unfold emit
  split
  · simp
  · rename_i neither
    simp only [not_or, not_not] at neither
    simp [neither.1]

/-- A blank ends a token. -/
theorem tokens_word_blank {quoted : Bool} {token rest : List Char} {char : Char}
    {found : List (List Char)} (blank : isBlank char = true) :
    tokens (.word quoted token) (char :: rest) = .ok found ↔
      ∃ others, tokens .blank rest = .ok others ∧ found = emit quoted token ++ others := by
  simp only [tokens, blank, ite_true]
  cases tokens .blank rest with
  | error fault => simp
  | ok others => simp [eq_comm]

/-- Every character is in a token or lost. -/
theorem perm_tokens (mode : Mode) (line : List Char) {found : List (List Char)}
    (splits : tokens mode line = .ok found) :
    (mode.held ++ line).Perm (found.flatten ++ lost mode line) := by
  induction line generalizing mode found with
  | nil =>
    cases mode with
    | blank =>
      cases splits
      rfl
    | word quoted token =>
      cases splits
      simp [Mode.held, lost]
    | quote mark token => cases splits
    | escape quoted token => cases splits
    | quotedEscape mark token => cases splits
  | cons char rest inductionHypothesis =>
    rw [List.perm_iff_count]
    intro counted
    have count (next : Mode) {others : List (List Char)}
        (continues : tokens next rest = .ok others) :
        next.held.count counted + rest.count counted =
          others.flatten.count counted + (lost next rest).count counted := by
      simpa only [List.count_append] using
        (inductionHypothesis next continues).count_eq counted
    rw [List.count_append, List.count_append]
    cases mode with
    | blank =>
      simp only [tokens, lost] at splits ⊢
      split_ifs at splits ⊢ with blank slash quote
      · have later := count _ splits
        simp only [Mode.held, List.count_cons, List.count_nil] at later ⊢
        omega
      · have later := count _ splits
        simp only [Mode.held, List.count_cons, List.count_nil] at later ⊢
        omega
      · have later := count _ splits
        simp only [Mode.held, List.count_cons, List.count_nil] at later ⊢
        omega
      · have later := count _ splits
        simp only [Mode.held, List.count_cons, List.count_nil] at later ⊢
        omega
    | word quoted token =>
      by_cases blank : isBlank char = true
      · obtain ⟨others, next, rfl⟩ := (tokens_word_blank blank).mp splits
        have later := count _ next
        simp only [lost, blank, ite_true, Mode.held, List.flatten_append, flatten_emit,
          List.count_append, List.count_cons, List.count_nil] at later ⊢
        omega
      · simp only [tokens, lost, blank, Bool.false_eq_true, ite_false] at splits ⊢
        split_ifs at splits ⊢ with quote slash
        · have later := count _ splits
          simp only [Mode.held, List.count_cons] at later ⊢
          omega
        · have later := count _ splits
          simp only [Mode.held, List.count_cons] at later ⊢
          omega
        · have later := count _ splits
          simp only [Mode.held, List.count_append, List.count_cons, List.count_nil] at later ⊢
          omega
    | quote mark token =>
      simp only [tokens, lost] at splits ⊢
      split_ifs at splits ⊢ with closes slash
      · have later := count _ splits
        simp only [Mode.held, List.count_cons] at later ⊢
        omega
      · obtain ⟨rfl, -⟩ := slash
        have later := count _ splits
        simp only [Mode.held, List.count_append, List.count_cons, List.count_nil] at later ⊢
        omega
      · have later := count _ splits
        simp only [Mode.held, List.count_append, List.count_cons, List.count_nil] at later ⊢
        omega
    | escape quoted token =>
      simp only [tokens, lost] at splits ⊢
      have later := count _ splits
      simp only [Mode.held, List.count_append, List.count_cons, List.count_nil] at later ⊢
      omega
    | quotedEscape mark token =>
      simp only [tokens, lost] at splits ⊢
      split_ifs at splits ⊢ with literal
      · have later := count _ splits
        simp only [Mode.held, List.count_append, List.count_cons, List.count_nil] at later ⊢
        omega
      · have later := count _ splits
        simp only [Mode.held, List.count_append, List.count_cons, List.count_nil] at later ⊢
        omega

/-- Between two tokens a blank gets lost. -/
theorem length_tokens (mode : Mode) (line : List Char) {found : List (List Char)}
    (splits : tokens mode line = .ok found) :
    found.length ≤ (lost mode line).countP isBlank + 1 := by
  have length_emit (quoted : Bool) (token : List Char) : (emit quoted token).length ≤ 1 := by
    unfold emit
    split <;> simp
  induction line generalizing mode found with
  | nil =>
    cases mode with
    | blank =>
      cases splits
      exact Nat.zero_le _
    | word quoted token =>
      cases splits
      exact length_emit quoted token
    | quote mark token => cases splits
    | escape quoted token => cases splits
    | quotedEscape mark token => cases splits
  | cons char rest inductionHypothesis =>
    have gone (next : Mode) (continues : tokens next rest = .ok found) :
        found.length ≤ (char :: lost next rest).countP isBlank + 1 := by
      have later := inductionHypothesis next continues
      rw [List.countP_cons]
      omega
    cases mode with
    | blank =>
      simp only [tokens, lost] at splits ⊢
      split_ifs at splits ⊢ with blank slash quote
      · exact gone _ splits
      · exact gone _ splits
      · exact gone _ splits
      · exact inductionHypothesis _ splits
    | word quoted token =>
      by_cases blank : isBlank char = true
      · obtain ⟨others, next, rfl⟩ := (tokens_word_blank blank).mp splits
        have later := inductionHypothesis _ next
        have one := length_emit quoted token
        simp only [lost, blank, ite_true, List.countP_cons, List.length_append]
        omega
      · simp only [tokens, lost, blank, Bool.false_eq_true, ite_false] at splits ⊢
        split_ifs at splits ⊢ with quote slash
        · exact gone _ splits
        · exact gone _ splits
        · exact inductionHypothesis _ splits
    | quote mark token =>
      simp only [tokens, lost] at splits ⊢
      split_ifs at splits ⊢ with closes slash
      · exact gone _ splits
      · exact inductionHypothesis _ splits
      · exact inductionHypothesis _ splits
    | escape quoted token => exact inductionHypothesis _ splits
    | quotedEscape mark token =>
      simp only [tokens, lost] at splits ⊢
      split_ifs at splits ⊢ with literal
      · exact inductionHypothesis _ splits
      · have later := inductionHypothesis _ splits
        rw [List.countP_cons]
        omega

/-! ## Lines without quotes -/

/-- The modes outside of quotes and not after a backslash. -/
def Mode.outside : Mode → Bool
  | blank => true
  | word _ _ => true
  | _ => false

theorem isPlain_iff {char : Char} :
    isPlain char = true ↔ isBlank char = false ∧ isQuote char = false ∧ char ≠ '\\' := by
  simp [isPlain, and_assoc]

/-- Outside of quotes a blank gets lost. -/
theorem lost_blank {mode : Mode} {char : Char} (rest : List Char) (outside : mode.outside = true)
    (blank : isBlank char = true) : lost mode (char :: rest) = char :: lost .blank rest := by
  cases mode with
  | blank => simp [lost, blank]
  | word quoted token => simp [lost, blank]
  | quote mark token => cases outside
  | escape quoted token => cases outside
  | quotedEscape mark token => cases outside

/-- Outside of quotes a plain character is kept, and the token goes on outside. -/
theorem lost_plain {mode : Mode} {char : Char} (rest : List Char) (outside : mode.outside = true)
    (plain : isPlain char = true) :
    ∃ next : Mode, next.outside = true ∧ lost mode (char :: rest) = lost next rest := by
  obtain ⟨blank, quote, slash⟩ := isPlain_iff.mp plain
  cases mode with
  | blank => exact ⟨.word false [char], rfl, by simp [lost, blank, quote, slash]⟩
  | word quoted token =>
    exact ⟨.word quoted (token ++ [char]), rfl, by simp [lost, blank, quote, slash]⟩
  | quote mark token => cases outside
  | escape quoted token => cases outside
  | quotedEscape mark token => cases outside

/-- Outside of quotes every other character gets lost. -/
theorem lost_special {mode : Mode} {char : Char} (rest : List Char) (outside : mode.outside = true)
    (special : isPlain char = false) : char ∈ lost mode (char :: rest) := by
  have notPlain : ¬(isBlank char = false ∧ isQuote char = false ∧ char ≠ '\\') := by
    rw [← isPlain_iff, special]
    exact Bool.false_ne_true
  cases mode with
  | blank =>
    simp only [lost]
    split_ifs with blank slash quote
    · exact List.mem_cons_self
    · exact List.mem_cons_self
    · exact List.mem_cons_self
    · exact absurd ⟨by simpa using blank, by simpa using quote, slash⟩ notPlain
  | word quoted token =>
    simp only [lost]
    split_ifs with blank quote slash
    · exact List.mem_cons_self
    · exact List.mem_cons_self
    · exact List.mem_cons_self
    · exact absurd ⟨by simpa using blank, by simpa using quote, slash⟩ notPlain
  | quote mark token => cases outside
  | escape quoted token => cases outside
  | quotedEscape mark token => cases outside

/-- If nothing but blanks gets lost, all characters are plain but the blanks that do. -/
theorem plain_of_lost (mode : Mode) (line : List Char) (outside : mode.outside = true)
    (blanks : ∀ char ∈ lost mode line, isBlank char = true) :
    lost mode line = line.filter isBlank ∧
      ∀ char ∈ line, isBlank char = true ∨ isPlain char = true := by
  induction line generalizing mode with
  | nil => exact ⟨by simp [lost], fun char member => absurd member List.not_mem_nil⟩
  | cons char rest inductionHypothesis =>
    by_cases blank : isBlank char = true
    · rw [lost_blank rest outside blank] at blanks ⊢
      obtain ⟨gone, kinds⟩ := inductionHypothesis .blank rfl fun later member =>
        blanks later (List.mem_cons_of_mem _ member)
      constructor
      · rw [gone, List.filter_cons_of_pos blank]
      · exact List.forall_mem_cons.mpr ⟨.inl blank, kinds⟩
    · have plain : isPlain char = true := by
        by_contra special
        exact blank (blanks char (lost_special rest outside (by simpa using special)))
      obtain ⟨next, nextOutside, same⟩ := lost_plain rest outside plain
      rw [same] at blanks ⊢
      obtain ⟨gone, kinds⟩ := inductionHypothesis next nextOutside blanks
      constructor
      · rw [gone, List.filter_cons_of_neg blank]
      · exact List.forall_mem_cons.mpr ⟨.inr plain, kinds⟩

/-- Plain characters go on with a token. -/
theorem tokens_word_plain (quoted : Bool) (token word rest : List Char)
    (plain : ∀ char ∈ word, isPlain char = true) :
    tokens (.word quoted token) (word ++ rest) = tokens (.word quoted (token ++ word)) rest := by
  induction word generalizing token with
  | nil => simp
  | cons char others inductionHypothesis =>
    obtain ⟨first, remaining⟩ := List.forall_mem_cons.mp plain
    obtain ⟨blank, quote, slash⟩ := isPlain_iff.mp first
    simp only [List.cons_append, tokens, blank, quote, slash, Bool.false_eq_true, ite_false]
    rw [inductionHypothesis (token ++ [char]) remaining, List.append_assoc, List.singleton_append]

/-- Plain characters begin a token. -/
theorem tokens_plain {word : List Char} (rest : List Char) (some : word ≠ [])
    (plain : ∀ char ∈ word, isPlain char = true) :
    tokens .blank (word ++ rest) = tokens (.word false word) rest := by
  obtain ⟨char, others, rfl⟩ := List.exists_cons_of_ne_nil some
  obtain ⟨first, remaining⟩ := List.forall_mem_cons.mp plain
  obtain ⟨blank, quote, slash⟩ := isPlain_iff.mp first
  simp only [List.cons_append, tokens, blank, quote, slash, Bool.false_eq_true, ite_false]
  exact tokens_word_plain false [char] others rest remaining

/-- A plain word and the blank after it are one token. -/
theorem tokens_word {word : List Char} (rest : List Char) (some : word ≠ [])
    (plain : ∀ char ∈ word, isPlain char = true) :
    tokens .blank (word ++ ' ' :: rest) = (word :: ·) <$> tokens .blank rest := by
  rw [tokens_plain _ some plain]
  simp [tokens, isBlank, emit, some]

/-- A plain word at the end is one token. -/
theorem tokens_last {word : List Char} (some : word ≠ [])
    (plain : ∀ char ∈ word, isPlain char = true) : tokens .blank word = .ok [word] := by
  have whole := tokens_plain [] some plain
  rw [List.append_nil] at whole
  rw [whole]
  simp [tokens, emit, some]

/-- Without quotes no token is empty. -/
theorem ne_nil_of_lost (mode : Mode) (line : List Char) {found : List (List Char)}
    (splits : tokens mode line = .ok found) (outside : mode.outside = true)
    (begun : ∀ quoted token, mode = .word quoted token → token ≠ [])
    (blanks : ∀ char ∈ lost mode line, isBlank char = true) : ∀ token ∈ found, token ≠ [] := by
  have emitted (quoted : Bool) (token : List Char) (some : token ≠ []) :
      emit quoted token = [token] := by
    simp [emit, some]
  induction line generalizing mode found with
  | nil =>
    cases mode with
    | blank =>
      cases splits
      exact fun token member => absurd member List.not_mem_nil
    | word quoted token =>
      cases splits
      have some := begun quoted token rfl
      rw [emitted quoted token some]
      simpa using some
    | quote mark token => cases outside
    | escape quoted token => cases outside
    | quotedEscape mark token => cases outside
  | cons char rest inductionHypothesis =>
    by_cases blank : isBlank char = true
    · rw [lost_blank rest outside blank] at blanks
      have later := fun other member => blanks other (List.mem_cons_of_mem char member)
      cases mode with
      | blank =>
        simp only [tokens, blank, ite_true] at splits
        exact inductionHypothesis .blank splits rfl (by simp) later
      | word quoted token =>
        obtain ⟨others, next, rfl⟩ := (tokens_word_blank blank).mp splits
        have some := begun quoted token rfl
        rw [emitted quoted token some, List.singleton_append]
        exact List.forall_mem_cons.mpr
          ⟨some, inductionHypothesis .blank next rfl (by simp) later⟩
      | quote mark token => cases outside
      | escape quoted token => cases outside
      | quotedEscape mark token => cases outside
    · have plain : isPlain char = true := by
        by_contra special
        exact blank (blanks char (lost_special rest outside (by simpa using special)))
      obtain ⟨notBlank, quote, slash⟩ := isPlain_iff.mp plain
      cases mode with
      | blank =>
        simp only [tokens, lost, notBlank, quote, slash, Bool.false_eq_true, ite_false]
          at splits blanks
        exact inductionHypothesis _ splits rfl (by simp +contextual) blanks
      | word quoted token =>
        simp only [tokens, lost, notBlank, quote, slash, Bool.false_eq_true, ite_false]
          at splits blanks
        exact inductionHypothesis _ splits rfl (by simp +contextual) blanks
      | quote mark token => cases outside
      | escape quoted token => cases outside
      | quotedEscape mark token => cases outside

/-- A line loses no less than the blanks between its tokens. -/
theorem length_le_of_tokens {line : List Char} {found : List (List Char)}
    (splits : tokens .blank line = .ok found) :
    found.flatten.length + found.length ≤ line.length + 1 := by
  have size := (perm_tokens .blank line splits).length_eq
  have count := length_tokens .blank line splits
  have fewer := (lost .blank line).countP_le_length (p := isBlank)
  simp only [Mode.held, List.nil_append, List.length_append] at size
  omega

/-- If it loses no more, it is made of plain words with single blanks between them. -/
theorem plain_of_tight {line : List Char} {found : List (List Char)}
    (splits : tokens .blank line = .ok found)
    (tight : line.length + 1 ≤ found.flatten.length + found.length) :
    (∀ char ∈ line, isBlank char = true ∨ isPlain char = true) ∧
      line.countP isBlank + 1 = found.length ∧ ∀ token ∈ found, token ≠ [] := by
  have size := (perm_tokens .blank line splits).length_eq
  have count := length_tokens .blank line splits
  have fewer := (lost .blank line).countP_le_length (p := isBlank)
  simp only [Mode.held, List.nil_append, List.length_append] at size
  have blanks : ∀ char ∈ lost .blank line, isBlank char = true := by
    rw [← List.countP_eq_length]
    omega
  obtain ⟨gone, kinds⟩ := plain_of_lost .blank line rfl blanks
  have number : (lost .blank line).length = line.countP isBlank := by
    rw [gone, List.countP_eq_length_filter]
  exact ⟨kinds, by omega, ne_nil_of_lost .blank line splits rfl (by simp) blanks⟩

/-! ## Double quotes -/

/-- The text stands for itself within double quotes: it has no double quote, no two
backslashes in a row, and no backslash at its end. -/
def Literal : List Char → Prop
  | [] => True
  | ['\\'] => False
  | '\\' :: char :: rest => char ≠ '\\' ∧ char ≠ '"' ∧ Literal rest
  | char :: rest => char ≠ '"' ∧ Literal rest

/-- A text that stands for itself is taken up to the quote that follows it. -/
theorem tokens_quote_literal (token text rest : List Char) (literal : Literal text) :
    tokens (.quote '"' token) (text ++ '"' :: rest) = tokens (.word true (token ++ text)) rest := by
  induction text using Literal.induct generalizing token with
  | case1 => simp [tokens]
  | case2 => cases literal
  | case3 char others inductionHypothesis =>
    obtain ⟨slash, mark, remaining⟩ := literal
    simp [tokens, slash, mark, inductionHypothesis _ remaining]
  | case4 char others notEnd notSlash inductionHypothesis =>
    have other : char ≠ '\\' := by
      rintro rfl
      cases others with
      | nil => exact notEnd rfl rfl
      | cons next later => exact notSlash next later rfl rfl
    have literal : char ≠ '"' ∧ Literal others := by
      rw [Literal] at literal
      · exact literal
      · exact notEnd
      · exact notSlash
    simp [tokens, other, literal.1, inductionHypothesis _ literal.2]

/-- Of a text that stands for itself only the quote after it gets lost. -/
theorem lost_quote_literal (token text rest : List Char) (literal : Literal text) :
    lost (.quote '"' token) (text ++ '"' :: rest) =
      '"' :: lost (.word true (token ++ text)) rest := by
  induction text using Literal.induct generalizing token with
  | case1 => simp [lost]
  | case2 => cases literal
  | case3 char others inductionHypothesis =>
    obtain ⟨slash, mark, remaining⟩ := literal
    simp [lost, slash, mark, inductionHypothesis _ remaining]
  | case4 char others notEnd notSlash inductionHypothesis =>
    have other : char ≠ '\\' := by
      rintro rfl
      cases others with
      | nil => exact notEnd rfl rfl
      | cons next later => exact notSlash next later rfl rfl
    have literal : char ≠ '"' ∧ Literal others := by
      rw [Literal] at literal
      · exact literal
      · exact notEnd
      · exact notSlash
    simp [lost, other, literal.1, inductionHypothesis _ literal.2]

/-- A text without double quotes of which no backslash gets lost stands for itself. -/
theorem literal_of_lost (token text rest : List Char) (noMark : '"' ∉ text)
    (kept : '\\' ∉ lost (.quote '"' token) (text ++ '"' :: rest)) : Literal text := by
  induction text using Literal.induct generalizing token with
  | case1 => trivial
  | case2 => simp [lost] at kept
  | case3 char others inductionHypothesis =>
    have mark : char ≠ '"' := fun same => noMark (by simp [same])
    have slash : char ≠ '\\' := by
      rintro rfl
      simp [lost] at kept
    have remaining : '"' ∉ others := fun member => noMark (by simp [member])
    exact ⟨slash, mark, inductionHypothesis (token ++ ['\\', char]) remaining
      (by simpa [lost, slash, mark] using kept)⟩
  | case4 char others notEnd notSlash inductionHypothesis =>
    have other : char ≠ '\\' := by
      rintro rfl
      cases others with
      | nil => exact notEnd rfl rfl
      | cons next later => exact notSlash next later rfl rfl
    have mark : char ≠ '"' := fun same => noMark (by simp [same])
    have remaining : '"' ∉ others := fun member => noMark (by simp [member])
    rw [Literal]
    · exact ⟨mark, inductionHypothesis (token ++ [char]) remaining
        (by simpa [lost, other, mark] using kept)⟩
    · exact notEnd
    · exact notSlash

/-- A text in double quotes. -/
def quoted (text : List Char) : List Char := '"' :: text ++ ['"']

/-- Texts in double quotes with a blank in front of each. -/
def pasted (texts : List (List Char)) : List Char := texts.flatMap fun text => ' ' :: quoted text

theorem pasted_cons (text : List Char) (others : List (List Char)) :
    pasted (text :: others) = ' ' :: '"' :: (text ++ '"' :: pasted others) := by
  simp [pasted, quoted]

/-- The characters around the texts are a blank and two quotes for each. -/
theorem count_pasted (texts : List (List Char)) (counted : Char) :
    (pasted texts).count counted =
      texts.flatten.count counted + texts.length * [' ', '"', '"'].count counted := by
  induction texts with
  | nil => simp [pasted]
  | cons text others inductionHypothesis =>
    rw [pasted_cons, List.flatten_cons, List.length_cons, Nat.add_mul]
    simp only [List.count_cons, List.count_append, List.count_nil] at inductionHypothesis ⊢
    omega

/-- Each of the texts is a token, so as many blanks get lost. -/
theorem length_le_of_pasted {texts found : List (List Char)}
    (splits : tokens .blank (pasted texts) = .ok found) (number : found.length = texts.length) :
    texts.length ≤ (lost .blank (pasted texts)).countP isBlank := by
  cases texts with
  | nil => exact Nat.zero_le _
  | cons text others =>
    have blank : isBlank ' ' = true := rfl
    have later := length_tokens .blank (quoted text ++ pasted others) splits
    have begins : lost .blank (pasted (text :: others)) =
        ' ' :: lost .blank (quoted text ++ pasted others) := rfl
    rw [begins, List.countP_cons_of_pos blank]
    omega

/-- A token ends before a quoted text or at the end of the line. -/
theorem tokens_word_pasted (token : List Char) (texts : List (List Char)) :
    tokens (.word true token) (pasted texts) = (token :: ·) <$> tokens .blank (pasted texts) ∧
      lost (.word true token) (pasted texts) = lost .blank (pasted texts) := by
  have blank : isBlank ' ' = true := rfl
  cases texts with
  | nil => simp [pasted, tokens, lost, emit]
  | cons text others => simp [pasted_cons, tokens, lost, blank, emit]

/-- Texts that stand for themselves come out of a line unchanged. -/
theorem tokens_pasted {texts : List (List Char)} (literal : ∀ text ∈ texts, Literal text) :
    tokens .blank (pasted texts) = .ok texts := by
  induction texts with
  | nil => rfl
  | cons text others inductionHypothesis =>
    obtain ⟨first, remaining⟩ := List.forall_mem_cons.mp literal
    have begins : tokens .blank (pasted (text :: others)) =
        tokens (.quote '"' []) (text ++ '"' :: pasted others) := by
      rw [pasted_cons]
      rfl
    rw [begins, tokens_quote_literal _ _ _ first, List.nil_append,
      (tokens_word_pasted text others).1, inductionHypothesis remaining]
    rfl

/-- Texts without double quotes of which no backslash gets lost stand for themselves. -/
theorem literal_of_pasted {texts : List (List Char)} (noMark : ∀ text ∈ texts, '"' ∉ text)
    (kept : '\\' ∉ lost .blank (pasted texts)) : ∀ text ∈ texts, Literal text := by
  induction texts with
  | nil => exact fun text member => absurd member List.not_mem_nil
  | cons text others inductionHypothesis =>
    obtain ⟨first, remaining⟩ := List.forall_mem_cons.mp noMark
    have begins : lost .blank (pasted (text :: others)) =
        ' ' :: '"' :: lost (.quote '"' []) (text ++ '"' :: pasted others) := by
      rw [pasted_cons]
      rfl
    rw [begins] at kept
    have inside : '\\' ∉ lost (.quote '"' []) (text ++ '"' :: pasted others) := fun member =>
      kept (List.mem_cons_of_mem _ (List.mem_cons_of_mem _ member))
    have literal := literal_of_lost [] text (pasted others) first inside
    rw [lost_quote_literal _ _ _ literal, (tokens_word_pasted _ others).2] at inside
    exact List.forall_mem_cons.mpr ⟨literal,
      inductionHypothesis remaining (List.not_mem_of_not_mem_cons inside)⟩

/-- The modes without single quotes and not after a backslash outside of quotes. -/
def Mode.double : Mode → Bool
  | blank => true
  | word _ _ => true
  | quote mark _ => mark = '"'
  | escape _ _ => false
  | quotedEscape mark _ => mark = '"'

/-- If no backslash and no single quote gets lost, every double quote does. -/
theorem count_mark (mode : Mode) (line : List Char) (double : mode.double = true)
    (slash : '\\' ∉ lost mode line) (single : '\'' ∉ lost mode line) :
    (lost mode line).count '"' = line.count '"' := by
  induction line generalizing mode with
  | nil => simp [lost]
  | cons char rest inductionHypothesis =>
    have kept (next : Mode) (nextDouble : next.double = true) (noMark : char ≠ '"')
        (nextSlash : '\\' ∉ lost next rest) (nextSingle : '\'' ∉ lost next rest) :
        (lost next rest).count '"' = (char :: rest).count '"' := by
      rw [inductionHypothesis next nextDouble nextSlash nextSingle, List.count_cons_of_ne noMark]
    have gone (next : Mode) (nextDouble : next.double = true)
        (nextSlash : '\\' ∉ char :: lost next rest)
        (nextSingle : '\'' ∉ char :: lost next rest) :
        (char :: lost next rest).count '"' = (char :: rest).count '"' := by
      rw [List.count_cons, List.count_cons, inductionHypothesis next nextDouble
        (List.not_mem_of_not_mem_cons nextSlash) (List.not_mem_of_not_mem_cons nextSingle)]
    have mark_of_quote (quote : isQuote char = true) (notSingle : char ≠ '\'') : char = '"' := by
      simpa [isQuote, notSingle] using quote
    have noMark (notQuote : ¬isQuote char = true) : char ≠ '"' := by
      rintro rfl
      exact notQuote rfl
    cases mode with
    | blank =>
      simp only [lost] at slash single ⊢
      split_ifs at slash single ⊢ with blank isSlash quote
      · exact gone .blank rfl slash single
      · simp [isSlash] at slash
      · have notSingle : char ≠ '\'' := fun same => single (by simp [same])
        exact gone (.quote char []) (by simp [Mode.double, mark_of_quote quote notSingle]) slash
          single
      · exact kept (.word false [char]) rfl (noMark quote) slash single
    | word quoted token =>
      simp only [lost] at slash single ⊢
      split_ifs at slash single ⊢ with blank quote isSlash
      · exact gone .blank rfl slash single
      · have notSingle : char ≠ '\'' := fun same => single (by simp [same])
        exact gone (.quote char token) (by simp [Mode.double, mark_of_quote quote notSingle]) slash
          single
      · simp [isSlash] at slash
      · exact kept (.word quoted (token ++ [char])) rfl (noMark quote) slash single
    | quote mark token =>
      obtain rfl : mark = '"' := by simpa [Mode.double] using double
      simp only [lost] at slash single ⊢
      split_ifs at slash single ⊢ with closes isSlash
      · exact gone (.word true token) rfl slash single
      · exact kept (.quotedEscape '"' token) rfl closes slash single
      · exact kept (.quote '"' (token ++ [char])) rfl closes slash single
    | escape quoted token => cases double
    | quotedEscape mark token =>
      obtain rfl : mark = '"' := by simpa [Mode.double] using double
      simp only [lost] at slash single ⊢
      split_ifs at slash single ⊢ with literal
      · exact kept (.quote '"' (token ++ ['\\', char])) rfl literal.2 slash single
      · simp at slash

end Palette.Foundation.Shlex
