import Palette.Telnet.Encoding
import Mathlib.Algebra.BigOperators.Group.List.Basic
import Mathlib.Data.List.DropRight
import Mathlib.Data.List.Nodup
import Mathlib.Data.List.TakeWhile

/-!
# Which strings arrive

A line of plain words with single blanks is split into these words. Conversely, a line
that gives the words that were meant has to be as long as they are, so that nothing but the
blanks between them gets lost and no string holds a blank, a quote or a backslash.

Within quotes the characters are counted: those that get lost are the four quotes and the
blank between the two strings, so that no string holds a quote and no backslash is taken
for an escape.
-/

namespace Palette.Telnet

open Palette.Foundation Palette.Foundation.Shlex

/-! ## Stripping -/

/-- What is stripped are blanks on both sides. -/
theorem strip_infix (text : Text) : ∃ before after, text = before ++ strip text ++ after ∧
    (∀ char ∈ before, isSpace char = true) ∧ ∀ char ∈ after, isSpace char = true := by
  have back := List.takeWhile_append_dropWhile (p := isSpace) (l := (text.dropWhile isSpace).reverse)
  refine ⟨text.takeWhile isSpace, ((text.dropWhile isSpace).reverse.takeWhile isSpace).reverse,
    ?_, ?_, ?_⟩
  · unfold strip
    rw [List.append_assoc, ← List.reverse_append, back, List.reverse_reverse,
      List.takeWhile_append_dropWhile]
  · exact fun char member => List.mem_takeWhile_imp member
  · exact fun char member => List.mem_takeWhile_imp (List.mem_reverse.mp member)

/-- Stripping makes a text no longer. -/
theorem length_strip_le (text : Text) : (strip text).length ≤ text.length := by
  obtain ⟨before, after, whole, -, -⟩ := strip_infix text
  have length := congrArg List.length whole
  simp only [List.length_append] at length
  omega

/-- A text that gets no shorter is unchanged. -/
theorem strip_eq_of_length {text : Text} (same : text.length ≤ (strip text).length) :
    strip text = text := by
  obtain ⟨before, after, whole, -, -⟩ := strip_infix text
  have length := congrArg List.length whole
  simp only [List.length_append] at length
  have noBefore : before = [] := List.eq_nil_of_length_eq_zero (by omega)
  have noAfter : after = [] := List.eq_nil_of_length_eq_zero (by omega)
  rw [noBefore, noAfter, List.nil_append, List.append_nil] at whole
  exact whole.symm

/-- A text whose first and last characters are no blanks is unchanged. -/
theorem strip_of_ends {first last : Char} (middle : Text) (before : isSpace first = false)
    (after : isSpace last = false) :
    strip (first :: middle ++ [last]) = first :: middle ++ [last] := by
  unfold strip
  simp [before, after]

/-- What is left has no blank at its front. -/
theorem dropWhile_prefix {text part : Text} (begins : part <+: text.dropWhile isSpace) :
    part.dropWhile isSpace = part := by
  cases part with
  | nil => rfl
  | cons char rest =>
    have blank : isSpace char = false := by
      obtain ⟨others, whole⟩ := begins
      have head := List.head?_dropWhile_not isSpace text
      rw [← whole] at head
      simpa using head
    rw [List.dropWhile_cons_of_neg (by simp [blank])]

/-- Stripping a stripped text changes nothing. -/
theorem strip_strip (text : Text) : strip (strip text) = strip text := by
  have front : (strip text).dropWhile isSpace = strip text :=
    dropWhile_prefix (List.rdropWhile_prefix isSpace (text.dropWhile isSpace))
  calc strip (strip text) = List.rdropWhile isSpace ((strip text).dropWhile isSpace) := rfl
    _ = List.rdropWhile isSpace (strip text) := by rw [front]
    _ = strip text := List.rdropWhile_idempotent isSpace (text.dropWhile isSpace)

/-- A text without blanks around it has none at its end, nor at its front. -/
theorem ends_of_strip {text : Text} (same : strip text = text) :
    text.dropWhile isSpace = text ∧ text.rdropWhile isSpace = text := by
  have trimmed : (text.dropWhile isSpace).rdropWhile isSpace = text := same
  have back := (List.rdropWhile_prefix isSpace (text.dropWhile isSpace)).length_le
  rw [trimmed] at back
  have front : text.dropWhile isSpace = text :=
    (List.dropWhile_suffix isSpace).eq_of_length_le back
  exact ⟨front, by rwa [front] at trimmed⟩

/-- Blanks are stripped from the end of the second of two texts, and from the first one only
if nothing is left of the second. -/
theorem rdropWhile_append (text other : Text) : (text ++ other).rdropWhile isSpace =
    if other.rdropWhile isSpace = [] then text.rdropWhile isSpace
    else text ++ other.rdropWhile isSpace := by
  unfold List.rdropWhile
  rw [List.reverse_append, List.dropWhile_append]
  simp only [List.isEmpty_iff, List.reverse_eq_nil_iff]
  split
  · rfl
  · rw [List.reverse_append, List.reverse_reverse]

/-! ## Parsing -/

/-- The tokens of a command are its options, its name and its arguments. -/
theorem parse_inv (options : Options) (tokens : List Text)
    (named : (parse options tokens).name ≠ []) :
    ∃ given raw : List Text, tokens = given.map (fun option => '/' :: option) ++
        (parse options tokens).name :: raw ∧
      (parse options tokens).args = raw.map strip ∧
        (parse options tokens).options = (given.map keyValue).reverse ++ options := by
  induction tokens generalizing options with
  | nil => simp [parse] at named
  | cons token rest inductionHypothesis =>
    unfold parse at named ⊢
    split at named
    · rename_i option
      obtain ⟨given, raw, found, args, all⟩ := inductionHypothesis _ named
      refine ⟨option :: given, raw, ?_, args, ?_⟩
      · rw [List.map_cons, List.cons_append, ← found]
      · simp [all]
    · exact ⟨[], rest, rfl, rfl, rfl⟩

/-- Options in front of a name are taken one by one. -/
theorem parse_options (options : Options) (given : List Text) (rest : List Text) :
    parse options (given.map (fun option => '/' :: option) ++ rest) =
      parse ((given.map keyValue).reverse ++ options) rest := by
  induction given generalizing options with
  | nil => rfl
  | cons option others inductionHypothesis =>
    simp only [List.map_cons, List.cons_append, parse, inductionHypothesis, List.reverse_cons,
      List.append_assoc, List.nil_append]

/-- A key and a value with an equals sign between them. -/
theorem keyValue_text (key value : Text) (noSign : '=' ∉ key) :
    keyValue (key ++ '=' :: value) = (strip key, .text (strip value)) := by
  have front : (key ++ '=' :: value).takeWhile (· ≠ '=') = key := by
    rw [List.takeWhile_append_of_pos]
    · simp
    · intro char member
      simp only [ne_eq, decide_not, Bool.not_eq_true', decide_eq_false_iff_not]
      rintro rfl
      exact noSign member
  have sign : '=' ∈ key ++ '=' :: value := by simp
  have back : (key ++ '=' :: value).drop (key.length + 1) = value := by
    rw [List.append_cons, List.drop_append_of_le_length (by simp)]
    simp
  unfold keyValue
  dsimp only
  rw [front, if_pos sign, back]

/-- The option that a value came from is no shorter. -/
theorem length_of_keyValue {option key value : Text} (same : keyValue option = (key, .text value)) :
    key.length + 1 + value.length ≤ option.length ∧ strip value = value := by
  unfold keyValue at same
  dsimp only at same
  split at same
  · rename_i sign
    obtain ⟨keyIs, valueIs⟩ := Prod.mk.inj same
    have valueIs : strip (option.drop ((option.takeWhile (· ≠ '=')).length + 1)) = value :=
      OptionValue.text.inj valueIs
    subst keyIs valueIs
    have keyLonger := length_strip_le (option.takeWhile (· ≠ '='))
    have valueLonger := length_strip_le (option.drop ((option.takeWhile (· ≠ '=')).length + 1))
    have inside : (option.takeWhile (· ≠ '=')).length < option.length := by
      by_contra notLess
      have all : option.takeWhile (· ≠ '=') = option :=
        (List.takeWhile_prefix _).eq_of_length_le (by omega)
      rw [← all] at sign
      simpa using List.mem_takeWhile_imp sign
    rw [List.length_drop] at valueLonger
    exact ⟨by omega, strip_strip _⟩
  · simp at same

/-! ## Words with blanks between them -/

/-- Plain words with a blank after each are split off one by one. -/
theorem tokens_spaced {words : List Text} (last : Text)
    (plain : ∀ word ∈ words, word ≠ [] ∧ ∀ char ∈ word, isPlain char = true) :
    tokens .blank (spaced words ++ last) = (words ++ ·) <$> tokens .blank last := by
  induction words with
  | nil =>
    have same : spaced [] ++ last = last := rfl
    rw [same]
    cases tokens .blank last <;> rfl
  | cons word more inductionHypothesis =>
    obtain ⟨⟨some, kinds⟩, remaining⟩ := List.forall_mem_cons.mp plain
    have unfolded : spaced (word :: more) ++ last = word ++ ' ' :: (spaced more ++ last) := by
      simp [spaced]
    rw [unfolded, tokens_word _ some kinds, inductionHypothesis remaining]
    cases tokens .blank last <;> rfl

theorem length_spaced (words : List Text) :
    (spaced words).length = words.flatten.length + words.length := by
  induction words with
  | nil => rfl
  | cons word more inductionHypothesis =>
    simp only [spaced, List.flatMap_cons, List.length_append, List.flatten_cons, List.length_cons,
      List.length_nil] at inductionHypothesis ⊢
    omega

theorem countP_spaced (words : List Text) :
    (spaced words).countP isBlank = words.flatten.countP isBlank + words.length := by
  induction words with
  | nil => rfl
  | cons word more inductionHypothesis =>
    have blank : isBlank ' ' = true := rfl
    simp only [spaced, List.flatMap_cons, List.countP_append, List.flatten_cons, List.length_cons,
      List.countP_cons, List.countP_nil, blank] at inductionHypothesis ⊢
    simp only [ite_true]
    omega

/-- If a part of the text is split into no fewer words with no fewer characters, it is the
whole text, and the words are plain. -/
theorem plain_of_split {words : List Text} {last line : Text} {found : List Text}
    (part : line <+: spaced words ++ last) (splits : tokens .blank line = .ok found)
    (chars : words.flatten.length + last.length ≤ found.flatten.length)
    (number : words.length + 1 ≤ found.length) :
    line = spaced words ++ last ∧
      (∀ char ∈ words.flatten ++ last, isPlain char = true) ∧
        (∀ token ∈ found, token ≠ []) ∧ found.length = words.length + 1 ∧
          found.flatten.length = words.flatten.length + last.length := by
  have size := length_spaced words
  have shorter := part.length_le
  have bound := length_le_of_tokens splits
  rw [List.length_append] at shorter
  obtain ⟨kinds, blanks, some⟩ := plain_of_tight splits (by omega)
  have whole : line = spaced words ++ last := part.eq_of_length (by
    rw [List.length_append]
    omega)
  have count := countP_spaced words
  rw [whole, List.countP_append] at blanks
  refine ⟨whole, ?_, some, by omega, by omega⟩
  have none : (words.flatten ++ last).countP isBlank = 0 := by
    rw [List.countP_append]
    omega
  intro char member
  have notBlank : isBlank char = false := by
    simpa using List.countP_eq_zero.mp none char member
  have inLine : char ∈ line := by
    rw [whole]
    rcases List.mem_append.mp member with inWords | inLast
    · obtain ⟨word, listed, inside⟩ := List.mem_flatten.mp inWords
      exact List.mem_append_left _
        (List.mem_flatMap.mpr ⟨word, listed, List.mem_append_left _ inside⟩)
    · exact List.mem_append_right _ inLast
  exact (kinds char inLine).resolve_left (by simp [notBlank])

/-! ## A login -/

/-- Two words arrive as two arguments if and only if they are words. -/
theorem two_words (username password : Text) :
    (∃ found, tokens .blank ((username ++ ' ' :: password).rdropWhile isSpace) = .ok found ∧
      found.map strip = [username, password]) ↔
      ((∀ char ∈ username, isPlain char = true) ∧ strip username = username ∧ username ≠ []) ∧
        (∀ char ∈ password, isPlain char = true) ∧ strip password = password ∧ password ≠ [] := by
  have text : username ++ ' ' :: password = spaced [username] ++ password := by simp [spaced]
  constructor
  · rintro ⟨found, splits, arrive⟩
    obtain ⟨first, rest, rfl, firstIs, restIs⟩ := List.map_eq_cons_iff.mp arrive
    obtain ⟨second, more, rfl, secondIs, moreIs⟩ := List.map_eq_cons_iff.mp restIs
    obtain rfl := List.map_eq_nil_iff.mp moreIs
    have firstLonger := length_strip_le first
    have secondLonger := length_strip_le second
    rw [firstIs] at firstLonger
    rw [secondIs] at secondLonger
    rw [text] at splits
    obtain ⟨-, plain, some, -, length⟩ := plain_of_split (List.rdropWhile_prefix _ _) splits
      (by simp; omega) (by simp)
    simp only [List.flatten_cons, List.flatten_nil, List.append_nil, List.length_append] at length
    simp only [List.flatten_cons, List.flatten_nil, List.append_nil] at plain
    have firstSame : strip first = first := strip_eq_of_length (by rw [firstIs]; omega)
    have secondSame : strip second = second := strip_eq_of_length (by rw [secondIs]; omega)
    rw [firstSame] at firstIs
    rw [secondSame] at secondIs
    subst firstIs secondIs
    exact ⟨⟨fun char member => plain char (List.mem_append_left _ member), firstSame,
      some _ (by simp)⟩, fun char member => plain char (List.mem_append_right _ member),
      secondSame, some _ (by simp)⟩
  · rintro ⟨⟨plain, stripped, some⟩, otherPlain, otherStripped, otherSome⟩
    have kept : (username ++ ' ' :: password).rdropWhile isSpace = username ++ ' ' :: password := by
      have back := (ends_of_strip otherStripped).2
      rw [List.append_cons, rdropWhile_append, back, if_neg otherSome]
    refine ⟨[username] ++ [password], ?_, by simp [stripped, otherStripped]⟩
    rw [kept, text, tokens_spaced password (by simpa using ⟨some, plain⟩),
      tokens_last otherSome otherPlain]
    rfl

/-- The words in front of the strings of a login. -/
def loginWords (agent : Option Text) : List Text :=
  (if agent.isSome then ["/uuid=%s".toList] else []) ++ ["ad".toList, "verify".toList]

theorem line_adVerify (agent : Option Text) (username password : Text) :
    (Request.adVerify agent username password).line =
      ' ' :: (spaced (loginWords agent) ++ (username ++ ' ' :: password)) := by
  cases agent with
  | none => simp [Request.line, loginWords, spaced]
  | some uuid => simp [Request.line, loginWords, spaced]

/-- The line of a login without the blanks around it. -/
theorem strip_adVerify (agent : Option Text) (rest : Text) :
    strip (' ' :: (spaced (loginWords agent) ++ rest)) =
      (spaced (loginWords agent) ++ rest).rdropWhile isSpace := by
  cases agent <;> rfl

/-- What a login's tokens are read as. -/
theorem same_login (agent : Option Text) (username password : Text) (found : List Text) :
    (parse [] (loginWords agent ++ found)).Same
        (Request.adVerify agent username password).intended ↔
      (agent = none ∨ agent = some "%s".toList) ∧ found.map strip = [username, password] := by
  cases agent with
  | none =>
    have parsed : parse [] (loginWords none ++ found) =
        ⟨"ad".toList, [], "verify".toList :: found.map strip⟩ := rfl
    rw [parsed]
    simp [Command.Same, Request.intended]
  | some uuid =>
    have parsed : parse [] (loginWords (some uuid) ++ found) =
        ⟨"ad".toList, [("uuid".toList, .text "%s".toList)],
          "verify".toList :: found.map strip⟩ := rfl
    have same : (∀ key, [("uuid".toList, OptionValue.text "%s".toList)].lookup key =
        [("uuid".toList, OptionValue.text uuid)].lookup key) ↔ uuid = "%s".toList := by
      constructor
      · intro all
        have found := all "uuid".toList
        simpa using found.symm
      · rintro rfl key
        rfl
    rw [parsed]
    simp only [Command.Same, Request.intended, Option.map_some, Option.toList_some, true_and,
      List.cons.injEq, reduceCtorEq, false_or, Option.some.injEq, same]
    exact and_comm

/-- The tokens of a login are its words and those of the strings. -/
theorem split_login (agent : Option Text) (rest : Text) (tokens : List Text) :
    (split (strip (' ' :: (spaced (loginWords agent) ++ rest))) = .ok tokens) ↔
      ∃ found, Shlex.tokens .blank (rest.rdropWhile isSpace) = .ok found ∧
        tokens = loginWords agent ++ found := by
  have plain : ∀ word ∈ loginWords agent, word ≠ [] ∧ ∀ char ∈ word, isPlain char = true := by
    cases agent <;> simp [loginWords] <;> decide
  unfold split
  rw [strip_adVerify, rdropWhile_append]
  split
  · rename_i nothing
    have words : Shlex.tokens .blank ((spaced (loginWords agent)).rdropWhile isSpace) =
        .ok (loginWords agent) := by
      cases agent <;> rfl
    rw [words, nothing]
    simp [Shlex.tokens, eq_comm]
  · rw [tokens_spaced _ plain]
    cases Shlex.tokens .blank (rest.rdropWhile isSpace) with
    | error fault => simp
    | ok found => simp [eq_comm]

/-- A login arrives if and only if its strings are words and no agent is meant. -/
theorem adVerify_arrives_iff (agent : Option Text) (username password : Text) :
    Arrives (Request.adVerify agent username password).line
        (Request.adVerify agent username password).intended ↔
      (Request.adVerify agent username password).Pasteable := by
  have reads : (∃ tokens, split (strip (Request.adVerify agent username password).line) =
        .ok tokens ∧ (parse [] tokens).Same
          (Request.adVerify agent username password).intended) ↔
      (agent = none ∨ agent = some "%s".toList) ∧
        ((∀ char ∈ username, isPlain char = true) ∧ strip username = username ∧ username ≠ []) ∧
          (∀ char ∈ password, isPlain char = true) ∧ strip password = password ∧
            password ≠ [] := by
    rw [← two_words, line_adVerify]
    simp only [split_login]
    constructor
    · rintro ⟨-, ⟨found, splits, rfl⟩, same⟩
      obtain ⟨noAgent, arrive⟩ := (same_login agent username password found).mp same
      exact ⟨noAgent, found, splits, arrive⟩
    · rintro ⟨noAgent, found, splits, arrive⟩
      exact ⟨_, ⟨found, splits, rfl⟩,
        (same_login agent username password found).mpr ⟨noAgent, arrive⟩⟩
  have ascii : (∀ char ∈ (Request.adVerify agent username password).line, isAscii char = true) ↔
      (∀ char ∈ username, isAscii char = true) ∧ ∀ char ∈ password, isAscii char = true := by
    have frame : ∀ char ∈ spaced (loginWords agent), isAscii char = true := by
      cases agent <;> simp [loginWords, spaced] <;> decide
    have blank : isAscii ' ' = true := rfl
    rw [line_adVerify]
    simp only [List.forall_mem_cons, List.forall_mem_append, blank, true_and]
    exact ⟨fun all => ⟨all.2.1, all.2.2⟩, fun all => ⟨frame, all.1, all.2⟩⟩
  unfold Arrives
  rw [reads, ascii]
  simp only [Request.Pasteable, IsWord]
  constructor
  · rintro ⟨⟨asciiUser, asciiPassword⟩, -, noAgent, ⟨plain, stripped, some⟩, others⟩
    exact ⟨noAgent, ⟨plain, stripped, asciiUser⟩, some, ⟨others.1, others.2.1, asciiPassword⟩,
      others.2.2⟩
  · rintro ⟨noAgent, ⟨plain, stripped, asciiUser⟩, some, ⟨otherPlain, otherStripped, asciiOther⟩,
      otherSome⟩
    refine ⟨⟨asciiUser, asciiOther⟩, ?_, noAgent, ⟨plain, stripped, some⟩, otherPlain,
      otherStripped, otherSome⟩
    have frame : '\n' ∉ spaced (loginWords agent) := by
      cases agent <;> simp [loginWords, spaced]
    have newline (text : Text) (kinds : ∀ char ∈ text, isPlain char = true) : '\n' ∉ text :=
      fun member => absurd (kinds _ member) (by decide)
    rw [line_adVerify]
    simp [frame, newline username plain, newline password otherPlain]

/-! ## A test of a cloud -/

/-- A text without blanks is not stripped. -/
theorem strip_of_none {text : Text} (none : ∀ char ∈ text, isSpace char = false) :
    strip text = text := by
  obtain ⟨before, after, whole, front, back⟩ := strip_infix text
  have noBefore : before = [] := by
    refine List.eq_nil_iff_forall_not_mem.mpr fun char member => ?_
    have inside : char ∈ text := by
      rw [whole]
      simp [member]
    exact absurd (front char member) (by simp [none char inside])
  have noAfter : after = [] := by
    refine List.eq_nil_iff_forall_not_mem.mpr fun char member => ?_
    have inside : char ∈ text := by
      rw [whole]
      simp [member]
    exact absurd (back char member) (by simp [none char inside])
  rw [noBefore, noAfter, List.nil_append, List.append_nil] at whole
  exact whole.symm

/-- Texts that are all among others have no more characters than they. -/
theorem length_flatten_le {needed given : List Text} (distinct : needed.Nodup)
    (among : needed ⊆ given) : needed.flatten.length ≤ given.flatten.length ∧
      needed.length ≤ given.length := by
  obtain ⟨some, perm, sublist⟩ := List.subperm_of_subset distinct among
  obtain ⟨others, whole⟩ := sublist.exists_perm_append
  have lengths := whole.flatten.length_eq
  have same := perm.flatten.length_eq
  have number := whole.length_eq
  have sameNumber := perm.length_eq
  rw [List.flatten_append, List.length_append] at lengths
  rw [List.length_append] at number
  omega

/-- The characters of a fixed text are plain and of ASCII if a look at each says so. -/
theorem plain_of_all {text : Text}
    (all : text.all (fun char => isPlain char && isAscii char) = true) :
    ∀ char ∈ text, isPlain char = true ∧ isAscii char = true := by
  intro char member
  have both := List.all_eq_true.mp all char member
  simpa using both

/-- The digits of a number are plain characters of ASCII. -/
theorem digits_plain (number : Nat) : ∀ char ∈ Nat.toDigits 10 number,
    isPlain char = true ∧ isSpace char = false ∧ isAscii char = true := by
  have digit : ∀ code < 58, 48 ≤ code → isPlain (Char.ofNat code) = true ∧
      isSpace (Char.ofNat code) = false ∧ isAscii (Char.ofNat code) = true := by
    decide
  intro char member
  have bounds := Char.isDigit_iff_toNat.mp
    (Nat.isDigit_of_mem_toDigits (by decide) (by decide) member)
  have low : 48 ≤ char.toNat := bounds.1
  have high : char.toNat ≤ 57 := bounds.2
  have same := digit char.toNat (by omega) low
  rwa [Char.ofNat_toNat] at same

/-- The digits of a ciphertext are plain characters of ASCII. -/
theorem b16encode_plain (bytes : List UInt8) : ∀ char ∈ b16encode bytes,
    isPlain char = true ∧ isSpace char = false ∧ isAscii char = true := by
  have digit : ∀ number < 16, isPlain (Nat.digitChar number).toUpper = true ∧
      isSpace (Nat.digitChar number).toUpper = false ∧
        isAscii (Nat.digitChar number).toUpper = true := by
    decide
  intro char member
  obtain ⟨byte, -, inside⟩ := List.mem_flatMap.mp member
  have bound := byte.toNat_lt
  simp only [List.mem_cons, List.not_mem_nil, or_false] at inside
  rcases inside with rfl | rfl
  · exact digit _ (by omega)
  · exact digit _ (by omega)

/-- The options of a test of a cloud, as they are written after the slash. -/
def cloudOptions (userid : Nat) (accessKey : Text) (cipher : List UInt8) (bucket : Text) :
    List (Text × Text) :=
  [("userid".toList, Nat.toDigits 10 userid), ("access-key".toList, accessKey),
    ("secret-key".toList, b16encode cipher), ("bucket".toList, bucket)]

/-- A key and its value as they are written. -/
def written (entry : Text × Text) : Text := entry.1 ++ '=' :: entry.2

/-- The words in front of a test of a cloud. -/
def cloudWords (userid : Nat) (cloud : CloudType) (accessKey : Text) (cipher : List UInt8)
    (bucket : Text) : List Text :=
  (cloudOptions userid accessKey cipher bucket).map (fun entry => '/' :: written entry) ++
    [cloud.name]

theorem line_cloudTest (userid : Nat) (cloud : CloudType) (accessKey : Text)
    (cipher : List UInt8) (bucket : Text) :
    (Request.cloudTest userid cloud accessKey cipher bucket).line =
      ' ' :: (spaced (cloudWords userid cloud accessKey cipher bucket) ++ "test".toList) := by
  have userid : useridOption userid = '/' :: written ("userid".toList, Nat.toDigits 10 userid) :=
    rfl
  have access : "/access-key=".toList ++ accessKey =
      '/' :: written ("access-key".toList, accessKey) := rfl
  have secret : "/secret-key=".toList ++ b16encode cipher =
      '/' :: written ("secret-key".toList, b16encode cipher) := rfl
  have buckets : "/bucket=".toList ++ bucket = '/' :: written ("bucket".toList, bucket) := rfl
  simp only [Request.line]
  rw [userid, access, secret, buckets]
  rfl

/-- The line of a test of a cloud has no blank at its ends but the first one. -/
theorem strip_cloudTest (userid : Nat) (cloud : CloudType) (accessKey : Text)
    (cipher : List UInt8) (bucket : Text) :
    strip (Request.cloudTest userid cloud accessKey cipher bucket).line =
      spaced (cloudWords userid cloud accessKey cipher bucket) ++ "test".toList := by
  have blank : isSpace ' ' = true := rfl
  have front (rest : Text) : strip (' ' :: rest) = strip rest := by
    simp [strip, blank]
  have ends : spaced (cloudWords userid cloud accessKey cipher bucket) ++ "test".toList =
      '/' :: ((spaced (cloudWords userid cloud accessKey cipher bucket)).drop 1 ++
        "tes".toList) ++ ['t'] := by
    simp [cloudWords, cloudOptions, spaced]
  rw [line_cloudTest, front, ends, strip_of_ends _ rfl rfl]

/-- The keys of the options have no equals sign and no blanks. -/
theorem cloudOptions_keys {userid : Nat} {accessKey bucket : Text} {cipher : List UInt8}
    {entry : Text × Text} (member : entry ∈ cloudOptions userid accessKey cipher bucket) :
    '=' ∉ entry.1 ∧ strip entry.1 = entry.1 ∧
      (∀ char ∈ entry.1, isPlain char = true ∧ isAscii char = true) := by
  have keys : ∀ key ∈ ["userid".toList, "access-key".toList, "secret-key".toList,
      "bucket".toList], '=' ∉ key ∧ strip key = key ∧
        key.all (fun char => isPlain char && isAscii char) = true := by
    decide
  obtain ⟨unsigned, stripped, plain⟩ := keys entry.1 (List.mem_map_of_mem (f := Prod.fst) member)
  exact ⟨unsigned, stripped, plain_of_all plain⟩

/-- The options that are meant are those that are written, the last one first. -/
theorem intended_cloudTest (userid : Nat) (cloud : CloudType) (accessKey : Text)
    (cipher : List UInt8) (bucket : Text) :
    (Request.cloudTest userid cloud accessKey cipher bucket).intended = ⟨cloud.name,
      ((cloudOptions userid accessKey cipher bucket).map fun entry =>
        (entry.1, OptionValue.text entry.2)).reverse, ["test".toList]⟩ := rfl

/-- If the values are not stripped, plain words are read as what is meant. -/
theorem parse_cloudWords (userid : Nat) (cloud : CloudType) (accessKey : Text)
    (cipher : List UInt8) (bucket : Text)
    (stripped : ∀ entry ∈ cloudOptions userid accessKey cipher bucket,
      strip entry.2 = entry.2) :
    parse [] (cloudWords userid cloud accessKey cipher bucket ++ ["test".toList]) =
      (Request.cloudTest userid cloud accessKey cipher bucket).intended := by
  have values : ((cloudOptions userid accessKey cipher bucket).map written).map keyValue =
      (cloudOptions userid accessKey cipher bucket).map fun entry =>
        (entry.1, OptionValue.text entry.2) := by
    rw [List.map_map]
    refine List.map_congr_left fun entry member => ?_
    obtain ⟨noSign, keyStripped, -⟩ := cloudOptions_keys member
    rw [Function.comp_apply, written, keyValue_text _ _ noSign, keyStripped,
      stripped entry member]
  have options : (cloudOptions userid accessKey cipher bucket).map
      (fun entry => '/' :: written entry) =
        ((cloudOptions userid accessKey cipher bucket).map written).map
          (fun option => '/' :: option) := by
    rw [List.map_map]
    rfl
  rw [cloudWords, options, List.append_assoc, parse_options, values, intended_cloudTest,
    List.append_nil]
  cases cloud <;> rfl

/-- Options that are given for all entries are at least as long as these. -/
theorem exists_options {given : List Text} (entries : List (Text × Text))
    (found : ∀ entry ∈ entries, ∃ option ∈ given,
      keyValue option = (entry.1, .text entry.2)) :
    ∃ needed : List Text, needed ⊆ given ∧
      needed.map keyValue = entries.map (fun entry => (entry.1, OptionValue.text entry.2)) ∧
        (entries.map written).flatten.length ≤ needed.flatten.length := by
  induction entries with
  | nil => exact ⟨[], List.nil_subset _, rfl, Nat.le_refl _⟩
  | cons entry more inductionHypothesis =>
    obtain ⟨⟨option, member, same⟩, remaining⟩ := List.forall_mem_cons.mp found
    obtain ⟨needed, among, values, length⟩ := inductionHypothesis remaining
    have longer := (length_of_keyValue same).1
    refine ⟨option :: needed, List.cons_subset.mpr ⟨member, among⟩, ?_, ?_⟩
    · rw [List.map_cons, List.map_cons, same, values]
    · simp only [List.map_cons, List.flatten_cons, List.length_append, written, List.length_cons]
        at length ⊢
      omega

/-- A slash in front of each of some texts. -/
theorem length_slashes (texts : List Text) :
    (texts.map fun text => '/' :: text).flatten.length = texts.flatten.length + texts.length := by
  induction texts with
  | nil => rfl
  | cons text more inductionHypothesis =>
    simp only [List.map_cons, List.flatten_cons, List.length_append, List.length_cons]
      at inductionHypothesis ⊢
    omega

/-- If a test of a cloud arrives, the tokens have at least its characters, and no value has
blanks around it. -/
theorem length_of_cloudTest {userid : Nat} {cloud : CloudType} {accessKey bucket : Text}
    {cipher : List UInt8} {found : List Text}
    (same : (parse [] found).Same
      (Request.cloudTest userid cloud accessKey cipher bucket).intended) :
    (cloudWords userid cloud accessKey cipher bucket).flatten.length + "test".toList.length ≤
        found.flatten.length ∧
      (cloudWords userid cloud accessKey cipher bucket).length + 1 ≤ found.length ∧
        ∀ entry ∈ cloudOptions userid accessKey cipher bucket, strip entry.2 = entry.2 := by
  obtain ⟨name, args, options⟩ := same
  rw [intended_cloudTest] at name args options
  have someName : cloud.name ≠ [] := by
    cases cloud <;> decide
  have named : (parse [] found).name ≠ [] := by
    rw [name]
    exact someName
  obtain ⟨given, raw, tokens, readArgs, readOptions⟩ := parse_inv [] found named
  rw [readArgs] at args
  obtain ⟨argument, rfl, arrives⟩ := List.map_eq_singleton_iff.mp args
  have longer := length_strip_le argument
  rw [arrives] at longer
  have distinct : (((cloudOptions userid accessKey cipher bucket).map fun entry =>
      (entry.1, OptionValue.text entry.2)).map Prod.fst).Nodup := by
    have keys : ["userid".toList, "access-key".toList, "secret-key".toList,
      "bucket".toList].Nodup := by decide
    exact keys
  have read : ∀ entry ∈ cloudOptions userid accessKey cipher bucket,
      ∃ option ∈ given, keyValue option = (entry.1, .text entry.2) := by
    intro entry member
    have meant : ((cloudOptions userid accessKey cipher bucket).map fun entry =>
        (entry.1, OptionValue.text entry.2)).reverse.lookup entry.1 = some (.text entry.2) := by
      simp only [cloudOptions, List.mem_cons, List.not_mem_nil, or_false] at member
      rcases member with rfl | rfl | rfl | rfl <;> rfl
    have looked := options entry.1
    rw [meant, readOptions, List.append_nil, List.lookup_eq_some_iff] at looked
    obtain ⟨before, after, whole, -⟩ := looked
    have listed : (entry.1, OptionValue.text entry.2) ∈ (given.map keyValue).reverse := by
      rw [whole]
      simp
    exact List.mem_map.mp (List.mem_reverse.mp listed)
  obtain ⟨needed, among, values, length⟩ := exists_options _ read
  have neededDistinct : needed.Nodup := by
    refine List.Nodup.of_map keyValue ?_
    rw [values]
    exact List.Nodup.of_map Prod.fst distinct
  obtain ⟨fewer, number⟩ := length_flatten_le neededDistinct among
  have count := congrArg List.length values
  rw [List.length_map, List.length_map] at count
  have foundLength := congrArg (fun texts : List Text => texts.flatten.length) tokens
  have foundNumber := congrArg List.length tokens
  have options_written : (cloudOptions userid accessKey cipher bucket).map
      (fun entry => '/' :: written entry) =
        ((cloudOptions userid accessKey cipher bucket).map written).map
          (fun option => '/' :: option) := by
    rw [List.map_map]
    rfl
  simp only [List.flatten_append, List.length_append, length_slashes, List.flatten_cons,
    List.flatten_nil, name, List.append_nil] at foundLength
  simp only [List.length_append, List.length_map, List.length_cons, List.length_nil]
    at foundNumber
  refine ⟨?_, ?_, fun entry member => ?_⟩
  · rw [cloudWords, options_written]
    simp only [List.flatten_append, List.length_append, length_slashes, List.flatten_cons,
      List.flatten_nil, List.append_nil, List.length_map]
    omega
  · rw [cloudWords, List.length_append, List.length_map, List.length_singleton]
    omega
  · obtain ⟨option, -, same⟩ := read entry member
    exact (length_of_keyValue same).2

/-- A property of the blank holds in words with blanks if and only if it holds in the words. -/
theorem forall_spaced {property : Char → Bool} (blank : property ' ' = true) (words : List Text) :
    (∀ char ∈ spaced words, property char = true) ↔
      ∀ char ∈ words.flatten, property char = true := by
  induction words with
  | nil => simp [spaced]
  | cons word more inductionHypothesis =>
    have unfolded : spaced (word :: more) = word ++ ' ' :: spaced more := by simp [spaced]
    rw [unfolded, List.flatten_cons, List.forall_mem_append, List.forall_mem_append,
      List.forall_mem_cons, inductionHypothesis]
    simp [blank]

/-- A property that the characters of the frame have holds in the words of a test if and only
if it holds in the two strings. -/
theorem forall_cloudWords {property : Char → Bool} (userid : Nat) (cloud : CloudType)
    (accessKey : Text) (cipher : List UInt8) (bucket : Text)
    (frame : ∀ char, isPlain char = true → isAscii char = true → property char = true) :
    (∀ char ∈ (cloudWords userid cloud accessKey cipher bucket).flatten,
      property char = true) ↔
        (∀ char ∈ accessKey, property char = true) ∧ ∀ char ∈ bucket, property char = true := by
  have name : ∀ char ∈ cloud.name, property char = true := by
    have plain : ∀ char ∈ cloud.name, isPlain char = true ∧ isAscii char = true := by
      cases cloud <;> exact plain_of_all (by decide)
    exact fun char member => frame char (plain char member).1 (plain char member).2
  have slash : property '/' = true := frame '/' rfl rfl
  have sign : property '=' = true := frame '=' rfl rfl
  have digits : ∀ char ∈ Nat.toDigits 10 userid, property char = true := fun char member =>
    frame char (digits_plain userid char member).1 (digits_plain userid char member).2.2
  have hex : ∀ char ∈ b16encode cipher, property char = true := fun char member =>
    frame char (b16encode_plain cipher char member).1 (b16encode_plain cipher char member).2.2
  have keys : ∀ entry ∈ cloudOptions userid accessKey cipher bucket,
      ∀ char ∈ entry.1, property char = true := fun entry listed char member =>
    frame char ((cloudOptions_keys listed).2.2 char member).1
      ((cloudOptions_keys listed).2.2 char member).2
  simp only [cloudOptions, List.forall_mem_cons] at keys
  obtain ⟨useridKey, accessKeyKey, secretKey, bucketKey, -⟩ := keys
  simp only [cloudWords, cloudOptions, written, List.map_cons, List.map_nil, List.cons_append,
    List.nil_append, List.flatten_cons, List.flatten_nil, List.append_nil]
  simp only [List.forall_mem_append, List.forall_mem_cons, and_assoc]
  constructor
  · rintro ⟨-, -, -, -, -, -, -, access, -, -, -, -, -, -, -, goal, -⟩
    exact ⟨access, goal⟩
  · rintro ⟨access, goal⟩
    exact ⟨slash, useridKey, sign, digits, slash, accessKeyKey, sign, access, slash, secretKey,
      sign, hex, slash, bucketKey, sign, goal, name⟩

/-- A test of a cloud arrives if and only if its strings are words. -/
theorem cloudTest_arrives_iff (userid : Nat) (cloud : CloudType) (accessKey : Text)
    (cipher : List UInt8) (bucket : Text) :
    Arrives (Request.cloudTest userid cloud accessKey cipher bucket).line
        (Request.cloudTest userid cloud accessKey cipher bucket).intended ↔
      (Request.cloudTest userid cloud accessKey cipher bucket).Pasteable := by
  have test : ∀ char ∈ "test".toList, isAscii char = true ∧ isPlain char = true :=
    fun char member => (plain_of_all (by decide) char member).symm
  have ascii : (∀ char ∈ (Request.cloudTest userid cloud accessKey cipher bucket).line,
      isAscii char = true) ↔
        (∀ char ∈ accessKey, isAscii char = true) ∧ ∀ char ∈ bucket, isAscii char = true := by
    have blank : isAscii ' ' = true := rfl
    rw [line_cloudTest, List.forall_mem_cons, List.forall_mem_append, forall_spaced blank,
      forall_cloudWords _ _ _ _ _ fun char _ ascii => ascii]
    exact ⟨fun all => all.2.1, fun all => ⟨blank, all, fun char member => (test char member).1⟩⟩
  unfold Arrives
  rw [ascii, strip_cloudTest]
  constructor
  · rintro ⟨⟨asciiAccess, asciiBucket⟩, -, found, splits, same⟩
    obtain ⟨chars, number, stripped⟩ := length_of_cloudTest same
    obtain ⟨-, plain, -⟩ := plain_of_split (List.prefix_refl _) splits chars number
    obtain ⟨plainWords, -⟩ := List.forall_mem_append.mp plain
    obtain ⟨plainAccess, plainBucket⟩ :=
      (forall_cloudWords _ _ _ _ _ fun char plain _ => plain).mp plainWords
    exact ⟨⟨plainAccess, stripped ("access-key".toList, accessKey) (by simp [cloudOptions]),
      asciiAccess⟩, plainBucket, stripped ("bucket".toList, bucket) (by simp [cloudOptions]),
      asciiBucket⟩
  · rintro ⟨⟨plainAccess, strippedAccess, asciiAccess⟩, plainBucket, strippedBucket, asciiBucket⟩
    have plain : ∀ char ∈ (cloudWords userid cloud accessKey cipher bucket).flatten,
        isPlain char = true :=
      (forall_cloudWords _ _ _ _ _ fun char plain _ => plain).mpr ⟨plainAccess, plainBucket⟩
    have stripped : ∀ entry ∈ cloudOptions userid accessKey cipher bucket,
        strip entry.2 = entry.2 := by
      have digits : strip (Nat.toDigits 10 userid) = Nat.toDigits 10 userid :=
        strip_of_none fun char member => (digits_plain userid char member).2.1
      have hex : strip (b16encode cipher) = b16encode cipher :=
        strip_of_none fun char member => (b16encode_plain cipher char member).2.1
      simp only [cloudOptions, List.forall_mem_cons]
      exact ⟨digits, strippedAccess, hex, strippedBucket, fun entry member =>
        absurd member List.not_mem_nil⟩
    have words : ∀ word ∈ cloudWords userid cloud accessKey cipher bucket,
        word ≠ [] ∧ ∀ char ∈ word, isPlain char = true := by
      intro word listed
      refine ⟨?_, fun char member => plain char (List.mem_flatten.mpr ⟨word, listed, member⟩)⟩
      rcases List.mem_append.mp listed with option | name
      · obtain ⟨entry, -, rfl⟩ := List.mem_map.mp option
        exact List.cons_ne_nil _ _
      · obtain rfl := List.mem_singleton.mp name
        cases cloud <;> decide
    have last : tokens .blank "test".toList = .ok ["test".toList] := rfl
    have kept : ∀ char ∈ (spaced (cloudWords userid cloud accessKey cipher bucket)),
        (char != '\n') = true := by
      refine (forall_spaced (by decide) _).mpr fun char member => ?_
      rw [bne_iff_ne]
      rintro rfl
      exact absurd (plain _ member) (by decide)
    refine ⟨⟨asciiAccess, asciiBucket⟩, ?_,
      cloudWords userid cloud accessKey cipher bucket ++ ["test".toList], ?_, ?_⟩
    · rw [line_cloudTest]
      simp only [List.mem_cons, List.mem_append]
      rintro (blank | inWords | inTest)
      · exact absurd blank (by decide)
      · exact absurd (kept _ inWords) (by decide)
      · exact absurd inTest (by decide)
    · rw [split, tokens_spaced _ words, last]
      rfl
    · rw [parse_cloudWords _ _ _ _ _ stripped]
      exact ⟨rfl, rfl, fun key => rfl⟩

end Palette.Telnet
