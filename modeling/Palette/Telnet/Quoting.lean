import Palette.Telnet.Arrival

/-!
# Which quoted strings arrive

Within quotes the characters are counted: those that get lost are the quotes and the blank in
front of each string, so that no string holds a quote and no backslash is taken for an escape.
-/

namespace Palette.Telnet

open Palette.Foundation Palette.Foundation.Shlex

/-! ## Counting -/

/-- What is stripped from some texts. -/
theorem stripped_of_texts (texts : List Text) : ∃ extras : Text,
    (∀ char ∈ extras, isSpace char = true) ∧
      (∀ counted, texts.flatten.count counted =
        (texts.map strip).flatten.count counted + extras.count counted) ∧
          (extras = [] → texts.map strip = texts) := by
  induction texts with
  | nil => exact ⟨[], by simp, by simp, fun _ => rfl⟩
  | cons text others inductionHypothesis =>
    obtain ⟨extras, spaces, counts, same⟩ := inductionHypothesis
    obtain ⟨before, after, whole, front, back⟩ := strip_infix text
    refine ⟨before ++ after ++ extras, ?_, fun counted => ?_, fun nothing => ?_⟩
    · simp only [List.forall_mem_append]
      exact ⟨⟨front, back⟩, spaces⟩
    · have one := congrArg (List.count counted) whole
      have more := counts counted
      simp only [List.map_cons, List.flatten_cons, List.count_append] at one more ⊢
      omega
    · simp only [List.append_eq_nil_iff] at nothing
      rw [nothing.1.1, nothing.1.2, List.nil_append, List.append_nil] at whole
      rw [List.map_cons, ← whole, same nothing.2]

/-- Quoted texts arrive if and only if they stand for themselves and nothing is stripped. -/
theorem pasted_iff (texts : List Text) :
    (∃ found, tokens .blank (pasted texts) = .ok found ∧ found.map strip = texts) ↔
      ∀ text ∈ texts, Literal text ∧ strip text = text := by
  constructor
  · rintro ⟨found, splits, arrive⟩
    have number : found.length = texts.length := by rw [← arrive, List.length_map]
    obtain ⟨extras, spaces, counts, same⟩ := stripped_of_texts found
    -- The characters around the texts are those that get lost and those that are stripped.
    have around (counted : Char) : texts.length * [' ', '"', '"'].count counted =
        extras.count counted + (lost .blank (pasted texts)).count counted := by
      have whole := (perm_tokens .blank (pasted texts) splits).count_eq counted
      have parts := counts counted
      rw [arrive] at parts
      rw [List.count_append, List.count_append, count_pasted] at whole
      simp only [Mode.held, List.count_nil] at whole
      omega
    have kinds (char : Char) (member : char ∈ extras ∨ char ∈ lost .blank (pasted texts)) :
        char = ' ' ∨ char = '"' := by
      by_contra neither
      simp only [not_or] at neither
      have none := around char
      have blank : ¬ ' ' = char := fun same => neither.1 same.symm
      have mark : ¬ '"' = char := fun same => neither.2 same.symm
      simp only [List.count_cons, List.count_nil, beq_iff_eq, blank, mark, ite_false] at none
      rcases member with inExtras | inLost
      · have some := List.count_pos_iff.mpr inExtras
        omega
      · have some := List.count_pos_iff.mpr inLost
        omega
    have blanks := length_le_of_pasted splits number
    have lostBlanks : (lost .blank (pasted texts)).countP isBlank =
        (lost .blank (pasted texts)).count ' ' := by
      refine List.countP_congr fun char member => ?_
      rcases kinds char (.inr member) with rfl | rfl
      · decide
      · decide
    have nothing : extras = [] := by
      refine List.eq_nil_iff_forall_not_mem.mpr fun char member => ?_
      rcases kinds char (.inl member) with rfl | rfl
      · have some := List.count_pos_iff.mpr member
        have all := around ' '
        have one : [' ', '"', '"'].count ' ' = 1 := rfl
        rw [one] at all
        omega
      · exact absurd (spaces _ member) (by decide)
    have unchanged : found = texts := by rw [← arrive, same nothing]
    have slash : '\\' ∉ lost .blank (pasted texts) := fun member =>
      absurd (kinds _ (.inr member)) (by decide)
    have single : '\'' ∉ lost .blank (pasted texts) := fun member =>
      absurd (kinds _ (.inr member)) (by decide)
    have noMark : ∀ text ∈ texts, '"' ∉ text := by
      intro text listed member
      have some := List.count_pos_iff.mpr (List.mem_flatten.mpr ⟨text, listed, member⟩)
      have marks := count_mark .blank (pasted texts) rfl slash single
      have all := around '"'
      rw [count_pasted] at marks
      omega
    intro text listed
    refine ⟨literal_of_pasted noMark slash text listed, ?_⟩
    rw [unchanged] at arrive
    exact List.map_inj_left.mp (arrive.trans (List.map_id texts).symm) text listed
  · intro all
    refine ⟨texts, tokens_pasted fun text listed => (all text listed).1, ?_⟩
    exact (List.map_congr_left fun text listed => (all text listed).2).trans (List.map_id texts)

/-! ## A restore -/

/-- The options of a restore, as they are written after the slash. -/
def restoreOptions (userid : Nat) (noconfig nobackup nolicense : Bool) : List Text :=
  written ("userid".toList, Nat.toDigits 10 userid) ::
    (restoreFlags noconfig nobackup nolicense).map (List.drop 1)

/-- The words in front of the strings of a restore. -/
def restoreWords (userid : Nat) (source : RestoreSource) (noconfig nobackup nolicense : Bool) :
    List Text :=
  (restoreOptions userid noconfig nobackup nolicense).map (fun option => '/' :: option) ++
    [source.name]

/-- The strings of a restore. -/
def restoreTexts (source : RestoreSource) (password : Text) : List Text :=
  source.text :: if password = [] then [] else [password]

theorem line_restore (userid : Nat) (source : RestoreSource) (password : Text)
    (noconfig nobackup nolicense : Bool) :
    (Request.restore userid source password noconfig nobackup nolicense).line =
      ' ' :: (spaced (restoreWords userid source noconfig nobackup nolicense) ++
        (pasted (restoreTexts source password)).drop 1) := by
  have words : [useridOption userid] ++ restoreFlags noconfig nobackup nolicense ++ [source.name] =
      restoreWords userid source noconfig nobackup nolicense := by
    have userid : useridOption userid =
        '/' :: written ("userid".toList, Nat.toDigits 10 userid) := rfl
    rw [userid]
    cases noconfig <;> cases nobackup <;> cases nolicense <;> rfl
  have texts : quoted source.text ++ (if password = [] then [] else ' ' :: quoted password) =
      (pasted (restoreTexts source password)).drop 1 := by
    rw [restoreTexts, pasted_cons]
    split
    · simp [quoted, pasted]
    · simp [quoted, pasted]
  simp only [Request.line]
  rw [words, List.append_assoc, texts]

/-- The line of a restore has no blank at its ends but the first one. -/
theorem strip_restore (userid : Nat) (source : RestoreSource) (password : Text)
    (noconfig nobackup nolicense : Bool) :
    strip (Request.restore userid source password noconfig nobackup nolicense).line =
      spaced (restoreWords userid source noconfig nobackup nolicense) ++
        (pasted (restoreTexts source password)).drop 1 := by
  have blank : isSpace ' ' = true := rfl
  have front (rest : Text) : strip (' ' :: rest) = strip rest := by
    simp [strip, blank]
  obtain ⟨words, begins⟩ : ∃ rest,
      spaced (restoreWords userid source noconfig nobackup nolicense) = '/' :: rest :=
    ⟨_, rfl⟩
  obtain ⟨texts, finishes⟩ : ∃ rest,
      (pasted (restoreTexts source password)).drop 1 = rest ++ ['"'] := by
    unfold restoreTexts
    split
    · exact ⟨'"' :: source.text, by simp [pasted, quoted]⟩
    · exact ⟨'"' :: (source.text ++ '"' :: ' ' :: '"' :: password), by simp [pasted, quoted]⟩
  rw [line_restore, front, begins, finishes, ← List.append_assoc, List.cons_append,
    strip_of_ends _ rfl rfl]

/-- The words of a restore are plain. -/
theorem restoreWords_plain (userid : Nat) (source : RestoreSource)
    (noconfig nobackup nolicense : Bool) :
    ∀ word ∈ restoreWords userid source noconfig nobackup nolicense,
      word ≠ [] ∧ ∀ char ∈ word, isPlain char = true ∧ isAscii char = true := by
  have flags : ∀ flag ∈ (restoreFlags noconfig nobackup nolicense).map (List.drop 1),
      ('/' :: flag).all (fun char => isPlain char && isAscii char) = true := by
    cases noconfig <;> cases nobackup <;> cases nolicense <;> decide
  have id : ∀ char ∈ '/' :: written ("userid".toList, Nat.toDigits 10 userid),
      isPlain char = true ∧ isAscii char = true := by
    have key : ∀ char ∈ '/' :: "userid".toList ++ ['='],
      isPlain char = true ∧ isAscii char = true := plain_of_all (by decide)
    intro char member
    have split : char ∈ '/' :: "userid".toList ++ ['='] ∨ char ∈ Nat.toDigits 10 userid := by
      rw [← List.mem_append]
      exact member
    rcases split with inKey | inDigits
    · exact key char inKey
    · exact ⟨(digits_plain userid char inDigits).1, (digits_plain userid char inDigits).2.2⟩
  have name : source.name ≠ [] ∧ ∀ char ∈ source.name, isPlain char = true ∧
      isAscii char = true := by
    have names : ∀ name ∈ ["restore".toList, "restore-url".toList], name ≠ [] ∧
        name.all (fun char => isPlain char && isAscii char) = true := by decide
    have listed : source.name ∈ ["restore".toList, "restore-url".toList] := by
      cases source with
      | filename text => exact List.mem_cons_self
      | url address => exact List.mem_cons_of_mem _ List.mem_cons_self
    exact ⟨(names _ listed).1, plain_of_all (names _ listed).2⟩
  intro word listed
  rcases List.mem_append.mp listed with option | isName
  · obtain ⟨flag, member, rfl⟩ := List.mem_map.mp option
    refine ⟨List.cons_ne_nil _ _, ?_⟩
    rcases List.mem_cons.mp member with rfl | inFlags
    · exact id
    · exact plain_of_all (flags flag inFlags)
  · rw [List.mem_singleton.mp isName]
    exact name

/-- The order of options with one value does not matter. -/
theorem lookup_of_const {options : Options} {value : OptionValue}
    (same : ∀ entry ∈ options, entry.2 = value) (key : Text) :
    options.lookup key = if key ∈ options.map Prod.fst then some value else none := by
  induction options with
  | nil => rfl
  | cons entry others inductionHypothesis =>
    obtain ⟨first, remaining⟩ := List.forall_mem_cons.mp same
    rw [List.lookup_cons, inductionHypothesis remaining, List.map_cons]
    by_cases found : key = entry.1
    · simp [found, first]
    · rw [beq_false_of_ne found]
      simp only [List.mem_cons, found, false_or]

theorem lookup_reverse_of_const {options : Options} {value : OptionValue}
    (same : ∀ entry ∈ options, entry.2 = value) (key : Text) :
    options.reverse.lookup key = options.lookup key := by
  have reversed : ∀ entry ∈ options.reverse, entry.2 = value := fun entry member =>
    same entry (List.mem_reverse.mp member)
  rw [lookup_of_const same, lookup_of_const reversed, List.map_reverse]
  simp only [List.mem_reverse]

/-- What a restore's tokens are read as. -/
theorem same_restore (userid : Nat) (source : RestoreSource) (password : Text)
    (noconfig nobackup nolicense : Bool) (found : List Text) :
    (parse [] (restoreWords userid source noconfig nobackup nolicense ++ found)).Same
        (Request.restore userid source password noconfig nobackup nolicense).intended ↔
      found.map strip = restoreTexts source password := by
  have id : keyValue (written ("userid".toList, Nat.toDigits 10 userid)) = useridEntry userid := by
    have digits : strip (Nat.toDigits 10 userid) = Nat.toDigits 10 userid :=
      strip_of_none fun char member => (digits_plain userid char member).2.1
    have noSign : '=' ∉ "userid".toList := by decide
    rw [written, keyValue_text _ _ noSign, digits]
    rfl
  have flags : ((restoreFlags noconfig nobackup nolicense).map (List.drop 1)).map keyValue =
      (restoreFlags noconfig nobackup nolicense).map fun flag => (flag.drop 1, .none) := by
    cases noconfig <;> cases nobackup <;> cases nolicense <;> rfl
  have named : parse (((restoreOptions userid noconfig nobackup nolicense).map keyValue).reverse)
      (source.name :: found) =
        ⟨source.name, ((restoreOptions userid noconfig nobackup nolicense).map keyValue).reverse,
          found.map strip⟩ := by
    cases source <;> rfl
  have options (key : Text) :
      ((restoreOptions userid noconfig nobackup nolicense).map keyValue).reverse.lookup key =
        (((restoreFlags noconfig nobackup nolicense).map fun flag =>
          (flag.drop 1, OptionValue.none)) ++ [useridEntry userid]).lookup key := by
    have nothing : ∀ entry ∈ (restoreFlags noconfig nobackup nolicense).map fun flag =>
        (flag.drop 1, OptionValue.none), entry.2 = .none := by
      simp
    rw [restoreOptions, List.map_cons, id, flags, List.reverse_cons, List.lookup_append,
      List.lookup_append, lookup_reverse_of_const nothing]
  rw [restoreWords, List.append_assoc, parse_options, List.append_nil, List.singleton_append, named]
  constructor
  · rintro ⟨-, args, -⟩
    exact args
  · intro args
    exact ⟨rfl, args, options⟩

/-- A property of the blank and the quote holds in quoted texts if and only if it holds in
the texts. -/
theorem forall_pasted {property : Char → Bool} (blank : property ' ' = true)
    (mark : property '"' = true) (texts : List Text) :
    (∀ char ∈ pasted texts, property char = true) ↔
      ∀ text ∈ texts, ∀ char ∈ text, property char = true := by
  induction texts with
  | nil => simp [pasted]
  | cons text others inductionHypothesis =>
    rw [pasted_cons, List.forall_mem_cons, List.forall_mem_cons, List.forall_mem_append,
      List.forall_mem_cons, List.forall_mem_cons, inductionHypothesis]
    simp [blank, mark]

/-- A password that is missing has any property of the empty text. -/
theorem forall_restoreTexts (property : Text → Prop) (empty : property []) (source : RestoreSource)
    (password : Text) : (∀ text ∈ restoreTexts source password, property text) ↔
      property source.text ∧ property password := by
  unfold restoreTexts
  split
  · rename_i none
    simp [none, empty]
  · simp

/-- A property that the characters of the frame have holds in the line of a restore if and only
if it holds in the two strings. -/
theorem forall_restore {property : Char → Bool} (userid : Nat) (source : RestoreSource)
    (password : Text) (noconfig nobackup nolicense : Bool) (blank : property ' ' = true)
    (mark : property '"' = true)
    (frame : ∀ char, isPlain char = true → isAscii char = true → property char = true) :
    (∀ char ∈ (Request.restore userid source password noconfig nobackup nolicense).line,
      property char = true) ↔
        (∀ char ∈ source.text, property char = true) ∧
          ∀ char ∈ password, property char = true := by
  have inWords : ∀ char ∈ spaced (restoreWords userid source noconfig nobackup nolicense),
      property char = true := by
    refine (forall_spaced blank _).mpr fun char member => ?_
    obtain ⟨word, listed, inside⟩ := List.mem_flatten.mp member
    obtain ⟨-, kinds⟩ := restoreWords_plain userid source noconfig nobackup nolicense word listed
    exact frame char (kinds char inside).1 (kinds char inside).2
  have inTexts : (∀ char ∈ (pasted (restoreTexts source password)).drop 1,
      property char = true) ↔ ∀ char ∈ pasted (restoreTexts source password),
        property char = true := by
    rw [restoreTexts, pasted_cons, List.forall_mem_cons, List.drop_one, List.tail_cons]
    simp [blank]
  rw [line_restore, List.forall_mem_cons, List.forall_mem_append, inTexts,
    forall_pasted blank mark,
    forall_restoreTexts (fun text => ∀ char ∈ text, property char = true) (by simp)]
  exact ⟨fun all => all.2.2, fun all => ⟨blank, inWords, all⟩⟩

/-- The tokens of a restore are what is meant if and only if its strings come out of the
quotes. -/
theorem restore_reads_iff (userid : Nat) (source : RestoreSource) (password : Text)
    (noconfig nobackup nolicense : Bool) :
    (∃ tokens,
      split (strip (Request.restore userid source password noconfig nobackup nolicense).line) =
        .ok tokens ∧ (parse [] tokens).Same
          (Request.restore userid source password noconfig nobackup nolicense).intended) ↔
      ∀ text ∈ restoreTexts source password, Literal text ∧ strip text = text := by
  have words := restoreWords_plain userid source noconfig nobackup nolicense
  rw [← pasted_iff, strip_restore, split, tokens_spaced _ fun word listed =>
    ⟨(words word listed).1, fun char member => ((words word listed).2 char member).1⟩]
  have begins : Shlex.tokens .blank ((pasted (restoreTexts source password)).drop 1) =
      Shlex.tokens .blank (pasted (restoreTexts source password)) := by
    rw [restoreTexts, pasted_cons]
    rfl
  rw [begins]
  cases Shlex.tokens .blank (pasted (restoreTexts source password)) with
  | error fault => simp
  | ok found => simp [same_restore]

/-- A restore arrives if and only if its strings can be quoted. -/
theorem restore_arrives_iff (userid : Nat) (source : RestoreSource) (password : Text)
    (noconfig nobackup nolicense : Bool) :
    Arrives (Request.restore userid source password noconfig nobackup nolicense).line
        (Request.restore userid source password noconfig nobackup nolicense).intended ↔
      (Request.restore userid source password noconfig nobackup nolicense).Pasteable := by
  have newline : (∀ char ∈ (Request.restore userid source password noconfig nobackup
      nolicense).line, (char != '\n') = true) ↔
        (∀ char ∈ source.text, (char != '\n') = true) ∧
          ∀ char ∈ password, (char != '\n') = true := by
    refine forall_restore _ _ _ _ _ _ rfl rfl fun char plain _ => ?_
    rw [bne_iff_ne]
    rintro rfl
    exact absurd plain (by decide)
  have without (text : Text) : '\n' ∉ text ↔ ∀ char ∈ text, (char != '\n') = true := by
    constructor
    · intro none char member
      rw [bne_iff_ne]
      rintro rfl
      exact none member
    · intro all member
      exact absurd (all _ member) (by decide)
  unfold Arrives
  rw [restore_reads_iff, without, newline,
    forall_restore _ _ _ _ _ _ rfl rfl (fun char _ ascii => ascii),
    forall_restoreTexts (fun text => Literal text ∧ strip text = text)
      ⟨trivial, rfl⟩]
  simp only [Request.Pasteable, Quotable, without]
  constructor
  · rintro ⟨⟨asciiText, asciiPassword⟩, ⟨lineText, linePassword⟩, ⟨text, stripped⟩, password,
      passwordStripped⟩
    exact ⟨⟨text, stripped, lineText, asciiText⟩, password, passwordStripped, linePassword,
      asciiPassword⟩
  · rintro ⟨⟨text, stripped, lineText, asciiText⟩, password, passwordStripped, linePassword,
      asciiPassword⟩
    exact ⟨⟨asciiText, asciiPassword⟩, ⟨lineText, linePassword⟩, ⟨text, stripped⟩, password,
      passwordStripped⟩

/-! ## Any request -/

/-- The line of a request is read as what is meant if and only if its strings may be pasted. -/
theorem request_arrives_iff (request : Request) :
    Arrives request.line request.intended ↔ request.Pasteable := by
  cases request with
  | restore userid source password noconfig nobackup nolicense =>
    exact restore_arrives_iff userid source password noconfig nobackup nolicense
  | adVerify agent username password => exact adVerify_arrives_iff agent username password
  | cloudTest userid cloud accessKey cipher bucket =>
    exact cloudTest_arrives_iff userid cloud accessKey cipher bucket

/-- A password with a blank arrives as two arguments. -/
theorem password_with_blank_splits :
    ¬ ∀ request : Request, Arrives request.line request.intended := by
  intro all
  obtain ⟨-, -, -, ⟨plain, -⟩, -⟩ :=
    (adVerify_arrives_iff none "user".toList "pass word".toList).mp (all _)
  exact absurd (plain ' ' (by decide)) (by decide)

end Palette.Telnet
