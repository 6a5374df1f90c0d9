import Palette.Telnet.Reporting

/-!
# Which results can be decoded

The pieces of a JSON text are those of a JSON value whose strings are what is left of the
strings of the body. If no character becomes a quote or a backslash, the line that is written
is the text of this value, and reading it gives the value with its strings decoded.

A character that becomes a quote or a backslash moves the ends of strings. The line can still
be JSON by accident, so nothing is said about such bodies.
-/

namespace Palette.Telnet

open Palette.Foundation Palette.Foundation.Json

/-! ## The value that is written -/

/-- What holds of a value if it holds of its parts holds of every value. -/
@[elab_as_elim]
theorem Reported.induct {motive : Reported → Prop} (none : motive none)
    (bool : ∀ flag, motive (bool flag)) (number : ∀ numeral, motive (number numeral))
    (constant : ∀ name, motive (constant name)) (date : motive date)
    (text : ∀ string, motive (text string))
    (list : ∀ items, (∀ item ∈ items, motive item) → motive (list items))
    (dict : ∀ entries, (∀ entry ∈ entries, motive entry.2) → motive (dict entries)) :
    ∀ value, motive value := by
  intro value
  refine @Reported.rec motive (fun items => ∀ item ∈ items, motive item)
    (fun entries => ∀ entry ∈ entries, motive entry.2) (fun entry => motive entry.2)
    none bool number constant date text list dict ?_ ?_ ?_ ?_ ?_ value
  · exact fun item member => absurd member List.not_mem_nil
  · exact fun item items first others => List.forall_mem_cons.mpr ⟨first, others⟩
  · exact fun entry member => absurd member List.not_mem_nil
  · exact fun entry entries first others => List.forall_mem_cons.mpr ⟨first, others⟩
  · exact fun key value holds => holds

mutual

/-- The JSON value for a value whose characters are written as bytes. -/
def json (written : Nat → List Nat) : Reported → Value
  | .none => .null
  | .bool flag => .bool flag
  | .number numeral => .number numeral.literal
  | .constant name => .constant name
  | .date => .null
  | .text text => .text (text.content.flatMap written)
  | .list items => .list (jsonItems written items)
  | .dict entries => .object (jsonEntries written entries)

/-- The JSON values for items. -/
def jsonItems (written : Nat → List Nat) : List Reported → List Value
  | [] => []
  | item :: more => json written item :: jsonItems written more

/-- The members for entries. -/
def jsonEntries (written : Nat → List Nat) :
    List (PyText × Reported) → List (List Nat × Value)
  | [] => []
  | (key, value) :: more =>
    (key.content.flatMap written, json written value) :: jsonEntries written more

end

/-- Characters outside of ASCII are not written as quotes, backslashes or control characters. -/
def Plain (written : Nat → List Nat) (text : PyText) : Prop :=
  ∀ point ∈ text.content, 0x80 ≤ point → ∀ byte ∈ written point, isSpecial byte = false

/-- A text of ASCII is written as it is. -/
theorem flatMap_ascii {written : Nat → List Nat} (ascii : ∀ point < 0x80, written point = [point])
    {points : List Nat} (all : ∀ point ∈ points, point < 0x80) :
    points.flatMap written = points := by
  induction points with
  | nil => rfl
  | cons point more inductionHypothesis =>
    obtain ⟨first, others⟩ := List.forall_mem_cons.mp all
    rw [List.flatMap_cons, ascii point first, inductionHypothesis others, List.singleton_append]

/-- Escaping and writing a character commute. -/
theorem flatMap_escaped {written : Nat → List Nat}
    (ascii : ∀ point < 0x80, written point = [point]) {text : PyText} (plain : Plain written text)
    {point : Nat} (member : point ∈ text.content) :
    (escape point).flatMap written = (written point).flatMap escape := by
  by_cases below : point < 0x80
  · rw [flatMap_ascii ascii (escape_ascii below), ascii point below, List.flatMap_singleton]
  · have special : isSpecial point = false := by
      have bounds : quote < 0x80 ∧ backslash < 0x80 := by decide
      simp only [isSpecial, Bool.or_eq_false_iff, decide_eq_false_iff_not]
      omega
    rw [escape_of_not_special special, List.flatMap_singleton,
      flatMap_escape (plain point member (by omega))]

/-- Escaping and writing a string commute. -/
theorem flatMap_quoted {written : Nat → List Nat}
    (ascii : ∀ point < 0x80, written point = [point]) {text : PyText}
    (plain : Plain written text) :
    (quoted text.content).flatMap written = quoted (text.content.flatMap written) := by
  have mark : written quote = [quote] := ascii quote (by decide)
  have inner (points : List Nat) (part : ∀ point ∈ points, point ∈ text.content) :
      (points.flatMap escape).flatMap written = (points.flatMap written).flatMap escape := by
    induction points with
    | nil => rfl
    | cons point more inductionHypothesis =>
      obtain ⟨first, others⟩ := List.forall_mem_cons.mp part
      simp only [List.flatMap_cons, List.flatMap_append, flatMap_escaped ascii plain first,
        inductionHypothesis others]
  simp only [quoted, List.flatMap_cons, List.flatMap_append, List.flatMap_nil, mark,
    List.nil_append, List.append_nil, List.cons_append,
    inner text.content fun point member => member]

/-- A string is ASCII with quotes and escapes if and only if it is without. -/
theorem quoted_ascii_iff (points : List Nat) :
    (∀ byte ∈ quoted points, byte < 0x80) ↔ ∀ point ∈ points, point < 0x80 := by
  have mark : quote < 0x80 := by decide
  simp only [quoted, List.cons_append, List.forall_mem_cons, List.forall_mem_append,
    List.mem_flatMap, mark, true_and]
  constructor
  · rintro ⟨escaped, -⟩ point member
    by_contra large
    have special : isSpecial point = false := by
      have bounds : quote < 0x80 ∧ backslash < 0x80 := by decide
      simp only [isSpecial, Bool.or_eq_false_iff, decide_eq_false_iff_not]
      omega
    refine large (escaped point ⟨point, member, ?_⟩)
    rw [escape_of_not_special special]
    exact List.mem_singleton_self point
  · rintro small
    refine ⟨?_, fun byte member => absurd member List.not_mem_nil⟩
    rintro byte ⟨point, member, inside⟩
    exact escape_ascii (small point member) byte inside

/-- The pieces are those of a text: their kinds are those of the strings, and written they are
the text of the JSON value. -/
structure Fits (written : Nat → List Nat) (pieces texts : List PyText) (text : List Nat) :
    Prop where
  unicode : pieces.any PyText.isUnicode = texts.any PyText.isUnicode
  ascii : (pieces.all fun piece => piece.isUnicode || piece.isAscii) =
    texts.all fun piece => piece.isUnicode || piece.isAscii
  content : (∀ string ∈ texts, Plain written string) →
    (pieces.flatMap PyText.content).flatMap written = text

/-- A piece of the program's own. -/
theorem fits_own {written : Nat → List Nat} (ascii : ∀ point < 0x80, written point = [point])
    {content : List Nat} (small : ∀ byte ∈ content, byte < 0x80) :
    Fits written [.bytes content] [] content where
  unicode := rfl
  ascii := by simpa [PyText.isUnicode, PyText.isAscii, PyText.content] using small
  content := fun _ => by simpa [PyText.content] using flatMap_ascii ascii small

/-- Pieces after pieces. -/
theorem Fits.append {written : Nat → List Nat} {pieces texts others otherTexts : List PyText}
    {text otherText : List Nat} (first : Fits written pieces texts text)
    (second : Fits written others otherTexts otherText) :
    Fits written (pieces ++ others) (texts ++ otherTexts) (text ++ otherText) where
  unicode := by rw [List.any_append, List.any_append, first.unicode, second.unicode]
  ascii := by rw [List.all_append, List.all_append, first.ascii, second.ascii]
  content := fun plain => by
    obtain ⟨plainFirst, plainSecond⟩ := List.forall_mem_append.mp plain
    rw [List.flatMap_append, List.flatMap_append, first.content plainFirst,
      second.content plainSecond]

/-- A string. -/
theorem fits_string {written : Nat → List Nat} (ascii : ∀ point < 0x80, written point = [point])
    (string : PyText) : Fits written [encodeBasestring string] [string]
      (quoted (string.content.flatMap written)) where
  unicode := by cases string <;> rfl
  ascii := by
    cases string with
    | bytes content =>
      have same : (PyText.bytes (quoted content)).isAscii = (PyText.bytes content).isAscii := by
        rw [Bool.eq_iff_iff]
        simp only [PyText.isAscii, List.all_eq_true, decide_eq_true_eq]
        exact quoted_ascii_iff content
      simp only [encodeBasestring, List.all_cons, List.all_nil, same]
      rfl
    | unicode content => rfl
  content := fun plain => by
    have encoded : (encodeBasestring string).content = quoted string.content := by
      cases string <;> rfl
    rw [List.flatMap_singleton, encoded, flatMap_quoted ascii (plain string List.mem_cons_self)]

/-- The text is that of a value without dates whose pieces these are. -/
def Written (written : Nat → List Nat) (pieces : Option (List PyText)) (hasDate : Bool)
    (texts : List PyText) (text : List Nat) : Prop :=
  (hasDate = true → pieces = none) ∧
    (hasDate = false → ∃ found, pieces = some found ∧ Fits written found texts text)

/-- The pieces of items, if each item has its own. -/
theorem written_items {written : Nat → List Nat} (ascii : ∀ point < 0x80, written point = [point])
    {items : List Reported} (each : ∀ item ∈ items, Written written (chunks item) item.hasDate
      item.texts (json written item).render) :
    Written written (chunksItems items) (hasDateItems items) (textsItems items)
      (Value.renderItems (jsonItems written items)) := by
  induction items with
  | nil => exact ⟨fun date => absurd date Bool.false_ne_true, fun _ =>
      ⟨[], rfl, ⟨rfl, rfl, fun _ => rfl⟩⟩⟩
  | cons item more inductionHypothesis =>
    obtain ⟨⟨dated, undated⟩, others⟩ := List.forall_mem_cons.mp each
    obtain ⟨moreDated, moreUndated⟩ := inductionHypothesis others
    rw [chunksItems, hasDateItems, textsItems, jsonItems]
    constructor
    · intro either
      rcases Bool.or_eq_true_iff.mp either with first | later
      · rw [dated first]
      · rw [moreDated later]
        cases chunks item <;> rfl
    · intro neither
      obtain ⟨first, later⟩ := Bool.or_eq_false_iff.mp neither
      obtain ⟨pieces, found, fits⟩ := undated first
      obtain ⟨morePieces, moreFound, moreFits⟩ := moreUndated later
      rw [found, moreFound]
      refine ⟨_, rfl, ?_⟩
      cases more with
      | nil =>
        simpa [Value.renderItems, jsonItems, textsItems] using fits
      | cons next following =>
        have comma : Fits written [PyText.ofString ", "] [] (codes ", ") :=
          fits_own ascii (by decide)
        exact fits.append (comma.append moreFits)

/-- The pieces of entries, if each value has its own. -/
theorem written_entries {written : Nat → List Nat}
    (ascii : ∀ point < 0x80, written point = [point]) {entries : List (PyText × Reported)}
    (each : ∀ entry ∈ entries, Written written (chunks entry.2) entry.2.hasDate entry.2.texts
      (json written entry.2).render) :
    Written written (chunksEntries entries) (hasDateEntries entries) (textsEntries entries)
      (Value.renderMembers (jsonEntries written entries)) := by
  induction entries with
  | nil => exact ⟨fun date => absurd date Bool.false_ne_true, fun _ =>
      ⟨[], rfl, ⟨rfl, rfl, fun _ => rfl⟩⟩⟩
  | cons entry more inductionHypothesis =>
    obtain ⟨key, value⟩ := entry
    obtain ⟨⟨dated, undated⟩, others⟩ := List.forall_mem_cons.mp each
    obtain ⟨moreDated, moreUndated⟩ := inductionHypothesis others
    rw [chunksEntries, hasDateEntries, textsEntries, jsonEntries]
    constructor
    · intro either
      rcases Bool.or_eq_true_iff.mp either with first | later
      · rw [show chunks value = none from dated first]
      · rw [moreDated later]
        cases chunks value <;> rfl
    · intro neither
      obtain ⟨first, later⟩ := Bool.or_eq_false_iff.mp neither
      obtain ⟨pieces, found, fits⟩ := undated first
      obtain ⟨morePieces, moreFound, moreFits⟩ := moreUndated later
      rw [show chunks value = some pieces from found, moreFound]
      refine ⟨_, rfl, ?_⟩
      have colon : Fits written [PyText.ofString ": "] [] (codes ": ") :=
        fits_own ascii (by decide)
      have front := (fits_string ascii key).append (colon.append fits)
      cases more with
      | nil =>
        simpa [Value.renderMembers, jsonEntries, textsEntries] using front
      | cons next following =>
        have comma : Fits written [PyText.ofString ", "] [] (codes ", ") :=
          fits_own ascii (by decide)
        have all := front.append (comma.append moreFits)
        simpa [Value.renderMembers, jsonEntries] using all

/-- The pieces of a value are those of its JSON text. -/
theorem written_value {written : Nat → List Nat} (ascii : ∀ point < 0x80, written point = [point])
    (value : Reported) :
    Written written (chunks value) value.hasDate value.texts (json written value).render := by
  induction value using Reported.induct with
  | none => exact ⟨fun date => absurd date Bool.false_ne_true, fun _ =>
      ⟨_, rfl, fits_own ascii (by decide)⟩⟩
  | bool flag =>
    refine ⟨fun date => absurd date Bool.false_ne_true, fun _ => ⟨_, rfl, fits_own ascii ?_⟩⟩
    cases flag <;> decide
  | number numeral =>
    exact ⟨fun date => absurd date Bool.false_ne_true, fun _ => ⟨_, rfl, fits_own ascii
      fun byte member => (number_printable numeral.isNumber byte member).2⟩⟩
  | constant name =>
    refine ⟨fun date => absurd date Bool.false_ne_true, fun _ => ⟨_, rfl, fits_own ascii ?_⟩⟩
    cases name <;> decide
  | date => exact ⟨fun _ => rfl, fun noDate => absurd noDate.symm Bool.false_ne_true⟩
  | text string =>
    exact ⟨fun date => absurd date Bool.false_ne_true, fun _ =>
      ⟨_, rfl, fits_string ascii string⟩⟩
  | list items each =>
    obtain ⟨dated, undated⟩ := written_items ascii each
    refine ⟨fun date => by rw [chunks, dated date]; rfl, fun noDate => ?_⟩
    obtain ⟨pieces, found, fits⟩ := undated noDate
    rw [chunks, found]
    refine ⟨_, rfl, ?_⟩
    have start : Fits written [PyText.ofString "["] [] (codes "[") := fits_own ascii (by decide)
    have stop : Fits written [PyText.ofString "]"] [] (codes "]") := fits_own ascii (by decide)
    simpa [Value.render, json, Reported.texts, codes] using start.append (fits.append stop)
  | dict entries each =>
    obtain ⟨dated, undated⟩ := written_entries ascii each
    refine ⟨fun date => by rw [chunks, dated date]; rfl, fun noDate => ?_⟩
    obtain ⟨pieces, found, fits⟩ := undated noDate
    rw [chunks, found]
    refine ⟨_, rfl, ?_⟩
    have start : Fits written [PyText.ofString "\x7b"] [] (codes "\x7b") :=
      fits_own ascii (by decide)
    have stop : Fits written [PyText.ofString "\x7d"] [] (codes "\x7d") :=
      fits_own ascii (by decide)
    simpa [Value.render, json, Reported.texts, codes] using start.append (fits.append stop)

/-! ## What is decoded -/

theorem numeric_json (written : Nat → List Nat) (value : Reported) :
    (json written value).Numeric := by
  induction value using Reported.induct with
  | none => trivial
  | bool flag => trivial
  | number numeral => exact numeral.isNumber
  | constant name => trivial
  | date => trivial
  | text string => trivial
  | list items each =>
    rw [json, Value.Numeric]
    induction items with
    | nil => trivial
    | cons item more inductionHypothesis =>
      obtain ⟨first, others⟩ := List.forall_mem_cons.mp each
      exact ⟨first, inductionHypothesis others⟩
  | dict entries each =>
    rw [json, Value.Numeric]
    induction entries with
    | nil => trivial
    | cons entry more inductionHypothesis =>
      obtain ⟨first, others⟩ := List.forall_mem_cons.mp each
      exact ⟨first, inductionHypothesis others⟩

theorem flatMap_self (points : List Nat) : (points.flatMap fun point => [point]) = points := by
  induction points with
  | nil => rfl
  | cons point more inductionHypothesis =>
    rw [List.flatMap_cons, inductionHypothesis, List.singleton_append]

/-- A byte string stands for what it decodes to. -/
theorem points_of_bytes {text : PyText} (bytes : text.isUnicode = false) :
    text.points = utf8 text.content := by
  cases text with
  | bytes content => rfl
  | unicode content => cases bytes

/-- What byte strings become: it is a value that keeps the keys and the ASCII strings if they
are UTF-8, and nothing otherwise. -/
def FromBytes {Found : Type} (texts : List PyText) (decoded : Option Found)
    (keeps : Found → Prop) : Prop :=
  (∀ text ∈ texts, text.isUnicode = false) →
    ((∀ text ∈ texts, text.points.isSome = true) → ∃ found, decoded = some found ∧ keeps found) ∧
      ((∃ text ∈ texts, text.points = none) → decoded = none)

theorem fromBytes_items {items : List Reported} (each : ∀ item ∈ items,
      FromBytes item.texts (json (fun point => [point]) item).decode fun found =>
        Keeps item found ∧ found.standard = item.finite) :
    FromBytes (textsItems items)
      (Value.decodeItems (jsonItems (fun point => [point]) items)) fun found =>
        KeepsItems items found ∧ Value.standardItems found = finiteItems items := by
  induction items with
  | nil =>
    intro _
    constructor
    · exact fun _ => ⟨[], rfl, rfl, rfl⟩
    · rintro ⟨text, member, -⟩
      exact absurd member List.not_mem_nil
  | cons item more inductionHypothesis =>
    intro bytes
    rw [textsItems] at bytes ⊢
    obtain ⟨firstBytes, moreBytes⟩ := List.forall_mem_append.mp bytes
    obtain ⟨firstEach, others⟩ := List.forall_mem_cons.mp each
    obtain ⟨sound, unsound⟩ := firstEach firstBytes
    obtain ⟨moreSound, moreUnsound⟩ := inductionHypothesis others moreBytes
    rw [jsonItems, decodeItems_cons]
    constructor
    · intro all
      obtain ⟨firstTexts, moreTexts⟩ := List.forall_mem_append.mp all
      obtain ⟨first, found, keeps, standard⟩ := sound firstTexts
      obtain ⟨later, moreFound, moreKeeps, moreStandard⟩ := moreSound moreTexts
      rw [found, moreFound]
      refine ⟨first :: later, rfl, ⟨first, later, rfl, keeps, moreKeeps⟩, ?_⟩
      rw [Value.standardItems, finiteItems, standard, moreStandard]
    · rintro ⟨text, member, fails⟩
      rcases List.mem_append.mp member with inFirst | inMore
      · rw [unsound ⟨text, inFirst, fails⟩]
        rfl
      · rw [moreUnsound ⟨text, inMore, fails⟩]
        cases (json (fun point => [point]) item).decode <;> rfl

theorem fromBytes_entries {entries : List (PyText × Reported)} (each : ∀ entry ∈ entries,
      FromBytes entry.2.texts (json (fun point => [point]) entry.2).decode fun found =>
        Keeps entry.2 found ∧ found.standard = entry.2.finite) :
    FromBytes (textsEntries entries)
      (Value.decodeMembers (jsonEntries (fun point => [point]) entries)) fun found =>
        KeepsEntries entries found ∧ Value.standardMembers found = finiteEntries entries := by
  induction entries with
  | nil =>
    intro _
    constructor
    · exact fun _ => ⟨[], rfl, rfl, rfl⟩
    · rintro ⟨text, member, -⟩
      exact absurd member List.not_mem_nil
  | cons entry more inductionHypothesis =>
    obtain ⟨key, value⟩ := entry
    intro bytes
    rw [textsEntries, List.cons_append] at bytes ⊢
    obtain ⟨keyBytes, restBytes⟩ := List.forall_mem_cons.mp bytes
    obtain ⟨firstBytes, moreBytes⟩ := List.forall_mem_append.mp restBytes
    obtain ⟨firstEach, others⟩ := List.forall_mem_cons.mp each
    obtain ⟨sound, unsound⟩ := firstEach firstBytes
    obtain ⟨moreSound, moreUnsound⟩ := inductionHypothesis others moreBytes
    rw [jsonEntries, decodeMembers_cons, flatMap_self, ← points_of_bytes keyBytes]
    constructor
    · intro all
      obtain ⟨keyPoints, rest⟩ := List.forall_mem_cons.mp all
      obtain ⟨firstTexts, moreTexts⟩ := List.forall_mem_append.mp rest
      obtain ⟨points, decoded⟩ := Option.isSome_iff_exists.mp keyPoints
      obtain ⟨first, found, keeps, standard⟩ := sound firstTexts
      obtain ⟨later, moreFound, moreKeeps, moreStandard⟩ := moreSound moreTexts
      rw [decoded, show (json (fun point => [point]) value).decode = some first from found,
        moreFound]
      refine ⟨(points, first) :: later, rfl,
        ⟨points, first, later, rfl, decoded, keeps, moreKeeps⟩, ?_⟩
      rw [Value.standardMembers, finiteEntries, standard, moreStandard]
    · rintro ⟨text, member, fails⟩
      rcases List.mem_cons.mp member with rfl | inRest
      · rw [fails]
        rfl
      · rcases List.mem_append.mp inRest with inFirst | inMore
        · rw [show (json (fun point => [point]) value).decode = none from
            unsound ⟨text, inFirst, fails⟩]
          cases key.points <;> rfl
        · rw [moreUnsound ⟨text, inMore, fails⟩]
          cases key.points with
          | none => rfl
          | some points => cases (json (fun point => [point]) value).decode <;> rfl

/-- A value without unicode strings is decoded if and only if they are UTF-8. -/
theorem fromBytes_value (value : Reported) :
    FromBytes value.texts (json (fun point => [point]) value).decode fun found =>
      Keeps value found ∧ found.standard = value.finite := by
  have scalar (value : Reported) (found : Value) (noTexts : value.texts = [])
      (decoded : (json (fun point => [point]) value).decode = some found)
      (keeps : Keeps value found) (standard : found.standard = value.finite) :
      FromBytes value.texts (json (fun point => [point]) value).decode fun found =>
        Keeps value found ∧ found.standard = value.finite := by
    rw [noTexts]
    refine fun _ => ⟨fun _ => ⟨found, decoded, keeps, standard⟩, ?_⟩
    rintro ⟨text, member, -⟩
    exact absurd member List.not_mem_nil
  induction value using Reported.induct with
  | none => exact scalar _ _ rfl rfl trivial rfl
  | bool flag => exact scalar _ _ rfl rfl trivial rfl
  | number numeral => exact scalar _ _ rfl rfl trivial rfl
  | constant name => exact scalar _ _ rfl rfl trivial rfl
  | date => exact scalar _ _ rfl rfl trivial rfl
  | text string =>
    intro bytes
    have kind := bytes string List.mem_cons_self
    rw [json, flatMap_self, Value.decode, ← points_of_bytes kind]
    constructor
    · intro all
      obtain ⟨points, decoded⟩ := Option.isSome_iff_exists.mp (all string List.mem_cons_self)
      refine ⟨.text points, by rw [decoded]; rfl, fun ascii => ?_, rfl⟩
      have small : ∀ byte ∈ string.content, byte < 0x80 := by
        simpa [PyText.isAscii] using ascii
      rw [points_of_bytes kind, utf8_of_ascii small] at decoded
      rw [Option.some.inj decoded]
    · rintro ⟨text, member, fails⟩
      rw [List.mem_singleton.mp member] at fails
      rw [fails]
      rfl
  | list items each =>
    intro bytes
    obtain ⟨sound, unsound⟩ := fromBytes_items each bytes
    rw [json, Value.decode]
    constructor
    · intro all
      obtain ⟨found, decoded, keeps, standard⟩ := sound all
      exact ⟨.list found, by rw [decoded]; rfl, ⟨found, rfl, keeps⟩, standard⟩
    · intro fails
      rw [unsound fails]
      rfl
  | dict entries each =>
    intro bytes
    obtain ⟨sound, unsound⟩ := fromBytes_entries each bytes
    rw [json, Value.decode]
    constructor
    · intro all
      obtain ⟨found, decoded, keeps, standard⟩ := sound all
      exact ⟨.object found, by rw [decoded]; rfl, ⟨found, rfl, keeps⟩, standard⟩
    · intro fails
      rw [unsound fails]
      rfl

/-- Characters of ASCII are decoded as they are. -/
theorem decode_json {written : Nat → List Nat}
    (small : ∀ point, ∀ byte ∈ written point, byte < 0x80) (value : Reported) :
    (json written value).decode = some (json written value) := by
  have each (points : List Nat) :
      utf8 (points.flatMap written) = some (points.flatMap written) := by
    refine utf8_of_ascii fun byte member => ?_
    obtain ⟨point, -, inside⟩ := List.mem_flatMap.mp member
    exact small point byte inside
  induction value using Reported.induct with
  | none => rfl
  | bool flag => rfl
  | number numeral => rfl
  | constant name => rfl
  | date => rfl
  | text string => rw [json, Value.decode, each, Option.map_some]
  | list items all =>
    have inner : Value.decodeItems (jsonItems written items) = some (jsonItems written items) := by
      induction items with
      | nil => rfl
      | cons item more inductionHypothesis =>
        obtain ⟨first, others⟩ := List.forall_mem_cons.mp all
        rw [jsonItems, decodeItems_cons, first, inductionHypothesis others]
        rfl
    rw [json, Value.decode, inner, Option.map_some]
  | dict entries all =>
    have inner : Value.decodeMembers (jsonEntries written entries) =
        some (jsonEntries written entries) := by
      induction entries with
      | nil => rfl
      | cons entry more inductionHypothesis =>
        obtain ⟨key, value⟩ := entry
        obtain ⟨first, others⟩ := List.forall_mem_cons.mp all
        rw [jsonEntries, decodeMembers_cons, each, inductionHypothesis others,
          show (json written value).decode = some (json written value) from first]
        rfl
    rw [json, Value.decode, inner, Option.map_some]

/-- Writing leaves the constants where they are. -/
theorem standard_json (written : Nat → List Nat) (value : Reported) :
    (json written value).standard = value.finite := by
  induction value using Reported.induct with
  | none => rfl
  | bool flag => rfl
  | number numeral => rfl
  | constant name => rfl
  | date => rfl
  | text string => rfl
  | list items all =>
    rw [json, Value.standard, Reported.finite]
    induction items with
    | nil => rfl
    | cons item more inductionHypothesis =>
      obtain ⟨first, others⟩ := List.forall_mem_cons.mp all
      rw [jsonItems, Value.standardItems, finiteItems, first, inductionHypothesis others]
  | dict entries all =>
    rw [json, Value.standard, Reported.finite]
    induction entries with
    | nil => rfl
    | cons entry more inductionHypothesis =>
      obtain ⟨key, value⟩ := entry
      obtain ⟨first, others⟩ := List.forall_mem_cons.mp all
      rw [jsonEntries, Value.standardMembers, finiteEntries, inductionHypothesis others,
        show (json written value).standard = value.finite from first]

/-- A key that is normalised is the key if and only if it is ASCII. -/
theorem points_written_iff {written : Nat → List Nat}
    (ascii : ∀ point < 0x80, written point = [point])
    (small : ∀ point, ∀ byte ∈ written point, byte < 0x80) {key : PyText}
    (bytes : key.isUnicode = false → key.isAscii = true) :
    key.points = some (key.content.flatMap written) ↔ key.isAscii = true := by
  have isAscii_iff : key.isAscii = true ↔ ∀ point ∈ key.content, point < 0x80 := by
    simp [PyText.isAscii]
  constructor
  · intro same
    cases key with
    | bytes content => exact bytes rfl
    | unicode content =>
      have whole : content = content.flatMap written := Option.some.inj same
      rw [isAscii_iff]
      intro point member
      change point ∈ content at member
      rw [whole] at member
      obtain ⟨source, -, inside⟩ := List.mem_flatMap.mp member
      exact small source point inside
  · intro isAscii
    have all := isAscii_iff.mp isAscii
    rw [flatMap_ascii ascii all]
    cases key with
    | bytes content => exact utf8_of_ascii all
    | unicode content => rfl

theorem keepsItems_cons {item : Reported} {more : List Reported} {first : Value}
    {others : List Value} : KeepsItems (item :: more) (first :: others) ↔
      Keeps item first ∧ KeepsItems more others := by
  rw [KeepsItems]
  constructor
  · rintro ⟨found, later, same, keeps⟩
    obtain ⟨rfl, rfl⟩ := List.cons.inj same
    exact keeps
  · exact fun keeps => ⟨first, others, rfl, keeps⟩

theorem keepsEntries_cons {key : PyText} {value : Reported} {more : List (PyText × Reported)}
    {points : List Nat} {first : Value} {others : List (List Nat × Value)} :
    KeepsEntries ((key, value) :: more) ((points, first) :: others) ↔
      key.points = some points ∧ Keeps value first ∧ KeepsEntries more others := by
  rw [KeepsEntries]
  constructor
  · rintro ⟨foundPoints, found, later, same, keeps⟩
    obtain ⟨head, rfl⟩ := List.cons.inj same
    obtain ⟨rfl, rfl⟩ := Prod.mk.inj head
    exact keeps
  · exact fun keeps => ⟨points, first, others, rfl, keeps⟩

/-- A value that is normalised keeps the keys if and only if they are ASCII. -/
theorem keeps_json_iff {written : Nat → List Nat} (ascii : ∀ point < 0x80, written point = [point])
    (small : ∀ point, ∀ byte ∈ written point, byte < 0x80) (value : Reported)
    (bytes : ∀ text ∈ value.texts, text.isUnicode = false → text.isAscii = true) :
    Keeps value (json written value) ↔ ∀ key ∈ value.keys, key.isAscii = true := by
  induction value using Reported.induct with
  | none => simp [Keeps, Reported.keys]
  | bool flag => simp [Keeps, Reported.keys]
  | number numeral => simp [Keeps, Reported.keys]
  | constant name => simp [Keeps, Reported.keys]
  | date => simp [Keeps, Reported.keys]
  | text string =>
    have kept : Keeps (.text string) (json written (.text string)) := by
      intro isAscii
      have all : ∀ point ∈ string.content, point < 0x80 := by simpa [PyText.isAscii] using isAscii
      rw [json, flatMap_ascii ascii all]
    simp [kept, Reported.keys]
  | list items all =>
    have inner : KeepsItems items (jsonItems written items) ↔
        ∀ key ∈ keysItems items, key.isAscii = true := by
      rw [Reported.texts] at bytes
      induction items with
      | nil => simp [KeepsItems, jsonItems, keysItems]
      | cons item more inductionHypothesis =>
        obtain ⟨first, others⟩ := List.forall_mem_cons.mp all
        obtain ⟨firstBytes, moreBytes⟩ := List.forall_mem_append.mp bytes
        rw [keysItems, List.forall_mem_append, ← first firstBytes,
          ← inductionHypothesis others moreBytes, jsonItems, keepsItems_cons]
    rw [Reported.keys, ← inner]
    simp [Keeps, json]
  | dict entries all =>
    have inner : KeepsEntries entries (jsonEntries written entries) ↔
        ∀ key ∈ keysEntries entries, key.isAscii = true := by
      rw [Reported.texts] at bytes
      induction entries with
      | nil => simp [KeepsEntries, jsonEntries, keysEntries]
      | cons entry more inductionHypothesis =>
        obtain ⟨key, value⟩ := entry
        rw [textsEntries, List.cons_append] at bytes
        obtain ⟨first, others⟩ := List.forall_mem_cons.mp all
        obtain ⟨keyBytes, restBytes⟩ := List.forall_mem_cons.mp bytes
        obtain ⟨firstBytes, moreBytes⟩ := List.forall_mem_append.mp restBytes
        have keyIff := points_written_iff ascii small keyBytes
        have valueIff : Keeps value (json written value) ↔
            ∀ key ∈ value.keys, key.isAscii = true := first firstBytes
        rw [keysEntries, List.cons_append, List.forall_mem_cons, List.forall_mem_append,
          ← keyIff, ← valueIff, ← inductionHypothesis others moreBytes, jsonEntries,
          keepsEntries_cons]
    rw [Reported.keys, ← inner]
    simp [Keeps, json]

/-! ## The status -/

/-- A key that stands for a text of ASCII is equal to it. -/
theorem equal_of_points {key : PyText} {text : String} (ascii : ∀ byte ∈ codes text, byte < 0x80)
    (same : key.points = some (codes text)) : key.equal (PyText.ofString text) = true := by
  have content : key.content = codes text := by
    cases key with
    | bytes content => exact utf8_ascii same ascii
    | unicode content => exact Option.some.inj same
  have isAscii : key.isAscii = true := by
    simpa [PyText.isAscii, content] using ascii
  simp only [PyText.equal, content, PyText.ofString, isAscii, Bool.or_true, Bool.and_true,
    decide_eq_true_eq]
  rfl

/-- A key that is equal to a text of ASCII stands for it. -/
theorem points_of_equal {key : PyText} {text : String} (ascii : ∀ byte ∈ codes text, byte < 0x80)
    (same : key.equal (PyText.ofString text) = true) : key.points = some (codes text) := by
  simp only [PyText.equal, Bool.and_eq_true, decide_eq_true_eq] at same
  have content : key.content = codes text := same.1
  cases key with
  | bytes bytes =>
    change bytes = codes text at content
    rw [PyText.points, content, utf8_of_ascii ascii]
  | unicode points =>
    change points = codes text at content
    rw [PyText.points, content]

/-- Two keys that are equal to a text of ASCII are equal. -/
theorem equal_of_equal {key other : PyText} {text : String}
    (ascii : ∀ byte ∈ codes text, byte < 0x80) (same : key.equal (PyText.ofString text) = true)
    (otherSame : other.equal (PyText.ofString text) = true) : key.equal other = true := by
  simp only [PyText.equal, Bool.and_eq_true, decide_eq_true_eq] at same otherSame ⊢
  have content : key.content = codes text := same.1
  have otherContent : other.content = codes text := otherSame.1
  have isAscii : key.isAscii = true := by
    simpa [PyText.isAscii, content] using ascii
  exact ⟨content.trans otherContent.symm, by simp [isAscii]⟩

/-- After an assignment the key is there, with the new value only. -/
theorem assign_spec {entries : List (PyText × Reported)} (distinct : DistinctKeys entries)
    {key : String} (ascii : ∀ byte ∈ codes key, byte < 0x80) (value : Reported) :
    (∃ entry ∈ assign key value entries, entry.1.equal (PyText.ofString key) = true) ∧
      ∀ entry ∈ assign key value entries, entry.1.equal (PyText.ofString key) = true →
        entry.2 = value := by
  induction entries with
  | nil =>
    have self : (PyText.ofString key).equal (PyText.ofString key) = true := by
      simp [PyText.equal]
    simp [assign, self]
  | cons entry more inductionHypothesis =>
    obtain ⟨first, others⟩ := List.pairwise_cons.mp distinct
    obtain ⟨present, only⟩ := inductionHypothesis others
    rw [assign]
    by_cases found : entry.1.equal (PyText.ofString key) = true
    · rw [if_pos found]
      refine ⟨⟨_, List.mem_cons_self, found⟩, List.forall_mem_cons.mpr ⟨fun _ => rfl, ?_⟩⟩
      intro other member same
      have equal := equal_of_equal ascii found same
      rw [first other member] at equal
      cases equal
    · rw [if_neg found]
      obtain ⟨other, member, same⟩ := present
      exact ⟨⟨other, List.mem_cons_of_mem _ member, same⟩,
        List.forall_mem_cons.mpr ⟨fun equal => absurd equal found, only⟩⟩

/-- The members come from the entries, and the entries become members. -/
theorem keepsEntries_mem {entries : List (PyText × Reported)} {members : List (List Nat × Value)}
    (keeps : KeepsEntries entries members) :
    (∀ found ∈ members, ∃ entry ∈ entries, entry.1.points = some found.1 ∧
      Keeps entry.2 found.2) ∧
      ∀ entry ∈ entries, ∃ found ∈ members, entry.1.points = some found.1 := by
  induction entries generalizing members with
  | nil =>
    obtain rfl : members = [] := keeps
    exact ⟨fun found member => absurd member List.not_mem_nil,
      fun entry member => absurd member List.not_mem_nil⟩
  | cons entry more inductionHypothesis =>
    obtain ⟨key, value⟩ := entry
    obtain ⟨points, first, others, rfl, same, keepsFirst, keepsOthers⟩ := keeps
    obtain ⟨back, forth⟩ := inductionHypothesis keepsOthers
    constructor
    · refine List.forall_mem_cons.mpr ⟨⟨_, List.mem_cons_self, same, keepsFirst⟩, ?_⟩
      intro found member
      obtain ⟨entry, listed, holds⟩ := back found member
      exact ⟨entry, List.mem_cons_of_mem _ listed, holds⟩
    · refine List.forall_mem_cons.mpr ⟨⟨_, List.mem_cons_self, same⟩, ?_⟩
      intro entry listed
      obtain ⟨found, member, holds⟩ := forth entry listed
      exact ⟨found, List.mem_cons_of_mem _ member, holds⟩

/-- If the keys and the ASCII strings are kept, so is the status. -/
theorem member_status (body : Body) {members : List (List Nat × Value)}
    (keeps : KeepsEntries (withStatus body) members) :
    member "status" members = some (.text (codes (statusOf body))) := by
  have ascii : ∀ byte ∈ codes "status", byte < 0x80 := by decide
  obtain ⟨⟨entry, listed, isStatus⟩, only⟩ := assign_spec body.distinct ascii
    (.text (PyText.ofString (statusOf body)))
  obtain ⟨back, forth⟩ := keepsEntries_mem keeps
  obtain ⟨found, isMember, points⟩ := forth entry listed
  rw [points_of_equal ascii isStatus] at points
  have values : ∀ value, (codes "status", value) ∈ members →
      value = .text (codes (statusOf body)) := by
    intro value inMembers
    obtain ⟨other, otherListed, otherPoints, keepsOther⟩ := back _ inMembers
    have otherValue := only other otherListed (equal_of_points ascii otherPoints)
    rw [otherValue] at keepsOther
    refine keepsOther ?_
    unfold statusOf
    split <;> decide
  have pair : (codes "status", found.2) ∈ members.reverse := by
    rw [Option.some.inj points]
    exact List.mem_reverse.mpr isMember
  cases looked : members.reverse.lookup (codes "status") with
  | none =>
    have differs := List.lookup_eq_none_iff.mp looked _ pair
    simp at differs
  | some value =>
    obtain ⟨before, after, whole, -⟩ := List.lookup_eq_some_iff.mp looked
    have inMembers : (codes "status", value) ∈ members := by
      rw [← List.mem_reverse, whole]
      simp
    rw [member, looked, values value inMembers]

/-! ## The result -/

/-- The text that stands for a body that cannot be written is no JSON. -/
theorem fallback_fails (normalization : Normalization) (body : Body) :
    ¬Decodes (printClient normalization fallback) body := by
  rintro ⟨-, members, read, -⟩
  have none : loads (fallback.content ++ [0x0A]) = none := by decide +kernel
  have same : printClient normalization fallback = fallback.content ++ [0x0A] := rfl
  rw [same, none] at read
  cases read

/-- A line is decoded if its members are standard and keep the keys and the ASCII strings. -/
theorem decodes_iff {written : Nat → List Nat} (body : Body) :
    Decodes ((json written (.dict (withStatus body))).render ++ [0x0A]) body ↔
      ∃ members, Value.decodeMembers (jsonEntries written (withStatus body)) = some members ∧
        Value.standardMembers members = true ∧ KeepsEntries (withStatus body) members := by
  have numeric := numeric_json written (.dict (withStatus body))
  have read := loads_render _ numeric [0x0A] (by decide)
  have oneLine : 0x0A ∉ (json written (.dict (withStatus body))).render := fun member =>
    absurd (render_printable _ numeric _ member) (by decide)
  have status : (some (Value.text (codes (statusOf body))) = some (.text (codes "OK"))) ↔
      success body = true := by
    rw [Option.some.injEq, Value.text.injEq, statusOf]
    cases success body <;> decide
  unfold Decodes
  rw [read, json, Value.decode]
  constructor
  · rintro ⟨-, members, decoded, standard, keeps, -⟩
    obtain ⟨found, inner, same⟩ := Option.map_eq_some_iff.mp decoded
    obtain rfl := Value.object.inj same
    exact ⟨found, inner, standard, keeps⟩
  · rintro ⟨members, inner, standard, keeps⟩
    refine ⟨⟨_, rfl, oneLine⟩, members, by rw [inner]; rfl, standard, keeps, ?_⟩
    rw [member_status body keeps]
    exact status

/-- A line of unicode strings is decoded if and only if the numbers are finite and the keys are
ASCII. -/
theorem unicode_decodes_iff {written : Nat → List Nat}
    (ascii : ∀ point < 0x80, written point = [point])
    (small : ∀ point, ∀ byte ∈ written point, byte < 0x80) (body : Body)
    (bytes : ∀ text ∈ textsEntries (withStatus body),
      text.isUnicode = false → text.isAscii = true) :
    Decodes ((json written (.dict (withStatus body))).render ++ [0x0A]) body ↔
      finiteEntries (withStatus body) = true ∧
        ∀ key ∈ keysEntries (withStatus body), key.isAscii = true := by
  have decoded : Value.decodeMembers (jsonEntries written (withStatus body)) =
      some (jsonEntries written (withStatus body)) := by
    obtain ⟨found, inner, same⟩ :=
      Option.map_eq_some_iff.mp (decode_json small (.dict (withStatus body)))
    rw [inner, Value.object.inj same]
  have standard : Value.standardMembers (jsonEntries written (withStatus body)) =
      finiteEntries (withStatus body) := standard_json written (.dict (withStatus body))
  have keeps : KeepsEntries (withStatus body) (jsonEntries written (withStatus body)) ↔
      ∀ key ∈ keysEntries (withStatus body), key.isAscii = true := by
    have whole := keeps_json_iff ascii small (.dict (withStatus body)) bytes
    rw [Reported.keys] at whole
    rw [← whole]
    simp [Keeps, json]
  rw [decodes_iff, decoded]
  constructor
  · rintro ⟨members, same, isStandard, kept⟩
    obtain rfl := Option.some.inj same
    exact ⟨standard.symm.trans isStandard, keeps.mp kept⟩
  · rintro ⟨finite, keys⟩
    exact ⟨_, rfl, standard.trans finite, keeps.mpr keys⟩

/-- A line of byte strings is decoded if and only if the numbers are finite and the strings are
UTF-8. -/
theorem bytes_decodes_iff (body : Body)
    (bytes : ∀ text ∈ textsEntries (withStatus body), text.isUnicode = false) :
    Decodes ((json (fun point => [point]) (.dict (withStatus body))).render ++ [0x0A]) body ↔
      finiteEntries (withStatus body) = true ∧
        ∀ text ∈ textsEntries (withStatus body), text.points.isSome = true := by
  obtain ⟨sound, unsound⟩ := fromBytes_entries
    (fun entry _ => fromBytes_value entry.2) bytes
  rw [decodes_iff]
  constructor
  · rintro ⟨members, decoded, isStandard, kept⟩
    have all : ∀ text ∈ textsEntries (withStatus body), text.points.isSome = true := by
      intro text member
      cases points : text.points with
      | some found => rfl
      | none =>
        rw [unsound ⟨text, member, points⟩] at decoded
        cases decoded
    obtain ⟨found, decodedFound, -, standard⟩ := sound all
    obtain rfl := Option.some.inj (decoded.symm.trans decodedFound)
    exact ⟨standard.symm.trans isStandard, all⟩
  · rintro ⟨finite, all⟩
    obtain ⟨found, decoded, keeps, standard⟩ := sound all
    exact ⟨found, decoded, standard.trans finite, keeps⟩

/-- If no character becomes a quote or a backslash, the line for a result is decoded if and
only if the body is sound. -/
theorem report_decodes_iff (normalization : Normalization) (body : Body)
    (clear : body.Clear normalization) :
    Decodes (reportStatus normalization body) body ↔ body.Sound := by
  have ascii := normalization.ascii_of_ascii
  have small : ∀ point, ∀ byte ∈ normalization.ascii point, byte < 0x80 := by
    intro point byte member
    by_cases below : point < 0x80
    · rw [ascii point below] at member
      rw [List.mem_singleton.mp member]
      exact below
    · have bounds := normalization.printable point (by omega) byte member
      omega
  cases dates : hasDateEntries (withStatus body) with
  | true =>
    have fails : dumps (.dict (withStatus body)) = none := by
      rw [dumps, (written_value ascii (.dict (withStatus body))).1 dates]
      rfl
    rw [reportStatus, fails]
    refine iff_of_false (fallback_fails normalization body) fun sound => ?_
    rw [sound.1] at dates
    cases dates
  | false =>
    cases unicode : (textsEntries (withStatus body)).any PyText.isUnicode with
    | true =>
      obtain ⟨pieces, found, fits⟩ := (written_value ascii (.dict (withStatus body))).2 dates
      have kinds : pieces.any PyText.isUnicode = true := fits.unicode.trans unicode
      cases asciiBytes : pieces.all fun piece => piece.isUnicode || piece.isAscii with
      | true =>
        have bytes : ∀ text ∈ textsEntries (withStatus body),
            text.isUnicode = false → text.isAscii = true := by
          rw [fits.ascii, List.all_eq_true] at asciiBytes
          intro text member isBytes
          simpa [isBytes] using asciiBytes text member
        have plain : ∀ text ∈ textsEntries (withStatus body),
            Plain normalization.ascii text := by
          intro text member point inside large byte isByte
          cases kind : text.isUnicode with
          | true =>
            obtain ⟨noQuote, noBackslash⟩ := clear text member kind point inside large
            have printable := normalization.printable point large byte isByte
            have notQuote : byte ≠ quote := fun same => noQuote (same ▸ isByte)
            have notBackslash : byte ≠ backslash := fun same => noBackslash (same ▸ isByte)
            simp only [isSpecial, notQuote, notBackslash, decide_false, Bool.or_false,
              Bool.false_or, decide_eq_false_iff_not]
            omega
          | false =>
            have isAscii := bytes text member kind
            simp only [PyText.isAscii, List.all_eq_true, decide_eq_true_eq] at isAscii
            have below := isAscii point inside
            omega
        have writes : reportStatus normalization body =
            (json normalization.ascii (.dict (withStatus body))).render ++ [0x0A] := by
          rw [reportStatus, dumps, found, Option.bind_some, join, if_pos kinds, if_pos asciiBytes,
            ← fits.content plain]
          rfl
        rw [writes, unicode_decodes_iff ascii small body bytes, Body.Sound, unicode, if_pos rfl]
        exact ⟨fun holds => ⟨dates, holds.1, holds.2, bytes⟩,
          fun sound => ⟨sound.2.1, sound.2.2.1⟩⟩
      | false =>
        have fails : dumps (.dict (withStatus body)) = none := by
          rw [dumps, found, Option.bind_some, join, if_pos kinds, asciiBytes]
          rfl
        rw [reportStatus, fails]
        refine iff_of_false (fallback_fails normalization body) fun sound => ?_
        obtain ⟨-, -, rest⟩ := sound
        rw [unicode, if_pos rfl] at rest
        rw [fits.ascii] at asciiBytes
        have all : ((textsEntries (withStatus body)).all fun piece =>
            piece.isUnicode || piece.isAscii) = true := by
          rw [List.all_eq_true]
          intro text member
          cases kind : text.isUnicode with
          | true => rfl
          | false => simpa using rest.2 text member kind
        exact absurd (asciiBytes.symm.trans all) Bool.false_ne_true
    | false =>
      obtain ⟨pieces, found, fits⟩ :=
        (written_value (fun point _ => rfl : ∀ point < 0x80, [point] = [point])
          (.dict (withStatus body))).2 dates
      have kinds : pieces.any PyText.isUnicode = false := fits.unicode.trans unicode
      have bytes : ∀ text ∈ textsEntries (withStatus body), text.isUnicode = false := by
        intro text member
        simpa using List.any_eq_false.mp unicode text member
      have plain : ∀ text ∈ textsEntries (withStatus body),
          Plain (fun point => [point]) text := by
        intro text member point inside large byte isByte
        have bounds : quote < 0x80 ∧ backslash < 0x80 := by decide
        rw [List.mem_singleton.mp isByte]
        simp only [isSpecial, Bool.or_eq_false_iff, decide_eq_false_iff_not]
        omega
      have writes : reportStatus normalization body =
          (json (fun point => [point]) (.dict (withStatus body))).render ++ [0x0A] := by
        have notAny : ¬pieces.any PyText.isUnicode = true := by simp [kinds]
        have content := fits.content plain
        rw [flatMap_self] at content
        rw [reportStatus, dumps, found, Option.bind_some, join, if_neg notAny, ← content]
        rfl
      rw [writes, bytes_decodes_iff body bytes, Body.Sound, unicode,
        if_neg Bool.false_ne_true]
      exact ⟨fun holds => ⟨dates, holds.1, holds.2⟩, fun sound => ⟨sound.2.1, sound.2.2⟩⟩

/-- A part of the tables: a letter with an accent loses it, a wide quote becomes a quote, and
other characters outside of ASCII are left out. -/
def someTables : Normalization where
  ascii point :=
    if point < 0x80 then [point]
    else if point = 0xE9 then [code 'e']
    else if point = 0xFF02 then [quote]
    else []
  ascii_of_ascii := fun point small => if_pos small
  printable := by
    intro point large byte member
    have printable : ∀ byte ∈ [code 'e', quote], 0x20 ≤ byte ∧ byte < 0x7F := by decide
    rw [if_neg (by omega)] at member
    split_ifs at member
    · rw [List.mem_singleton.mp member]
      exact printable _ List.mem_cons_self
    · rw [List.mem_singleton.mp member]
      exact printable _ (List.mem_cons_of_mem _ List.mem_cons_self)
    · exact absurd member List.not_mem_nil

/-- A result with a text that is not ASCII. -/
def resumed : Body where
  entries := [(.bytes (codes "info"), .text (.unicode [0x72, 0xE9, 0x75]))]
  distinct := List.pairwise_singleton _ _

/-- A result with a text in wide quotes. -/
def wideQuotes : Body where
  entries := [(.bytes (codes "error"), .text (.unicode [0xFF02, 0x61, 0xFF02]))]
  distinct := List.pairwise_singleton _ _

/-- The text loses an accent, and the result is decoded. -/
theorem resumed_decodes : Decodes (reportStatus someTables resumed) resumed := by
  refine (report_decodes_iff someTables resumed ?_).mpr ?_
  · unfold Body.Clear
    decide
  · unfold Body.Sound
    decide

/-- The wide quotes end the string too early. -/
theorem wide_quotes_break_json :
    ¬ ∀ (normalization : Normalization) (body : Body),
      Decodes (reportStatus normalization body) body := by
  intro all
  obtain ⟨-, members, read, -⟩ := all someTables wideQuotes
  have none : loads (reportStatus someTables wideQuotes) = none := by decide +kernel
  rw [none] at read
  cases read

end Palette.Telnet
