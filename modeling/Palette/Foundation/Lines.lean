import Mathlib.Data.List.Basic

/-!
# Lines with their ends

A text is cut behind the characters that end a line, and the ends stay with their lines. Two
characters in a row may be one end together. What such pairs contribute is lost on everything
that reads the second character as a line of its own without noticing it.

Without pairs the lines of two texts in a row are those of the first one, up to the line that is
still open, and those of what is open together with the second one.
-/

namespace Palette.Foundation.Lines

universe u v

variable {α : Type u} {β : Type v}

/-- What ends a line: some characters, and some pairs of them together. -/
structure Marks (α : Type u) where
  ends : α → Bool
  pair : α → α → Bool
  ends_of_pair : ∀ first second, pair first second = true → ends first = true ∧ ends second = true

/-- A character in front of the first line. -/
def glue (char : α) : List (List α) → List (List α)
  | [] => [[char]]
  | line :: lines => (char :: line) :: lines

variable (marks : Marks α)

/-- The lines of a text, with their ends. -/
def splitLines : List α → List (List α)
  | [] => []
  | [char] => [[char]]
  | char :: next :: rest =>
    if marks.ends char then
      if marks.pair char next then [char, next] :: splitLines rest
      else [char] :: splitLines (next :: rest)
    else glue char (splitLines (next :: rest))

/-- The complete lines of a text, where pairs are two ends, and the line that is still open. -/
def cut : List α → List (List α) × List α
  | [] => ([], [])
  | char :: rest =>
    if marks.ends char then ([char] :: (cut rest).1, (cut rest).2)
    else match (cut rest).1 with
      | [] => ([], char :: (cut rest).2)
      | line :: lines => ((char :: line) :: lines, (cut rest).2)

/-- An open line is a line if there is something in it. -/
def opened : List α → List (List α)
  | [] => []
  | char :: rest => [char :: rest]

/-- The lines of a text, where pairs are two ends. -/
def pieces (text : List α) : List (List α) := (cut marks text).1 ++ opened (cut marks text).2

/-- A complete line has its only end at its end. -/
def IsComplete (line : List α) : Prop :=
  ∃ front last, line = front ++ [last] ∧ (∀ char ∈ front, marks.ends char = false) ∧
    marks.ends last = true

variable {marks}

/-! ## The pieces of a text -/

/-- An end at the front is a line. -/
theorem cut_cons_end {char : α} (ends : marks.ends char = true) (rest : List α) :
    cut marks (char :: rest) = ([char] :: (cut marks rest).1, (cut marks rest).2) :=
  if_pos ends

/-- Another character joins the open line where there is no complete one. -/
theorem cut_cons_opened {char : α} {rest : List α} (solid : marks.ends char = false)
    (none : (cut marks rest).1 = []) :
    cut marks (char :: rest) = ([], char :: (cut marks rest).2) := by
  refine (if_neg (by simp [solid])).trans ?_
  rw [none]

/-- Otherwise it joins the first complete line. -/
theorem cut_cons_line {char : α} {rest line : List α} {lines : List (List α)}
    (solid : marks.ends char = false) (first : (cut marks rest).1 = line :: lines) :
    cut marks (char :: rest) = ((char :: line) :: lines, (cut marks rest).2) := by
  refine (if_neg (by simp [solid])).trans ?_
  rw [first]

/-- Texts that are cut alike are so behind a character. -/
theorem cut_cons_congr (char : α) {rest other : List α} (same : cut marks rest = cut marks other) :
    cut marks (char :: rest) = cut marks (char :: other) := by
  cases ends : marks.ends char with
  | true => rw [cut_cons_end ends, cut_cons_end ends, same]
  | false =>
    cases lines : (cut marks other).1 with
    | nil => rw [cut_cons_opened ends lines, cut_cons_opened ends (same ▸ lines), same]
    | cons line more => rw [cut_cons_line ends lines, cut_cons_line ends (same ▸ lines), same]

/-- An end at the front is a piece. -/
theorem pieces_cons_end {char : α} (ends : marks.ends char = true) (rest : List α) :
    pieces marks (char :: rest) = [char] :: pieces marks rest := by
  rw [pieces, cut_cons_end ends]
  rfl

/-- Another character at the front belongs to the first piece. -/
theorem pieces_cons_solid {char : α} (solid : marks.ends char = false) (rest : List α) :
    pieces marks (char :: rest) = glue char (pieces marks rest) := by
  rw [pieces, pieces]
  cases lines : (cut marks rest).1 with
  | nil =>
    rw [cut_cons_opened solid lines]
    cases (cut marks rest).2 <;> rfl
  | cons line more =>
    rw [cut_cons_line solid lines]
    rfl

/-- The complete lines are complete, and nothing ends in the open one. -/
theorem cut_complete (marks : Marks α) (text : List α) :
    (∀ line ∈ (cut marks text).1, IsComplete marks line) ∧
      ∀ char ∈ (cut marks text).2, marks.ends char = false := by
  induction text with
  | nil => exact ⟨fun _ listed => absurd listed List.not_mem_nil, fun _ member =>
      absurd member List.not_mem_nil⟩
  | cons char rest inductionHypothesis =>
    obtain ⟨complete, solid⟩ := inductionHypothesis
    cases ends : marks.ends char with
    | true =>
      rw [cut_cons_end ends]
      refine ⟨fun line listed => ?_, solid⟩
      rcases List.mem_cons.mp listed with rfl | behind
      · exact ⟨[], char, rfl, by simp, ends⟩
      · exact complete line behind
    | false =>
      cases lines : (cut marks rest).1 with
      | nil =>
        rw [cut_cons_opened ends lines]
        refine ⟨by simp, fun other member => ?_⟩
        rcases List.mem_cons.mp member with rfl | behind
        · exact ends
        · exact solid other behind
      | cons first more =>
        rw [cut_cons_line ends lines]
        rw [lines] at complete
        refine ⟨fun line listed => ?_, solid⟩
        rcases List.mem_cons.mp listed with rfl | behind
        · obtain ⟨front, last, rfl, before, ended⟩ := complete first List.mem_cons_self
          refine ⟨char :: front, last, rfl, fun other member => ?_, ended⟩
          rcases List.mem_cons.mp member with rfl | behind
          · exact ends
          · exact before other behind
        · exact complete line (List.mem_cons_of_mem first behind)

/-- Two texts in a row are cut as the first one and then what it leaves open with the other one. -/
theorem cut_append (text other : List α) :
    cut marks (text ++ other) =
      ((cut marks text).1 ++ (cut marks ((cut marks text).2 ++ other)).1,
        (cut marks ((cut marks text).2 ++ other)).2) := by
  induction text with
  | nil => rfl
  | cons char rest inductionHypothesis =>
    rw [List.cons_append]
    cases ends : marks.ends char with
    | true =>
      rw [cut_cons_end ends, cut_cons_end ends, inductionHypothesis]
      rfl
    | false =>
      cases lines : (cut marks rest).1 with
      | nil =>
        rw [lines, List.nil_append] at inductionHypothesis
        rw [cut_cons_opened ends lines, List.nil_append, List.cons_append]
        -- The rest of the first text is open, so the character is put in front of the same text.
        exact cut_cons_congr char inductionHypothesis
      | cons line more =>
        rw [lines] at inductionHypothesis
        have first := congrArg Prod.fst inductionHypothesis
        rw [cut_cons_line ends first, cut_cons_line ends lines,
          congrArg Prod.snd inductionHypothesis]
        rfl

/-- The pieces of two texts in a row. -/
theorem pieces_append (text other : List α) :
    pieces marks (text ++ other) =
      (cut marks text).1 ++ pieces marks ((cut marks text).2 ++ other) := by
  rw [pieces, cut_append, pieces, List.append_assoc]

/-- A text without an end is not cut. -/
theorem cut_solid {text : List α} (solid : ∀ char ∈ text, marks.ends char = false) :
    cut marks text = ([], text) := by
  induction text with
  | nil => rfl
  | cons char rest inductionHypothesis =>
    have behind := inductionHypothesis fun other member =>
      solid other (List.mem_cons_of_mem char member)
    rw [cut_cons_opened (solid char List.mem_cons_self) (congrArg Prod.fst behind), behind]

/-- A complete line is cut into itself. -/
theorem cut_line {line : List α} (complete : IsComplete marks line) :
    cut marks line = ([line], []) := by
  obtain ⟨front, last, rfl, solid, ends⟩ := complete
  induction front with
  | nil => exact cut_cons_end ends []
  | cons char rest inductionHypothesis =>
    have behind := inductionHypothesis fun other member =>
      solid other (List.mem_cons_of_mem char member)
    rw [List.cons_append,
      cut_cons_line (solid char List.mem_cons_self) (congrArg Prod.fst behind), behind]

/-- Complete lines in front of a text stay these lines. -/
theorem pieces_flatten_append {lines : List (List α)}
    (complete : ∀ line ∈ lines, IsComplete marks line) (text : List α) :
    pieces marks (lines.flatten ++ text) = lines ++ pieces marks text := by
  induction lines with
  | nil => rfl
  | cons line rest inductionHypothesis =>
    rw [List.flatten_cons, List.append_assoc, pieces_append,
      cut_line (complete line List.mem_cons_self), List.nil_append,
      inductionHypothesis fun other listed => complete other (List.mem_cons_of_mem line listed)]
    rfl

/-! ## Pairs -/

/-- Characters in front of the first line. -/
def prepend : List α → List (List α) → List (List α)
  | [], lines => lines
  | front, [] => [front]
  | front, line :: lines => (front ++ line) :: lines

theorem prepend_nil (lines : List (List α)) : prepend [] lines = lines := rfl

theorem prepend_cons (front line : List α) (lines : List (List α)) :
    prepend front (line :: lines) = (front ++ line) :: lines := by
  cases front <;> rfl

/-- A character that is put in front after others stands between them and the line. -/
theorem prepend_glue (front : List α) (char : α) (lines : List (List α)) :
    prepend front (glue char lines) = prepend (front ++ [char]) lines := by
  cases front with
  | nil => cases lines <;> rfl
  | cons first rest => cases lines <;> simp [prepend, glue]

/-- What is read off the lines one by one is the same with and without pairs, if what is read off a
line with a pair is what is read off the line with the first end, and then off the second end. -/
theorem flatMap_splitLines {read : List α → List β}
    (reads : ∀ front first second, marks.pair first second = true →
      read (front ++ [first, second]) = read (front ++ [first]) ++ read [second])
    (text : List α) :
    (splitLines marks text).flatMap read = (pieces marks text).flatMap read := by
  -- The front is what the lines of the whole text have gathered before this rest of it.
  suffices gathered : ∀ front, (prepend front (splitLines marks text)).flatMap read =
      (prepend front (pieces marks text)).flatMap read from gathered []
  induction text using splitLines.induct marks with
  | case1 => exact fun _ => rfl
  | case2 char =>
    intro front
    cases ends : marks.ends char with
    | true => rw [pieces_cons_end ends]; rfl
    | false => rw [pieces_cons_solid ends]; rfl
  | case3 char next rest ends paired inductionHypothesis =>
    intro front
    have others := inductionHypothesis []
    rw [prepend_nil, prepend_nil] at others
    rw [splitLines, if_pos ends, if_pos paired, pieces_cons_end ends,
      pieces_cons_end (marks.ends_of_pair char next paired).2, prepend_cons, prepend_cons]
    simp only [List.flatMap_cons, reads front char next paired, others, List.append_assoc]
  | case4 char next rest ends single inductionHypothesis =>
    intro front
    have others := inductionHypothesis []
    rw [prepend_nil, prepend_nil] at others
    rw [splitLines, if_pos ends, if_neg single, pieces_cons_end ends, prepend_cons, prepend_cons]
    simp only [List.flatMap_cons, others]
  | case5 char next rest open' inductionHypothesis =>
    intro front
    rw [splitLines, if_neg open', pieces_cons_solid (by simpa using open'), prepend_glue,
      prepend_glue]
    exact inductionHypothesis (front ++ [char])

/-! ## The form of the lines -/

/-- Of a line, only characters at its end are ends, and there are some if another line follows. -/
structure IsLine (marks : Marks α) (line : List α) (followed : Prop) : Prop where
  form : ∃ front tail, line = front ++ tail ∧ (∀ char ∈ front, marks.ends char = false) ∧
    ∀ char ∈ tail, marks.ends char = true
  ended : followed → ∃ char ∈ line, marks.ends char = true

/-- A text with characters has lines. -/
theorem splitLines_ne_nil (char : α) (rest : List α) : splitLines marks (char :: rest) ≠ [] := by
  cases rest with
  | nil => simp [splitLines]
  | cons next more =>
    rw [splitLines]
    split
    · split <;> simp
    · cases splitLines marks (next :: more) <;> simp [glue]

/-- Every line of a text has this form. -/
theorem isLine_of_splitLines {text : List α} {before after : List (List α)} {line : List α}
    (lines : splitLines marks text = before ++ line :: after) : IsLine marks line (after ≠ []) := by
  induction text using splitLines.induct marks generalizing before line with
  | case1 => simp [splitLines] at lines
  | case2 char =>
    cases before with
    | nil =>
      obtain ⟨rfl, rfl⟩ := List.cons.inj lines
      refine ⟨?_, fun followed => absurd rfl followed⟩
      cases ends : marks.ends char with
      | true => exact ⟨[], [char], rfl, by simp, by simp [ends]⟩
      | false => exact ⟨[char], [], rfl, by simp [ends], by simp⟩
    | cons first more => simp [splitLines] at lines
  | case3 char next rest ends paired inductionHypothesis =>
    rw [splitLines, if_pos ends, if_pos paired] at lines
    cases before with
    | nil =>
      obtain ⟨rfl, rfl⟩ := List.cons.inj lines
      have second := (marks.ends_of_pair char next paired).2
      exact ⟨⟨[], [char, next], rfl, by simp, by simp [ends, second]⟩,
        fun _ => ⟨char, List.mem_cons_self, ends⟩⟩
    | cons first more => exact inductionHypothesis (List.cons.inj lines).2
  | case4 char next rest ends single inductionHypothesis =>
    rw [splitLines, if_pos ends, if_neg single] at lines
    cases before with
    | nil =>
      obtain ⟨rfl, rfl⟩ := List.cons.inj lines
      exact ⟨⟨[], [char], rfl, by simp, by simp [ends]⟩,
        fun _ => ⟨char, List.mem_cons_self, ends⟩⟩
    | cons first more => exact inductionHypothesis (List.cons.inj lines).2
  | case5 char next rest open' inductionHypothesis =>
    rw [splitLines, if_neg open'] at lines
    cases others : splitLines marks (next :: rest) with
    | nil => exact absurd others (splitLines_ne_nil next rest)
    | cons first more =>
      rw [others] at lines inductionHypothesis
      cases before with
      | nil =>
        obtain ⟨rfl, rfl⟩ := List.cons.inj lines
        obtain ⟨⟨front, tail, rfl, solid, ends⟩, ended⟩ := @inductionHypothesis [] first rfl
        refine ⟨⟨char :: front, tail, rfl, fun other member => ?_, ends⟩, fun followed => ?_⟩
        · rcases List.mem_cons.mp member with rfl | behind
          · simpa using open'
          · exact solid other behind
        · obtain ⟨last, member, ends⟩ := ended followed
          exact ⟨last, List.mem_cons_of_mem char member, ends⟩
      | cons second others =>
        exact @inductionHypothesis (first :: others) line
          (congrArg (first :: ·) (List.cons.inj lines).2)

end Palette.Foundation.Lines
