import Palette.Logging.StreamLogger

/-!
# Chunks and lines

After some calls, the lines that end with a carriage return or a newline are logged, and
everything else is in the buffer. This is so for every way in which the text was cut, because the
lines in the buffer are cut again as they were. What is left in the buffer at the end is logged as
one line behind the others.
-/

namespace Palette.Logging

open Palette.Foundation.Lines

variable {kind : Kind} {tag : Option Text}

/-! ## What a line contributes -/

/-- What is logged of a line. -/
def spoken (kind : Kind) (line : Text) : List Text :=
  if kind.rstrip line = [] then [] else [kind.rstrip line]

/-- What is logged at once of a line. -/
def heard (kind : Kind) (line : Text) : List Text := if isEnded line then spoken kind line else []

/-- What is kept of a line in the buffer. -/
def kept (line : Text) : Text := if isEnded line then [] else line

/-- The lines that are not blank are what is logged of all lines. -/
theorem nonBlankLines_eq (kind : Kind) (text : Text) :
    nonBlankLines kind text = (kind.splitlines text).flatMap (spoken kind) := by
  unfold nonBlankLines
  induction kind.splitlines text with
  | nil => rfl
  | cons line rest inductionHypothesis =>
    rw [List.map_cons, List.flatMap_cons, ← inductionHypothesis, List.filter_cons]
    unfold spoken
    by_cases blank : kind.rstrip line = [] <;> simp [blank]

/-- A line is logged in front of what follows. -/
theorem writeln_eq (logger : StreamLogger) (line : Text) :
    logger.writeln kind line =
      { logger with logged := logger.logged ++ (spoken kind line).map (tagged logger.tag) } := by
  unfold StreamLogger.writeln spoken
  split <;> simp

/-- The lines of a call are logged or kept. -/
theorem foldl_writeLine (logger : StreamLogger) (lines : List Text) :
    lines.foldl (StreamLogger.writeLine kind) logger =
      ⟨logger.tag, logger.buf ++ lines.flatMap kept,
        logger.logged ++ (lines.flatMap (heard kind)).map (tagged logger.tag)⟩ := by
  induction lines generalizing logger with
  | nil => simp
  | cons line rest inductionHypothesis =>
    rw [List.foldl_cons, inductionHypothesis]
    unfold StreamLogger.writeLine
    split
    next ended => simp [writeln_eq, kept, heard, ended]
    next waiting => simp [kept, heard, waiting]

/-! ## Pairs and pieces -/

/-- Ends of lines are stripped. -/
theorem isSpace_of_ends {char : Char} (ends : kind.ends char = true) :
    kind.isSpace char = true := by
  cases kind with
  | bytes =>
    simp only [Kind.ends, Bool.or_eq_true, decide_eq_true_eq] at ends
    rcases ends with rfl | rfl <;> decide
  | unicode =>
    have code : char.toNat ∈ [10, 11, 12, 13, 28, 29, 30, 0x85, 0x2028, 0x2029] := by
      simpa [Kind.ends] using ends
    simp only [List.mem_cons, List.not_mem_nil, or_false] at code
    rcases code with same | same | same | same | same | same | same | same | same | same <;>
      simp [Kind.isSpace, Cli.isBlank, same]

/-- A newline alone is not logged. -/
theorem spoken_newline : spoken kind ['\n'] = [] := by cases kind <;> decide

/-- A pair is a carriage return and a newline. -/
theorem eq_of_pair {first second : Char} (paired : kind.marks.pair first second = true) :
    first = '\r' ∧ second = '\n' := by
  simpa [Kind.marks] using paired

/-- Of a line with a pair of ends, what is logged is what is logged with the first one. -/
theorem spoken_pair (front : Text) {first second : Char}
    (paired : kind.marks.pair first second = true) :
    spoken kind (front ++ [first, second]) =
      spoken kind (front ++ [first]) ++ spoken kind [second] := by
  obtain ⟨rfl, rfl⟩ := eq_of_pair paired
  have newline : kind.isSpace '\n' = true := by cases kind <;> decide
  have stripped : kind.rstrip (front ++ ['\r', '\n']) = kind.rstrip (front ++ ['\r']) := by
    have apart : front ++ ['\r', '\n'] = (front ++ ['\r']) ++ ['\n'] := by simp
    rw [apart]
    exact List.rdropWhile_concat_pos _ _ _ newline
  rw [spoken_newline, List.append_nil, spoken, stripped, spoken]

/-- Such a line is logged at once. -/
theorem heard_pair (front : Text) {first second : Char}
    (paired : kind.marks.pair first second = true) :
    heard kind (front ++ [first, second]) = heard kind (front ++ [first]) ++ heard kind [second] := by
  obtain ⟨rfl, rfl⟩ := eq_of_pair paired
  have whole := spoken_pair front paired
  simpa [heard, isEnded] using whole

/-- Nothing of it is kept. -/
theorem kept_pair (front : Text) {first second : Char}
    (paired : kind.marks.pair first second = true) :
    kept (front ++ [first, second]) = kept (front ++ [first]) ++ kept [second] := by
  obtain ⟨rfl, rfl⟩ := eq_of_pair paired
  simp [kept, isEnded]

/-- A call, where pairs are two ends. -/
theorem write_eq (logger : StreamLogger) (text : Text) :
    logger.write kind text =
      ⟨logger.tag, (pieces kind.marks (logger.buf ++ text)).flatMap kept, logger.logged ++
        ((pieces kind.marks (logger.buf ++ text)).flatMap (heard kind)).map (tagged logger.tag)⟩ := by
  unfold StreamLogger.write Kind.splitlines
  rw [foldl_writeLine, flatMap_splitLines fun front _ _ => heard_pair front,
    flatMap_splitLines fun front _ _ => kept_pair front]
  rfl

/-! ## Calls in a row -/

/-- The logger is where it is after a text: lines are logged, and the other pieces are kept. -/
structure Tracks (kind : Kind) (tag : Option Text) (text : Text) (logger : StreamLogger) : Prop where
  same : logger.tag = tag
  buf : logger.buf = (pieces kind.marks text).flatMap kept
  logged : logger.logged = ((pieces kind.marks text).flatMap (heard kind)).map (tagged tag)

/-- An open line does not end with a carriage return or a newline. -/
theorem isEnded_of_solid {line : Text} (solid : ∀ char ∈ line, kind.ends char = false) :
    isEnded line = false := by
  have return' : kind.ends '\r' = true := by cases kind <;> decide
  have newline : kind.ends '\n' = true := by cases kind <;> decide
  simp only [isEnded, Bool.or_eq_false_iff, decide_eq_false_iff_not]
  refine ⟨fun last => ?_, fun last => ?_⟩
  · exact Bool.false_ne_true ((solid _ (List.mem_of_getLast? last)).symm.trans return')
  · exact Bool.false_ne_true ((solid _ (List.mem_of_getLast? last)).symm.trans newline)

/-- What is kept of lines are those that are not ended. -/
theorem flatMap_kept (lines : List Text) :
    lines.flatMap kept = (lines.filter fun line => !isEnded line).flatten := by
  induction lines with
  | nil => rfl
  | cons line rest inductionHypothesis =>
    rw [List.flatMap_cons, inductionHypothesis, List.filter_cons]
    cases ended : isEnded line <;> simp [kept, ended]

/-- Nothing is logged at once of lines that are not ended. -/
theorem flatMap_heard_waiting (lines : List Text) :
    (lines.filter fun line => !isEnded line).flatMap (heard kind) = [] := by
  rw [List.flatMap_eq_nil_iff]
  intro line listed
  have waiting : isEnded line = false := by simpa using (List.mem_filter.mp listed).2
  simp [heard, waiting]

/-- The open line of a text is kept. -/
theorem flatMap_opened (text : Text) :
    (opened (cut kind.marks text).2).flatMap kept = (cut kind.marks text).2 ∧
      (opened (cut kind.marks text).2).flatMap (heard kind) = [] := by
  have waiting : isEnded (cut kind.marks text).2 = false :=
    isEnded_of_solid (cut_complete kind.marks text).2
  cases last : (cut kind.marks text).2 with
  | nil => exact ⟨rfl, rfl⟩
  | cons char rest =>
    rw [last] at waiting
    simp [opened, kept, heard, waiting]

/-- The buffer is cut again as it was. -/
theorem pieces_kept (text other : Text) :
    pieces kind.marks ((pieces kind.marks text).flatMap kept ++ other) =
      (cut kind.marks text).1.filter (fun line => !isEnded line) ++
        pieces kind.marks ((cut kind.marks text).2 ++ other) := by
  have complete := (cut_complete kind.marks text).1
  have buffered : (pieces kind.marks text).flatMap kept =
      ((cut kind.marks text).1.filter fun line => !isEnded line).flatten ++
        (cut kind.marks text).2 := by
    rw [pieces, List.flatMap_append, (flatMap_opened text).1, flatMap_kept]
  rw [buffered, List.append_assoc]
  exact pieces_flatten_append (fun line listed => complete line (List.mem_filter.mp listed).1) _

/-- A call goes on from where the logger is. -/
theorem Tracks.write {text : Text} {logger : StreamLogger} (tracks : Tracks kind tag text logger)
    (chunk : Text) : Tracks kind tag (text ++ chunk) (logger.write kind chunk) := by
  obtain ⟨rfl, buf, logged⟩ := tracks
  have heardBefore : (pieces kind.marks text).flatMap (heard kind) =
      (cut kind.marks text).1.flatMap (heard kind) := by
    rw [pieces, List.flatMap_append, (flatMap_opened text).2, List.append_nil]
  rw [write_eq, buf, pieces_kept]
  refine ⟨rfl, ?_, ?_⟩
  · rw [pieces_append text chunk]
    simp only [List.flatMap_append, flatMap_kept, List.filter_filter, Bool.and_self]
  · rw [pieces_append text chunk]
    simp only [List.flatMap_append, flatMap_heard_waiting, List.nil_append, logged, heardBefore,
      List.map_append]

/-- All calls. -/
theorem tracks_foldl (kind : Kind) (tag : Option Text) (chunks : List Text) :
    Tracks kind tag chunks.flatten (chunks.foldl (StreamLogger.write kind) (.init tag)) := by
  induction chunks using List.reverseRecOn with
  | nil => exact ⟨rfl, rfl, rfl⟩
  | append_singleton before chunk inductionHypothesis =>
    rw [List.flatten_concat, List.foldl_concat]
    exact inductionHypothesis.write chunk

/-- What is logged of a text, however it is cut. -/
theorem logs_eq (chunks : List Text) :
    logs kind tag chunks = ((kind.splitlines chunks.flatten).flatMap (heard kind) ++
      spoken kind ((kind.splitlines chunks.flatten).flatMap kept)).map (tagged tag) := by
  obtain ⟨same, buf, logged⟩ := tracks_foldl kind tag chunks
  unfold logs StreamLogger.flush Kind.splitlines
  rw [writeln_eq, flatMap_splitLines fun front _ _ => heard_pair front,
    flatMap_splitLines fun front _ _ => kept_pair front]
  simp only [same, buf, logged, List.map_append]

/-- What is logged does not depend on how the text is cut. -/
theorem logs_of_flatten_eq {chunks others : List Text} (same : chunks.flatten = others.flatten) :
    logs kind tag chunks = logs kind tag others := by
  rw [logs_eq, logs_eq, same]

/-! ## The text line by line -/

/-- A tag leaves lines apart. -/
theorem tagged_injective (tag : Option Text) : Function.Injective (tagged tag) := by
  intro line other same
  rcases tag with _ | _ | ⟨first, rest⟩
  · exact same
  · exact same
  · exact List.append_cancel_left same

/-- Blanks at the end are stripped. -/
theorem rstrip_append_blank (text : Text) {tail : Text}
    (blank : ∀ char ∈ tail, kind.isSpace char = true) :
    kind.rstrip (text ++ tail) = kind.rstrip text := by
  induction tail using List.reverseRecOn with
  | nil => rw [List.append_nil]
  | append_singleton before char inductionHypothesis =>
    rw [← List.append_assoc, Kind.rstrip,
      List.rdropWhile_concat_pos _ _ _ (blank char (by simp))]
    exact inductionHypothesis fun other member => blank other (List.mem_append_left _ member)

/-- In front of something else nothing is stripped. -/
theorem rstrip_append (text : Text) {tail : Text} (some : kind.rstrip tail ≠ []) :
    kind.rstrip (text ++ tail) = text ++ kind.rstrip tail := by
  induction tail using List.reverseRecOn with
  | nil => exact absurd rfl some
  | append_singleton before char inductionHypothesis =>
    rw [← List.append_assoc, Kind.rstrip, Kind.rstrip]
    cases space : kind.isSpace char with
    | true =>
      rw [Kind.rstrip, List.rdropWhile_concat_pos _ _ _ space] at some
      rw [List.rdropWhile_concat_pos _ _ _ space, List.rdropWhile_concat_pos _ _ _ space]
      exact inductionHypothesis some
    | false =>
      have solid : ¬ kind.isSpace char = true := by simp [space]
      rw [List.rdropWhile_concat_neg _ _ _ solid, List.rdropWhile_concat_neg _ _ _ solid,
        List.append_assoc]

/-- What is left of a line has no end in it. -/
theorem solid_rstrip {line : Text} {followed : Prop} (isLine : IsLine kind.marks line followed) :
    ∀ char ∈ kind.rstrip line, kind.ends char = false := by
  obtain ⟨front, tail, rfl, solid, ends⟩ := isLine.form
  rw [rstrip_append_blank front fun char member => isSpace_of_ends (ends char member)]
  exact fun char member => solid char ((List.rdropWhile_prefix _ _).subset member)

/-- What is kept is blank if every line that is kept is. -/
theorem rstrip_flatMap_kept (lines : List Text) :
    kind.rstrip (lines.flatMap kept) = [] ↔
      ∀ line ∈ lines, isEnded line = false → kind.rstrip line = [] := by
  simp only [Kind.rstrip, List.rdropWhile_eq_nil_iff, List.mem_flatMap, kept]
  constructor
  · intro blank line listed waiting char member
    exact blank char ⟨line, listed, by simpa [waiting] using member⟩
  · rintro blank char ⟨line, listed, member⟩
    cases ended : isEnded line with
    | true => simp [ended] at member
    | false => exact blank line listed ended char (by simpa [ended] using member)

/-- An item may change places with a list that has only that item. -/
theorem append_singleton_eq_cons_iff {item : Text} {items : List Text} :
    items ++ [item] = item :: items ↔ ∀ other ∈ items, other = item := by
  induction items with
  | nil => simp
  | cons first rest inductionHypothesis =>
    rw [List.cons_append, List.cons.injEq, List.forall_mem_cons]
    refine and_congr_right fun same => ?_
    rw [same, inductionHypothesis]

/-- What is heard of lines is what is said of them, if those that are kept are blank. -/
theorem flatMap_heard_of_blank {lines : List Text}
    (blank : ∀ line ∈ lines, isEnded line = false → kind.rstrip line = []) :
    lines.flatMap (heard kind) = lines.flatMap (spoken kind) := by
  refine List.flatMap_congr fun line listed => ?_
  cases ended : isEnded line with
  | true => simp [heard, ended]
  | false => simp [heard, spoken, ended, blank line listed ended]

/-- What is said of lines: what is left of those that are not blank. -/
theorem mem_flatMap_spoken {lines : List Text} {said : Text} :
    said ∈ lines.flatMap (spoken kind) ↔
      ∃ line ∈ lines, kind.rstrip line ≠ [] ∧ said = kind.rstrip line := by
  simp only [List.mem_flatMap, spoken]
  refine exists_congr fun line => and_congr_right fun _ => ?_
  split
  next blank => simp [blank]
  next some => simp [some]

/-- From the first line that is not ended, what is logged is the lines exactly if nothing waits for
long. -/
theorem logs_from_first_iff {first : Text} {after : List Text} (waiting : isEnded first = false)
    (lines : ∀ line ∈ first :: after, ∀ char ∈ kind.rstrip line, kind.ends char = false)
    (followed : after ≠ [] → ∃ char ∈ first, kind.ends char = true) :
    after.flatMap (heard kind) ++ spoken kind (first ++ after.flatMap kept) =
        (first :: after).flatMap (spoken kind) ↔
      (∀ line ∈ first :: after, isEnded line = false → kind.rstrip line = []) ∨
        ∀ line ∈ after, kind.rstrip line ≠ [] →
          isEnded line = true ∧ kind.rstrip line = kind.rstrip first := by
  by_cases blank : ∀ line ∈ after, isEnded line = false → kind.rstrip line = []
  · have stripped : kind.rstrip (first ++ after.flatMap kept) = kind.rstrip first :=
      rstrip_append_blank first fun char member => by
        have spaces := List.rdropWhile_eq_nil_iff.mp ((rstrip_flatMap_kept after).mpr blank)
        exact spaces char member
    rw [spoken, stripped, flatMap_heard_of_blank blank, List.flatMap_cons, spoken]
    by_cases silent : kind.rstrip first = []
    · simp only [silent, if_true, List.append_nil, List.nil_append, true_iff]
      refine .inl fun line listed open' => ?_
      rcases List.mem_cons.mp listed with rfl | behind
      · exact silent
      · exact blank line behind open'
    · rw [if_neg silent, List.singleton_append, append_singleton_eq_cons_iff]
      constructor
      · intro same
        refine .inr fun line listed some => ⟨?_, same _ (mem_flatMap_spoken.mpr
          ⟨line, listed, some, rfl⟩)⟩
        by_contra open'
        exact some (blank line listed (by simpa using open'))
      · rintro (none | same) said listed
        · exact absurd (none first List.mem_cons_self waiting) silent
        · obtain ⟨line, behind, some, rfl⟩ := mem_flatMap_spoken.mp listed
          exact (same line behind some).2
  · obtain ⟨last, behind, open', some⟩ : ∃ line ∈ after, isEnded line = false ∧
        kind.rstrip line ≠ [] := by
      simpa using blank
    have whole := rstrip_append first (mt (rstrip_flatMap_kept after).mp blank)
    refine iff_of_false (fun same => ?_) ?_
    · -- The line that is logged at last has the end of its first part inside.
      have listed : kind.rstrip (first ++ after.flatMap kept) ∈
          (first :: after).flatMap (spoken kind) := by
        rw [← same, List.mem_append]
        refine .inr ?_
        rw [spoken, if_neg]
        · exact List.mem_singleton_self _
        · rw [whole]
          exact List.append_ne_nil_of_right_ne_nil _ (mt (rstrip_flatMap_kept after).mp blank)
      obtain ⟨line, member, _, same⟩ := mem_flatMap_spoken.mp listed
      obtain ⟨char, inside, ends⟩ := followed (List.ne_nil_of_mem behind)
      have solid := lines line member char
      rw [← same, whole] at solid
      exact Bool.false_ne_true ((solid (List.mem_append_left _ inside)).symm.trans ends)
    · rintro (none | same)
      · exact some (none last (List.mem_cons_of_mem first behind) open')
      · exact Bool.false_ne_true (open'.symm.trans (same last behind some).1)

/-- What is logged of chunks is the lines of their text that are not blank, in order and stripped at
the right, exactly if nothing waits for long. -/
theorem logs_chunks_iff (kind : Kind) (tag : Option Text) (chunks : List Text) :
    logs kind tag chunks = (nonBlankLines kind chunks.flatten).map (tagged tag) ↔
      KeepsUp kind chunks.flatten := by
  rw [logs_eq, nonBlankLines_eq, (List.map_injective_iff.mpr (tagged_injective tag)).eq_iff]
  unfold KeepsUp
  have isLine := fun before line after =>
    @isLine_of_splitLines Char kind.marks chunks.flatten before after line
  have ended : ∀ line ∈ (kind.splitlines chunks.flatten).takeWhile isEnded, isEnded line = true :=
    fun line listed => List.mem_takeWhile_imp listed
  have parts : (kind.splitlines chunks.flatten).takeWhile isEnded ++
      (kind.splitlines chunks.flatten).dropWhile isEnded = kind.splitlines chunks.flatten :=
    List.takeWhile_append_dropWhile
  have waits := List.head?_dropWhile_not isEnded (kind.splitlines chunks.flatten)
  change ∀ before line after, kind.splitlines chunks.flatten = before ++ line :: after →
    IsLine kind.marks line (after ≠ []) at isLine
  revert ended parts waits
  generalize (kind.splitlines chunks.flatten).takeWhile isEnded = before
  generalize (kind.splitlines chunks.flatten).dropWhile isEnded = rest
  intro ended parts waits
  have keptBefore : before.flatMap kept = [] :=
    List.flatMap_eq_nil_iff.mpr fun line listed => by simp [kept, ended line listed]
  have heardBefore : before.flatMap (heard kind) = before.flatMap (spoken kind) :=
    flatMap_heard_of_blank fun line listed open' => by simp [ended line listed] at open'
  rw [← parts] at isLine ⊢
  simp only [List.flatMap_append, keptBefore, heardBefore, List.nil_append, List.append_assoc,
    List.append_cancel_left_eq]
  cases rest with
  | nil => exact iff_of_true rfl trivial
  | cons first after =>
    have waiting : isEnded first = false := by simpa using waits
    have lines : ∀ line ∈ first :: after, ∀ char ∈ kind.rstrip line, kind.ends char = false := by
      intro line listed
      obtain ⟨front, back, whole⟩ := List.append_of_mem listed
      exact solid_rstrip (isLine (before ++ front) line back (by rw [whole, List.append_assoc]))
    have opens : heard kind first = [] ∧ kept first = first := by simp [heard, kept, waiting]
    have heardAfter : (first :: after).flatMap (heard kind) = after.flatMap (heard kind) := by
      rw [List.flatMap_cons, opens.1, List.nil_append]
    have keptFirst : (first :: after).flatMap kept = first ++ after.flatMap kept := by
      rw [List.flatMap_cons, opens.2]
    rw [heardAfter, keptFirst]
    exact logs_from_first_iff waiting lines (isLine before first after rfl).ended

/-- A line of a byte string that another line follows is ended. -/
theorem isEnded_of_followed {line : Text} {followed : Prop}
    (isLine : IsLine Kind.bytes.marks line followed) (follows : followed) : isEnded line = true := by
  obtain ⟨front, tail, rfl, solid, ends⟩ := isLine.form
  obtain ⟨char, member, ending⟩ := isLine.ended follows
  cases tail using List.reverseRecOn with
  | nil =>
    rw [List.append_nil] at member
    exact absurd (ending.symm.trans (solid char member)) (by decide)
  | append_singleton before last =>
    have last' : Kind.bytes.ends last = true := ends last (by simp)
    simp only [Kind.ends, Bool.or_eq_true, decide_eq_true_eq] at last'
    rcases last' with rfl | rfl <;> simp [isEnded, ← List.append_assoc]

/-- A byte string always keeps up. -/
theorem keepsUp_bytes (text : Text) : KeepsUp .bytes text := by
  have parts : (Kind.bytes.splitlines text).takeWhile isEnded ++
      (Kind.bytes.splitlines text).dropWhile isEnded = Kind.bytes.splitlines text :=
    List.takeWhile_append_dropWhile
  have waits := List.head?_dropWhile_not isEnded (Kind.bytes.splitlines text)
  unfold KeepsUp
  cases rest : (Kind.bytes.splitlines text).dropWhile isEnded with
  | nil => exact trivial
  | cons first after =>
    rw [rest] at parts waits
    have waiting : isEnded first = false := by simpa using waits
    have none : after = [] := by
      by_contra follows
      have ended := isEnded_of_followed (isLine_of_splitLines parts.symm) follows
      exact Bool.false_ne_true (waiting.symm.trans ended)
    exact .inr (by simp [none])

/-- What is logged of a byte string is its lines, for every way in which it is cut into calls. -/
theorem logs_bytes (tag : Option Text) (chunks : List Text) :
    logs .bytes tag chunks = (nonBlankLines .bytes chunks.flatten).map (tagged tag) :=
  (logs_chunks_iff .bytes tag chunks).mpr (keepsUp_bytes chunks.flatten)

/-- A text is logged line by line, in the same way for every way in which it is cut into calls,
exactly if nothing waits for long. -/
theorem logs_lines_iff (kind : Kind) (tag : Option Text) (text : Text) :
    (∀ chunks : List Text, chunks.flatten = text →
      logs kind tag chunks = (nonBlankLines kind text).map (tagged tag)) ↔ KeepsUp kind text := by
  constructor
  · intro all
    have whole : [text].flatten = text := by simp
    have single := all [text] whole
    rwa [← congrArg (nonBlankLines kind) whole, logs_chunks_iff, whole] at single
  · rintro keepsUp chunks rfl
    exact (logs_chunks_iff kind tag chunks).mpr keepsUp

/-- The lines around a line tabulation change places. -/
theorem tabulated_lines_swap :
    ¬ ∀ chunks : List Text, chunks.flatten = "a\x0bb\n".toList →
      logs .unicode none chunks = (nonBlankLines .unicode "a\x0bb\n".toList).map (tagged none) :=
  fun all => absurd (all ["a\x0bb\n".toList] rfl) (by decide)

end Palette.Logging
