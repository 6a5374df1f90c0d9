import Mathlib.Data.List.Basic

/-!
# Words between blanks

A text is cut at its blanks, and what is left between them are its words. Texts that are joined
by a blank come apart again exactly if each of them is a word.
-/

namespace Palette.Foundation.Words

universe u

variable {α : Type u} (blank : α → Bool)

/-- The words of a text. -/
def words (text : List α) : List (List α) := (text.splitOnP blank).filter fun word => !word.isEmpty

/-- A text that is a word: there is something in it, and no blank. -/
structure IsWord (text : List α) : Prop where
  nonempty : text ≠ []
  solid : ∀ char ∈ text, blank char = false

variable {blank}

/-- No part between blanks has a blank. -/
theorem solid_of_mem_splitOnP {text part : List α} (listed : part ∈ text.splitOnP blank) :
    ∀ char ∈ part, blank char = false := by
  induction text generalizing part with
  | nil =>
    rw [List.splitOnP_nil, List.mem_singleton] at listed
    simp [listed]
  | cons first rest inductionHypothesis =>
    rw [List.splitOnP_cons_eq_if_modifyHead] at listed
    split at listed
    · rcases List.mem_cons.mp listed with rfl | behind
      · simp
      · exact inductionHypothesis behind
    · rename_i solid
      cases parts : rest.splitOnP blank with
      | nil => exact absurd parts (List.splitOnP_ne_nil blank rest)
      | cons head tail =>
        rw [parts] at listed
        rcases List.mem_cons.mp listed with rfl | behind
        · intro char member
          rcases List.mem_cons.mp member with rfl | inside
          · simpa using solid
          · exact inductionHypothesis (parts ▸ List.mem_cons_self) char inside
        · exact inductionHypothesis (parts ▸ List.mem_cons_of_mem head behind)

/-- The words of a text are words. -/
theorem isWord_of_mem_words {text word : List α} (listed : word ∈ words blank text) :
    IsWord blank word := by
  obtain ⟨part, some⟩ := List.mem_filter.mp listed
  exact ⟨by simpa using some, solid_of_mem_splitOnP part⟩

/-- A blank between two texts keeps their words apart. -/
theorem words_append_cons {separator : α} (separates : blank separator = true)
    (text other : List α) :
    words blank (text ++ separator :: other) = words blank text ++ words blank other := by
  rw [words, List.splitOnP_append_cons text other separates, List.filter_append]
  rfl

/-- A blank at the start makes no difference. -/
theorem words_cons_blank {separator : α} (separates : blank separator = true) (text : List α) :
    words blank (separator :: text) = words blank text := by
  have apart := words_append_cons separates [] text
  rwa [List.nil_append] at apart

/-- Nor does a blank at the end. -/
theorem words_append_blank {separator : α} (separates : blank separator = true) (text : List α) :
    words blank (text ++ [separator]) = words blank text := by
  have apart := words_append_cons separates text []
  simpa [words] using apart

/-- What is cut from two texts in a row: the last piece of the first one and the first piece of the
other one are one piece. -/
theorem splitOnP_append {text other : List α} {front : List (List α)} {last : List α}
    {first : List α} {rest : List (List α)} (cut : text.splitOnP blank = front ++ [last])
    (otherCut : other.splitOnP blank = first :: rest) :
    (text ++ other).splitOnP blank = front ++ (last ++ first) :: rest := by
  induction text generalizing front last with
  | nil =>
    rw [List.splitOnP_nil] at cut
    cases front with
    | nil =>
      obtain rfl : [] = last := (List.cons.inj cut).1
      exact otherCut
    | cons piece more => simp at cut
  | cons char text inductionHypothesis =>
    obtain ⟨front', last', cut'⟩ : ∃ front' last', text.splitOnP blank = front' ++ [last'] :=
      ⟨_, _, (List.dropLast_append_getLast (List.splitOnP_ne_nil blank text)).symm⟩
    have whole := inductionHypothesis cut'
    rw [List.splitOnP_cons_eq_if_modifyHead, cut'] at cut
    rw [List.cons_append, List.splitOnP_cons_eq_if_modifyHead, whole]
    split
    · rename_i separates
      rw [if_pos separates, ← List.cons_append] at cut
      obtain ⟨rfl, same⟩ := List.append_inj' cut rfl
      obtain rfl : last' = last := (List.cons.inj same).1
      rfl
    · rename_i solid
      rw [if_neg solid] at cut
      cases front' with
      | nil =>
        cases front with
        | nil =>
          obtain rfl : char :: last' = last := (List.cons.inj cut).1
          rfl
        | cons piece more => simp at cut
      | cons piece more =>
        rw [List.cons_append, List.modifyHead_cons, ← List.cons_append] at cut
        obtain ⟨rfl, same⟩ := List.append_inj' cut rfl
        obtain rfl : last' = last := (List.cons.inj same).1
        rfl

/-- Two texts in a row have the words of both, unless the last word of the first one goes on. -/
theorem words_append (blank : α → Bool) (text other : List α) :
    words blank (text ++ other) = words blank text ++ words blank other ∨
      ∃ before last more others, more ≠ [] ∧ words blank text = before ++ [last] ∧
        words blank (text ++ other) = before ++ (last ++ more) :: others := by
  obtain ⟨front, last, cut⟩ : ∃ front last, text.splitOnP blank = front ++ [last] :=
    ⟨_, _, (List.dropLast_append_getLast (List.splitOnP_ne_nil blank text)).symm⟩
  obtain ⟨first, rest, otherCut⟩ : ∃ first rest, other.splitOnP blank = first :: rest :=
    List.exists_cons_of_ne_nil (List.splitOnP_ne_nil blank other)
  rw [words, words, words, splitOnP_append cut otherCut, cut, otherCut, List.filter_append,
    List.filter_append]
  by_cases goesOn : last = [] ∨ first = []
  · left
    rcases goesOn with rfl | rfl
    · simp
    · cases last with
      | nil => simp
      | cons char more => simp
  · obtain ⟨someLast, someFirst⟩ := not_or.mp goesOn
    exact .inr ⟨_, last, first, _, someFirst, by rw [List.filter_cons_of_pos (by simp [someLast])]; rfl,
      by rw [List.filter_cons_of_pos (by simp [someLast])]⟩

/-- Characters that are changed among blanks or not at all leave the words as they are. -/
theorem words_map {change : α → α} (blanks : ∀ char, blank char = true → blank (change char) = true)
    (solid : ∀ char, blank char = false → change char = char) (text : List α) :
    words blank (text.map change) = words blank text := by
  have cut : (text.map change).splitOnP blank = text.splitOnP blank := by
    induction text with
    | nil => rfl
    | cons char rest inductionHypothesis =>
      rw [List.map_cons, List.splitOnP_cons_eq_if_modifyHead, List.splitOnP_cons_eq_if_modifyHead,
        inductionHypothesis]
      cases isBlank : blank char with
      | true => rw [blanks char isBlank, if_pos rfl, if_pos rfl]
      | false => rw [solid char isBlank, isBlank]
  rw [words, cut, words]

/-- The words have as many characters as the text has outside its blanks. -/
theorem length_flatten_words (text : List α) :
    (words blank text).flatten.length = text.countP fun char => !blank char := by
  have cut : (text.splitOnP blank).flatten.length = text.countP fun char => !blank char := by
    induction text with
    | nil => rfl
    | cons char rest inductionHypothesis =>
      obtain ⟨first, others, pieces⟩ : ∃ first others, rest.splitOnP blank = first :: others :=
        List.exists_cons_of_ne_nil (List.splitOnP_ne_nil blank rest)
      rw [pieces] at inductionHypothesis
      rw [List.splitOnP_cons_eq_if_modifyHead, pieces]
      cases isBlank : blank char with
      | true => simpa [isBlank] using inductionHypothesis
      | false =>
        simp [isBlank] at inductionHypothesis ⊢
        omega
  rw [← cut, words]
  exact congrArg List.length (List.flatten_filter_not_isEmpty)

/-- Words that are joined by a blank are the words of the joined text. -/
theorem words_intercalate {separator : α} (separates : blank separator = true)
    {parts : List (List α)} (areWords : ∀ part ∈ parts, IsWord blank part) :
    words blank ([separator].intercalate parts) = parts := by
  induction parts with
  | nil => rfl
  | cons first rest inductionHypothesis =>
    have firstWord := areWords first List.mem_cons_self
    have others := inductionHypothesis fun part listed =>
      areWords part (List.mem_cons_of_mem first listed)
    cases rest with
    | nil =>
      have whole : [separator].intercalate [first] = first := by simp [List.intercalate]
      rw [whole, words, List.splitOnP_eq_singleton firstWord.solid]
      simp [firstWord.nonempty]
    | cons second more =>
      have front : [separator].intercalate (first :: second :: more) =
          first ++ separator :: [separator].intercalate (second :: more) := by
        simp [List.intercalate]
      rw [front, words, List.splitOnP_append_cons_of_forall_mem firstWord.solid _ separates]
      rw [List.filter_cons_of_pos (by simp [firstWord.nonempty])]
      exact congrArg (first :: ·) others

/-- Joined texts come apart again exactly if each of them is a word. -/
theorem words_intercalate_iff {separator : α} (separates : blank separator = true)
    (parts : List (List α)) :
    words blank ([separator].intercalate parts) = parts ↔
      ∀ part ∈ parts, IsWord blank part := by
  constructor
  · intro same part listed
    rw [← same] at listed
    exact isWord_of_mem_words listed
  · exact words_intercalate separates

end Palette.Foundation.Words
