import Palette.Foundation.Words

/-!
# Commands that are shown

Before a command is shown, the word behind every option `--password` is hidden. The filter goes
through the words between blanks and knows nothing of quotes, so of a password with blanks inside
it only the first word is hidden.
-/

namespace Palette.Cli

open Palette.Foundation.Words

/-- The characters at which `split()` cuts a unicode text. -/
def isBlank (char : Char) : Bool :=
  let code := char.toNat
  (9 ≤ code && code ≤ 13) || (28 ≤ code && code ≤ 32) || (0x2000 ≤ code && code ≤ 0x200A) ||
    code ∈ [0x85, 0xA0, 0x1680, 0x180E, 0x2028, 0x2029, 0x202F, 0x205F, 0x3000]

/-- The option in front of a password. -/
def passwordOption : List Char := "--password".toList

/-- What stands for a password. -/
def placeholder : List Char := "<>".toList

/-- The loop of `safecmd`. -/
def safeTokens : Bool → List (List Char) → List (List Char)
  | _, [] => []
  | obscure, word :: rest =>
    if word = passwordOption then word :: safeTokens true rest
    else (if obscure then placeholder else word) :: safeTokens false rest

/-- `safecmd`. -/
def safecmd (cmd : List Char) : List Char :=
  [' '].intercalate (safeTokens false (words isBlank cmd))

/-- Two lists of words that differ only where both words are hidden: right behind the option, and
no option themselves. -/
def Alike : Bool → List (List Char) → List (List Char) → Prop
  | _, [], [] => True
  | obscure, word :: rest, other :: others =>
    (word = other ∨ obscure = true ∧ word ≠ passwordOption ∧ other ≠ passwordOption) ∧
      Alike (word = passwordOption) rest others
  | _, _, _ => False

/-- The filter keeps the number of words. -/
theorem length_safeTokens (obscure : Bool) (tokens : List (List Char)) :
    (safeTokens obscure tokens).length = tokens.length := by
  induction tokens generalizing obscure with
  | nil => rfl
  | cons word rest inductionHypothesis =>
    unfold safeTokens
    split <;> simp [inductionHypothesis]

/-- What is shown alike in front of the same words has as many words. -/
theorem length_of_safeTokens_eq {obscure : Bool} {tokens others rest : List (List Char)}
    (same : safeTokens obscure (tokens ++ rest) = safeTokens obscure (others ++ rest)) :
    tokens.length = others.length := by
  have lengths := congrArg List.length same
  rw [length_safeTokens, length_safeTokens, List.length_append, List.length_append] at lengths
  omega

/-- The filter gives words. -/
theorem isWord_of_mem_safeTokens {obscure : Bool} {tokens : List (List Char)} {shown : List Char}
    (areWords : ∀ word ∈ tokens, IsWord isBlank word) (listed : shown ∈ safeTokens obscure tokens) :
    IsWord isBlank shown := by
  induction tokens generalizing obscure with
  | nil => exact absurd listed List.not_mem_nil
  | cons word rest inductionHypothesis =>
    have first := areWords word List.mem_cons_self
    have others := fun word listed => areWords word (List.mem_cons_of_mem _ listed)
    have hidden : IsWord isBlank placeholder :=
      ⟨by decide, by simp [placeholder, isBlank]⟩
    unfold safeTokens at listed
    split at listed
    · rcases List.mem_cons.mp listed with rfl | behind
      · exact first
      · exact inductionHypothesis others behind
    · rcases List.mem_cons.mp listed with rfl | behind
      · split
        · exact hidden
        · exact first
      · exact inductionHypothesis others behind

/-- In front of the same words, two lists of words are shown alike exactly if they differ in hidden
words only. -/
theorem safeTokens_append_eq_iff (obscure : Bool) (tokens others rest : List (List Char)) :
    safeTokens obscure (tokens ++ rest) = safeTokens obscure (others ++ rest) ↔
      Alike obscure tokens others := by
  induction tokens generalizing obscure others with
  | nil =>
    cases others with
    | nil => simp [Alike]
    | cons other others =>
      refine iff_of_false (fun same => ?_) id
      simpa using length_of_safeTokens_eq same
  | cons word tokens inductionHypothesis =>
    cases others with
    | nil =>
      refine iff_of_false (fun same => ?_) id
      simpa using length_of_safeTokens_eq same
    | cons other others =>
      have unlike : placeholder ≠ passwordOption := by decide
      rw [List.cons_append, List.cons_append, safeTokens, safeTokens, Alike]
      by_cases isOption : word = passwordOption
      · by_cases otherOption : other = passwordOption
        · simp [isOption, otherOption, inductionHypothesis]
        · have apart : (if obscure then placeholder else other) ≠ passwordOption := by
            split
            · exact unlike
            · exact otherOption
          simp [isOption, otherOption, apart.symm, Ne.symm otherOption]
      · by_cases otherOption : other = passwordOption
        · have apart : (if obscure then placeholder else word) ≠ passwordOption := by
            split
            · exact unlike
            · exact isOption
          simp [isOption, otherOption, apart]
        · cases obscure <;> simp [isOption, otherOption, inductionHypothesis]

/-- Commands are shown the same exactly if the filter gives the same words. -/
theorem safecmd_eq_iff (cmd other : List Char) : safecmd cmd = safecmd other ↔
    safeTokens false (words isBlank cmd) = safeTokens false (words isBlank other) := by
  have recovered (text : List Char) : words isBlank (safecmd text) =
      safeTokens false (words isBlank text) :=
    words_intercalate (by decide) fun _ listed =>
      isWord_of_mem_safeTokens (fun _ member => isWord_of_mem_words member) listed
  constructor
  · intro same
    rw [← recovered, same, recovered]
  · intro same
    rw [safecmd, same, safecmd]

end Palette.Cli
