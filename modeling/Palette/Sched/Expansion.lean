import Palette.Sched.Crontab

/-!
# Writing out steps

A field `X/Y` is meant to become the list of the numbers `X`, `X + Y` and so on below the limit of
the field. This happens if `Y` is not zero. The list is empty if `X` is not below the limit, and
then there is a field less in the expression, as there is for an argument that is empty. An
argument with a blank makes a field more.
-/

namespace Palette.Sched

open Palette.Commands (digitsValue)
open Palette.Foundation.Words

/-! ## What is meant -/

/-- A text of the form `X/Y`. -/
def IsStep (text : Text) (xvar yvar : Nat) : Prop :=
  ∃ first second, text = first ++ '/' :: second ∧ digitsValue first = some xvar ∧
    digitsValue second = some yvar

/-- The numbers `X`, `X + Y`, `X + 2Y` and so on below a limit. -/
structure IsProgression (xvar yvar maxval : Nat) (values : List Nat) : Prop where
  ascending : values.Pairwise (· < ·)
  exactly : ∀ value, value ∈ values ↔ value < maxval ∧ ∃ times, value = xvar + times * yvar

/-- A list of numbers with commas between them. -/
def commas (values : List Nat) : Text := [','].intercalate (values.map decimal)

/-- A field is written out as it is meant. -/
def Expands (maxval : Nat) (text : Text) : Prop :=
  ∃ fuel result, Crontab.commafy fuel text maxval = some result ∧
    (∀ xvar yvar, IsStep text xvar yvar →
      ∃ values, IsProgression xvar yvar maxval values ∧ result = commas values) ∧
    ((¬ ∃ xvar yvar, IsStep text xvar yvar) → result = text)

/-- The expression has five fields. -/
def HasFiveFields (entry : Crontab) : Prop :=
  ∃ fuel expression fields, entry.expr fuel = some expression ∧ entry.fields fuel = some fields ∧
    words isSpace expression = fields ∧ fields.length = 5 ∧ ∀ field ∈ fields, field ≠ []

/-- A field with a step that begins below the limit and is not zero, or a word without a step. -/
def IsEntered (maxval : Nat) (text : Text) : Prop :=
  (∃ xvar yvar, IsStep text xvar yvar ∧ xvar < maxval ∧ yvar ≠ 0) ∨
    IsWord isSpace text ∧ ¬ ∃ xvar yvar, IsStep text xvar yvar

/-! ## Reading a step -/

/-- Digits have no slash, no comma and no blank. -/
theorem isDigit_of_digitsValue {text : Text} {value : Nat} (read : digitsValue text = some value) :
    text ≠ [] ∧ ∀ char ∈ text, char.isDigit = true := by
  unfold digitsValue at read
  split at read
  · rename_i digits
    exact ⟨digits.1, by simpa using digits.2⟩
  · cases read

/-- Digits are no blanks. -/
theorem isSpace_of_isDigit {char : Char} (digit : char.isDigit = true) : isSpace char = false := by
  cases space : isSpace char with
  | false => rfl
  | true =>
    simp only [isSpace, List.mem_cons, List.not_mem_nil, or_false, decide_eq_true_eq] at space
    rcases space with rfl | rfl | rfl | rfl | rfl | rfl <;> revert digit <;> decide

/-- A step is read with its two numbers. -/
theorem slashMatch_of_isStep {text : Text} {xvar yvar : Nat} (step : IsStep text xvar yvar) :
    Crontab.slashMatch text = some (xvar, yvar) := by
  obtain ⟨first, second, rfl, firstRead, secondRead⟩ := step
  have noSlash : ∀ char ∈ first, decide (char ≠ '/') = true := by
    intro char member
    have digit := (isDigit_of_digitsValue firstRead).2 char member
    simp only [decide_eq_true_eq]
    rintro rfl
    revert digit
    decide
  have taken : (first ++ '/' :: second).takeWhile (· ≠ '/') = first := by
    rw [List.takeWhile_append_of_pos noSlash]
    simp
  have dropped : (first ++ '/' :: second).dropWhile (· ≠ '/') = '/' :: second := by
    rw [List.dropWhile_append_of_pos noSlash]
    simp
  have whole : Crontab.lastDigits second = some yvar := by
    have digits := isDigit_of_digitsValue secondRead
    unfold Crontab.lastDigits
    rw [if_neg, secondRead]
    intro last
    have digit := digits.2 '\n' (List.mem_of_getLast? last)
    revert digit
    decide
  simp only [Crontab.slashMatch, taken, dropped, firstRead, whole]
  rfl

/-- What is read as a step is one, or it has a newline. -/
theorem isStep_of_slashMatch {text : Text} {xvar yvar : Nat}
    (read : Crontab.slashMatch text = some (xvar, yvar)) :
    IsStep text xvar yvar ∨ '\n' ∈ text := by
  have whole := List.takeWhile_append_dropWhile (p := fun char => decide (char ≠ '/')) (l := text)
  unfold Crontab.slashMatch at read
  cases after : text.dropWhile fun char => decide (char ≠ '/') with
  | nil =>
    rw [after] at read
    cases read
  | cons slash rest =>
    rw [after] at read whole
    have isSlash : slash = '/' := by
      have stops := List.head?_dropWhile_not (fun char => decide (char ≠ '/')) text
      rw [after] at stops
      simpa using stops
    subst isSlash
    cases first : digitsValue (text.takeWhile fun char => decide (char ≠ '/')) with
    | none =>
      simp only [first, Option.bind_eq_bind, Option.bind_none, reduceCtorEq] at read
    | some xvar' =>
      cases second : Crontab.lastDigits rest with
      | none =>
        simp only [first, second, Option.bind_eq_bind, Option.bind_none, Option.bind_some,
          reduceCtorEq] at read
      | some yvar' =>
        simp only [first, second, Option.pure_def, Option.bind_eq_bind, Option.bind_some,
          Option.some.injEq, Prod.mk.injEq] at read
        obtain ⟨rfl, rfl⟩ := read
        unfold Crontab.lastDigits at second
        split at second
        · rename_i newline
          right
          rw [← whole]
          exact List.mem_append_right _ (List.mem_cons_of_mem _ (List.mem_of_getLast? newline))
        · exact .inl ⟨_, rest, whole.symm, first, second⟩

/-- The numbers of a step are determined. -/
theorem IsStep.unique {text : Text} {xvar yvar xvar' yvar' : Nat} (step : IsStep text xvar yvar)
    (again : IsStep text xvar' yvar') : xvar = xvar' ∧ yvar = yvar' := by
  have same := slashMatch_of_isStep step
  rw [slashMatch_of_isStep again] at same
  simpa [eq_comm] using same

/-! ## The loop -/

/-- Without a step the loop stays below the limit. -/
theorem commafyLoop_stuck {maxval xvar : Nat} (below : xvar < maxval) (fuel : Nat)
    (retval : Text) : Crontab.commafyLoop maxval 0 fuel xvar retval = none := by
  induction fuel generalizing retval with
  | zero => rfl
  | succ fuel inductionHypothesis =>
    rw [Crontab.commafyLoop, if_pos below]
    exact inductionHypothesis _

/-- At the limit the loop ends. -/
theorem commafyLoop_end {maxval xvar : Nat} (limit : maxval ≤ xvar) (yvar fuel : Nat)
    (retval : Text) : Crontab.commafyLoop maxval yvar (fuel + 1) xvar retval = some retval := by
  rw [Crontab.commafyLoop, if_neg (Nat.not_lt.mpr limit)]

/-- With a step the loop ends after no more rounds than there are numbers below the limit. -/
theorem commafyLoop_isSome {maxval yvar : Nat} (positive : 0 < yvar) {fuel xvar : Nat}
    (enough : maxval ≤ xvar + fuel) (retval : Text) :
    (Crontab.commafyLoop maxval yvar (fuel + 1) xvar retval).isSome = true := by
  induction fuel generalizing xvar retval with
  | zero =>
    rw [commafyLoop_end (by omega)]
    rfl
  | succ fuel inductionHypothesis =>
    rcases Nat.lt_or_ge xvar maxval with below | limit
    · rw [Crontab.commafyLoop, if_pos below]
      exact inductionHypothesis (by omega) _
    · rw [commafyLoop_end limit]
      rfl

/-- More fuel does not change a result. -/
theorem commafyLoop_mono {maxval yvar fuel more xvar : Nat} {retval result : Text}
    (returned : Crontab.commafyLoop maxval yvar fuel xvar retval = some result)
    (atLeast : fuel ≤ more) :
    Crontab.commafyLoop maxval yvar more xvar retval = some result := by
  induction fuel generalizing xvar retval more with
  | zero => cases returned
  | succ fuel inductionHypothesis =>
    obtain ⟨more, rfl⟩ := Nat.exists_eq_add_of_le' (Nat.le_trans (Nat.succ_pos fuel) atLeast)
    rw [Crontab.commafyLoop] at returned ⊢
    split
    · rename_i below
      rw [if_pos below] at returned
      exact inductionHypothesis returned (by omega)
    · rename_i limit
      rwa [if_neg limit] at returned

/-- A number in front of a progression. -/
theorem IsProgression.cons {xvar yvar maxval : Nat} {values : List Nat} (positive : 0 < yvar)
    (below : xvar < maxval) (rest : IsProgression (xvar + yvar) yvar maxval values) :
    IsProgression xvar yvar maxval (xvar :: values) := by
  constructor
  · refine List.pairwise_cons.mpr ⟨fun value later => ?_, rest.ascending⟩
    obtain ⟨-, times, rfl⟩ := (rest.exactly value).mp later
    omega
  · intro value
    rw [List.mem_cons, rest.exactly]
    constructor
    · rintro (rfl | ⟨limit, times, rfl⟩)
      · exact ⟨below, 0, by simp⟩
      · exact ⟨limit, times + 1, by rw [Nat.add_mul]; omega⟩
    · rintro ⟨limit, times, rfl⟩
      cases times with
      | zero => exact .inl (by simp)
      | succ times => exact .inr ⟨limit, times, by rw [Nat.add_mul]; omega⟩

/-- At the limit there is no number more. -/
theorem isProgression_nil {xvar yvar maxval : Nat} (limit : maxval ≤ xvar) :
    IsProgression xvar yvar maxval [] := by
  refine ⟨List.Pairwise.nil, fun value => ?_⟩
  constructor
  · intro member
    cases member
  · rintro ⟨below, times, rfl⟩
    omega

/-- What the loop returns has the numbers of the progression at its end. -/
theorem commafyLoop_values {maxval yvar fuel xvar : Nat} {retval result : Text}
    (positive : 0 < yvar)
    (returned : Crontab.commafyLoop maxval yvar fuel xvar retval = some result) :
    ∃ values, IsProgression xvar yvar maxval values ∧
      result = values.foldl Crontab.listed retval := by
  induction fuel generalizing xvar retval with
  | zero => cases returned
  | succ fuel inductionHypothesis =>
    rcases Nat.lt_or_ge xvar maxval with below | limit
    · rw [Crontab.commafyLoop, if_pos below] at returned
      obtain ⟨values, progression, same⟩ := inductionHypothesis returned
      exact ⟨xvar :: values, progression.cons positive below, same⟩
    · rw [commafyLoop_end limit] at returned
      cases returned
      exact ⟨[], isProgression_nil limit, rfl⟩

/-! ## Lists with commas -/

/-- A number has digits. -/
theorem decimal_ne_nil (number : Nat) : decimal number ≠ [] := Nat.toDigits_ne_nil

/-- Numbers that are listed behind others come with a comma each. -/
theorem foldl_listed {retval : Text} (some : retval ≠ []) (values : List Nat) :
    values.foldl Crontab.listed retval =
      retval ++ values.flatMap fun value => ',' :: decimal value := by
  induction values generalizing retval with
  | nil => simp
  | cons value rest inductionHypothesis =>
    have next : Crontab.listed retval value = retval ++ ',' :: decimal value := by
      simp [Crontab.listed, some]
    rw [List.foldl_cons, next, inductionHypothesis (by simp)]
    simp

/-- Listing numbers puts commas between them. -/
theorem foldl_listed_nil (values : List Nat) : values.foldl Crontab.listed [] = commas values := by
  cases values with
  | nil => rfl
  | cons first rest =>
    have start : Crontab.listed [] first = decimal first := by simp [Crontab.listed]
    rw [List.foldl_cons, start, foldl_listed (decimal_ne_nil first)]
    clear start
    induction rest generalizing first with
    | nil => simp [commas, List.intercalate]
    | cons second more inductionHypothesis =>
      have front : commas (first :: second :: more) =
          decimal first ++ ',' :: commas (second :: more) := by
        simp [commas, List.intercalate]
      rw [front, ← inductionHypothesis second]
      simp

/-- A list of numbers is a word. -/
theorem isWord_commas {values : List Nat} (some : values ≠ []) :
    IsWord isSpace (commas values) := by
  have kinds (values : List Nat) : ∀ char ∈ commas values, char.isDigit = true ∨ char = ',' := by
    intro char member
    induction values with
    | nil => cases member
    | cons first rest inductionHypothesis =>
      have digits : char ∈ decimal first → char.isDigit = true :=
        Nat.isDigit_of_mem_toDigits (by decide) (by decide)
      cases rest with
      | nil =>
        have whole : commas [first] = decimal first := by simp [commas, List.intercalate]
        rw [whole] at member
        exact .inl (digits member)
      | cons second more =>
        have front : commas (first :: second :: more) =
            decimal first ++ ',' :: commas (second :: more) := by
          simp [commas, List.intercalate]
        rw [front] at member
        rcases List.mem_append.mp member with inFirst | inRest
        · exact .inl (digits inFirst)
        · rcases List.mem_cons.mp inRest with comma | behind
          · exact .inr comma
          · exact inductionHypothesis behind
  constructor
  · cases values with
    | nil => exact absurd rfl some
    | cons first rest =>
      cases rest <;> simp [commas, List.intercalate, decimal_ne_nil]
  · intro char member
    rcases kinds values char member with digit | comma
    · exact isSpace_of_isDigit digit
    · rw [comma]
      decide

/-! ## One field -/

variable {maxval : Nat} {text : Text}

/-- More fuel does not change a field. -/
theorem commafy_mono {fuel more : Nat} {result : Text}
    (returned : Crontab.commafy fuel text maxval = some result) (atLeast : fuel ≤ more) :
    Crontab.commafy more text maxval = some result := by
  unfold Crontab.commafy at *
  split at returned
  · exact returned
  · exact commafyLoop_mono returned atLeast

/-- A field that is entered as a step or a word is written out as a word. -/
theorem IsEntered.expands (entered : IsEntered maxval text) :
    ∃ fuel result, Crontab.commafy fuel text maxval = some result ∧ IsWord isSpace result ∧
      (∀ xvar yvar, IsStep text xvar yvar →
        ∃ values, IsProgression xvar yvar maxval values ∧ result = commas values) ∧
      ((¬ ∃ xvar yvar, IsStep text xvar yvar) → result = text) := by
  rcases entered with ⟨xvar, yvar, step, below, nonzero⟩ | ⟨word, noStep⟩
  · have positive : 0 < yvar := Nat.pos_of_ne_zero nonzero
    have returns : (Crontab.commafyLoop maxval yvar (maxval + 1) xvar []).isSome = true :=
      commafyLoop_isSome positive (by omega) []
    obtain ⟨result, looped⟩ := Option.isSome_iff_exists.mp returns
    obtain ⟨values, progression, same⟩ := commafyLoop_values positive looped
    have written : result = commas values := same.trans (foldl_listed_nil values)
    have first : xvar ∈ values := (progression.exactly xvar).mpr ⟨below, 0, by simp⟩
    refine ⟨maxval + 1, result, ?_, ?_, ?_, fun noStep => absurd ⟨xvar, yvar, step⟩ noStep⟩
    · simp only [Crontab.commafy, slashMatch_of_isStep step]
      exact looped
    · rw [written]
      exact isWord_commas (List.ne_nil_of_mem first)
    · intro xvar' yvar' again
      obtain ⟨rfl, rfl⟩ := step.unique again
      exact ⟨values, progression, written⟩
  · have notRead : Crontab.slashMatch text = none := by
      cases read : Crontab.slashMatch text with
      | none => rfl
      | some numbers =>
        rcases isStep_of_slashMatch read with step | newline
        · exact absurd ⟨numbers.1, numbers.2, step⟩ noStep
        · exact absurd (word.solid _ newline) (by decide)
    refine ⟨0, text, ?_, word, fun xvar yvar step => absurd ⟨xvar, yvar, step⟩ noStep, fun _ => rfl⟩
    simp only [Crontab.commafy, notRead]

/-- A field that is written out as a word was entered as a step or a word. -/
theorem isEntered_of_expands (expands : Expands maxval text) {fuel : Nat} {result : Text}
    (returned : Crontab.commafy fuel text maxval = some result) (word : IsWord isSpace result) :
    IsEntered maxval text := by
  obtain ⟨enough, meant, returnedMeant, steps, plain⟩ := expands
  have same : meant = result := by
    have first := commafy_mono returned (Nat.le_max_left fuel enough)
    have second := commafy_mono returnedMeant (Nat.le_max_right fuel enough)
    rw [first, Option.some.injEq] at second
    exact second.symm
  by_cases step : ∃ xvar yvar, IsStep text xvar yvar
  · obtain ⟨xvar, yvar, step⟩ := step
    obtain ⟨values, progression, written⟩ := steps xvar yvar step
    have below : xvar < maxval := by
      cases values with
      | nil => exact absurd (same.symm.trans written) word.nonempty
      | cons value rest =>
        obtain ⟨limit, times, rfl⟩ := (progression.exactly value).mp List.mem_cons_self
        omega
    refine .inl ⟨xvar, yvar, step, below, ?_⟩
    rintro rfl
    simp only [Crontab.commafy, slashMatch_of_isStep step, commafyLoop_stuck below] at returned
    cases returned
  · refine .inr ⟨?_, step⟩
    rw [← plain step, same]
    exact word

/-! ## The expression of a job -/

/-- Digits are entered as a word. -/
theorem isEntered_of_digits {hour : Text} (some : hour ≠ [])
    (digits : ∀ char ∈ hour, char.isDigit = true) : IsEntered maxval hour := by
  refine .inr ⟨⟨some, fun char member => isSpace_of_isDigit (digits char member)⟩, ?_⟩
  rintro ⟨xvar, yvar, first, second, rfl, -⟩
  have digit := digits '/' (by simp)
  revert digit
  decide

/-- The hour that is stored is a step or a word exactly if the one that was entered is. -/
theorem isEntered_storedHour (ahead : Nat) (hour : Text) :
    IsEntered maxval (storedHour ahead hour) ↔ IsEntered maxval hour := by
  unfold storedHour
  cases read : digitsValue hour with
  | none => exact Iff.rfl
  | some number =>
    obtain ⟨some, digits⟩ := isDigit_of_digitsValue read
    refine iff_of_true (isEntered_of_digits (decimal_ne_nil _) fun char member => ?_)
      (isEntered_of_digits some digits)
    exact Nat.isDigit_of_mem_toDigits (by decide) (by decide) member

/-- The steps of a job are written out as they are meant, and its expression has five fields. -/
structure ExpandsWell (entry : Crontab) : Prop where
  minute : Expands 60 entry.minute
  hour : Expands 24 entry.hour
  five : HasFiveFields entry

/-- A stored job expands well exactly if its minute and its hour are steps or words and the other
fields are words. -/
theorem expandsWell_iff (entry : Crontab) :
    ExpandsWell entry ↔ IsEntered 60 entry.minute ∧ IsEntered 24 entry.hour ∧
      IsWord isSpace entry.dayOfMonth ∧ IsWord isSpace entry.month ∧
      IsWord isSpace entry.dayOfWeek := by
  constructor
  · rintro ⟨minute, hour, fuel, expression, fields, written, listed, apart, -, -⟩
    cases minuteReturned : Crontab.commafy fuel entry.minute 60 with
    | none => simp [Crontab.fields, minuteReturned] at listed
    | some minuteField =>
      cases hourReturned : Crontab.commafy fuel entry.hour 24 with
      | none => simp [Crontab.fields, minuteReturned, hourReturned] at listed
      | some hourField =>
        have these : fields =
            [minuteField, hourField, entry.dayOfMonth, entry.month, entry.dayOfWeek] := by
          simpa [Crontab.fields, minuteReturned, hourReturned, eq_comm] using listed
        rw [Crontab.expr, listed, Option.map_some, Option.some.injEq] at written
        rw [← written] at apart
        have areWords := (words_intercalate_iff (by decide) fields).mp apart
        rw [these] at areWords
        simp only [List.forall_mem_cons] at areWords
        obtain ⟨minuteWord, hourWord, dayOfMonth, month, dayOfWeek, -⟩ := areWords
        exact ⟨isEntered_of_expands minute minuteReturned minuteWord,
          isEntered_of_expands hour hourReturned hourWord, dayOfMonth, month, dayOfWeek⟩
  · rintro ⟨minute, hour, dayOfMonth, month, dayOfWeek⟩
    obtain ⟨minuteFuel, minuteField, minuteReturned, minuteWord, minuteMeant⟩ := minute.expands
    obtain ⟨hourFuel, hourField, hourReturned, hourWord, hourMeant⟩ := hour.expands
    refine ⟨⟨minuteFuel, minuteField, minuteReturned, minuteMeant⟩,
      ⟨hourFuel, hourField, hourReturned, hourMeant⟩, ?_⟩
    have listed : entry.fields (max minuteFuel hourFuel) =
        some [minuteField, hourField, entry.dayOfMonth, entry.month, entry.dayOfWeek] := by
      simp [Crontab.fields, commafy_mono minuteReturned (Nat.le_max_left _ _),
        commafy_mono hourReturned (Nat.le_max_right _ _)]
    have areWords : ∀ field ∈ [minuteField, hourField, entry.dayOfMonth, entry.month,
        entry.dayOfWeek], IsWord isSpace field := by
      simp [minuteWord, hourWord, dayOfMonth, month, dayOfWeek]
    refine ⟨_, _, _, by rw [Crontab.expr, listed]; rfl, listed, ?_, rfl,
      fun field member => (areWords field member).nonempty⟩
    exact (words_intercalate_iff (by decide) _).mpr areWords

/-- A job that is added expands well exactly if its minute and its hour are entered as steps that
begin below the limit and are not zero or as words without a step, and the other fields as words. -/
theorem added_job_expands_iff (ahead : Nat) (minute hour dayOfMonth month dayOfWeek : Text) :
    ExpandsWell (addCronJob ahead minute hour dayOfMonth month dayOfWeek) ↔
      IsEntered 60 minute ∧ IsEntered 24 hour ∧ IsWord isSpace dayOfMonth ∧
        IsWord isSpace month ∧ IsWord isSpace dayOfWeek := by
  rw [expandsWell_iff]
  simp only [addCronJob, isEntered_storedHour]

/-- With the minute `5/0` the loop does not end, and the minute `60/5` leaves no minute. -/
theorem endless_step_and_empty_step :
    (¬ ExpandsWell (addCronJob 0 "5/0".toList "*".toList "*".toList "*".toList "*".toList)) ∧
      ¬ ExpandsWell (addCronJob 0 "60/5".toList "*".toList "*".toList "*".toList "*".toList) := by
  constructor
  · rintro ⟨⟨fuel, result, returned, -⟩, -, -⟩
    have stuck : Crontab.commafyLoop 60 0 fuel 5 [] = none := commafyLoop_stuck (by decide) fuel []
    have read : Crontab.slashMatch "5/0".toList = some (5, 0) := by decide
    simp only [addCronJob, Crontab.commafy, read, stuck] at returned
    cases returned
  · rintro ⟨-, -, fuel, expression, fields, -, listed, -, -, nonempty⟩
    have read : Crontab.slashMatch "60/5".toList = some (60, 5) := by decide
    have plain : Crontab.slashMatch "*".toList = none := by decide
    cases fuel with
    | zero =>
      simp only [addCronJob, Crontab.fields, Crontab.commafy, read, Crontab.commafyLoop] at listed
      cases listed
    | succ fuel =>
      have empty : [] ∈ fields := by
        have kept : storedHour 0 "*".toList = "*".toList := by decide
        simp only [addCronJob, Crontab.fields, Crontab.commafy, read, kept, plain,
          commafyLoop_end (Nat.le_refl 60)] at listed
        cases listed
        exact List.mem_cons_self
      exact nonempty [] empty rfl

end Palette.Sched
