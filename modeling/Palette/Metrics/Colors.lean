import Palette.Foundation.Transition
import Palette.Metrics.Isolation

/-!
# The color of a process

With one agent, the color that the query joins is the one that was last notified. A check then
gives a process the color that its averages ask for: red where the error level is reached, else
yellow where the warning level is, and otherwise green or none. Two things stand against it. A
threshold of zero is joined like any other but then taken for none, so that it is never reached;
and an average of zero for the warning is taken for none, so that nothing is reported where there
is no average for an error either, and the color stays what it was.
-/

namespace Palette.Metrics

open Palette.Commands (Failure)
open Palette.Events Palette.Foundation Script

/-! ## What the averages ask for -/

namespace Check

variable (check : Check)

/-- The level of a process, where it is enabled: a threshold and a period that are set. -/
def level (process : String) (level : Level) : Option Config :=
  (check.settings.configs check.metric).find? fun config =>
    config.processName = process ∧ config.level = level

/-- An enabled level is reached. -/
def reached (process : String) (level : Level) : Bool :=
  match check.level process level with
  | none => false
  | some config =>
    match check.average config with
    | none => false
    | some value => decide ((config.threshold : ℚ) ≤ value)

/-- The averages over the enabled periods exist. -/
def AveragesExist (process : String) : Prop :=
  ∀ level config, check.level process level = some config → (check.average config).isSome = true

/-- The color is the one that the averages ask for. -/
def Lawful (process : String) (color : Option Color) : Prop :=
  if check.reached process .error then color = some .red
  else if check.reached process .warning then color = some .yellow
  else color = none ∨ color = some .green

/-- Nothing is reported: the error level is not enabled, and the warning level is not enabled
either or has an average of zero that is no more than its threshold. -/
def Silent (process : String) : Prop :=
  check.level process .error = none ∧ ∀ config, check.level process .warning = some config →
    check.average config = some 0 ∧ 0 ≤ config.threshold

/-- The level that decides has a threshold other than zero. -/
def Positive (process : String) (level : Level) : Prop :=
  ∀ config, check.level process level = some config → config.threshold ≠ 0

/-- The check can give the process the color that is asked for: where it reports something, the
level that is reached has a threshold other than zero, and where it does not, the color is right
already. -/
def Regular (process : String) (before : Option Color) : Prop :=
  (check.Silent process → check.Lawful process before) ∧
  (¬ check.Silent process →
    (check.reached process .error = true → check.Positive process .error) ∧
    (check.reached process .error = false → check.reached process .warning = true →
      check.Positive process .warning))

end Check

/-! ## The levels in the query -/

section Levels

variable {check : Check} {process : String}

/-- What a level is. -/
theorem configOf_eq_some {name : String} {level : Level} {threshold period : Option Int}
    {config : Config} :
    configOf name level threshold period = some config ↔
      threshold = some config.threshold ∧ period = some config.period ∧ 0 < config.period ∧
        config.processName = name ∧ config.level = level := by
  unfold configOf
  cases threshold with
  | none => simp
  | some threshold =>
    cases period with
    | none => simp
    | some period =>
      rcases config with ⟨other, limit, minutes, kind⟩
      simp only [Option.ite_none_right_eq_some, Option.some.injEq, Config.mk.injEq]
      constructor
      · rintro ⟨positive, rfl, rfl, rfl, rfl⟩
        exact ⟨rfl, rfl, positive, rfl, rfl⟩
      · rintro ⟨rfl, rfl, positive, rfl, rfl⟩
        exact ⟨positive, rfl, rfl, rfl, rfl⟩

/-- The columns of a setting for a level. -/
def Setting.columns (setting : Setting) : Level → Option Int × Option Int
  | .warning => (setting.thresholdWarning, setting.periodWarning)
  | .error => (setting.thresholdError, setting.periodError)

/-- An enabled level comes from the setting of its process. -/
theorem mem_configs {settings : Settings} {metric : Metric} {config : Config} :
    config ∈ settings.configs metric ↔ ∃ row ∈ settings.rows, row.alertType = metric ∧
      configOf row.processName config.level (row.columns config.level).1
        (row.columns config.level).2 = some config := by
  unfold Settings.configs
  simp only [List.mem_append, List.mem_filterMap, List.mem_filter, decide_eq_true_eq, and_assoc]
  constructor
  · rintro (⟨row, stored, metrical, made⟩ | ⟨row, stored, metrical, made⟩)
    · have kind := (configOf_eq_some.mp made).2.2.2.2
      exact ⟨row, stored, metrical, by rw [kind]; exact made⟩
    · have kind := (configOf_eq_some.mp made).2.2.2.2
      exact ⟨row, stored, metrical, by rw [kind]; exact made⟩
  · rintro ⟨row, stored, metrical, made⟩
    cases kind : config.level with
    | warning => exact .inl ⟨row, stored, metrical, by rw [kind] at made; exact made⟩
    | error => exact .inr ⟨row, stored, metrical, by rw [kind] at made; exact made⟩

/-- A process has each level once. -/
theorem configs_unique {settings : Settings} {metric : Metric} {config other : Config}
    (listed : config ∈ settings.configs metric) (otherListed : other ∈ settings.configs metric)
    (sameProcess : config.processName = other.processName)
    (sameLevel : config.level = other.level) : config = other := by
  obtain ⟨row, stored, metrical, made⟩ := mem_configs.mp listed
  obtain ⟨otherRow, otherStored, otherMetrical, otherMade⟩ := mem_configs.mp otherListed
  have name := (configOf_eq_some.mp made).2.2.2.1
  have otherName := (configOf_eq_some.mp otherMade).2.2.2.1
  have sameRow : row = otherRow := by
    refine List.inj_on_of_nodup_map settings.unique stored otherStored (Prod.ext ?_ ?_)
    · exact name.symm.trans (sameProcess.trans otherName)
    · exact metrical.trans otherMetrical.symm
  rw [← sameRow, ← sameLevel, made] at otherMade
  exact Option.some.inj otherMade

/-- An enabled level is one of those that the query joins. -/
theorem level_eq_some {level : Level} {config : Config} :
    check.level process level = some config ↔
      config ∈ check.settings.configs check.metric ∧ config.processName = process ∧
        config.level = level := by
  constructor
  · intro found
    have fits := List.find?_some found
    exact ⟨List.mem_of_find?_eq_some found, of_decide_eq_true fits⟩
  · rintro ⟨listed, name, kind⟩
    cases found : check.level process level with
    | none =>
      have misses := List.find?_eq_none.mp found config listed
      exact absurd (decide_eq_true ⟨name, kind⟩) misses
    | some other =>
      have chosen := List.find?_some found
      have fits := of_decide_eq_true chosen
      exact congrArg some (configs_unique (List.mem_of_find?_eq_some found) listed
        (fits.1.trans name.symm) (fits.2.trans kind.symm))

/-- The least of values that are all the same. -/
theorem minimum_eq {Value : Type} [LinearOrder Value] {values : List (Option Value)}
    {only : Option Value} (same : ∀ value, some value ∈ values ↔ only = some value) :
    minimum values = only := by
  unfold minimum
  ext value
  simp only [List.min?_eq_some_iff, List.mem_filterMap, id_eq, exists_eq_right, same]
  constructor
  · exact fun both => both.1
  · intro known
    refine ⟨known, fun other otherKnown => ?_⟩
    rw [known] at otherKnown
    exact (Option.some.inj otherKnown).le

/-- A column of the row of a process that belongs to a level is that of the level. -/
theorem column_eq {Value : Type} [LinearOrder Value] (column : Detail → Option Value)
    (colorless : ∀ detail color, column { detail with color := color } = column detail)
    (level : Level) (value : Config → Option Value)
    (shape : ∀ config, column (check.detail config none) =
      if config.level = level then value config else none) (rows : List Notification) :
    minimum (((check.details rows).filter fun detail => detail.processName = process).map column) =
      (check.level process level).bind value := by
  refine minimum_eq fun known => (mem_group column colorless known).trans ?_
  have name (config : Config) :
      (check.detail config none).processName = config.processName := by
    unfold Check.detail
    cases config.level <;> rfl
  rw [Option.bind_eq_some_iff]
  constructor
  · rintro ⟨config, listed, same, valued⟩
    rw [shape] at valued
    by_cases kind : config.level = level
    · rw [if_pos kind] at valued
      exact ⟨config, level_eq_some.mpr ⟨listed, (name config).symm.trans same, kind⟩, valued⟩
    · rw [if_neg kind] at valued
      cases valued
  · rintro ⟨config, found, valued⟩
    obtain ⟨listed, same, kind⟩ := level_eq_some.mp found
    exact ⟨config, listed, (name config).trans same, by rw [shape, if_pos kind, valued]⟩

/-- The row of a process has the columns of its levels. -/
theorem processRow_levels (rows : List Notification) :
    check.processRow rows process =
      { processName := process
        thresholdWarning := (check.level process .warning).map Config.threshold
        thresholdError := (check.level process .error).map Config.threshold
        periodWarning := (check.level process .warning).map Config.period
        periodError := (check.level process .error).map Config.period
        valueWarning := (check.level process .warning).bind check.average
        valueError := (check.level process .error).bind check.average
        color := (check.processRow rows process).color } := by
  have column {Value : Type} [LinearOrder Value] (column : Detail → Option Value)
      (colorless : ∀ detail color, column { detail with color := color } = column detail)
      (level : Level) (value : Config → Option Value)
      (shape : ∀ config, column (check.detail config none) =
        if config.level = level then value config else none) :=
    @column_eq check process Value _ column colorless level value shape rows
  refine Detail.ext rfl ?_ ?_ ?_ ?_ ?_ ?_ rfl <;> simp only [Option.map_eq_bind]
  · exact column Detail.thresholdWarning (fun _ _ => rfl) .warning _
      fun ⟨_, _, _, kind⟩ => by cases kind <;> rfl
  · exact column Detail.thresholdError (fun _ _ => rfl) .error _
      fun ⟨_, _, _, kind⟩ => by cases kind <;> rfl
  · exact column Detail.periodWarning (fun _ _ => rfl) .warning _
      fun ⟨_, _, _, kind⟩ => by cases kind <;> rfl
  · exact column Detail.periodError (fun _ _ => rfl) .error _
      fun ⟨_, _, _, kind⟩ => by cases kind <;> rfl
  · exact column Detail.valueWarning (fun _ _ => rfl) .warning _
      fun ⟨_, _, _, kind⟩ => by cases kind <;> rfl
  · exact column Detail.valueError (fun _ _ => rfl) .error _
      fun ⟨_, _, _, kind⟩ => by cases kind <;> rfl

/-- A level is over its threshold where it is reached, unless the threshold is zero. -/
def Check.over (check : Check) (process : String) (level : Level) : Bool :=
  isOverThreshold (getAsIntOrNone ((check.level process level).map Config.period))
    (getAsIntOrNone ((check.level process level).map Config.threshold))
    ((check.level process level).bind check.average)

/-- Where a level is not enabled, it is not over anything. -/
theorem over_none {level : Level} (disabled : check.level process level = none) :
    check.over process level = false := by
  unfold Check.over
  rw [disabled]
  rfl

theorem reached_none {level : Level} (disabled : check.level process level = none) :
    check.reached process level = false := by
  unfold Check.reached
  rw [disabled]

/-- The comparison of an enabled level with an average. -/
theorem over_some {level : Level} {config : Config} {value : ℚ}
    (enabled : check.level process level = some config)
    (average : check.average config = some value) :
    check.over process level =
      (decide (config.threshold ≠ 0) && decide ((config.threshold : ℚ) ≤ value)) := by
  obtain ⟨listed, -, -⟩ := level_eq_some.mp enabled
  obtain ⟨row, -, -, made⟩ := mem_configs.mp listed
  have positive := (configOf_eq_some.mp made).2.2.1
  have period : getAsIntOrNone (some config.period) = some config.period := by
    unfold getAsIntOrNone
    split
    · next zero => exact absurd (Option.some.inj zero) (by omega)
    · rfl
  unfold Check.over
  rw [enabled, Option.map_some, Option.map_some, Option.bind_some, average, period]
  by_cases zero : config.threshold = 0
  · rw [zero]
    rfl
  · have threshold : getAsIntOrNone (some config.threshold) = some config.threshold := by
      unfold getAsIntOrNone
      split
      · next same => exact absurd (Option.some.inj same) zero
      · rfl
    rw [threshold]
    simp [isOverThreshold, zero]

theorem reached_some {level : Level} {config : Config} {value : ℚ}
    (enabled : check.level process level = some config)
    (average : check.average config = some value) :
    check.reached process level = decide ((config.threshold : ℚ) ≤ value) := by
  unfold Check.reached
  rw [enabled]
  simp only [average]

/-- What is read of a process. -/
theorem reading_processRow (rows : List Notification) :
    reading (check.processRow rows process) =
      if check.over process .error then (.red, (check.level process .error).bind check.average)
      else if check.over process .warning then
        (.yellow, (check.level process .warning).bind check.average)
      else (.green, valueOrElse ((check.level process .warning).bind check.average)
        ((check.level process .error).bind check.average)) := by
  rw [processRow_levels]
  rfl

end Levels

/-! ## What a check makes of a color -/

/-- What a row makes of the color of its process. Where there is no value to report, it stays. -/
def settleRow (row : Detail) (before : Option Color) : Option Color :=
  match reading row with
  | (_, none) => before
  | (color, some _) => if color = .green ∧ before = none then none else some color

/-- The color of a process after a check. -/
def Check.settle (check : Check) (process : String) (before : Option Color) : Option Color :=
  settleRow (check.processRow [] process) before

section Settling

variable {check : Check} {process : String} {before : Option Color}

/-- A color that is reported. -/
theorem settle_reported {color : Color} {value : ℚ}
    (read : reading (check.processRow [] process) = (color, some value)) :
    check.settle process before = if color = .green ∧ before = none then none else some color := by
  unfold Check.settle settleRow
  rw [read]

/-- No value is reported. -/
theorem settle_silent {color : Color}
    (read : reading (check.processRow [] process) = (color, none)) :
    check.settle process before = before := by
  unfold Check.settle settleRow
  rw [read]

/-- What is reported as green is neither red nor yellow afterwards. -/
theorem settle_green {value : ℚ}
    (read : reading (check.processRow [] process) = (.green, some value)) :
    check.settle process before = none ∨ check.settle process before = some .green := by
  rw [settle_reported read]
  split
  · exact .inl rfl
  · exact .inr rfl

/-- What is reported as red or yellow has that color afterwards. -/
theorem settle_alert {color : Color} {value : ℚ} (alert : color ≠ .green)
    (read : reading (check.processRow [] process) = (color, some value)) :
    check.settle process before = some color := by
  rw [settle_reported read, if_neg fun both => alert both.1]

/-- A level that is reached with a threshold other than zero is over it, and no other is. -/
theorem over_eq {level : Level} (exist : check.AveragesExist process) :
    check.over process level = true ↔
      check.reached process level = true ∧ check.Positive process level := by
  cases enabled : check.level process level with
  | none =>
    rw [over_none enabled, reached_none enabled]
    simp
  | some config =>
    obtain ⟨value, average⟩ := Option.isSome_iff_exists.mp (exist level config enabled)
    rw [over_some enabled average, reached_some enabled average]
    simp [Check.Positive, enabled, and_comm]

/-- Where something is reported, a process that is not over its thresholds has a value. -/
theorem green_value (exist : check.AveragesExist process) (spoken : ¬ check.Silent process)
    (errorUnder : check.over process .error = false)
    (warningUnder : check.over process .warning = false) :
    ∃ value, reading (check.processRow [] process) = (.green, some value) := by
  rw [reading_processRow, errorUnder, warningUnder]
  simp only [Bool.false_eq_true, if_false, Prod.mk.injEq, true_and]
  cases enabled : check.level process .error with
  | some config =>
    obtain ⟨value, average⟩ := Option.isSome_iff_exists.mp (exist .error config enabled)
    rw [Option.bind_some, average]
    cases (check.level process .warning).bind check.average with
    | none => exact ⟨value, rfl⟩
    | some other =>
      by_cases zero : other = 0
      · exact ⟨value, if_pos zero⟩
      · exact ⟨other, if_neg zero⟩
  | none =>
    have warned : ∃ config, check.level process .warning = some config ∧
        ¬ (check.average config = some 0 ∧ 0 ≤ config.threshold) := by
      by_contra nothing
      refine spoken ⟨enabled, fun config known => ?_⟩
      by_contra other
      exact nothing ⟨config, known, other⟩
    obtain ⟨config, known, nonzero⟩ := warned
    obtain ⟨value, average⟩ := Option.isSome_iff_exists.mp (exist .warning config known)
    rw [known, Option.bind_some, average, Option.bind_none]
    unfold valueOrElse
    refine ⟨value, if_neg fun zero => ?_⟩
    subst zero
    have negative : config.threshold < 0 := not_le.mp fun small => nonzero ⟨average, small⟩
    have below : (config.threshold : ℚ) ≤ 0 := by exact_mod_cast negative.le
    rw [over_some known average] at warningUnder
    simp [negative.ne, below] at warningUnder

/-- Where nothing is reported, the color stays. -/
theorem silent_value (silent : check.Silent process) :
    ∃ color, reading (check.processRow [] process) = (color, none) := by
  obtain ⟨disabled, zero⟩ := silent
  rw [reading_processRow, over_none disabled, disabled]
  cases enabled : check.level process .warning with
  | none =>
    rw [over_none enabled]
    exact ⟨.green, rfl⟩
  | some config =>
    obtain ⟨average, small⟩ := zero config enabled
    have under : check.over process .warning = false := by
      rw [over_some enabled average, Bool.and_eq_false_iff, decide_eq_false_iff_not,
        decide_eq_false_iff_not, not_not]
      rcases small.eq_or_lt with same | positive
      · exact .inl same.symm
      · exact .inr (not_le.mpr (by exact_mod_cast positive))
    rw [under, Option.bind_some, average]
    exact ⟨.green, rfl⟩

/-- A check makes the color right if and only if it can. -/
theorem lawful_settle_iff (exist : check.AveragesExist process) :
    check.Lawful process (check.settle process before) ↔ check.Regular process before := by
  unfold Check.Regular
  by_cases silent : check.Silent process
  · obtain ⟨color, read⟩ := silent_value silent
    rw [settle_silent read]
    simp [silent]
  · have value {level : Level} (exceeds : check.over process level = true) :
        ∃ value, (check.level process level).bind check.average = some value := by
      cases enabled : check.level process level with
      | none =>
        rw [over_none enabled] at exceeds
        cases exceeds
      | some config => exact Option.isSome_iff_exists.mp (exist level config enabled)
    have errorOver := @over_eq check process .error exist
    have warningOver := @over_eq check process .warning exist
    simp only [silent, false_implies, not_false_eq_true, true_implies, true_and]
    unfold Check.Lawful
    cases overError : check.over process .error with
    | true =>
      obtain ⟨reached, positive⟩ := errorOver.mp overError
      obtain ⟨known, valued⟩ := value overError
      have read : reading (check.processRow [] process) = (.red, some known) := by
        rw [reading_processRow, overError, valued]
        rfl
      rw [settle_alert (by decide) read]
      simp [reached, positive]
    | false =>
      have notError : check.reached process .error = true → ¬ check.Positive process .error :=
        fun reached positive => by
          rw [errorOver.mpr ⟨reached, positive⟩] at overError
          cases overError
      cases overWarning : check.over process .warning with
      | true =>
        obtain ⟨reached, positive⟩ := warningOver.mp overWarning
        obtain ⟨known, valued⟩ := value overWarning
        have read : reading (check.processRow [] process) = (.yellow, some known) := by
          rw [reading_processRow, overError, overWarning, valued]
          rfl
        rw [settle_alert (by decide) read]
        cases error : check.reached process .error with
        | true => simp [notError error]
        | false => simp [reached, positive]
      | false =>
        have notWarning : check.reached process .warning = true →
            ¬ check.Positive process .warning := fun reached positive => by
          rw [warningOver.mpr ⟨reached, positive⟩] at overWarning
          cases overWarning
        obtain ⟨known, read⟩ := green_value exist silent overError overWarning
        have green := @settle_green check process before known read
        cases error : check.reached process .error with
        | true =>
          have never : check.settle process before ≠ some .red := by
            rcases green with unset | set
            · simp [unset]
            · simp [set]
          simp [notError error, never]
        | false =>
          cases warning : check.reached process .warning with
          | true =>
            have never : check.settle process before ≠ some .yellow := by
              rcases green with unset | set
              · simp [unset]
              · simp [set]
            simp [notWarning warning, never]
          | false => simpa using green

end Settling

end Palette.Metrics
