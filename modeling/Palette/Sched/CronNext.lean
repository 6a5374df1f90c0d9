import Palette.Sched.CronDays

/-!
# The next match of an expression

A moment matches an expression if all its columns admit it. Of a day of the month and a day of the
week that are both restricted, one is enough. What is returned matches, and no match lies between
it and the current moment, if no day is skipped. If a day can be skipped, there is a moment after
which it is.
-/

namespace Palette.Sched.Croniter

open Palette.Foundation
open Palette.Foundation.Calendar
open Palette.Foundation.Leaping

/-! ## What is meant -/

/-- Both columns for days are restricted. -/
def bothDays (expanded : List (List Item)) : Bool :=
  restricted (columnAt expanded 2) && restricted (columnAt expanded 4)

/-- The columns for days admit a date. -/
def OnDay (expanded : List (List Item)) (date : Date) : Prop :=
  if bothDays expanded = true then
    Admits (columnAt expanded 2) date.day ∨ Admits (columnAt expanded 4) date.weekday
  else Admits (columnAt expanded 2) date.day ∧ Admits (columnAt expanded 4) date.weekday

/-- A moment matches an expression. -/
structure Matches (expanded : List (List Item)) (moment : Moment) : Prop where
  month : Admits (columnAt expanded 3) moment.date.month
  day : OnDay expanded moment.date
  hour : Admits (columnAt expanded 1) moment.hour
  minute : Admits (columnAt expanded 0) moment.minute
  second : AdmitsSecond expanded moment

/-- The first match behind a moment. -/
structure IsNext (matched : Moment → Prop) (now found : Moment) : Prop where
  isMatch : matched found
  later : now.clock < found.clock
  first : ∀ other, matched other → now.clock < other.clock → found.clock ≤ other.clock

/-- The calendar has no match behind a moment. -/
def NoNext (matched : Moment → Prop) (now : Moment) : Prop :=
  ∀ other, matched other → other.date.year ≤ 9999 → other.clock ≤ now.clock

/-- The expressions that are searched for one after the other. -/
def searched (expanded : List (List Item)) : List (List (List Item)) :=
  if bothDays expanded then [expanded.set 4 [.star], expanded.set 2 [.star]] else [expanded]

/-- The moments that a search does not miss. -/
def Reached (expanded : List (List Item)) (moment : Moment) : Prop :=
  Found expanded moment ∧ (Skips expanded → moment.date.month ≠ 3)

/-! ## One search -/

section Search

variable {expanded : List (List Item)} {now found other : Moment} {fuel : Nat}

/-- The smallest unit of a moment whose smaller ones are cut off. -/
theorem clock_eq (plain : AllPlain expanded) (admits : AdmitsSecond expanded other) :
    other.clock = offset expanded * rank expanded other := by
  unfold rank
  rcases offset_cases expanded with ⟨same, -⟩ | ⟨same, length⟩
  · rw [same]
    omega
  · have five : expanded[5]? = none := by
      rw [List.getElem?_eq_none_iff]
      have := plain.length
      omega
    have cut : other.second = 0 := by
      simpa only [AdmitsSecond, five] using admits
    have remainder := Moment.clock_mod other
    rw [cut] at remainder
    simp only [Fin.val_zero] at remainder
    rw [same]
    omega

/-- A later moment is not before the one at which the search begins. -/
theorem lt_clock_iff (plain : AllPlain expanded) (admits : AdmitsSecond expanded other) :
    now.clock < other.clock ↔
      rank expanded (now.plus (offset expanded)) ≤ rank expanded other := by
  have start : rank expanded (now.plus (offset expanded)) = now.clock / offset expanded + 1 := by
    rw [rank, Moment.clock_plus, Nat.add_div_right _ (offset_pos expanded)]
  rw [clock_eq plain admits, start, Nat.succ_le_iff, Nat.div_lt_iff_lt_mul (offset_pos expanded),
    Nat.mul_comm]

/-- What is found is wanted. -/
theorem Found.wanted (hasFound : Found expanded other) (inCalendar : other.date.year ≤ 9999) :
    Wanted expanded other where
  inCalendar := inCalendar
  month := hasFound.month
  dayOfMonth := hasFound.dayOfMonth
  dayOfWeek := hasFound.dayOfWeek
  time :=
    { hour := hasFound.hour
      minute := hasFound.minute
      second := fun toCheck column => by
        have admits := hasFound.second
        simp only [AdmitsSecond, Option.mem_def.1 column] at admits
        exact admits }

/-- The moment at which a search begins. -/
theorem kept_origin (origin : Moment) (since : 1 ≤ origin.date.year)
    (inCalendar : origin.date.year ≤ 9999) : Kept expanded origin origin :=
  ⟨since, inCalendar, fun _ => ⟨.inl rfl, .inl rfl⟩⟩

/-- Seconds added to a moment do not lead to an earlier year. -/
theorem year_le_plus (now : Moment) (seconds : Nat) :
    now.date.year ≤ (now.plus seconds).date.year :=
  year_le (Moment.number_le_of_clock_le (by rw [Moment.clock_plus]; exact Nat.le_add_right _ _))

variable (plain : AllPlain expanded)
  (single : restricted (columnAt expanded 2) = true → restricted (columnAt expanded 4) = false)
  (since : 1 ≤ now.date.year)

include plain single since

/-- A search finds a match and passes over none that it does not skip. -/
theorem calcNext_ok (result : calcNext fuel now expanded = some (.ok found)) :
    Found expanded found ∧ found.date.year ≤ 9999 ∧ now.clock < found.clock ∧
      ∀ other, Reached expanded other → now.clock < other.clock → found.clock ≤ other.clock := by
  unfold calcNext at result
  rw [add_nat _ _ since] at result
  split at result
  · cases result
  · rename_i origin begun
    split at begun
    · rename_i inCalendar
      cases begun
      have kept : Kept expanded _ _ := kept_origin _
        (Nat.le_trans since (year_le_plus now (offset expanded))) inCalendar
      obtain ⟨hasFound, keptFound, le, clear⟩ :=
        search_ok (leaps_procs plain single) kept result
      refine ⟨hasFound, keptFound.inCalendar, (lt_clock_iff plain hasFound.second).2 le,
        fun other reached later => ?_⟩
      by_contra before
      have ranks : rank expanded other < rank expanded found := by
        rw [rank_lt_iff (clock_eq plain hasFound.second)]
        exact Nat.lt_of_not_le before
      refine clear other ((lt_clock_iff plain reached.1.second).1 later) ranks
        ⟨reached.1.wanted ?_, reached.2⟩
      have days := Moment.number_le_of_clock_le (Nat.le_of_lt (Nat.lt_of_not_le before))
      exact Nat.le_trans (year_le days) keptFound.inCalendar
    · cases begun

/-- A search fails only if there is no match that it does not skip. -/
theorem calcNext_error {failure : Failure}
    (result : calcNext fuel now expanded = some (.error failure)) :
    NoNext (Reached expanded) now := by
  intro other reached inCalendar
  by_contra later
  have behind : now.clock < other.clock := Nat.lt_of_not_le later
  have from_ := (lt_clock_iff plain reached.1.second).1 behind
  have years := year_le (number_le_of_rank_le from_)
  unfold calcNext at result
  rw [add_nat _ _ since] at result
  split at result
  · rename_i begun
    split at begun
    · cases begun
    · omega
  · rename_i origin begun
    split at begun
    · rename_i originIn
      cases begun
      have kept : Kept expanded _ _ := kept_origin _
        (Nat.le_trans since (year_le_plus now (offset expanded))) originIn
      exact search_error (leaps_procs plain single) kept result other from_
        ⟨reached.1.wanted inCalendar, reached.2⟩
    · cases begun

/-- A search ends, at the latest with the calendar. -/
theorem calcNext_isSome (enough : 86400 * (daysBefore 120000 + 1) ≤ fuel) :
    (calcNext fuel now expanded).isSome := by
  unfold calcNext
  rw [add_nat _ _ since]
  split
  · rfl
  · rename_i origin begun
    split at begun
    · rename_i originIn
      cases begun
      refine search_isSome (leaps_procs plain single) (fun place kept => ?_)
        (kept_origin _ (Nat.le_trans since (year_le_plus now (offset expanded))) originIn)
        (Nat.le_trans enough (Nat.le_add_left _ _))
      have months : place.date.months + 1 ≤ 120000 := by
        have := kept.inCalendar
        have := Date.months_div place.date
        omega
      have number := Nat.le_trans place.date.number_le (daysBefore_mono months)
      have seconds := place.secondOfDay_lt
      refine Nat.lt_of_le_of_lt (Nat.div_le_self _ _) ?_
      unfold Moment.clock
      omega
    · cases begun

end Search

/-! ## Both columns for days -/

section Kinds

variable {expanded kind : List (List Item)} {moment : Moment}

/-- A column that is replaced. -/
theorem columnAt_set {index : Nat} (inside : index < expanded.length) (items : List Item)
    (other : Nat) : columnAt (expanded.set index items) other =
      if index = other then items else columnAt expanded other := by
  unfold columnAt
  rw [List.getD_eq_getElem?_getD, List.getD_eq_getElem?_getD, List.getElem?_set]
  split
  · rfl
  · rfl

/-- A column of `*` admits everything. -/
theorem admits_star (value : Nat) : Admits [.star] value := fun impossible => by cases impossible

/-- The columns of a search are those of the expression, apart from the days. -/
structure IsKind (expanded kind : List (List Item)) : Prop where
  plain : AllPlain kind
  single : restricted (columnAt kind 2) = true → restricted (columnAt kind 4) = false
  skips : Skips kind → Skips expanded
  second : kind[5]? = expanded[5]?
  others : ∀ index, index ≠ 2 → index ≠ 4 → columnAt kind index = columnAt expanded index

/-- One of the columns for days is left out. -/
theorem isKind_set (plain : AllPlain expanded) {index : Nat} (isDay : index = 2 ∨ index = 4) :
    IsKind expanded (expanded.set index [.star]) := by
  have inside : index < expanded.length := by
    have := plain.length
    omega
  have column (other : Nat) : columnAt (expanded.set index [.star]) other =
      if index = other then [.star] else columnAt expanded other := columnAt_set inside _ _
  have star : ∀ column, Plain column [.star] := fun _ impossible => by cases impossible
  have second : (expanded.set index [.star])[5]? = expanded[5]? :=
    List.getElem?_set_ne (by omega)
  have kept {row : Column} {other : Nat} (isPlain : Plain row (columnAt expanded other)) :
      Plain row (columnAt (expanded.set index [.star]) other) := by
    rw [column]
    split
    · exact star row
    · exact isPlain
  refine ⟨⟨kept plain.minute, kept plain.hour, kept plain.dayOfMonth, kept plain.month,
    kept plain.dayOfWeek, second ▸ plain.second, by rw [List.length_set]; exact plain.length⟩,
    ?_, ?_, second, fun other two four => ?_⟩
  · intro restricts
    rw [column] at restricts ⊢
    rcases isDay with rfl | rfl
    · cases restricts
    · rfl
  · rintro ⟨restricts, february, march, found⟩
    rw [column] at restricts february march
    rcases isDay with rfl | rfl
    · cases restricts
    · exact ⟨restricts, february, march, by simpa [column] using found⟩
  · rw [column, if_neg (by omega)]

/-- Each search is one for columns of which one for days is not restricted. -/
theorem isKind_of_searched (plain : AllPlain expanded) (member : kind ∈ searched expanded) :
    IsKind expanded kind := by
  unfold searched at member
  split at member
  · rcases List.mem_cons.1 member with rfl | rest
    · exact isKind_set plain (.inr rfl)
    · rw [List.mem_singleton.1 rest]
      exact isKind_set plain (.inl rfl)
  · rename_i notBoth
    rw [List.mem_singleton.1 member]
    refine ⟨plain, fun restricts => ?_, id, rfl, fun _ _ _ => rfl⟩
    simpa [bothDays, restricts] using notBoth

/-- The columns for months and for the time admit a moment. -/
def Besides (expanded : List (List Item)) (moment : Moment) : Prop :=
  Admits (columnAt expanded 3) moment.date.month ∧ Admits (columnAt expanded 1) moment.hour ∧
    Admits (columnAt expanded 0) moment.minute ∧ AdmitsSecond expanded moment

/-- What a search is for. -/
theorem IsKind.found_iff (isKind : IsKind expanded kind) :
    Found kind moment ↔ Besides expanded moment ∧ Admits (columnAt kind 2) moment.date.day ∧
      Admits (columnAt kind 4) moment.date.weekday := by
  have same : AdmitsSecond kind moment ↔ AdmitsSecond expanded moment := by
    unfold AdmitsSecond
    rw [isKind.second]
  have month := isKind.others 3 (by decide) (by decide)
  have hour := isKind.others 1 (by decide) (by decide)
  have minute := isKind.others 0 (by decide) (by decide)
  unfold Besides
  rw [← same, ← month, ← hour, ← minute]
  constructor
  · rintro ⟨inMonth, onDay, onWeekday, inHour, inMinute, inSecond⟩
    exact ⟨⟨inMonth, inHour, inMinute, inSecond⟩, onDay, onWeekday⟩
  · rintro ⟨⟨inMonth, inHour, inMinute, inSecond⟩, onDay, onWeekday⟩
    exact ⟨inMonth, onDay, onWeekday, inHour, inMinute, inSecond⟩

/-- A moment matches exactly if one of the searches is for it. -/
theorem matches_iff (plain : AllPlain expanded) :
    Matches expanded moment ↔ ∃ kind ∈ searched expanded, Found kind moment := by
  have split_ : Matches expanded moment ↔ Besides expanded moment ∧ OnDay expanded moment.date := by
    constructor
    · rintro ⟨month, day, hour, minute, second⟩
      exact ⟨⟨month, hour, minute, second⟩, day⟩
    · rintro ⟨⟨month, hour, minute, second⟩, day⟩
      exact ⟨month, day, hour, minute, second⟩
  have lengths := plain.length
  rw [split_]
  by_cases both : bothDays expanded = true
  · have byDay : Found (expanded.set 4 [.star]) moment ↔ _ :=
      (isKind_set plain (.inr rfl)).found_iff
    have byWeekday : Found (expanded.set 2 [.star]) moment ↔ _ :=
      (isKind_set plain (.inl rfl)).found_iff
    rw [columnAt_set (by omega), columnAt_set (by omega)] at byDay byWeekday
    unfold searched
    rw [OnDay, if_pos both, if_pos both]
    simp only [List.mem_cons, List.not_mem_nil, or_false, exists_eq_or_imp, exists_eq_left, byDay,
      byWeekday]
    simp [admits_star, and_or_left]
  · have alone : expanded ∈ searched expanded := by
      unfold searched
      rw [if_neg both]
      exact List.mem_singleton_self _
    have all : Found expanded moment ↔ _ := (isKind_of_searched plain alone).found_iff
    unfold searched
    rw [OnDay, if_neg both, if_neg both]
    simp only [List.mem_singleton, exists_eq_left, all]

end Kinds

/-! ## The result -/

section Result

variable {croniter next : Croniter} {fuel : Nat}

/-- What is returned is the earliest result of the searches. -/
theorem getNext_ok (result : getNext fuel croniter = some (.ok next)) :
    next.expanded = croniter.expanded ∧
      (∃ kind ∈ searched croniter.expanded,
        calcNext fuel croniter.cur kind = some (.ok next.cur)) ∧
      ∀ kind ∈ searched croniter.expanded, ∃ found,
        calcNext fuel croniter.cur kind = some (.ok found) ∧ next.cur.clock ≤ found.clock := by
  unfold getNext at result
  unfold searched bothDays
  by_cases both : (restricted (columnAt croniter.expanded 2) &&
      restricted (columnAt croniter.expanded 4)) = true
  · simp only [both, if_true] at result
    rw [if_pos both]
    cases byDay : calcNext fuel croniter.cur (croniter.expanded.set 4 [.star]) with
    | none =>
      rw [byDay] at result
      cases result
    | some outcome =>
      cases outcome with
      | error failure =>
        rw [byDay] at result
        cases result
      | ok first =>
        rw [byDay] at result
        cases byWeekday : calcNext fuel croniter.cur (croniter.expanded.set 2 [.star]) with
        | none =>
          rw [byWeekday] at result
          cases result
        | some outcome =>
          cases outcome with
          | error failure =>
            rw [byWeekday] at result
            cases result
          | ok second =>
            rw [byWeekday] at result
            cases result
            refine ⟨rfl, ?_⟩
            rw [List.exists_mem_cons_iff, List.forall_mem_cons, List.exists_mem_cons_iff,
              List.forall_mem_cons, byDay, byWeekday]
            dsimp only
            split
            · rename_i earlier
              exact ⟨.inl rfl, ⟨_, rfl, Nat.le_refl _⟩, ⟨_, rfl, Nat.le_of_lt earlier⟩, by simp⟩
            · rename_i later
              exact ⟨.inr (.inl rfl), ⟨_, rfl, Nat.le_of_not_lt later⟩, ⟨_, rfl, Nat.le_refl _⟩,
                by simp⟩
  · simp only [both, Bool.false_eq_true, if_false] at result
    rw [if_neg both]
    cases alone : calcNext fuel croniter.cur croniter.expanded with
    | none =>
      rw [alone] at result
      cases result
    | some outcome =>
      rw [alone] at result
      cases outcome with
      | error failure => cases result
      | ok found =>
        cases result
        refine ⟨rfl, ⟨_, List.mem_singleton_self _, alone⟩, fun kind member => ?_⟩
        rw [List.mem_singleton.1 member]
        exact ⟨_, alone, Nat.le_refl _⟩

/-- An exception is one of a search. -/
theorem getNext_error {failure : Failure} (result : getNext fuel croniter = some (.error failure)) :
    ∃ kind ∈ searched croniter.expanded,
      calcNext fuel croniter.cur kind = some (.error failure) := by
  unfold getNext at result
  unfold searched bothDays
  by_cases both : (restricted (columnAt croniter.expanded 2) &&
      restricted (columnAt croniter.expanded 4)) = true
  · simp only [both, if_true] at result
    rw [if_pos both]
    simp only [List.mem_cons, List.not_mem_nil, or_false, exists_eq_or_imp, exists_eq_left]
    cases byDay : calcNext fuel croniter.cur (croniter.expanded.set 4 [.star]) with
    | none =>
      rw [byDay] at result
      cases result
    | some outcome =>
      rw [byDay] at result
      cases outcome with
      | error other =>
        cases result
        exact .inl rfl
      | ok first =>
        right
        cases byWeekday : calcNext fuel croniter.cur (croniter.expanded.set 2 [.star]) with
        | none =>
          rw [byWeekday] at result
          cases result
        | some outcome =>
          rw [byWeekday] at result
          cases outcome with
          | error other =>
            cases result
            rfl
          | ok second => cases result
  · simp only [both, Bool.false_eq_true, if_false] at result
    rw [if_neg both]
    simp only [List.mem_singleton, exists_eq_left]
    cases alone : calcNext fuel croniter.cur croniter.expanded with
    | none =>
      rw [alone] at result
      cases result
    | some outcome =>
      rw [alone] at result
      cases outcome with
      | error other =>
        cases result
        rfl
      | ok found => cases result

/-- There is a result once all searches have one. -/
theorem getNext_isSome
    (all : ∀ kind ∈ searched croniter.expanded, (calcNext fuel croniter.cur kind).isSome) :
    (getNext fuel croniter).isSome := by
  unfold searched bothDays at all
  unfold getNext
  by_cases both : (restricted (columnAt croniter.expanded 2) &&
      restricted (columnAt croniter.expanded 4)) = true
  · rw [if_pos both] at all
    simp only [both, if_true]
    have byDay := all _ List.mem_cons_self
    have byWeekday := all _ (List.mem_cons_of_mem _ List.mem_cons_self)
    obtain ⟨outcome, same⟩ := Option.isSome_iff_exists.1 byDay
    rw [same]
    cases outcome with
    | error failure => rfl
    | ok first => simpa using byWeekday
  · rw [if_neg both] at all
    simp only [both, Bool.false_eq_true, if_false]
    simpa using all _ List.mem_cons_self

/-- What `get_next` is for: it moves to the first match behind the current moment. It may raise only
if the calendar has no match for one of the columns for days. -/
def Answers (croniter : Croniter) : Except Failure Croniter → Prop
  | .ok next => next.expanded = croniter.expanded ∧
      IsNext (Matches croniter.expanded) croniter.cur next.cur
  | .error _ => ∃ kind ∈ searched croniter.expanded, NoNext (Found kind) croniter.cur

/-- `get_next` ends and does what it is for. -/
def FindsNext (croniter : Croniter) : Prop :=
  ∃ enough, ∀ fuel, enough ≤ fuel →
    ∃ outcome, getNext fuel croniter = some outcome ∧ Answers croniter outcome

/-- Without skipped days, every result is the next match or says that there is none. -/
theorem answers_of_not_skips (plain : AllPlain croniter.expanded)
    (unskipped : ¬Skips croniter.expanded) (since : 1 ≤ croniter.cur.date.year)
    {outcome : Except Failure Croniter} (result : getNext fuel croniter = some outcome) :
    Answers croniter outcome := by
  have reached : ∀ kind ∈ searched croniter.expanded, ∀ moment, Found kind moment →
      Reached kind moment := fun kind member moment found =>
    ⟨found, fun skips => absurd ((isKind_of_searched plain member).skips skips) unskipped⟩
  cases outcome with
  | error failure =>
    obtain ⟨kind, member, failed⟩ := getNext_error result
    have isKind := isKind_of_searched plain member
    refine ⟨kind, member, fun other found => ?_⟩
    exact calcNext_error isKind.plain isKind.single since failed other
      (reached kind member other found)
  | ok next =>
    obtain ⟨same, ⟨kind, member, chosen⟩, all⟩ := getNext_ok result
    have isKind := isKind_of_searched plain member
    obtain ⟨found, -, later, -⟩ := calcNext_ok isKind.plain isKind.single since chosen
    refine ⟨same, (matches_iff plain).2 ⟨kind, member, found⟩, later,
      fun other isMatch behind => ?_⟩
    obtain ⟨otherKind, otherMember, otherFound⟩ := (matches_iff plain).1 isMatch
    obtain ⟨result, searchedFor, le⟩ := all otherKind otherMember
    have otherIs := isKind_of_searched plain otherMember
    obtain ⟨-, -, -, first⟩ := calcNext_ok otherIs.plain otherIs.single since searchedFor
    exact Nat.le_trans le (first other (reached otherKind otherMember other otherFound) behind)

/-- Without skipped days, the next match is found. -/
theorem findsNext_of_not_skips (plain : AllPlain croniter.expanded)
    (unskipped : ¬Skips croniter.expanded) (since : 1 ≤ croniter.cur.date.year) :
    FindsNext croniter := by
  refine ⟨86400 * (daysBefore 120000 + 1), fun fuel enough => ?_⟩
  obtain ⟨outcome, result⟩ := Option.isSome_iff_exists.1 <| getNext_isSome fun kind member =>
    calcNext_isSome (isKind_of_searched plain member).plain
      (isKind_of_searched plain member).single since enough
  exact ⟨outcome, result, answers_of_not_skips plain unskipped since result⟩

end Result

end Palette.Sched.Croniter
