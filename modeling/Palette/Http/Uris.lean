import Palette.Foundation.Words
import Palette.Http.Alerts

/-!
# Paths and queries

The names of a request are read off the segments of its address. The address is cut with its query:
the query changes the last segment of the path, and its slashes add more. So a name that is the last
segment is wrong, and an address may be taken for one of the forms because of its query.

A form is recognised by the number of segments and some of its words.
-/

namespace Palette.Http

open Palette.Foundation

/-! ## Segments and names -/

/-- The segments of an address without its first character. -/
def segments (uri : String) : List (List Char) := (uri.toList.drop 1).splitOn '/'

/-- The site, the workbook and the view that an event tells of. -/
structure Names where
  site : Option String
  repositoryUrl : Option String
  view : Option String
  deriving DecidableEq, Repr

/-- The names in a body. -/
def Body.names (body : Body) : Names := ⟨body.site, body.repositoryUrl, body.view⟩

/-- No names. -/
def Names.unset : Names := ⟨none, none, none⟩

/-- The names are set: one of them is. -/
def Names.IsSet (names : Names) : Prop :=
  names.site.isSome ∨ names.repositoryUrl.isSome ∨ names.view.isSome

/-- A documented form, as segments: `views` with a workbook and a view, maybe of a site, or `vizql`
with these and more. -/
inductive Form : List (List Char) → Prop where
  | views {word workbook view : List Char} (views : lower word = "views".toList) :
      Form [word, workbook, view]
  | site {short site word workbook view : List Char} (t : lower short = "t".toList)
      (views : lower word = "views".toList) : Form [short, site, word, workbook, view]
  | vizql {workbook view : List Char} {rest : List (List Char)} :
      Form ("vizql".toList :: "w".toList :: workbook :: "v".toList :: view :: rest)
  | vizqlSite {site workbook view : List Char} {rest : List (List Char)} :
      Form ("vizql".toList :: "t".toList :: site :: "w".toList :: workbook :: "v".toList :: view ::
        rest)

/-- A path has a documented form. -/
def Documented (path : String) : Prop := path.toList.head? = some '/' ∧ Form (segments path)

/-! ## What is looked for -/

/-- `vizql` with a site, a workbook and a view, as the code looks for it. -/
def IsVizqlSite (tokens : List (List Char)) : Prop :=
  7 ≤ tokens.length ∧ tokens.getD 0 [] = "vizql".toList ∧ tokens.getD 1 [] = "t".toList ∧
    tokens.getD 3 [] = "w".toList ∧ tokens.getD 5 [] = "v".toList

/-- `vizql` with a workbook and a view, as the code looks for it. -/
def IsVizql (tokens : List (List Char)) : Prop :=
  7 ≤ tokens.length ∧ tokens.getD 0 [] = "vizql".toList ∧ tokens.getD 1 [] = "w".toList ∧
    tokens.getD 3 [] = "v".toList

/-- The code looks for these segments. -/
def Recognised (tokens : List (List Char)) : Prop :=
  tokens.length = 3 ∧ lower (tokens.getD 0 []) = "views".toList ∨
    tokens.length = 5 ∧ lower (tokens.getD 0 []) = "t".toList ∨
      IsVizqlSite tokens ∨ IsVizql tokens

/-- The names are among the segments, and none of them is the last one. -/
def Settled (tokens : List (List Char)) : Prop :=
  IsVizqlSite tokens ∧ 8 ≤ tokens.length ∨ IsVizql tokens

/-- The segment at an index, as a name. -/
def nameAt (tokens : List (List Char)) (index : Nat) : Option String :=
  some (String.ofList (tokens.getD index []))

theorem nameAt_inj {tokens others : List (List Char)} {index other : Nat} :
    nameAt tokens index = nameAt others other ↔ tokens.getD index [] = others.getD other [] := by
  simp [nameAt, String.ofList_inj]

instance (tokens : List (List Char)) : Decidable (IsVizqlSite tokens) :=
  inferInstanceAs (Decidable (_ ∧ _))

instance (tokens : List (List Char)) : Decidable (IsVizql tokens) :=
  inferInstanceAs (Decidable (_ ∧ _))

/-- The names of some segments. -/
def namesOf (tokens : List (List Char)) : Names :=
  if tokens.length = 3 ∧ lower (tokens.getD 0 []) = "views".toList then
    ⟨none, nameAt tokens 1, nameAt tokens 2⟩
  else if tokens.length = 5 ∧ lower (tokens.getD 0 []) = "t".toList then
    ⟨nameAt tokens 1, nameAt tokens 3, nameAt tokens 4⟩
  else if IsVizqlSite tokens then ⟨nameAt tokens 2, nameAt tokens 4, nameAt tokens 6⟩
  else if IsVizql tokens then ⟨none, nameAt tokens 2, nameAt tokens 4⟩
  else .unset

/-- The names depend on the segments alone. -/
theorem names_parseuri (uri : String) : (parseuri uri).names = namesOf (segments uri) := by
  unfold parseuri namesOf segments
  generalize (uri.toList.drop 1).splitOn '/' = tokens
  dsimp only
  split
  · rfl
  · split
    · rfl
    · split
      next vizql =>
        obtain ⟨long, first⟩ := vizql
        split
        next words => rw [if_pos (show IsVizqlSite tokens from ⟨long, first, words⟩)]; rfl
        next words =>
          rw [if_neg fun site : IsVizqlSite tokens => words site.2.2]
          split
          next words => rw [if_pos (show IsVizql tokens from ⟨long, first, words⟩)]; rfl
          next words => rw [if_neg fun short : IsVizql tokens => words short.2.2]; rfl
      next other =>
        rw [if_neg fun site : IsVizqlSite tokens => other ⟨site.1, site.2.1⟩,
          if_neg fun short : IsVizql tokens => other ⟨short.1, short.2.1⟩]
        rfl

/-- Names are set where the segments are recognised. -/
theorem isSet_namesOf_iff (tokens : List (List Char)) :
    (namesOf tokens).IsSet ↔ Recognised tokens := by
  unfold namesOf Recognised
  split_ifs with views site vizqlSite vizql
  · exact iff_of_true (.inr (.inl rfl)) (.inl views)
  · exact iff_of_true (.inl rfl) (.inr (.inl site))
  · exact iff_of_true (.inl rfl) (.inr (.inr (.inl vizqlSite)))
  · exact iff_of_true (.inr (.inl rfl)) (.inr (.inr (.inr vizql)))
  · refine iff_of_false (by simp [Names.IsSet, Names.unset]) ?_
    rintro (same | same | same | same)
    · exact views same
    · exact site same
    · exact vizqlSite same
    · exact vizql same

/-- Otherwise they are not. -/
theorem namesOf_eq_unset {tokens : List (List Char)} (other : ¬ Recognised tokens) :
    namesOf tokens = .unset := by
  unfold Recognised at other
  simp only [not_or] at other
  unfold namesOf
  rw [if_neg other.1, if_neg other.2.1, if_neg other.2.2.1, if_neg other.2.2.2]

/-! ## A query behind a path -/

section Query

variable {tokens : List (List Char)}

/-- What begins with `views` has names if it has three segments. -/
theorem namesOf_views (head : lower (tokens.getD 0 []) = "views".toList) :
    namesOf tokens =
      if tokens.length = 3 then ⟨none, nameAt tokens 1, nameAt tokens 2⟩ else .unset := by
  have short : lower (tokens.getD 0 []) ≠ "t".toList := by rw [head]; decide
  have vizql : tokens.getD 0 [] ≠ "vizql".toList := fun same => by
    rw [same] at head
    exact absurd head (by decide)
  unfold namesOf
  by_cases three : tokens.length = 3
  · rw [if_pos ⟨three, head⟩, if_pos three]
  · rw [if_neg fun both => three both.1, if_neg fun both => short both.2,
      if_neg fun site => vizql site.2.1, if_neg fun short => vizql short.2.1, if_neg three]

/-- What begins with `t` has names if it has five segments. -/
theorem namesOf_t (head : lower (tokens.getD 0 []) = "t".toList) :
    namesOf tokens =
      if tokens.length = 5 then ⟨nameAt tokens 1, nameAt tokens 3, nameAt tokens 4⟩
      else .unset := by
  have views : lower (tokens.getD 0 []) ≠ "views".toList := by rw [head]; decide
  have vizql : tokens.getD 0 [] ≠ "vizql".toList := fun same => by
    rw [same] at head
    exact absurd head (by decide)
  unfold namesOf
  rw [if_neg fun both => views both.2]
  by_cases five : tokens.length = 5
  · rw [if_pos ⟨five, head⟩, if_pos five]
  · rw [if_neg fun both => five both.1, if_neg fun site => vizql site.2.1,
      if_neg fun short => vizql short.2.1, if_neg five]

/-- What begins with `vizql` has the names of one of the two forms. -/
theorem namesOf_vizql (head : tokens.getD 0 [] = "vizql".toList) :
    namesOf tokens =
      if IsVizqlSite tokens then ⟨nameAt tokens 2, nameAt tokens 4, nameAt tokens 6⟩
      else if IsVizql tokens then ⟨none, nameAt tokens 2, nameAt tokens 4⟩
      else .unset := by
  have views : lower (tokens.getD 0 []) ≠ "views".toList := by rw [head]; decide
  have short : lower (tokens.getD 0 []) ≠ "t".toList := by rw [head]; decide
  unfold namesOf
  rw [if_neg fun both => views both.2, if_neg fun both => short both.2]

variable {front more : List (List Char)} {last changed : List Char}

/-- Where a path is recognised, another last segment and more segments behind it leave the names
alone exactly if the last segment is none of them. -/
theorem namesOf_extended_iff (different : changed ≠ last)
    (recognised : Recognised (front ++ [last])) :
    namesOf (front ++ changed :: more) = namesOf (front ++ [last]) ↔
      Settled (front ++ [last]) := by
  have before : ∀ index < front.length,
      (front ++ changed :: more).getD index [] = (front ++ [last]).getD index [] := by
    intro index inside
    rw [List.getD_append _ _ _ _ inside, List.getD_append _ _ _ _ inside]
  have there : ∀ index, front.length = index →
      (front ++ changed :: more).getD index [] ≠ (front ++ [last]).getD index [] := by
    rintro index rfl
    simpa using different
  have length : (front ++ [last]).length = front.length + 1 := by simp
  have longer : (front ++ changed :: more).length = front.length + 1 + more.length := by
    simp only [List.length_append, List.length_cons]
    omega
  generalize front ++ [last] = tokens at *
  generalize front ++ changed :: more = others at *
  rcases recognised with ⟨three, head⟩ | ⟨five, head⟩ | vizqlSite | vizql
  · have unsettled : ¬ Settled tokens := by
      rintro (⟨site, _⟩ | short)
      · exact absurd site.1 (by omega)
      · exact absurd short.1 (by omega)
    refine iff_of_false (fun same => ?_) unsettled
    rw [namesOf_views head, if_pos three, namesOf_views (by rw [before 0 (by omega)]; exact head)]
      at same
    split at same
    · exact there 2 (by omega) (nameAt_inj.mp (congrArg Names.view same))
    · cases congrArg Names.view same
  · have unsettled : ¬ Settled tokens := by
      rintro (⟨site, _⟩ | short)
      · exact absurd site.1 (by omega)
      · exact absurd short.1 (by omega)
    refine iff_of_false (fun same => ?_) unsettled
    rw [namesOf_t head, if_pos five, namesOf_t (by rw [before 0 (by omega)]; exact head)] at same
    split at same
    · exact there 4 (by omega) (nameAt_inj.mp (congrArg Names.view same))
    · cases congrArg Names.view same
  · obtain ⟨long, head, t, w, v⟩ := vizqlSite
    have unvizql : ¬ IsVizql tokens := fun short => by
      have same := t.symm.trans short.2.2.1
      exact absurd same (by decide)
    have again : IsVizqlSite others :=
      ⟨by omega, by rw [before 0 (by omega)]; exact head, by rw [before 1 (by omega)]; exact t,
        by rw [before 3 (by omega)]; exact w, by rw [before 5 (by omega)]; exact v⟩
    rw [namesOf_vizql head, namesOf_vizql again.2.1, if_pos again, if_pos ⟨long, head, t, w, v⟩]
    have settled : Settled tokens ↔ 8 ≤ tokens.length :=
      ⟨fun settled => settled.elim And.right fun short => absurd short unvizql,
        fun longer => .inl ⟨⟨long, head, t, w, v⟩, longer⟩⟩
    rw [settled, Names.mk.injEq, nameAt_inj, nameAt_inj, nameAt_inj]
    constructor
    · intro same
      by_contra short
      exact there 6 (by omega) same.2.2
    · exact fun longer => ⟨before 2 (by omega), before 4 (by omega), before 6 (by omega)⟩
  · obtain ⟨long, head, w, v⟩ := vizql
    have again : IsVizql others :=
      ⟨by omega, by rw [before 0 (by omega)]; exact head, by rw [before 1 (by omega)]; exact w,
        by rw [before 3 (by omega)]; exact v⟩
    have other : ∀ segments : List (List Char), segments.getD 1 [] = "w".toList →
        ¬ IsVizqlSite segments := fun segments word site => by
      have same := word.symm.trans site.2.2.1
      exact absurd same (by decide)
    rw [namesOf_vizql head, namesOf_vizql again.2.1, if_neg (other tokens w),
      if_neg (other others again.2.2.1), if_pos again, if_pos ⟨long, head, w, v⟩]
    refine iff_of_true ?_ (.inr ⟨long, head, w, v⟩)
    rw [Names.mk.injEq, nameAt_inj, nameAt_inj]
    exact ⟨rfl, before 2 (by omega), before 4 (by omega)⟩

end Query

/-- Segments whose names are settled have one of the two documented forms of `vizql`. -/
theorem form_of_settled {tokens : List (List Char)} (settled : Settled tokens) : Form tokens := by
  rcases settled with ⟨⟨long, head, t, w, v⟩, _⟩ | ⟨long, head, w, v⟩
  · match tokens, long with
    | first :: second :: site :: third :: workbook :: fourth :: view :: rest, _ =>
      obtain rfl : first = "vizql".toList := head
      obtain rfl : second = "t".toList := t
      obtain rfl : third = "w".toList := w
      obtain rfl : fourth = "v".toList := v
      exact .vizqlSite
  · match tokens, long with
    | first :: second :: workbook :: third :: view :: rest, _ =>
      obtain rfl : first = "vizql".toList := head
      obtain rfl : second = "w".toList := w
      obtain rfl : third = "v".toList := v
      exact .vizql

/-- The segments of an address with a query: those of the path, the last one with the first part of
the query behind it, and more for the slashes of the query. -/
theorem segments_query {path : String} (query : String) (some : path.toList ≠ []) :
    ∃ front last changed more, changed ≠ last ∧ segments path = front ++ [last] ∧
      segments (path ++ "?" ++ query) = front ++ changed :: more := by
  obtain ⟨front, last, cut⟩ : ∃ front last, segments path = front ++ [last] :=
    ⟨_, _, (List.dropLast_append_getLast (List.splitOn_ne_nil '/' _)).symm⟩
  obtain ⟨begun, more, queryCut⟩ : ∃ begun more,
      ('?' :: query.toList).splitOn '/' = ('?' :: begun) :: more := by
    cases rest : query.toList.splitOnP (· == '/') with
    | nil => exact absurd rest (List.splitOnP_ne_nil _ _)
    | cons begun more =>
      refine ⟨begun, more, ?_⟩
      rw [List.splitOn_eq_splitOnP, List.splitOnP_cons_eq_if_modifyHead, rest]
      rfl
  refine ⟨front, last, last ++ '?' :: begun, more, by simp, cut, ?_⟩
  have text : (path ++ "?" ++ query).toList.drop 1 = path.toList.drop 1 ++ '?' :: query.toList := by
    cases whole : path.toList with
    | nil => exact absurd whole some
    | cons first rest => simp [String.toList_append, whole]
  unfold segments at cut ⊢
  rw [text]
  rw [List.splitOn_eq_splitOnP] at cut queryCut ⊢
  exact Words.splitOnP_append cut queryCut

/-- An address and its path have the same names, and names only where the path has a documented form,
exactly where the path is recognised as such with no name at its end, or neither of them is
recognised. -/
theorem names_query_iff (path query : String) :
    ((parseuri (path ++ "?" ++ query)).names = (parseuri path).names ∧
        ((parseuri path).names.IsSet → Documented path) ∧
        ((parseuri (path ++ "?" ++ query)).names.IsSet → Documented path)) ↔
      path.toList.head? = some '/' ∧ Settled (segments path) ∨
        ¬ Recognised (segments path) ∧ ¬ Recognised (segments (path ++ "?" ++ query)) := by
  rw [names_parseuri, names_parseuri, isSet_namesOf_iff, isSet_namesOf_iff]
  by_cases recognised : Recognised (segments path)
  · have some : path.toList ≠ [] := by
      intro none
      have single : segments path = [[]] := by simp [segments, none]
      rw [single] at recognised
      rcases recognised with three | five | site | short
      · exact absurd three.1 (by decide)
      · exact absurd five.1 (by decide)
      · exact absurd site.1 (by decide)
      · exact absurd short.1 (by decide)
    obtain ⟨front, last, changed, more, different, cut, longer⟩ := segments_query query some
    rw [cut] at recognised
    have same := @namesOf_extended_iff front more last changed different recognised
    rw [← cut] at recognised
    rw [← cut, ← longer] at same
    rw [same]
    constructor
    · rintro ⟨settled, documented, _⟩
      exact .inl ⟨(documented recognised).1, settled⟩
    · rintro (⟨slash, settled⟩ | ⟨unrecognised, _⟩)
      · have documented : Documented path := ⟨slash, form_of_settled settled⟩
        exact ⟨settled, fun _ => documented, fun _ => documented⟩
      · exact absurd recognised unrecognised
  · rw [namesOf_eq_unset recognised]
    have unsettled : ¬ Settled (segments path) := fun settled =>
      recognised (.inr (.inr (settled.imp And.left id)))
    constructor
    · rintro ⟨same, _⟩
      refine .inr ⟨recognised, fun found => ?_⟩
      have set := (isSet_namesOf_iff _).mpr found
      rw [same] at set
      simp [Names.IsSet, Names.unset] at set
    · rintro (⟨_, settled⟩ | ⟨_, unrecognised⟩)
      · exact absurd settled unsettled
      · exact ⟨namesOf_eq_unset unrecognised, fun found => absurd found recognised,
          fun found => absurd found unrecognised⟩

/-- The name of a view has the query behind it. -/
theorem view_with_query :
    ¬ ((parseuri ("/views/Forecast/Overview" ++ "?" ++ ":iid=1")).names =
          (parseuri "/views/Forecast/Overview").names ∧
        ((parseuri "/views/Forecast/Overview").names.IsSet →
          Documented "/views/Forecast/Overview") ∧
        ((parseuri ("/views/Forecast/Overview" ++ "?" ++ ":iid=1")).names.IsSet →
          Documented "/views/Forecast/Overview")) := by
  rintro ⟨same, _⟩
  exact absurd same (by decide +kernel)

end Palette.Http
