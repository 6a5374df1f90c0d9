import Mathlib.Data.List.Perm.Basic
import Mathlib.Tactic.SplitIfs
import Palette.Sync.Users

/-!
# Merging the sites of a user

The second query has a row for every site that a system user is a member of. The first row of a
user becomes its entry, and each later row is merged into it: the login by what is later, the
level by what is higher, and the licensing role by two branches, one for interactors and one for
viewers. A role that neither branch names is kept from the first row, so two such roles of one
user make the entry depend on the order of the rows.
-/

namespace Palette.Sync.AuthManager

open Palette.Foundation

/-! ## Rows as memberships -/

/-- What a row of the query says of a system user on a site. -/
structure Membership where
  sysid : Int
  loginAt : Option Int
  adminLevel : Option Int
  licensingRoleId : Option Int
  deriving DecidableEq, Repr

namespace Membership

/-- No level counts as the lowest one of Tableau. -/
def level (membership : Membership) : Int := membership.adminLevel.getD 0

/-- No role counts as unlicensed. -/
def role (membership : Membership) : Int := membership.licensingRoleId.getD License.unlicensed

end Membership

/-- A column that may be NULL. -/
def toOptionalInt (cell : Cell) : Except SyncException (Option Int) :=
  if cell = .null then .ok none else (toInt cell).map some

/-- Read a row. -/
def readRow (parse : String → Option Int) : List Cell → Except SyncException Membership
  | sysid :: login :: admin :: licensing :: _ => do
    let sysid ← toInt sysid
    let loginAt ← odbc2dt parse login
    let adminLevel ← toOptionalInt admin
    let licensingRoleId ← toOptionalInt licensing
    return { sysid, loginAt, adminLevel, licensingRoleId }
  | _ => .error .indexError

/-- Merge a membership into the cache. -/
def merge (cache : Cache) (membership : Membership) : Cache :=
  mergeRow cache membership.sysid membership.loginAt membership.level membership.role

/-- The entry of a user after another membership was merged into it. -/
def absorb : Option TableauUserEntry → Membership → TableauUserEntry
  | none, membership => ⟨membership.loginAt, membership.level, membership.role, false⟩
  | some entry, membership =>
    let seen := entry.updateLoginAt membership.loginAt
    let raised := if seen.adminLevel < membership.level then
      { seen with adminLevel := membership.level } else seen
    raised.updateLicensingRole membership.role

/-- A row is read and then merged. -/
theorem mergeRows_cons (parse : String → Option Int) (cache : Cache) (row : List Cell)
    (rest : List (List Cell)) :
    mergeRows parse cache (row :: rest) =
      (readRow parse row).bind fun membership => mergeRows parse (merge cache membership) rest := by
  match row with
  | [] | [_] | [_, _] | [_, _, _] => rfl
  | sysid :: login :: admin :: licensing :: _ =>
    cases user : toInt sysid with
    | error failure => simp [mergeRows, readRow, user, bind, Except.bind]
    | ok user' =>
      cases instant : odbc2dt parse login with
      | error failure => simp [mergeRows, readRow, user, instant, bind, Except.bind]
      | ok instant' =>
        simp only [mergeRows, readRow, toOptionalInt, user, instant, bind, Except.bind]
        by_cases noLevel : admin = .null
        · by_cases noRole : licensing = .null
          · simp [noLevel, noRole, pure, Except.pure, merge, Membership.level, Membership.role]
          · cases role : toInt licensing <;>
              simp [noLevel, noRole, pure, Except.pure, Except.map, merge, Membership.level,
                Membership.role]
        · cases level : toInt admin with
          | error failure => simp [noLevel, Except.map]
          | ok level' =>
            by_cases noRole : licensing = .null
            · simp [noLevel, noRole, pure, Except.pure, Except.map, merge,
                Membership.level, Membership.role]
            · cases role : toInt licensing <;>
                simp [noLevel, noRole, pure, Except.pure, Except.map, merge,
                  Membership.level, Membership.role]

/-- The cache of readable rows. -/
theorem mergeRows_readable {parse : String → Option Int} {member : List Cell → Membership}
    (cache : Cache) (rows : List (List Cell))
    (readable : ∀ row ∈ rows, readRow parse row = .ok (member row)) :
    mergeRows parse cache rows = .ok ((rows.map member).foldl merge cache) := by
  induction rows generalizing cache with
  | nil => rfl
  | cons row rest inductionHypothesis =>
    rw [mergeRows_cons, readable row List.mem_cons_self]
    exact inductionHypothesis _ fun other listed => readable other (List.mem_cons_of_mem _ listed)

/-! ## The entry of one user -/

/-- Merging a membership changes the entry of its user only. -/
theorem lookup_merge (cache : Cache) (membership : Membership) (sysid : Int) :
    (merge cache membership).lookup sysid =
      if membership.sysid = sysid then some (absorb (cache.lookup sysid) membership)
      else cache.lookup sysid := by
  induction cache with
  | nil =>
    by_cases own : membership.sysid = sysid
    · subst own
      simp [merge, mergeRow, absorb]
    · have apart : (sysid == membership.sysid) = false := beq_eq_false_iff_ne.mpr (Ne.symm own)
      simp [merge, mergeRow, own, List.lookup_cons, apart]
  | cons first rest inductionHypothesis =>
    obtain ⟨known, entry⟩ := first
    unfold merge mergeRow
    by_cases here : known = membership.sysid
    · by_cases own : membership.sysid = sysid
      · subst here own
        simp [absorb]
      · subst here
        have apart : (sysid == membership.sysid) = false := beq_eq_false_iff_ne.mpr (Ne.symm own)
        simp [List.lookup_cons, own, apart]
    · by_cases other : sysid = known
      · subst other
        simp [here, Ne.symm here]
      · have later := inductionHypothesis
        unfold merge at later
        simp only [if_neg here, List.lookup_cons, beq_eq_false_iff_ne.mpr other, later]

/-- The memberships of a user. -/
def ofUser (sysid : Int) (memberships : List Membership) : List Membership :=
  memberships.filter fun membership => membership.sysid = sysid

/-- The entry of a user after its memberships. -/
def entryOf (entry : Option TableauUserEntry) (memberships : List Membership) :
    Option TableauUserEntry :=
  memberships.foldl (fun entry membership => some (absorb entry membership)) entry

/-- The cache holds for each user what its own memberships make of its entry. -/
theorem lookup_foldl_merge (cache : Cache) (memberships : List Membership) (sysid : Int) :
    (memberships.foldl merge cache).lookup sysid =
      entryOf (cache.lookup sysid) (ofUser sysid memberships) := by
  induction memberships generalizing cache with
  | nil => rfl
  | cons membership rest inductionHypothesis =>
    rw [List.foldl_cons, inductionHypothesis, lookup_merge]
    by_cases own : membership.sysid = sysid <;> simp [ofUser, entryOf, own]

/-! ## The best of several memberships -/

/-- No login is earlier than every login. -/
def NotLater : Option Int → Option Int → Prop
  | none, _ => True
  | some _, none => False
  | some login, some other => login ≤ other

/-- Interactors are above viewers, and viewers above everything else. -/
def standing (role : Int) : Nat :=
  if role = License.interactor then 2 else if role = License.viewer then 1 else 0

/-- An entry has the latest login, the highest level and the best role of some memberships. -/
structure IsBest (memberships : List Membership) (entry : TableauUserEntry) : Prop where
  login : ∃ membership ∈ memberships, membership.loginAt = entry.loginAt
  latest : ∀ membership ∈ memberships, NotLater membership.loginAt entry.loginAt
  level : ∃ membership ∈ memberships, membership.level = entry.adminLevel
  highest : ∀ membership ∈ memberships, membership.level ≤ entry.adminLevel
  role : ∃ membership ∈ memberships, membership.role = entry.licensingRoleId
  best : ∀ membership ∈ memberships, standing membership.role ≤ standing entry.licensingRoleId
  unpublished : entry.publisher = false

namespace NotLater

/-- A login is not later than itself. -/
theorem refl (login : Option Int) : NotLater login login := by
  cases login <;> simp [NotLater]

/-- The order of logins is transitive. -/
theorem trans {login middle other : Option Int} (first : NotLater login middle)
    (second : NotLater middle other) : NotLater login other := by
  cases login <;> cases middle <;> cases other <;> simp_all [NotLater]
  omega

/-- Two logins that are not later than each other are the same. -/
theorem antisymm {login other : Option Int} (first : NotLater login other)
    (second : NotLater other login) : login = other := by
  cases login <;> cases other <;> simp_all [NotLater]
  omega

end NotLater

/-- The later one of two logins, the first if they are the same. -/
def later : Option Int → Option Int → Option Int
  | known, none => known
  | none, some login => some login
  | some known, some login => if known < login then some login else some known

/-- The better one of two roles, the first if none is better. -/
def better (known role : Int) : Int := if standing known < standing role then role else known

section Absorbing

variable (entry : TableauUserEntry) (membership : Membership)

/-- The branches for the role take the better role. -/
theorem updateLicensingRole_eq (role : Int) :
    entry.updateLicensingRole role =
      { entry with licensingRoleId := better entry.licensingRoleId role } := by
  obtain ⟨loginAt, adminLevel, known, publisher⟩ := entry
  unfold TableauUserEntry.updateLicensingRole better standing
  by_cases interactor : role = License.interactor
  · subst interactor
    by_cases already : known = License.interactor
    · simp [already]
    · by_cases viewer : known = License.viewer
      · subst viewer
        simp [License.viewer, License.interactor]
      · simp [already, viewer]
  · by_cases viewer : role = License.viewer
    · subst viewer
      by_cases already : known = License.interactor
      · simp [already, interactor]
      · by_cases same : known = License.viewer <;> simp [already, interactor, same]
    · simp [interactor, viewer]

/-- The branches for the login take the later one. -/
theorem updateLoginAt_eq (login : Option Int) :
    entry.updateLoginAt login = { entry with loginAt := later entry.loginAt login } := by
  obtain ⟨known, adminLevel, role, publisher⟩ := entry
  cases login with
  | none => rfl
  | some instant =>
    cases known with
    | none => rfl
    | some before =>
      unfold TableauUserEntry.updateLoginAt later
      dsimp only
      split <;> rfl

/-- Each part of a merged entry is made of the same part of the two. -/
theorem absorb_some : absorb (some entry) membership =
    ⟨later entry.loginAt membership.loginAt, max entry.adminLevel membership.level,
      better entry.licensingRoleId membership.role, entry.publisher⟩ := by
  simp only [absorb, updateLoginAt_eq, updateLicensingRole_eq]
  rcases lt_or_ge entry.adminLevel membership.level with higher | lower
  · rw [if_pos higher, max_eq_right higher.le]
  · rw [if_neg lower.not_gt, max_eq_left lower]

end Absorbing

/-- The later login is one of the two, and neither is later than it. -/
theorem later_spec (known login : Option Int) :
    (later known login = known ∨ later known login = login) ∧
      NotLater known (later known login) ∧ NotLater login (later known login) := by
  cases known with
  | none => cases login <;> simp [later, NotLater]
  | some before =>
    cases login with
    | none => simp [later, NotLater]
    | some instant =>
      rcases lt_or_ge before instant with after | notAfter
      · simp [later, NotLater, after, after.le]
      · simp [later, NotLater, notAfter, notAfter.not_gt]

/-- The better role is one of the two, and neither is better than it. -/
theorem better_spec (known role : Int) :
    (better known role = known ∨ better known role = role) ∧
      standing known ≤ standing (better known role) ∧
      standing role ≤ standing (better known role) := by
  rcases lt_or_ge (standing known) (standing role) with above | notAbove
  · simp [better, above, above.le]
  · simp [better, notAbove, notAbove.not_gt]

/-- The first membership is the best of itself. -/
theorem isBest_first (membership : Membership) : IsBest [membership] (absorb none membership) where
  login := ⟨membership, List.mem_singleton_self _, rfl⟩
  latest := by simp [absorb, NotLater.refl]
  level := ⟨membership, List.mem_singleton_self _, rfl⟩
  highest := by simp [absorb]
  role := ⟨membership, List.mem_singleton_self _, rfl⟩
  best := by simp [absorb]
  unpublished := rfl

/-- A merged entry is the best of one membership more. -/
theorem IsBest.absorb {memberships : List Membership} {entry : TableauUserEntry}
    (best : IsBest memberships entry) (membership : Membership) :
    IsBest (memberships ++ [membership]) (absorb (some entry) membership) := by
  obtain ⟨oneLogin, knownNotLater, notLater⟩ := later_spec entry.loginAt membership.loginAt
  obtain ⟨oneRole, knownNotAbove, notAbove⟩ := better_spec entry.licensingRoleId membership.role
  have new : membership ∈ memberships ++ [membership] := by simp
  have kept : ∀ other ∈ memberships, other ∈ memberships ++ [membership] := fun other listed =>
    List.mem_append_left _ listed
  rw [absorb_some]
  constructor
  · rcases oneLogin with same | same
    · obtain ⟨other, listed, its⟩ := best.login
      exact ⟨other, kept other listed, its.trans same.symm⟩
    · exact ⟨membership, new, same.symm⟩
  · intro other listed
    rcases List.mem_append.mp listed with before | last
    · exact (best.latest other before).trans knownNotLater
    · rw [List.mem_singleton.mp last]
      exact notLater
  · rcases max_choice entry.adminLevel membership.level with same | same
    · obtain ⟨other, listed, its⟩ := best.level
      exact ⟨other, kept other listed, its.trans same.symm⟩
    · exact ⟨membership, new, same.symm⟩
  · intro other listed
    rcases List.mem_append.mp listed with before | last
    · exact (best.highest other before).trans (le_max_left _ _)
    · rw [List.mem_singleton.mp last]
      exact le_max_right _ _
  · rcases oneRole with same | same
    · obtain ⟨other, listed, its⟩ := best.role
      exact ⟨other, kept other listed, its.trans same.symm⟩
    · exact ⟨membership, new, same.symm⟩
  · intro other listed
    rcases List.mem_append.mp listed with before | last
    · exact (best.best other before).trans knownNotAbove
    · rw [List.mem_singleton.mp last]
      exact notAbove
  · exact best.unpublished

/-- Merging more memberships keeps an entry the best. -/
theorem entryOf_isBest {seen : List Membership} {entry : TableauUserEntry}
    (best : IsBest seen entry) (memberships : List Membership) :
    ∃ merged, entryOf (some entry) memberships = some merged ∧
      IsBest (seen ++ memberships) merged := by
  induction memberships generalizing seen entry with
  | nil => exact ⟨entry, rfl, by simpa using best⟩
  | cons membership rest inductionHypothesis =>
    obtain ⟨merged, same, mergedBest⟩ := inductionHypothesis (best.absorb membership)
    exact ⟨merged, same, by simpa using mergedBest⟩

/-- A user with a membership has the best entry of its memberships. -/
theorem entryOf_cons (first : Membership) (rest : List Membership) :
    ∃ merged, entryOf none (first :: rest) = some merged ∧ IsBest (first :: rest) merged :=
  entryOf_isBest (isBest_first first) rest

/-! ## The order of the rows -/

/-- Where no membership names an interactor or a viewer, the role of the first one stays. -/
theorem licensingRoleId_entryOf {entry merged : TableauUserEntry} {memberships : List Membership}
    (others : ∀ membership ∈ memberships, standing membership.role = 0)
    (same : entryOf (some entry) memberships = some merged) :
    merged.licensingRoleId = entry.licensingRoleId := by
  induction memberships generalizing entry with
  | nil =>
    cases same
    rfl
  | cons membership rest inductionHypothesis =>
    have later := inductionHypothesis
      (fun other listed => others other (List.mem_cons_of_mem _ listed)) same
    rw [later, absorb_some]
    simp [better, others membership List.mem_cons_self]

/-- Only interactors and viewers are above anything. -/
theorem standing_eq_zero (role : Int) :
    standing role = 0 ↔ role ≠ License.interactor ∧ role ≠ License.viewer := by
  unfold standing
  split
  · simp_all
  · split <;> simp_all

/-- Roles of the same standing are the same if they have one. -/
theorem role_unique {role other : Int} (same : standing role = standing other)
    (named : standing role ≠ 0) : role = other := by
  unfold standing at *
  split_ifs at * <;> simp_all

/-- Two best entries of the same memberships are the same, provided that their roles are where
these are neither interactor nor viewer. -/
theorem IsBest.unique {memberships others : List Membership} {entry other : TableauUserEntry}
    (same : memberships.Perm others) (best : IsBest memberships entry) (again : IsBest others other)
    (unnamed : standing entry.licensingRoleId = 0 →
      entry.licensingRoleId = other.licensingRoleId) :
    entry = other := by
  have login : entry.loginAt = other.loginAt := by
    obtain ⟨own, listed, its⟩ := best.login
    obtain ⟨owns, listeds, itss⟩ := again.login
    apply NotLater.antisymm
    · rw [← its]
      exact again.latest own (same.mem_iff.mp listed)
    · rw [← itss]
      exact best.latest owns (same.mem_iff.mpr listeds)
  have level : entry.adminLevel = other.adminLevel := by
    obtain ⟨own, listed, its⟩ := best.level
    obtain ⟨owns, listeds, itss⟩ := again.level
    apply le_antisymm
    · rw [← its]
      exact again.highest own (same.mem_iff.mp listed)
    · rw [← itss]
      exact best.highest owns (same.mem_iff.mpr listeds)
  have standings : standing entry.licensingRoleId = standing other.licensingRoleId := by
    obtain ⟨own, listed, its⟩ := best.role
    obtain ⟨owns, listeds, itss⟩ := again.role
    apply le_antisymm
    · rw [← its]
      exact again.best own (same.mem_iff.mp listed)
    · rw [← itss]
      exact best.best owns (same.mem_iff.mpr listeds)
  have role : entry.licensingRoleId = other.licensingRoleId := by
    by_cases named : standing entry.licensingRoleId = 0
    · exact unnamed named
    · exact role_unique standings named
  have publisher : entry.publisher = other.publisher :=
    best.unpublished.trans again.unpublished.symm
  cases entry
  cases other
  simp_all

/-- Any two memberships of a user have the same role, or some membership of the user makes it an
interactor or a viewer. -/
def HaveOneRole (memberships : List Membership) : Prop :=
  ∀ first ∈ memberships, ∀ second ∈ memberships, first.sysid = second.sysid →
    first.role ≠ second.role → ∃ named ∈ memberships, named.sysid = first.sysid ∧
      (named.role = License.interactor ∨ named.role = License.viewer)

/-- A user of a cache that has no entry has no membership, and an entry is the best one. -/
def HoldsBest (memberships : List Membership) (cache : Cache) : Prop :=
  ∀ sysid, (cache.lookup sysid).elim (ofUser sysid memberships = [])
    (IsBest (ofUser sysid memberships))

/-- The cache holds the best entries, and is the same for every order of the rows. -/
def MergesAlike (parse : String → Option Int) (member : List Cell → Membership)
    (rows : List (List Cell)) : Prop :=
  ∃ cache, loadUsers parse ⟨none, some rows, none⟩ = .ok cache ∧
    HoldsBest (rows.map member) cache ∧
    ∀ order, order.Perm rows → ∃ again, loadUsers parse ⟨none, some order, none⟩ = .ok again ∧
      ∀ sysid, again.lookup sysid = cache.lookup sysid

/-- Merging holds the best entries whatever the rows are. -/
theorem holdsBest_merge (memberships : List Membership) :
    HoldsBest memberships (memberships.foldl merge []) := by
  intro sysid
  rw [lookup_foldl_merge]
  cases own : ofUser sysid memberships with
  | nil => exact rfl
  | cons first rest =>
    obtain ⟨merged, same, best⟩ := entryOf_cons first rest
    rw [List.lookup_nil, same]
    exact best

/-- A membership of a user is one of all memberships. -/
theorem mem_ofUser {sysid : Int} {memberships : List Membership} {membership : Membership} :
    membership ∈ ofUser sysid memberships ↔
      membership ∈ memberships ∧ membership.sysid = sysid := by
  simp [ofUser]

/-- Where users have one role, their entries do not depend on the order of the memberships. -/
theorem entryOf_perm {memberships others : List Membership}
    (oneRole : HaveOneRole memberships) (same : others.Perm memberships) (sysid : Int) :
    entryOf none (ofUser sysid others) = entryOf none (ofUser sysid memberships) := by
  have alike : (ofUser sysid others).Perm (ofUser sysid memberships) := same.filter _
  cases own : ofUser sysid memberships with
  | nil =>
    rw [own] at alike
    rw [alike.eq_nil]
  | cons first rest =>
    cases again : ofUser sysid others with
    | nil =>
      rw [own, again] at alike
      exact absurd alike.symm.eq_nil (List.cons_ne_nil first rest)
    | cons other more =>
      obtain ⟨entry, made, best⟩ := entryOf_cons first rest
      obtain ⟨remade, madeAgain, bestAgain⟩ := entryOf_cons other more
      rw [own, again] at alike
      rw [made, madeAgain, Option.some.injEq]
      refine bestAgain.unique alike best fun unnamed => ?_
      by_contra apart
      obtain ⟨giver, among, gives⟩ := bestAgain.role
      obtain ⟨keeper, amongs, keeps⟩ := best.role
      have giverOwn := mem_ofUser.mp (own ▸ alike.mem_iff.mp among)
      have keeperOwn := mem_ofUser.mp (own ▸ amongs)
      obtain ⟨named, listed, its, names⟩ := oneRole giver giverOwn.1 keeper keeperOwn.1
        (giverOwn.2.trans keeperOwn.2.symm) (by rwa [gives, keeps])
      have namedOwn : named ∈ other :: more :=
        alike.mem_iff.mpr (own ▸ mem_ofUser.mpr ⟨listed, its.trans giverOwn.2⟩)
      have low := Nat.le_zero.mp (unnamed ▸ bestAgain.best named namedOwn)
      rcases (standing_eq_zero _).mp low with ⟨notInteractor, notViewer⟩
      exact names.elim notInteractor notViewer

/-- Where no membership of a user makes it an interactor or a viewer, its role is that of its first
row. -/
theorem licensingRoleId_first {first : Membership} {rest : List Membership}
    (unnamed : ∀ membership ∈ rest, membership.sysid = first.sysid →
      standing membership.role = 0) :
    ∃ entry, ((first :: rest).foldl merge []).lookup first.sysid = some entry ∧
      entry.licensingRoleId = first.role := by
  have own : ofUser first.sysid (first :: rest) = first :: ofUser first.sysid rest := by
    simp [ofUser]
  obtain ⟨entry, made, -⟩ := entryOf_cons first (ofUser first.sysid rest)
  refine ⟨entry, ?_, ?_⟩
  · rw [lookup_foldl_merge, own]
    exact made
  · have kept : entry.licensingRoleId = (absorb none first).licensingRoleId :=
      licensingRoleId_entryOf
        (fun other listed => unnamed other (mem_ofUser.mp listed).1 (mem_ofUser.mp listed).2) made
    exact kept

/-- The cache is the same for every order of the rows exactly if every user has one role, or is an
interactor or a viewer somewhere. The entries are the best ones in any case. -/
theorem load_users_merges_iff {parse : String → Option Int} {member : List Cell → Membership}
    {rows : List (List Cell)} (readable : ∀ row ∈ rows, readRow parse row = .ok (member row)) :
    MergesAlike parse member rows ↔ HaveOneRole (rows.map member) := by
  have loaded : ∀ order : List (List Cell), order.Perm rows →
      loadUsers parse ⟨none, some order, none⟩ = .ok ((order.map member).foldl merge []) := by
    intro order same
    exact mergeRows_readable [] order fun row listed => readable row (same.mem_iff.mp listed)
  constructor
  · rintro ⟨cache, made, -, alike⟩ first firstListed second secondListed sameUser apart
    by_contra none
    have unnamed : ∀ membership ∈ rows.map member, membership.sysid = first.sysid →
        standing membership.role = 0 := by
      intro membership listed its
      rw [standing_eq_zero]
      constructor <;> intro role <;> exact none ⟨membership, listed, its, by simp [role]⟩
    have roleOf : ∀ membership ∈ rows.map member, membership.sysid = first.sysid →
        ∃ entry, cache.lookup first.sysid = some entry ∧
          entry.licensingRoleId = membership.role := by
      intro membership listed its
      obtain ⟨row, among, rfl⟩ := List.mem_map.mp listed
      have same : (row :: rows.erase row).Perm rows := (List.perm_cons_erase among).symm
      obtain ⟨again, remade, lookups⟩ := alike _ same
      rw [loaded _ same, Except.ok.injEq] at remade
      obtain ⟨entry, found, role⟩ : ∃ entry,
          ((member row :: (rows.erase row).map member).foldl merge []).lookup (member row).sysid =
            some entry ∧ entry.licensingRoleId = (member row).role :=
        licensingRoleId_first fun other behind owner => unnamed other
          ((same.map member).mem_iff.mp (List.mem_cons_of_mem _ behind)) (owner.trans its)
      refine ⟨entry, ?_, role⟩
      rw [← lookups, ← remade, ← its]
      exact found
    obtain ⟨entry, found, role⟩ := roleOf first firstListed rfl
    obtain ⟨other, foundAgain, otherRole⟩ := roleOf second secondListed sameUser.symm
    rw [found, Option.some.injEq] at foundAgain
    rw [foundAgain] at role
    exact apart (role.symm.trans otherRole)
  · intro oneRole
    refine ⟨_, loaded rows (List.Perm.refl _), holdsBest_merge _, fun order same => ?_⟩
    refine ⟨_, loaded order same, fun sysid => ?_⟩
    rw [lookup_foldl_merge, lookup_foldl_merge]
    exact entryOf_perm oneRole (same.map member) sysid

/-- A row with a user, a login and a licensing role. -/
def siteRow (sysid : Int) (login : Cell) (role : Cell) : List Cell :=
  [.int sysid, login, .null, role]

/-- The date of a login as an instant. -/
def parseLogin (text : String) : Option Int :=
  if text = "2015-06-01 00:00:00" then some 1433116800 else none

/-- What such rows read as. -/
def siteMember (row : List Cell) : Membership :=
  ((readRow parseLogin row).toOption).getD ⟨0, none, none, none⟩

/-- An interactor of one site that has neither login nor role on another one. -/
def interactorRows : List (List Cell) :=
  [siteRow 7 (.text "2015-06-01 00:00:00") (.int 2), siteRow 7 .null .null]

/-- An interactor without a login on a second site keeps its role and its login. -/
theorem interactor_merges_alike :
    (∀ row ∈ interactorRows, readRow parseLogin row = .ok (siteMember row)) ∧
      HaveOneRole (interactorRows.map siteMember) ∧
      MergesAlike parseLogin siteMember interactorRows := by
  have readable : ∀ row ∈ interactorRows, readRow parseLogin row = .ok (siteMember row) := by
    simp only [interactorRows, List.forall_mem_cons, List.not_mem_nil, false_imp_iff,
      implies_true, and_true]
    constructor
    · simp [readRow, siteRow, siteMember, parseLogin, toInt, odbc2dt, toOptionalInt]
      rfl
    · rfl
  have members : interactorRows.map siteMember =
      [⟨7, some 1433116800, none, some 2⟩, ⟨7, none, none, none⟩] := by decide +kernel
  have oneRole : HaveOneRole (interactorRows.map siteMember) := by
    rw [members]
    intro first listed _ _ _ _
    refine ⟨_, List.mem_cons_self, ?_, .inl rfl⟩
    rcases List.mem_cons.mp listed with rfl | behind
    · rfl
    · rw [List.mem_singleton.mp behind]
  exact ⟨readable, oneRole, (load_users_merges_iff readable).mpr oneRole⟩

/-- A user that is unlicensed on one site and has an unknown role on another one gets the role that
is read first. -/
theorem unknown_role_read_first :
    ¬ MergesAlike parseLogin siteMember
      [siteRow 7 .null (.int 3), siteRow 7 .null (.int 4)] := by
  rintro ⟨cache, made, -, alike⟩
  obtain ⟨again, remade, lookups⟩ := alike _ (List.Perm.swap _ _ [])
  have cacheIs : cache = [(7, ⟨none, 0, 3, false⟩)] := (Except.ok.inj made).symm
  have againIs : again = [(7, ⟨none, 0, 4, false⟩)] := (Except.ok.inj remade).symm
  have same := lookups 7
  rw [cacheIs, againIs] at same
  revert same
  decide

end Palette.Sync.AuthManager
