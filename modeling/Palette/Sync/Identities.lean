import Palette.Sync.Frame

/-!
# Who is who after an import of users

The import looks a user up without regard to letter case, overwrites what it finds and
keeps the names as they were stored. At the end it compares names exactly, and it only ever
clears the mark of an active profile. So two remote users may end up in one profile, and a
user may be found and yet be marked inactive or stay so.

Each stored profile takes the values of the last remote user that matches it. What is left
after the import is told by the profiles before it, the remote users and this rule.
-/

namespace Palette.Sync.AuthManager

open Palette.Foundation Palette.Foundation.Sql

/-- A stored profile. -/
abbrev Profile := Row Envid String UserProfile

/-- The lookup of a user by name finds the profile. -/
def Matches (envid : Envid) (user : SystemUser) (row : Profile) : Prop :=
  row.env = envid ∧ row.key.map String.toLower = some user.name.toLower

instance (envid : Envid) (user : SystemUser) (row : Profile) :
    Decidable (Matches envid user row) :=
  inferInstanceAs (Decidable (_ ∧ _))

/-- A profile has the id, the password and the salt of a remote user. -/
structure Carries (user : SystemUser) (row : Profile) : Prop where
  systemUserId : row.values.systemUserId = user.sysid
  hashedPassword : row.values.hashedPassword = user.hashedPassword
  salt : row.values.salt = user.salt

/-- The last of the remote users that a profile matches. -/
def lastMatch (envid : Envid) (read : List SystemUser) (row : Profile) : Option SystemUser :=
  read.reverse.find? fun user => Matches envid user row

/-- No two profiles have the same id of a remote user. -/
def UniqueIds (rows : List Profile) : Prop :=
  ∀ left ∈ rows, ∀ right ∈ rows, left.values.systemUserId = right.values.systemUserId →
    left.values.systemUserId ≠ .null → left = right

/-! ## What the import writes -/

section Writing

variable (cache : Cache) (firstLoad : Bool) (user : SystemUser) (now : Int)
  (profile : UserProfile)

/-- The import writes the id, the password and the salt, and it leaves the mark of an active
profile alone. -/
theorem assign_identity :
    (assign cache firstLoad user profile).systemUserId = user.sysid ∧
      (assign cache firstLoad user profile).hashedPassword = user.hashedPassword ∧
      (assign cache firstLoad user profile).salt = user.salt ∧
      (assign cache firstLoad user profile).active = profile.active := by
  unfold assign
  dsimp only
  split
  · split
    · split <;> exact ⟨rfl, rfl, rfl, rfl⟩
    · exact ⟨rfl, rfl, rfl, rfl⟩
  · split
    · split <;> exact ⟨rfl, rfl, rfl, rfl⟩
    · exact ⟨rfl, rfl, rfl, rfl⟩

/-- Stamping keeps what was written. -/
theorem stamped_identity :
    (stamped now (assign cache firstLoad user) profile).systemUserId = user.sysid ∧
      (stamped now (assign cache firstLoad user) profile).hashedPassword = user.hashedPassword ∧
      (stamped now (assign cache firstLoad user) profile).salt = user.salt ∧
      (stamped now (assign cache firstLoad user) profile).active = profile.active := by
  have written := assign_identity cache firstLoad user profile
  unfold stamped
  split
  next same =>
    rw [same] at written
    exact written
  next => exact written

end Writing

/-! ## One pass and the whole loop -/

/-- A profile keeps its id, environment and name and its mark. -/
structure Keeps (old new : Profile) : Prop where
  pk : new.pk = old.pk
  env : new.env = old.env
  key : new.key = old.key
  active : new.values.active = old.values.active

/-- A profile after remote users were imported: it has the values of the last one that
matches it. -/
structure Imported (envid : Envid) (read : List SystemUser) (old new : Profile) : Prop where
  keeps : Keeps old new
  carried : ∀ user, lastMatch envid read old = some user → Carries user new
  untouched : lastMatch envid read old = none → new = old

/-- A profile that the import made for the first of the users with its name. -/
structure Created (envid : Envid) (read : List SystemUser) (users : Users) (new : Profile) :
    Prop where
  env : new.env = envid
  named : ∃ user ∈ read, new.key = some user.name
  active : new.values.active = true
  carried : ∃ user, lastMatch envid read new = some user ∧ Carries user new
  fresh : ∀ row ∈ users.rows, row.env = envid → row.key.map String.toLower ≠
    new.key.map String.toLower

/-- What importing remote users does to the table. -/
structure Placing (accepts : List Profile → Bool) (envid : Envid) (read : List SystemUser)
    (users placed : Users) : Prop where
  kept : ∀ old ∈ users.rows, ∃ new ∈ placed.rows, Imported envid read old new
  origin : ∀ new ∈ placed.rows,
    (∃ old ∈ users.rows, Imported envid read old new) ∨ Created envid read users new
  present : ∀ user ∈ read, ∃ new ∈ placed.rows, Matches envid user new
  accepted : read = [] ∨ accepts placed.rows = true

variable {accepts : List Profile → Bool} {envid : Envid} {now defaultEmailLevel : Int}
  {cache : Cache} {firstLoad : Bool} {users next : Users} {user : SystemUser}

/-- A match depends on the environment and the name of the profile only. -/
theorem matches_congr {old new : Profile} (env : new.env = old.env) (key : new.key = old.key) :
    Matches envid user new ↔ Matches envid user old := by
  unfold Matches
  rw [env, key]

/-- So does the last match. -/
theorem lastMatch_congr {read : List SystemUser} {old new : Profile} (env : new.env = old.env)
    (key : new.key = old.key) : lastMatch envid read new = lastMatch envid read old := by
  unfold lastMatch
  congr 1
  funext user
  simp only [matches_congr env key]

/-- The last match among one more user before the others. -/
theorem lastMatch_cons (user : SystemUser) (rest : List SystemUser) (row : Profile) :
    lastMatch envid (user :: rest) row =
      (lastMatch envid rest row).or (if Matches envid user row then some user else none) := by
  unfold lastMatch
  rw [List.reverse_cons, List.find?_append]
  congr 1
  by_cases found : Matches envid user row <;> simp [found]

/-- The last match is one of the users and matches. -/
theorem lastMatch_some {read : List SystemUser} {row : Profile}
    (found : lastMatch envid read row = some user) : user ∈ read ∧ Matches envid user row := by
  refine ⟨List.mem_reverse.mp (List.mem_of_find?_eq_some found), ?_⟩
  simpa using List.find?_some found

/-- There is no last match exactly if no user matches. -/
theorem lastMatch_none {read : List SystemUser} {row : Profile} :
    lastMatch envid read row = none ↔ ∀ user ∈ read, ¬ Matches envid user row := by
  simp [lastMatch, List.find?_eq_none]

/-- The lookup by name gives the matching profiles. -/
theorem mem_getByName {row : Profile} :
    row ∈ getByName users envid user.name ↔ row ∈ users.rows ∧ Matches envid user row := by
  simp [getByName, Matches]

/-- Changing a profile in place imports the user into it and leaves the others alone. -/
theorem placing_revise {row : Profile} (found : getByName users envid user.name = [row])
    (accepted : accepts
      (users.revise row.pk (stamped now (assign cache firstLoad user))).rows = true) :
    Placing accepts envid [user] users
      (users.revise row.pk (stamped now (assign cache firstLoad user))) := by
  have listed : row ∈ getByName users envid user.name := found ▸ List.mem_singleton_self row
  obtain ⟨stored, matched⟩ := mem_getByName.mp listed
  have imported : ∀ old ∈ users.rows, Imported envid [user] old
      (if decide (old.pk = row.pk) = true then
        { old with values := stamped now (assign cache firstLoad user) old.values } else old) := by
    intro old member
    obtain ⟨written, password, salt, active⟩ :=
      stamped_identity cache firstLoad user now old.values
    by_cases same : old.pk = row.pk
    · have equal : old = row := users.row_unique member stored same
      have last : lastMatch envid [user] old = some user := by
        simp [lastMatch, equal, matched]
      rw [if_pos (decide_eq_true same)]
      refine ⟨⟨rfl, rfl, rfl, active⟩, fun other carried => ?_, fun none => ?_⟩
      · cases last.symm.trans carried
        exact ⟨written, password, salt⟩
      · cases last.symm.trans none
    · have apart : ¬ Matches envid user old := by
        intro also
        have listed : old ∈ getByName users envid user.name := mem_getByName.mpr ⟨member, also⟩
        rw [found, List.mem_singleton] at listed
        exact same (congrArg Row.pk listed)
      have last : lastMatch envid [user] old = none := by
        simp [lastMatch, apart]
      rw [if_neg (by simpa using same)]
      refine ⟨⟨rfl, rfl, rfl, rfl⟩, fun other carried => ?_, fun _ => rfl⟩
      cases last.symm.trans carried
  refine ⟨fun old member => ?_, fun new member => ?_, fun other only => ?_, .inr accepted⟩
  · exact ⟨_, List.mem_map_of_mem member, imported old member⟩
  · obtain ⟨old, oldStored, rfl⟩ := List.mem_map.mp member
    exact .inl ⟨old, oldStored, imported old oldStored⟩
  · rw [List.mem_singleton.mp only]
    have keeps := (imported row stored).keeps
    exact ⟨_, List.mem_map_of_mem stored, (matches_congr keeps.env keeps.key).mpr matched⟩

/-- Inserting a profile for an unknown user leaves the others alone. -/
theorem placing_insert (unknown : getByName users envid user.name = [])
    (accepted : accepts (users.insert envid (some user.name)
      (assign cache firstLoad user (newProfile defaultEmailLevel now))).rows = true) :
    Placing accepts envid [user] users (users.insert envid (some user.name)
      (assign cache firstLoad user (newProfile defaultEmailLevel now))) := by
  obtain ⟨written, password, salt, active⟩ :=
    assign_identity cache firstLoad user (newProfile defaultEmailLevel now)
  have apart : ∀ row ∈ users.rows, ¬ Matches envid user row := by
    intro row stored matched
    have listed := mem_getByName.mpr ⟨stored, matched⟩
    rw [unknown] at listed
    cases listed
  have imported : ∀ old ∈ users.rows, Imported envid [user] old old := by
    intro old stored
    have last : lastMatch envid [user] old = none := by
      simp [lastMatch, apart old stored]
    refine ⟨⟨rfl, rfl, rfl, rfl⟩, fun other carried => ?_, fun _ => rfl⟩
    cases last.symm.trans carried
  refine ⟨fun old stored => ⟨old, List.mem_append_left _ stored, imported old stored⟩,
    fun new member => ?_, fun other only => ?_, .inr accepted⟩
  · rcases List.mem_append.mp member with stored | created
    · exact .inl ⟨new, stored, imported new stored⟩
    · rw [List.mem_singleton.mp created]
      refine .inr ⟨rfl, ⟨user, List.mem_singleton_self user, rfl⟩, active,
        ⟨user, by simp [lastMatch, Matches], written, password, salt⟩, fun row stored inside same => ?_⟩
      exact apart row stored ⟨inside, same⟩
  · rw [List.mem_singleton.mp only]
    exact ⟨_, List.mem_append_right _ (List.mem_singleton_self _), rfl, rfl⟩

/-- One pass of the loop imports one user. -/
theorem importUser_placing
    (done : importUser accepts envid now defaultEmailLevel cache firstLoad users user = .ok next) :
    Placing accepts envid [user] users next := by
  unfold importUser at done
  split at done
  next unknown =>
    dsimp only at done
    split at done
    next accepted =>
      cases done
      exact placing_insert unknown accepted
    next => cases done
  next row found =>
    dsimp only at done
    split at done
    next accepted =>
      cases done
      exact placing_revise found accepted
    next => cases done
  next => cases done

/-- Importing users after a first one imports all of them. -/
theorem Imported.trans {rest : List SystemUser} {old middle new : Profile}
    (first : Imported envid [user] old middle) (later : Imported envid rest middle new) :
    Imported envid (user :: rest) old new := by
  have same : lastMatch envid rest middle = lastMatch envid rest old :=
    lastMatch_congr first.keeps.env first.keeps.key
  have only : lastMatch envid [user] old = if Matches envid user old then some user else none := by
    rw [lastMatch_cons]
    rfl
  refine ⟨⟨later.keeps.pk.trans first.keeps.pk, later.keeps.env.trans first.keeps.env,
    later.keeps.key.trans first.keeps.key, later.keeps.active.trans first.keeps.active⟩,
    fun other last => ?_, fun none => ?_⟩
  · rw [lastMatch_cons] at last
    cases found : lastMatch envid rest old with
    | some second =>
      rw [found, Option.some_or] at last
      exact later.carried other (same.trans (found.trans last))
    | none =>
      rw [found, Option.none_or, ← only] at last
      rw [later.untouched (same.trans found)]
      exact first.carried other last
  · rw [lastMatch_cons, Option.or_eq_none_iff, ← only] at none
    rw [later.untouched (same.trans none.1), first.untouched none.2]

/-- The loop imports all users, by induction on them. -/
theorem importUsers_placing (read : List SystemUser) {users placed : Users}
    (done : read.foldlM (fun known user =>
      importUser accepts envid now defaultEmailLevel cache firstLoad known user) users = .ok placed) :
    Placing accepts envid read users placed := by
  induction read generalizing users with
  | nil =>
    cases done
    refine ⟨fun old stored => ⟨old, stored, ⟨rfl, rfl, rfl, rfl⟩, fun user last => ?_,
      fun _ => rfl⟩, fun new stored => .inl ⟨new, stored, ⟨rfl, rfl, rfl, rfl⟩, fun user last => ?_,
      fun _ => rfl⟩, fun user listed => ?_, .inl rfl⟩
    · cases last
    · cases last
    · cases listed
  | cons user rest inductionHypothesis =>
    rw [List.foldlM_cons] at done
    cases ran : importUser accepts envid now defaultEmailLevel cache firstLoad users user with
    | error exception => simp [ran, bind, Except.bind] at done
    | ok next =>
      rw [ran] at done
      have first := importUser_placing ran
      have later := inductionHypothesis done
      refine ⟨fun old stored => ?_, fun new stored => ?_, fun other listed => ?_, ?_⟩
      · obtain ⟨middle, middleStored, imported⟩ := first.kept old stored
        obtain ⟨new, newStored, others⟩ := later.kept middle middleStored
        exact ⟨new, newStored, imported.trans others⟩
      · rcases later.origin new stored with ⟨middle, middleStored, others⟩ | created
        · rcases first.origin middle middleStored with ⟨old, oldStored, imported⟩ | created
          · exact .inl ⟨old, oldStored, imported.trans others⟩
          · -- the first user made the profile, and later ones may have written into it
            obtain ⟨maker, only, name⟩ := created.named
            have makes : maker = user := List.mem_singleton.mp only
            have key : new.key = some user.name := others.keeps.key.trans (makes ▸ name)
            have env : new.env = envid := others.keeps.env.trans created.env
            refine .inr ⟨env, ⟨user, List.mem_cons_self, key⟩,
              others.keeps.active.trans created.active, ?_, fun row rowStored inside same =>
                created.fresh row rowStored inside (others.keeps.key ▸ same)⟩
            have same : lastMatch envid rest new = lastMatch envid rest middle :=
              lastMatch_congr others.keeps.env others.keeps.key
            cases found : lastMatch envid rest middle with
            | some other =>
              refine ⟨other, ?_, others.carried other found⟩
              rw [lastMatch_cons, same, found, Option.some_or]
            | none =>
              obtain ⟨writer, last, carries⟩ := created.carried
              have writes : writer = user := List.mem_singleton.mp (lastMatch_some last).1
              refine ⟨user, ?_, others.untouched found ▸ writes ▸ carries⟩
              have matched : Matches envid user new := ⟨env, by rw [key]; rfl⟩
              rw [lastMatch_cons, same, found, Option.none_or, if_pos matched]
        · obtain ⟨maker, listed, name⟩ := created.named
          obtain ⟨writer, last, carries⟩ := created.carried
          refine .inr ⟨created.env, ⟨maker, List.mem_cons_of_mem _ listed, name⟩, created.active,
            ⟨writer, by rw [lastMatch_cons, last, Option.some_or], carries⟩,
            fun row stored inside same => ?_⟩
          obtain ⟨middle, middleStored, imported⟩ := first.kept row stored
          exact created.fresh middle middleStored (imported.keeps.env.trans inside)
            (imported.keeps.key ▸ same)
      · rcases List.mem_cons.mp listed with rfl | inside
        · obtain ⟨middle, middleStored, matched⟩ :=
            first.present other (List.mem_singleton_self other)
          obtain ⟨new, newStored, others⟩ := later.kept middle middleStored
          exact ⟨new, newStored, (matches_congr others.keeps.env others.keeps.key).mpr matched⟩
        · exact later.present other inside
      · rcases later.accepted with none | accepted
        · subst none
          cases done
          exact first.accepted.imp_left fun impossible => by cases impossible
        · exact .inr accepted

/-! ## After the update of the others -/

/-- The name of a profile is not among those that stay active. -/
def Dropped (kept : List String) (row : Profile) : Prop :=
  ∃ name, row.key = some name ∧ name ∉ kept

/-- A profile after the bulk update. -/
structure Updated (kept : List String) (old new : Profile) : Prop where
  pk : new.pk = old.pk
  env : new.env = old.env
  key : new.key = old.key
  systemUserId : new.values.systemUserId = old.values.systemUserId
  hashedPassword : new.values.hashedPassword = old.values.hashedPassword
  salt : new.values.salt = old.values.salt
  active : new.values.active = true ↔ old.values.active = true ∧ ¬ Dropped kept old

/-- The bulk update marks the dropped profiles inactive and does nothing else to what is
looked at here. -/
theorem deactivate_rows (now : Int) (kept : List String) (users : Users) :
    (∀ old ∈ users.rows, ∃ new ∈ (deactivate now kept users).rows, Updated kept old new) ∧
      ∀ new ∈ (deactivate now kept users).rows, ∃ old ∈ users.rows, Updated kept old new := by
  have updated : ∀ old : Profile, Updated kept old
      (if selects (notIn old.key (kept.map some)) = true then
        { old with values := { old.values with active := false, modificationTime := now } }
      else old) := by
    intro old
    have chosen : selects (notIn old.key (kept.map some)) = true ↔ Dropped kept old := by
      rw [selects_notIn]
      refine exists_congr fun name => and_congr_right fun _ => ?_
      simp
    by_cases dropped : Dropped kept old
    · rw [if_pos (chosen.mpr dropped)]
      exact ⟨rfl, rfl, rfl, rfl, rfl, rfl, by simp [dropped]⟩
    · rw [if_neg (fun selected => dropped (chosen.mp selected))]
      exact ⟨rfl, rfl, rfl, rfl, rfl, rfl, by simp [dropped]⟩
  refine ⟨fun old stored => ⟨_, List.mem_map_of_mem stored, updated old⟩, fun new member => ?_⟩
  obtain ⟨old, stored, rfl⟩ := List.mem_map.mp member
  exact ⟨old, stored, updated old⟩

/-- What is expected of the profiles after an import: every remote user with an id has
exactly one active profile, which has its id; users with different ids do not share a
profile; a profile that no remote user matches is inactive unless it is the built-in one;
and the built-in one keeps its password, salt and id. -/
structure Straight (envid : Envid) (read : List SystemUser) (users after : Users) : Prop where
  profile : ∀ user ∈ read, user.sysid ≠ .null → ∃ row ∈ after.rows, row.env = envid ∧
    row.values.active = true ∧ row.values.systemUserId = user.sysid ∧
    ∀ other ∈ after.rows, other.values.active = true →
      other.values.systemUserId = user.sysid → other = row
  apart : ∀ user ∈ read, ∀ other ∈ read, ∀ row ∈ after.rows, Matches envid user row →
    Matches envid other row → user.sysid = other.sysid
  inactive : ∀ row ∈ after.rows, row.env = envid → row.pk ≠ 0 →
    (∀ user ∈ read, ¬ Matches envid user row) → row.values.active = false
  builtIn : ∀ old ∈ users.rows, old.pk = 0 → ∃ row ∈ after.rows, row.pk = 0 ∧
    row.values.systemUserId = old.values.systemUserId ∧
    row.values.hashedPassword = old.values.hashedPassword ∧ row.values.salt = old.values.salt

/-- Remote users whose names differ in case only have one id; a profile that a remote user
with an id matches is active and its name, as it is stored, is read or is the built-in one;
an active profile that no remote user matches has a name other than the built-in one, unless
it is the built-in profile; and the last remote user that the built-in profile matches, if
there is one, has its password, salt and id. -/
structure Unambiguous (envid : Envid) (read : List SystemUser) (users : Users) : Prop where
  cases : ∀ user ∈ read, ∀ other ∈ read, user.name.toLower = other.name.toLower →
    user.sysid = other.sysid
  exact : ∀ user ∈ read, user.sysid ≠ .null → ∀ row ∈ users.rows, Matches envid user row →
    row.values.active = true ∧ ¬ Dropped (names read) row
  unmatched : ∀ row ∈ users.rows, row.env = envid → row.pk ≠ 0 →
    (∀ user ∈ read, ¬ Matches envid user row) → row.values.active = true →
    row.key ≠ none ∧ row.key ≠ some "palette"
  builtIn : ∀ row ∈ users.rows, row.pk = 0 → ∀ user, lastMatch envid read row = some user →
    Carries user row

section Deciding

variable {read : List SystemUser} {placed : Users}

/-- Users that match one profile have names that differ in case only. -/
theorem toLower_eq {user other : SystemUser} {row : Profile} (left : Matches envid user row)
    (right : Matches envid other row) : user.name.toLower = other.name.toLower :=
  Option.some.inj (left.2.symm.trans right.2)

/-- A name that no remote user matches is dropped unless it is the built-in one. -/
theorem dropped_iff {row : Profile} (inside : row.env = envid)
    (nobody : ∀ user ∈ read, ¬ Matches envid user row) :
    Dropped (names read) row ↔ row.key ≠ none ∧ row.key ≠ some "palette" := by
  cases named : row.key with
  | none => simp [Dropped, named]
  | some name =>
    have unread : ∀ user ∈ read, user.name ≠ name := by
      rintro user listed rfl
      exact nobody user listed ⟨inside, by rw [named]; rfl⟩
    simp only [Dropped, named, names, Option.some.injEq, exists_eq_left', List.mem_cons,
      List.mem_map, not_or, not_exists, not_and, ne_eq, reduceCtorEq, not_false_eq_true, true_and]
    exact and_iff_left unread

/-- If the profiles are as expected, nothing was ambiguous. -/
theorem unambiguous_of_straight (placing : Placing accepts envid read users placed)
    (unique : read ≠ [] → UniqueIds placed.rows)
    (straight : Straight envid read users (deactivate now (names read) placed)) :
    Unambiguous envid read users := by
  obtain ⟨forward, backward⟩ := deactivate_rows now (names read) placed
  have cases : ∀ user ∈ read, ∀ other ∈ read, user.name.toLower = other.name.toLower →
      user.sysid = other.sysid := by
    intro user listed other otherListed same
    obtain ⟨row, stored, matched⟩ := placing.present user listed
    obtain ⟨final, finalStored, updated⟩ := forward row stored
    have matching := (matches_congr updated.env updated.key).mpr matched
    exact straight.apart user listed other otherListed final finalStored matching
      ⟨matching.1, matching.2.trans (congrArg some same)⟩
  refine ⟨cases, fun user listed known row stored matched => ?_,
    fun row stored inside notBuiltIn nobody active => ?_, fun row stored builtIn user last => ?_⟩
  · obtain ⟨middle, middleStored, imported⟩ := placing.kept row stored
    obtain ⟨writer, last⟩ : ∃ writer, lastMatch envid read row = some writer :=
      Option.ne_none_iff_exists'.mp fun none => lastMatch_none.mp none user listed matched
    obtain ⟨writerListed, writerMatched⟩ := lastMatch_some last
    have id : middle.values.systemUserId = user.sysid :=
      (imported.carried writer last).systemUserId.trans
        (cases writer writerListed user listed (toLower_eq writerMatched matched))
    obtain ⟨final, finalStored, -, active, finalId, -⟩ := straight.profile user listed known
    obtain ⟨other, otherStored, updated⟩ := backward final finalStored
    have otherId : other.values.systemUserId = user.sysid := updated.systemUserId.symm.trans finalId
    have same : other = middle := unique (List.ne_nil_of_mem listed) other otherStored middle
      middleStored (otherId.trans id.symm) (otherId ▸ known)
    obtain ⟨wasActive, kept⟩ := updated.active.mp active
    rw [same, imported.keeps.active] at wasActive
    rw [same] at kept
    refine ⟨wasActive, fun ⟨name, key, unread⟩ => kept ⟨name, imported.keeps.key.trans key, unread⟩⟩
  · obtain ⟨middle, middleStored, imported⟩ := placing.kept row stored
    have same : middle = row := imported.untouched (lastMatch_none.mpr nobody)
    subst same
    obtain ⟨final, finalStored, updated⟩ := forward middle middleStored
    have inactive := straight.inactive final finalStored (updated.env.trans inside)
      (fun zero => notBuiltIn (updated.pk.symm.trans zero))
      fun user listed matched =>
        nobody user listed ((matches_congr updated.env updated.key).mp matched)
    by_contra kept
    have stays : final.values.active = true :=
      updated.active.mpr ⟨active, fun dropped => kept ((dropped_iff inside nobody).mp dropped)⟩
    rw [inactive] at stays
    cases stays
  · obtain ⟨middle, middleStored, imported⟩ := placing.kept row stored
    obtain ⟨final, finalStored, zero, id, password, salt⟩ := straight.builtIn row stored builtIn
    obtain ⟨other, otherStored, updated⟩ := backward final finalStored
    have same : other = middle := placed.row_unique otherStored middleStored
      (updated.pk.symm.trans (zero.trans (imported.keeps.pk.trans builtIn).symm))
    have carries := imported.carried user last
    rw [← same] at carries
    exact ⟨id.symm.trans (updated.systemUserId.trans carries.systemUserId),
      password.symm.trans (updated.hashedPassword.trans carries.hashedPassword),
      salt.symm.trans (updated.salt.trans carries.salt)⟩

/-- If nothing is ambiguous, the profiles are as expected. -/
theorem straight_of_unambiguous (placing : Placing accepts envid read users placed)
    (unique : read ≠ [] → UniqueIds placed.rows)
    (unambiguous : Unambiguous envid read users) :
    Straight envid read users (deactivate now (names read) placed) := by
  obtain ⟨forward, backward⟩ := deactivate_rows now (names read) placed
  refine ⟨fun user listed known => ?_, fun user listed other otherListed row _ left right =>
    unambiguous.cases user listed other otherListed (toLower_eq left right),
    fun row stored inside notBuiltIn nobody => ?_, fun old stored builtIn => ?_⟩
  · obtain ⟨middle, middleStored, matched⟩ := placing.present user listed
    have active : middle.values.systemUserId = user.sysid ∧ middle.values.active = true ∧
        ¬ Dropped (names read) middle := by
      rcases placing.origin middle middleStored with ⟨old, oldStored, imported⟩ | created
      · have oldMatched := (matches_congr imported.keeps.env imported.keeps.key).mp matched
        obtain ⟨writer, last⟩ : ∃ writer, lastMatch envid read old = some writer :=
          Option.ne_none_iff_exists'.mp fun none => lastMatch_none.mp none user listed oldMatched
        obtain ⟨writerListed, writerMatched⟩ := lastMatch_some last
        obtain ⟨active, kept⟩ := unambiguous.exact user listed known old oldStored oldMatched
        refine ⟨(imported.carried writer last).systemUserId.trans (unambiguous.cases writer
          writerListed user listed (toLower_eq writerMatched oldMatched)),
          imported.keeps.active.trans active, fun ⟨name, key, unread⟩ => ?_⟩
        exact kept ⟨name, imported.keeps.key.symm.trans key, unread⟩
      · obtain ⟨writer, last, carries⟩ := created.carried
        obtain ⟨writerListed, writerMatched⟩ := lastMatch_some last
        refine ⟨carries.systemUserId.trans (unambiguous.cases writer writerListed user listed
          (toLower_eq writerMatched matched)), created.active, fun ⟨name, key, unread⟩ => ?_⟩
        obtain ⟨maker, makerListed, makerNamed⟩ := created.named
        have same : maker.name = name := Option.some.inj (makerNamed.symm.trans key)
        exact unread (List.mem_cons_of_mem _ (same ▸ List.mem_map_of_mem makerListed))
    obtain ⟨id, wasActive, kept⟩ := active
    obtain ⟨final, finalStored, updated⟩ := forward middle middleStored
    refine ⟨final, finalStored, updated.env.trans matched.1, updated.active.mpr ⟨wasActive, kept⟩,
      updated.systemUserId.trans id, fun other otherStored _ otherId => ?_⟩
    obtain ⟨source, sourceStored, otherUpdated⟩ := backward other otherStored
    have sourceId : source.values.systemUserId = user.sysid :=
      otherUpdated.systemUserId.symm.trans otherId
    have same : source = middle := unique (List.ne_nil_of_mem listed) source sourceStored middle
      middleStored (sourceId.trans id.symm) (sourceId ▸ known)
    exact Table.row_unique _ otherStored finalStored
      (otherUpdated.pk.trans (same ▸ updated.pk.symm))
  · obtain ⟨middle, middleStored, updated⟩ := backward row stored
    have inside' : middle.env = envid := updated.env.symm.trans inside
    have nobody' : ∀ user ∈ read, ¬ Matches envid user middle := fun user listed matched =>
      nobody user listed ((matches_congr updated.env updated.key).mpr matched)
    rcases placing.origin middle middleStored with ⟨old, oldStored, imported⟩ | created
    · have last : lastMatch envid read old = none :=
        (lastMatch_congr imported.keeps.env imported.keeps.key).symm.trans (lastMatch_none.mpr nobody')
      have same : middle = old := imported.untouched last
      subst same
      by_contra stays
      have active := updated.active.mp (Bool.eq_true_of_not_eq_false stays)
      have named := unambiguous.unmatched middle oldStored inside'
        (fun zero => notBuiltIn (updated.pk.trans zero)) nobody' active.1
      exact active.2 ((dropped_iff inside' nobody').mpr named)
    · obtain ⟨writer, last, -⟩ := created.carried
      obtain ⟨writerListed, writerMatched⟩ := lastMatch_some last
      exact absurd writerMatched (nobody' writer writerListed)
  · obtain ⟨middle, middleStored, imported⟩ := placing.kept old stored
    obtain ⟨final, finalStored, updated⟩ := forward middle middleStored
    refine ⟨final, finalStored, updated.pk.trans (imported.keeps.pk.trans builtIn), ?_⟩
    rw [updated.systemUserId, updated.hashedPassword, updated.salt]
    cases last : lastMatch envid read old with
    | none =>
      rw [imported.untouched last]
      exact ⟨rfl, rfl, rfl⟩
    | some user =>
      have before := unambiguous.builtIn old stored builtIn user last
      have after := imported.carried user last
      exact ⟨after.systemUserId.trans before.systemUserId.symm,
        after.hashedPassword.trans before.hashedPassword.symm, after.salt.trans before.salt.symm⟩

end Deciding

instance (rows : List Profile) : Decidable (UniqueIds rows) :=
  inferInstanceAs (Decidable (∀ left ∈ rows, ∀ right ∈ rows, _ → _ → _))

/-- A setting whose database keeps the ids unique. -/
def uniqueSetting : Setting :=
  ⟨1, 0, false, false, true, "RUNNING", "no", fun _ => none, fun rows => decide (UniqueIds rows),
    .ok ()⟩

/-- The built-in account as it is before a password was chosen. -/
def builtInUsers : Users :=
  Table.empty.insert 1 (some "palette")
    ⟨true, 1, .null, .null, .text "", .text "Palette Server Admin", .null, .null, .int 0, none, none,
      none, none, 3, 0⟩

/-- The reply with one remote user. -/
def oneUser (name : String) : OdbcReply :=
  ⟨none, some [[.text name, .null, .text "hash", .text "salt", .null, .int 0, .null, .int 1]], none⟩

end Palette.Sync.AuthManager
