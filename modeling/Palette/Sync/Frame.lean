import Palette.Sync.Exactness
import Palette.Sync.Users

/-!
# What a sync does to the other environments

A sync that fails leaves every environment alone. Placing rows touches one environment,
so what a successful sync does to the others is decided by its last statement, which
carries no condition on the environment. A deletion by identity spares them only while
an unknown identity disables it. A deletion by key spares the keys of the document. The
update of the users spares the names that were read.
-/

namespace Palette.Sync

open Palette.Foundation Palette.Foundation.Sql

universe u v

/-- The rows of every other environment are as they were. -/
def Framed {Key : Type u} {Values : Type v} (envid : Envid) (table after : Table Envid Key Values) :
    Prop :=
  after.others envid = table.others envid

/-- A successful table sync leaves the other environments alone if and only if a row of
the reply was new to its own environment or there are no other environments' rows. -/
theorem syncTable_framed {Item : Type u} {Values : Type v} {source : Source Item Cell Values}
    {decode : OdbcReply → List (List Cell) → Except SyncException (List Item)}
    {accepts : List (Row Envid Cell Values) → Bool} {envid : Envid} {data : OdbcReply}
    {table after : Table Envid Cell Values} {count : Nat}
    (done : syncTable source decode accepts envid data table = (after, .ok (.ok count))) :
    Framed envid table after ↔
      (∃ item ∈ itemsOf decode data, source.Unmatched envid table item) ∨
        ∀ row ∈ table.rows, row.env = envid := by
  obtain ⟨rows, items, present, decoded, mirrored⟩ := syncTable_ok done
  obtain ⟨final, ids, placed, rfl, -⟩ := mirrorReply_ok mirrored
  have read : itemsOf decode data = items := by
    simp only [itemsOf, present, decoded, Except.toOption, Option.getD_some]
  rw [read]
  exact others_deleteIds accepts placed

namespace AuthManager

/-- Importing one user leaves the other environments alone. -/
theorem importUser_others {accepts : List (Row Envid String UserProfile) → Bool} {envid : Envid}
    {now defaultEmailLevel : Int} {cache : Cache} {firstLoad : Bool} {users next : Users}
    {user : SystemUser}
    (done : importUser accepts envid now defaultEmailLevel cache firstLoad users user = .ok next) :
    next.others envid = users.others envid := by
  unfold importUser at done
  split at done
  · dsimp only at done
    split at done
    · cases done
      exact Table.others_insert users envid _ _
    · cases done
  · next row found =>
    dsimp only at done
    have listed : row ∈ getByName users envid user.name := found ▸ List.mem_singleton_self row
    obtain ⟨stored, inside⟩ := List.mem_filter.mp listed
    have same : row.env = envid := (of_decide_eq_true inside).1
    split at done
    · cases done
      exact same ▸ Table.others_revise users stored _
    · cases done
  · cases done

/-- Importing a list of users leaves the other environments alone, by induction on it. -/
theorem importUsers_others {accepts : List (Row Envid String UserProfile) → Bool} {envid : Envid}
    {now defaultEmailLevel : Int} {cache : Cache} {firstLoad : Bool} (rows : List SystemUser)
    {users after : Users}
    (done : rows.foldlM (fun known user =>
      importUser accepts envid now defaultEmailLevel cache firstLoad known user) users = .ok after) :
    after.others envid = users.others envid := by
  induction rows generalizing users with
  | nil =>
    cases done
    rfl
  | cons user rest inductionHypothesis =>
    rw [List.foldlM_cons] at done
    cases first : importUser accepts envid now defaultEmailLevel cache firstLoad users user with
    | error exception => simp [first, bind, Except.bind] at done
    | ok next =>
      rw [first] at done
      exact (inductionHypothesis done).trans (importUser_others first)

/-- A user that the bulk update would not change: its name was read, or it is inactive
already and was last modified at this very instant. -/
def Spared (now : Int) (kept : List String) (row : Row Envid String UserProfile) : Prop :=
  ∀ name, row.key = some name →
    name ∈ kept ∨ row.values.active = false ∧ row.values.modificationTime = now

/-- The bulk update leaves the other environments alone exactly when each of their users
is spared. -/
theorem deactivate_others (now : Int) (kept : List String) (users : Users) (envid : Envid) :
    (deactivate now kept users).others envid = users.others envid ↔
      ∀ row ∈ users.rows, row.env ≠ envid → Spared now kept row := by
  unfold deactivate
  rw [Table.others_reviseWhere]
  refine forall_congr' fun row => forall_congr' fun _ => forall_congr' fun _ => ?_
  rw [selects_notIn]
  have listed : ∀ name, some name ∈ kept.map some ↔ name ∈ kept := by simp
  have stampedSame : ({ row.values with active := false, modificationTime := now } : UserProfile) =
      row.values ↔ row.values.active = false ∧ row.values.modificationTime = now := by
    constructor
    · intro same
      rw [← same]
      exact ⟨rfl, rfl⟩
    · rintro ⟨inactive, stamped⟩
      rw [← inactive, ← stamped]
  rw [stampedSame]
  constructor
  · intro unchanged name named
    by_cases read : name ∈ kept
    · exact .inl read
    · exact .inr (unchanged ⟨name, named, by simp, fun member => read ((listed name).mp member)⟩)
  · rintro spared ⟨name, named, -, unread⟩
    exact (spared name named).resolve_left fun read => unread ((listed name).mpr read)

/-- The rows that an import reads, or none when it does not get that far. -/
def readOf (data : OdbcReply) : List SystemUser :=
  match data.rows with
  | none => []
  | some rows => (readUsers rows).toOption.getD []

/-- An import that reports a count placed the rows it read and ran the bulk update. -/
theorem load_ok {setting : Setting} {data usersData : OdbcReply} {users after : Users}
    {count : Nat} (done : load setting data usersData users = (after, .ok (.ok count))) :
    ∃ cache, importAll setting cache (readOf data) users = .ok after := by
  unfold load at done
  split at done
  · simp at done
  · split at done
    · simp at done
    · split at done
      · simp at done
      · simp at done
      · simp at done
      · next rows _ _ present =>
        split at done
        · simp at done
        · next final ran =>
          cases cached : loadUsers setting.parse usersData with
          | error exception => simp [cached, bind, Except.bind] at ran
          | ok cache =>
            cases read : readUsers rows with
            | error exception => simp [cached, read, bind, Except.bind] at ran
            | ok list =>
              have same : final = after := (Prod.mk.inj done).1
              simp only [cached, read, bind, Except.bind] at ran
              refine ⟨cache, ?_⟩
              simp only [readOf, present, read, Except.toOption, Option.getD_some]
              exact same ▸ ran

/-- An import that does not report a count changes no user. -/
theorem load_unchanged {setting : Setting} {data usersData : OdbcReply} {users after : Users}
    {reply : Except SyncException SyncReply} (done : load setting data usersData users = (after, reply))
    (failed : ∀ count, reply ≠ .ok (.ok count)) : after = users := by
  unfold load at done
  split at done
  · exact (Prod.mk.inj done).1.symm
  · split at done
    · exact (Prod.mk.inj done).1.symm
    · split at done
      · exact (Prod.mk.inj done).1.symm
      · exact (Prod.mk.inj done).1.symm
      · exact (Prod.mk.inj done).1.symm
      · split at done
        · exact (Prod.mk.inj done).1.symm
        · exact absurd (Prod.mk.inj done).2.symm (failed _)

/-- A successful import leaves the other environments alone if and only if each of their
users is spared by the bulk update. -/
theorem load_framed {setting : Setting} {data usersData : OdbcReply} {users after : Users}
    {count : Nat} (done : load setting data usersData users = (after, .ok (.ok count))) :
    Framed setting.envid users after ↔
      ∀ row ∈ users.rows, row.env ≠ setting.envid →
        Spared setting.now (names (readOf data)) row := by
  obtain ⟨cache, imported⟩ := load_ok done
  unfold importAll at imported
  simp only [bind, Except.bind, pure, Except.pure] at imported
  split at imported
  · cases imported
  · next placed ran =>
    cases imported
    have kept := importUsers_others (readOf data) ran
    unfold Framed
    rw [← kept, deactivate_others]
    refine forall_congr' fun row => ?_
    constructor
    · exact fun spared stored apart => spared ((Table.mem_of_others kept apart).mpr stored) apart
    · exact fun spared stored apart => spared ((Table.mem_of_others kept apart).mp stored) apart

end AuthManager

/-- A sync that does not succeed leaves the other environments alone. A successful sync
of sites or projects does so if and only if a row of the reply was new to its own
environment or no row of another environment is stored; one of the settings if and only
if the document has a null key or the key of each of their rows; and one of the users
if and only if the name of each of their users was read, or the user is inactive and
was last modified at this very instant. -/
theorem sync_framed_iff (envid : Envid) :
    (∀ accepts data table after reply,
      Site.sync accepts envid data table = (after, reply) →
      ((∀ count, reply ≠ .ok (.ok count)) → Framed envid table after) ∧
      ((∃ count, reply = .ok (.ok count)) → (Framed envid table after ↔
        (∃ item ∈ itemsOf (decodeRows Site.ofRow) data, Site.source.Unmatched envid table item) ∨
          ∀ row ∈ table.rows, row.env = envid))) ∧
    (∀ accepts data table after reply,
      Project.sync accepts envid data table = (after, reply) →
      ((∀ count, reply ≠ .ok (.ok count)) → Framed envid table after) ∧
      ((∃ count, reply = .ok (.ok count)) → (Framed envid table after ↔
        (∃ item ∈ itemsOf (decodeRows Project.ofRow) data,
          Project.source.Unmatched envid table item) ∨
          ∀ row ∈ table.rows, row.env = envid))) ∧
    (∀ load accepts yml table after reply,
      YmlEntry.sync load accepts envid yml table = (after, reply) →
      ((∀ contents, reply ≠ .ok contents) → Framed envid table after) ∧
      (∀ parsed, load yml = some parsed → (∃ contents, reply = .ok contents) →
        (Framed envid table after ↔
          none ∈ parsed.entries.map YmlEntry.source.key ∨
            ∀ row ∈ table.rows, row.env ≠ envid →
              row.key = none ∨ row.key ∈ parsed.entries.map YmlEntry.source.key))) ∧
    (∀ setting data usersData users after reply,
      AuthManager.load setting data usersData users = (after, reply) →
      ((∀ count, reply ≠ .ok (.ok count)) → Framed setting.envid users after) ∧
      ((∃ count, reply = .ok (.ok count)) → (Framed setting.envid users after ↔
        ∀ row ∈ users.rows, row.env ≠ setting.envid →
          AuthManager.Spared setting.now (AuthManager.names (AuthManager.readOf data)) row))) := by
  refine ⟨?_, ?_, ?_, ?_⟩
  · intro accepts data table after reply done
    refine ⟨fun failed => ?_, ?_⟩
    · rw [syncTable_unchanged done failed]
      rfl
    · rintro ⟨count, rfl⟩
      exact syncTable_framed done
  · intro accepts data table after reply done
    refine ⟨fun failed => ?_, ?_⟩
    · rw [project_sync_unchanged done failed]
      rfl
    · rintro ⟨count, rfl⟩
      exact syncTable_framed (project_sync_ok done)
  · intro load accepts yml table after reply done
    refine ⟨fun failed => ?_, ?_⟩
    · rw [yml_sync_unchanged done failed]
      rfl
    · rintro parsed loaded ⟨contents, rfl⟩
      obtain ⟨other, final, ids, loadedOther, placed, rfl⟩ := yml_sync_ok done
      have same : other = parsed := Option.some.inj (loadedOther.symm.trans loaded)
      subst same
      exact others_deleteKeys accepts placed
  · intro setting data usersData users after reply done
    refine ⟨fun failed => ?_, ?_⟩
    · rw [AuthManager.load_unchanged done failed]
      rfl
    · rintro ⟨count, rfl⟩
      exact AuthManager.load_framed done

/-- A sync for environment two that changes nothing of its own deletes the project of
environment one. -/
theorem other_project_deleted :
    ∃ after, Project.sync (fun _ => true) 2 ⟨none, some [], none⟩ (storedProject 1 "kept") =
        (after, .ok (.ok 0)) ∧
      ¬ Framed 2 (storedProject 1 "kept") after := by
  refine ⟨_, rfl, ?_⟩
  unfold Framed
  decide

/-- The frame result where the reply has a project that is new to environment two. -/
theorem sync_framed_iff_new_project :
    ∃ after, Project.sync (fun _ => true) 2 ⟨none, some [projectRow 5 "new"], none⟩
        (storedProject 1 "kept") = (after, .ok (.ok 1)) ∧
      Framed 2 (storedProject 1 "kept") after := by
  have ran : ∃ after, Project.sync (fun _ => true) 2 ⟨none, some [projectRow 5 "new"], none⟩
      (storedProject 1 "kept") = (after, .ok (.ok 1)) := ⟨_, rfl⟩
  obtain ⟨after, done⟩ := ran
  exact ⟨after, done, (((sync_framed_iff 2).2.1 _ _ _ after _ done).2 ⟨1, rfl⟩).mpr
    (.inl (by decide))⟩

end Palette.Sync
