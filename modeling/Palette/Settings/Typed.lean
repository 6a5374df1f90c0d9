import Palette.Settings.Table

/-!
# Settings stay well typed

A table is readable if the cast of every stored text succeeds, which is what a lookup of a
known key and the dictionary of all settings need. An operation is faithful if it leaves the
table readable, if what it wrote reads back as the cast of the value, and if a telnet command
with an unknown key or a value of the wrong type is answered with an error.

The operations that are faithful are told by what they are given. Nothing may be written as
no value, only plain texts may be stored, and a telnet command must be given a known key and
a value that the cast takes, because nothing else checks them.
-/

namespace Palette.Settings

open Palette.Telnet (Text)
open Palette.Commands (Failure)
open Palette.Foundation

variable {platform : Platform} {envid : Int}

/-! ## Casts -/

/-- A cast of some value converts it to the type of a known key. -/
theorem cast_eq_ok {key : Text} {value : Value} {setting : Setting}
    (given : value.isNone = false) :
    cast platform key value = .ok setting ↔
      ∃ entry, defaultOf key = .ok entry ∧ value.convert platform entry.type = .ok setting := by
  have unfolded : cast platform key value =
      dataType key >>= value.convert platform := by
    unfold cast
    split
    · cases given
    · rfl
  rw [unfolded, dataType]
  cases found : defaultOf key with
  | error failure =>
    refine ⟨fun converted => ?_, fun ⟨entry, known, _⟩ => ?_⟩
    · cases converted
    · cases known
  | ok entry =>
    refine ⟨fun converted => ⟨entry, rfl, converted⟩, fun ⟨other, same, converted⟩ => ?_⟩
    cases same
    exact converted

/-- A stored text reads back through the conversion for its key. -/
theorem cast_unicode {key text : Text} {setting : Setting} :
    cast platform key (.unicode text) = .ok setting ↔
      ∃ entry, defaultOf key = .ok entry ∧ readText platform text entry.type = .ok setting :=
  cast_eq_ok rfl

/-- No value is cast to no value. -/
theorem cast_of_isNone {key : Text} {value : Value} (none : value.isNone = true) :
    cast platform key value = .ok .none := by
  match value, none with
  | .plain .none, _ => rw [cast]

/-- A default is listed under its key. -/
theorem listed_of_defaultOf {key : Text} {entry : Default} (found : defaultOf key = .ok entry) :
    ∃ name, (name, entry) ∈ defaults ∧ name.toList = key := by
  unfold defaultOf at found
  split at found
  next listed search =>
    have member := List.mem_of_find?_eq_some search
    have name : listed.1.toList = key := by simpa using List.find?_some search
    cases found
    exact ⟨listed.1, member, name⟩
  next => cases found

/-- The known keys are those with a default. -/
theorem isKnown_iff {key : Text} : isKnown key = true ↔ ∃ entry, defaultOf key = .ok entry := by
  unfold isKnown defaultOf
  cases search : defaults.find? (·.1.toList = key) with
  | none =>
    have nowhere := List.find?_eq_none.mp search
    simp only [List.any_eq_true, reduceCtorEq, exists_false, iff_false, not_exists, not_and]
    exact nowhere
  | some entry =>
    have member := List.mem_of_find?_eq_some search
    have name : entry.1.toList = key := by simpa using List.find?_some search
    simp only [List.any_eq_true, Except.ok.injEq, exists_eq', iff_true]
    exact ⟨entry, member, by simpa using name⟩

/-- A key that is listed has its default, because no key is listed twice. -/
theorem defaultOf_of_mem {entry : String × Default} (listed : entry ∈ defaults) :
    defaultOf entry.1.toList = .ok entry.2 := by
  have present : isKnown entry.1.toList = true :=
    List.any_eq_true.mpr ⟨entry, listed, by simp⟩
  obtain ⟨other, found⟩ := isKnown_iff.mp present
  obtain ⟨name, member, same⟩ := listed_of_defaultOf found
  have pair : (name, other) = entry :=
    List.inj_on_of_nodup_map defaults_nodup member listed (String.toList_inj.mp same)
  rw [found, ← pair]

/-- What a cast returned and the table stores reads back exactly when a value was given and
its text is plain. -/
theorem cast_shown_iff {key : Text} {value : Value} {setting : Setting}
    (casted : cast platform key value = .ok setting) :
    cast platform key (.unicode setting.shown) = .ok setting ↔
      value.isNone = false ∧ isPlain setting.shown = true := by
  cases given : value.isNone with
  | true =>
    have none : setting = .none := Except.ok.inj (casted.symm.trans (cast_of_isNone given))
    subst none
    refine ⟨fun read => ?_, fun both => by cases both.1⟩
    obtain ⟨entry, -, converted⟩ := cast_unicode.mp read
    have typed := hasType_of_convert converted
    cases entry.type <;> cases typed
  | false =>
    obtain ⟨entry, known, converted⟩ := (cast_eq_ok given).mp casted
    have back := @readText_shown_iff platform _ _ (hasType_of_convert converted)
    rw [cast_unicode]
    refine ⟨fun ⟨other, same, read⟩ => ⟨rfl, ?_⟩, fun both => ⟨entry, known, back.mpr both.2⟩⟩
    cases known.symm.trans same
    exact back.mp read

/-- A byte string that is stored as it is reads back as its cast exactly when it is plain. -/
theorem cast_text_iff {key text : Text} {setting : Setting}
    (casted : cast platform key (.plain (.str text)) = .ok setting) :
    cast platform key (.unicode text) = .ok setting ↔ isPlain text = true := by
  obtain ⟨entry, known, converted⟩ := (cast_eq_ok rfl).mp casted
  rw [cast_unicode]
  refine ⟨fun ⟨other, same, read⟩ => ?_, fun plain => ⟨entry, known, ?_⟩⟩
  · cases known.symm.trans same
    exact (readText_iff converted).mp read
  · exact (readText_iff converted).mpr plain

/-! ## Rows -/

/-- The cast of every stored text succeeds. -/
def Readable (platform : Platform) (table : Table) : Prop :=
  ∀ row ∈ table.rows, ∃ setting, row.typed platform = .ok setting

/-- The entry of a key is the row of the environment with that key. -/
theorem entry_eq_some_iff {table : Table} {key : Text} {row : Row} :
    table.entry envid key = some row ↔ row ∈ table.rows ∧ row.envid = envid ∧ row.key = key := by
  refine ⟨fun found => ?_, fun ⟨stored, environment, name⟩ => ?_⟩
  · have conditions := List.find?_some found
    simp only [Bool.and_eq_true, decide_eq_true_eq] at conditions
    exact ⟨List.mem_of_find?_eq_some found, conditions⟩
  · cases found : table.entry envid key with
    | none =>
      have nowhere := List.find?_eq_none.mp found row stored
      simp [environment, name] at nowhere
    | some other =>
      have conditions := List.find?_some found
      simp only [Bool.and_eq_true, decide_eq_true_eq] at conditions
      have same : other = row := List.inj_on_of_nodup_map table.unique
        (List.mem_of_find?_eq_some found) stored (conditions.2.trans name.symm)
      rw [same]

/-- A refused row changes nothing. -/
theorem merge_refused {table : Table} {key text : Text}
    (refused : table.refuses platform envid key text = true) :
    ∃ failure, table.merge platform envid key text = .error failure :=
  ⟨_, by rw [Table.merge, if_pos refused]⟩

/-- A row that is taken is stored, and every other row was there before. -/
theorem merge_taken {table : Table} {key text : Text}
    (taken : table.refuses platform envid key text = false) :
    ∃ next, table.merge platform envid key text = .ok next ∧
      ⟨envid, key, some text⟩ ∈ next.rows ∧
      ∀ row ∈ next.rows, row ∈ table.rows ∨ row = ⟨envid, key, some text⟩ := by
  have noRefusal : ¬ table.refuses platform envid key text = true := by simp [taken]
  have own : ∀ row ∈ table.rows, row.key = key → row.envid = envid := by
    intro row stored name
    simp only [Table.refuses, Bool.or_eq_false_iff, List.any_eq_false, Bool.and_eq_true,
      decide_eq_true_eq, not_and, not_not] at taken
    exact taken.2 row stored name
  by_cases fresh : key ∉ table.rows.map Row.key
  · refine ⟨table.insert envid key text fresh, by
      rw [Table.merge, if_neg noRefusal, dif_pos fresh], ?_, ?_⟩
    · exact List.mem_append_right _ (List.mem_singleton_self _)
    · intro row member
      exact (List.mem_append.mp member).imp_right List.mem_singleton.mp
  · refine ⟨table.revise key text, by rw [Table.merge, if_neg noRefusal, dif_neg fresh], ?_, ?_⟩
    · obtain ⟨row, stored, name⟩ := List.mem_map.mp (not_not.mp fresh)
      refine List.mem_map.mpr ⟨row, stored, ?_⟩
      simp [name, own row stored name]
    · intro row member
      obtain ⟨old, stored, rfl⟩ := List.mem_map.mp member
      by_cases name : old.key = key
      · exact .inr (by simp [name, own old stored name])
      · exact .inl (by simpa [name] using stored)

/-- After a row was taken, a lookup casts its text. -/
theorem getItem_of_mem {next : Table} {key text : Text}
    (stored : ⟨envid, key, some text⟩ ∈ next.rows) :
    getItem platform envid next key = cast platform key (.unicode text) := by
  have found : next.entry envid key = some ⟨envid, key, some text⟩ :=
    entry_eq_some_iff.mpr ⟨stored, rfl, rfl⟩
  simp only [getItem, found, Settings.stored]

/-- A row that is taken keeps the table readable exactly if its text is. -/
theorem readable_iff {table next : Table} {key text : Text} (readable : Readable platform table)
    (stored : ⟨envid, key, some text⟩ ∈ next.rows)
    (others : ∀ row ∈ next.rows, row ∈ table.rows ∨ row = ⟨envid, key, some text⟩) :
    Readable platform next ↔ ∃ setting, cast platform key (.unicode text) = .ok setting := by
  refine ⟨fun all => all _ stored, fun read row member => ?_⟩
  rcases others row member with old | rfl
  · exact readable row old
  · exact read

/-! ## Faithful operations -/

/-- The key and the value that an operation is given to write. -/
def Operation.written : Operation → Option (Text × Value)
  | .save key value | .setItem key value => some (key, value)
  | .telnet [action, key, value] =>
    if action.map Char.toUpper = "SET".toList then some (key, .plain (.str value)) else none
  | _ => none

/-- A telnet command that writes an unknown key or a value that the cast does not take. -/
def Operation.illTyped (platform : Platform) : Operation → Bool
  | .telnet [action, key, value] =>
    action.map Char.toUpper = "SET".toList &&
      (!isKnown key || !(cast platform key (.plain (.str value))).isOk)
  | .telnet [action, key] => action.map Char.toUpper = "DELETE".toList && !isKnown key
  | _ => false

/-- An operation took place. -/
def Outcome.isDone : Outcome → Bool
  | done | answered => true
  | _ => false

/-- A write that ended so left the table readable, and what it wrote reads back as the cast
of the value. -/
structure WriteFaithful (platform : Platform) (envid : Int) (key : Text) (value : Value)
    (result : Outcome × Table) : Prop where
  readable : Readable platform result.2
  readBack : result.1.isDone = true → ∃ setting, cast platform key value = .ok setting ∧
    getItem platform envid result.2 key = .ok setting

/-- What is expected of an operation. -/
structure Faithful (platform : Platform) (envid : Int) (table : Table) (operation : Operation) :
    Prop where
  readable : Readable platform (perform platform envid table operation).2
  readBack : ∀ key value, operation.written = some (key, value) →
    (perform platform envid table operation).1.isDone = true →
    ∃ setting, cast platform key value = .ok setting ∧
      getItem platform envid (perform platform envid table operation).2 key = .ok setting
  answered : operation.illTyped platform = true →
    (perform platform envid table operation).1.isError = true ∧
      (perform platform envid table operation).2 = table

/-- A value may be assigned: the cast or the database refuses it, or it is some value whose
text is plain. -/
def storable (platform : Platform) (envid : Int) (table : Table) (key : Text) (value : Value) :
    Bool :=
  match cast platform key value with
  | .error _ => true
  | .ok setting =>
    table.refuses platform envid key setting.shown || (!value.isNone && isPlain setting.shown)

/-- A text may be set: the database refuses it or it is plain. -/
def settable (platform : Platform) (envid : Int) (table : Table) (key value : Text) : Bool :=
  match table.entry envid key with
  | some _ => table.refuses platform envid key value || isPlain value
  | none => storable platform envid table key (.plain (.str value))

/-- What an operation may be given. -/
def allowed (platform : Platform) (envid : Int) (table : Table) (operation : Operation) : Bool :=
  !operation.illTyped platform &&
    match operation with
    | .save key value | .setItem key value => storable platform envid table key value
    | .telnet [action, key, value] =>
      action.map Char.toUpper ≠ "SET".toList || settable platform envid table key value
    | _ => true

variable {table : Table}

/-- An operation that raised left the table as it was. -/
theorem writeFaithful_raised {key : Text} {value : Value} {failure : Failure}
    (readable : Readable platform table) :
    WriteFaithful platform envid key value (.raised failure, table) :=
  ⟨readable, fun done => by cases done⟩

/-- A text that the table takes is faithful exactly if it reads back as the cast. -/
theorem writeFaithful_taken {outcome : Outcome} {key text : Text} {value : Value}
    {setting : Setting} (readable : Readable platform table) (done : outcome.isDone = true)
    (taken : table.refuses platform envid key text = false)
    (casted : cast platform key value = .ok setting) :
    WriteFaithful platform envid key value
        (finish outcome table (table.merge platform envid key text)) ↔
      cast platform key (.unicode text) = .ok setting := by
  obtain ⟨next, merged, stored, others⟩ := merge_taken taken
  have lookup := @getItem_of_mem platform _ _ _ _ stored
  simp only [merged, finish]
  refine ⟨fun faithful => ?_, fun back => ⟨?_, fun _ => ⟨setting, casted, ?_⟩⟩⟩
  · obtain ⟨other, same, found⟩ := faithful.readBack done
    cases casted.symm.trans same
    rw [← lookup, found]
  · exact (readable_iff readable stored others).mpr ⟨setting, back⟩
  · rw [lookup, back]

/-- Item assignment is faithful exactly if the value may be assigned. -/
theorem setItem_faithful_iff {outcome : Outcome} {key : Text} {value : Value}
    (readable : Readable platform table) (done : outcome.isDone = true) :
    WriteFaithful platform envid key value
        (finish outcome table (setItem platform envid key value table)) ↔
      storable platform envid table key value = true := by
  cases casted : cast platform key value with
  | error failure =>
    have raised : setItem platform envid key value table = .error failure := by
      simp only [setItem, casted]
      rfl
    simp only [raised, finish, storable, casted, iff_true]
    exact writeFaithful_raised readable
  | ok setting =>
    have merging : setItem platform envid key value table =
        table.merge platform envid key setting.shown := by
      simp only [setItem, casted]
      rfl
    cases refused : table.refuses platform envid key setting.shown with
    | true =>
      obtain ⟨failure, merged⟩ := merge_refused refused
      simp only [merging, merged, finish, storable, casted, refused, Bool.true_or, iff_true]
      exact writeFaithful_raised readable
    | false =>
      rw [merging, writeFaithful_taken readable done refused casted, cast_shown_iff casted]
      simp [storable, casted, refused]

/-- The part of the telnet command for SET is faithful to a value that the cast takes exactly
if the text may be set. -/
theorem doSystemSet_faithful_iff {key value : Text} {setting : Setting}
    (readable : Readable platform table)
    (casted : cast platform key (.plain (.str value)) = .ok setting) :
    WriteFaithful platform envid key (.plain (.str value))
        (doSystemSet platform envid key value table) ↔
      settable platform envid table key value = true := by
  cases accepted : platform.accepts key with
  | false =>
    have refused (text : Text) : table.refuses platform envid key text = true := by
      simp [Table.refuses, accepted]
    simp only [doSystemSet, accepted, Bool.false_eq_true, ↓reduceIte]
    refine iff_of_true (writeFaithful_raised readable) ?_
    cases found : table.entry envid key <;> simp [settable, storable, found, casted, refused]
  | true =>
    cases found : table.entry envid key with
    | none =>
      simp only [doSystemSet, accepted, found, ↓reduceIte, settable]
      exact setItem_faithful_iff readable rfl
    | some row =>
      simp only [doSystemSet, accepted, found, ↓reduceIte, settable]
      cases refused : table.refuses platform envid key value with
      | true =>
        obtain ⟨failure, merged⟩ := merge_refused refused
        simp only [merged, finish, Bool.true_or, iff_true]
        exact writeFaithful_raised readable
      | false =>
        rw [writeFaithful_taken readable rfl refused casted, cast_text_iff casted]
        simp

/-- Operations that write nothing are faithful if they leave the table readable. -/
theorem faithful_of_readable {operation : Operation} (unwritten : operation.written = none)
    (typed : operation.illTyped platform = false)
    (readable : Readable platform (perform platform envid table operation).2) :
    Faithful platform envid table operation where
  readable := readable
  readBack key value written := by
    rw [unwritten] at written
    cases written
  answered wrong := by
    rw [typed] at wrong
    cases wrong

/-- An operation that writes well-typed values is faithful if the write is. -/
theorem faithful_iff_written {operation : Operation} {key : Text} {value : Value}
    (written : operation.written = some (key, value))
    (typed : operation.illTyped platform = false) :
    Faithful platform envid table operation ↔
      WriteFaithful platform envid key value (perform platform envid table operation) := by
  refine ⟨fun faithful => ⟨faithful.readable, faithful.readBack key value written⟩,
    fun faithful => ⟨faithful.readable, fun otherKey otherValue same => ?_, fun wrong => ?_⟩⟩
  · cases written.symm.trans same
    exact faithful.readBack
  · rw [typed] at wrong
    cases wrong

/-- Deleting rows keeps the table readable. -/
theorem readable_delItem {outcome : Outcome} {key : Text} (readable : Readable platform table) :
    Readable platform (finish outcome table (delItem platform envid key table)).2 := by
  unfold delItem
  split
  · exact fun row member => readable row (List.mem_of_mem_filter member)
  · exact readable

/-- A new table is readable. -/
theorem readable_populate (readable : Readable platform table) :
    Readable platform (populate table) := by
  unfold populate
  split
  · intro row member
    obtain ⟨listed, entry, made⟩ := List.mem_filterMap.mp member
    unfold populatedRow at made
    split at made
    next kept =>
      cases made
      have some : listed.2.value ≠ .none := by
        cases kind : listed.2 <;> simp_all [Default.populated, Default.value]
      have typed := (default_hasType listed entry).resolve_left some
      exact ⟨listed.2.value, cast_unicode.mpr
        ⟨listed.2, defaultOf_of_mem entry, readText_shown typed (default_isPlain listed entry)⟩⟩
    next => cases made
  · exact readable

/-- The telnet command does not answer SET and DELETE with an error. -/
theorem answered_or_raised {operation : Operation} (wrong : operation.illTyped platform = true) :
    (perform platform envid table operation).1.isError = false := by
  have finished (result : Except Failure Table) :
      (finish .answered table result).1.isError = false := by
    cases result <;> rfl
  match operation, wrong with
  | .telnet [action, key, value], wrong =>
    simp only [Operation.illTyped, Bool.and_eq_true, decide_eq_true_eq] at wrong
    simp only [perform, doSystem, wrong.1, ↓reduceIte, doSystemSet]
    split
    · split <;> exact finished _
    · rfl
  | .telnet [action, key], wrong =>
    simp only [Operation.illTyped, Bool.and_eq_true, decide_eq_true_eq] at wrong
    have other : ¬ "DELETE".toList = "SET".toList := by decide
    have another : ¬ "DELETE".toList = "GET".toList := by decide
    simp only [perform, doSystem, wrong.1, other, another, ↓reduceIte, doSystemDelete]
    exact finished _

/-- A telnet command with well-typed values is faithful exactly if it is allowed. The action
decides which part of the command runs. -/
theorem telnet_faithful_iff {args : List Text} (readable : Readable platform table)
    (typed : (Operation.telnet args).illTyped platform = false) :
    Faithful platform envid table (.telnet args) ↔
      allowed platform envid table (.telnet args) = true := by
  have usage (operation : Operation) (unwritten : operation.written = none)
      (typed : operation.illTyped platform = false) {outcome : Outcome}
      (same : perform platform envid table operation = (outcome, table)) :
      Faithful platform envid table operation :=
    faithful_of_readable unwritten typed (by rw [same]; exact readable)
  match args with
  | [] => exact iff_of_true (usage _ rfl rfl rfl) rfl
  | [action] =>
    refine iff_of_true (@usage _ rfl rfl .usage ?_) rfl
    simp only [perform, doSystem]
    split_ifs <;> rfl
  | [action, key] =>
    refine iff_of_true (faithful_of_readable rfl typed ?_) (by simp [allowed, typed])
    simp only [perform, doSystem]
    split_ifs
    · exact readable
    · unfold doSystemGet
      split
      · split <;> exact readable
      · exact readable
    · exact readable_delItem readable
    · exact readable
  | [action, key, value] =>
    by_cases set : action.map Char.toUpper = "SET".toList
    · have written : (Operation.telnet [action, key, value]).written =
          some (key, .plain (.str value)) := if_pos set
      have castable : ∃ setting, cast platform key (.plain (.str value)) = .ok setting := by
        simp only [Operation.illTyped, set, decide_true, Bool.true_and, Bool.or_eq_false_iff] at typed
        cases casted : cast platform key (.plain (.str value)) with
        | error failure =>
          rw [casted] at typed
          cases typed.2
        | ok setting => exact ⟨setting, rfl⟩
      obtain ⟨setting, casted⟩ := castable
      have performed : perform platform envid table (.telnet [action, key, value]) =
          doSystemSet platform envid key value table := by
        simp only [perform, doSystem, set, ↓reduceIte]
      rw [faithful_iff_written written typed, performed, doSystemSet_faithful_iff readable casted]
      simp [allowed, typed, set]
    · have unwritten : (Operation.telnet [action, key, value]).written = none := if_neg set
      have free : allowed platform envid table (.telnet [action, key, value]) = true := by
        simp only [allowed, typed, set, Bool.not_false, Bool.true_and, ne_eq, not_false_eq_true,
          decide_true, Bool.true_or]
      refine iff_of_true (@usage _ unwritten typed .usage ?_) free
      simp only [perform, doSystem, set, ↓reduceIte]
      split_ifs <;> rfl
  | action :: first :: second :: third :: rest =>
    refine iff_of_true (@usage _ rfl rfl .usage ?_) rfl
    simp only [perform, doSystem]
    split_ifs <;> rfl

/-- From a readable table an operation is faithful exactly if it is allowed. -/
theorem operation_faithful_iff (readable : Readable platform table) (operation : Operation) :
    Faithful platform envid table operation ↔
      allowed platform envid table operation = true := by
  cases operation with
  | save key value =>
    rw [@faithful_iff_written _ _ _ (.save key value) key value rfl rfl]
    exact setItem_faithful_iff readable rfl
  | setItem key value =>
    rw [@faithful_iff_written _ _ _ (.setItem key value) key value rfl rfl]
    exact setItem_faithful_iff readable rfl
  | delItem key =>
    exact iff_of_true (faithful_of_readable rfl rfl (readable_delItem readable)) rfl
  | telnet args =>
    cases wrong : (Operation.telnet args).illTyped platform with
    | true =>
      refine iff_of_false (fun faithful => ?_) (by simp [allowed, wrong])
      have error := (faithful.answered wrong).1
      rw [answered_or_raised wrong] at error
      cases error
    | false => exact telnet_faithful_iff readable wrong
  | populate =>
    exact iff_of_true (faithful_of_readable rfl rfl (readable_populate readable)) rfl

/-! ## Runs -/

/-- Operations in any order on a table that starts readable, as an empty one is. -/
def system (platform : Platform) (envid : Int) : Machine Table Operation where
  initial := Readable platform
  step table operation := some (perform platform envid table operation).2

/-- Lookups of known keys and the dictionary of all settings work. -/
structure Usable (platform : Platform) (envid : Int) (table : Table) : Prop where
  readable : Readable platform table
  todict : ∀ pretty includeDefaults,
    ∃ data, todict platform envid pretty includeDefaults table = .ok data
  getItem : ∀ key, isKnown key = true → ∃ setting, getItem platform envid table key = .ok setting

/-- A readable table is usable. -/
theorem usable_of_readable (readable : Readable platform table) :
    Usable platform envid table := by
  refine ⟨readable, fun pretty includeDefaults => ?_, fun key known => ?_⟩
  · have rows (listed : List Row) (stored : ∀ row ∈ listed, row ∈ table.rows) :
        ∃ data, (listed.mapM fun row => do
          return (translateKey pretty row.key, ← row.typed platform)) =
            (.ok data : Except Failure (List (Text × Setting))) := by
      induction listed with
      | nil => exact ⟨[], rfl⟩
      | cons row rest inductionHypothesis =>
        obtain ⟨setting, read⟩ := readable row (stored row List.mem_cons_self)
        obtain ⟨data, others⟩ := inductionHypothesis fun other member =>
          stored other (List.mem_cons_of_mem _ member)
        refine ⟨(translateKey pretty row.key, setting) :: data, ?_⟩
        rw [List.mapM_cons, others, read]
        rfl
    obtain ⟨data, overridden⟩ := rows (table.rows.filter fun row => row.envid = envid)
      fun row member => List.mem_of_mem_filter member
    unfold todict
    rw [overridden]
    exact ⟨_, rfl⟩
  · unfold getItem
    split
    next row found =>
      obtain ⟨member, -, name⟩ := entry_eq_some_iff.mp found
      obtain ⟨setting, read⟩ := readable row member
      exact ⟨setting, name ▸ read⟩
    next =>
      obtain ⟨entry, default⟩ := isKnown_iff.mp known
      rw [default]
      exact ⟨_, rfl⟩

/-- A setting of the type of its key is its own cast, so that what is written as a setting
reads back as that setting. -/
theorem cast_own {key : Text} {entry : Default} {setting : Setting}
    (known : defaultOf key = .ok entry) (typed : setting.hasType entry.type = true) :
    cast platform key (.plain setting) = .ok setting := by
  cases kind : entry.type with
  | bool =>
    cases setting <;> rw [kind] at typed <;> try cases typed
    next flag =>
      refine (cast_eq_ok rfl).mpr ⟨entry, known, ?_⟩
      rw [kind]
      cases flag <;> rfl
  | int =>
    cases setting <;> rw [kind] at typed <;> try cases typed
    next number => exact (cast_eq_ok rfl).mpr ⟨entry, known, by rw [kind]; rfl⟩
  | str =>
    cases setting <;> rw [kind] at typed <;> try cases typed
    next text => exact (cast_eq_ok rfl).mpr ⟨entry, known, by rw [kind]; rfl⟩

/-- In every run whose operations are all allowed, every table that is reached is usable and
every operation is faithful. From a readable table no other operation is faithful. -/
theorem settings_well_typed (platform : Platform) (envid : Int) :
    (∀ table, ((system platform envid).restrict
        fun table operation => allowed platform envid table operation = true).Reachable table →
      Usable platform envid table) ∧
    (∀ table operation, Readable platform table →
      (Faithful platform envid table operation ↔
        allowed platform envid table operation = true)) ∧
    ∀ key entry setting, defaultOf key = .ok entry → setting.hasType entry.type = true →
      cast platform key (.plain setting) = .ok setting := by
  refine ⟨fun table reachable => usable_of_readable ?_,
    fun table operation readable => operation_faithful_iff readable operation,
    fun key entry setting known typed => cast_own known typed⟩
  refine Machine.Invariant.reachable ⟨fun table readable => readable, ?_⟩ reachable
  intro table operation next readable stepped
  obtain ⟨permitted, moved⟩ := Machine.restrict_step_eq_some.mp stepped
  cases moved
  exact ((operation_faithful_iff readable operation).mpr permitted).readable

/-- A platform that takes every text and knows no other digits. -/
def plainPlatform : Platform := ⟨fun _ => true, fun _ => none⟩

/-- A table with the timeout of sockets. -/
def timeoutTable : Table := ⟨[⟨1, "socket-timeout".toList, some "60".toList⟩], by decide⟩

/-- The line `system set socket-timeout abc` is answered with OK, and then the timeout cannot
be looked up any more. -/
theorem text_breaks_lookup :
    ¬ ∀ (platform : Platform) (envid : Int) (table : Table) (operation : Operation),
      Readable platform table → Faithful platform envid table operation := by
  intro always
  have listed : ("socket-timeout", Default.plain (.int 60)) ∈ defaults := by simp [defaults]
  have known := defaultOf_of_mem listed
  have readable : Readable plainPlatform timeoutTable := by
    intro row member
    rw [List.mem_singleton.mp member]
    exact ⟨.int 60, cast_unicode.mpr ⟨_, known, by decide⟩⟩
  have faithful := always plainPlatform 1 timeoutTable
    (.telnet ["set".toList, "socket-timeout".toList, "abc".toList]) readable
  obtain ⟨setting, read⟩ := faithful.readable ⟨1, "socket-timeout".toList, some "abc".toList⟩
    (by decide)
  obtain ⟨entry, found, converted⟩ := cast_unicode.mp read
  obtain rfl := Except.ok.inj (known.symm.trans found)
  cases converted

end Palette.Settings
