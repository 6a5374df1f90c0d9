import Mathlib.Data.List.Nodup

/-!
# Dictionaries in iteration order

A dictionary whose values know their own key is the list of its values in the order
in which an iterator meets them, with pairwise different keys. Storing a value
replaces the one under the same key.

A loop over a dictionary asks the iterator for the next entry before every pass. The
iterator compares the size of the dictionary with the size it started from, also when
no entry is left, and raises when they differ. A body may go on to the next entry or
leave the loop. When every pass before the first selected entry changes nothing, and
a pass at a selected entry that goes on has changed the size, the loop gets no further
than the first selected entry.
-/

namespace Palette.Foundation

universe u v w x

/-- Values with pairwise different keys, in iteration order. -/
structure Dictionary {Value : Type u} {Key : Type v} (key : Value → Key) where
  entries : List Value
  distinct : (entries.map key).Nodup

namespace Dictionary

variable {Value : Type u} {Key : Type v} {key : Value → Key}

/-- A dictionary without entries. -/
def empty : Dictionary key := ⟨[], List.nodup_nil⟩

/-- Equal keys belong to one entry. -/
theorem entry_unique (dictionary : Dictionary key) {left right : Value}
    (leftStored : left ∈ dictionary.entries) (rightStored : right ∈ dictionary.entries)
    (same : key left = key right) : left = right :=
  List.inj_on_of_nodup_map dictionary.distinct leftStored rightStored same

/-- Some entry is stored under the key. -/
def HasKey (dictionary : Dictionary key) (wanted : Key) : Prop :=
  ∃ value ∈ dictionary.entries, key value = wanted

/-- The iterator meets the same entries in another order. -/
def relay (dictionary : Dictionary key) (entries : List Value)
    (same : entries.Perm dictionary.entries) : Dictionary key where
  entries := entries
  distinct := (same.map key).nodup_iff.mpr dictionary.distinct

variable [DecidableEq Key]

instance (dictionary : Dictionary key) (wanted : Key) : Decidable (dictionary.HasKey wanted) :=
  inferInstanceAs (Decidable (∃ value ∈ dictionary.entries, key value = wanted))

/-- The entry under a key. -/
def lookup (dictionary : Dictionary key) (wanted : Key) : Option Value :=
  dictionary.entries.find? fun value => key value = wanted

/-- Delete the entry under a key. -/
def del (dictionary : Dictionary key) (removed : Key) : Dictionary key where
  entries := dictionary.entries.filter fun value => key value ≠ removed
  distinct := dictionary.distinct.sublist (List.filter_sublist.map key)

/-- Store a value under its key. -/
def put (dictionary : Dictionary key) (value : Value) : Dictionary key where
  entries := (dictionary.del (key value)).entries ++ [value]
  distinct := by
    rw [List.map_append, List.nodup_append]
    refine ⟨(dictionary.del (key value)).distinct, List.nodup_singleton _, ?_⟩
    intro left leftStored right rightStored same
    obtain ⟨stored, member, rfl⟩ := List.mem_map.mp leftStored
    have apart := (List.mem_filter.mp member).2
    rw [List.mem_singleton.mp rightStored] at same
    simp [same] at apart

/-- A lookup finds exactly the stored entry with the key. -/
theorem lookup_eq_some (dictionary : Dictionary key) (wanted : Key) (value : Value) :
    dictionary.lookup wanted = some value ↔ value ∈ dictionary.entries ∧ key value = wanted := by
  constructor
  · intro found
    exact ⟨List.mem_of_find?_eq_some found, by simpa using List.find?_some found⟩
  · rintro ⟨stored, same⟩
    cases found : dictionary.lookup wanted with
    | none =>
      have missed := List.find?_eq_none.mp found value stored
      simp [same] at missed
    | some other =>
      have otherSame : key other = wanted := by simpa using List.find?_some found
      rw [dictionary.entry_unique (List.mem_of_find?_eq_some found) stored
        (otherSame.trans same.symm)]

/-- A lookup fails exactly when no entry has the key. -/
theorem lookup_eq_none (dictionary : Dictionary key) (wanted : Key) :
    dictionary.lookup wanted = none ↔ ¬ dictionary.HasKey wanted := by
  simp [lookup, HasKey]

/-- A deletion keeps the entries under other keys. -/
@[simp] theorem mem_del (dictionary : Dictionary key) (removed : Key) (value : Value) :
    value ∈ (dictionary.del removed).entries ↔ value ∈ dictionary.entries ∧ key value ≠ removed := by
  simp [del]

/-- After a store the dictionary has the value and the entries under other keys. -/
@[simp] theorem mem_put (dictionary : Dictionary key) (stored value : Value) :
    value ∈ (dictionary.put stored).entries ↔
      value = stored ∨ (value ∈ dictionary.entries ∧ key value ≠ key stored) := by
  simp [put, or_comm]

/-- Deleting a present key makes the dictionary smaller. -/
theorem length_del_lt (dictionary : Dictionary key) {removed : Key}
    (present : dictionary.HasKey removed) :
    (dictionary.del removed).entries.length < dictionary.entries.length := by
  obtain ⟨value, stored, same⟩ := present
  exact List.length_filter_lt_length_iff_exists.mpr ⟨value, stored, by simp [same]⟩

/-- The key under which a value was just stored leads to it. -/
@[simp] theorem lookup_put_self (dictionary : Dictionary key) (value : Value) :
    (dictionary.put value).lookup (key value) = some value := by
  rw [lookup_eq_some, mem_put]
  exact ⟨Or.inl rfl, rfl⟩

/-- A store leaves the lookups of other keys alone. -/
theorem lookup_put_of_ne (dictionary : Dictionary key) (value : Value) {wanted : Key}
    (apart : wanted ≠ key value) :
    (dictionary.put value).lookup wanted = dictionary.lookup wanted := by
  apply Option.ext
  intro found
  rw [lookup_eq_some, lookup_eq_some, mem_put]
  constructor
  · rintro ⟨rfl | ⟨stored, _⟩, same⟩
    · exact absurd same.symm apart
    · exact ⟨stored, same⟩
  · rintro ⟨stored, same⟩
    exact ⟨Or.inr ⟨stored, same ▸ apart⟩, same⟩

/-- Of two stores under one key the second one counts. -/
theorem put_put (dictionary : Dictionary key) {first second : Value}
    (same : key first = key second) :
    (dictionary.put first).put second = dictionary.put second := by
  have entries : ((dictionary.put first).put second).entries =
      (dictionary.put second).entries := by
    simp [put, del, same]
  cases written : (dictionary.put first).put second
  cases once : dictionary.put second
  rw [written, once] at entries
  cases entries
  rfl

end Dictionary

/-! ## Loops over a dictionary -/

section Loop

variable {Value : Type u} {State : Type w} {Error : Type x}

/-- How a pass of a loop body ends: at the next entry, or outside of the loop. -/
inductive Pass (State : Type w) where
  | next (state : State)
  | stop (state : State)

/-- The loop from an iterator that started at a size and has the remaining entries
before it. A changed size is noticed when the next entry is asked for. -/
def iterate (size : State → Nat) (resized : Error) (body : Value → State → Except Error (Pass State))
    (started : Nat) : List Value → State → Except Error State
  | [], state => if size state = started then .ok state else .error resized
  | value :: rest, state =>
    if size state = started then
      match body value state with
      | .ok (.next changed) => iterate size resized body started rest changed
      | .ok (.stop changed) => .ok changed
      | .error failure => .error failure
    else .error resized

variable {size : State → Nat} {resized : Error} {body : Value → State → Except Error (Pass State)}

/-- An iterator whose dictionary has changed its size raises. -/
theorem iterate_resized (started : Nat) (remaining : List Value) (state : State)
    (changed : size state ≠ started) :
    iterate size resized body started remaining state = .error resized := by
  cases remaining with
  | nil => simp only [iterate, if_neg changed]
  | cons value rest => simp only [iterate, if_neg changed]

/-- A loop gets no further than its first selected entry, by induction on the entries
before it: each of them is passed over without a change, and after the selected entry
the body stops, fails, or has changed the size. -/
theorem iterate_eq_first (selected : Value → Bool) (entries : List Value) (state : State)
    (skips : ∀ value ∈ entries, selected value = false → body value state = .ok (.next state))
    (resizes : ∀ value ∈ entries, selected value = true → ∀ changed,
      body value state = .ok (.next changed) → size changed ≠ size state) :
    iterate size resized body (size state) entries state =
      match entries.find? selected with
      | none => .ok state
      | some value =>
        match body value state with
        | .ok (.next _) => .error resized
        | .ok (.stop changed) => .ok changed
        | .error failure => .error failure := by
  induction entries with
  | nil => simp only [iterate, if_pos, List.find?_nil]
  | cons value rest inductionHypothesis =>
    simp only [iterate, if_pos, List.find?_cons]
    cases chosen : selected value with
    | false =>
      rw [skips value List.mem_cons_self chosen]
      exact inductionHypothesis
        (fun other member => skips other (List.mem_cons_of_mem _ member))
        (fun other member => resizes other (List.mem_cons_of_mem _ member))
    | true =>
      simp only
      cases outcome : body value state with
      | error failure => simp only
      | ok pass =>
        cases pass with
        | stop changed => simp only
        | next changed =>
          simp only
          exact iterate_resized _ _ _ (resizes value List.mem_cons_self chosen changed outcome)

end Loop

end Palette.Foundation
