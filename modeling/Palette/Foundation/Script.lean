import Mathlib

/-!
# Scripts that may fail

A script changes a state and then returns a value or raises a failure. What it did
before it raised stays done: nothing is rolled back. A caller may attempt a script and
go on after the failures that it catches; the others pass through it.

What holds when a script ends is said with two conditions, one for its return and one
for its failure. The rules below compute them along the script.
-/

namespace Palette.Foundation

universe u

/-- A script over a state. -/
abbrev Script (State Failure Value : Type u) : Type u := ExceptT Failure (StateM State) Value

/-! ## Outcomes -/

section Outcomes

variable {Failure Value Result : Type u}

/-- Two outcomes in a row are a failure where the first or the second one is. -/
theorem bind_eq_error {outcome : Except Failure Value} {next : Value → Except Failure Result}
    {failure : Failure} : (outcome >>= next) = .error failure ↔
      outcome = .error failure ∨ ∃ value, outcome = .ok value ∧ next value = .error failure := by
  cases outcome <;> simp [bind, Except.bind]

/-- Two outcomes in a row are a value where both are. -/
theorem bind_eq_ok {outcome : Except Failure Value} {next : Value → Except Failure Result}
    {result : Result} : (outcome >>= next) = .ok result ↔
      ∃ value, outcome = .ok value ∧ next value = .ok result := by
  cases outcome <;> simp [bind, Except.bind]

end Outcomes

/-! ## Scripts -/

namespace Script

variable {State Failure Value Result : Type u}

/-- Return or raise as the outcome says. -/
def settle (outcome : Except Failure Value) : Script State Failure Value :=
  ExceptT.mk (pure outcome)

/-- Run a script and go on after a failure that is caught. -/
def attempt (caught : Failure → Bool) (script : Script State Failure Value) :
    Script State Failure (Except Failure Value) :=
  ExceptT.mk do
    match ← script.run with
    | .ok value => pure (.ok (.ok value))
    | .error failure => pure (if caught failure then .ok (.error failure) else .error failure)

/-- Run a script on a part of a state. -/
def within {Whole : Type u} (get : Whole → State) (set : Whole → State → Whole)
    (script : Script State Failure Value) : Script Whole Failure Value :=
  ExceptT.mk fun whole =>
    let outcome := script.run.run (get whole)
    (outcome.1, set whole outcome.2)

/-- The script ends from the state with a return or a failure that meets its condition. -/
def Ends (script : Script State Failure Value) (state : State)
    (returned : Value → State → Prop) (raised : Failure → State → Prop) : Prop :=
  match script.run.run state with
  | (.ok value, final) => returned value final
  | (.error failure, final) => raised failure final

variable {state : State} {returned : Value → State → Prop} {raised : Failure → State → Prop}

/-- An outcome ends at once. -/
theorem ends_settle {outcome : Except Failure Value} :
    (settle outcome).Ends state returned raised ↔
      match outcome with
      | .ok value => returned value state
      | .error failure => raised failure state := by
  cases outcome <;> rfl

@[simp] theorem ends_settle_ok {value : Value} :
    (settle (.ok value)).Ends state returned raised ↔ returned value state := Iff.rfl

@[simp] theorem ends_settle_error {failure : Failure} :
    (settle (.error failure)).Ends state returned raised ↔ raised failure state := Iff.rfl

@[simp] theorem ends_pure {value : Value} :
    Ends (pure value) state returned raised ↔ returned value state := Iff.rfl

@[simp] theorem ends_throw {failure : Failure} :
    Ends (throw failure : Script State Failure Value) state returned raised ↔
      raised failure state := Iff.rfl

@[simp] theorem ends_get {returned : State → State → Prop} :
    Ends (get : Script State Failure State) state returned raised ↔ returned state state := Iff.rfl

@[simp] theorem ends_modify {change : State → State} {returned : PUnit → State → Prop} :
    Ends (modify change : Script State Failure PUnit) state returned raised ↔
      returned ⟨⟩ (change state) := Iff.rfl

/-- The second of two scripts runs where the first one returns. -/
@[simp] theorem ends_bind {script : Script State Failure Value}
    {next : Value → Script State Failure Result} {returned : Result → State → Prop} :
    Ends (script >>= next) state returned raised ↔
      script.Ends state (fun value middle => (next value).Ends middle returned raised) raised := by
  simp only [Ends, ExceptT.run_bind, StateT.run_bind]
  rcases script.run.run state with ⟨value | failure, middle⟩ <;> rfl

@[simp] theorem ends_map {script : Script State Failure Value} {change : Value → Result}
    {returned : Result → State → Prop} :
    Ends (change <$> script) state returned raised ↔
      script.Ends state (fun value final => returned (change value) final) raised := by
  rw [map_eq_pure_bind, ends_bind]
  rfl

/-- An attempt returns what it catches. -/
@[simp] theorem ends_attempt {caught : Failure → Bool} {script : Script State Failure Value}
    {returned : Except Failure Value → State → Prop} :
    (attempt caught script).Ends state returned raised ↔
      script.Ends state (fun value final => returned (.ok value) final) fun failure final =>
        if caught failure then returned (.error failure) final else raised failure final := by
  simp only [Ends, attempt, ExceptT.run_mk, StateT.run_bind]
  rcases script.run.run state with ⟨failure | value, final⟩
  · simp only [bind, StateT.run, pure, StateT.pure]
    cases caught failure <;> rfl
  · rfl

@[simp] theorem ends_ite {condition : Prop} [Decidable condition]
    {yes no : Script State Failure Value} :
    Ends (if condition then yes else no) state returned raised ↔
      if condition then yes.Ends state returned raised else no.Ends state returned raised := by
  split <;> rfl

/-- On a part of a state, a script ends as it does by itself. -/
@[simp] theorem ends_within {Whole : Type u} {get : Whole → State} {set : Whole → State → Whole}
    {script : Script State Failure Value} {whole : Whole}
    {returned : Value → Whole → Prop} {raised : Failure → Whole → Prop} :
    Ends (within get set script) whole returned raised ↔
      script.Ends (get whole) (fun value final => returned value (set whole final))
        fun failure final => raised failure (set whole final) := by
  simp only [Ends, within, ExceptT.run_mk, StateT.run]
  rcases script.run (get whole) with ⟨failure | value, final⟩ <;> rfl

/-- Conditions that hold of everything hold wherever a script ends. -/
theorem ends_of_forall (script : Script State Failure Value)
    (onReturn : ∀ value final, returned value final)
    (onRaise : ∀ failure final, raised failure final) : script.Ends state returned raised := by
  unfold Ends
  split
  · exact onReturn _ _
  · exact onRaise _ _

/-- A condition that depends on nothing holds at the end if it holds. -/
@[simp] theorem ends_const (script : Script State Failure Value) {condition : Prop} :
    script.Ends state (fun _ _ => condition) (fun _ _ => condition) ↔ condition := by
  unfold Ends
  split <;> rfl

/-- Weaker conditions hold as well. -/
theorem Ends.mono {script : Script State Failure Value}
    {otherReturned : Value → State → Prop} {otherRaised : Failure → State → Prop}
    (ends : script.Ends state returned raised)
    (onReturn : ∀ value final, returned value final → otherReturned value final)
    (onRaise : ∀ failure final, raised failure final → otherRaised failure final) :
    script.Ends state otherReturned otherRaised := by
  unfold Ends at ends ⊢
  generalize script.run.run state = result at ends ⊢
  rcases result with ⟨failure | value, final⟩
  · exact onRaise failure final ends
  · exact onReturn value final ends

/-- Two pairs of conditions hold together. -/
theorem Ends.and {script : Script State Failure Value}
    {otherReturned : Value → State → Prop} {otherRaised : Failure → State → Prop}
    (first : script.Ends state returned raised)
    (second : script.Ends state otherReturned otherRaised) :
    script.Ends state (fun value final => returned value final ∧ otherReturned value final)
      fun failure final => raised failure final ∧ otherRaised failure final := by
  unfold Ends at first second ⊢
  generalize script.run.run state = result at first second ⊢
  rcases result with ⟨failure | value, final⟩
  · exact ⟨first, second⟩
  · exact ⟨first, second⟩

/-- A condition on the state alone is one on the final state. -/
theorem ends_state (script : Script State Failure Value) {condition : State → Prop} :
    script.Ends state (fun _ final => condition final) (fun _ final => condition final) ↔
      condition (script.run.run state).2 := by
  unfold Ends
  split <;> rename_i result <;> rw [result]

/-- Conditions may be exchanged for others that agree with them wherever the script can
end. -/
theorem ends_congr {script : Script State Failure Value}
    {otherReturned : Value → State → Prop} {otherRaised : Failure → State → Prop}
    (ends : script.Ends state (fun value final => returned value final ↔ otherReturned value final)
      fun failure final => raised failure final ↔ otherRaised failure final) :
    script.Ends state returned raised ↔ script.Ends state otherReturned otherRaised := by
  unfold Ends at ends ⊢
  generalize script.run.run state = result at ends ⊢
  rcases result with ⟨failure | value, final⟩
  · exact ends
  · exact ends

/-- Conditions that come down to one everywhere hold at the end if that one holds. -/
theorem ends_iff {script : Script State Failure Value} {condition : Prop}
    (ends : script.Ends state (fun value final => returned value final ↔ condition)
      fun failure final => raised failure final ↔ condition) :
    script.Ends state returned raised ↔ condition :=
  (ends_congr ends).trans (ends_const script)

/-- A script whose ends follow an outcome meets its conditions where the outcome meets
the conditions that they come down to. -/
theorem ends_of_outcome {script : Script State Failure Value} {outcome : Except Failure Value}
    {afterReturn : Value → State → Prop} {afterRaise : Failure → State → Prop}
    {value : Value → Prop} {failure : Failure → Prop}
    (ends : script.Ends state (fun reply final => outcome = .ok reply ∧ afterReturn reply final)
      fun raise final => outcome = .error raise ∧ afterRaise raise final)
    (onReturn : ∀ reply final, outcome = .ok reply → afterReturn reply final →
      (returned reply final ↔ value reply))
    (onRaise : ∀ raise final, outcome = .error raise → afterRaise raise final →
      (raised raise final ↔ failure raise)) :
    script.Ends state returned raised ↔
      (∃ reply, outcome = .ok reply ∧ value reply) ∨
        ∃ raise, outcome = .error raise ∧ failure raise := by
  unfold Ends at ends ⊢
  generalize script.run.run state = result at ends ⊢
  rcases result with ⟨raise | reply, final⟩
  · obtain ⟨rfl, after⟩ := ends
    simpa using onRaise raise final rfl after
  · obtain ⟨rfl, after⟩ := ends
    simpa using onReturn reply final rfl after

/-! ## Returning -/

/-- The script returns, and what it returns meets the condition. -/
def Completes (script : Script State Failure Value) (state : State)
    (returned : Value → State → Prop) : Prop :=
  script.Ends state returned fun _ _ => False

/-- An outcome completes if it is a value. -/
theorem completes_settle {outcome : Except Failure Value} :
    (settle outcome).Completes state returned ↔
      ∃ value, outcome = .ok value ∧ returned value state := by
  cases outcome <;> simp [Completes]

@[simp] theorem completes_settle_ok {value : Value} :
    (settle (.ok value) : Script State Failure Value).Completes state returned ↔ returned value state := Iff.rfl

@[simp] theorem completes_settle_error {failure : Failure} :
    (settle (.error failure)).Completes state returned ↔ False := Iff.rfl

@[simp] theorem completes_pure {value : Value} :
    Completes (pure value : Script State Failure Value) state returned ↔
      returned value state := Iff.rfl

@[simp] theorem completes_throw {failure : Failure} :
    Completes (throw failure : Script State Failure Value) state returned ↔ False := Iff.rfl

@[simp] theorem completes_get {returned : State → State → Prop} :
    Completes (get : Script State Failure State) state returned ↔ returned state state := Iff.rfl

@[simp] theorem completes_modify {change : State → State} {returned : PUnit → State → Prop} :
    Completes (modify change : Script State Failure PUnit) state returned ↔
      returned ⟨⟩ (change state) := Iff.rfl

/-- Both of two scripts complete. -/
@[simp] theorem completes_bind {script : Script State Failure Value}
    {next : Value → Script State Failure Result} {returned : Result → State → Prop} :
    Completes (script >>= next) state returned ↔
      script.Completes state fun value middle => (next value).Completes middle returned :=
  ends_bind

@[simp] theorem completes_map {script : Script State Failure Value} {change : Value → Result}
    {returned : Result → State → Prop} :
    Completes (change <$> script) state returned ↔
      script.Completes state fun value final => returned (change value) final :=
  ends_map

/-- An attempt completes after every failure that it catches. -/
@[simp] theorem completes_attempt {caught : Failure → Bool} {script : Script State Failure Value}
    {returned : Except Failure Value → State → Prop} :
    (attempt caught script).Completes state returned ↔
      script.Ends state (fun value final => returned (.ok value) final) fun failure final =>
        caught failure = true ∧ returned (.error failure) final := by
  simp [Completes]

@[simp] theorem completes_ite {condition : Prop} [Decidable condition]
    {yes no : Script State Failure Value} :
    Completes (if condition then yes else no) state returned ↔
      if condition then yes.Completes state returned else no.Completes state returned :=
  ends_ite

/-- Conditions may be exchanged for others that agree with them wherever the script
returns. -/
theorem completes_congr {script : Script State Failure Value}
    {otherReturned : Value → State → Prop}
    (ends : script.Ends state (fun value final => returned value final ↔ otherReturned value final)
      fun _ _ => True) :
    script.Completes state returned ↔ script.Completes state otherReturned :=
  ends_congr (ends.mono (fun _ _ same => same) fun _ _ _ => Iff.rfl)

/-! ## If it returns -/

/-- If the script returns, what it returns meets the condition. A script that raises
upholds every condition. -/
def Upholds (script : Script State Failure Value) (state : State)
    (returned : Value → State → Prop) : Prop :=
  script.Ends state returned fun _ _ => True

theorem upholds_settle {outcome : Except Failure Value} :
    (settle outcome).Upholds state returned ↔
      ∀ value, outcome = .ok value → returned value state := by
  cases outcome <;> simp [Upholds]

@[simp] theorem upholds_pure {value : Value} :
    Upholds (pure value : Script State Failure Value) state returned ↔
      returned value state := Iff.rfl

@[simp] theorem upholds_throw {failure : Failure} :
    Upholds (throw failure : Script State Failure Value) state returned ↔ True := Iff.rfl

@[simp] theorem upholds_get {returned : State → State → Prop} :
    Upholds (get : Script State Failure State) state returned ↔ returned state state := Iff.rfl

@[simp] theorem upholds_modify {change : State → State} {returned : PUnit → State → Prop} :
    Upholds (modify change : Script State Failure PUnit) state returned ↔
      returned ⟨⟩ (change state) := Iff.rfl

/-- A condition is upheld if every run that returns meets it. -/
theorem upholds_iff {script : Script State Failure Value} :
    script.Upholds state returned ↔
      ∀ value final, script.run.run state = (.ok value, final) → returned value final := by
  unfold Upholds Ends
  rcases script.run.run state with ⟨failure | value, final⟩
  · exact iff_of_true trivial fun _ _ same => by cases same
  · exact ⟨fun upheld _ _ same => by cases same; exact upheld, fun all => all value final rfl⟩

/-- A condition is upheld by two scripts if the first one upholds that the second does. -/
@[simp] theorem upholds_bind {script : Script State Failure Value}
    {next : Value → Script State Failure Result} {returned : Result → State → Prop} :
    Upholds (script >>= next) state returned ↔
      script.Upholds state fun value middle => (next value).Upholds middle returned :=
  ends_bind

@[simp] theorem upholds_map {script : Script State Failure Value} {change : Value → Result}
    {returned : Result → State → Prop} :
    Upholds (change <$> script) state returned ↔
      script.Upholds state fun value final => returned (change value) final :=
  ends_map

/-- An attempt upholds a condition of what it returns and of what it catches. -/
@[simp] theorem upholds_attempt {caught : Failure → Bool} {script : Script State Failure Value}
    {returned : Except Failure Value → State → Prop} :
    (attempt caught script).Upholds state returned ↔
      script.Ends state (fun value final => returned (.ok value) final) fun failure final =>
        caught failure = true → returned (.error failure) final := by
  simp [Upholds]

@[simp] theorem upholds_ite {condition : Prop} [Decidable condition]
    {yes no : Script State Failure Value} :
    Upholds (if condition then yes else no) state returned ↔
      if condition then yes.Upholds state returned else no.Upholds state returned :=
  ends_ite

/-- What every return meets is upheld. -/
theorem upholds_of_forall (script : Script State Failure Value)
    (onReturn : ∀ value final, returned value final) : script.Upholds state returned :=
  ends_of_forall script onReturn fun _ _ => trivial

/-- A weaker condition is upheld as well. -/
theorem Upholds.mono {script : Script State Failure Value}
    {otherReturned : Value → State → Prop} (upholds : script.Upholds state returned)
    (onReturn : ∀ value final, returned value final → otherReturned value final) :
    script.Upholds state otherReturned :=
  Ends.mono upholds onReturn fun _ _ raised => raised

/-! ## Loops -/

section Loops

variable {Item : Type u}

/-- A condition holds of every item that a loop comes to, in the state in which it comes to
it. -/
def Along (script : Item → Script State Failure PUnit) (condition : State → Item → Prop) :
    List Item → State → Prop
  | [], _ => True
  | item :: rest, state => condition state item ∧
      (script item).Upholds state fun _ next => Along script condition rest next

/-- A loop keeps what each of its items keeps where the condition holds. -/
theorem Along.ends {script : Item → Script State Failure PUnit} {condition : State → Item → Prop}
    {kept : State → Prop} {left : Failure → State → Prop} {items : List Item}
    (each : ∀ state item, condition state item → kept state →
      (script item).Ends state (fun _ final => kept final) left)
    (along : Along script condition items state) (holds : kept state) :
    (items.forM script).Ends state (fun _ final => kept final) left := by
  induction items generalizing state with
  | nil => exact holds
  | cons item rest inductionHypothesis =>
    rw [List.forM_eq_forM, List.forM_cons, ends_bind]
    exact ((each state item along.1 holds).and along.2).mono
      (fun _ _ both => inductionHypothesis both.2 both.1) fun _ _ both => both.1

/-- What holds always holds along every loop. -/
theorem along_of_forall {script : Item → Script State Failure PUnit}
    {condition : State → Item → Prop} (always : ∀ state item, condition state item)
    (items : List Item) (state : State) : Along script condition items state := by
  induction items generalizing state with
  | nil => exact trivial
  | cons item rest inductionHypothesis =>
    exact ⟨always state item, upholds_of_forall _ fun _ next => inductionHypothesis next⟩

section Followed

variable {View : Type u} {view : State → View} {follow : View → Item → View}
  {fine : View → Item → Prop}

/-- A condition holds of every item and of what was followed up to it. -/
def Throughout (follow : View → Item → View) (fine : View → Item → Prop) :
    View → List Item → Prop
  | _, [] => True
  | seen, item :: rest => fine seen item ∧ Throughout follow fine (follow seen item) rest

/-- A loop returns exactly where every pass does, if a function follows what decides on it. -/
theorem forM_ends_followed {script : Item → Script State Failure PUnit}
    (each : ∀ state item, (script item).Ends state
      (fun _ final => fine (view state) item ∧ view final = follow (view state) item)
      fun _ _ => ¬ fine (view state) item)
    (items : List Item) (state : State) :
    (items.forM script).Ends state
      (fun _ final => Throughout follow fine (view state) items ∧
        view final = items.foldl follow (view state))
      fun _ _ => ¬ Throughout follow fine (view state) items := by
  induction items generalizing state with
  | nil => exact ⟨trivial, rfl⟩
  | cons item rest inductionHypothesis =>
    rw [List.forM_eq_forM, List.forM_cons, ends_bind]
    refine (each state item).mono (fun _ middle passed => ?_) fun _ _ failed both => failed both.1
    have continued := inductionHypothesis middle
    rw [passed.2] at continued
    exact continued.mono (fun _ _ left => ⟨⟨passed.1, left.1⟩, left.2⟩)
      fun _ _ failed both => failed both.2

end Followed

end Loops

end Script

end Palette.Foundation
