import Palette.Status.Maintenance

/-!
# The names of workers

Tableau lists the hosts of a cluster twice: `worker.hosts` has all of them with the primary in
front, and `worker1.host` and so on have one host each. The list decides whether an agent is a
worker, and the single settings decide which name it gets.

Both compare addresses with the agent's address and names without their domains. The list is
searched to its end, but the settings only up to the first empty one. An agent gets the name of the
first host that it is taken for, so two agents that differ by their domains only get one name.
-/

namespace Palette.Agents

open Palette.Commands (toDigits_injective)
open Palette.Status (HostNames)
open Palette.Status.HostNames (hostnameOnly)

/-- What an agent is known by. -/
structure HostAgent where
  hostname : String
  ipAddress : Option String
  deriving DecidableEq, Repr

/-- The entries of `worker.hosts` and the other settings by their keys. -/
abbrev Yml := String → Option String

/-- The key of the setting for one worker. -/
def workerKey (number : Nat) : String := "worker" ++ toString number ++ ".host"

/-- `WORKER_TEMPLATE`. -/
def workerTemplate (number : Nat) : String := "Tableau Worker " ++ toString number

/-- `WORKER_START`. -/
def workerStart : Nat := 100

/-- The name and the order of a worker. -/
def workerName (number : Nat) : String × Nat := (workerTemplate number, workerStart + number)

section Naming

/-! Which names are addresses, what they are in upper case and which characters are blanks are
parameters. -/

variable (names : HostNames) (blank : Char → Bool) (yml : Yml)

/-- `get_yml_list`. A missing entry raises. -/
def getYmlList (key : String) : Option (List String) :=
  (yml key).map fun value => (value.toList.splitOn ',').map fun part =>
    String.ofList (((part.dropWhile blank).reverse.dropWhile blank).reverse)

/-- A host is the agent's. Both functions compare in this way. -/
def isHostOf (agent : HostAgent) (host : String) : Bool :=
  if names.isIp host then some host = agent.ipAddress
  else names.upper (hostnameOnly host) = names.upper (hostnameOnly agent.hostname)

/-- `is_tableau_worker`. -/
def isTableauWorker (agent : HostAgent) : Bool :=
  match getYmlList blank yml "worker.hosts" with
  | none => false
  | some hosts => if hosts.length = 1 then false else (hosts.drop 1).any (isHostOf names agent)

/-- The loop of `_calc_worker_name` over the numbers of workers. -/
def workerLoop (agent : HostAgent) : List Nat → String × Nat
  | [] => (workerTemplate 0, workerStart)
  | number :: rest =>
    match yml (workerKey number) with
    | none => (workerTemplate 0, workerStart)
    | some value =>
      if value = "" then (workerTemplate 0, workerStart)
      else if isHostOf names agent value then workerName number
      else workerLoop agent rest

/-- `_calc_worker_name`. -/
def calcWorkerName (agent : HostAgent) : String × Nat :=
  match getYmlList blank yml "worker.hosts" with
  | none => (workerTemplate 0, workerStart)
  | some hosts =>
    if hosts.length ≤ 1 then (workerTemplate 0, workerStart)
    else workerLoop names yml agent (List.range' 1 hosts.length)

end Naming

/-! ## Entries of agents -/

section Entries

variable (names : HostNames) (hosts : List String)

/-- The entry of this number is a worker that the agent is taken for. -/
def MatchesAt (agent : HostAgent) (number : Nat) : Prop :=
  1 ≤ number ∧ ∃ host, hosts[number]? = some host ∧ isHostOf names agent host = true

/-- It is the first one. -/
def FirstAt (agent : HostAgent) (number : Nat) : Prop :=
  MatchesAt names hosts agent number ∧ ∀ earlier < number, ¬ MatchesAt names hosts agent earlier

/-- There is no empty entry up to the first one that an agent is taken for. -/
def IsReached (agent : HostAgent) : Prop :=
  ∀ number, FirstAt names hosts agent number →
    ∀ earlier ≤ number, 1 ≤ earlier → hosts[earlier]? ≠ some ""

/-- The settings for the workers are the entries of the list. -/
def Describes (blank : Char → Bool) (yml : Yml) : Prop :=
  getYmlList blank yml "worker.hosts" = some hosts ∧
    ∀ number host, hosts[number]? = some host → yml (workerKey number) = some host

end Entries

section Names

variable {names : HostNames} {hosts : List String} {blank : Char → Bool} {yml : Yml}
  {agent other : HostAgent}

/-- An agent that is taken for some worker is taken for a first one. -/
theorem exists_firstAt {number : Nat} (taken : MatchesAt names hosts agent number) :
    ∃ first ≤ number, FirstAt names hosts agent first := by
  induction number using Nat.strong_induction_on with
  | _ number inductionHypothesis =>
    by_cases earlier : ∃ before < number, MatchesAt names hosts agent before
    · obtain ⟨before, less, takenBefore⟩ := earlier
      obtain ⟨first, notAfter, isFirst⟩ := inductionHypothesis before less takenBefore
      exact ⟨first, notAfter.trans less.le, isFirst⟩
    · exact ⟨number, le_rfl, taken, fun before less takenBefore =>
        earlier ⟨before, less, takenBefore⟩⟩

/-- There is one first entry. -/
theorem FirstAt.unique {first second : Nat} (isFirst : FirstAt names hosts agent first)
    (again : FirstAt names hosts agent second) : first = second := by
  rcases lt_trichotomy first second with less | same | more
  · exact absurd isFirst.1 (again.2 first less)
  · exact same
  · exact absurd again.1 (isFirst.2 second more)

/-- An agent is a worker exactly if some entry behind the primary is its host. -/
theorem isTableauWorker_iff (described : Describes hosts blank yml) :
    isTableauWorker names blank yml agent = true ↔
      ∃ number, MatchesAt names hosts agent number := by
  rw [isTableauWorker, described.1]
  dsimp only
  split
  · rename_i single
    refine iff_of_false Bool.false_ne_true ?_
    rintro ⟨number, positive, host, listed, -⟩
    have inside := (List.getElem?_eq_some_iff.mp listed).1
    omega
  · rw [List.any_eq_true]
    constructor
    · rintro ⟨host, behind, own⟩
      obtain ⟨index, listed⟩ := List.mem_iff_getElem?.mp behind
      rw [List.getElem?_drop] at listed
      exact ⟨1 + index, Nat.le_add_right 1 index, host, listed, own⟩
    · rintro ⟨number, positive, host, listed, own⟩
      refine ⟨host, List.mem_iff_getElem?.mpr ⟨number - 1, ?_⟩, own⟩
      rw [List.getElem?_drop, Nat.add_sub_cancel' positive]
      exact listed

/-- The names of workers are different. -/
theorem workerName_injective {number second : Nat}
    (same : (workerName number).1 = (workerName second).1) : number = second := by
  have texts := congrArg String.toList same
  simp only [workerName, workerTemplate, String.toList_append, List.append_cancel_left_eq] at texts
  exact toDigits_injective (by simpa using texts)

/-- The number of an entry in the list is that of a setting. -/
theorem yml_of_listed (described : Describes hosts blank yml) {number last : Nat}
    (inside : last < hosts.length) (notAfter : number ≤ last) :
    ∃ host, hosts[number]? = some host ∧ yml (workerKey number) = some host := by
  have listed := List.getElem?_eq_getElem (Nat.lt_of_le_of_lt notAfter inside)
  exact ⟨_, listed, described.2 number _ listed⟩

/-- The first entry is in the list. -/
theorem FirstAt.lt_length {first : Nat} (isFirst : FirstAt names hosts agent first) :
    first < hosts.length := by
  obtain ⟨⟨-, host, listed, -⟩, -⟩ := isFirst
  exact (List.getElem?_eq_some_iff.mp listed).1

/-- One pass of the loop over an entry that is not the agent's. -/
theorem workerLoop_next {number : Nat} {host : String} {rest : List Nat}
    (listed : hosts[number]? = some host) (set : yml (workerKey number) = some host)
    (notZero : 1 ≤ number) (notEmpty : host ≠ "") (other : ¬ MatchesAt names hosts agent number) :
    workerLoop names yml agent (number :: rest) = workerLoop names yml agent rest := by
  have apart : ¬ isHostOf names agent host = true := fun own => other ⟨notZero, host, listed, own⟩
  rw [workerLoop, set]
  dsimp only
  rw [if_neg notEmpty, if_neg apart]

/-- The loop gives the name of the first entry if it reaches it. -/
theorem workerLoop_first (described : Describes hosts blank yml) {first : Nat}
    (isFirst : FirstAt names hosts agent first) {start count : Nat} (notZero : 1 ≤ start)
    (before : start ≤ first) (reaches : first < start + count)
    (filled : ∀ number, start ≤ number → number ≤ first → hosts[number]? ≠ some "") :
    workerLoop names yml agent (List.range' start count) = workerName first := by
  induction count generalizing start with
  | zero => omega
  | succ count inductionHypothesis =>
    obtain ⟨host, listed, set⟩ := yml_of_listed described isFirst.lt_length before
    have notEmpty : host ≠ "" := by
      rintro rfl
      exact filled start le_rfl before listed
    rw [List.range'_succ]
    rcases Nat.lt_or_eq_of_le before with less | same
    · rw [workerLoop_next listed set notZero notEmpty (isFirst.2 start less)]
      exact inductionHypothesis (by omega) less (by omega)
        fun number atLeast upTo => filled number (by omega) upTo
    · obtain ⟨-, own, ownListed, isOwn⟩ := isFirst.1
      rw [← same, listed, Option.some.injEq] at ownListed
      rw [← ownListed] at isOwn
      rw [workerLoop, set]
      dsimp only
      rw [if_neg notEmpty, if_pos isOwn, same]

/-- The loop ends at an empty entry that it comes to no later than to the agent's. -/
theorem workerLoop_empty (described : Describes hosts blank yml) {first empty : Nat}
    (isFirst : FirstAt names hosts agent first) (notAfter : empty ≤ first)
    (isEmpty : hosts[empty]? = some "") {start count : Nat} (notZero : 1 ≤ start)
    (before : start ≤ empty) (reaches : empty < start + count) :
    workerLoop names yml agent (List.range' start count) = workerName 0 := by
  induction count generalizing start with
  | zero => omega
  | succ count inductionHypothesis =>
    obtain ⟨host, listed, set⟩ :=
      yml_of_listed described isFirst.lt_length (before.trans notAfter)
    rw [List.range'_succ]
    by_cases blankHost : host = ""
    · rw [workerLoop, set]
      dsimp only
      rw [if_pos blankHost]
      rfl
    · have later : start < empty := by
        refine lt_of_le_of_ne before fun same => blankHost ?_
        rw [same, isEmpty, Option.some.injEq] at listed
        exact listed.symm
      rw [workerLoop_next listed set notZero blankHost (isFirst.2 start (by omega))]
      exact inductionHypothesis (by omega) later (by omega)

/-- A worker whose entry is reached gets the name of its first entry. -/
theorem calcWorkerName_reached (described : Describes hosts blank yml)
    (reached : IsReached names hosts agent) {first : Nat}
    (isFirst : FirstAt names hosts agent first) :
    calcWorkerName names blank yml agent = workerName first := by
  have positive : 1 ≤ first := isFirst.1.1
  have inside := isFirst.lt_length
  rw [calcWorkerName, described.1]
  dsimp only
  rw [if_neg (by omega)]
  exact workerLoop_first described isFirst le_rfl positive (by omega)
    fun number notZero upTo => reached first isFirst number upTo notZero

/-- A worker whose entry is not reached gets no name of a worker. -/
theorem calcWorkerName_unreached (described : Describes hosts blank yml)
    (unreached : ¬ IsReached names hosts agent) :
    calcWorkerName names blank yml agent = workerName 0 := by
  simp only [IsReached, not_forall, not_not] at unreached
  obtain ⟨first, isFirst, empty, notAfter, positive, isEmpty⟩ := unreached
  have inside := isFirst.lt_length
  rw [calcWorkerName, described.1]
  dsimp only
  rw [if_neg (by omega)]
  exact workerLoop_empty described isFirst notAfter isEmpty le_rfl positive (by omega)

/-! ## Names and orders -/

/-- A worker gets the name and the order of an entry that it is taken for. -/
def IsNamed (names : HostNames) (hosts : List String) (blank : Char → Bool) (yml : Yml)
    (agent : HostAgent) : Prop :=
  isTableauWorker names blank yml agent = true → ∃ number, MatchesAt names hosts agent number ∧
    calcWorkerName names blank yml agent = (workerTemplate number, workerStart + number)

/-- Two agents that are taken for different entries get different names and orders. -/
def AreNamedApart (names : HostNames) (hosts : List String) (blank : Char → Bool) (yml : Yml)
    (agent other : HostAgent) : Prop :=
  ∀ number second, number ≠ second → MatchesAt names hosts agent number →
    MatchesAt names hosts other second →
      (calcWorkerName names blank yml agent).1 ≠ (calcWorkerName names blank yml other).1 ∧
      (calcWorkerName names blank yml agent).2 ≠ (calcWorkerName names blank yml other).2

/-- A worker is named exactly if its entry is reached. -/
theorem isNamed_iff (described : Describes hosts blank yml) :
    IsNamed names hosts blank yml agent ↔ IsReached names hosts agent := by
  constructor
  · intro named
    by_contra unreached
    have none := calcWorkerName_unreached described unreached
    have isWorker : isTableauWorker names blank yml agent = true := by
      simp only [IsReached, not_forall] at unreached
      obtain ⟨first, isFirst, -⟩ := unreached
      exact (isTableauWorker_iff described).mpr ⟨first, isFirst.1⟩
    obtain ⟨number, ⟨positive, -⟩, name⟩ := named isWorker
    have same : (workerName number).1 = (workerName 0).1 := congrArg Prod.fst (name.symm.trans none)
    have zero := workerName_injective same
    omega
  · intro reached isWorker
    obtain ⟨number, taken⟩ := (isTableauWorker_iff described).mp isWorker
    obtain ⟨first, -, isFirst⟩ := exists_firstAt taken
    exact ⟨first, isFirst.1, calcWorkerName_reached described reached isFirst⟩

/-- Two agents are named, and named apart, exactly if the entries of both are reached and no entry
is the first one of both where they are taken for different ones. -/
theorem workers_are_named_iff (described : Describes hosts blank yml) :
    (IsNamed names hosts blank yml agent ∧ IsNamed names hosts blank yml other ∧
      AreNamedApart names hosts blank yml agent other) ↔
    IsReached names hosts agent ∧ IsReached names hosts other ∧
      ∀ number second, number ≠ second → MatchesAt names hosts agent number →
        MatchesAt names hosts other second →
          ∀ first, FirstAt names hosts agent first → ¬ FirstAt names hosts other first := by
  rw [isNamed_iff described, isNamed_iff described]
  refine and_congr_right fun reached => and_congr_right fun otherReached => ?_
  constructor
  · intro apart number second different taken otherTaken first isFirst otherFirst
    refine (apart number second different taken otherTaken).1 ?_
    rw [calcWorkerName_reached described reached isFirst,
      calcWorkerName_reached described otherReached otherFirst]
  · intro firsts number second different taken otherTaken
    obtain ⟨first, -, isFirst⟩ := exists_firstAt taken
    obtain ⟨otherNumber, -, otherFirst⟩ := exists_firstAt otherTaken
    have unequal : first ≠ otherNumber := by
      rintro rfl
      exact firsts number second different taken otherTaken first isFirst otherFirst
    rw [calcWorkerName_reached described reached isFirst,
      calcWorkerName_reached described otherReached otherFirst]
    refine ⟨fun same => unequal (workerName_injective same), fun same => unequal ?_⟩
    simpa [workerName] using same

end Names

/-! ## Examples -/

/-- Addresses have digits and dots only, and names have characters of ASCII. -/
def asciiNames : HostNames where
  isIp host := host.toList.all fun char => char.isDigit || char = '.'
  upper host := String.ofList (host.toList.map Char.toUpper)

/-- The settings of a primary and two workers. -/
def cluster (first second : String) : Yml := fun key =>
  if key = "worker.hosts" then some ("primary, " ++ first ++ ", " ++ second)
  else if key = "worker0.host" then some "primary"
  else if key = "worker1.host" then some first
  else if key = "worker2.host" then some second
  else none

/-- The numbers of three entries. -/
theorem describes_of_three {first second third : String} {blank : Char → Bool} {yml : Yml}
    (list : getYmlList blank yml "worker.hosts" = some [first, second, third])
    (zero : yml (workerKey 0) = some first) (one : yml (workerKey 1) = some second)
    (two : yml (workerKey 2) = some third) : Describes [first, second, third] blank yml := by
  refine ⟨list, fun number host listed => ?_⟩
  match number with
  | 0 => exact zero.trans listed
  | 1 => exact one.trans listed
  | 2 => exact two.trans listed
  | number + 3 => cases listed

/-- A worker with an address and one with a name of upper case are named apart. -/
theorem address_and_name_named :
    Describes ["primary", "10.0.0.102", "node.b"] (· = ' ') (cluster "10.0.0.102" "node.b") ∧
    (IsNamed asciiNames ["primary", "10.0.0.102", "node.b"] (· = ' ')
        (cluster "10.0.0.102" "node.b") ⟨"first", some "10.0.0.102"⟩ ∧
      IsNamed asciiNames ["primary", "10.0.0.102", "node.b"] (· = ' ')
        (cluster "10.0.0.102" "node.b") ⟨"NODE", some "10.0.0.103"⟩ ∧
      AreNamedApart asciiNames ["primary", "10.0.0.102", "node.b"] (· = ' ')
        (cluster "10.0.0.102" "node.b") ⟨"first", some "10.0.0.102"⟩
        ⟨"NODE", some "10.0.0.103"⟩) := by
  have described : Describes ["primary", "10.0.0.102", "node.b"] (· = ' ')
      (cluster "10.0.0.102" "node.b") :=
    describes_of_three (by decide +kernel) (by decide +kernel) (by decide +kernel)
      (by decide +kernel)
  have filled (number : Nat) : ["primary", "10.0.0.102", "node.b"][number]? ≠ some "" := by
    intro listed
    have member := List.mem_of_getElem? listed
    revert member
    decide
  refine ⟨described, (workers_are_named_iff described).mpr
    ⟨fun _ _ earlier _ _ => filled earlier, fun _ _ earlier _ _ => filled earlier, ?_⟩⟩
  rintro - - - - - first ⟨⟨-, host, listed, own⟩, -⟩ ⟨⟨-, again, relisted, owns⟩, -⟩
  rw [listed, Option.some.injEq] at relisted
  subst relisted
  have member := List.mem_of_getElem? listed
  simp only [List.mem_cons, List.not_mem_nil, or_false] at member
  rcases member with rfl | rfl | rfl <;> revert own owns <;> decide +kernel

/-- Two hosts whose names differ by their domains get one name and one order. -/
theorem domains_named_alike :
    Describes ["primary", "node.a", "node.b"] (· = ' ') (cluster "node.a" "node.b") ∧
    ¬ (IsNamed asciiNames ["primary", "node.a", "node.b"] (· = ' ')
        (cluster "node.a" "node.b") ⟨"node.a", some "10.0.0.102"⟩ ∧
      IsNamed asciiNames ["primary", "node.a", "node.b"] (· = ' ')
        (cluster "node.a" "node.b") ⟨"node.b", some "10.0.0.103"⟩ ∧
      AreNamedApart asciiNames ["primary", "node.a", "node.b"] (· = ' ')
        (cluster "node.a" "node.b") ⟨"node.a", some "10.0.0.102"⟩
        ⟨"node.b", some "10.0.0.103"⟩) := by
  refine ⟨describes_of_three (by decide +kernel) (by decide +kernel) (by decide +kernel)
    (by decide +kernel), ?_⟩
  rintro ⟨-, -, apart⟩
  have different := (apart 1 2 (by decide) ⟨le_rfl, "node.a", rfl, by decide +kernel⟩
    ⟨by decide, "node.b", rfl, by decide +kernel⟩).1
  revert different
  decide +kernel

end Palette.Agents
