import Palette.ProcessManager.Results

/-!
# Which directories are left

The directory of a command is removed by the agent itself if the start was immediate, and otherwise
when the controller asks for it. A number is given out once, so a directory that was removed does
not come back. The controller asks for the removal after it has asked for the status, but not for a
command that was over when it was started: the directory of such a command is never removed.
-/

namespace Palette.ProcessManager

open Palette.Cli Palette.Foundation Script

/-- The request starts a command. -/
def Request.isStart (xid : ℕ+) : Request → Bool
  | .start other _ _ => other = xid
  | _ => false

/-- The request that is served. -/
def Serving.request : Serving → Request
  | .starting xid cli immediate | .made xid cli immediate | .spawned xid cli immediate _
  | .numbered xid cli immediate => .start xid cli immediate
  | .waiting xid cli => .start xid cli true
  | .reading request _ | .clearing request _ | .removing request _ _ | .replying request _ => request

/-- The agent has not made the directory yet. -/
def Serving.isStarting : Serving → Bool
  | .starting .. => true
  | _ => false

/-- The agent removes a directory, or is about to. -/
def Serving.isRemoving : Serving → Bool
  | .clearing .. | .removing .. => true
  | _ => false

/-- The agent replies next. -/
def Serving.isReplying : Serving → Bool
  | .replying .. => true
  | _ => false

namespace Agent

/-- The directory of a command that was started is gone for good. -/
structure Removed (agent : Agent) (xid : ℕ+) : Prop where
  below : xid < agent.next
  gone : agent.directories xid = none
  unserved : ∀ serving ∈ agent.serving, serving.request.isStart xid = false

end Agent

/-- Every command is started once, and a reply after which the directory is gone is sent only then. -/
structure Once (agent : Agent) : Prop where
  served : ∀ serving ∈ agent.serving, ∀ xid, serving.request.isStart xid = true →
    xid < agent.next ∧ ∀ answer ∈ agent.answers, answer.1.isStart xid = false
  answered : ∀ answer ∈ agent.answers, ∀ xid, answer.1.isStart xid = true → xid < agent.next
  removing : ∀ serving ∈ agent.serving, serving.isRemoving = true → serving.request.removes = true
  removed : ∀ answer ∈ agent.answers, answer.1.removes = true → agent.Removed answer.1.xid
  replying : ∀ serving ∈ agent.serving, serving.isReplying = true → serving.request.removes = true →
    serving.request.xid < agent.next ∧ agent.directories serving.request.xid = none

/-! ## Operations of the agent -/

section Operations

variable {agent next : Agent} {serving : Serving}

/-- An operation for a request goes on with the same request. -/
structure Continues (agent next : Agent) (request : Request) (after : Serving) : Prop where
  serving : next.serving = some after
  answers : next.answers = agent.answers
  numbers : next.next = agent.next
  others : ∀ xid, xid ≠ request.xid → next.directories xid = agent.directories xid
  created : agent.directories request.xid = none → request.isStart request.xid = false →
    next.directories request.xid = none
  kept : request.removes = false → agent.directories request.xid ≠ none →
    next.directories request.xid ≠ none
  same : after.request = request
  removing : after.isRemoving = true → request.removes = true
  replying : after.isReplying = true → request.removes = true →
    next.directories request.xid = none ∧ agent.directories request.xid ≠ none

/-- An operation that touches no directory, removes nothing and does not reply. -/
theorem continues_aside {request : Request} {after : Serving} (serving : next.serving = some after)
    (answers : next.answers = agent.answers) (numbers : next.next = agent.next)
    (directories : next.directories = agent.directories) (same : after.request = request)
    (keeps : after.isRemoving = false) (quiet : after.isReplying = false) :
    Continues agent next request after where
  serving := serving
  answers := answers
  numbers := numbers
  others xid _ := by rw [directories]
  created gone _ := by rw [directories, gone]
  kept _ there := by rwa [directories]
  same := same
  removing removes := by
    rw [keeps] at removes
    cases removes
  replying replies := by
    rw [quiet] at replies
    cases replies

/-- An operation that puts something into the directory of the command. -/
theorem continues_store (request : Request) {directory : Option Directory} {after : Serving}
    (created : agent.directories request.xid = none → request.isStart request.xid = false →
      directory = none)
    (kept : request.removes = false → directory ≠ none)
    (same : after.request = request) (removing : after.isRemoving = true → request.removes = true)
    (quiet : after.isReplying = false) :
    Continues agent ((agent.store request.xid directory).proceed after) request after where
  serving := rfl
  answers := rfl
  numbers := rfl
  others xid different := agent.directory_store_of_ne directory different
  created gone other := (agent.directory_store_self request.xid directory).trans (created gone other)
  kept keeps _ := by
    rw [Agent.proceed, agent.directory_store_self request.xid directory]
    exact kept keeps
  same := same
  removing := removing
  replying replies := by
    rw [quiet] at replies
    cases replies

/-- What follows the collecting is for the same request, and removes nothing unless the request
does. -/
theorem continues_concluded (request : Request) (info : Info) :
    Continues agent (agent.proceed (concluded request info)) request (concluded request info) := by
  unfold concluded
  split
  · rename_i removes
    exact ⟨rfl, rfl, rfl, fun _ _ => rfl, fun gone _ => gone, fun _ there => there, rfl,
      fun _ => removes, fun impossible => by cases impossible⟩
  · rename_i keeps
    exact ⟨rfl, rfl, rfl, fun _ _ => rfl, fun gone _ => gone, fun _ there => there, rfl,
      fun impossible => (by cases impossible), fun _ removes => absurd removes keeps⟩

/-- Every operation of `getinfo` goes on with the same request. -/
theorem continues_reading {request : Request} {reading : Reading} {after : Serving}
    (read : reading.next request (agent.directories request.xid) = some after) :
    Continues agent (agent.proceed after) request after := by
  cases reading with
  | pid | returncode number =>
    cases read
    exact continues_aside rfl rfl rfl rfl rfl rfl rfl
  | isdone number =>
    obtain ⟨done, same⟩ | ⟨running, same⟩ := ite_eq_iff.mp read
    · cases same
      exact continues_aside rfl rfl rfl rfl rfl rfl rfl
    · cases same
      exact continues_concluded request _
  | stdout number exitStatus =>
    obtain ⟨out, printed, rfl⟩ := Option.map_eq_some_iff.mp read
    exact continues_aside rfl rfl rfl rfl rfl rfl rfl
  | stderr number exitStatus out =>
    obtain ⟨err, complained, rfl⟩ := Option.map_eq_some_iff.mp read
    exact continues_concluded request _

/-- The listing of a directory goes on with the same request. -/
theorem continues_list (request : Request) (info : Option Info) (names : List FileName)
    (removes : request.removes = true) :
    Continues agent (agent.proceed (.removing request info names)) request
      (.removing request info names) :=
  ⟨rfl, rfl, rfl, fun _ _ => rfl, fun gone _ => gone, fun _ there => there, rfl, fun _ => removes,
    fun impossible => by cases impossible⟩

/-- An operation of the agent that is not the reply goes on with the same request. -/
theorem serve_continues (served : agent.serve serving = some next)
    (removing : serving.isRemoving = true → serving.request.removes = true)
    (unreplied : serving.isReplying = false) :
    ∃ after, Continues agent next serving.request after ∧ (serving.isStarting = true →
      next.directories serving.request.xid ≠ none) := by
  cases serving with
  | starting xid cli immediate =>
    simp only [Agent.serve] at served
    split at served
    · cases served
      have made : (some Directory.empty : Option Directory) ≠ none := Option.some_ne_none _
      refine ⟨_, continues_store (.start xid cli immediate) (fun _ other => ?_) (fun _ => made) rfl
        (fun impossible => by cases impossible) rfl, fun _ => ?_⟩
      · simp [Request.isStart, Request.xid] at other
      · exact (agent.directory_store_self xid (some .empty)).trans_ne made
    · cases served
  | made xid cli immediate => cases served
  | spawned xid cli immediate pid =>
    obtain ⟨files, found, rfl⟩ := Option.map_eq_some_iff.mp served
    refine ⟨_, continues_store (.start xid cli immediate) (fun gone _ => ?_)
      (fun _ => Option.some_ne_none _) rfl (fun impossible => by cases impossible) rfl,
      fun impossible => by cases impossible⟩
    cases found.symm.trans gone
  | numbered xid cli immediate =>
    obtain ⟨files, found, rfl⟩ := Option.map_eq_some_iff.mp served
    refine ⟨_, continues_store (.start xid cli immediate) (fun gone _ => ?_)
      (fun _ => Option.some_ne_none _) ?_ ?_ ?_, fun impossible => by cases impossible⟩
    · cases found.symm.trans gone
    · cases immediate <;> rfl
    · cases immediate <;> exact fun impossible => by cases impossible
    · cases immediate <;> rfl
  | waiting xid cli =>
    simp only [Agent.serve] at served
    split at served
    · cases served
      exact ⟨_, continues_aside rfl rfl rfl rfl rfl rfl rfl, fun impossible => by cases impossible⟩
    · cases served
  | reading request reading =>
    obtain ⟨after, read, rfl⟩ := Option.map_eq_some_iff.mp served
    exact ⟨after, continues_reading read, fun impossible => by cases impossible⟩
  | clearing request info => cases served
  | removing request info rest =>
    have removes : request.removes = true := removing rfl
    have excluded : request.removes ≠ false := by
      rw [removes]
      decide
    cases rest with
    | nil =>
      obtain ⟨files, found, removed⟩ := Option.bind_eq_some_iff.mp served
      obtain ⟨-, same⟩ := Option.ite_none_right_eq_some.mp removed
      cases same
      have gone := agent.directory_store_self request.xid none
      refine ⟨_, ⟨rfl, rfl, rfl, fun other different => agent.directory_store_of_ne _ different,
        fun _ _ => gone, fun keeps _ => absurd keeps excluded, rfl, fun _ => removes,
        fun _ _ => ⟨gone, fun absent => ?_⟩⟩, fun impossible => by cases impossible⟩
      cases found.symm.trans absent
    | cons name rest =>
      obtain ⟨files, found, removed⟩ := Option.bind_eq_some_iff.mp served
      obtain ⟨text, there, rfl⟩ := Option.map_eq_some_iff.mp removed
      refine ⟨_, continues_store request (fun gone _ => ?_) (fun _ => Option.some_ne_none _) rfl
        (fun _ => removes) rfl, fun impossible => by cases impossible⟩
      cases found.symm.trans gone
  | replying request info => cases unreplied

end Operations

/-! ## Every command is started once -/

section Starts

variable {agent next : Agent}

/-- A directory that is gone stays away when the agent goes on with a request. -/
theorem Agent.Removed.continues {xid : ℕ+} (removed : agent.Removed xid) {serving after : Serving}
    (served : agent.serving = some serving)
    (continues : Continues agent next serving.request after) : next.Removed xid where
  below := by
    rw [continues.numbers]
    exact removed.below
  gone := by
    by_cases same : xid = serving.request.xid
    · subst same
      exact continues.created removed.gone (removed.unserved serving served)
    · rw [continues.others xid same]
      exact removed.gone
  unserved other found := by
    obtain rfl := Option.some.inj (continues.serving.symm.trans found)
    rw [continues.same]
    exact removed.unserved serving served

/-- Nothing is started twice when the agent goes on with a request. -/
theorem Once.continues (once : Once agent) (stored : Stored agent) {serving after : Serving}
    (served : agent.serving = some serving)
    (continues : Continues agent next serving.request after) : Once next where
  served other found xid starts := by
    obtain rfl := Option.some.inj (continues.serving.symm.trans found)
    rw [continues.same] at starts
    rw [continues.numbers, continues.answers]
    exact once.served serving served xid starts
  answered := by
    rw [continues.numbers, continues.answers]
    exact once.answered
  removing other found removes := by
    obtain rfl := Option.some.inj (continues.serving.symm.trans found)
    rw [continues.same]
    exact continues.removing removes
  removed answer member removes := by
    rw [continues.answers] at member
    exact (once.removed answer member removes).continues served continues
  replying other found replies removes := by
    obtain rfl := Option.some.inj (continues.serving.symm.trans found)
    rw [continues.same] at removes ⊢
    obtain ⟨gone, there⟩ := continues.replying replies removes
    refine ⟨?_, gone⟩
    rw [continues.numbers]
    obtain ⟨files, found⟩ := Option.ne_none_iff_exists'.mp there
    exact stored.below found

/-- Nothing is started twice when the agent takes on a request. -/
theorem Once.take (once : Once agent) {request : Request}
    (taken : agent.take request = some next) : Once next := by
  cases request with
  | start xid cli immediate =>
    obtain ⟨rfl, same⟩ := Option.ite_none_right_eq_some.mp taken
    cases same
    have later : agent.next < agent.next + 1 := PNat.lt_add_right agent.next 1
    constructor
    · intro serving found xid starts
      cases found
      have same : agent.next = xid := by simpa [Serving.request, Request.isStart] using starts
      subst same
      refine ⟨later, fun answer member => ?_⟩
      by_contra started
      exact lt_irrefl _ (once.answered answer member agent.next (eq_true_of_ne_false started))
    · exact fun answer member xid starts => (once.answered answer member xid starts).trans later
    · intro serving found removes
      cases found
      cases removes
    · intro answer member removes
      have removed := once.removed answer member removes
      refine ⟨removed.below.trans later, removed.gone, fun serving found => ?_⟩
      cases found
      simpa [Serving.request, Request.isStart] using removed.below.ne'
    · intro serving found replies
      cases found
      cases replies
  | status xid =>
    cases taken
    constructor
    · intro serving found other starts
      cases found
      cases starts
    · exact once.answered
    · intro serving found removes
      cases found
      cases removes
    · intro answer member removes
      have removed := once.removed answer member removes
      refine ⟨removed.below, removed.gone, fun serving found => ?_⟩
      cases found
      rfl
    · intro serving found replies
      cases found
      cases replies
  | cleanup xid =>
    cases taken
    constructor
    · intro serving found other starts
      cases found
      cases starts
    · exact once.answered
    · intro serving found removes
      cases found
      rfl
    · intro answer member removes
      have removed := once.removed answer member removes
      refine ⟨removed.below, removed.gone, fun serving found => ?_⟩
      cases found
      rfl
    · intro serving found replies
      cases found
      cases replies

/-- Nothing is started twice when the agent replies. -/
theorem Once.reply (once : Once agent) {request : Request} {info : Option Info}
    (serving : agent.serving = some (.replying request info)) :
    Once { agent with serving := none, answers := (request, info) :: agent.answers } := by
  constructor
  · intro serving found
    cases found
  · intro answer member xid starts
    rcases List.mem_cons.mp member with rfl | earlier
    · exact (once.served _ serving xid starts).1
    · exact once.answered answer earlier xid starts
  · intro serving found
    cases found
  · intro answer member removes
    rcases List.mem_cons.mp member with rfl | earlier
    · obtain ⟨below, gone⟩ := once.replying _ serving rfl removes
      exact ⟨below, gone, fun serving found => by cases found⟩
    · have removed := once.removed answer earlier removes
      exact ⟨removed.below, removed.gone, fun serving found => by cases found⟩
  · intro serving found
    cases found

/-- Nothing is started twice while `prun` goes on. -/
theorem Once.prun (once : Once agent) {xid : ℕ+} {move : Move}
    (moved : agent.prun xid move = some next) : Once next := by
  have gone {other : ℕ+} (gone : agent.directories other = none) :
      next.directories other = none := by
    by_cases same : other = xid
    · subst same
      obtain ⟨process, after, directory, started, stepped, rfl⟩ := prun_cases moved
      rw [gone] at stepped
      exact (agent.directory_store_self other directory).trans (Process.step_removed stepped)
    · rw [(prun_others moved same).2]
      exact gone
  have rest : next.serving = agent.serving ∧ next.answers = agent.answers ∧
      next.next = agent.next := by
    obtain ⟨process, after, directory, started, stepped, rfl⟩ := prun_cases moved
    exact ⟨rfl, rfl, rfl⟩
  obtain ⟨serving, answers, numbers⟩ := rest
  constructor
  · rw [serving, answers, numbers]
    exact once.served
  · rw [answers, numbers]
    exact once.answered
  · rw [serving]
    exact once.removing
  · intro answer member removes
    rw [answers] at member
    have removed := once.removed answer member removes
    refine ⟨?_, gone removed.gone, ?_⟩
    · rw [numbers]
      exact removed.below
    · rw [serving]
      exact removed.unserved
  · intro other found replies removes
    rw [serving] at found
    obtain ⟨below, removed⟩ := once.replying other found replies removes
    rw [numbers]
    exact ⟨below, gone removed⟩

/-- Every command is started once, and its directory is gone after a reply that says so. -/
theorem once_invariant : machine.Invariant fun agent => Sound agent ∧ Once agent := by
  refine sound_invariant.strengthen ?_ ?_
  · rintro agent ⟨directories, processes, serving, answers⟩
    constructor
    · intro found same
      rw [serving] at same
      cases same
    · intro answer member
      rw [answers] at member
      cases member
    · intro found same
      rw [serving] at same
      cases same
    · intro answer member
      rw [answers] at member
      cases member
    · intro found same
      rw [serving] at same
      cases same
  · intro agent event next sound once stepped
    cases event with
    | skip =>
      cases stepped
      have later : agent.next < agent.next + 1 := PNat.lt_add_right agent.next 1
      refine ⟨fun serving found xid starts => ?_, fun answer member xid starts => ?_,
        once.removing, fun answer member removes => ?_, fun serving found replies removes => ?_⟩
      · obtain ⟨below, others⟩ := once.served serving found xid starts
        exact ⟨below.trans later, others⟩
      · exact (once.answered answer member xid starts).trans later
      · have removed := once.removed answer member removes
        exact ⟨removed.below.trans later, removed.gone, removed.unserved⟩
      · obtain ⟨below, gone⟩ := once.replying serving found replies removes
        exact ⟨below.trans later, gone⟩
    | take request => exact once.take (Option.ite_none_right_eq_some.mp stepped).2
    | spawn pid =>
      have spawned : agent.spawn pid = some next := stepped
      unfold Agent.spawn at spawned
      split at spawned
      · rename_i xid cli immediate serving
        cases spawned
        exact once.continues sound.stored serving (continues_aside rfl rfl rfl rfl rfl rfl rfl)
      · cases spawned
    | list names =>
      have listed : agent.list names = some next := stepped
      unfold Agent.list at listed
      split at listed
      · rename_i request info serving
        obtain ⟨files, found, checked⟩ := Option.bind_eq_some_iff.mp listed
        obtain ⟨-, same⟩ := Option.ite_none_right_eq_some.mp checked
        cases same
        have removes := once.removing _ serving rfl
        exact once.continues sound.stored serving (continues_list request info names removes)
      · cases listed
    | serve =>
      obtain ⟨serving, found, served⟩ := Option.bind_eq_some_iff.mp stepped
      cases replies : serving.isReplying with
      | true =>
        cases serving with
        | replying request info =>
          cases served
          exact once.reply found
        | _ => cases replies
      | false =>
        obtain ⟨after, continues, -⟩ := serve_continues served (once.removing serving found) replies
        exact once.continues sound.stored found continues
    | raise =>
      obtain ⟨-, same⟩ := Option.ite_none_right_eq_some.mp stepped
      cases same
      refine ⟨fun serving found => (by cases found), once.answered,
        fun serving found => (by cases found), fun answer member removes => ?_,
        fun serving found => (by cases found)⟩
      have removed := once.removed answer member removes
      exact ⟨removed.below, removed.gone, fun serving found => by cases found⟩
    | prun xid move => exact once.prun stepped

/-- After a cleanup was answered, and after an immediate start was, the directory is gone for good. -/
theorem directory_removed (reachable : machine.Reachable agent) {request : Request}
    {info : Option Info} (answered : (request, info) ∈ agent.answers)
    (removes : request.removes = true) : agent.directories request.xid = none :=
  ((once_invariant.reachable reachable).2.removed _ answered removes).gone

end Starts

/-! ## A directory that stays -/

section Staying

variable {agent next : Agent} {xid : ℕ+}

/-- The controller asks for the removal of the directory of a command. -/
def Event.isCleanup (xid : ℕ+) : Event → Bool
  | .take (.cleanup other) => other = xid
  | _ => false

/-- The directory of a command whose start was not immediate is there, and nobody removes it. -/
structure Stays (xid : ℕ+) (agent : Agent) : Prop where
  uncleaned : ∀ serving ∈ agent.serving, serving.request ≠ .cleanup xid
  answered : ∀ answer ∈ agent.answers, ∀ cli, answer.1 = .start xid cli false →
    agent.directories xid ≠ none
  serving : ∀ serving ∈ agent.serving, ∀ cli, serving.request = .start xid cli false →
    serving.isStarting = false → agent.directories xid ≠ none

/-- Only a removal of the directory takes it away. -/
theorem Continues.stays {serving after : Serving} (served : agent.serving = some serving)
    (continues : Continues agent next serving.request after) (once : Once agent)
    (made : serving.isStarting = true → next.directories serving.request.xid ≠ none)
    (stays : Stays xid agent) : Stays xid next := by
  have kept : agent.directories xid ≠ none →
      (∀ cli, serving.request ≠ .start xid cli true) → next.directories xid ≠ none := by
    intro there other
    by_cases same : xid = serving.request.xid
    · have keeps : serving.request.removes = false := by
        cases found : serving.request with
        | start number cli immediate =>
          have same : xid = number := same.trans (congrArg Request.xid found)
          cases immediate with
          | true => exact absurd (same ▸ found) (other cli)
          | false => rfl
        | status number => rfl
        | cleanup number =>
          have same : xid = number := same.trans (congrArg Request.xid found)
          exact absurd (same ▸ found) (stays.uncleaned serving served)
      rw [same] at there ⊢
      exact continues.kept keeps there
    · rwa [continues.others xid same]
  constructor
  · intro other found
    obtain rfl := Option.some.inj (continues.serving.symm.trans found)
    rw [continues.same]
    exact stays.uncleaned serving served
  · intro answer member cli starts
    rw [continues.answers] at member
    refine kept (stays.answered answer member cli starts) fun cli' again => ?_
    have twice := (once.served serving served xid (by rw [again]; simp [Request.isStart])).2 answer member
    rw [starts] at twice
    simp [Request.isStart] at twice
  · intro other found cli starts _
    obtain rfl := Option.some.inj (continues.serving.symm.trans found)
    rw [continues.same] at starts
    cases starting : serving.isStarting with
    | true =>
      have there := made starting
      rwa [starts] at there
    | false =>
      refine kept (stays.serving serving served cli starts starting) fun cli' again => ?_
      cases starts.symm.trans again

/-- Steps other than a cleanup leave the directory. -/
theorem Stays.step (stays : Stays xid agent) (sound : Sound agent) (once : Once agent)
    {event : Event} (other : event.isCleanup xid = false) (stepped : agent.step event = some next) :
    Stays xid next := by
  cases event with
  | skip =>
    cases stepped
    exact ⟨stays.uncleaned, stays.answered, stays.serving⟩
  | take request =>
    have taken := (Option.ite_none_right_eq_some.mp stepped).2
    cases request with
    | start number cli immediate =>
      obtain ⟨rfl, same⟩ := Option.ite_none_right_eq_some.mp taken
      cases same
      refine ⟨fun serving found => ?_, stays.answered, fun serving found _ _ starting => ?_⟩
      · cases found
        exact fun impossible => by cases impossible
      · cases found
        cases starting
    | status number =>
      cases taken
      refine ⟨fun serving found => ?_, stays.answered, fun serving found cli starts => ?_⟩
      · cases found
        exact fun impossible => by cases impossible
      · cases found
        cases starts
    | cleanup number =>
      cases taken
      refine ⟨fun serving found => ?_, stays.answered, fun serving found cli starts => ?_⟩
      · cases found
        intro same
        have same : number = xid := Request.cleanup.inj same
        simp [Event.isCleanup, same] at other
      · cases found
        cases starts
  | spawn pid =>
    have spawned : agent.spawn pid = some next := stepped
    unfold Agent.spawn at spawned
    split at spawned
    · rename_i number cli immediate serving
      cases spawned
      have continues : Continues agent ((agent.put number .begun).proceed
          (.spawned number cli immediate pid)) (.start number cli immediate) _ :=
        continues_aside rfl rfl rfl rfl rfl rfl rfl
      exact continues.stays serving once (fun impossible => by cases impossible) stays
    · cases spawned
  | list names =>
    have listed : agent.list names = some next := stepped
    unfold Agent.list at listed
    split at listed
    · rename_i request info serving
      obtain ⟨files, found, checked⟩ := Option.bind_eq_some_iff.mp listed
      obtain ⟨-, same⟩ := Option.ite_none_right_eq_some.mp checked
      cases same
      have removes := once.removing _ serving rfl
      exact (continues_list request info names removes).stays serving once
        (fun impossible => by cases impossible) stays
    · cases listed
  | serve =>
    obtain ⟨serving, found, served⟩ := Option.bind_eq_some_iff.mp stepped
    cases replies : serving.isReplying with
    | true =>
      cases serving with
      | replying request info =>
        cases served
        refine ⟨fun serving none => (by cases none), fun answer member cli starts => ?_,
          fun serving none => (by cases none)⟩
        rcases List.mem_cons.mp member with rfl | earlier
        · exact stays.serving _ found cli starts rfl
        · exact stays.answered answer earlier cli starts
      | _ => cases replies
    | false =>
      obtain ⟨after, continues, made⟩ := serve_continues served (once.removing serving found) replies
      exact continues.stays found once made stays
  | raise =>
    obtain ⟨-, same⟩ := Option.ite_none_right_eq_some.mp stepped
    cases same
    exact ⟨fun serving none => (by cases none), stays.answered, fun serving none => (by cases none)⟩
  | prun number move =>
    have kept : agent.directories xid ≠ none → next.directories xid ≠ none := by
      intro there
      by_cases same : xid = number
      · subst same
        obtain ⟨process, after, directory, started, moved, rfl⟩ := prun_cases stepped
        obtain ⟨files, found⟩ := Option.ne_none_iff_exists'.mp there
        rw [found] at moved
        obtain ⟨files', rfl, -⟩ :=
          (sound.stored.records xid process files started found).step moved
        exact (agent.directory_store_self xid (some files')).trans_ne (Option.some_ne_none _)
      · rwa [(prun_others stepped same).2]
    have rest : next.serving = agent.serving ∧ next.answers = agent.answers := by
      obtain ⟨process, after, directory, started, moved, rfl⟩ := prun_cases stepped
      exact ⟨rfl, rfl⟩
    obtain ⟨serving, answers⟩ := rest
    refine ⟨?_, fun answer member cli starts => ?_, fun other found cli starts started => ?_⟩
    · rw [serving]
      exact stays.uncleaned
    · rw [answers] at member
      exact kept (stays.answered answer member cli starts)
    · rw [serving] at found
      exact kept (stays.serving other found cli starts started)

/-- As long as the controller does not ask for its removal, the directory of a command whose start
was not immediate and was answered is there. -/
theorem directory_stays {start : Agent} {schedule : List Event} (initial : machine.initial start)
    (reached : machine.run start schedule = some agent)
    (uncleaned : ∀ event ∈ schedule, event.isCleanup xid = false) {cli : Telnet.Text}
    {info : Option Info} (answered : (.start xid cli false, info) ∈ agent.answers) :
    agent.directories xid ≠ none := by
  have whole : ∀ (events : List Event) (from_ : Agent), Sound from_ ∧ Once from_ → Stays xid from_ →
      machine.run from_ events = some agent → (∀ event ∈ events, event.isCleanup xid = false) →
      Stays xid agent := by
    intro events
    induction events with
    | nil =>
      intro from_ _ stays reached _
      exact Option.some.inj reached ▸ stays
    | cons event rest inductionHypothesis =>
      intro from_ good stays reached others
      obtain ⟨middle, stepped, continued⟩ := (Machine.run_cons_eq_some _ _ _ _).mp reached
      refine inductionHypothesis middle (once_invariant.preserved from_ event middle good stepped)
        (stays.step good.1 good.2 (others event List.mem_cons_self) stepped) continued ?_
      exact fun event member => others event (List.mem_cons_of_mem _ member)
  have empty : Stays xid start := by
    obtain ⟨directories, processes, serving, answers⟩ := initial
    refine ⟨fun other found => ?_, fun answer member => ?_, fun other found => ?_⟩
    · rw [serving] at found
      cases found
    · rw [answers] at member
      cases member
    · rw [serving] at found
      cases found
  have stays := whole schedule start (once_invariant.starts start initial) empty reached uncleaned
  exact stays.answered _ answered cli rfl

end Staying

/-! ## End to end -/

section Commands

variable {dialogue : Dialogue} {wire : Wire} {value : Json}

/-- A command that returns without an error after the waiting has had an answer to its cleanup. -/
theorem ends_finishCli_cleaned {cliBody : Dict} :
    Ends (finishCli dialogue value cliBody) wire
      (fun body _ => body.has "error" = false → dialogue.cleanup.ok ≠ none) fun _ _ => True := by
  by_cases lacking : cliBody.has "stdout" = false ∧ cliBody.has "error" = false
  · rw [ends_finishCli_lacking lacking]
    trivial
  · rw [ends_finishCli lacking, ends_sendCleanup]
    cases cleanupRequest dialogue.table value with
    | error failure => trivial
    | ok entry =>
      cases answered : dialogue.cleanup.ok with
      | some text =>
        dsimp only
        have there : some text ≠ none := Option.some_ne_none text
        split
        · split
          · exact fun _ => there
          · trivial
        · trivial
      | none =>
        dsimp only
        split
        · trivial
        · split
          · rename_i found
            intro fine
            unfold chosen at found
            split at found
            · rename_i failed
              rw [← Except.ok.inj found, failed] at fine
              cases fine
            · rw [← Except.ok.inj found, if_pos (has_error_refusal ..), has_error_refusal] at fine
              cases fine
          · trivial

end Commands

end Palette.ProcessManager
