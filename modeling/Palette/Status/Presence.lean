import Palette.Status.Control

/-!
# The main state and the registered primary

Without a registered primary the main state is to be disconnected, and after a primary
has registered it is to stay pending until a status report is applied. Both hold between
the sections of the agent manager, in the runs in which no section writes the state
between another writer's reading of the state and its write.

A command goes on only from a state that is neither disconnected nor pending, and a
report is applied only to a state with a row in the table of transitions. So a writer
whose reading is still current has read it beside a registered primary, and a command's
reading was not the pending one. That is the invariant.
-/

namespace Palette.Status

open Palette.Foundation

universe u v

variable {Conn : Type u} {Cmd : Type v}

/-- A section of the agent manager writes the main state. -/
def Happening.ManagerWrite : Happening Conn Cmd → Prop
  | .pended | .disconnected => True
  | _ => False

instance (happening : Happening Conn Cmd) : Decidable happening.ManagerWrite :=
  match happening with
  | .pended | .disconnected => isTrue trivial
  | .started .. | .finished _ | .read _ | .queried _ | .decided _ | .applied _ => isFalse id

/-- A primary registers or is removed, or a report is applied. -/
def Happening.Settles : Happening Conn Cmd → Prop
  | .pended | .disconnected | .applied _ => True
  | _ => False

instance (happening : Happening Conn Cmd) : Decidable happening.Settles :=
  match happening with
  | .pended | .disconnected | .applied _ => isTrue trivial
  | .started .. | .finished _ | .read _ | .queried _ | .decided _ => isFalse id

variable [DecidableEq Conn] [DecidableEq Cmd]

/-- A primary has registered, and since then none has registered or been removed and no
report has been applied. -/
def Awaiting (history : List (Happening Conn Cmd)) : Prop :=
  history.find? (fun happening => happening.Settles) = some .pended

/-- No section of the manager has written the main state since a mark. -/
def Current (mark : Happening Conn Cmd) (history : List (Happening Conn Cmd)) : Prop :=
  ∀ happening ∈ since mark history, ¬ happening.ManagerWrite

instance (mark : Happening Conn Cmd) (history : List (Happening Conn Cmd)) :
    Decidable (Current mark history) :=
  inferInstanceAs (Decidable (∀ happening ∈ since mark history, _))

/-- The previous state that a check has decided on. -/
def Check.prevState : Check Conn → Option MainState
  | .decided _ _ prevState => some prevState
  | _ => none

/-- The main state is written by a command, or by a report that finds a row, only when no
section of the manager has written it since the writer read it. -/
def Unsplit (control : Control Conn Cmd) : Turn Conn Cmd → Prop
  | .write cmd _ => Current (.read cmd) control.history
  | .apply worker _ =>
      ∀ prevState ∈ (control.workers worker).check.prevState,
        (transitions prevState).isSome → Current (.decided worker) control.history
  | _ => True

instance (control : Control Conn Cmd) (turn : Turn Conn Cmd) :
    Decidable (Unsplit control turn) :=
  match turn with
  | .write cmd _ => inferInstanceAs (Decidable (Current (.read cmd) control.history))
  | .apply worker _ =>
    inferInstanceAs (Decidable (∀ prevState ∈ (control.workers worker).check.prevState,
      (transitions prevState).isSome → Current (.decided worker) control.history))
  | .insertPrimary _ | .writePending | .deletePrimary _ | .writeDisconnected | .begin .. | .read _
  | .finish _ | .probe _ | .ask _ | .giveUp _ | .attempt .. | .decide _ | .release _ =>
    isTrue trivial

omit [DecidableEq Conn] [DecidableEq Cmd] in
/-- Something that does not settle leaves a primary waiting as before. -/
theorem awaiting_cons {happening : Happening Conn Cmd} (past : List (Happening Conn Cmd))
    (loose : ¬ happening.Settles) : Awaiting (happening :: past) ↔ Awaiting past := by
  simp [Awaiting, loose]

omit [DecidableEq Conn] [DecidableEq Cmd] in
/-- Something else that settles ends the waiting. -/
theorem not_awaiting_cons {happening : Happening Conn Cmd} (past : List (Happening Conn Cmd))
    (settles : happening.Settles) (other : happening ≠ .pended) :
    ¬ Awaiting (happening :: past) := by
  simp [Awaiting, settles, other]

/-- A reading that is current after one more entry was current before it. -/
theorem current_of_cons (mark happening : Happening Conn Cmd) {past : List (Happening Conn Cmd)}
    (apart : happening ≠ mark) (current : Current mark (happening :: past)) :
    ¬ happening.ManagerWrite ∧ Current mark past := by
  rw [Current, since_cons_of_ne past apart] at current
  exact ⟨current happening List.mem_cons_self,
    fun other member => current other (List.mem_cons_of_mem _ member)⟩

/-- What unsplit runs keep. -/
structure Present (control : Control Conn Cmd) : Prop where
  absent : control.inSection = none → control.primaries = [] →
    control.board.mainState = .disconnected
  waits : control.inSection = none → Awaiting control.history →
    control.board.mainState = .pending
  registering : control.inSection = some .registering → control.primaries ≠ []
  reading : ∀ cmd prevState, (control.workers (.command cmd)).reading = some prevState →
    Accepted prevState → Current (.read cmd) control.history → control.inSection = none →
      control.primaries ≠ [] ∧ ¬ Awaiting control.history
  deciding : ∀ worker conn status prevState,
    (control.workers worker).check = .decided conn status prevState →
    (transitions prevState).isSome → Current (.decided worker) control.history →
    control.inSection = none → control.primaries ≠ []

namespace Present

variable {control next : Control Conn Cmd}

/-- An accepted state is read beside a primary that does not wait for its first report. -/
theorem of_accepted (present : Present control) (accepted : Accepted control.board.mainState)
    (idle : control.inSection = none) :
    control.primaries ≠ [] ∧ ¬ Awaiting control.history := by
  constructor
  · intro empty
    rw [present.absent idle empty] at accepted
    exact absurd accepted (by decide)
  · intro awaits
    rw [present.waits idle awaits] at accepted
    exact absurd accepted (by decide)

/-- A state with a row is read beside a primary. -/
theorem of_row (present : Present control)
    (row : (transitions control.board.mainState).isSome) (idle : control.inSection = none) :
    control.primaries ≠ [] := by
  intro empty
  rw [present.absent idle empty] at row
  exact absurd row (by decide)

/-- A turn that moves workers and may record something that settles nothing. New readings
are readings of the present state. -/
theorem moved (present : Present control) (recorded : List (Happening Conn Cmd))
    (board : next.board = control.board) (primaries : next.primaries = control.primaries)
    (inSection : next.inSection = control.inSection)
    (history : next.history = recorded ++ control.history)
    (loose : ∀ happening ∈ recorded, ¬ happening.Settles)
    (readings : ∀ cmd prevState, (next.workers (.command cmd)).reading = some prevState →
      prevState = control.board.mainState ∨
        ((control.workers (.command cmd)).reading = some prevState ∧ .read cmd ∉ recorded))
    (decisions : ∀ worker conn status prevState,
      (next.workers worker).check = .decided conn status prevState →
        prevState = control.board.mainState ∨
          ((control.workers worker).check = .decided conn status prevState ∧
            .decided worker ∉ recorded)) : Present next := by
  have awaiting : Awaiting next.history ↔ Awaiting control.history := by
    rw [history]
    clear history readings decisions
    induction recorded with
    | nil => rfl
    | cons happening rest inductionHypothesis =>
      rw [List.cons_append, awaiting_cons _ (loose happening List.mem_cons_self)]
      exact inductionHypothesis fun other member => loose other (List.mem_cons_of_mem _ member)
  have current : ∀ mark, mark ∉ recorded → Current mark next.history →
      Current mark control.history := by
    intro mark
    rw [history]
    clear history readings decisions loose
    induction recorded with
    | nil => exact fun _ holds => holds
    | cons happening rest inductionHypothesis =>
      intro absent holds
      have apart : happening ≠ mark := fun same => absent (same ▸ List.mem_cons_self)
      have elsewhere : mark ∉ rest := fun member => absent (List.mem_cons_of_mem _ member)
      exact inductionHypothesis elsewhere (current_of_cons mark happening apart holds).2
  constructor
  · rw [board, primaries, inSection]
    exact present.absent
  · rw [board, inSection, awaiting]
    exact present.waits
  · rw [primaries, inSection]
    exact present.registering
  · intro cmd prevState reads accepted fresh
    rw [primaries, inSection, awaiting]
    rcases readings cmd prevState reads with rfl | ⟨before, older⟩
    · exact present.of_accepted accepted
    · exact present.reading cmd prevState before accepted (current _ older fresh)
  · intro worker conn status prevState decides row fresh
    rw [primaries, inSection]
    rcases decisions worker conn status prevState decides with rfl | ⟨before, older⟩
    · exact present.of_row row
    · exact present.deciding worker conn status prevState before row (current _ older fresh)

/-- A manager's write of the state makes every reading out of date. -/
theorem outdated (mark happening : Happening Conn Cmd) {past : List (Happening Conn Cmd)}
    (writes : happening.ManagerWrite) (apart : happening ≠ mark)
    (current : Current mark (happening :: past)) : False :=
  (current_of_cons mark happening apart current).1 writes

omit [DecidableEq Conn] in
/-- Moving one worker that forgets its reading or keeps it. -/
theorem reading_update (workers : Worker Cmd → Local Conn) (worker : Worker Cmd)
    (changed : Local Conn) (same : ∀ prevState, changed.reading = some prevState →
      (workers worker).reading = some prevState) (cmd : Cmd) (prevState : MainState)
    (reads : (Function.update workers worker changed (.command cmd)).reading = some prevState) :
    (workers (.command cmd)).reading = some prevState := by
  by_cases equal : Worker.command cmd = worker
  · subst equal
    rw [Function.update_self] at reads
    exact same prevState reads
  · rwa [Function.update_of_ne equal] at reads

omit [DecidableEq Conn] in
/-- Moving one worker to a check that has decided nothing. -/
theorem decision_update (workers : Worker Cmd → Local Conn) (worker : Worker Cmd)
    (changed : Local Conn)
    (undecided : ∀ conn status prevState, changed.check ≠ .decided conn status prevState)
    (other : Worker Cmd) (conn : Conn) (status : TableauStatus) (prevState : MainState)
    (decides : (Function.update workers worker changed other).check =
      .decided conn status prevState) :
    (workers other).check = .decided conn status prevState := by
  by_cases equal : other = worker
  · subst equal
    rw [Function.update_self] at decides
    exact absurd decides (undecided conn status prevState)
  · rwa [Function.update_of_ne equal] at decides

/-- A turn that moves one worker, without a new reading and without a decision. -/
theorem worked (present : Present control) (recorded : List (Happening Conn Cmd))
    (worker : Worker Cmd) (changed : Local Conn) (board : next.board = control.board)
    (primaries : next.primaries = control.primaries)
    (inSection : next.inSection = control.inSection)
    (history : next.history = recorded ++ control.history)
    (workers : next.workers = Function.update control.workers worker changed)
    (loose : ∀ happening ∈ recorded, ¬ happening.Settles ∧ (∀ cmd, happening ≠ .read cmd) ∧
      ∀ other, happening ≠ .decided other)
    (readings : ∀ prevState, changed.reading = some prevState →
      (control.workers worker).reading = some prevState)
    (undecided : ∀ conn status prevState, changed.check ≠ .decided conn status prevState) :
    Present next := by
  apply present.moved recorded board primaries inSection history fun happening member =>
    (loose happening member).1
  · intro cmd prevState reads
    rw [workers] at reads
    exact Or.inr ⟨reading_update _ _ _ readings cmd prevState reads,
      fun member => (loose _ member).2.1 cmd rfl⟩
  · intro other conn status prevState decides
    rw [workers] at decides
    exact Or.inr ⟨decision_update _ _ _ undecided other conn status prevState decides,
      fun member => (loose _ member).2.2 other rfl⟩

/-- Every unsplit turn keeps the main state in agreement with the registered primaries. -/
theorem step (present : Present control) (turn : Turn Conn Cmd) (unsplit : Unsplit control turn)
    (change : Change control turn next) : Present next := by
  cases change with
  | primaryInserted conn idle fresh =>
    constructor
    · rintro ⟨⟩
    · rintro ⟨⟩
    · exact fun _ => List.cons_ne_nil conn control.primaries
    · rintro cmd prevState _ _ _ ⟨⟩
    · rintro worker there status prevState _ _ _ ⟨⟩
  | primaryDeleted conn idle registered =>
    constructor
    · rintro ⟨⟩
    · rintro ⟨⟩
    · rintro ⟨⟩
    · rintro cmd prevState _ _ _ ⟨⟩
    · rintro worker there status prevState _ _ _ ⟨⟩
  | pendingWritten registering =>
    constructor
    · exact fun _ empty => absurd empty (present.registering registering)
    · exact fun _ _ => rfl
    · rintro ⟨⟩
    · exact fun cmd _ _ _ fresh => (outdated (.read cmd) .pended trivial nofun fresh).elim
    · exact fun worker _ _ _ _ _ fresh =>
        (outdated (.decided worker) .pended trivial nofun fresh).elim
  | disconnectedWritten removing =>
    constructor
    · exact fun _ _ => rfl
    · exact fun _ awaits => absurd awaits (not_awaiting_cons _ trivial nofun)
    · rintro ⟨⟩
    · exact fun cmd _ _ _ fresh => (outdated (.read cmd) .disconnected trivial nofun fresh).elim
    · exact fun worker _ _ _ _ _ fresh =>
        (outdated (.decided worker) .disconnected trivial nofun fresh).elim
  | begun cmd conn idle free =>
    refine present.worked [.started cmd conn] (.command cmd) ⟨some conn, none, .rest⟩
      rfl rfl rfl rfl rfl ?_ ?_ ?_ <;> simp [Happening.Settles]
  | stateRead cmd conn reading place =>
    refine present.moved [.read cmd] rfl rfl rfl rfl ?_ ?_ ?_
    · simp [Happening.Settles]
    · intro other prevState reads
      by_cases same : other = cmd
      · left
        simpa [same, eq_comm] using reads
      · right
        simpa [same] using reads
    · intro worker there status prevState decides
      exact Or.inr ⟨decision_update _ _ _ (by simp) worker there status prevState decides, by simp⟩
  | stateWritten cmd conn prevState state place accepted =>
    have beside := present.reading cmd prevState (by rw [place]) accepted unsplit
    constructor
    · exact fun idle empty => absurd empty (beside idle).1
    · exact fun idle awaits => absurd awaits (beside idle).2
    · exact present.registering
    · exact present.reading
    · exact present.deciding
  | finished cmd conn reading place =>
    refine present.worked [.finished cmd] (.command cmd) ⟨none, none, .rest⟩
      rfl rfl rfl rfl rfl ?_ ?_ ?_ <;> simp [Happening.Settles]
  | probed conn rests registered free =>
    refine present.worked [] .monitor { control.workers .monitor with check := .probed conn }
      rfl rfl rfl rfl rfl ?_ ?_ ?_ <;> simp [Happening.Settles]
  | monitorAsked conn place =>
    refine present.worked [.queried .monitor] .monitor
      { control.workers .monitor with check := .asked conn }
      rfl rfl rfl rfl rfl ?_ ?_ ?_ <;> simp [Happening.Settles]
  | commandAsked cmd conn reading place =>
    refine present.worked [.queried (.command cmd)] (.command cmd)
      { control.workers (.command cmd) with check := .asked conn }
      rfl rfl rfl rfl rfl ?_ ?_ ?_ <;> simp [Happening.Settles]
  | gaveUp worker conn place | refused worker _ conn place _ =>
    refine present.worked [] worker { control.workers worker with check := .rest }
      rfl rfl rfl rfl rfl ?_ ?_ ?_ <;> simp [Happening.Settles]
  | acquired worker status conn owned place taken =>
    refine present.worked [] worker { control.workers worker with check := .locked conn status }
      rfl rfl rfl rfl rfl ?_ ?_ ?_ <;> simp [Happening.Settles]
  | decided worker conn status place =>
    refine present.moved [.decided worker] rfl rfl rfl rfl ?_ ?_ ?_
    · simp [Happening.Settles]
    · intro other prevState reads
      exact Or.inr ⟨reading_update _ _ _ (by simp) other prevState reads, by simp⟩
    · intro other there reported prevState decides
      by_cases same : other = worker
      · left
        simp only [Control.note, Control.check, Control.work, same, Function.update_self,
          Check.decided.injEq] at decides
        exact decides.2.2.symm
      · right
        simpa [same] using decides
  | applied worker setting conn status prevState place =>
    have beside : (transitions prevState).isSome → control.inSection = none →
        control.primaries ≠ [] := by
      intro row
      apply present.deciding worker conn status prevState place row
      exact unsplit prevState (by rw [place]; rfl) row
    constructor
    · intro idle empty
      have noRow : transitions prevState = none := by
        by_contra row
        exact beside (Option.isSome_iff_ne_none.mpr row) idle empty
      simp only [Control.note, Control.check, Control.work,
        setMainState_of_no_row _ _ _ _ noRow]
      exact present.absent idle empty
    · exact fun _ awaits => absurd awaits (not_awaiting_cons _ trivial nofun)
    · exact present.registering
    · intro cmd prior reads accepted fresh idle
      have before := reading_update control.workers _ _ (by simp) cmd prior reads
      have current := (current_of_cons (.read cmd) (.applied worker) nofun fresh).2
      exact ⟨(present.reading cmd prior before accepted current idle).1,
        not_awaiting_cons _ trivial nofun⟩
    · intro other there reported prior decides row fresh idle
      have before := decision_update control.workers _ _ (by simp) other there reported prior decides
      have current := (current_of_cons (.decided other) (.applied worker) nofun fresh).2
      exact present.deciding other there reported prior before row current idle
  | releasedAgain worker conn place =>
    refine present.worked [] worker { control.workers worker with check := .rest }
      rfl rfl rfl rfl rfl ?_ ?_ ?_ <;> simp [Happening.Settles]
end Present

/-! ## Unsplit runs -/

/-- The unsplit runs. -/
def unsplitMachine : Machine (Control Conn Cmd) (Turn Conn Cmd) :=
  mainStateMachine.restrict Unsplit

/-- The agreement is an invariant of the unsplit runs. -/
theorem present_invariant :
    (unsplitMachine : Machine (Control Conn Cmd) (Turn Conn Cmd)).Invariant Present where
  starts := by
    rintro control rfl
    constructor <;> simp [Control.init, Awaiting]
  preserved control turn next present stepped := by
    obtain ⟨unsplit, accepted⟩ := Machine.restrict_step_eq_some.mp stepped
    exact present.step turn unsplit (step_change control next turn accepted)

/-- In an unsplit run, between the sections of the manager, the main state is
disconnected when no primary is registered, and pending from the registration of a
primary until a report is applied or a primary comes or goes. -/
theorem main_state_tracks_primary (control : Control Conn Cmd)
    (reachable : unsplitMachine.Reachable control) (between : control.inSection = none) :
    (control.primaries = [] → control.board.mainState = .disconnected) ∧
      (Awaiting control.history → control.board.mainState = .pending) := by
  have present : Present control := present_invariant.reachable reachable
  exact ⟨present.absent between, present.waits between⟩

/-- The controller after a primary has connected. -/
def connected : Control Nat Unit :=
  (mainStateMachine.run .init [.insertPrimary 1, .writePending]).getD .init

/-- The connected primary waits for its first report. -/
theorem main_state_tracks_primary_connected : connected.board.mainState = .pending :=
  (main_state_tracks_primary connected ⟨.init, [.insertPrimary 1, .writePending], rfl, rfl⟩ rfl).2
    rfl

/-- A user backs the primary up, and the primary is removed before the command writes the
state back that it has saved. -/
def backupDuringRemoval : List (Turn Nat Unit) :=
  [.begin () 1, .read (), .write () .startedBackup, .deletePrimary 1, .writeDisconnected,
    .write () .started, .finish ()]

/-- The backup leaves the main state started without a registered primary. -/
theorem backup_outlives_primary :
    ∃ control : Control Nat Unit, mainStateMachine.Reachable control ∧
      control.inSection = none ∧ (∀ cmd, (control.workers (.command cmd)).holding = none) ∧
      control.primaries = [] ∧ control.board.mainState = .started :=
  ⟨(mainStateMachine.run .init (firstReport ++ backupDuringRemoval)).getD .init,
    ⟨.init, firstReport ++ backupDuringRemoval, rfl, rfl⟩, rfl, fun _ => rfl, rfl, rfl⟩

end Palette.Status
