import Palette.Foundation.Transition
import Palette.Web.Statements

/-!
# The tokens against forged requests

A request that changes something must show a valid token, and each response replaces
the token of its request by a new one. The check is one call of the storage, the
replacement another, when the application starts the response. Between them any other
request may come, and a response need not be started at all.

The law is that a token is accepted at most once, and never after it was replaced. It
holds in the runs where a request that shows a token finds no other request that was
accepted with it and has not started its response.
-/

namespace Palette.Web

open Foundation Foundation.SqlText Palette.Telnet

/-- Tokens are compared by their characters. -/
local instance lawfulToken : LawfulBEq (List Char) := inferInstance

/-! ## The storages -/

/-- The valid tokens. -/
abbrev Tokens := Text → Bool

/-- What a statement does to the table of the tokens if it is read as meant, and the
number that it gives. A token has at most 64 characters. -/
def Statement.tokenEffect (tokens : Tokens) : Statement → Except DatabaseError (Tokens × Nat)
  | insertToken token _ =>
    if 64 < token.length then .error .valueTooLong
    else if tokens token then .error .uniqueViolation
    else .ok (Function.update tokens token true, 0)
  | deleteToken token => .ok (Function.update tokens token false, 0)
  | countToken token => .ok (tokens, if tokens token then 1 else 0)
  | deleteUser _ | updateUser _ _ | insertUser _ | selectUser _ => .ok (tokens, 0)

/-- `InMemoryCsrfStorage` and `SqlCsrfStorage`, with what the database does for a text
that is not read as meant. -/
inductive TokenStore
  | inMemory
  | sql (injected : Option Text → Tokens → Except DatabaseError (Tokens × Nat))

namespace TokenStore

/-- Run a statement on the table of the tokens. -/
def runSql (injected : Option Text → Tokens → Except DatabaseError (Tokens × Nat))
    (statement : Statement) (tokens : Tokens) : Except DatabaseError (Tokens × Nat) :=
  statement.execute (Statement.tokenEffect tokens) (injected · tokens)

/-- `validate_token`: the token stays as it is. -/
def validateToken (token : Text) (tokens : Tokens) : TokenStore → Except DatabaseError Bool
  | inMemory => .ok (tokens token)
  | sql injected => (runSql injected (.countToken token) tokens).map fun counted => 0 < counted.2

/-- `create_token`: the old token goes, the new one comes. A statement that fails leaves
what the ones before it did. -/
def createToken (oldToken : Option Text) (token : Text) (currentTime : Datetime)
    (tokens : Tokens) : TokenStore → Tokens × Option DatabaseError
  | inMemory =>
    let kept := match oldToken with
      | none => tokens
      | some old => if tokens old then Function.update tokens old false else tokens
    (Function.update kept token true, none)
  | sql injected =>
    let deleted : Except DatabaseError (Tokens × Nat) := match oldToken with
      | none => .ok (tokens, 0)
      | some old => runSql injected (.deleteToken old) tokens
    match deleted with
    | .error error => (tokens, some error)
    | .ok (kept, _) =>
      match runSql injected (.insertToken token currentTime) kept with
      | .error error => (kept, some error)
      | .ok (created, _) => (created, none)

/-- The tokens that a storage takes as they are. -/
def Plain (token : Text) : TokenStore → Prop
  | inMemory => True
  | sql _ => '\'' ∉ token

end TokenStore

/-- The texts that `uuid1` gives. -/
def isUuid (text : Text) : Bool :=
  text.length = 36 && text.all fun char => char.isDigit || char.isLower || char = '-'

/-- A generated token has no quotes. -/
theorem unquoted_of_isUuid {token : Text} (uuid : isUuid token = true) : '\'' ∉ token := by
  intro member
  rw [isUuid, Bool.and_eq_true, List.all_eq_true] at uuid
  exact absurd (uuid.2 _ member) (by decide)

/-- A generated token has a place in the table. -/
theorem short_of_isUuid {token : Text} (uuid : isUuid token = true) : ¬64 < token.length := by
  rw [isUuid, Bool.and_eq_true, decide_eq_true_eq] at uuid
  omega

namespace TokenStore

variable {store : TokenStore} {tokens : Tokens} {token : Text}

/-- Both storages tell whether the token is valid. -/
theorem validateToken_eq (plain : store.Plain token) :
    store.validateToken token tokens = .ok (tokens token) := by
  cases store with
  | inMemory => rfl
  | sql injected =>
    rw [validateToken, runSql, Statement.execute_eq (by exact plain)]
    cases valid : tokens token <;> simp [Statement.tokenEffect, valid, Except.map]

/-- The valid tokens without the old one. -/
def without (tokens : Tokens) : Option Text → Tokens
  | none => tokens
  | some old => Function.update tokens old false

theorem without_eq_true {oldToken : Option Text} :
    without tokens oldToken token = true ↔ tokens token = true ∧ oldToken ≠ some token := by
  cases oldToken with
  | none => simp [without]
  | some old =>
    by_cases same : token = old
    · simp [without, same]
    · simp [without, Function.update_of_ne same, Ne.symm same]

/-- Both storages exchange the old token for a new one. -/
theorem createToken_eq {oldToken : Option Text} {currentTime : Datetime}
    (plain : ∀ old, oldToken = some old → store.Plain old) (uuid : isUuid token = true)
    (fresh : tokens token = false) :
    store.createToken oldToken token currentTime tokens =
      (Function.update (without tokens oldToken) token true, none) := by
  cases store with
  | inMemory =>
    cases oldToken with
    | none => rfl
    | some old =>
      unfold createToken
      dsimp only
      cases valid : tokens old with
      | true => rw [if_pos rfl, without]
      | false =>
        have same : without tokens (some old) = tokens := by
          rw [without, ← valid, Function.update_eq_self]
        rw [if_neg Bool.false_ne_true, same]
  | sql injected =>
    have absent : without tokens oldToken token = false := by
      rw [← Bool.not_eq_true, without_eq_true, fresh]
      exact fun both => absurd both.1 Bool.false_ne_true
    have inserted : ∀ kept : Tokens, kept token = false →
        runSql injected (.insertToken token currentTime) kept =
          .ok (Function.update kept token true, 0) := fun kept free => by
      rw [runSql, Statement.execute_eq (by exact unquoted_of_isUuid uuid), Statement.tokenEffect,
        if_neg (short_of_isUuid uuid), free, if_neg Bool.false_ne_true]
    -- The statements are not to be read again where their outcomes are known.
    rw [createToken.eq_def]
    cases oldToken with
    | none =>
      generalize runSql = run at inserted ⊢
      dsimp only
      rw [inserted tokens fresh]
      rfl
    | some old =>
      have deleted : runSql injected (.deleteToken old) tokens =
          .ok (without tokens (some old), 0) := by
        rw [runSql, Statement.execute_eq (by exact plain old rfl)]
        rfl
      generalize runSql = run at inserted deleted ⊢
      dsimp only
      rw [deleted]
      dsimp only
      rw [inserted _ absent]

end TokenStore

/-! ## The requests -/

/-- How far a request is; whether its token was checked. -/
inductive Stage
  | waiting
  | running (cookie : Option Text) (checked : Bool)
  | answered (cookie : Option Text)
  | died (cookie : Option Text) (checked : Bool)
  | refused
  | failed (error : DatabaseError)

/-- The cookie of a request that may start its response. -/
def Stage.cookie : Stage → Option (Option Text)
  | running cookie _ | answered cookie => some cookie
  | waiting | died _ _ | refused | failed _ => none

/-- What happened to a token. -/
inductive TokenEvent
  | issued (token : Text)
  | replaced (token : Text)
  | accepted (token : Text)
  deriving DecidableEq

/-- The valid tokens, those generated so far, the requests, and what happened, last
first. -/
structure Traffic where
  tokens : Tokens
  generated : List Text
  stage : Nat → Stage
  history : List TokenEvent

/-- A request comes in with its method and its cookie, the application starts its
response, or it never will. -/
inductive Move
  | receive (request : Nat) (method : String) (cookie : Option Text)
  | respond (request : Nat) (token : Text) (currentTime : Datetime)
  | die (request : Nat)

/-- `_should_check_for_cookie`. -/
def shouldCheckForCookie (method : String) : Bool := method ∈ ["POST", "PUT"]

namespace Traffic

variable (store : TokenStore)

/-- Put a request into a stage. -/
def put (traffic : Traffic) (request : Nat) (stage : Stage) : Traffic :=
  { traffic with stage := Function.update traffic.stage request stage }

/-- The middleware up to the application. -/
def receive (traffic : Traffic) (request : Nat) (method : String) (cookie : Option Text) :
    Traffic :=
  if shouldCheckForCookie method then
    match cookie with
    | none => traffic.put request .refused
    | some token =>
      match store.validateToken token traffic.tokens with
      | .error error => traffic.put request (.failed error)
      | .ok false => traffic.put request .refused
      | .ok true =>
        { traffic.put request (.running cookie true) with
          history := .accepted token :: traffic.history }
  else traffic.put request (.running cookie false)

/-- The token of the request, if it was valid until now. -/
def replacedBy (tokens : Tokens) : Option Text → List TokenEvent
  | none => []
  | some old => if tokens old then [.replaced old] else []

/-- `fake_start_response` with the token that is generated. -/
def respond (traffic : Traffic) (request : Nat) (cookie : Option Text) (checked : Bool)
    (token : Text) (currentTime : Datetime) : Traffic :=
  let (tokens, failure) := store.createToken cookie token currentTime traffic.tokens
  { tokens
    generated := token :: traffic.generated
    stage := Function.update traffic.stage request
      (if failure.isSome then .died cookie checked else .answered cookie)
    history := .issued token :: (replacedBy traffic.tokens cookie ++ traffic.history) }

/-- A step of the requests. A generated token is a new one. A response may be started
again when the application reports an error. -/
def step (traffic : Traffic) : Move → Option Traffic
  | .receive request method cookie =>
    match traffic.stage request with
    | .waiting => some (traffic.receive store request method cookie)
    | _ => none
  | .respond request token currentTime =>
    if isUuid token ∧ token ∉ traffic.generated then
      match traffic.stage request with
      | .running cookie checked =>
        some (traffic.respond store request cookie checked token currentTime)
      | .answered cookie => some (traffic.respond store request cookie false token currentTime)
      | _ => none
    else none
  | .die request =>
    match traffic.stage request with
    | .running cookie checked => some (traffic.put request (.died cookie checked))
    | _ => none

/-- The requests to the application: at the start none is under way, and the valid tokens
are among those that were generated. -/
def machine : Machine Traffic Move where
  initial traffic := (∀ request, traffic.stage request = .waiting) ∧ traffic.history = [] ∧
    ∀ token, traffic.tokens token = true → token ∈ traffic.generated
  step traffic := traffic.step store

/-- No token is accepted twice, and none after it was replaced. -/
structure NoReplay (history : List TokenEvent) : Prop where
  once : ∀ token, history.count (.accepted token) ≤ 1
  unreplaced : ∀ token later earlier, history = later ++ .accepted token :: earlier →
    .replaced token ∉ earlier

/-- A request was accepted with the token and has not started its response. -/
def Unanswered (traffic : Traffic) (token : Text) : Prop :=
  ∃ request, traffic.stage request = .running (some token) true ∨
    traffic.stage request = .died (some token) true

/-- The storage takes the cookie as it is, and a request that is to be checked finds no
unanswered request with its token. -/
def Unshared (traffic : Traffic) : Move → Prop
  | .receive _ method cookie => ∀ token, cookie = some token → store.Plain token ∧
      (shouldCheckForCookie method = true → ¬traffic.Unanswered token)
  | _ => True

noncomputable instance (traffic : Traffic) (move : Move) :
    Decidable (traffic.Unshared store move) := Classical.propDecidable _

variable {store}

/-- An event is no replay if the token that it accepts, if any, was neither accepted nor
replaced. -/
theorem NoReplay.cons {event : TokenEvent} {history : List TokenEvent} (noReplay : NoReplay history)
    (new : ∀ token, event = .accepted token →
      .accepted token ∉ history ∧ .replaced token ∉ history) : NoReplay (event :: history) where
  once token := by
    rw [List.count_cons]
    split
    · rename_i same
      rw [List.count_eq_zero.mpr (new token (eq_of_beq same)).1]
    · exact noReplay.once token
  unreplaced token later earlier split := by
    cases later with
    | nil =>
      obtain ⟨rfl, rfl⟩ := List.cons.inj split
      exact (new token rfl).2
    | cons first later => exact noReplay.unreplaced token later earlier (List.cons.inj split).2

/-- The replacement of a valid token accepts none. -/
theorem NoReplay.replacedBy {tokens : Tokens} {cookie : Option Text} {history : List TokenEvent}
    (noReplay : NoReplay history) : NoReplay (replacedBy tokens cookie ++ history) := by
  cases cookie with
  | none => exact noReplay
  | some old =>
    rw [Traffic.replacedBy]
    split
    · exact noReplay.cons nofun
    · exact noReplay

/-- A token is reported as replaced if it was valid. -/
theorem mem_replacedBy {tokens : Tokens} {cookie : Option Text} {event : TokenEvent} :
    event ∈ replacedBy tokens cookie ↔
      ∃ old, cookie = some old ∧ tokens old = true ∧ event = .replaced old := by
  cases cookie with
  | none => simp [replacedBy]
  | some old => cases valid : tokens old <;> simp [replacedBy, valid]

/-- The valid tokens are generated ones; an accepted token is valid only while its
request is unanswered, a replaced one is not valid. -/
structure Fresh (store : TokenStore) (traffic : Traffic) : Prop where
  valid : ∀ token, traffic.tokens token = true → token ∈ traffic.generated
  accepted : ∀ token, .accepted token ∈ traffic.history → token ∈ traffic.generated ∧
    (traffic.tokens token = true → traffic.Unanswered token)
  replaced : ∀ token, .replaced token ∈ traffic.history →
    token ∈ traffic.generated ∧ traffic.tokens token = false
  noReplay : NoReplay traffic.history
  plain : ∀ request cookie, (traffic.stage request).cookie = some cookie →
    ∀ token, cookie = some token → store.Plain token

variable {traffic : Traffic} {request : Nat}

/-- A request that is not unanswered may change its stage. -/
theorem Unanswered.put {token : Text} {stage : Stage} (unanswered : traffic.Unanswered token)
    (other : traffic.stage request ≠ .running (some token) true ∧
        traffic.stage request ≠ .died (some token) true ∨
      stage = .running (some token) true ∨ stage = .died (some token) true) :
    ∃ holder, Function.update traffic.stage request stage holder = .running (some token) true ∨
      Function.update traffic.stage request stage holder = .died (some token) true := by
  obtain ⟨holder, held⟩ := unanswered
  by_cases same : holder = request
  · refine ⟨request, ?_⟩
    rw [Function.update_self]
    rcases other with free | still
    · exact absurd (same ▸ held) (not_or.mpr free)
    · exact still
  · exact ⟨holder, by rwa [Function.update_of_ne same]⟩

/-- A new stage keeps the invariant if it still answers for the token that the old one
answered for, and holds a cookie that the storage takes. -/
theorem Fresh.put (fresh : Fresh store traffic) {stage : Stage}
    (answers : ∀ token, (traffic.stage request ≠ .running (some token) true ∧
        traffic.stage request ≠ .died (some token) true) ∨
      (stage = .running (some token) true ∨ stage = .died (some token) true))
    (plain : ∀ cookie, stage.cookie = some cookie →
      ∀ token, cookie = some token → store.Plain token) :
    Fresh store (traffic.put request stage) where
  valid := fresh.valid
  accepted token member := ⟨(fresh.accepted token member).1, fun valid =>
    ((fresh.accepted token member).2 valid).put (answers token)⟩
  replaced := fresh.replaced
  noReplay := fresh.noReplay
  plain other cookie held := by
    simp only [Traffic.put] at held
    by_cases same : other = request
    · rw [same, Function.update_self] at held
      exact plain cookie held
    · rw [Function.update_of_ne same] at held
      exact fresh.plain other cookie held

/-- A request comes in and finds no unanswered one with its token. -/
theorem Fresh.receive (fresh : Fresh store traffic) {method : String} {cookie : Option Text}
    (waiting : traffic.stage request = .waiting)
    (unshared : traffic.Unshared store (.receive request method cookie)) :
    Fresh store (traffic.receive store request method cookie) := by
  have answers : ∀ (stage : Stage) (token : Text),
      (traffic.stage request ≠ .running (some token) true ∧
        traffic.stage request ≠ .died (some token) true) ∨
      (stage = .running (some token) true ∨ stage = .died (some token) true) :=
    fun _ _ => .inl (by rw [waiting]; exact ⟨nofun, nofun⟩)
  have plain : ∀ other, some cookie = some other → ∀ token, other = some token →
      store.Plain token := fun other same token given =>
    (unshared token (Option.some.inj same ▸ given)).1
  unfold Traffic.receive
  split
  · rename_i checks
    cases cookie with
    | none => exact fresh.put (answers _) nofun
    | some token =>
      obtain ⟨taken, alone⟩ := unshared token rfl
      simp only [TokenStore.validateToken_eq taken]
      cases valid : traffic.tokens token with
      | false => exact fresh.put (answers _) nofun
      | true =>
        have running := fresh.put (answers (.running (some token) true)) plain
        -- The token is valid and nobody answers for it, so it was neither accepted nor replaced.
        have unaccepted : .accepted token ∉ traffic.history := fun member =>
          alone checks ((fresh.accepted token member).2 valid)
        have unreplaced : .replaced token ∉ traffic.history := fun member => by
          rw [(fresh.replaced token member).2] at valid
          exact absurd valid Bool.false_ne_true
        refine ⟨running.valid, fun other member => ?_, fun other member => ?_,
          fresh.noReplay.cons fun other same => ?_, running.plain⟩
        · rcases List.mem_cons.mp member with same | earlier
          · obtain rfl : other = token := TokenEvent.accepted.inj same
            exact ⟨fresh.valid other valid, fun _ =>
              ⟨request, .inl (Function.update_self _ _ _)⟩⟩
          · exact running.accepted other earlier
        · rcases List.mem_cons.mp member with same | earlier
          · exact nomatch same
          · exact fresh.replaced other earlier
        · obtain rfl : token = other := TokenEvent.accepted.inj same
          exact ⟨unaccepted, unreplaced⟩
  · exact fresh.put (answers _) plain

/-- A response is started with a new token. -/
theorem Fresh.respond (fresh : Fresh store traffic) {cookie : Option Text} {checked : Bool}
    {token : Text} {currentTime : Datetime}
    (held : (traffic.stage request).cookie = some cookie)
    (uuid : isUuid token = true) (new : token ∉ traffic.generated) :
    Fresh store (traffic.respond store request cookie checked token currentTime) := by
  have plain := fresh.plain request cookie held
  have absent : traffic.tokens token = false :=
    Bool.eq_false_iff.mpr fun valid => new (fresh.valid token valid)
  have created := @TokenStore.createToken_eq store traffic.tokens token cookie currentTime plain
    uuid absent
  have still : ∀ other, other ≠ token →
      (Function.update (TokenStore.without traffic.tokens cookie) token true other = true ↔
        traffic.tokens other = true ∧ cookie ≠ some other) := fun other different => by
    rw [Function.update_of_ne different, TokenStore.without_eq_true]
  simp only [Traffic.respond, created, Option.isSome_none, Bool.false_eq_true, if_false]
  have older : ∀ other, other ∈ traffic.generated → other ≠ token :=
    fun other member same => new (same ▸ member)
  refine ⟨fun other valid => ?_, fun other member => ?_, fun other member => ?_, ?_, ?_⟩
  · by_cases same : other = token
    · exact same ▸ List.mem_cons_self
    · exact List.mem_cons_of_mem _ (fresh.valid other ((still other same).mp valid).1)
  · have earlier : .accepted other ∈ traffic.history := by
      rcases List.mem_cons.mp member with same | rest
      · exact nomatch same
      rcases List.mem_append.mp rest with replaced | earlier
      · obtain ⟨_, _, _, same⟩ := mem_replacedBy.mp replaced
        exact nomatch same
      · exact earlier
    obtain ⟨known, unanswered⟩ := fresh.accepted other earlier
    refine ⟨List.mem_cons_of_mem _ known, fun valid => ?_⟩
    obtain ⟨valid, kept⟩ := (still other (older other known)).mp valid
    refine (unanswered valid).put (.inl ⟨fun same => ?_, fun same => ?_⟩)
    · rw [same] at held
      exact kept (Option.some.inj held).symm
    · rw [same] at held
      exact nomatch held
  · rcases List.mem_cons.mp member with same | rest
    · exact nomatch same
    rcases List.mem_append.mp rest with replaced | earlier
    · obtain ⟨old, given, valid, same⟩ := mem_replacedBy.mp replaced
      obtain rfl : other = old := TokenEvent.replaced.inj same
      have known := fresh.valid other valid
      exact ⟨List.mem_cons_of_mem _ known, Bool.eq_false_iff.mpr fun valid =>
        ((still other (older other known)).mp valid).2 given⟩
    · obtain ⟨known, gone⟩ := fresh.replaced other earlier
      exact ⟨List.mem_cons_of_mem _ known, Bool.eq_false_iff.mpr fun valid => by
        rw [((still other (older other known)).mp valid).1] at gone
        exact nomatch gone⟩
  · exact fresh.noReplay.replacedBy.cons nofun
  · intro other shown held'
    simp only [] at held'
    by_cases same : other = request
    · rw [same, Function.update_self] at held'
      exact Option.some.inj held' ▸ plain
    · rw [Function.update_of_ne same] at held'
      exact fresh.plain other shown held'

/-- The step lemma: every step that meets the condition keeps the invariant. -/
theorem fresh_preserved : ((machine store).restrict (Unshared store)).Preserves (Fresh store) := by
  intro traffic move next fresh stepped
  obtain ⟨unshared, taken⟩ := Machine.restrict_step_eq_some.mp stepped
  cases move with
  | receive request method cookie =>
    simp only [machine, step] at taken
    split at taken
    · rename_i waiting
      obtain rfl := Option.some.inj taken
      exact fresh.receive waiting unshared
    · exact nomatch taken
  | respond request token currentTime =>
    simp only [machine, step] at taken
    split at taken
    · rename_i generated
      split at taken
      · rename_i cookie checked running
        obtain rfl := Option.some.inj taken
        exact fresh.respond (by rw [running]; rfl) generated.1 generated.2
      · rename_i cookie answered
        obtain rfl := Option.some.inj taken
        exact fresh.respond (by rw [answered]; rfl) generated.1 generated.2
      · exact nomatch taken
    · exact nomatch taken
  | die request =>
    simp only [machine, step] at taken
    split at taken
    · rename_i cookie checked running
      obtain rfl := Option.some.inj taken
      refine fresh.put (fun token => ?_) nofun
      by_cases own : cookie = some token ∧ checked = true
      · obtain ⟨rfl, rfl⟩ := own
        exact .inr (.inr rfl)
      · rw [running]
        exact .inl ⟨fun same => own (Stage.running.inj same), nofun⟩
    · exact nomatch taken

/-- With either storage, in every run where a request that shows a token finds no
unanswered request that was accepted with it, no token is accepted twice and none after
it was replaced. -/
theorem tokens_unreplayed {start final : Traffic} {schedule : List Move}
    (initial : (machine store).initial start)
    (reached : ((machine store).restrict (Unshared store)).run start schedule = some final) :
    NoReplay final.history := by
  obtain ⟨waiting, empty, valid⟩ := initial
  have fresh : Fresh store start := by
    refine ⟨valid, ?_, ?_, ?_, ?_⟩
    · rw [empty]
      exact fun token member => nomatch member
    · rw [empty]
      exact fun token member => nomatch member
    · rw [empty]
      exact ⟨fun token => Nat.zero_le _, fun token later earlier split => by simp at split⟩
    · intro request cookie held
      rw [waiting request] at held
      exact nomatch held
  exact (fresh_preserved.run start final schedule fresh reached).noReplay

/-- One valid token, and no request yet. -/
def oneToken : Traffic where
  tokens token := token = ['t']
  generated := [['t']]
  stage _ := .waiting
  history := []

theorem oneToken_initial : (machine store).initial oneToken :=
  ⟨fun _ => rfl, rfl, fun _ valid => List.mem_singleton.mpr (of_decide_eq_true valid)⟩

/-- A token is accepted, replaced when its request is answered, and refused after that. -/
theorem token_used_once : ∃ final,
    ((machine .inMemory).restrict (Unshared .inMemory)).run oneToken
      [.receive 0 "POST" (some ['t']), .respond 0 (List.replicate 36 'a') ⟨2017, 1, 1, 0, 0, 0, 0⟩,
        .receive 1 "POST" (some ['t'])] = some final ∧
    .accepted ['t'] ∈ final.history ∧ NoReplay final.history := by
  have plain : ∀ token, TokenStore.Plain token .inMemory := fun _ => trivial
  obtain ⟨final, reached, accepted⟩ : ∃ final,
      ((machine .inMemory).restrict (Unshared .inMemory)).run oneToken
        [.receive 0 "POST" (some ['t']),
          .respond 0 (List.replicate 36 'a') ⟨2017, 1, 1, 0, 0, 0, 0⟩,
          .receive 1 "POST" (some ['t'])] = some final ∧ .accepted ['t'] ∈ final.history := by
    refine ⟨_, (Machine.run_cons_eq_some _ _ _ _).mpr ⟨_,
      Machine.restrict_step_eq_some.mpr ⟨fun token _ => ⟨plain token, fun _ => ?_⟩, rfl⟩,
      (Machine.run_cons_eq_some _ _ _ _).mpr ⟨_,
        Machine.restrict_step_eq_some.mpr ⟨trivial, rfl⟩,
        (Machine.run_cons_eq_some _ _ _ _).mpr ⟨_,
          Machine.restrict_step_eq_some.mpr ⟨fun token _ => ⟨plain token, fun _ => ?_⟩, rfl⟩,
          rfl⟩⟩⟩, ?_⟩
    · rintro ⟨request, held⟩
      have waiting : oneToken.stage request = .waiting := rfl
      rw [waiting] at held
      exact held.elim nofun nofun
    · rintro ⟨request, held⟩
      cases request with
      | zero =>
        rcases held with running | died
        · exact nomatch (running : Stage.answered _ = _)
        · exact nomatch (died : Stage.answered _ = _)
      | succ request =>
        rcases held with running | died
        · exact nomatch (running : Stage.waiting = _)
        · exact nomatch (died : Stage.waiting = _)
    · decide
  exact ⟨final, reached, accepted, tokens_unreplayed oneToken_initial reached⟩

/-- Two requests with one token come in before either is answered. -/
theorem both_accepted : ¬∀ (store : TokenStore) (start final : Traffic) (schedule : List Move),
    (machine store).initial start → (machine store).run start schedule = some final →
      NoReplay final.history := by
  intro unreplayed
  have twice : ((machine .inMemory).run oneToken
      [.receive 0 "POST" (some ['t']), .receive 1 "POST" (some ['t'])]).map (·.history) =
        some [.accepted ['t'], .accepted ['t']] := by decide +kernel
  obtain ⟨final, reached, history⟩ := Option.map_eq_some_iff.mp twice
  have once := (unreplayed .inMemory oneToken final _ oneToken_initial reached).once ['t']
  rw [history] at once
  exact absurd once (by decide)

end Traffic

end Palette.Web
