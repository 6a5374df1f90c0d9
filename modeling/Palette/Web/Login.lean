import Palette.Settings.Defaults
import Palette.Web.Lockout

/-!
# The account that logs in

The middleware takes a user name from the body of a request and counts the failed logins
of that name. The application behind it reads a user name from the merged parameters of
the request, looks the account up without regard to case, and checks the password
against it. Nothing ties the two names together.

The law is that no account is guessed at more often than the limit allows, and that a
login of one account does not clear the counter of another. It holds for the requests
whose name in the body is the one under which the account is always counted.
-/

namespace Palette.Web

open Foundation Palette.Telnet

/-- Statuses are compared by their characters. -/
local instance lawfulStatus : LawfulBEq (List Char) := inferInstance

/-! ## The body of a request -/

/-- The value of a hexadecimal digit. -/
def hexValue (digit : Char) : Option Nat :=
  if digit.isDigit then some (digit.toNat - '0'.toNat)
  else if 'a' ≤ digit ∧ digit ≤ 'f' then some (digit.toNat - 'a'.toNat + 10)
  else if 'A' ≤ digit ∧ digit ≤ 'F' then some (digit.toNat - 'A'.toNat + 10)
  else none

/-- `unquote()`: a percent sign with two hexadecimal digits is one character. -/
def unquote : Text → Text
  | '%' :: high :: low :: rest =>
    match hexValue high, hexValue low with
    | some first, some second => Char.ofNat (16 * first + second) :: unquote rest
    | _, _ => '%' :: unquote (high :: low :: rest)
  | char :: rest => char :: unquote rest
  | [] => []

/-- One part of a form: a name, an equals sign and a value; a plus sign stands for a
blank. -/
def parsePair (keepBlankValues : Bool) (part : Text) : Option (Text × Text) :=
  let name := part.takeWhile (· ≠ '=')
  let value := (part.dropWhile (· ≠ '=')).drop 1
  let plain (text : Text) := unquote (text.map fun char => if char = '+' then ' ' else char)
  if part = [] ∨ (¬keepBlankValues ∧ value = []) then none else some (plain name, plain value)

/-- `parse_qsl()`: the parts are separated by ampersands and semicolons. -/
def parseQsl (keepBlankValues : Bool) (text : Text) : List (Text × Text) :=
  (text.splitOnP fun char => char = '&' ∨ char = ';').filterMap (parsePair keepBlankValues)

/-- A request to the login application. -/
structure LoginRequest where
  method : String
  queryString : Text
  contentLength : Option Text
  input : Text

/-- `parse_request_body`: there are no parameters if the length is no number. -/
def parseRequestBody (request : LoginRequest) : List (Text × Text) :=
  match request.contentLength.elim (some 0) Settings.intOfText with
  | none => []
  | some size =>
    parseQsl false (if size < 0 then request.input else request.input.take size.toNat)

/-- The name that the middleware counts: the first one in the body. -/
def LoginRequest.userName (request : LoginRequest) : Option Text :=
  ((parseRequestBody request).find? fun pair => pair.1 = "username".toList).map Prod.snd

/-! ## The login application -/

/-- What is known about a user for the login. -/
structure UserProfile where
  userid : Nat
  name : Text
  hashedPassword : Option Text
  salt : Option Text

/-- Whose password is checked. -/
inductive Account
  | profile (userid : Nat)
  | directory (name : Text)
  deriving DecidableEq

/-- The setting `authentication-type`. -/
inductive AuthType
  | tableau
  | activeDirectory
  | local
  | unknown

/-- The login application with its users and settings. The merged parameters of a request,
the case of texts, the hash of a password (there is none for some texts), the directory
and the redirect after a login are code of others. -/
structure Site where
  profiles : List UserProfile
  allowPaletteLogin : Bool
  authType : AuthType
  wgserverAuthenticate : Option Text
  allowRoot : Bool
  params : LoginRequest → Text → Option Text
  lower : Text → Text
  databaseLower : Text → Text
  tableauHash : Text → Option Text → Option Text
  adVerify : Text → Text → Bool
  directoryAccount : Text → Text
  redirects : LoginRequest → Bool

/-- How an authentication ends. -/
inductive Authentication
  | raised
  | unknownUser
  | checked (account : Account) (accepted : Bool)
  deriving DecidableEq

/-- The hash of the password that `palette` has at first. -/
def defaultHash : Text := "7f54267d8c8114375c3624ccffc0bfec69cc3765".toList

namespace Site

variable (site : Site)

/-- `UserProfile.verify`: two users whose names differ in case only make the query raise. -/
def verify (name password : Text) : Authentication :=
  match site.profiles.filter fun entry => site.databaseLower entry.name = site.lower name with
  | [] => .unknownUser
  | [entry] =>
    match site.tableauHash password entry.salt with
    | none => .raised
    | some hashed => .checked (.profile entry.userid) (entry.hashedPassword = some hashed)
  | _ => .raised

/-- The directory of the installation. -/
def verifyActiveDirectory (name password : Text) : Authentication :=
  .checked (.directory (site.directoryAccount name)) (site.adVerify name password)

/-- The configured authentication method. -/
def authenticateByType (name password : Text) : Authentication :=
  match site.authType with
  | .tableau =>
    if (site.wgserverAuthenticate.map site.lower) = some "activedirectory".toList then
      site.verifyActiveDirectory name password
    else site.verify name password
  | .activeDirectory => site.verifyActiveDirectory name password
  | .local => site.verify name password
  | .unknown => .raised

/-- `LoginApplication.authenticate`: the user 0 is always checked locally. -/
def authenticate (name password : Text) : Authentication :=
  match site.profiles.find? fun entry => entry.userid = 0 with
  | some entry =>
    if name = entry.name then
      if site.allowPaletteLogin then
        match site.tableauHash password entry.salt with
        | none => .raised
        | some hashed =>
          if hashed = defaultHash then .checked (.profile 0) true else site.verify name password
      else site.verify name password
    else site.authenticateByType name password
  | none => site.authenticateByType name password

/-- The password check of a request, if there is one. -/
def check (request : LoginRequest) : Option Authentication :=
  match site.params request "username".toList, site.params request "password".toList with
  | some name, some password =>
    if name = "root".toList ∧ ¬site.allowRoot then none
    else some (site.authenticate name password)
  | _, _ => none

/-- The status of the response, if there is one: a login redirects. -/
def status (request : LoginRequest) : Option Text :=
  match site.check request with
  | some .raised => none
  | some (.checked _ true) => if site.redirects request then some "302 Found".toList else none
  | some (.checked _ false) | some .unknownUser => some "403 Forbidden".toList
  | none =>
    if (site.params request "username".toList).isSome ∧
        (site.params request "password".toList).isSome then some "403 Forbidden".toList
    else some "400 Bad Request".toList

end Site

/-! ## The middleware -/

/-- The table, the password checks, last first, the accounts whose failures a counter
counts, and the accounts whose login cleared the counter of another account. -/
structure Guesses where
  table : Lockouts
  checks : List (Account × Bool)
  counted : List (Text × Account)
  resets : List (Account × Account)

/-- `_is_successful_login`. -/
def isSuccessfulLogin (status : Text) : Bool :=
  status.take 3 ∈ ["200".toList, "204".toList, "302".toList]

/-- The account of a password check. -/
def Authentication.account : Authentication → Option Account
  | checked account _ => some account
  | raised | unknownUser => none

namespace Guesses

variable (storage : UserLockoutStorage)

/-- A password check is one of its account. -/
def check (guesses : Guesses) : Option Authentication → Guesses
  | some (.checked account accepted) =>
    { guesses with checks := (account, accepted) :: guesses.checks }
  | some .raised | some .unknownUser | none => guesses

/-- `successful_attempt`. -/
def successfulAttempt (guesses : Guesses) (name : Text) (account : Option Account) : Guesses :=
  match storage.run (.deleteUser name) guesses.table with
  | .error _ => guesses
  | .ok (table, _) =>
    let others := guesses.counted.filterMap fun entry =>
      account.bind fun own => if entry.1 = name ∧ entry.2 ≠ own then some (own, entry.2) else none
    { guesses with
      table := table
      counted := guesses.counted.filter fun entry => entry.1 ≠ name
      resets := others ++ guesses.resets }

/-- `failed_attempt`. -/
def failedAttempt (guesses : Guesses) (name : Text) (account : Option Account) : Guesses :=
  match storage.run (.selectUser name) guesses.table with
  | .error _ => guesses
  | .ok (table, value) =>
    let count := value.getD 0
    match storage.run (if 0 < count then .updateUser (count + 1) name else .insertUser name)
        table with
    | .error _ => { guesses with table := table }
    | .ok (table, _) =>
      { guesses with
        table := table
        counted := (account.map (name, ·)).toList ++ guesses.counted }

/-- The login application with `fake_start_response`: the status of its response decides
how the attempt is counted. -/
def answer (guesses : Guesses) (site : Site) (request : LoginRequest) (name : Text) : Guesses :=
  let authentication := site.check request
  let guesses := guesses.check authentication
  match site.status request with
  | none => guesses
  | some status =>
    let account := authentication.bind Authentication.account
    if isSuccessfulLogin status then guesses.successfulAttempt storage name account
    else guesses.failedAttempt storage name account

/-- `UserLockoutMiddleware.__call__` around the login application. Only a POST checks a
password; a statement that fails ends the request. -/
def handle (guesses : Guesses) (site : Site) (request : LoginRequest) : Guesses :=
  if request.method = "POST" then
    match request.userName with
    | none => guesses
    | some name =>
      match storage.run (.selectUser name) guesses.table with
      | .error _ => guesses
      | .ok (table, value) =>
        if storage.maxAttempts < value.getD 0 then { guesses with table := table }
        else { guesses with table := table }.answer storage site request name
  else guesses

/-- The requests one after another, each with the users and settings at its time. -/
def handleAll (guesses : Guesses) (requests : List (Site × LoginRequest)) : Guesses :=
  requests.foldl (fun guesses request => guesses.handle storage request.1 request.2) guesses

/-- The rejected checks of an account since the last accepted one. -/
def streak (account : Account) (checks : List (Account × Bool)) : Nat :=
  ((checks.filter fun check => check.1 = account).takeWhile fun check => !check.2).length

/-- No account was guessed at more often than the limit allows, and no login cleared the
counter of another account. -/
structure Protected (guesses : Guesses) : Prop where
  bounded : ∀ account, streak account guesses.checks ≤ storage.maxAttempts + 1
  uncleared : guesses.resets = []

/-- The name in the body has no quotes; and if the password of an account is checked, it
is the name under which that account is counted and has a place in the table. -/
def OwnCounter (counter : Account → Text) (site : Site) (request : LoginRequest) : Prop :=
  ∀ name, request.method = "POST" → request.userName = some name →
    '\'' ∉ name ∧ ∀ account accepted, site.check request = some (.checked account accepted) →
      name = counter account ∧ ¬64 < name.length

/-- Before the first request: the table may have counters, but none of zero. -/
structure Initial (guesses : Guesses) : Prop where
  table : ∀ name, guesses.table name ≠ some 0
  checks : guesses.checks = []
  counted : guesses.counted = []
  resets : guesses.resets = []

/-- The rejected checks of each account are counted under its name, and nothing else is
said to be counted there. -/
structure Guarded (storage : UserLockoutStorage) (counter : Account → Text) (guesses : Guesses) :
    Prop where
  positive : ∀ name, guesses.table name ≠ some 0
  counts : ∀ account, streak account guesses.checks ≤ (guesses.table (counter account)).getD 0
  own : ∀ entry ∈ guesses.counted, entry.1 = counter entry.2
  safe : guesses.Protected storage

variable {storage} {guesses : Guesses} {name : Text} {account : Account}

/-! ## Single calls -/

/-- A successful login deletes the row of its name. -/
theorem successfulAttempt_eq (unquoted : '\'' ∉ name) :
    guesses.successfulAttempt storage name (some account) =
      { guesses with
        table := Function.update guesses.table name none
        counted := guesses.counted.filter fun entry => entry.1 ≠ name
        resets := (guesses.counted.filterMap fun entry =>
          if entry.1 = name ∧ entry.2 ≠ account then some (account, entry.2) else none) ++
            guesses.resets } := by
  rw [successfulAttempt, UserLockoutStorage.run_eq (by exact unquoted)]
  rfl

/-- A failed login counts one more for its name, unless the name has no place in the
table. -/
theorem failedAttempt_cases (unquoted : '\'' ∉ name) (positive : guesses.table name ≠ some 0)
    (account : Option Account) :
    guesses.failedAttempt storage name account =
        { guesses with
          table := Function.update guesses.table name (some ((guesses.table name).getD 0 + 1))
          counted := (account.map (name, ·)).toList ++ guesses.counted } ∨
      (guesses.failedAttempt storage name account = guesses ∧ 64 < name.length) := by
  rw [failedAttempt, UserLockoutStorage.run_eq (by exact unquoted)]
  simp only [Statement.effect]
  cases stored : guesses.table name with
  | none =>
    rw [Option.getD_none, if_neg (Nat.lt_irrefl 0), UserLockoutStorage.run_eq (by exact unquoted)]
    have absent : (guesses.table name).isSome = false := by rw [stored]; rfl
    by_cases long : 64 < name.length
    · exact .inr ⟨by simp only [Statement.effect, if_pos long], long⟩
    · refine .inl ?_
      simp only [Statement.effect, if_neg long, absent, Bool.false_eq_true, if_false]
  | some count =>
    have counting : 0 < count := Nat.pos_of_ne_zero fun zero => positive (zero ▸ stored)
    have present : (guesses.table name).isSome = true := by rw [stored]; rfl
    rw [Option.getD_some, if_pos counting, UserLockoutStorage.run_eq (by exact unquoted)]
    refine .inl ?_
    simp only [Statement.effect, present, if_true]

theorem streak_accepted (checks : List (Account × Bool)) :
    streak account ((account, true) :: checks) = 0 := by
  simp [streak]

theorem streak_rejected (checks : List (Account × Bool)) :
    streak account ((account, false) :: checks) = streak account checks + 1 := by
  simp [streak]

theorem streak_of_ne {other : Account} (different : other ≠ account) (accepted : Bool)
    (checks : List (Account × Bool)) :
    streak account ((other, accepted) :: checks) = streak account checks := by
  simp [streak, different]

/-! ## Single requests -/

variable {counter : Account → Text}

/-- One more failure is counted for a name. -/
theorem Guarded.count (guarded : Guarded storage counter guesses) (name : Text)
    {counted : List (Text × Account)} (own : ∀ entry ∈ counted, entry.1 = counter entry.2) :
    Guarded storage counter
      { guesses with
        table := Function.update guesses.table name (some ((guesses.table name).getD 0 + 1))
        counted := counted ++ guesses.counted } where
  positive other := by
    by_cases same : other = name
    · simp [same]
    · simp only [Function.update_of_ne same]
      exact guarded.positive other
  counts account := by
    have known := guarded.counts account
    by_cases same : counter account = name
    · simp only [same, Function.update_self, Option.getD_some]
      rw [same] at known
      exact Nat.le_succ_of_le known
    · simp only [Function.update_of_ne same]
      exact known
  own entry member := (List.mem_append.mp member).elim (own entry) (guarded.own entry)
  safe := ⟨guarded.safe.bounded, guarded.safe.uncleared⟩

/-- A request without a password check counts one failure at most. -/
theorem Guarded.failedAttempt (guarded : Guarded storage counter guesses)
    (unquoted : '\'' ∉ name) : Guarded storage counter (guesses.failedAttempt storage name none) := by
  rcases failedAttempt_cases unquoted (guarded.positive name) none with counted | ⟨same, -⟩
  · rw [counted]
    exact guarded.count name fun _ member => nomatch member
  · rw [same]
    exact guarded

/-- A rejected check is counted under the name of its account. -/
theorem Guarded.rejected (guarded : Guarded storage counter guesses)
    (admitted : ¬storage.maxAttempts < (guesses.table name).getD 0) (unquoted : '\'' ∉ name)
    (own : name = counter account) (short : ¬64 < name.length) :
    Guarded storage counter
      ({ guesses with checks := (account, false) :: guesses.checks }.failedAttempt storage name
        (some account)) := by
  rcases @failedAttempt_cases storage
    { guesses with checks := (account, false) :: guesses.checks } name unquoted
    (guarded.positive name) (some account) with counted | ⟨-, long⟩
  · rw [counted]
    have before := guarded.counts account
    rw [← own] at before
    have listed : ∀ entry ∈ [(name, account)], entry.1 = counter entry.2 := fun entry member => by
      obtain rfl := List.mem_singleton.mp member
      exact own
    have next := guarded.count name listed
    refine ⟨next.positive, fun other => ?_, next.own, fun other => ?_, next.safe.uncleared⟩
    · by_cases same : account = other
      · subst same
        simp only [streak_rejected, ← own, Function.update_self, Option.getD_some]
        exact Nat.succ_le_succ before
      · rw [streak_of_ne same]
        exact next.counts other
    · by_cases same : account = other
      · subst same
        rw [streak_rejected]
        omega
      · rw [streak_of_ne same]
        exact guarded.safe.bounded other
  · exact absurd long short

/-- An accepted check ends the streak of its account, whether its response starts or not. -/
theorem Guarded.accepted (guarded : Guarded storage counter guesses) :
    Guarded storage counter { guesses with checks := (account, true) :: guesses.checks } := by
  have fewer : ∀ other, streak other ((account, true) :: guesses.checks) ≤
      streak other guesses.checks := fun other => by
    by_cases same : account = other
    · rw [same, streak_accepted]
      exact Nat.zero_le _
    · rw [streak_of_ne same]
  exact ⟨guarded.positive, fun other => (fewer other).trans (guarded.counts other), guarded.own,
    fun other => (fewer other).trans (guarded.safe.bounded other), guarded.safe.uncleared⟩

/-- A successful login clears the counter of its own account only. -/
theorem Guarded.successfulAttempt (guarded : Guarded storage counter guesses)
    (injective : Function.Injective counter) (ended : streak account guesses.checks = 0)
    (unquoted : '\'' ∉ name) (own : name = counter account) :
    Guarded storage counter (guesses.successfulAttempt storage name (some account)) := by
  rw [successfulAttempt_eq unquoted]
  refine ⟨fun other => ?_, fun other => ?_, fun entry member =>
    guarded.own entry (List.mem_filter.mp member).1, guarded.safe.bounded, ?_⟩
  · by_cases same : other = name
    · simp [same]
    · simp only [Function.update_of_ne same]
      exact guarded.positive other
  · by_cases same : other = account
    · rw [same]
      simp only [ended, Nat.zero_le]
    · have elsewhere : counter other ≠ name := fun equal => same (injective (equal.trans own))
      simp only [Function.update_of_ne elsewhere]
      exact guarded.counts other
  · have nothing : (guesses.counted.filterMap fun entry =>
        if entry.1 = name ∧ entry.2 ≠ account then some (account, entry.2) else none) = [] := by
      refine List.filterMap_eq_nil_iff.mpr fun entry member => if_neg fun other => other.2 ?_
      exact injective (((guarded.own entry member).symm.trans other.1).trans own)
    simp only [nothing, List.nil_append, guarded.safe.uncleared]

/-- A request whose password check is rejected, or that has none, fails. -/
theorem isSuccessfulLogin_forbidden : isSuccessfulLogin "403 Forbidden".toList = false := by
  rfl

theorem isSuccessfulLogin_badRequest : isSuccessfulLogin "400 Bad Request".toList = false := by
  rfl

theorem isSuccessfulLogin_found : isSuccessfulLogin "302 Found".toList = true := by
  rfl

/-- A request with a name without quotes is refused or answered. -/
theorem handle_eq {site : Site} {request : LoginRequest} (post : request.method = "POST")
    (given : request.userName = some name) (unquoted : '\'' ∉ name) :
    guesses.handle storage site request =
      if storage.maxAttempts < (guesses.table name).getD 0 then guesses
      else guesses.answer storage site request name := by
  have selected : storage.run (.selectUser name) guesses.table =
      .ok (guesses.table, guesses.table name) := UserLockoutStorage.run_eq (by exact unquoted)
  simp only [handle, if_pos post, given, selected]

/-- A rejected check is a failed login. -/
theorem answer_rejected {site : Site} {request : LoginRequest}
    (checked : site.check request = some (.checked account false)) :
    guesses.answer storage site request name =
      { guesses with checks := (account, false) :: guesses.checks }.failedAttempt storage name
        (some account) := by
  simp only [answer, Site.status, checked, isSuccessfulLogin_forbidden, Bool.false_eq_true,
    if_false]
  rfl

/-- An accepted check is a successful login if the response starts. -/
theorem answer_accepted {site : Site} {request : LoginRequest}
    (checked : site.check request = some (.checked account true))
    (redirected : site.redirects request = true) :
    guesses.answer storage site request name =
      { guesses with checks := (account, true) :: guesses.checks }.successfulAttempt storage name
        (some account) := by
  simp only [answer, Site.status, checked, redirected, if_true, isSuccessfulLogin_found]
  rfl

/-- An answer keeps the accounts guarded, by cases on how the authentication ends. -/
theorem Guarded.answer (guarded : Guarded storage counter guesses)
    (injective : Function.Injective counter)
    (admitted : ¬storage.maxAttempts < (guesses.table name).getD 0) (unquoted : '\'' ∉ name)
    {site : Site} {request : LoginRequest}
    (own : ∀ account accepted, site.check request = some (.checked account accepted) →
      name = counter account ∧ ¬64 < name.length) :
    Guarded storage counter (guesses.answer storage site request name) := by
  cases checked : site.check request with
  | none =>
    simp only [Guesses.answer, Site.status, checked, Option.bind_none, Guesses.check]
    split_ifs
    · simp only [isSuccessfulLogin_forbidden, Bool.false_eq_true, if_false]
      exact guarded.failedAttempt unquoted
    · simp only [isSuccessfulLogin_badRequest, Bool.false_eq_true, if_false]
      exact guarded.failedAttempt unquoted
  | some authentication =>
    cases authentication with
    | raised =>
      simp only [Guesses.answer, Site.status, checked]
      exact guarded
    | unknownUser =>
      simp only [Guesses.answer, Site.status, checked, isSuccessfulLogin_forbidden,
        Bool.false_eq_true, if_false]
      exact guarded.failedAttempt unquoted
    | checked account accepted =>
      obtain ⟨same, short⟩ := own account accepted checked
      cases accepted with
      | false =>
        rw [answer_rejected checked]
        exact guarded.rejected admitted unquoted same short
      | true =>
        cases redirected : site.redirects request with
        | false =>
          simp only [Guesses.answer, Site.status, checked, redirected, Bool.false_eq_true, if_false]
          exact guarded.accepted
        | true =>
          rw [answer_accepted checked redirected]
          exact guarded.accepted.successfulAttempt injective (streak_accepted _) unquoted same

/-- The step lemma: a request keeps the accounts guarded. -/
theorem Guarded.handle (guarded : Guarded storage counter guesses)
    (injective : Function.Injective counter) {site : Site} {request : LoginRequest}
    (named : OwnCounter counter site request) :
    Guarded storage counter (guesses.handle storage site request) := by
  by_cases post : request.method = "POST"
  · cases given : request.userName with
    | none =>
      simp only [Guesses.handle, if_pos post, given]
      exact guarded
    | some name =>
      obtain ⟨unquoted, own⟩ := named name post given
      rw [handle_eq post given unquoted]
      split
      · exact guarded
      · rename_i admitted
        exact guarded.answer injective admitted unquoted own
  · rw [Guesses.handle, if_neg post]
    exact guarded

/-- The merged parameters as they are documented: an item is the last value in the query
string, else the last one in the body. -/
def mergedParams (request : LoginRequest) (key : Text) : Option Text :=
  let last (pairs : List (Text × Text)) :=
    (pairs.reverse.find? fun pair => pair.1 = key).map Prod.snd
  (last (parseQsl true request.queryString)).or (last (parseQsl true request.input))

/-- A site with two users, `v` and `m`; a password is its own hash. -/
def twoUsers : Site where
  profiles := [⟨1, ['v'], some ['s'], none⟩, ⟨2, ['m'], some ['k'], none⟩]
  allowPaletteLogin := false
  authType := .local
  wgserverAuthenticate := none
  allowRoot := false
  params := mergedParams
  lower := List.map Char.toLower
  databaseLower := List.map Char.toLower
  tableauHash password _ := some password
  adVerify _ _ := false
  directoryAccount := List.map Char.toLower
  redirects _ := true

/-- A wrong password for `v`. -/
def wrongPassword : LoginRequest :=
  ⟨"POST", [], some ['2', '1'], "username=v&password=x".toList⟩

/-- A login of `m` by the query string, with the name `v` in the body. -/
def loginInTwoNames : LoginRequest :=
  ⟨"POST", "username=m&password=k".toList, some ['1', '0'], "username=v".toList⟩

/-- Before the first request, with an empty table. -/
def noGuesses : Guesses := ⟨fun _ => none, [], [], []⟩

theorem noGuesses_initial : noGuesses.Initial := ⟨fun _ => nofun, rfl, rfl, rfl⟩

theorem wrongPassword_facts : wrongPassword.userName = some ['v'] ∧
    twoUsers.check wrongPassword = some (.checked (.profile 1) false) :=
  ⟨rfl, rfl⟩

theorem loginInTwoNames_facts : loginInTwoNames.userName = some ['v'] ∧
    twoUsers.check loginInTwoNames = some (.checked (.profile 2) true) :=
  ⟨rfl, rfl⟩

/-- One counter for each account, the one of the profile 1 being its name. -/
def ownCounter : Account → Text
  | .profile userid => List.replicate userid 'v'
  | .directory name => 'd' :: name

theorem ownCounter_injective : Function.Injective ownCounter := by
  intro first second same
  cases first with
  | profile userid =>
    cases second with
    | profile other =>
      have lengths := congrArg List.length same
      simp only [ownCounter, List.length_replicate] at lengths
      rw [lengths]
    | directory other => cases userid <;> simp [ownCounter, List.replicate_succ] at same
  | directory name =>
    cases second with
    | profile other => cases other <;> simp [ownCounter, List.replicate_succ] at same
    | directory other => rw [(List.cons.inj same).2]

end Guesses

end Palette.Web
