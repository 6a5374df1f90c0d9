import Palette.Cli.Verdict

/-!
# Passwords in commands

Two commands carry a password: `tabcmd` puts it between blanks, and a restore puts it between
quotes if there is one. Whoever sees what is shown of a command, or the error of a command that
failed, should not learn anything of the password: two passwords should look the same.

They do not if they differ in a word that the filter shows. And a command that succeeded, but whose
cleanup lost the connection, is reported with the command as it was sent.
-/

namespace Palette.Cli

open Palette.Commands Palette.Foundation Script Words

/-! ## Commands with passwords -/

/-- A stored credential, with its password decrypted. Missing texts are empty. -/
structure Credential where
  user : List Char
  passwd : List Char
  deriving DecidableEq, Repr

/-- What stands in front of the password's option in a `tabcmd`. -/
def tabcmdFront (args user : List Char) : List Char :=
  "tabcmd ".toList ++ args ++ " -u ".toList ++ user

/-- What stands behind the password in a `tabcmd`. -/
def tabcmdBack (url : List Char) (timeout : Int) : List Char :=
  "--no-cookie --server ".toList ++ url ++ " --no-certcheck --timeout ".toList ++
    (toString timeout).toList

/-- The command of `tabcmd`. -/
def tabcmdText (args user pw url : List Char) (timeout : Int) : List Char :=
  tabcmdFront args user ++ ' ' :: (passwordOption ++ ' ' :: (pw ++ ' ' :: tabcmdBack url timeout))

/-- `Controller.tabcmd` up to the command, with the credential that was found, the primary one or
else the secondary one. What comes out is an error or a command. The decrypted password is a byte
string, which has to be ASCII. -/
def tabcmd (cred : Option Credential) (internalServerUrl serverUrl : List Char) (timeout : Int)
    (args : List Char) : Except Failure (String ⊕ List Char) :=
  match cred with
  | none => .ok (.inl "No credentials found.")
  | some cred =>
    if cred.user = [] ∨ cred.passwd = [] then .ok (.inl "Invalid credentials.")
    else
      let url := if internalServerUrl = [] then serverUrl else internalServerUrl
      if url = [] then .ok (.inl "No local URL available.")
      else do
        let pw ← decodeAscii (String.ofList cred.passwd)
        pure (.inr (tabcmdText args cred.user pw.toList url timeout))

/-- A text in the quotes of a restore. -/
def quoted (text : List Char) : List Char := "\\\"".toList ++ text ++ "\\\"".toList

/-- What stands in front of the options in a restore. -/
def restoreFront (path : List Char) : List Char := "tabadmin restore ".toList ++ quoted path

/-- The option of a restore, if there is a password. -/
def runAsOption (runAsPassword : List Char) : List Char :=
  if runAsPassword = [] then [] else ' ' :: (passwordOption ++ ' ' :: quoted runAsPassword)

/-- The option of a restore without the configuration. -/
def noConfig (dataOnly : Bool) : List Char := if dataOnly then ' ' :: "--no-config".toList else []

/-- The command of `restore_local`. -/
def restoreLocalText (path runAsPassword : List Char) (dataOnly : Bool) : List Char :=
  restoreFront path ++ runAsOption runAsPassword ++ noConfig dataOnly

/-- The commands with a password, with all that they are made of besides. -/
inductive Origin where
  | tabcmd (user internalServerUrl serverUrl args : List Char) (timeout : Int)
  | restoreLocal (path : List Char) (dataOnly : Bool)

namespace Origin

/-- The command for a password, if there is one. -/
def command : Origin → List Char → Option (List Char)
  | .tabcmd user internalServerUrl serverUrl args timeout, password =>
    match Cli.tabcmd (some ⟨user, password⟩) internalServerUrl serverUrl timeout args with
    | .ok (.inr cmd) => some cmd
    | _ => none
  | .restoreLocal path dataOnly, password => some (restoreLocalText path password dataOnly)

/-- The words of the command that the password is in, from the option on. -/
def exposed : Origin → List Char → List (List Char)
  | .tabcmd .., password => passwordOption :: words isBlank password
  | .restoreLocal .., password =>
    if password = [] then [] else passwordOption :: words isBlank (quoted password)

end Origin

/-! ## Two runs -/

/-- The same replies for another command. -/
def Dialogue.withCommand (dialogue : Dialogue) (cmd : List Char) : Dialogue :=
  { dialogue with command := String.ofList cmd }

/-- The error that `cli_cmd` returns, or the exception. -/
def errorText (dialogue : Dialogue) (wire : Wire) : Except Failure (Option Json) :=
  ((cliCmd dialogue).run.run wire).1.map fun body => body.get "error"

/-- Both passwords look the same: the commands are shown alike, and for the same replies the errors
are the same. -/
def Conceals (origin : Origin) (dialogue : Dialogue) (wire : Wire) (password other : List Char) :
    Prop :=
  ∀ first second, origin.command password = some first → origin.command other = some second →
    safecmd first = safecmd second ∧
      errorText (dialogue.withCommand first) wire = errorText (dialogue.withCommand second) wire

/-- The command runs and succeeds with an output, but the connection is lost while it is cleaned
up. -/
structure CleanupLost (dialogue : Dialogue) (xid entry : ℕ+) (body : Dict) (value : Json)
    (loss : Loss) : Prop where
  inserted : dialogue.table.insert = .ok xid
  found : body ∈ dialogue.start.body
  accepts : body.Accepts xid
  started : ¬body.Rejects
  unfinished : ¬body.Says "run-status" "finished"
  identifier : body.get "xid" = some value
  harmless : (ending dialogue.timeout dialogue.polls).Harmless dialogue.kill
  succeeds : (ending dialogue.timeout dialogue.polls).Succeeds
  closable : cleanupRequest dialogue.table value = .ok entry
  lost : dialogue.cleanup = .lost loss
  printable : isAscii loss.message = true

/-- Such a loss is among the replies. -/
def LosesCleanup (dialogue : Dialogue) : Prop :=
  ∃ xid entry body value loss, CleanupLost dialogue xid entry body value loss

/-! ## What is shown of a command -/

/-- The filter behind a word of the command. -/
def obscuring : Bool → List (List Char) → Bool
  | obscure, [] => obscure
  | _, word :: rest => obscuring (word = passwordOption) rest

/-- The filter goes through the words one after the other. -/
theorem safeTokens_append (obscure : Bool) (tokens rest : List (List Char)) :
    safeTokens obscure (tokens ++ rest) =
      safeTokens obscure tokens ++ safeTokens (obscuring obscure tokens) rest := by
  induction tokens generalizing obscure with
  | nil => rfl
  | cons word tokens inductionHypothesis =>
    rw [List.cons_append, safeTokens, safeTokens, obscuring]
    by_cases isOption : word = passwordOption <;> simp [isOption, inductionHypothesis]

/-- A `tabcmd` that is made has the password as it is. -/
theorem tabcmd_made {user internalServerUrl serverUrl args password cmd : List Char} {timeout : Int}
    (made : (Origin.tabcmd user internalServerUrl serverUrl args timeout).command password =
      some cmd) : cmd = tabcmdText args user password
        (if internalServerUrl = [] then serverUrl else internalServerUrl) timeout := by
  simp only [Origin.command, tabcmd] at made
  by_cases given : user = [] ∨ password = []
  · simp [given] at made
  · by_cases located : (if internalServerUrl = [] then serverUrl else internalServerUrl) = []
    · simp [given, located] at made
    · cases ascii : isAscii (String.ofList password) <;>
        simp [given, located, decodeAscii, ascii, bind, Except.bind, pure, Except.pure] at made
      exact made.symm

/-- A restore has the password in quotes. -/
theorem restoreLocal_made {path password cmd : List Char} {dataOnly : Bool}
    (made : (Origin.restoreLocal path dataOnly).command password = some cmd) :
    cmd = restoreLocalText path password dataOnly := by
  simp only [Origin.command, Option.some.injEq] at made
  exact made.symm

/-- The option stands between blanks. -/
theorem words_option (before text : List Char) :
    words isBlank (before ++ ' ' :: (passwordOption ++ ' ' :: text)) =
      words isBlank before ++ passwordOption :: words isBlank text := by
  have blank : isBlank ' ' = true := by decide
  have option : words isBlank passwordOption = [passwordOption] := by decide +kernel
  rw [words_append_cons blank, words_append_cons blank, option]
  rfl

/-- The option without the configuration is a word of its own. -/
theorem words_noConfig (before : List Char) (dataOnly : Bool) :
    words isBlank (before ++ noConfig dataOnly) =
      words isBlank before ++ words isBlank (noConfig dataOnly) := by
  have blank : isBlank ' ' = true := by decide
  cases dataOnly with
  | false => simp [noConfig, words]
  | true =>
    have alone := words_append_cons blank [] "--no-config".toList
    rw [List.nil_append] at alone
    rw [noConfig, if_pos rfl, words_append_cons blank, alone]
    rfl

/-- What stands around the password in a command does not depend on it. -/
theorem command_words (origin : Origin) : ∃ before after, ∀ password cmd,
    origin.command password = some cmd →
      words isBlank cmd = before ++ (origin.exposed password ++ after) := by
  have blank : isBlank ' ' = true := by decide
  cases origin with
  | tabcmd user internalServerUrl serverUrl args timeout =>
    refine ⟨words isBlank (tabcmdFront args user), words isBlank (tabcmdBack
      (if internalServerUrl = [] then serverUrl else internalServerUrl) timeout), ?_⟩
    intro password cmd made
    rw [tabcmd_made made, tabcmdText, words_option, words_append_cons blank]
    rfl
  | restoreLocal path dataOnly =>
    refine ⟨words isBlank (restoreFront path), words isBlank (noConfig dataOnly), ?_⟩
    intro password cmd made
    rw [restoreLocal_made made, restoreLocalText, words_noConfig, ← List.append_assoc]
    by_cases given : password = []
    · simp only [runAsOption, Origin.exposed, given, if_true, List.append_nil]
    · rw [runAsOption, if_neg given, words_option, Origin.exposed, if_neg given]

/-- The password's words start with the option, or there are none. -/
theorem exposed_cases (origin : Origin) (password : List Char) :
    origin.exposed password = [] ∨ ∃ tokens, origin.exposed password = passwordOption :: tokens := by
  cases origin with
  | tabcmd user internalServerUrl serverUrl args timeout => exact .inr ⟨_, rfl⟩
  | restoreLocal path dataOnly =>
    by_cases given : password = []
    · exact .inl (if_pos given)
    · exact .inr ⟨_, if_neg given⟩

/-- It does not matter what the filter has read in front of the option. -/
theorem alike_exposed_iff (origin : Origin) (obscure : Bool) (password other : List Char) :
    Alike obscure (origin.exposed password) (origin.exposed other) ↔
      Alike false (origin.exposed password) (origin.exposed other) := by
  rcases exposed_cases origin password with none_first | ⟨tokens, tokens_eq⟩
  · rcases exposed_cases origin other with none_second | ⟨others, others_eq⟩
    · simp [none_first, none_second, Alike]
    · simp [none_first, others_eq, Alike]
  · rcases exposed_cases origin other with none_second | ⟨others, others_eq⟩
    · simp [tokens_eq, none_second, Alike]
    · simp [tokens_eq, others_eq, Alike]

/-- Commands for two passwords are shown the same exactly if the passwords differ in hidden words
only. -/
theorem shown_eq_iff {origin : Origin} {password other first second : List Char}
    (made : origin.command password = some first)
    (otherMade : origin.command other = some second) :
    safecmd first = safecmd second ↔
      Alike false (origin.exposed password) (origin.exposed other) := by
  obtain ⟨before, after, surrounded⟩ := command_words origin
  rw [safecmd_eq_iff, surrounded password first made, surrounded other second otherMade,
    safeTokens_append false before, safeTokens_append false before, List.append_right_inj,
    safeTokens_append_eq_iff, alike_exposed_iff]

/-- Passwords of which both or none are given make the same command only if they are the same. -/
theorem restoreLocalText_injective {path password other : List Char} {dataOnly : Bool}
    (both : password = [] ↔ other = [])
    (same : restoreLocalText path password dataOnly = restoreLocalText path other dataOnly) :
    password = other := by
  have options : runAsOption password = runAsOption other :=
    List.append_cancel_left (List.append_cancel_right same)
  by_cases given : password = []
  · rw [given, both.mp given]
  · have otherGiven : other ≠ [] := fun empty => given (both.mpr empty)
    simpa [runAsOption, quoted, given, otherGiven] using options

/-- Commands for passwords that differ in hidden words only are the same exactly if the passwords
are. -/
theorem command_eq_iff {origin : Origin} {password other first second : List Char}
    (made : origin.command password = some first)
    (otherMade : origin.command other = some second)
    (alike : Alike false (origin.exposed password) (origin.exposed other)) :
    first = second ↔ password = other := by
  constructor
  · intro same
    cases origin with
    | tabcmd user internalServerUrl serverUrl args timeout =>
      rw [tabcmd_made made, tabcmd_made otherMade] at same
      simpa [tabcmdText] using same
    | restoreLocal path dataOnly =>
      rw [restoreLocal_made made, restoreLocal_made otherMade] at same
      refine restoreLocalText_injective ?_ same
      by_cases given : password = [] <;> by_cases otherGiven : other = [] <;>
        simp_all [Origin.exposed, Alike]
  · intro same
    rw [same] at made
    exact Option.some_inj.mp (made.symm.trans otherMade)

/-! ## What is reported of a command -/

section Reports

variable {dialogue : Dialogue} {wire : Wire} {first second : List Char}

/-- A text shows what the filter leaves. -/
@[simp] theorem shown_withCommand (cmd : List Char) :
    (dialogue.withCommand cmd).shown = String.ofList (safecmd cmd) := by
  simp [Dialogue.shown, Dialogue.withCommand]

/-- Sending a command only shows what the filter leaves. -/
theorem sendCli_congr (shown : safecmd first = safecmd second) :
    sendCli (dialogue.withCommand first) = sendCli (dialogue.withCommand second) := by
  simp only [sendCli, shown_withCommand, shown]
  rfl

/-- So does waiting for it. -/
theorem getCliStatus_congr (shown : safecmd first = safecmd second) (xid : Json)
    (polls : List Poll) : getCliStatus (dialogue.withCommand first) xid polls =
      getCliStatus (dialogue.withCommand second) xid polls := by
  have late : timedOut (dialogue.withCommand first) xid =
      timedOut (dialogue.withCommand second) xid := by
    simp only [timedOut, shown_withCommand, shown]
    rfl
  induction polls with
  | nil => exact late
  | cons poll polls inductionHypothesis =>
    simp only [getCliStatus, late, inductionHypothesis]
    rfl

/-- Only a lost connection is shown with a text. -/
theorem refusal_congr {reply : Reply} {displayname method uri : String} {failed other : Loss → String}
    (same : ∀ loss, reply = .lost loss → failed loss = other loss) :
    reply.refusal displayname method uri failed = reply.refusal displayname method uri other := by
  cases reply with
  | lost loss => simp only [Reply.refusal, same loss rfl]
  | response status reason text => rfl

/-- A result with an error is returned whatever the cleanup shows, and a cleanup that is answered
shows nothing. -/
theorem finishCli_congr {value : Json} {cliBody : Dict}
    {returned : Dict → Wire → Prop} {raised : Failure → Wire → Prop}
    (answered : cliBody.has "stdout" = true → cliBody.has "error" = false →
      ∀ entry, cleanupRequest dialogue.table value = .ok entry →
        ∀ loss, dialogue.cleanup = .lost loss → isAscii loss.message = false) :
    Ends (finishCli (dialogue.withCommand first) value cliBody) wire returned raised ↔
      Ends (finishCli (dialogue.withCommand second) value cliBody) wire returned raised := by
  by_cases lacking : cliBody.has "stdout" = false ∧ cliBody.has "error" = false
  · rw [ends_finishCli_lacking lacking, ends_finishCli_lacking lacking]
  · rw [ends_finishCli lacking, ends_finishCli lacking, ends_sendCleanup, ends_sendCleanup]
    simp only [Dialogue.withCommand]
    cases closed : cleanupRequest dialogue.table value with
    | error failure => rfl
    | ok entry =>
      cases dialogue.cleanup.ok with
      | some text => rfl
      | none =>
        by_cases unprintable : dialogue.cleanup.Unprintable
        · simp only [unprintable, if_true]
        · simp only [unprintable, if_false]
          cases failed : cliBody.has "error" with
          | true => simp only [chosen, failed, if_true]
          | false =>
            have output : cliBody.has "stdout" = true := by simpa [failed] using lacking
            rw [refusal_congr fun loss lost => absurd
              (show dialogue.cleanup.Unprintable by
                rw [lost]; exact answered output failed entry closed loss lost) unprintable]

/-- What is returned for a start has an error, or it is the object of a start that goes on. -/
theorem sendCli_result : Ends (sendCli dialogue) wire
    (fun body _ => body.has "error" = true ∨ ∃ xid, dialogue.table.insert = .ok xid ∧
      body ∈ dialogue.start.body ∧ body.Accepts xid ∧ ¬body.Rejects) fun _ _ => True := by
  rw [ends_sendCli]
  cases inserted : dialogue.table.insert with
  | error failure => trivial
  | ok xid =>
    cases ok : dialogue.start.ok with
    | none =>
      dsimp only
      split
      · trivial
      · exact .inl (has_error_refusal ..)
    | some text =>
      dsimp only
      cases read : readStart xid text with
      | error failure => trivial
      | ok result =>
        by_cases goesOn : ∃ body, text.loads = some (.object body) ∧ Dict.Accepts body xid ∧
            ¬Dict.Rejects body
        · obtain ⟨body, decoded, accepts, started⟩ := goesOn
          rw [readStart_started decoded accepts started] at read
          obtain rfl := Except.ok.inj read
          exact .inr ⟨xid, rfl, body_eq_some.2 ⟨text, ok, decoded⟩, accepts, started⟩
        · refine .inl (readStart_other (fun body decoded accepts => ?_) read)
          by_contra started
          exact goesOn ⟨body, decoded, accepts, started⟩

/-- A command that was started, in the words of `cli_cmd`. -/
def afterStart (dialogue : Dialogue) (body : Dict) : Talk Dict :=
  match body.get "run-status" with
  | none => pure (Dict.error [] s!"_send_cli ({dialogue.shown}) missing 'run-status'")
  | some status =>
    if status.isText "finished" then pure body
    else
      match body.get "xid" with
      | none => throw ⟨.keyError, "xid"⟩
      | some xid => do
        let cliBody ← getCliStatus dialogue xid dialogue.polls
        finishCli dialogue xid cliBody

/-- Without an error, the command goes on after the start. -/
theorem cliCmd_eq : cliCmd dialogue = (sendCli dialogue >>= fun body =>
    if body.has "error" then pure body else afterStart dialogue body) := rfl

/-- Once a command is started, it depends on what is shown of it only, unless the cleanup of a
success is lost. -/
theorem afterStart_congr {xid : ℕ+} {body : Dict} {returned : Dict → Wire → Prop}
    {raised : Failure → Wire → Prop} (shown : safecmd first = safecmd second)
    (inserted : dialogue.table.insert = .ok xid) (found : body ∈ dialogue.start.body)
    (accepts : body.Accepts xid) (started : ¬body.Rejects) (kept : ¬LosesCleanup dialogue) :
    Ends (afterStart (dialogue.withCommand first) body) wire returned raised ↔
      Ends (afterStart (dialogue.withCommand second) body) wire returned raised := by
  unfold afterStart
  cases status : body.get "run-status" with
  | none => simp only [shown_withCommand, shown]
  | some stated =>
    by_cases finished : stated.isText "finished" = true
    · simp only [finished, if_true]
    · dsimp only
      rw [if_neg finished, if_neg finished]
      cases identifier : body.get "xid" with
      | none => rfl
      | some value =>
        dsimp only
        rw [getCliStatus_congr shown, ends_bind, ends_bind]
        apply ends_congr
        refine (@ends_waiting (dialogue.withCommand second) wire value _).mono ?_
          fun _ _ _ => Iff.rfl
        intro cliBody final concluded
        apply finishCli_congr
        intro output unfailed entry closable loss lost
        by_contra printable
        refine kept ⟨xid, entry, body, value, loss, inserted, found, accepts, started, ?_,
          identifier, concluded.usable.mpr (.inl output), concluded.success.mp unfailed, closable,
          lost, by simpa using printable⟩
        simpa [Dict.Says, status] using finished

/-- Unless the cleanup of a success is lost, what comes of a command depends on what is shown of it
only. -/
theorem cliCmd_congr {returned : Dict → Wire → Prop} {raised : Failure → Wire → Prop}
    (shown : safecmd first = safecmd second) (kept : ¬LosesCleanup dialogue) :
    Ends (cliCmd (dialogue.withCommand first)) wire returned raised ↔
      Ends (cliCmd (dialogue.withCommand second)) wire returned raised := by
  rw [cliCmd_eq, cliCmd_eq, sendCli_congr shown, ends_bind, ends_bind]
  apply ends_congr
  refine (@sendCli_result (dialogue.withCommand second) wire).mono ?_ fun _ _ _ => Iff.rfl
  intro body middle result
  cases failed : body.has "error" with
  | true => rw [if_pos rfl, if_pos rfl]
  | false =>
    obtain ⟨xid, inserted, found, accepts, started⟩ := result.resolve_left (by simp [failed])
    rw [if_neg Bool.false_ne_true, if_neg Bool.false_ne_true]
    exact afterStart_congr shown inserted found accepts started kept

/-- The text of a lost cleanup. -/
def cleanupText (cmd : List Char) (loss : Loss) : String :=
  "'/cli' failed for command '" ++ String.ofList cmd ++ "' with: " ++ loss.message

/-- Texts with the same ends differ where what is between them does. -/
theorem between_injective {before after message : String}
    (same : before ++ String.ofList first ++ after ++ message =
      before ++ String.ofList second ++ after ++ message) : first = second := by
  have characters := congrArg String.toList same
  simp only [String.toList_append] at characters
  have middle := List.append_cancel_left
    (List.append_cancel_right (List.append_cancel_right characters))
  rwa [String.toList_ofList, String.toList_ofList] at middle

/-- Different commands have different texts. -/
theorem cleanupText_injective {loss : Loss}
    (same : cleanupText first loss = cleanupText second loss) : first = second :=
  between_injective same

/-- A lost cleanup of a success is what is reported. -/
theorem ends_finishCli_lost {entry : ℕ+} {value : Json} {loss : Loss} {cliBody : Dict}
    (closable : cleanupRequest dialogue.table value = .ok entry)
    (lost : dialogue.cleanup = .lost loss) (printable : isAscii loss.message = true)
    (output : cliBody.has "stdout" = true) (unfailed : cliBody.has "error" = false)
    (cmd : List Char) :
    Ends (finishCli (dialogue.withCommand cmd) value cliBody) wire
      (fun body _ => body.get "error" = some (.text (cleanupText cmd loss))) fun _ _ => False := by
  have usable : ¬(cliBody.has "stdout" = false ∧ cliBody.has "error" = false) := by
    simp [output]
  have shownPlain : ¬(dialogue.withCommand cmd).cleanup.Unprintable := by
    simp [Dialogue.withCommand, lost, Reply.Unprintable, printable]
  have unanswered : (dialogue.withCommand cmd).cleanup.ok = none := by
    simp [Dialogue.withCommand, lost, Reply.ok]
  have closes : cleanupRequest (dialogue.withCommand cmd).table value = .ok entry := closable
  have refused : (dialogue.withCommand cmd).cleanup.refusal (dialogue.withCommand cmd).displayname
      "POST" "/cli" (fun loss =>
        s!"'/cli' failed for command '{(dialogue.withCommand cmd).command}' with: {loss.message}") =
      Dict.error [] (cleanupText cmd loss) := by
    have reply : (dialogue.withCommand cmd).cleanup = .lost loss := lost
    rw [reply]
    rfl
  rw [ends_finishCli usable, ends_sendCleanup, closes]
  dsimp only
  rw [unanswered]
  dsimp only
  have reported (text : String) : chosen cliBody (.object (Dict.error [] text)) =
      .ok (Dict.error [] text) := by
    simp [chosen, unfailed]
  rw [if_neg shownPlain, refused, reported]
  exact Dict.get_set_self [] "error" _

/-- A success whose cleanup is lost is reported with the command as it is. -/
theorem ends_cliCmd_lost {xid entry : ℕ+} {body : Dict} {value : Json} {loss : Loss}
    (lost : CleanupLost dialogue xid entry body value loss) (cmd : List Char) :
    Ends (cliCmd (dialogue.withCommand cmd)) wire
      (fun body _ => body.get "error" = some (.text (cleanupText cmd loss))) fun _ _ => False := by
  obtain ⟨found, identifier, -, running⟩ := @ends_cliCmd_running (dialogue.withCommand cmd) wire xid
    body (fun body _ => body.get "error" = some (.text (cleanupText cmd loss)))
    (fun _ _ => False) lost.inserted lost.found lost.accepts lost.started lost.unfinished
  obtain rfl : value = found := Option.some_inj.mp (lost.identifier.symm.trans identifier)
  rw [running]
  refine ends_waiting.mono ?_ ?_
  · intro cliBody final concluded
    have unfailed : cliBody.has "error" = false := concluded.success.mpr lost.succeeds
    have output : cliBody.has "stdout" = true :=
      (concluded.usable.mp lost.harmless).resolve_right (by simp [unfailed])
    exact ends_finishCli_lost lost.closable lost.lost lost.printable output unfailed cmd
  · rintro failure final ⟨-, harmful⟩
    exact harmful lost.harmless

end Reports

/-! ## When passwords are concealed -/

/-- The error is the outcome of a run. -/
theorem errorText_eq_iff {dialogue : Dialogue} {wire : Wire} {outcome : Except Failure (Option Json)} :
    errorText dialogue wire = outcome ↔ Ends (cliCmd dialogue) wire
      (fun body _ => .ok (body.get "error") = outcome) fun failure _ => .error failure = outcome := by
  unfold errorText Ends
  rcases (cliCmd dialogue).run.run wire with ⟨failure | body, final⟩ <;> rfl

/-- Two passwords look the same exactly if, where both commands are made, they differ in hidden
words only and, where a cleanup is lost after a success, not at all. -/
theorem passwords_concealed_iff (origin : Origin) (dialogue : Dialogue) (wire : Wire)
    (password other : List Char) : Conceals origin dialogue wire password other ↔
      ((origin.command password).isSome → (origin.command other).isSome →
        Alike false (origin.exposed password) (origin.exposed other) ∧
          (LosesCleanup dialogue → password = other)) := by
  constructor
  · intro conceals made otherMade
    obtain ⟨first, made⟩ := Option.isSome_iff_exists.mp made
    obtain ⟨second, otherMade⟩ := Option.isSome_iff_exists.mp otherMade
    obtain ⟨shown, errors⟩ := conceals first second made otherMade
    have alike := (shown_eq_iff made otherMade).mp shown
    refine ⟨alike, ?_⟩
    rintro ⟨xid, entry, body, value, loss, lost⟩
    have text (cmd : List Char) : errorText (dialogue.withCommand cmd) wire =
        .ok (some (.text (cleanupText cmd loss))) :=
      errorText_eq_iff.mpr ((ends_cliCmd_lost lost cmd).mono
        (fun body _ reported => congrArg Except.ok reported) fun _ _ => False.elim)
    rw [text, text] at errors
    simp only [Except.ok.injEq, Option.some.injEq, Json.text.injEq] at errors
    exact (command_eq_iff made otherMade alike).mp (cleanupText_injective errors)
  · intro condition first second made otherMade
    obtain ⟨alike, kept⟩ := condition (by simp [made]) (by simp [otherMade])
    have shown := (shown_eq_iff made otherMade).mpr alike
    refine ⟨shown, ?_⟩
    by_cases loses : LosesCleanup dialogue
    · rw [(command_eq_iff made otherMade alike).mpr (kept loses)]
    · exact errorText_eq_iff.mpr ((cliCmd_congr shown loses).mpr (errorText_eq_iff.mp rfl))

/-- A restore that has finished when it is started. -/
def promptRestore : Dialogue where
  command := ""
  displayname := "Tableau Primary"
  timeout := 3600
  table := plainTable
  start := okReply [("xid", .number 1), ("run-status", .text "finished")]
  polls := []
  kill := okReply []
  cleanup := okReply []

/-- Of a password of two words, the second one is shown. -/
theorem second_word_shown : ¬ ∀ (origin : Origin) (dialogue : Dialogue) (wire : Wire)
    (password other : List Char), Conceals origin dialogue wire password other := by
  intro conceals
  have shown := (conceals (.restoreLocal "C:\\palette\\night.tsbak".toList false) promptRestore
    ⟨0, [], false⟩ "green tea".toList "green oak".toList _ _ rfl rfl).1
  have differ : safecmd (restoreLocalText "C:\\palette\\night.tsbak".toList
      "green tea".toList false) ≠ safecmd (restoreLocalText "C:\\palette\\night.tsbak".toList
      "green oak".toList false) := by
    decide +kernel
  exact differ shown

end Palette.Cli
