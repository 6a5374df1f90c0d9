import Palette.Http.Alerts
import Palette.Load.Queries

/-!
# Loading the requests

A load prunes the local rows beyond the greatest remote one, reads the users, and asks
for the rows after the greatest local one, or for a single placeholder if there is none.
The rows are added in batches. A batch is committed and tested when the next one begins;
the last one is committed after the loop.

A query that fails may remove the agent, which commits what the session has done so far.
What is not committed when a load ends is rolled back. The rows that loads have committed
and the rows that were tested are kept as logs.
-/

namespace Palette.Http

open Palette.Commands Palette.Foundation Palette.Load Palette.Sync Script

/-! ## Replies -/

/-- A remote row. Its conversion may raise. -/
structure RemoteRow where
  request : Request
  raises : Option Failure
  deriving DecidableEq, Repr

/-- What comes back for the query of the rows. A reply with rows may lack the schema. -/
inductive RowsReply where
  | error (message : String)
  | missing
  | rows (schema : Bool) (rows : List RemoteRow)
  deriving DecidableEq, Repr

/-- The rows that a reply carries. -/
def RowsReply.fetched : RowsReply → List RemoteRow
  | rows _ fetched => fetched
  | _ => []

/-- `_get_last_http_requests_id`. An error is not looked at. -/
def getLastHttpRequestsId (data : OdbcReply) : Except Failure Int := firstId data

/-! ## The table -/

/-- A stored request. -/
structure Entry where
  envid : Nat
  request : Request
  systemUserId : Owners.Id
  deriving DecidableEq, Repr

/-- The table with a session on it, the requests that are added but not committed, and
the logs. -/
structure Store where
  committed : List Entry
  view : List Entry
  pending : List Request
  stored : List Request
  tested : List Request
  sent : List Sent
  deriving DecidableEq, Repr

/-- A script of a load. -/
abbrev Job (Value : Type) : Type := Script Store Failure Value

/-- Everything that a load meets. The database may refuse a commit. -/
structure Load where
  envid : Nat
  busy : Bool
  maximum : Query OdbcReply
  users : Query Owners.UsersReply
  rows : Query RowsReply
  control : Control
  accepts : List Entry → Bool

/-- What a load returns. -/
inductive LoadReply where
  | failure (error : String)
  | ok (count : Nat)
  deriving DecidableEq, Repr

/-- The reply has the key `error`. -/
def LoadReply.Failed : LoadReply → Prop
  | failure _ => True
  | ok _ => False

namespace Store

/-- Commit the view. -/
def saved (store : Store) : Store :=
  { store with
    committed := store.view, pending := [], stored := store.stored ++ store.pending }

/-- Give up what is not committed. -/
def undone (store : Store) : Store := { store with view := store.committed, pending := [] }

/-- Delete the rows of an environment beyond a number. -/
def pruned (store : Store) (envid : Nat) (maxid : Int) : Store :=
  { store with
    view := store.view.filter fun entry => ¬(entry.envid = envid ∧ maxid < entry.request.id) }

/-- Add a row. -/
def added (store : Store) (entry : Entry) : Store :=
  { store with view := store.view ++ [entry], pending := store.pending ++ [entry.request] }

/-- `HttpRequestEntry.maxid`. -/
def maxid (store : Store) (envid : Nat) : Option Int :=
  ((store.view.filter fun entry => entry.envid = envid).map fun entry => entry.request.id).max?

end Store

namespace Load

variable (load : Load)

/-- `session.commit()`. -/
def commit : Job PUnit := do
  if load.accepts (← get).view then modify Store.saved
  else throw ⟨.otherException, "IntegrityError"⟩

/-- `_prune`. -/
def prune : Job PUnit := do
  let data ← load.maximum.ask Store.saved
  let maxid ← settle (getLastHttpRequestsId data)
  modify fun store => store.pruned load.envid maxid

/-- Pass a row through the alert test. -/
def test (rows : List Request) (request : Request) : Job PUnit := do
  modify fun store => { store with tested := store.tested ++ [request] }
  let table := (← get).view.map Entry.request
  match ← settle (testForAlerts load.control rows table request) with
  | some sent => modify fun store => { store with sent := store.sent ++ [sent] }
  | none => pure ⟨⟩

/-- Pass rows through the alert test. -/
def testAll (rows : List Request) : List Request → Job PUnit
  | [] => pure ⟨⟩
  | request :: rest => do
    load.test rows request
    testAll rows rest

/-- Finish a batch: commit it, and test it unless the table was empty. -/
def finishBatch (maxid : Option Int) (rows : List Request) : Job PUnit := do
  load.commit
  if maxid.isSome then load.testAll rows rows

/-- Convert and add a row. -/
def addRow (users : Owners.Users) (row : RemoteRow) : Job PUnit :=
  match row.raises with
  | some failure => throw failure
  | none => modify fun store =>
    store.added ⟨load.envid, row.request, users.get row.request.siteId row.request.userId⟩

/-- The loop over the rows, with its counter and the rows of the batch. -/
def loop (users : Owners.Users) (maxid : Option Int) :
    Nat → List Request → List RemoteRow → Job PUnit
  | counter, _, [] => do
    if counter ≠ 0 then load.commit
  | counter, rows, row :: rest =>
    if counter % 1000 = 0 then do
      if counter ≠ 0 then load.finishBatch maxid rows
      load.addRow users row
      loop users maxid (counter + 1) [row.request] rest
    else do
      load.addRow users row
      loop users maxid (counter + 1) (rows ++ [row.request]) rest

/-- `HttpRequestManager.load`. -/
def run : Job LoadReply :=
  if load.busy then pure (.failure "http_requests: busy")
  else do
    load.prune
    let usersReply ← load.users.ask Store.saved
    let users ← settle (Owners.loadUsers usersReply)
    let maxid := (← get).maxid load.envid
    match ← load.rows.ask Store.saved with
    | .error message => pure (.failure message)
    | .missing => pure (.failure "Missing '' key in query response.")
    | .rows false _ => throw ⟨.keyError, "$schema"⟩
    | .rows true rows => do
      load.loop users maxid 0 [] rows
      pure (.ok rows.length)

/-- The outcome of a load in a new session, and the table once its command has ended. -/
def perform (store : Store) : Except Failure LoadReply × Store :=
  let outcome := load.run.run.run store.undone
  (outcome.1, outcome.2.undone)

end Load

end Palette.Http
