import Palette.Telnet.Session
import Mathlib.Data.List.ReduceOption

/-!
# Calls in step with the server

A call that is refused keeps its connection. If the refusal has more than one line, the
others wait for the next call; if the connection is closed by then, the next call writes to
it all the same. So the calls stay in step as long as each refusal is one line on a
connection that stays open, and the server is not stopped while the object is connected.
-/

namespace Palette.Telnet

open Palette.Foundation

/-- The server acknowledges the call, or it prints one line and keeps the connection. -/
def Call.plain (call : Call) : Bool :=
  match call.answer with
  | some (line :: more, closes) => strip line = "OK".toList || (more.isEmpty && !closes)
  | _ => false

/-- The call is not written, or it is acknowledged or refused in one line; the server is
stopped only if the object is not connected. -/
def inOrder (state : CallState) : CallEvent → Bool
  | .call call => call.plain || !call.fullCommand.all isAscii ||
      (state.connection.isNone && !state.listening)
  | .stop => state.connection.isNone
  | .start => true

/-- The connection that is kept is served, and nothing is left to be read from it. -/
def Fresh (connection : Option Connection) : Prop :=
  ∀ kept ∈ connection, kept.unread = [] ∧ kept.served = true

/-- The connection is fresh, and all calls were in step. -/
structure Synchronised (state : CallState) : Prop where
  fresh : Fresh state.connection
  inStep : ∀ record ∈ state.history, record.InStep

/-- A call that read its own lines only keeps the calls in step. -/
theorem synchronised_after {state : CallState} (synchronised : Synchronised state)
    {connection : Option Connection} {reads : List (Option (Nat × Text))} {outcome : Outcome}
    (fresh : Fresh connection) (own : ∀ line ∈ reads.reduceOption, line.1 = state.calls) :
    Synchronised (state.after connection reads false outcome) where
  fresh := fresh
  inStep := by
    intro record member
    rcases List.mem_append.mp member with earlier | now
    · exact synchronised.inStep record earlier
    · obtain rfl := List.mem_singleton.mp now
      exact ⟨rfl, own⟩

/-- Whatever is read from a connection is one of its lines. -/
theorem readline_own {connection next : Connection} {line : Option (Nat × Text)} {number : Nat}
    (own : ∀ unread ∈ connection.unread, unread.1 = number)
    (reads : connection.readline = some (line, next)) :
    (∀ found ∈ line, found.1 = number) ∧ ∀ unread ∈ next.unread, unread.1 = number := by
  unfold Connection.readline at reads
  split at reads
  · rename_i first more same
    obtain ⟨rfl, rfl⟩ := Prod.mk.inj (Option.some.inj reads)
    rw [same] at own
    obtain ⟨head, others⟩ := List.forall_mem_cons.mp own
    refine ⟨fun found isFirst => ?_, others⟩
    obtain rfl := Option.mem_some_iff.mp isFirst
    exact head
  · split at reads
    · cases reads
    · obtain ⟨rfl, rfl⟩ := Prod.mk.inj (Option.some.inj reads)
      exact ⟨fun found isFirst => absurd isFirst (Option.not_mem_none found), own⟩

/-- A call over a fresh connection stays in step. -/
theorem exchange_synchronised {state next : CallState} {connection : Connection} {call : Call}
    (synchronised : Synchronised state) (fresh : Fresh (some connection))
    (plain : call.plain = true ∨ call.fullCommand.all isAscii = false)
    (ends : state.exchange connection call = some next) : Synchronised next := by
  obtain ⟨nothing, served⟩ := fresh connection rfl
  unfold CallState.exchange at ends
  simp only [served, Bool.not_true, Bool.false_and, Bool.false_eq_true, ite_false] at ends
  split at ends
  · obtain rfl := Option.some.inj ends
    exact synchronised_after synchronised fresh fun line member =>
      absurd member List.not_mem_nil
  · rename_i encodable
    have plain : call.plain = true := plain.resolve_right (by simpa using encodable)
    unfold Call.plain at plain
    split at plain
    · rename_i line more closes answered
      -- The connection has exactly what the server printed for this call.
      have written : connection.write state.calls call =
          some ⟨(state.calls, line) :: more.map fun line => (state.calls, line), !closes⟩ := by
        rw [Connection.write, if_pos served, answered, Option.map_some, nothing]
        rfl
      have rest_own : ∀ unread ∈ more.map fun line => (state.calls, line),
          unread.1 = state.calls := by
        intro unread member
        obtain ⟨text, -, rfl⟩ := List.mem_map.mp member
        rfl
      have reads : Connection.readline
          ⟨(state.calls, line) :: more.map fun line => (state.calls, line), !closes⟩ =
            some (some (state.calls, line), ⟨more.map fun line => (state.calls, line), !closes⟩) :=
        rfl
      rw [written] at ends
      simp only [Option.bind_eq_bind, Option.bind_some, reads, textOf] at ends
      split at ends
      · rename_i refused
        obtain rfl := Option.some.inj ends
        have single : more = [] ∧ closes = false := by
          have isSingle := (Bool.or_eq_true_iff.mp plain).resolve_left (by simpa using refused)
          simpa using isSingle
        obtain ⟨rfl, rfl⟩ := single
        refine synchronised_after synchronised ?_ ?_
        · rintro kept isKept
          obtain rfl := Option.mem_some_iff.mp isKept
          exact ⟨rfl, rfl⟩
        · intro found member
          obtain rfl := List.mem_singleton.mp member
          rfl
      · split at ends
        · obtain rfl := Option.some.inj ends
          refine synchronised_after synchronised (fun kept isKept => by cases isKept) ?_
          intro found member
          obtain rfl := List.mem_singleton.mp member
          rfl
        · obtain ⟨⟨response, after⟩, reads, ends⟩ := Option.bind_eq_some_iff.mp ends
          obtain rfl := Option.some.inj ends
          have own := (readline_own rest_own reads).1
          refine synchronised_after synchronised (fun kept isKept => by cases isKept) ?_
          intro found member
          have among := List.reduceOption_mem_iff.mp member
          rcases List.mem_cons.mp among with first | second
          · rw [Option.some.inj first]
          · exact own found (List.mem_singleton.mp second).symm
    · cases plain

/-- An event in order keeps the calls in step. -/
theorem step_synchronised {state next : CallState} {event : CallEvent}
    (synchronised : Synchronised state) (allowed : inOrder state event = true)
    (stepped : state.step event = some next) : Synchronised next := by
  cases event with
  | call call =>
    simp only [inOrder, Bool.or_eq_true, Bool.and_eq_true, Bool.not_eq_true'] at allowed
    simp only [CallState.step, CallState.sendCmd] at stepped
    cases connected : state.connection with
    | some connection =>
      rw [connected] at stepped allowed
      have fresh := synchronised.fresh
      rw [connected] at fresh
      exact exchange_synchronised synchronised fresh
        (allowed.resolve_right (by simp)) stepped
    | none =>
      rw [connected] at stepped allowed
      cases listens : state.listening with
      | true =>
        have fresh : Fresh (some ⟨[], true⟩) := by
          intro kept isKept
          obtain rfl := Option.mem_some_iff.mp isKept
          exact ⟨rfl, rfl⟩
        rw [listens] at stepped allowed
        exact exchange_synchronised synchronised fresh
          (allowed.resolve_right (by simp)) stepped
      | false =>
        rw [listens] at stepped
        obtain rfl := Option.some.inj stepped
        exact synchronised_after synchronised (fun kept isKept => by cases isKept) fun line member =>
          absurd member List.not_mem_nil
  | stop =>
    have notConnected : state.connection = none := Option.isNone_iff_eq_none.mp allowed
    obtain rfl := Option.some.inj stepped
    refine ⟨?_, synchronised.inStep⟩
    rw [notConnected]
    exact fun kept isKept => by cases isKept
  | start =>
    obtain rfl := Option.some.inj stepped
    exact ⟨synchronised.fresh, synchronised.inStep⟩

/-- In a run of events in order every call reads the lines that were printed for it. -/
theorem calls_in_step {state : CallState}
    (reachable : (callMachine.restrict fun state event => inOrder state event = true).Reachable
      state) : ∀ record ∈ state.history, record.InStep := by
  have invariant : (callMachine.restrict fun state event =>
      inOrder state event = true).Invariant Synchronised := by
    constructor
    · rintro start ⟨notConnected, -, nothing⟩
      constructor
      · rw [notConnected]
        exact fun kept isKept => by cases isKept
      · rw [nothing]
        exact fun record member => absurd member List.not_mem_nil
    · intro state event next synchronised stepped
      obtain ⟨allowed, stepped⟩ := Machine.restrict_step_eq_some.mp stepped
      exact step_synchronised synchronised allowed stepped
  exact (invariant.reachable reachable).inStep

/-- A call without a user that reads the response. -/
def plainCall (cmd : String) (printed : List String) : Call where
  cmd := cmd.toList
  userid := none
  readResponse := true
  skipOnWrongState := false
  performances := [.returned (printed.map String.toList)]
  writeRaises := false

/-- The state in the beginning, with a server that listens. -/
def idle : CallState := ⟨true, none, 0, []⟩

/-- A refusal of one line, and a call over the connection that it left. -/
def refusedThenDone : List CallEvent :=
  [.call (plainCall "backup" ["ERROR 20 Busy with another user request"]),
    .call (plainCall "status" ["OK", "\x7b\"status\": \"OK\"\x7d"]), .stop]

theorem calls_in_step_after_refusal :
    ∃ state, callMachine.run idle refusedThenDone = some state ∧ state.calls = 2 ∧
      ∀ record ∈ state.history, record.InStep := by
  have reached : ((callMachine.restrict fun state event => inOrder state event = true).run idle
      refusedThenDone).isSome = true := rfl
  obtain ⟨state, run⟩ := Option.isSome_iff_exists.mp reached
  have runs := Machine.run_of_restrict run
  refine ⟨state, runs, ?_, calls_in_step ⟨idle, refusedThenDone, ⟨rfl, rfl, rfl⟩, run⟩⟩
  have count : (callMachine.run idle refusedThenDone).map CallState.calls = some 2 := rfl
  rw [runs] at count
  exact Option.some.inj count

/-- A refusal of two lines, and a call over the connection that it left. -/
def usageThenStatus : List CallEvent :=
  [.call (plainCall "sched"
      ["ERROR 1 usage: sched [status]\nNote: dow uses 0 for Monday while cron dow uses 0"]),
    .call (plainCall "status" ["OK", "\x7b\"status\": \"OK\"\x7d"])]

/-- After a usage text of two lines the next call reads the second of them. -/
theorem usage_is_read_later :
    ¬ ∀ state, callMachine.Reachable state → ∀ record ∈ state.history, record.InStep := by
  intro all
  have reached : (callMachine.run idle usageThenStatus).isSome = true := rfl
  obtain ⟨state, run⟩ := Option.isSome_iff_exists.mp reached
  have inStep := all state ⟨idle, usageThenStatus, ⟨rfl, rfl, rfl⟩, run⟩
  have mixed : (callMachine.run idle usageThenStatus).map (fun state =>
      state.history.all fun record => record.reads.all fun line => line.1 = record.number) =
        some false := rfl
  rw [run] at mixed
  have every : (state.history.all fun record =>
      record.reads.all fun line => line.1 = record.number) = true := by
    simp only [List.all_eq_true, decide_eq_true_eq]
    exact fun record member => (inStep record member).2
  exact absurd (every.symm.trans (Option.some.inj mixed)) (by decide)

end Palette.Telnet
