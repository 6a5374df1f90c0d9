import Palette.Commands.Reply

/-!
# How the generation of an event ends

Everything that reports something calls `event_control.gen`. Nothing is generated for a
disabled agent. An incomplete row is committed before the texts are made, and the complete one
after that; then the mails are sent. Each commit is one of the session of the caller.
-/

namespace Palette.Events

open Palette.Commands (Failure)

/-- How the generation of an event ends, as far as its caller sees it. -/
inductive Generation where
  | skipped
  | raised (failure : Failure)
  | incomplete (failure : Failure)
  | generated (raises : Option Failure)
  deriving DecidableEq, Repr

end Palette.Events
