import EventSocket.Command.Response

/-!
Commands that wait for their replies. Replies carry no mark of the command they answer, so each goes
to the command that has waited longest.
-/

namespace EventSocket

inductive Settlement where
  | answered (frame : Frame)
  | withdrawn
  | connectionClosed
  deriving DecidableEq

def Settlement.reply : Settlement → Except Fault Frame
  | answered frame => .ok frame
  | withdrawn | connectionClosed => .error .connectionClosed

/-- `desynced` is set once a reply has come that no command waited for. -/
structure Pending where
  waiting : List CommandId
  settled : List (CommandId × Settlement)
  closed : Bool
  desynced : Bool
  deriving DecidableEq

namespace Pending

def empty : Pending := ⟨[], [], false, false⟩

/-- Lines a command up, unless the connection has been closed. -/
def register (pending : Pending) (id : CommandId) : Option Pending :=
  if pending.closed then none else some { pending with waiting := pending.waiting ++ [id] }

/-- Takes a command back that could not be sent. -/
def withdraw (pending : Pending) (id : CommandId) : Pending :=
  if id ∈ pending.waiting then
    { pending with
      waiting := pending.waiting.filter (· ≠ id)
      settled := pending.settled ++ [(id, .withdrawn)] }
  else pending

def resolve (pending : Pending) (reply : Frame) : Pending :=
  match pending.waiting with
  | [] => { pending with desynced := true }
  | id :: waiting =>
    { pending with waiting, settled := pending.settled ++ [(id, .answered reply)] }

/-- Ends the waiting of every command and takes no more. -/
def failAll (pending : Pending) : Pending :=
  { pending with
    waiting := []
    settled := pending.settled ++ pending.waiting.map (·, .connectionClosed)
    closed := true }

def settlement? (pending : Pending) (id : CommandId) : Option Settlement :=
  (pending.settled.find? fun entry => entry.1 = id).map Prod.snd

end Pending

end EventSocket
