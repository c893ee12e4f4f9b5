import EventSocket.Event.Basic
import EventSocket.Session.State

/-!
Listeners and the registers they are entered in. A register can be shared by several sessions; a
fork of it starts with the same listeners and goes its own way.
-/

namespace EventSocket

inductive Callback where
  | event (event : Event)
  | job (event : Event)
  | disconnected (reason : EndReason)
  deriving DecidableEq

inductive Outcome where
  | done | failed | panicked
  deriving DecidableEq

inductive Manner where
  | steady | failing | panicking | panickingAtEnd
  deriving DecidableEq

def Manner.outcome : Manner → Callback → Outcome
  | failing, .event _ | failing, .job _ => .failed
  | panicking, .event _ | panicking, .job _ => .panicked
  | panickingAtEnd, .disconnected _ => .panicked
  | _, _ => .done

/-- A listener without a seat does nothing with what it is told. -/
structure Listener where
  seat : Option Nat
  manner : Manner
  deriving DecidableEq

structure RegisterId where
  index : Nat
  deriving DecidableEq

structure Registers where
  lists : List (List Listener)
  deriving DecidableEq

namespace Registers

def empty : Registers := ⟨[]⟩

def listeners (registers : Registers) (id : RegisterId) : List Listener :=
  registers.lists.getD id.index []

def create (registers : Registers) (listeners : List Listener) : RegisterId × Registers :=
  (⟨registers.lists.length⟩, ⟨registers.lists ++ [listeners]⟩)

def fork (registers : Registers) (id : RegisterId) : RegisterId × Registers :=
  registers.create (registers.listeners id)

def add (registers : Registers) (id : RegisterId) (listener : Listener) : Registers :=
  ⟨registers.lists.modify id.index (· ++ [listener])⟩

def record (registers : Registers) (id : RegisterId) : String :=
  "Listeners \x7b count: " ++ toString (registers.listeners id).length ++ " \x7d"

end Registers

end EventSocket
