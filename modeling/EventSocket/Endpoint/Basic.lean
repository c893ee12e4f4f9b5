import EventSocket.Session.Connection

/-!
This side of all connections: a clock, the registers of listeners, and the calls under way. As a
client it keeps one session at a time and opens one after another; as a server it takes what the
switch dials in, each with listeners of its own.
-/

namespace EventSocket

inductive CallOutcome where
  | opened (connection : Nat)
  | answered (answer : Answer)
  deriving DecidableEq

inductive CallPhase where
  | onSession (connection : Nat)
  | opening (connection : Nat)
  /-- Client: in line to connect. -/
  | inLine (connection : Nat) (plan : OpeningPlan)
  /-- Client: the session before is being closed. -/
  | relieving (connection : Nat) (plan : OpeningPlan) (before : Nat)
  /-- Server: waiting for the switch to dial in. -/
  | accepting
  | finished (result : Except Fault CallOutcome)

structure Call where
  number : Nat
  phase : CallPhase

/-- The client's side. `line` holds the attempts to connect, `current` is the connection of the
session in use and `latest` that of the latest attempt. -/
structure Desk where
  line : Line Nat
  current : Option Nat
  latest : Option Nat
  deriving DecidableEq

/-- The server's side: connections that have not been accepted, and the calls that accept. -/
structure Reception where
  arrivals : List Nat
  line : Line Nat
  deriving DecidableEq

/-- `threads` is what the system will answer when the sessions now begun ask for threads. -/
structure Endpoint where
  now : Nat
  settings : Settings
  threads : LaneThreads
  registers : Registers
  register : RegisterId
  audience : Audience
  connections : List Connection
  sessions : List Nat
  calls : List Call
  nextCall : Nat
  desk : Desk
  reception : Reception

namespace Endpoint

def new (settings : Settings) : Endpoint :=
  let (register, registers) := Registers.empty.create []
  { now := 0
    settings
    threads := .granted
    registers
    register
    audience := .empty
    connections := []
    sessions := []
    calls := []
    nextCall := 0
    desk := ⟨.empty, none, none⟩
    reception := ⟨[], .empty⟩ }

def connection? (endpoint : Endpoint) (index : Nat) : Option Connection :=
  endpoint.connections[index]?

def session? (endpoint : Endpoint) (index : Nat) : Option Session :=
  (endpoint.connection? index).bind Connection.session?

def mapConnection (endpoint : Endpoint) (index : Nat) (change : Connection → Connection) :
    Endpoint :=
  { endpoint with connections := endpoint.connections.modify index change }

def mapTransport (endpoint : Endpoint) (index : Nat) (change : Transport → Transport) : Endpoint :=
  endpoint.mapConnection index (.mapTransport change)

def mapSession (endpoint : Endpoint) (index : Nat) (change : Session → Session) : Endpoint :=
  endpoint.mapConnection index (.mapSession change)

def addTransport (endpoint : Endpoint) : Nat × Endpoint :=
  (endpoint.connections.length,
    { endpoint with connections := endpoint.connections ++ [.idle .new] })

def begin (endpoint : Endpoint) (index : Nat) (plan : OpeningPlan) : Endpoint :=
  endpoint.mapConnection index fun connection => connection.start plan endpoint.now

def listen (endpoint : Endpoint) (register : RegisterId) (manner : Option Manner) : Endpoint :=
  let (listener, audience) := endpoint.audience.welcome manner
  { endpoint with audience, registers := endpoint.registers.add register listener }

def addCall (endpoint : Endpoint) (phase : CallPhase) : Nat × Endpoint :=
  (endpoint.nextCall,
    { endpoint with
      calls := endpoint.calls ++ [⟨endpoint.nextCall, phase⟩]
      nextCall := endpoint.nextCall + 1 })

def setPhase (endpoint : Endpoint) (number : Nat) (phase : CallPhase) : Endpoint :=
  { endpoint with
    calls := endpoint.calls.map fun call =>
      if call.number = number then { call with phase } else call }

def finish (endpoint : Endpoint) (number : Nat) (result : Except Fault CallOutcome) : Endpoint :=
  endpoint.setPhase number (.finished result)

/-- The calls that are over, and the endpoint with the others. -/
def takeFinished (endpoint : Endpoint) : List (Nat × Except Fault CallOutcome) × Endpoint :=
  (endpoint.calls.filterMap fun call =>
      match call.phase with
      | .finished result => some (call.number, result)
      | _ => none,
    { endpoint with
      calls := endpoint.calls.filter fun call =>
        match call.phase with
        | .finished _ => false
        | _ => true })

end Endpoint

end EventSocket
