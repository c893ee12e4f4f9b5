import EventSocket.Delivery.Dispatcher
import EventSocket.Event.Plain
import EventSocket.Frame.Decoder
import EventSocket.Line
import EventSocket.Session.Pending
import EventSocket.Session.Request
import EventSocket.Transport

/-!
Sessions: a transport past its handshake, the callers that send commands on it, and the reader that
takes in what the switch sends. Whoever writes stands in one line for it, and a command takes its
place among those that wait for replies while its sender is at the front.
-/

namespace EventSocket

/-- Who opened the transport: this side, or the switch for one channel. -/
inductive SessionMode where
  | inbound | outbound
  deriving DecidableEq

def SessionMode.label : SessionMode → String
  | inbound => "Inbound"
  | outbound => "Outbound"

inductive Writer where
  | caller (number : Nat)
  | reader
  deriving DecidableEq

/-- Where a caller stands. Deadlines are points of time in milliseconds. -/
inductive CallerPhase where
  /-- In line to write. -/
  | queued (id : CommandId) (wire : ByteArray)
  /-- At the front of the line; `rest` is still to be written. -/
  | writing (id : CommandId) (rest : ByteArray)
  | awaiting (id : CommandId)
  /-- Closing: in line to end the own stream. -/
  | shutting (deadline : Nat)
  /-- Closing: waiting for the session to end. -/
  | lingering (deadline : Nat)
  /-- Closing: the reader has been told to stop. -/
  | dropping
  /-- Disconnecting: in line to end the own stream. -/
  | detaching
  /-- Waiting for the session to end, and for nothing else. -/
  | watching
  | told (result : Except Fault Answer)

structure Caller where
  number : Nat
  request : Request
  phase : CallerPhase

inductive ReaderPhase where
  | running
  /-- The end has been published; in line to end the own stream. -/
  | hangingUp (reason : EndReason) (deadline : Nat)
  | failing (reason : EndReason)
  /-- Telling the listeners on one lane, and then on the other. -/
  | ending (reason : EndReason) (kind : LaneKind)
  | stopped
  deriving DecidableEq

/-- `patience` is how long leave-taking waits, in milliseconds; `stopRequested` tells the reader to
stop waiting for the switch. -/
structure Session where
  mode : SessionMode
  peerKnown : Bool
  channelData : Option Event
  register : RegisterId
  patience : Nat
  transport : Transport
  state : SessionState
  decoder : Decoder
  reader : ReaderPhase
  writers : Line Writer
  pending : Pending
  nextId : CommandId
  callers : List Caller
  closeRequested : Bool
  stopRequested : Bool
  dispatcher : Dispatcher

namespace Session

/-- A session as a record, without its content. Addresses are not told apart. -/
def record (session : Session) : String :=
  "EslSession \x7b mode: " ++ session.mode.label ++ ", state: " ++ session.state.record ++
    ", peer_addr: " ++ (if session.peerKnown then "Some(ADDR)" else "None") ++ " \x7d"

def caller? (session : Session) (number : Nat) : Option Caller :=
  session.callers.find? fun caller => caller.number = number

def setPhase (session : Session) (number : Nat) (phase : CallerPhase) : Session :=
  { session with
    callers := session.callers.map fun caller =>
      if caller.number = number then { caller with phase } else caller }

def tell (session : Session) (number : Nat) (result : Except Fault Answer) : Session :=
  session.setPhase number (.told result)

def joinLine (session : Session) (writer : Writer) : Session :=
  { session with writers := session.writers.join writer }

def leaveLine (session : Session) (writer : Writer) : Session :=
  { session with writers := session.writers.leave writer }

/-- Ends the own stream on behalf of the writer at the front, which then leaves the line. No clock
is looked at: for as long as the transport takes its time, the writer stays at the front. -/
def shutdown (session : Session) (writer : Writer) : Option (Except String Unit × Session) :=
  let (outcome, transport) := session.transport.shutdown
  let ended := { session with transport }.leaveLine writer
  match outcome with
  | .waiting => none
  | .done => some (.ok (), ended)
  | .failed text => some (.error text, ended)

def endReason (session : Session) (observed : EndReason) : EndReason :=
  if session.closeRequested then .clientRequested else observed

end Session

end EventSocket
