import EventSocket.Session.Opening
import EventSocket.Session.Settling

/-!
Connections: a transport from the time it is there, through the opening of a session on it, to the
end of that session or of the attempt.
-/

namespace EventSocket

inductive Connection where
  /-- Nobody has begun to open a session. -/
  | idle (transport : Transport)
  | opening (opening : Opening)
  | live (session : Session)
  | failed (transport : Transport) (fault : Fault)
  /-- Whoever was opening a session has gone away. -/
  | abandoned (transport : Transport) (state : SessionState)

namespace Connection

def transport : Connection → Transport
  | idle transport | failed transport _ | abandoned transport _ => transport
  | opening attempt => attempt.transport
  | live session => session.transport

def mapTransport (change : Transport → Transport) : Connection → Connection
  | idle transport => idle (change transport)
  | opening attempt => opening { attempt with transport := change attempt.transport }
  | live session => live { session with transport := change session.transport }
  | failed transport fault => failed (change transport) fault
  | abandoned transport state => abandoned (change transport) state

def state : Connection → SessionState
  | idle _ => .disconnected
  | opening attempt => attempt.state
  | live session => session.state
  | failed _ fault => Opening.failure fault
  | abandoned _ state => state

def session? : Connection → Option Session
  | live session => some session
  | _ => none

def mapSession (change : Session → Session) : Connection → Connection
  | live session => live (change session)
  | connection => connection

def start (connection : Connection) (plan : OpeningPlan) (now : Nat) : Connection :=
  match connection with
  | idle transport => opening (.start plan now transport)
  | connection => connection

/-- Whoever opens a session goes away and takes the transport along. -/
def abandon : Connection → Connection
  | idle transport => abandoned transport.drop .disconnected
  | opening attempt => abandoned attempt.transport.drop attempt.state
  | connection => connection

/-- More turns than an opening can take before it waits or is over. -/
def patienceFor (attempt : Opening) : Nat :=
  2 * attempt.transport.available + attempt.decoder.buffered + 16

/-- Takes turns until the opening waits or is over. -/
def takeTurns (now : Nat) : Nat → Opening → Connection
  | 0, attempt => opening attempt
  | turns + 1, attempt =>
    match attempt.turn now (max readLimit attempt.unwritten) with
    | .waiting => opening attempt
    | .goesOn attempt => takeTurns now turns attempt
    | .ready attempt channelData => live (attempt.session channelData)
    | .fails fault => failed attempt.transport.drop fault

/-- Lets an opening go on; a session that comes of it is ready and has not taken a turn. -/
def settleOpening (connection : Connection) (now : Nat) : Connection :=
  match connection with
  | opening attempt => takeTurns now (patienceFor attempt) attempt
  | connection => connection

def settleSession (connection : Connection) (now : Nat) (registers : Registers)
    (audience : Audience) : Connection × Audience :=
  match connection with
  | live session =>
    let (session, audience) := session.settle now registers audience
    (live session, audience)
  | connection => (connection, audience)

end Connection

end EventSocket
