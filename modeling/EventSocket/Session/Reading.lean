import EventSocket.Session.Basic

/-!
The reader of a session. It routes every whole frame before it reads on: replies to the command that
has waited longest, events to the dispatcher. The end of a session is published first; then the own
stream is ended, the commands still waiting are told, and last the listeners.
-/

namespace EventSocket.Session

def endWith (session : Session) (now : Nat) (reason : EndReason) : Session :=
  { session with
    state := .closed reason
    reader := .hangingUp reason (now + session.patience) }.joinLine .reader

/-- A notice of the end does not end the session if the switch lingers. -/
def lingers (frame : Frame) : Bool := frame.header? contentDispositionName = some "linger"

def route (session : Session) (now : Nat) (frame : Frame) : Session :=
  match frame.kind with
  | .commandReply | .apiResponse => { session with pending := session.pending.resolve frame }
  | .event =>
    match Event.ofFrame frame with
    | .ok event => { session with dispatcher := session.dispatcher.dispatch event }
    | .error fault => session.endWith now (.protocolError fault.message)
  | .disconnectNotice =>
    if lingers frame then session else session.endWith now (session.endReason .serverNotice)
  | .authRequest | .logData | .other _ => session

/-- Whether a turn that reads at most `most` bytes heeds a request to stop. It need not if there is
anything to read: which of the two comes first is open, and a turn that may read nothing is one in
which the request does. -/
def heedsStop (session : Session) (most : Nat) : Bool :=
  session.stopRequested && (most = 0 || (session.transport.read most).1 = .waiting)

/-- Reads at most `most` bytes, or notices a request to stop. -/
def readOn (session : Session) (now most : Nat) : Option Session :=
  if session.heedsStop most then
    some ({ session with stopRequested := false }.endWith now .clientRequested)
  else
    let (outcome, transport) := session.transport.read most
    match outcome with
    | .waiting => none
    | .read bytes =>
      match session.decoder.feed bytes with
      | .ok decoder => some { session with transport, decoder }
      | .error fault =>
        some ({ session with transport }.endWith now (.protocolError fault.message))
    | .failed text => some (session.endWith now (session.endReason (.ioError text)))
    | .ended => some (session.endWith now (session.endReason .connectionClosed))

/-- The next turn of the reader, or nothing while it has to wait. -/
def readerTurn (session : Session) (now most : Nat) : Option Session :=
  match session.reader with
  | .running =>
    match session.decoder.next with
    | (.ok (some frame), decoder) => some ({ session with decoder }.route now frame)
    | (.ok none, decoder) => { session with decoder }.readOn now most
    | (.error fault, decoder) =>
      some ({ session with decoder }.endWith now (.protocolError fault.message))
  | .hangingUp reason deadline =>
    if session.writers.serves .reader then
      (session.shutdown .reader).map fun ended => { ended.2 with reader := .failing reason }
    else if deadline ≤ now then
      some { session.leaveLine .reader with reader := .failing reason }
    else none
  | .failing reason =>
    some { session with pending := session.pending.failAll, reader := .ending reason .general }
  | .ending reason kind =>
    (session.dispatcher.pushEnding kind reason).map fun dispatcher =>
      match kind with
      | .general => { session with dispatcher, reader := .ending reason .jobs }
      | .jobs => { session with dispatcher, reader := .stopped }
  | .stopped => none

end EventSocket.Session
