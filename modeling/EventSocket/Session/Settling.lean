import EventSocket.Delivery.Audience
import EventSocket.Session.Calling
import EventSocket.Session.Reading

/-!
Letting a session go on until everyone in it waits: for the switch, for the clock or for a listener.
-/

namespace EventSocket

def CallerPhase.unwritten : CallerPhase → Nat
  | queued _ wire => wire.size
  | writing _ rest => rest.size
  | _ => 0

namespace Session

/-- The first turn that someone can take. The reader comes before the callers and these come in the
order in which they called. -/
def turn (session : Session) (now : Nat) : Option Session :=
  match session.readerTurn now readLimit with
  | some session => some session
  | none =>
    session.callers.findSome? fun caller =>
      session.callerTurn now caller.phase.unwritten caller

/-- More turns than can be taken before everyone waits: a read takes a byte from the transport, a
frame takes one from the decoder, and a caller or the end of a session has so many turns at most. -/
def patienceFor (session : Session) : Nat :=
  2 * session.transport.available + session.decoder.buffered + 16 * session.callers.length + 16

def takeTurns (now : Nat) (listeners : List Listener) :
    Nat → Session → Audience → Session × Audience
  | 0, session, audience => (session, audience)
  | turns + 1, session, audience =>
    let (dispatcher, audience) := session.dispatcher.deliver listeners audience
    let session := { session with dispatcher }
    match session.turn now with
    | none => (session, audience)
    | some session => takeTurns now listeners turns session audience

def settle (session : Session) (now : Nat) (registers : Registers) (audience : Audience) :
    Session × Audience :=
  takeTurns now (registers.listeners session.register) session.patienceFor session audience

end Session

end EventSocket
