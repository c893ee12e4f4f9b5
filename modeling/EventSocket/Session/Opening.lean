import EventSocket.Session.Basic

/-!
Opening a session. A transport that this side opened begins with a greeting of the switch, to which
credentials are the answer; on one that the switch opened, this side begins and is told about the
channel. All of it has to be over before the deadline.
-/

namespace EventSocket

inductive Credentials where
  | password (secret : String)
  | user (name secret : String)
  deriving DecidableEq

namespace Credentials

/-- Users are known to the switch by name and domain. -/
def check : Credentials → Except Fault Unit
  | password _ => .ok ()
  | user name _ =>
    if name.toList.contains '@' then .ok ()
    else
      .error (.authentication ("Invalid username format '" ++ name ++
        "': must be user@domain (e.g., admin@default)"))

def command : Credentials → Command
  | password secret => .auth secret
  | user name secret => .userauth name secret

end Credentials

inductive Handshake where
  | inbound (credentials : Credentials)
  | outbound
  deriving DecidableEq

def Handshake.mode : Handshake → SessionMode
  | inbound _ => .inbound
  | outbound => .outbound

/-- What there is of a transport. While dialing goes on there is none yet. -/
inductive Link where
  | pending
  | stream
  | dialed
  | unreachable (text : String)
  deriving DecidableEq

/-- What dialing comes to on a host without a network. -/
def Link.withoutNetwork : Link := .unreachable "Network is unreachable (os error 101)"

inductive OpeningPhase where
  | dialing
  | greeting
  | sending (rest : ByteArray)
  | replying
  deriving DecidableEq

structure OpeningPlan where
  handshake : Handshake
  link : Link
  settings : Settings
  register : RegisterId
  threads : LaneThreads
  deriving DecidableEq

structure Opening extends OpeningPlan where
  deadline : Nat
  transport : Transport
  decoder : Decoder
  phase : OpeningPhase

inductive OpeningTurn where
  | waiting
  | goesOn (opening : Opening)
  | ready (opening : Opening) (channelData : Option Event)
  | fails (fault : Fault)

namespace Opening

def start (plan : OpeningPlan) (now : Nat) (transport : Transport) : Opening where
  toOpeningPlan := plan
  deadline := now + plan.settings.timeout
  transport := transport
  decoder := .new
  phase := .dialing

def state (opening : Opening) : SessionState :=
  match opening.phase with
  | .dialing => .connecting
  | .greeting | .sending _ | .replying => .handshaking

def send (opening : Opening) (command : Command) : OpeningTurn :=
  match command.wire with
  | .ok wire => .goesOn { opening with phase := .sending wire.toUTF8 }
  | .error cause => .fails (.invalidCommand cause)

def dial (opening : Opening) : OpeningTurn :=
  match opening.handshake, opening.link with
  | .inbound credentials, link =>
    match credentials.check, link with
    | .error fault, _ => .fails fault
    | .ok _, .pending => .waiting
    | .ok _, .unreachable text => .fails (.io text)
    | .ok _, .stream | .ok _, .dialed => .goesOn { opening with phase := .greeting }
  | .outbound, .pending => .waiting
  | .outbound, .unreachable text => .fails (.io text)
  | .outbound, .stream | .outbound, .dialed => opening.send .connect

def greet (opening : Opening) (frame : Frame) : OpeningTurn :=
  match opening.handshake, frame.kind with
  | .inbound credentials, .authRequest => opening.send credentials.command
  | _, _ => .fails (.handshake (.unexpected .authRequest frame.summary))

/-- The reply to credentials accepts them or not. -/
def checkAuthReply (frame : Frame) : Except Fault Unit :=
  match frame.kind, frame.replyText? with
  | .commandReply, some text =>
    if beginsWith okMark text then .ok () else .error (.authentication text)
  | .commandReply, none => .error (.handshake .noReplyText)
  | _, _ => .error (.handshake (.unexpected .authReply frame.summary))

/-- The reply on an outbound transport describes the channel. -/
def channelData (frame : Frame) : Except Fault Event :=
  match frame.kind with
  | .commandReply =>
    match Event.ofChannelData frame with
    | .error fault => .error (.handshake (.channelData fault.message))
    | .ok event =>
      if event.isType .channelData then .ok event
      else .error (.handshake (.notChannelData event.name))
  | _ => .error (.handshake (.unexpected .connectReply frame.summary))

/-- The switch has accepted. The session still needs the threads of its dispatcher. -/
def conclude (opening : Opening) (channelData : Option Event) : OpeningTurn :=
  match opening.threads.refusal? with
  | some text => .fails (.io text)
  | none => .ready opening channelData

def takeReply (opening : Opening) (frame : Frame) : OpeningTurn :=
  match opening.handshake with
  | .inbound _ =>
    match checkAuthReply frame with
    | .ok _ => opening.conclude none
    | .error fault => .fails fault
  | .outbound =>
    match channelData frame with
    | .ok event => opening.conclude (some event)
    | .error fault => .fails fault

def readOn (opening : Opening) (most : Nat) : OpeningTurn :=
  let (outcome, transport) := opening.transport.read most
  match outcome with
  | .waiting => .waiting
  | .read bytes =>
    match opening.decoder.feed bytes with
    | .ok decoder => .goesOn { opening with transport, decoder }
    | .error fault => .fails fault
  | .failed text => .fails (.io text)
  | .ended => .fails .connectionClosed

def awaitFrame (opening : Opening) (most : Nat) (take : Opening → Frame → OpeningTurn) :
    OpeningTurn :=
  match opening.decoder.next with
  | (.ok (some frame), decoder) => take { opening with decoder } frame
  | (.ok none, decoder) => { opening with decoder }.readOn most
  | (.error fault, _) => .fails fault

/-- Writes at most `most` bytes. The flush behind the last byte is part of writing that byte. -/
def writeOn (opening : Opening) (most : Nat) (rest : ByteArray) : OpeningTurn :=
  let (outcome, transport) := opening.transport.write (rest.extract 0 most)
  match outcome with
  | .waiting => .waiting
  | .failed text => .fails (.io text)
  | .written =>
    let rest := rest.extract most rest.size
    .goesOn { opening with
      transport
      phase := if rest.isEmpty then .replying else .sending rest }

/-- One turn that reads or writes at most `most` bytes. What it waits for is looked at before the
clock is. -/
def turn (opening : Opening) (now most : Nat) : OpeningTurn :=
  let outcome := match opening.phase with
    | .dialing => opening.dial
    | .greeting => opening.awaitFrame most greet
    | .sending rest => opening.writeOn most rest
    | .replying => opening.awaitFrame most takeReply
  match outcome with
  | .waiting =>
    if opening.deadline ≤ now then .fails (.timeout opening.settings.timeout) else .waiting
  | outcome => outcome

def unwritten (opening : Opening) : Nat :=
  match opening.phase with
  | .sending rest => rest.size
  | _ => 0

/-- The session that an opening ends in. The reader takes over the bytes that have been received
behind the last frame of the handshake. -/
def session (opening : Opening) (channelData : Option Event) : Session where
  mode := opening.handshake.mode
  peerKnown := opening.link = .dialed
  channelData := channelData
  register := opening.register
  patience := opening.settings.timeout
  transport := opening.transport
  state := .ready
  decoder := opening.decoder
  reader := .running
  writers := .empty
  pending := .empty
  nextId := .first
  callers := []
  closeRequested := false
  stopRequested := false
  dispatcher := .start opening.settings.queueSize

/-- The state published for a failed opening: what the switch said about the credentials, or what
went wrong. -/
def failure : Fault → SessionState
  | .authentication replyText => .failed replyText
  | fault => .failed fault.message

end Opening

end EventSocket
