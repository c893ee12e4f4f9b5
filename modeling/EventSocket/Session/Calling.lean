import EventSocket.Session.Basic

/-!
The way of a caller through a session: in line to write, at the front of the line, waiting for the
reply. Leave-taking then ends the own stream and waits for the switch to do the same.
-/

namespace EventSocket.Session

/-- Lines a command up to be written. It takes a number only if it can be written at all. -/
def submit (session : Session) (number : Nat) (command : Command) : Session :=
  match session.state with
  | .ready =>
    match command.wire with
    | .error cause => session.tell number (.error (.invalidCommand cause))
    | .ok wire =>
      { session with nextId := session.nextId.next }.setPhase number
        (.queued session.nextId wire.toUTF8) |>.joinLine (.caller number)
  | .closed _ => session.tell number (.error .connectionClosed)
  | _ => session.tell number (.error .notConnected)

def call (session : Session) (number : Nat) (request : Request) : Session :=
  let session := { session with callers := session.callers ++ [⟨number, request, .watching⟩] }
  match request with
  | .waitClosed => session
  | .disconnect =>
    { session with closeRequested := true }.setPhase number .detaching |>.joinLine (.caller number)
  | .close =>
    if session.state.isTerminal then session.tell number (.ok .done)
    else { session with closeRequested := true }.submit number .exit
  | request =>
    match request.refusal?, request.command? with
    | some fault, _ => session.tell number (.error fault)
    | none, some command => session.submit number command
    | none, none => session.tell number (.ok .done)

/-- A caller goes away. What it has lined up or written stays. -/
def abandon (session : Session) (number : Nat) : Session :=
  { session with callers := session.callers.filter fun caller => caller.number ≠ number }.leaveLine
    (.caller number)

/-- A caller learns what became of its command. Leave-taking goes on even if the switch hung up
instead of answering. -/
def takeReply (session : Session) (now : Nat) (caller : Caller)
    (result : Except Fault Response) : Session :=
  match caller.request, result with
  | .close, .ok _ | .close, .error .connectionClosed =>
    session.setPhase caller.number (.shutting (now + session.patience))
      |>.joinLine (.caller caller.number)
  | _, .error fault => session.tell caller.number (.error fault)
  | request, .ok response => session.tell caller.number (request.answer response)

def response (caller : Caller) (id : CommandId) (settlement : Settlement) :
    Except Fault Response :=
  settlement.reply.map fun frame =>
    ⟨(caller.request.command?.map Command.summary).getD "", id, frame⟩

/-- Writes at most `most` bytes at the front of the line. A command that cannot be written does not
wait for a reply. The flush behind the last byte is part of writing that byte. -/
def writeOn (session : Session) (now most : Nat) (caller : Caller) (id : CommandId)
    (rest : ByteArray) : Option Session :=
  let writer := Writer.caller caller.number
  let (outcome, transport) := session.transport.write (rest.extract 0 most)
  match outcome with
  | .waiting => none
  | .failed text =>
    some ({ session with pending := session.pending.withdraw id }.leaveLine writer
      |>.takeReply now caller (.error (.io text)))
  | .written =>
    let session := { session with transport }
    let rest := rest.extract most rest.size
    some (if rest.isEmpty then session.setPhase caller.number (.awaiting id) |>.leaveLine writer
      else session.setPhase caller.number (.writing id rest))

/-- The next turn of a caller that writes at most `most` bytes at once, or nothing while it has to
wait. What it waits for is looked at before the clock is. -/
def callerTurn (session : Session) (now most : Nat) (caller : Caller) : Option Session :=
  let number := caller.number
  let writer := Writer.caller number
  match caller.phase with
  | .queued id wire =>
    if session.writers.serves writer then
      match session.pending.register id with
      | some pending => some ({ session with pending }.setPhase number (.writing id wire))
      | none => some (session.leaveLine writer |>.takeReply now caller (.error .connectionClosed))
    else none
  | .writing id rest => session.writeOn now most caller id rest
  | .awaiting id =>
    (session.pending.settlement? id).map fun settlement =>
      session.takeReply now caller (response caller id settlement)
  | .shutting deadline =>
    if session.writers.serves writer then
      (session.shutdown writer).map fun ended =>
        ended.2.setPhase number (.lingering (now + session.patience))
    else if deadline ≤ now then
      some (session.leaveLine writer |>.setPhase number (.lingering (now + session.patience)))
    else none
  | .lingering deadline =>
    if session.state.isTerminal then some (session.tell number (.ok .done))
    else if deadline ≤ now then
      some ({ session with stopRequested := true }.setPhase number .dropping)
    else none
  | .dropping =>
    if session.state.isTerminal then some (session.tell number (.ok .done)) else none
  | .detaching =>
    if session.writers.serves writer then
      match session.shutdown writer with
      | none => none
      | some (.ok _, session) => some (session.tell number (.ok .done))
      | some (.error text, session) => some (session.tell number (.error (.io text)))
    else none
  | .watching =>
    match session.state with
    | .closed reason => some (session.tell number (.ok (.ended reason)))
    | .failed _ => some (session.tell number (.ok (.ended .connectionClosed)))
    | _ => none
  | .told _ => none

end EventSocket.Session
