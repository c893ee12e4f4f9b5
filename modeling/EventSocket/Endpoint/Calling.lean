import EventSocket.Endpoint.Basic

/-!
Calls of an endpoint and what becomes of them. A client that connects anew first takes leave of the
session it has; a session accepted by a server gets the listeners the server has at that moment.
-/

namespace EventSocket.Endpoint

def openStream (endpoint : Endpoint) (handshake : Handshake) : Nat × Endpoint :=
  let (index, endpoint) := endpoint.addTransport
  let plan := ⟨handshake, .stream, endpoint.settings, endpoint.register, endpoint.threads⟩
  (endpoint.begin index plan).addCall (.opening index)

/-- Client: connects once the attempts before are over. -/
def connect (endpoint : Endpoint) (credentials : Credentials) (link : Link) (timeout : Nat) :
    Nat × Endpoint :=
  let (index, endpoint) := endpoint.addTransport
  let plan := ⟨.inbound credentials, link, { endpoint.settings with timeout }, endpoint.register,
    endpoint.threads⟩
  let (number, endpoint) := endpoint.addCall (.inLine index plan)
  (number, { endpoint with desk := { endpoint.desk with line := endpoint.desk.line.join number } })

def arrive (endpoint : Endpoint) : Endpoint :=
  let (index, endpoint) := endpoint.addTransport
  { endpoint with
    reception := { endpoint.reception with arrivals := endpoint.reception.arrivals ++ [index] } }

/-- Server: opens a session on the next transport that the switch dials in. -/
def accept (endpoint : Endpoint) : Nat × Endpoint :=
  let (number, endpoint) := endpoint.addCall .accepting
  (number, { endpoint with
    reception := { endpoint.reception with line := endpoint.reception.line.join number } })

def call (endpoint : Endpoint) (index : Nat) (request : Request) : Nat × Endpoint :=
  let (number, endpoint) := endpoint.addCall (.onSession index)
  (number, endpoint.mapSession index fun session => session.call number request)

/-- Client: asks something of the session in use. Without one there is nothing to close. -/
def callClient (endpoint : Endpoint) (request : Request) : Nat × Endpoint :=
  match endpoint.desk.current, request with
  | some index, request => endpoint.call index request
  | none, .close => endpoint.addCall (.finished (.ok (.answered .done)))
  | none, _ => endpoint.addCall (.finished (.error .notConnected))

def clientState (endpoint : Endpoint) : SessionState :=
  ((endpoint.desk.latest.bind endpoint.connection?).map Connection.state).getD .disconnected

def clientRecord (endpoint : Endpoint) : String :=
  "EslClient \x7b state: " ++ endpoint.clientState.record ++ ", listeners: " ++
    endpoint.registers.record endpoint.register ++ " \x7d"

/-- A server as a record. Addresses are not told apart. -/
def serverRecord (endpoint : Endpoint) : String :=
  "EslServer \x7b local_addr: Some(ADDR), listeners: " ++
    endpoint.registers.record endpoint.register ++ " \x7d"

def cancel (endpoint : Endpoint) (number : Nat) : Endpoint :=
  let phase? := (endpoint.calls.find? fun call => call.number = number).map Call.phase
  let endpoint := { endpoint with
    calls := endpoint.calls.filter fun call => call.number ≠ number
    desk := { endpoint.desk with line := endpoint.desk.line.leave number }
    reception := { endpoint.reception with line := endpoint.reception.line.leave number } }
  match phase? with
  | some (.onSession index) => endpoint.mapSession index (·.abandon number)
  | some (.opening index) | some (.inLine index _) => endpoint.mapConnection index .abandon
  | some (.relieving index _ before) =>
    (endpoint.mapSession before (·.abandon number)).mapConnection index .abandon
  | _ => endpoint

def told? (endpoint : Endpoint) (index number : Nat) : Option (Except Fault Answer) := do
  let session ← endpoint.session? index
  let caller ← session.caller? number
  match caller.phase with
  | .told result => some result
  | _ => none

/-- Client: the front of the line begins to open its session. -/
def beginAttempt (endpoint : Endpoint) (number index : Nat) (plan : OpeningPlan) : Endpoint :=
  { endpoint with desk := { endpoint.desk with latest := some index } }.begin index plan
    |>.setPhase number (.opening index)

def endAttempt (endpoint : Endpoint) (number index : Nat) : Option Endpoint :=
  let atDesk := endpoint.desk.line.serves number
  match endpoint.connection? index with
  | some (.live _) =>
    some ({ endpoint with
      sessions := endpoint.sessions ++ [index]
      desk := if atDesk then ⟨endpoint.desk.line.leave number, some index, some index⟩
        else endpoint.desk }.finish number (.ok (.opened index)))
  | some (.failed _ fault) =>
    some ({ endpoint with
      desk := { endpoint.desk with line := endpoint.desk.line.leave number }
      }.finish number (.error fault))
  | _ => none

/-- Client: the front of the line takes leave of the session in use, if that is still ready. -/
def relieve (endpoint : Endpoint) (number index : Nat) (plan : OpeningPlan) : Endpoint :=
  let before? := endpoint.desk.current
  let endpoint := { endpoint with desk := { endpoint.desk with current := none } }
  match before? with
  | some before =>
    if ((endpoint.session? before).map fun session => session.state.isReady).getD false then
      (endpoint.mapSession before fun session => session.call number .close).setPhase number
        (.relieving index plan before)
    else endpoint.beginAttempt number index plan
  | none => endpoint.beginAttempt number index plan

/-- Server: the front of the line takes the first arrival. -/
def takeArrival (endpoint : Endpoint) (number : Nat) : Option Endpoint :=
  match endpoint.reception.arrivals with
  | [] => none
  | index :: arrivals =>
    let (register, registers) := endpoint.registers.fork endpoint.register
    let reception := ⟨arrivals, endpoint.reception.line.leave number⟩
    let plan := ⟨.outbound, .dialed, endpoint.settings, register, endpoint.threads⟩
    some ({ endpoint with registers, reception }.begin index plan
      |>.setPhase number (.opening index))

/-- The next turn of a call, or nothing while it has to wait. -/
def callTurn (endpoint : Endpoint) (call : Call) : Option Endpoint :=
  match call.phase with
  | .onSession index =>
    (endpoint.told? index call.number).map fun result =>
      endpoint.finish call.number (result.map .answered)
  | .opening index => endpoint.endAttempt call.number index
  | .inLine index plan =>
    if endpoint.desk.line.serves call.number then some (endpoint.relieve call.number index plan)
    else none
  | .relieving index plan before =>
    (endpoint.told? before call.number).map fun _ =>
      endpoint.beginAttempt call.number index plan
  | .accepting =>
    if endpoint.reception.line.serves call.number then endpoint.takeArrival call.number else none
  | .finished _ => none

end EventSocket.Endpoint
