import EventSocket.Proofs.Connection.Admission
import EventSocket.Proofs.Delivery.Independence
import EventSocket.Proofs.Endpoint.Moves
import EventSocket.Proofs.Session.Unheard

/-!
Listeners do not disturb anyone. Two runs of an endpoint that differ in the listeners, in how long
they are held up and in the turns of the lanes agree in everything else: what is sent, what calls
are told, which states are published and why sessions end.
-/

namespace EventSocket

namespace Registers

/-- As many registers, with nobody in them. -/
def unheard (registers : Registers) : Registers := ⟨registers.lists.map fun _ => []⟩

@[simp]
theorem unheard_unheard (registers : Registers) :
    registers.unheard.unheard = registers.unheard := by
  simp [unheard]

theorem add_unheard (registers : Registers) (id : RegisterId) (listener : Listener) :
    (registers.add id listener).unheard = registers.unheard := by
  simp [unheard, add, List.map_const']

theorem fork_unheard (registers : Registers) (id : RegisterId) :
    registers.unheard.fork id = ((registers.fork id).1, (registers.fork id).2.unheard) := by
  have hlisteners : registers.unheard.listeners id = [] := by
    rw [listeners, unheard, List.getD_eq_getElem?_getD, List.getElem?_map]
    cases registers.lists[id.index]? <;> rfl
  rw [fork, create, hlisteners]
  simp [fork, create, unheard]

end Registers

namespace Connection

def unheard (connection : Connection) : Connection := connection.mapSession Session.unheard

@[simp]
theorem unheard_live (session : Session) : (live session).unheard = live session.unheard := rfl

@[simp]
theorem unheard_unheard (connection : Connection) :
    connection.unheard.unheard = connection.unheard := by
  cases connection <;> simp [unheard, mapSession]

theorem transport_unheard (connection : Connection) :
    connection.unheard.transport = connection.transport := by
  cases connection <;> rfl

theorem state_unheard (connection : Connection) : connection.unheard.state = connection.state := by
  cases connection <;> rfl

theorem session?_unheard (connection : Connection) :
    connection.unheard.session? = connection.session?.map Session.unheard := by
  cases connection <;> rfl

theorem start_unheard (connection : Connection) (plan : OpeningPlan) (now : Nat) :
    (connection.start plan now).unheard = connection.unheard.start plan now := by
  cases connection <;> rfl

theorem abandon_unheard (connection : Connection) :
    connection.abandon.unheard = connection.unheard.abandon := by
  cases connection <;> rfl

theorem mapSession_unheard {change change' : Session → Session}
    (h : ∀ session, (change session).unheard = change' session.unheard) (connection : Connection) :
    (connection.mapSession change).unheard = connection.unheard.mapSession change' := by
  cases connection with
  | live session => exact congrArg live (h session)
  | _ => rfl

theorem takeTurn_unheard (connection : Connection) (now : Nat) (turn : ConnectionTurn) :
    ((connection.unheard.takeTurn now turn).map unheard).getD connection.unheard =
      ((connection.takeTurn now turn).map unheard).getD connection.unheard := by
  cases connection with
  | live session =>
    cases turn with
    | linked link => rfl
    | opening most => rfl
    | network transport =>
      have htransport := (live session).transport_unheard
      simp only [takeTurn, htransport]
      split
      · simp [unheard, mapSession, mapTransport, Session.unheard]
      · rfl
    | caller number most =>
      have hcaller : session.unheard.caller? number = session.caller? number := rfl
      simp only [takeTurn, unheard, mapSession, Session.perform, hcaller]
      cases session.caller? number with
      | none => rfl
      | some caller =>
        rw [Option.bind_some, Option.bind_some, session.callerTurn_unheard]
        cases session.callerTurn now most caller <;> simp
    | reader most =>
      have hturn := session.readerTurn_unheard now most
      simp only [takeTurn, unheard, mapSession, Session.perform]
      cases hunheard : session.unheard.readerTurn now most <;>
        cases hheard : session.readerTurn now most <;>
        simp_all
  | _ => rfl

end Connection

namespace Endpoint

variable {endpoint : Endpoint}

/-- An endpoint as it would be without listeners. -/
def unheard (endpoint : Endpoint) : Endpoint :=
  { endpoint with
    registers := endpoint.registers.unheard
    audience := .empty
    connections := endpoint.connections.map Connection.unheard }

@[simp]
theorem unheard_unheard (endpoint : Endpoint) : endpoint.unheard.unheard = endpoint.unheard := by
  simp [unheard]

theorem connection?_unheard (endpoint : Endpoint) (index : Nat) :
    endpoint.unheard.connection? index = (endpoint.connection? index).map Connection.unheard :=
  List.getElem?_map

theorem session?_unheard (endpoint : Endpoint) (index : Nat) :
    endpoint.unheard.session? index = (endpoint.session? index).map Session.unheard := by
  rw [session?, session?, connection?_unheard]
  cases endpoint.connection? index with
  | none => rfl
  | some connection => exact connection.session?_unheard

theorem told?_unheard (endpoint : Endpoint) (index number : Nat) :
    endpoint.unheard.told? index number = endpoint.told? index number := by
  unfold told?
  rw [session?_unheard]
  cases endpoint.session? index <;> rfl

theorem mapConnection_unheard {change change' : Connection → Connection}
    (h : ∀ connection, (change connection).unheard = change' connection.unheard)
    (endpoint : Endpoint) (index : Nat) :
    (endpoint.mapConnection index change).unheard =
      endpoint.unheard.mapConnection index change' := by
  exact congrArg (fun connections => { endpoint.unheard with connections })
    (map_modify h endpoint.connections index)

theorem mapSession_unheard {change change' : Session → Session}
    (h : ∀ session, (change session).unheard = change' session.unheard) (endpoint : Endpoint)
    (index : Nat) :
    (endpoint.mapSession index change).unheard = endpoint.unheard.mapSession index change' :=
  endpoint.mapConnection_unheard (Connection.mapSession_unheard h) index

theorem addTransport_unheard (endpoint : Endpoint) :
    endpoint.unheard.addTransport = (endpoint.addTransport.1, endpoint.addTransport.2.unheard) := by
  simp [addTransport, unheard]
  rfl

theorem begin_unheard (endpoint : Endpoint) (index : Nat) (plan : OpeningPlan) :
    (endpoint.begin index plan).unheard = endpoint.unheard.begin index plan :=
  endpoint.mapConnection_unheard (fun connection => connection.start_unheard plan endpoint.now)
    index

theorem setPhase_unheard (endpoint : Endpoint) (number : Nat) (phase : CallPhase) :
    (endpoint.setPhase number phase).unheard = endpoint.unheard.setPhase number phase := rfl

theorem openStream_unheard (endpoint : Endpoint) (handshake : Handshake) :
    (endpoint.openStream handshake).2.unheard = (endpoint.unheard.openStream handshake).2 := by
  unfold openStream
  rw [addTransport_unheard]
  exact congrArg (fun begun => (addCall begun (.opening endpoint.addTransport.1)).2)
    (endpoint.addTransport.2.begin_unheard endpoint.addTransport.1
      ⟨handshake, .stream, endpoint.settings, endpoint.register, endpoint.threads⟩)

theorem connect_unheard (endpoint : Endpoint) (credentials : Credentials) (link : Link)
    (timeout : Nat) :
    (endpoint.connect credentials link timeout).2.unheard =
      (endpoint.unheard.connect credentials link timeout).2 := by
  unfold connect
  rw [addTransport_unheard]
  rfl

theorem arrive_unheard (endpoint : Endpoint) :
    endpoint.arrive.unheard = endpoint.unheard.arrive := by
  unfold arrive
  rw [addTransport_unheard]
  rfl

theorem call_unheard (endpoint : Endpoint) (index : Nat) (request : Request) :
    (endpoint.call index request).2.unheard = (endpoint.unheard.call index request).2 :=
  mapSession_unheard (fun session => (session.call_unheard endpoint.nextCall request).symm)
    (endpoint.addCall (.onSession index)).2 index

theorem callClient_unheard (endpoint : Endpoint) (request : Request) :
    (endpoint.callClient request).2.unheard = (endpoint.unheard.callClient request).2 := by
  have hdesk : endpoint.unheard.desk = endpoint.desk := rfl
  unfold callClient
  rw [hdesk]
  cases endpoint.desk.current with
  | some index => exact endpoint.call_unheard index request
  | none => cases request <;> rfl

theorem abandon_unheard (endpoint : Endpoint) (index number : Nat) :
    (endpoint.mapSession index (·.abandon number)).unheard =
      endpoint.unheard.mapSession index (·.abandon number) :=
  mapSession_unheard (fun session => show (session.abandon number).unheard =
    session.unheard.abandon number from rfl) endpoint index

theorem cancel_unheard (endpoint : Endpoint) (number : Nat) :
    (endpoint.cancel number).unheard = endpoint.unheard.cancel number := by
  have hcalls : endpoint.unheard.calls = endpoint.calls := rfl
  unfold cancel
  rw [hcalls]
  dsimp only
  split
  · next index _ => exact abandon_unheard _ index number
  · next index _ => exact mapConnection_unheard Connection.abandon_unheard _ index
  · next index _ _ => exact mapConnection_unheard Connection.abandon_unheard _ index
  · next index _ before _ =>
    rw [mapConnection_unheard Connection.abandon_unheard, abandon_unheard]
    rfl
  · rfl

theorem beginAttempt_unheard (endpoint : Endpoint) (number index : Nat) (plan : OpeningPlan) :
    (endpoint.beginAttempt number index plan).unheard =
      endpoint.unheard.beginAttempt number index plan := by
  unfold beginAttempt
  rw [setPhase_unheard, begin_unheard]
  rfl

theorem endAttempt_unheard (endpoint : Endpoint) (number index : Nat) :
    endpoint.unheard.endAttempt number index = (endpoint.endAttempt number index).map unheard := by
  unfold endAttempt
  rw [connection?_unheard]
  cases endpoint.connection? index with
  | none => rfl
  | some connection => cases connection <;> rfl

theorem relieve_unheard (endpoint : Endpoint) (number index : Nat) (plan : OpeningPlan) :
    (endpoint.relieve number index plan).unheard = endpoint.unheard.relieve number index plan := by
  let free : Endpoint := { endpoint with desk := { endpoint.desk with current := none } }
  have hfree : { endpoint.unheard with desk := { endpoint.unheard.desk with current := none } } =
      free.unheard := rfl
  have hcurrent : endpoint.unheard.desk.current = endpoint.desk.current := rfl
  have hready (before : Nat) :
      (free.unheard.session? before).map (·.state.isReady) =
        (free.session? before).map (·.state.isReady) := by
    rw [session?_unheard]
    cases free.session? before <;> rfl
  unfold relieve
  simp only [hfree, hcurrent]
  cases endpoint.desk.current with
  | none => exact free.beginAttempt_unheard number index plan
  | some before =>
    simp only [hready before]
    split
    · exact congrArg (setPhase · number (.relieving index plan before))
        (mapSession_unheard (fun session => (session.call_unheard number .close).symm) free before)
    · exact free.beginAttempt_unheard number index plan

theorem takeArrival_unheard (endpoint : Endpoint) (number : Nat) :
    endpoint.unheard.takeArrival number = (endpoint.takeArrival number).map unheard := by
  have hreception : endpoint.unheard.reception = endpoint.reception := rfl
  have hfork : endpoint.unheard.registers.fork endpoint.unheard.register =
      ((endpoint.registers.fork endpoint.register).1,
        (endpoint.registers.fork endpoint.register).2.unheard) :=
    endpoint.registers.fork_unheard endpoint.register
  unfold takeArrival
  simp only [hreception, hfork]
  cases endpoint.reception.arrivals with
  | nil => rfl
  | cons index arrivals =>
    let forked : Endpoint := { endpoint with
      registers := (endpoint.registers.fork endpoint.register).2
      reception := ⟨arrivals, endpoint.reception.line.leave number⟩ }
    exact congrArg (fun begun => some (setPhase begun number (.opening index)))
      (forked.begin_unheard index ⟨.outbound, .dialed, endpoint.settings,
        (endpoint.registers.fork endpoint.register).1, endpoint.threads⟩).symm

theorem callTurn_unheard (endpoint : Endpoint) (call : Call) :
    endpoint.unheard.callTurn call = (endpoint.callTurn call).map unheard := by
  have hdesk : endpoint.unheard.desk = endpoint.desk := rfl
  have hreception : endpoint.unheard.reception = endpoint.reception := rfl
  unfold callTurn
  cases call.phase with
  | onSession index =>
    simp only [told?_unheard]
    cases endpoint.told? index call.number <;> rfl
  | opening index => exact endpoint.endAttempt_unheard call.number index
  | inLine index plan =>
    simp only [hdesk]
    split
    · exact congrArg some (endpoint.relieve_unheard call.number index plan).symm
    · rfl
  | relieving index plan before =>
    simp only [told?_unheard]
    cases endpoint.told? before call.number with
    | none => rfl
    | some result => exact congrArg some (endpoint.beginAttempt_unheard call.number index plan).symm
  | accepting =>
    simp only [hreception]
    split
    · exact endpoint.takeArrival_unheard call.number
    · rfl
  | finished result => rfl

theorem hasOpened_unheard (endpoint : Endpoint) (number : Nat) :
    endpoint.unheard.hasOpened number = endpoint.hasOpened number := by
  have hcall : endpoint.unheard.call? number = endpoint.call? number := rfl
  unfold hasOpened
  rw [hcall]
  split
  · rw [session?_unheard, Option.isSome_map]
  · rfl

/-- What is done to the lanes of a session leaves everything else as it is. -/
theorem unheard_mapSession {change : Session → Session}
    (h : ∀ session, (change session).unheard = session.unheard) (endpoint : Endpoint)
    (index : Nat) : (endpoint.mapSession index change).unheard = endpoint.unheard := by
  have hconnection (connection : Connection) :
      (connection.mapSession change).unheard = id connection.unheard := by
    cases connection with
    | live session => exact congrArg Connection.live (h session)
    | _ => rfl
  have hmodify := map_modify hconnection endpoint.connections index
  rw [List.modify_id] at hmodify
  exact congrArg (fun connections => { endpoint.unheard with connections }) hmodify

theorem deliverOn_unheard (endpoint : Endpoint) (index : Nat) (session : Session) :
    (endpoint.deliverOn index session).unheard = endpoint.unheard := by
  let delivered := session.dispatcher.deliver (endpoint.registers.listeners session.register)
    endpoint.audience
  have hchange (session' : Session) :
      { session' with dispatcher := delivered.1 }.unheard = session'.unheard := rfl
  exact unheard_mapSession hchange endpoint index

theorem listen_unheard (endpoint : Endpoint) (register : RegisterId) (manner : Option Manner) :
    (endpoint.listen register manner).unheard = endpoint.unheard :=
  congrArg (fun registers => { endpoint.unheard with registers })
    (endpoint.registers.add_unheard register (endpoint.audience.welcome manner).1)

theorem mapConnection_getD {connection : Connection} {index : Nat}
    (hconnection : endpoint.connection? index = some connection) (next : Option Connection) :
    ((next.map fun connection => endpoint.mapConnection index fun _ => connection).map
        unheard).getD endpoint.unheard =
      endpoint.unheard.mapConnection index
        fun _ => (next.map Connection.unheard).getD connection.unheard := by
  cases next with
  | some connection' =>
    exact @mapConnection_unheard (fun _ => connection') (fun _ => connection'.unheard)
      (fun _ => rfl) endpoint index
  | none =>
    have hunheard : endpoint.unheard.connections[index]? = some connection.unheard := by
      rw [← connection?, connection?_unheard, hconnection, Option.map_some]
    have hsame : endpoint.unheard.connections =
        endpoint.unheard.connections.modify index fun _ => connection.unheard := by
      refine List.ext_getElem? fun place => ?_
      rw [List.getElem?_modify]
      by_cases hplace : index = place
      · subst hplace
        simp [hunheard]
      · simp [hplace]
    exact congrArg (fun connections => { endpoint.unheard with connections }) hsame

theorem connection_unheard (endpoint : Endpoint) (index : Nat) (turn : ConnectionTurn) :
    ((endpoint.unheard.perform (.connection index turn)).map unheard).getD endpoint.unheard =
      ((endpoint.perform (.connection index turn)).map unheard).getD endpoint.unheard := by
  have hnow : endpoint.unheard.now = endpoint.now := rfl
  simp only [perform, connection?_unheard, hnow]
  cases hconnection : endpoint.connection? index with
  | none => rfl
  | some connection =>
    have hunheard : endpoint.unheard.connection? index = some connection.unheard := by
      rw [connection?_unheard, hconnection, Option.map_some]
    have hleft := mapConnection_getD hunheard (connection.unheard.takeTurn endpoint.now turn)
    have hright := mapConnection_getD hconnection (connection.takeTurn endpoint.now turn)
    rw [unheard_unheard, Connection.unheard_unheard, connection.takeTurn_unheard] at hleft
    exact hleft.trans hright.symm

end Endpoint

/-- What concerns the listeners and nobody else. -/
def EndpointMove.ofListeners : EndpointMove → Bool
  | .listen .. | .listeners _ | .deliver _ => true
  | _ => false

/-- A move of an endpoint, or one turn of a lane of one of its sessions. -/
inductive SceneMove where
  | endpoint (move : EndpointMove)
  | lane (index : Nat) (kind : LaneKind) (answer : Listener → Callback → Option Outcome)

def SceneMove.ofListeners : SceneMove → Bool
  | .endpoint move => move.ofListeners
  | .lane .. => true

/-- What callers, the switch and whoever watches the states see of an endpoint. -/
structure View where
  calls : List Call
  transports : List Transport
  states : List SessionState
  callers : List (List Caller)
  clientState : SessionState

namespace Endpoint

variable {endpoint : Endpoint}

theorem perform_unheard_of_listeners {move : EndpointMove} (h : move.ofListeners = true) :
    ((endpoint.perform move).map unheard).getD endpoint.unheard = endpoint.unheard := by
  cases move with
  | listen register manner => exact endpoint.listen_unheard register manner
  | listeners audience => rfl
  | deliver index =>
    simp only [perform]
    cases endpoint.session? index with
    | none => rfl
    | some session => exact endpoint.deliverOn_unheard index session
  | _ => cases h

theorem perform_unheard (endpoint : Endpoint) (move : EndpointMove) :
    ((endpoint.unheard.perform move).map unheard).getD endpoint.unheard =
      ((endpoint.perform move).map unheard).getD endpoint.unheard := by
  have hcall (number : Nat) : endpoint.unheard.call? number = endpoint.call? number := rfl
  have hsessions : endpoint.unheard.sessions = endpoint.sessions := rfl
  cases hmove : move.ofListeners with
  | true =>
    have hunheard :
        ((endpoint.unheard.perform move).map unheard).getD endpoint.unheard.unheard =
          endpoint.unheard.unheard := perform_unheard_of_listeners hmove
    rw [unheard_unheard] at hunheard
    rw [hunheard, perform_unheard_of_listeners hmove]
  | false =>
    cases move with
    | openStream handshake => simp [perform, ← openStream_unheard]
    | connect credentials link timeout => simp [perform, ← connect_unheard]
    | arrive => simp [perform, ← arrive_unheard]
    | accept => exact endpoint.accept.2.unheard_unheard
    | call index request =>
      simp only [perform, hsessions]
      split
      · simp [← call_unheard]
      · rfl
    | callClient request => simp [perform, ← callClient_unheard]
    | cancel number =>
      simp only [perform, hasOpened_unheard]
      split
      · rfl
      · simp [← cancel_unheard]
    | callTurn number =>
      simp only [perform, hcall]
      cases endpoint.call? number with
      | none => rfl
      | some call =>
        rw [Option.bind_some, Option.bind_some, callTurn_unheard]
        cases endpoint.callTurn call <;> simp
    | collect => exact endpoint.takeFinished.2.unheard_unheard
    | connection index turn => exact endpoint.connection_unheard index turn
    | tick => exact (endpoint.advance 1).unheard_unheard
    | threads threads => exact { endpoint with threads }.unheard_unheard
    | _ => cases hmove

def laneTurn (endpoint : Endpoint) (index : Nat) (kind : LaneKind)
    (answer : Listener → Callback → Option Outcome) : Option Endpoint := do
  let session ← endpoint.session? index
  let turn ← (session.dispatcher.lane kind).turn kind
    (endpoint.registers.listeners session.register) answer
  return { endpoint.mapSession index fun session =>
      { session with dispatcher := session.dispatcher.setLane turn.lane kind } with
    audience := match turn.told with
      | some (listener, callback) => endpoint.audience.tell listener callback
      | none => endpoint.audience }

/-- Whoever has to wait lets the move pass. -/
def act (endpoint : Endpoint) : SceneMove → Endpoint
  | .endpoint move => (endpoint.perform move).getD endpoint
  | .lane index kind answer => (endpoint.laneTurn index kind answer).getD endpoint

def view (endpoint : Endpoint) : View where
  calls := endpoint.calls
  transports := endpoint.connections.map Connection.transport
  states := endpoint.connections.map Connection.state
  callers := endpoint.connections.map fun connection =>
    (connection.session?.map Session.callers).getD []
  clientState := endpoint.clientState

/-- What is seen after each of the moves, those of the listeners left out. -/
def views (endpoint : Endpoint) : List SceneMove → List View
  | [] => []
  | move :: moves =>
    (if move.ofListeners then [] else [(endpoint.act move).view]) ++ (endpoint.act move).views moves

theorem clientState_unheard (endpoint : Endpoint) :
    endpoint.unheard.clientState = endpoint.clientState := by
  have hdesk : endpoint.unheard.desk = endpoint.desk := rfl
  unfold clientState
  rw [hdesk]
  cases endpoint.desk.latest with
  | none => rfl
  | some index =>
    rw [Option.bind_some, Option.bind_some, connection?_unheard, Option.map_map]
    simp only [Function.comp_def, Connection.state_unheard]

theorem view_unheard (endpoint : Endpoint) : endpoint.unheard.view = endpoint.view := by
  have hcallers (connection : Connection) :
      (connection.unheard.session?.map Session.callers).getD [] =
        (connection.session?.map Session.callers).getD [] := by
    cases connection <;> rfl
  have hconnections : endpoint.unheard.connections = endpoint.connections.map Connection.unheard :=
    rfl
  unfold view
  simp only [hconnections, List.map_map, Function.comp_def, Connection.transport_unheard,
    Connection.state_unheard, hcallers, clientState_unheard]
  rfl

theorem laneTurn_unheard {endpoint' : Endpoint} {index : Nat} {kind : LaneKind}
    {answer : Listener → Callback → Option Outcome}
    (h : endpoint.laneTurn index kind answer = some endpoint') :
    endpoint'.unheard = endpoint.unheard := by
  obtain ⟨session, -, h⟩ := Option.bind_eq_some_iff.mp h
  obtain ⟨turn, -, h⟩ := Option.bind_eq_some_iff.mp h
  obtain rfl := Option.some.inj h
  have hchange (session : Session) :
      { session with dispatcher := session.dispatcher.setLane turn.lane kind }.unheard =
        session.unheard := rfl
  exact unheard_mapSession hchange endpoint index

theorem unheard_getD (endpoint : Endpoint) (next : Option Endpoint) :
    (next.getD endpoint).unheard = (next.map unheard).getD endpoint.unheard := by
  cases next <;> rfl

theorem act_unheard_of_listeners {move : SceneMove} (h : move.ofListeners = true) :
    (endpoint.act move).unheard = endpoint.unheard := by
  cases move with
  | endpoint move =>
    rw [act, unheard_getD]
    exact perform_unheard_of_listeners h
  | lane index kind answer =>
    rw [act]
    cases hturn : endpoint.laneTurn index kind answer with
    | none => rfl
    | some endpoint' => exact laneTurn_unheard hturn

theorem act_unheard (endpoint : Endpoint) (move : SceneMove) :
    (endpoint.unheard.act move).unheard = (endpoint.act move).unheard := by
  cases move with
  | endpoint move =>
    rw [act, act, unheard_getD, unheard_getD, unheard_unheard]
    exact endpoint.perform_unheard move
  | lane index kind answer =>
    rw [act_unheard_of_listeners rfl, act_unheard_of_listeners rfl, unheard_unheard]

/-- An endpoint looks as it would if its listeners never moved. -/
theorem views_filter {endpoint' : Endpoint} (hunheard : endpoint.unheard = endpoint'.unheard)
    (moves : List SceneMove) :
    endpoint.views moves = endpoint'.views (moves.filter (!·.ofListeners)) := by
  induction moves generalizing endpoint endpoint' with
  | nil => rfl
  | cons move moves ih =>
    cases hmove : move.ofListeners with
    | true =>
      rw [List.filter_cons, hmove]
      simp only [views, hmove]
      exact ih ((act_unheard_of_listeners hmove).trans hunheard)
    | false =>
      have hnext : (endpoint.act move).unheard = (endpoint'.act move).unheard := by
        rw [← act_unheard, hunheard, act_unheard]
      have hview : (endpoint.act move).view = (endpoint'.act move).view := by
        rw [← view_unheard, hnext, view_unheard]
      simp [views, hmove, hview, ih hnext]

/-- Two runs that differ in the listeners and what they do look the same, and two runs of a
dispatcher that differ in the turns of one lane do the same on the other. -/
theorem undisturbed_by_listeners :
    (∀ (settings : Settings) (moves moves' : List SceneMove),
      moves.filter (!·.ofListeners) = moves'.filter (!·.ofListeners) →
      (new settings).views moves = (new settings).views moves') ∧
    ∀ (registers : Registers) (register : RegisterId) (size : Nat) (kind : LaneKind)
      (moves moves' : List DeliveryMove),
      moves.filter (!·.isTurn kind.other) = moves'.filter (!·.isTurn kind.other) →
      let first := Delivery.start registers register size
      (∀ place, heardAt kind place (first.log moves) = heardAt kind place (first.log moves')) ∧
        droppedOn kind (first.log moves) = droppedOn kind (first.log moves') := by
  constructor
  · intro settings moves moves' hmoves
    rw [views_filter rfl moves, hmoves, ← views_filter rfl moves']
  · intro registers register size kind moves moves' hmoves
    exact Delivery.same_on_lane registers register size kind hmoves

/-- The switch sends an event. -/
def heartbeat : Transport :=
  { Transport.new with
    received := ("Content-Length: 23\nContent-Type: text/event-plain\n\n" ++
      "Event-Name: HEARTBEAT\n\n").toUTF8
    sent := "auth ClueCon\n\n".toUTF8 }

/-- A session is opened on a stream and hears of an event. -/
def heartbeatMoves : List SceneMove :=
  [.endpoint (.openStream (.inbound (.password "ClueCon"))),
    .endpoint (.connection 0 (.network Connection.willingPeer))] ++
    List.replicate 5 (.endpoint (.connection 0 (.opening readLimit))) ++
    [.endpoint (.callTurn 0), .endpoint (.connection 0 (.network heartbeat)),
      .endpoint (.connection 0 (.reader readLimit)), .endpoint (.connection 0 (.reader readLimit))]

/-- The own stream is ended. -/
def goodbyeMoves : List SceneMove :=
  [.endpoint (.call 0 .disconnect), .endpoint (.connection 0 (.caller 1 0)),
    .endpoint (.callTurn 1)]

/-- Both, with a listener that is called with the event in between and does not come back. -/
def heldUpMoves : List SceneMove :=
  .endpoint (.listen ⟨0⟩ (some .panicking)) :: heartbeatMoves ++
    List.replicate 4 (.lane 0 .general fun _ _ => none) ++ goodbyeMoves

/-- An event and two jobs, for the second of which there is no room. On the general lane the
listener does not come back. -/
def besideGeneral (turns : Nat) : List DeliveryMove :=
  [.dispatch (.ofType .heartbeat), .dispatch (.ofType .backgroundJob),
    .dispatch (.ofType .backgroundJob)] ++
    List.replicate turns (.turn .general fun _ _ => none) ++
    List.replicate 3 (.turn .jobs fun _ _ => some .done)

theorem undisturbed_by_listeners_held_up :
    let quiet := heartbeatMoves ++ goodbyeMoves
    (quiet.filter (!·.ofListeners) = heldUpMoves.filter (!·.ofListeners) ∧
      (new .standard).views quiet = (new .standard).views heldUpMoves ∧
      ((heldUpMoves.foldl act (new .standard)).audience.heard 0 .general).length = 1) ∧
    (besideGeneral 0).filter (!·.isTurn LaneKind.jobs.other) =
        (besideGeneral 4).filter (!·.isTurn LaneKind.jobs.other) ∧
      let first := Delivery.start ⟨[[⟨some 0, .steady⟩]]⟩ ⟨0⟩ 1
      ((∀ place, heardAt .jobs place (first.log (besideGeneral 0)) =
          heardAt .jobs place (first.log (besideGeneral 4))) ∧
        droppedOn .jobs (first.log (besideGeneral 0)) =
          droppedOn .jobs (first.log (besideGeneral 4))) ∧
      heardAt .general 0 (first.log (besideGeneral 4)) = [.event (.ofType .heartbeat)] ∧
      heardAt .jobs 0 (first.log (besideGeneral 4)) = [.job (.ofType .backgroundJob)] ∧
      droppedOn .jobs (first.log (besideGeneral 4)) = [.ofType .backgroundJob] := by
  have hmoves : (heartbeatMoves ++ goodbyeMoves).filter (!·.ofListeners) =
      heldUpMoves.filter (!·.ofListeners) := rfl
  have hturns : (besideGeneral 0).filter (!·.isTurn LaneKind.jobs.other) =
      (besideGeneral 4).filter (!·.isTurn LaneKind.jobs.other) := rfl
  refine ⟨⟨hmoves, undisturbed_by_listeners.1 .standard _ _ hmoves, ?_⟩, hturns,
    undisturbed_by_listeners.2 _ _ _ .jobs _ _ hturns, ?_⟩
  · decide +kernel
  · decide +kernel

end Endpoint

end EventSocket
