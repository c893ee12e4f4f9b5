import EventSocket.Endpoint.Settling
import EventSocket.Proofs.Connection.Moves

/-!
The moves of an endpoint, in any order: calls that come, go on and go away, connections that go on,
listeners, and the clock. A run keeps a log of what becomes of the client's sessions.
-/

namespace EventSocket

/-- What a connection does without anybody having called or gone away. `network` replaces the
transport by any other on which the same has been sent. -/
inductive ConnectionTurn where
  | linked (link : Link)
  | network (transport : Transport)
  | opening (most : Nat)
  | caller (number most : Nat)
  | reader (most : Nat)

/-- `listeners` replaces the audience by any other, held up as it may be; `threads` is for what the
system will answer to those that ask it for threads. -/
inductive EndpointMove where
  | openStream (handshake : Handshake)
  | connect (credentials : Credentials) (link : Link) (timeout : Nat)
  | arrive
  | accept
  | call (index : Nat) (request : Request)
  | callClient (request : Request)
  | cancel (number : Nat)
  | callTurn (number : Nat)
  | collect
  | listen (register : RegisterId) (manner : Option Manner)
  | listeners (audience : Audience)
  | threads (threads : LaneThreads)
  | connection (index : Nat) (turn : ConnectionTurn)
  | deliver (index : Nat)
  | tick

/-- What becomes of the sessions that a client opens one after another: `relieved` is for one that
has been closed for the sake of the next, `forsaken` for one that was being closed when its caller
went away. -/
inductive Deed where
  | connects (index : Nat)
  | relieved (index : Nat) (result : Except Fault Answer)
  | forsaken (index : Nat)

namespace Connection

def takeTurn (connection : Connection) (now : Nat) : ConnectionTurn → Option Connection
  | .linked link =>
    match connection with
    | opening attempt =>
      if attempt.phase = .dialing ∧ attempt.link = .pending then
        some (opening { attempt with link })
      else none
    | _ => none
  | .network transport =>
    if transport.sent = connection.transport.sent then
      some (connection.mapTransport fun _ => transport)
    else none
  | .opening most =>
    match connection with
    | opening attempt => some (afterTurn attempt (attempt.turn now most))
    | _ => none
  | .caller number most =>
    match connection with
    | live session => (session.perform (.caller number now most)).map live
    | _ => none
  | .reader most =>
    match connection with
    | live session => (session.perform (.reader now most)).map live
    | _ => none

/-- The ways in which a turn can be taken. -/
inductive Takes (now : Nat) : Connection → ConnectionTurn → Connection → Prop
  | linked {attempt : Opening} (link : Link) (hphase : attempt.phase = .dialing)
      (hpending : attempt.link = .pending) :
      Takes now (opening attempt) (.linked link) (opening { attempt with link })
  | network {connection : Connection} {transport : Transport}
      (hsent : transport.sent = connection.transport.sent) :
      Takes now connection (.network transport) (connection.mapTransport fun _ => transport)
  | opening (attempt : Opening) (most : Nat) :
      Takes now (opening attempt) (.opening most) (afterTurn attempt (attempt.turn now most))
  | caller {session session' : Session} {number most : Nat}
      (hmove : session.perform (.caller number now most) = some session') :
      Takes now (live session) (.caller number most) (live session')
  | reader {session session' : Session} {most : Nat}
      (hmove : session.perform (.reader now most) = some session') :
      Takes now (live session) (.reader most) (live session')

theorem takes_of_takeTurn {connection connection' : Connection} {now : Nat}
    {turn : ConnectionTurn} (h : connection.takeTurn now turn = some connection') :
    Takes now connection turn connection' := by
  cases turn with
  | network transport =>
    obtain ⟨hsent, hnetwork⟩ := Option.ite_none_right_eq_some.mp h
    obtain rfl := Option.some.inj hnetwork
    exact .network hsent
  | linked link =>
    cases connection with
    | opening attempt =>
      obtain ⟨⟨hphase, hpending⟩, hlinked⟩ := Option.ite_none_right_eq_some.mp h
      obtain rfl := Option.some.inj hlinked
      exact .linked link hphase hpending
    | _ => cases h
  | opening most =>
    cases connection with
    | opening attempt =>
      obtain rfl := Option.some.inj h
      exact .opening attempt most
    | _ => cases h
  | caller number most =>
    cases connection with
    | live session =>
      obtain ⟨session', hmove, rfl⟩ := Option.map_eq_some_iff.mp h
      exact .caller hmove
    | _ => cases h
  | reader most =>
    cases connection with
    | live session =>
      obtain ⟨session', hmove, rfl⟩ := Option.map_eq_some_iff.mp h
      exact .reader hmove
    | _ => cases h

end Connection

/-- Neither does the move call anything, nor does anybody go away by it. -/
def ConnectionMove.Calm : ConnectionMove → Prop
  | .linked _ | .turn .. | .network _ => True
  | .session (.caller ..) | .session (.reader ..) | .session (.network _)
  | .session (.deliver ..) => True
  | .start | .abandon | .session (.call ..) | .session (.abandon _) => False

/-- A turn is a move of the connection, unless it only replaces the transport of one on which
nothing is under way. -/
theorem Connection.move_of_takeTurn {connection connection' : Connection} {now : Nat}
    {turn : ConnectionTurn} (h : connection.takeTurn now turn = some connection') :
    (∃ move : ConnectionMove, move.Calm ∧
      ∀ plan began, connection.perform plan began move = some connection') ∨
    ∃ transport, turn = .network transport ∧ connection.session? = none ∧
      (∀ attempt, connection ≠ .opening attempt) ∧
      connection' = connection.mapTransport fun _ => transport := by
  cases takes_of_takeTurn h with
  | linked link => exact Or.inl ⟨.linked link, trivial, fun _ _ => h⟩
  | @network _ transport hsent =>
    cases connection with
    | opening attempt => exact Or.inl ⟨.network transport, trivial, fun _ _ => if_pos hsent⟩
    | live session =>
      refine Or.inl ⟨.session (.network transport), trivial, fun _ _ => ?_⟩
      exact congrArg (Option.map live) (if_pos hsent)
    | _ => exact Or.inr ⟨transport, rfl, rfl, by simp, rfl⟩
  | opening attempt most => exact Or.inl ⟨.turn now most, trivial, fun _ _ => h⟩
  | @caller _ _ number most =>
    exact Or.inl ⟨.session (.caller number now most), trivial, fun _ _ => h⟩
  | @reader _ _ most => exact Or.inl ⟨.session (.reader now most), trivial, fun _ _ => h⟩

namespace Endpoint

def call? (endpoint : Endpoint) (number : Nat) : Option Call :=
  endpoint.calls.find? fun call => call.number = number

/-- The call has opened its session, which leaves it nothing to wait for. -/
def hasOpened (endpoint : Endpoint) (number : Nat) : Bool :=
  match (endpoint.call? number).map Call.phase with
  | some (.opening index) => (endpoint.session? index).isSome
  | _ => false

/-- Lets the listeners of a session go on. -/
def deliverOn (endpoint : Endpoint) (index : Nat) (session : Session) : Endpoint :=
  let (dispatcher, audience) :=
    session.dispatcher.deliver (endpoint.registers.listeners session.register) endpoint.audience
  { endpoint.mapSession index fun session => { session with dispatcher } with audience }

/-- A call goes away only while it waits for something. -/
def perform (endpoint : Endpoint) : EndpointMove → Option Endpoint
  | .openStream handshake => some (endpoint.openStream handshake).2
  | .connect credentials link timeout => some (endpoint.connect credentials link timeout).2
  | .arrive => some endpoint.arrive
  | .accept => some endpoint.accept.2
  | .call index request =>
    if index ∈ endpoint.sessions then some (endpoint.call index request).2 else none
  | .callClient request => some (endpoint.callClient request).2
  | .cancel number => if endpoint.hasOpened number then none else some (endpoint.cancel number)
  | .callTurn number => (endpoint.call? number).bind endpoint.callTurn
  | .collect => some endpoint.takeFinished.2
  | .listen register manner => some (endpoint.listen register manner)
  | .listeners audience => some { endpoint with audience }
  | .threads threads => some { endpoint with threads }
  | .connection index turn =>
    ((endpoint.connection? index).bind (·.takeTurn endpoint.now turn)).map fun connection =>
      endpoint.mapConnection index fun _ => connection
  | .deliver index => (endpoint.session? index).map (endpoint.deliverOn index)
  | .tick => some (endpoint.advance 1)

def deeds (endpoint : Endpoint) : EndpointMove → List Deed
  | .connect .. => [.connects endpoint.connections.length]
  | .cancel number =>
    match (endpoint.call? number).map Call.phase with
    | some (.relieving _ _ before) => [.forsaken before]
    | _ => []
  | .callTurn number =>
    match (endpoint.call? number).map Call.phase with
    | some (.relieving _ _ before) => ((endpoint.told? before number).map (.relieved before)).toList
    | _ => []
  | _ => []

/-- The endpoint and the log that any number of moves, in any order, lead to. -/
inductive Run (settings : Settings) : List Deed → Endpoint → Prop
  | start : Run settings [] (.new settings)
  | step {log : List Deed} {endpoint endpoint' : Endpoint} (run : Run settings log endpoint)
      (move : EndpointMove) (hmove : endpoint.perform move = some endpoint') :
      Run settings (log ++ endpoint.deeds move) endpoint'

/-- Makes the given moves, if all of them can be made. -/
def follow (log : List Deed) (endpoint : Endpoint) :
    List EndpointMove → Option (List Deed × Endpoint)
  | [] => some (log, endpoint)
  | move :: moves =>
    (endpoint.perform move).bind fun endpoint' =>
      endpoint'.follow (log ++ endpoint.deeds move) moves

variable {settings : Settings} {log log' : List Deed} {endpoint endpoint' : Endpoint}

theorem Run.follow (run : Run settings log endpoint) {moves : List EndpointMove}
    (h : endpoint.follow log moves = some (log', endpoint')) : Run settings log' endpoint' := by
  induction moves generalizing log endpoint with
  | nil =>
    cases h
    exact run
  | cons move moves ih =>
    obtain ⟨between, hmove, hrest⟩ := Option.bind_eq_some_iff.mp h
    exact ih (run.step move hmove) hrest

/-- The ways in which a call goes on. -/
inductive Turns (endpoint : Endpoint) (call : Call) : Endpoint → Prop
  | answered {index : Nat} {result : Except Fault Answer} (hphase : call.phase = .onSession index)
      (htold : endpoint.told? index call.number = some result) :
      Turns endpoint call (endpoint.finish call.number (result.map .answered))
  | opened {index : Nat} {session : Session} (hphase : call.phase = .opening index)
      (hlive : endpoint.connection? index = some (.live session)) :
      Turns endpoint call
        ({ endpoint with
          sessions := endpoint.sessions ++ [index]
          desk := if endpoint.desk.line.serves call.number then
              ⟨endpoint.desk.line.leave call.number, some index, some index⟩
            else endpoint.desk }.finish call.number (.ok (.opened index)))
  | failed {index : Nat} {transport : Transport} {fault : Fault}
      (hphase : call.phase = .opening index)
      (hfailed : endpoint.connection? index = some (.failed transport fault)) :
      Turns endpoint call
        ({ endpoint with
          desk := { endpoint.desk with line := endpoint.desk.line.leave call.number } }.finish
            call.number (.error fault))
  | begins {index : Nat} {plan : OpeningPlan} (hphase : call.phase = .inLine index plan)
      (hserves : endpoint.desk.line.serves call.number)
      (hnone : ∀ before, endpoint.desk.current = some before →
        ∀ session, endpoint.session? before = some session → session.state ≠ .ready) :
      Turns endpoint call
        ({ endpoint with desk := { endpoint.desk with current := none } }.beginAttempt call.number
          index plan)
  | relieves {index before : Nat} {plan : OpeningPlan} {session : Session}
      (hphase : call.phase = .inLine index plan) (hserves : endpoint.desk.line.serves call.number)
      (hcurrent : endpoint.desk.current = some before)
      (hsession : endpoint.session? before = some session) (hready : session.state = .ready) :
      Turns endpoint call
        (({ endpoint with desk := { endpoint.desk with current := none } }.mapSession before
          fun session => session.call call.number .close).setPhase call.number
            (.relieving index plan before))
  | relieved {index before : Nat} {plan : OpeningPlan} {result : Except Fault Answer}
      (hphase : call.phase = .relieving index plan before)
      (htold : endpoint.told? before call.number = some result) :
      Turns endpoint call (endpoint.beginAttempt call.number index plan)
  | accepts {index : Nat} {arrivals : List Nat} (hphase : call.phase = .accepting)
      (harrivals : endpoint.reception.arrivals = index :: arrivals) :
      Turns endpoint call
        ({ endpoint with
          registers := (endpoint.registers.fork endpoint.register).2
          reception := ⟨arrivals, endpoint.reception.line.leave call.number⟩ }.begin index
            ⟨.outbound, .dialed, endpoint.settings, (endpoint.registers.fork endpoint.register).1,
              endpoint.threads⟩
          |>.setPhase call.number (.opening index))

theorem ready_of_isReady {state : SessionState} (h : state.isReady = true) : state = .ready := by
  cases state <;> first | rfl | cases h

theorem relieve_turns {call : Call} {index : Nat} {plan : OpeningPlan}
    (hphase : call.phase = .inLine index plan) (hserves : endpoint.desk.line.serves call.number) :
    endpoint.Turns call (endpoint.relieve call.number index plan) := by
  unfold relieve
  dsimp only
  split
  · next before hcurrent =>
    split
    · next hready =>
      cases hsession : endpoint.session? before with
      | none =>
        change (((endpoint.session? before).map _).getD false) = true at hready
        rw [hsession] at hready
        cases hready
      | some session =>
        change (((endpoint.session? before).map _).getD false) = true at hready
        rw [hsession] at hready
        exact .relieves hphase hserves hcurrent hsession (ready_of_isReady hready)
    · next hready =>
      refine .begins hphase hserves ?_
      intro before' hcurrent' session hsession hstate
      obtain rfl := Option.some.inj (hcurrent.symm.trans hcurrent')
      refine hready ?_
      change (((endpoint.session? before).map _).getD false) = true
      rw [hsession]
      simp [hstate, SessionState.isReady]
  · next hcurrent =>
    refine .begins hphase hserves ?_
    intro before hcurrent'
    rw [hcurrent] at hcurrent'
    cases hcurrent'

theorem callTurn_turns {call : Call} (h : endpoint.callTurn call = some endpoint') :
    endpoint.Turns call endpoint' := by
  unfold callTurn at h
  split at h
  · next index hphase =>
    obtain ⟨result, htold, rfl⟩ := Option.map_eq_some_iff.mp h
    exact .answered hphase htold
  · next index hphase =>
    unfold endAttempt at h
    dsimp only at h
    split at h
    · next session hlive =>
      obtain rfl := Option.some.inj h
      exact .opened hphase hlive
    · next transport fault hfailed =>
      obtain rfl := Option.some.inj h
      exact .failed hphase hfailed
    · cases h
  · next index plan hphase =>
    split at h
    · next hserves =>
      obtain rfl := Option.some.inj h
      exact relieve_turns hphase hserves
    · cases h
  · next index plan before hphase =>
    obtain ⟨result, htold, rfl⟩ := Option.map_eq_some_iff.mp h
    exact .relieved hphase htold
  · next hphase =>
    split at h
    · unfold takeArrival at h
      split at h
      · cases h
      · next index arrivals harrivals =>
        obtain rfl := Option.some.inj h
        exact .accepts hphase harrivals
    · cases h
  · cases h

/-- The ways in which a move can be made. -/
inductive Moves (endpoint : Endpoint) : EndpointMove → Endpoint → Prop
  | openStream (handshake : Handshake) :
      Moves endpoint (.openStream handshake) (endpoint.openStream handshake).2
  | connect (credentials : Credentials) (link : Link) (timeout : Nat) :
      Moves endpoint (.connect credentials link timeout)
        (endpoint.connect credentials link timeout).2
  | arrive : Moves endpoint .arrive endpoint.arrive
  | accept : Moves endpoint .accept endpoint.accept.2
  | call {index : Nat} (request : Request) (hknown : index ∈ endpoint.sessions) :
      Moves endpoint (.call index request) (endpoint.call index request).2
  | asksCurrent {index : Nat} (request : Request) (hcurrent : endpoint.desk.current = some index) :
      Moves endpoint (.callClient request) (endpoint.call index request).2
  | asksNobody (request : Request) (result : Except Fault CallOutcome)
      (hcurrent : endpoint.desk.current = none) :
      Moves endpoint (.callClient request) (endpoint.addCall (.finished result)).2
  | cancel {number : Nat} (hwaits : endpoint.hasOpened number = false) :
      Moves endpoint (.cancel number) (endpoint.cancel number)
  | callTurn {number : Nat} {call : Call} {endpoint' : Endpoint}
      (hfound : endpoint.call? number = some call) (hturns : endpoint.Turns call endpoint') :
      Moves endpoint (.callTurn number) endpoint'
  | collect : Moves endpoint .collect endpoint.takeFinished.2
  | listen (register : RegisterId) (manner : Option Manner) :
      Moves endpoint (.listen register manner) (endpoint.listen register manner)
  | listeners (audience : Audience) :
      Moves endpoint (.listeners audience) { endpoint with audience }
  | threads (threads : LaneThreads) : Moves endpoint (.threads threads) { endpoint with threads }
  | connection {index : Nat} {turn : ConnectionTurn} {connection connection' : Connection}
      (hfound : endpoint.connection? index = some connection)
      (hturn : connection.takeTurn endpoint.now turn = some connection') :
      Moves endpoint (.connection index turn) (endpoint.mapConnection index fun _ => connection')
  | deliver {index : Nat} {session : Session} (hsession : endpoint.session? index = some session) :
      Moves endpoint (.deliver index) (endpoint.deliverOn index session)
  | tick : Moves endpoint .tick (endpoint.advance 1)

theorem callClient_moves (endpoint : Endpoint) (request : Request) :
    endpoint.Moves (.callClient request) (endpoint.callClient request).2 := by
  unfold callClient
  cases hcurrent : endpoint.desk.current with
  | some index => exact .asksCurrent request hcurrent
  | none => cases request <;> exact .asksNobody _ _ hcurrent

theorem moves_of_perform {move : EndpointMove} (h : endpoint.perform move = some endpoint') :
    endpoint.Moves move endpoint' := by
  cases move with
  | call index request =>
    obtain ⟨hknown, hcall⟩ := Option.ite_none_right_eq_some.mp h
    obtain rfl := Option.some.inj hcall
    exact .call request hknown
  | callClient request =>
    obtain rfl := Option.some.inj h
    exact endpoint.callClient_moves request
  | cancel number =>
    obtain ⟨hwaits, hcancel⟩ := Option.ite_none_left_eq_some.mp h
    obtain rfl := Option.some.inj hcancel
    exact .cancel (Bool.eq_false_iff.mpr hwaits)
  | callTurn number =>
    obtain ⟨call, hfound, hturn⟩ := Option.bind_eq_some_iff.mp h
    exact .callTurn hfound (callTurn_turns hturn)
  | connection index turn =>
    obtain ⟨connection', hbind, rfl⟩ := Option.map_eq_some_iff.mp h
    obtain ⟨connection, hfound, hturn⟩ := Option.bind_eq_some_iff.mp hbind
    exact .connection hfound hturn
  | deliver index =>
    obtain ⟨session, hsession, rfl⟩ := Option.map_eq_some_iff.mp h
    exact .deliver hsession
  | _ =>
    obtain rfl := Option.some.inj h
    constructor

end Endpoint

end EventSocket
