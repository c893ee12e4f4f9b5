import EventSocket.Proofs.Endpoint.Moves

/-!
What the moves of an endpoint do to its calls and to its connections.
-/

namespace EventSocket

def CallPhase.InLine : CallPhase → Prop
  | inLine .. => True
  | _ => False

/-- What the call waits for is the answer to what it has asked of the session on this connection. -/
def CallPhase.WaitsOn (index : Nat) : CallPhase → Prop
  | onSession index' => index' = index
  | relieving _ _ before => before = index
  | _ => False

namespace Endpoint

variable {endpoint endpoint' : Endpoint} {move : EndpointMove} {connection connection' : Connection}
  {session : Session} {call other : Call} {phase : CallPhase} {index number : Nat}

theorem mem_of_call? (h : endpoint.call? number = some call) :
    call ∈ endpoint.calls ∧ call.number = number :=
  ⟨List.mem_of_find?_eq_some h, by simpa using List.find?_some h⟩

theorem mem_setPhase (h : call ∈ (endpoint.setPhase number phase).calls) :
    call ∈ endpoint.calls ∧ call.number ≠ number ∨ call = ⟨number, phase⟩ := by
  obtain ⟨before, hbefore, hafter⟩ := List.mem_map.mp h
  split at hafter
  · next hsame =>
    subst hafter
    exact Or.inr (by rw [hsame])
  · next hother =>
    subst hafter
    exact Or.inl ⟨hbefore, hother⟩

theorem mem_setPhase_of_ne (hother : other ∈ endpoint.calls) (hne : other.number ≠ number) :
    other ∈ (endpoint.setPhase number phase).calls :=
  List.mem_map.mpr ⟨other, hother, if_neg hne⟩

theorem self_mem_setPhase (endpoint : Endpoint) (hcall : call ∈ endpoint.calls) :
    ⟨call.number, phase⟩ ∈ (endpoint.setPhase call.number phase).calls :=
  List.mem_map.mpr ⟨call, hcall, if_pos rfl⟩

theorem numbers_setPhase (endpoint : Endpoint) (number : Nat) (phase : CallPhase) :
    (endpoint.setPhase number phase).calls.map Call.number = endpoint.calls.map Call.number := by
  rw [setPhase, List.map_map]
  refine List.map_congr_left fun call _ => ?_
  by_cases hsame : call.number = number <;> simp [hsame]

theorem calls_cancel (endpoint : Endpoint) (number : Nat) :
    (endpoint.cancel number).calls = endpoint.calls.filter fun call => call.number ≠ number := by
  unfold cancel
  dsimp only
  split <;> rfl

theorem desk_cancel (endpoint : Endpoint) (number : Nat) :
    (endpoint.cancel number).desk =
      { endpoint.desk with line := endpoint.desk.line.leave number } := by
  unfold cancel
  dsimp only
  split <;> rfl

theorem arrivals_cancel (endpoint : Endpoint) (number : Nat) :
    (endpoint.cancel number).reception.arrivals = endpoint.reception.arrivals := by
  unfold cancel
  dsimp only
  split <;> rfl

theorem nextCall_cancel (endpoint : Endpoint) (number : Nat) :
    (endpoint.cancel number).nextCall = endpoint.nextCall := by
  unfold cancel
  dsimp only
  split <;> rfl

/-- The ways in which a move changes the calls. Only a call that was in line for it begins to wait
for the answer of a session. -/
inductive Rebooks (endpoint endpoint' : Endpoint) : Prop
  | same (hcalls : endpoint'.calls = endpoint.calls)
      (hnext : endpoint'.nextCall = endpoint.nextCall)
  | joins (phase : CallPhase)
      (hcalls : endpoint'.calls = endpoint.calls ++ [⟨endpoint.nextCall, phase⟩])
      (hnext : endpoint'.nextCall = endpoint.nextCall + 1)
  | drops (keep : Call → Bool) (hcalls : endpoint'.calls = endpoint.calls.filter keep)
      (hnext : endpoint'.nextCall = endpoint.nextCall)
  | sets {call : Call} {phase : CallPhase} (hcall : call ∈ endpoint.calls)
      (hcalls : endpoint'.calls = (endpoint.setPhase call.number phase).calls)
      (hnext : endpoint'.nextCall = endpoint.nextCall) (hphase : ¬ phase.InLine)
      (hwaits : ∀ index, phase.WaitsOn index → call.phase.InLine)

theorem rebooks_turns (hcall : call ∈ endpoint.calls) (h : endpoint.Turns call endpoint') :
    endpoint.Rebooks endpoint' := by
  cases h with
  | relieves hphase => exact .sets hcall rfl rfl id fun _ _ => by rw [hphase]; trivial
  | _ => exact .sets hcall rfl rfl id fun _ => False.elim

theorem rebooks_perform (hmove : endpoint.perform move = some endpoint') :
    endpoint.Rebooks endpoint' := by
  cases moves_of_perform hmove with
  | openStream | connect | accept | call | asksCurrent | asksNobody => exact .joins _ rfl rfl
  | arrive | listen | listeners | threads | connection | deliver | tick => exact .same rfl rfl
  | @cancel number hwaits =>
    exact .drops _ (calls_cancel endpoint number) (nextCall_cancel endpoint number)
  | callTurn hfound hturns => exact rebooks_turns (mem_of_call? hfound).1 hturns
  | collect => exact .drops _ rfl rfl

theorem now_perform (hmove : endpoint.perform move = some endpoint') (htick : move ≠ .tick) :
    endpoint'.now = endpoint.now := by
  cases moves_of_perform hmove with
  | tick => exact absurd rfl htick
  | cancel =>
    unfold cancel
    dsimp only
    split <;> rfl
  | callTurn hfound hturns => cases hturns <;> rfl
  | _ => rfl

theorem session?_eq_some :
    endpoint.session? index = some session ↔ endpoint.connection? index = some (.live session) := by
  constructor
  · intro h
    obtain ⟨connection, hconnection, hsession⟩ := Option.bind_eq_some_iff.mp h
    cases connection <;> cases hsession
    exact hconnection
  · intro h
    rw [Endpoint.session?, h]
    rfl

theorem mem_of_connection? (h : endpoint.connection? index = some connection) :
    connection ∈ endpoint.connections :=
  List.mem_of_getElem? h

theorem connection?_lt (h : endpoint.connection? index = some connection) :
    index < endpoint.connections.length :=
  (List.getElem?_eq_some_iff.mp h).1

theorem exists_connection? (h : index < endpoint.connections.length) :
    ∃ connection, endpoint.connection? index = some connection :=
  ⟨_, List.getElem?_eq_getElem h⟩

theorem connection?_mapConnection (endpoint : Endpoint) (index : Nat)
    (change : Connection → Connection) (other : Nat) :
    (endpoint.mapConnection index change).connection? other =
      (endpoint.connection? other).map fun connection =>
        if index = other then change connection else connection := by
  change (endpoint.connections.modify index change)[other]? = _
  rw [List.getElem?_modify]
  rfl

/-- Nothing has been asked of a session in a call with this number: it is the next, or the move is
that of a call in line. -/
def Unasked (endpoint : Endpoint) (move : EndpointMove) (number : Nat) : Prop :=
  number = endpoint.nextCall ∨
    move = .callTurn number ∧ ∃ call ∈ endpoint.calls, call.number = number ∧ call.phase.InLine

/-- What a move can make of a connection. -/
inductive Becomes (endpoint endpoint' : Endpoint) (move : EndpointMove) :
    Connection → Connection → Prop
  | stays (connection : Connection) : Becomes endpoint endpoint' move connection connection
  | starts (connection : Connection) (plan : OpeningPlan) {number : Nat}
      (hturn : move = .callTurn number) :
      Becomes endpoint endpoint' move connection (connection.start plan endpoint.now)
  | turns {connection connection' : Connection} {turn : ConnectionTurn}
      (hturn : connection.takeTurn endpoint.now turn = some connection') :
      Becomes endpoint endpoint' move connection connection'
  | delivers (session : Session) (listeners : List Listener) (audience : Audience)
      (hlisteners : listeners = endpoint.registers.listeners session.register) :
      Becomes endpoint endpoint' move (.live session)
        (.live { session with
          dispatcher := (session.dispatcher.deliver listeners audience).1 })
  | asks (session : Session) {number : Nat} (request : Request)
      (hbefore : endpoint.Unasked move number)
      (hafter : ∃ call ∈ endpoint'.calls, call.number = number ∧ ¬ call.phase.InLine) :
      Becomes endpoint endpoint' move (.live session) (.live (session.call number request))
  | leaves (session : Session) {number : Nat} (hcancel : move = .cancel number) :
      Becomes endpoint endpoint' move (.live session) (.live (session.abandon number))
  | abandons (connection : Connection) :
      Becomes endpoint endpoint' move connection connection.abandon

/-- A connection that is added is an idle transport, on which a session may have begun to be opened
at once. -/
def Added (endpoint : Endpoint) (connection : Connection) : Prop :=
  ∃ transport, connection = .idle transport ∨
    ∃ plan, connection = (Connection.idle transport).start plan endpoint.now

/-- The ways in which a move changes the connections. -/
inductive Rewires (endpoint endpoint' : Endpoint) (move : EndpointMove) : Prop
  | changes (hlength : endpoint'.connections.length = endpoint.connections.length)
      (hbecomes : ∀ index connection, endpoint.connection? index = some connection →
        ∃ connection', endpoint'.connection? index = some connection' ∧
          Becomes endpoint endpoint' move connection connection')
  | adds {connection : Connection}
      (hconnections : endpoint'.connections = endpoint.connections ++ [connection])
      (hadded : endpoint.Added connection)

theorem rewires_mapConnection {change : Connection → Connection}
    (hconnections : endpoint'.connections = (endpoint.mapConnection index change).connections)
    (hchange : ∀ connection, endpoint.connection? index = some connection →
      endpoint.Becomes endpoint' move connection (change connection)) :
    endpoint.Rewires endpoint' move := by
  refine .changes ?_ fun other connection hfound => ?_
  · rw [hconnections]
    exact List.length_modify ..
  · have hmap := connection?_mapConnection endpoint index change other
    rw [hfound] at hmap
    refine ⟨if index = other then change connection else connection, ?_, ?_⟩
    · rw [connection?, hconnections]
      exact hmap
    · split
      · next hsame =>
        subst hsame
        exact hchange connection hfound
      · exact .stays connection

theorem rewires_of_eq (hconnections : endpoint'.connections = endpoint.connections) :
    endpoint.Rewires endpoint' move := by
  refine .changes (by rw [hconnections]) fun index connection hfound => ?_
  exact ⟨connection, by rw [connection?, hconnections]; exact hfound, .stays connection⟩

theorem rewires_begin {plan : OpeningPlan}
    (hconnections : endpoint'.connections = (endpoint.begin index plan).connections) :
    endpoint.Rewires endpoint' (.callTurn number) :=
  rewires_mapConnection hconnections fun connection _ => .starts connection plan rfl

theorem rewires_ask {request : Request}
    (hconnections : endpoint'.connections =
      (endpoint.mapSession index fun session => session.call number request).connections)
    (hbefore : endpoint.Unasked move number)
    (hafter : ∃ call ∈ endpoint'.calls, call.number = number ∧ ¬ call.phase.InLine) :
    endpoint.Rewires endpoint' move := by
  refine rewires_mapConnection hconnections fun connection _ => ?_
  cases connection with
  | live session => exact .asks session request hbefore hafter
  | _ => exact .stays _

theorem rewires_call (endpoint : Endpoint) (index : Nat) (request : Request) :
    endpoint.Rewires (endpoint.call index request).2 move := by
  refine rewires_ask rfl (Or.inl rfl) ⟨⟨endpoint.nextCall, .onSession index⟩, ?_, rfl, id⟩
  exact List.mem_append_right _ (List.mem_singleton.mpr rfl)

theorem becomes_leave (connection : Connection) (number : Nat) :
    endpoint.Becomes endpoint' (.cancel number) connection
      (connection.mapSession (·.abandon number)) := by
  cases connection with
  | live session => exact .leaves session rfl
  | _ => exact .stays _

theorem becomes_leave_abandon (connection : Connection) (number : Nat) :
    endpoint.Becomes endpoint' (.cancel number) connection
      (connection.mapSession (·.abandon number)).abandon := by
  cases connection with
  | live session => exact .leaves session rfl
  | _ => exact .abandons _

theorem rewires_cancel (endpoint : Endpoint) (number : Nat) :
    endpoint.Rewires (endpoint.cancel number) (.cancel number) := by
  unfold cancel
  dsimp only
  split
  · exact rewires_mapConnection rfl fun connection _ => becomes_leave connection number
  · exact rewires_mapConnection rfl fun connection _ => .abandons connection
  · exact rewires_mapConnection rfl fun connection _ => .abandons connection
  · next index plan before hphase =>
    refine .changes ?_ fun other connection hfound => ?_
    · exact (List.length_modify ..).trans (List.length_modify ..)
    · refine ⟨_, (connection?_mapConnection ..).trans
        (congrArg _ ((connection?_mapConnection ..).trans (congrArg _ hfound))), ?_⟩
      split <;> split
      · exact becomes_leave_abandon connection number
      · exact becomes_leave connection number
      · exact .abandons connection
      · exact .stays connection
  · exact rewires_of_eq rfl

theorem rewires_turns (hcall : call ∈ endpoint.calls) (hturns : endpoint.Turns call endpoint') :
    endpoint.Rewires endpoint' (.callTurn call.number) := by
  cases hturns with
  | answered | opened | failed => exact rewires_of_eq rfl
  | begins | relieved | accepts => exact rewires_begin rfl
  | @relieves index before plan session hphase =>
    refine rewires_ask rfl (Or.inr ⟨rfl, call, hcall, rfl, by rw [hphase]; trivial⟩)
      ⟨⟨call.number, .relieving index plan before⟩, ?_, rfl, id⟩
    exact self_mem_setPhase _ hcall

theorem rewires_perform (hmove : endpoint.perform move = some endpoint') :
    endpoint.Rewires endpoint' move := by
  cases moves_of_perform hmove with
  | openStream handshake =>
    refine .adds ?_ ⟨.new, Or.inr
      ⟨⟨handshake, .stream, endpoint.settings, endpoint.register, endpoint.threads⟩, rfl⟩⟩
    simp [Endpoint.openStream, addCall, begin, mapConnection, addTransport,
      List.modify_eq_take_drop]
  | connect | arrive => exact .adds rfl ⟨.new, Or.inl rfl⟩
  | accept | asksNobody | listen | listeners | threads | collect | tick => exact rewires_of_eq rfl
  | call request | asksCurrent request => exact rewires_call endpoint _ request
  | @cancel number hwaits => exact rewires_cancel endpoint number
  | callTurn hfound hturns =>
    obtain ⟨hcall, rfl⟩ := mem_of_call? hfound
    exact rewires_turns hcall hturns
  | connection hturning hturn =>
    refine rewires_mapConnection rfl fun connection hfound => ?_
    obtain rfl := Option.some.inj (hturning.symm.trans hfound)
    exact .turns hturn
  | deliver hsession =>
    refine rewires_mapConnection rfl fun connection hfound => ?_
    obtain rfl := Option.some.inj ((session?_eq_some.mp hsession).symm.trans hfound)
    exact .delivers _ _ _ rfl

theorem Rewires.connection? (h : endpoint.Rewires endpoint' move)
    (hfound : endpoint.connection? index = some connection) :
    ∃ connection', endpoint'.connection? index = some connection' ∧
      endpoint.Becomes endpoint' move connection connection' := by
  cases h with
  | changes hlength hbecomes => exact hbecomes index connection hfound
  | adds hconnections hadded =>
    refine ⟨connection, ?_, .stays connection⟩
    rw [Endpoint.connection?, hconnections, List.getElem?_append_left (connection?_lt hfound)]
    exact hfound

theorem Rewires.mem (h : endpoint.Rewires endpoint' move)
    (hmem : connection' ∈ endpoint'.connections) :
    (∃ connection ∈ endpoint.connections, endpoint.Becomes endpoint' move connection connection') ∨
      endpoint.Added connection' := by
  cases h with
  | changes hlength hbecomes =>
    obtain ⟨index, hindex⟩ := List.mem_iff_getElem?.mp hmem
    have hlt : index < endpoint.connections.length := hlength ▸ connection?_lt hindex
    obtain ⟨connection, hfound⟩ := exists_connection? hlt
    obtain ⟨connection'', hfound', hbecomes⟩ := hbecomes index connection hfound
    obtain rfl := Option.some.inj (hindex.symm.trans hfound')
    exact Or.inl ⟨connection, mem_of_connection? hfound, hbecomes⟩
  | @adds connection hconnections hadded =>
    rw [hconnections, List.mem_append, List.mem_singleton] at hmem
    rcases hmem with hold | rfl
    · exact Or.inl ⟨connection', hold, .stays _⟩
    · exact Or.inr hadded

theorem Rewires.length (h : endpoint.Rewires endpoint' move) :
    endpoint.connections.length ≤ endpoint'.connections.length := by
  cases h with
  | changes hlength hbecomes => exact Nat.le_of_eq hlength.symm
  | adds hconnections hadded => simp [hconnections]

end Endpoint

end EventSocket
