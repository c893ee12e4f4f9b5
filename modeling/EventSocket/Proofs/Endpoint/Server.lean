import EventSocket.Proofs.Connection.Turns
import EventSocket.Proofs.Endpoint.Dispatching

/-!
The moves of a server, in any order: listeners are added to the server or to the session of one
connection, transports arrive and are accepted, sessions are used, and their lanes take turns.
-/

namespace EventSocket

/-- What can happen at a server. `holdUp` says which callbacks are held up from then on. -/
inductive ServerMove where
  | addListener (manner : Option Manner)
  | subscribe (index : Nat) (manner : Option Manner)
  | holdUp (held : List (Nat × LaneKind))
  | scene (move : SceneMove)

/-- A server does not connect, and listeners are added to it in its own moves only. -/
def SceneMove.ofServer : SceneMove → Bool
  | .endpoint (.openStream _) | .endpoint (.connect ..) | .endpoint (.callClient _)
  | .endpoint (.listen ..) | .endpoint (.listeners _) => false
  | _ => true

/-- The connection on which listeners are let go on. -/
def SceneMove.delivers? : SceneMove → Option Nat
  | .endpoint (.deliver index) | .lane index .. => some index
  | _ => none

def CallPhase.OfServer : CallPhase → Prop
  | inLine .. | relieving .. => False
  | onSession _ | opening _ | accepting | finished _ => True

namespace Connection

def isIdle : Connection → Bool
  | idle _ => true
  | _ => false

def isOpening : Connection → Bool
  | opening _ => true
  | _ => false

/-- The register of the session that is there or is being opened. -/
def register? : Connection → Option RegisterId
  | opening attempt => some attempt.register
  | live session => some session.register
  | _ => none

/-- The connection goes on, and no handshake begins on it. -/
structure GoesOn (connection connection' : Connection) : Prop where
  register : ∀ register, connection'.register? = some register →
    connection.register? = some register
  idle : connection'.isIdle → connection.isIdle

theorem goesOn_refl (connection : Connection) : connection.GoesOn connection := ⟨fun _ => id, id⟩

theorem not_isIdle {connection : Connection} {register : RegisterId}
    (h : connection.register? = some register) : ¬ connection.isIdle := by
  cases connection with
  | idle => cases h
  | _ => exact Bool.false_ne_true

theorem goesOn_live {session session' : Session} (h : session'.register = session.register) :
    (live session).GoesOn (live session') := by
  refine ⟨?_, id⟩
  intro register hregister
  rwa [register?, h] at hregister

theorem goesOn_abandon (connection : Connection) : connection.GoesOn connection.abandon := by
  cases connection with
  | idle | opening => exact ⟨by simp [abandon, register?], by simp [abandon, isIdle]⟩
  | _ => exact goesOn_refl _

theorem goesOn_afterTurn (attempt : Opening) (now most : Nat) :
    (opening attempt).GoesOn (afterTurn attempt (attempt.turn now most)) := by
  have heffect := Opening.turn_effect attempt now most
  generalize attempt.turn now most = turn at heffect ⊢
  generalize attempt.occurrences most = occurred at heffect
  cases heffect with
  | fails => exact ⟨by simp [afterTurn, register?], by simp [afterTurn, isIdle]⟩
  | _ => exact ⟨fun _ => id, by simp [afterTurn, isIdle]⟩

theorem goesOn_takeTurn {connection connection' : Connection} {now : Nat} {turn : ConnectionTurn}
    (h : connection.takeTurn now turn = some connection') : connection.GoesOn connection' := by
  cases takes_of_takeTurn h with
  | linked => exact ⟨fun _ => id, id⟩
  | network => cases connection <;> exact ⟨fun _ => id, id⟩
  | opening attempt most => exact goesOn_afterTurn attempt now most
  | caller hmove | reader hmove =>
    exact goesOn_live (congrArg Prod.snd (Session.terms_perform hmove))

end Connection

namespace Endpoint

variable {endpoint endpoint' : Endpoint} {connection connection' : Connection}
  {register : RegisterId} {index : Nat}

theorem goesOn_becomes {move : EndpointMove} (hmove : ∀ number, move ≠ .callTurn number)
    (h : endpoint.Becomes endpoint' move connection connection') :
    connection.GoesOn connection' := by
  cases h with
  | stays => exact Connection.goesOn_refl _
  | starts _ plan hturn => exact absurd hturn (hmove _)
  | turns hturn => exact Connection.goesOn_takeTurn hturn
  | delivers => exact Connection.goesOn_live rfl
  | @asks session number request =>
    have hcall : session.perform (.call number request) = some (session.call number request) := rfl
    exact Connection.goesOn_live (congrArg Prod.snd (Session.terms_perform hcall))
  | leaves session => exact Connection.goesOn_live rfl
  | abandons => exact Connection.goesOn_abandon _

/-- The calls are those of a server: none connects. -/
def Serving (endpoint : Endpoint) : Prop := ∀ call ∈ endpoint.calls, call.phase.OfServer

/-- What a move of a server does to its registers and connections. A handshake begins with a fork of
the server's register. -/
inductive ServerStep (endpoint endpoint' : Endpoint) : Prop
  | goesOn (hregisters : endpoint.registers.lists <+: endpoint'.registers.lists)
      (hlater : ∀ index connection, endpoint.connection? index = some connection →
        ∃ connection', endpoint'.connection? index = some connection' ∧
          connection.GoesOn connection')
      (hadded : ∀ index connection', endpoint.connection? index = none →
        endpoint'.connection? index = some connection' → connection'.isIdle)
  | begins {index : Nat} {transport : Transport} {plan : OpeningPlan}
      (hidle : endpoint.connection? index = some (.idle transport))
      (hplan : plan.register = (endpoint.registers.fork endpoint.register).1)
      (hregisters : endpoint'.registers = (endpoint.registers.fork endpoint.register).2)
      (hconnections : endpoint'.connections = (endpoint.begin index plan).connections)

@[simp]
theorem length_mapConnection (endpoint : Endpoint) (index : Nat)
    (change : Connection → Connection) :
    (endpoint.mapConnection index change).connections.length = endpoint.connections.length :=
  List.length_modify ..

theorem length_cancel (endpoint : Endpoint) (number : Nat) :
    (endpoint.cancel number).connections.length = endpoint.connections.length := by
  unfold cancel
  dsimp only
  split <;> simp [mapSession]

theorem registers_cancel (endpoint : Endpoint) (number : Nat) :
    (endpoint.cancel number).registers = endpoint.registers := by
  unfold cancel
  dsimp only
  split <;> rfl

theorem serverStep_of_rewires {move : EndpointMove} (hmove : ∀ number, move ≠ .callTurn number)
    (hrewires : endpoint.Rewires endpoint' move)
    (hregisters : endpoint'.registers = endpoint.registers)
    (hlength : endpoint'.connections.length = endpoint.connections.length) :
    endpoint.ServerStep endpoint' := by
  refine .goesOn (by rw [hregisters]) ?_ ?_
  · intro index connection hfound
    obtain ⟨connection', hfound', hbecomes⟩ := hrewires.connection? hfound
    exact ⟨connection', hfound', goesOn_becomes hmove hbecomes⟩
  · intro index connection' hnone hfound'
    have hlt : index < endpoint.connections.length := hlength ▸ connection?_lt hfound'
    obtain ⟨connection, hfound⟩ := exists_connection? hlt
    rw [hfound] at hnone
    cases hnone

theorem serverStep_of_eq (hregisters : endpoint.registers.lists <+: endpoint'.registers.lists)
    (hconnections : endpoint'.connections = endpoint.connections) :
    endpoint.ServerStep endpoint' := by
  have hsame (index : Nat) : endpoint'.connection? index = endpoint.connection? index := by
    rw [connection?, connection?, hconnections]
  refine .goesOn hregisters ?_ ?_
  · intro index connection hfound
    exact ⟨connection, (hsame index).trans hfound, Connection.goesOn_refl connection⟩
  · intro index connection' hnone hfound'
    rw [hsame, hnone] at hfound'
    cases hfound'

theorem serverStep_arrive (endpoint : Endpoint) : endpoint.ServerStep endpoint.arrive := by
  have hconnections : endpoint.arrive.connections = endpoint.connections ++ [.idle .new] := rfl
  refine .goesOn (List.prefix_rfl) ?_ ?_
  · intro index connection hfound
    refine ⟨connection, ?_, Connection.goesOn_refl connection⟩
    rw [connection?, hconnections, List.getElem?_append_left (connection?_lt hfound)]
    exact hfound
  · intro index connection' hnone hfound'
    rw [connection?, hconnections] at hfound'
    have hbehind : endpoint.connections.length ≤ index := List.getElem?_eq_none_iff.mp hnone
    rw [List.getElem?_append_right hbehind] at hfound'
    obtain rfl := List.mem_singleton.mp (List.mem_of_getElem? hfound')
    rfl

theorem serverStep_mapConnection {change : Connection → Connection}
    (hregisters : endpoint.registers.lists <+: endpoint'.registers.lists)
    (hconnections : endpoint'.connections = (endpoint.mapConnection index change).connections)
    (hchange : ∀ connection, endpoint.connection? index = some connection →
      connection.GoesOn (change connection)) : endpoint.ServerStep endpoint' := by
  have hchanged (other : Nat) : endpoint'.connection? other =
      (endpoint.connection? other).map fun connection =>
        if index = other then change connection else connection := by
    rw [connection?, hconnections]
    exact connection?_mapConnection ..
  refine .goesOn hregisters ?_ ?_
  · intro other connection hfound
    rw [hchanged, hfound]
    refine ⟨_, rfl, ?_⟩
    dsimp only
    split
    · next hsame => exact hchange connection (hsame ▸ hfound)
    · exact Connection.goesOn_refl connection
  · intro other connection' hnone hfound'
    rw [hchanged, hnone] at hfound'
    cases hfound'

/-- Whoever accepts a transport that is not idle begins nothing. -/
theorem serverStep_begin {plan : OpeningPlan}
    (hplan : plan.register = (endpoint.registers.fork endpoint.register).1)
    (hregisters : endpoint'.registers = (endpoint.registers.fork endpoint.register).2)
    (hconnections : endpoint'.connections = (endpoint.begin index plan).connections) :
    endpoint.ServerStep endpoint' := by
  by_cases hidle : ∃ transport, endpoint.connection? index = some (.idle transport)
  · obtain ⟨transport, hfound⟩ := hidle
    exact .begins hfound hplan hregisters hconnections
  · have hgrown : endpoint.registers.lists <+: endpoint'.registers.lists := by
      rw [hregisters]
      exact List.prefix_append _ _
    apply serverStep_mapConnection hgrown hconnections
    intro connection hfound
    cases connection with
    | idle transport => exact absurd ⟨transport, hfound⟩ hidle
    | _ => exact Connection.goesOn_refl _

theorem serverStep_callTurn {call : Call} (hcall : call.phase.OfServer)
    (h : endpoint.Turns call endpoint') : endpoint.ServerStep endpoint' := by
  cases h with
  | answered | opened | failed => exact serverStep_of_eq List.prefix_rfl rfl
  | begins hphase | relieves hphase | relieved hphase =>
    rw [hphase] at hcall
    exact hcall.elim
  | accepts => exact serverStep_begin rfl rfl rfl

theorem serverStep_perform {move : EndpointMove} (hserving : endpoint.Serving)
    (hmove : (SceneMove.endpoint move).ofServer) (h : endpoint.perform move = some endpoint') :
    endpoint.ServerStep endpoint' := by
  have hrewires := rewires_perform h
  cases moves_of_perform h with
  | openStream | connect | asksCurrent | asksNobody | listen | listeners => cases hmove
  | arrive => exact serverStep_arrive endpoint
  | accept | collect | tick | threads => exact serverStep_of_eq List.prefix_rfl rfl
  | call | connection | deliver =>
    exact serverStep_of_rewires (by simp) hrewires rfl (length_mapConnection ..)
  | cancel =>
    exact serverStep_of_rewires (by simp) hrewires (registers_cancel ..) (length_cancel ..)
  | callTurn hfound hturns =>
    exact serverStep_callTurn (hserving _ (mem_of_call? hfound).1) hturns

/-- The endpoint after a turn of a lane. -/
def afterLane (endpoint : Endpoint) (index : Nat) (kind : LaneKind) (turn : LaneTurn) : Endpoint :=
  { endpoint.mapSession index fun session =>
      { session with dispatcher := session.dispatcher.setLane turn.lane kind } with
    audience := match turn.told with
      | some (listener, callback) => endpoint.audience.tell listener callback
      | none => endpoint.audience }

/-- What a move comes to: nothing for whoever has to wait. -/
inductive Acts (endpoint : Endpoint) : SceneMove → Endpoint → Prop
  | waits (move : SceneMove) : endpoint.Acts move endpoint
  | performs {move : EndpointMove} {endpoint' : Endpoint}
      (hmove : endpoint.perform move = some endpoint') : endpoint.Acts (.endpoint move) endpoint'
  | lane {index : Nat} {kind : LaneKind} {answer : Listener → Callback → Option Outcome}
      {session : Session} {turn : LaneTurn} (hsession : endpoint.session? index = some session)
      (hturn : (session.dispatcher.lane kind).turn kind
        (endpoint.registers.listeners session.register) answer = some turn) :
      endpoint.Acts (.lane index kind answer) (endpoint.afterLane index kind turn)

theorem act_acts (endpoint : Endpoint) (move : SceneMove) :
    endpoint.Acts move (endpoint.act move) := by
  cases move with
  | endpoint move =>
    rw [act]
    cases hmove : endpoint.perform move with
    | none => exact .waits _
    | some endpoint' => exact .performs hmove
  | lane index kind answer =>
    rw [act]
    cases hlane : endpoint.laneTurn index kind answer with
    | none => exact .waits _
    | some endpoint' =>
      obtain ⟨session, hsession, hlane⟩ := Option.bind_eq_some_iff.mp hlane
      obtain ⟨turn, hturn, hlane⟩ := Option.bind_eq_some_iff.mp hlane
      obtain rfl := Option.some.inj hlane
      exact .lane hsession hturn

/-- Besides the callback that it begins, a turn of a lane changes nothing but the lane. -/
theorem serverStep_afterLane {kind : LaneKind} {turn : LaneTurn} {session : Session}
    (hsession : endpoint.session? index = some session) :
    endpoint.ServerStep (endpoint.afterLane index kind turn) := by
  let change : Connection → Connection := .mapSession fun session =>
    { session with dispatcher := session.dispatcher.setLane turn.lane kind }
  refine @serverStep_mapConnection endpoint _ index change List.prefix_rfl rfl ?_
  intro connection hfound
  obtain rfl := Option.some.inj ((session?_eq_some.mp hsession).symm.trans hfound)
  exact Connection.goesOn_live rfl

theorem serverStep_acts {move : SceneMove} (hserving : endpoint.Serving) (hmove : move.ofServer)
    (h : endpoint.Acts move endpoint') : endpoint.ServerStep endpoint' := by
  cases h with
  | waits => exact serverStep_of_eq List.prefix_rfl rfl
  | performs hperform => exact serverStep_perform hserving hmove hperform
  | lane hsession => exact serverStep_afterLane hsession

/-- The transports that were idle and on which a session is being opened now. -/
def begunBy (endpoint endpoint' : Endpoint) : List Nat :=
  (List.range endpoint.connections.length).filter fun index =>
    (endpoint.connection? index).any Connection.isIdle &&
      (endpoint'.connection? index).any Connection.isOpening

theorem mem_begunBy : index ∈ endpoint.begunBy endpoint' ↔
    ∃ transport attempt, endpoint.connection? index = some (.idle transport) ∧
      endpoint'.connection? index = some (.opening attempt) := by
  unfold begunBy
  rw [List.mem_filter, List.mem_range, Bool.and_eq_true]
  constructor
  · rintro ⟨-, hidle, hopening⟩
    obtain ⟨connection, hfound, hidle⟩ := (Option.any_eq_true _ _).mp hidle
    obtain ⟨connection', hfound', hopening⟩ := (Option.any_eq_true _ _).mp hopening
    cases connection with
    | idle transport =>
      cases connection' with
      | opening attempt => exact ⟨transport, attempt, hfound, hfound'⟩
      | _ => exact absurd hopening Bool.false_ne_true
    | _ => exact absurd hidle Bool.false_ne_true
  · rintro ⟨transport, attempt, hfound, hfound'⟩
    refine ⟨connection?_lt hfound, ?_, ?_⟩
    · rw [hfound]
      rfl
    · rw [hfound']
      rfl

theorem not_mem_begunBy (hfound : endpoint.connection? index = some connection)
    (hfound' : endpoint'.connection? index = some connection')
    (hgoesOn : connection.GoesOn connection') : index ∉ endpoint.begunBy endpoint' := by
  intro hbegun
  obtain ⟨transport, attempt, hidle, hopening⟩ := mem_begunBy.mp hbegun
  obtain rfl := Option.some.inj (hfound.symm.trans hidle)
  obtain rfl := Option.some.inj (hfound'.symm.trans hopening)
  cases hgoesOn.register _ rfl

theorem not_mem_begunBy_of_eq (h : endpoint'.connections = endpoint.connections) (index : Nat) :
    index ∉ endpoint.begunBy endpoint' := by
  intro hbegun
  obtain ⟨transport, attempt, hidle, hopening⟩ := mem_begunBy.mp hbegun
  rw [connection?, h, ← connection?, hidle] at hopening
  cases hopening

/-! What follows from a step of the server. -/

namespace ServerStep

theorem connection?_begin {plan : OpeningPlan}
    (hconnections : endpoint'.connections = (endpoint.begin index plan).connections) (other : Nat) :
    endpoint'.connection? other = (endpoint.connection? other).map fun connection =>
      if index = other then connection.start plan endpoint.now else connection := by
  rw [connection?, hconnections]
  exact connection?_mapConnection ..

theorem grows (h : endpoint.ServerStep endpoint') :
    endpoint.registers.lists <+: endpoint'.registers.lists := by
  cases h with
  | goesOn hregisters => exact hregisters
  | begins _ _ hregisters =>
    rw [hregisters]
    exact List.prefix_append _ _

theorem busy (h : endpoint.ServerStep endpoint')
    (hfound : endpoint.connection? index = some connection) (hbusy : ¬ connection.isIdle) :
    ∃ connection', endpoint'.connection? index = some connection' ∧ ¬ connection'.isIdle := by
  cases h with
  | goesOn _ hlater =>
    obtain ⟨connection', hfound', hgoesOn⟩ := hlater index connection hfound
    exact ⟨connection', hfound', fun hidle => hbusy (hgoesOn.idle hidle)⟩
  | @begins begun transport plan hidle _ _ hconnections =>
    have hother : begun ≠ index := by
      rintro rfl
      obtain rfl := Option.some.inj (hidle.symm.trans hfound)
      exact hbusy rfl
    refine ⟨connection, ?_, hbusy⟩
    rw [connection?_begin hconnections, hfound, Option.map_some, if_neg hother]

/-- A register that is in use was so before, or has just been forked off that of the server. -/
theorem registered (h : endpoint.ServerStep endpoint')
    (hfound' : endpoint'.connection? index = some connection')
    (hregister : connection'.register? = some register) :
    (∃ connection, endpoint.connection? index = some connection ∧
      connection.register? = some register) ∨
    index ∈ endpoint.begunBy endpoint' ∧
      register = (endpoint.registers.fork endpoint.register).1 ∧
      endpoint'.registers = (endpoint.registers.fork endpoint.register).2 := by
  cases h with
  | goesOn _ hlater hadded =>
    left
    cases hfound : endpoint.connection? index with
    | none =>
      exact absurd (hadded index connection' hfound hfound') (Connection.not_isIdle hregister)
    | some connection =>
      obtain ⟨connection'', hfound'', hgoesOn⟩ := hlater index connection hfound
      obtain rfl := Option.some.inj (hfound'.symm.trans hfound'')
      exact ⟨connection, rfl, hgoesOn.register register hregister⟩
  | @begins begun transport plan hidle hplan hregisters hconnections =>
    have hchanged := connection?_begin hconnections index
    rw [hfound'] at hchanged
    obtain ⟨connection, hfound, hconnection'⟩ := Option.map_eq_some_iff.mp hchanged.symm
    by_cases hindex : begun = index
    · subst hindex
      right
      obtain rfl := Option.some.inj (hidle.symm.trans hfound)
      rw [if_pos rfl] at hconnection'
      subst hconnection'
      refine ⟨mem_begunBy.mpr ⟨transport, _, hidle, hfound'⟩, ?_, hregisters⟩
      rw [← hplan]
      exact (Option.some.inj hregister).symm
    · rw [if_neg hindex] at hconnection'
      subst hconnection'
      exact .inl ⟨connection, hfound, hregister⟩

theorem begun_unique {index' : Nat} (h : endpoint.ServerStep endpoint')
    (hbegun : index ∈ endpoint.begunBy endpoint') (hbegun' : index' ∈ endpoint.begunBy endpoint') :
    index = index' := by
  cases h with
  | goesOn _ hlater =>
    obtain ⟨transport, attempt, hfound, -⟩ := mem_begunBy.mp hbegun
    obtain ⟨connection', hfound', hgoesOn⟩ := hlater _ _ hfound
    exact absurd hbegun (not_mem_begunBy hfound hfound' hgoesOn)
  | @begins begun transport plan hidle _ _ hconnections =>
    have honly : ∀ other ∈ endpoint.begunBy endpoint', begun = other := by
      intro other hother
      obtain ⟨transport', attempt, hfound, hfound'⟩ := mem_begunBy.mp hother
      by_contra hne
      rw [connection?_begin hconnections, hfound, Option.map_some, if_neg hne] at hfound'
      cases hfound'
    rw [← honly index hbegun, ← honly index' hbegun']

end ServerStep

theorem calls_callTurn {call : Call} (h : endpoint.Turns call endpoint')
    (hcall : call.phase.OfServer) :
    ∃ phase : CallPhase, phase.OfServer ∧
      endpoint'.calls = (endpoint.setPhase call.number phase).calls := by
  cases h with
  | answered | opened | failed => exact ⟨.finished _, trivial, rfl⟩
  | begins hphase | relieves hphase | relieved hphase =>
    rw [hphase] at hcall
    exact hcall.elim
  | accepts => exact ⟨.opening _, trivial, rfl⟩

theorem Serving.perform {move : EndpointMove} (hserving : endpoint.Serving)
    (hmove : (SceneMove.endpoint move).ofServer) (h : endpoint.perform move = some endpoint') :
    endpoint'.Serving := by
  have hjoin (phase : CallPhase) (hphase : phase.OfServer)
      (hcalls : endpoint'.calls = endpoint.calls ++ [⟨endpoint.nextCall, phase⟩]) :
      endpoint'.Serving := by
    intro call hcall
    rw [hcalls] at hcall
    rcases List.mem_append.mp hcall with hold | hnew
    · exact hserving call hold
    · rw [List.mem_singleton.mp hnew]
      exact hphase
  have hkeep (hcalls : endpoint'.calls ⊆ endpoint.calls) : endpoint'.Serving :=
    fun call hcall => hserving call (hcalls hcall)
  cases moves_of_perform h with
  | openStream | connect | asksCurrent | asksNobody | listen | listeners => cases hmove
  | accept => exact hjoin .accepting trivial rfl
  | call => exact hjoin (.onSession _) trivial rfl
  | arrive | tick | threads | connection | deliver => exact hkeep (List.Subset.refl _)
  | collect => exact hkeep (List.filter_subset_self _)
  | cancel =>
    apply hkeep
    rw [calls_cancel]
    exact List.filter_subset_self _
  | callTurn hfound hturns =>
    have hcall := hserving _ (mem_of_call? hfound).1
    obtain ⟨phase, hphase, hcalls⟩ := calls_callTurn hturns hcall
    intro other hother
    rw [hcalls] at hother
    rcases mem_setPhase hother with ⟨hold, -⟩ | rfl
    · exact hserving other hold
    · exact hphase

theorem Serving.acts {move : SceneMove} (hserving : endpoint.Serving) (hmove : move.ofServer)
    (h : endpoint.Acts move endpoint') : endpoint'.Serving := by
  cases h with
  | waits => exact hserving
  | performs hperform => exact hserving.perform hmove hperform
  | lane => exact hserving

/-! What is told. -/

theorem register_perform {move : EndpointMove} (h : endpoint.perform move = some endpoint') :
    endpoint'.register = endpoint.register ∧
      (move.ofListeners = false → endpoint'.audience = endpoint.audience) := by
  cases moves_of_perform h with
  | listen | listeners | deliver => exact ⟨rfl, fun hothers => by cases hothers⟩
  | cancel =>
    unfold cancel
    dsimp only
    split <;> exact ⟨rfl, fun _ => rfl⟩
  | callTurn hfound hturns => cases hturns <;> exact ⟨rfl, fun _ => rfl⟩
  | _ => exact ⟨rfl, fun _ => rfl⟩

theorem register_acts {move : SceneMove} (h : endpoint.Acts move endpoint') :
    endpoint'.register = endpoint.register := by
  cases h with
  | waits => rfl
  | performs hperform => exact (register_perform hperform).1
  | lane => rfl

/-- Whoever is told something is a listener of the session on this connection. -/
def TellsOn (endpoint : Endpoint) (index? : Option Nat) (incidents : List Incident) : Prop :=
  ∀ kind place listener callback, .told kind place listener callback ∈ incidents →
    ∃ index session, index? = some index ∧ endpoint.session? index = some session ∧
      listener ∈ endpoint.registers.listeners session.register

theorem hears_deliver {session : Session} (hdispatching : endpoint.Dispatching)
    (hsession : endpoint.session? index = some session) :
    ∃ incidents, (endpoint.deliverOn index session).audience = endpoint.audience.hear incidents ∧
      endpoint.TellsOn (some index) incidents := by
  have hlive := mem_of_connection? (session?_eq_some.mp hsession)
  obtain ⟨first, size, moves, hserves⟩ := hdispatching _ hlive session rfl
  obtain ⟨delivery, hdelivery⟩ : ∃ delivery, delivery = Delivery.apart first size moves := ⟨_, rfl⟩
  rw [← hdelivery] at hserves
  obtain ⟨more, -, hafter, hheard⟩ := delivery.dispatcher_deliver endpoint.audience
  rw [hserves.dispatcher, hserves.listeners] at hheard hafter
  refine ⟨delivery.log more, hheard.symm, ?_⟩
  intro kind place listener callback htold
  refine ⟨index, session, rfl, hsession, ?_⟩
  have hcoherent := (Delivery.coherent_apart first size moves).after more
  rw [← hdelivery, hafter] at hcoherent
  have hseat := hcoherent.sourced.seated kind place listener callback
    (List.mem_append_right _ htold)
  have hlisteners := hserves.listeners
  rw [← hlisteners]
  exact List.mem_of_getElem? hseat

theorem hears_afterLane {kind : LaneKind} {answer : Listener → Callback → Option Outcome}
    {session : Session} {turn : LaneTurn} (hdispatching : endpoint.Dispatching)
    (hsession : endpoint.session? index = some session)
    (hturn : (session.dispatcher.lane kind).turn kind
      (endpoint.registers.listeners session.register) answer = some turn) :
    ∃ incidents, (endpoint.afterLane index kind turn).audience = endpoint.audience.hear incidents ∧
      endpoint.TellsOn (some index) incidents := by
  have hlive := mem_of_connection? (session?_eq_some.mp hsession)
  obtain ⟨first, size, moves, hserves⟩ := hdispatching _ hlive session rfl
  refine ⟨turn.told.toList.map fun told =>
    .told kind (session.dispatcher.lane kind).place told.1 told.2, ?_, ?_⟩
  · unfold afterLane
    cases turn.told <;> rfl
  · intro kind' place listener callback htold
    obtain ⟨⟨listener', callback'⟩, hmem, heq⟩ := List.mem_map.mp htold
    obtain ⟨-, -, rfl, rfl⟩ := Incident.told.inj heq
    refine ⟨index, session, rfl, hsession, ?_⟩
    have hplaced := (Delivery.coherent_apart first size moves).placed kind
    rw [hserves.listeners, Delivery.lane, hserves.dispatcher] at hplaced
    exact List.mem_of_getElem?
      ((Lane.turns_of_turn hturn).listener_told hplaced (Option.mem_toList.mp hmem))

theorem hears_acts {move : SceneMove} (hdispatching : endpoint.Dispatching)
    (hmove : move.ofServer) (h : endpoint.Acts move endpoint') :
    ∃ incidents, endpoint'.audience = endpoint.audience.hear incidents ∧
      endpoint.TellsOn move.delivers? incidents := by
  have hnobody : endpoint.TellsOn move.delivers? [] := by simp [TellsOn]
  cases h with
  | waits => exact ⟨[], rfl, hnobody⟩
  | lane hsession hturn => exact hears_afterLane hdispatching hsession hturn
  | @performs move _ hperform =>
    cases hlisteners : move.ofListeners with
    | false => exact ⟨[], (register_perform hperform).2 hlisteners, hnobody⟩
    | true =>
      cases move with
      | deliver index =>
        obtain ⟨session, hsession, rfl⟩ := Option.map_eq_some_iff.mp hperform
        exact hears_deliver hdispatching hsession
      | listen | listeners => cases hmove
      | _ => cases hlisteners

end Endpoint

end EventSocket
