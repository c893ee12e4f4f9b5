import EventSocket.Proofs.Endpoint.Effects
import EventSocket.Proofs.Endpoint.Unheard
import EventSocket.Proofs.Session.Dispatching

/-!
The dispatchers of an endpoint. Whatever happens to an endpoint, the dispatcher of each session on
it goes on by moves of its own, from the listeners that were there when the session began. So what
is known of the runs of a dispatcher holds of every session.
-/

namespace EventSocket

namespace Registers

theorem listeners_fork (registers : Registers) (id id' : RegisterId) :
    registers.listeners id <+: (registers.fork id').2.listeners id := by
  simp only [listeners, fork, create, List.getD_eq_getElem?_getD]
  rcases Nat.lt_or_ge id.index registers.lists.length with hlt | hge
  · rw [List.getElem?_append_left hlt]
  · rw [List.getElem?_eq_none hge]
    exact List.nil_prefix

end Registers

namespace Endpoint

variable {endpoint endpoint' : Endpoint} {session session' : Session} {connection : Connection}

theorem listeners_perform {move : EndpointMove} (hmove : endpoint.perform move = some endpoint')
    (id : RegisterId) :
    endpoint.registers.listeners id <+: endpoint'.registers.listeners id := by
  cases moves_of_perform hmove with
  | listen => exact Registers.listeners_add ..
  | callTurn hfound hturns =>
    cases hturns with
    | accepts => exact Registers.listeners_fork ..
    | _ => exact List.prefix_rfl
  | cancel =>
    unfold cancel
    dsimp only
    split <;> exact List.prefix_rfl
  | _ => exact List.prefix_rfl

/-- The dispatcher of the session has come where it is by moves of its own. -/
def Dispatches (endpoint : Endpoint) (session : Session) : Prop :=
  ∃ first size moves, session.Serves (endpoint.registers.listeners session.register)
    (Delivery.apart first size moves)

theorem Dispatches.later (h : endpoint.Dispatches session)
    (hlisteners : ∀ id, endpoint.registers.listeners id <+: endpoint'.registers.listeners id) :
    endpoint'.Dispatches session := by
  obtain ⟨first, size, moves, hserves⟩ := h
  obtain ⟨moves', hserves'⟩ := hserves.adds (hlisteners session.register)
  exact ⟨first, size, moves', hserves'⟩

theorem Dispatches.perform (h : endpoint.Dispatches session) (move : Move)
    (hlisteners : ∀ others audience, move = .deliver others audience →
      others = endpoint.registers.listeners session.register)
    (hmove : session.perform move = some session') : endpoint.Dispatches session' := by
  obtain ⟨first, size, moves, hserves⟩ := h
  obtain ⟨more, hserves'⟩ := hserves.perform hlisteners hmove
  have hregister : session'.register = session.register :=
    congrArg Prod.snd (Session.terms_perform hmove)
  refine ⟨first, size, moves ++ more, ?_⟩
  rwa [Delivery.apart, Delivery.after_append, hregister]

/-- What becomes of a session by a turn of its connection, and what it begins with. -/
theorem dispatches_takeTurn {now : Nat} {turn : ConnectionTurn}
    (hsessions : ∀ session, connection = .live session → endpoint.Dispatches session)
    (hturn : connection.takeTurn now turn = some (.live session')) :
    endpoint.Dispatches session' := by
  generalize hlive : Connection.live session' = connection' at hturn
  cases Connection.takes_of_takeTurn hturn with
  | linked => cases hlive
  | @network _ transport hsent =>
    cases connection with
    | live session =>
      obtain rfl := Connection.live.inj hlive
      exact (hsessions session rfl).perform (.network transport) (by simp) (if_pos hsent)
    | _ => cases hlive
  | opening attempt most =>
    cases hopening : attempt.turn now most with
    | ready attempt' channelData =>
      rw [hopening] at hlive
      obtain rfl := Connection.live.inj hlive
      exact ⟨_, _, [], Session.serves_session attempt' channelData _⟩
    | _ => rw [hopening] at hlive; cases hlive
  | caller hmove | reader hmove =>
    obtain rfl := Connection.live.inj hlive
    exact (hsessions _ rfl).perform _ (by simp) hmove

theorem dispatches_becomes {move : EndpointMove}
    (hsessions : ∀ session, connection = .live session → endpoint.Dispatches session)
    {connection' : Connection} (hbecomes : endpoint.Becomes endpoint' move connection connection')
    (hlive : connection' = .live session') : endpoint.Dispatches session' := by
  cases hbecomes with
  | stays => exact hsessions session' hlive
  | starts =>
    cases connection with
    | live session => exact hsessions session' hlive
    | _ => cases hlive
  | turns hturn => exact dispatches_takeTurn hsessions (hlive ▸ hturn)
  | delivers session listeners audience hlisteners =>
    obtain rfl := Connection.live.inj hlive
    refine (hsessions session rfl).perform (.deliver listeners audience) ?_ rfl
    rintro _ _ ⟨⟩
    exact hlisteners
  | @asks session number request =>
    obtain rfl := Connection.live.inj hlive
    exact (hsessions session rfl).perform (.call number request) (by simp) rfl
  | @leaves session number =>
    obtain rfl := Connection.live.inj hlive
    exact (hsessions session rfl).perform (.abandon number) (by simp) rfl
  | abandons =>
    cases connection with
    | live session => exact hsessions session' hlive
    | _ => cases hlive

/-- The dispatchers of all sessions have come where they are by moves of their own. -/
def Dispatching (endpoint : Endpoint) : Prop :=
  ∀ connection ∈ endpoint.connections, ∀ session, connection = .live session →
    endpoint.Dispatches session

theorem Dispatching.perform {move : EndpointMove} (h : endpoint.Dispatching)
    (hmove : endpoint.perform move = some endpoint') : endpoint'.Dispatching := by
  intro connection' hmem session' hlive
  have hlisteners := listeners_perform hmove
  rcases (rewires_perform hmove).mem hmem with ⟨connection, hold, hbecomes⟩ | hadded
  · exact (dispatches_becomes (h connection hold) hbecomes hlive).later hlisteners
  · obtain ⟨transport, rfl | ⟨plan, rfl⟩⟩ := hadded <;> cases hlive

theorem Dispatching.laneTurn {index : Nat} {kind : LaneKind}
    {answer : Listener → Callback → Option Outcome} (h : endpoint.Dispatching)
    (hturn : endpoint.laneTurn index kind answer = some endpoint') : endpoint'.Dispatching := by
  obtain ⟨session, hsession, hturn⟩ := Option.bind_eq_some_iff.mp hturn
  obtain ⟨turn, hlane, hturn⟩ := Option.bind_eq_some_iff.mp hturn
  obtain rfl := Option.some.inj hturn
  intro connection' hmem session' hlive
  obtain ⟨place, hplace⟩ := List.mem_iff_getElem?.mp hmem
  obtain ⟨connection, hfound, hchanged⟩ :=
    Option.map_eq_some_iff.mp ((connection?_mapConnection ..).symm.trans hplace)
  by_cases hindex : index = place
  · subst hindex
    obtain rfl := Option.some.inj (hfound.symm.trans (session?_eq_some.mp hsession))
    rw [if_pos rfl] at hchanged
    obtain rfl := Connection.live.inj (hchanged.trans hlive)
    obtain ⟨first, size, moves, hserves⟩ := h _ (mem_of_connection? hfound) session rfl
    refine ⟨first, size, moves ++ [.turn kind answer], ?_⟩
    rw [Delivery.apart_concat]
    exact hserves.laneTurn hlane
  · rw [if_neg hindex] at hchanged
    exact h connection (mem_of_connection? hfound) session' (hchanged.trans hlive)

theorem Dispatching.act (h : endpoint.Dispatching) (move : SceneMove) :
    (endpoint.act move).Dispatching := by
  cases move with
  | endpoint move =>
    rw [Endpoint.act]
    cases hmove : endpoint.perform move with
    | none => exact h
    | some endpoint' => exact h.perform hmove
  | lane index kind answer =>
    rw [Endpoint.act]
    cases hturn : endpoint.laneTurn index kind answer with
    | none => exact h
    | some endpoint' => exact h.laneTurn hturn

theorem dispatching_after (settings : Settings) (moves : List SceneMove) :
    (moves.foldl act (new settings)).Dispatching := by
  induction moves using List.reverseRecOn with
  | nil => simp [Dispatching, new]
  | append_singleton moves move ih =>
    rw [List.foldl_append]
    exact ih.act move

end Endpoint

end EventSocket
