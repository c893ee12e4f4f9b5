import EventSocket.Proofs.Endpoint.Hosting

/-!
How the connections of a client go on while it attends to others: an opening becomes a session, a
session ends, and nobody asks anything of it but in a call of its own.
-/

namespace EventSocket

/-- The connections on which the client was to open a session. -/
def connected (log : List Deed) : List Nat :=
  log.filterMap fun
    | .connects index => some index
    | _ => none

@[simp]
theorem connected_append (log more : List Deed) :
    connected (log ++ more) = connected log ++ connected more :=
  List.filterMap_append

namespace Connection

variable {connection connection' : Connection} {next now : Nat}

/-- What a connection may become on which nobody begins to open a session. Nobody asks for anything
of its session but a caller with the given number. -/
structure Goes (next : Nat) (connection connection' : Connection) : Prop where
  opening : ∀ attempt', connection' = .opening attempt' → ∃ attempt, connection = .opening attempt
  ongoing : ∀ session', connection' = .live session' → session'.state.isTerminal = false →
    (∃ attempt, connection = .opening attempt) ∨
      ∃ session, connection = .live session ∧ session.state.isTerminal = false
  asks : ∀ session, connection = .live session → ∃ session', connection' = .live session' ∧
    ∀ ask ∈ session'.asks, ask ∈ session.asks ∨ ask.1 = next

theorem goes_refl (next : Nat) (connection : Connection) : connection.Goes next connection :=
  ⟨fun attempt h => ⟨attempt, h⟩, fun session hlive hgoing => Or.inr ⟨session, hlive, hgoing⟩,
    fun session hlive => ⟨session, hlive, fun _ => Or.inl⟩⟩

/-- A connection without a session does not get one except from an opening. -/
theorem goes_of_none (next : Nat) (hbefore : connection.session? = none)
    (hafter : connection'.session? = none)
    (hopening : ∀ attempt', connection' = .opening attempt' →
      ∃ attempt, connection = .opening attempt) : connection.Goes next connection' := by
  refine ⟨hopening, ?_, ?_⟩
  · rintro session rfl
    cases hafter
  · rintro session rfl
    cases hbefore

theorem goes_session {session session' : Session} (move : Move)
    (hmove : session.perform move = some session')
    (hcall : ∀ number request, move = .call number request → number = next) :
    (live session).Goes next (live session') := by
  refine ⟨by simp, ?_, ?_⟩
  · rintro _ ⟨⟩ hgoing
    refine Or.inr ⟨session, rfl, ?_⟩
    by_contra hterminal
    rw [(Session.lives_perform hmove).terminal (Bool.not_eq_false _ ▸ hterminal)] at hgoing
    cases hgoing
  · rintro _ ⟨⟩
    refine ⟨session', rfl, fun ask hask => ?_⟩
    rcases Session.asks_perform hmove hask with hold | ⟨number, request, rfl, rfl⟩
    · exact Or.inl hold
    · exact Or.inr (hcall number request rfl)

theorem goes_takeTurn {turn : ConnectionTurn} (next : Nat)
    (h : connection.takeTurn now turn = some connection') : connection.Goes next connection' := by
  cases takes_of_takeTurn h with
  | linked => exact goes_of_none next rfl rfl fun _ _ => ⟨_, rfl⟩
  | @network _ transport hsent =>
    cases connection with
    | live session => exact goes_session (.network transport) (if_pos hsent) (by simp)
    | opening attempt => exact goes_of_none next rfl rfl fun _ _ => ⟨attempt, rfl⟩
    | _ => exact goes_of_none next rfl rfl (by simp [mapTransport])
  | opening attempt =>
    exact ⟨fun _ _ => ⟨attempt, rfl⟩, fun _ _ _ => Or.inl ⟨attempt, rfl⟩, by simp⟩
  | caller hmove | reader hmove => exact goes_session _ hmove (by simp)

theorem goes_abandon (next : Nat) (connection : Connection) :
    connection.Goes next connection.abandon := by
  cases connection with
  | idle transport => exact goes_of_none next rfl rfl (by simp [abandon])
  | opening attempt => exact goes_of_none next rfl rfl (by simp [abandon])
  | _ => exact goes_refl next _

end Connection

namespace Endpoint

variable {log more : List Deed} {endpoint endpoint' : Endpoint}
  {connection connection' : Connection} {move : EndpointMove} {index number : Nat}

/-- The connections of the client have gone on, and new ones have only been added. -/
structure Carries (log more : List Deed) (endpoint endpoint' : Endpoint) : Prop where
  length : endpoint.connections.length ≤ endpoint'.connections.length
  fresh : ∀ index ∈ connected more, endpoint.connections.length ≤ index ∧
    ∃ transport, endpoint'.connection? index = some (.idle transport)
  goes : ∀ index ∈ connected log, ∀ connection, endpoint.connection? index = some connection →
    ∃ connection', endpoint'.connection? index = some connection' ∧
      connection.Goes endpoint.nextCall connection'

theorem carries_of_eq (hconnections : endpoint'.connections = endpoint.connections)
    (hmore : connected more = []) : endpoint.Carries log more endpoint' := by
  refine ⟨by rw [hconnections], by simp [hmore], fun index _ connection hfound => ?_⟩
  exact ⟨connection, by rw [connection?, hconnections]; exact hfound, Connection.goes_refl _ _⟩

theorem carries_mapConnection {change : Connection → Connection} (hmore : connected more = [])
    (hconnections : endpoint'.connections = (endpoint.mapConnection index change).connections)
    (hchange : index ∈ connected log → ∀ connection, endpoint.connection? index = some connection →
      connection.Goes endpoint.nextCall (change connection)) :
    endpoint.Carries log more endpoint' := by
  refine ⟨?_, by simp [hmore], fun other hother connection hfound => ?_⟩
  · rw [hconnections]
    exact (List.length_modify ..).ge
  · have hmap := connection?_mapConnection endpoint index change other
    rw [hfound] at hmap
    refine ⟨if index = other then change connection else connection, ?_, ?_⟩
    · rw [connection?, hconnections]
      exact hmap
    · split
      · next hsame =>
        subst hsame
        exact hchange hother connection hfound
      · exact Connection.goes_refl _ _

theorem Carries.session (h : endpoint.Carries log more endpoint') (hindex : index ∈ connected log)
    {session : Session}
    (hsession : endpoint.session? index = some session) :
    ∃ session', endpoint'.session? index = some session' ∧
      ∀ ask ∈ session'.asks, ask ∈ session.asks ∨ ask.1 = endpoint.nextCall := by
  obtain ⟨connection', hafter, hgoes⟩ := h.goes index hindex _ (session?_eq_some.mp hsession)
  obtain ⟨session', rfl, hasks⟩ := hgoes.asks session rfl
  exact ⟨session', session?_eq_some.mpr hafter, hasks⟩

theorem Carries.not_fresh (h : endpoint.Carries log more endpoint')
    (hindex : index < endpoint.connections.length) : index ∉ connected more :=
  fun hmem => absurd hindex (Nat.not_lt.mpr (h.fresh index hmem).1)

theorem Becomes.goes (h : endpoint.Becomes endpoint' move connection connection')
    (hturn : ∀ number, move ≠ .callTurn number) :
    connection.Goes endpoint.nextCall connection' := by
  cases h with
  | stays => exact Connection.goes_refl _ _
  | starts _ plan hmove => exact absurd hmove (hturn _)
  | turns hturn => exact Connection.goes_takeTurn _ hturn
  | delivers session listeners audience =>
    exact Connection.goes_session (.deliver listeners audience) rfl (by simp)
  | @asks session number request hbefore =>
    refine Connection.goes_session (.call number request) rfl ?_
    rintro _ _ ⟨⟩
    exact hbefore.resolve_right fun hline => hturn _ hline.1
  | @leaves session number =>
    exact Connection.goes_session (.abandon number) rfl (by simp)
  | abandons => exact Connection.goes_abandon _ _

theorem connected_deeds (endpoint : Endpoint) (move : EndpointMove) :
    connected (endpoint.deeds move) = [] ∨
      ∃ credentials link timeout, move = .connect credentials link timeout := by
  cases move with
  | connect credentials link timeout => exact Or.inr ⟨credentials, link, timeout, rfl⟩
  | cancel number =>
    refine Or.inl ?_
    unfold deeds
    dsimp only
    split <;> rfl
  | callTurn number =>
    refine Or.inl ?_
    unfold deeds
    dsimp only
    split
    · next before _ =>
      cases endpoint.told? before number <;> rfl
    · rfl
  | _ => exact Or.inl rfl

/-- Only in the turn of a call a session begins to be opened on a connection that has been there. -/
theorem carries_perform (log : List Deed) (hmove : endpoint.perform move = some endpoint')
    (hturn : ∀ number, move ≠ .callTurn number) :
    endpoint.Carries log (endpoint.deeds move) endpoint' where
  length := (rewires_perform hmove).length
  fresh := by
    intro index hindex
    rcases endpoint.connected_deeds move with hnone | ⟨credentials, link, timeout, rfl⟩
    · rw [hnone] at hindex
      cases hindex
    · obtain rfl : index = endpoint.connections.length := by simpa [deeds, connected] using hindex
      obtain rfl := Option.some.inj hmove
      exact ⟨Nat.le_refl _, .new, by simp [connection?, connect, addCall, addTransport]⟩
  goes := by
    intro index _ connection hfound
    obtain ⟨connection', hfound', hbecomes⟩ := (rewires_perform hmove).connection? hfound
    exact ⟨connection', hfound', hbecomes.goes hturn⟩

end Endpoint

end EventSocket
