import EventSocket.Proofs.Endpoint.Latest
import EventSocket.Proofs.Session.Refusal

/-!
Whether a client can send. It says so from the state of its latest attempt, and it sends to the
session in use. The two agree except while a call connects: a session that is being closed for the
sake of the next is out of use before it has ended, and one that has been opened is ready before it
is in use. If the call that closes a session goes away, the session stays out of use for good.
-/

namespace EventSocket

/-- Whoever was opening a session has not been let in before going away. -/
def Connection.Unready : Connection → Prop
  | abandoned _ state => state ≠ .ready
  | _ => True

theorem Connection.unready_abandon {connection : Connection} (h : connection.Unready) :
    connection.abandon.Unready := by
  cases connection with
  | idle transport => simp [abandon, Unready]
  | opening attempt => exact attempt.state_ne_ready
  | _ => exact h

theorem Connection.unready_takeTurn {connection connection' : Connection} {now : Nat}
    {turn : ConnectionTurn} (h : connection.Unready)
    (hturn : connection.takeTurn now turn = some connection') : connection'.Unready := by
  cases takes_of_takeTurn hturn with
  | network => cases connection <;> exact h
  | opening attempt most => cases attempt.turn now most <;> trivial
  | linked | caller | reader => trivial

/-- A connection whose state is ready has a session. -/
theorem Connection.live_of_ready {connection : Connection} (h : connection.Unready)
    (hready : connection.state = .ready) :
    ∃ session, connection = .live session ∧ session.state = .ready := by
  cases connection with
  | live session => exact ⟨session, rfl, hready⟩
  | idle transport => cases hready
  | opening attempt => exact absurd hready attempt.state_ne_ready
  | failed transport fault => cases fault <;> cases hready
  | abandoned transport state => exact absurd hready h

namespace Endpoint

variable {settings : Settings} {log log' : List Deed} {endpoint endpoint' : Endpoint}
  {connection connection' : Connection} {call : Call} {index number : Nat} {move : EndpointMove}

theorem Becomes.unready (h : endpoint.Becomes endpoint' move connection connection')
    (hbefore : connection.Unready) : connection'.Unready := by
  cases h with
  | stays => exact hbefore
  | starts => cases connection <;> exact hbefore
  | turns hturn => exact Connection.unready_takeTurn hbefore hturn
  | delivers | asks | leaves => trivial
  | abandons => exact Connection.unready_abandon hbefore

theorem Run.unready (run : Run settings log endpoint) :
    ∀ connection ∈ endpoint.connections, connection.Unready := by
  induction run with
  | start => simp [Endpoint.new]
  | step run move hmove ih =>
    intro connection' hmem
    rcases (rewires_perform hmove).mem hmem with ⟨connection, hold, hbecomes⟩ | hadded
    · exact hbecomes.unready (ih connection hold)
    · obtain ⟨transport, rfl | ⟨plan, rfl⟩⟩ := hadded <;> trivial

/-- Whether commands can be sent, as the client says. -/
def canSend (endpoint : Endpoint) : Bool := endpoint.clientState.isReady

/-- A client that says it can send has a ready session of its latest attempt. -/
theorem ready_of_canSend (run : Run settings log endpoint) (h : endpoint.canSend = true) :
    ∃ index session, endpoint.desk.latest = some index ∧
      endpoint.session? index = some session ∧ session.state = .ready := by
  have hready := ready_of_isReady h
  unfold clientState at hready
  cases hlatest : endpoint.desk.latest with
  | none => simp [hlatest] at hready
  | some index =>
    cases hfound : endpoint.connection? index with
    | none => simp [hlatest, hfound] at hready
    | some connection =>
      simp only [hlatest, Option.bind_some, hfound, Option.map_some, Option.getD_some] at hready
      obtain ⟨session, rfl, hsession⟩ :=
        Connection.live_of_ready (run.unready connection (mem_of_connection? hfound)) hready
      exact ⟨index, session, rfl, session?_eq_some.mpr hfound, hsession⟩

/-- The call with this number waits for the answer of a session, or has been told something else
than that there is no connection. -/
def Heeded (endpoint : Endpoint) (number : Nat) : Prop :=
  number < endpoint.nextCall ∧ ∀ call ∈ endpoint.calls, call.number = number →
    (∃ index, call.phase = .onSession index) ∨
      ∃ result, call.phase = .finished result ∧ result ≠ .error .notConnected

theorem told?_ne_notConnected (hsound : endpoint.Sound) :
    endpoint.told? index number ≠ some (.error .notConnected) := by
  intro htold
  obtain ⟨session, hsession, caller, hcaller, -, hphase⟩ := exists_told htold
  obtain ⟨attempt, channelData, happened, run, -⟩ := hsound.sessionRun hsession
  exact (run.unrefusing rfl (.ready rfl rfl)).1 caller hcaller hphase

theorem Turns.calls (h : endpoint.Turns call endpoint') :
    ∃ phase, endpoint'.calls = (endpoint.setPhase call.number phase).calls := by
  cases h <;> exact ⟨_, rfl⟩

theorem Heeded.turns (h : endpoint.Heeded number) (hsound : endpoint.Sound)
    (hcall : call ∈ endpoint.calls) (hnumber : call.number = number)
    (hturns : endpoint.Turns call endpoint') :
    ∃ result, endpoint'.calls = (endpoint.setPhase number (.finished result)).calls ∧
      result ≠ .error .notConnected := by
  have hphase := h.2 call hcall hnumber
  subst hnumber
  cases hturns with
  | @answered index result _ htold =>
    refine ⟨result.map .answered, rfl, ?_⟩
    cases result with
    | ok answer => simp [Except.map]
    | error fault =>
      rintro ⟨rfl⟩
      exact told?_ne_notConnected hsound htold
  | opened hother | failed hother | begins hother | relieves hother | relieved hother
  | accepts hother => simp [hother] at hphase

theorem Heeded.perform (h : endpoint.Heeded number) (hsound : endpoint.Sound)
    (hmove : endpoint.perform move = some endpoint') : endpoint'.Heeded number := by
  have hnext : endpoint.nextCall ≤ endpoint'.nextCall := by
    cases rebooks_perform hmove with
    | same _ hnext | drops _ _ hnext | sets _ _ hnext => exact hnext.ge
    | joins _ _ hnext => exact hnext ▸ Nat.le_succ _
  refine ⟨Nat.lt_of_lt_of_le h.1 hnext, fun call hcall hnumber => ?_⟩
  by_cases hturn : ∃ turned, move = .callTurn turned
  · obtain ⟨turned, rfl⟩ := hturn
    cases moves_of_perform hmove with
    | @callTurn _ before _ hfound hturns =>
      obtain ⟨hbefore, rfl⟩ := mem_of_call? hfound
      by_cases hown : before.number = number
      · obtain ⟨result, hcalls, hresult⟩ := h.turns hsound hbefore hown hturns
        rcases mem_setPhase (hcalls ▸ hcall) with ⟨-, hne⟩ | rfl
        · exact absurd hnumber hne
        · exact Or.inr ⟨result, rfl, hresult⟩
      · obtain ⟨phase, hcalls⟩ := hturns.calls
        rcases mem_setPhase (hcalls ▸ hcall) with ⟨hold, -⟩ | rfl
        · exact h.2 call hold hnumber
        · exact absurd hnumber hown
  · rcases (bystands_perform hmove (by simpa using hturn)).joins call hcall with hold | ⟨hnew, -⟩
    · exact h.2 call hold hnumber
    · exact absurd h.1 (by omega)

theorem Heeded.follow {moves : List EndpointMove} (h : endpoint.Heeded number)
    (hsound : endpoint.Sound) (hfollow : endpoint.follow log moves = some (log', endpoint')) :
    endpoint'.Heeded number := by
  induction moves generalizing log endpoint with
  | nil =>
    cases hfollow
    exact h
  | cons move moves ih =>
    obtain ⟨between, hmove, hrest⟩ := Option.bind_eq_some_iff.mp hfollow
    exact ih (h.perform hsound hmove) (hsound.perform hmove) hrest

/-- The client has this session in use, and whatever it is asked now is never told that there is no
connection. -/
structure Takes (log : List Deed) (endpoint : Endpoint) (index : Nat) : Prop where
  current : endpoint.desk.current = some index
  heeded : ∀ request moves log' endpoint',
    (endpoint.callClient request).2.follow log moves = some (log', endpoint') →
      ∀ call ∈ endpoint'.calls, call.number = (endpoint.callClient request).1 →
        call.phase ≠ .finished (.error .notConnected)

theorem takes_of_current (run : Run settings log endpoint)
    (hcurrent : endpoint.desk.current = some index) : endpoint.Takes log index := by
  refine ⟨hcurrent, fun request moves log' endpoint' hfollow call hcall hnumber hrefused => ?_⟩
  have hcalled : endpoint.callClient request = endpoint.call index request := by
    simp [callClient, hcurrent]
  rw [hcalled] at hfollow hnumber
  have hsound : (endpoint.call index request).2.Sound := by
    have hperformed : endpoint.perform (.callClient request) =
        some (endpoint.call index request).2 := by
      simp only [perform, hcalled]
    exact run.sound.perform hperformed
  have hheeded : (endpoint.call index request).2.Heeded endpoint.nextCall := by
    refine ⟨Nat.lt_succ_self _, fun call hcall hnumber => ?_⟩
    rcases List.mem_append.mp hcall with hold | hnew
    · exact absurd hnumber (Nat.ne_of_lt (run.sound.below call hold))
    · obtain rfl := List.mem_singleton.mp hnew
      exact Or.inl ⟨index, rfl⟩
  rcases (hheeded.follow hsound hfollow).2 call hcall hnumber with
    ⟨index', hphase⟩ | ⟨result, hphase, hresult⟩
  · rw [hrefused] at hphase
    cases hphase
  · rw [hrefused] at hphase
    cases hphase
    exact hresult rfl

/-- A client that says it can send has a ready session of its latest attempt. Either it has that
session in use, or a call is opening it or closing it for the sake of the next, or has gone away
from closing it. -/
theorem session_of_canSend (run : Run settings log endpoint) (h : endpoint.canSend = true) :
    ∃ index session, endpoint.desk.latest = some index ∧
      endpoint.session? index = some session ∧ session.state = .ready ∧
      (endpoint.Takes log index ∨ endpoint.desk.current = none ∧
        ((∃ call ∈ endpoint.calls, call.phase.Uses index) ∨ .forsaken index ∈ log)) := by
  obtain ⟨index, session, hlatest, hsession, hready⟩ := ready_of_canSend run h
  refine ⟨index, session, hlatest, hsession, hready, ?_⟩
  have hindex := run.abreast.latest index hlatest
  cases hcurrent : endpoint.desk.current with
  | some other =>
    have hother := run.abreast.inUse other (run.tended.current other hcurrent).1 (Or.inl hcurrent)
    obtain rfl := Option.some.inj (hlatest.symm.trans hother)
    exact Or.inl (takes_of_current run hcurrent)
  | none =>
    have hongoing : endpoint.Ongoing index := ⟨session, hsession, by rw [hready]; rfl⟩
    refine Or.inr ⟨rfl, ?_⟩
    rcases run.tended.ongoing index hindex hongoing with
      (hnow | huses) | ⟨text, hrelieved⟩ | hforsaken
    · rw [hcurrent] at hnow
      cases hnow
    · exact Or.inl huses
    · exact absurd hlatest (run.abreast.relieved index _ hrelieved).2
    · exact Or.inr hforsaken

theorem session_of_canSend_connected :
    ∃ log endpoint, Run .standard log endpoint ∧ endpoint.canSend = true ∧
      endpoint.desk.current = some 0 ∧
      ∃ index session, endpoint.desk.latest = some index ∧
        endpoint.session? index = some session ∧ session.state = .ready ∧
        (endpoint.Takes log index ∨ endpoint.desk.current = none ∧
          ((∃ call ∈ endpoint.calls, call.phase.Uses index) ∨ .forsaken index ∈ log)) := by
  have hmoves : ((Endpoint.new .standard).follow []
      (connectMoves 0 5000 ++ openingMoves 0 0)).map (fun reached =>
        (reached.2.canSend, reached.2.desk.current)) = some (true, some 0) := by
    decide +kernel
  obtain ⟨⟨log, endpoint⟩, hfollow, hreached⟩ := Option.map_eq_some_iff.mp hmoves
  obtain ⟨hready, hcurrent⟩ := Prod.mk.inj hreached
  have run := Run.start.follow hfollow
  exact ⟨log, endpoint, run, hready, hcurrent, session_of_canSend run hready⟩

theorem callClient_of_none {request : Request} (hcurrent : endpoint.desk.current = none)
    (hother : request ≠ .close) :
    endpoint.callClient request = endpoint.addCall (.finished (.error .notConnected)) := by
  unfold callClient
  split
  · next hsome => rw [hcurrent] at hsome; cases hsome
  · exact absurd rfl hother
  · rfl

/-- A client connects twice, and somebody asks for something while the first session is being
closed. -/
def impatientMoves : List EndpointMove :=
  connectMoves 0 5000 ++ openingMoves 0 0 ++ connectMoves 1 5000 ++ [.callTurn 1]

/-- While the session is being closed the client says that it can send, and refuses to. -/
theorem refuses_while_relieving :
    ∃ log endpoint, Run .standard log endpoint ∧ endpoint.canSend = true ∧
      endpoint.desk.current = none ∧
      ∃ call ∈ (endpoint.callClient (.api "status")).2.calls,
        call.number = (endpoint.callClient (.api "status")).1 ∧
          call.phase = .finished (.error .notConnected) := by
  have hmoves : ((Endpoint.new .standard).follow [] impatientMoves).map (fun reached =>
      (reached.2.canSend, reached.2.desk.current)) = some (true, none) := by
    decide +kernel
  obtain ⟨⟨log, endpoint⟩, hfollow, hreached⟩ := Option.map_eq_some_iff.mp hmoves
  obtain ⟨hready, hcurrent⟩ := Prod.mk.inj hreached
  refine ⟨log, endpoint, Run.start.follow hfollow, hready, hcurrent,
    ⟨endpoint.nextCall, .finished (.error .notConnected)⟩, ?_⟩
  rw [callClient_of_none hcurrent (by simp [Request.api])]
  exact ⟨List.mem_append_right _ (List.mem_singleton.mpr rfl), rfl, rfl⟩

end Endpoint

end EventSocket
