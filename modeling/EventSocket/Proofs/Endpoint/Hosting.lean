import EventSocket.Proofs.Connection.HandOver
import EventSocket.Proofs.Endpoint.Effects

/-!
What holds of an endpoint after any run: calls are told apart by their numbers, and every connection
has got where it is by moves of its own. So all that is known of the runs of a connection and of a
session holds within an endpoint.
-/

namespace EventSocket

/-- The opening has come to nothing. -/
def Connection.Over : Connection → Prop
  | failed .. | abandoned .. => True
  | _ => False

namespace Endpoint

variable {settings : Settings} {log : List Deed} {endpoint endpoint' : Endpoint}
  {connection connection' : Connection} {session : Session} {call : Call} {move : EndpointMove}
  {index number : Nat}

/-- The number is that of a call which may have asked something of a session. -/
def Spent (endpoint : Endpoint) (number : Nat) : Prop :=
  number < endpoint.nextCall ∧
    ∀ call ∈ endpoint.calls, call.number = number → ¬ call.phase.InLine

def Hosts (endpoint : Endpoint) (connection : Connection) : Prop :=
  connection.Over ∨ ∃ plan began start log, Connection.Run plan began start log connection ∧
    ∀ number, .called number ∈ happeningsIn log → endpoint.Spent number

structure Sound (endpoint : Endpoint) : Prop where
  numbers : (endpoint.calls.map Call.number).Nodup
  below : ∀ call ∈ endpoint.calls, call.number < endpoint.nextCall
  hosts : ∀ connection ∈ endpoint.connections, endpoint.Hosts connection

theorem Hosts.later (h : endpoint.Hosts connection)
    (hspent : ∀ number, endpoint.Spent number → endpoint'.Spent number) :
    endpoint'.Hosts connection := by
  rcases h with hover | ⟨plan, began, start, log, run, hcalled⟩
  · exact Or.inl hover
  · exact Or.inr ⟨plan, began, start, log, run,
      fun number hmem => hspent number (hcalled number hmem)⟩

theorem hosts_idle (endpoint : Endpoint) (transport : Transport) :
    endpoint.Hosts (.idle transport) :=
  Or.inr ⟨⟨.outbound, .dialed, endpoint.settings, endpoint.register, endpoint.threads⟩, 0,
    transport, [], .start, by simp [happeningsIn]⟩

/-- By a move of a connection only its own call is new. -/
theorem called_of_move {move : ConnectionMove}
    (h : .called number ∈ happeningsIn (connection.occurrences move ++
      connection.publication connection')) :
    ∃ request, move = .session (.call number request) := by
  rw [happeningsIn_append, happeningsIn_publication, List.append_nil] at h
  cases move with
  | turn now most =>
    cases connection with
    | opening attempt => simp [Connection.occurrences, happeningsIn_occurrences] at h
    | _ => simp [Connection.occurrences, happeningsIn] at h
  | session move =>
    cases connection with
    | live session =>
      rw [Connection.occurrences, happeningsIn_within] at h
      obtain ⟨request, rfl⟩ := Session.comes_of_mem h
      exact ⟨request, rfl⟩
    | _ => simp [Connection.occurrences, happeningsIn] at h
  | _ => simp [Connection.occurrences, happeningsIn] at h

/-- A connection that hosts a session goes on in a run of its own, also by a call whose number has
not been spent before. -/
theorem Hosts.perform (h : endpoint.Hosts connection) (move : ConnectionMove)
    (hmove : ∀ plan began, connection.perform plan began move = some connection')
    (hspent : ∀ number, endpoint.Spent number → endpoint'.Spent number)
    (hnew : ∀ number request, move = .session (.call number request) →
      ¬ endpoint.Spent number ∧ endpoint'.Spent number) :
    endpoint'.Hosts connection' := by
  rcases h with hover | ⟨plan, began, start, log, run, hcalled⟩
  · have hnone := hmove
      ⟨.outbound, .dialed, endpoint.settings, endpoint.register, endpoint.threads⟩ 0
    cases connection with
    | failed transport fault => cases move <;> cases hnone
    | abandoned transport state => cases move <;> cases hnone
    | _ => exact hover.elim
  · have hfresh : move.Fresh log := by
      match move, hnew with
      | .session (.call number request), hnew =>
        exact fun hmem => (hnew number request rfl).1 (hcalled number hmem)
      | .session (.caller ..), _ | .session (.reader ..), _ | .session (.abandon _), _
      | .session (.network _), _ | .session (.deliver ..), _ => trivial
      | .start, _ | .linked _, _ | .turn .., _ | .abandon, _ | .network _, _ => trivial
    refine Or.inr ⟨plan, began, start, _, run.step move hfresh (hmove plan began), ?_⟩
    intro number hmem
    rw [happeningsIn_append, List.mem_append] at hmem
    rcases hmem with hold | hmem
    · exact hspent number (hcalled number hold)
    · obtain ⟨request, rfl⟩ := called_of_move hmem
      exact (hnew number request rfl).2

theorem Hosts.start (h : endpoint.Hosts connection) (plan : OpeningPlan) (now : Nat) :
    endpoint.Hosts (connection.start plan now) := by
  cases connection with
  | idle transport =>
    refine Or.inr ⟨plan, now, transport, _, Connection.Run.start.step .start trivial rfl, ?_⟩
    simp [Connection.occurrences, happeningsIn, Connection.publication, Occurrence.happening?]
  | _ => exact h

theorem Hosts.abandon (h : endpoint.Hosts connection) : endpoint.Hosts connection.abandon := by
  cases connection with
  | idle transport => exact Or.inl trivial
  | opening attempt => exact Or.inl trivial
  | _ => exact h

theorem Hosts.takeTurn {turn : ConnectionTurn} {now : Nat} (h : endpoint.Hosts connection)
    (hturn : connection.takeTurn now turn = some connection') : endpoint.Hosts connection' := by
  rcases Connection.move_of_takeTurn hturn with
    ⟨move, hcalm, hmove⟩ | ⟨transport, -, hnone, hopening, rfl⟩
  · refine h.perform move hmove (fun _ => id) ?_
    rintro number request rfl
    exact hcalm.elim
  · cases connection with
    | idle transport' => exact hosts_idle endpoint transport
    | opening attempt => exact absurd rfl (hopening attempt)
    | live session => cases hnone
    | failed transport' fault => exact Or.inl trivial
    | abandoned transport' state => exact Or.inl trivial

/-- A session of an endpoint is in a run of its own. -/
theorem Sound.sessionRun (h : endpoint.Sound) (hsession : endpoint.session? index = some session) :
    ∃ attempt channelData log, (Opening.session attempt channelData).Run log session ∧
      ∀ number, .called number ∈ log → endpoint.Spent number := by
  rcases h.hosts _ (mem_of_connection? (session?_eq_some.mp hsession)) with
    hover | ⟨plan, began, start, log, run, hcalled⟩
  · exact hover.elim
  · cases run.lived with
    | sessionless hnone => cases hnone
    | live hkeeps =>
      obtain ⟨attempt, channelData, hrun⟩ := hkeeps.run
      exact ⟨attempt, channelData, happeningsIn log, hrun, hcalled⟩

theorem Sound.orderly (h : endpoint.Sound) (hsession : endpoint.session? index = some session) :
    session.Orderly ∧ session.Living := by
  obtain ⟨attempt, channelData, log, run, -⟩ := h.sessionRun hsession
  exact run.orderly rfl rfl (attempt.orderly_session channelData) (.ready rfl rfl)

/-- A caller of a session has a number that has been spent. -/
theorem Sound.not_asked (h : endpoint.Sound) (hsession : endpoint.session? index = some session)
    (hnumber : ¬ endpoint.Spent number) : number ∉ session.callers.map Caller.number := by
  intro hmem
  obtain ⟨caller, hcaller, rfl⟩ := List.mem_map.mp hmem
  obtain ⟨attempt, channelData, happened, run, hspent⟩ := h.sessionRun hsession
  exact hnumber (hspent _ ((Session.coherent_session run).numbered.called caller hcaller))

theorem Unasked.not_spent (h : endpoint.Unasked move number) : ¬ endpoint.Spent number := by
  rintro ⟨hbelow, hline⟩
  rcases h with rfl | ⟨-, call, hcall, hnumber, hphase⟩
  · exact Nat.lt_irrefl _ hbelow
  · exact hline call hcall hnumber hphase

/-- The calls of an endpoint are those of one before it, as far as numbers tell. -/
structure Succeeds (endpoint endpoint' : Endpoint) : Prop where
  numbers : (endpoint'.calls.map Call.number).Nodup
  below : ∀ call ∈ endpoint'.calls, call.number < endpoint'.nextCall
  spent : ∀ number, endpoint.Spent number → endpoint'.Spent number

theorem Sound.join {phase : CallPhase} (h : endpoint.Sound)
    (hcalls : endpoint'.calls = endpoint.calls ++ [⟨endpoint.nextCall, phase⟩])
    (hnext : endpoint'.nextCall = endpoint.nextCall + 1) : endpoint.Succeeds endpoint' where
  numbers := by
    rw [hcalls, List.map_append, List.nodup_append]
    refine ⟨h.numbers, List.nodup_singleton _, ?_⟩
    rintro taken htaken _ hnew rfl
    obtain ⟨call, hcall, rfl⟩ := List.mem_map.mp htaken
    have hbelow := h.below call hcall
    simp at hnew
    omega
  below := by
    intro call hcall
    rw [hcalls, List.mem_append, List.mem_singleton] at hcall
    rw [hnext]
    rcases hcall with hold | rfl
    · exact (h.below call hold).trans (Nat.lt_succ_self _)
    · exact Nat.lt_succ_self _
  spent := by
    rintro number ⟨hbelow, hline⟩
    refine ⟨hnext ▸ hbelow.trans (Nat.lt_succ_self _), ?_⟩
    intro call hcall hnumber
    rw [hcalls, List.mem_append, List.mem_singleton] at hcall
    rcases hcall with hold | rfl
    · exact hline call hold hnumber
    · exact absurd hnumber (Nat.ne_of_gt hbelow)

theorem Sound.succeeds (h : endpoint.Sound) (hrebooks : endpoint.Rebooks endpoint') :
    endpoint.Succeeds endpoint' := by
  cases hrebooks with
  | same hcalls hnext =>
    refine ⟨hcalls ▸ h.numbers, by rw [hcalls, hnext]; exact h.below, fun number hspent => ?_⟩
    rw [Spent, hcalls, hnext]
    exact hspent
  | joins phase hcalls hnext => exact h.join hcalls hnext
  | drops keep hcalls hnext =>
    refine ⟨hcalls ▸ h.numbers.sublist (List.filter_sublist.map _), ?_, fun number hspent => ?_⟩
    · rw [hcalls, hnext]
      exact fun call hcall => h.below call (List.mem_filter.mp hcall).1
    · rw [Spent, hcalls, hnext]
      exact ⟨hspent.1, fun call hcall => hspent.2 call (List.mem_filter.mp hcall).1⟩
  | @sets call phase hcall hcalls hnext hphase =>
    refine ⟨by rw [hcalls, numbers_setPhase]; exact h.numbers, ?_, ?_⟩
    · intro other hother
      rw [hnext]
      rcases mem_setPhase (hcalls ▸ hother) with ⟨hold, -⟩ | rfl
      · exact h.below other hold
      · exact h.below call hcall
    · rintro number ⟨hbelow, hline⟩
      refine ⟨hnext ▸ hbelow, fun other hother hnumber => ?_⟩
      rcases mem_setPhase (hcalls ▸ hother) with ⟨hold, -⟩ | rfl
      · exact hline other hold hnumber
      · exact hphase

theorem Succeeds.spent_of_mem (h : endpoint.Succeeds endpoint') (hcall : call ∈ endpoint'.calls)
    (hphase : ¬ call.phase.InLine) : endpoint'.Spent call.number := by
  refine ⟨h.below call hcall, fun other hother hnumber => ?_⟩
  rwa [List.inj_on_of_nodup_map h.numbers hother hcall hnumber]

/-- Whatever a move makes of a connection, it stays in a run of its own. -/
theorem Hosts.becomes (h : endpoint.Hosts connection) (hnew : endpoint.Succeeds endpoint')
    (hbecomes : endpoint.Becomes endpoint' move connection connection') :
    endpoint'.Hosts connection' := by
  cases hbecomes with
  | stays => exact h.later hnew.spent
  | starts _ plan => exact (h.start plan endpoint.now).later hnew.spent
  | turns hturn => exact (h.takeTurn hturn).later hnew.spent
  | delivers session listeners audience =>
    exact h.perform (.session (.deliver listeners audience)) (fun _ _ => rfl) hnew.spent
      (by simp)
  | @asks session number request hbefore hafter =>
    refine h.perform (.session (.call number request)) (fun _ _ => rfl) hnew.spent ?_
    rintro _ _ ⟨⟩
    obtain ⟨call, hcall, rfl, hphase⟩ := hafter
    exact ⟨hbefore.not_spent, hnew.spent_of_mem hcall hphase⟩
  | @leaves session number =>
    exact h.perform (.session (.abandon number)) (fun _ _ => rfl) hnew.spent (by simp)
  | abandons => exact h.abandon.later hnew.spent

theorem Added.hosts (h : endpoint.Added connection) (endpoint' : Endpoint) :
    endpoint'.Hosts connection := by
  obtain ⟨transport, rfl | ⟨plan, rfl⟩⟩ := h
  · exact hosts_idle endpoint' transport
  · exact (hosts_idle endpoint' transport).start plan endpoint.now

theorem Sound.perform (h : endpoint.Sound) (hmove : endpoint.perform move = some endpoint') :
    endpoint'.Sound := by
  have hnew := h.succeeds (rebooks_perform hmove)
  refine ⟨hnew.numbers, hnew.below, fun connection' hmem => ?_⟩
  rcases (rewires_perform hmove).mem hmem with ⟨connection, hold, hbecomes⟩ | hadded
  · exact (h.hosts connection hold).becomes hnew hbecomes
  · exact hadded.hosts endpoint'

theorem Run.sound (run : Run settings log endpoint) : endpoint.Sound := by
  induction run with
  | start => exact ⟨List.nodup_nil, by simp [Endpoint.new], by simp [Endpoint.new]⟩
  | step run move hmove ih => exact ih.perform hmove

theorem Sound.eq_of_number {other : Call} (h : endpoint.Sound) (hcall : call ∈ endpoint.calls)
    (hother : other ∈ endpoint.calls) (hnumber : other.number = call.number) : other = call :=
  List.inj_on_of_nodup_map h.numbers hother hcall hnumber

theorem Sound.call?_of_mem (h : endpoint.Sound) (hcall : call ∈ endpoint.calls) :
    endpoint.call? call.number = some call := by
  cases hfound : endpoint.call? call.number with
  | none => simpa using List.find?_eq_none.mp hfound call hcall
  | some found =>
    obtain ⟨hmem, hnumber⟩ := mem_of_call? hfound
    rw [h.eq_of_number hcall hmem hnumber]

end Endpoint

end EventSocket
