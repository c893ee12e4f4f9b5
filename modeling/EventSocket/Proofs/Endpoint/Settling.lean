import EventSocket.Proofs.Endpoint.Hosting

/-!
What an endpoint does by itself is a run of it: first the openings and the sessions on its
connections go on, then the calls.
-/

namespace EventSocket.Endpoint

variable {settings : Settings} {log : List Deed} {endpoint : Endpoint}
  {connection connection' : Connection} {attempt : Opening} {session session' : Session}
  {audience audience' : Audience} {index : Nat}

/-- Another connection in this place, and another audience. -/
def place (endpoint : Endpoint) (index : Nat) (connection : Connection) (audience : Audience) :
    Endpoint :=
  { endpoint.mapConnection index fun _ => connection with audience }

theorem connection?_place (hindex : index < endpoint.connections.length) :
    (endpoint.place index connection audience).connection? index = some connection := by
  obtain ⟨before, hfound⟩ := exists_connection? hindex
  have hmap := connection?_mapConnection endpoint index (fun _ => connection) index
  rw [hfound] at hmap
  exact hmap.trans (by simp)

theorem place_place : (endpoint.place index connection audience).place index connection' audience' =
    endpoint.place index connection' audience' := by
  simp [place, mapConnection, List.modify_modify_eq, Function.comp_def]

theorem Run.placeTurn (run : Run settings log (endpoint.place index connection audience))
    (hindex : index < endpoint.connections.length) (turn : ConnectionTurn)
    (hturn : connection.takeTurn endpoint.now turn = some connection') :
    Run settings log (endpoint.place index connection' audience) := by
  have hmove : (endpoint.place index connection audience).perform (.connection index turn) =
      some (endpoint.place index connection' audience) := by
    rw [perform, connection?_place hindex, Option.bind_some]
    exact (congrArg (Option.map _) hturn).trans (congrArg some place_place)
  rw [← List.append_nil log]
  exact run.step _ hmove

theorem Run.openingTurns (run : Run settings log (endpoint.place index (.opening attempt) audience))
    (hindex : index < endpoint.connections.length) (turns : Nat) :
    Run settings log
      (endpoint.place index (Connection.takeTurns endpoint.now turns attempt) audience) := by
  induction turns generalizing attempt with
  | zero => exact run
  | succ turns ih =>
    have hnext := run.placeTurn hindex (.opening (max readLimit attempt.unwritten)) rfl
    rw [Connection.takeTurns]
    generalize attempt.turn endpoint.now (max readLimit attempt.unwritten) = turn at hnext ⊢
    cases turn with
    | waiting => exact run
    | goesOn attempt' => exact ih hnext
    | ready attempt' channelData => exact hnext
    | fails fault => exact hnext

theorem Run.settleOpening (run : Run settings log (endpoint.place index connection audience))
    (hindex : index < endpoint.connections.length) :
    Run settings log (endpoint.place index (connection.settleOpening endpoint.now) audience) := by
  cases connection with
  | opening attempt => exact run.openingTurns hindex _
  | _ => exact run

/-- The turn that a session takes by itself is one of its reader or of one of its callers. -/
theorem takeTurn_of_turn {now : Nat} (hnumbers : (session.callers.map Caller.number).Nodup)
    (h : session.turn now = some session') :
    ∃ turn, (Connection.live session).takeTurn now turn = some (.live session') ∧
      session'.register = session.register := by
  obtain ⟨move, hturn, hmove⟩ : ∃ move, (∃ turn, (Connection.live session).takeTurn now turn =
      (session.perform move).map .live) ∧ session.perform move = some session' := by
    unfold Session.turn at h
    split at h
    · next hreader =>
      obtain rfl := Option.some.inj h
      exact ⟨.reader now readLimit, ⟨.reader readLimit, rfl⟩, hreader⟩
    · obtain ⟨caller, hcaller, hturn⟩ := List.exists_of_findSome?_eq_some h
      refine ⟨.caller caller.number now caller.phase.unwritten,
        ⟨.caller caller.number caller.phase.unwritten, rfl⟩, ?_⟩
      rw [Session.perform, Session.caller?_of_mem hnumbers hcaller]
      exact hturn
  obtain ⟨turn, hturn⟩ := hturn
  refine ⟨turn, by rw [hturn, hmove]; rfl, ?_⟩
  exact congrArg Prod.snd (Session.terms_perform hmove)

theorem Run.placeDelivery (run : Run settings log (endpoint.place index (.live session) audience))
    (hindex : index < endpoint.connections.length) {delivered : Dispatcher × Audience}
    (hdelivered : session.dispatcher.deliver (endpoint.registers.listeners session.register)
      audience = delivered) :
    Run settings log
      (endpoint.place index (.live { session with dispatcher := delivered.1 }) delivered.2) := by
  have hmove : (endpoint.place index (.live session) audience).perform (.deliver index) =
      some (endpoint.place index (.live { session with dispatcher := delivered.1 })
        delivered.2) := by
    rw [perform, session?_eq_some.mpr (connection?_place hindex), Option.map_some, ← hdelivered]
    simp [place, deliverOn, mapSession, mapConnection, List.modify_modify_eq, Function.comp_def,
      Connection.mapSession]
  rw [← List.append_nil log]
  exact run.step _ hmove

theorem Run.sessionTurns (hindex : index < endpoint.connections.length) (turns : Nat)
    (run : Run settings log (endpoint.place index (.live session) audience)) :
    let reached := session.takeTurns endpoint.now
      (endpoint.registers.listeners session.register) turns audience
    Run settings log (endpoint.place index (.live reached.1) reached.2) := by
  induction turns generalizing session audience with
  | zero => exact run
  | succ turns ih =>
    have hdelivered := run.placeDelivery hindex rfl
    rw [Session.takeTurns]
    dsimp only
    split
    · exact hdelivered
    · next after hturn =>
      have horderly := (hdelivered.sound.orderly
        (session?_eq_some.mpr (connection?_place hindex))).1
      obtain ⟨turn, hnext, hregister⟩ := takeTurn_of_turn horderly.numbers hturn
      have hrest := ih (hdelivered.placeTurn hindex turn hnext)
      rwa [hregister] at hrest

theorem Run.settleSession (run : Run settings log (endpoint.place index connection audience))
    (hindex : index < endpoint.connections.length) :
    let settled := connection.settleSession endpoint.now endpoint.registers audience
    Run settings log (endpoint.place index settled.1 settled.2) := by
  cases connection with
  | live session => exact Run.sessionTurns hindex session.patienceFor run
  | _ => exact run

/-- One connection after another goes on by itself. -/
theorem Run.settleRest (rest settled : List Connection)
    (run : Run settings log { endpoint with connections := settled ++ rest, audience }) :
    let reached := rest.foldl (fun (settled, audience) connection =>
      let (connection, audience) :=
        (connection.settleOpening endpoint.now).settleSession endpoint.now endpoint.registers
          audience
      (settled ++ [connection], audience)) (settled, audience)
    Run settings log { endpoint with connections := reached.1, audience := reached.2 } := by
  induction rest generalizing settled audience with
  | nil => simpa using run
  | cons connection rest ih =>
    have hplace (connection' : Connection) (audience' : Audience) :
        ({ endpoint with connections := settled ++ connection :: rest, audience } : Endpoint).place
          settled.length connection' audience' = { endpoint with
            connections := (settled ++ [connection']) ++ rest, audience := audience' } := by
      simp [place, mapConnection, List.modify_eq_take_drop]
    have hindex : settled.length < (settled ++ connection :: rest).length := by simp
    have placed : Run settings log (({ endpoint with
        connections := settled ++ connection :: rest, audience } : Endpoint).place settled.length
          connection audience) := by
      rw [hplace]
      simpa using run
    have hsettled := (placed.settleOpening hindex).settleSession hindex
    dsimp only at hsettled
    rw [hplace] at hsettled
    exact ih _ hsettled

theorem Run.settleConnections (run : Run settings log endpoint) :
    Run settings log endpoint.settleConnections :=
  Run.settleRest endpoint.connections [] run

theorem Run.takeTurns (run : Run settings log endpoint) (turns : Nat) :
    ∃ more, Run settings (log ++ more) (endpoint.takeTurns turns) := by
  induction turns generalizing log endpoint with
  | zero => exact ⟨[], (List.append_nil log).symm ▸ run.settleConnections⟩
  | succ turns ih =>
    have settled := run.settleConnections
    rw [Endpoint.takeTurns]
    split
    · exact ⟨[], (List.append_nil log).symm ▸ settled⟩
    · next after hturn =>
      obtain ⟨call, hcall, hturn⟩ := List.exists_of_findSome?_eq_some hturn
      have hmove : endpoint.settleConnections.perform (.callTurn call.number) = some after := by
        rw [perform, settled.sound.call?_of_mem hcall]
        exact hturn
      obtain ⟨more, hrun⟩ := ih (settled.step _ hmove)
      exact ⟨_, List.append_assoc log _ more ▸ hrun⟩

/-- Whatever an endpoint does by itself is a run of it. -/
theorem Run.settle (run : Run settings log endpoint) :
    ∃ more, Run settings (log ++ more) endpoint.settle :=
  run.takeTurns _

end EventSocket.Endpoint
