import EventSocket.Proofs.Endpoint.Succession
import EventSocket.Proofs.Session.Deadline

/-!
How long a client, or whoever has a session, may be kept from leaving it. Once the switch has
answered or has hung up, it can put off the end of the session only for as long as the session has
patience; the same goes for the leave that a client takes for the sake of its next session. For the
answer itself there is no time limit, and none for a transport that is slow to end the own stream.
-/

namespace EventSocket.Endpoint

variable {settings : Settings} {log : List Deed} {endpoint endpoint' start : Endpoint}
  {connection' : Connection} {session : Session} {call : Call} {move : EndpointMove}
  {index number due held : Nat}

theorem takeTurn_live {turn : ConnectionTurn} {now : Nat}
    (h : (Connection.live session).takeTurn now turn = some connection') :
    ∃ session' move, connection' = .live session' ∧ session.perform move = some session' ∧
      ∀ number, session.Beside now number move := by
  cases Connection.takes_of_takeTurn h with
  | @network _ transport hsent => exact ⟨_, .network transport, rfl, if_pos hsent, fun _ => trivial⟩
  | caller hmove | reader hmove => exact ⟨_, _, rfl, hmove, fun _ => rfl⟩

/-- A session stays, or goes on by a move of its own that is made now. Nobody in it goes away except
by a move that cancels the call. -/
theorem Sound.session_becomes (h : endpoint.Sound)
    (hsession : endpoint.session? index = some session) (hstays : move ≠ .cancel number)
    (hbecomes : endpoint.Becomes endpoint' move (.live session) connection') :
    ∃ session', connection' = .live session' ∧ (session' = session ∨ ∃ own,
      session.Beside endpoint.now number own ∧ session.perform own = some session') := by
  cases hbecomes with
  | stays => exact ⟨session, rfl, Or.inl rfl⟩
  | starts => exact ⟨session, rfl, Or.inl rfl⟩
  | abandons => exact ⟨session, rfl, Or.inl rfl⟩
  | turns hturn =>
    obtain ⟨session', own, rfl, hown, hbeside⟩ := takeTurn_live hturn
    exact ⟨session', rfl, Or.inr ⟨own, hbeside number, hown⟩⟩
  | delivers _ listeners audience =>
    exact ⟨_, rfl, Or.inr ⟨.deliver listeners audience, trivial, rfl⟩⟩
  | @asks _ asking request hbefore hafter =>
    exact ⟨_, rfl, Or.inr ⟨.call asking request, h.not_asked hsession hbefore.not_spent, rfl⟩⟩
  | @leaves _ leaving hcancel =>
    refine ⟨_, rfl, Or.inr ⟨.abandon leaving, ?_, rfl⟩⟩
    rintro rfl
    exact hstays hcancel

/-- A call that has been made before does not begin to wait for a session. -/
theorem Rebooks.waited (h : endpoint.Rebooks endpoint') (hspent : endpoint.Spent number)
    (hcall : call ∈ endpoint'.calls) (hnumber : call.number = number)
    (hwaits : call.phase.WaitsOn index) :
    ∃ call ∈ endpoint.calls, call.number = number ∧ call.phase.WaitsOn index := by
  cases h with
  | same hcalls => exact ⟨call, hcalls ▸ hcall, hnumber, hwaits⟩
  | drops keep hcalls =>
    exact ⟨call, (List.mem_filter.mp (hcalls ▸ hcall)).1, hnumber, hwaits⟩
  | joins phase hcalls =>
    rw [hcalls, List.mem_append, List.mem_singleton] at hcall
    rcases hcall with hold | rfl
    · exact ⟨call, hold, hnumber, hwaits⟩
    · exact absurd hnumber (Nat.ne_of_gt hspent.1)
  | @sets changed phase hchanged hcalls _ _ hline =>
    rcases mem_setPhase (hcalls ▸ hcall) with ⟨hold, -⟩ | rfl
    · exact ⟨call, hold, hnumber, hwaits⟩
    · exact absurd (hline index hwaits) (hspent.2 changed hchanged hnumber)

/-- Neither the call nor its caller in the session can go on, and neither can the reader if it has
been told to stop. -/
def rested (endpoint : Endpoint) (index number : Nat) : Bool :=
  (endpoint.calls.all fun call => call.number ≠ number || (endpoint.callTurn call).isNone) &&
    match endpoint.session? index with
    | none => true
    | some session =>
      (session.callers.all fun caller => caller.number ≠ number ||
        (session.callerTurn endpoint.now caller.phase.unwritten caller).isNone) &&
      (!session.stopRequested || (session.readerTurn endpoint.now readLimit).isNone)

/-- Nobody cancels the call, and time passes only while those on whom it depends wait. -/
def allows (endpoint : Endpoint) (index number : Nat) : EndpointMove → Bool
  | .cancel number' => number' ≠ number
  | .tick => endpoint.rested index number
  | _ => true

/-- For how much of a move the transport holds up the call while it ends the own stream. -/
def delay (endpoint : Endpoint) (index number : Nat) : EndpointMove → Nat
  | .tick => (endpoint.session? index).elim 0 fun session => session.delay number
  | _ => 0

/-- What an endpoint comes to while a call on the session of a connection is not kept waiting by
anybody here. Everybody else moves at any time or not at all. What the transport holds the call up
is counted. -/
inductive Prompt (index number : Nat) (start : Endpoint) : Nat → Endpoint → Prop
  | start : Prompt index number start 0 start
  | step {held : Nat} {endpoint endpoint' : Endpoint}
      (prompt : Prompt index number start held endpoint) (move : EndpointMove)
      (hallows : endpoint.allows index number move)
      (hmove : endpoint.perform move = some endpoint') :
      Prompt index number start (held + endpoint.delay index number move) endpoint'

theorem Prompt.run (prompt : Prompt index number start held endpoint)
    (run : Run settings log start) :
    ∃ log, Run settings log endpoint := by
  induction prompt with
  | start => exact ⟨log, run⟩
  | step prompt move hallows hmove ih =>
    obtain ⟨log, run⟩ := ih
    exact ⟨_, run.step move hmove⟩

/-- The command by which the call takes leave of the session has been written and the switch has
answered it, or the session has ended before. -/
def leaveSettled (endpoint : Endpoint) (index number : Nat) : Bool :=
  match endpoint.session? index with
  | none => false
  | some session => session.callers.any fun caller => caller.number = number &&
      match caller.request, caller.phase with
      | .close, .awaiting id => (session.pending.settlement? id).isSome
      | .close, .shutting deadline => deadline = endpoint.now + session.patience
      | _, _ => false

/-- The call takes leave of the session by the time that is due. -/
structure Departs (due index number : Nat) (endpoint : Endpoint) : Prop where
  leaves : ∃ session, endpoint.session? index = some session ∧
    session.LeavesBy due endpoint.now number
  returns : endpoint.now ≤ due ∨
    ∀ call ∈ endpoint.calls, call.number = number → ¬ call.phase.WaitsOn index

theorem departs_of_settled (hsession : endpoint.session? index = some session)
    (h : endpoint.leaveSettled index number = true) :
    endpoint.Departs (endpoint.now + 2 * session.patience) index number := by
  refine ⟨⟨session, hsession, ?_⟩, Or.inl (Nat.le_add_right _ _)⟩
  simp only [leaveSettled, hsession, List.any_eq_true, Bool.and_eq_true, decide_eq_true_eq] at h
  obtain ⟨caller, hcaller, hnumber, hsettled⟩ := h
  refine ⟨caller, hcaller, hnumber, ?_⟩
  split at hsettled
  · next id hclose hphase =>
    rw [hphase]
    exact ⟨hclose, Option.isSome_iff_exists.mp hsettled, Nat.le_refl _⟩
  · next deadline hclose hphase =>
    obtain rfl := of_decide_eq_true hsettled
    rw [hphase]
    refine ⟨hclose, ?_⟩
    simp only [Session.InTime]
    omega
  · cases hsettled

theorem callTurn_of_told {result : Except Fault Answer} (hwaits : call.phase.WaitsOn index)
    (htold : endpoint.told? index call.number = some result) :
    endpoint.callTurn call ≠ none := by
  unfold callTurn
  cases hphase : call.phase with
  | onSession index' =>
    rw [hphase] at hwaits
    obtain rfl : index' = index := hwaits
    simp [htold]
  | relieving index' plan before =>
    rw [hphase] at hwaits
    obtain rfl : before = index := hwaits
    simp [htold]
  | _ =>
    rw [hphase] at hwaits
    exact hwaits.elim

theorem told?_of_mem {result : Except Fault Answer} {caller : Caller} (horderly : session.Orderly)
    (hsession : endpoint.session? index = some session) (hcaller : caller ∈ session.callers)
    (hphase : caller.phase = .told result) :
    endpoint.told? index caller.number = some result := by
  simp [told?, hsession, Session.caller?_of_mem horderly.numbers hcaller, hphase]

theorem Departs.tick (h : Departs due index number endpoint) (hsound : endpoint.Sound)
    (hrested : endpoint.rested index number = true) :
    Departs (due + endpoint.delay index number .tick) index number (endpoint.advance 1) := by
  obtain ⟨session, hsession, caller, hcaller, rfl, hclose, htime⟩ := h.leaves
  obtain ⟨horderly, hliving⟩ := hsound.orderly hsession
  simp only [rested, hsession, Bool.and_eq_true, List.all_eq_true, Bool.or_eq_true,
    decide_eq_true_eq, Option.isNone_iff_eq_none, Bool.not_eq_true'] at hrested
  obtain ⟨hcalls, hcallers, hreader⟩ := hrested
  obtain ⟨htime', hdue⟩ := htime.tick hliving hcaller (horderly.suits caller hcaller)
    ((hcallers caller hcaller).resolve_left fun hne => hne rfl)
    (fun hstop => hreader.resolve_left (by simp [hstop]))
  have hdelay : endpoint.delay index caller.number .tick = session.delay caller.number := by
    simp [delay, hsession]
  rw [hdelay]
  refine ⟨⟨session, hsession, caller, hcaller, rfl, hclose, htime'⟩, ?_⟩
  refine hdue.imp_right fun htold call hcall hnumber hwaits => ?_
  have htold' := told?_of_mem horderly hsession hcaller htold
  rw [← hnumber] at htold'
  exact callTurn_of_told hwaits htold' ((hcalls call hcall).resolve_left fun hne => hne hnumber)

theorem Departs.step (h : Departs due index number endpoint) (hsound : endpoint.Sound)
    (hallows : endpoint.allows index number move)
    (hmove : endpoint.perform move = some endpoint') :
    Departs (due + endpoint.delay index number move) index number endpoint' := by
  by_cases htick : move = .tick
  · subst htick
    obtain rfl := Option.some.inj hmove
    exact h.tick hsound hallows
  have hnow := now_perform hmove htick
  have hdelay : endpoint.delay index number move = 0 := by
    cases move with
    | tick => exact absurd rfl htick
    | _ => rfl
  rw [hdelay, Nat.add_zero]
  have hstays : move ≠ .cancel number := by
    rintro rfl
    simp [allows] at hallows
  obtain ⟨session, hsession, hleaves⟩ := h.leaves
  have hspent : endpoint.Spent number := by
    by_contra hnot
    obtain ⟨caller, hcaller, hnumber, -⟩ := hleaves
    exact hsound.not_asked hsession hnot (List.mem_map.mpr ⟨caller, hcaller, hnumber⟩)
  obtain ⟨connection', hfound, hbecomes⟩ :=
    (rewires_perform hmove).connection? (session?_eq_some.mp hsession)
  obtain ⟨session', rfl, hgoes⟩ := hsound.session_becomes hsession hstays hbecomes
  refine ⟨⟨session', session?_eq_some.mpr hfound, ?_⟩, ?_⟩
  · rw [hnow]
    rcases hgoes with rfl | ⟨own, hbeside, hown⟩
    · exact hleaves
    · exact hleaves.perform (hsound.orderly hsession).1.numbers hown hbeside
  · rw [hnow]
    refine h.returns.imp_right fun hnone call hcall hnumber hwaits => ?_
    obtain ⟨call', hcall', hnumber', hwaits'⟩ :=
      (rebooks_perform hmove).waited hspent hcall hnumber hwaits
    exact hnone call' hcall' hnumber' hwaits'

theorem Departs.prompt (h : Departs due index number start) (run : Run settings log start)
    (prompt : Prompt index number start held endpoint) :
    Departs (due + held) index number endpoint := by
  induction prompt with
  | start => exact h
  | step prompt move hallows hmove ih =>
    obtain ⟨log, run⟩ := prompt.run run
    rw [← Nat.add_assoc]
    exact ih.step run.sound hallows hmove

/-- The session has ended, the caller has been told, and the call no longer waits for it. -/
structure HasLeft (index number : Nat) (endpoint : Endpoint) : Prop where
  closed : ∃ session, endpoint.session? index = some session ∧
    (∃ reason, session.state = .closed reason) ∧
      ∃ caller ∈ session.callers, caller.number = number ∧ caller.phase = .told (.ok .done)
  returned : ∀ call ∈ endpoint.calls, call.number = number → ¬ call.phase.WaitsOn index

/-- From the moment at which its command has been settled, a call cannot be kept from leaving a
session for longer than twice the patience of the session, and for what the transport takes to end
the own stream. -/
theorem leave_taken_in_time (run : Run settings log start)
    (hsession : start.session? index = some session)
    (hsettled : start.leaveSettled index number = true)
    (prompt : Prompt index number start held endpoint)
    (hlate : start.now + 2 * session.patience + held < endpoint.now) :
    endpoint.HasLeft index number := by
  have hdeparts := (departs_of_settled hsession hsettled).prompt run prompt
  obtain ⟨log, run⟩ := prompt.run run
  obtain ⟨session', hsession', hleaves⟩ := hdeparts.leaves
  obtain ⟨horderly, hliving⟩ := run.sound.orderly hsession'
  obtain ⟨hclosed, htold⟩ := hleaves.ended horderly hliving hlate
  exact ⟨⟨session', hsession', hclosed, htold⟩,
    hdeparts.returns.resolve_left (Nat.not_le.mpr hlate)⟩

/-- Makes the given moves, if all of them can be made and nobody here keeps the call waiting. What
the transport holds the call up is added to what it has held it up before. -/
def followPromptly (index number held : Nat) (endpoint : Endpoint) :
    List EndpointMove → Option (Nat × Endpoint)
  | [] => some (held, endpoint)
  | move :: moves =>
    if endpoint.allows index number move then
      (endpoint.perform move).bind fun endpoint' =>
        endpoint'.followPromptly index number (held + endpoint.delay index number move) moves
    else none

theorem Prompt.follow {moves : List EndpointMove} {held' : Nat}
    (prompt : Prompt index number start held endpoint)
    (h : endpoint.followPromptly index number held moves = some (held', endpoint')) :
    Prompt index number start held' endpoint' := by
  induction moves generalizing held endpoint with
  | nil =>
    cases h
    exact prompt
  | cons move moves ih =>
    simp only [followPromptly] at h
    split at h
    · next hallows =>
      obtain ⟨between, hmove, hrest⟩ := Option.bind_eq_some_iff.mp h
      exact ih (prompt.step move hallows hmove) hrest
    · cases h

/-- A client connects anew, and the switch answers when it takes leave but stays connected. -/
def settledMoves : List EndpointMove :=
  connectMoves 0 1 ++ openingMoves 0 0 ++ connectMoves 1 1 ++
    [.callTurn 1, .connection 0 (.caller 1 readLimit), .connection 0 (.caller 1 readLimit),
      .connection 0 (.network { farewell with ended := false }),
      .connection 0 (.reader readLimit), .connection 0 (.reader readLimit)]

/-- The transport takes its time for ending the own stream, and then is done with it. The switch,
which has said goodbye, stays connected until it is no longer waited for. -/
def lingeringMoves : List EndpointMove :=
  let silent := { farewell with received := ByteArray.empty, ended := false }
  [.connection 0 (.network { silent with shutdownStalled := true }), .connection 0 (.caller 1 0),
    .tick, .connection 0 (.network silent), .connection 0 (.caller 1 0), .tick,
    .connection 0 (.caller 1 0), .connection 0 (.reader readLimit), .connection 0 (.caller 1 0),
    .callTurn 1, .tick, .tick]

theorem leave_taken_in_time_reconnect :
    ∃ log start session endpoint, Run .standard log start ∧ start.session? 0 = some session ∧
      start.leaveSettled 0 1 = true ∧ Prompt 0 1 start 1 endpoint ∧
        start.now + 2 * session.patience + 1 < endpoint.now ∧ endpoint.HasLeft 0 1 := by
  have hmoves : ((Endpoint.new .standard).follow [] settledMoves).any (fun reached =>
      reached.2.leaveSettled 0 1 && (reached.2.session? 0).any fun session =>
        (reached.2.followPromptly 0 1 0 lingeringMoves).any fun ending =>
          ending.1 = 1 && reached.2.now + 2 * session.patience + 1 < ending.2.now) = true := by
    decide +kernel
  obtain ⟨⟨log, start⟩, hfollow, hstart⟩ := (Option.any_eq_true ..).mp hmoves
  obtain ⟨hsettled, hstart⟩ := Bool.and_eq_true_iff.mp hstart
  obtain ⟨session, hsession, hstart⟩ := (Option.any_eq_true ..).mp hstart
  obtain ⟨⟨held, endpoint⟩, hprompt, hend⟩ := (Option.any_eq_true ..).mp hstart
  obtain ⟨hheld, hlate⟩ := Bool.and_eq_true_iff.mp hend
  obtain rfl : held = 1 := of_decide_eq_true hheld
  have run := Run.start.follow hfollow
  have prompt := Prompt.start.follow hprompt
  have hlate' := of_decide_eq_true hlate
  exact ⟨log, start, session, endpoint, run, hsession, hsettled, prompt, hlate',
    leave_taken_in_time run hsession hsettled prompt hlate'⟩

/-- The switch has not answered the command by which the call takes leave, and nobody has told the
reader to stop. -/
def unanswered (endpoint : Endpoint) (index number : Nat) : Bool :=
  (endpoint.calls.all fun call => call.number ≠ number || match call.phase with
    | .onSession index | .relieving _ _ index => (endpoint.told? index call.number).isNone
    | _ => false) &&
  match endpoint.session? index with
  | none => false
  | some session => !session.stopRequested && session.callers.all fun caller =>
      caller.number ≠ number || match caller.phase with
        | .awaiting id => (session.pending.settlement? id).isNone
        | _ => false

theorem rested_of_unanswered (h : endpoint.unanswered index number = true) :
    endpoint.rested index number = true := by
  unfold unanswered at h
  unfold rested
  simp only [Bool.and_eq_true, List.all_eq_true, Bool.or_eq_true, decide_eq_true_eq] at h ⊢
  refine ⟨fun call hcall => (h.1 call hcall).imp_right fun hwaits => ?_, ?_⟩
  · unfold callTurn
    split at hwaits
    · next hphase => simpa [hphase] using hwaits
    · next hphase => simpa [hphase] using hwaits
    · cases hwaits
  · cases hsession : endpoint.session? index with
    | none => rfl
    | some session =>
      simp only [hsession, Bool.and_eq_true, List.all_eq_true, Bool.or_eq_true,
        decide_eq_true_eq] at h ⊢
      refine ⟨fun caller hcaller => (h.2.2 caller hcaller).imp_right fun hwaits => ?_, Or.inl h.2.1⟩
      unfold Session.callerTurn
      split at hwaits
      · next hphase => simpa [hphase] using hwaits
      · cases hwaits

theorem delay_of_unanswered (h : endpoint.unanswered index number = true) :
    endpoint.delay index number .tick = 0 := by
  unfold unanswered at h
  cases hsession : endpoint.session? index with
  | none => simp [hsession] at h
  | some session =>
    simp only [hsession, Bool.and_eq_true, List.all_eq_true, Bool.or_eq_true,
      decide_eq_true_eq] at h
    have hheld : session.heldUp number = false := by
      by_contra hheld
      simp only [Bool.not_eq_false, Session.heldUp, Bool.and_eq_true, List.any_eq_true,
        decide_eq_true_eq] at hheld
      obtain ⟨-, caller, hcaller, hnumber, hphase⟩ := hheld
      have hwaits := (h.2.2 caller hcaller).resolve_left fun hne => hne hnumber
      cases hshuts : caller.phase <;> simp [hshuts] at hphase hwaits
    simp [delay, hsession, Session.delay, hheld]

/-- The clock may go on for as long as there is no answer, and not because of the transport. -/
theorem Prompt.wait (prompt : Prompt index number start held endpoint)
    (h : endpoint.unanswered index number = true) (time : Nat) :
    Prompt index number start held (endpoint.advance time) := by
  induction time with
  | zero => exact prompt
  | succ time ih =>
    have hdelay : (endpoint.advance time).delay index number .tick = 0 := delay_of_unanswered h
    have hstep := ih.step .tick (rested_of_unanswered h) rfl
    rwa [hdelay] at hstep

def closeMoves : List EndpointMove :=
  [.connection 0 (.caller 1 readLimit), .connection 0 (.caller 1 readLimit)]

/-- A session is ready and nobody writes on it. Whoever closes it then may wait for the answer of
the switch for any time, and the session goes on. -/
theorem close_waits_for_answer :
    ∃ log start session, Run .standard log start ∧ start.session? 0 = some session ∧
      session.state = .ready ∧ session.writers.members = [] ∧ start.nextCall = 1 ∧
        ∀ time, ∃ endpoint, Prompt 0 1 (start.call 0 .close).2 0 endpoint ∧
          endpoint.now = start.now + time ∧ endpoint.states = [.ready] ∧
            endpoint.unanswered 0 1 = true ∧ (endpoint.call? 1).isSome = true := by
  have hmoves : ((Endpoint.new .standard).follow [] (connectMoves 0 5000 ++ openingMoves 0 0)).any
      (fun reached => (reached.2.session? 0).any fun session =>
        (decide (session.state = .ready ∧ session.writers.members = [] ∧ reached.2.nextCall = 1)) &&
          ((reached.2.call 0 .close).2.followPromptly 0 1 0 closeMoves).any fun ending =>
            decide (ending.1 = 0 ∧ ending.2.now = reached.2.now ∧ ending.2.states = [.ready] ∧
              ending.2.unanswered 0 1 = true ∧ (ending.2.call? 1).isSome = true)) = true := by
    decide +kernel
  obtain ⟨⟨log, start⟩, hfollow, hstart⟩ := (Option.any_eq_true ..).mp hmoves
  obtain ⟨session, hsession, hstart⟩ := (Option.any_eq_true ..).mp hstart
  obtain ⟨hready, hstart⟩ := Bool.and_eq_true_iff.mp hstart
  obtain ⟨hstate, hfree, hnext⟩ := of_decide_eq_true hready
  obtain ⟨⟨held, endpoint⟩, hprompt, hend⟩ := (Option.any_eq_true ..).mp hstart
  obtain ⟨rfl, hnow, hstates, hunanswered, hcall⟩ := of_decide_eq_true hend
  refine ⟨log, start, session, Run.start.follow hfollow, hsession, hstate, hfree, hnext, ?_⟩
  intro time
  refine ⟨endpoint.advance time, (Prompt.start.follow hprompt).wait hunanswered time, ?_, hstates,
    hunanswered, hcall⟩
  exact congrArg (· + time) hnow

end EventSocket.Endpoint
