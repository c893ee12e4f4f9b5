import EventSocket.Proofs.Connection.Lifecycle
import EventSocket.Proofs.Connection.Routing

/-!
The stream of the switch, from its first byte to the end of the session. The opening and then the
reader take frames off one decoder, so what the one takes and the other hands on is what decoding
the stream gives, wherever it was cut and whichever of the two had read it.
-/

namespace EventSocket

/-- What an opening is after a turn that does not end it. -/
def OpeningTurn.opening? : OpeningTurn → Option Opening
  | goesOn attempt | ready attempt _ => some attempt
  | waiting | fails _ => none

namespace Opening

variable {plan : OpeningPlan} {began : Nat} {start : Transport} {log occurred : List Occurrence}
  {attempt attempt' : Opening} {now most : Nat}

theorem transport_send {command : Command} (h : (attempt.send command).opening? = some attempt') :
    attempt'.transport = attempt.transport := by
  unfold send at h
  split at h <;> cases h
  rfl

theorem transport_greet {frame : Frame} (h : (attempt.greet frame).opening? = some attempt') :
    attempt'.transport = attempt.transport := by
  unfold greet at h
  split at h
  · exact transport_send h
  · cases h

theorem transport_conclude {data : Option Event}
    (h : (attempt.conclude data).opening? = some attempt') :
    attempt'.transport = attempt.transport := by
  unfold conclude at h
  split at h <;> cases h
  rfl

theorem transport_takeReply {frame : Frame}
    (h : (attempt.takeReply frame).opening? = some attempt') :
    attempt'.transport = attempt.transport := by
  unfold takeReply at h
  split at h
  · split at h
    · exact transport_conclude h
    · cases h
  · split at h
    · exact transport_conclude h
    · cases h

theorem unread_awaitFrame {take : Opening → Frame → OpeningTurn}
    (htake : ∀ {attempt : Opening} {frame : Frame} {attempt' : Opening},
      (take attempt frame).opening? = some attempt' → attempt'.transport = attempt.transport)
    (h : (attempt.awaitFrame most take).opening? = some attempt') :
    attempt.transport.unread =
      heardBytes (attempt.awaitOccurrences most) ++ attempt'.transport.unread := by
  unfold awaitFrame at h
  unfold awaitOccurrences
  rcases hnext : attempt.decoder.next with ⟨⟨fault⟩ | ⟨_ | frame⟩, decoder⟩
  · rw [hnext] at h
    cases h
  · simp only [hnext] at h ⊢
    unfold readOn at h
    dsimp only at h
    split at h
    · cases h
    · next bytes houtcome =>
      have hunread := Transport.read_eq houtcome
      rw [houtcome]
      dsimp only at h ⊢
      cases hfeed : decoder.feed bytes with
      | ok decoder' =>
        rw [hfeed] at h
        obtain rfl := Option.some.inj h
        simp only [heardBytes_singleton, Occurrence.heardBytes]
        exact hunread
      | error fault =>
        rw [hfeed] at h
        cases h
    · cases h
    · cases h
  · simp only [hnext] at h ⊢
    rw [htake h]
    rfl

theorem unread_dial (h : attempt.dial.opening? = some attempt') :
    attempt'.transport = attempt.transport := by
  unfold dial at h
  split at h
  · split at h <;> cases h <;> rfl
  · cases h
  · cases h
  · exact transport_send h
  · exact transport_send h

/-- The clock lets nothing go on that would not. -/
theorem opening?_turn (attempt : Opening) (now most : Nat) :
    (attempt.turn now most).opening? =
      match attempt.phase with
      | .dialing => attempt.dial.opening?
      | .greeting => (attempt.awaitFrame most greet).opening?
      | .sending rest => (attempt.writeOn most rest).opening?
      | .replying => (attempt.awaitFrame most takeReply).opening? := by
  unfold turn
  cases attempt.phase <;> dsimp only <;> split
  all_goals first
    | rfl
    | next hwaiting =>
      rw [hwaiting]
      split <;> rfl

/-- What an opening hears is what has been unread for longest. -/
theorem unread_turn (h : (attempt.turn now most).opening? = some attempt') :
    attempt.transport.unread =
      heardBytes (attempt.occurrences most) ++ attempt'.transport.unread := by
  rw [opening?_turn] at h
  unfold occurrences
  split at h
  · next hphase =>
    rw [hphase, unread_dial h]
    rfl
  · next hphase =>
    rw [hphase]
    exact unread_awaitFrame transport_greet h
  · next rest hphase =>
    have halike := attempt.transport.alike_write (rest.extract 0 most)
    rw [hphase]
    unfold writeOn at h
    dsimp only at h ⊢
    split at h
    · cases h
    · cases h
    · next houtcome =>
      obtain rfl := Option.some.inj h
      rw [houtcome]
      exact halike.unread.symm
  · next hphase =>
    rw [hphase]
    exact unread_awaitFrame transport_takeReply h

theorem orderly_session (attempt : Opening) (channelData : Option Event) :
    (attempt.session channelData).Orderly where
  numbers := List.nodup_nil
  suits := by simp [Opening.session]
  stopped := by simp [Opening.session]
  asked := by simp [Opening.session]

theorem endsSession_of_kind {frame : Frame}
    (hkind : frame.kind = .authRequest ∨ frame.kind = .commandReply) :
    frame.endsSession = false := by
  rcases hkind with hkind | hkind <;> simp [Frame.endsSession, hkind]

theorem kind_of_checkAuthReply {frame : Frame} (h : checkAuthReply frame = .ok ()) :
    frame.kind = .commandReply := by
  unfold checkAuthReply at h
  split at h
  · next hkind _ => exact hkind
  · cases h
  · cases h

theorem kind_of_channelData {frame : Frame} {event : Event} (h : channelData frame = .ok event) :
    frame.kind = .commandReply := by
  unfold channelData at h
  split at h
  · next hkind => exact hkind
  · cases h

theorem Accepts.kind {handshake : Handshake} {frame : Frame} {data : Option Event}
    (h : Accepts handshake frame data) : frame.kind = .commandReply := by
  cases h with
  | inbound hreply => exact kind_of_checkAuthReply hreply
  | outbound hreply => exact kind_of_channelData hreply

/-- No frame that an opening takes and goes on ends a session. -/
theorem Effect.mild {outcome : OpeningTurn} (h : attempt.Effect now most outcome occurred)
    (hopening : outcome.opening? = some attempt') :
    ∀ frame ∈ tookFrames occurred, frame.endsSession = false := by
  cases h with
  | answers hphase hmode hnext hkind => simpa using endsSession_of_kind (Or.inl hkind)
  | admitted hphase hnext hreply => simpa using endsSession_of_kind (Or.inr hreply.kind)
  | fails => cases hopening
  | waits => cases hopening
  | _ => simp [tookFrames]

/-- The decoder is handed over where the opening has come to with it. -/
theorem Underway.follows_of_ready {data : Option Event}
    (h : Underway plan began start log attempt)
    (heffect : attempt.Effect now most (.ready attempt' data) occurred) :
    attempt'.decoder.Sound ∧ attempt'.decoder.view.Follows (heardBytes (log ++ occurred))
      (tookFrames (log ++ occurred)) := by
  cases heffect with
  | admitted hphase hnext =>
    obtain ⟨hview, hsound⟩ := Decoder.view_next h.sound hnext
    exact ⟨hsound, by simpa using h.follows.take hview⟩

end Opening

/-- These bytes arrive by the move. -/
def ConnectionMove.Brings (connection : Connection) (bytes : List UInt8) : ConnectionMove → Prop
  | .network transport => connection.transport.Brings transport bytes
  | .session move =>
    match connection with
    | .live current => move.Brings current bytes
    | _ => bytes = []
  | .start | .linked _ | .turn .. | .abandon => bytes = []

instance (connection : Connection) (bytes : List UInt8) (move : ConnectionMove) :
    Decidable (move.Brings connection bytes) :=
  match move with
  | .network transport =>
    inferInstanceAs (Decidable (connection.transport.Brings transport bytes))
  | .session move =>
    match connection with
    | .live current => inferInstanceAs (Decidable (move.Brings current bytes))
    | .idle _ | .opening _ | .failed .. | .abandoned .. => inferInstanceAs (Decidable (bytes = []))
  | .start | .linked _ | .turn .. | .abandon => inferInstanceAs (Decidable (bytes = []))

/-- The frames that have been taken during the opening, and then handed on by the reader. -/
def framesGiven (log : List Occurrence) : List Frame :=
  tookFrames log ++ framesIn (happeningsIn log)

namespace Connection

def refuses (connection : Connection) : ConnectionMove → Bool
  | .session move =>
    match connection with
    | live session => session.refuses move
    | _ => false
  | .start | .linked _ | .turn .. | .abandon | .network _ => false

/-- A run on which the switch only ever adds to its stream, until that is over, and what of it has
arrived. -/
inductive Fed (plan : OpeningPlan) (began : Nat) (start : Transport) :
    Intake → List Occurrence → Connection → Prop
  | start : Fed plan began start ⟨start.unread, false⟩ [] (.idle start)
  | step {intake : Intake} {log : List Occurrence} {connection connection' : Connection}
      (fed : Fed plan began start intake log connection) (move : ConnectionMove)
      (bytes : List UInt8) (hbrings : move.Brings connection bytes) (hfresh : move.Fresh log)
      (hmove : connection.perform plan began move = some connection') :
      Fed plan began start
        ⟨intake.arrived ++ bytes, intake.refused || connection.refuses move⟩
        (log ++ (connection.occurrences move ++ connection.publication connection')) connection'

/-- Makes the given moves by which these bytes arrive, if all of them can be made. -/
def followFed (plan : OpeningPlan) (began : Nat) (intake : Intake) (log : List Occurrence)
    (connection : Connection) :
    List (ConnectionMove × List UInt8) → Option (Intake × List Occurrence × Connection)
  | [] => some (intake, log, connection)
  | (move, bytes) :: moves =>
    if move.Brings connection bytes ∧ move.Fresh log then
      (connection.perform plan began move).bind fun connection' =>
        connection'.followFed plan began
          ⟨intake.arrived ++ bytes, intake.refused || connection.refuses move⟩
          (log ++ (connection.occurrences move ++ connection.publication connection')) moves
    else none

variable {plan : OpeningPlan} {began : Nat} {start : Transport} {intake intake' : Intake}
  {log log' : List Occurrence} {connection connection' : Connection} {session : Session}
  {move : ConnectionMove} {bytes : List UInt8}

theorem Fed.follow (fed : Fed plan began start intake log connection)
    {moves : List (ConnectionMove × List UInt8)}
    (h : connection.followFed plan began intake log moves =
      some (intake', log', connection')) :
    Fed plan began start intake' log' connection' := by
  induction moves generalizing intake log connection with
  | nil =>
    cases h
    exact fed
  | cons move moves ih =>
    obtain ⟨move, bytes⟩ := move
    rw [followFed] at h
    split at h
    · next hcan =>
      obtain ⟨between, hmove, hrest⟩ := Option.bind_eq_some_iff.mp h
      exact ih (fed.step move bytes hcan.1 hcan.2 hmove) hrest
    · cases h

theorem Fed.run (fed : Fed plan began start intake log connection) :
    Run plan began start log connection := by
  induction fed with
  | start => exact .start
  | step fed move bytes hbrings hfresh hmove ih => exact ih.step move hfresh hmove

/-- How far a connection has come with what has arrived. -/
inductive Streams (intake : Intake) (log : List Occurrence) : Connection → Prop
  | idle {transport : Transport} (harrived : intake.arrived = transport.unread)
      (hlog : log = []) : Streams intake log (.idle transport)
  | opening {attempt : Opening}
      (harrived : intake.arrived = heardBytes log ++ attempt.transport.unread)
      (hmild : ∀ frame ∈ tookFrames log, frame.endsSession = false) :
      Streams intake log (.opening attempt)
  | live {session : Session} (hroutes : session.Routes intake (framesGiven log)) :
      Streams intake log (.live session)
  | failed (transport : Transport) (fault : Fault) : Streams intake log (.failed transport fault)
  | abandoned (transport : Transport) (state : SessionState) :
      Streams intake log (.abandoned transport state)

theorem Run.nothing_happened (run : Run plan began start log connection)
    (hnone : connection.session? = none) : happeningsIn log = [] := by
  cases run.lived with
  | sessionless _ hnothing => exact hnothing
  | live => cases hnone

theorem Run.underway {attempt : Opening} (run : Run plan began start log (.opening attempt)) :
    Opening.Underway plan began start log attempt := by
  cases run.reached with
  | opening hunderway => exact hunderway

/-- A turn of an opening that makes it a session hands the rest of the stream to the reader. -/
theorem streams_turn {attempt : Opening} (run : Run plan began start log (.opening attempt))
    (harrived : intake.arrived = heardBytes log ++ attempt.transport.unread)
    (hmild : ∀ frame ∈ tookFrames log, frame.endsSession = false) (now most : Nat) :
    let connection := afterTurn attempt (attempt.turn now most)
    Streams intake
      (log ++ (attempt.occurrences most ++ (opening attempt).publication connection))
      connection := by
  intro connection
  have heffect := attempt.turn_effect now most
  have hnothing := happeningsIn_occurrences attempt most
  have hnone := run.nothing_happened rfl
  cases hturn : attempt.turn now most with
  | waiting =>
    rw [hturn] at heffect
    generalize attempt.occurrences most = occurred at heffect
    cases heffect with
    | waits =>
      simp only [connection, hturn, afterTurn]
      exact .opening (by simpa using harrived) (by simpa using hmild)
  | goesOn attempt' =>
    have hunread := Opening.unread_turn (show (attempt.turn now most).opening? = some attempt' by
      rw [hturn]; rfl)
    rw [hturn] at heffect
    simp only [connection, hturn, afterTurn]
    refine .opening (by simp [harrived, hunread]) ?_
    simpa [or_imp, forall_and] using ⟨hmild, heffect.mild rfl⟩
  | ready attempt' data =>
    have hunread := Opening.unread_turn (show (attempt.turn now most).opening? = some attempt' by
      rw [hturn]; rfl)
    rw [hturn] at heffect
    obtain ⟨hsound, hfollows⟩ := run.underway.follows_of_ready heffect
    have harrive := hfollows.arrive attempt'.transport.unread
    simp only [connection, hturn, afterTurn]
    refine .live (.readsOn ⟨rfl, hsound, ?_, ?_⟩)
    · simpa [framesGiven, hnone, hnothing, framesIn, or_imp, forall_and] using
        ⟨hmild, heffect.mild rfl⟩
    · simpa [framesGiven, hnone, hnothing, framesIn, harrived, hunread, Opening.session]
        using harrive
  | fails fault =>
    simp only [connection, hturn, afterTurn]
    exact .failed _ _

theorem Streams.moves (h : Streams intake log connection)
    (run : Run plan began start log connection) (hbrings : move.Brings connection bytes)
    (hmove : Moves plan began connection move connection') :
    Streams ⟨intake.arrived ++ bytes, intake.refused || connection.refuses move⟩
      (log ++ (connection.occurrences move ++ connection.publication connection')) connection' := by
  cases hmove with
  | start transport =>
    obtain rfl := hbrings
    cases h with
    | idle harrived hlog =>
      subst hlog
      exact .opening (by simpa [occurrences, Opening.start] using harrived) (by simp [occurrences])
  | linked link hphase hpending =>
    obtain rfl := hbrings
    cases h with
    | opening harrived hmild =>
      exact .opening (by simpa [occurrences] using harrived) (by simpa [occurrences] using hmild)
  | turn attempt now most =>
    obtain rfl := hbrings
    cases h with
    | opening harrived hmild =>
      simpa [refuses, occurrences] using streams_turn run harrived hmild now most
  | leave transport => exact .abandoned _ _
  | abandon attempt => exact .abandoned _ _
  | network hsent =>
    cases h with
    | opening harrived hmild =>
      refine .opening ?_ (by simpa [occurrences] using hmild)
      simp [occurrences, harrived, hbrings.unread, transport]
  | @session session session' move hmove =>
    cases h with
    | live hroutes =>
      have hroutes' := hroutes.perform hbrings hmove
      refine .live ?_
      simpa [framesGiven, occurrences, refuses] using hroutes'

theorem Fed.streams (fed : Fed plan began start intake log connection) :
    Streams intake log connection := by
  induction fed with
  | start => exact .idle rfl rfl
  | step fed move bytes hbrings hfresh hmove ih =>
    exact ih.moves fed.run hbrings (moves_of_perform hmove)

theorem Run.orderly (run : Run plan began start log (.live session)) : session.Orderly := by
  cases run.lived with
  | sessionless hnone => cases hnone
  | live hkeeps =>
    obtain ⟨attempt, channelData, hrun⟩ := hkeeps.run
    exact (hrun.orderly rfl rfl (Opening.orderly_session attempt channelData) (.ready rfl rfl)).1

/-- Left to itself the reader reads on until it waits for the switch or has stopped. -/
theorem Fed.reads (fed : Fed plan began start intake log (.live session)) (now : Nat)
    (hmost : 0 < most) :
    ∃ count intake' log' session', Fed plan began start intake' log' (.live session') ∧
      intake'.arrived = intake.arrived ∧
      session.follow (happeningsIn log) (List.replicate count (.reader now most)) =
        some (happeningsIn log', session') ∧
      (session'.reader = .running → session'.readerTurn now most = none) := by
  induction hbound : session.toRead using Nat.strong_induction_on
    generalizing intake log session with
  | _ bound ih =>
    subst hbound
    cases hturn : session.readerTurn now most with
    | none => exact ⟨0, intake, log, session, fed, rfl, rfl, fun _ => hturn⟩
    | some session' =>
      have fed' := fed.step (.session (.reader now most)) [] rfl trivial
        (show (Connection.live session).perform plan began _ = some (.live session') by
          simp [perform, Session.perform, hturn])
      have hlog : happeningsIn (log ++ ((live session).occurrences (.session (.reader now most)) ++
          (live session).publication (live session'))) =
          happeningsIn log ++ session.happenings (.reader now most) := by
        simp [occurrences]
      have hfollow (moves : List Move) : session.follow (happeningsIn log)
          (.reader now most :: moves) = session'.follow
            (happeningsIn log ++ session.happenings (.reader now most)) moves := by
        rw [Session.follow, if_pos (show (Move.reader now most).Fresh _ from trivial)]
        simp [Session.perform, hturn]
      by_cases hreader : session'.reader = .running
      · cases fed.streams with
        | live hroutes =>
          cases hroutes with
          | readsOn hreads =>
            obtain ⟨count, intake'', log'', session'', fed'', harrived, hreached, hwaits⟩ :=
              ih _ (Session.toRead_lt hreads hmost hturn hreader) fed' rfl
            refine ⟨count + 1, intake'', log'', session'', fed'', ?_, ?_, hwaits⟩
            · rw [harrived, List.append_nil]
            · rw [List.replicate_succ, hfollow, ← hlog, hreached]
          | ended hstopped | malformed hstopped | silent hstopped | cut hstopped =>
            obtain ⟨-, hstill⟩ :=
              (Session.lives_readerTurn hturn).stopped hstopped
            exact absurd (hstill.mp hreader) hstopped
      · refine ⟨1, _, _, session', fed', List.append_nil _, ?_, fun h => absurd h hreader⟩
        rw [List.replicate_succ, hfollow, ← hlog]
        rfl

/-- The frames that have been given agree with those that a decoder gives for what has arrived. -/
structure HandedOn (plan : OpeningPlan) (began : Nat) (start : Transport) (intake : Intake)
    (log : List Occurrence) (session : Session) : Prop where
  /-- However a decoder is fed with it, if there is room. -/
  decoded : ∀ calls, fed calls = intake.arrived → (Decoder.new.play calls).Accepted →
    (Decoder.new.play calls).frames = framesOf intake.arrived
  order : framesGiven log <+: throughEnd (framesOf intake.arrived)
  waiting : ∀ now most, session.state = .ready → session.readerTurn now most = none →
    framesGiven log = throughEnd (framesOf intake.arrived)
  ended : session.state ≠ .ready → session.closeRequested = false → intake.refused = false →
    framesGiven log = throughEnd (framesOf intake.arrived)
  /-- The reader gets there by itself. -/
  settles : ∀ now most, 0 < most → ∃ count intake' log' session',
    Fed plan began start intake' log' (.live session') ∧
      intake'.arrived = intake.arrived ∧
      session.follow (happeningsIn log) (List.replicate count (.reader now most)) =
        some (happeningsIn log', session') ∧
      (session.closeRequested = false → intake'.refused = false →
        framesGiven log' = throughEnd (framesOf intake.arrived))

theorem reader_running_iff (hliving : session.Living) :
    session.reader = .running ↔ session.state = .ready := by
  cases hliving with
  | ready hready hrunning => simp [hready, hrunning]
  | @closed reason hclosed hpast =>
    refine iff_of_false ?_ (by simp [hclosed])
    intro hrunning
    rw [hrunning] at hpast
    exact hpast

theorem Fed.ended (fed : Fed plan began start intake log (.live session))
    (hreader : session.reader ≠ .running) (hclient : session.closeRequested = false)
    (hroom : intake.refused = false) :
    framesGiven log = throughEnd (framesOf intake.arrived) := by
  cases fed.streams with
  | live hroutes =>
    refine hroutes.complete hreader ?_ hroom
    intro hasked
    rw [fed.run.orderly.asked hasked] at hclient
    cases hclient

/-- Reading asks for nothing. -/
theorem closeRequested_of_reads {session' : Session} {happened happened' : List Happening}
    {now count : Nat} (h : session.follow happened (List.replicate count (.reader now most)) =
      some (happened', session')) : session'.closeRequested = session.closeRequested := by
  induction count generalizing session happened with
  | zero => cases h; rfl
  | succ count ih =>
    rw [List.replicate_succ, Session.follow] at h
    split at h
    · obtain ⟨between, hmove, hrest⟩ := Option.bind_eq_some_iff.mp h
      exact (ih hrest).trans (Session.observes_readerTurn hmove).closeRequested
    · cases h

theorem frames_handed_on (fed : Fed plan began start intake log (.live session)) :
    HandedOn plan began start intake log session where
  decoded := fun calls hfed haccepted => hfed ▸ Decoder.frames_play calls haccepted
  order := by
    cases fed.streams with
    | live hroutes => exact hroutes.order
  waiting := by
    intro now most hready hwaits
    cases fed.streams with
    | live hroutes => exact hroutes.waiting ((reader_running_iff fed.run.living).mpr hready) hwaits
  ended := fun hstate => fed.ended (mt (reader_running_iff fed.run.living).mp hstate)
  settles := by
    intro now most hmost
    obtain ⟨count, intake', log', session', fed', harrived, hreached, hwaits⟩ :=
      fed.reads now hmost
    refine ⟨count, intake', log', session', fed', harrived, hreached, ?_⟩
    intro hclient hroom
    rw [← harrived]
    by_cases hreader : session'.reader = .running
    · cases fed'.streams with
      | live hroutes => exact hroutes.waiting hreader (hwaits hreader)
    · exact fed'.ended hreader ((closeRequested_of_reads hreached).trans hclient) hroom

/-- Greeting, reply, a notice of the end and something else, all in one piece. -/
def pieceOfAll : ByteArray :=
  ("Content-Type:auth/request\n\nContent-Type:command/reply\nReply-Text:+OK\n\n" ++
    "Content-Type:text/disconnect-notice\n\ngarbage").toUTF8

def pieceOfAllMoves : List (ConnectionMove × List UInt8) :=
  [(.start, []), (.turn 0 readLimit, []),
    (.network { Transport.new with received := pieceOfAll }, octets pieceOfAll),
    (.turn 1 readLimit, []), (.turn 1 readLimit, []), (.turn 2 readLimit, []),
    (.turn 3 readLimit, []), (.session (.reader 4 readLimit), [])]

theorem frames_handed_on_in_one_piece :
    ∃ intake log session,
      Fed passwordPlan 0 Transport.new intake log (.live session) ∧
        intake.refused = false ∧ session.closeRequested = false ∧
        session.state = .closed .serverNotice ∧
        (framesGiven log).map Frame.kind =
          [.authRequest, .commandReply, .disconnectNotice] ∧
        HandedOn passwordPlan 0 Transport.new intake log session := by
  have hmoves : ((Connection.idle Transport.new).followFed passwordPlan 0
      ⟨Transport.new.unread, false⟩ [] pieceOfAllMoves).any (fun reached =>
        reached.1.refused = false ∧
          (framesGiven reached.2.1).map Frame.kind =
            [.authRequest, .commandReply, .disconnectNotice] ∧
          reached.2.2.session?.any fun session =>
            session.closeRequested = false ∧ session.state = .closed .serverNotice) = true := by
    decide +kernel
  obtain ⟨⟨intake, log, connection⟩, hfollow, hreached⟩ := (Option.any_eq_true _ _).mp hmoves
  obtain ⟨hroom, hgiven, hsession⟩ := of_decide_eq_true hreached
  obtain ⟨session, hlive, hends⟩ := (Option.any_eq_true _ _).mp hsession
  obtain ⟨hclient, hstate⟩ := of_decide_eq_true hends
  have fed := Fed.start.follow hfollow
  cases connection with
  | live current =>
    obtain rfl := Option.some.inj hlive
    exact ⟨intake, log, current, fed, hroom, hclient, hstate, hgiven, frames_handed_on fed⟩
  | _ => cases hlive

end Connection

end EventSocket
