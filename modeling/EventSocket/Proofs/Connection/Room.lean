import EventSocket.Proofs.Connection.HandOver
import EventSocket.Proofs.Frame.Admission

/-!
Room for what is read. While the switch keeps to segments with lines and bodies that the buffer can
take, whatever it sends at once and however that is cut, no read of the opening or of the reader
brings more than there is room for.
-/

namespace EventSocket

/-- The attempt would read what its decoder has no room for. -/
def Opening.refusesRead (attempt : Opening) (most : Nat) : Bool :=
  match attempt.phase with
  | .dialing | .sending _ => false
  | .greeting | .replying =>
    match attempt.decoder.next, (attempt.transport.read most).1 with
    | (.ok none, decoder), .read bytes =>
      match decoder.feed bytes with
      | .ok _ => false
      | .error _ => true
    | _, _ => false

namespace Connection

/-- The next read would bring more than there is room for. -/
def refusesRead (connection : Connection) (most : Nat) : Bool :=
  match connection with
  | opening attempt => attempt.refusesRead most
  | live session => session.refusesRead most
  | idle _ | failed .. | abandoned .. => false

end Connection

theorem Transport.size_read_le {transport : Transport} {most : Nat} {bytes : ByteArray}
    (h : (transport.read most).1 = .read bytes) : bytes.size ≤ most := by
  have hlength := congrArg List.length (read_eq h)
  rw [List.length_append, length_unread, length_unread, length_octets] at hlength
  have hreads := transport.read_reads most
  rw [h] at hreads
  generalize (transport.read most).2 = transport' at hreads hlength
  cases hreads with
  | read hsome hsent hless => omega

namespace Session

variable {session session' : Session} {move : Move} {bytes : List UInt8} {now most : Nat}

/-- What a move takes off the stream, while more bytes arrive. -/
inductive Draws (session session' : Session) (bytes : List UInt8) : Prop
  | beside (hdecoder : session'.decoder = session.decoder)
      (hunread : session'.transport.unread = session.transport.unread ++ bytes)
      (hreader : session'.reader = .running ↔ session.reader = .running)
  | takes {frame : Frame} (hreader : session.reader = .running)
      (hnext : session.decoder.next = (.ok (some frame), session'.decoder))
      (hunread : session'.transport.unread = session.transport.unread ++ bytes)
  | reads {decoder : Decoder} {read : ByteArray} (hreader : session.reader = .running)
      (hnext : session.decoder.next = (.ok none, decoder))
      (hfeed : decoder.feed read = .ok session'.decoder)
      (hunread : session.transport.unread ++ bytes = octets read ++ session'.transport.unread)
  | stops (hreader : session'.reader ≠ .running)

theorem Unreads.draws (h : session.Unreads session')
    (hreader : session'.reader = .running ↔ session.reader = .running) :
    session.Draws session' [] :=
  .beside h.decoder (h.transport.unread.trans (List.append_nil _).symm) hreader

theorem draws_readerTurn (h : session.readerTurn now most = some session') :
    session.Draws session' [] := by
  cases readerTurn_goes h with
  | @routes frame decoder hrunning hnext =>
    obtain ⟨hdecoder, hunread, -⟩ := unreads_route { session with decoder } now frame
    exact .takes hrunning (by rw [hnext, hdecoder]) (hunread.trans (List.append_nil _).symm)
  | reads hrunning hnext hreading =>
    cases hreading with
    | takes _ hread hfeed =>
      have hunread := (List.append_nil session.transport.unread).trans (Transport.read_eq hread)
      exact .reads hrunning hnext hfeed hunread
    | heeds | refuses | fails | ends => exact .stops (reader_endWith_ne _ _ _)
  | breaks => exact .stops (reader_endWith_ne _ _ _)
  | shuts hreader | leaves hreader | drains hreader | endsGeneral hreader | endsJobs hreader =>
    have hstopped : session.reader ≠ .running := by simp [hreader]
    exact (unreads_readerTurn hstopped h).draws ((lives_readerTurn h).stopped hstopped).2

theorem draws_perform (hbrings : move.Brings session bytes)
    (hmove : session.perform move = some session') : session.Draws session' bytes := by
  cases moves_of_perform hmove with
  | call number request =>
    obtain rfl := hbrings
    exact (unreads_call session number request).draws
      (by rw [(aside_call session number request).reader])
  | caller hfound hturn =>
    obtain rfl := hbrings
    exact (unreads_callerTurn hturn).draws (by rw [(aside_callerTurn hturn).reader])
  | reader hturn =>
    obtain rfl := hbrings
    exact draws_readerTurn hturn
  | network => exact .beside rfl hbrings.unread Iff.rfl
  | abandon | deliver =>
    obtain rfl := hbrings
    exact .beside rfl (List.append_nil _).symm Iff.rfl

end Session

namespace Connection

/-- The decoder has come by its turns from the stream that has arrived to the bytes that have not
been read, as long as there is anything that reads. -/
inductive OnStream (arrived : List UInt8) : Connection → Prop
  | idle {transport : Transport} (harrived : arrived = transport.unread) :
      OnStream arrived (.idle transport)
  | opening {attempt : Opening} (hsound : attempt.decoder.Sound)
      (hreached : DecoderView.Reached arrived
        (attempt.decoder.view.append attempt.transport.unread)) :
      OnStream arrived (.opening attempt)
  | reading {session : Session} (hsound : session.decoder.Sound)
      (hreached : DecoderView.Reached arrived
        (session.decoder.view.append session.transport.unread)) :
      OnStream arrived (.live session)
  | stopped {session : Session} (hreader : session.reader ≠ .running) :
      OnStream arrived (.live session)
  | failed (transport : Transport) (fault : Fault) : OnStream arrived (.failed transport fault)
  | abandoned (transport : Transport) (state : SessionState) :
      OnStream arrived (.abandoned transport state)

variable {plan : OpeningPlan} {began : Nat} {start : Transport} {intake : Intake}
  {log : List Occurrence} {connection connection' : Connection} {move : ConnectionMove}
  {arrived bytes : List UInt8}

/-- A turn of an opening takes a frame, or hears more when it has asked for that. -/
theorem reached_of_turn {attempt attempt' : Opening} {now most : Nat}
    (hsound : attempt.decoder.Sound)
    (hreached : DecoderView.Reached arrived
      (attempt.decoder.view.append attempt.transport.unread))
    (hopening : (attempt.turn now most).opening? = some attempt') :
    attempt'.decoder.Sound ∧ DecoderView.Reached arrived
      (attempt'.decoder.view.append attempt'.transport.unread) := by
  have heffect := attempt.turn_effect now most
  have hunread := Opening.unread_turn hopening
  generalize attempt.turn now most = outcome at heffect hopening
  generalize attempt.occurrences most = occurred at heffect hunread
  cases heffect with
  | greets | connects | writes =>
    obtain rfl := Option.some.inj hopening
    exact ⟨hsound, hreached⟩
  | answers hphase _ hnext | admitted hphase hnext =>
    obtain rfl := Option.some.inj hopening
    obtain ⟨hview, hsound'⟩ := Decoder.view_next hsound hnext
    exact ⟨hsound', hreached.next hview⟩
  | @hears read transport decoder decoder' hphase hnext hfeed =>
    obtain rfl := Option.some.inj hopening
    obtain ⟨hview, hsound'⟩ := Decoder.view_next hsound hnext
    obtain ⟨hfed, hsound''⟩ := Decoder.view_feed hsound' hfeed
    have hrest := hreached.next hview
    refine ⟨hsound'', ?_⟩
    simp only [heardBytes_singleton, Occurrence.heardBytes] at hunread
    rwa [hunread, ← DecoderView.append_append, ← hfed] at hrest
  | waits => cases hopening
  | fails => cases hopening

theorem OnStream.draws {session session' : Session} (h : OnStream arrived (.live session))
    (hdraws : session.Draws session' bytes) : OnStream (arrived ++ bytes) (.live session') := by
  cases hdraws with
  | beside hdecoder hunread hreader =>
    cases h with
    | reading hsound hreached =>
      refine .reading (hdecoder ▸ hsound) ?_
      rw [hdecoder, hunread, ← DecoderView.append_append]
      exact hreached.arrive bytes
    | stopped hstopped => exact .stopped (mt hreader.mp hstopped)
  | takes hreader hnext hunread =>
    cases h with
    | reading hsound hreached =>
      obtain ⟨hview, hsound'⟩ := Decoder.view_next hsound hnext
      refine .reading hsound' ?_
      rw [hunread, ← DecoderView.append_append]
      exact (hreached.next hview).arrive bytes
    | stopped hstopped => exact absurd hreader hstopped
  | reads hreader hnext hfeed hunread =>
    cases h with
    | reading hsound hreached =>
      obtain ⟨hview, hsound'⟩ := Decoder.view_next hsound hnext
      obtain ⟨hfed, hsound''⟩ := Decoder.view_feed hsound' hfeed
      refine .reading hsound'' ?_
      have hrest := (hreached.next hview).arrive bytes
      rwa [DecoderView.append_append, hunread, ← DecoderView.append_append, ← hfed] at hrest
    | stopped hstopped => exact absurd hreader hstopped
  | stops hreader => exact .stopped hreader

theorem OnStream.moves (h : OnStream arrived connection)
    (hbrings : move.Brings connection bytes)
    (hmove : Moves plan began connection move connection') :
    OnStream (arrived ++ bytes) connection' := by
  cases hmove with
  | start transport =>
    obtain rfl := hbrings
    cases h with
    | idle harrived =>
      rw [List.append_nil, harrived]
      exact .opening Decoder.sound_new .start
  | linked link hphase hpending =>
    obtain rfl := hbrings
    rw [List.append_nil]
    cases h with
    | opening hsound hreached => exact .opening hsound hreached
  | turn attempt now most =>
    obtain rfl := hbrings
    rw [List.append_nil]
    cases h with
    | opening hsound hreached =>
      cases hturn : attempt.turn now most with
      | waiting => exact .opening hsound hreached
      | goesOn attempt' =>
        obtain ⟨hsound', hreached'⟩ := reached_of_turn hsound hreached
          (show (attempt.turn now most).opening? = some attempt' by rw [hturn]; rfl)
        exact .opening hsound' hreached'
      | ready attempt' data =>
        obtain ⟨hsound', hreached'⟩ := reached_of_turn hsound hreached
          (show (attempt.turn now most).opening? = some attempt' by rw [hturn]; rfl)
        exact .reading hsound' hreached'
      | fails fault => exact .failed _ _
  | leave transport => exact .abandoned _ _
  | abandon attempt => exact .abandoned _ _
  | network hsent =>
    cases h with
    | opening hsound hreached =>
      refine .opening hsound ?_
      rw [hbrings.unread, ← DecoderView.append_append]
      exact hreached.arrive bytes
  | session hmove => exact h.draws (Session.draws_perform hbrings hmove)

theorem Fed.onStream (fed : Fed plan began start intake log connection) :
    OnStream intake.arrived connection := by
  induction fed with
  | start => exact .idle rfl
  | step fed move bytes hbrings hfresh hmove ih =>
    exact ih.moves hbrings (moves_of_perform hmove)

/-- As long as what arrives begins a stream of segments of which each header line leaves room for
another read, no read is refused: neither in the opening nor by the reader. -/
theorem admissible_stream_never_refused (fed : Fed plan began start intake log connection)
    (segments : List Segment)
    (hlines : ∀ segment ∈ segments, segment.LinesWithin (bufferLimit - readLimit))
    (hstream : intake.arrived <+: segments.flatMap Segment.bytes) (most : Nat)
    (hmost : most ≤ readLimit) : connection.refusesRead most = false := by
  cases fed.onStream with
  | @opening attempt hsound hreached =>
    unfold refusesRead Opening.refusesRead
    dsimp only
    split
    · rfl
    · rfl
    all_goals
      split
      · next decoder bytes hnext houtcome =>
        obtain ⟨next, hfeed⟩ := Decoder.feed_of_reached hsound hreached hlines hstream hnext
          ((Transport.size_read_le houtcome).trans hmost)
        rw [hfeed]
      · rfl
  | @reading session hsound hreached =>
    unfold refusesRead Session.refusesRead
    dsimp only
    split
    · next decoder bytes _ _ hnext houtcome =>
      obtain ⟨next, hfeed⟩ := Decoder.feed_of_reached hsound hreached hlines hstream hnext
        ((Transport.size_read_le houtcome).trans hmost)
      rw [hfeed]
    · rfl
  | @stopped session hreader =>
    unfold refusesRead Session.refusesRead
    dsimp only
    split
    · next hrunning _ _ _ => exact absurd hrunning hreader
    · rfl
  | idle | failed | abandoned => rfl

/-- A frame without a body. -/
def bodiless (headers : List WrittenHeader) (headers_ne : headers ≠ [])
    (unmeasured : ∀ header ∈ headers, header.name ≠ contentLengthName) : Segment where
  head := ⟨[], headers, fun header hheader hname => absurd hname (unmeasured header hheader)⟩
  closing := .returnFeed
  body := none
  headers_ne := headers_ne
  asked := by simpa [Asks, lengthHeader?] using unmeasured

def greetingSegment : Segment :=
  bodiless [⟨contentTypeName, "auth/request", .none, .space, .space, .none, .feed, by decide,
    by decide, by decide, by decide, by decide, by decide⟩] (by simp) (by decide)

def acceptedSegment : Segment :=
  bodiless [⟨contentTypeName, "command/reply", .none, .none, .space, .none, .returnFeed, by decide,
      by decide, by decide, by decide, by decide, by decide⟩,
    ⟨replyTextName, "+OK", .none, .none, .none, .space, .feed, by decide, by decide, by decide,
      by decide, by decide, by decide⟩] (by simp) (by decide)

/-- The answers of the switch and the beginning of another frame, all at once and read in pieces. -/
def coalescedMoves : List (ConnectionMove × List UInt8) :=
  let piece : ByteArray := ((greetingSegment.bytes ++ acceptedSegment.bytes) ++
    acceptedSegment.bytes.take 40).toByteArray
  [(.start, []), (.turn 0 readLimit, []),
    (.network { Transport.new with received := piece }, octets piece),
    (.turn 1 7, []), (.turn 1 50, []), (.turn 1 readLimit, []), (.turn 2 readLimit, []),
    (.turn 3 11, []), (.turn 4 15, []), (.turn 5 readLimit, [])]

theorem admissible_stream_never_refused_coalesced :
    ∃ intake log session,
      Fed passwordPlan 0 Transport.new intake log (.live session) ∧
        session.state = .ready ∧ 0 < session.decoder.buffered ∧ 0 < session.transport.available ∧
        (∀ segment ∈ [greetingSegment, acceptedSegment, acceptedSegment],
          segment.LinesWithin (bufferLimit - readLimit)) ∧
        intake.arrived <+:
          [greetingSegment, acceptedSegment, acceptedSegment].flatMap Segment.bytes ∧
        (Connection.live session).refusesRead readLimit = false := by
  have hmoves : ((Connection.idle Transport.new).followFed passwordPlan 0
      ⟨Transport.new.unread, false⟩ [] coalescedMoves).any (fun reached =>
        reached.1.arrived =
            greetingSegment.bytes ++ acceptedSegment.bytes ++ acceptedSegment.bytes.take 40 ∧
          reached.2.2.session?.any fun session =>
            session.state = .ready ∧ 0 < session.decoder.buffered ∧
              0 < session.transport.available) = true := by
    decide +kernel
  obtain ⟨⟨intake, log, connection⟩, hfollow, hreached⟩ := (Option.any_eq_true _ _).mp hmoves
  obtain ⟨harrived, hsession⟩ := of_decide_eq_true hreached
  obtain ⟨session, hlive, hstands⟩ := (Option.any_eq_true _ _).mp hsession
  obtain ⟨hready, hbuffered, havailable⟩ := of_decide_eq_true hstands
  have fed := Fed.start.follow hfollow
  have hstream : intake.arrived <+:
      [greetingSegment, acceptedSegment, acceptedSegment].flatMap Segment.bytes := by
    rw [harrived]
    decide +kernel
  have hlines : ∀ segment ∈ [greetingSegment, acceptedSegment, acceptedSegment],
      segment.LinesWithin (bufferLimit - readLimit) := by
    unfold Segment.LinesWithin
    decide +kernel
  cases connection with
  | live current =>
    obtain rfl := Option.some.inj hlive
    exact ⟨intake, log, current, fed, hready, hbuffered, havailable, hlines, hstream,
      admissible_stream_never_refused fed _ hlines hstream readLimit (Nat.le_refl _)⟩
  | _ => cases hlive

end Connection

end EventSocket
