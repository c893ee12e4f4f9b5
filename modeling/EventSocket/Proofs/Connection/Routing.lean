import EventSocket.Proofs.Connection.Inflow
import EventSocket.Proofs.Session.Correlation

/-!
How the reader of a session goes through what arrives. It hands every frame on up to the first that
ends the session and none behind it, and unless it is stopped it has handed on all there is when it
waits or has ended the session.
-/

namespace EventSocket

/-- All the frames of a stream up to its first fault. -/
def framesOf (stream : List UInt8) : List Frame := (DecoderView.fresh stream).drain.frames

theorem Decoder.frames_play (calls : List DecoderCall) (haccepted : (new.play calls).Accepted) :
    (new.play calls).frames = framesOf (fed calls) := by
  obtain ⟨hview, -⟩ := play_view sound_new calls haccepted
  exact congrArg Decoding.frames hview

/-- What has arrived at a connection, and whether a read has been refused for want of room. -/
structure Intake where
  arrived : List UInt8
  refused : Bool

namespace DecoderView

variable {view rest : DecoderView} {heard : List UInt8} {took : List Frame} {frame : Frame}

theorem Follows.arrive (h : view.Follows heard took) (bytes : List UInt8) :
    (view.append bytes).Follows (heard ++ bytes) took := by
  intro more
  rw [List.append_assoc, h, append_append]

/-- A view that asks for more may stand where it has got to. -/
theorem Follows.settle {bytes : List UInt8} (h : (view.append bytes).Follows heard took)
    (hnext : view.next = (.ok none, rest)) : (rest.append bytes).Follows heard took := by
  intro more
  rw [h, append_append, append_append, drain_append_next hnext]

theorem Follows.fault {bytes : List UInt8} {fault : Fault}
    (h : (view.append bytes).Follows heard took) (hnext : view.next = (.error fault, rest))
    (more : List UInt8) : (fresh (heard ++ more)).drain = ⟨took, .fault fault⟩ := by
  rw [h, append_append, drain_append_next hnext]
  simp [Decoding.prepend]

theorem Follows.framesOf_eq (h : view.Follows heard took) :
    framesOf heard = took ++ view.drain.frames :=
  congrArg Decoding.frames h.drain_eq

theorem drain_frames_of_none (hnext : view.next = (.ok none, rest)) : view.drain.frames = [] := by
  rw [drain_of_none hnext]

end DecoderView

/-- These bytes arrive by the move. -/
def Move.Brings (session : Session) (bytes : List UInt8) : Move → Prop
  | .network transport => session.transport.Brings transport bytes
  | .call .. | .caller .. | .reader .. | .abandon _ | .deliver .. => bytes = []

instance (session : Session) (bytes : List UInt8) (move : Move) :
    Decidable (move.Brings session bytes) :=
  match move with
  | .network transport => inferInstanceAs (Decidable (session.transport.Brings transport bytes))
  | .call .. | .caller .. | .reader .. | .abandon _ | .deliver .. =>
    inferInstanceAs (Decidable (bytes = []))

namespace Session

variable {session session' : Session} {intake : Intake} {before given : List Frame}
  {frame : Frame} {bytes : List UInt8} {now most : Nat} {move : Move}

/-- The reader has read what the decoder has no room for. -/
def refusesRead (session : Session) (most : Nat) : Bool :=
  match session.reader, session.heedsStop most, session.decoder.next,
      (session.transport.read most).1 with
  | .running, false, (.ok none, decoder), .read bytes =>
    match decoder.feed bytes with
    | .ok _ => false
    | .error _ => true
  | _, _, _, _ => false

def refuses (session : Session) : Move → Bool
  | .reader _ most => session.refusesRead most
  | .call .. | .caller .. | .abandon _ | .network _ | .deliver .. => false

theorem unreads_route (session : Session) (now : Nat) (frame : Frame) :
    session.Unreads (session.route now frame) := by
  obtain ⟨_, _, _, _, _, hreach⟩ := (session.route_routed now frame).reach
  rw [hreach]
  exact unreads_of_eq rfl rfl

theorem reader_route (session : Session) (now : Nat) (frame : Frame) :
    if frame.endsSession then (session.route now frame).reader ≠ .running
    else (session.route now frame).reader = session.reader := by
  unfold route Frame.endsSession
  cases frame.kind with
  | event =>
    cases Event.ofFrame frame with
    | ok event => simp
    | error fault => simp [endWith, joinLine]
  | disconnectNotice =>
    by_cases hlingers : lingers frame
    · simp [hlingers]
    · simp [hlingers, endWith, joinLine]
  | _ => simp

/-- The reader has handed these frames on and goes on with what follows them. -/
structure ReadsOn (intake : Intake) (given : List Frame) (session : Session) : Prop where
  running : session.reader = .running
  sound : session.decoder.Sound
  mild : ∀ frame ∈ given, frame.endsSession = false
  follows : (session.decoder.view.append session.transport.unread).Follows intake.arrived given

/-- How far a session has come with the frames of what has arrived. Once the reader has stopped,
there is a cause of it. -/
inductive Routes (intake : Intake) (given : List Frame) (session : Session) : Prop
  | readsOn (hreads : ReadsOn intake given session) : Routes intake given session
  | ended {before : List Frame} {frame : Frame} {view : DecoderView}
      (hreader : session.reader ≠ .running) (hgiven : given = before ++ [frame])
      (hmild : ∀ frame ∈ before, frame.endsSession = false) (hends : frame.endsSession = true)
      (hfollows : view.Follows intake.arrived given) : Routes intake given session
  | malformed (hreader : session.reader ≠ .running)
      (hmild : ∀ frame ∈ given, frame.endsSession = false)
      (hdrain : ∃ fault, ∀ more, (DecoderView.fresh (intake.arrived ++ more)).drain =
        ⟨given, .fault fault⟩) : Routes intake given session
  | silent {view : DecoderView} (hreader : session.reader ≠ .running)
      (hmild : ∀ frame ∈ given, frame.endsSession = false)
      (hfollows : view.Follows intake.arrived given) (hnone : view.drain.frames = [])
      (hover : session.transport.isOver = true) : Routes intake given session
  | cut {view : DecoderView} (hreader : session.reader ≠ .running)
      (hmild : ∀ frame ∈ given, frame.endsSession = false)
      (hfollows : view.Follows intake.arrived given)
      (hcause : session.state = .closed .clientRequested ∨ intake.refused = true) :
      Routes intake given session

/-- More arrives, and the session does not read it. -/
theorem Routes.beside (h : Routes intake given session)
    (hbrings : session.transport.Brings session'.transport bytes)
    (hdecoder : session'.decoder = session.decoder) (hstate : session'.state = session.state)
    (hreader : session'.reader = .running ↔ session.reader = .running) :
    Routes { intake with arrived := intake.arrived ++ bytes } given session' := by
  cases h with
  | readsOn hreads =>
    refine .readsOn ⟨hreader.mpr hreads.running, hdecoder ▸ hreads.sound, hreads.mild, ?_⟩
    have harrived := hreads.follows.arrive bytes
    rwa [DecoderView.append_append, ← hbrings.unread, ← hdecoder] at harrived
  | ended hstopped hgiven hmild hends hfollows =>
    exact .ended (mt hreader.mp hstopped) hgiven hmild hends (hfollows.arrive bytes)
  | malformed hstopped hmild hdrain =>
    obtain ⟨fault, hdrain⟩ := hdrain
    refine .malformed (mt hreader.mp hstopped) hmild ⟨fault, ?_⟩
    intro more
    rw [List.append_assoc]
    exact hdrain (bytes ++ more)
  | silent hstopped hmild hfollows hnone hover =>
    obtain ⟨rfl, hstill⟩ := hbrings.past hover
    rw [List.append_nil]
    exact .silent (mt hreader.mp hstopped) hmild hfollows hnone hstill
  | cut hstopped hmild hfollows hcause =>
    exact .cut (mt hreader.mp hstopped) hmild (hfollows.arrive bytes) (hstate ▸ hcause)

theorem readerTurn_of_none {decoder : Decoder} (hreader : session.reader = .running)
    (hnext : session.decoder.next = (.ok none, decoder)) (now most : Nat) :
    session.readerTurn now most = ({ session with decoder } : Session).readOn now most := by
  simp [readerTurn, hreader, hnext]

theorem readerTurn_of_fault {decoder : Decoder} {fault : Fault}
    (hreader : session.reader = .running)
    (hnext : session.decoder.next = (.error fault, decoder)) (now most : Nat) :
    session.readerTurn now most =
      some ({ session with decoder }.endWith now (.protocolError fault.message)) := by
  simp [readerTurn, hreader, hnext]

theorem reader_endWith_ne (session : Session) (now : Nat) (reason : EndReason) :
    (session.endWith now reason).reader ≠ .running := by
  simp [endWith, joinLine]

/-- A frame is handed on, and the reader goes on unless it ends the session. -/
theorem ReadsOn.takes (h : ReadsOn intake given session) {decoder : Decoder}
    (hnext : session.decoder.next = (.ok (some frame), decoder)) (now : Nat) :
    Routes intake (given ++ [frame]) (({ session with decoder } : Session).route now frame) := by
  obtain ⟨hview, hsound⟩ := Decoder.view_next h.sound hnext
  have hfollows := h.follows.take (DecoderView.next_append_frame hview session.transport.unread)
  obtain ⟨hdecoder, hunread, -⟩ := unreads_route { session with decoder } now frame
  have hreader := reader_route { session with decoder } now frame
  by_cases hends : frame.endsSession
  · rw [if_pos hends] at hreader
    exact .ended hreader rfl h.mild hends hfollows
  · rw [if_neg hends] at hreader
    rw [Bool.not_eq_true] at hends
    refine .readsOn ⟨hreader.trans h.running, hdecoder ▸ hsound, ?_, ?_⟩
    · simpa [or_imp, forall_and] using ⟨h.mild, hends⟩
    · rw [hdecoder, hunread]
      exact hfollows

/-- All frames have been handed on, and more is read or the reader stops for a cause. -/
theorem ReadsOn.reading (h : ReadsOn intake given session) {decoder : Decoder}
    (hnext : session.decoder.next = (.ok none, decoder))
    (hreading : Reading { session with decoder } now most session') :
    Routes { intake with refused := intake.refused || session.refusesRead most } given
      session' := by
  obtain ⟨hview, hsound⟩ := Decoder.view_next h.sound hnext
  have hfollows := h.follows.settle hview
  have hnone := DecoderView.drain_frames_of_none (DecoderView.next_none hview)
  cases hreading with
  | heeds => exact .cut (reader_endWith_ne _ _ _) h.mild hfollows (Or.inl rfl)
  | takes hheedless hread hfeed =>
    rw [Transport.read_eq hread, ← DecoderView.append_append] at hfollows
    obtain ⟨hfed, hsound'⟩ := Decoder.view_feed hsound hfeed
    exact .readsOn ⟨h.running, hsound', h.mild, hfed ▸ hfollows⟩
  | refuses hheedless hread hfeed =>
    rw [Transport.read_eq hread, ← DecoderView.append_append] at hfollows
    replace hheedless : session.heedsStop most = false := hheedless
    replace hread : (session.transport.read most).1 = .read _ := hread
    have hrefuses : session.refusesRead most = true := by
      simp [refusesRead, h.running, hheedless, hnext, hread, hfeed]
    exact .cut (reader_endWith_ne _ _ _) h.mild hfollows
      (Or.inr (by rw [hrefuses, Bool.or_true]))
  | fails hheedless hread =>
    obtain ⟨hunread, hover⟩ := Transport.read_failed hread
    rw [hunread, DecoderView.append_nil] at hfollows
    exact .silent (reader_endWith_ne _ _ _) h.mild hfollows hnone hover
  | ends hheedless hread =>
    obtain ⟨hunread, hover⟩ := Transport.read_ended hread
    rw [hunread, DecoderView.append_nil] at hfollows
    exact .silent (reader_endWith_ne _ _ _) h.mild hfollows hnone hover

theorem Routes.refused (h : Routes intake given session) (refused : Bool) :
    Routes { intake with refused := intake.refused || refused } given session := by
  cases h with
  | readsOn hreads => exact .readsOn ⟨hreads.running, hreads.sound, hreads.mild, hreads.follows⟩
  | ended hreader hgiven hmild hends hfollows =>
    exact .ended hreader hgiven hmild hends hfollows
  | malformed hreader hmild hdrain => exact .malformed hreader hmild hdrain
  | silent hreader hmild hfollows hnone hover => exact .silent hreader hmild hfollows hnone hover
  | cut hreader hmild hfollows hcause =>
    exact .cut hreader hmild hfollows (hcause.imp_right fun hrefused => by rw [hrefused]; rfl)

/-- A turn of the reader. -/
theorem Routes.reads (h : Routes intake given session)
    (hturn : session.readerTurn now most = some session') :
    Routes { intake with refused := intake.refused || session.refusesRead most }
      (given ++ framesIn session.readerHappenings) session' := by
  by_cases hrunning : session.reader = .running
  · cases h with
    | readsOn hreads =>
      rw [framesIn_readerHappenings hrunning]
      cases readerTurn_goes hturn with
      | routes _ hnext =>
        rw [hnext]
        exact (hreads.takes hnext now).refused _
      | reads _ hnext hreading =>
        rw [hnext]
        exact (List.append_nil given).symm ▸ hreads.reading hnext hreading
      | @breaks fault _ _ hnext =>
        obtain ⟨hview, -⟩ := Decoder.view_next hreads.sound hnext
        rw [hnext]
        exact (List.append_nil given).symm ▸
          .malformed (reader_endWith_ne _ _ _) hreads.mild ⟨fault, hreads.follows.fault hview⟩
      | shuts hreader | leaves hreader | drains hreader | endsGeneral hreader | endsJobs hreader =>
        rw [hrunning] at hreader
        cases hreader
    | ended hreader | malformed hreader | silent hreader | cut hreader =>
      exact absurd hrunning hreader
  · have hunreads := unreads_readerTurn hrunning hturn
    obtain ⟨hstate, hreader⟩ := (lives_readerTurn hturn).stopped hrunning
    have hgiven : framesIn session.readerHappenings = [] := by
      unfold readerHappenings
      split
      · next hreader' => exact absurd hreader' hrunning
      · rfl
      · rfl
    rw [hgiven, List.append_nil]
    have hbeside := h.beside hunreads.transport.brings hunreads.decoder hstate hreader
    rw [List.append_nil] at hbeside
    exact hbeside.refused _

/-- Nothing is read and nothing arrives. -/
theorem Routes.aside (h : Routes intake given session)
    (hstate : session'.state = session.state) (hreader : session'.reader = session.reader)
    (hunreads : session.Unreads session') : Routes intake given session' := by
  have hbeside := h.beside hunreads.transport.brings hunreads.decoder hstate (by rw [hreader])
  rwa [List.append_nil] at hbeside

theorem Routes.perform (h : Routes intake given session)
    (hbrings : move.Brings session bytes) (hmove : session.perform move = some session') :
    Routes ⟨intake.arrived ++ bytes, intake.refused || session.refuses move⟩
      (given ++ framesIn (session.happenings move)) session' := by
  cases moves_of_perform hmove with
  | call number request =>
    obtain rfl := hbrings
    have hnothing : framesIn [.called number] = [] := rfl
    have haside := aside_call session number request
    simpa [happenings, hnothing, refuses] using
      h.aside haside.state haside.reader (unreads_call session number request)
  | caller hfound hturn =>
    obtain rfl := hbrings
    have haside := aside_callerTurn hturn
    simpa [happenings, hfound, framesIn_callerHappenings, refuses] using
      h.aside haside.state haside.reader (unreads_callerTurn hturn)
  | reader hturn =>
    obtain rfl := hbrings
    simpa [happenings, refuses] using h.reads hturn
  | abandon number =>
    obtain rfl := hbrings
    have hroutes : Routes intake given (session.abandon number) :=
      h.aside rfl rfl (unreads_of_eq rfl rfl)
    simpa [happenings, framesIn_abandonHappenings, refuses] using hroutes
  | @network transport hsent =>
    have hnothing : framesIn [] = [] := rfl
    have hroutes : Routes { intake with arrived := intake.arrived ++ bytes } given
        { session with transport } := h.beside hbrings rfl rfl Iff.rfl
    simpa [happenings, hnothing, refuses] using hroutes
  | deliver listeners audience =>
    obtain rfl := hbrings
    have hnothing : framesIn [] = [] := rfl
    have hroutes : Routes intake given
        { session with dispatcher := (session.dispatcher.deliver listeners audience).1 } :=
      h.aside rfl rfl (unreads_of_eq rfl rfl)
    simpa [happenings, hnothing, refuses] using hroutes

theorem framesOf_ended {view : DecoderView} {arrived : List UInt8}
    (hmild : ∀ frame ∈ before, frame.endsSession = false) (hends : frame.endsSession = true)
    (hfollows : view.Follows arrived (before ++ [frame])) :
    throughEnd (framesOf arrived) = before ++ [frame] := by
  rw [hfollows.framesOf_eq, List.append_assoc, List.singleton_append,
    throughEnd_of_ends hmild hends]

theorem framesOf_malformed {arrived : List UInt8}
    (hmild : ∀ frame ∈ given, frame.endsSession = false)
    (hdrain : ∃ fault, ∀ more, (DecoderView.fresh (arrived ++ more)).drain =
      ⟨given, .fault fault⟩) : throughEnd (framesOf arrived) = given := by
  obtain ⟨fault, hdrain⟩ := hdrain
  have hnow := congrArg Decoding.frames (hdrain [])
  rw [List.append_nil] at hnow
  rw [framesOf, hnow, throughEnd_of_mild hmild]

/-- What has been given is in order, and nothing behind what ends the session is. -/
theorem Routes.order (h : Routes intake given session) :
    given <+: throughEnd (framesOf intake.arrived) := by
  cases h with
  | readsOn hreads =>
    rw [hreads.follows.framesOf_eq, throughEnd_append hreads.mild]
    exact List.prefix_append _ _
  | ended hreader hgiven hmild hends hfollows =>
    subst hgiven
    exact framesOf_ended hmild hends hfollows ▸ List.prefix_rfl
  | malformed hreader hmild hdrain => exact framesOf_malformed hmild hdrain ▸ List.prefix_rfl
  | silent hreader hmild hfollows hnone | cut hreader hmild hfollows hcause =>
    rw [hfollows.framesOf_eq, throughEnd_append hmild]
    exact List.prefix_append _ _

/-- While the reader waits there is nothing left that it could give. -/
theorem Routes.waiting (h : Routes intake given session) (hreader : session.reader = .running)
    (hwaits : session.readerTurn now most = none) :
    given = throughEnd (framesOf intake.arrived) := by
  cases h with
  | readsOn hreads =>
    cases hnext : session.decoder.next with
    | mk answer decoder =>
      match answer with
      | .ok (some frame) => rw [readerTurn_of_frame hreader hnext] at hwaits; cases hwaits
      | .error fault => rw [readerTurn_of_fault hreader hnext] at hwaits; cases hwaits
      | .ok none =>
        rw [readerTurn_of_none hreader hnext] at hwaits
        obtain ⟨hview, -⟩ := Decoder.view_next hreads.sound hnext
        have hunread := Transport.read_waiting (readOn_eq_none.mp hwaits).2
        rw [hreads.follows.framesOf_eq, hunread, DecoderView.append_nil,
          DecoderView.drain_frames_of_none hview, List.append_nil, throughEnd_of_mild hreads.mild]
  | ended hstopped | malformed hstopped | silent hstopped | cut hstopped =>
    exact absurd hreader hstopped

/-- Unless the client or a lack of room has stopped the reader, it has given all there is. -/
theorem Routes.complete (h : Routes intake given session) (hreader : session.reader ≠ .running)
    (hclient : session.state ≠ .closed .clientRequested) (hroom : intake.refused = false) :
    given = throughEnd (framesOf intake.arrived) := by
  cases h with
  | readsOn hreads => exact absurd hreads.running hreader
  | ended hstopped hgiven hmild hends hfollows =>
    subst hgiven
    rw [framesOf_ended hmild hends hfollows]
  | malformed hstopped hmild hdrain => rw [framesOf_malformed hmild hdrain]
  | silent hstopped hmild hfollows hnone =>
    rw [hfollows.framesOf_eq, hnone, List.append_nil, throughEnd_of_mild hmild]
  | cut hstopped hmild hfollows hcause =>
    rcases hcause with hasked | hrefused
    · exact absurd hasked hclient
    · rw [hroom] at hrefused
      cases hrefused

/-- A bound on the turns that a reader can take while nothing more arrives. -/
def toRead (session : Session) : Nat :=
  3 * session.transport.available + session.decoder.view.size

theorem toRead_lt (h : ReadsOn intake given session) (hmost : 0 < most)
    (hturn : session.readerTurn now most = some session')
    (hreader : session'.reader = .running) : session'.toRead < session.toRead := by
  cases readerTurn_goes hturn with
  | @routes frame decoder hrunning hnext =>
    obtain ⟨hview, -⟩ := Decoder.view_next h.sound hnext
    obtain ⟨hdecoder, hunread, -⟩ := unreads_route { session with decoder } now frame
    have hsmaller := DecoderView.size_next_lt hview
    simp only [toRead, ← Transport.length_unread, hdecoder, hunread]
    omega
  | reads _ hnext hreading =>
    obtain ⟨hview, hsound⟩ := Decoder.view_next h.sound hnext
    have hsmaller := DecoderView.size_next_none hview
    cases hreading with
    | takes _ hread hfeed =>
      replace hread : (session.transport.read most).1 = .read _ := hread
      obtain ⟨hfed, -⟩ := Decoder.view_feed hsound hfeed
      obtain ⟨hless, hbytes⟩ := Transport.read_less hread hmost
      simp only [toRead, hfed, DecoderView.size_append, length_octets]
      omega
    | heeds | refuses | fails | ends => exact absurd hreader (reader_endWith_ne _ _ _)
  | breaks => exact absurd hreader (reader_endWith_ne _ _ _)
  | shuts | leaves | drains | endsGeneral | endsJobs => cases hreader

end Session

end EventSocket
