import EventSocket.Proofs.Connection.Room
import EventSocket.Proofs.Frame.Draining

/-!
The reader drains its decoder before it reads on. It hands on no more frames than bytes were
buffered, and then there is none left or the reader has stopped.
-/

namespace EventSocket

namespace Session

variable {session last : Session} {frame : Frame} {frames : List Frame}

/-- Turns of the reader, at whatever times, each of which hands on a frame. -/
inductive Drains : Session → List Frame → Session → Prop
  | nothing (session : Session) : Drains session [] session
  | frame {session next last : Session} {frame : Frame} {frames : List Frame} {now most : Nat}
      (hreader : session.reader = .running)
      (hframe : session.decoder.next.1 = .ok (some frame))
      (hturn : session.readerTurn now most = some next) (hdrains : Drains next frames last) :
      Drains session (frame :: frames) last

/-- The reader has no frame to hand on. -/
def Drained (session : Session) : Prop :=
  session.reader = .running → ∀ frame, session.decoder.next.1 ≠ .ok (some frame)

theorem decoder_route (session : Session) (now : Nat) (frame : Frame) :
    (session.route now frame).decoder = session.decoder :=
  (session.unreads_route now frame).decoder

theorem decoder_readerTurn_of_frame {next : Session} {now most : Nat}
    (hreader : session.reader = .running) (hframe : session.decoder.next.1 = .ok (some frame))
    (hturn : session.readerTurn now most = some next) :
    session.decoder.next = (.ok (some frame), next.decoder) := by
  have hnext : session.decoder.next = (.ok (some frame), session.decoder.next.2) := by
    rw [← hframe]
  rw [readerTurn_of_frame hreader hnext] at hturn
  obtain rfl := Option.some.inj hturn
  rw [decoder_route]
  exact hnext

theorem Drains.length_le (h : session.Drains frames last) (wanting : session.decoder.mode.Wanting) :
    frames.length + last.decoder.buffered ≤ session.decoder.buffered := by
  induction h with
  | nothing => simp
  | frame hreader hframe hturn _ ih =>
    have hnext := decoder_readerTurn_of_frame hreader hframe hturn
    have hless := Decoder.buffered_next_lt wanting hnext
    have hrest := ih (Decoder.wanting_next hnext)
    rw [List.length_cons]
    omega

/-- With every frame the bound on those that may follow falls, so the last one comes. -/
theorem exists_drained (wanting : session.decoder.mode.Wanting) (now most : Nat) :
    ∃ frames last, session.Drains frames last ∧ last.Drained := by
  induction hbound : session.decoder.buffered using Nat.strong_induction_on
    generalizing session with
  | _ bound ih =>
    by_cases hdrained : session.Drained
    · exact ⟨[], session, .nothing session, hdrained⟩
    · simp only [Drained, not_forall, not_not] at hdrained
      obtain ⟨hreader, frame, hframe⟩ := hdrained
      have hnext : session.decoder.next = (.ok (some frame), session.decoder.next.2) := by
        rw [← hframe]
      have hturn := readerTurn_of_frame hreader hnext now most
      have hdecoder := decoder_readerTurn_of_frame hreader hframe hturn
      have hless := Decoder.buffered_next_lt wanting hdecoder
      obtain ⟨frames, last, hdrains, hlast⟩ :=
        ih _ (hbound ▸ hless) (Decoder.wanting_next hdecoder) rfl
      exact ⟨frame :: frames, last, .frame hreader hframe hturn hdrains, hlast⟩

end Session

/-- Whatever calls a decoder has answered, asking it for frames gets on; and so does the reader of
any session that has it, whenever it takes its turns. -/
theorem draining_progresses (calls : List DecoderCall) (session : Session) :
    let decoder := Decoder.new.after calls
    let holding := { session with decoder }
    decoder.Progresses ∧
      (∀ frames last, holding.Drains frames last →
        frames.length + last.decoder.buffered ≤ decoder.buffered) ∧
      ∃ frames last, holding.Drains frames last ∧ last.Drained := by
  intro decoder holding
  have wanting : decoder.mode.Wanting := Decoder.wanting_new calls
  have hholding : holding.decoder.mode.Wanting := wanting
  refine ⟨Decoder.progresses_of_wanting wanting, ?_, Session.exists_drained hholding 0 0⟩
  intro frames last hdrains
  exact hdrains.length_le hholding

end EventSocket
