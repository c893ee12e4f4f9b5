import EventSocket.Proofs.Session.Moves
import EventSocket.Proofs.Session.Reach

/-!
The stream that this side writes. Whatever happens on a session, it is ended only by those who stand
in line for that: whoever closes or disconnects, and the reader behind the session.
-/

namespace EventSocket

namespace Transport

variable {transport : Transport}

/-- The own stream goes on as before, or somebody has had his turn to end it. -/
structure Outlives (ends : Prop) (before after : Transport) : Prop where
  failure : after.writeFailure = before.writeFailure
  shut : after.shut = before.shut ∨ ends

theorem outlives_refl (ends : Prop) (transport : Transport) : transport.Outlives ends transport :=
  ⟨rfl, Or.inl rfl⟩

theorem outlives_read (ends : Prop) (transport : Transport) (most : Nat) :
    transport.Outlives ends (transport.read most).2 := by
  unfold read
  split
  · exact ⟨rfl, Or.inl rfl⟩
  · split <;> exact ⟨rfl, Or.inl rfl⟩

theorem outlives_write (ends : Prop) (transport : Transport) (bytes : ByteArray) :
    transport.Outlives ends (transport.write bytes).2 := by
  unfold write
  split
  · exact outlives_refl ..
  · split
    · exact outlives_refl ..
    · split <;> exact ⟨rfl, Or.inl rfl⟩

theorem outlives_shutdown {ends : Prop} (transport : Transport) (hends : ends) :
    transport.Outlives ends transport.shutdown.2 := by
  unfold shutdown
  split
  · exact ⟨rfl, Or.inr hends⟩
  · split <;> exact ⟨rfl, Or.inr hends⟩

theorem Used.outlives {ends : Prop} {after : Transport} (h : transport.Used ends after) :
    transport.Outlives ends after := by
  cases h with
  | untouched => exact transport.outlives_refl ends
  | written bytes => exact transport.outlives_write ends bytes
  | shut hends => exact transport.outlives_shutdown hends

/-- Without a failure of its own, writing fails if and only if the own stream has been ended. -/
theorem write_whole (hwhole : transport.writeFailure = none) (bytes : ByteArray) :
    (transport.write bytes).1 = .waiting ∨
      (transport.write bytes).1 =
        if transport.shut then .failed writeAfterShutdown else .written := by
  unfold write
  split
  · exact Or.inl rfl
  · refine Or.inr ?_
    rw [hwhole]
    dsimp only
    split <;> rfl

end Transport

/-- In line to end the own stream behind the session. -/
def ReaderPhase.Ends : ReaderPhase → Prop
  | hangingUp _ _ => True
  | _ => False

namespace Session

variable {session session' : Session} {caller : Caller} {now most : Nat} {move : Move}

/-- Somebody has his turn to end the own stream: one who closes or disconnects, or the reader. -/
def EndsStream (session : Session) : Move → Prop
  | .caller number _ _ => ∃ caller, session.caller? number = some caller ∧ caller.phase.Ends
  | .reader _ _ => session.reader.Ends
  | _ => False

theorem outlives_callerTurn (h : session.callerTurn now most caller = some session') :
    session.transport.Outlives caller.phase.Ends session'.transport := by
  obtain ⟨transport, _, _, _, _, rfl, hused⟩ := callerTurn_reach h
  exact hused.outlives

theorem Reading.outlives (ends : Prop) (h : session.Reading now most session') :
    session.transport.Outlives ends session'.transport := by
  cases h with
  | takes | refuses => exact session.transport.outlives_read ends most
  | heeds | fails | ends => exact session.transport.outlives_refl ends

theorem outlives_readerTurn (h : session.readerTurn now most = some session') :
    session.transport.Outlives session.reader.Ends session'.transport := by
  cases readerTurn_goes h with
  | @routes frame decoder =>
    obtain ⟨_, _, _, _, _, hreach⟩ := ({ session with decoder }.route_routed now frame).reach
    rw [hreach]
    exact Transport.outlives_refl ..
  | reads _ _ hreading => exact hreading.outlives session.reader.Ends
  | shuts hreader => exact session.transport.outlives_shutdown (hreader ▸ trivial)
  | breaks | leaves | drains | endsGeneral | endsJobs => exact Transport.outlives_refl ..

/-- The network may do what it likes to the transport, but not to what this side writes. -/
def Steady (session : Session) : Move → Prop
  | .network transport =>
    transport.writeFailure = none ∧ transport.shut = session.transport.shut
  | _ => True

instance (session : Session) (move : Move) : Decidable (session.Steady move) :=
  match move with
  | .network transport => inferInstanceAs (Decidable
      (transport.writeFailure = none ∧ transport.shut = session.transport.shut))
  | .call .. | .caller .. | .reader .. | .abandon _ | .deliver .. =>
    inferInstanceAs (Decidable True)

theorem outlives_perform (hwhole : session.transport.writeFailure = none)
    (hsteady : session.Steady move) (hmove : session.perform move = some session') :
    session.transport.Outlives (session.EndsStream move) session'.transport := by
  cases moves_of_perform hmove with
  | call number request =>
    obtain ⟨_, _, _, _, hreach⟩ := session.call_reach number request
    rw [hreach]
    exact Transport.outlives_refl ..
  | caller hfound hturn =>
    obtain ⟨hfailure, hshut⟩ := outlives_callerTurn hturn
    exact ⟨hfailure, hshut.imp_right fun hends => ⟨_, hfound, hends⟩⟩
  | reader hturn => exact outlives_readerTurn hturn
  | abandon | deliver => exact Transport.outlives_refl ..
  | network => exact ⟨hsteady.1.trans hwhole.symm, Or.inl hsteady.2⟩

end Session

end EventSocket
