import EventSocket.Session.Calling
import EventSocket.Session.Reading

/-!
Sessions that nobody listens to. Where the lanes of a session stand, and how far its reader has come
in telling them the end, makes no difference to what callers, reader and transport do.
-/

namespace EventSocket

/-- Telling the listeners the end is the last that a reader does. -/
def ReaderPhase.unheard : ReaderPhase → ReaderPhase
  | .ending .. => .stopped
  | phase => phase

@[simp]
theorem ReaderPhase.unheard_unheard (phase : ReaderPhase) :
    phase.unheard.unheard = phase.unheard := by
  cases phase <;> rfl

namespace Session

/-- A session as it would be without anything to tell. -/
def unheard (session : Session) : Session :=
  { session with reader := session.reader.unheard, dispatcher := .start 0 }

@[simp]
theorem unheard_unheard (session : Session) : session.unheard.unheard = session.unheard := by
  simp [unheard]

theorem submit_unheard (session : Session) (number : Nat) (command : Command) :
    session.unheard.submit number command = (session.submit number command).unheard := by
  have hstate : session.unheard.state = session.state := rfl
  unfold submit
  rw [hstate]
  cases session.state with
  | ready => cases command.wire <;> rfl
  | _ => rfl

theorem call_unheard (session : Session) (number : Nat) (request : Request) :
    session.unheard.call number request = (session.call number request).unheard := by
  let called : Session :=
    { session with callers := session.callers ++ [⟨number, request, .watching⟩] }
  have hcalled : session.unheard.state = session.state := rfl
  unfold call
  simp only [hcalled]
  split
  · rfl
  · rfl
  · split
    · rfl
    · exact submit_unheard { called with closeRequested := true } number .exit
  · split
    · rfl
    · next command _ _ => exact called.submit_unheard number command
    · rfl

theorem takeReply_unheard (session : Session) (now : Nat) (caller : Caller)
    (result : Except Fault Response) :
    session.unheard.takeReply now caller result =
      (session.takeReply now caller result).unheard := by
  unfold takeReply
  split <;> rfl

theorem writeOn_unheard (session : Session) (now most : Nat) (caller : Caller) (id : CommandId)
    (rest : ByteArray) :
    session.unheard.writeOn now most caller id rest =
      (session.writeOn now most caller id rest).map unheard := by
  have htransport : session.unheard.transport = session.transport := rfl
  unfold writeOn
  rw [htransport]
  dsimp only
  split
  · rfl
  · next text _ =>
    let withdrawn : Session :=
      { session with pending := session.pending.withdraw id }.leaveLine (.caller caller.number)
    exact congrArg some (withdrawn.takeReply_unheard now caller (.error (.io text)))
  · split <;> rfl

theorem shutdown_unheard (session : Session) (writer : Writer) :
    session.unheard.shutdown writer =
      (session.shutdown writer).map fun ended => (ended.1, ended.2.unheard) := by
  have htransport : session.unheard.transport = session.transport := rfl
  unfold shutdown
  rw [htransport]
  dsimp only
  split <;> rfl

theorem callerTurn_unheard (session : Session) (now most : Nat) (caller : Caller) :
    session.unheard.callerTurn now most caller =
      (session.callerTurn now most caller).map unheard := by
  have hwriters : session.unheard.writers = session.writers := rfl
  have hpending : session.unheard.pending = session.pending := rfl
  have hstate : session.unheard.state = session.state := rfl
  unfold callerTurn
  cases caller.phase with
  | queued id wire =>
    simp only [hwriters, hpending]
    split
    · cases session.pending.register id with
      | some pending => rfl
      | none => exact congrArg some ((session.leaveLine _).takeReply_unheard now caller _)
    · rfl
  | writing id rest => exact session.writeOn_unheard now most caller id rest
  | awaiting id =>
    simp only [hpending]
    cases session.pending.settlement? id with
    | none => rfl
    | some settlement => exact congrArg some (takeReply_unheard session now caller _)
  | shutting deadline =>
    simp only [hwriters, shutdown_unheard]
    split
    · cases session.shutdown (.caller caller.number) <;> rfl
    · split <;> rfl
  | lingering deadline =>
    simp only [hstate]
    split
    · rfl
    · split <;> rfl
  | dropping =>
    simp only [hstate]
    split <;> rfl
  | detaching =>
    simp only [hwriters, shutdown_unheard]
    split
    · cases session.shutdown (.caller caller.number) with
      | none => rfl
      | some ended =>
        cases ended with
        | mk outcome next => cases outcome <;> rfl
    · rfl
  | watching =>
    simp only [hstate]
    cases session.state <;> rfl
  | told result => rfl

theorem endWith_unheard (session : Session) (now : Nat) (reason : EndReason) :
    (session.unheard.endWith now reason).unheard = (session.endWith now reason).unheard := rfl

theorem route_unheard (session : Session) (now : Nat) (frame : Frame) :
    (session.unheard.route now frame).unheard = (session.route now frame).unheard := by
  unfold route
  split
  · simp [unheard]
  · simp [unheard]
  · cases Event.ofFrame frame with
    | ok event => simp [unheard]
    | error fault => exact session.endWith_unheard now _
  · split
    · exact session.unheard_unheard
    · exact session.endWith_unheard now _
  · exact session.unheard_unheard
  · exact session.unheard_unheard
  · exact session.unheard_unheard

theorem readOn_unheard (session : Session) (now most : Nat) :
    (session.unheard.readOn now most).map unheard = (session.readOn now most).map unheard := by
  have hstop : session.unheard.heedsStop most = session.heedsStop most := rfl
  have htransport : session.unheard.transport = session.transport := rfl
  have hdecoder : session.unheard.decoder = session.decoder := rfl
  unfold readOn
  simp only [hstop, htransport, hdecoder]
  split
  · rfl
  · split
    · rfl
    · next bytes _ =>
      cases session.decoder.feed bytes with
      | ok decoder => simp [unheard]
      | error fault => rfl
    · rfl
    · rfl

theorem readerTurn_running {session : Session} (hreader : session.reader = .running)
    (now most : Nat) :
    session.readerTurn now most =
      match session.decoder.next with
      | (.ok (some frame), decoder) => some ({ session with decoder }.route now frame)
      | (.ok none, decoder) => { session with decoder }.readOn now most
      | (.error fault, decoder) =>
        some ({ session with decoder }.endWith now (.protocolError fault.message)) := by
  unfold readerTurn
  split
  · rfl
  all_goals next hother => exact absurd (hreader.symm.trans hother) (by simp)

/-- Whether the reader of a session that is being told the end has to wait for its lanes is seen by
nobody else. -/
theorem readerTurn_unheard (session : Session) (now most : Nat) :
    ((session.unheard.readerTurn now most).map unheard).getD session.unheard =
      ((session.readerTurn now most).map unheard).getD session.unheard := by
  have hdecoder : session.unheard.decoder = session.decoder := rfl
  have hwriters : session.unheard.writers = session.writers := rfl
  have hphase : session.unheard.reader = session.reader.unheard := rfl
  cases hreader : session.reader with
  | running =>
    rw [hreader] at hphase
    rw [readerTurn_running hphase, readerTurn_running hreader, hdecoder]
    cases session.decoder.next with
    | mk outcome decoder =>
      let decoded : Session := { session with decoder }
      cases outcome with
      | error fault => exact decoded.endWith_unheard now _
      | ok frame? =>
        cases frame? with
        | some frame => exact decoded.route_unheard now frame
        | none => exact congrArg (·.getD session.unheard) (decoded.readOn_unheard now most)
  | hangingUp reason deadline =>
    rw [hreader] at hphase
    simp only [readerTurn, hreader, hphase, ReaderPhase.unheard, hwriters, shutdown_unheard]
    split
    · cases session.shutdown .reader <;> rfl
    · split <;> rfl
  | failing reason =>
    rw [hreader] at hphase
    simp only [readerTurn, hreader, hphase, ReaderPhase.unheard]
    rfl
  | ending reason kind =>
    rw [hreader] at hphase
    simp only [readerTurn, hreader, hphase, ReaderPhase.unheard]
    cases session.dispatcher.pushEnding kind reason with
    | none => rfl
    | some dispatcher => cases kind <;> simp [unheard, ReaderPhase.unheard, hreader]
  | stopped =>
    rw [hreader] at hphase
    simp only [readerTurn, hreader, hphase, ReaderPhase.unheard]

end Session

end EventSocket
