import EventSocket.Proofs.Session.Effects
import EventSocket.Proofs.Session.Unheard

/-!
Sessions behind other bytes on the same transport. What has been sent before a session is read by
nothing in it: every function gives behind those bytes what it gives without them.
-/

namespace EventSocket

namespace Transport

/-- The transport with other bytes sent on it. -/
def sending (sent : ByteArray) (transport : Transport) : Transport := { transport with sent }

theorem read_sending (transport : Transport) (sent : ByteArray) (most : Nat) :
    (transport.sending sent).read most =
      ((transport.read most).1, (transport.read most).2.sending sent) := by
  have havailable : (transport.sending sent).available = transport.available := rfl
  have hfailure : (transport.sending sent).readFailure = transport.readFailure := rfl
  unfold read
  rw [havailable, hfailure]
  by_cases hsome : transport.available > 0
  · simp only [if_pos hsome]
    rfl
  · simp only [if_neg hsome]
    cases transport.readFailure <;> rfl

theorem shutdown_sending (transport : Transport) (sent : ByteArray) :
    (transport.sending sent).shutdown =
      (transport.shutdown.1, transport.shutdown.2.sending sent) := by
  have hstalled : (transport.sending sent).shutdownStalled = transport.shutdownStalled := rfl
  have hfailure : (transport.sending sent).shutdownFailure = transport.shutdownFailure := rfl
  unfold shutdown
  rw [hstalled, hfailure]
  split
  · rfl
  · cases transport.shutdownFailure <;> rfl

/-- What becomes of a write is not decided by what is written. -/
theorem write_sending (transport : Transport) (sent bytes : ByteArray) :
    (transport.sending sent).write bytes =
      ((transport.write ByteArray.empty).1,
        transport.sending
          (if (transport.write ByteArray.empty).1 = .written then sent ++ bytes else sent)) := by
  obtain ⟨received, taken, ended, readFailure, writeFailure, shutdownFailure, stalled,
    shutdownStalled, before, shut⟩ := transport
  simp only [write, sending]
  cases stalled with
  | true => rfl
  | false =>
    cases writeFailure with
    | some text => rfl
    | none => cases shut <;> rfl

/-- The transport as it would be had these bytes been sent before all others. -/
def behind (before : ByteArray) (transport : Transport) : Transport :=
  transport.sending (before ++ transport.sent)

theorem read_behind (transport : Transport) (before : ByteArray) (most : Nat) :
    (transport.behind before).read most =
      ((transport.read most).1, (transport.read most).2.behind before) := by
  rw [behind, read_sending, behind, sent_read]

theorem shutdown_behind (transport : Transport) (before : ByteArray) :
    (transport.behind before).shutdown =
      (transport.shutdown.1, transport.shutdown.2.behind before) := by
  rw [behind, shutdown_sending, behind, sent_shutdown]

theorem write_behind (transport : Transport) (before bytes : ByteArray) :
    (transport.behind before).write bytes =
      ((transport.write bytes).1, (transport.write bytes).2.behind before) := by
  have hplain := write_sending transport transport.sent bytes
  change transport.write bytes = _ at hplain
  rw [hplain, behind, write_sending]
  dsimp only
  split
  · simp only [behind, sending, ByteArray.append_assoc]
  · rfl

end Transport

namespace Session

def behind (before : ByteArray) (session : Session) : Session :=
  { session with transport := session.transport.behind before }

variable (session : Session) (before : ByteArray) (now most : Nat)

theorem shutdown_behind (writer : Writer) :
    (session.behind before).shutdown writer =
      (session.shutdown writer).map fun ended => (ended.1, ended.2.behind before) := by
  have htransport : (session.behind before).transport = session.transport.behind before := rfl
  unfold shutdown
  rw [htransport, Transport.shutdown_behind]
  dsimp only
  split <;> rfl

theorem submit_behind (number : Nat) (command : Command) :
    (session.behind before).submit number command =
      (session.submit number command).behind before := by
  have hstate : (session.behind before).state = session.state := rfl
  unfold submit
  rw [hstate]
  cases session.state with
  | ready => cases command.wire <;> rfl
  | _ => rfl

theorem call_behind (number : Nat) (request : Request) :
    (session.behind before).call number request = (session.call number request).behind before := by
  let called : Session :=
    { session with callers := session.callers ++ [⟨number, request, .watching⟩] }
  have hstate : (session.behind before).state = session.state := rfl
  unfold call
  simp only [hstate]
  split
  · rfl
  · rfl
  · split
    · rfl
    · exact submit_behind { called with closeRequested := true } before number .exit
  · split
    · rfl
    · next command _ _ => exact called.submit_behind before number command
    · rfl

theorem takeReply_behind (caller : Caller) (result : Except Fault Response) :
    (session.behind before).takeReply now caller result =
      (session.takeReply now caller result).behind before := by
  unfold takeReply
  split <;> rfl

theorem writeOn_behind (caller : Caller) (id : CommandId) (rest : ByteArray) :
    (session.behind before).writeOn now most caller id rest =
      (session.writeOn now most caller id rest).map (behind before) := by
  have htransport : (session.behind before).transport = session.transport.behind before := rfl
  unfold writeOn
  rw [htransport, Transport.write_behind]
  dsimp only
  split
  · rfl
  · next text _ =>
    let withdrawn : Session :=
      { session with pending := session.pending.withdraw id }.leaveLine (.caller caller.number)
    exact congrArg some (withdrawn.takeReply_behind before now caller (.error (.io text)))
  · split <;> rfl

theorem callerTurn_behind (caller : Caller) :
    (session.behind before).callerTurn now most caller =
      (session.callerTurn now most caller).map (behind before) := by
  have hwriters : (session.behind before).writers = session.writers := rfl
  have hpending : (session.behind before).pending = session.pending := rfl
  have hstate : (session.behind before).state = session.state := rfl
  unfold callerTurn
  cases caller.phase with
  | queued id wire =>
    simp only [hwriters, hpending]
    split
    · cases session.pending.register id with
      | some pending => rfl
      | none => exact congrArg some ((session.leaveLine _).takeReply_behind before now caller _)
    · rfl
  | writing id rest => exact session.writeOn_behind before now most caller id rest
  | awaiting id =>
    simp only [hpending]
    cases session.pending.settlement? id with
    | none => rfl
    | some settlement => exact congrArg some (session.takeReply_behind before now caller _)
  | shutting deadline =>
    simp only [hwriters, shutdown_behind]
    split
    · cases session.shutdown (.caller caller.number) <;> rfl
    · split <;> rfl
  | lingering deadline =>
    simp only [hstate]
    split
    · rfl
    · split <;> rfl
  | dropping =>
    simp only [hstate]
    split <;> rfl
  | detaching =>
    simp only [hwriters, shutdown_behind]
    split
    · cases session.shutdown (.caller caller.number) with
      | none => rfl
      | some ended =>
        cases ended with
        | mk outcome next => cases outcome <;> rfl
    · rfl
  | watching =>
    simp only [hstate]
    cases session.state <;> rfl
  | told result => rfl

theorem route_behind (frame : Frame) :
    (session.behind before).route now frame = (session.route now frame).behind before := by
  unfold route
  split
  · rfl
  · rfl
  · cases Event.ofFrame frame <;> rfl
  · split <;> rfl
  · rfl
  · rfl
  · rfl

theorem readOn_behind :
    (session.behind before).readOn now most =
      (session.readOn now most).map (behind before) := by
  have htransport : (session.behind before).transport = session.transport.behind before := rfl
  have hstop : (session.behind before).heedsStop most = session.heedsStop most := by
    simp only [heedsStop, htransport, Transport.read_behind]
    rfl
  have hdecoder : (session.behind before).decoder = session.decoder := rfl
  unfold readOn
  rw [hstop, htransport, hdecoder, Transport.read_behind]
  dsimp only
  split
  · rfl
  · split
    · rfl
    · next bytes _ => cases session.decoder.feed bytes <;> rfl
    · rfl
    · rfl

theorem readerTurn_behind :
    (session.behind before).readerTurn now most =
      (session.readerTurn now most).map (behind before) := by
  have hdecoder : (session.behind before).decoder = session.decoder := rfl
  have hwriters : (session.behind before).writers = session.writers := rfl
  have hdispatcher : (session.behind before).dispatcher = session.dispatcher := rfl
  have hphase : (session.behind before).reader = session.reader := rfl
  cases hreader : session.reader with
  | running =>
    rw [hreader] at hphase
    rw [readerTurn_running hphase, readerTurn_running hreader, hdecoder]
    cases session.decoder.next with
    | mk answer decoder =>
      let decoded : Session := { session with decoder }
      match answer with
      | .ok (some frame) => exact congrArg some (decoded.route_behind before now frame)
      | .ok none => exact decoded.readOn_behind before now most
      | .error fault => rfl
  | hangingUp reason deadline =>
    rw [hreader] at hphase
    simp only [readerTurn, hreader, hphase, hwriters, shutdown_behind]
    split
    · cases session.shutdown .reader <;> rfl
    · split <;> rfl
  | failing reason =>
    rw [hreader] at hphase
    simp only [readerTurn, hreader, hphase]
    rfl
  | ending reason kind =>
    rw [hreader] at hphase
    simp only [readerTurn, hreader, hphase, hdispatcher]
    cases session.dispatcher.pushEnding kind reason with
    | none => rfl
    | some dispatcher => cases kind <;> rfl
  | stopped =>
    rw [hreader] at hphase
    simp only [readerTurn, hreader, hphase]
    rfl

end Session

/-- The same move behind these bytes. -/
def Move.behind (before : ByteArray) : Move → Move
  | .network transport => .network (transport.behind before)
  | move => move

theorem Move.behind_of_ne (move : Move) (before : ByteArray)
    (hmove : ∀ transport, move ≠ .network transport) : move.behind before = move := by
  cases move with
  | network transport => exact absurd rfl (hmove transport)
  | _ => rfl

namespace Session

theorem perform_behind (session : Session) (before : ByteArray) (move : Move) :
    (session.behind before).perform (move.behind before) =
      (session.perform move).map (behind before) := by
  cases move with
  | call number request => exact congrArg some (session.call_behind before number request)
  | caller number now most =>
    change (session.caller? number).bind _ = ((session.caller? number).bind _).map _
    cases session.caller? number with
    | none => rfl
    | some caller => exact session.callerTurn_behind before now most caller
  | reader now most => exact session.readerTurn_behind before now most
  | abandon number => rfl
  | network transport =>
    have hsent : before ++ transport.sent = before ++ session.transport.sent ↔
        transport.sent = session.transport.sent := ByteArray.append_right_inj before
    simp only [Move.behind, perform, behind, Transport.behind, Transport.sending, hsent]
    split <;> rfl
  | deliver listeners audience => rfl

theorem happenings_behind (session : Session) (before : ByteArray) (move : Move) :
    (session.behind before).happenings (move.behind before) = session.happenings move := by
  cases move with
  | caller number now most =>
    have hcaller : (session.behind before).caller? number = session.caller? number := rfl
    have htransport : (session.behind before).transport = session.transport.behind before := rfl
    simp only [Move.behind, happenings, hcaller]
    cases session.caller? number with
    | none => rfl
    | some caller =>
      simp only [callerHappenings, htransport, Transport.write_behind]
      rfl
  | _ => rfl

end Session

end EventSocket
