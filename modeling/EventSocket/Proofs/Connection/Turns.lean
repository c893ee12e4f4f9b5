import EventSocket.Proofs.Connection.Moves
import EventSocket.Proofs.Frame.Scanning
import EventSocket.Proofs.Session.Effects

/-!
What one turn of an opening can do: take the next frame, hear more bytes, write, wait, or give up
for a cause that can be named.
-/

namespace EventSocket

namespace Transport

/-- Nothing can be read now, and nothing will tell that nothing more comes. -/
structure Quiet (transport : Transport) : Prop where
  available : transport.available = 0
  readFailure : transport.readFailure = none
  ended : transport.ended = false

/-- What can be read comes first, then a failure, then the end. -/
inductive Reads (transport : Transport) (most : Nat) : ReadOutcome → Transport → Prop
  | read {bytes : ByteArray} {transport' : Transport} (hsome : 0 < transport.available)
      (hsent : transport'.sent = transport.sent)
      (hless : transport'.available = transport.available - min most transport.available) :
      Reads transport most (.read bytes) transport'
  | failed {text : String} (hnone : transport.available = 0)
      (hfailure : transport.readFailure = some text) : Reads transport most (.failed text) transport
  | ended (hnone : transport.available = 0) (hfailure : transport.readFailure = none)
      (hended : transport.ended = true) : Reads transport most .ended transport
  | waiting (hquiet : transport.Quiet) : Reads transport most .waiting transport

theorem read_reads (transport : Transport) (most : Nat) :
    transport.Reads most (transport.read most).1 (transport.read most).2 := by
  by_cases hsome : transport.available > 0
  · simp only [read, if_pos hsome]
    refine .read hsome rfl ?_
    simp only [available]
    omega
  · have hnone : transport.available = 0 := Nat.eq_zero_of_not_pos hsome
    simp only [read, if_neg hsome]
    cases hfailure : transport.readFailure with
    | some text => exact .failed hnone hfailure
    | none =>
      cases hended : transport.ended with
      | true => exact .ended hnone hfailure hended
      | false => exact .waiting ⟨hnone, hfailure, hended⟩

inductive Writes (transport : Transport) (bytes : ByteArray) : WriteOutcome → Transport → Prop
  | waiting (hstalled : transport.stalled = true) : Writes transport bytes .waiting transport
  | failed {text : String} (hcause : transport.writeFailure = some text ∨
      transport.shut = true ∧ text = writeAfterShutdown) :
      Writes transport bytes (.failed text) transport
  | written :
      Writes transport bytes .written { transport with sent := transport.sent ++ bytes }

theorem write_writes (transport : Transport) (bytes : ByteArray) :
    transport.Writes bytes (transport.write bytes).1 (transport.write bytes).2 := by
  unfold write
  split
  · next hstalled => exact .waiting hstalled
  · split
    · next text hfailure => exact .failed (Or.inl hfailure)
    · split
      · next hshut => exact .failed (Or.inr ⟨hshut, rfl⟩)
      · exact .written

end Transport

namespace Opening

variable {attempt : Opening} {now most : Nat}

/-- Why there is no next frame, and will be none. -/
inductive ReadFault (attempt : Opening) : Fault → Prop
  | malformed {fault : Fault} (hnext : attempt.decoder.next.1 = .error fault) :
      ReadFault attempt fault
  | overfull (hnext : attempt.decoder.next.1 = .ok none) {bytes : ByteArray}
      (hroom : bufferLimit < attempt.decoder.next.2.view.ahead.length + bytes.size) :
      ReadFault attempt (.stream (.bufferFull bufferLimit))
  | failed (hnext : attempt.decoder.next.1 = .ok none) {text : String}
      (hnone : attempt.transport.available = 0)
      (hfailure : attempt.transport.readFailure = some text) : ReadFault attempt (.io text)
  | ended (hnext : attempt.decoder.next.1 = .ok none) (hnone : attempt.transport.available = 0)
      (hended : attempt.transport.ended = true) : ReadFault attempt .connectionClosed

/-- The ways in which an opening can await a frame. -/
inductive Awaits (attempt : Opening) (most : Nat) (take : Opening → Frame → OpeningTurn) :
    OpeningTurn → List Occurrence → Prop
  | takes {frame : Frame} {decoder : Decoder}
      (hnext : attempt.decoder.next = (.ok (some frame), decoder)) :
      Awaits attempt most take (take { attempt with decoder } frame) [.took frame]
  | hears {bytes : ByteArray} {transport : Transport} {decoder decoder' : Decoder}
      (hnext : attempt.decoder.next = (.ok none, decoder))
      (hfeed : decoder.feed bytes = .ok decoder') (hsome : 0 < attempt.transport.available)
      (hsent : transport.sent = attempt.transport.sent)
      (hless : transport.available =
        attempt.transport.available - min most attempt.transport.available) :
      Awaits attempt most take (.goesOn { attempt with transport, decoder := decoder' })
        [.heard bytes]
  | starves (hnext : attempt.decoder.next.1 = .ok none) (hquiet : attempt.transport.Quiet) :
      Awaits attempt most take .waiting []
  | fails {fault : Fault} (hfault : attempt.ReadFault fault) :
      Awaits attempt most take (.fails fault) []

theorem awaitFrame_awaits (attempt : Opening) (most : Nat) (take : Opening → Frame → OpeningTurn) :
    attempt.Awaits most take (attempt.awaitFrame most take) (attempt.awaitOccurrences most) := by
  cases hnext : attempt.decoder.next with
  | mk answer decoder =>
    match answer with
    | .ok (some frame) =>
      simp only [awaitFrame, awaitOccurrences, hnext]
      exact .takes hnext
    | .error fault =>
      simp only [awaitFrame, awaitOccurrences, hnext]
      exact .fails (.malformed (by rw [hnext]))
    | .ok none =>
      have hnone : attempt.decoder.next.1 = .ok none := by rw [hnext]
      have hreads := attempt.transport.read_reads most
      simp only [awaitFrame, awaitOccurrences, readOn, hnext]
      cases hread : attempt.transport.read most with
      | mk outcome transport =>
        rw [hread] at hreads
        cases hreads with
        | @read bytes _ hsome hsent hless =>
          obtain ⟨next, hfeed, -⟩ | ⟨hfeed, hroom⟩ := Decoder.feed_eq decoder bytes
          · simp only [hfeed]
            exact .hears hnext hfeed hsome hsent hless
          · simp only [hfeed]
            exact .fails (.overfull hnone (by rw [hnext]; exact hroom))
        | failed hempty hfailure => exact .fails (.failed hnone hempty hfailure)
        | ended hempty hfailure hended => exact .fails (.ended hnone hempty hended)
        | waiting hquiet => exact .starves hnone hquiet

/-- The turn has nothing to do but to look at the clock. -/
def Starved (attempt : Opening) : Prop :=
  match attempt.phase with
  | .dialing => attempt.link = .pending
  | .greeting | .replying => attempt.decoder.next.1 = .ok none ∧ attempt.transport.Quiet
  | .sending _ => attempt.transport.stalled = true

/-- The reply by which the switch lets a session in, with what it says about the channel. -/
inductive Accepts : Handshake → Frame → Option Event → Prop
  | inbound {credentials : Credentials} {frame : Frame} (hreply : checkAuthReply frame = .ok ()) :
      Accepts (.inbound credentials) frame none
  | outbound {frame : Frame} {event : Event} (hreply : channelData frame = .ok event) :
      Accepts .outbound frame (some event)

/-- The ways in which an opening fails. -/
inductive Fails (attempt : Opening) (now : Nat) : Fault → List Occurrence → Prop
  | credentials {credentials : Credentials} {fault : Fault} (hphase : attempt.phase = .dialing)
      (hmode : attempt.handshake = .inbound credentials)
      (hcheck : credentials.check = .error fault) : Fails attempt now fault []
  | unreachable {text : String} (hphase : attempt.phase = .dialing)
      (hlink : attempt.link = .unreachable text) : Fails attempt now (.io text) []
  | unsendable {credentials : Credentials} {frame : Frame} {decoder : Decoder}
      {cause : CommandFault} (hphase : attempt.phase = .greeting)
      (hmode : attempt.handshake = .inbound credentials)
      (hnext : attempt.decoder.next = (.ok (some frame), decoder))
      (hkind : frame.kind = .authRequest) (hwire : credentials.command.wire = .error cause) :
      Fails attempt now (.invalidCommand cause) [.took frame]
  | noGreeting {frame : Frame} {decoder : Decoder} (hphase : attempt.phase = .greeting)
      (hnext : attempt.decoder.next = (.ok (some frame), decoder))
      (hkind : frame.kind ≠ .authRequest ∨ attempt.handshake = .outbound) :
      Fails attempt now (.handshake (.unexpected .authRequest frame.summary)) [.took frame]
  | refused {credentials : Credentials} {frame : Frame} {decoder : Decoder} {fault : Fault}
      (hphase : attempt.phase = .replying) (hmode : attempt.handshake = .inbound credentials)
      (hnext : attempt.decoder.next = (.ok (some frame), decoder))
      (hreply : checkAuthReply frame = .error fault) : Fails attempt now fault [.took frame]
  | noChannel {frame : Frame} {decoder : Decoder} {fault : Fault}
      (hphase : attempt.phase = .replying) (hmode : attempt.handshake = .outbound)
      (hnext : attempt.decoder.next = (.ok (some frame), decoder))
      (hreply : channelData frame = .error fault) : Fails attempt now fault [.took frame]
  | unthreaded {frame : Frame} {decoder : Decoder} {data : Option Event} {text : String}
      (hphase : attempt.phase = .replying)
      (hnext : attempt.decoder.next = (.ok (some frame), decoder))
      (hreply : Accepts attempt.handshake frame data)
      (hrefused : attempt.threads.refusal? = some text) : Fails attempt now (.io text) [.took frame]
  | reading {fault : Fault} (hphase : attempt.phase = .greeting ∨ attempt.phase = .replying)
      (hfault : attempt.ReadFault fault) : Fails attempt now fault []
  | writing {rest : ByteArray} {text : String} (hphase : attempt.phase = .sending rest)
      (hcause : attempt.transport.writeFailure = some text ∨
        attempt.transport.shut = true ∧ text = Transport.writeAfterShutdown) :
      Fails attempt now (.io text) []
  | expires (hlate : attempt.deadline ≤ now) (hstarved : attempt.Starved) :
      Fails attempt now (.timeout attempt.settings.timeout) []

/-- What a turn can do, with what occurs by it. -/
inductive Effect (attempt : Opening) (now most : Nat) : OpeningTurn → List Occurrence → Prop
  | greets {credentials : Credentials} (hphase : attempt.phase = .dialing)
      (hmode : attempt.handshake = .inbound credentials) (hcheck : credentials.check = .ok ()) :
      Effect attempt now most (.goesOn { attempt with phase := .greeting }) []
  | connects {wire : String} (hphase : attempt.phase = .dialing)
      (hmode : attempt.handshake = .outbound) (hwire : Command.connect.wire = .ok wire) :
      Effect attempt now most (.goesOn { attempt with phase := .sending wire.toUTF8 }) []
  | answers {credentials : Credentials} {frame : Frame} {decoder : Decoder} {wire : String}
      (hphase : attempt.phase = .greeting) (hmode : attempt.handshake = .inbound credentials)
      (hnext : attempt.decoder.next = (.ok (some frame), decoder))
      (hkind : frame.kind = .authRequest) (hwire : credentials.command.wire = .ok wire) :
      Effect attempt now most (.goesOn { attempt with decoder, phase := .sending wire.toUTF8 })
        [.took frame]
  | hears {bytes : ByteArray} {transport : Transport} {decoder decoder' : Decoder}
      (hphase : attempt.phase = .greeting ∨ attempt.phase = .replying)
      (hnext : attempt.decoder.next = (.ok none, decoder))
      (hfeed : decoder.feed bytes = .ok decoder') (hsome : 0 < attempt.transport.available)
      (hsent : transport.sent = attempt.transport.sent)
      (hless : transport.available =
        attempt.transport.available - min most attempt.transport.available) :
      Effect attempt now most (.goesOn { attempt with transport, decoder := decoder' })
        [.heard bytes]
  | writes {rest : ByteArray} (hphase : attempt.phase = .sending rest) :
      Effect attempt now most
        (.goesOn { attempt with
          transport := { attempt.transport with
            sent := attempt.transport.sent ++ rest.extract 0 most }
          phase := if (rest.extract most rest.size).isEmpty then .replying
            else .sending (rest.extract most rest.size) })
        [.wrote (rest.extract 0 most)]
  | admitted {frame : Frame} {decoder : Decoder} {data : Option Event}
      (hphase : attempt.phase = .replying)
      (hnext : attempt.decoder.next = (.ok (some frame), decoder))
      (hreply : Accepts attempt.handshake frame data)
      (hthreads : attempt.threads.refusal? = none) :
      Effect attempt now most (.ready { attempt with decoder } data) [.took frame]
  | waits (hstarved : attempt.Starved) (hearly : now < attempt.deadline) :
      Effect attempt now most .waiting []
  | fails {fault : Fault} {occurred : List Occurrence}
      (hfails : attempt.Fails now fault occurred) :
      Effect attempt now most (.fails fault) occurred

/-- What is left to the clock. -/
theorem effect_starved (hstarved : attempt.Starved) :
    attempt.Effect now most
      (if attempt.deadline ≤ now then .fails (.timeout attempt.settings.timeout) else .waiting)
      [] := by
  by_cases hlate : attempt.deadline ≤ now
  · rw [if_pos hlate]
    exact .fails (.expires hlate hstarved)
  · rw [if_neg hlate]
    exact .waits hstarved (Nat.lt_of_not_le hlate)

theorem effect_dialing (hphase : attempt.phase = .dialing) :
    attempt.Effect now most (attempt.turn now most) (attempt.occurrences most) := by
  cases hmode : attempt.handshake with
  | inbound credentials =>
    cases hcheck : credentials.check with
    | error fault =>
      simp only [turn, occurrences, hphase, dial, hmode, hcheck]
      exact .fails (.credentials hphase hmode hcheck)
    | ok _ =>
      cases hlink : attempt.link with
      | pending =>
        simp only [turn, occurrences, hphase, dial, hmode, hcheck, hlink]
        exact effect_starved (by simpa only [Starved, hphase] using hlink)
      | unreachable text =>
        simp only [turn, occurrences, hphase, dial, hmode, hcheck, hlink]
        exact .fails (.unreachable hphase hlink)
      | stream | dialed =>
        simp only [turn, occurrences, hphase, dial, hmode, hcheck, hlink]
        exact .greets hphase hmode hcheck
  | outbound =>
    cases hlink : attempt.link with
    | pending =>
      simp only [turn, occurrences, hphase, dial, hmode, hlink]
      exact effect_starved (by simpa only [Starved, hphase] using hlink)
    | unreachable text =>
      simp only [turn, occurrences, hphase, dial, hmode, hlink]
      exact .fails (.unreachable hphase hlink)
    | stream | dialed =>
      simp only [turn, occurrences, hphase, dial, hmode, hlink]
      exact .connects hphase hmode rfl

theorem effect_greeting (hphase : attempt.phase = .greeting) :
    attempt.Effect now most (attempt.turn now most) (attempt.occurrences most) := by
  have hawaits := attempt.awaitFrame_awaits most greet
  simp only [turn, occurrences, hphase]
  generalize attempt.awaitFrame most greet = outcome at hawaits ⊢
  generalize attempt.awaitOccurrences most = occurred at hawaits ⊢
  cases hawaits with
  | @takes frame decoder hnext =>
    by_cases hgreeting : frame.kind = .authRequest
    · cases hmode : attempt.handshake with
      | inbound credentials =>
        simp only [greet, hmode, hgreeting, send]
        cases hwire : credentials.command.wire with
        | ok wire => exact .answers hphase hmode hnext hgreeting hwire
        | error cause => exact .fails (.unsendable hphase hmode hnext hgreeting hwire)
      | outbound =>
        simp only [greet, hmode]
        exact .fails (.noGreeting hphase hnext (Or.inr hmode))
    · have hgreet : greet { attempt with decoder } frame =
          .fails (.handshake (.unexpected .authRequest frame.summary)) := by
        unfold greet
        split
        · next hkind => exact absurd hkind hgreeting
        · rfl
      simp only [hgreet]
      exact .fails (.noGreeting hphase hnext (Or.inl hgreeting))
  | hears hnext hfeed hsome hsent hless =>
    exact .hears (Or.inl hphase) hnext hfeed hsome hsent hless
  | starves hnext hquiet =>
    exact effect_starved (by simpa only [Starved, hphase] using ⟨hnext, hquiet⟩)
  | fails hfault => exact .fails (.reading (Or.inl hphase) hfault)

theorem effect_sending {rest : ByteArray} (hphase : attempt.phase = .sending rest) :
    attempt.Effect now most (attempt.turn now most) (attempt.occurrences most) := by
  have hwrites := attempt.transport.write_writes (rest.extract 0 most)
  simp only [turn, occurrences, hphase, writeOn]
  generalize attempt.transport.write (rest.extract 0 most) = written at hwrites ⊢
  obtain ⟨outcome, transport⟩ := written
  cases hwrites with
  | waiting hstalled =>
    exact effect_starved (by simpa only [Starved, hphase] using hstalled)
  | failed hcause => exact .fails (.writing hphase hcause)
  | written => exact .writes hphase

/-- An opening that the switch has accepted is ready, unless there is no thread to be had. -/
theorem conclude_cases (attempt : Opening) (data : Option Event) :
    (attempt.threads.refusal? = none ∧ attempt.conclude data = .ready attempt data) ∨
      ∃ text, attempt.threads.refusal? = some text ∧ attempt.conclude data = .fails (.io text) := by
  cases hthreads : attempt.threads.refusal? with
  | none => exact Or.inl ⟨rfl, by simp only [conclude, hthreads]⟩
  | some text => exact Or.inr ⟨text, rfl, by simp only [conclude, hthreads]⟩

theorem conclude_ne_waiting (attempt : Opening) (data : Option Event) :
    attempt.conclude data ≠ .waiting := by
  rcases attempt.conclude_cases data with ⟨-, hready⟩ | ⟨text, -, hfails⟩
  · simp [hready]
  · simp [hfails]

theorem takeReply_ne_waiting (attempt : Opening) (frame : Frame) :
    attempt.takeReply frame ≠ .waiting := by
  unfold takeReply
  split
  · split
    · exact attempt.conclude_ne_waiting none
    · simp
  · split
    · next event _ => exact attempt.conclude_ne_waiting (some event)
    · simp

/-- The frame that is at hand is taken as the reply, whatever the time. -/
theorem turn_of_reply {frame : Frame} {decoder : Decoder} (hphase : attempt.phase = .replying)
    (hnext : attempt.decoder.next = (.ok (some frame), decoder)) (now most : Nat) :
    attempt.turn now most = { attempt with decoder }.takeReply frame := by
  have htakes : attempt.awaitFrame most takeReply = { attempt with decoder }.takeReply frame := by
    simp only [awaitFrame, hnext]
  have hover := takeReply_ne_waiting { attempt with decoder } frame
  generalize { attempt with decoder }.takeReply frame = outcome at htakes hover ⊢
  unfold turn
  rw [hphase]
  dsimp only
  rw [htakes]
  cases outcome with
  | waiting => exact absurd rfl hover
  | _ => rfl

theorem effect_replying (hphase : attempt.phase = .replying) :
    attempt.Effect now most (attempt.turn now most) (attempt.occurrences most) := by
  have hawaits := attempt.awaitFrame_awaits most takeReply
  simp only [turn, occurrences, hphase]
  generalize attempt.awaitFrame most takeReply = outcome at hawaits ⊢
  generalize attempt.awaitOccurrences most = occurred at hawaits ⊢
  cases hawaits with
  | @takes frame decoder hnext =>
    cases hmode : attempt.handshake with
    | inbound credentials =>
      simp only [takeReply, hmode]
      cases hreply : checkAuthReply frame with
      | ok _ =>
        have haccepts : Accepts attempt.handshake frame none := hmode ▸ .inbound hreply
        rcases conclude_cases { attempt with decoder } none with
          ⟨hthreads, hready⟩ | ⟨text, hrefused, hfails⟩
        · simp only [hready]
          exact .admitted hphase hnext haccepts hthreads
        · simp only [hfails]
          exact .fails (.unthreaded hphase hnext haccepts hrefused)
      | error fault => exact .fails (.refused hphase hmode hnext hreply)
    | outbound =>
      simp only [takeReply, hmode]
      cases hreply : channelData frame with
      | ok event =>
        have haccepts : Accepts attempt.handshake frame (some event) := hmode ▸ .outbound hreply
        rcases conclude_cases { attempt with decoder } (some event) with
          ⟨hthreads, hready⟩ | ⟨text, hrefused, hfails⟩
        · simp only [hready]
          exact .admitted hphase hnext haccepts hthreads
        · simp only [hfails]
          exact .fails (.unthreaded hphase hnext haccepts hrefused)
      | error fault => exact .fails (.noChannel hphase hmode hnext hreply)
  | hears hnext hfeed hsome hsent hless =>
    exact .hears (Or.inr hphase) hnext hfeed hsome hsent hless
  | starves hnext hquiet =>
    exact effect_starved (by simpa only [Starved, hphase] using ⟨hnext, hquiet⟩)
  | fails hfault => exact .fails (.reading (Or.inr hphase) hfault)

theorem turn_effect (attempt : Opening) (now most : Nat) :
    attempt.Effect now most (attempt.turn now most) (attempt.occurrences most) := by
  cases hphase : attempt.phase with
  | dialing => exact effect_dialing hphase
  | greeting => exact effect_greeting hphase
  | sending rest => exact effect_sending hphase
  | replying => exact effect_replying hphase

end Opening

end EventSocket
