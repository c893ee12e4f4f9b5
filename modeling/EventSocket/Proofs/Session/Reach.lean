import EventSocket.Session.Calling
import EventSocket.Session.Reading

/-!
What callers and the reader can reach. A new call touches nothing but the callers, the line and what
is remembered of them. A turn of a caller touches the commands that wait for replies and the own
stream as well. What a turn of the reader can come to is listed once for all that follows; a frame
leaves callers and transport alone.
-/

namespace EventSocket

/-- In line to end the own stream. -/
def CallerPhase.Ends : CallerPhase → Prop
  | shutting _ | detaching => True
  | _ => False

/-- The ways of this side with a transport. It ends the own stream only if it is allowed to. -/
inductive Transport.Used (before : Transport) (ends : Prop) : Transport → Prop
  | untouched : Used before ends before
  | written (bytes : ByteArray) : Used before ends (before.write bytes).2
  | shut (hends : ends) : Used before ends before.shutdown.2

namespace Session

variable {session session' : Session} {caller : Caller} {writer : Writer} {now most : Nat}

/-- What a session has come to when its own stream has been ended for a writer. -/
def afterShutdown (session : Session) (writer : Writer) : Session :=
  { session with transport := session.transport.shutdown.2 }.leaveLine writer

theorem shutdown_eq_some {ended : Except String Unit × Session}
    (h : session.shutdown writer = some ended) : ended.2 = session.afterShutdown writer := by
  unfold shutdown at h
  dsimp only at h
  split at h
  · cases h
  · exact congrArg Prod.snd (Option.some.inj h).symm
  · exact congrArg Prod.snd (Option.some.inj h).symm

theorem shutdown_eq_none :
    session.shutdown writer = none ↔ session.transport.shutdownStalled = true := by
  unfold shutdown Transport.shutdown
  cases session.transport.shutdownStalled with
  | true => simp
  | false => cases session.transport.shutdownFailure <;> simp

/-- A caller that takes leave stops being in line once the own stream has been ended for it or its
time has come. -/
theorem callerTurn_shutting {deadline : Nat} (hphase : caller.phase = .shutting deadline)
    (h : session.callerTurn now most caller = some session') :
    (session.writers.serves (.caller caller.number) = true ∧
      session' = (session.afterShutdown (.caller caller.number)).setPhase caller.number
        (.lingering (now + session.patience))) ∨
    (deadline ≤ now ∧
      session' = (session.leaveLine (.caller caller.number)).setPhase caller.number
        (.lingering (now + session.patience))) := by
  simp only [callerTurn, hphase] at h
  split at h
  · next hserves =>
    obtain ⟨ended, hshutdown, rfl⟩ := Option.map_eq_some_iff.mp h
    exact .inl ⟨hserves, by rw [shutdown_eq_some hshutdown]⟩
  · split at h
    · next hlate => exact .inr ⟨hlate, (Option.some.inj h).symm⟩
    · cases h

theorem callerTurn_detaching (hphase : caller.phase = .detaching)
    (h : session.callerTurn now most caller = some session') :
    session.writers.serves (.caller caller.number) = true ∧ ∃ result,
      (result = .ok .done ∨ ∃ text, result = .error (.io text)) ∧
        session' = (session.afterShutdown (.caller caller.number)).tell caller.number result := by
  simp only [callerTurn, hphase] at h
  split at h
  · next hserves =>
    split at h
    · cases h
    · next hshutdown =>
      obtain rfl := shutdown_eq_some hshutdown
      exact ⟨hserves, _, .inl rfl, (Option.some.inj h).symm⟩
    · next text _ hshutdown =>
      obtain rfl := shutdown_eq_some hshutdown
      exact ⟨hserves, _, .inr ⟨text, rfl⟩, (Option.some.inj h).symm⟩
  · cases h

/-- What comes of routing a frame. -/
inductive Routed (session : Session) (now : Nat) (frame : Frame) : Session → Prop
  | replies (hreply : frame.kind.isReply = true) :
      Routed session now frame { session with pending := session.pending.resolve frame }
  | dispatches {event : Event} (hkind : frame.kind = .event)
      (hevent : Event.ofFrame frame = .ok event) :
      Routed session now frame { session with dispatcher := session.dispatcher.dispatch event }
  | unreadable {fault : Fault} (hkind : frame.kind = .event)
      (hevent : Event.ofFrame frame = .error fault) :
      Routed session now frame (session.endWith now (.protocolError fault.message))
  | notices (hkind : frame.kind = .disconnectNotice) (hlingers : lingers frame = false) :
      Routed session now frame (session.endWith now (session.endReason .serverNotice))
  | ignores (hreply : frame.kind.isReply = false) (hevent : frame.kind ≠ .event)
      (hnotice : frame.kind = .disconnectNotice → lingers frame = true) :
      Routed session now frame session

theorem route_routed (session : Session) (now : Nat) (frame : Frame) :
    session.Routed now frame (session.route now frame) := by
  cases hkind : frame.kind with
  | commandReply | apiResponse =>
    simp only [route, hkind]
    exact .replies (by rw [hkind]; rfl)
  | event =>
    simp only [route, hkind]
    cases hevent : Event.ofFrame frame with
    | ok event => exact .dispatches hkind hevent
    | error fault => exact .unreadable hkind hevent
  | disconnectNotice =>
    simp only [route, hkind]
    cases hlingers : lingers frame with
    | true => exact .ignores (by rw [hkind]; rfl) (by simp [hkind]) fun _ => hlingers
    | false => exact .notices hkind hlingers
  | authRequest | logData | other =>
    simp only [route, hkind]
    exact .ignores (by rw [hkind]; rfl) (by simp [hkind]) (by simp [hkind])

/-- What comes of reading on: a request to stop is heeded, bytes are taken in, or there is no room
for them, or there are no more. -/
inductive Reading (session : Session) (now most : Nat) : Session → Prop
  | heeds (hheeds : session.heedsStop most = true) :
      Reading session now most
        ({ session with stopRequested := false }.endWith now .clientRequested)
  | takes {bytes : ByteArray} {decoder : Decoder} (hheedless : session.heedsStop most = false)
      (hread : (session.transport.read most).1 = .read bytes)
      (hfeed : session.decoder.feed bytes = .ok decoder) :
      Reading session now most
        { session with transport := (session.transport.read most).2, decoder }
  | refuses {bytes : ByteArray} {fault : Fault} (hheedless : session.heedsStop most = false)
      (hread : (session.transport.read most).1 = .read bytes)
      (hfeed : session.decoder.feed bytes = .error fault) :
      Reading session now most
        ({ session with transport := (session.transport.read most).2 }.endWith now
          (.protocolError fault.message))
  | fails {text : String} (hheedless : session.heedsStop most = false)
      (hread : (session.transport.read most).1 = .failed text) :
      Reading session now most (session.endWith now (session.endReason (.ioError text)))
  | ends (hheedless : session.heedsStop most = false)
      (hread : (session.transport.read most).1 = .ended) :
      Reading session now most (session.endWith now (session.endReason .connectionClosed))

theorem reading_of_readOn (h : session.readOn now most = some session') :
    session.Reading now most session' := by
  unfold readOn at h
  dsimp only at h
  split at h
  · next hheeds =>
    obtain rfl := Option.some.inj h
    exact .heeds hheeds
  · next hheedless =>
    have hheedless' := Bool.eq_false_iff.mpr hheedless
    split at h
    · cases h
    · next bytes hread =>
      split at h
      · next decoder hfeed =>
        obtain rfl := Option.some.inj h
        exact .takes hheedless' hread hfeed
      · next fault hfeed =>
        obtain rfl := Option.some.inj h
        exact .refuses hheedless' hread hfeed
    · next text hread =>
      obtain rfl := Option.some.inj h
      exact .fails hheedless' hread
    · next hread =>
      obtain rfl := Option.some.inj h
      exact .ends hheedless' hread

theorem readOn_eq_none : session.readOn now most = none ↔
    session.heedsStop most = false ∧ (session.transport.read most).1 = .waiting := by
  unfold readOn
  cases session.heedsStop most with
  | true => simp
  | false =>
    cases hread : (session.transport.read most).1 with
    | read bytes => cases hfeed : session.decoder.feed bytes <;> simp [hread, hfeed]
    | waiting | failed | ended => simp [hread]

/-- What a turn of the reader does. -/
inductive ReaderGoes (session : Session) (now most : Nat) : Session → Prop
  | routes {frame : Frame} {decoder : Decoder} (hrunning : session.reader = .running)
      (hnext : session.decoder.next = (.ok (some frame), decoder)) :
      ReaderGoes session now most ({ session with decoder }.route now frame)
  | reads {decoder : Decoder} {session' : Session} (hrunning : session.reader = .running)
      (hnext : session.decoder.next = (.ok none, decoder))
      (hreading : Reading { session with decoder } now most session') :
      ReaderGoes session now most session'
  | breaks {fault : Fault} {decoder : Decoder} (hrunning : session.reader = .running)
      (hnext : session.decoder.next = (.error fault, decoder)) :
      ReaderGoes session now most
        ({ session with decoder }.endWith now (.protocolError fault.message))
  | shuts {reason : EndReason} {deadline : Nat}
      (hreader : session.reader = .hangingUp reason deadline)
      (hserves : session.writers.serves .reader = true) :
      ReaderGoes session now most
        { session.afterShutdown .reader with reader := .failing reason }
  | leaves {reason : EndReason} {deadline : Nat}
      (hreader : session.reader = .hangingUp reason deadline) (hlate : deadline ≤ now) :
      ReaderGoes session now most { session.leaveLine .reader with reader := .failing reason }
  | drains {reason : EndReason} (hreader : session.reader = .failing reason) :
      ReaderGoes session now most
        { session with pending := session.pending.failAll, reader := .ending reason .general }
  | endsGeneral {reason : EndReason} {dispatcher : Dispatcher}
      (hreader : session.reader = .ending reason .general)
      (hpush : session.dispatcher.pushEnding .general reason = some dispatcher) :
      ReaderGoes session now most { session with dispatcher, reader := .ending reason .jobs }
  | endsJobs {reason : EndReason} {dispatcher : Dispatcher}
      (hreader : session.reader = .ending reason .jobs)
      (hpush : session.dispatcher.pushEnding .jobs reason = some dispatcher) :
      ReaderGoes session now most { session with dispatcher, reader := .stopped }

theorem readerTurn_goes (h : session.readerTurn now most = some session') :
    session.ReaderGoes now most session' := by
  unfold readerTurn at h
  split at h
  · next hreader =>
    split at h
    · next hnext =>
      obtain rfl := Option.some.inj h
      exact .routes hreader hnext
    · next hnext => exact .reads hreader hnext (reading_of_readOn h)
    · next hnext =>
      obtain rfl := Option.some.inj h
      exact .breaks hreader hnext
  · next hreader =>
    split at h
    · next hserves =>
      obtain ⟨ended, hshutdown, rfl⟩ := Option.map_eq_some_iff.mp h
      rw [shutdown_eq_some hshutdown]
      exact .shuts hreader hserves
    · split at h
      · next hlate =>
        obtain rfl := Option.some.inj h
        exact .leaves hreader hlate
      · cases h
  · next hreader =>
    obtain rfl := Option.some.inj h
    exact .drains hreader
  · next kind hreader =>
    obtain ⟨dispatcher, hpush, rfl⟩ := Option.map_eq_some_iff.mp h
    cases kind with
    | general => exact .endsGeneral hreader hpush
    | jobs => exact .endsJobs hreader hpush
  · cases h

theorem stopRequested_of_heeds (h : session.heedsStop most = true) :
    session.stopRequested = true :=
  (Bool.and_eq_true_iff.mp h).1

theorem submit_reach (session : Session) (number : Nat) (command : Command) :
    ∃ callers nextId writers,
      session.submit number command = { session with callers, nextId, writers } := by
  unfold submit
  split
  · split <;> exact ⟨_, _, _, rfl⟩
  · exact ⟨_, _, _, rfl⟩
  · exact ⟨_, _, _, rfl⟩

theorem call_reach (session : Session) (number : Nat) (request : Request) :
    ∃ callers nextId writers closeRequested, session.call number request =
      { session with callers, nextId, writers, closeRequested } := by
  have hsubmit (between : Session) (command : Command) {callers : List Caller}
      {closeRequested : Bool} (hbetween : between = { session with callers, closeRequested }) :
      ∃ callers nextId writers closeRequested, between.submit number command =
        { session with callers, nextId, writers, closeRequested } := by
    obtain ⟨callers', nextId, writers, hreach⟩ := between.submit_reach number command
    subst hbetween
    exact ⟨callers', nextId, writers, closeRequested, hreach⟩
  unfold call
  dsimp only
  split
  · exact ⟨_, _, _, _, rfl⟩
  · exact ⟨_, _, _, _, rfl⟩
  · split
    · exact ⟨_, _, _, _, rfl⟩
    · exact hsubmit _ .exit rfl
  · split
    · exact ⟨_, _, _, _, rfl⟩
    · exact hsubmit _ _ rfl
    · exact ⟨_, _, _, _, rfl⟩

/-- Nothing but this has changed by a turn of a caller. -/
def Touched (session : Session) (caller : Caller) (session' : Session) : Prop :=
  ∃ transport pending writers callers stopRequested,
    session' = { session with transport, pending, writers, callers, stopRequested } ∧
      session.transport.Used caller.phase.Ends transport

theorem takeReply_reach (session : Session) (now : Nat) (caller : Caller)
    (result : Except Fault Response) :
    ∃ writers callers, session.takeReply now caller result = { session with writers, callers } := by
  unfold takeReply
  split <;> exact ⟨_, _, rfl⟩

theorem callerTurn_reach (h : session.callerTurn now most caller = some session') :
    session.Touched caller session' := by
  -- A turn ends in a session that is written out, or has had its caller take a reply.
  have hdone {between : Session} (hsome : some between = some session')
      (htouched : session.Touched caller between) : session.Touched caller session' :=
    Option.some.inj hsome ▸ htouched
  have htakes (pending : Pending) (writers : Line Writer) (result : Except Fault Response) :
      session.Touched caller
        ({ session with pending, writers }.takeReply now caller result) := by
    obtain ⟨writers', callers, hreach⟩ :=
      takeReply_reach { session with pending, writers } now caller result
    exact ⟨_, _, _, _, _, hreach, .untouched⟩
  have hrests (pending : Pending) (writers : Line Writer) (callers : List Caller)
      (stopRequested : Bool) : session.Touched caller
        { session with pending, writers, callers, stopRequested } :=
    ⟨_, _, _, _, _, rfl, .untouched⟩
  have hturn := h
  unfold callerTurn at h
  dsimp only at h
  split at h
  · split at h
    · split at h
      · exact hdone h (hrests ..)
      · exact hdone h (htakes ..)
    · cases h
  · unfold writeOn at h
    dsimp only at h
    split at h
    · cases h
    · exact hdone h (htakes ..)
    · refine hdone h ?_
      split <;> exact ⟨_, _, _, _, _, rfl, .written _⟩
  · obtain ⟨settlement, -, rfl⟩ := Option.map_eq_some_iff.mp h
    exact htakes ..
  · next deadline hphase =>
    have hends : caller.phase.Ends := hphase ▸ trivial
    rcases callerTurn_shutting hphase hturn with ⟨-, rfl⟩ | ⟨-, rfl⟩
    · exact ⟨_, _, _, _, _, rfl, .shut hends⟩
    · exact hrests ..
  · split at h
    · exact hdone h (hrests ..)
    · split at h
      · exact hdone h (hrests ..)
      · cases h
  · split at h
    · exact hdone h (hrests ..)
    · cases h
  · next hphase =>
    have hends : caller.phase.Ends := hphase ▸ trivial
    obtain ⟨-, result, -, rfl⟩ := callerTurn_detaching hphase hturn
    exact ⟨_, _, _, _, _, rfl, .shut hends⟩
  · split at h
    · exact hdone h (hrests ..)
    · exact hdone h (hrests ..)
    · cases h
  · cases h

theorem Routed.reach {frame : Frame} (h : session.Routed now frame session') :
    ∃ state reader writers pending dispatcher,
      session' = { session with state, reader, writers, pending, dispatcher } := by
  cases h <;> exact ⟨_, _, _, _, _, rfl⟩

end Session

end EventSocket
