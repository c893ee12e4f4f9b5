import EventSocket.Proofs.Session.Leaving

/-!
What ends a session, and what is said of it. The reader ends a session for one of a few causes. A
broken protocol is told as such; any other cause is put down to whoever has asked for the end, if
anybody has. Whoever waits for the end is told the same.
-/

namespace EventSocket

/-- What makes the reader end a session. That the reader itself panics is left out: nothing that it
calls does. -/
inductive EndCause where
  /-- Bytes that are no frame. -/
  | undecodable (fault : Fault)
  /-- Bytes for which there is no room. -/
  | refused (fault : Fault)
  /-- A frame whose event cannot be read. -/
  | unreadable (fault : Fault)
  | notice
  | hungUp
  | readFailed (text : String)
  /-- The switch is not waited for any longer. -/
  | givenUp
  deriving DecidableEq

namespace EndCause

/-- How the protocol has been broken, if it has. -/
def fault? : EndCause → Option Fault
  | undecodable fault | refused fault | unreadable fault => some fault
  | notice | hungUp | readFailed _ | givenUp => none

/-- What is said if nobody has asked for the end. -/
def observed : EndCause → EndReason
  | undecodable fault | refused fault | unreadable fault => .protocolError fault.message
  | notice => .serverNotice
  | hungUp => .connectionClosed
  | readFailed text => .ioError text
  | givenUp => .clientRequested

def reason (asked : Bool) (cause : EndCause) : EndReason :=
  match cause.fault? with
  | some fault => .protocolError fault.message
  | none => if asked then .clientRequested else cause.observed

theorem reason_givenUp (asked : Bool) : givenUp.reason asked = .clientRequested := by
  cases asked <;> rfl

end EndCause

/-- Why a session ends by a frame, if it does. -/
def Frame.endCause? (frame : Frame) : Option EndCause :=
  match frame.kind with
  | .event =>
    match Event.ofFrame frame with
    | .ok _ => none
    | .error fault => some (.unreadable fault)
  | .disconnectNotice => if Session.lingers frame then none else some .notice
  | _ => none

/-- The request asks for the end of the session. -/
def Request.asksEnd : Request → Bool
  | close | disconnect => true
  | _ => false

def Move.asksEnd : Move → Bool
  | call _ request => request.asksEnd
  | _ => false

namespace Session

variable {session session' : Session} {caller : Caller} {number now most : Nat} {move : Move}
  {reason : EndReason} {frame : Frame}

/-- Why the session ends by a turn of its reader that finds no frame at hand, if it does. -/
def readCause? (session : Session) (most : Nat) : Option EndCause :=
  if session.heedsStop most then some .givenUp
  else
    match (session.transport.read most).1 with
    | .waiting => none
    | .read bytes =>
      match session.decoder.feed bytes with
      | .ok _ => none
      | .error fault => some (.refused fault)
    | .failed text => some (.readFailed text)
    | .ended => some .hungUp

/-- Why the session ends by the next turn of a running reader, if it does. -/
def endCause? (session : Session) (most : Nat) : Option EndCause :=
  match session.decoder.next with
  | (.error fault, _) => some (.undecodable fault)
  | (.ok (some frame), _) => frame.endCause?
  | (.ok none, decoder) => { session with decoder }.readCause? most

/-- The state that a cause leaves behind. -/
def stateAfter (session : Session) : Option EndCause → SessionState
  | some cause => .closed (cause.reason session.closeRequested)
  | none => session.state

theorem endReason_eq (session : Session) (cause : EndCause) (hfault : cause.fault? = none) :
    session.endReason cause.observed = cause.reason session.closeRequested := by
  simp [endReason, EndCause.reason, hfault]

theorem state_route (session : Session) (now : Nat) (frame : Frame) :
    (session.route now frame).state = session.stateAfter frame.endCause? := by
  cases hkind : frame.kind with
  | event =>
    simp only [route, Frame.endCause?, hkind]
    cases Event.ofFrame frame <;> rfl
  | disconnectNotice =>
    simp only [route, Frame.endCause?, hkind]
    split
    · rfl
    · exact congrArg SessionState.closed (session.endReason_eq .notice rfl)
  | _ => simp only [route, Frame.endCause?, hkind, stateAfter]

theorem Reading.state (h : session.Reading now most session') :
    session'.state = session.stateAfter (session.readCause? most) := by
  unfold readCause?
  cases h with
  | heeds hheeds =>
    rw [if_pos hheeds]
    exact congrArg SessionState.closed (EndCause.reason_givenUp _).symm
  | takes hheedless hread hfeed | refuses hheedless hread hfeed =>
    simp only [hheedless, hread, hfeed]
    rfl
  | fails hheedless hread =>
    simp only [hheedless, hread]
    exact congrArg SessionState.closed (session.endReason_eq (.readFailed _) rfl)
  | ends hheedless hread =>
    simp only [hheedless, hread]
    exact congrArg SessionState.closed (session.endReason_eq .hungUp rfl)

/-- A running reader publishes the reason that its cause has, or leaves the state alone. -/
theorem state_readerTurn (hrunning : session.reader = .running)
    (h : session.readerTurn now most = some session') :
    session'.state = session.stateAfter (session.endCause? most) := by
  unfold endCause?
  cases readerTurn_goes h with
  | @routes frame decoder _ hnext =>
    rw [hnext]
    exact state_route { session with decoder } now frame
  | reads _ hnext hreading =>
    rw [hnext]
    exact hreading.state
  | breaks _ hnext =>
    rw [hnext]
    rfl
  | shuts hreader | leaves hreader | drains hreader | endsGeneral hreader | endsJobs hreader =>
    rw [hrunning] at hreader
    cases hreader

theorem closed_perform (hliving : session.Living) (hclosed : session.state = .closed reason)
    (h : session.perform move = some session') : session'.state = .closed reason :=
  ((lives_perform h).stopped (hliving.not_running hclosed)).1.trans hclosed

/-- Nobody but the reader changes the state. -/
theorem state_of_ne_reader (hother : ∀ now most, move ≠ .reader now most)
    (h : session.perform move = some session') : session'.state = session.state := by
  cases moves_of_perform h with
  | call number request => exact (aside_call session number request).state
  | caller hfound hturn => exact (aside_callerTurn hturn).state
  | reader hturn => exact absurd rfl (hother _ _)
  | abandon | network | deliver => rfl

/-- A ready session stays ready until its reader meets a cause to end it. -/
theorem state_perform (hliving : session.Living) (hready : session.state = .ready)
    (h : session.perform move = some session') :
    session'.state = .ready ∨ ∃ now most cause, move = .reader now most ∧
      session.endCause? most = some cause ∧
        session'.state = .closed (cause.reason session.closeRequested) := by
  by_cases hreader : ∃ now most, move = .reader now most
  · obtain ⟨now, most, rfl⟩ := hreader
    have hrunning : session.reader = .running := by
      cases hliving with
      | ready _ hrunning => exact hrunning
      | closed hclosed => rw [hready] at hclosed; cases hclosed
    have hstate := state_readerTurn hrunning h
    cases hcause : session.endCause? most with
    | none => exact Or.inl (by rw [hstate, hcause, stateAfter, hready])
    | some cause => exact Or.inr ⟨now, most, cause, rfl, hcause, by rw [hstate, hcause, stateAfter]⟩
  · have hother : ∀ now most, move ≠ .reader now most :=
      fun now most hmove => hreader ⟨now, most, hmove⟩
    exact Or.inl ((state_of_ne_reader hother h).trans hready)

theorem closeRequested_submit (session : Session) (number : Nat) (command : Command) :
    (session.submit number command).closeRequested = session.closeRequested := by
  unfold submit
  split
  · cases command.wire <;> rfl
  · rfl
  · rfl

theorem closeRequested_call (hready : session.state = .ready) (number : Nat) (request : Request) :
    (session.call number request).closeRequested =
      (session.closeRequested || request.asksEnd) := by
  unfold call
  dsimp only
  split
  · simp [Request.asksEnd]
  · simp [Request.asksEnd, setPhase, joinLine]
  · have hopen : session.state.isTerminal = false := by rw [hready]; rfl
    rw [if_neg (by simp [hopen]), closeRequested_submit]
    simp [Request.asksEnd]
  · next hwait hdisconnect hclose =>
    have hasks : request.asksEnd = false := by cases request <;> simp_all [Request.asksEnd]
    rw [hasks, Bool.or_false]
    split
    · rfl
    · exact closeRequested_submit ..
    · rfl

/-- As long as a session is ready it remembers whether anybody has asked for its end. -/
theorem closeRequested_perform (hready : session.state = .ready)
    (h : session.perform move = some session') :
    session'.closeRequested = (session.closeRequested || move.asksEnd) := by
  cases moves_of_perform h with
  | call number request => exact closeRequested_call hready number request
  | caller hfound hturn =>
    obtain ⟨phase, hgoes⟩ := callerTurn_goes hturn
    exact hgoes.closeRequested.trans (Bool.or_false _).symm
  | reader hturn =>
    exact (observes_readerTurn hturn).closeRequested.trans (Bool.or_false _).symm
  | abandon | network | deliver => exact (Bool.or_false _).symm

theorem stopRequested_of_givenUp (h : session.endCause? most = some .givenUp) :
    session.stopRequested = true := by
  unfold endCause? at h
  split at h
  · cases h
  · unfold Frame.endCause? at h
    split at h
    · split at h <;> cases h
    · split at h <;> cases h
    · cases h
  · unfold readCause? at h
    split at h
    · next hheeds => exact stopRequested_of_heeds hheeds
    · split at h
      · cases h
      · split at h <;> cases h
      · cases h
      · cases h

/-- Whoever waits for the end goes on waiting or has been told the reason that is published. -/
def Faithful (session : Session) : Prop :=
  ∀ caller ∈ session.callers, caller.request = .waitClosed →
    caller.phase = .watching ∨
      ∃ reason, session.state = .closed reason ∧ caller.phase = .told (.ok (.ended reason))

theorem callerTurn_watching (hclosed : session.state = .closed reason)
    (hphase : caller.phase = .watching) (now most : Nat) :
    session.callerTurn now most caller =
      some (session.tell caller.number (.ok (.ended reason))) := by
  simp only [callerTurn, hphase, hclosed]

theorem callerTurn_of_ready (hready : session.state = .ready) (hphase : caller.phase = .watching)
    (now most : Nat) : session.callerTurn now most caller = none := by
  simp only [callerTurn, hphase, hready]

/-- By a turn of its own, whoever waits for the end is told its reason. -/
theorem told_of_waiting (hliving : session.Living)
    (hwaits : caller.phase = .watching ∨
      ∃ reason, session.state = .closed reason ∧ caller.phase = .told (.ok (.ended reason)))
    (h : session.callerTurn now most caller = some session') :
    ∃ reason, session.state = .closed reason ∧
      session' = session.tell caller.number (.ok (.ended reason)) := by
  rcases hwaits with hphase | ⟨reason, -, hphase⟩
  · cases hliving with
    | ready hready => rw [callerTurn_of_ready hready hphase] at h; cases h
    | @closed reason hclosed =>
      rw [callerTurn_watching hclosed hphase] at h
      exact ⟨reason, hclosed, (Option.some.inj h).symm⟩
  · simp [callerTurn, hphase] at h

theorem Faithful.of_callers (h : session.Faithful) (hcallers : session'.callers ⊆ session.callers)
    (hstate : ∀ reason, session.state = .closed reason → session'.state = .closed reason) :
    session'.Faithful := by
  intro caller hcaller hrequest
  refine (h caller (hcallers hcaller) hrequest).imp_right ?_
  rintro ⟨reason, hclosed, hphase⟩
  exact ⟨reason, hstate reason hclosed, hphase⟩

theorem Faithful.callerTurn (h : session.Faithful) (hliving : session.Living)
    (hnumbers : (session.callers.map Caller.number).Nodup) (hcaller : caller ∈ session.callers)
    (hturn : session.callerTurn now most caller = some session') : session'.Faithful := by
  intro other hother hrequest
  have hstate := (aside_callerTurn hturn).state
  by_cases hwaits : caller.request = .waitClosed
  · obtain ⟨reason, hclosed, rfl⟩ :=
      told_of_waiting hliving (h caller hcaller hwaits) hturn
    rcases (turned_setPhase session caller _).mem hnumbers hcaller hother with ⟨hold, -⟩ | rfl
    · exact h other hold hrequest
    · exact Or.inr ⟨reason, hclosed, rfl⟩
  · obtain ⟨phase, hgoes⟩ := callerTurn_goes hturn
    rcases hgoes.turned.mem hnumbers hcaller hother with ⟨hold, -⟩ | rfl
    · rw [hstate]
      exact h other hold hrequest
    · exact absurd hrequest hwaits

theorem Faithful.call (h : session.Faithful) (hfresh : number ∉ session.callers.map Caller.number)
    (request : Request) : (session.call number request).Faithful := by
  have hstate := (aside_call session number request).state
  obtain ⟨phase, hcallers, -⟩ := (call_effect hfresh request).callers
  intro caller hcaller hrequest
  rw [hcallers, List.mem_append, List.mem_singleton] at hcaller
  rcases hcaller with hold | rfl
  · rw [hstate]
    exact h caller hold hrequest
  · obtain rfl : request = .waitClosed := hrequest
    have hnew : session.callers ++ [⟨number, .waitClosed, .watching⟩] =
        session.callers ++ [⟨number, .waitClosed, phase⟩] := hcallers
    exact Or.inl (by simpa using hnew.symm)

theorem Faithful.perform (h : session.Faithful) (hliving : session.Living)
    (hnumbers : (session.callers.map Caller.number).Nodup)
    (hfresh : ∀ number request, move = .call number request →
      number ∉ session.callers.map Caller.number)
    (hmove : session.perform move = some session') : session'.Faithful := by
  have hclosed (reason : EndReason) (hstate : session.state = .closed reason) :=
    closed_perform hliving hstate hmove
  cases moves_of_perform hmove with
  | call number request => exact h.call (hfresh number request rfl) request
  | caller hfound hturn => exact h.callerTurn hliving hnumbers (mem_of_caller? hfound).1 hturn
  | _ => exact h.of_callers (callers_subset (by simp) (by simp) hmove) hclosed

end Session

end EventSocket
