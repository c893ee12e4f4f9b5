import EventSocket.Proofs.Delivery.Lanes
import EventSocket.Proofs.Session.Preservation
import EventSocket.Proofs.Session.Reach

/-!
The end of a session. Only the reader can end it, and only once; callers, the network and the
listeners leave its state alone. From then on no frame is handed on any more, and a command that is
submitted is refused at once.
-/

namespace EventSocket

/-- Between the two no event has been handed to the dispatcher, not even one to be dropped. -/
structure Dispatcher.Unfed (before after : Dispatcher) : Prop where
  events : ∀ kind, (after.lane kind).events <:+ (before.lane kind).events
  dropped : after.dropped = before.dropped

namespace Dispatcher

variable {dispatcher dispatcher' : Dispatcher}

theorem unfed_refl (dispatcher : Dispatcher) : dispatcher.Unfed dispatcher :=
  ⟨fun _ => List.suffix_rfl, rfl⟩

theorem unfed_deliver (dispatcher : Dispatcher) (listeners : List Listener) (audience : Audience) :
    dispatcher.Unfed (dispatcher.deliver listeners audience).1 := by
  refine ⟨?_, rfl⟩
  intro kind
  cases kind with
  | general => exact (Lane.queue_deliver ..).filterMap _
  | jobs => exact (Lane.queue_deliver ..).filterMap _

theorem unfed_pushEnding {kind : LaneKind} {reason : EndReason}
    (h : dispatcher.pushEnding kind reason = some dispatcher') : dispatcher.Unfed dispatcher' := by
  unfold pushEnding at h
  split at h
  · cases h
  · obtain rfl := Option.some.inj h
    refine ⟨?_, by cases kind <;> rfl⟩
    intro kind'
    have hevents : ((dispatcher.push kind (.ending reason)).lane kind').events =
        (dispatcher.lane kind').events := by
      cases kind <;> cases kind' <;> simp [push, setLane, lane, Lane.push, Lane.events,
        LaneItem.event?]
    exact hevents ▸ List.suffix_rfl

end Dispatcher

namespace Pending

theorem answers_perform_of_none (pending : Pending) {action : SlotAction}
    (hnone : action.reply? = none) : (pending.perform action).answers = pending.answers := by
  cases action with
  | register id =>
    by_cases hclosed : pending.closed <;> simp [perform, register, answers, hclosed]
  | withdraw id =>
    by_cases hmem : id ∈ pending.waiting <;> simp [perform, withdraw, answers, hmem]
  | resolve reply => cases hnone
  | failAll => simp [perform, failAll, answers]

theorem answers_run_of_nil (pending : Pending) {actions : List SlotAction}
    (hnone : replies actions = []) : (pending.run actions).answers = pending.answers := by
  induction actions generalizing pending with
  | nil => rfl
  | cons action actions ih =>
    rw [replies_cons, List.append_eq_nil_iff, Option.toList_eq_nil_iff] at hnone
    rw [run_cons, ih _ hnone.2, answers_perform_of_none _ hnone.1]

end Pending

/-- The reader has ended the session, for this reason. -/
def ReaderPhase.Past (reason : EndReason) : ReaderPhase → Prop
  | .running => False
  | .hangingUp reason' _ | .failing reason' | .ending reason' _ => reason' = reason
  | .stopped => True

/-- The request sends its command, if the session takes it. -/
def Request.Submits (request : Request) : Prop :=
  request ≠ .close ∧ request.refusal? = none ∧ ∃ command, request.command? = some command

namespace Session

variable {session session' : Session} {caller : Caller} {number now most : Nat} {move : Move}
  {reason : EndReason} {frame : Frame}

/-- Nothing has happened to the session that its reader or the dispatcher would notice. -/
structure Aside (session session' : Session) : Prop where
  state : session'.state = session.state
  reader : session'.reader = session.reader
  dispatcher : session'.dispatcher = session.dispatcher

theorem aside_call (session : Session) (number : Nat) (request : Request) :
    session.Aside (session.call number request) := by
  obtain ⟨_, _, _, _, hreach⟩ := session.call_reach number request
  rw [hreach]
  exact ⟨rfl, rfl, rfl⟩

theorem aside_callerTurn (h : session.callerTurn now most caller = some session') :
    session.Aside session' := by
  obtain ⟨_, _, _, _, _, rfl, -⟩ := callerTurn_reach h
  exact ⟨rfl, rfl, rfl⟩

/-- What a move does to the life of a session. -/
inductive Lives (session session' : Session) : Prop
  | goesOn (hstate : session'.state = session.state)
      (hrunning : session.reader = .running → session'.reader = .running)
      (hpast : ∀ reason, session.reader.Past reason → session'.reader.Past reason) :
      Lives session session'
  | ends {reason : EndReason} (hrunning : session.reader = .running)
      (hstate : session'.state = .closed reason) (hpast : session'.reader.Past reason) :
      Lives session session'

theorem lives_of_eq (hstate : session'.state = session.state)
    (hreader : session'.reader = session.reader) : session.Lives session' :=
  .goesOn hstate (fun hrunning => hreader.trans hrunning) (fun _ hpast => hreader ▸ hpast)

theorem lives_endWith (session : Session) (hrunning : session.reader = .running) (now : Nat)
    (reason : EndReason) : session.Lives (session.endWith now reason) :=
  .ends hrunning rfl rfl

theorem Routed.lives {frame : Frame} (h : session.Routed now frame session')
    (hrunning : session.reader = .running) : session.Lives session' := by
  cases h with
  | replies | dispatches | ignores => exact lives_of_eq rfl rfl
  | unreadable | notices => exact lives_endWith session hrunning now _

theorem Reading.lives (h : session.Reading now most session')
    (hrunning : session.reader = .running) : session.Lives session' := by
  cases h with
  | takes => exact lives_of_eq rfl rfl
  | heeds | refuses => exact .ends hrunning rfl rfl
  | fails | ends => exact lives_endWith session hrunning now _

theorem Lives.of_decoder {decoder : Decoder}
    (h : ({ session with decoder } : Session).Lives session') : session.Lives session' := by
  cases h with
  | goesOn hstate hrunning hpast => exact .goesOn hstate hrunning hpast
  | ends hrunning hstate hpast => exact .ends hrunning hstate hpast

theorem lives_readerTurn (h : session.readerTurn now most = some session') :
    session.Lives session' := by
  cases readerTurn_goes h with
  | @routes frame decoder hrunning =>
    exact (({ session with decoder }.route_routed now frame).lives hrunning).of_decoder
  | reads hrunning _ hreading => exact (hreading.lives hrunning).of_decoder
  | breaks hrunning => exact .ends hrunning rfl rfl
  | shuts hreader | leaves hreader | drains hreader | endsGeneral hreader | endsJobs hreader =>
    -- Past its end, a session stays past it for the same reason.
    exact .goesOn rfl (by simp [hreader]) (by simp [hreader, ReaderPhase.Past])

theorem lives_perform (h : session.perform move = some session') : session.Lives session' := by
  cases moves_of_perform h with
  | call number request =>
    have haside := aside_call session number request
    exact lives_of_eq haside.state haside.reader
  | caller hfound hturn =>
    have haside := aside_callerTurn hturn
    exact lives_of_eq haside.state haside.reader
  | reader hturn => exact lives_readerTurn hturn
  | abandon | network | deliver => exact lives_of_eq rfl rfl

/-- State and reader of a session agree about its end. -/
inductive Living (session : Session) : Prop
  | ready (hstate : session.state = .ready) (hreader : session.reader = .running) : Living session
  | closed {reason : EndReason} (hstate : session.state = .closed reason)
      (hreader : session.reader.Past reason) : Living session

theorem Living.perform (h : session.Living) (hmove : session.perform move = some session') :
    session'.Living := by
  cases lives_perform hmove with
  | goesOn hstate hrunning hpast =>
    cases h with
    | ready hready hreader => exact .ready (hstate.trans hready) (hrunning hreader)
    | closed hclosed hreader => exact .closed (hstate.trans hclosed) (hpast _ hreader)
  | ends hrunning hstate hpast => exact .closed hstate hpast

theorem Living.not_running (h : session.Living) (hclosed : session.state = .closed reason) :
    session.reader ≠ .running := by
  intro hrunning
  cases h with
  | ready hready => simp [hready] at hclosed
  | closed hstate hpast =>
    rw [hrunning] at hpast
    exact hpast

/-- Only the reader hands frames on, and only until it has ended the session. -/
def Comes (session : Session) (move : Move) : Happening → Prop
  | .called number => ∃ request, move = .call number request
  | .routed _ => session.reader = .running
  | _ => True

theorem comes_of_mem {happening : Happening} (h : happening ∈ session.happenings move) :
    session.Comes move happening := by
  cases happens_of_mem h with
  | called number request => exact ⟨request, rfl⟩
  | routed hrunning => exact hrunning
  | _ => trivial

theorem pending_call (session : Session) (number : Nat) (request : Request) :
    (session.call number request).pending = session.pending := by
  obtain ⟨_, _, _, _, hreach⟩ := session.call_reach number request
  rw [hreach]

/-- Whatever becomes of the commands that wait for replies is on the log. -/
theorem pending_perform (h : session.perform move = some session') :
    session'.pending = session.pending.run (slotActions (session.happenings move)) := by
  cases moves_of_perform h with
  | call number request => exact pending_call session number request
  | caller hfound hturn =>
    rw [(callerTurn_effect hturn).pending]
    simp only [happenings, hfound]
  | reader hturn => exact pending_readerTurn hturn
  | abandon number =>
    rw [happenings, (session.abandonHappenings_quiet number).2.1]
    rfl
  | network | deliver => rfl

theorem unfed_readerTurn (hreader : session.reader ≠ .running)
    (h : session.readerTurn now most = some session') :
    session.dispatcher.Unfed session'.dispatcher := by
  cases readerTurn_goes h with
  | routes hrunning | reads hrunning | breaks hrunning => exact absurd hrunning hreader
  | shuts | leaves | drains => exact session.dispatcher.unfed_refl
  | endsGeneral _ hpush | endsJobs _ hpush => exact Dispatcher.unfed_pushEnding hpush

/-- Nothing of what the switch has sent is handed on by the move. -/
structure HandsOnNothing (session session' : Session) : Prop where
  answers : session'.pending.answers = session.pending.answers
  unfed : session.dispatcher.Unfed session'.dispatcher

theorem handsOnNothing_perform (hreader : session.reader ≠ .running)
    (h : session.perform move = some session') : session.HandsOnNothing session' where
  answers := by
    rw [pending_perform h]
    refine Pending.answers_run_of_nil _ ?_
    have hframes : framesIn (session.happenings move) = [] := by
      rw [framesIn, List.filterMap_eq_nil_iff]
      intro happening hmem
      cases happening with
      | routed frame => exact absurd (comes_of_mem hmem) hreader
      | _ => rfl
    rw [replies_slotActions, hframes, List.filter_nil]
  unfed := by
    cases moves_of_perform h with
    | call number request =>
      exact (aside_call session number request).dispatcher ▸ session.dispatcher.unfed_refl
    | caller hfound hturn =>
      exact (aside_callerTurn hturn).dispatcher ▸ session.dispatcher.unfed_refl
    | reader hturn => exact unfed_readerTurn hreader hturn
    | abandon | network => exact session.dispatcher.unfed_refl
    | deliver listeners audience => exact session.dispatcher.unfed_deliver listeners audience

/-- A command that is submitted behind the end takes no number and no place in any line. -/
theorem call_of_closed (hclosed : session.state = .closed reason)
    (hfresh : number ∉ session.callers.map Caller.number) {request : Request}
    (hsubmits : request.Submits) :
    session.call number request =
      { session with
        callers := session.callers ++ [⟨number, request, .told (.error .connectionClosed)⟩] } := by
  obtain ⟨hclose, hrefusal, command, hcommand⟩ := hsubmits
  have hcallers : (({ session with
      callers := session.callers ++ [⟨number, request, .watching⟩] } : Session).setPhase number
        (.told (.error .connectionClosed))).callers =
      session.callers ++ [⟨number, request, .told (.error .connectionClosed)⟩] :=
    callers_setPhase_new hfresh rfl _
  unfold call
  dsimp only
  split
  · cases hcommand
  · cases hcommand
  · exact absurd rfl hclose
  · rw [hrefusal, hcommand]
    simp only [setPhase] at hcallers
    simp only [submit, hclosed, tell, setPhase, hcallers]

/-- Behind the end nobody lines up any more to write a command. -/
theorem callers_call_of_closed (hclosed : session.state = .closed reason)
    (hfresh : number ∉ session.callers.map Caller.number) (request : Request) :
    ∃ phase, (session.call number request).callers =
        session.callers ++ [⟨number, request, phase⟩] ∧
      ∀ id wire, phase ≠ .queued id wire := by
  have hnew (between : Session) (phase : CallerPhase)
      (hcallers : between.callers = session.callers ++ [⟨number, request, .watching⟩]) :
      (between.setPhase number phase).callers = session.callers ++ [⟨number, request, phase⟩] :=
    callers_setPhase_new hfresh hcallers phase
  unfold call
  dsimp only
  split
  · exact ⟨.watching, rfl, by simp⟩
  · exact ⟨.detaching, hnew _ _ rfl, by simp⟩
  · split
    · exact ⟨_, hnew _ _ rfl, by simp⟩
    · simp only [submit, hclosed, tell]
      exact ⟨_, hnew _ _ rfl, by simp⟩
  · split
    · exact ⟨_, hnew _ _ rfl, by simp⟩
    · simp only [submit, hclosed, tell]
      exact ⟨_, hnew _ _ rfl, by simp⟩
    · exact ⟨_, hnew _ _ rfl, by simp⟩

/-- Nobody of this number is in line to write a command. -/
def NotInLine (session : Session) (number : Nat) : Prop :=
  ∀ caller ∈ session.callers, caller.number = number → ∀ id wire, caller.phase ≠ .queued id wire

theorem CallerEffect.turned {happened : List Happening}
    (h : session.CallerEffect caller session' happened) :
    ∃ phase, session.Turned caller phase session' ∧ ∀ id wire, phase ≠ .queued id wire := by
  cases h with
  | enters hphase hserves hopen hturned => exact ⟨_, hturned, by simp⟩
  | writes hphase hrest hturned => exact ⟨_, hturned, by simp⟩
  | completes hphase hrest hturned => exact ⟨_, hturned, by simp⟩
  | fails hphase hturned => exact ⟨_, hturned, by simp⟩
  | rests hrests hturned => exact ⟨_, hturned, hrests.not_queued⟩

theorem CallerEffect.notInLine {happened : List Happening}
    (heffect : session.CallerEffect caller session' happened) (hcaller : caller ∈ session.callers)
    (hnumbers : (session.callers.map Caller.number).Nodup) (h : session.NotInLine number) :
    session'.NotInLine number ∧ Silent happened number := by
  obtain ⟨phase, hturned, hphase⟩ := heffect.turned
  constructor
  · intro other hother hnumber
    rcases hturned.mem hnumbers hcaller hother with ⟨hold, -⟩ | rfl
    · exact h other hold hnumber
    · exact hphase
  · cases heffect with
    | enters hqueued =>
      rintro send hsend rfl
      obtain rfl : send = _ := by simpa [Happening.send?] using hsend
      exact h caller hcaller rfl _ _ hqueued
    | _ => simp [Silent, Happening.send?]

/-- Whoever is not in line gets there only by a call, and puts nothing on the wire meanwhile. -/
theorem NotInLine.perform {start : Session} {log : List Happening}
    (h : session.NotInLine number) (hcoherent : Coherent start log session)
    (hfresh : move.Fresh log) (hmove : session.perform move = some session')
    (hcalled : .called number ∉ session.happenings move) :
    session'.NotInLine number ∧ Silent (session.happenings move) number := by
  cases moves_of_perform hmove with
  | call number' request =>
    have hnobody := hcoherent.numbered.not_mem_numbers hfresh
    obtain ⟨phase, hcallers, -⟩ := (call_effect hnobody request).callers
    refine ⟨?_, by simp [Silent, happenings, Happening.send?]⟩
    intro caller hcaller hnumber
    rw [hcallers, List.mem_append, List.mem_singleton] at hcaller
    rcases hcaller with hcaller | rfl
    · exact h caller hcaller hnumber
    · exact absurd (hnumber ▸ List.mem_singleton_self _) hcalled
  | caller hfound hturn =>
    obtain ⟨hcaller, -⟩ := mem_of_caller? hfound
    simp only [happenings, hfound]
    exact (callerTurn_effect hturn).notInLine hcaller hcoherent.numbered.callers h
  | reader hturn =>
    have hcallers := (undisturbed_readerTurn hturn).callers
    refine ⟨?_, by simp [Silent, happenings, session.sends_readerHappenings]⟩
    unfold NotInLine
    rwa [hcallers]
  | abandon number' =>
    refine ⟨?_, by simp [Silent, happenings, (session.abandonHappenings_quiet number').1]⟩
    exact fun caller hcaller => h caller (List.mem_filter.mp hcaller).1
  | network | deliver => exact ⟨h, by simp [Silent, happenings]⟩

theorem Coherent.notInLine_call {start : Session} {log : List Happening}
    (h : Coherent start log session) (hclosed : session.state = .closed reason)
    (hfresh : .called number ∉ log) (request : Request) :
    (session.call number request).NotInLine number ∧ Silent (log ++ [.called number]) number := by
  have hnobody := h.numbered.not_mem_numbers hfresh
  obtain ⟨phase, hcallers, hphase⟩ := callers_call_of_closed hclosed hnobody request
  constructor
  · intro caller hcaller hnumber
    rw [hcallers, List.mem_append, List.mem_singleton] at hcaller
    rcases hcaller with hold | rfl
    · exact absurd (List.mem_map.mpr ⟨caller, hold, hnumber⟩) hnobody
    · exact hphase
  · rintro send hsend rfl
    have hold : send ∈ sends log := by simpa [Happening.send?] using hsend
    exact hfresh (h.numbered.sendersCalled send hold)

end Session

end EventSocket
