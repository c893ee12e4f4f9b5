import EventSocket.Proofs.Session.Ending

/-!
Leave-taking. Whoever closes a session waits for the answer to its command, ends the own stream and
waits for the session to end; if it does not, the reader is told to stop. A caller that has closed a
session with success leaves an ended one behind, and one that has not could not write its command.
-/

namespace EventSocket.Session

variable {session session' : Session} {caller : Caller} {phase : CallerPhase}
  {number now most : Nat} {move : Move} {frame : Frame} {reason : EndReason}

/-- The ways in which a caller goes on, with the deadlines that it sets. -/
inductive Proceeds (session : Session) (now : Nat) (caller : Caller) : CallerPhase → Prop
  | begins {id : CommandId} {wire : ByteArray} (hphase : caller.phase = .queued id wire) :
      Proceeds session now caller (.writing id wire)
  | refused {id : CommandId} {wire : ByteArray} (hphase : caller.phase = .queued id wire)
      (hother : caller.request ≠ .close) :
      Proceeds session now caller (.told (.error .connectionClosed))
  | refusedLeave {id : CommandId} {wire : ByteArray} (hphase : caller.phase = .queued id wire)
      (hclose : caller.request = .close) :
      Proceeds session now caller (.shutting (now + session.patience))
  | writes {id : CommandId} {rest rest' : ByteArray} (hphase : caller.phase = .writing id rest) :
      Proceeds session now caller (.writing id rest')
  | completes {id : CommandId} {rest : ByteArray} (hphase : caller.phase = .writing id rest) :
      Proceeds session now caller (.awaiting id)
  | fails {id : CommandId} {rest : ByteArray} {text : String}
      (hphase : caller.phase = .writing id rest) :
      Proceeds session now caller (.told (.error (.io text)))
  | hears {id : CommandId} {result : Except Fault Answer} (hphase : caller.phase = .awaiting id)
      (hother : caller.request ≠ .close) : Proceeds session now caller (.told result)
  | hearsLeave {id : CommandId} (hphase : caller.phase = .awaiting id)
      (hclose : caller.request = .close) :
      Proceeds session now caller (.shutting (now + session.patience))
  | shuts {deadline : Nat} (hphase : caller.phase = .shutting deadline) :
      Proceeds session now caller (.lingering (now + session.patience))
  | drops {deadline : Nat} (hphase : caller.phase = .lingering deadline) :
      Proceeds session now caller .dropping
  | lingered {deadline : Nat} (hphase : caller.phase = .lingering deadline)
      (hterminal : session.state.isTerminal = true) :
      Proceeds session now caller (.told (.ok .done))
  | dropped (hphase : caller.phase = .dropping) (hterminal : session.state.isTerminal = true) :
      Proceeds session now caller (.told (.ok .done))
  | detaches {result : Except Fault Answer} (hphase : caller.phase = .detaching) :
      Proceeds session now caller (.told result)
  | watches {answer : Answer} (hphase : caller.phase = .watching) :
      Proceeds session now caller (.told (.ok answer))

/-- What a session keeps from its opening to its end. -/
def terms (session : Session) : Nat × RegisterId := (session.patience, session.register)

/-- A caller goes on by a turn. The reader is told to stop by it only if it drops the session. -/
structure Goes (session : Session) (now : Nat) (caller : Caller) (phase : CallerPhase)
    (session' : Session) : Prop where
  proceeds : session.Proceeds now caller phase
  turned : session.Turned caller phase session'
  terms : session'.terms = session.terms
  closeRequested : session'.closeRequested = session.closeRequested
  stopRequested : session'.stopRequested = true ↔ session.stopRequested = true ∨ phase = .dropping

theorem goes_steadily (hproceeds : session.Proceeds now caller phase)
    (hturned : session.Turned caller phase session')
    (hterms : session'.terms = session.terms)
    (hclose : session'.closeRequested = session.closeRequested)
    (hstop : session'.stopRequested = session.stopRequested) (hphase : phase ≠ .dropping) :
    session.Goes now caller phase session' :=
  ⟨hproceeds, hturned, hterms, hclose, by rw [hstop, or_iff_left hphase]⟩

theorem goes_queued {id : CommandId} {wire : ByteArray} (hphase : caller.phase = .queued id wire)
    (h : session.callerTurn now most caller = some session') :
    ∃ phase, session.Goes now caller phase session' := by
  simp only [callerTurn, hphase] at h
  split at h
  · split at h
    · obtain rfl := Option.some.inj h
      exact ⟨_, goes_steadily (.begins hphase) ⟨rfl, rfl, fun _ _ hserves => hserves⟩
        rfl rfl rfl (by simp)⟩
    · by_cases hclose : caller.request = .close
      · rw [takeReply_of_close _ _ hclose (by simp)] at h
        obtain rfl := Option.some.inj h
        exact ⟨_, goes_steadily (.refusedLeave hphase hclose)
          ⟨rfl, rfl, fun _ hne hserves => Line.serves_join (serves_leaveLine hne hserves) _⟩
          rfl rfl rfl (by simp)⟩
      · rw [takeReply_of_ne _ _ hclose] at h
        obtain rfl := Option.some.inj h
        exact ⟨_, goes_steadily (.refused hphase hclose) ⟨rfl, rfl, fun _ => serves_leaveLine⟩
          rfl rfl rfl (by simp)⟩
  · cases h

theorem goes_writing {id : CommandId} {rest : ByteArray} (hphase : caller.phase = .writing id rest)
    (h : session.callerTurn now most caller = some session') :
    ∃ phase, session.Goes now caller phase session' := by
  simp only [callerTurn, hphase, writeOn] at h
  split at h
  · cases h
  · rw [takeReply_io] at h
    obtain rfl := Option.some.inj h
    exact ⟨_, goes_steadily (.fails hphase) ⟨rfl, rfl, fun _ => serves_leaveLine⟩
      rfl rfl rfl (by simp)⟩
  · obtain rfl := Option.some.inj h
    split
    · exact ⟨_, goes_steadily (.completes hphase) ⟨rfl, rfl, fun _ => serves_leaveLine⟩
      rfl rfl rfl (by simp)⟩
    · exact ⟨_, goes_steadily (.writes hphase) ⟨rfl, rfl, fun _ _ hserves => hserves⟩
      rfl rfl rfl (by simp)⟩

/-- The only failure that a settlement tells is that the connection is closed. -/
theorem goes_awaiting {id : CommandId} (hphase : caller.phase = .awaiting id)
    (h : session.callerTurn now most caller = some session') :
    ∃ phase, session.Goes now caller phase session' := by
  simp only [callerTurn, hphase] at h
  obtain ⟨settlement, -, rfl⟩ := Option.map_eq_some_iff.mp h
  by_cases hclose : caller.request = .close
  · rw [takeReply_of_close _ _ hclose fun _ => response_error]
    exact ⟨_, goes_steadily (.hearsLeave hphase hclose)
      ⟨rfl, rfl, fun _ _ hserves => Line.serves_join hserves _⟩ rfl rfl rfl (by simp)⟩
  · rw [takeReply_of_ne _ _ hclose]
    exact ⟨_, goes_steadily (.hears hphase hclose) ⟨rfl, rfl, fun _ _ hserves => hserves⟩
      rfl rfl rfl (by simp)⟩

theorem goes_shutting {deadline : Nat} (hphase : caller.phase = .shutting deadline)
    (h : session.callerTurn now most caller = some session') :
    ∃ phase, session.Goes now caller phase session' := by
  rcases callerTurn_shutting hphase h with ⟨-, rfl⟩ | ⟨-, rfl⟩
  · exact ⟨_, goes_steadily (.shuts hphase) ⟨rfl, rfl, fun _ => serves_leaveLine⟩
      rfl rfl rfl (by simp)⟩
  · exact ⟨_, goes_steadily (.shuts hphase) ⟨rfl, rfl, fun _ => serves_leaveLine⟩
      rfl rfl rfl (by simp)⟩

theorem goes_lingering {deadline : Nat} (hphase : caller.phase = .lingering deadline)
    (h : session.callerTurn now most caller = some session') :
    ∃ phase, session.Goes now caller phase session' := by
  simp only [callerTurn, hphase] at h
  split at h
  · next hterminal =>
    obtain rfl := Option.some.inj h
    exact ⟨_, goes_steadily (.lingered hphase hterminal) (turned_setPhase session caller _)
      rfl rfl rfl (by simp)⟩
  · split at h
    · obtain rfl := Option.some.inj h
      exact ⟨_, .drops hphase, ⟨rfl, rfl, fun _ _ hserves => hserves⟩, rfl, rfl,
        ⟨fun _ => Or.inr rfl, fun _ => rfl⟩⟩
    · cases h

theorem goes_dropping (hphase : caller.phase = .dropping)
    (h : session.callerTurn now most caller = some session') :
    ∃ phase, session.Goes now caller phase session' := by
  simp only [callerTurn, hphase] at h
  split at h
  · next hterminal =>
    obtain rfl := Option.some.inj h
    exact ⟨_, goes_steadily (.dropped hphase hterminal) (turned_setPhase session caller _)
      rfl rfl rfl (by simp)⟩
  · cases h

theorem goes_detaching (hphase : caller.phase = .detaching)
    (h : session.callerTurn now most caller = some session') :
    ∃ phase, session.Goes now caller phase session' := by
  obtain ⟨-, result, -, rfl⟩ := callerTurn_detaching hphase h
  exact ⟨_, goes_steadily (.detaches hphase) ⟨rfl, rfl, fun _ => serves_leaveLine⟩
    rfl rfl rfl (by simp)⟩

theorem goes_watching (hphase : caller.phase = .watching)
    (h : session.callerTurn now most caller = some session') :
    ∃ phase, session.Goes now caller phase session' := by
  simp only [callerTurn, hphase] at h
  split at h
  · obtain rfl := Option.some.inj h
    exact ⟨_, goes_steadily (.watches hphase) (turned_setPhase session caller _)
      rfl rfl rfl (by simp)⟩
  · obtain rfl := Option.some.inj h
    exact ⟨_, goes_steadily (.watches hphase) (turned_setPhase session caller _)
      rfl rfl rfl (by simp)⟩
  · cases h

theorem callerTurn_goes (h : session.callerTurn now most caller = some session') :
    ∃ phase, session.Goes now caller phase session' := by
  cases hphase : caller.phase with
  | queued id wire => exact goes_queued hphase h
  | writing id rest => exact goes_writing hphase h
  | awaiting id => exact goes_awaiting hphase h
  | shutting deadline => exact goes_shutting hphase h
  | lingering deadline => exact goes_lingering hphase h
  | dropping => exact goes_dropping hphase h
  | detaching => exact goes_detaching hphase h
  | watching => exact goes_watching hphase h
  | told result => simp [callerTurn, hphase] at h

/-- A session some time later: what has been asked of it has not been forgotten, and a request to
stop is either still to be noticed or has put an end to the session. -/
structure Later (session session' : Session) : Prop where
  closeRequested : session.closeRequested = true → session'.closeRequested = true
  terminal : session.state.isTerminal = true → session'.state.isTerminal = true
  stopped : session.stopRequested = true →
    session'.stopRequested = true ∨ session'.state.isTerminal = true

theorem later_of_eq (hclose : session.closeRequested = true → session'.closeRequested = true)
    (hstate : session'.state = session.state)
    (hstop : session.stopRequested = true → session'.stopRequested = true) :
    session.Later session' :=
  ⟨hclose, fun hterminal => hstate ▸ hterminal, fun hstopped => Or.inl (hstop hstopped)⟩

theorem Goes.later (h : session.Goes now caller phase session')
    (hstate : session'.state = session.state) : session.Later session' :=
  later_of_eq (fun hclose => h.closeRequested ▸ hclose) hstate
    fun hstopped => h.stopRequested.mpr (Or.inl hstopped)

/-- What the reader may do to the callers and to what they have asked for. That the client has asked
for the end is what it says only if that is so. -/
structure Observes (session session' : Session) : Prop where
  callers : session'.callers = session.callers
  terms : session'.terms = session.terms
  closeRequested : session'.closeRequested = session.closeRequested
  stopRequested : session'.stopRequested = session.stopRequested ∨
    session'.stopRequested = false ∧ session'.state.isTerminal = true
  asked : session'.state = .closed .clientRequested → session.state = .closed .clientRequested ∨
    session.closeRequested = true ∨ session.stopRequested = true

theorem observes_of_eq (hcallers : session'.callers = session.callers)
    (hterms : session'.terms = session.terms)
    (hclose : session'.closeRequested = session.closeRequested)
    (hstop : session'.stopRequested = session.stopRequested)
    (hstate : session'.state = session.state) : session.Observes session' :=
  ⟨hcallers, hterms, hclose, Or.inl hstop, fun hasked => Or.inl (hstate ▸ hasked)⟩

theorem observes_endWith (session : Session) (now : Nat)
    (hasked : reason = .clientRequested → session.closeRequested = true) :
    session.Observes (session.endWith now reason) :=
  ⟨rfl, rfl, rfl, Or.inl rfl,
    fun hstate => Or.inr (Or.inl (hasked (SessionState.closed.inj hstate)))⟩

theorem asked_of_endReason {observed : EndReason} (hobserved : observed ≠ .clientRequested)
    (h : session.endReason observed = .clientRequested) : session.closeRequested = true := by
  unfold endReason at h
  split at h
  · assumption
  · exact absurd h hobserved

theorem Routed.observes {frame : Frame} (h : session.Routed now frame session') :
    session.Observes session' := by
  cases h with
  | replies | dispatches | ignores => exact observes_of_eq rfl rfl rfl rfl rfl
  | unreadable => exact observes_endWith session now (by simp)
  | notices => exact observes_endWith session now (asked_of_endReason (by simp))

theorem Reading.observes (h : session.Reading now most session') : session.Observes session' := by
  cases h with
  | heeds hheeds =>
    have hstop := stopRequested_of_heeds hheeds
    exact ⟨rfl, rfl, rfl, Or.inr ⟨rfl, rfl⟩, fun _ => Or.inr (Or.inr hstop)⟩
  | takes => exact observes_of_eq rfl rfl rfl rfl rfl
  | refuses => exact ⟨rfl, rfl, rfl, Or.inl rfl, fun hstate => by cases hstate⟩
  | fails | ends => exact observes_endWith session now (asked_of_endReason (by simp))

theorem observes_readerTurn (h : session.readerTurn now most = some session') :
    session.Observes session' := by
  cases readerTurn_goes h with
  | @routes frame decoder =>
    obtain ⟨hcallers, hterms, hclose, hstop, hasked⟩ :=
      ({ session with decoder }.route_routed now frame).observes
    exact ⟨hcallers, hterms, hclose, hstop, hasked⟩
  | reads _ _ hreading =>
    obtain ⟨hcallers, hterms, hclose, hstop, hasked⟩ := hreading.observes
    exact ⟨hcallers, hterms, hclose, hstop, hasked⟩
  | breaks => exact ⟨rfl, rfl, rfl, Or.inl rfl, fun hstate => by cases hstate⟩
  | shuts | leaves | drains | endsGeneral | endsJobs => exact observes_of_eq rfl rfl rfl rfl rfl

/-- Unless somebody calls or takes a turn, nobody comes or goes on. -/
theorem callers_subset (hcall : ∀ number request, move ≠ .call number request)
    (hturn : ∀ number now most, move ≠ .caller number now most)
    (hmove : session.perform move = some session') : session'.callers ⊆ session.callers := by
  cases moves_of_perform hmove with
  | call number request => exact absurd rfl (hcall number request)
  | caller => exact absurd rfl (hturn _ _ _)
  | reader hreads => exact (observes_readerTurn hreads).callers ▸ List.Subset.refl _
  | abandon number => exact List.filter_sublist.subset
  | network | deliver => exact List.Subset.refl _

theorem Lives.terminal (h : session.Lives session') (hterminal : session.state.isTerminal = true) :
    session'.state.isTerminal = true := by
  cases h with
  | goesOn hstate => exact hstate ▸ hterminal
  | ends hrunning hstate => rw [hstate]; rfl

/-- A reader that has stopped stays so, and the state stays what it is. -/
theorem Lives.stopped (h : session.Lives session') (hreader : session.reader ≠ .running) :
    session'.state = session.state ∧ (session'.reader = .running ↔ session.reader = .running) := by
  have hpast : ∃ reason, session.reader.Past reason := by
    cases hphase : session.reader with
    | running => exact absurd hphase hreader
    | hangingUp reason | failing reason | ending reason => exact ⟨reason, rfl⟩
    | stopped => exact ⟨.serverNotice, trivial⟩
  cases h with
  | goesOn hstate hrunning hpast' =>
    obtain ⟨reason, hreason⟩ := hpast
    refine ⟨hstate, iff_of_false ?_ hreader⟩
    intro hrunning'
    have hreason' := hpast' reason hreason
    rw [hrunning'] at hreason'
    exact hreason'
  | ends hrunning => exact absurd hrunning hreader

theorem Living.past (h : session.Living) (hterminal : session.state.isTerminal = true) :
    session.reader ≠ .running := by
  cases hstate : session.state with
  | closed reason => exact h.not_running hstate
  | failed text =>
    cases h with
    | ready hready => rw [hstate] at hready; cases hready
    | closed hclosed => rw [hstate] at hclosed; cases hclosed
  | _ => simp [hstate, SessionState.isTerminal] at hterminal

theorem later_readerTurn (h : session.readerTurn now most = some session') :
    session.Later session' := by
  obtain ⟨-, -, hclose, hstop, -⟩ := observes_readerTurn h
  refine ⟨fun hasked => hclose ▸ hasked, (lives_readerTurn h).terminal, ?_⟩
  intro hstopped
  rcases hstop with hsame | ⟨-, hterminal⟩
  · exact Or.inl (hsame ▸ hstopped)
  · exact Or.inr hterminal

/-- What a caller has asked for agrees with where it stands, and with what has become of the session
by it. -/
def Suits (session : Session) (caller : Caller) : Prop :=
  match caller.phase with
  | .queued _ _ | .writing _ _ | .awaiting _ =>
    caller.request = .close → session.closeRequested = true
  | .shutting _ | .lingering _ => caller.request = .close ∧ session.closeRequested = true
  | .dropping => caller.request = .close ∧ session.closeRequested = true ∧
      (session.stopRequested = true ∨ session.state.isTerminal = true)
  | .detaching => caller.request = .disconnect
  | .watching => caller.request = .waitClosed
  | .told (.ok _) => caller.request = .close → session.state.isTerminal = true
  | .told (.error fault) => caller.request = .close → ∃ text, fault = .io text

theorem Suits.later (h : session.Suits caller) (hlater : session.Later session') :
    session'.Suits caller := by
  unfold Suits at h ⊢
  split
  · next hphase =>
    rw [hphase] at h
    exact fun hclose => hlater.closeRequested (h hclose)
  · next hphase =>
    rw [hphase] at h
    exact fun hclose => hlater.closeRequested (h hclose)
  · next hphase =>
    rw [hphase] at h
    exact fun hclose => hlater.closeRequested (h hclose)
  · next hphase =>
    rw [hphase] at h
    exact ⟨h.1, hlater.closeRequested h.2⟩
  · next hphase =>
    rw [hphase] at h
    exact ⟨h.1, hlater.closeRequested h.2⟩
  · next hphase =>
    rw [hphase] at h
    obtain ⟨hclose, hasked, hstop⟩ := h
    refine ⟨hclose, hlater.closeRequested hasked, ?_⟩
    rcases hstop with hstopped | hterminal
    · exact hlater.stopped hstopped
    · exact Or.inr (hlater.terminal hterminal)
  · next hphase =>
    rw [hphase] at h
    exact h
  · next hphase =>
    rw [hphase] at h
    exact h
  · next hphase =>
    rw [hphase] at h
    exact fun hclose => hlater.terminal (h hclose)
  · next hphase =>
    rw [hphase] at h
    exact h

/-- A caller that goes on goes on in a way that suits it. -/
theorem Goes.suits (h : session.Goes now caller phase session')
    (hstate : session'.state = session.state) (hsuits : session.Suits caller) :
    session'.Suits { caller with phase } := by
  unfold Suits at hsuits
  have hclose := h.closeRequested
  cases h.proceeds with
  | begins hphase | writes hphase | completes hphase =>
    simp only [hphase] at hsuits
    exact fun hrequest => hclose.trans (hsuits hrequest)
  | refused hphase hother => exact fun hrequest => absurd hrequest hother
  | refusedLeave hphase hrequest | hearsLeave hphase hrequest =>
    simp only [hphase] at hsuits
    exact ⟨hrequest, hclose.trans (hsuits hrequest)⟩
  | fails hphase => exact fun _ => ⟨_, rfl⟩
  | @hears id result hphase hother =>
    cases result with
    | ok answer => exact fun hrequest => absurd hrequest hother
    | error fault => exact fun hrequest => absurd hrequest hother
  | shuts hphase =>
    simp only [hphase] at hsuits
    exact ⟨hsuits.1, hclose.trans hsuits.2⟩
  | drops hphase =>
    simp only [hphase] at hsuits
    exact ⟨hsuits.1, hclose.trans hsuits.2, Or.inl (h.stopRequested.mpr (Or.inr rfl))⟩
  | lingered hphase hterminal | dropped hphase hterminal => exact fun _ => hstate ▸ hterminal
  | @detaches result hphase =>
    simp only [hphase] at hsuits
    cases result with
    | ok answer => exact fun hrequest => absurd (hsuits.symm.trans hrequest) (by simp)
    | error fault => exact fun hrequest => absurd (hsuits.symm.trans hrequest) (by simp)
  | watches hphase =>
    simp only [hphase] at hsuits
    exact fun hrequest => absurd (hsuits.symm.trans hrequest) (by simp)

/-- Nobody stops a session without having been asked to close it. -/
structure Orderly (session : Session) : Prop where
  numbers : (session.callers.map Caller.number).Nodup
  suits : ∀ caller ∈ session.callers, session.Suits caller
  stopped : session.stopRequested = true → session.closeRequested = true
  asked : session.state = .closed .clientRequested → session.closeRequested = true

theorem Goes.orderly (h : session.Goes now caller phase session')
    (hstate : session'.state = session.state) (hcaller : caller ∈ session.callers)
    (horderly : session.Orderly) : session'.Orderly where
  numbers := h.turned.numbers ▸ horderly.numbers
  suits := by
    intro other hother
    rcases h.turned.mem horderly.numbers hcaller hother with ⟨hold, -⟩ | rfl
    · exact (horderly.suits other hold).later (h.later hstate)
    · exact h.suits hstate (horderly.suits caller hcaller)
  stopped := by
    intro hstop
    rw [h.closeRequested]
    rcases h.stopRequested.mp hstop with hstopped | rfl
    · exact horderly.stopped hstopped
    · have hsuits := horderly.suits caller hcaller
      cases h.proceeds with
      | drops hphase =>
        simp only [Suits, hphase] at hsuits
        exact hsuits.2
  asked := by
    intro hasked
    rw [h.closeRequested]
    exact horderly.asked (hstate ▸ hasked)

theorem Observes.orderly (h : session.Observes session') (hlater : session.Later session')
    (horderly : session.Orderly) : session'.Orderly where
  numbers := h.callers ▸ horderly.numbers
  suits := by
    rw [h.callers]
    exact fun caller hcaller => (horderly.suits caller hcaller).later hlater
  stopped := by
    intro hstop
    rw [h.closeRequested]
    rcases h.stopRequested with hsame | ⟨hstill, -⟩
    · exact horderly.stopped (hsame ▸ hstop)
    · rw [hstill] at hstop
      cases hstop
  asked := by
    intro hasked
    rw [h.closeRequested]
    rcases h.asked hasked with hbefore | hclose | hstop
    · exact horderly.asked hbefore
    · exact hclose
    · exact horderly.stopped hstop

theorem Orderly.join {request : Request} (h : session.Orderly)
    (hfresh : number ∉ session.callers.map Caller.number)
    (hcallers : session'.callers = session.callers ++ [⟨number, request, phase⟩])
    (hlater : session.Later session') (hstop : session'.stopRequested = session.stopRequested)
    (hstate : session'.state = session.state) (hsuits : session'.Suits ⟨number, request, phase⟩) :
    session'.Orderly where
  numbers := by
    rw [hcallers, List.map_append, List.nodup_append]
    refine ⟨h.numbers, List.nodup_singleton _, ?_⟩
    rintro taken htaken _ hnew rfl
    obtain rfl : taken = number := by simpa using hnew
    exact hfresh htaken
  suits := by
    intro caller hcaller
    rw [hcallers, List.mem_append, List.mem_singleton] at hcaller
    rcases hcaller with hold | rfl
    · exact (h.suits caller hold).later hlater
    · exact hsuits
  stopped := fun hstopped => hlater.closeRequested (h.stopped (hstop ▸ hstopped))
  asked := fun hasked => hlater.closeRequested (h.asked (hstate ▸ hasked))

/-- The session with a caller who has not yet done anything. -/
def enroll (session : Session) (number : Nat) (request : Request) : Session :=
  { session with callers := session.callers ++ [⟨number, request, .watching⟩] }

theorem Orderly.tell {request : Request} {result : Except Fault Answer} (h : session.Orderly)
    (hfresh : number ∉ session.callers.map Caller.number)
    (hsuits : session.Suits ⟨number, request, .told result⟩) :
    ((session.enroll number request).tell number result).Orderly :=
  h.join hfresh (callers_setPhase_new hfresh rfl _) (later_of_eq id rfl id) rfl rfl hsuits

theorem Orderly.submit {request : Request} (h : session.Orderly)
    (hfresh : number ∉ session.callers.map Caller.number) (hother : request ≠ .close)
    (command : Command) : ((session.enroll number request).submit number command).Orderly := by
  unfold Session.submit
  split
  · split
    · exact h.tell hfresh fun hclose => absurd hclose hother
    · exact h.join hfresh (callers_setPhase_new hfresh rfl _) (later_of_eq id rfl id) rfl rfl
        fun hclose => absurd hclose hother
  · exact h.tell hfresh fun hclose => absurd hclose hother
  · exact h.tell hfresh fun hclose => absurd hclose hother

/-- A session that can be closed takes the command for it. -/
theorem Orderly.close (h : session.Orderly) (hliving : session.Living)
    (hfresh : number ∉ session.callers.map Caller.number) :
    (session.call number .close).Orderly := by
  cases hliving with
  | closed hclosed =>
    have hterminal : session.state.isTerminal = true := by rw [hclosed]; rfl
    simp only [Session.call, hterminal, ↓reduceIte]
    exact h.tell hfresh fun _ => hterminal
  | ready hready =>
    have hwire : Command.exit.wire = .ok (Command.wireOfLines ["exit"]) := rfl
    simp only [Session.call, Session.submit, hready, hwire, SessionState.isTerminal,
      Bool.false_eq_true, ↓reduceIte]
    exact h.join hfresh (callers_setPhase_new hfresh rfl _)
      (later_of_eq (fun _ => rfl) hready.symm id) rfl hready.symm fun _ => rfl

/-- A call that is new to the session suits it from the beginning. -/
theorem Orderly.call (h : session.Orderly) (hliving : session.Living)
    (hfresh : number ∉ session.callers.map Caller.number) (request : Request) :
    (session.call number request).Orderly := by
  unfold Session.call
  dsimp only
  split
  · exact h.join hfresh rfl (later_of_eq id rfl id) rfl rfl rfl
  · exact h.join hfresh (callers_setPhase_new hfresh rfl _)
      (later_of_eq (fun _ => rfl) rfl id) rfl rfl rfl
  · exact h.close hliving hfresh
  · next hclose =>
    split
    · exact h.tell hfresh fun hrequest => absurd hrequest hclose
    · exact h.submit hfresh hclose _
    · exact h.tell hfresh fun hrequest => absurd hrequest hclose

theorem Orderly.perform (h : session.Orderly) (hliving : session.Living)
    (hfresh : ∀ number request, move = .call number request →
      number ∉ session.callers.map Caller.number)
    (hmove : session.perform move = some session') : session'.Orderly := by
  cases moves_of_perform hmove with
  | call number request => exact h.call hliving (hfresh number request rfl) request
  | caller hfound hturn =>
    obtain ⟨hcaller, -⟩ := mem_of_caller? hfound
    obtain ⟨phase, hgoes⟩ := callerTurn_goes hturn
    exact hgoes.orderly (aside_callerTurn hturn).state hcaller h
  | reader hturn => exact (observes_readerTurn hturn).orderly (later_readerTurn hturn) h
  | abandon number =>
    exact ⟨h.numbers.sublist (List.filter_sublist.map _),
      fun caller hcaller => h.suits caller (List.mem_filter.mp hcaller).1, h.stopped, h.asked⟩
  | network | deliver => exact ⟨h.numbers, h.suits, h.stopped, h.asked⟩

/-- Whatever happens to a session, it stays orderly. -/
theorem Run.orderly {start : Session} {log : List Happening} (hcallers : start.callers = [])
    (hpending : start.pending = .empty) (hstart : start.Orderly) (hliving : start.Living)
    (run : start.Run log session) : session.Orderly ∧ session.Living := by
  induction run with
  | start => exact ⟨hstart, hliving⟩
  | step run move hfresh hmove ih =>
    refine ⟨ih.1.perform ih.2 ?_ hmove, ih.2.perform hmove⟩
    rintro number request rfl
    exact (run.coherent hcallers hpending).numbered.not_mem_numbers hfresh

/-- Who has asked what. -/
def asks (session : Session) : List (Nat × Request) :=
  session.callers.map fun caller => (caller.number, caller.request)

@[simp]
theorem asks_setPhase (session : Session) (number : Nat) (phase : CallerPhase) :
    (session.setPhase number phase).asks = session.asks := by
  rw [asks, setPhase, List.map_map]
  refine List.map_congr_left fun caller _ => ?_
  by_cases hsame : caller.number = number <;> simp [hsame]

theorem asks_enroll (session : Session) (number : Nat) (request : Request) :
    (session.enroll number request).asks = session.asks ++ [(number, request)] := by
  simp [asks, enroll]

theorem asks_submit (session : Session) (number : Nat) (command : Command) :
    (session.submit number command).asks = session.asks := by
  unfold submit
  split
  · split
    · exact asks_setPhase ..
    · exact asks_setPhase { session with nextId := session.nextId.next } ..
  · exact asks_setPhase ..
  · exact asks_setPhase ..

theorem asks_call (session : Session) (number : Nat) (request : Request) :
    (session.call number request).asks = session.asks ++ [(number, request)] := by
  rw [← asks_enroll]
  unfold call
  dsimp only
  split
  · rfl
  · exact asks_setPhase ({ session.enroll number .disconnect with closeRequested := true }) _ _
  · split
    · exact asks_setPhase (session.enroll number .close) _ _
    · exact asks_submit ({ session.enroll number .close with closeRequested := true }) _ _
  · split
    · exact asks_setPhase (session.enroll number _) _ _
    · exact asks_submit (session.enroll number _) _ _
    · exact asks_setPhase (session.enroll number _) _ _

/-- By a move nobody asks for anything else than before. -/
theorem asks_perform (hmove : session.perform move = some session') {ask : Nat × Request}
    (hask : ask ∈ session'.asks) :
    ask ∈ session.asks ∨
      ∃ number request, move = .call number request ∧ ask = (number, request) := by
  cases moves_of_perform hmove with
  | call number request =>
    rw [asks_call, List.mem_append, List.mem_singleton] at hask
    exact hask.imp_right fun hnew => ⟨number, request, rfl, hnew⟩
  | @caller _ _ _ caller _ hfound hturn =>
    obtain ⟨phase, hgoes⟩ := callerTurn_goes hturn
    have hsame : session'.asks = session.asks := by
      rw [asks, hgoes.turned.callers]
      exact asks_setPhase session caller.number phase
    exact Or.inl (hsame ▸ hask)
  | _ => exact Or.inl (List.map_subset _ (callers_subset (by simp) (by simp) hmove) hask)

theorem terms_call (session : Session) (number : Nat) (request : Request) :
    (session.call number request).terms = session.terms := by
  obtain ⟨_, _, _, _, hreach⟩ := session.call_reach number request
  rw [hreach]
  rfl

theorem terms_perform (hmove : session.perform move = some session') :
    session'.terms = session.terms := by
  cases moves_of_perform hmove with
  | call number request => exact terms_call session number request
  | caller hfound hturn =>
    obtain ⟨phase, hgoes⟩ := callerTurn_goes hturn
    exact hgoes.terms
  | reader hturn => exact (observes_readerTurn hturn).terms
  | abandon | network | deliver => rfl

end EventSocket.Session
