import EventSocket.Proofs.Session.Leaving

/-!
How long leave-taking takes. Once its command has been settled, a caller waits for the line and then
for the end of the session, each time with the patience of the session. If the session does not end,
the reader is told to stop and does so without waiting for the switch. Between the two the own
stream is ended, and for that no time is set: whatever the transport takes comes on top.
-/

namespace EventSocket.Session

variable {session session' : Session} {caller : Caller} {phase : CallerPhase} {move : Move}
  {number now most due : Nat} {id : CommandId}

/-- A caller in this phase has had the command for its leave settled, and will be done with it when
the time that is due has come. -/
def InTime (session : Session) (due now : Nat) : CallerPhase → Prop
  | .awaiting id =>
    (∃ settlement, session.pending.settlement? id = some settlement) ∧
      now + 2 * session.patience ≤ due
  | .shutting deadline => now + session.patience ≤ due ∧ deadline + session.patience ≤ due
  | .lingering deadline => now ≤ deadline ∧ deadline ≤ due
  | .dropping => now ≤ due
  | .told result => result = .ok .done
  | .queued .. | .writing .. | .detaching | .watching => False

def LeavesBy (session : Session) (due now number : Nat) : Prop :=
  ∃ caller ∈ session.callers, caller.number = number ∧ caller.request = .close ∧
    session.InTime due now caller.phase

/-- The move is made at this time, and is neither a call nor the going away of this caller. -/
def Beside (session : Session) (now number : Nat) : Move → Prop
  | .caller _ time _ | .reader time _ => time = now
  | .call number' _ => number' ∉ session.callers.map Caller.number
  | .abandon number' => number' ≠ number
  | .network _ | .deliver .. => True

theorem InTime.perform (h : session.InTime due now phase)
    (hmove : session.perform move = some session') : session'.InTime due now phase := by
  have hpatience : session'.patience = session.patience :=
    congrArg Prod.fst (terms_perform hmove)
  cases phase with
  | awaiting id =>
    obtain ⟨⟨settlement, hsettled⟩, hdue⟩ := h
    exact ⟨⟨settlement, settlement?_kept (pending_perform hmove) hsettled⟩, hpatience ▸ hdue⟩
  | shutting deadline => exact ⟨hpatience ▸ h.1, hpatience ▸ h.2⟩
  | _ => exact h

/-- Each step of leave-taking sets the next deadline in time. -/
theorem InTime.goes (h : session.InTime due now caller.phase) (hclose : caller.request = .close)
    (hgoes : session.Goes now caller phase session') : session'.InTime due now phase := by
  have hpatience : session'.patience = session.patience := congrArg Prod.fst hgoes.terms
  unfold InTime at h
  cases hgoes.proceeds with
  | begins hphase | refused hphase hother | refusedLeave hphase hclose | writes hphase
  | completes hphase | fails hphase | detaches hphase | watches hphase =>
    rw [hphase] at h
    exact h.elim
  | hears hphase hother => exact absurd hclose hother
  | hearsLeave hphase =>
    rw [hphase] at h
    simp only [InTime, hpatience]
    omega
  | shuts hphase =>
    rw [hphase] at h
    simp only [InTime]
    omega
  | drops hphase =>
    rw [hphase] at h
    exact Nat.le_trans h.1 h.2
  | lingered hphase hterminal => rfl
  | dropped hphase hterminal => rfl

theorem LeavesBy.perform (h : session.LeavesBy due now number)
    (hnumbers : (session.callers.map Caller.number).Nodup)
    (hmove : session.perform move = some session') (hbeside : session.Beside now number move) :
    session'.LeavesBy due now number := by
  obtain ⟨caller, hcaller, rfl, hclose, htime⟩ := h
  have htime' := htime.perform hmove
  cases moves_of_perform hmove with
  | call number request =>
    obtain ⟨phase, hcallers, -⟩ := (call_effect hbeside request).callers
    refine ⟨caller, ?_, rfl, hclose, htime'⟩
    rw [hcallers]
    exact List.mem_append_left _ hcaller
  | @caller _ _ _ other _ hfound hturn =>
    obtain rfl := hbeside
    obtain ⟨hother, -⟩ := mem_of_caller? hfound
    obtain ⟨phase, hgoes⟩ := callerTurn_goes hturn
    by_cases hsame : caller.number = other.number
    · obtain rfl := List.inj_on_of_nodup_map hnumbers hcaller hother hsame
      exact ⟨_, hgoes.turned.self_mem hcaller, rfl, hclose, htime.goes hclose hgoes⟩
    · exact ⟨caller, hgoes.turned.mem_of_mem hcaller hsame, rfl, hclose, htime'⟩
  | reader hturn =>
    exact ⟨caller, (observes_readerTurn hturn).callers ▸ hcaller, rfl, hclose, htime'⟩
  | abandon number =>
    exact ⟨caller, List.mem_filter.mpr ⟨hcaller, decide_eq_true (Ne.symm hbeside)⟩, rfl, hclose,
      htime'⟩
  | network | deliver => exact ⟨caller, hcaller, rfl, hclose, htime'⟩

theorem readOn_of_stop (hstop : session.stopRequested = true) (now most : Nat) :
    session.readOn now most ≠ none := by
  intro hnone
  obtain ⟨hheedless, hwaiting⟩ := readOn_eq_none.mp hnone
  simp [heedsStop, hstop, hwaiting] at hheedless

/-- A reader that has been told to stop never waits for the switch. -/
theorem readerTurn_of_stop (hrunning : session.reader = .running)
    (hstop : session.stopRequested = true) (now most : Nat) :
    session.readerTurn now most ≠ none := by
  simp only [readerTurn, hrunning]
  split
  · simp
  · refine readOn_of_stop ?_ now most
    exact hstop
  · simp

/-- The caller has come to the front of the line to end the own stream, and the transport takes its
time for that. -/
def heldUp (session : Session) (number : Nat) : Bool :=
  session.transport.shutdownStalled && session.writers.serves (.caller number) &&
    session.callers.any fun caller => caller.number = number && caller.phase matches .shutting _

/-- What comes on top of the time that is due while the clock moves on by one. -/
def delay (session : Session) (number : Nat) : Nat := if session.heldUp number then 1 else 0

theorem heldUp_of_mem {deadline : Nat} (hcaller : caller ∈ session.callers)
    (hphase : caller.phase = .shutting deadline)
    (hserves : session.writers.serves (.caller caller.number) = true)
    (hstalled : session.transport.shutdownStalled = true) :
    session.heldUp caller.number = true := by
  have hany : (session.callers.any fun other =>
      other.number = caller.number && other.phase matches .shutting _) = true :=
    List.any_eq_true.mpr ⟨caller, hcaller, by simp [hphase]⟩
  simp [heldUp, hserves, hstalled, hany]

/-- Time may pass if neither the caller nor a reader that has been told to stop can go on; what is
due is then not due yet, unless the transport is to blame. -/
theorem InTime.tick {most' : Nat} (h : session.InTime due now caller.phase)
    (hliving : session.Living) (hcaller : caller ∈ session.callers) (hsuits : session.Suits caller)
    (hwaits : session.callerTurn now most caller = none)
    (hreader : session.stopRequested = true → session.readerTurn now most' = none) :
    session.InTime (due + session.delay caller.number) (now + 1) caller.phase ∧
      (now + 1 ≤ due + session.delay caller.number ∨ caller.phase = .told (.ok .done)) := by
  unfold callerTurn at hwaits
  cases hphase : caller.phase with
  | awaiting id =>
    simp only [hphase, InTime] at h hwaits
    obtain ⟨⟨settlement, hsettled⟩, -⟩ := h
    simp [hsettled] at hwaits
  | shutting deadline =>
    simp only [hphase, InTime] at h hwaits ⊢
    split at hwaits
    · next hserves =>
      have hstalled := shutdown_eq_none.mp (Option.map_eq_none_iff.mp hwaits)
      have hdelay : session.delay caller.number = 1 :=
        if_pos (heldUp_of_mem hcaller hphase hserves hstalled)
      omega
    · split at hwaits
      · cases hwaits
      · omega
  | lingering deadline =>
    simp only [hphase, InTime] at h hwaits ⊢
    split at hwaits
    · cases hwaits
    · split at hwaits
      · cases hwaits
      · omega
  | dropping =>
    simp only [hphase, Suits] at hwaits hsuits
    split at hwaits
    · cases hwaits
    · next hgoing =>
      have hstop := hsuits.2.2.resolve_right hgoing
      cases hliving with
      | ready hready hrunning =>
        exact absurd (hreader hstop) (readerTurn_of_stop hrunning hstop now most')
      | closed hclosed =>
        rw [hclosed] at hgoing
        exact absurd rfl hgoing
  | told result =>
    simp only [hphase, InTime] at h ⊢
    exact ⟨h, Or.inr (by rw [h])⟩
  | _ =>
    rw [hphase] at h
    exact h.elim

/-- When the time that was due is over, the session has ended and its caller has been told. -/
theorem LeavesBy.ended (h : session.LeavesBy due now number) (horderly : session.Orderly)
    (hliving : session.Living) (hlate : due < now) :
    (∃ reason, session.state = .closed reason) ∧
      ∃ caller ∈ session.callers, caller.number = number ∧ caller.phase = .told (.ok .done) := by
  obtain ⟨caller, hcaller, hnumber, hclose, htime⟩ := h
  have htold : caller.phase = .told (.ok .done) := by
    cases hphase : caller.phase with
    | told result =>
      simp only [hphase, InTime] at htime
      rw [htime]
    | awaiting id | shutting deadline | lingering deadline | dropping =>
      simp only [hphase, InTime] at htime
      omega
    | _ =>
      rw [hphase] at htime
      exact htime.elim
  have hterminal : session.state.isTerminal = true := by
    have hsuits := horderly.suits caller hcaller
    simp only [Suits, htold] at hsuits
    exact hsuits hclose
  refine ⟨?_, caller, hcaller, hnumber, htold⟩
  cases hliving with
  | ready hready =>
    rw [hready] at hterminal
    cases hterminal
  | closed hclosed => exact ⟨_, hclosed⟩

end EventSocket.Session
