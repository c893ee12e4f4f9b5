import EventSocket.Proofs.Session.Stage

/-!
The reason for which a session ends. It is published once, by the turn in which the reader meets a
cause, and it follows from that cause and from whether anybody had asked for the end by then. The
state, whoever waits for the end and the listeners all give that reason.
-/

namespace EventSocket.Stage

variable {start stage stage' : Stage} {course : Course} {move : StageMove} {reason : EndReason}

/-- Somebody has asked for the end of the session. -/
def asked (course : Course) : Bool := course.any fun visited => visited.2.asksEnd

/-- The session goes on, and whoever waits for its end has not been told anything. -/
structure Quiet (stage : Stage) : Prop where
  state : stage.session.state = .ready
  waiting : ∀ caller ∈ stage.session.callers, caller.request = .waitClosed →
    caller.phase = .watching

/-- The session is over, and everybody who is told why is told this reason: whoever waits for its
end by now or by the next turn, and the listeners by what stands on the lanes. -/
structure Reports (stage : Stage) (reason : EndReason) : Prop where
  state : stage.session.state = .closed reason
  waiting : ∀ caller ∈ stage.session.callers, caller.request = .waitClosed →
    caller.phase = .told (.ok (.ended reason)) ∨
      caller.phase = .watching ∧ ∀ now most, stage.session.callerTurn now most caller =
        some (stage.session.tell caller.number (.ok (.ended reason)))
  lanes : stage.session.reader = .stopped →
    ∀ kind, (stage.session.dispatcher.lane kind).Ended reason

theorem Sound.quiet (h : stage.Sound) (hready : stage.session.state = .ready) : stage.Quiet := by
  refine ⟨hready, fun caller hcaller hrequest => ?_⟩
  rcases h.faithful caller hcaller hrequest with hwatching | ⟨reason, hclosed, -⟩
  · exact hwatching
  · rw [hready] at hclosed
    cases hclosed

theorem Sound.reports (h : stage.Sound) (hclosed : stage.session.state = .closed reason) :
    stage.Reports reason := by
  have hsame (reason' : EndReason) (hclosed' : stage.session.state = .closed reason') :
      reason' = reason := SessionState.closed.inj (hclosed'.symm.trans hclosed)
  refine ⟨hclosed, fun caller hcaller hrequest => ?_, fun hstopped => ?_⟩
  · rcases h.faithful caller hcaller hrequest with hwatching | ⟨reason', hclosed', htold⟩
    · exact Or.inr ⟨hwatching, Session.callerTurn_watching hclosed hwatching⟩
    · exact Or.inl (hsame reason' hclosed' ▸ htold)
  · obtain ⟨reason', hclosed', hended⟩ := h.serviced.ended hstopped
    exact hsame reason' hclosed' ▸ hended

theorem Run.visited (run : Run start course stage) (hstart : start.Sound) :
    ∀ visited ∈ course, visited.1.Sound := by
  induction run with
  | start => simp
  | step run move hmove ih =>
    intro visited hvisited
    rcases List.mem_append.mp hvisited with hold | hnew
    · exact ih visited hold
    · obtain rfl := List.mem_singleton.mp hnew
      exact run.sound hstart

/-! What one move does to the state, and to what is remembered of those who asked for the end. -/

theorem Sound.state_perform (h : stage.Sound) (hready : stage.session.state = .ready)
    (hmove : stage.perform move = some stage') :
    stage'.session.state = .ready ∨ ∃ now most cause, move = .session (.reader now most) ∧
      stage.session.endCause? most = some cause ∧
        stage'.session.state = .closed (cause.reason stage.session.closeRequested) := by
  cases moves_of_perform hmove with
  | session hapt hmove' =>
    refine (Session.state_perform h.living hready hmove').imp_right ?_
    rintro ⟨now, most, cause, rfl, hcause, hclosed⟩
    exact ⟨now, most, cause, rfl, hcause, hclosed⟩
  | listen | lane => exact Or.inl hready

theorem Sound.closed_perform (h : stage.Sound) (hclosed : stage.session.state = .closed reason)
    (hmove : stage.perform move = some stage') : stage'.session.state = .closed reason := by
  cases moves_of_perform hmove with
  | session hapt hmove' => exact Session.closed_perform h.living hclosed hmove'
  | listen | lane => exact hclosed

theorem closeRequested_perform (hready : stage.session.state = .ready)
    (hmove : stage.perform move = some stage') :
    stage'.session.closeRequested = (stage.session.closeRequested || move.asksEnd) := by
  cases moves_of_perform hmove with
  | session hapt hmove' => exact Session.closeRequested_perform hready hmove'
  | listen | lane => exact (Bool.or_false _).symm

/-- The one turn by which the reason has been published. -/
structure Published (course : Course) (reason : EndReason) : Prop where
  turn : ∃ before last now most after cause,
    course = before ++ (last, .session (.reader now most)) :: after ∧
      (∀ visited ∈ before, visited.1.Quiet) ∧ last.Quiet ∧
        last.session.endCause? most = some cause ∧ reason = cause.reason (asked before) ∧
          (cause = .givenUp → asked before = true) ∧
            ∀ visited ∈ after, visited.1.Reports reason

/-- A session goes on and remembers who has asked for its end, or its reason has been published. -/
inductive Stands (course : Course) (stage : Stage) : Prop
  | going (hcourse : ∀ visited ∈ course, visited.1.Quiet) (hstage : stage.Quiet)
      (hasked : stage.session.closeRequested = asked course) : Stands course stage
  | ended {reason : EndReason} (hpublished : Published course reason)
      (hstage : stage.Reports reason) : Stands course stage

theorem Published.later (h : Published course reason) (hreports : stage.Reports reason)
    (move : StageMove) : Published (course ++ [(stage, move)]) reason := by
  obtain ⟨before, last, now, most, after, cause, rfl, hbefore, hlast, hcause, hreason, hgivenUp,
    hafter⟩ := h.turn
  refine ⟨before, last, now, most, after ++ [(stage, move)], cause, by simp, hbefore, hlast, hcause,
    hreason, hgivenUp, fun visited hvisited => ?_⟩
  rcases List.mem_append.mp hvisited with hold | hnew
  · exact hafter visited hold
  · obtain rfl := List.mem_singleton.mp hnew
    exact hreports

theorem Stands.perform (h : Stands course stage) (hsound : stage.Sound)
    (hmove : stage.perform move = some stage') : Stands (course ++ [(stage, move)]) stage' := by
  have hsound' := hsound.perform hmove
  cases h with
  | ended hpublished hstage =>
    exact .ended (hpublished.later hstage move)
      (hsound'.reports (hsound.closed_perform hstage.state hmove))
  | going hcourse hstage hasked =>
    rcases hsound.state_perform hstage.state hmove with
      hready | ⟨now, most, cause, rfl, hcause, hclosed⟩
    · refine .going ?_ (hsound'.quiet hready) ?_
      · intro visited hvisited
        rcases List.mem_append.mp hvisited with hold | hnew
        · exact hcourse visited hold
        · obtain rfl := List.mem_singleton.mp hnew
          exact hstage
      · rw [closeRequested_perform hstage.state hmove, hasked]
        simp [asked]
    · have hgivenUp : cause = .givenUp → asked course = true := by
        rintro rfl
        rw [← hasked]
        exact hsound.orderly.stopped (Session.stopRequested_of_givenUp hcause)
      refine .ended ⟨course, stage, now, most, [], cause, rfl, hcourse, hstage, hcause, rfl,
        hgivenUp, by simp⟩ ?_
      rw [← hasked]
      exact hsound'.reports hclosed

theorem Run.stands (run : Run start course stage) (hstart : start.Sound)
    (hready : start.session.state = .ready) (hasked : start.session.closeRequested = false) :
    Stands course stage := by
  induction run with
  | start => exact .going (by simp) (hstart.quiet hready) (by simpa [asked] using hasked)
  | step run move hmove ih => exact ih.perform (run.sound hstart) hmove

/-- How a session that is over has come to its end. -/
structure Verdict (course : Course) (stage : Stage) (reason : EndReason) : Prop where
  published : Published course reason
  now : stage.Reports reason
  told : ∀ visited ∈ course, ∀ reason', visited.1.TellsEnd visited.2 reason' →
    reason' = reason ∧ visited.1.session.state = .closed reason

theorem Published.eq_of_closed (h : Published course reason) {visited : Stage × StageMove}
    {reason' : EndReason} (hvisited : visited ∈ course)
    (hclosed : visited.1.session.state = .closed reason') : reason' = reason := by
  obtain ⟨before, last, now, most, after, cause, rfl, hbefore, hlast, -, -, -, hafter⟩ := h.turn
  have hquiet (hstage : visited.1.Quiet) : reason' = reason := by
    rw [hstage.state] at hclosed
    cases hclosed
  rcases List.mem_append.mp hvisited with hold | hrest
  · exact hquiet (hbefore visited hold)
  · rcases List.mem_cons.mp hrest with rfl | hnew
    · exact hquiet hlast
    · exact SessionState.closed.inj (hclosed.symm.trans (hafter visited hnew).state)

/-- A session that is over has published one reason, by one turn of its reader: that of the cause
the reader met, given whether anybody had asked for the end before. Everybody is told this one. -/
theorem reason_of_end (attempt : Opening) (channelData : Option Event) (listeners : List Listener)
    (run : Run (opened attempt channelData listeners) course stage)
    (hended : stage.session.state ≠ .ready) : ∃ reason, Verdict course stage reason := by
  have hstart := sound_opened attempt channelData listeners
  cases run.stands hstart rfl rfl with
  | going _ hstage => exact absurd hstage.state hended
  | @ended reason hpublished hstage =>
    refine ⟨reason, hpublished, hstage, fun visited hvisited reason' htells => ?_⟩
    have hclosed := (run.visited hstart visited hvisited).serviced.tells htells
    obtain rfl := hpublished.eq_of_closed hvisited hclosed
    exact ⟨rfl, hclosed⟩

/-- A session that has just been opened over a stream. -/
def fresh : Opening :=
  .start ⟨.inbound (.password "ClueCon"), .stream, .standard, ⟨0⟩, .granted⟩ 0 .new

/-- Somebody waits for the end and somebody asks for it, and then the switch hangs up. -/
def parting : List StageMove :=
  [.session (.call 0 .waitClosed), .session (.call 1 .disconnect),
    .session (.network Transport.new.hangUp), .session (.reader 0 readLimit),
    .session (.caller 0 0 0)] ++
  List.replicate 4 (.session (.reader 5000 readLimit)) ++
  List.replicate 3 (.lane .general fun _ _ => some .done)

theorem reason_of_end_asked :
    ∃ course stage, Run (opened fresh none [⟨some 0, .steady⟩]) course stage ∧
      stage.session.state = .closed .clientRequested ∧ stage.session.state ≠ .ready ∧
        ∃ reason, Verdict course stage reason := by
  have hmoves : ((opened fresh none [⟨some 0, .steady⟩]).follow [] parting).map (fun reached =>
      reached.2.session.state) = some (.closed .clientRequested) := by
    decide +kernel
  obtain ⟨⟨course, stage⟩, hfollow, hclosed⟩ := Option.map_eq_some_iff.mp hmoves
  have run := Run.start.follow hfollow
  have hended : stage.session.state ≠ .ready := by
    rw [show stage.session.state = _ from hclosed]
    simp
  exact ⟨course, stage, run, hclosed, hended, reason_of_end fresh none _ run hended⟩

end EventSocket.Stage
