import EventSocket.Proofs.Session.OwnStream
import EventSocket.Proofs.Session.Verdict

/-!
Any number of calls that close one session. Whoever is told that this has been done leaves a session
behind that has ended as asked for. Only a call that comes to write its command when somebody else
has already ended the own stream is not: it is told that this cannot be written any more.
-/

namespace EventSocket

/-- What the caller has been told. -/
def CallerPhase.result? : CallerPhase → Option (Except Fault Answer)
  | told result => some result
  | _ => none

theorem CallerPhase.told_of_result? {phase : CallerPhase} {result : Except Fault Answer}
    (h : phase.result? = some result) : phase = .told result := by
  cases phase <;> cases h
  rfl

/-- What a call that closes has been told, which depends on whether it came too late to write. -/
inductive Fares (late : Prop) : CallerPhase → Prop
  | going {phase : CallerPhase} (hphase : ∀ result, phase ≠ .told result) (hlate : ¬ late) :
      Fares late phase
  | done (hlate : ¬ late) : Fares late (.told (.ok .done))
  | refused (hlate : late) : Fares late (.told (.error (.io Transport.writeAfterShutdown)))

theorem Fares.congr {late late' : Prop} {phase : CallerPhase} (h : Fares late phase)
    (hsame : late ↔ late') : Fares late' phase :=
  propext hsame ▸ h

theorem Fares.not_late {late : Prop} {phase : CallerPhase} (h : Fares late phase)
    (hphase : ∀ result, phase ≠ .told result) : ¬ late := by
  cases h with
  | going _ hlate => exact hlate
  | done | refused => exact absurd rfl (hphase _)

namespace Session

variable {session session' : Session} {caller : Caller} {number now most : Nat} {move : Move}
  {id : CommandId} {rest : ByteArray}

/-- The own stream has been ended before the caller has written all of its command. -/
def WritesLate (session : Session) (caller : Caller) : Prop :=
  (∃ id rest, caller.phase = .writing id rest) ∧ session.transport.shut = true

/-- A caller that writes too late is told so, and one that does not goes on. -/
theorem fares_writing (hwhole : session.transport.writeFailure = none)
    (hphase : caller.phase = .writing id rest)
    (h : session.callerTurn now most caller = some session') :
    ∃ phase, session.Turned caller phase session' ∧ Fares (session.WritesLate caller) phase := by
  have hlate : session.WritesLate caller ↔ session.transport.shut = true :=
    and_iff_right ⟨id, rest, hphase⟩
  have hwrite := Transport.write_whole hwhole (rest.extract 0 most)
  simp only [callerTurn, hphase, writeOn] at h
  cases hshut : session.transport.shut with
  | true =>
    rw [hshut, if_pos rfl] at hwrite
    rcases hwrite with hwaiting | hfailed
    · simp [hwaiting] at h
    · simp only [hfailed, takeReply_io] at h
      obtain rfl := Option.some.inj h
      exact ⟨_, ⟨rfl, rfl, fun _ => serves_leaveLine⟩, .refused (hlate.mpr hshut)⟩
  | false =>
    rw [hshut, if_neg Bool.false_ne_true] at hwrite
    have hgoes : ¬ session.WritesLate caller := by simp [hlate, hshut]
    rcases hwrite with hwaiting | hwritten
    · simp [hwaiting] at h
    · simp only [hwritten] at h
      obtain rfl := Option.some.inj h
      split
      · exact ⟨_, ⟨rfl, rfl, fun _ => serves_leaveLine⟩, .going (by simp) hgoes⟩
      · exact ⟨_, ⟨rfl, rfl, fun _ _ hserves => hserves⟩, .going (by simp) hgoes⟩

/-- By a turn, whoever closes is told at most that this has been done or that it writes too late. -/
theorem fares_callerTurn (hwhole : session.transport.writeFailure = none)
    (hsuits : session.Suits caller) (h : session.callerTurn now most caller = some session') :
    ∃ phase, session.Turned caller phase session' ∧
      (caller.request = .close → Fares (session.WritesLate caller) phase) := by
  by_cases hwriting : ∃ id rest, caller.phase = .writing id rest
  · obtain ⟨id, rest, hphase⟩ := hwriting
    obtain ⟨phase, hturned, hfares⟩ := fares_writing hwhole hphase h
    exact ⟨phase, hturned, fun _ => hfares⟩
  · have hlate : ¬ session.WritesLate caller := fun hlate => hwriting hlate.1
    obtain ⟨phase, hgoes⟩ := callerTurn_goes h
    refine ⟨phase, hgoes.turned, fun hclose => ?_⟩
    unfold Suits at hsuits
    cases hgoes.proceeds with
    | begins | refusedLeave | hearsLeave | shuts | drops => exact .going (by simp) hlate
    | lingered | dropped => exact .done hlate
    | writes hphase | completes hphase | fails hphase => exact absurd ⟨_, _, hphase⟩ hwriting
    | refused hphase hother | hears hphase hother => exact absurd hclose hother
    | detaches hphase | watches hphase =>
      simp only [hphase, hclose] at hsuits
      cases hsuits

theorem not_told_of_turn (h : session.callerTurn now most caller = some session')
    (result : Except Fault Answer) : caller.phase ≠ .told result := by
  intro hphase
  simp [callerTurn, hphase] at h

/-- A call that closes a session which goes on or is over, with nothing in between. -/
theorem fares_call (hliving : session.Living)
    (hfresh : number ∉ session.callers.map Caller.number) :
    ∃ phase, (session.call number .close).callers =
      session.callers ++ [⟨number, .close, phase⟩] ∧ Fares False phase := by
  obtain ⟨phase, hcallers, -⟩ := (call_effect hfresh .close).callers
  cases hliving with
  | ready hready =>
    have hwire : Command.exit.wire = .ok (Command.wireOfLines ["exit"]) := rfl
    simp only [Session.call, Session.submit, hready, hwire, SessionState.isTerminal,
      Bool.false_eq_true, ↓reduceIte]
    exact ⟨_, callers_setPhase_new hfresh rfl _, .going (by simp) not_false⟩
  | closed hclosed =>
    have hterminal : session.state.isTerminal = true := by rw [hclosed]; rfl
    simp only [Session.call, hterminal, ↓reduceIte]
    exact ⟨_, callers_setPhase_new hfresh rfl _, .done not_false⟩

end Session

/-- The number that a new call is made with. -/
def StageMove.called? : StageMove → Option Nat
  | session (.call number _) => some number
  | _ => none

namespace Stage

variable {start stage stage' : Stage} {course before : Course} {move : StageMove} {number : Nat}
  {reason : EndReason}

def calledNumbers (course : Course) : List Nat :=
  course.filterMap fun visited => visited.2.called?

@[simp]
theorem calledNumbers_concat (course : Course) (stage : Stage) (move : StageMove) :
    calledNumbers (course ++ [(stage, move)]) = calledNumbers course ++ move.called?.toList := by
  unfold calledNumbers
  rw [List.filterMap_append]
  cases hcalled : move.called? <;> simp [hcalled]

/-- Writing never fails but for the end of the own stream, which the network does not end. -/
def Steady (stage : Stage) : StageMove → Prop
  | .session move => stage.session.Steady move
  | .listen _ | .lane .. => True

instance (stage : Stage) (move : StageMove) : Decidable (stage.Steady move) :=
  match move with
  | .session move => inferInstanceAs (Decidable (stage.session.Steady move))
  | .listen _ | .lane .. => inferInstanceAs (Decidable True)

/-- Somebody ends the own stream by the move. -/
def EndsStream (visited : Stage × StageMove) : Prop :=
  ∃ move, visited.2 = .session move ∧ visited.1.session.EndsStream move

/-- By the move the caller writes, behind a move that has ended the own stream. -/
def LateTurn (before : Course) (visited : Stage × StageMove) (number : Nat) : Prop :=
  ∃ now most caller, visited.2 = .session (.caller number now most) ∧
    visited.1.session.caller? number = some caller ∧ visited.1.session.WritesLate caller ∧
      ∃ earlier ∈ before, EndsStream earlier

/-- The caller has come to write only after somebody had ended the own stream. -/
def Late (course : Course) (number : Nat) : Prop :=
  ∃ before visited after, course = before ++ visited :: after ∧ LateTurn before visited number

theorem not_late_nil (number : Nat) : ¬ Late [] number := by
  rintro ⟨before, visited, after, hcourse, -⟩
  simp at hcourse

theorem late_concat {visited : Stage × StageMove} :
    Late (course ++ [visited]) number ↔ Late course number ∨ LateTurn course visited number := by
  constructor
  · rintro ⟨before, turn, after, hcourse, hlate⟩
    rcases List.eq_nil_or_concat after with rfl | ⟨after, last, rfl⟩
    · obtain ⟨rfl, hturn⟩ := List.append_inj' hcourse rfl
      obtain rfl := List.singleton_inj.mp hturn
      exact Or.inr hlate
    · rw [List.concat_eq_append, ← List.cons_append, ← List.append_assoc] at hcourse
      exact Or.inl ⟨before, turn, after, (List.append_inj' hcourse rfl).1, hlate⟩
  · rintro (⟨before, turn, after, rfl, hlate⟩ | hlate)
    · exact ⟨before, turn, after ++ [visited], by simp, hlate⟩
    · exact ⟨course, visited, [], rfl, hlate⟩

theorem late_concat_of_ne (hother : ∀ now most, move ≠ .session (.caller number now most)) :
    Late (course ++ [(stage, move)]) number ↔ Late course number := by
  rw [late_concat]
  refine or_iff_left ?_
  rintro ⟨now, most, caller, hmove, -⟩
  exact hother now most hmove

theorem outlives_perform (hwhole : stage.session.transport.writeFailure = none)
    (hsteady : stage.Steady move) (hmove : stage.perform move = some stage') :
    stage.session.transport.Outlives (EndsStream (stage, move)) stage'.session.transport := by
  cases moves_of_perform hmove with
  | session hapt hmove' =>
    obtain ⟨hfailure, hshut⟩ := Session.outlives_perform hwhole hsteady hmove'
    exact ⟨hfailure, hshut.imp_right fun hends => ⟨_, rfl, hends⟩⟩
  | listen | lane => exact Transport.outlives_refl ..

/-- The caller has been numbered, and if it closes the session it fares as it should. -/
def Faring (course : Course) (caller : Caller) : Prop :=
  caller.number ∈ calledNumbers course ∧
    (caller.request = .close → Fares (Late course caller.number) caller.phase)

theorem Faring.concat {caller : Caller} (h : Faring course caller)
    (hother : ∀ now most, move ≠ .session (.caller caller.number now most)) :
    Faring (course ++ [(stage, move)]) caller := by
  refine ⟨?_, fun hclose => (h.2 hclose).congr (late_concat_of_ne hother).symm⟩
  rw [calledNumbers_concat]
  exact List.mem_append_left _ h.1

/-- What is known of the calls that close a session, whatever has happened on its stage. -/
structure Attentive (course : Course) (stage : Stage) : Prop where
  whole : stage.session.transport.writeFailure = none
  shut : stage.session.transport.shut = true → ∃ visited ∈ course, EndsStream visited
  late : ∀ number, Late course number → number ∈ calledNumbers course
  faring : ∀ caller ∈ stage.session.callers, Faring course caller

theorem Attentive.call {request : Request} (h : Attentive course stage) (hsound : stage.Sound)
    (hfresh : number ∉ stage.session.callers.map Caller.number)
    (hnew : number ∉ calledNumbers course) :
    ∀ caller ∈ (stage.session.call number request).callers,
      Faring (course ++ [(stage, .session (.call number request))]) caller := by
  obtain ⟨phase, hcallers, -⟩ := (Session.call_effect hfresh request).callers
  intro caller hcaller
  rw [hcallers, List.mem_append, List.mem_singleton] at hcaller
  rcases hcaller with hold | rfl
  · exact (h.faring caller hold).concat (by simp)
  · refine ⟨by simp [StageMove.called?], ?_⟩
    rintro rfl
    have hlate : ¬ Late course number := fun hlate => hnew (h.late number hlate)
    obtain ⟨phase', hcallers', hfares⟩ := Session.fares_call hsound.living hfresh
    obtain rfl : phase' = phase := by simpa using hcallers'.symm.trans hcallers
    exact hfares.congr (by simp [late_concat_of_ne, hlate])

theorem Attentive.lateTurn_iff {caller : Caller} {now most : Nat} (h : Attentive course stage)
    (hfound : stage.session.caller? number = some caller) :
    LateTurn course (stage, .session (.caller number now most)) number ↔
      stage.session.WritesLate caller := by
  constructor
  · rintro ⟨now, most, caller, -, hfound', hlate, -⟩
    obtain rfl := Option.some.inj (hfound'.symm.trans hfound)
    exact hlate
  · intro hlate
    exact ⟨now, most, caller, rfl, hfound, hlate, h.shut hlate.2⟩

theorem Attentive.turn {caller : Caller} {session' : Session} {now most : Nat}
    (h : Attentive course stage) (hsound : stage.Sound)
    (hfound : stage.session.caller? number = some caller)
    (hturn : stage.session.callerTurn now most caller = some session') :
    ∀ other ∈ session'.callers,
      Faring (course ++ [(stage, .session (.caller number now most))]) other := by
  obtain ⟨hcaller, rfl⟩ := Session.mem_of_caller? hfound
  obtain ⟨phase, hturned, hfares⟩ :=
    Session.fares_callerTurn h.whole (hsound.orderly.suits caller hcaller) hturn
  intro other hother
  rcases hturned.mem hsound.orderly.numbers hcaller hother with ⟨hold, hne⟩ | rfl
  · exact (h.faring other hold).concat (by simp [hne.symm])
  · refine ⟨by simpa [StageMove.called?] using (h.faring caller hcaller).1, fun hclose => ?_⟩
    refine (hfares hclose).congr ?_
    have hbefore : ¬ Late course caller.number :=
      ((h.faring caller hcaller).2 hclose).not_late (Session.not_told_of_turn hturn)
    rw [late_concat, or_iff_right hbefore]
    exact (h.lateTurn_iff hfound).symm

theorem Attentive.faring_perform (h : Attentive course stage) (hsound : stage.Sound)
    (hnew : ∀ number, move.called? = some number → number ∉ calledNumbers course)
    (hmove : stage.perform move = some stage') :
    ∀ caller ∈ stage'.session.callers, Faring (course ++ [(stage, move)]) caller := by
  -- Those who are left by a move that is nobody's call and nobody's turn are where they were.
  have haside (hcallers : stage'.session.callers ⊆ stage.session.callers)
      (hother : ∀ number now most, move ≠ .session (.caller number now most)) :
      ∀ caller ∈ stage'.session.callers, Faring (course ++ [(stage, move)]) caller :=
    fun caller hcaller => (h.faring caller (hcallers hcaller)).concat (hother caller.number)
  cases moves_of_perform hmove with
  | session hapt hmove' =>
    cases Session.moves_of_perform hmove' with
    | call number request => exact h.call hsound hapt (hnew number rfl)
    | caller hfound hturn => exact h.turn hsound hfound hturn
    | _ => exact haside (Session.callers_subset (by simp) (by simp) hmove') (by simp)
  | listen | lane => exact haside (List.Subset.refl _) (by simp)

theorem Attentive.perform (h : Attentive course stage) (hsound : stage.Sound)
    (hsteady : stage.Steady move)
    (hnew : ∀ number, move.called? = some number → number ∉ calledNumbers course)
    (hmove : stage.perform move = some stage') : Attentive (course ++ [(stage, move)]) stage' := by
  obtain ⟨hfailure, hshut⟩ := outlives_perform h.whole hsteady hmove
  constructor
  case whole => exact hfailure.trans h.whole
  case shut =>
    intro hended
    rcases hshut with hsame | hends
    · obtain ⟨visited, hvisited, hends⟩ := h.shut (hsame ▸ hended)
      exact ⟨visited, List.mem_append_left _ hvisited, hends⟩
    · exact ⟨(stage, move), by simp, hends⟩
  case late =>
    intro number hlate
    rw [calledNumbers_concat]
    refine List.mem_append_left _ ?_
    rcases late_concat.mp hlate with hbefore | ⟨now, most, caller, -, hfound, -⟩
    · exact h.late number hbefore
    · obtain ⟨hcaller, rfl⟩ := Session.mem_of_caller? hfound
      exact (h.faring caller hcaller).1
  case faring => exact h.faring_perform hsound hnew hmove

theorem Run.attentive (run : Run start course stage) (hstart : start.Sound)
    (hbegins : Attentive [] start) (hsteady : ∀ visited ∈ course, visited.1.Steady visited.2)
    (hnumbers : (calledNumbers course).Nodup) : Attentive course stage := by
  induction run with
  | start => exact hbegins
  | @step course stage stage' run move hmove ih =>
    rw [List.forall_mem_append] at hsteady
    rw [calledNumbers_concat, List.nodup_append] at hnumbers
    have hnew (number : Nat) (hcalled : move.called? = some number) :
        number ∉ calledNumbers course := by
      intro hold
      exact hnumbers.2.2 number hold number (by simp [hcalled]) rfl
    exact (ih hsteady.1 hnumbers.1).perform (run.sound hstart)
      (hsteady.2 (stage, move) (List.mem_singleton.mpr rfl)) hnew hmove

/-- The session has ended because the client wanted it to, or because the protocol was broken. -/
def EndedAsAsked (stage : Stage) : Prop :=
  stage.session.state = .closed .clientRequested ∨
    ∃ text, stage.session.state = .closed (.protocolError text)

/-- If somebody asked for the end while the session went on, that is the reason for it, unless the
protocol was broken. -/
theorem Published.of_asked (h : Published course reason)
    (hasked : ∃ visited ∈ course, visited.2.asksEnd = true ∧ visited.1.session.state = .ready) :
    reason = .clientRequested ∨ ∃ text, reason = .protocolError text := by
  obtain ⟨before, last, now, most, after, cause, rfl, -, -, -, hreason, -, hafter⟩ := h.turn
  have hbefore : asked before = true := by
    obtain ⟨visited, hvisited, hasks, hready⟩ := hasked
    rcases List.mem_append.mp hvisited with hold | hrest
    · exact List.any_eq_true.mpr ⟨visited, hold, hasks⟩
    · rcases List.mem_cons.mp hrest with rfl | hnew
      · cases hasks
      · rw [(hafter visited hnew).state] at hready
        cases hready
  rw [hbefore] at hreason
  unfold EndCause.reason at hreason
  split at hreason
  · exact Or.inr ⟨_, hreason⟩
  · exact Or.inl hreason

/-- Any number of calls on one session, each with a number of its own. One of them has asked for the
end while the session went on, and writing fails only once the own stream has been ended. -/
structure Parting (attempt : Opening) (course : Course) : Prop where
  whole : attempt.transport.writeFailure = none
  unshut : attempt.transport.shut = false
  steady : ∀ visited ∈ course, visited.1.Steady visited.2
  numbers : (calledNumbers course).Nodup
  asked : ∃ visited ∈ course, visited.2.asksEnd = true ∧ visited.1.session.state = .ready

theorem Parting.attentive {attempt : Opening} {channelData : Option Event}
    {listeners : List Listener} (h : Parting attempt course)
    (run : Run (opened attempt channelData listeners) course stage) : Attentive course stage := by
  refine run.attentive (sound_opened ..) ?_ h.steady h.numbers
  constructor
  case whole => exact h.whole
  case shut => exact fun hshut => absurd (h.unshut.symm.trans hshut) Bool.false_ne_true
  case late => exact fun number hlate => absurd hlate (not_late_nil number)
  case faring => exact fun caller hcaller => absurd hcaller List.not_mem_nil

theorem Stands.endedAsAsked (h : Stands course stage)
    (hasked : ∃ visited ∈ course, visited.2.asksEnd = true ∧ visited.1.session.state = .ready)
    (hterminal : stage.session.state.isTerminal = true) : stage.EndedAsAsked := by
  cases h with
  | going _ hstage =>
    rw [hstage.state] at hterminal
    cases hterminal
  | ended hpublished hstage =>
    unfold EndedAsAsked
    rw [hstage.state]
    simpa using hpublished.of_asked hasked

/-- Whoever has closed a session and has been told leaves one that has ended as asked, unless its
command came too late to be written; then it has been told that, and nothing else. -/
theorem closes_unless_late {attempt : Opening} {channelData : Option Event}
    {listeners : List Listener} {caller : Caller} {result : Except Fault Answer}
    (run : Run (opened attempt channelData listeners) course stage)
    (hparting : Parting attempt course)
    (hcaller : caller ∈ stage.session.callers) (hclose : caller.request = .close)
    (htold : caller.phase = .told result) :
    (¬ Late course caller.number → result = .ok .done ∧ stage.EndedAsAsked) ∧
      (Late course caller.number → result = .error (.io Transport.writeAfterShutdown)) := by
  have hstart := sound_opened attempt channelData listeners
  have hfares := ((hparting.attentive run).faring caller hcaller).2 hclose
  rw [htold] at hfares
  cases hfares with
  | going hphase => exact absurd rfl (hphase result)
  | refused hlate => exact ⟨fun hearly => absurd hlate hearly, fun _ => rfl⟩
  | done hearly =>
    refine ⟨fun _ => ⟨rfl, ?_⟩, fun hlate => absurd hlate hearly⟩
    have hsuits := (run.sound hstart).orderly.suits caller hcaller
    simp only [Session.Suits, htold] at hsuits
    exact (run.stands hstart rfl rfl).endedAsAsked hparting.asked (hsuits hclose)

/-- As many commands have been sent, and the switch has answered them. -/
def answering (count : Nat) : Transport :=
  { Transport.new with
    received := (String.join (List.replicate count
      "Content-Type: command/reply\nReply-Text: +OK\n\n")).toUTF8,
    sent := (String.join (List.replicate count "exit\n\n")).toUTF8 }

/-- Two callers close at once, both are answered, and the switch hangs up. -/
def twoClosings : List StageMove :=
  [.session (.call 1 .close), .session (.call 2 .close), .session (.caller 1 0 10),
    .session (.caller 1 0 10), .session (.caller 2 0 10), .session (.caller 2 0 10),
    .session (.network (answering 2))] ++
  List.replicate 3 (.session (.reader 0 readLimit)) ++
  List.replicate 2 (.session (.caller 1 0 10)) ++ List.replicate 2 (.session (.caller 2 0 10)) ++
  [.session (.network { answering 2 with
      received := ByteArray.empty, ended := true, shut := true }),
    .session (.reader 0 readLimit), .session (.caller 2 0 10), .session (.caller 1 0 10)]

/-- The second caller closes when the first has been answered and has ended the own stream. -/
def lateClosing : List StageMove :=
  [.session (.call 1 .close), .session (.caller 1 0 10), .session (.caller 1 0 10),
    .session (.network (answering 1)), .session (.reader 0 readLimit),
    .session (.reader 0 readLimit), .session (.caller 1 0 10), .session (.caller 1 0 10),
    .session (.call 2 .close), .session (.caller 2 0 10), .session (.caller 2 0 10)]

instance (course : Course) (attempt : Opening) : Decidable (Parting attempt course) :=
  decidable_of_iff
    (attempt.transport.writeFailure = none ∧ attempt.transport.shut = false ∧
      (∀ visited ∈ course, visited.1.Steady visited.2) ∧ (calledNumbers course).Nodup ∧
        ∃ visited ∈ course, visited.2.asksEnd = true ∧ visited.1.session.state = .ready)
    ⟨fun ⟨hwhole, hunshut, hsteady, hnumbers, hasked⟩ =>
      ⟨hwhole, hunshut, hsteady, hnumbers, hasked⟩,
    fun h => ⟨h.whole, h.unshut, h.steady, h.numbers, h.asked⟩⟩

/-- The calls are as they should be, all commands have been answered, and the second caller, who
closes, has been told this result. -/
def Shows (course : Course) (stage : Stage) (state : SessionState)
    (result : Except Fault Answer) : Prop :=
  Parting fresh course ∧ stage.session.state = state ∧ stage.session.pending.waiting = [] ∧
    ((stage.session.caller? 2).map Caller.request = some .close ∧
      ((stage.session.caller? 2).bind fun caller => caller.phase.result?) = some result)

instance (course : Course) (stage : Stage) (state : SessionState)
    (result : Except Fault Answer) : Decidable (Shows course stage state result) :=
  inferInstanceAs (Decidable (_ ∧ _))

theorem Shows.caller {course : Course} {stage : Stage} {state : SessionState}
    {result : Except Fault Answer} (h : Shows course stage state result) :
    ∃ caller ∈ stage.session.callers, caller.number = 2 ∧ caller.request = .close ∧
      caller.phase = .told result := by
  obtain ⟨-, -, -, hrequest, hresult⟩ := h
  obtain ⟨caller, hfound, hclose⟩ := Option.map_eq_some_iff.mp hrequest
  obtain ⟨hcaller, hnumber⟩ := Session.mem_of_caller? hfound
  rw [hfound] at hresult
  exact ⟨caller, hcaller, hnumber, hclose, CallerPhase.told_of_result? hresult⟩

theorem closes_unless_late_at_once :
    ∃ course stage caller, Run (opened fresh none []) course stage ∧ Parting fresh course ∧
      caller ∈ stage.session.callers ∧ caller.request = .close ∧
        caller.phase = .told (.ok .done) ∧ ¬ Late course caller.number ∧ stage.EndedAsAsked := by
  have hmoves : ((opened fresh none []).follow [] twoClosings).any (fun reached =>
      decide (Shows reached.1 reached.2 (.closed .clientRequested) (.ok .done))) = true := by
    decide +kernel
  obtain ⟨⟨course, stage⟩, hfollow, hreached⟩ := (Option.any_eq_true _ _).mp hmoves
  have hshows : Shows course stage _ _ := of_decide_eq_true hreached
  obtain ⟨caller, hcaller, -, hclose, htold⟩ := hshows.caller
  have run := Run.start.follow hfollow
  obtain ⟨hearly, hlate⟩ := closes_unless_late run hshows.1 hcaller hclose htold
  have hintime : ¬ Late course caller.number := fun h => by cases hlate h
  exact ⟨course, stage, caller, run, hshows.1, hcaller, hclose, htold, hintime, (hearly hintime).2⟩

/-- A call that closes a session which still goes on, and fails: another has closed it before and
been answered. -/
theorem second_closing_fails :
    ∃ course stage caller, Run (opened fresh none []) course stage ∧ Parting fresh course ∧
      stage.session.state = .ready ∧ stage.session.pending.waiting = [] ∧
        caller ∈ stage.session.callers ∧ caller.request = .close ∧
          caller.phase = .told (.error (.io Transport.writeAfterShutdown)) := by
  have hmoves : ((opened fresh none []).follow [] lateClosing).any (fun reached =>
      decide (Shows reached.1 reached.2 .ready
        (.error (.io Transport.writeAfterShutdown)))) = true := by
    decide +kernel
  obtain ⟨⟨course, stage⟩, hfollow, hreached⟩ := (Option.any_eq_true _ _).mp hmoves
  have hshows : Shows course stage _ _ := of_decide_eq_true hreached
  obtain ⟨caller, hcaller, -, hclose, htold⟩ := hshows.caller
  exact ⟨course, stage, caller, Run.start.follow hfollow, hshows.1, hshows.2.1, hshows.2.2.1,
    hcaller, hclose, htold⟩

end Stage

end EventSocket
