import EventSocket.Proofs.Connection.Outcome

/-!
What a log says about the opening of a session, whatever the switch sends, however it is cut up and
whatever becomes of the transport meanwhile. A session is live only if the switch has let it in;
until then nothing is written but the one command of the handshake, and not before it is asked for.
Once the clock has run out, everything is decided.
-/

namespace EventSocket

section

variable {handshake : Handshake} {log more : List Occurrence}

/-- Everything is written behind the frames that have to be taken first. -/
def WritesAsked (handshake : Handshake) (log : List Occurrence) : Prop :=
  ∀ before bytes, before ++ [.wrote bytes] <+: log → handshake.Asked (tookFrames before)

/-- Nothing is written but the one command, from its first byte on. -/
def WritesOnce (handshake : Handshake) (log : List Occurrence) : Prop :=
  wroteBytes log = [] ∨
    ∃ wire, handshake.command.wire = .ok wire ∧ wroteBytes log <+: Text.codes wire

theorem WritesAsked.append (h : WritesAsked handshake log)
    (hmore : ∀ before bytes, before ++ [.wrote bytes] <+: more →
      handshake.Asked (tookFrames (log ++ before))) : WritesAsked handshake (log ++ more) := by
  intro before bytes hbefore
  -- The write is one of the old log, or it comes behind all of that.
  rcases List.prefix_or_prefix_of_prefix hbefore (List.prefix_append log more) with hold | hnew
  · exact h before bytes hold
  · rcases List.prefix_concat_iff.mp hnew with heq | ⟨between, rfl⟩
    · exact h before bytes (heq ▸ List.prefix_rfl)
    · rw [List.append_assoc, List.prefix_append_right_inj] at hbefore
      exact hmore between bytes hbefore

theorem WritesAsked.append_unwritten (h : WritesAsked handshake log)
    (hmore : ∀ bytes, .wrote bytes ∉ more) : WritesAsked handshake (log ++ more) :=
  h.append fun before bytes hbefore =>
    absurd (hbefore.subset (List.mem_append_right before (List.mem_singleton_self _))) (hmore bytes)

theorem WritesAsked.append_wrote (h : WritesAsked handshake log)
    (hasked : handshake.Asked (tookFrames log)) (bytes : ByteArray) :
    WritesAsked handshake (log ++ [.wrote bytes]) := by
  refine h.append ?_
  intro before bytes' hbefore
  have hlength := hbefore.length_le
  obtain rfl : before = [] := List.eq_nil_of_length_eq_zero (by simpa using hlength)
  rwa [List.append_nil]

end

namespace Opening

variable {plan : OpeningPlan} {began : Nat} {start : Transport}
  {log more occurred : List Occurrence}
  {attempt attempt' : Opening} {turn : OpeningTurn} {now most : Nat}

theorem state_ne_ready (attempt : Opening) : attempt.state ≠ .ready := by
  unfold state
  split <;> simp

theorem state_ne_failed (attempt : Opening) (text : String) : attempt.state ≠ .failed text := by
  unfold state
  split <;> simp

theorem failure_eq_failed (fault : Fault) : ∃ text, failure fault = .failed text := by
  unfold failure
  split <;> exact ⟨_, rfl⟩

/-- What happens beside the handshake does not matter to it. -/
theorem Underway.beside (h : Underway plan began start log attempt) (htook : tookFrames more = [])
    (hheard : heardBytes more = []) (hwrote : wroteBytes more = []) :
    Underway plan began start (log ++ more) attempt where
  handshake := h.handshake
  settings := h.settings
  threads := h.threads
  deadline := h.deadline
  sound := h.sound
  sent := by simpa [hwrote] using h.sent
  follows := by simpa [hheard, htook] using h.follows
  stage := by simpa [Stage, htook, hheard, hwrote] using h.stage

theorem Underway.linked (h : Underway plan began start log attempt) (link : Link) :
    Underway plan began start log { attempt with link } :=
  ⟨h.handshake, h.settings, h.threads, h.deadline, h.sound, h.sent, h.follows, h.stage⟩

theorem Underway.network (h : Underway plan began start log attempt) {transport : Transport}
    (hsent : transport.sent = attempt.transport.sent) :
    Underway plan began start log { attempt with transport } :=
  ⟨h.handshake, h.settings, h.threads, h.deadline, h.sound, hsent ▸ h.sent, h.follows, h.stage⟩

theorem Underway.writesOnce (h : Underway plan began start log attempt) :
    WritesOnce plan.handshake log := by
  have hstage := h.stage
  rw [← h.handshake]
  unfold Stage at hstage
  split at hstage
  · exact Or.inl hstage.2.2
  · exact Or.inl hstage.2.2
  · obtain ⟨-, wire, hwire, hcodes, -⟩ := hstage
    exact Or.inr ⟨wire, hwire, _, hcodes.symm⟩
  · obtain ⟨-, wire, hwire, hwrote⟩ := hstage
    exact Or.inr ⟨wire, hwire, hwrote ▸ List.prefix_rfl⟩

theorem Underway.writesAsked (h : Underway plan began start log attempt)
    (hasked : WritesAsked plan.handshake log) (heffect : attempt.Effect now most turn occurred) :
    WritesAsked plan.handshake (log ++ occurred) := by
  cases heffect with
  | @writes rest hphase =>
    have hstage := h.stage
    simp only [Stage, hphase] at hstage
    exact hasked.append_wrote (h.handshake ▸ hstage.1) _
  | fails hfails => exact hasked.append_unwritten (by cases hfails <;> simp)
  | _ => exact hasked.append_unwritten (by simp)

/-- A bound on the turns that are left while nothing more comes. -/
def stepsLeft (attempt : Opening) : Nat :=
  attempt.transport.available +
    match attempt.phase with
    | .dialing => 3
    | .greeting => 2
    | .sending _ => 1
    | .replying => 0

theorem Effect.stepsLeft_lt (h : attempt.Effect now most (.goesOn attempt') occurred)
    (hread : 0 < most) (hwrite : attempt.unwritten ≤ most) :
    attempt'.stepsLeft < attempt.stepsLeft := by
  cases h with
  | greets hphase => simp [stepsLeft, hphase]
  | connects hphase => simp [stepsLeft, hphase]
  | answers hphase => simp [stepsLeft, hphase]
  | hears hphase hnext hfeed hsome hsent hless =>
    simp only [stepsLeft, hless]
    omega
  | @writes rest hphase =>
    have hrest : (rest.extract most rest.size).isEmpty = true := by
      simp only [unwritten, hphase] at hwrite
      simpa [ByteArray.isEmpty, Nat.sub_eq_zero_iff_le] using hwrite
    simp [stepsLeft, hphase, hrest, Transport.available]

end Opening

namespace Connection

/-- Opening the session has succeeded or failed. -/
def Decided : Connection → Prop
  | live _ | failed _ _ => True
  | _ => False

/-- What a log says about how far a connection has come. -/
inductive Reached (plan : OpeningPlan) (began : Nat) (start : Transport) (log : List Occurrence) :
    Connection → Prop
  | idle (hlog : log = []) : Reached plan began start log (.idle start)
  | opening {attempt : Opening} (hunderway : Opening.Underway plan began start log attempt) :
      Reached plan began start log (.opening attempt)
  | live {session : Session} {data : Option Event} (hgranted : Granted log plan.handshake data)
      (hthreads : plan.threads.refusal? = none) : Reached plan began start log (.live session)
  | failed {attempt : Opening} {now : Nat} {fault : Fault}
      (hsent : octets attempt.transport.sent = octets start.sent ++ wroteBytes log)
      (honce : WritesOnce plan.handshake log)
      (hlast : log.getLast? = some (.published (Opening.failure fault)))
      (hgivesUp : GivesUp plan began log attempt now fault)
      (hrefused : ∀ data, Granted log plan.handshake data →
        ∃ text, plan.threads.refusal? = some text ∧ fault = .io text)
      (hrejected : ∀ text, Rejected log plan.handshake text → fault = .authentication text) :
      Reached plan began start log (.failed attempt.transport.drop fault)
  | abandoned {transport : Transport} {state : SessionState}
      (hsent : octets transport.sent = octets start.sent ++ wroteBytes log)
      (honce : WritesOnce plan.handshake log) :
      Reached plan began start log (.abandoned transport state)

variable {plan : OpeningPlan} {began now : Nat} {start : Transport} {log : List Occurrence}
  {connection connection' : Connection} {move : ConnectionMove} {attempt : Opening}

theorem reached_turn (h : Opening.Underway plan began start log attempt) (now most : Nat) :
    let connection := afterTurn attempt (attempt.turn now most)
    Reached plan began start
      (log ++ (attempt.occurrences most ++ (opening attempt).publication connection))
      connection := by
  intro connection
  have heffect := attempt.turn_effect now most
  rw [← List.append_assoc]
  generalize attempt.occurrences most = occurred at heffect ⊢
  cases hturn : attempt.turn now most with
  | waiting =>
    rw [hturn] at heffect
    cases heffect with
    | waits =>
      simp only [connection, hturn, afterTurn, List.append_nil]
      exact .opening (h.beside (by simp) (by simp) (by simp))
  | goesOn attempt' =>
    rw [hturn] at heffect
    simp only [connection, hturn, afterTurn]
    exact .opening ((h.goesOn heffect).beside (by simp) (by simp) (by simp))
  | ready attempt' data =>
    rw [hturn] at heffect
    simp only [connection, hturn, afterTurn]
    obtain ⟨hgranted, hthreads⟩ := h.granted_of_ready heffect
    exact .live (hgranted.congr (by simp) (by simp)) hthreads
  | fails fault =>
    rw [hturn] at heffect
    cases heffect with
    | fails hfails =>
      -- A turn that fails hears and writes nothing, so the switch had not let the session in.
      obtain ⟨hheard, hwrote⟩ := hfails.unheard
      obtain ⟨text, htext⟩ := Opening.failure_eq_failed fault
      simp only [connection, hturn, afterTurn]
      refine .failed (by simp [h.sent, hwrote]) ?_ ?_
        ((h.givesUp_of_fails hfails).congr (by simp) (by simp)) ?_ ?_
      · simpa [WritesOnce, hwrote] using h.writesOnce
      · have hnew : Opening.failure fault ≠ attempt.state :=
          htext ▸ (attempt.state_ne_failed text).symm
        simp [publication, state, hnew]
      · intro data hgranted
        exact h.refused_of_fails hturn hfails (hgranted.congr (by simp) (by simp))
      · intro text' hrejected
        exact h.rejected_of_fails hturn hfails (hrejected.congr (by simp) (by simp))

theorem Reached.moves (h : Reached plan began start log connection)
    (hmove : Moves plan began connection move connection') :
    Reached plan began start
      (log ++ (connection.occurrences move ++ connection.publication connection')) connection' := by
  cases hmove with
  | start transport =>
    cases h with
    | idle hlog =>
      subst hlog
      exact .opening ((Opening.underway_start plan began start).beside rfl rfl rfl)
  | linked link hphase hpending =>
    cases h with
    | opening hunderway =>
      rw [occurrences, List.nil_append]
      exact .opening ((hunderway.linked link).beside (by simp) (by simp) (by simp))
  | turn attempt now most =>
    cases h with
    | opening hunderway => exact reached_turn hunderway now most
  | leave transport =>
    cases h with
    | idle hlog =>
      subst hlog
      exact .abandoned (by simp [Transport.drop, wroteBytes, occurrences, publication, state])
        (Or.inl rfl)
  | abandon attempt =>
    cases h with
    | opening hunderway =>
      simp only [occurrences, publication, state, ↓reduceIte, List.append_nil]
      exact .abandoned hunderway.sent hunderway.writesOnce
  | network hsent =>
    cases h with
    | opening hunderway =>
      rw [occurrences, List.nil_append]
      exact .opening ((hunderway.network hsent).beside (by simp) (by simp) (by simp))
  | session hmove =>
    cases h with
    | live hgranted hthreads =>
      exact .live (hgranted.congr (by simp [occurrences]) (by simp [occurrences])) hthreads

theorem Run.reached (run : Run plan began start log connection) :
    Reached plan began start log connection := by
  induction run with
  | start => exact .idle rfl
  | step run move hfresh hmove ih => exact ih.moves (moves_of_perform hmove)

theorem Run.writesAsked (run : Run plan began start log connection) :
    WritesAsked plan.handshake log := by
  induction run with
  | start => exact fun before bytes hbefore => absurd (List.prefix_nil.mp hbefore) (by simp)
  | @step log connection connection' run move hfresh hmove ih =>
    rw [← List.append_assoc]
    refine WritesAsked.append_unwritten ?_ (by simp [mem_publication])
    cases moves_of_perform hmove with
    | turn attempt now most =>
      cases run.reached with
      | opening hunderway => exact hunderway.writesAsked ih (attempt.turn_effect now most)
    | _ => exact ih.append_unwritten (by simp [occurrences])

theorem Run.published_ready_iff (run : Run plan began start log connection) :
    .published .ready ∈ log ↔ ∃ session, connection = .live session := by
  induction run with
  | start => simp
  | @step log connection connection' run move hfresh hmove ih =>
    rw [published_mem_step, ih]
    cases moves_of_perform hmove with
    | start transport => simp [state, Opening.state, Opening.start]
    | linked link hphase hpending => simp [state, Opening.state_ne_ready]
    | turn attempt now most =>
      cases attempt.turn now most with
      | waiting => simp [afterTurn, state, Opening.state_ne_ready]
      | goesOn attempt' => simp [afterTurn, state, Opening.state_ne_ready]
      | ready attempt' data =>
        simp [afterTurn, state, Opening.session, (attempt.state_ne_ready).symm]
      | fails fault =>
        obtain ⟨text, htext⟩ := Opening.failure_eq_failed fault
        simp [afterTurn, state, htext]
    | leave transport => simp [state]
    | abandon attempt => simp [state]
    | network hsent => simp [state, Opening.state_ne_ready]
    | session hmove => simp

/-- The turns that an opening takes until it has to wait are moves, and there are enough of them. -/
theorem Run.openingTurns (run : Run plan began start log (.opening attempt)) {turns : Nat}
    (hleft : attempt.stepsLeft < turns) :
    ∃ more, Run plan began start (log ++ more) (takeTurns now turns attempt) ∧
      ((takeTurns now turns attempt).Decided ∨
        ∃ attempt' most, takeTurns now turns attempt = .opening attempt' ∧
          attempt'.turn now most = .waiting ∧ attempt'.Starved ∧ now < attempt'.deadline) := by
  -- Every turn that goes on makes `stepsLeft` smaller, so the bound is not what ends the loop.
  induction turns generalizing log attempt with
  | zero => exact absurd hleft (Nat.not_lt_zero _)
  | succ turns ih =>
    have hread : 0 < max readLimit attempt.unwritten :=
      Nat.lt_of_lt_of_le (by decide) (Nat.le_max_left _ _)
    have hwrite : attempt.unwritten ≤ max readLimit attempt.unwritten := Nat.le_max_right _ _
    have heffect := attempt.turn_effect now (max readLimit attempt.unwritten)
    have hstep := run.step (.turn now (max readLimit attempt.unwritten)) trivial rfl
    rw [takeTurns]
    generalize max readLimit attempt.unwritten = most at *
    cases hturn : attempt.turn now most with
    | waiting =>
      generalize attempt.occurrences most = occurred at heffect
      rw [hturn] at heffect
      cases heffect with
      | waits hstarved hearly =>
        exact ⟨[], by simpa using run, Or.inr ⟨attempt, most, rfl, hturn, hstarved, hearly⟩⟩
    | goesOn attempt' =>
      rw [hturn] at heffect hstep
      have hless := heffect.stepsLeft_lt hread hwrite
      obtain ⟨more, hrun, hend⟩ := ih hstep (by omega)
      rw [List.append_assoc] at hrun
      exact ⟨_, hrun, hend⟩
    | ready attempt' data =>
      rw [hturn] at hstep
      exact ⟨_, hstep, Or.inl trivial⟩
    | fails fault =>
      rw [hturn] at hstep
      exact ⟨_, hstep, Or.inl trivial⟩

theorem stepsLeft_lt_patienceFor (attempt : Opening) : attempt.stepsLeft < patienceFor attempt := by
  unfold Opening.stepsLeft patienceFor
  split <;> omega

/-- Letting an opening go on decides it, or it has to wait for the switch and there is time left. -/
theorem Run.settleOpening (run : Run plan began start log (.opening attempt)) (now : Nat) :
    ∃ more, Run plan began start (log ++ more) ((opening attempt).settleOpening now) ∧
      (((opening attempt).settleOpening now).Decided ∨
        now < began + plan.settings.timeout ∧
          (∀ data, ¬ Granted (log ++ more) plan.handshake data) ∧
          ∃ attempt', (opening attempt).settleOpening now = .opening attempt' ∧
            attempt'.Starved) := by
  obtain ⟨more, hrun, hdecided | ⟨attempt', most, hend, hturn, hstarved, hearly⟩⟩ :=
    run.openingTurns (stepsLeft_lt_patienceFor attempt)
  · exact ⟨more, hrun, Or.inl hdecided⟩
  · refine ⟨more, hrun, Or.inr ?_⟩
    rw [hend] at hrun
    cases hrun.reached with
    | opening hunderway =>
      refine ⟨hunderway.deadline ▸ hearly, ?_, attempt', hend, hstarved⟩
      intro data hgranted
      exact hunderway.not_granted_of_waiting hturn data hgranted

theorem Reached.live_iff_granted (h : Reached plan began start log connection)
    (hdecided : connection.Decided) :
    (∃ session, connection = .live session) ↔
      (∃ data, Granted log plan.handshake data) ∧ plan.threads.refusal? = none := by
  cases h with
  | idle => exact absurd hdecided id
  | opening => exact absurd hdecided id
  | live hgranted hthreads => exact ⟨fun _ => ⟨⟨_, hgranted⟩, hthreads⟩, fun _ => ⟨_, rfl⟩⟩
  | failed hsent honce hlast hgivesUp hrefused =>
    refine ⟨by simp, fun ⟨⟨data, hgranted⟩, hthreads⟩ => ?_⟩
    obtain ⟨text, hrefusal, -⟩ := hrefused data hgranted
    rw [hthreads] at hrefusal
    cases hrefusal
  | abandoned => exact absurd hdecided id

/-- A switch that lets a session in does so in vain if there is no thread for it. -/
theorem Reached.refused (h : Reached plan began start log connection)
    (hdecided : connection.Decided) {data : Option Event} {text : String}
    (hgranted : Granted log plan.handshake data) (hrefusal : plan.threads.refusal? = some text) :
    ∃ transport, connection = .failed transport (.io text) ∧
      log.getLast? = some (.published (Opening.failure (.io text))) := by
  cases h with
  | idle => exact absurd hdecided id
  | opening => exact absurd hdecided id
  | live hgranted hthreads =>
    rw [hthreads] at hrefusal
    cases hrefusal
  | failed hsent honce hlast hgivesUp hrefused =>
    obtain ⟨text', hrefusal', rfl⟩ := hrefused data hgranted
    obtain rfl := Option.some.inj (hrefusal'.symm.trans hrefusal)
    exact ⟨_, rfl, hlast⟩
  | abandoned => exact absurd hdecided id

theorem Reached.writesOnce (h : Reached plan began start log connection) :
    WritesOnce plan.handshake log := by
  cases h with
  | idle hlog => exact Or.inl (hlog ▸ rfl)
  | opening hunderway => exact hunderway.writesOnce
  | live hgranted =>
    obtain ⟨wire, hwire, hwrote⟩ := hgranted.wrote
    exact Or.inr ⟨wire, hwire, hwrote ▸ List.prefix_rfl⟩
  | failed hsent honce => exact honce
  | abandoned hsent honce => exact honce

theorem Reached.sent (h : Reached plan began start log connection)
    (hlive : connection.session? = none) :
    octets connection.transport.sent = octets start.sent ++ wroteBytes log := by
  cases h with
  | idle hlog => simp [hlog, transport, wroteBytes]
  | opening hunderway => exact hunderway.sent
  | live => cases hlive
  | failed hsent => exact hsent
  | abandoned hsent => exact hsent

theorem Reached.rejected (h : Reached plan began start log connection)
    (hdecided : connection.Decided) {text : String}
    (hrejected : Rejected log plan.handshake text) :
    ∃ transport, connection = .failed transport (.authentication text) ∧
      log.getLast? = some (.published (.failed text)) := by
  cases h with
  | idle => exact absurd hdecided id
  | opening => exact absurd hdecided id
  | live hgranted => exact absurd hrejected hgranted.not_rejected
  | failed hsent honce hlast hgivesUp hdenied hfault =>
    obtain rfl := hfault text hrejected
    exact ⟨_, rfl, hlast⟩
  | abandoned => exact absurd hdecided id

end Connection

end EventSocket
