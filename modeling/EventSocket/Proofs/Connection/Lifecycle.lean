import EventSocket.Proofs.Connection.Admission
import EventSocket.Proofs.Session.Ending
import EventSocket.Proofs.Session.Settlement

/-!
The life of a session as it is published, by the opening and then by the reader. Every state is
published once and in one order; an end is final, and behind it nothing is handed on or taken up.
-/

namespace EventSocket

namespace SessionState

variable {state state' : SessionState} {states : List SessionState}

/-- The states that can follow one another. -/
inductive Next : SessionState → SessionState → Prop
  | connecting : Next .disconnected .connecting
  | unreached (text : String) : Next .connecting (.failed text)
  | handshaking : Next .connecting .handshaking
  | refused (text : String) : Next .handshaking (.failed text)
  | ready : Next .handshaking .ready
  | closed (reason : EndReason) : Next .ready (.closed reason)

/-- All that can have been published of a life, from the state before it on. -/
inductive Course : List SessionState → Prop
  | disconnected : Course [.disconnected]
  | connecting : Course [.disconnected, .connecting]
  | unreached (text : String) : Course [.disconnected, .connecting, .failed text]
  | handshaking : Course [.disconnected, .connecting, .handshaking]
  | refused (text : String) : Course [.disconnected, .connecting, .handshaking, .failed text]
  | ready : Course [.disconnected, .connecting, .handshaking, .ready]
  | closed (reason : EndReason) :
      Course [.disconnected, .connecting, .handshaking, .ready, .closed reason]

theorem Course.next (h : Course states) (hlast : states.getLast? = some state)
    (hnext : Next state state') : Course (states ++ [state']) := by
  cases h <;> obtain rfl := Option.some.inj hlast <;> cases hnext
  case disconnected => exact .connecting
  case connecting.unreached => exact .unreached _
  case connecting.handshaking => exact .handshaking
  case handshaking.refused => exact .refused _
  case handshaking.ready => exact .ready
  case ready => exact .closed _

theorem Next.not_terminal (h : Next state state') : state.isTerminal = false := by
  cases h <;> rfl

end SessionState

/-- The end of a session is published. -/
def Occurrence.closes : Occurrence → Bool
  | published (.closed _) => true
  | _ => false

/-- What has occurred since the end of the session was published. -/
def sinceClosed (log : List Occurrence) : List Occurrence :=
  log.dropWhile fun occurrence => !occurrence.closes

section

variable {log more : List Occurrence} {happenings : List Happening} {happening : Happening}

@[simp]
theorem happeningsIn_within (happenings : List Happening) :
    happeningsIn (happenings.map .within) = happenings := by
  simp [happeningsIn, Occurrence.happening?, List.filterMap_map, Function.comp_def]

@[simp]
theorem happeningsIn_publication (connection connection' : Connection) :
    happeningsIn (connection.publication connection') = [] := by
  unfold Connection.publication
  split <;> rfl

theorem happeningsIn_occurrences (attempt : Opening) (most : Nat) :
    happeningsIn (attempt.occurrences most) = [] := by
  unfold Opening.occurrences Opening.awaitOccurrences
  repeat' split
  all_goals rfl

theorem statesIn_step (connection connection' : Connection) (move : ConnectionMove) :
    statesIn (log ++ (connection.occurrences move ++ connection.publication connection')) =
      statesIn log ++ if connection'.state = connection.state then [] else [connection'.state] := by
  have hnone : (connection.occurrences move).filterMap Occurrence.state? = [] := by
    rw [List.filterMap_eq_nil_iff]
    intro occurrence hmem
    cases occurrence with
    | published state => exact absurd hmem (connection.not_published_occurrences move state)
    | _ => rfl
  unfold statesIn Connection.publication
  split <;> simp [hnone, Occurrence.state?]

theorem sinceClosed_eq_nil_iff :
    sinceClosed log = [] ↔ ∀ reason, .published (.closed reason) ∉ log := by
  rw [sinceClosed, List.dropWhile_eq_nil_iff]
  constructor
  · intro h reason hmem
    exact absurd (h _ hmem) (by simp [Occurrence.closes])
  · intro h occurrence hmem
    unfold Occurrence.closes
    split
    · exact absurd hmem (h _)
    · rfl

theorem mem_happeningsIn_of_sinceClosed (h : .within happening ∈ sinceClosed log) :
    happening ∈ happeningsIn log :=
  List.mem_filterMap.mpr ⟨_, (List.dropWhile_sublist _).subset h, rfl⟩

/-- What happens in a session is since its end only if the end has been published before. -/
theorem mem_sinceClosed_append (hmore : ∀ other, .within other ∉ more)
    (h : .within happening ∈ sinceClosed (log ++ (happenings.map .within ++ more))) :
    .within happening ∈ sinceClosed log ∨ sinceClosed log ≠ [] ∧ happening ∈ happenings := by
  unfold sinceClosed at *
  rw [List.dropWhile_append] at h
  split at h
  · rw [List.dropWhile_append_of_pos (by simp [Occurrence.closes])] at h
    exact absurd ((List.dropWhile_sublist _).subset h) (hmore happening)
  · next hsome =>
    rcases List.mem_append.mp h with hold | hnew
    · exact Or.inl hold
    · rcases List.mem_append.mp hnew with hwithin | hlast
      · exact Or.inr ⟨by simpa using hsome, by simpa using hwithin⟩
      · exact absurd hlast (hmore happening)

end

open SessionState

theorem Opening.state_ne_closed (attempt : Opening) (reason : EndReason) :
    attempt.state ≠ .closed reason := by
  unfold state
  split <;> simp

theorem Opening.next_of_effect {attempt : Opening} {now most : Nat} {turn : OpeningTurn}
    {occurred : List Occurrence} (h : attempt.Effect now most turn occurred) :
    (Connection.afterTurn attempt turn).state = attempt.state ∨
      Next attempt.state (Connection.afterTurn attempt turn).state := by
  cases h with
  | greets hphase =>
    simp only [Connection.afterTurn, Connection.state, state, hphase]
    exact Or.inr .handshaking
  | connects hphase =>
    simp only [Connection.afterTurn, Connection.state, state, hphase]
    exact Or.inr .handshaking
  | answers hphase =>
    simp only [Connection.afterTurn, Connection.state, state, hphase]
    exact Or.inl trivial
  | hears => exact Or.inl rfl
  | @writes rest hphase =>
    by_cases hempty : (rest.extract most rest.size).isEmpty
    · simp [Connection.afterTurn, Connection.state, state, hphase, hempty]
    · simp [Connection.afterTurn, Connection.state, state, hphase, hempty]
  | admitted hphase =>
    simp only [Connection.afterTurn, Connection.state, state, session, hphase]
    exact Or.inr .ready
  | waits => exact Or.inl rfl
  | @fails fault _ hfails =>
    obtain ⟨text, htext⟩ := failure_eq_failed fault
    simp only [Connection.afterTurn, Connection.state, state, htext]
    split
    · exact Or.inr (.unreached text)
    · exact Or.inr (.refused text)
    · exact Or.inr (.refused text)
    · exact Or.inr (.refused text)

namespace Connection

variable {plan : OpeningPlan} {began : Nat} {start : Transport} {log : List Occurrence}
  {connection connection' : Connection} {move : ConnectionMove}

/-- What has become of a session agrees with the log of the connection. -/
structure Keeps (log : List Occurrence) (session : Session) : Prop where
  living : session.Living
  run : ∃ attempt channelData,
    (Opening.session attempt channelData).Run (happeningsIn log) session
  closed : ∀ reason, .published (.closed reason) ∈ log → ∃ reason, session.state = .closed reason
  unrouted : ∀ frame, .within (.routed frame) ∉ sinceClosed log
  late : ∀ number, .within (.called number) ∈ sinceClosed log →
    session.NotInLine number ∧ Session.Silent (happeningsIn log) number

/-- Nothing has happened in a session before there is one. -/
inductive Lived (log : List Occurrence) : Connection → Prop
  | sessionless {connection : Connection} (hnone : connection.session? = none)
      (hnothing : happeningsIn log = [])
      (hopen : ∀ reason, .published (.closed reason) ∉ log) : Lived log connection
  | live {session : Session} (hkeeps : Keeps log session) : Lived log (.live session)

theorem Keeps.perform {session session' : Session} {move : Move} (h : Keeps log session)
    (hfresh : move.Fresh (happeningsIn log)) (hmove : session.perform move = some session') :
    Keeps (log ++ ((session.happenings move).map .within ++
      (live session).publication (live session'))) session' := by
  obtain ⟨attempt, channelData, hrun⟩ := h.run
  have hcoherent := Session.coherent_session hrun
  have hafter : ∀ other, .within other ∉ (live session).publication (live session') := by
    simp [mem_publication]
  have hlives := Session.lives_perform hmove
  have hstays : ∀ reason, session.state = .closed reason → session'.state = .closed reason := by
    intro reason hclosed
    cases hlives with
    | goesOn hstate => exact hstate.trans hclosed
    | ends hrunning => exact absurd hrunning (h.living.not_running hclosed)
  have hclosed : sinceClosed log ≠ [] → ∃ reason, session.state = .closed reason := by
    intro hsome
    rw [ne_eq, sinceClosed_eq_nil_iff, not_forall] at hsome
    obtain ⟨reason, hmem⟩ := hsome
    exact h.closed reason (not_not.mp hmem)
  constructor
  case living => exact h.living.perform hmove
  case run => exact ⟨attempt, channelData, by simpa using hrun.step move hfresh hmove⟩
  case closed =>
    intro reason hmem
    rcases published_mem_step.mp (show _ ∈ log ++ ((live session).occurrences (.session move) ++ _)
      from hmem) with hold | ⟨-, hnew⟩
    · obtain ⟨reason', hreason⟩ := h.closed reason hold
      exact ⟨reason', hstays reason' hreason⟩
    · exact ⟨reason, hnew⟩
  case unrouted =>
    intro frame hmem
    rcases mem_sinceClosed_append hafter hmem with hold | ⟨hsome, hnew⟩
    · exact h.unrouted frame hold
    · obtain ⟨reason, hreason⟩ := hclosed hsome
      exact h.living.not_running hreason (Session.comes_of_mem hnew)
  case late =>
    intro number hmem
    rw [happeningsIn_append, happeningsIn_append, happeningsIn_within, happeningsIn_publication,
      List.append_nil]
    -- A number is late by this very call, or it has been late before and is still not in line.
    by_cases hcalled : .called number ∈ session.happenings move
    · obtain ⟨request, rfl⟩ := Session.comes_of_mem hcalled
      obtain rfl := Option.some.inj hmove
      rcases mem_sinceClosed_append hafter hmem with hold | ⟨hsome, -⟩
      · exact absurd (mem_happeningsIn_of_sinceClosed hold) hfresh
      · obtain ⟨reason, hreason⟩ := hclosed hsome
        exact hcoherent.notInLine_call hreason hfresh request
    · rcases mem_sinceClosed_append hafter hmem with hold | ⟨-, hnew⟩
      · obtain ⟨hline, hsilent⟩ := h.late number hold
        obtain ⟨hline', hsilent'⟩ := hline.perform hcoherent hfresh hmove hcalled
        exact ⟨hline', hsilent.append hsilent'⟩
      · exact absurd hnew hcalled

/-- A session that has just become ready has not been heard of before. -/
theorem keeps_session {attempt : Opening} {channelData : Option Event}
    (hnothing : happeningsIn log = []) (hopen : ∀ reason, .published (.closed reason) ∉ log) :
    Keeps log (attempt.session channelData) := by
  have hsince := sinceClosed_eq_nil_iff.mpr hopen
  constructor
  case living => exact .ready rfl rfl
  case run => exact ⟨attempt, channelData, hnothing ▸ .start⟩
  case closed => exact fun reason hmem => absurd hmem (hopen reason)
  case unrouted => simp [hsince]
  case late => simp [hsince]

/-- Before there is a session, a move ends none; if it makes one, that is new. -/
theorem Moves.sessionless (h : Moves plan began connection move connection')
    (hnone : connection.session? = none) :
    happeningsIn (connection.occurrences move) = [] ∧
      (∀ reason, connection'.state ≠ .closed reason) ∧
      (connection'.session? = none ∨
        ∃ attempt channelData, connection' = .live (Opening.session attempt channelData)) := by
  cases h with
  | start transport => exact ⟨rfl, by simp [state, Opening.state_ne_closed], Or.inl rfl⟩
  | linked link hphase hpending =>
    exact ⟨rfl, by simp [state, Opening.state_ne_closed], Or.inl rfl⟩
  | turn attempt now most =>
    refine ⟨happeningsIn_occurrences attempt most, ?_⟩
    cases attempt.turn now most with
    | waiting => exact ⟨by simp [afterTurn, state, Opening.state_ne_closed], Or.inl rfl⟩
    | goesOn attempt' => exact ⟨by simp [afterTurn, state, Opening.state_ne_closed], Or.inl rfl⟩
    | ready attempt' channelData =>
      exact ⟨by simp [afterTurn, state, Opening.session], Or.inr ⟨attempt', channelData, rfl⟩⟩
    | fails fault =>
      obtain ⟨text, htext⟩ := Opening.failure_eq_failed fault
      exact ⟨by simp [afterTurn, state, htext], Or.inl rfl⟩
  | leave transport => exact ⟨rfl, by simp [state], Or.inl rfl⟩
  | abandon attempt => exact ⟨rfl, by simp [state, Opening.state_ne_closed], Or.inl rfl⟩
  | network hsent => exact ⟨rfl, by simp [state, Opening.state_ne_closed], Or.inl rfl⟩
  | session hmove => cases hnone

theorem Lived.moves (h : Lived log connection) (hfresh : move.Fresh log)
    (hmove : Moves plan began connection move connection') :
    Lived (log ++ (connection.occurrences move ++ connection.publication connection'))
      connection' := by
  cases h with
  | sessionless hnone hnothing hopen =>
    obtain ⟨hquiet, hstate, hend⟩ := hmove.sessionless hnone
    have hnothing' : happeningsIn (log ++ (connection.occurrences move ++
        connection.publication connection')) = [] := by
      simp [hnothing, hquiet]
    have hopen' : ∀ reason, .published (.closed reason) ∉
        log ++ (connection.occurrences move ++ connection.publication connection') := by
      intro reason hmem
      rcases published_mem_step.mp hmem with hold | ⟨-, hnew⟩
      · exact hopen reason hold
      · exact hstate reason hnew
    rcases hend with hnone' | ⟨attempt, channelData, rfl⟩
    · exact .sessionless hnone' hnothing' hopen'
    · exact .live (keeps_session hnothing' hopen')
  | live hkeeps =>
    cases hmove with
    | session hmove => exact .live (hkeeps.perform hfresh hmove)

theorem Run.lived (run : Run plan began start log connection) : Lived log connection := by
  induction run with
  | start => exact .sessionless rfl rfl (by simp)
  | step run move hfresh hmove ih => exact ih.moves hfresh (moves_of_perform hmove)

theorem Moves.next (h : Moves plan began connection move connection')
    (hliving : ∀ session, connection = .live session → session.Living) :
    connection'.state = connection.state ∨ Next connection.state connection'.state := by
  cases h with
  | start transport => exact Or.inr .connecting
  | linked link hphase hpending => exact Or.inl rfl
  | turn attempt now most => exact Opening.next_of_effect (attempt.turn_effect now most)
  | leave transport => exact Or.inl rfl
  | abandon attempt => exact Or.inl rfl
  | network hsent => exact Or.inl rfl
  | @session session session' _ hmove =>
    -- Only a running reader ends a session, and then the session is ready.
    cases Session.lives_perform hmove with
    | goesOn hstate => exact Or.inl hstate
    | @ends reason hrunning hstate =>
      cases hliving session rfl with
      | ready hready =>
        simp only [state, hready, hstate]
        exact Or.inr (.closed reason)
      | closed hclosed =>
        exact absurd hrunning ((hliving session rfl).not_running hclosed)

theorem Run.living {session : Session} (run : Run plan began start log (.live session)) :
    session.Living := by
  cases run.lived with
  | sessionless hnone => cases hnone
  | live hkeeps => exact hkeeps.living

theorem Run.course (run : Run plan began start log connection) :
    Course (statesIn log) ∧ (statesIn log).getLast? = some connection.state := by
  induction run with
  | start => exact ⟨.disconnected, rfl⟩
  | step run move hfresh hmove ih =>
    obtain ⟨hcourse, hlast⟩ := ih
    have hnext := (moves_of_perform hmove).next fun session hlive => (hlive ▸ run).living
    rw [statesIn_step]
    rcases hnext with hsame | hnext
    · rw [if_pos hsame, List.append_nil]
      exact ⟨hcourse, hsame ▸ hlast⟩
    · split
      · next hsame =>
        rw [List.append_nil]
        exact ⟨hcourse, hsame ▸ hlast⟩
      · exact ⟨hcourse.next hlast hnext, List.getLast?_concat⟩

/-- The life of a session on a connection, as published, and what an end puts an end to. -/
structure Lifecycle (plan : OpeningPlan) (began : Nat) (log : List Occurrence)
    (connection : Connection) : Prop where
  course : Course (statesIn log)
  current : (statesIn log).getLast? = some connection.state
  final : connection.state.isTerminal = true → ∀ move connection',
    connection.perform plan began move = some connection' → connection'.state = connection.state
  unrouted : ∀ frame, .within (.routed frame) ∉ sinceClosed log
  handsOnNothing : ∀ session reason, connection = .live session → session.state = .closed reason →
    ∀ move session', session.perform move = some session' → session.HandsOnNothing session'
  refuses : ∀ session reason number request, connection = .live session →
    session.state = .closed reason → .called number ∉ happeningsIn log →
    request.Submits →
      session.call number request =
        { session with
          callers := session.callers ++ [⟨number, request, .told (.error .connectionClosed)⟩] }
  /-- Whoever calls behind the end never lines up for a reply. -/
  unentered : ∀ number, .within (.called number) ∈ sinceClosed log →
    ∀ send ∈ sends (happeningsIn log), send.number ≠ number

theorem lifecycle (run : Run plan began start log connection) :
    Lifecycle plan began log connection where
  course := run.course.1
  current := run.course.2
  final := by
    intro hterminal move connection' hmove
    have hmoves := moves_of_perform hmove
    rcases hmoves.next fun session hlive => (hlive ▸ run).living with hsame | hnext
    · exact hsame
    · rw [hnext.not_terminal] at hterminal
      cases hterminal
  unrouted := by
    cases run.lived with
    | sessionless hnone hnothing hopen => simp [sinceClosed_eq_nil_iff.mpr hopen]
    | live hkeeps => exact hkeeps.unrouted
  handsOnNothing := by
    rintro session reason rfl hclosed move session' hmove
    exact Session.handsOnNothing_perform (run.living.not_running hclosed) hmove
  refuses := by
    rintro session reason number request rfl hclosed hfresh hsubmits
    cases run.lived with
    | sessionless hnone => cases hnone
    | live hkeeps =>
      obtain ⟨attempt, channelData, hrun⟩ := hkeeps.run
      have hnumbered := (Session.coherent_session hrun).numbered
      exact Session.call_of_closed hclosed (hnumbered.not_mem_numbers hfresh) hsubmits
  unentered := by
    intro number hlate
    cases run.lived with
    | sessionless hnone hnothing hopen => simp [sinceClosed_eq_nil_iff.mpr hopen] at hlate
    | live hkeeps => exact (hkeeps.late number hlate).2

/-- The switch hangs up on a session that has just become ready, and a caller comes too late. -/
def hangUpMoves : List ConnectionMove :=
  passwordMoves ++
    [.session (.network { Transport.new with ended := true, sent := "auth ClueCon\n\n".toUTF8 }),
      .session (.reader 4 readLimit), .session (.call 7 (.api "status"))]

theorem lifecycle_hang_up :
    ∃ log connection, Run passwordPlan 0 willingPeer log connection ∧
      statesIn log = [.disconnected, .connecting, .handshaking, .ready, .closed .connectionClosed] ∧
      sinceClosed log = [.published (.closed .connectionClosed), .within (.called 7)] ∧
      Lifecycle passwordPlan 0 log connection := by
  have hmoves : ((Connection.idle willingPeer).follow passwordPlan 0 [] hangUpMoves).map
      (fun reached => (statesIn reached.1, sinceClosed reached.1)) =
      some ([.disconnected, .connecting, .handshaking, .ready, .closed .connectionClosed],
        [.published (.closed .connectionClosed), .within (.called 7)]) := by
    decide +kernel
  obtain ⟨⟨log, connection⟩, hfollow, hreached⟩ := Option.map_eq_some_iff.mp hmoves
  obtain ⟨hstates, hsince⟩ := Prod.mk.inj hreached
  have run := Run.start.follow hfollow
  exact ⟨log, connection, run, hstates, hsince, lifecycle run⟩

end Connection

end EventSocket
