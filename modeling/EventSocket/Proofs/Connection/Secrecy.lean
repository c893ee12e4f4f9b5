import EventSocket.Proofs.Connection.Beside
import EventSocket.Proofs.Connection.HandOver

/-!
Runs side by side that differ in the secret of their credentials, from the opening to the end of
the session. Whatever is published, returned, told to callers or handed to listeners is the same in
both, and so is what is written but for the one line with the secret.
-/

namespace EventSocket

/-- The line that a handshake sends, if it can be sent. -/
def Handshake.line (handshake : Handshake) : ByteArray :=
  match handshake.command.wire with
  | .ok wire => wire.toUTF8
  | .error _ => ByteArray.empty

/-- Behind what was sent before come the line of the handshake, or the part of it that has been
written, and then these bytes; and none of them before the line is complete. -/
def Handshake.Leads (handshake : Handshake) (before sent : ByteArray) (later : List UInt8) : Prop :=
  ∃ line, line <+: octets handshake.line ∧ octets sent = octets before ++ line ++ later ∧
    (later ≠ [] → line = octets handshake.line)

section Logs

variable {log log' : List Occurrence}

theorem happeningsIn_besideLine (log : List Occurrence) :
    happeningsIn (besideLine log) = happeningsIn log := by
  rw [happeningsIn, besideLine, List.filterMap_filter]
  congr 1
  funext occurrence
  cases occurrence <;> rfl

theorem statesIn_besideLine (log : List Occurrence) :
    statesIn (besideLine log) = statesIn log := by
  rw [statesIn, besideLine, List.filterMap_filter]
  congr 2
  funext occurrence
  cases occurrence <;> rfl

theorem happeningsIn_congr (h : besideLine log = besideLine log') :
    happeningsIn log = happeningsIn log' := by
  rw [← happeningsIn_besideLine, h, happeningsIn_besideLine]

theorem statesIn_congr (h : besideLine log = besideLine log') : statesIn log = statesIn log' := by
  rw [← statesIn_besideLine, h, statesIn_besideLine]

theorem ConnectionMove.Alike.fresh {connection connection' : Connection}
    {move move' : ConnectionMove}
    (hmove : ConnectionMove.Alike connection connection' move move')
    (hlog : happeningsIn log = happeningsIn log') : move.Fresh log ↔ move'.Fresh log' := by
  cases hmove with
  | session move => exact iff_of_eq (congrArg move.Fresh hlog)
  | _ => exact Iff.rfl

end Logs

def Session.unsent (session : Session) : Session :=
  { session with transport := session.transport.sending ByteArray.empty }

namespace Connection

def fault? : Connection → Option Fault
  | failed _ fault => some fault
  | _ => none

/-- What callers have been told, responses with the texts of their commands among it. -/
def results : Connection → List (Nat × Except Fault Answer)
  | live session => session.callers.filterMap fun caller =>
    match caller.phase with
    | .told result => some (caller.number, result)
    | _ => none
  | _ => []

/-- What these listeners are told when it is their turn. -/
def callbacks (listeners : List Listener) (audience : Audience) : Connection → Option Audience
  | live session => some (session.dispatcher.deliver listeners audience).2
  | _ => none

/-- Two runs by one plan, with one secret and with the other, on which the switch and the callers do
the same at the same time. -/
inductive SideBySide (plan : OpeningPlan) (secret secret' : String) (began : Nat)
    (start : Transport) : List Occurrence → Connection → List Occurrence → Connection → Prop
  | start : SideBySide plan secret secret' began start [] (.idle start) [] (.idle start)
  | step {log log' : List Occurrence} {connection connection' next next' : Connection}
      {move move' : ConnectionMove}
      (runs : SideBySide plan secret secret' began start log connection log' connection')
      (halike : ConnectionMove.Alike connection connection' move move')
      (hfresh : move.Fresh log) (hfresh' : move'.Fresh log')
      (hmove : connection.perform (plan.withSecret secret) began move = some next)
      (hmove' : connection'.perform (plan.withSecret secret') began move' = some next') :
      SideBySide plan secret secret' began start
        (log ++ (connection.occurrences move ++ connection.publication next)) next
        (log' ++ (connection'.occurrences move' ++ connection'.publication next')) next'

variable {plan : OpeningPlan} {secret secret' : String} {began : Nat} {start : Transport}
  {log log' : List Occurrence} {connection connection' next : Connection}
  {front front' : ByteArray} {move move' : ConnectionMove}

theorem SideBySide.left
    (runs : SideBySide plan secret secret' began start log connection log' connection') :
    Run (plan.withSecret secret) began start log connection := by
  induction runs with
  | start => exact .start
  | step _ _ hfresh _ hmove _ ih => exact .step ih _ hfresh hmove

theorem SideBySide.right
    (runs : SideBySide plan secret secret' began start log connection log' connection') :
    Run (plan.withSecret secret') began start log' connection' := by
  induction runs with
  | start => exact .start
  | step _ _ _ hfresh' _ hmove' ih => exact .step ih _ hfresh' hmove'

theorem octets_line {handshake : Handshake} {wire : String}
    (h : handshake.command.wire = .ok wire) :
    octets handshake.line = Text.codes wire := by
  simp only [Handshake.line, h]
  rfl

/-- An opening that waits for the reply has sent the whole line, and nothing else. -/
theorem Run.hasSent (run : Run plan began start log connection) :
    connection.HasSent (start.sent ++ plan.handshake.line) := by
  rintro attempt rfl hphase
  have hunderway := run.underway
  have hstage := hunderway.stage
  simp only [Opening.Stage, hphase] at hstage
  obtain ⟨-, wire, hwire, hwrote⟩ := hstage
  rw [hunderway.handshake] at hwire
  apply octets_injective
  rw [hunderway.sent, hwrote, octets_append, octets_line hwire]

theorem Run.leads (run : Run plan began start log connection) (hnone : connection.session? = none) :
    plan.handshake.Leads start.sent connection.transport.sent [] := by
  refine ⟨wroteBytes log, ?_, ?_, absurd rfl⟩
  · rcases run.reached.writesOnce with hnothing | ⟨wire, hwire, hpart⟩
    · rw [hnothing]
      exact List.nil_prefix
    · rwa [octets_line hwire]
  · rw [List.append_nil]
    exact run.reached.sent hnone

/-- The two runs stay alike, and so does what occurs on them. -/
theorem SideBySide.alike (hbreaks : Text.OneLine secret ↔ Text.OneLine secret')
    (runs : SideBySide plan secret secret' began start log connection log' connection') :
    connection.Alike secret secret' (start.sent ++ (plan.withSecret secret).handshake.line)
        (start.sent ++ (plan.withSecret secret').handshake.line) connection' ∧
      besideLine log = besideLine log' := by
  induction runs with
  | start => exact ⟨.idle start, rfl⟩
  | step runs hmoves hfresh hfresh' hmove hmove' ih =>
    obtain ⟨halike, hlog⟩ := ih
    have hnext := halike.perform hbreaks runs.left.hasSent runs.right.hasSent hmoves plan began
    rw [hmove, hmove'] at hnext
    cases hnext with
    | some hnext =>
      refine ⟨hnext, ?_⟩
      rw [besideLine_append, besideLine_append, besideLine_append, besideLine_append, hlog,
        halike.occurrences hmoves, publication_congr halike.state hnext.state]

/-- The second run can go on wherever the first does. -/
theorem SideBySide.goesOn (hbreaks : Text.OneLine secret ↔ Text.OneLine secret')
    (runs : SideBySide plan secret secret' began start log connection log' connection')
    (hfresh : move.Fresh log)
    (hmove : connection.perform (plan.withSecret secret) began move = some next) :
    ∃ move' next', ConnectionMove.Alike connection connection' move move' ∧ move'.Fresh log' ∧
      connection'.perform (plan.withSecret secret') began move' = some next' := by
  obtain ⟨halike, hlog⟩ := runs.alike hbreaks
  obtain ⟨move', hmoves⟩ := halike.exists_move hmove
  have hnext := halike.perform hbreaks runs.left.hasSent runs.right.hasSent hmoves plan began
  rw [hmove] at hnext
  generalize hmove' : connection'.perform (plan.withSecret secret') began move' = after at hnext
  cases hnext with
  | some hnext =>
    have hfresh' := (hmoves.fresh (happeningsIn_congr hlog)).mp hfresh
    exact ⟨move', _, hmoves, hfresh', hmove'⟩

/-- Beside every run there is one with the other secret. -/
theorem Run.beside (hbreaks : Text.OneLine secret ↔ Text.OneLine secret')
    (run : Run (plan.withSecret secret) began start log connection) :
    ∃ log' connection',
      SideBySide plan secret secret' began start log connection log' connection' := by
  induction run with
  | start => exact ⟨[], .idle start, .start⟩
  | step run move hfresh hmove ih =>
    obtain ⟨log', connection', runs⟩ := ih
    obtain ⟨move', next', hmoves, hfresh', hmove'⟩ := runs.goesOn hbreaks hfresh hmove
    exact ⟨_, _, .step runs hmoves hfresh hfresh' hmove hmove'⟩

/-- Openings that are let go on write a whole line at once, and so stay side by side. -/
theorem SideBySide.openingTurns (hbreaks : Text.OneLine secret ↔ Text.OneLine secret')
    {attempt attempt' : Opening}
    (runs : SideBySide plan secret secret' began start log (.opening attempt) log'
      (.opening attempt')) (now turns : Nat) :
    ∃ more more', SideBySide plan secret secret' began start (log ++ more)
      (takeTurns now turns attempt) (log' ++ more') (takeTurns now turns attempt') := by
  induction turns generalizing log log' attempt attempt' with
  | zero => exact ⟨[], [], by simpa [takeTurns] using runs⟩
  | succ turns ih =>
    cases (runs.alike hbreaks).1 with
    | opening halike =>
      obtain ⟨hsame, hdone⟩ := halike.paced
      have hturns := Opening.turn_alike hbreaks halike hsame hdone now
      have hstep := runs.step (.turn now hsame hdone) trivial trivial rfl rfl
      rw [takeTurns, takeTurns]
      generalize max readLimit attempt.unwritten = most at *
      generalize max readLimit attempt'.unwritten = most' at *
      generalize attempt.turn now most = outcome at *
      generalize attempt'.turn now most' = outcome' at *
      cases hturns with
      | waiting => exact ⟨[], [], by simpa using runs⟩
      | goesOn halike' =>
        obtain ⟨more, more', hruns⟩ := ih hstep
        rw [List.append_assoc log, List.append_assoc log'] at hruns
        exact ⟨_, _, hruns⟩
      | ready halike' data => exact ⟨_, _, hstep⟩
      | fails fault => exact ⟨_, _, hstep⟩

theorem SideBySide.settleOpening (hbreaks : Text.OneLine secret ↔ Text.OneLine secret')
    (runs : SideBySide plan secret secret' began start log connection log' connection')
    (now : Nat) :
    ∃ more more', SideBySide plan secret secret' began start (log ++ more)
      (connection.settleOpening now) (log' ++ more') (connection'.settleOpening now) := by
  cases (runs.alike hbreaks).1 with
  | @opening attempt attempt' halike =>
    have hpatience : patienceFor attempt = patienceFor attempt' := by
      cases halike
      rfl
    simp only [Connection.settleOpening, ← hpatience]
    exact runs.openingTurns hbreaks now (patienceFor attempt)
  | _ => exact ⟨[], [], by simpa [Connection.settleOpening] using runs⟩

theorem leads_of_front {handshake : Handshake} {before : ByteArray} (later : ByteArray) :
    handshake.Leads before ((before ++ handshake.line) ++ later) (octets later) :=
  ⟨octets handshake.line, List.prefix_rfl, by simp, fun _ => rfl⟩

/-- Nothing but the line with the secret tells the two runs apart. -/
structure Indistinct (plan : OpeningPlan) (secret secret' : String) (began : Nat)
    (start : Transport) (log : List Occurrence) (connection : Connection) (log' : List Occurrence)
    (connection' : Connection) : Prop where
  summary : (plan.withSecret secret).handshake.command.summary =
    (plan.withSecret secret').handshake.command.summary
  record : (plan.withSecret secret).handshake.command.record =
    (plan.withSecret secret').handshake.command.record
  states : statesIn log = statesIn log'
  occurrences : besideLine log = besideLine log'
  fault : connection.fault? = connection'.fault?
  session : connection.session?.map Session.unsent = connection'.session?.map Session.unsent
  results : connection.results = connection'.results
  callbacks : ∀ listeners audience,
    connection.callbacks listeners audience = connection'.callbacks listeners audience
  written : ∃ later,
    (plan.withSecret secret).handshake.Leads start.sent connection.transport.sent later ∧
    (plan.withSecret secret').handshake.Leads start.sent connection'.transport.sent later
  /-- What can be done on the one run can be done on the other. -/
  goesOn : ∀ move next, move.Fresh log →
    connection.perform (plan.withSecret secret) began move = some next →
    ∃ move' next', ConnectionMove.Alike connection connection' move move' ∧ move'.Fresh log' ∧
      connection'.perform (plan.withSecret secret') began move' = some next'
  /-- Openings that are let go on stay side by side. -/
  settles : ∀ now, ∃ more more', SideBySide plan secret secret' began start (log ++ more)
    (connection.settleOpening now) (log' ++ more') (connection'.settleOpening now)

/-- What is written of the line, and behind it. -/
theorem SideBySide.written (hbreaks : Text.OneLine secret ↔ Text.OneLine secret')
    (runs : SideBySide plan secret secret' began start log connection log' connection') :
    ∃ later,
      (plan.withSecret secret).handshake.Leads start.sent connection.transport.sent later ∧
      (plan.withSecret secret').handshake.Leads start.sent connection'.transport.sent later := by
  have hleads := runs.left.leads
  have hleads' := runs.right.leads
  cases (runs.alike hbreaks).1 with
  | live base =>
    exact ⟨octets base.transport.sent, leads_of_front _, leads_of_front _⟩
  | _ => exact ⟨[], hleads rfl, hleads' rfl⟩

theorem command_withSecret (handshake : Handshake) (secret secret' : String) :
    (handshake.withSecret secret).command.summary =
        (handshake.withSecret secret').command.summary ∧
      (handshake.withSecret secret).command.record =
        (handshake.withSecret secret').command.record := by
  cases handshake with
  | outbound => exact ⟨rfl, rfl⟩
  | inbound credentials => cases credentials <;> exact ⟨rfl, rfl⟩

/-- Secrets influence nothing but the line they are sent in. -/
theorem secret_only_in_line (hbreaks : Text.OneLine secret ↔ Text.OneLine secret')
    (runs : SideBySide plan secret secret' began start log connection log' connection') :
    Indistinct plan secret secret' began start log connection log' connection' := by
  obtain ⟨halike, hlog⟩ := runs.alike hbreaks
  obtain ⟨hsummary, hrecord⟩ := command_withSecret plan.handshake secret secret'
  constructor
  case summary => exact hsummary
  case record => exact hrecord
  case states => exact statesIn_congr hlog
  case occurrences => exact hlog
  case fault => cases halike <;> rfl
  case session => cases halike <;> rfl
  case results => cases halike <;> rfl
  case callbacks => cases halike <;> exact fun _ _ => rfl
  case written => exact runs.written hbreaks
  case goesOn => exact fun move next => runs.goesOn hbreaks
  case settles => exact runs.settleOpening hbreaks

theorem secret_only_in_line_two_lengths :
    ∃ log connection log' connection',
      (Text.OneLine "ClueCon" ↔ Text.OneLine "8021") ∧
      SideBySide passwordPlan "ClueCon" "8021" 0 willingPeer log connection log' connection' ∧
      octets connection.transport.sent = Text.codes "auth ClueCon\n\napi status\n\n" ∧
      Indistinct passwordPlan "ClueCon" "8021" 0 willingPeer log connection log' connection' := by
  have hmoves : ((Connection.idle willingPeer).follow (passwordPlan.withSecret "ClueCon") 0 []
      (passwordMoves ++ [.session (.call 0 (.api "status")), .session (.caller 0 4 readLimit),
        .session (.caller 0 4 readLimit)])).map (fun reached => octets reached.2.transport.sent) =
      some (Text.codes "auth ClueCon\n\napi status\n\n") := by
    decide +kernel
  obtain ⟨⟨log, connection⟩, hfollow, hsent⟩ := Option.map_eq_some_iff.mp hmoves
  have hbreaks : Text.OneLine "ClueCon" ↔ Text.OneLine "8021" := by decide
  obtain ⟨log', connection', runs⟩ := (Run.start.follow hfollow).beside hbreaks
  exact ⟨log, connection, log', connection', hbreaks, runs, hsent,
    secret_only_in_line hbreaks runs⟩

end Connection

end EventSocket
