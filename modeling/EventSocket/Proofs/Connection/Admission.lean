import EventSocket.Proofs.Connection.Decision
import EventSocket.Proofs.Session.Ending

/-!
How the opening of a session is decided, and by when. The log tells that the session is ready
exactly if the switch has let it in and its lanes have their threads. If the turns of the opening
are not put off, this is settled before its time is up: the clock goes on only while the opening has
to wait, and one that has to wait when its time is up is given up.
-/

namespace EventSocket

/-- The move is made at this time. What a session does later is not timed here. -/
def ConnectionMove.At (began now : Nat) : ConnectionMove → Prop
  | .start => now = began
  | .turn time _ => time = now
  | .linked _ | .abandon | .network _ | .session _ => True

instance (began now : Nat) (move : ConnectionMove) : Decidable (move.At began now) :=
  match move with
  | .start => inferInstanceAs (Decidable (now = began))
  | .turn time _ => inferInstanceAs (Decidable (time = now))
  | .linked _ | .abandon | .network _ | .session _ => inferInstanceAs (Decidable True)

/-- It is by the opening of a session, and not by the session, that this occurs. -/
def Occurrence.OfOpening : Occurrence → Prop
  | within _ | published (.closed _) => False
  | _ => True

/-- What has occurred until then. -/
def occurredBy (time : Nat) (log : List (Nat × Occurrence)) : List Occurrence :=
  (log.filter fun entry => entry.1 ≤ time).map Prod.snd

theorem occurredBy_congr {β : Type} {time : Nat} {log : List (Nat × Occurrence)}
    {part : Occurrence → List β}
    (h : ∀ entry ∈ log, time < entry.1 → part entry.2 = []) :
    (occurredBy time log).flatMap part = (log.map Prod.snd).flatMap part := by
  induction log with
  | nil => rfl
  | cons entry log ih =>
    have hrest := ih fun other hother => h other (List.mem_cons_of_mem _ hother)
    by_cases hearly : entry.1 ≤ time
    · simpa [occurredBy, hearly] using hrest
    · have hnone := h entry List.mem_cons_self (Nat.lt_of_not_le hearly)
      simpa [occurredBy, hearly, hnone] using hrest

namespace Connection

/-- Nobody can go on with the opening, or nobody has to. -/
def rests (connection : Connection) (now : Nat) : Bool :=
  match connection with
  | idle _ => false
  | opening attempt => (attempt.turn now readLimit matches .waiting)
  | live _ | failed .. | abandoned .. => true

/-- The time, the log with its times and the connection that a plan leads to if nobody here keeps
the opening waiting. Everybody else moves at any time or not at all. -/
inductive Prompt (plan : OpeningPlan) (began : Nat) (start : Transport) :
    Nat → List (Nat × Occurrence) → Connection → Prop
  | start : Prompt plan began start began [] (.idle start)
  | step {now : Nat} {log : List (Nat × Occurrence)} {connection connection' : Connection}
      (prompt : Prompt plan began start now log connection) (move : ConnectionMove)
      (hfresh : move.Fresh (log.map Prod.snd)) (hat : move.At began now)
      (hmove : connection.perform plan began move = some connection') :
      Prompt plan began start now
        (log ++ (connection.occurrences move ++ connection.publication connection').map (now, ·))
        connection'
  | tick {now : Nat} {log : List (Nat × Occurrence)} {connection : Connection}
      (prompt : Prompt plan began start now log connection) (hrests : connection.rests now) :
      Prompt plan began start (now + 1) log connection

/-- Opening the session has neither begun to succeed nor to fail. -/
def Undecided : Connection → Prop
  | idle _ | opening _ => True
  | _ => False

variable {plan : OpeningPlan} {began now : Nat} {start : Transport} {log : List Occurrence}
  {timed : List (Nat × Occurrence)} {connection connection' : Connection} {move : ConnectionMove}

theorem Prompt.run (prompt : Prompt plan began start now timed connection) :
    Run plan began start (timed.map Prod.snd) connection := by
  induction prompt with
  | start => exact .start
  | @step now timed connection connection' prompt move hfresh hat hmove ih =>
    have hstamps (occurred : List Occurrence) :
        (occurred.map ((now, ·) : Occurrence → Nat × Occurrence)).map Prod.snd = occurred := by
      simp [Function.comp_def]
    rw [List.map_append, hstamps]
    exact ih.step move hfresh hmove
  | tick prompt hrests ih => exact ih

/-- Only an opening makes moves by which something occurs of an opening. -/
theorem undecided_of_ofOpening (hmoves : Moves plan began connection move connection')
    {occurrence : Occurrence} (hoccurs : occurrence ∈
      connection.occurrences move ++ connection.publication connection')
    (hopening : occurrence.OfOpening) : connection.Undecided := by
  cases hmoves with
  | @session session session' move hmove =>
    exfalso
    rcases List.mem_append.mp hoccurs with hhappens | hpublished
    · obtain ⟨happening, -, rfl⟩ := List.mem_map.mp hhappens
      exact hopening
    · obtain ⟨hnew, rfl⟩ := mem_publication.mp hpublished
      cases Session.lives_perform hmove with
      | goesOn hstate => exact hnew hstate
      | ends hrunning hstate =>
        rw [show (live session').state = _ from hstate] at hopening
        exact hopening
  | _ => trivial

theorem undecided_before (hmoves : Moves plan began connection move connection')
    (hundecided : connection'.Undecided) : connection.Undecided := by
  cases hmoves with
  | session hmove => exact hundecided
  | _ => trivial

/-- An opening that waits has time left. -/
theorem Run.early_of_waiting {attempt : Opening} {most : Nat}
    (run : Run plan began start log (.opening attempt)) (hturn : attempt.turn now most = .waiting) :
    now < began + plan.settings.timeout := by
  have heffect := attempt.turn_effect now most
  rw [hturn] at heffect
  cases run.reached with
  | opening hunderway =>
    generalize attempt.occurrences most = occurred at heffect
    cases heffect with
    | waits hstarved hearly => exact hunderway.deadline ▸ hearly

/-- As long as nothing is decided there is time left; all that the opening comes to is in time. -/
theorem Prompt.inTime (prompt : Prompt plan began start now timed connection) :
    (connection.Undecided → now ≤ began + plan.settings.timeout) ∧
      ∀ entry ∈ timed, entry.2.OfOpening → entry.1 ≤ began + plan.settings.timeout := by
  induction prompt with
  | start => exact ⟨fun _ => Nat.le_add_right _ _, fun _ hentry => absurd hentry List.not_mem_nil⟩
  | @step now timed connection connection' prompt move hfresh hat hmove ih =>
    obtain ⟨hnow, hold⟩ := ih
    have hmoves := moves_of_perform hmove
    refine ⟨fun hundecided => hnow (undecided_before hmoves hundecided), ?_⟩
    intro entry hentry hopening
    rcases List.mem_append.mp hentry with hbefore | hnew
    · exact hold entry hbefore hopening
    · obtain ⟨occurrence, hoccurs, rfl⟩ := List.mem_map.mp hnew
      exact hnow (undecided_of_ofOpening hmoves hoccurs hopening)
  | @tick now timed connection prompt hrests ih =>
    obtain ⟨hnow, hold⟩ := ih
    refine ⟨fun hundecided => ?_, hold⟩
    cases connection with
    | idle => cases hrests
    | opening attempt =>
      simp only [rests] at hrests
      split at hrests
      · next hturn => exact prompt.run.early_of_waiting hturn
      · cases hrests
    | live | failed | abandoned => exact hundecided.elim

/-- How opening a session by the plan is decided in time. -/
structure Punctual (plan : OpeningPlan) (began now : Nat) (timed : List (Nat × Occurrence))
    (connection : Connection) : Prop where
  settled : began + plan.settings.timeout < now → ¬ connection.Undecided
  ready : connection.Decided →
    ((∃ time ≤ began + plan.settings.timeout, (time, .published .ready) ∈ timed) ↔
      (∃ data, Granted (occurredBy (began + plan.settings.timeout) timed) plan.handshake data) ∧
        plan.threads.refusal? = none)
  failed : ∀ transport fault, connection = .failed transport fault →
    ∃ time ≤ began + plan.settings.timeout, (time, .published (Opening.failure fault)) ∈ timed

/-- All that is heard and written for a session to be let in is heard and written in time. -/
theorem Prompt.granted_iff (prompt : Prompt plan began start now timed connection)
    {data : Option Event} :
    Granted (occurredBy (began + plan.settings.timeout) timed) plan.handshake data ↔
      Granted (timed.map Prod.snd) plan.handshake data := by
  obtain ⟨-, hstamps⟩ := prompt.inTime
  have hlate : ∀ entry ∈ timed, began + plan.settings.timeout < entry.1 →
      entry.2.heardBytes = [] ∧ entry.2.wroteBytes = [] := by
    intro entry hentry hlate
    have hother : ¬ entry.2.OfOpening := fun hopening =>
      Nat.not_le.mpr hlate (hstamps entry hentry hopening)
    cases hoccurrence : entry.2 with
    | within happening => exact ⟨rfl, rfl⟩
    | published state => exact ⟨rfl, rfl⟩
    | heard bytes | took frame | wrote bytes =>
      rw [hoccurrence] at hother
      exact absurd trivial hother
  have hheard : heardBytes (occurredBy (began + plan.settings.timeout) timed) =
      heardBytes (timed.map Prod.snd) :=
    occurredBy_congr fun entry hentry hlater => (hlate entry hentry hlater).1
  have hwrote : wroteBytes (occurredBy (began + plan.settings.timeout) timed) =
      wroteBytes (timed.map Prod.snd) :=
    occurredBy_congr fun entry hentry hlater => (hlate entry hentry hlater).2
  exact ⟨fun h => h.congr hheard.symm hwrote.symm, fun h => h.congr hheard hwrote⟩

theorem Prompt.published_iff (prompt : Prompt plan began start now timed connection)
    {state : SessionState} (hopening : Occurrence.OfOpening (.published state)) :
    (∃ time ≤ began + plan.settings.timeout, (time, .published state) ∈ timed) ↔
      .published state ∈ timed.map Prod.snd := by
  constructor
  · rintro ⟨time, -, hentry⟩
    exact List.mem_map.mpr ⟨_, hentry, rfl⟩
  · intro hpublished
    obtain ⟨⟨time, occurrence⟩, hentry, rfl⟩ := List.mem_map.mp hpublished
    exact ⟨time, prompt.inTime.2 _ hentry hopening, hentry⟩

theorem Prompt.punctual (prompt : Prompt plan began start now timed connection) :
    Punctual plan began now timed connection where
  settled := fun hlate hundecided => Nat.not_le.mpr hlate (prompt.inTime.1 hundecided)
  ready := by
    intro hdecided
    have hready : Occurrence.OfOpening (.published .ready) := trivial
    rw [prompt.published_iff hready, prompt.run.published_ready_iff,
      prompt.run.reached.live_iff_granted hdecided]
    simp only [prompt.granted_iff]
  failed := by
    rintro transport fault rfl
    obtain ⟨text, htext⟩ := Opening.failure_eq_failed fault
    have hopening : Occurrence.OfOpening (.published (Opening.failure fault)) := by
      rw [htext]
      trivial
    rw [prompt.published_iff hopening]
    cases prompt.run.reached with
    | failed hsent honce hlast => exact List.mem_of_getLast? hlast

/-- How opening a session by the plan is decided, and what is written until then. -/
structure Admission (plan : OpeningPlan) (began : Nat) (start : Transport) (log : List Occurrence)
    (connection : Connection) : Prop where
  live : .published .ready ∈ log ↔ ∃ session, connection = .live session
  /-- It is up to the switch, and to the system, which may refuse the lanes their threads. -/
  granted : connection.Decided →
    (.published .ready ∈ log ↔
      (∃ data, Granted log plan.handshake data) ∧ plan.threads.refusal? = none)
  asked : WritesAsked plan.handshake log
  once : WritesOnce plan.handshake log
  sent : connection.session? = none →
    octets connection.transport.sent = octets start.sent ++ wroteBytes log
  fails : ∀ transport fault, connection = .failed transport fault →
    log.getLast? = some (.published (Opening.failure fault)) ∧
      ∃ attempt now, transport = attempt.transport.drop ∧
        GivesUp plan began log attempt now fault
  rejected : ∀ text, connection.Decided → Rejected log plan.handshake text →
    ∃ transport, connection = .failed transport (.authentication text) ∧
      log.getLast? = some (.published (.failed text))
  refused : ∀ data text, connection.Decided → Granted log plan.handshake data →
    plan.threads.refusal? = some text → ∃ transport, connection = .failed transport (.io text) ∧
      log.getLast? = some (.published (Opening.failure (.io text)))
  /-- Letting the connection go on decides it, unless everybody waits and there is time left. -/
  settles : ∀ attempt now, connection = .opening attempt →
    ∃ more, Run plan began start (log ++ more) (connection.settleOpening now) ∧
      ((connection.settleOpening now).Decided ∨
        now < began + plan.settings.timeout ∧
          (∀ data, ¬ Granted (log ++ more) plan.handshake data) ∧
          ∃ attempt', connection.settleOpening now = .opening attempt' ∧ attempt'.Starved)
  /-- If all this has come about without delay on this side, it has come about in time. -/
  inTime : ∀ now timed, Prompt plan began start now timed connection →
    timed.map Prod.snd = log → Punctual plan began now timed connection

/-- An opening with a password, and a switch that takes it. -/
def passwordPlan : OpeningPlan :=
  ⟨.inbound (.password "ClueCon"), .stream, .standard, ⟨0⟩, .granted⟩

def willingPeer : Transport :=
  { Transport.new with
    received := ("Content-Type: auth/request\n\n" ++
      "Content-Type: command/reply\nReply-Text: +OK accepted\n\n").toUTF8 }

/-- Dials, hears everything, takes the greeting, sends the password and takes the reply. -/
def passwordMoves : List ConnectionMove :=
  [.start, .turn 0 readLimit, .turn 1 readLimit, .turn 1 readLimit, .turn 2 readLimit,
    .turn 3 readLimit]

/-- Makes the given moves, and lets time pass where there is none, if all of that can be done and
nobody here keeps the opening waiting. -/
def followPromptly (plan : OpeningPlan) (began now : Nat) (timed : List (Nat × Occurrence))
    (connection : Connection) :
    List (Option ConnectionMove) → Option (Nat × List (Nat × Occurrence) × Connection)
  | [] => some (now, timed, connection)
  | none :: moves =>
    if connection.rests now then connection.followPromptly plan began (now + 1) timed moves
    else none
  | some move :: moves =>
    if move.Fresh (timed.map Prod.snd) ∧ move.At began now then
      (connection.perform plan began move).bind fun connection' =>
        connection'.followPromptly plan began now
          (timed ++
            (connection.occurrences move ++ connection.publication connection').map (now, ·))
          moves
    else none

theorem Prompt.follow {timed' : List (Nat × Occurrence)} {now' : Nat}
    {moves : List (Option ConnectionMove)}
    (prompt : Prompt plan began start now timed connection)
    (h : connection.followPromptly plan began now timed moves = some (now', timed', connection')) :
    Prompt plan began start now' timed' connection' := by
  induction moves generalizing now timed connection with
  | nil =>
    cases h
    exact prompt
  | cons move? moves ih =>
    cases move? with
    | none =>
      simp only [followPromptly] at h
      split at h
      · next hrests => exact ih (prompt.tick hrests) h
      · cases h
    | some move =>
      simp only [followPromptly] at h
      split at h
      · next hallowed =>
        obtain ⟨between, hmove, hrest⟩ := Option.bind_eq_some_iff.mp h
        exact ih (prompt.step move hallowed.1 hallowed.2 hmove) hrest
      · cases h

/-- The switch takes its time for the greeting, and then again for its reply. -/
def slowPeerMoves : List (Option ConnectionMove) :=
  [some .start, some (.turn 0 readLimit), none,
    some (.network { Transport.new with received := "Content-Type: auth/request\n\n".toUTF8 }),
    some (.turn 1 readLimit), some (.turn 1 readLimit), some (.turn 1 readLimit), none,
    some (.network { Transport.new with
      received := "Content-Type: command/reply\nReply-Text: +OK accepted\n\n".toUTF8
      sent := "auth ClueCon\n\n".toUTF8 }),
    some (.turn 2 readLimit), some (.turn 2 readLimit), none]

end Connection

end EventSocket
