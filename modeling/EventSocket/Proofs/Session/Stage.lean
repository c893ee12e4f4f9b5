import EventSocket.Proofs.Session.Causes
import EventSocket.Proofs.Session.Dispatching

/-!
A session and its listeners as they go on together, the two lanes turn by turn between the moves of
the session. Whatever the listeners are told of the end is what the state says of it.
-/

namespace EventSocket

structure Stage where
  session : Session
  listeners : List Listener

inductive StageMove where
  | session (move : Move)
  | listen (listener : Listener)
  | lane (kind : LaneKind) (answer : Listener → Callback → Option Outcome)

/-- A new call has a number that nobody else has, and the lanes are left to their own turns. -/
def Move.Apt (session : Session) : Move → Prop
  | call number _ => number ∉ session.callers.map Caller.number
  | deliver .. => False
  | _ => True

instance (session : Session) (move : Move) : Decidable (move.Apt session) :=
  match move with
  | .call number _ => inferInstanceAs (Decidable (number ∉ session.callers.map Caller.number))
  | .deliver .. => inferInstanceAs (Decidable False)
  | .caller .. | .reader .. | .abandon _ | .network _ => inferInstanceAs (Decidable True)

def StageMove.asksEnd : StageMove → Bool
  | session move => move.asksEnd
  | listen _ | lane .. => false

namespace Stage

/-- A session that has just been opened, with the listeners that are there by then. -/
def opened (attempt : Opening) (channelData : Option Event) (listeners : List Listener) : Stage :=
  ⟨attempt.session channelData, listeners⟩

def laneTurn (stage : Stage) (kind : LaneKind) (answer : Listener → Callback → Option Outcome) :
    Option LaneTurn :=
  (stage.session.dispatcher.lane kind).turn kind stage.listeners answer

def setLane (stage : Stage) (kind : LaneKind) (lane : Lane) : Stage :=
  { stage with
    session := { stage.session with dispatcher := stage.session.dispatcher.setLane lane kind } }

def perform (stage : Stage) : StageMove → Option Stage
  | .session move =>
    if move.Apt stage.session then
      (stage.session.perform move).map fun session => { stage with session }
    else none
  | .listen listener => some { stage with listeners := stage.listeners ++ [listener] }
  | .lane kind answer => (stage.laneTurn kind answer).map fun turn => stage.setLane kind turn.lane

/-- The ways in which a move can be made. -/
inductive Moves (stage : Stage) : StageMove → Stage → Prop
  | session {move : Move} {session : Session} (hapt : move.Apt stage.session)
      (hmove : stage.session.perform move = some session) :
      Moves stage (.session move) { stage with session }
  | listen (listener : Listener) :
      Moves stage (.listen listener) { stage with listeners := stage.listeners ++ [listener] }
  | lane {kind : LaneKind} {answer : Listener → Callback → Option Outcome} {turn : LaneTurn}
      (hturn : stage.laneTurn kind answer = some turn) :
      Moves stage (.lane kind answer) (stage.setLane kind turn.lane)

theorem moves_of_perform {stage stage' : Stage} {move : StageMove}
    (h : stage.perform move = some stage') : stage.Moves move stage' := by
  cases move with
  | session move =>
    obtain ⟨hapt, hperformed⟩ := Option.ite_none_right_eq_some.mp h
    obtain ⟨session', hmove, rfl⟩ := Option.map_eq_some_iff.mp hperformed
    exact .session hapt hmove
  | listen listener =>
    obtain rfl := Option.some.inj h
    exact .listen listener
  | lane kind answer =>
    obtain ⟨turn, hturn, rfl⟩ := Option.map_eq_some_iff.mp h
    exact .lane hturn

/-- A listener is told of the end by the move. -/
def TellsEnd (stage : Stage) (move : StageMove) (reason : EndReason) : Prop :=
  ∃ kind answer turn listener, move = .lane kind answer ∧ stage.laneTurn kind answer = some turn ∧
    turn.told = some (listener, .disconnected reason)

/-- The moves made so far, each with what it was made on. -/
abbrev Course := List (Stage × StageMove)

inductive Run (start : Stage) : Course → Stage → Prop
  | start : Run start [] start
  | step {course : Course} {stage stage' : Stage} (run : Run start course stage) (move : StageMove)
      (hmove : stage.perform move = some stage') : Run start (course ++ [(stage, move)]) stage'

/-- Makes the given moves, if all of them can be made. -/
def follow (course : Course) (stage : Stage) : List StageMove → Option (Course × Stage)
  | [] => some (course, stage)
  | move :: moves =>
    (stage.perform move).bind fun stage' => stage'.follow (course ++ [(stage, move)]) moves

variable {start stage stage' : Stage} {course course' : Course} {move : StageMove}
  {reason : EndReason}

theorem Run.follow (run : Run start course stage) {moves : List StageMove}
    (h : stage.follow course moves = some (course', stage')) : Run start course' stage' := by
  induction moves generalizing course stage with
  | nil =>
    cases h
    exact run
  | cons move moves ih =>
    obtain ⟨between, hmove, hrest⟩ := Option.bind_eq_some_iff.mp h
    exact ih (run.step move hmove) hrest

/-- The dispatcher has come where it is by moves of its own, and if it has been closed it was for
the reason that is published. -/
def Serviced (stage : Stage) : Prop :=
  ∃ first size moves,
    stage.session.Serves stage.listeners (Delivery.apart first size moves) ∧
      ∀ reason, (Delivery.apart first size moves).phase.reason? = some reason →
        stage.session.state = .closed reason

/-- What is known of a stage whatever has happened on it. -/
structure Sound (stage : Stage) : Prop where
  living : stage.session.Living
  orderly : stage.session.Orderly
  faithful : stage.session.Faithful
  serviced : stage.Serviced

theorem sound_opened (attempt : Opening) (channelData : Option Event)
    (listeners : List Listener) : (opened attempt channelData listeners).Sound where
  living := .ready rfl rfl
  orderly := ⟨List.nodup_nil, by simp [opened, Opening.session], by simp [opened, Opening.session],
    by simp [opened, Opening.session]⟩
  faithful := by simp [Session.Faithful, opened, Opening.session]
  serviced := by
    refine ⟨listeners, attempt.settings.queueSize, [], Session.serves_session .., ?_⟩
    intro reason hreason
    cases hreason

end Stage

/-- A dispatcher that has been closed, by a reader that has not stopped, was closed for the reason
that is published. -/
theorem Session.Serves.closed {session : Session} {listeners : List Listener} {delivery : Delivery}
    {reason : EndReason} (h : session.Serves listeners delivery) (hliving : session.Living)
    (hreason : delivery.phase.reason? = some reason) (hreader : session.reader ≠ .stopped) :
    session.state = .closed reason := by
  have hphase := h.phase
  cases hreader' : session.reader with
  | running | hangingUp | failing =>
    rw [hreader'] at hphase
    have hserving : delivery.phase = .serving := hphase
    rw [hserving] at hreason
    cases hreason
  | ending reason' kind =>
    rw [hreader'] at hphase
    have hending : delivery.phase = .ending reason' kind := hphase
    rw [hending] at hreason
    obtain rfl : reason' = reason := Option.some.inj hreason
    cases hliving with
    | ready _ hrunning => rw [hreader'] at hrunning; cases hrunning
    | closed hclosed hpast =>
      rw [hreader'] at hpast
      obtain rfl : reason' = _ := hpast
      exact hclosed
  | stopped => exact absurd hreader' hreader

theorem serving_of_reason {phase : ClosePhase} (h : phase.reason? = none) : phase = .serving := by
  cases phase with
  | serving => rfl
  | ending | closed => cases h

theorem Delivery.phase_turn (delivery : Delivery) (kind : LaneKind)
    (answer : Listener → Callback → Option Outcome) :
    (delivery.perform (.turn kind answer)).phase = delivery.phase := by
  simp only [perform]
  split <;> rfl

namespace Stage

variable {start stage stage' : Stage} {course course' : Course} {move : StageMove}
  {reason : EndReason}

theorem Serviced.handsOver {session' : Session} {move : Move} (h : stage.Serviced)
    (hliving : stage.session.Living) (hapt : move.Apt stage.session)
    (hmove : stage.session.perform move = some session') :
    Serviced { stage with session := session' } := by
  obtain ⟨first, size, moves, hserves, htied⟩ := h
  have hlanes : ∀ others audience, move ≠ .deliver others audience := by
    rintro others audience rfl
    exact hapt
  have hserves' := hserves.handsOver hlanes hmove
  have hafter : (Delivery.apart first size moves).after (stage.session.handsOver move) =
      Delivery.apart first size (moves ++ stage.session.handsOver move) :=
    (Delivery.after_append ..).symm
  refine ⟨first, size, moves ++ stage.session.handsOver move, hafter ▸ hserves', ?_⟩
  intro reason hreason
  rw [← hafter] at hreason
  cases hbefore : (Delivery.apart first size moves).phase.reason? with
  | some reason' =>
    obtain rfl : reason' = reason :=
      Option.some.inj ((Delivery.reason_after hbefore _).symm.trans hreason)
    exact Session.closed_perform hliving (htied _ hbefore) hmove
  | none =>
    refine (hafter ▸ hserves').closed (hliving.perform hmove) (hafter ▸ hreason) fun hstopped => ?_
    have hphase := hserves'.phase
    rw [hstopped] at hphase
    obtain ⟨reason', hclosed⟩ := hphase
    exact hserves.not_closed (serving_of_reason hbefore) move reason' hclosed

theorem Serviced.listen (h : stage.Serviced) (listener : Listener) :
    Serviced { stage with listeners := stage.listeners ++ [listener] } := by
  obtain ⟨first, size, moves, hserves, htied⟩ := h
  refine ⟨first, size, _, hserves.add listener, ?_⟩
  rw [Delivery.apart_concat]
  exact htied

theorem Serviced.lane {kind : LaneKind} {answer : Listener → Callback → Option Outcome}
    {turn : LaneTurn} (h : stage.Serviced) (hturn : stage.laneTurn kind answer = some turn) :
    (stage.setLane kind turn.lane).Serviced := by
  obtain ⟨first, size, moves, hserves, htied⟩ := h
  refine ⟨first, size, moves ++ [.turn kind answer], ?_, ?_⟩
  · rw [Delivery.apart_concat]
    exact hserves.laneTurn hturn
  · intro reason hreason
    rw [Delivery.apart_concat, Delivery.phase_turn] at hreason
    exact htied reason hreason

/-- Whoever is told of the end by a turn of a lane is told the reason that is published. -/
theorem Serviced.tells (h : stage.Serviced) (htells : stage.TellsEnd move reason) :
    stage.session.state = .closed reason := by
  obtain ⟨first, size, moves, hserves, htied⟩ := h
  obtain ⟨kind, answer, turn, listener, rfl, hturn, htold⟩ := htells
  have hlane : (Delivery.apart first size moves).laneTurn kind answer = some turn := by
    rw [Delivery.laneTurn, Delivery.lane, hserves.dispatcher, hserves.listeners]
    exact hturn
  have hincidents : .told kind ((Delivery.apart first size moves).lane kind).place listener
      (.disconnected reason) ∈
        (Delivery.start ⟨[first]⟩ ⟨0⟩ size).log (moves ++ [.turn kind answer]) := by
    rw [Delivery.log_append, Delivery.log_cons]
    refine List.mem_append_right _ (List.mem_append_left _ ?_)
    change _ ∈ (Delivery.apart first size moves).incidents (.turn kind answer)
    simp [Delivery.incidents, hlane, htold]
  have hcoherent := Delivery.coherent_apart first size (moves ++ [.turn kind answer])
  rcases hcoherent.sourced.told _ _ _ _ hincidents with
    ⟨event, -, hevent⟩ | ⟨reason', hsame, -, hended⟩
  · cases kind <;> cases hevent
  · obtain rfl : reason = reason' := Callback.disconnected.inj hsame
    rw [Delivery.apart_concat, Delivery.phase_turn] at hended
    exact htied reason (Delivery.reason_of_ended hended)

/-- Once the reader has stopped, the end stands on both lanes behind all that waits there. -/
theorem Serviced.ended (h : stage.Serviced) (hstopped : stage.session.reader = .stopped) :
    ∃ reason, stage.session.state = .closed reason ∧
      ∀ kind, (stage.session.dispatcher.lane kind).Ended reason := by
  obtain ⟨first, size, moves, hserves, htied⟩ := h
  have hcoherent := Delivery.coherent_apart first size moves
  have hphase := hserves.phase
  rw [hstopped] at hphase
  obtain ⟨reason, hclosed⟩ := hphase
  refine ⟨reason, htied reason (by rw [hclosed]; rfl), fun kind => ?_⟩
  rw [← hserves.dispatcher]
  exact hcoherent.closing.ended kind reason (congrArg (·.ended? kind) hclosed)

theorem Sound.perform (h : stage.Sound) (hmove : stage.perform move = some stage') :
    stage'.Sound := by
  cases moves_of_perform hmove with
  | @session move session' hapt hmove' =>
    have hfresh : ∀ number request, move = .call number request →
        number ∉ stage.session.callers.map Caller.number := by
      rintro number request rfl
      exact hapt
    exact ⟨h.living.perform hmove', h.orderly.perform h.living hfresh hmove',
      h.faithful.perform h.living h.orderly.numbers hfresh hmove',
      h.serviced.handsOver h.living hapt hmove'⟩
  | listen listener => exact ⟨h.living, h.orderly, h.faithful, h.serviced.listen listener⟩
  | lane hturn =>
    refine ⟨?_, ?_, h.faithful, h.serviced.lane hturn⟩
    · cases h.living with
      | ready hready hreader => exact .ready hready hreader
      | closed hclosed hpast => exact .closed hclosed hpast
    · exact ⟨h.orderly.numbers, h.orderly.suits, h.orderly.stopped, h.orderly.asked⟩

theorem Run.sound (run : Run start course stage) (hstart : start.Sound) : stage.Sound := by
  induction run with
  | start => exact hstart
  | step run move hmove ih => exact ih.perform hmove

end Stage

end EventSocket
