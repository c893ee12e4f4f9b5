import EventSocket.Delivery.Listener

/-!
Lanes: events on their way to the listeners, one after another. Each event goes to the listeners
that are registered when its turn comes, one after another; how a callback comes back makes no
difference to what follows.
-/

namespace EventSocket

/-- Completed background jobs have a lane of their own. -/
inductive LaneKind where
  | general | jobs
  deriving DecidableEq

def LaneKind.ofEvent (event : Event) : LaneKind :=
  if event.isBackgroundJob then jobs else general

inductive LaneItem where
  | event (event : Event)
  | ending (reason : EndReason)
  deriving DecidableEq

namespace LaneItem

/-- The end of a session is told on the general lane only. -/
def callback? : LaneItem → LaneKind → Option Callback
  | event occurred, .general => some (.event occurred)
  | event occurred, .jobs => some (.job occurred)
  | ending reason, .general => some (.disconnected reason)
  | ending _, .jobs => none

end LaneItem

/-- One item with the listener being called and those still to be called. The callbacks of the first
`called` listeners have come back. -/
structure Round where
  item : LaneItem
  called : Nat
  calling : Option Listener
  waiting : List Listener
  deriving DecidableEq

/-- The next listener is called however the callback came back. -/
def Round.comeBack (round : Round) : Outcome → Round
  | .done | .failed | .panicked => { round with called := round.called + 1, calling := none }

inductive LanePhase where
  | resting
  /-- An item has been taken from the queue, and its listeners have not been looked up. -/
  | taken (item : LaneItem)
  | telling (round : Round)
  | stopped
  deriving DecidableEq

/-- Behind the end of the session a lane does not go on. -/
def LanePhase.behind : LaneItem → LanePhase
  | .event _ => resting
  | .ending _ => stopped

structure Lane where
  queue : List LaneItem
  phase : LanePhase
  deriving DecidableEq

/-- A lane after one turn, and the callback that the turn began. -/
structure LaneTurn where
  lane : Lane
  told : Option (Listener × Callback)

namespace Lane

def empty : Lane := ⟨[], .resting⟩

def push (lane : Lane) (item : LaneItem) : Lane := { lane with queue := lane.queue ++ [item] }

/-- One turn of a round: the callback under way comes back unless there is no answer to it yet, or
the next one begins, or the round is over. -/
def roundTurn (lane : Lane) (kind : LaneKind) (answer : Listener → Callback → Option Outcome)
    (round : Round) : Option LaneTurn :=
  match round.item.callback? kind, round.calling, round.waiting with
  | some callback, some listener, _ =>
    (answer listener callback).map fun outcome =>
      ⟨{ lane with phase := .telling (round.comeBack outcome) }, none⟩
  | some callback, none, listener :: waiting =>
    some ⟨{ lane with phase := .telling { round with calling := some listener, waiting } },
      some (listener, callback)⟩
  | _, _, _ =>
    some ⟨{ lane with phase := .behind round.item }, none⟩

/-- One turn of the lane, or nothing while there is nothing to do. -/
def turn (lane : Lane) (kind : LaneKind) (listeners : List Listener)
    (answer : Listener → Callback → Option Outcome) : Option LaneTurn :=
  match lane.phase with
  | .resting =>
    match lane.queue with
    | [] => none
    | item :: queue => some ⟨⟨queue, .taken item⟩, none⟩
  | .taken item => some ⟨{ lane with phase := .telling ⟨item, 0, none, listeners⟩ }, none⟩
  | .telling round => lane.roundTurn kind answer round
  | .stopped => none

def roundSteps (round : Round) : Nat :=
  1 + (if round.calling.isSome then 1 else 0) + 2 * round.waiting.length

def phaseSteps (count : Nat) : LanePhase → Nat
  | .resting | .stopped => 0
  | .taken _ => 2 + 2 * count
  | .telling round => roundSteps round

/-- The turns that are left to the lane, with `count` listeners registered. -/
def steps (count : Nat) (lane : Lane) : Nat :=
  lane.queue.length * (3 + 2 * count) + phaseSteps count lane.phase

theorem steps_roundTurn_lt {lane : Lane} {kind : LaneKind}
    {answer : Listener → Callback → Option Outcome} {round : Round} {turn : LaneTurn}
    (count : Nat) (hphase : lane.phase = .telling round)
    (h : lane.roundTurn kind answer round = some turn) :
    turn.lane.steps count < lane.steps count := by
  unfold roundTurn at h
  split at h
  · next hcalling =>
    obtain ⟨outcome, -, rfl⟩ := Option.map_eq_some_iff.mp h
    cases outcome <;>
      simp [steps, phaseSteps, roundSteps, Round.comeBack, hphase, hcalling]
  · next hcalling hwaiting =>
    obtain rfl := Option.some.inj h
    simp [steps, phaseSteps, roundSteps, hphase, hcalling, hwaiting]
    omega
  · obtain rfl := Option.some.inj h
    have hover : phaseSteps count (.behind round.item) = 0 := by cases round.item <;> rfl
    simp only [steps, hphase, hover]
    simp only [phaseSteps, roundSteps]
    omega

theorem steps_turn_lt {lane : Lane} {kind : LaneKind} {listeners : List Listener}
    {answer : Listener → Callback → Option Outcome} {turn : LaneTurn} {count : Nat}
    (h : lane.turn kind listeners answer = some turn) (hcount : listeners.length ≤ count) :
    turn.lane.steps count < lane.steps count := by
  unfold Lane.turn at h
  split at h
  · next hphase =>
    split at h
    · cases h
    · next hqueue =>
      obtain rfl := Option.some.inj h
      simp only [steps, phaseSteps, hphase, hqueue, List.length_cons, Nat.succ_mul]
      omega
  · next hphase =>
    obtain rfl := Option.some.inj h
    simp [steps, phaseSteps, roundSteps, hphase]
    omega
  · next hphase => exact steps_roundTurn_lt _ hphase h
  · cases h

end Lane

end EventSocket
