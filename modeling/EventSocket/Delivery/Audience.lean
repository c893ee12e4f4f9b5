import EventSocket.Delivery.Dispatcher

/-!
The audience: what has been told at each seat, and the seats at which callbacks of a lane are held
up. A callback that is held up has been told and has not come back.
-/

namespace EventSocket

def Callback.lane : Callback → LaneKind
  | event _ | disconnected _ => .general
  | job _ => .jobs

structure Audience where
  seats : Nat
  held : List (Nat × LaneKind)
  told : Array (Nat × Callback)

namespace Audience

def empty : Audience := ⟨0, [], #[]⟩

/-- A listener with the next free seat, or one without a seat if it has no manner of its own. -/
def welcome (audience : Audience) : Option Manner → Listener × Audience
  | some manner => (⟨some audience.seats, manner⟩, { audience with seats := audience.seats + 1 })
  | none => (⟨none, .steady⟩, audience)

def hold (audience : Audience) (seat : Nat) (kinds : List LaneKind) : Audience :=
  { audience with held := kinds.map (seat, ·) ++ audience.held }

def release (audience : Audience) (seat : Nat) (kinds : List LaneKind) : Audience :=
  { audience with held := audience.held.filter fun held => held.1 ≠ seat ∨ held.2 ∉ kinds }

def releaseAll (audience : Audience) : Audience := { audience with held := [] }

def holds (audience : Audience) (kind : LaneKind) (listener : Listener) : Bool :=
  match listener.seat with
  | some seat => audience.held.contains (seat, kind)
  | none => false

/-- How a callback comes back, if it does. -/
def answer (audience : Audience) (kind : LaneKind) (listener : Listener) (callback : Callback) :
    Option Outcome :=
  if audience.holds kind listener then none else some (listener.manner.outcome callback)

def tell (audience : Audience) (listener : Listener) (callback : Callback) : Audience :=
  match listener.seat with
  | some seat => { audience with told := audience.told.push (seat, callback) }
  | none => audience

def heard (audience : Audience) (seat : Nat) (kind : LaneKind) : List Callback :=
  (audience.told.toList.filter fun told => told.1 = seat ∧ told.2.lane = kind).map Prod.snd

end Audience

/-- Lets a lane go on until it has nothing more to do or a callback is held up. -/
def Lane.deliver (lane : Lane) (kind : LaneKind) (listeners : List Listener)
    (audience : Audience) : Lane × Audience :=
  match _h : lane.turn kind listeners (audience.answer kind) with
  | none => (lane, audience)
  | some turn =>
    let audience := match turn.told with
      | some (listener, callback) => audience.tell listener callback
      | none => audience
    turn.lane.deliver kind listeners audience
termination_by lane.steps listeners.length
decreasing_by exact Lane.steps_turn_lt (by assumption) (Nat.le_refl _)

/-- Puts the end behind everything on both lanes, as far as there is room for it. -/
def Dispatcher.close (dispatcher : Dispatcher) (reason : EndReason) : Option Dispatcher := do
  (← dispatcher.pushEnding .general reason).pushEnding .jobs reason

def Dispatcher.deliver (dispatcher : Dispatcher) (listeners : List Listener)
    (audience : Audience) : Dispatcher × Audience :=
  let (general, audience) := dispatcher.general.deliver .general listeners audience
  let (jobs, audience) := dispatcher.jobs.deliver .jobs listeners audience
  ({ dispatcher with general, jobs }, audience)

end EventSocket
