import EventSocket.Delivery.Lane

/-!
The dispatcher of a session: two lanes with a bound on what may wait on each. An event that finds
its lane full is dropped and counted; nobody waits for a listener.
-/

namespace EventSocket

/-- What the system answers to the request for the thread of each lane. -/
structure LaneThreads where
  generalRefusal : Option String
  jobsRefusal : Option String
  deriving DecidableEq

namespace LaneThreads

def granted : LaneThreads := ⟨none, none⟩

/-- Why there is no dispatcher, if there is none: the general lane asks first. -/
def refusal? (threads : LaneThreads) : Option String :=
  threads.generalRefusal <|> threads.jobsRefusal

end LaneThreads

structure Dispatcher where
  limit : Nat
  general : Lane
  jobs : Lane
  dropped : Nat
  deriving DecidableEq

namespace Dispatcher

/-- The dispatcher of lanes that have got their threads. Every lane has room for at least one
event. -/
def start (queueSize : Nat) : Dispatcher := ⟨max queueSize 1, Lane.empty, Lane.empty, 0⟩

def lane (dispatcher : Dispatcher) : LaneKind → Lane
  | .general => dispatcher.general
  | .jobs => dispatcher.jobs

def setLane (dispatcher : Dispatcher) (lane : Lane) : LaneKind → Dispatcher
  | .general => { dispatcher with general := lane }
  | .jobs => { dispatcher with jobs := lane }

def isFull (dispatcher : Dispatcher) (kind : LaneKind) : Bool :=
  (dispatcher.lane kind).queue.length ≥ dispatcher.limit

def push (dispatcher : Dispatcher) (kind : LaneKind) (item : LaneItem) : Dispatcher :=
  dispatcher.setLane ((dispatcher.lane kind).push item) kind

def dispatch (dispatcher : Dispatcher) (event : Event) : Dispatcher :=
  let kind := LaneKind.ofEvent event
  if dispatcher.isFull kind then { dispatcher with dropped := dispatcher.dropped + 1 }
  else dispatcher.push kind (.event event)

/-- Puts the end of the session behind what waits on a lane, once there is room for it. -/
def pushEnding (dispatcher : Dispatcher) (kind : LaneKind) (reason : EndReason) :
    Option Dispatcher :=
  if dispatcher.isFull kind then none else some (dispatcher.push kind (.ending reason))

end Dispatcher

end EventSocket
