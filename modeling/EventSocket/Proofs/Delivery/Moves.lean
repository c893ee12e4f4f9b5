import EventSocket.Proofs.Delivery.Lanes

/-!
The moves of a dispatcher and of its two lanes, in any order: events are dispatched, listeners are
registered, either lane takes a turn, the dispatcher is closed. Whoever has to wait lets the move
pass. The log says what has become of each event, when the end was put on each lane, and what has
been told at each place of the register.
-/

namespace EventSocket

theorem map_modify {α β : Type} {view : α → β} {change : α → α} {change' : β → β}
    (h : ∀ item, view (change item) = change' (view item)) (items : List α) (place : Nat) :
    (items.modify place change).map view = (items.map view).modify place change' := by
  refine List.ext_getElem? fun index => ?_
  simp only [List.getElem?_map, List.getElem?_modify]
  by_cases hplace : place = index
  · cases items[index]? <;> simp [hplace, h]
  · simp [hplace]

namespace Dispatcher

variable {kind kind' : LaneKind}

theorem lane_setLane (dispatcher : Dispatcher) (lane : Lane) :
    (dispatcher.setLane lane kind').lane kind =
      if kind' = kind then lane else dispatcher.lane kind := by
  cases kind' <;> cases kind <;> rfl

@[simp]
theorem limit_setLane (dispatcher : Dispatcher) (lane : Lane) (kind : LaneKind) :
    (dispatcher.setLane lane kind).limit = dispatcher.limit := by
  cases kind <;> rfl

@[simp]
theorem dropped_setLane (dispatcher : Dispatcher) (lane : Lane) (kind : LaneKind) :
    (dispatcher.setLane lane kind).dropped = dispatcher.dropped := by
  cases kind <;> rfl

theorem lane_push (dispatcher : Dispatcher) (item : LaneItem) :
    (dispatcher.push kind' item).lane kind =
      if kind' = kind then (dispatcher.lane kind).push item else dispatcher.lane kind := by
  cases kind' <;> cases kind <;> rfl

@[simp]
theorem limit_push (dispatcher : Dispatcher) (kind : LaneKind) (item : LaneItem) :
    (dispatcher.push kind item).limit = dispatcher.limit :=
  dispatcher.limit_setLane ..

@[simp]
theorem dropped_push (dispatcher : Dispatcher) (kind : LaneKind) (item : LaneItem) :
    (dispatcher.push kind item).dropped = dispatcher.dropped :=
  dispatcher.dropped_setLane ..

theorem isFull_eq_false_iff {dispatcher : Dispatcher} :
    dispatcher.isFull kind = false ↔ (dispatcher.lane kind).queue.length < dispatcher.limit := by
  simp [isFull]

@[simp]
theorem limit_dispatch (dispatcher : Dispatcher) (event : Event) :
    (dispatcher.dispatch event).limit = dispatcher.limit := by
  unfold dispatch
  dsimp only
  split
  · rfl
  · simp

theorem lane_dispatch (dispatcher : Dispatcher) (event : Event) (kind : LaneKind) :
    (dispatcher.dispatch event).lane kind =
      if LaneKind.ofEvent event = kind ∧ dispatcher.isFull kind = false then
        (dispatcher.lane kind).push (.event event)
      else dispatcher.lane kind := by
  unfold dispatch
  dsimp only
  split
  · next hfull =>
    rw [if_neg]
    · cases kind <;> rfl
    · rintro ⟨rfl, hroom⟩
      rw [hroom] at hfull
      cases hfull
  · next hroom =>
    rw [lane_push]
    by_cases hkind : LaneKind.ofEvent event = kind
    · subst hkind
      simp [hroom]
    · simp [hkind]

end Dispatcher

/-- Whether an event goes to the lane. -/
def LaneKind.takes : LaneKind → Event → Bool
  | general, event => !event.isBackgroundJob
  | jobs, event => event.isBackgroundJob

theorem LaneKind.takes_iff {kind : LaneKind} {event : Event} :
    kind.takes event ↔ LaneKind.ofEvent event = kind := by
  by_cases hjob : event.isBackgroundJob <;> cases kind <;> simp [takes, ofEvent, hjob]

/-- How far the closing of a dispatcher has come. While it is `ending`, the end waits for room on
the lane. -/
inductive ClosePhase where
  | serving
  | ending (reason : EndReason) (kind : LaneKind)
  | closed (reason : EndReason)
  deriving DecidableEq

namespace ClosePhase

def past (reason : EndReason) : LaneKind → ClosePhase
  | .general => ending reason .jobs
  | .jobs => closed reason

def reason? : ClosePhase → Option EndReason
  | serving => none
  | ending reason _ | closed reason => some reason

/-- The end that has been put on a lane. -/
def ended? : ClosePhase → LaneKind → Option EndReason
  | serving, _ | ending _ .general, _ | ending _ .jobs, .jobs => none
  | ending reason .jobs, .general | closed reason, _ => some reason

end ClosePhase

structure Delivery where
  dispatcher : Dispatcher
  registers : Registers
  register : RegisterId
  phase : ClosePhase

/-- A callback stays under way in a turn that has no answer to it. -/
inductive DeliveryMove where
  | dispatch (event : Event)
  | add (register : RegisterId) (listener : Listener)
  | turn (kind : LaneKind) (answer : Listener → Callback → Option Outcome)
  | close (reason : EndReason)
  | endLane

inductive Incident where
  | kept (event : Event)
  | dropped (event : Event)
  | ended (kind : LaneKind) (reason : EndReason)
  | told (kind : LaneKind) (place : Nat) (listener : Listener) (callback : Callback)
  deriving DecidableEq

namespace DeliveryMove

def isDispatch : DeliveryMove → Bool
  | dispatch _ => true
  | _ => false

def isTurn (kind : LaneKind) : DeliveryMove → Bool
  | turn kind' _ => kind' = kind
  | _ => false

/-- A turn of the lane does not find a callback under way that stays so. -/
def Answers (kind : LaneKind) (move : DeliveryMove) : Prop :=
  ∀ answer, move = .turn kind answer → ∀ listener callback, (answer listener callback).isSome

end DeliveryMove

namespace Incident

@[simp]
def kept? (kind : LaneKind) : Incident → Option Event
  | kept event => if kind.takes event then some event else none
  | _ => none

@[simp]
def dropped? (kind : LaneKind) : Incident → Option Event
  | dropped event => if kind.takes event then some event else none
  | _ => none

/-- What has been put on the lane to be told. -/
@[simp]
def due? (kind : LaneKind) : Incident → Option Callback
  | kept event => if kind.takes event then some (kind.tell event) else none
  | ended kind' reason => if kind' = kind then (LaneItem.ending reason).callback? kind else none
  | _ => none

@[simp]
def heard? (kind : LaneKind) (place : Nat) : Incident → Option Callback
  | told kind' place' _ callback => if kind' = kind ∧ place' = place then some callback else none
  | _ => none

end Incident

def keptOn (kind : LaneKind) (log : List Incident) : List Event :=
  log.filterMap (Incident.kept? kind)

def droppedOn (kind : LaneKind) (log : List Incident) : List Event :=
  log.filterMap (Incident.dropped? kind)

def dueOn (kind : LaneKind) (log : List Incident) : List Callback :=
  log.filterMap (Incident.due? kind)

/-- What has been told at a place on a lane. -/
def heardAt (kind : LaneKind) (place : Nat) (log : List Incident) : List Callback :=
  log.filterMap (Incident.heard? kind place)

section Logs

variable (kind : LaneKind) (place : Nat) (log more : List Incident) (incident : Incident)

@[simp]
theorem keptOn_append : keptOn kind (log ++ more) = keptOn kind log ++ keptOn kind more :=
  List.filterMap_append

@[simp]
theorem droppedOn_append :
    droppedOn kind (log ++ more) = droppedOn kind log ++ droppedOn kind more :=
  List.filterMap_append

@[simp]
theorem dueOn_append : dueOn kind (log ++ more) = dueOn kind log ++ dueOn kind more :=
  List.filterMap_append

@[simp]
theorem heardAt_append :
    heardAt kind place (log ++ more) = heardAt kind place log ++ heardAt kind place more :=
  List.filterMap_append

@[simp]
theorem keptOn_nil : keptOn kind [] = [] := rfl

@[simp]
theorem keptOn_singleton : keptOn kind [incident] = (incident.kept? kind).toList := by
  rw [keptOn, List.filterMap_cons]
  cases incident.kept? kind <;> rfl

@[simp]
theorem droppedOn_nil : droppedOn kind [] = [] := rfl

@[simp]
theorem droppedOn_singleton : droppedOn kind [incident] = (incident.dropped? kind).toList := by
  rw [droppedOn, List.filterMap_cons]
  cases incident.dropped? kind <;> rfl

@[simp]
theorem dueOn_nil : dueOn kind [] = [] := rfl

@[simp]
theorem dueOn_singleton : dueOn kind [incident] = (incident.due? kind).toList := by
  rw [dueOn, List.filterMap_cons]
  cases incident.due? kind <;> rfl

@[simp]
theorem heardAt_nil : heardAt kind place [] = [] := rfl

@[simp]
theorem heardAt_singleton :
    heardAt kind place [incident] = (incident.heard? kind place).toList := by
  rw [heardAt, List.filterMap_cons]
  cases incident.heard? kind place <;> rfl

end Logs

namespace Delivery

def start (registers : Registers) (register : RegisterId) (queueSize : Nat) : Delivery :=
  ⟨.start queueSize, registers, register, .serving⟩

def listeners (delivery : Delivery) : List Listener :=
  delivery.registers.listeners delivery.register

def lane (delivery : Delivery) (kind : LaneKind) : Lane := delivery.dispatcher.lane kind

def laneTurn (delivery : Delivery) (kind : LaneKind)
    (answer : Listener → Callback → Option Outcome) : Option LaneTurn :=
  (delivery.lane kind).turn kind delivery.listeners answer

def perform (delivery : Delivery) : DeliveryMove → Delivery
  | .dispatch event =>
    if delivery.phase = .serving then
      { delivery with dispatcher := delivery.dispatcher.dispatch event }
    else delivery
  | .add register listener =>
    { delivery with registers := delivery.registers.add register listener }
  | .turn kind answer =>
    match delivery.laneTurn kind answer with
    | some turn => { delivery with dispatcher := delivery.dispatcher.setLane turn.lane kind }
    | none => delivery
  | .close reason =>
    if delivery.phase = .serving then { delivery with phase := .ending reason .general }
    else delivery
  | .endLane =>
    match delivery.phase with
    | .ending reason kind =>
      match delivery.dispatcher.pushEnding kind reason with
      | some dispatcher => { delivery with dispatcher, phase := .past reason kind }
      | none => delivery
    | .serving | .closed _ => delivery

def incidents (delivery : Delivery) : DeliveryMove → List Incident
  | .dispatch event =>
    if delivery.phase = .serving then
      [if delivery.dispatcher.isFull (LaneKind.ofEvent event) then .dropped event else .kept event]
    else []
  | .turn kind answer =>
    ((delivery.laneTurn kind answer).bind LaneTurn.told).toList.map fun told =>
      .told kind (delivery.lane kind).place told.1 told.2
  | .endLane =>
    match delivery.phase with
    | .ending reason kind =>
      if delivery.dispatcher.isFull kind then [] else [.ended kind reason]
    | .serving | .closed _ => []
  | .add .. | .close _ => []

/-- What the moves lead to, one after another. -/
def after (delivery : Delivery) (moves : List DeliveryMove) : Delivery :=
  moves.foldl perform delivery

def log (delivery : Delivery) : List DeliveryMove → List Incident
  | [] => []
  | move :: moves => delivery.incidents move ++ (delivery.perform move).log moves

variable {delivery : Delivery} {move : DeliveryMove}

@[simp]
theorem after_nil (delivery : Delivery) : delivery.after [] = delivery := rfl

@[simp]
theorem after_cons (delivery : Delivery) (move : DeliveryMove) (moves : List DeliveryMove) :
    delivery.after (move :: moves) = (delivery.perform move).after moves := rfl

theorem after_append (delivery : Delivery) (moves more : List DeliveryMove) :
    delivery.after (moves ++ more) = (delivery.after moves).after more :=
  List.foldl_append

@[simp]
theorem log_nil (delivery : Delivery) : delivery.log [] = [] := rfl

@[simp]
theorem log_cons (delivery : Delivery) (move : DeliveryMove) (moves : List DeliveryMove) :
    delivery.log (move :: moves) = delivery.incidents move ++ (delivery.perform move).log moves :=
  rfl

theorem log_append (delivery : Delivery) (moves more : List DeliveryMove) :
    delivery.log (moves ++ more) = delivery.log moves ++ (delivery.after moves).log more := by
  induction moves generalizing delivery with
  | nil => rfl
  | cons move moves ih => simp [ih]

/-- The ways in which a move goes. -/
inductive Makes (delivery : Delivery) : DeliveryMove → List Incident → Delivery → Prop
  | waits (move : DeliveryMove) : Makes delivery move [] delivery
  | keeps {event : Event} (hserving : delivery.phase = .serving)
      (hroom : delivery.dispatcher.isFull (LaneKind.ofEvent event) = false) :
      Makes delivery (.dispatch event) [.kept event]
        { delivery with
          dispatcher := delivery.dispatcher.push (LaneKind.ofEvent event) (.event event) }
  | drops {event : Event} (hserving : delivery.phase = .serving)
      (hfull : delivery.dispatcher.isFull (LaneKind.ofEvent event) = true) :
      Makes delivery (.dispatch event) [.dropped event]
        { delivery with
          dispatcher := { delivery.dispatcher with dropped := delivery.dispatcher.dropped + 1 } }
  | adds (register : RegisterId) (listener : Listener) :
      Makes delivery (.add register listener) []
        { delivery with registers := delivery.registers.add register listener }
  | turns {kind : LaneKind} {answer : Listener → Callback → Option Outcome} {turn : LaneTurn}
      (hturns : (delivery.lane kind).Turns kind delivery.listeners answer turn) :
      Makes delivery (.turn kind answer)
        (turn.told.toList.map fun told => .told kind (delivery.lane kind).place told.1 told.2)
        { delivery with dispatcher := delivery.dispatcher.setLane turn.lane kind }
  | closes {reason : EndReason} (hserving : delivery.phase = .serving) :
      Makes delivery (.close reason) [] { delivery with phase := .ending reason .general }
  | ends {reason : EndReason} {kind : LaneKind} (hphase : delivery.phase = .ending reason kind)
      (hroom : delivery.dispatcher.isFull kind = false) :
      Makes delivery .endLane [.ended kind reason]
        { delivery with
          dispatcher := delivery.dispatcher.push kind (.ending reason)
          phase := .past reason kind }

theorem makes_perform (delivery : Delivery) (move : DeliveryMove) :
    delivery.Makes move (delivery.incidents move) (delivery.perform move) := by
  cases move with
  | dispatch event =>
    simp only [perform, incidents]
    split
    · next hserving =>
      unfold Dispatcher.dispatch
      dsimp only
      split
      · next hfull => exact .drops hserving hfull
      · next hroom => exact .keeps hserving (Bool.eq_false_iff.mpr hroom)
    · exact .waits _
  | add register listener => exact .adds register listener
  | turn kind answer =>
    simp only [perform, incidents]
    cases hturn : delivery.laneTurn kind answer with
    | none => exact .waits _
    | some turn => exact .turns (Lane.turns_of_turn hturn)
  | close reason =>
    simp only [perform, incidents]
    split
    · next hserving => exact .closes hserving
    · exact .waits _
  | endLane =>
    simp only [perform, incidents]
    split
    · next reason kind hphase =>
      unfold Dispatcher.pushEnding
      by_cases hfull : delivery.dispatcher.isFull kind = true
      · rw [if_pos hfull, if_pos hfull]
        exact .waits _
      · rw [if_neg hfull, if_neg hfull]
        exact .ends hphase (Bool.eq_false_iff.mpr hfull)
    · exact .waits _
    · exact .waits _

end Delivery

end EventSocket
