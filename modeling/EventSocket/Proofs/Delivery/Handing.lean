import EventSocket.Proofs.Delivery.Closing

/-!
Where every event of a dispatcher is. The events kept for a lane have been told at each place that
was there before the first of them, or are under way, or wait, in this order; the others have been
dropped for want of room.
-/

namespace EventSocket

/-- The event that was handed to the dispatcher, whatever became of it. -/
def Incident.given? : Incident → Option Event
  | kept event | dropped event => some event
  | ended .. | told .. => none

namespace DeliveryMove

def event? : DeliveryMove → Option Event
  | dispatch event => some event
  | _ => none

def isClose : DeliveryMove → Bool
  | close _ => true
  | _ => false

end DeliveryMove

theorem event?_callback? (item : LaneItem) (kind : LaneKind) :
    (item.callback? kind).bind Callback.event? = item.event? := by
  cases item <;> cases kind <;> rfl

theorem Lane.event?_owed (lane : Lane) (kind : LaneKind) (place : Nat) :
    (lane.owed kind place).filterMap Callback.event? = lane.underway place ++ lane.events := by
  simp only [owed, underway, events, List.filterMap_filterMap, event?_callback?,
    List.filterMap_append]

theorem event?_due? (incident : Incident) (kind : LaneKind) :
    (incident.due? kind).bind Callback.event? = incident.kept? kind := by
  cases incident with
  | kept event => by_cases htakes : kind.takes event <;> simp [htakes]
  | ended kind' reason =>
    by_cases hkind : kind' = kind
    · simp only [Incident.due?, Incident.kept?, if_pos hkind]
      exact event?_callback? (.ending reason) kind
    · simp [hkind]
  | _ => rfl

theorem event?_dueOn (kind : LaneKind) (log : List Incident) :
    (dueOn kind log).filterMap Callback.event? = keptOn kind log := by
  simp only [dueOn, keptOn, List.filterMap_filterMap, event?_due?]

theorem takes_of_mem_keptOn {kind : LaneKind} {log : List Incident} {event : Event}
    (h : event ∈ keptOn kind log) : kind.takes event := by
  obtain ⟨incident, -, hkept⟩ := List.mem_filterMap.mp h
  cases incident with
  | kept event' =>
    obtain ⟨htakes, heq⟩ := Option.ite_none_right_eq_some.mp hkept
    exact Option.some.inj heq ▸ htakes
  | _ => cases hkept

namespace Delivery

variable {delivery delivery' : Delivery} {move : DeliveryMove} {happened log : List Incident}
  {kind : LaneKind} {place size : Nat}

/-- The listeners that are there before the first event is dispatched. -/
def early (delivery : Delivery) (moves : List DeliveryMove) : List Listener :=
  (delivery.after (moves.takeWhile (!·.isDispatch))).listeners

theorem reason_of_closed {phase : ClosePhase} (h : phase ≠ .serving) :
    ∃ reason, phase.reason? = some reason := by
  cases phase with
  | serving => exact absurd rfl h
  | ending reason => exact ⟨reason, rfl⟩
  | closed reason => exact ⟨reason, rfl⟩

theorem given_told (kind : LaneKind) (place : Nat) (told : Option (Listener × Callback)) :
    (told.toList.map fun told => Incident.told kind place told.1 told.2).filterMap
      Incident.given? = [] := by
  cases told <;> rfl

theorem given_incidents (hserving : delivery.phase = .serving) (move : DeliveryMove) :
    (delivery.incidents move).filterMap Incident.given? = move.event?.toList := by
  cases move with
  | dispatch event =>
    simp only [incidents, hserving, if_true]
    cases delivery.dispatcher.isFull (LaneKind.ofEvent event) <;> rfl
  | turn kind answer => exact given_told ..
  | endLane => simp [incidents, hserving, DeliveryMove.event?]
  | _ => rfl

theorem given_incidents_of_reason {reason : EndReason}
    (hreason : delivery.phase.reason? = some reason) (move : DeliveryMove) :
    (delivery.incidents move).filterMap Incident.given? = [] := by
  have hclosed : delivery.phase ≠ .serving := by
    intro hserving
    simp [hserving, ClosePhase.reason?] at hreason
  cases move with
  | dispatch event => simp [incidents, hclosed]
  | turn kind answer => exact given_told ..
  | endLane =>
    simp only [incidents]
    split
    · split <;> rfl
    · rfl
    · rfl
  | _ => rfl

theorem given_log_of_reason {reason : EndReason} (hreason : delivery.phase.reason? = some reason)
    (moves : List DeliveryMove) : (delivery.log moves).filterMap Incident.given? = [] := by
  induction moves generalizing delivery with
  | nil => rfl
  | cons move moves ih =>
    rw [log_cons, List.filterMap_append, given_incidents_of_reason hreason]
    exact ih ((delivery.makes_perform move).phase_reason hreason)

theorem serving_perform (hserving : delivery.phase = .serving) (hopen : move.isClose = false) :
    (delivery.perform move).phase = .serving := by
  have hmakes := delivery.makes_perform move
  generalize delivery.incidents move = happened, delivery.perform move = delivery' at hmakes
  cases hmakes with
  | closes => cases hopen
  | ends hphase => rw [hserving] at hphase; cases hphase
  | _ => exact hserving

/-- A dispatcher is handed the events that are dispatched before it is closed. -/
theorem given_log (hserving : delivery.phase = .serving) (moves : List DeliveryMove) :
    (delivery.log moves).filterMap Incident.given? =
      (moves.takeWhile (!·.isClose)).filterMap DeliveryMove.event? := by
  induction moves generalizing delivery with
  | nil => rfl
  | cons move moves ih =>
    rw [log_cons, List.filterMap_append, given_incidents hserving]
    cases hclose : move.isClose with
    | false =>
      rw [ih (serving_perform hserving hclose), List.takeWhile_cons, hclose]
      cases hevent : move.event? <;> simp [hevent]
    | true =>
      cases move <;> cases hclose
      next reason =>
      have hreason : (delivery.perform (.close reason)).phase.reason? = some reason := by
        simp [perform, hserving, ClosePhase.reason?]
      rw [given_log_of_reason hreason]
      rfl

theorem keptOn_incidents (hmove : move.isDispatch = false) :
    keptOn kind (delivery.incidents move) = [] := by
  cases move with
  | dispatch => cases hmove
  | turn kind' answer => exact keptOn_told ..
  | endLane =>
    simp only [incidents]
    split
    · split <;> rfl
    · rfl
    · rfl
  | _ => rfl

theorem keptOn_log_takeWhile (delivery : Delivery) (kind : LaneKind) (moves : List DeliveryMove) :
    keptOn kind (delivery.log (moves.takeWhile (!·.isDispatch))) = [] := by
  induction moves generalizing delivery with
  | nil => rfl
  | cons move moves ih =>
    rw [List.takeWhile_cons]
    cases hmove : move.isDispatch with
    | false => simp [keptOn_incidents hmove, ih]
    | true => rfl

/-- Before the first event is dispatched, nothing has been told but perhaps an end. -/
theorem event?_heardAt_of_keptOn (hsourced : Sourced log delivery) (hkept : keptOn kind log = []) :
    (heardAt kind place log).filterMap Callback.event? = [] := by
  rw [List.filterMap_eq_nil_iff]
  intro callback hcallback
  obtain ⟨incident, hincident, hheard⟩ := List.mem_filterMap.mp hcallback
  cases incident with
  | told kind' place' listener callback' =>
    obtain ⟨⟨rfl, rfl⟩, heq⟩ := Option.ite_none_right_eq_some.mp hheard
    obtain rfl := Option.some.inj heq
    rcases hsourced.told _ _ _ _ hincident with ⟨event, hevent, -⟩ | ⟨reason, rfl, -⟩
    · exact absurd (hkept ▸ hevent) List.not_mem_nil
    · rfl
  | _ => cases hheard

theorem events_of_keptOn (hsourced : Sourced log delivery) (hkept : keptOn kind log = []) :
    (delivery.lane kind).underway place ++ (delivery.lane kind).events = [] := by
  rw [Lane.underway, Lane.events, ← List.filterMap_append, List.filterMap_eq_nil_iff]
  intro item hitem
  cases item with
  | event event =>
    refine absurd (hkept ▸ hsourced.items kind event ?_) List.not_mem_nil
    rcases List.mem_append.mp hitem with hhand | hqueue
    · exact List.mem_append_left _ ((delivery.lane kind).owes_subset place hhand)
    · exact List.mem_append_right _ hqueue
  | ending reason => rfl

/-- From a state at which no event has been kept, the events kept for a lane are those that a place
has been told, those that are under way to it and those that wait. -/
theorem keptOn_eq (hsourced : Sourced log delivery) (hkept : keptOn kind log = [])
    (hplace : place < delivery.listeners.length) (moves : List DeliveryMove) :
    keptOn kind (log ++ delivery.log moves) =
      (heardAt kind place (log ++ delivery.log moves)).filterMap Callback.event? ++
        ((delivery.after moves).lane kind).underway place ++
        ((delivery.after moves).lane kind).events := by
  have howed := congrArg (List.filterMap Callback.event?)
    (delivery.heardAt_owed_after kind hplace moves)
  rw [List.filterMap_append, List.filterMap_append, event?_dueOn, owed, owed, Lane.event?_owed,
    Lane.event?_owed, events_of_keptOn hsourced hkept, List.nil_append] at howed
  rw [keptOn_append, hkept, List.nil_append, heardAt_append, List.filterMap_append,
    event?_heardAt_of_keptOn hsourced hkept, List.nil_append, List.append_assoc, howed]

/-- An event is dropped for want of room only. -/
theorem incidents_dispatch (hbounded : Bounded size log delivery)
    (hserving : delivery.phase = .serving) (event : Event) :
    delivery.incidents (.dispatch event) =
      [if (delivery.lane (.ofEvent event)).queue.length = max size 1 then .dropped event
        else .kept event] := by
  have hqueue := hbounded.queue (.ofEvent event)
  have hfull : delivery.dispatcher.isFull (.ofEvent event) =
      decide ((delivery.lane (.ofEvent event)).queue.length = max size 1) := by
    rw [hbounded.limit] at hqueue
    rw [Dispatcher.isFull, hbounded.limit, decide_eq_decide]
    exact ⟨fun hge => Nat.le_antisymm hqueue hge, fun heq => Nat.le_of_eq heq.symm⟩
  simp [incidents, hserving, hfull]

theorem length_events (h : delivery.Closing) (hserving : delivery.phase = .serving)
    (kind : LaneKind) : (delivery.lane kind).events.length = (delivery.lane kind).queue.length := by
  have hopen := h.isOpen kind (by rw [hserving]; rfl)
  rw [Lane.events, List.length_filterMap_eq_countP, List.countP_eq_length]
  intro item hitem
  cases item with
  | event event => rfl
  | ending reason => exact absurd (List.mem_append_right _ hitem) (hopen.items reason)

/-- What closing tells a place on the general lane. -/
theorem heardAt_closing (hcoherent : Coherent size log delivery)
    (hserving : delivery.phase = .serving) (hplace : place < delivery.listeners.length)
    (reason : EndReason) (more : List DeliveryMove) :
    let closing := delivery.perform (.close reason)
    let due := ((delivery.lane .general).underway place ++ (delivery.lane .general).events).map
      .event ++ [.disconnected reason]
    heardAt .general place (closing.log more) <+: due ∧
      (((closing.after more).lane .general).phase = .stopped →
        heardAt .general place (closing.log more) = due) := by
  intro closing due
  have hclosing : closing = { delivery with phase := .ending reason .general } := by
    simp only [closing, perform, if_pos hserving]
  have hreason : closing.phase.reason? = some reason := by rw [hclosing]; rfl
  have hcoherent' : Coherent size _ (closing.after more) :=
    (hcoherent.after [.close reason]).after more
  have howed : closing.owed .general place =
      ((delivery.lane .general).underway place ++ (delivery.lane .general).events).map .event := by
    rw [hclosing]
    exact (hcoherent.closing.isOpen .general (by rw [hserving]; rfl)).owed_eq .general place
  have hdue := dueOn_ending_after hreason more
  have hheard := closing.heardAt_owed_after .general (by rw [hclosing]; exact hplace) more
  rw [howed] at hheard
  have hnone : closing.ending = [] := by rw [hclosing]; rfl
  rw [hnone, List.nil_append] at hdue
  rcases ended?_eq (reason_after hreason more) .general with hended | hended
  · rw [hdue, ending, hended] at hheard
    refine ⟨?_, fun hstopped => ?_⟩
    · exact (hheard ▸ List.prefix_append _ _).trans ⟨[.disconnected reason], by simp [due]⟩
    · exact absurd hstopped (hcoherent'.closing.isOpen .general hended).running
  · rw [hdue, ending, hended] at hheard
    refine ⟨⟨_, hheard⟩, fun hstopped => ?_⟩
    have hover := (hcoherent'.closing.ended .general reason hended).owed_eq_nil hstopped
      .general place
    rwa [owed, hover, List.append_nil] at hheard

/-- What a place has been told that was there before the first event. -/
theorem keptOn_start (registers : Registers) (register : RegisterId) (size : Nat)
    (moves : List DeliveryMove) (kind : LaneKind)
    (hplace : place < ((start registers register size).early moves).length) :
    let first := start registers register size
    keptOn kind (first.log moves) =
      (heardAt kind place (first.log moves)).filterMap Callback.event? ++
        ((first.after moves).lane kind).underway place ++
        ((first.after moves).lane kind).events := by
  intro first
  have hearly : Coherent size (first.log (moves.takeWhile (!·.isDispatch)))
      (first.after (moves.takeWhile (!·.isDispatch))) := by
    simpa using (coherent_start registers register size).after (moves.takeWhile (!·.isDispatch))
  have heq := keptOn_eq hearly.sourced (keptOn_log_takeWhile first kind moves) hplace
    (moves.dropWhile (!·.isDispatch))
  rwa [← log_append, ← after_append, List.takeWhile_append_dropWhile] at heq

theorem Hears.once {heard : List Callback} (h : delivery.Hears place heard) :
    ∃ events : List Event, ∃ ended : Option EndReason,
      heard = events.map .event ++ ended.toList.map .disconnected := by
  cases h with
  | going events hheard => exact ⟨events, none, by simpa using hheard⟩
  | ended events reason hheard => exact ⟨events, some reason, hheard⟩

/-- Where the events of a dispatcher are, with `early` places that were there before the first. -/
structure Accounted (size early : Nat) (given : List Event) (log : List Incident)
    (delivery : Delivery) : Prop where
  given : log.filterMap Incident.given? = given
  handed : ∀ kind, ∀ place < early,
    keptOn kind log =
      (heardAt kind place log).filterMap Callback.event? ++
        (delivery.lane kind).underway place ++ (delivery.lane kind).events
  waiting : ∀ kind event, .event event ∈ (delivery.lane kind).items → kind.takes event
  told : ∀ kind place listener callback, .told kind place listener callback ∈ log →
    delivery.listeners[place]? = some listener ∧
      ((∃ event, kind.takes event ∧ callback = kind.tell event) ∨
        ∃ reason, callback = .disconnected reason ∧ kind = .general ∧
          delivery.phase.ended? .general = some reason)
  bounded : ∀ kind, (delivery.lane kind).queue.length ≤ max size 1
  drops : delivery.phase = .serving → ∀ event,
    delivery.incidents (.dispatch event) =
      [if (delivery.lane (.ofEvent event)).events.length = max size 1 then .dropped event
        else .kept event]
  counted : delivery.dispatcher.dropped =
    (droppedOn .general log).length + (droppedOn .jobs log).length
  once : ∀ place, ∃ events : List Event, ∃ ended : Option EndReason,
    heardAt .general place log = events.map .event ++ ended.toList.map .disconnected
  closes : delivery.phase = .serving → ∀ reason more, ∀ place < delivery.listeners.length,
    let closing := delivery.perform (.close reason)
    let due := ((delivery.lane .general).underway place ++ (delivery.lane .general).events).map
      .event ++ [.disconnected reason]
    heardAt .general place (closing.log more) <+: due ∧
      (((closing.after more).lane .general).phase = .stopped →
        heardAt .general place (closing.log more) = due)
  stops : delivery.phase ≠ .serving → ∀ first second : List DeliveryMove,
    (∀ move ∈ first ++ second, move.Answers .general) →
    let last := delivery.after (first ++ .endLane :: second)
    enoughTurns size last.listeners.length ≤ first.countP (·.isTurn .general) →
    enoughTurns size last.listeners.length ≤ second.countP (·.isTurn .general) →
    (last.lane .general).phase = .stopped

theorem accounted_start (registers : Registers) (register : RegisterId) (size : Nat)
    (moves : List DeliveryMove) :
    let first := start registers register size
    Accounted size (first.early moves).length
      ((moves.takeWhile (!·.isClose)).filterMap DeliveryMove.event?) (first.log moves)
      (first.after moves) := by
  intro first
  have hcoherent : Coherent size (first.log moves) (first.after moves) := by
    simpa using (coherent_start registers register size).after moves
  have hhears (place : Nat) : (first.after moves).Hears place
      (heardAt .general place (first.log moves)) := by
    simpa using hears_after (coherent_start registers register size)
      (fun place => .going [] rfl) moves place
  refine
    { given := given_log rfl moves
      handed := fun kind place hplace =>
        keptOn_start registers register size moves kind hplace
      waiting := fun kind event hmem =>
        takes_of_mem_keptOn (hcoherent.sourced.items kind event hmem)
      told := ?told
      bounded := fun kind => hcoherent.bounded.limit ▸ hcoherent.bounded.queue kind
      drops := ?drops
      counted := hcoherent.bounded.dropped
      once := fun place => (hhears place).once
      closes := fun hserving reason more place hplace =>
        heardAt_closing hcoherent hserving hplace reason more
      stops := ?stops }
  case told =>
    intro kind place listener callback hmem
    refine ⟨hcoherent.sourced.seated kind place listener callback hmem, ?_⟩
    rcases hcoherent.sourced.told kind place listener callback hmem with ⟨event, hevent, rfl⟩ | hend
    · exact Or.inl ⟨event, takes_of_mem_keptOn hevent, rfl⟩
    · exact Or.inr hend
  case drops =>
    intro hserving event
    rw [length_events hcoherent.closing hserving]
    exact incidents_dispatch hcoherent.bounded hserving event
  case stops =>
    intro hclosed first' second hanswers last hfirst hsecond
    obtain ⟨reason, hreason⟩ := reason_of_closed hclosed
    exact general_stops hcoherent hreason hanswers (Nat.le_refl _) hfirst hsecond

end Delivery

end EventSocket
