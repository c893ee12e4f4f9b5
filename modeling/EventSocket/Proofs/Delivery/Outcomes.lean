import EventSocket.Proofs.Delivery.Moves
import Mathlib.Data.List.Forall2

/-!
Callbacks that fail. Leaving out of a run how its callbacks come back, and in what manner its
listeners take them, changes nothing of what it does: two runs in which callbacks come back at the
same turns tell each place the same and drop the same events.
-/

namespace EventSocket

/-- A listener as far as it can be told apart by what reaches it. -/
def Listener.plain (listener : Listener) : Listener := { listener with manner := .steady }

def Registers.plain (registers : Registers) : Registers :=
  ⟨registers.lists.map (List.map Listener.plain)⟩

def Round.plain (round : Round) : Round :=
  { round with
    calling := round.calling.map Listener.plain
    waiting := round.waiting.map Listener.plain }

def LanePhase.plain : LanePhase → LanePhase
  | .telling round => .telling round.plain
  | .resting => .resting
  | .taken item => .taken item
  | .stopped => .stopped

def Lane.plain (lane : Lane) : Lane := { lane with phase := lane.phase.plain }

def LaneTurn.plain (turn : LaneTurn) : LaneTurn :=
  ⟨turn.lane.plain, turn.told.map fun told => (told.1.plain, told.2)⟩

def Dispatcher.plain (dispatcher : Dispatcher) : Dispatcher :=
  { dispatcher with general := dispatcher.general.plain, jobs := dispatcher.jobs.plain }

def Delivery.plain (delivery : Delivery) : Delivery :=
  { delivery with dispatcher := delivery.dispatcher.plain, registers := delivery.registers.plain }

def Incident.plain : Incident → Incident
  | told kind place listener callback => told kind place listener.plain callback
  | kept event => kept event
  | dropped event => dropped event
  | ended kind reason => ended kind reason

/-- The second move is the first, with the manner of the listeners left out. -/
inductive DeliveryMove.Plain : DeliveryMove → DeliveryMove → Prop
  | dispatch (event : Event) : Plain (.dispatch event) (.dispatch event)
  | add (register : RegisterId) (listener : Listener) :
      Plain (.add register listener) (.add register listener.plain)
  | turn (kind : LaneKind) {answer answer' : Listener → Callback → Option Outcome}
      (h : ∀ listener callback,
        (answer' listener.plain callback).isSome = (answer listener callback).isSome) :
      Plain (.turn kind answer) (.turn kind answer')
  | close (reason : EndReason) : Plain (.close reason) (.close reason)
  | endLane : Plain .endLane .endLane

/-- The moves differ in how callbacks come back and in the manner of listeners, and in nothing
else. -/
inductive DeliveryMove.Alike : DeliveryMove → DeliveryMove → Prop
  | dispatch (event : Event) : Alike (.dispatch event) (.dispatch event)
  | add (register : RegisterId) {listener listener' : Listener}
      (h : listener.plain = listener'.plain) :
      Alike (.add register listener) (.add register listener')
  | turn (kind : LaneKind) {answer answer' : Listener → Callback → Option Outcome}
      (h : ∀ listener listener' callback, listener.plain = listener'.plain →
        (answer listener callback).isSome = (answer' listener' callback).isSome) :
      Alike (.turn kind answer) (.turn kind answer')
  | close (reason : EndReason) : Alike (.close reason) (.close reason)
  | endLane : Alike .endLane .endLane

theorem Registers.listeners_plain (registers : Registers) (id : RegisterId) :
    registers.plain.listeners id = (registers.listeners id).map Listener.plain := by
  simp only [listeners, plain, List.getD_eq_getElem?_getD, List.getElem?_map]
  cases registers.lists[id.index]? <;> rfl

theorem Registers.add_plain (registers : Registers) (id : RegisterId) (listener : Listener) :
    registers.plain.add id listener.plain = (registers.add id listener).plain := by
  refine congrArg Registers.mk (map_modify (fun list => ?_) registers.lists id.index).symm
  simp

namespace Lane

variable {kind : LaneKind} {answer answer' : Listener → Callback → Option Outcome}

@[simp]
theorem plain_behind (item : LaneItem) : (LanePhase.behind item).plain = .behind item := by
  cases item <;> rfl

theorem roundTurn_plain (lane : Lane) (round : Round)
    (hanswer : ∀ listener callback,
      (answer' listener.plain callback).isSome = (answer listener callback).isSome) :
    lane.plain.roundTurn kind answer' round.plain =
      (lane.roundTurn kind answer round).map LaneTurn.plain := by
  have hitem : round.plain.item = round.item := rfl
  unfold roundTurn
  rw [hitem]
  cases round.item.callback? kind with
  | none => simp [LaneTurn.plain, plain]
  | some callback =>
    cases hcalling : round.calling with
    | some listener =>
      have hcomes := hanswer listener callback
      simp only [Round.plain, hcalling, Option.map_some]
      cases hback : answer listener callback <;> rw [hback] at hcomes
      · rw [Option.isSome_none, Option.isSome_eq_false_iff, Option.isNone_iff_eq_none] at hcomes
        rw [hcomes]
        rfl
      · obtain ⟨outcome, hback'⟩ := Option.isSome_iff_exists.mp hcomes
        simp [hback', LaneTurn.plain, plain, LanePhase.plain, Round.plain]
    | none =>
      cases hwaiting : round.waiting with
      | nil => simp [Round.plain, hcalling, hwaiting, LaneTurn.plain, plain]
      | cons listener waiting =>
        simp [Round.plain, hcalling, hwaiting, LaneTurn.plain, plain, LanePhase.plain]

theorem turn_plain (lane : Lane) (listeners : List Listener)
    (hanswer : ∀ listener callback,
      (answer' listener.plain callback).isSome = (answer listener callback).isSome) :
    lane.plain.turn kind (listeners.map Listener.plain) answer' =
      (lane.turn kind listeners answer).map LaneTurn.plain := by
  unfold Lane.turn
  cases hphase : lane.phase with
  | resting =>
    cases hqueue : lane.queue <;> simp [plain, hphase, hqueue, LanePhase.plain, LaneTurn.plain]
  | taken item => simp [plain, hphase, LanePhase.plain, LaneTurn.plain, Round.plain]
  | telling round =>
    have hplain : lane.plain.phase = .telling round.plain := by
      simp [plain, hphase, LanePhase.plain]
    rw [hplain]
    exact lane.roundTurn_plain round hanswer
  | stopped => simp [plain, hphase, LanePhase.plain]

theorem place_plain (lane : Lane) : lane.plain.place = lane.place := by
  unfold place plain
  cases lane.phase <;> rfl

end Lane

namespace Dispatcher

variable (dispatcher : Dispatcher) (kind : LaneKind)

theorem lane_plain : dispatcher.plain.lane kind = (dispatcher.lane kind).plain := by
  cases kind <;> rfl

theorem setLane_plain (lane : Lane) :
    dispatcher.plain.setLane lane.plain kind = (dispatcher.setLane lane kind).plain := by
  cases kind <;> rfl

theorem push_plain (item : LaneItem) :
    dispatcher.plain.push kind item = (dispatcher.push kind item).plain := by
  cases kind <;> rfl

theorem isFull_plain : dispatcher.plain.isFull kind = dispatcher.isFull kind := by
  rw [isFull, lane_plain]
  rfl

theorem dispatch_plain (event : Event) :
    dispatcher.plain.dispatch event = (dispatcher.dispatch event).plain := by
  unfold dispatch
  dsimp only
  rw [isFull_plain]
  split
  · rfl
  · exact dispatcher.push_plain ..

end Dispatcher

namespace Delivery

variable {delivery : Delivery} {move move' : DeliveryMove}

theorem laneTurn_plain {kind : LaneKind} {answer answer' : Listener → Callback → Option Outcome}
    (delivery : Delivery)
    (hanswer : ∀ listener callback,
      (answer' listener.plain callback).isSome = (answer listener callback).isSome) :
    delivery.plain.laneTurn kind answer' = (delivery.laneTurn kind answer).map LaneTurn.plain := by
  have hlisteners : delivery.plain.listeners = delivery.listeners.map Listener.plain :=
    delivery.registers.listeners_plain delivery.register
  rw [laneTurn, laneTurn, hlisteners, ← (delivery.lane kind).turn_plain _ hanswer]
  exact congrArg (Lane.turn · kind _ answer') (delivery.dispatcher.lane_plain kind)

theorem perform_plain (delivery : Delivery) (h : move.Plain move') :
    delivery.plain.perform move' = (delivery.perform move).plain := by
  have hphase : delivery.plain.phase = delivery.phase := rfl
  cases h with
  | dispatch event =>
    simp only [perform, hphase]
    split
    · exact congrArg (fun dispatcher => { delivery.plain with dispatcher })
        (delivery.dispatcher.dispatch_plain event)
    · rfl
  | add register listener =>
    exact congrArg (fun registers => { delivery.plain with registers })
      (delivery.registers.add_plain register listener)
  | @turn kind answer answer' hanswer =>
    simp only [perform, delivery.laneTurn_plain hanswer]
    cases delivery.laneTurn kind answer with
    | none => rfl
    | some turn =>
      exact congrArg (fun dispatcher => { delivery.plain with dispatcher })
        (delivery.dispatcher.setLane_plain kind turn.lane)
  | close reason =>
    simp only [perform, hphase]
    split <;> rfl
  | endLane =>
    have hfull (kind : LaneKind) := delivery.dispatcher.isFull_plain kind
    have hdispatcher : delivery.plain.dispatcher = delivery.dispatcher.plain := rfl
    simp only [perform, hphase, Dispatcher.pushEnding, hdispatcher, hfull]
    split
    · next reason kind _ =>
      cases delivery.dispatcher.isFull kind with
      | true => rfl
      | false =>
        exact congrArg (fun dispatcher => { delivery.plain with
          dispatcher, phase := ClosePhase.past reason kind })
          (delivery.dispatcher.push_plain kind (.ending reason))
    · rfl
    · rfl

theorem incidents_plain (delivery : Delivery) (h : move.Plain move') :
    delivery.plain.incidents move' = (delivery.incidents move).map Incident.plain := by
  have hphase : delivery.plain.phase = delivery.phase := rfl
  have hfull (kind : LaneKind) : delivery.plain.dispatcher.isFull kind =
    delivery.dispatcher.isFull kind := delivery.dispatcher.isFull_plain kind
  cases h with
  | dispatch event =>
    simp only [incidents, hphase, hfull]
    split
    · cases delivery.dispatcher.isFull (.ofEvent event) <;> rfl
    · rfl
  | @turn kind answer answer' hanswer =>
    have hplace : (delivery.plain.lane kind).place = (delivery.lane kind).place := by
      rw [← (delivery.lane kind).place_plain]
      exact congrArg Lane.place (delivery.dispatcher.lane_plain kind)
    simp only [incidents, delivery.laneTurn_plain hanswer, hplace]
    cases hturn : delivery.laneTurn kind answer with
    | none => rfl
    | some turn => cases htold : turn.told <;> simp [LaneTurn.plain, htold, Incident.plain]
  | endLane =>
    simp only [incidents, hphase, hfull]
    split
    · next reason kind _ => cases delivery.dispatcher.isFull kind <;> rfl
    · rfl
    · rfl
  | _ => rfl

/-- A run goes as it does with the manner of the listeners left out. -/
theorem run_plain {moves moves' : List DeliveryMove} (delivery : Delivery)
    (h : List.Forall₂ DeliveryMove.Plain moves moves') :
    delivery.plain.after moves' = (delivery.after moves).plain ∧
      delivery.plain.log moves' = (delivery.log moves).map Incident.plain := by
  induction h generalizing delivery with
  | nil => exact ⟨rfl, rfl⟩
  | cons hmove hmoves ih =>
    obtain ⟨hafter, hlog⟩ := ih (delivery.perform _)
    rw [← perform_plain delivery hmove] at hafter hlog
    refine ⟨hafter, ?_⟩
    rw [log_cons, log_cons, List.map_append, incidents_plain delivery hmove, hlog]

end Delivery

theorem DeliveryMove.Alike.plain {move move' : DeliveryMove} (h : move.Alike move') :
    ∃ common, move.Plain common ∧ move'.Plain common := by
  cases h with
  | dispatch event => exact ⟨_, .dispatch event, .dispatch event⟩
  | @add register listener listener' hplain =>
    exact ⟨_, .add register listener, hplain ▸ .add register listener'⟩
  | @turn kind answer answer' hanswer =>
    refine ⟨.turn kind answer, .turn kind fun listener callback => ?_,
      .turn kind fun listener callback => ?_⟩
    · exact (hanswer listener.plain listener callback rfl).trans
        (hanswer listener listener callback rfl).symm
    · exact hanswer _ listener callback rfl
  | close reason => exact ⟨_, .close reason, .close reason⟩
  | endLane => exact ⟨_, .endLane, .endLane⟩

theorem plain_of_alike {moves moves' : List DeliveryMove}
    (h : List.Forall₂ DeliveryMove.Alike moves moves') :
    ∃ common, List.Forall₂ DeliveryMove.Plain moves common ∧
      List.Forall₂ DeliveryMove.Plain moves' common := by
  induction h with
  | nil => exact ⟨[], .nil, .nil⟩
  | cons hmove hmoves ih =>
    obtain ⟨common, hcommon, hcommon'⟩ := hmove.plain
    obtain ⟨rest, hrest, hrest'⟩ := ih
    exact ⟨common :: rest, .cons hcommon hrest, .cons hcommon' hrest'⟩

section Logs

variable (kind : LaneKind) (place : Nat) (log : List Incident)

theorem heardAt_plain : heardAt kind place (log.map Incident.plain) = heardAt kind place log := by
  rw [heardAt, List.filterMap_map]
  refine congrArg (List.filterMap · log) (funext fun incident => ?_)
  cases incident <;> rfl

theorem droppedOn_plain : droppedOn kind (log.map Incident.plain) = droppedOn kind log := by
  rw [droppedOn, List.filterMap_map]
  refine congrArg (List.filterMap · log) (funext fun incident => ?_)
  cases incident <;> rfl

end Logs

namespace Delivery

/-- How callbacks come back makes no difference to what any place is told, on either lane, and to
which events are dropped. -/
theorem same_despite_outcomes {registers registers' : Registers} {moves moves' : List DeliveryMove}
    (register : RegisterId) (size : Nat) (hregisters : registers.plain = registers'.plain)
    (hmoves : List.Forall₂ DeliveryMove.Alike moves moves') :
    let first := start registers register size
    let first' := start registers' register size
    (∀ kind place, heardAt kind place (first.log moves) = heardAt kind place (first'.log moves')) ∧
      (∀ kind, droppedOn kind (first.log moves) = droppedOn kind (first'.log moves')) ∧
      (first.after moves).dispatcher.dropped = (first'.after moves').dispatcher.dropped ∧
      (first.log moves).map Incident.plain = (first'.log moves').map Incident.plain := by
  intro first first'
  obtain ⟨common, hcommon, hcommon'⟩ := plain_of_alike hmoves
  have hfirst : first.plain = first'.plain :=
    congrArg (fun registers => { start registers register size with registers }) hregisters
  obtain ⟨hafter, hlog⟩ := first.run_plain hcommon
  obtain ⟨hafter', hlog'⟩ := first'.run_plain hcommon'
  rw [hfirst] at hafter hlog
  have hlogs := hlog.symm.trans hlog'
  refine ⟨fun kind place => ?_, fun kind => ?_, ?_, hlogs⟩
  · rw [← heardAt_plain, hlogs, heardAt_plain]
  · rw [← droppedOn_plain, hlogs, droppedOn_plain]
  · exact congrArg (·.dispatcher.dropped) (hafter.symm.trans hafter')

/-- An event for two listeners whose callbacks come back in one way. -/
def toldTwice (outcome : Outcome) : List DeliveryMove :=
  .dispatch ⟨none, Fields.empty, []⟩ ::
    List.replicate 6 (.turn .general fun _ _ => some outcome)

theorem alike_toldTwice (outcome outcome' : Outcome) :
    List.Forall₂ DeliveryMove.Alike (toldTwice outcome) (toldTwice outcome') := by
  refine .cons (.dispatch _) ?_
  simp [List.replicate, DeliveryMove.Alike.turn]

theorem same_despite_outcomes_panicking :
    let registers : Registers := ⟨[[⟨some 0, .steady⟩, ⟨some 1, .steady⟩]]⟩
    let registers' : Registers := ⟨[[⟨some 0, .panicking⟩, ⟨some 1, .failing⟩]]⟩
    let first := start registers ⟨0⟩ 1
    let first' := start registers' ⟨0⟩ 1
    registers.plain = registers'.plain ∧
      List.Forall₂ DeliveryMove.Alike (toldTwice .done) (toldTwice .panicked) ∧
      (∀ kind place, heardAt kind place (first.log (toldTwice .done)) =
        heardAt kind place (first'.log (toldTwice .panicked))) ∧
      (∀ kind, droppedOn kind (first.log (toldTwice .done)) =
        droppedOn kind (first'.log (toldTwice .panicked))) ∧
      (first.after (toldTwice .done)).dispatcher.dropped =
        (first'.after (toldTwice .panicked)).dispatcher.dropped ∧
      (first.log (toldTwice .done)).map Incident.plain =
        (first'.log (toldTwice .panicked)).map Incident.plain ∧
      heardAt .general 1 (first'.log (toldTwice .panicked)) =
        [.event ⟨none, Fields.empty, []⟩] := by
  intro registers registers' first first'
  have hregisters : registers.plain = registers'.plain := rfl
  have hmoves := alike_toldTwice .done .panicked
  obtain ⟨hheard, hdropped, hcount, hlog⟩ := same_despite_outcomes ⟨0⟩ 1 hregisters hmoves
  exact ⟨hregisters, hmoves, hheard, hdropped, hcount, hlog, by decide⟩

end Delivery

end EventSocket
