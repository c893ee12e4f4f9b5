import EventSocket.Proofs.Delivery.Accounting

/-!
The two lanes of a dispatcher do not wait for each other. What is told on a lane, and which events
find it full, can be read off the moves without the turns of the other lane.
-/

namespace EventSocket

def LaneKind.other : LaneKind → LaneKind
  | general => jobs
  | jobs => general

/-- On a lane that does not tell the end, it makes no difference how far the lane has come with
it. -/
def LanePhase.unended : LanePhase → LanePhase
  | .resting | .taken (.ending _) | .stopped => .resting
  | .taken (.event event) => .taken (.event event)
  | .telling round => if round.item.event?.isSome then .telling round else .resting

/-- A lane as far as it concerns what is told there. -/
def Lane.seen (lane : Lane) : LaneKind → Lane
  | .general => lane
  | .jobs => ⟨lane.queue.filter (·.event?.isSome), lane.phase.unended⟩

/-- The closing of a dispatcher as far as it concerns a lane. -/
def ClosePhase.seen : ClosePhase → LaneKind → ClosePhase
  | serving, _ => serving
  | ending reason .general, .general => ending reason .general
  | ending reason .jobs, .general | closed reason, .general => ending reason .jobs
  | ending reason _, .jobs | closed reason, .jobs => closed reason

def Dispatcher.seen (dispatcher : Dispatcher) (kind : LaneKind) : Dispatcher :=
  Dispatcher.setLane ⟨dispatcher.limit, .empty, .empty, 0⟩ ((dispatcher.lane kind).seen kind) kind

def Delivery.seen (delivery : Delivery) (kind : LaneKind) : Delivery :=
  { delivery with
    dispatcher := delivery.dispatcher.seen kind
    phase := delivery.phase.seen kind }

/-- The end of a lane is not among the incidents on it; the callbacks that tell it are. -/
def Incident.isOn (kind : LaneKind) : Incident → Bool
  | kept event | dropped event => kind.takes event
  | told kind' .. => kind' = kind
  | ended .. => false

namespace Lane

variable {lane : Lane} {kind : LaneKind} {listeners : List Listener}
  {answer : Listener → Callback → Option Outcome} {turn : LaneTurn}

theorem unended_of_item {phase : LanePhase} (hrunning : phase ≠ .stopped)
    (hitem : ∀ reason, phase.item? ≠ some (.ending reason)) : phase.unended = phase := by
  cases phase with
  | resting => rfl
  | stopped => exact absurd rfl hrunning
  | taken item =>
    cases item with
    | event => rfl
    | ending reason => exact absurd rfl (hitem reason)
  | telling round =>
    have hround := hitem
    cases hevent : round.item with
    | event => simp [LanePhase.unended, hevent, LaneItem.event?]
    | ending reason => exact absurd (congrArg some hevent) (hround reason)

theorem unended_of_ending {phase : LanePhase} {reason : EndReason}
    (hitem : phase.item? = some (.ending reason)) : phase.unended = .resting := by
  cases phase with
  | taken item =>
    obtain rfl := Option.some.inj hitem
    rfl
  | telling round =>
    simp [LanePhase.unended, Option.some.inj hitem, LaneItem.event?]
  | _ => cases hitem

theorem Open.seen (h : lane.Open) (kind : LaneKind) : lane.seen kind = lane := by
  cases kind with
  | general => rfl
  | jobs =>
    have hqueue : lane.queue.filter (·.event?.isSome) = lane.queue := by
      rw [List.filter_eq_self]
      intro item hitem
      cases item with
      | event => rfl
      | ending reason => exact absurd (List.mem_append_right _ hitem) (h.items reason)
    have hphase : lane.phase.unended = lane.phase := by
      refine unended_of_item h.running fun reason hitem => h.items reason ?_
      exact List.mem_append_left _ (Option.mem_toList.mpr hitem)
    rw [Lane.seen, hqueue, hphase]

@[simp]
theorem seen_seen (lane : Lane) (kind : LaneKind) :
    (lane.seen kind).seen kind = lane.seen kind := by
  have hphase (phase : LanePhase) : phase.unended.unended = phase.unended := by
    cases phase with
    | telling round => cases hitem : round.item <;> simp [LanePhase.unended, hitem, LaneItem.event?]
    | taken item => cases item <;> rfl
    | _ => rfl
  cases kind with
  | general => rfl
  | jobs => simp [Lane.seen, hphase]

theorem seen_push_ending (lane : Lane) (reason : EndReason) :
    (lane.push (.ending reason)).seen .jobs = lane.seen .jobs := by
  simp [Lane.seen, push, LaneItem.event?]

/-- The end waits behind a lane that is open, or it is all that the lane has. -/
theorem Ended.open_or (reason : EndReason) (h : lane.Ended reason) :
    (∃ before : Lane, before.Open ∧ lane = before.push (.ending reason)) ∨
      lane.seen .jobs = .empty ∧ lane.queue = [] := by
  cases h with
  | stopped hphase hqueue =>
    exact Or.inr ⟨by simp [Lane.seen, hphase, hqueue, LanePhase.unended, empty], hqueue⟩
  | @waits before hrunning hbefore hitems =>
    rcases List.eq_nil_or_concat lane.queue with hqueue | ⟨queue, last, hqueue⟩
    · have hitem : lane.phase.item? = some (.ending reason) := by
        rw [items, hqueue, List.append_nil] at hitems
        have hlast := congrArg List.getLast? hitems
        rw [List.getLast?_concat] at hlast
        cases hhand : lane.phase.item? with
        | none => rw [hhand] at hlast; cases hlast
        | some item => rw [hhand] at hlast; exact hlast
      exact Or.inr ⟨by simp [Lane.seen, unended_of_ending hitem, hqueue, empty], hqueue⟩
    · rw [items, hqueue, List.concat_eq_append, ← List.append_assoc] at hitems
      obtain ⟨hbefore', hlast⟩ := List.append_inj' hitems rfl
      obtain rfl := List.singleton_inj.mp hlast
      refine Or.inl ⟨⟨queue, lane.phase⟩, ⟨hrunning, ?_⟩, ?_⟩
      · exact fun reason' hmem => hbefore reason' (hbefore' ▸ hmem)
      · rw [push, ← List.concat_eq_append, ← hqueue]

theorem turn_push {item : LaneItem} (h : lane.turn kind listeners answer = some turn) :
    (lane.push item).turn kind listeners answer = some ⟨turn.lane.push item, turn.told⟩ := by
  have hphase : (lane.push item).phase = lane.phase := rfl
  unfold Lane.turn at h ⊢
  rw [hphase]
  split at h
  · split at h
    · cases h
    · next first queue hqueue =>
      obtain rfl := Option.some.inj h
      simp [push, hqueue]
  · obtain rfl := Option.some.inj h
    rfl
  · next round _ =>
    unfold roundTurn at h ⊢
    split at h
    · next callback listener _ _ =>
      obtain ⟨outcome, hanswer, rfl⟩ := Option.map_eq_some_iff.mp h
      simp [hanswer, push]
    · obtain rfl := Option.some.inj h
      rfl
    · obtain rfl := Option.some.inj h
      rfl
  · cases h

theorem turn_push_none {item : LaneItem} (h : lane.turn kind listeners answer = none) :
    (lane.push item).turn kind listeners answer =
      if lane.phase = .resting then some ⟨⟨[], .taken item⟩, none⟩ else none := by
  unfold Lane.turn at h ⊢
  cases hphase : lane.phase with
  | resting =>
    cases hqueue : lane.queue with
    | nil => simp [push, hphase, hqueue]
    | cons => simp [hphase, hqueue] at h
  | taken => simp [hphase] at h
  | stopped => simp [push, hphase]
  | telling round =>
    simp only [hphase, push, roundTurn] at h ⊢
    split at h
    · next callback listener _ _ => simp [Option.map_eq_none_iff.mp h]
    · cases h
    · cases h

/-- A lane after a turn if it can take one. -/
def moved (lane : Lane) (kind : LaneKind) (listeners : List Listener)
    (answer : Listener → Callback → Option Outcome) : LaneTurn :=
  (lane.turn kind listeners answer).getD ⟨lane, none⟩

theorem moved_seen_end (listeners : List Listener)
    (answer : Listener → Callback → Option Outcome) (hempty : lane.seen .jobs = .empty)
    (hqueue : lane.queue = []) {reason : EndReason} (hended : lane.Ended reason) :
    (lane.moved .jobs listeners answer).lane.seen .jobs = .empty ∧
      (lane.moved .jobs listeners answer).told = none := by
  unfold moved
  cases hturn : lane.turn .jobs listeners answer with
  | none => exact ⟨hempty, rfl⟩
  | some turn =>
    have hturns := turns_of_turn hturn
    have hqueue' : turn.lane.queue = [] := by
      have hsuffix := hturns.queue_suffix
      rwa [hqueue, List.suffix_nil] at hsuffix
    refine ⟨?_, ?_⟩
    · rcases (hturns.ended hended).open_or with ⟨before, -, hlane⟩ | ⟨hseen, -⟩
      · simp [hlane, push] at hqueue'
      · exact hseen
    · cases htold : turn.told with
      | none => exact htold
      | some told =>
        obtain ⟨item, hitems, hcallback⟩ := hturns.told htold
        rw [hqueue] at hitems
        cases hended with
        | stopped hphase => simp [items, hphase, hqueue, LanePhase.item?] at hitems
        | waits _ _ hlast =>
          have hitem := congrArg List.getLast? (hitems.symm.trans hlast)
          rw [List.getLast?_concat, List.getLast?_singleton] at hitem
          rw [Option.some.inj hitem] at hcallback
          cases hcallback

/-- The turns of a lane that tells the end nobody are those of a lane without it. -/
theorem moved_seen (kind : LaneKind) (listeners : List Listener)
    (answer : Listener → Callback → Option Outcome)
    (hlane : lane.Open ∨ ∃ reason, lane.Ended reason) :
    let seen := (lane.seen kind).moved kind listeners answer
    let turn := lane.moved kind listeners answer
    seen.lane.seen kind = turn.lane.seen kind ∧ seen.told = turn.told ∧
      ((lane.seen kind).place = lane.place ∨ turn.told = none) := by
  intro seen turn
  cases kind with
  | general => exact ⟨rfl, rfl, Or.inl rfl⟩
  | jobs =>
    rcases hlane with hopen | ⟨reason, hended⟩
    · simp [seen, turn, hopen.seen]
    · -- an end behind other items is not reached by this turn, and without them nothing is seen
      rcases hended.open_or with ⟨before, hopen, rfl⟩ | ⟨hempty, hqueue⟩
      · simp only [seen, turn, moved, seen_push_ending, hopen.seen]
        cases hturn : before.turn .jobs listeners answer with
        | some turn =>
          rw [turn_push hturn]
          exact ⟨(seen_push_ending _ _).symm, rfl, Or.inl rfl⟩
        | none =>
          rw [turn_push_none hturn]
          by_cases hphase : before.phase = .resting
          · have hqueue : before.queue = [] := by
              cases hqueue : before.queue <;> simp_all [Lane.turn]
            rw [if_pos hphase]
            simp [Lane.seen, hphase, hqueue, LanePhase.unended]
          · rw [if_neg hphase]
            exact ⟨(seen_push_ending _ _).symm, rfl, Or.inl rfl⟩
      · obtain ⟨hseen, htold⟩ := moved_seen_end listeners answer hempty hqueue hended
        have hrests : seen = ⟨.empty, none⟩ := by simp only [seen, hempty]; rfl
        exact ⟨(congrArg (·.lane.seen .jobs) hrests).trans hseen.symm,
          (congrArg (·.told) hrests).trans htold.symm, Or.inr htold⟩

end Lane

namespace Dispatcher

variable {dispatcher : Dispatcher} {kind kind' : LaneKind}

@[simp]
theorem lane_seen (dispatcher : Dispatcher) (kind : LaneKind) :
    (dispatcher.seen kind).lane kind = (dispatcher.lane kind).seen kind := by
  cases kind <;> rfl

@[simp]
theorem limit_seen (dispatcher : Dispatcher) (kind : LaneKind) :
    (dispatcher.seen kind).limit = dispatcher.limit := by
  cases kind <;> rfl

end Dispatcher

theorem ClosePhase.seen_eq_serving {phase : ClosePhase} {kind : LaneKind} :
    phase.seen kind = .serving ↔ phase = .serving := by
  cases kind <;> unfold seen <;> split <;> simp

theorem ClosePhase.seen_eq_ending {phase : ClosePhase} {reason : EndReason} :
    phase.seen .general = .ending reason .general ↔ phase = .ending reason .general := by
  cases phase with
  | ending reason' kind => cases kind <;> simp [seen]
  | _ => simp [seen]

@[simp]
theorem ClosePhase.seen_seen (phase : ClosePhase) (kind : LaneKind) :
    (phase.seen kind).seen kind = phase.seen kind := by
  cases phase with
  | serving => rfl
  | ending reason kind' => cases kind' <;> cases kind <;> rfl
  | closed reason => cases kind <;> rfl

namespace Delivery

variable {delivery delivery' : Delivery} {move : DeliveryMove} {kind kind' : LaneKind}

theorem seen_ext (hlimit : delivery.dispatcher.limit = delivery'.dispatcher.limit)
    (hlane : (delivery.lane kind).seen kind = (delivery'.lane kind).seen kind)
    (hregisters : delivery.registers = delivery'.registers)
    (hregister : delivery.register = delivery'.register)
    (hphase : delivery.phase.seen kind = delivery'.phase.seen kind) :
    delivery.seen kind = delivery'.seen kind := by
  have hdispatcher : delivery.dispatcher.seen kind = delivery'.dispatcher.seen kind := by
    rw [lane, lane] at hlane
    rw [Dispatcher.seen, Dispatcher.seen, hlimit, hlane]
  simp only [seen, hdispatcher, hregisters, hregister, hphase]

theorem perform_turn (delivery : Delivery) (kind : LaneKind)
    (answer : Listener → Callback → Option Outcome) :
    delivery.perform (.turn kind answer) =
      { delivery with
        dispatcher := delivery.dispatcher.setLane
          ((delivery.lane kind).moved kind delivery.listeners answer).lane kind } := by
  simp only [perform, Lane.moved, laneTurn]
  cases (delivery.lane kind).turn kind delivery.listeners answer with
  | none => cases kind <;> rfl
  | some turn => rfl

theorem Closing.open_or (h : delivery.Closing) (kind : LaneKind) :
    (delivery.lane kind).Open ∨ ∃ reason, (delivery.lane kind).Ended reason := by
  cases hended : delivery.phase.ended? kind with
  | none => exact Or.inl (h.isOpen kind hended)
  | some reason => exact Or.inr ⟨reason, h.ended kind reason hended⟩

@[simp]
theorem lane_seen (delivery : Delivery) (kind : LaneKind) :
    (delivery.seen kind).lane kind = (delivery.lane kind).seen kind :=
  delivery.dispatcher.lane_seen kind

@[simp]
theorem limit_seen (delivery : Delivery) (kind : LaneKind) :
    (delivery.seen kind).dispatcher.limit = delivery.dispatcher.limit :=
  delivery.dispatcher.limit_seen kind

theorem isFull_seen (hopen : (delivery.lane kind).Open) :
    (delivery.seen kind).dispatcher.isFull kind = delivery.dispatcher.isFull kind := by
  have hlane := (delivery.lane_seen kind).trans (hopen.seen kind)
  rw [lane, lane] at hlane
  rw [Dispatcher.isFull, Dispatcher.isFull, hlane, limit_seen]

theorem lane_seen_seen (delivery : Delivery) (kind : LaneKind) :
    ((delivery.seen kind).lane kind).seen kind = (delivery.lane kind).seen kind := by simp

theorem phase_seen_seen (delivery : Delivery) (kind : LaneKind) :
    (delivery.seen kind).phase.seen kind = delivery.phase.seen kind :=
  delivery.phase.seen_seen kind

@[simp]
theorem seen_seen (delivery : Delivery) (kind : LaneKind) :
    (delivery.seen kind).seen kind = delivery.seen kind :=
  seen_ext (by simp) (lane_seen_seen ..) rfl rfl (phase_seen_seen ..)

/-- Unless the end of the general lane is concerned, it makes no difference to a lane that an end
has found its place. -/
theorem seen_endLane (h : kind = .general → ∀ reason, delivery.phase ≠ .ending reason .general) :
    (delivery.perform .endLane).seen kind = delivery.seen kind := by
  have hmakes := delivery.makes_perform .endLane
  generalize delivery.incidents .endLane = happened at hmakes
  generalize delivery.perform .endLane = delivery' at hmakes ⊢
  cases hmakes with
  | waits => rfl
  | @ends reason kind' hphase hroom =>
    refine seen_ext (by simp) ?_ rfl rfl ?_
    · simp only [lane, Dispatcher.lane_push]
      split
      · next hkind =>
        subst hkind
        cases kind' with
        | general => exact absurd hphase (h rfl reason)
        | jobs => exact Lane.seen_push_ending _ reason
      · rfl
    · rw [hphase]
      cases kind' with
      | general =>
        cases kind with
        | general => exact absurd hphase (h rfl reason)
        | jobs => rfl
      | jobs => cases kind <;> rfl

theorem perform_seen (hclosing : delivery.Closing) (move : DeliveryMove) (kind : LaneKind) :
    ((delivery.seen kind).perform move).seen kind = (delivery.perform move).seen kind := by
  cases move with
  | dispatch event =>
    by_cases hserving : delivery.phase = .serving
    · have hopen := hclosing.isOpen kind (by rw [hserving]; rfl)
      have hserving' : (delivery.seen kind).phase = .serving :=
        ClosePhase.seen_eq_serving.mpr hserving
      simp only [perform, if_pos hserving, if_pos hserving']
      refine seen_ext (by simp) ?_ rfl rfl ?_
      · have hlane := (delivery.lane_seen kind).trans (hopen.seen kind)
        rw [lane, lane] at hlane
        simp only [lane, Dispatcher.lane_dispatch, hlane, isFull_seen hopen]
      · simp [hserving, hserving']
    · have hserving' : (delivery.seen kind).phase ≠ .serving := fun h =>
        hserving (ClosePhase.seen_eq_serving.mp h)
      simp only [perform, if_neg hserving, if_neg hserving', seen_seen]
  | add register listener =>
    exact seen_ext (limit_seen ..) (lane_seen_seen ..) rfl rfl (phase_seen_seen ..)
  | turn kind' answer =>
    rw [perform_turn, perform_turn]
    refine seen_ext (by simp) ?_ rfl rfl (phase_seen_seen ..)
    by_cases hkind : kind' = kind
    · subst hkind
      have hmoved := (Lane.moved_seen kind' delivery.listeners answer (hclosing.open_or kind')).1
      rw [← lane_seen] at hmoved
      simp only [lane, Dispatcher.lane_setLane, if_true] at hmoved ⊢
      exact hmoved
    · simp only [lane, Dispatcher.lane_setLane, if_neg hkind]
      exact lane_seen_seen ..
  | close reason =>
    by_cases hserving : delivery.phase = .serving
    · have hserving' : (delivery.seen kind).phase = .serving :=
        ClosePhase.seen_eq_serving.mpr hserving
      simp only [perform, if_pos hserving, if_pos hserving']
      exact seen_ext (limit_seen ..) (lane_seen_seen ..) rfl rfl rfl
    · have hserving' : (delivery.seen kind).phase ≠ .serving := fun h =>
        hserving (ClosePhase.seen_eq_serving.mp h)
      simp only [perform, if_neg hserving, if_neg hserving', seen_seen]
  | endLane =>
    by_cases hgeneral : kind = .general ∧ ∃ reason, delivery.phase = .ending reason .general
    · obtain ⟨rfl, reason, hphase⟩ := hgeneral
      have hphase' : (delivery.seen .general).phase = .ending reason .general := by
        rw [seen, hphase]
        rfl
      have hfull : (delivery.seen .general).dispatcher.isFull .general =
        delivery.dispatcher.isFull .general := rfl
      simp only [perform, hphase, hphase', Dispatcher.pushEnding, hfull]
      cases delivery.dispatcher.isFull .general with
      | true => exact delivery.seen_seen .general
      | false => rfl
    · have hother : kind = .general → ∀ reason, delivery.phase ≠ .ending reason .general :=
        fun hkind reason hphase => hgeneral ⟨hkind, reason, hphase⟩
      have hother' : kind = .general → ∀ reason,
          (delivery.seen kind).phase ≠ .ending reason .general := by
        rintro rfl reason hphase
        exact hother rfl reason (ClosePhase.seen_eq_ending.mp hphase)
      rw [seen_endLane hother, seen_endLane hother', seen_seen]

theorem incidents_turn (delivery : Delivery) (kind : LaneKind)
    (answer : Listener → Callback → Option Outcome) :
    delivery.incidents (.turn kind answer) =
      ((delivery.lane kind).moved kind delivery.listeners answer).told.toList.map fun told =>
        .told kind (delivery.lane kind).place told.1 told.2 := by
  simp only [incidents, Lane.moved, laneTurn]
  cases (delivery.lane kind).turn kind delivery.listeners answer <;> rfl

theorem filter_isOn_endLane (delivery : Delivery) (kind : LaneKind) :
    (delivery.incidents .endLane).filter (Incident.isOn kind) = [] := by
  simp only [incidents]
  split
  · split <;> rfl
  · rfl
  · rfl

theorem filter_isOn_other (delivery : Delivery) (hkind : kind' ≠ kind)
    (answer : Listener → Callback → Option Outcome) :
    (delivery.incidents (.turn kind' answer)).filter (Incident.isOn kind) = [] := by
  rw [incidents_turn, List.filter_eq_nil_iff]
  intro incident hmem
  obtain ⟨told, -, rfl⟩ := List.mem_map.mp hmem
  simp [Incident.isOn, hkind]

theorem incidents_seen (hclosing : delivery.Closing) (move : DeliveryMove) (kind : LaneKind) :
    ((delivery.seen kind).incidents move).filter (Incident.isOn kind) =
      (delivery.incidents move).filter (Incident.isOn kind) := by
  cases move with
  | dispatch event =>
    by_cases hserving : delivery.phase = .serving
    · have hopen := hclosing.isOpen kind (by rw [hserving]; rfl)
      have hserving' : (delivery.seen kind).phase = .serving :=
        ClosePhase.seen_eq_serving.mpr hserving
      simp only [incidents, if_pos hserving, if_pos hserving']
      by_cases hkind : LaneKind.ofEvent event = kind
      · rw [hkind, isFull_seen hopen]
      · have hother : ¬kind.takes event := fun htakes => hkind (LaneKind.takes_iff.mp htakes)
        have hnone (full : Bool) :
            [if full then Incident.dropped event else .kept event].filter (Incident.isOn kind) =
              [] := by
          cases full <;> simp [Incident.isOn, hother]
        rw [hnone, hnone]
    · have hserving' : (delivery.seen kind).phase ≠ .serving := fun h =>
        hserving (ClosePhase.seen_eq_serving.mp h)
      simp only [incidents, if_neg hserving, if_neg hserving']
  | turn kind' answer =>
    by_cases hkind : kind' = kind
    · subst hkind
      obtain ⟨-, htold, hplace⟩ :=
        Lane.moved_seen kind' delivery.listeners answer (hclosing.open_or kind')
      rw [incidents_turn, incidents_turn, lane_seen]
      have hlisteners : (delivery.seen kind').listeners = delivery.listeners := rfl
      rw [hlisteners, htold]
      rcases hplace with hplace | hnone
      · rw [hplace]
      · rw [hnone]
        rfl
    · rw [filter_isOn_other _ hkind, filter_isOn_other _ hkind]
  | endLane => rw [filter_isOn_endLane, filter_isOn_endLane]
  | _ => rfl

theorem seen_turn_other (delivery : Delivery) (hkind : kind' ≠ kind)
    (answer : Listener → Callback → Option Outcome) :
    (delivery.perform (.turn kind' answer)).seen kind = delivery.seen kind := by
  rw [perform_turn]
  refine seen_ext (by simp) ?_ rfl rfl rfl
  simp only [lane, Dispatcher.lane_setLane, if_neg hkind]

/-- What a run does on a lane, it does there without the turns of the other lane. -/
theorem run_seen (kind : LaneKind) (hclosing : delivery.Closing) (hclosing' : delivery'.Closing)
    (hseen : delivery.seen kind = delivery'.seen kind) (moves : List DeliveryMove) :
    let rest := moves.filter (!·.isTurn kind.other)
    (delivery.after moves).seen kind = (delivery'.after rest).seen kind ∧
      (delivery.log moves).filter (Incident.isOn kind) =
        (delivery'.log rest).filter (Incident.isOn kind) := by
  induction moves generalizing delivery delivery' with
  | nil => exact ⟨hseen, rfl⟩
  | cons move moves ih =>
    have hnext := hclosing.makes (delivery.makes_perform move)
    cases hturn : move.isTurn kind.other with
    | false =>
      have hnext' := hclosing'.makes (delivery'.makes_perform move)
      have hmove : (delivery.perform move).seen kind = (delivery'.perform move).seen kind := by
        rw [← perform_seen hclosing, hseen, perform_seen hclosing']
      have hhappened : (delivery.incidents move).filter (Incident.isOn kind) =
          (delivery'.incidents move).filter (Incident.isOn kind) := by
        rw [← incidents_seen hclosing, hseen, incidents_seen hclosing']
      obtain ⟨hafter, hlog⟩ := ih hnext hnext' hmove
      simp only [List.filter_cons, hturn, Bool.not_false, if_true, after_cons, log_cons,
        List.filter_append, hhappened]
      exact ⟨hafter, congrArg (_ ++ ·) hlog⟩
    | true =>
      cases move <;> simp [DeliveryMove.isTurn] at hturn
      next kind' answer =>
      have hkind : kind' ≠ kind := by subst hturn; cases kind <;> simp [LaneKind.other]
      have hmove := (delivery.seen_turn_other hkind answer).trans hseen
      obtain ⟨hafter, hlog⟩ := ih hnext hclosing' hmove
      have hskip : (!(DeliveryMove.turn kind' answer).isTurn kind.other) = false := by
        simp [DeliveryMove.isTurn, hturn]
      simp only [List.filter_cons, hskip, after_cons, log_cons, List.filter_append,
        delivery.filter_isOn_other hkind answer]
      exact ⟨hafter, hlog⟩

end Delivery

section Logs

variable (kind : LaneKind) (place : Nat) (log : List Incident)

theorem heardAt_filter : heardAt kind place (log.filter (Incident.isOn kind)) =
    heardAt kind place log := by
  rw [heardAt, List.filterMap_filter]
  refine congrArg (List.filterMap · log) (funext fun incident => ?_)
  cases incident with
  | told kind' => by_cases hkind : kind' = kind <;> simp [Incident.isOn, hkind]
  | _ => simp

theorem droppedOn_filter : droppedOn kind (log.filter (Incident.isOn kind)) =
    droppedOn kind log := by
  rw [droppedOn, List.filterMap_filter]
  refine congrArg (List.filterMap · log) (funext fun incident => ?_)
  cases incident with
  | dropped event => by_cases htakes : kind.takes event <;> simp [Incident.isOn, htakes]
  | _ => simp

end Logs

namespace Delivery

/-- Two runs that differ in the turns of one lane do the same on the other. -/
theorem same_on_lane {moves moves' : List DeliveryMove} (registers : Registers)
    (register : RegisterId) (size : Nat) (kind : LaneKind)
    (hmoves : moves.filter (!·.isTurn kind.other) = moves'.filter (!·.isTurn kind.other)) :
    let first := start registers register size
    (∀ place, heardAt kind place (first.log moves) = heardAt kind place (first.log moves')) ∧
      droppedOn kind (first.log moves) = droppedOn kind (first.log moves') := by
  intro first
  have hclosing := closing_start registers register size
  obtain ⟨-, hlog⟩ := run_seen kind hclosing hclosing rfl moves
  obtain ⟨-, hlog'⟩ := run_seen kind hclosing hclosing rfl moves'
  rw [← hmoves] at hlog'
  have hlogs := hlog.trans hlog'.symm
  refine ⟨fun place => ?_, ?_⟩
  · rw [← heardAt_filter, hlogs, heardAt_filter]
  · rw [← droppedOn_filter, hlogs, droppedOn_filter]

end Delivery

end EventSocket
