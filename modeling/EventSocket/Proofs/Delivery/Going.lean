import EventSocket.Delivery.Audience
import EventSocket.Proofs.Delivery.Moves

/-!
Lanes that go on until they have to wait. What they do is a run of turns with the answers of the
audience, and the audience hears what the log says.
-/

namespace EventSocket

namespace Audience

/-- The audience once it has been told what the log says. -/
def hear (audience : Audience) : List Incident → Audience
  | [] => audience
  | .told _ _ listener callback :: log => (audience.tell listener callback).hear log
  | .kept _ :: log | .dropped _ :: log | .ended .. :: log => audience.hear log

theorem hear_append (audience : Audience) (log more : List Incident) :
    audience.hear (log ++ more) = (audience.hear log).hear more := by
  induction log generalizing audience with
  | nil => rfl
  | cons incident log ih => cases incident <;> exact ih _

/-- To be told something does not hold anybody up, nor let go. -/
@[simp]
theorem answer_tell (audience : Audience) (listener : Listener) (callback : Callback) :
    (audience.tell listener callback).answer = audience.answer := by
  unfold tell
  split <;> rfl

theorem answer_hear (audience : Audience) (log : List Incident) :
    (audience.hear log).answer = audience.answer := by
  induction log generalizing audience with
  | nil => rfl
  | cons incident log ih =>
    cases incident with
    | told kind place listener callback =>
      exact (ih _).trans (audience.answer_tell listener callback)
    | _ => exact ih _

end Audience

namespace Dispatcher

theorem setLane_lane (dispatcher : Dispatcher) (kind : LaneKind) :
    dispatcher.setLane (dispatcher.lane kind) kind = dispatcher := by
  cases kind <;> rfl

theorem setLane_setLane (dispatcher : Dispatcher) (lane lane' : Lane) (kind : LaneKind) :
    (dispatcher.setLane lane kind).setLane lane' kind = dispatcher.setLane lane' kind := by
  cases kind <;> rfl

end Dispatcher

namespace Delivery

/-- Turns of a lane, as the audience answers. -/
def turnsOf (kind : LaneKind) (audience : Audience) (count : Nat) : List DeliveryMove :=
  List.replicate count (.turn kind (audience.answer kind))

/-- A lane goes on by turns. -/
theorem lane_deliver (delivery : Delivery) (kind : LaneKind) (audience : Audience) :
    let delivered := (delivery.lane kind).deliver kind delivery.listeners audience
    ∃ count, delivery.after (turnsOf kind audience count) =
        { delivery with dispatcher := delivery.dispatcher.setLane delivered.1 kind } ∧
      audience.hear (delivery.log (turnsOf kind audience count)) = delivered.2 := by
  intro delivered
  obtain ⟨lane, hlane⟩ : ∃ lane, lane = delivery.lane kind := ⟨_, rfl⟩
  obtain ⟨listeners, hlisteners⟩ : ∃ listeners, listeners = delivery.listeners := ⟨_, rfl⟩
  simp only [delivered, ← hlane, ← hlisteners]
  clear delivered
  fun_induction Lane.deliver lane kind listeners audience generalizing delivery with
  | case1 lane audience hnone =>
    refine ⟨0, ?_, rfl⟩
    rw [hlane, Delivery.lane, Dispatcher.setLane_lane]
    rfl
  | case2 lane audience turn hturn audience' ih =>
    subst hlane hlisteners
    let next := { delivery with dispatcher := delivery.dispatcher.setLane turn.lane kind }
    have hnext : delivery.perform (.turn kind (audience.answer kind)) = next := by
      simp only [perform, laneTurn, hturn, next]
    have hlane : turn.lane = next.lane kind := by
      simp [next, lane, Dispatcher.lane_setLane]
    have hheard : audience.hear (delivery.incidents (.turn kind (audience.answer kind))) =
        audience' := by
      simp only [incidents, laneTurn, hturn, Option.bind_some, audience']
      cases turn.told <;> rfl
    have hanswer : audience'.answer = audience.answer := by rw [← hheard, Audience.answer_hear]
    obtain ⟨count, hafter, hhear⟩ := ih next hlane rfl
    have hturns : turnsOf kind audience (count + 1) =
        .turn kind (audience.answer kind) :: turnsOf kind audience' count := by
      rw [turnsOf, turnsOf, hanswer, List.replicate_succ]
    refine ⟨count + 1, ?_, ?_⟩
    · rw [hturns, after_cons, hnext, hafter]
      simp only [next, Dispatcher.setLane_setLane]
    · rw [hturns, log_cons, Audience.hear_append, hheard, hnext, hhear]

/-- To let a dispatcher deliver is to let its two lanes take turns. -/
theorem dispatcher_deliver (delivery : Delivery) (audience : Audience) :
    let delivered := delivery.dispatcher.deliver delivery.listeners audience
    ∃ moves : List DeliveryMove,
      (∀ move ∈ moves, ∃ kind, move = .turn kind (audience.answer kind)) ∧
      delivery.after moves = { delivery with dispatcher := delivered.1 } ∧
      audience.hear (delivery.log moves) = delivered.2 := by
  intro delivered
  obtain ⟨general, hgeneral, hheard⟩ := delivery.lane_deliver .general audience
  let between := delivery.after (turnsOf .general audience general)
  let audience' := audience.hear (delivery.log (turnsOf .general audience general))
  have hanswer : audience'.answer = audience.answer := audience.answer_hear _
  obtain ⟨jobs, hjobs, hheard'⟩ := between.lane_deliver .jobs audience'
  refine ⟨turnsOf .general audience general ++ turnsOf .jobs audience' jobs, ?_, ?_, ?_⟩
  · intro move hmove
    rcases List.mem_append.mp hmove with hmove | hmove
    · exact ⟨.general, List.eq_of_mem_replicate hmove⟩
    · exact ⟨.jobs, hanswer ▸ List.eq_of_mem_replicate hmove⟩
  · rw [after_append]
    refine hjobs.trans ?_
    simp only [between, hgeneral, audience', hheard]
    rfl
  · rw [log_append, Audience.hear_append]
    refine hheard'.trans ?_
    simp only [between, hgeneral, audience', hheard]
    rfl

end Delivery

end EventSocket
