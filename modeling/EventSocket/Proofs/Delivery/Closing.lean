import EventSocket.Proofs.Delivery.Accounting
import Mathlib.Data.List.Induction

/-!
The end of a dispatcher. Once it has been closed, the general lane tells the end behind everything
that waits there, each place is told it once and nothing afterwards, and the lane comes to it in a
bounded number of turns as long as its own callbacks come back.
-/

namespace EventSocket

namespace Lane

variable {lane : Lane} {kind : LaneKind} {listeners : List Listener}
  {answer : Listener → Callback → Option Outcome} {turn : LaneTurn}

/-- Nothing but the item in hand can be owed to the place whose turn it is. -/
theorem Turns.owed_of_told (h : lane.Turns kind listeners answer turn) (htold : turn.told ≠ none)
    (hqueue : lane.queue = []) : turn.lane.owed kind lane.place = [] := by
  cases h with
  | @tells round _ _ waiting hphase =>
    have howes : ¬(round.called + 1 ≤ round.called ∧
        round.called < round.called + 1 + waiting.length) := by omega
    simp only [owed, place, hphase, hqueue, LanePhase.owes, Round.reached, Option.isSome_some,
      if_true, howes, if_false]
    rfl
  | _ => exact absurd rfl htold

end Lane

namespace Delivery

variable {delivery delivery' : Delivery} {move : DeliveryMove} {happened log : List Incident}
  {kind : LaneKind} {place size : Nat} {reason : EndReason}

theorem Makes.phase_reason {reason : EndReason} (h : delivery.Makes move happened delivery')
    (hreason : delivery.phase.reason? = some reason) : delivery'.phase.reason? = some reason := by
  cases h with
  | closes hserving => simp [hserving, ClosePhase.reason?] at hreason
  | @ends _ kind hphase =>
    rw [hphase] at hreason
    cases kind <;> exact hreason
  | _ => exact hreason

theorem reason_after {reason : EndReason} (hreason : delivery.phase.reason? = some reason)
    (moves : List DeliveryMove) : (delivery.after moves).phase.reason? = some reason := by
  induction moves generalizing delivery with
  | nil => exact hreason
  | cons move moves ih => exact ih ((delivery.makes_perform move).phase_reason hreason)

theorem ended_after {reason : EndReason} (hended : delivery.phase.ended? kind = some reason)
    (moves : List DeliveryMove) : (delivery.after moves).phase.ended? kind = some reason := by
  induction moves generalizing delivery with
  | nil => exact hended
  | cons move moves ih => exact ih ((delivery.makes_perform move).ended hended)

theorem ended?_of_after {moves : List DeliveryMove}
    (hnone : (delivery.after moves).phase.ended? kind = none) :
    delivery.phase.ended? kind = none := by
  cases hthen : delivery.phase.ended? kind with
  | none => rfl
  | some reason =>
    rw [ended_after hthen moves] at hnone
    cases hnone

/-- The end cannot have been put on a lane and taken back in between. -/
theorem ended?_between {moves more : List DeliveryMove}
    (h : (delivery.after (moves ++ more)).phase.ended? kind = delivery.phase.ended? kind) :
    (delivery.after moves).phase.ended? kind = delivery.phase.ended? kind := by
  cases hnow : (delivery.after moves).phase.ended? kind with
  | none => exact (ended?_of_after hnow).symm
  | some reason =>
    rw [← h, after_append]
    exact (ended_after hnow more).symm

theorem ended?_eq {phase : ClosePhase} {reason : EndReason} (hreason : phase.reason? = some reason)
    (kind : LaneKind) : phase.ended? kind = none ∨ phase.ended? kind = some reason := by
  unfold ClosePhase.ended?
  split
  · exact Or.inl rfl
  · exact Or.inl rfl
  · exact Or.inl rfl
  · exact Or.inr hreason
  · exact Or.inr hreason

theorem reason_of_ended {phase : ClosePhase} {reason : EndReason}
    (hended : phase.ended? kind = some reason) : phase.reason? = some reason := by
  unfold ClosePhase.ended? at hended
  split at hended
  · cases hended
  · cases hended
  · cases hended
  · exact hended
  · exact hended

/-- The end of the general lane, as far as it has been put there. -/
def ending (delivery : Delivery) : List Callback :=
  (delivery.phase.ended? .general).toList.map .disconnected

/-- Once the dispatcher is closed, only the end is put on the general lane. -/
theorem Makes.dueOn_ending {reason : EndReason} (h : delivery.Makes move happened delivery')
    (hreason : delivery.phase.reason? = some reason) :
    delivery.ending ++ dueOn .general happened = delivery'.ending := by
  cases h with
  | keeps hserving => simp [hserving, ClosePhase.reason?] at hreason
  | drops hserving => simp [hserving, ClosePhase.reason?] at hreason
  | closes hserving => simp [hserving, ClosePhase.reason?] at hreason
  | waits => simp
  | adds =>
    simp
    rfl
  | turns =>
    simp
    rfl
  | @ends reason kind hphase =>
    cases kind <;>
      simp [ending, hphase, ClosePhase.ended?, ClosePhase.past, LaneItem.callback?]

theorem dueOn_ending_after {reason : EndReason} (hreason : delivery.phase.reason? = some reason)
    (moves : List DeliveryMove) :
    delivery.ending ++ dueOn .general (delivery.log moves) = (delivery.after moves).ending := by
  induction moves generalizing delivery with
  | nil => simp
  | cons move moves ih =>
    have hmakes := delivery.makes_perform move
    rw [log_cons, after_cons, dueOn_append, ← List.append_assoc, hmakes.dueOn_ending hreason]
    exact ih (hmakes.phase_reason hreason)

/-- What a place has been told on the general lane: events, and behind them the end, if it has come
that far. -/
inductive Hears (delivery : Delivery) (place : Nat) (heard : List Callback) : Prop
  | going (events : List Event) (hheard : heard = events.map .event)
  | ended (events : List Event) (reason : EndReason)
      (hheard : heard = events.map .event ++ [.disconnected reason])
      (hplace : place < delivery.listeners.length) (howed : delivery.owed .general place = [])
      (hended : delivery.phase.ended? .general = some reason)

theorem Makes.hears_over {reason : EndReason} (h : delivery.Makes move happened delivery')
    (hplace : place < delivery.listeners.length) (howed : delivery.owed .general place = [])
    (hended : delivery.phase.ended? .general = some reason) :
    heardAt .general place happened = [] ∧ delivery'.owed .general place = [] := by
  have hdue : dueOn .general happened = [] := by
    have hending := h.dueOn_ending (reason_of_ended hended)
    simpa [ending, hended, h.ended hended] using hending
  have hhears : heardAt .general place happened ++ delivery'.owed .general place =
      delivery.owed .general place ++ dueOn .general happened := h.heardAt_owed hplace
  rw [howed, hdue] at hhears
  exact List.append_eq_nil_iff.mp hhears

/-- A place that is told something on the general lane is told an event or, once, the end. -/
theorem hears_told {answer : Listener → Callback → Option Outcome} {turn : LaneTurn}
    {listener : Listener} {callback : Callback} (hcoherent : Coherent size log delivery)
    (hturns : (delivery.lane .general).Turns .general delivery.listeners answer turn)
    (htold : turn.told = some (listener, callback)) (events : List Event) :
    Hears { delivery with dispatcher := delivery.dispatcher.setLane turn.lane .general }
      (delivery.lane .general).place (events.map .event ++ [callback]) := by
  obtain ⟨item, hitems, hcallback⟩ := hturns.told htold
  cases item with
  | event event =>
    obtain rfl := Option.some.inj hcallback
    exact .going (events ++ [event]) (by simp)
  | ending reason =>
    obtain rfl := Option.some.inj hcallback
    have htells : turn.told ≠ none := by simp [htold]
    have hmem : .ending reason ∈ (delivery.lane .general).items := hitems ▸ List.mem_cons_self
    cases hended : delivery.phase.ended? .general with
    | none => exact absurd hmem ((hcoherent.closing.isOpen .general hended).items reason)
    | some reason' =>
      have hlane := hcoherent.closing.ended .general reason' hended
      obtain rfl := hlane.eq_of_mem hmem
      refine .ended events reason rfl ?_ ?_ hended
      · have hseat := hturns.listener_told (hcoherent.placed .general) htold
        exact (List.getElem?_eq_some_iff.mp hseat).1
      · exact hturns.owed_of_told htells (hlane.rest_eq_nil hitems)

theorem Makes.hears (h : delivery.Makes move happened delivery')
    (hcoherent : Coherent size log delivery)
    (hhears : delivery.Hears place (heardAt .general place log)) :
    delivery'.Hears place (heardAt .general place (log ++ happened)) := by
  rw [heardAt_append]
  cases hhears with
  | ended events reason hheard hplace howed hended =>
    obtain ⟨hquiet, howed'⟩ := h.hears_over hplace howed hended
    rw [hquiet, List.append_nil]
    exact .ended events reason hheard
      (Nat.lt_of_lt_of_le hplace h.listeners.length_le) howed' (h.ended hended)
  | going events hheard =>
    rw [hheard]
    cases h with
    | @turns kind' answer turn hturns =>
      rw [heardAt_told]
      cases htold : turn.told with
      | none => exact .going events (by simp)
      | some told =>
        by_cases hkind : kind' = .general
        · subst hkind
          by_cases hplace : (delivery.lane .general).place = place
          · subst hplace
            simpa using hears_told hcoherent hturns htold events
          · exact .going events (by simp [hplace])
        · exact .going events (by simp [hkind])
    | _ => exact .going events (by simp)

theorem hears_after (hcoherent : Coherent size log delivery)
    (hhears : ∀ place, delivery.Hears place (heardAt .general place log))
    (moves : List DeliveryMove) (place : Nat) :
    (delivery.after moves).Hears place (heardAt .general place (log ++ delivery.log moves)) := by
  induction moves generalizing log delivery with
  | nil => simpa using hhears place
  | cons move moves ih =>
    have hmakes := delivery.makes_perform move
    rw [log_cons, after_cons, ← List.append_assoc]
    have hcoherent' : Coherent size (log ++ delivery.incidents move) (delivery.perform move) := by
      simpa using hcoherent.after [move]
    exact ih hcoherent' fun place => hmakes.hears hcoherent (hhears place)

/-- A closed dispatcher moves its general lane by turns of that lane only, once the end is there. -/
theorem general_perform {reason : EndReason} (hreason : delivery.phase.reason? = some reason)
    (hended : (delivery.perform move).phase.ended? .general = delivery.phase.ended? .general)
    (hturn : move.isTurn .general = false) :
    (delivery.perform move).lane .general = delivery.lane .general := by
  have hmakes := delivery.makes_perform move
  generalize delivery.incidents move = happened at hmakes
  generalize delivery.perform move = delivery' at hmakes hended ⊢
  cases hmakes with
  | keeps hserving => simp [hserving, ClosePhase.reason?] at hreason
  | @turns kind' =>
    have hkind : kind' ≠ .general := by simpa [DeliveryMove.isTurn] using hturn
    simp [lane, Dispatcher.lane_setLane, hkind]
  | @ends reason' kind' hphase =>
    have hkind : kind' ≠ .general := by
      rintro rfl
      simp [hphase, ClosePhase.past, ClosePhase.ended?] at hended
    simp [lane, Dispatcher.lane_push, hkind]
  | _ => rfl

/-- By a turn that finds no callback held up, a lane comes to rest or has a turn less to go. -/
theorem lane_turn {answer : Listener → Callback → Option Outcome} {count : Nat} (kind : LaneKind)
    (hcomes : ∀ listener callback, (answer listener callback).isSome)
    (hcount : delivery.listeners.length ≤ count) :
    let next := delivery.perform (.turn kind answer)
    (next.lane kind).Rests ∨
      ¬(delivery.lane kind).Rests ∧
        (next.lane kind).steps count < (delivery.lane kind).steps count := by
  intro next
  cases hturn : delivery.laneTurn kind answer with
  | none =>
    have hnext : next = delivery := by simp only [next, perform, hturn]
    exact Or.inl (hnext ▸ Lane.rests_of_turn_none hcomes hturn)
  | some turn =>
    have hlane : next.lane kind = turn.lane := by
      simp [next, perform, hturn, lane, Dispatcher.lane_setLane]
    refine Or.inr ⟨fun hrests => ?_, ?_⟩
    · rw [laneTurn, Lane.turn_of_rests hrests] at hturn
      cases hturn
    · rw [hlane]
      exact Lane.steps_turn_lt hturn hcount

/-- While nothing is put on the general lane, either it comes to rest or it has a turn less to go
for each that it takes. -/
theorem general_after {reason : EndReason} {count : Nat} (moves : List DeliveryMove)
    (hreason : delivery.phase.reason? = some reason)
    (hended : (delivery.after moves).phase.ended? .general = delivery.phase.ended? .general)
    (hanswers : ∀ move ∈ moves, move.Answers .general)
    (hcount : (delivery.after moves).listeners.length ≤ count) :
    ((delivery.after moves).lane .general).Rests ∨
      ((delivery.after moves).lane .general).steps count + moves.countP (·.isTurn .general) ≤
        (delivery.lane .general).steps count := by
  -- from behind, since the hypotheses speak of what the run leads to
  induction moves using List.reverseRecOn with
  | nil => exact Or.inr (Nat.le_refl _)
  | append_singleton moves move ih =>
    have hmiddle := ended?_between hended
    rw [after_append, after_cons, after_nil] at hended hcount ⊢
    have hcount' := Nat.le_trans
      ((delivery.after moves).makes_perform move).listeners.length_le hcount
    have hbefore := ih hmiddle
      (fun move hmove => hanswers move (List.mem_append_left _ hmove)) hcount'
    rw [List.countP_append, List.countP_singleton]
    cases hturn : move.isTurn .general with
    | false =>
      rw [general_perform (reason_after hreason moves) (hended.trans hmiddle.symm) hturn]
      simpa using hbefore
    | true =>
      cases move <;> simp [DeliveryMove.isTurn] at hturn
      next kind answer =>
      subst hturn
      have hcomes := hanswers _ (List.mem_append_right _ List.mem_cons_self) answer rfl
      rcases lane_turn .general hcomes hcount' with hrests | ⟨hbusy, hless⟩
      · exact Or.inl hrests
      · have hsteps := hbefore.resolve_left hbusy
        refine Or.inr ?_
        simp only [if_true]
        omega

/-- The turns in which a full lane is told to `count` places. -/
def enoughTurns (size count : Nat) : Nat := (max size 1 + 1) * (3 + 2 * count)

theorem Coherent.steps_lt {count : Nat} (h : Coherent size log delivery)
    (hcount : delivery.listeners.length ≤ count) (kind : LaneKind) :
    (delivery.lane kind).steps count < enoughTurns size count :=
  Lane.steps_lt (h.bounded.limit ▸ h.bounded.queue kind) (Nat.le_trans (h.placed kind).reach hcount)

theorem general_rests {reason : EndReason} {moves : List DeliveryMove}
    (hcoherent : Coherent size log delivery) (hreason : delivery.phase.reason? = some reason)
    (hended : (delivery.after moves).phase.ended? .general = delivery.phase.ended? .general)
    (hanswers : ∀ move ∈ moves, move.Answers .general) {count : Nat}
    (hcount : (delivery.after moves).listeners.length ≤ count)
    (henough : enoughTurns size count ≤ moves.countP (·.isTurn .general)) :
    ((delivery.after moves).lane .general).Rests := by
  have hcount' := Nat.le_trans (delivery.listeners_after moves).length_le hcount
  have hless := hcoherent.steps_lt hcount' .general
  exact (general_after moves hreason hended hanswers hcount).resolve_right (by omega)

/-- At rest, the general lane has room for the end. -/
theorem ended_endLane {reason : EndReason} (hcoherent : Coherent size log delivery)
    (hreason : delivery.phase.reason? = some reason)
    (hrests : delivery.phase.ended? .general = none → (delivery.lane .general).Rests) :
    (delivery.perform .endLane).phase.ended? .general = some reason := by
  rcases ended?_eq hreason .general with hnone | hsome
  · have hqueue := (hcoherent.closing.isOpen .general hnone).queue_of_rests (hrests hnone)
    have hroom : delivery.dispatcher.isFull .general = false := by
      rw [Dispatcher.isFull_eq_false_iff, hcoherent.bounded.limit]
      exact hqueue ▸ Nat.lt_of_lt_of_le Nat.one_pos (Nat.le_max_right size 1)
    have hphase : delivery.phase = .ending reason .general := by
      cases hphase : delivery.phase with
      | serving => simp [hphase, ClosePhase.reason?] at hreason
      | closed reason' => simp [hphase, ClosePhase.ended?] at hnone
      | ending reason' kind =>
        cases kind with
        | general => simpa [hphase, ClosePhase.reason?] using hreason
        | jobs => simp [hphase, ClosePhase.ended?] at hnone
    simp [perform, hphase, Dispatcher.pushEnding, hroom, ClosePhase.past, ClosePhase.ended?]
  · exact (delivery.makes_perform .endLane).ended hsome

/-- A closed dispatcher comes to the end of its general lane, whatever else happens and however
often the other lane is held up. -/
theorem general_stops {reason : EndReason} {first second : List DeliveryMove}
    (hcoherent : Coherent size log delivery) (hreason : delivery.phase.reason? = some reason)
    (hanswers : ∀ move ∈ first ++ second, move.Answers .general) {count : Nat}
    (hcount : (delivery.after (first ++ .endLane :: second)).listeners.length ≤ count)
    (hfirst : enoughTurns size count ≤ first.countP (·.isTurn .general))
    (hsecond : enoughTurns size count ≤ second.countP (·.isTurn .general)) :
    ((delivery.after (first ++ .endLane :: second)).lane .general).phase = .stopped := by
  rw [after_append, after_cons] at hcount ⊢
  have hcoherent₁ := hcoherent.after first
  have hcoherent₂ := hcoherent₁.after [.endLane]
  rw [after_cons, after_nil] at hcoherent₂
  have hreason₁ := reason_after hreason first
  have hreason₂ := reason_after hreason₁ [.endLane]
  have hended₂ : ((delivery.after first).perform .endLane).phase.ended? .general = some reason := by
    refine ended_endLane hcoherent₁ hreason₁ fun hnone => ?_
    refine general_rests hcoherent hreason (hnone.trans (ended?_of_after hnone).symm)
      (fun move hmove => hanswers move (List.mem_append_left _ hmove)) ?_ hfirst
    exact Nat.le_trans (((delivery.after first).listeners_after (.endLane :: second)).length_le)
      hcount
  have hended₃ := ended_after hended₂ second
  have hrests := general_rests hcoherent₂ hreason₂ (hended₃.trans hended₂.symm)
    (fun move hmove => hanswers move (List.mem_append_right _ hmove)) hcount hsecond
  exact ((hcoherent₂.after second).closing.ended .general reason hended₃).stopped_of_rests hrests

end Delivery

end EventSocket
