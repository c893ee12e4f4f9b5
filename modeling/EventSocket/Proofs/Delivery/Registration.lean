import EventSocket.Proofs.Delivery.Handing

/-!
Listeners that are registered while a dispatcher runs. A listener hears the events that are
dispatched from then on, and before them whatever waits on the lane at that time: the places of an
event are looked up when its turn comes, so one that was dispatched earlier can still reach a
listener that was registered later.
-/

namespace EventSocket

namespace Lane

variable {lane : Lane}

/-- The items whose listeners have not been looked up. -/
def unseen (lane : Lane) : List LaneItem :=
  match lane.phase with
  | .taken item => item :: lane.queue
  | .resting | .telling _ | .stopped => lane.queue

theorem owed_of_reach_le {place : Nat} (hreach : lane.phase.reach ≤ place) (kind : LaneKind) :
    lane.owed kind place = lane.unseen.filterMap (·.callback? kind) := by
  unfold owed unseen LanePhase.owes
  cases hphase : lane.phase with
  | telling round =>
    simp only [hphase, LanePhase.reach] at hreach
    have hpast : ¬(round.reached ≤ place ∧ place < round.reached + round.waiting.length) := by omega
    simp [hpast]
  | _ => rfl

end Lane

theorem Registers.listeners_add_self {registers : Registers} {id : RegisterId}
    (hid : id.index < registers.lists.length) (listener : Listener) :
    (registers.add id listener).listeners id = registers.listeners id ++ [listener] := by
  simp [listeners, add, List.getD_eq_getElem?_getD, List.getElem?_eq_getElem hid]

namespace Delivery

variable {delivery delivery' : Delivery} {move : DeliveryMove} {happened log : List Incident}
  {kind : LaneKind} {place size : Nat}

theorem Makes.registers (h : delivery.Makes move happened delivery') :
    delivery'.register = delivery.register ∧
      delivery'.registers.lists.length = delivery.registers.lists.length := by
  cases h with
  | adds => exact ⟨rfl, by simp [Registers.add]⟩
  | _ => exact ⟨rfl, rfl⟩

theorem registers_after (delivery : Delivery) (moves : List DeliveryMove) :
    (delivery.after moves).register = delivery.register ∧
      (delivery.after moves).registers.lists.length = delivery.registers.lists.length := by
  induction moves generalizing delivery with
  | nil => exact ⟨rfl, rfl⟩
  | cons move moves ih =>
    obtain ⟨hregister, hlength⟩ := (delivery.makes_perform move).registers
    obtain ⟨hregister', hlength'⟩ := ih (delivery.perform move)
    exact ⟨hregister'.trans hregister, hlength'.trans hlength⟩

/-- Nothing has been told at a place that nobody had. -/
theorem Sourced.heardAt_of_le (h : Sourced log delivery)
    (hplace : delivery.listeners.length ≤ place) : heardAt kind place log = [] := by
  rw [heardAt, List.filterMap_eq_nil_iff]
  intro incident hmem
  cases incident with
  | told kind' place' listener callback =>
    have hseat := h.seated _ _ _ _ hmem
    have hne : place' ≠ place := by
      rintro rfl
      rw [List.getElem?_eq_none hplace] at hseat
      cases hseat
    simp [hne]
  | _ => rfl

theorem heardAt_added (registers : Registers) (register : RegisterId) (size : Nat)
    (hregister : register.index < registers.lists.length) (moves more : List DeliveryMove)
    (listener : Listener) (kind : LaneKind) :
    let first := start registers register size
    let before := first.after moves
    let added := before.perform (.add register listener)
    let place := before.listeners.length
    added.listeners[place]? = some listener ∧
      heardAt kind place (first.log moves) = [] ∧
      heardAt kind place (added.log more) ++ (added.after more).owed kind place =
        (before.lane kind).unseen.filterMap (·.callback? kind) ++ dueOn kind (added.log more) := by
  intro first before added place
  have hcoherent : Coherent size (first.log moves) before := by
    simpa using (coherent_start registers register size).after moves
  obtain ⟨hsame, hlength⟩ := first.registers_after moves
  have hlisteners : added.listeners = before.listeners ++ [listener] := by
    have hid : register.index < before.registers.lists.length := hlength.symm ▸ hregister
    simp only [added, listeners, perform, before, hsame]
    exact Registers.listeners_add_self hid listener
  refine ⟨by simp [hlisteners, place], hcoherent.sourced.heardAt_of_le (Nat.le_refl _), ?_⟩
  have hplace : place < added.listeners.length := by simp [hlisteners, place]
  have howed := added.heardAt_owed_after kind hplace more
  -- the round under way does not reach the new place
  rw [howed, owed, ← Lane.owed_of_reach_le (hcoherent.placed kind).reach kind]
  rfl

/-- A listener that keeps its seat and does as it is told. -/
def seated (seat : Nat) : Listener := ⟨some seat, .steady⟩

/-- One of a row of events. -/
def numbered (number : Nat) : Event := ⟨none, Fields.empty, [toString number]⟩

/-- Two events, the first held up by the only listener. -/
def heldUp : List DeliveryMove :=
  [.dispatch (numbered 0), .dispatch (numbered 1)] ++
    List.replicate 4 (.turn .general fun _ _ => none)

def released (turns : Nat) : List DeliveryMove :=
  List.replicate turns (.turn .general fun _ _ => some .done)

def oneListener : Registers := ⟨[[seated 0]]⟩

theorem heardAt_added_backlog :
    (⟨0⟩ : RegisterId).index < oneListener.lists.length ∧
      let first := start oneListener ⟨0⟩ 8
      let before := first.after heldUp
      let added := before.perform (.add ⟨0⟩ (seated 1))
      let place := before.listeners.length
      added.listeners[place]? = some (seated 1) ∧
        heardAt .general place (first.log heldUp) = [] ∧
        heardAt .general place (added.log (released 9)) ++
            (added.after (released 9)).owed .general place =
          (before.lane .general).unseen.filterMap (·.callback? .general) ++
            dueOn .general (added.log (released 9)) := by
  have hregister : (⟨0⟩ : RegisterId).index < oneListener.lists.length := by decide
  exact ⟨hregister,
    heardAt_added oneListener ⟨0⟩ 8 hregister heldUp (released 9) (seated 1) .general⟩

/-- The second event was dispatched before the second listener came, and reaches it. -/
theorem backlog_reaches_added :
    let first := start oneListener ⟨0⟩ 8
    let before := first.after heldUp
    let added := before.perform (.add ⟨0⟩ (seated 1))
    keptOn .general (first.log heldUp) = [numbered 0, numbered 1] ∧
      keptOn .general (added.log (released 9)) = [] ∧
      heardAt .general before.listeners.length (added.log (released 9)) =
        [.event (numbered 1)] := by
  decide

end Delivery

end EventSocket
