import EventSocket.Proofs.Delivery.Moves

/-!
What becomes of the events handed to a dispatcher. Whatever has been put on a lane has been told at
each place that was there in time or is still owed to it, in order, and a lane is never fuller than
its dispatcher allows. Nothing is told that has not been put on a lane, and nobody is told anything
who is not registered.
-/

namespace EventSocket

/-- What a turn of a lane tells, as the log has it. -/
theorem heardAt_told (kind kind' : LaneKind) (place place' : Nat)
    (told : Option (Listener × Callback)) :
    heardAt kind place (told.toList.map fun told => .told kind' place' told.1 told.2) =
      if kind' = kind then if place' = place then (told.map Prod.snd).toList else [] else [] := by
  cases told with
  | none => simp
  | some told =>
    by_cases hkind : kind' = kind <;> by_cases hplace : place' = place <;> simp [hkind, hplace]

@[simp]
theorem dueOn_told (kind kind' : LaneKind) (place : Nat) (told : Option (Listener × Callback)) :
    dueOn kind (told.toList.map fun told => .told kind' place told.1 told.2) = [] := by
  cases told <;> simp

@[simp]
theorem keptOn_told (kind kind' : LaneKind) (place : Nat) (told : Option (Listener × Callback)) :
    keptOn kind (told.toList.map fun told => .told kind' place told.1 told.2) = [] := by
  cases told <;> simp

@[simp]
theorem droppedOn_told (kind kind' : LaneKind) (place : Nat)
    (told : Option (Listener × Callback)) :
    droppedOn kind (told.toList.map fun told => .told kind' place told.1 told.2) = [] := by
  cases told <;> simp

/-- The event that a callback tells. -/
def Callback.event? : Callback → Option Event
  | event occurred | job occurred => some occurred
  | disconnected _ => none

@[simp]
theorem LaneKind.event?_tell (kind : LaneKind) (event : Event) :
    (kind.tell event).event? = some event := by
  cases kind <;> rfl

theorem Registers.listeners_add (registers : Registers) (id id' : RegisterId)
    (listener : Listener) :
    registers.listeners id <+: (registers.add id' listener).listeners id := by
  simp only [listeners, add, List.getD_eq_getElem?_getD, List.getElem?_modify]
  by_cases hid : id'.index = id.index
  · cases hlist : registers.lists[id.index]? <;> simp [hid]
  · simp [hid]

namespace Delivery

variable {delivery delivery' : Delivery} {move : DeliveryMove} {happened log : List Incident}
  {kind : LaneKind} {place size : Nat}

def owed (delivery : Delivery) (kind : LaneKind) (place : Nat) : List Callback :=
  (delivery.lane kind).owed kind place

theorem Makes.listeners (h : delivery.Makes move happened delivery') :
    delivery.listeners <+: delivery'.listeners := by
  cases h with
  | adds => exact Registers.listeners_add ..
  | _ => exact List.prefix_rfl

theorem listeners_after (delivery : Delivery) (moves : List DeliveryMove) :
    delivery.listeners <+: (delivery.after moves).listeners := by
  induction moves generalizing delivery with
  | nil => exact List.prefix_rfl
  | cons move moves ih => exact (delivery.makes_perform move).listeners.trans (ih _)

theorem owed_push (lane : Lane) (item : LaneItem) :
    (lane.push item).owed kind place = lane.owed kind place ++ (item.callback? kind).toList := by
  simp only [Lane.owed, Lane.push, ← List.append_assoc, List.filterMap_append]
  cases hcallback : item.callback? kind <;> simp [hcallback]

/-- By each move a place is told the first of what is owed to it, and is owed what is put on the
lane. -/
theorem Makes.heardAt_owed (h : delivery.Makes move happened delivery')
    (hplace : place < delivery.listeners.length) :
    heardAt kind place happened ++ delivery'.owed kind place =
      delivery.owed kind place ++ dueOn kind happened := by
  cases h with
  | waits => simp
  | @keeps event =>
    simp only [owed, lane, Dispatcher.lane_push]
    by_cases hkind : LaneKind.ofEvent event = kind <;>
      simp [hkind, owed_push, LaneKind.takes_iff]
  | drops =>
    simp
    rfl
  | adds =>
    simp
    rfl
  | @turns kind' answer turn hturns =>
    simp only [owed, lane, Dispatcher.lane_setLane, heardAt_told, dueOn_told, List.append_nil]
    by_cases hkind : kind' = kind
    · subst hkind
      rw [if_pos rfl, if_pos rfl]
      exact hturns.toldAt_owed hplace
    · simp [hkind]
  | closes =>
    simp
    rfl
  | @ends reason kind' =>
    simp only [owed, lane, Dispatcher.lane_push]
    by_cases hkind : kind' = kind <;> simp [hkind, owed_push]

theorem heardAt_owed_after (delivery : Delivery) (kind : LaneKind)
    (hplace : place < delivery.listeners.length) (moves : List DeliveryMove) :
    heardAt kind place (delivery.log moves) ++ (delivery.after moves).owed kind place =
      delivery.owed kind place ++ dueOn kind (delivery.log moves) := by
  induction moves generalizing delivery with
  | nil => simp
  | cons move moves ih =>
    have hmakes := delivery.makes_perform move
    have hplace' := Nat.lt_of_lt_of_le hplace hmakes.listeners.length_le
    rw [log_cons, after_cons, heardAt_append, List.append_assoc, ih _ hplace', ← List.append_assoc,
      hmakes.heardAt_owed hplace, dueOn_append, List.append_assoc]

theorem ended?_past {reason reason' : EndReason} {kind' : LaneKind}
    (h : (ClosePhase.ending reason kind').ended? kind = some reason') :
    (ClosePhase.past reason kind').ended? kind = some reason' := by
  cases kind' <;> cases kind <;> simp_all [ClosePhase.ended?, ClosePhase.past]

/-- An end that has been put on a lane stays there. -/
theorem Makes.ended {reason : EndReason} (h : delivery.Makes move happened delivery')
    (hended : delivery.phase.ended? kind = some reason) :
    delivery'.phase.ended? kind = some reason := by
  cases h with
  | closes hserving => simp [hserving, ClosePhase.ended?] at hended
  | ends hphase => exact ended?_past (hphase ▸ hended)
  | _ => exact hended

/-- What a step preserves holds of every run. -/
theorem after_induction {holds : List Incident → Delivery → Prop}
    (hstep : ∀ {log delivery move happened delivery'}, holds log delivery →
      delivery.Makes move happened delivery' → holds (log ++ happened) delivery')
    (hstart : holds log delivery) (moves : List DeliveryMove) :
    holds (log ++ delivery.log moves) (delivery.after moves) := by
  induction moves generalizing log delivery with
  | nil => simpa using hstart
  | cons move moves ih =>
    rw [log_cons, after_cons, ← List.append_assoc]
    exact ih (hstep hstart (delivery.makes_perform move))

/-- Neither lane holds more than it may, and everything that found one full has been counted. -/
structure Bounded (size : Nat) (log : List Incident) (delivery : Delivery) : Prop where
  limit : delivery.dispatcher.limit = max size 1
  queue : ∀ kind, (delivery.lane kind).queue.length ≤ delivery.dispatcher.limit
  dropped : delivery.dispatcher.dropped =
    (droppedOn .general log).length + (droppedOn .jobs log).length

theorem bounded_start (registers : Registers) (register : RegisterId) (size : Nat) :
    Bounded size [] (start registers register size) where
  limit := rfl
  queue kind := by cases kind <;> exact Nat.zero_le _
  dropped := rfl

theorem Bounded.next (h : Bounded size log delivery)
    (hlimit : delivery'.dispatcher.limit = delivery.dispatcher.limit)
    (hqueue : ∀ kind, (delivery'.lane kind).queue.length ≤ delivery.dispatcher.limit)
    (hdropped : delivery'.dispatcher.dropped = delivery.dispatcher.dropped +
      ((droppedOn .general happened).length + (droppedOn .jobs happened).length)) :
    Bounded size (log ++ happened) delivery' where
  limit := hlimit.trans h.limit
  queue kind := hlimit ▸ hqueue kind
  dropped := by
    rw [hdropped, h.dropped, droppedOn_append, droppedOn_append, List.length_append,
      List.length_append]
    omega

theorem length_push_le {item : LaneItem} {kind' : LaneKind}
    (hqueue : (delivery.lane kind).queue.length ≤ delivery.dispatcher.limit)
    (hroom : delivery.dispatcher.isFull kind' = false) :
    ((delivery.dispatcher.push kind' item).lane kind).queue.length ≤ delivery.dispatcher.limit := by
  rw [Dispatcher.lane_push]
  split
  · next hkind =>
    rw [Dispatcher.isFull_eq_false_iff, hkind] at hroom
    rw [Lane.push, List.length_append]
    exact hroom
  · exact hqueue

theorem Bounded.makes (h : Bounded size log delivery)
    (hmakes : delivery.Makes move happened delivery') :
    Bounded size (log ++ happened) delivery' := by
  cases hmakes with
  | waits => exact h.next rfl h.queue rfl
  | keeps hserving hroom =>
    exact h.next (by simp) (fun kind => length_push_le (h.queue kind) hroom) (by simp)
  | @drops event hserving hfull =>
    refine h.next rfl h.queue ?_
    by_cases hjob : event.isBackgroundJob <;> simp [LaneKind.takes, hjob]
  | adds => exact h.next rfl h.queue rfl
  | @turns kind' answer turn hturns =>
    refine h.next (by simp) ?_ (by simp)
    intro kind
    simp only [lane, Dispatcher.lane_setLane]
    split
    · next hkind => exact Nat.le_trans hturns.queue_suffix.length_le (hkind ▸ h.queue kind)
    · exact h.queue kind
  | closes => exact h.next rfl h.queue rfl
  | ends hphase hroom =>
    exact h.next (by simp) (fun kind => length_push_le (h.queue kind) hroom) (by simp)

def Placed (delivery : Delivery) : Prop :=
  ∀ kind, (delivery.lane kind).Placed delivery.listeners

theorem placed_start (registers : Registers) (register : RegisterId) (size : Nat) :
    (start registers register size).Placed := by
  intro kind
  cases kind <;> exact Lane.placed_empty _

theorem Placed.makes (h : delivery.Placed) (hmakes : delivery.Makes move happened delivery') :
    delivery'.Placed := by
  intro kind
  refine Lane.Placed.mono ?_ hmakes.listeners
  cases hmakes with
  | @turns kind' answer turn hturns =>
    simp only [lane, Dispatcher.lane_setLane]
    split
    · exact hturns.placed (h kind')
    · exact h kind
  | keeps =>
    simp only [lane, Dispatcher.lane_push]
    split
    · exact ⟨(h kind).reach, (h kind).order⟩
    · exact h kind
  | ends =>
    simp only [lane, Dispatcher.lane_push]
    split
    · exact ⟨(h kind).reach, (h kind).order⟩
    · exact h kind
  | _ => exact h kind

/-- Either lane is open until the end has been put on it. -/
structure Closing (delivery : Delivery) : Prop where
  isOpen : ∀ kind, delivery.phase.ended? kind = none → (delivery.lane kind).Open
  ended : ∀ kind reason, delivery.phase.ended? kind = some reason →
    (delivery.lane kind).Ended reason

theorem closing_start (registers : Registers) (register : RegisterId) (size : Nat) :
    (start registers register size).Closing where
  isOpen kind _ := by cases kind <;> exact Lane.open_empty
  ended kind reason h := by cases h

theorem Closing.makes (h : delivery.Closing) (hmakes : delivery.Makes move happened delivery') :
    delivery'.Closing := by
  cases hmakes with
  | waits => exact h
  | keeps hserving hroom =>
    refine ⟨?_, ?_⟩
    · intro kind hnone
      simp only [lane, Dispatcher.lane_push]
      split
      · exact (h.isOpen kind hnone).push
      · exact h.isOpen kind hnone
    · intro kind reason hsome
      rw [hserving] at hsome
      cases hsome
  | drops => exact ⟨h.isOpen, h.ended⟩
  | adds => exact ⟨h.isOpen, h.ended⟩
  | @turns kind' answer turn hturns =>
    refine ⟨?_, ?_⟩
    · intro kind hnone
      simp only [lane, Dispatcher.lane_setLane]
      split
      · next hkind => exact hturns.open (hkind ▸ h.isOpen kind hnone)
      · exact h.isOpen kind hnone
    · intro kind reason hsome
      simp only [lane, Dispatcher.lane_setLane]
      split
      · next hkind => exact hturns.ended (hkind ▸ h.ended kind reason hsome)
      · exact h.ended kind reason hsome
  | closes hserving =>
    refine ⟨fun kind _ => h.isOpen kind (by rw [hserving]; rfl), ?_⟩
    intro kind reason hsome
    cases hsome
  | @ends reason kind' hphase hroom =>
    refine ⟨?_, ?_⟩
    · intro kind hnone
      simp only [lane, Dispatcher.lane_push]
      cases kind' <;> cases kind <;> simp [ClosePhase.past, ClosePhase.ended?] at hnone
      exact h.isOpen .jobs (by rw [hphase]; rfl)
    · intro kind reason' hsome
      simp only [lane, Dispatcher.lane_push]
      cases kind' <;> cases kind <;> simp [ClosePhase.past, ClosePhase.ended?] at hsome
      · subst hsome
        exact (h.isOpen .general (by rw [hphase]; rfl)).pushEnding reason
      · subst hsome
        exact h.ended .general reason (by rw [hphase]; rfl)
      · subst hsome
        exact (h.isOpen .jobs (by rw [hphase]; rfl)).pushEnding reason

/-- Whatever is on a lane or has been told there was put on it. -/
structure Sourced (log : List Incident) (delivery : Delivery) : Prop where
  items : ∀ kind event, .event event ∈ (delivery.lane kind).items → event ∈ keptOn kind log
  seated : ∀ kind place listener callback, .told kind place listener callback ∈ log →
    delivery.listeners[place]? = some listener
  told : ∀ kind place listener callback, .told kind place listener callback ∈ log →
    (∃ event ∈ keptOn kind log, callback = kind.tell event) ∨
      ∃ reason, callback = .disconnected reason ∧ kind = .general ∧
        delivery.phase.ended? .general = some reason

theorem sourced_start (registers : Registers) (register : RegisterId) (size : Nat) :
    Sourced [] (start registers register size) where
  items kind event h := by cases kind <;> cases h
  seated kind place listener callback h := by cases h
  told kind place listener callback h := by cases h

theorem mem_keptOn_append (event : Event) (happened : List Incident) (h : event ∈ keptOn kind log) :
    event ∈ keptOn kind (log ++ happened) := by
  rw [keptOn_append]
  exact List.mem_append_left _ h

/-- As long as nothing is told, what was told before is still accounted for. -/
theorem Sourced.quiet (h : Sourced log delivery) (hmakes : delivery.Makes move happened delivery')
    (hquiet : ∀ kind place listener callback, .told kind place listener callback ∉ happened)
    (hitems : ∀ kind event, .event event ∈ (delivery'.lane kind).items →
      event ∈ keptOn kind (log ++ happened)) : Sourced (log ++ happened) delivery' where
  items := hitems
  seated kind place listener callback hmem := by
    have hold := (List.mem_append.mp hmem).resolve_right (hquiet kind place listener callback)
    obtain ⟨added, hadded⟩ := hmakes.listeners
    have hseat := h.seated kind place listener callback hold
    rwa [← hadded, List.getElem?_append_left (List.getElem?_eq_some_iff.mp hseat).1]
  told kind place listener callback hmem := by
    have hold := (List.mem_append.mp hmem).resolve_right (hquiet kind place listener callback)
    rcases h.told kind place listener callback hold with
      ⟨event, hevent, rfl⟩ | ⟨reason, rfl, rfl, hended⟩
    · exact Or.inl ⟨event, mem_keptOn_append event happened hevent, rfl⟩
    · exact Or.inr ⟨reason, rfl, rfl, hmakes.ended hended⟩

theorem Sourced.turns {answer : Listener → Callback → Option Outcome} {turn : LaneTurn}
    (h : Sourced log delivery) (hclosing : delivery.Closing) (hplaced : delivery.Placed)
    (hturns : (delivery.lane kind).Turns kind delivery.listeners answer turn) :
    Sourced
      (log ++ turn.told.toList.map fun told =>
        .told kind (delivery.lane kind).place told.1 told.2)
      { delivery with dispatcher := delivery.dispatcher.setLane turn.lane kind } where
  items kind' event hmem := by
    simp only [lane, Dispatcher.lane_setLane] at hmem
    refine mem_keptOn_append event _ (h.items kind' event ?_)
    split at hmem
    · next hkind => exact hkind ▸ hturns.items_sublist.mem hmem
    · exact hmem
  seated kind' place listener callback hmem := by
    rcases List.mem_append.mp hmem with hold | hnew
    · exact h.seated kind' place listener callback hold
    · obtain ⟨⟨listener', callback'⟩, htold, heq⟩ := List.mem_map.mp hnew
      obtain ⟨rfl, rfl, rfl, rfl⟩ := Incident.told.inj heq
      exact hturns.listener_told (hplaced kind) (Option.mem_toList.mp htold)
  told kind' place listener callback hmem := by
    rw [keptOn_append, keptOn_told, List.append_nil]
    rcases List.mem_append.mp hmem with hold | hnew
    · exact h.told kind' place listener callback hold
    · obtain ⟨⟨listener', callback'⟩, htold, heq⟩ := List.mem_map.mp hnew
      obtain ⟨rfl, -, -, rfl⟩ := Incident.told.inj heq
      obtain ⟨item, hitems, hcallback⟩ := hturns.told (Option.mem_toList.mp htold)
      have hitem : item ∈ (delivery.lane kind).items := hitems ▸ List.mem_cons_self
      cases item with
      | event event =>
        rw [LaneItem.callback?_event] at hcallback
        exact Or.inl ⟨event, h.items _ event hitem, (Option.some.inj hcallback).symm⟩
      | ending reason =>
        refine Or.inr ⟨reason, ?_⟩
        cases kind with
        | jobs => cases hcallback
        | general =>
          -- an end can be in hand only after it has been put on the lane
          refine ⟨(Option.some.inj hcallback).symm, rfl, ?_⟩
          cases hended : delivery.phase.ended? .general with
          | none => exact absurd hitem ((hclosing.isOpen .general hended).items reason)
          | some reason' =>
            exact congrArg some ((hclosing.ended .general reason' hended).eq_of_mem hitem).symm

theorem Sourced.makes (h : Sourced log delivery) (hclosing : delivery.Closing)
    (hplaced : delivery.Placed) (hmakes : delivery.Makes move happened delivery') :
    Sourced (log ++ happened) delivery' := by
  cases hmakes with
  | waits => simpa using h
  | @keeps event hserving hroom =>
    refine h.quiet (.keeps hserving hroom) (by simp) ?_
    intro kind event' hmem
    simp only [lane, Dispatcher.lane_push] at hmem
    rw [keptOn_append, List.mem_append]
    split at hmem
    · next hkind =>
      rw [Lane.items_push, List.mem_append, List.mem_singleton] at hmem
      rcases hmem with hold | hnew
      · exact Or.inl (h.items kind event' hold)
      · obtain rfl := LaneItem.event.inj hnew
        simp [LaneKind.takes_iff, hkind]
    · exact Or.inl (h.items kind event' hmem)
  | drops hserving hfull =>
    refine h.quiet (.drops hserving hfull) (by simp) ?_
    exact fun kind event hmem => mem_keptOn_append event _ (h.items kind event hmem)
  | adds register listener =>
    refine h.quiet (.adds register listener) (by simp) ?_
    exact fun kind event hmem => mem_keptOn_append event _ (h.items kind event hmem)
  | turns hturns => exact h.turns hclosing hplaced hturns
  | closes hserving =>
    refine h.quiet (.closes hserving) (by simp) ?_
    exact fun kind event hmem => mem_keptOn_append event _ (h.items kind event hmem)
  | ends hphase hroom =>
    refine h.quiet (.ends hphase hroom) (by simp) ?_
    intro kind event hmem
    simp only [lane, Dispatcher.lane_push] at hmem
    refine mem_keptOn_append event _ (h.items kind event ?_)
    split at hmem
    · simpa [lane] using hmem
    · exact hmem

structure Coherent (size : Nat) (log : List Incident) (delivery : Delivery) : Prop where
  bounded : Bounded size log delivery
  placed : delivery.Placed
  closing : delivery.Closing
  sourced : Sourced log delivery

theorem Coherent.after (h : Coherent size log delivery) (moves : List DeliveryMove) :
    Coherent size (log ++ delivery.log moves) (delivery.after moves) := by
  refine after_induction ?_ h moves
  intro log delivery move happened delivery' h hmakes
  exact ⟨h.bounded.makes hmakes, h.placed.makes hmakes, h.closing.makes hmakes,
    h.sourced.makes h.closing h.placed hmakes⟩

theorem coherent_start (registers : Registers) (register : RegisterId) (size : Nat) :
    Coherent size [] (start registers register size) where
  bounded := bounded_start registers register size
  placed := placed_start registers register size
  closing := closing_start registers register size
  sourced := sourced_start registers register size

end Delivery

end EventSocket
