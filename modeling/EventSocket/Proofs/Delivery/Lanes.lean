import EventSocket.Delivery.Audience
import Mathlib.Data.List.Infix

/-!
Turns of a lane, one at a time. What a lane owes to a place of the register is told there in order
and nothing else is; an item that has been taken is owed to the places that the register has when
its listeners are looked up.
-/

namespace EventSocket

def LaneItem.event? : LaneItem → Option Event
  | event occurred => some occurred
  | ending _ => none

/-- The callback by which a lane tells an event. -/
def LaneKind.tell : LaneKind → Event → Callback
  | general, event => .event event
  | jobs, event => .job event

@[simp]
theorem LaneItem.callback?_event (event : Event) (kind : LaneKind) :
    (LaneItem.event event).callback? kind = some (kind.tell event) := by
  cases kind <;> rfl

@[simp]
theorem Round.comeBack_eq (round : Round) (outcome : Outcome) :
    round.comeBack outcome = { round with called := round.called + 1, calling := none } := by
  cases outcome <;> rfl

/-- The places whose callbacks have begun. -/
def Round.reached (round : Round) : Nat := round.called + (if round.calling.isSome then 1 else 0)

def LanePhase.item? : LanePhase → Option LaneItem
  | .resting | .stopped => none
  | .taken item => some item
  | .telling round => some round.item

/-- The item in hand, as far as it is still owed to a place. Before the listeners are looked up it
is owed to every place there is. -/
def LanePhase.owes (place : Nat) : LanePhase → List LaneItem
  | .resting | .stopped => []
  | .taken item => [item]
  | .telling round =>
    if round.reached ≤ place ∧ place < round.reached + round.waiting.length then [round.item]
    else []

/-- The end of the places that the round under way goes over. -/
def LanePhase.reach : LanePhase → Nat
  | .telling round => round.reached + round.waiting.length
  | .resting | .taken _ | .stopped => 0

namespace Lane

variable {lane : Lane} {kind : LaneKind} {listeners : List Listener}
  {answer : Listener → Callback → Option Outcome} {turn : LaneTurn}

/-- The events that wait on the lane. -/
def events (lane : Lane) : List Event := lane.queue.filterMap LaneItem.event?

/-- The event under way, unless it has reached the place. -/
def underway (lane : Lane) (place : Nat) : List Event :=
  (lane.phase.owes place).filterMap LaneItem.event?

/-- The place of the listener whose turn it is. -/
def place (lane : Lane) : Nat :=
  match lane.phase with
  | .telling round => round.called
  | _ => 0

/-- What a place will still be told if nothing more is put on the lane. -/
def owed (lane : Lane) (kind : LaneKind) (place : Nat) : List Callback :=
  (lane.phase.owes place ++ lane.queue).filterMap (·.callback? kind)

/-- What a turn of the lane has told a place. -/
def toldAt (lane : Lane) (turn : LaneTurn) (place : Nat) : List Callback :=
  if lane.place = place then (turn.told.map Prod.snd).toList else []

/-- The items that the lane has not finished with. -/
def items (lane : Lane) : List LaneItem := lane.phase.item?.toList ++ lane.queue

/-- The ways in which a lane takes a turn. -/
inductive Turns (lane : Lane) (kind : LaneKind) (listeners : List Listener)
    (answer : Listener → Callback → Option Outcome) : LaneTurn → Prop
  | takes {item : LaneItem} {queue : List LaneItem} (hphase : lane.phase = .resting)
      (hqueue : lane.queue = item :: queue) :
      Turns lane kind listeners answer ⟨⟨queue, .taken item⟩, none⟩
  | looksUp {item : LaneItem} (hphase : lane.phase = .taken item) :
      Turns lane kind listeners answer
        ⟨{ lane with phase := .telling ⟨item, 0, none, listeners⟩ }, none⟩
  | tells {round : Round} {callback : Callback} {listener : Listener} {waiting : List Listener}
      (hphase : lane.phase = .telling round)
      (hcallback : round.item.callback? kind = some callback) (hcalling : round.calling = none)
      (hwaiting : round.waiting = listener :: waiting) :
      Turns lane kind listeners answer
        ⟨{ lane with phase := .telling { round with calling := some listener, waiting } },
          some (listener, callback)⟩
  | comesBack {round : Round} {callback : Callback} {listener : Listener} {outcome : Outcome}
      (hphase : lane.phase = .telling round)
      (hcallback : round.item.callback? kind = some callback)
      (hcalling : round.calling = some listener)
      (hanswer : answer listener callback = some outcome) :
      Turns lane kind listeners answer
        ⟨{ lane with
            phase := .telling { round with called := round.called + 1, calling := none } }, none⟩
  | finishes {round : Round} (hphase : lane.phase = .telling round)
      (hover : round.item.callback? kind = none ∨ round.calling = none ∧ round.waiting = []) :
      Turns lane kind listeners answer ⟨{ lane with phase := .behind round.item }, none⟩

theorem turns_of_turn (h : lane.turn kind listeners answer = some turn) :
    lane.Turns kind listeners answer turn := by
  unfold Lane.turn at h
  split at h
  · next hphase =>
    split at h
    · cases h
    · next hqueue =>
      obtain rfl := Option.some.inj h
      exact .takes hphase hqueue
  · next hphase =>
    obtain rfl := Option.some.inj h
    exact .looksUp hphase
  · next round hphase =>
    unfold roundTurn at h
    cases hcallback : round.item.callback? kind with
    | none =>
      simp only [hcallback] at h
      obtain rfl := Option.some.inj h
      exact .finishes hphase (Or.inl hcallback)
    | some callback =>
      cases hcalling : round.calling with
      | some listener =>
        simp only [hcallback, hcalling] at h
        obtain ⟨outcome, hanswer, rfl⟩ := Option.map_eq_some_iff.mp h
        rw [Round.comeBack_eq]
        exact .comesBack hphase hcallback hcalling hanswer
      | none =>
        cases hwaiting : round.waiting with
        | nil =>
          simp only [hcallback, hcalling, hwaiting] at h
          obtain rfl := Option.some.inj h
          exact .finishes hphase (Or.inr ⟨hcalling, hwaiting⟩)
        | cons listener waiting =>
          simp only [hcallback, hcalling, hwaiting] at h
          obtain rfl := Option.some.inj h
          exact .tells hphase hcallback hcalling hwaiting
  · cases h

theorem Turns.queue_suffix (h : lane.Turns kind listeners answer turn) :
    turn.lane.queue <:+ lane.queue := by
  cases h with
  | takes hphase hqueue => exact hqueue ▸ List.suffix_cons _ _
  | looksUp => exact List.suffix_rfl
  | tells => exact List.suffix_rfl
  | comesBack => exact List.suffix_rfl
  | finishes => exact List.suffix_rfl

theorem queue_deliver (lane : Lane) (kind : LaneKind) (listeners : List Listener)
    (audience : Audience) : (lane.deliver kind listeners audience).1.queue <:+ lane.queue := by
  fun_induction Lane.deliver lane kind listeners audience with
  | case1 => exact List.suffix_rfl
  | case2 lane audience turn hturn audience' ih => exact ih.trans (turns_of_turn hturn).queue_suffix

/-- A turn tells a place the first of what the lane owes to it, or leaves all of it owed. -/
theorem Turns.toldAt_owed {place : Nat} (h : lane.Turns kind listeners answer turn)
    (hplace : place < listeners.length) :
    lane.toldAt turn place ++ turn.lane.owed kind place = lane.owed kind place := by
  cases h with
  | takes hphase hqueue => simp [toldAt, owed, hphase, hqueue, LanePhase.owes]
  | looksUp hphase => simp [toldAt, owed, hphase, LanePhase.owes, Round.reached, hplace]
  | @tells round callback listener waiting hphase hcallback hcalling hwaiting =>
    simp only [toldAt, Lane.place, owed, hphase, LanePhase.owes, Round.reached, hcalling, hwaiting,
      Option.isSome_none, Option.isSome_some, Bool.false_eq_true, if_false, if_true, Nat.add_zero,
      List.length_cons]
    -- the places before have been told, and those behind still wait for the same item
    rcases Nat.lt_trichotomy place round.called with hlt | rfl | hlt
    · rw [if_neg (by omega), if_neg (by omega), if_neg (by omega)]
      rfl
    · rw [if_pos rfl, if_neg (by omega), if_pos (by omega)]
      simp [hcallback]
    · have hwithin : round.called + 1 ≤ place ∧ place < round.called + 1 + waiting.length ↔
          round.called ≤ place ∧ place < round.called + (waiting.length + 1) := by omega
      simp only [Nat.ne_of_lt hlt, hwithin, if_false, List.nil_append]
  | comesBack hphase hcallback hcalling =>
    simp [toldAt, owed, hphase, LanePhase.owes, Round.reached, hcalling]
  | @finishes round hphase hover =>
    have hbehind : LanePhase.owes place (.behind round.item) = [] := by
      cases round.item <;> rfl
    rcases hover with hcallback | ⟨hcalling, hwaiting⟩
    · have howes : (LanePhase.owes place (.telling round)).filterMap (·.callback? kind) = [] := by
        rw [LanePhase.owes]
        split <;> simp [hcallback]
      simp [toldAt, owed, hphase, hbehind, howes]
    · have howes : LanePhase.owes place (.telling round) = [] := by
        simp [LanePhase.owes, Round.reached, hcalling, hwaiting]
      simp [toldAt, owed, hphase, hbehind, howes]

/-- The round under way goes over the places of the register, in order. -/
structure Placed (lane : Lane) (listeners : List Listener) : Prop where
  reach : lane.phase.reach ≤ listeners.length
  order : ∀ round, lane.phase = .telling round → round.waiting <+: listeners.drop round.reached

theorem Placed.mono {more : List Listener} (h : lane.Placed listeners)
    (hmore : listeners <+: more) : lane.Placed more where
  reach := Nat.le_trans h.reach hmore.length_le
  order round hphase := (h.order round hphase).trans (hmore.drop round.reached)

theorem placed_empty (listeners : List Listener) : empty.Placed listeners :=
  ⟨Nat.zero_le _, by simp [empty]⟩

theorem Turns.placed (h : lane.Turns kind listeners answer turn) (hplaced : lane.Placed listeners) :
    turn.lane.Placed listeners := by
  cases h with
  | takes => exact ⟨Nat.zero_le _, by simp⟩
  | looksUp =>
    refine ⟨by simp [LanePhase.reach, Round.reached], ?_⟩
    rintro round ⟨rfl⟩
    exact List.prefix_rfl
  | tells hphase hcallback hcalling hwaiting =>
    have hreach := hplaced.reach
    have horder := hplaced.order _ hphase
    simp only [LanePhase.reach, Round.reached, hphase, hcalling, hwaiting] at hreach horder
    refine ⟨?_, ?_⟩
    · simp [LanePhase.reach, Round.reached] at hreach ⊢
      omega
    · rintro round ⟨rfl⟩
      simpa [Round.reached, Nat.add_comm] using horder.drop 1
  | comesBack hphase hcallback hcalling =>
    have hreach := hplaced.reach
    have horder := hplaced.order _ hphase
    simp only [LanePhase.reach, Round.reached, hphase, hcalling] at hreach horder
    refine ⟨hreach, ?_⟩
    rintro round ⟨rfl⟩
    exact horder
  | @finishes round =>
    have hbehind : LanePhase.reach (.behind round.item) = 0 := by cases round.item <;> rfl
    refine ⟨hbehind ▸ Nat.zero_le _, ?_⟩
    cases round.item <;> simp [LanePhase.behind]

/-- A turn tells the listener that is registered at the place whose turn it is. -/
theorem Turns.listener_told {listener : Listener} {callback : Callback}
    (h : lane.Turns kind listeners answer turn) (hplaced : lane.Placed listeners)
    (htold : turn.told = some (listener, callback)) : listeners[lane.place]? = some listener := by
  cases h with
  | @tells round _ _ waiting hphase hcallback hcalling hwaiting =>
    cases htold
    have horder := hplaced.order _ hphase
    simp only [Round.reached, hcalling, hwaiting] at horder
    obtain ⟨rest, hrest⟩ := horder
    have hfirst := congrArg (·[0]?) hrest
    simpa [place, hphase] using hfirst.symm
  | _ => cases htold

/-- A turn leaves the items of the lane as they are, or finishes with the first. -/
theorem Turns.items_eq (h : lane.Turns kind listeners answer turn) :
    turn.lane.items = lane.items ∧ turn.lane.phase ≠ .stopped ∨
      ∃ item, lane.items = item :: turn.lane.items ∧ turn.lane = ⟨lane.queue, .behind item⟩ := by
  cases h with
  | takes hphase hqueue => exact Or.inl (by simp [items, hphase, hqueue, LanePhase.item?])
  | looksUp hphase => exact Or.inl (by simp [items, hphase, LanePhase.item?])
  | tells hphase => exact Or.inl (by simp [items, hphase, LanePhase.item?])
  | comesBack hphase => exact Or.inl (by simp [items, hphase, LanePhase.item?])
  | @finishes round hphase =>
    refine Or.inr ⟨round.item, ?_, rfl⟩
    have hbehind : LanePhase.item? (.behind round.item) = none := by cases round.item <;> rfl
    simp only [items, hphase, hbehind]
    rfl

theorem Turns.items_sublist (h : lane.Turns kind listeners answer turn) :
    turn.lane.items.Sublist lane.items := by
  rcases h.items_eq with ⟨hitems, -⟩ | ⟨item, hitems, -⟩
  · exact hitems ▸ List.Sublist.refl _
  · exact hitems ▸ List.sublist_cons_self item _

/-- A place is told the first item. -/
theorem Turns.told {listener : Listener} {callback : Callback}
    (h : lane.Turns kind listeners answer turn) (htold : turn.told = some (listener, callback)) :
    ∃ item, lane.items = item :: lane.queue ∧ item.callback? kind = some callback := by
  cases h with
  | @tells round _ _ _ hphase hcallback =>
    cases htold
    exact ⟨round.item, by simp [items, hphase, LanePhase.item?], hcallback⟩
  | _ => cases htold

/-- The end has not been put on the lane. -/
structure Open (lane : Lane) : Prop where
  running : lane.phase ≠ .stopped
  items : ∀ reason, .ending reason ∉ lane.items

/-- The end has been put on the lane, behind everything else. -/
inductive Ended (reason : EndReason) (lane : Lane) : Prop
  | waits {before : List LaneItem} (hrunning : lane.phase ≠ .stopped)
      (hbefore : ∀ reason', .ending reason' ∉ before)
      (hitems : lane.items = before ++ [.ending reason]) : Ended reason lane
  | stopped (hphase : lane.phase = .stopped) (hqueue : lane.queue = []) : Ended reason lane

theorem open_empty : empty.Open := ⟨by simp [empty], by simp [empty, items, LanePhase.item?]⟩

@[simp]
theorem items_push (lane : Lane) (item : LaneItem) :
    (lane.push item).items = lane.items ++ [item] :=
  (List.append_assoc ..).symm

theorem Open.push {event : Event} (h : lane.Open) : (lane.push (.event event)).Open :=
  ⟨h.running, by simp [h.items]⟩

theorem Open.pushEnding (h : lane.Open) (reason : EndReason) :
    (lane.push (.ending reason)).Ended reason :=
  .waits h.running h.items (items_push lane _)

theorem Ended.eq_of_mem {reason reason' : EndReason} (h : lane.Ended reason)
    (hmem : .ending reason' ∈ lane.items) : reason' = reason := by
  cases h with
  | waits hrunning hbefore hitems =>
    rw [hitems, List.mem_append, List.mem_singleton] at hmem
    rcases hmem with hmem | hmem
    · exact absurd hmem (hbefore reason')
    · exact LaneItem.ending.inj hmem
  | stopped hphase hqueue => simp [Lane.items, hphase, hqueue, LanePhase.item?] at hmem

/-- The end is the last item. -/
theorem Ended.rest_eq_nil {reason reason' : EndReason} {rest : List LaneItem}
    (h : lane.Ended reason) (hitems : lane.items = .ending reason' :: rest) : rest = [] := by
  cases h with
  | @waits before hrunning hbefore hitems' =>
    cases before with
    | nil => exact (List.cons.inj (hitems.symm.trans hitems')).2
    | cons first before =>
      obtain ⟨rfl, -⟩ := List.cons.inj (hitems.symm.trans hitems')
      exact absurd List.mem_cons_self (hbefore reason')
  | stopped hphase hqueue => simp [Lane.items, hphase, hqueue, LanePhase.item?] at hitems

theorem Turns.open (h : lane.Turns kind listeners answer turn) (hopen : lane.Open) :
    turn.lane.Open := by
  rcases h.items_eq with ⟨hitems, hrunning⟩ | ⟨item, hitems, hlane⟩
  · exact ⟨hrunning, hitems ▸ hopen.items⟩
  · have hnone := hopen.items
    rw [hitems] at hnone
    refine ⟨?_, fun reason hmem => hnone reason (List.mem_cons_of_mem _ hmem)⟩
    cases item with
    | event event => simp [hlane, LanePhase.behind]
    | ending reason => exact absurd List.mem_cons_self (hnone reason)

theorem Turns.ended {reason : EndReason} (h : lane.Turns kind listeners answer turn)
    (hended : lane.Ended reason) : turn.lane.Ended reason := by
  cases hended with
  | stopped hphase => cases h <;> simp_all
  | @waits before hrunning hbefore hitems =>
    rcases h.items_eq with ⟨hsame, hrunning'⟩ | ⟨item, hfirst, hlane⟩
    · exact .waits hrunning' hbefore (hsame.trans hitems)
    · cases before with
      | nil =>
        obtain ⟨rfl, hrest⟩ := List.cons.inj (hfirst.symm.trans hitems)
        refine .stopped (by simp [hlane, LanePhase.behind]) ?_
        simpa [items] using (List.append_eq_nil_iff.mp hrest).2
      | cons first before =>
        obtain ⟨rfl, hrest⟩ := List.cons.inj (hfirst.symm.trans hitems)
        cases item with
        | event event =>
          refine .waits (by simp [hlane, LanePhase.behind]) ?_ hrest
          exact fun reason' hmem => hbefore reason' (List.mem_cons_of_mem _ hmem)
        | ending reason' => exact absurd List.mem_cons_self (hbefore reason')

theorem owes_subset (lane : Lane) (place : Nat) :
    lane.phase.owes place ⊆ lane.phase.item?.toList := by
  intro item hitem
  unfold LanePhase.owes at hitem
  split at hitem <;> simp_all [LanePhase.item?]

/-- As long as the end has not come, only events are owed. -/
theorem Open.owed_eq (h : lane.Open) (kind : LaneKind) (place : Nat) :
    lane.owed kind place = (lane.underway place ++ lane.events).map kind.tell := by
  rw [owed, underway, events, ← List.filterMap_append, List.map_filterMap]
  refine List.filterMap_congr fun item hitem => ?_
  cases item with
  | event event => simp [LaneItem.event?]
  | ending reason =>
    refine absurd ?_ (h.items reason)
    rcases List.mem_append.mp hitem with hhand | hqueue
    · exact List.mem_append_left _ (lane.owes_subset place hhand)
    · exact List.mem_append_right _ hqueue

theorem Ended.owed_eq_nil {reason : EndReason} (h : lane.Ended reason)
    (hstopped : lane.phase = .stopped) (kind : LaneKind) (place : Nat) :
    lane.owed kind place = [] := by
  cases h with
  | waits hrunning => exact absurd hstopped hrunning
  | stopped hphase hqueue => simp [owed, hphase, hqueue, LanePhase.owes]

/-- Nothing is left to do on the lane. -/
def Rests (lane : Lane) : Prop := lane.phase = .stopped ∨ lane.phase = .resting ∧ lane.queue = []

/-- A lane stands still only over a callback that has not come back. -/
theorem rests_of_turn_none (hanswer : ∀ listener callback, (answer listener callback).isSome)
    (h : lane.turn kind listeners answer = none) : lane.Rests := by
  unfold Lane.turn at h
  split at h
  · next hphase =>
    split at h
    · next hqueue => exact Or.inr ⟨hphase, hqueue⟩
    · cases h
  · cases h
  · next round hphase =>
    unfold roundTurn at h
    split at h
    · next callback listener _ _ =>
      have hcomes := hanswer listener callback
      rw [Option.map_eq_none_iff.mp h] at hcomes
      cases hcomes
    · cases h
    · cases h
  · next hphase => exact Or.inl hphase

theorem Ended.stopped_of_rests {reason : EndReason} (h : lane.Ended reason) (hrests : lane.Rests) :
    lane.phase = .stopped := by
  rcases hrests with hstopped | ⟨hphase, hqueue⟩
  · exact hstopped
  · cases h with
    | waits hrunning hbefore hitems => simp [items, hphase, hqueue, LanePhase.item?] at hitems
    | stopped hphase => exact hphase

theorem Open.queue_of_rests (h : lane.Open) (hrests : lane.Rests) : lane.queue = [] :=
  (hrests.resolve_left h.running).2

theorem turn_of_rests (hrests : lane.Rests) : lane.turn kind listeners answer = none := by
  rcases hrests with hphase | ⟨hphase, hqueue⟩
  · simp [Lane.turn, hphase]
  · simp [Lane.turn, hphase, hqueue]

theorem steps_lt {limit count : Nat} (hqueue : lane.queue.length ≤ limit)
    (hreach : lane.phase.reach ≤ count) : lane.steps count < (limit + 1) * (3 + 2 * count) := by
  have hphase : phaseSteps count lane.phase < 3 + 2 * count := by
    unfold phaseSteps
    split
    · omega
    · omega
    · omega
    · next round hphase =>
      simp only [LanePhase.reach, Round.reached, hphase] at hreach
      rw [roundSteps]
      omega
  calc lane.steps count
    _ < lane.queue.length * (3 + 2 * count) + (3 + 2 * count) := Nat.add_lt_add_left hphase _
    _ = (lane.queue.length + 1) * (3 + 2 * count) := (Nat.succ_mul ..).symm
    _ ≤ (limit + 1) * (3 + 2 * count) := Nat.mul_le_mul_right _ (Nat.succ_le_succ hqueue)

end Lane

end EventSocket
