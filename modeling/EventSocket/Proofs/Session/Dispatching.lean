import EventSocket.Proofs.Delivery.Going
import EventSocket.Proofs.Delivery.Registration
import EventSocket.Proofs.Session.Leaving
import EventSocket.Session.Opening

/-!
The dispatcher of a session, as one that goes on by itself. The reader hands it the events it
routes, closes it once the session is over and puts the end on its lanes, one after the other; its
lanes take turns whenever the listeners are let go on. Nobody else touches it.
-/

namespace EventSocket

/-- How far the dispatcher is closed by a reader that has come this far. -/
def ReaderPhase.Closes : ReaderPhase → ClosePhase → Prop
  | running, phase | hangingUp .., phase | failing _, phase => phase = .serving
  | ending reason kind, phase => phase = .ending reason kind
  | stopped, phase => ∃ reason, phase = .closed reason

/-- What is dispatched when a frame is routed. -/
def Frame.dispatches (frame : Frame) : List DeliveryMove :=
  match frame.kind with
  | .event => (Event.ofFrame frame).toOption.toList.map .dispatch
  | _ => []

namespace Session

variable {session session' : Session} {listeners : List Listener} {delivery : Delivery}
  {now most : Nat}

/-- What the next turn of the reader means for the dispatcher. -/
def dispatches (session : Session) : List DeliveryMove :=
  match session.reader with
  | .running =>
    match session.decoder.next.1 with
    | .ok (some frame) => frame.dispatches
    | _ => []
  | .hangingUp .. | .stopped => []
  | .failing reason => [.close reason]
  | .ending .. => [.endLane]

/-- The dispatcher of the session, with these listeners, stands where the one that goes on by itself
does. -/
structure Serves (session : Session) (listeners : List Listener) (delivery : Delivery) : Prop where
  dispatcher : delivery.dispatcher = session.dispatcher
  phase : session.reader.Closes delivery.phase
  listeners : delivery.listeners = listeners

theorem Serves.of_eq (h : session.Serves listeners delivery)
    (hreader : session'.reader = session.reader)
    (hdispatcher : session'.dispatcher = session.dispatcher) : session'.Serves listeners delivery :=
  ⟨h.dispatcher.trans hdispatcher.symm, hreader ▸ h.phase, h.listeners⟩

theorem Serves.serving (h : session.Serves listeners delivery)
    (hrunning : session.reader = .running) :
    delivery.phase = .serving := by
  have hphase := h.phase
  rwa [hrunning] at hphase

theorem Serves.hangingUp {reason : EndReason} {deadline : Nat}
    (h : session.Serves listeners delivery)
    (hrunning : session.reader = .running) (hreader : session'.reader = .hangingUp reason deadline)
    (hdispatcher : session'.dispatcher = session.dispatcher) : session'.Serves listeners delivery :=
  ⟨h.dispatcher.trans hdispatcher.symm, hreader ▸ h.serving hrunning, h.listeners⟩

theorem Serves.route (h : session.Serves listeners delivery) (hrunning : session.reader = .running)
    (now : Nat) (frame : Frame) :
    (session.route now frame).Serves listeners (delivery.after frame.dispatches) := by
  cases hkind : frame.kind with
  | event =>
    simp only [Session.route, Frame.dispatches, hkind]
    cases hevent : Event.ofFrame frame with
    | ok event =>
      have hserving := h.serving hrunning
      have hmove : delivery.perform (.dispatch event) =
          { delivery with dispatcher := delivery.dispatcher.dispatch event } := if_pos hserving
      change Serves _ listeners (delivery.perform (.dispatch event))
      rw [hmove]
      exact ⟨congrArg (·.dispatch event) h.dispatcher, h.phase, h.listeners⟩
    | error fault => exact h.hangingUp hrunning rfl rfl
  | disconnectNotice =>
    simp only [Session.route, Frame.dispatches, hkind]
    split
    · exact h
    · exact h.hangingUp hrunning rfl rfl
  | _ =>
    simp only [Session.route, Frame.dispatches, hkind]
    exact h.of_eq rfl rfl

theorem Serves.reading (h : session.Serves listeners delivery)
    (hrunning : session.reader = .running) (hreading : session.Reading now most session') :
    session'.Serves listeners delivery := by
  cases hreading with
  | takes => exact h.of_eq rfl rfl
  | heeds | refuses | fails | ends => exact h.hangingUp hrunning rfl rfl

theorem Serves.ending {reason : EndReason} {kind : LaneKind} {dispatcher : Dispatcher}
    (h : session.Serves listeners delivery) (hreader : session.reader = .ending reason kind)
    (hpush : session.dispatcher.pushEnding kind reason = some dispatcher) :
    delivery.perform .endLane = { delivery with dispatcher, phase := .past reason kind } := by
  have hphase := h.phase
  rw [hreader] at hphase
  replace hphase : delivery.phase = .ending reason kind := hphase
  rw [← h.dispatcher] at hpush
  simp only [Delivery.perform, hphase, hpush]

/-- The next turn of the reader means for the dispatcher what it says. -/
theorem Serves.readerTurn (h : session.Serves listeners delivery)
    (hturn : session.readerTurn now most = some session') :
    session'.Serves listeners (delivery.after session.dispatches) := by
  have htook (decoder : Decoder) : Serves { session with decoder } listeners delivery :=
    h.of_eq rfl rfl
  have hphase := h.phase
  cases readerTurn_goes hturn with
  | @routes frame decoder hrunning hnext =>
    have hmoves : session.dispatches = frame.dispatches := by simp [dispatches, hrunning, hnext]
    rw [hmoves]
    exact (htook decoder).route hrunning now frame
  | @reads decoder _ hrunning hnext hreading =>
    have hmoves : session.dispatches = [] := by simp [dispatches, hrunning, hnext]
    rw [hmoves]
    exact (htook decoder).reading hrunning hreading
  | breaks hrunning hnext =>
    have hmoves : session.dispatches = [] := by simp [dispatches, hrunning, hnext]
    rw [hmoves]
    exact h.hangingUp hrunning rfl rfl
  | shuts hreader | leaves hreader =>
    have hmoves : session.dispatches = [] := by simp [dispatches, hreader]
    rw [hreader] at hphase
    rw [hmoves]
    exact ⟨h.dispatcher, hphase, h.listeners⟩
  | @drains reason hreader =>
    have hmoves : session.dispatches = [.close reason] := by simp [dispatches, hreader]
    rw [hreader] at hphase
    replace hphase : delivery.phase = .serving := hphase
    have hclose : delivery.perform (.close reason) =
        { delivery with phase := .ending reason .general } := if_pos hphase
    rw [hmoves]
    change Serves _ listeners (delivery.perform (.close reason))
    rw [hclose]
    exact ⟨h.dispatcher, rfl, h.listeners⟩
  | endsGeneral hreader hpush =>
    have hmoves : session.dispatches = [.endLane] := by simp [dispatches, hreader]
    rw [hmoves]
    change Serves _ listeners (delivery.perform .endLane)
    rw [h.ending hreader hpush]
    exact ⟨rfl, rfl, h.listeners⟩
  | @endsJobs reason _ hreader hpush =>
    have hmoves : session.dispatches = [.endLane] := by simp [dispatches, hreader]
    rw [hmoves]
    change Serves _ listeners (delivery.perform .endLane)
    rw [h.ending hreader hpush]
    exact ⟨rfl, ⟨reason, rfl⟩, h.listeners⟩

theorem Serves.laneTurn {kind : LaneKind} {answer : Listener → Callback → Option Outcome}
    {turn : LaneTurn} (h : session.Serves listeners delivery)
    (hturn : (session.dispatcher.lane kind).turn kind listeners answer = some turn) :
    { session with dispatcher := session.dispatcher.setLane turn.lane kind }.Serves listeners
      (delivery.perform (.turn kind answer)) := by
  rw [← h.dispatcher, ← h.listeners] at hturn
  have hmove : delivery.perform (.turn kind answer) =
      { delivery with dispatcher := delivery.dispatcher.setLane turn.lane kind } := by
    simp only [Delivery.perform, Delivery.laneTurn, Delivery.lane, hturn]
  rw [hmove]
  exact ⟨congrArg (·.setLane turn.lane kind) h.dispatcher, h.phase, h.listeners⟩

theorem serves_session (attempt : Opening) (channelData : Option Event)
    (listeners : List Listener) :
    (attempt.session channelData).Serves listeners
      (.start ⟨[listeners]⟩ ⟨0⟩ attempt.settings.queueSize) :=
  ⟨rfl, rfl, rfl⟩

/-- What a move that leaves the lanes alone means for the dispatcher. -/
def handsOver (session : Session) : Move → List DeliveryMove
  | .reader .. => session.dispatches
  | _ => []

theorem Serves.handsOver {move : Move} (h : session.Serves listeners delivery)
    (hlanes : ∀ others audience, move ≠ .deliver others audience)
    (hmove : session.perform move = some session') :
    session'.Serves listeners (delivery.after (session.handsOver move)) := by
  cases moves_of_perform hmove with
  | call number request =>
    have haside := aside_call session number request
    exact h.of_eq haside.reader haside.dispatcher
  | caller hfound hturn =>
    have haside := aside_callerTurn hturn
    exact h.of_eq haside.reader haside.dispatcher
  | reader hturn => exact h.readerTurn hturn
  | abandon | network => exact h.of_eq rfl rfl
  | deliver others audience => exact absurd rfl (hlanes others audience)

/-- Whatever a session does, its dispatcher goes on by moves of its own. -/
theorem Serves.perform {move : Move} (h : session.Serves listeners delivery)
    (hlisteners : ∀ others audience, move = .deliver others audience → others = listeners)
    (hmove : session.perform move = some session') :
    ∃ moves, session'.Serves listeners (delivery.after moves) := by
  cases moves_of_perform hmove with
  | deliver others audience =>
    obtain rfl := hlisteners others audience rfl
    obtain ⟨moves, -, hafter, -⟩ := delivery.dispatcher_deliver audience
    refine ⟨moves, ?_⟩
    rw [hafter]
    exact ⟨by rw [h.dispatcher, h.listeners], h.phase, h.listeners⟩
  | _ => exact ⟨_, h.handsOver (by simp) hmove⟩

/-- No single turn of the reader puts the end on both lanes. -/
theorem Serves.phase_dispatches (h : session.Serves listeners delivery)
    (hserving : delivery.phase = .serving) (reason : EndReason) :
    (delivery.after session.dispatches).phase ≠ .closed reason := by
  have hdispatch (frame : Frame) : (delivery.after frame.dispatches).phase = .serving := by
    cases hkind : frame.kind with
    | event =>
      simp only [Frame.dispatches, hkind]
      cases Event.ofFrame frame with
      | ok event =>
        change (delivery.perform (.dispatch event)).phase = .serving
        rw [show delivery.perform (.dispatch event) = _ from if_pos hserving]
        exact hserving
      | error fault => exact hserving
    | _ =>
      simp only [Frame.dispatches, hkind]
      exact hserving
  have hphase := h.phase
  unfold dispatches
  split
  · split
    · rw [hdispatch]
      simp
    · simp [hserving]
  · simp [hserving]
  · simp [hserving]
  · change (delivery.perform (.close _)).phase ≠ .closed reason
    rw [show delivery.perform (.close _) = _ from if_pos hserving]
    simp
  · next reason' kind hreader =>
    rw [hreader, hserving] at hphase
    cases hphase

theorem Serves.not_closed (h : session.Serves listeners delivery)
    (hserving : delivery.phase = .serving) (move : Move) (reason : EndReason) :
    (delivery.after (session.handsOver move)).phase ≠ .closed reason := by
  cases move with
  | reader => exact h.phase_dispatches hserving reason
  | _ => simp [Session.handsOver, hserving]

end Session

namespace Delivery

/-- A run of a dispatcher that has a register for itself. -/
def apart (first : List Listener) (size : Nat) (moves : List DeliveryMove) : Delivery :=
  (start ⟨[first]⟩ ⟨0⟩ size).after moves

theorem apart_concat (first : List Listener) (size : Nat) (moves : List DeliveryMove)
    (move : DeliveryMove) :
    apart first size (moves ++ [move]) = (apart first size moves).perform move :=
  after_append ..

theorem coherent_apart (first : List Listener) (size : Nat) (moves : List DeliveryMove) :
    Coherent size ((start ⟨[first]⟩ ⟨0⟩ size).log moves) (apart first size moves) := by
  have hcoherent := (coherent_start ⟨[first]⟩ ⟨0⟩ size).after moves
  rwa [List.nil_append] at hcoherent

theorem listeners_apart_add (first : List Listener) (size : Nat) (moves : List DeliveryMove)
    (listener : Listener) :
    (apart first size (moves ++ [.add ⟨0⟩ listener])).listeners =
      (apart first size moves).listeners ++ [listener] := by
  obtain ⟨hregister, hlength⟩ := (start ⟨[first]⟩ ⟨0⟩ size).registers_after moves
  have hid : (⟨0⟩ : RegisterId).index < (apart first size moves).registers.lists.length := by
    rw [apart, hlength]
    exact Nat.one_pos
  rw [apart_concat, listeners, listeners, perform, apart, hregister]
  exact Registers.listeners_add_self hid listener

end Delivery

namespace Session

theorem Serves.add {session : Session} {listeners first : List Listener} {size : Nat}
    {moves : List DeliveryMove} (h : session.Serves listeners (Delivery.apart first size moves))
    (listener : Listener) :
    session.Serves (listeners ++ [listener])
      (Delivery.apart first size (moves ++ [.add ⟨0⟩ listener])) := by
  refine ⟨?_, ?_, ?_⟩
  · rw [Delivery.apart_concat]
    exact h.dispatcher
  · rw [Delivery.apart_concat]
    exact h.phase
  · rw [Delivery.listeners_apart_add, h.listeners]

theorem Serves.adds {session : Session} {listeners more first : List Listener} {size : Nat}
    {moves : List DeliveryMove} (h : session.Serves listeners (Delivery.apart first size moves))
    (hmore : listeners <+: more) :
    ∃ moves', session.Serves more (Delivery.apart first size moves') := by
  obtain ⟨added, rfl⟩ := hmore
  induction added generalizing listeners moves with
  | nil => exact ⟨moves, by rwa [List.append_nil]⟩
  | cons listener added ih => simpa using ih (h.add listener)

end Session

end EventSocket
