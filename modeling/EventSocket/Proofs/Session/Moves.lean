import EventSocket.Proofs.Session.Conservation
import EventSocket.Proofs.Text.Bytes
import EventSocket.Session.Settling

/-!
The moves of a session, in any order: new calls, turns of callers and of the reader, callers that go
away, and everything the network and the listeners may do meanwhile. A run keeps a log of what
happens on the wire and to the commands that wait for replies.
-/

namespace EventSocket

/-- `network` replaces the transport by any other on which the same has been sent. -/
inductive Move where
  | call (number : Nat) (request : Request)
  | caller (number now most : Nat)
  | reader (now most : Nat)
  | abandon (number : Nat)
  | network (transport : Transport)
  | deliver (listeners : List Listener) (audience : Audience)

/-- A command that has lined up for its reply, with the bytes to be written for it. -/
structure Send where
  number : Nat
  request : Request
  id : CommandId
  wire : ByteArray
  deriving DecidableEq

/-- `cutOff` is for a caller that goes away before all of its bytes have been written. -/
inductive Happening where
  | called (number : Nat)
  | entered (send : Send)
  | wrote (id : CommandId) (bytes : ByteArray)
  | failed (id : CommandId)
  | cutOff (id : CommandId)
  | routed (frame : Frame)
  | drained
  deriving DecidableEq

namespace Session

def perform (session : Session) : Move → Option Session
  | .call number request => some (session.call number request)
  | .caller number now most => (session.caller? number).bind (session.callerTurn now most)
  | .reader now most => session.readerTurn now most
  | .abandon number => some (session.abandon number)
  | .network transport =>
    if transport.sent = session.transport.sent then some { session with transport } else none
  | .deliver listeners audience =>
    some { session with dispatcher := (session.dispatcher.deliver listeners audience).1 }

/-- The ways in which a move can be made. -/
inductive Moves (session : Session) : Move → Session → Prop
  | call (number : Nat) (request : Request) :
      Moves session (.call number request) (session.call number request)
  | caller {number now most : Nat} {caller : Caller} {session' : Session}
      (hfound : session.caller? number = some caller)
      (hturn : session.callerTurn now most caller = some session') :
      Moves session (.caller number now most) session'
  | reader {now most : Nat} {session' : Session}
      (hturn : session.readerTurn now most = some session') :
      Moves session (.reader now most) session'
  | abandon (number : Nat) : Moves session (.abandon number) (session.abandon number)
  | network {transport : Transport} (hsent : transport.sent = session.transport.sent) :
      Moves session (.network transport) { session with transport }
  | deliver (listeners : List Listener) (audience : Audience) :
      Moves session (.deliver listeners audience)
        { session with dispatcher := (session.dispatcher.deliver listeners audience).1 }

theorem moves_of_perform {session session' : Session} {move : Move}
    (h : session.perform move = some session') : Moves session move session' := by
  cases move with
  | call number request =>
    obtain rfl := Option.some.inj h
    exact .call number request
  | caller number now most =>
    obtain ⟨caller, hfound, hturn⟩ := Option.bind_eq_some_iff.mp h
    exact .caller hfound hturn
  | reader now most => exact .reader h
  | abandon number =>
    obtain rfl := Option.some.inj h
    exact .abandon number
  | network transport =>
    obtain ⟨hsent, hnetwork⟩ := Option.ite_none_right_eq_some.mp h
    obtain rfl := Option.some.inj hnetwork
    exact .network hsent
  | deliver listeners audience =>
    obtain rfl := Option.some.inj h
    exact .deliver listeners audience

def callerHappenings (session : Session) (most : Nat) (caller : Caller) : List Happening :=
  match caller.phase with
  | .queued id wire =>
    if session.pending.closed then [] else [.entered ⟨caller.number, caller.request, id, wire⟩]
  | .writing id rest =>
    match (session.transport.write (rest.extract 0 most)).1 with
    | .waiting => []
    | .failed _ => [.failed id]
    | .written => [.wrote id (rest.extract 0 most)]
  | _ => []

def readerHappenings (session : Session) : List Happening :=
  match session.reader with
  | .running =>
    match session.decoder.next.1 with
    | .ok (some frame) => [.routed frame]
    | _ => []
  | .failing _ => [.drained]
  | _ => []

def abandonHappenings (session : Session) (number : Nat) : List Happening :=
  match (session.caller? number).map Caller.phase with
  | some (.writing id _) => [.cutOff id]
  | _ => []

def happenings (session : Session) : Move → List Happening
  | .call number _ => [.called number]
  | .caller number _ most =>
    match session.caller? number with
    | some caller => session.callerHappenings most caller
    | none => []
  | .reader _ _ => session.readerHappenings
  | .abandon number => session.abandonHappenings number
  | .network _ | .deliver _ _ => []

/-- How something comes to happen by a move. -/
inductive Happens (session : Session) : Move → Happening → Prop
  | called (number : Nat) (request : Request) :
      Happens session (.call number request) (.called number)
  | entered {number now most : Nat} {caller : Caller} {id : CommandId} {wire : ByteArray}
      (hfound : session.caller? number = some caller) (hphase : caller.phase = .queued id wire)
      (hopen : session.pending.closed = false) :
      Happens session (.caller number now most)
        (.entered ⟨caller.number, caller.request, id, wire⟩)
  | failed {number now most : Nat} {caller : Caller} {id : CommandId} {rest : ByteArray}
      {text : String} (hfound : session.caller? number = some caller)
      (hphase : caller.phase = .writing id rest)
      (hwrite : (session.transport.write (rest.extract 0 most)).1 = .failed text) :
      Happens session (.caller number now most) (.failed id)
  | wrote {number now most : Nat} {caller : Caller} {id : CommandId} {rest : ByteArray}
      (hfound : session.caller? number = some caller) (hphase : caller.phase = .writing id rest)
      (hwrite : (session.transport.write (rest.extract 0 most)).1 = .written) :
      Happens session (.caller number now most) (.wrote id (rest.extract 0 most))
  | cutOff {number : Nat} {caller : Caller} {id : CommandId} {rest : ByteArray}
      (hfound : session.caller? number = some caller) (hphase : caller.phase = .writing id rest) :
      Happens session (.abandon number) (.cutOff id)
  | routed {now most : Nat} {frame : Frame} (hrunning : session.reader = .running)
      (hnext : session.decoder.next.1 = .ok (some frame)) :
      Happens session (.reader now most) (.routed frame)
  | drained {now most : Nat} {reason : EndReason} (hfailing : session.reader = .failing reason) :
      Happens session (.reader now most) .drained

variable {session : Session} {happening : Happening}

theorem happens_caller {number now most : Nat} {caller : Caller}
    (hfound : session.caller? number = some caller)
    (h : happening ∈ session.callerHappenings most caller) :
    session.Happens (.caller number now most) happening := by
  unfold callerHappenings at h
  split at h
  · next id wire hphase =>
    split at h
    · cases h
    · next hopen =>
      obtain rfl := List.mem_singleton.mp h
      exact .entered hfound hphase (Bool.eq_false_iff.mpr hopen)
  · next id rest hphase =>
    split at h
    · cases h
    · next text hwrite =>
      obtain rfl := List.mem_singleton.mp h
      exact .failed hfound hphase hwrite
    · next hwrite =>
      obtain rfl := List.mem_singleton.mp h
      exact .wrote hfound hphase hwrite
  · cases h

theorem happens_reader {now most : Nat} (h : happening ∈ session.readerHappenings) :
    session.Happens (.reader now most) happening := by
  unfold readerHappenings at h
  split at h
  · next hrunning =>
    split at h
    · next frame hnext =>
      obtain rfl := List.mem_singleton.mp h
      exact .routed hrunning hnext
    · cases h
  · next reason hfailing =>
    obtain rfl := List.mem_singleton.mp h
    exact .drained hfailing
  · cases h

theorem happens_abandon {number : Nat} (h : happening ∈ session.abandonHappenings number) :
    session.Happens (.abandon number) happening := by
  unfold abandonHappenings at h
  split at h
  · next id rest hphase =>
    obtain ⟨caller, hfound, hphase⟩ := Option.map_eq_some_iff.mp hphase
    obtain rfl := List.mem_singleton.mp h
    exact .cutOff hfound hphase
  · cases h

theorem happens_of_mem {move : Move} (h : happening ∈ session.happenings move) :
    session.Happens move happening := by
  cases move with
  | call number request =>
    obtain rfl := List.mem_singleton.mp h
    exact .called number request
  | caller number now most =>
    simp only [happenings] at h
    split at h
    · next caller hfound => exact happens_caller hfound h
    · cases h
  | reader now most => exact happens_reader h
  | abandon number => exact happens_abandon h
  | network transport => cases h
  | deliver listeners audience => cases h

end Session

/-- Every call has a number of its own. -/
def Move.Fresh (log : List Happening) : Move → Prop
  | .call number _ => .called number ∉ log
  | _ => True

instance (log : List Happening) (move : Move) : Decidable (move.Fresh log) :=
  match move with
  | .call number _ => inferInstanceAs (Decidable (.called number ∉ log))
  | .caller .. | .reader .. | .abandon _ | .network _ | .deliver .. =>
    inferInstanceAs (Decidable True)

/-- The session and the log that any number of moves, in any order, lead to. -/
inductive Session.Run (start : Session) : List Happening → Session → Prop
  | start : Run start [] start
  | step {log : List Happening} {session session' : Session} (run : Run start log session)
      (move : Move) (hfresh : move.Fresh log) (hmove : session.perform move = some session') :
      Run start (log ++ session.happenings move) session'

/-- Makes the given moves, if all of them can be made. -/
def Session.follow (log : List Happening) (session : Session) :
    List Move → Option (List Happening × Session)
  | [] => some (log, session)
  | move :: moves =>
    if move.Fresh log then
      (session.perform move).bind fun session' =>
        session'.follow (log ++ session.happenings move) moves
    else none

theorem Session.Run.follow {start session session' : Session} {log log' : List Happening}
    (run : start.Run log session) {moves : List Move}
    (h : session.follow log moves = some (log', session')) : start.Run log' session' := by
  induction moves generalizing log session with
  | nil =>
    cases h
    exact run
  | cons move moves ih =>
    rw [Session.follow] at h
    split at h
    · next hfresh =>
      obtain ⟨between, hmove, hrest⟩ := Option.bind_eq_some_iff.1 h
      exact ih (run.step move hfresh hmove) hrest
    · cases h

namespace Happening

def send? : Happening → Option Send
  | entered send => some send
  | _ => none

def frame? : Happening → Option Frame
  | routed frame => some frame
  | _ => none

/-- What a happening means for the commands that wait for replies. -/
def slotAction? : Happening → Option SlotAction
  | entered send => some (.register send.id)
  | failed id => some (.withdraw id)
  | routed frame => if frame.kind.isReply then some (.resolve frame) else none
  | drained => some .failAll
  | _ => none

def bytesFor (id : CommandId) : Happening → List UInt8
  | wrote id' bytes => if id' = id then octets bytes else []
  | _ => []

end Happening

def sends (log : List Happening) : List Send := log.filterMap Happening.send?

def slotActions (log : List Happening) : List SlotAction := log.filterMap Happening.slotAction?

def framesIn (log : List Happening) : List Frame := log.filterMap Happening.frame?

/-- The bytes written so far for a command. -/
def written (log : List Happening) (id : CommandId) : List UInt8 :=
  log.flatMap (Happening.bytesFor id)

@[simp]
theorem sends_append (log more : List Happening) : sends (log ++ more) = sends log ++ sends more :=
  List.filterMap_append

@[simp]
theorem slotActions_append (log more : List Happening) :
    slotActions (log ++ more) = slotActions log ++ slotActions more :=
  List.filterMap_append

@[simp]
theorem framesIn_append (log more : List Happening) :
    framesIn (log ++ more) = framesIn log ++ framesIn more :=
  List.filterMap_append

@[simp]
theorem written_append (log more : List Happening) (id : CommandId) :
    written (log ++ more) id = written log id ++ written more id :=
  List.flatMap_append

@[simp]
theorem sends_nil : sends [] = [] := rfl

@[simp]
theorem slotActions_nil : slotActions [] = [] := rfl

@[simp]
theorem written_nil (id : CommandId) : written [] id = [] := rfl

@[simp]
theorem sends_singleton (happening : Happening) : sends [happening] = happening.send?.toList := by
  cases happening <;> rfl

@[simp]
theorem written_singleton (happening : Happening) (id : CommandId) :
    written [happening] id = happening.bytesFor id :=
  List.append_nil _

/-- The replies to be matched are the frames of the two kinds that answer a command. -/
theorem replies_slotActions (log : List Happening) :
    replies (slotActions log) = (framesIn log).filter fun frame => frame.kind.isReply := by
  rw [replies, slotActions, framesIn, List.filterMap_filterMap, List.filter_filterMap]
  congr 1
  funext happening
  cases happening with
  | routed frame =>
    by_cases hreply : frame.kind.isReply <;>
      simp [Happening.slotAction?, Happening.frame?, SlotAction.reply?, Option.filter, hreply]
  | _ => rfl

theorem newIds_slotActions (log : List Happening) :
    newIds (slotActions log) = (sends log).map Send.id := by
  rw [newIds, slotActions, sends, List.filterMap_filterMap, List.map_filterMap]
  congr 1
  funext happening
  cases happening with
  | routed frame =>
    by_cases hreply : frame.kind.isReply <;> simp [Happening.slotAction?, hreply] <;> rfl
  | _ => rfl

end EventSocket
