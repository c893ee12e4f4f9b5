import EventSocket.Proofs.Session.Moves
import EventSocket.Session.Connection

/-!
The moves of a connection, in any order: the opening of a session turn by turn, then the session's
own moves, and whatever the network does meanwhile. A run keeps a log of what is heard and written
during the opening, of what happens in the session, and of the states that are published.
-/

namespace EventSocket

/-- `network` replaces the transport of an opening by any other on which the same has been sent. -/
inductive ConnectionMove where
  | start
  | linked (link : Link)
  | turn (now most : Nat)
  | abandon
  | network (transport : Transport)
  | session (move : Move)

/-- `heard` is for bytes that the decoder takes in during the opening, `took` for a frame that it
gives back. -/
inductive Occurrence where
  | heard (bytes : ByteArray)
  | took (frame : Frame)
  | wrote (bytes : ByteArray)
  | within (happening : Happening)
  | published (state : SessionState)
  deriving DecidableEq

namespace Occurrence

def happening? : Occurrence → Option Happening
  | within happening => some happening
  | _ => none

@[simp]
def frame? : Occurrence → Option Frame
  | took frame => some frame
  | _ => none

def state? : Occurrence → Option SessionState
  | published state => some state
  | _ => none

@[simp]
def heardBytes : Occurrence → List UInt8
  | heard bytes => octets bytes
  | _ => []

@[simp]
def wroteBytes : Occurrence → List UInt8
  | wrote bytes => octets bytes
  | _ => []

end Occurrence

def happeningsIn (log : List Occurrence) : List Happening := log.filterMap Occurrence.happening?

def tookFrames (log : List Occurrence) : List Frame := log.filterMap Occurrence.frame?

def heardBytes (log : List Occurrence) : List UInt8 := log.flatMap Occurrence.heardBytes

def wroteBytes (log : List Occurrence) : List UInt8 := log.flatMap Occurrence.wroteBytes

/-- The states that have been published, the one before any of them included. -/
def statesIn (log : List Occurrence) : List SessionState :=
  .disconnected :: log.filterMap Occurrence.state?

def Opening.awaitOccurrences (attempt : Opening) (most : Nat) : List Occurrence :=
  match attempt.decoder.next with
  | (.ok (some frame), _) => [.took frame]
  | (.ok none, decoder) =>
    match (attempt.transport.read most).1 with
    | .read bytes =>
      match decoder.feed bytes with
      | .ok _ => [.heard bytes]
      | .error _ => []
    | _ => []
  | (.error _, _) => []

def Opening.occurrences (attempt : Opening) (most : Nat) : List Occurrence :=
  match attempt.phase with
  | .dialing => []
  | .greeting | .replying => attempt.awaitOccurrences most
  | .sending rest =>
    match (attempt.transport.write (rest.extract 0 most)).1 with
    | .written => [.wrote (rest.extract 0 most)]
    | _ => []

namespace Connection

/-- What an opening has become by a turn. -/
def afterTurn (attempt : Opening) : OpeningTurn → Connection
  | .waiting => opening attempt
  | .goesOn attempt => opening attempt
  | .ready attempt channelData => live (attempt.session channelData)
  | .fails fault => failed attempt.transport.drop fault

def perform (plan : OpeningPlan) (began : Nat) (connection : Connection) :
    ConnectionMove → Option Connection
  | .start =>
    match connection with
    | idle _ => some (connection.start plan began)
    | _ => none
  | .linked link =>
    match connection with
    | opening attempt =>
      if attempt.phase = .dialing ∧ attempt.link = .pending then
        some (opening { attempt with link })
      else none
    | _ => none
  | .turn now most =>
    match connection with
    | opening attempt => some (afterTurn attempt (attempt.turn now most))
    | _ => none
  | .abandon =>
    match connection with
    | idle _ | opening _ => some connection.abandon
    | _ => none
  | .network transport =>
    match connection with
    | opening attempt =>
      if transport.sent = attempt.transport.sent then some (opening { attempt with transport })
      else none
    | _ => none
  | .session move =>
    match connection with
    | live session => (session.perform move).map live
    | _ => none

def occurrences (connection : Connection) : ConnectionMove → List Occurrence
  | .turn _ most =>
    match connection with
    | opening attempt => attempt.occurrences most
    | _ => []
  | .session move =>
    match connection with
    | live session => (session.happenings move).map .within
    | _ => []
  | .start | .linked _ | .abandon | .network _ => []

/-- The ways in which a move can be made. -/
inductive Moves (plan : OpeningPlan) (began : Nat) : Connection → ConnectionMove → Connection → Prop
  | start (transport : Transport) :
      Moves plan began (idle transport) .start (opening (.start plan began transport))
  | linked {attempt : Opening} (link : Link) (hphase : attempt.phase = .dialing)
      (hpending : attempt.link = .pending) :
      Moves plan began (opening attempt) (.linked link) (opening { attempt with link })
  | turn (attempt : Opening) (now most : Nat) :
      Moves plan began (opening attempt) (.turn now most)
        (afterTurn attempt (attempt.turn now most))
  | leave (transport : Transport) :
      Moves plan began (idle transport) .abandon (abandoned transport.drop .disconnected)
  | abandon (attempt : Opening) :
      Moves plan began (opening attempt) .abandon
        (abandoned attempt.transport.drop attempt.state)
  | network {attempt : Opening} {transport : Transport}
      (hsent : transport.sent = attempt.transport.sent) :
      Moves plan began (opening attempt) (.network transport) (opening { attempt with transport })
  | session {session session' : Session} {move : Move}
      (hmove : session.perform move = some session') :
      Moves plan began (live session) (.session move) (live session')

theorem moves_of_perform {plan : OpeningPlan} {began : Nat} {connection connection' : Connection}
    {move : ConnectionMove} (h : connection.perform plan began move = some connection') :
    Moves plan began connection move connection' := by
  cases move with
  | start =>
    cases connection <;> cases h
    exact .start _
  | linked link =>
    cases connection <;> simp only [perform] at h <;> try cases h
    split at h
    · next hdialing =>
      obtain rfl := Option.some.inj h
      exact .linked link hdialing.1 hdialing.2
    · cases h
  | turn now most =>
    cases connection <;> cases h
    exact .turn _ now most
  | abandon =>
    cases connection <;> cases h
    · exact .leave _
    · exact .abandon _
  | network transport =>
    cases connection <;> simp only [perform] at h <;> try cases h
    split at h
    · next hsent =>
      obtain rfl := Option.some.inj h
      exact .network hsent
    · cases h
  | session move =>
    cases connection <;> simp only [perform] at h <;> try cases h
    obtain ⟨session', hmove, rfl⟩ := Option.map_eq_some_iff.mp h
    exact .session hmove

/-- A state is published when it is another than before. -/
def publication (connection connection' : Connection) : List Occurrence :=
  if connection'.state = connection.state then [] else [.published connection'.state]

end Connection

def ConnectionMove.Fresh (log : List Occurrence) : ConnectionMove → Prop
  | .session move => move.Fresh (happeningsIn log)
  | _ => True

instance (log : List Occurrence) (move : ConnectionMove) : Decidable (move.Fresh log) :=
  match move with
  | .session move => inferInstanceAs (Decidable (move.Fresh (happeningsIn log)))
  | .start | .linked _ | .turn .. | .abandon | .network _ => inferInstanceAs (Decidable True)

/-- The connection and the log that any number of moves lead to, in any order, from a transport on
which an opening by the plan begins at the given time. -/
inductive Connection.Run (plan : OpeningPlan) (began : Nat) (start : Transport) :
    List Occurrence → Connection → Prop
  | start : Run plan began start [] (.idle start)
  | step {log : List Occurrence} {connection connection' : Connection}
      (run : Run plan began start log connection) (move : ConnectionMove) (hfresh : move.Fresh log)
      (hmove : connection.perform plan began move = some connection') :
      Run plan began start
        (log ++ (connection.occurrences move ++ connection.publication connection')) connection'

/-- Makes the given moves, if all of them can be made. -/
def Connection.follow (plan : OpeningPlan) (began : Nat) (log : List Occurrence)
    (connection : Connection) : List ConnectionMove → Option (List Occurrence × Connection)
  | [] => some (log, connection)
  | move :: moves =>
    if move.Fresh log then
      (connection.perform plan began move).bind fun connection' =>
        connection'.follow plan began
          (log ++ (connection.occurrences move ++ connection.publication connection')) moves
    else none

theorem Connection.Run.follow {plan : OpeningPlan} {began : Nat} {start : Transport}
    {connection connection' : Connection} {log log' : List Occurrence}
    (run : Run plan began start log connection) {moves : List ConnectionMove}
    (h : connection.follow plan began log moves = some (log', connection')) :
    Run plan began start log' connection' := by
  induction moves generalizing log connection with
  | nil =>
    cases h
    exact run
  | cons move moves ih =>
    rw [Connection.follow] at h
    split at h
    · next hfresh =>
      obtain ⟨between, hmove, hrest⟩ := Option.bind_eq_some_iff.mp h
      exact ih (run.step move hfresh hmove) hrest
    · cases h

@[simp]
theorem happeningsIn_append (log more : List Occurrence) :
    happeningsIn (log ++ more) = happeningsIn log ++ happeningsIn more :=
  List.filterMap_append

@[simp]
theorem tookFrames_append (log more : List Occurrence) :
    tookFrames (log ++ more) = tookFrames log ++ tookFrames more :=
  List.filterMap_append

@[simp]
theorem heardBytes_append (log more : List Occurrence) :
    heardBytes (log ++ more) = heardBytes log ++ heardBytes more :=
  List.flatMap_append

@[simp]
theorem wroteBytes_append (log more : List Occurrence) :
    wroteBytes (log ++ more) = wroteBytes log ++ wroteBytes more :=
  List.flatMap_append

@[simp]
theorem tookFrames_singleton (occurrence : Occurrence) :
    tookFrames [occurrence] = occurrence.frame?.toList := by
  cases occurrence <;> rfl

@[simp]
theorem heardBytes_singleton (occurrence : Occurrence) :
    heardBytes [occurrence] = occurrence.heardBytes :=
  List.append_nil _

@[simp]
theorem wroteBytes_singleton (occurrence : Occurrence) :
    wroteBytes [occurrence] = occurrence.wroteBytes :=
  List.append_nil _

@[simp]
theorem tookFrames_within (happenings : List Happening) :
    tookFrames (happenings.map .within) = [] := by
  simp [tookFrames]

@[simp]
theorem heardBytes_within (happenings : List Happening) :
    heardBytes (happenings.map .within) = [] := by
  simp [heardBytes, List.flatMap_map]

@[simp]
theorem wroteBytes_within (happenings : List Happening) :
    wroteBytes (happenings.map .within) = [] := by
  simp [wroteBytes, List.flatMap_map]

namespace Connection

variable {connection connection' : Connection}

theorem mem_publication {occurrence : Occurrence} :
    occurrence ∈ connection.publication connection' ↔
      connection'.state ≠ connection.state ∧ occurrence = .published connection'.state := by
  unfold publication
  split <;> simp_all

theorem not_published_occurrences (connection : Connection) (move : ConnectionMove)
    (state : SessionState) : .published state ∉ connection.occurrences move := by
  unfold occurrences Opening.occurrences Opening.awaitOccurrences
  repeat' split
  all_goals simp

theorem published_mem_step {log : List Occurrence} {move : ConnectionMove} {state : SessionState} :
    .published state ∈ log ++ (connection.occurrences move ++ connection.publication connection') ↔
      .published state ∈ log ∨
        connection'.state ≠ connection.state ∧ connection'.state = state := by
  have hnone := not_published_occurrences connection move state
  simp [mem_publication, hnone, eq_comm]

@[simp]
theorem tookFrames_publication : tookFrames (connection.publication connection') = [] := by
  unfold publication
  split <;> rfl

@[simp]
theorem heardBytes_publication : heardBytes (connection.publication connection') = [] := by
  unfold publication
  split <;> rfl

@[simp]
theorem wroteBytes_publication : wroteBytes (connection.publication connection') = [] := by
  unfold publication
  split <;> rfl

end Connection

end EventSocket
