import EventSocket.Proofs.Session.Preservation
import EventSocket.Session.Opening

/-!
Every command that has lined up is settled once, whatever the callers, the reader and the network
do, and nobody is left waiting once the session has been torn down.
-/

namespace EventSocket.Session

variable {session session' : Session} {log : List Happening} {opening : Opening}
  {channelData : Option Event} {caller : Caller} {id : CommandId}

theorem coherent_session (run : (opening.session channelData).Run log session) :
    Coherent (opening.session channelData) log session :=
  run.coherent rfl rfl

theorem Coherent.settled_of_drained {start : Session} (h : Coherent start log session)
    {send : Send} (hsend : send ∈ sends log) (hwaiting : session.pending.waiting = []) :
    ∃ settlement, session.pending.settlement? send.id = some settlement := by
  have hsettled : send.id ∈ session.pending.settledIds := by
    rcases h.known hsend with hwaits | hsettled
    · simp [hwaiting] at hwaits
    · exact hsettled
  cases hfound : session.pending.settlement? send.id with
  | none => exact absurd hsettled (Pending.settlement?_eq_none.1 hfound)
  | some settlement => exact ⟨settlement, rfl⟩

theorem callerTurn_awaiting {settlement : Settlement} (hphase : caller.phase = .awaiting id)
    (hsettled : session.pending.settlement? id = some settlement) (now most : Nat) :
    session.callerTurn now most caller =
      some (session.takeReply now caller (response caller id settlement)) := by
  simp [callerTurn, hphase, hsettled]

theorem callerTurn_refused {wire : ByteArray} (hphase : caller.phase = .queued id wire)
    (hserves : session.writers.serves (.caller caller.number))
    (hclosed : session.pending.closed = true) (now most : Nat) :
    session.callerTurn now most caller =
      some ((session.leaveLine (.caller caller.number)).takeReply now caller
        (.error .connectionClosed)) := by
  simp [callerTurn, hphase, hserves, Pending.register, hclosed]

/-- The caller once it has heard what became of its command: it has been told what that means for
its request, or goes on to take leave, for which it has this deadline. -/
def hearing (caller : Caller) (deadline : Nat) (result : Except Fault Response) : Caller :=
  if caller.request = .close then { caller with phase := .shutting deadline }
  else { caller with phase := .told (result.bind caller.request.answer) }

theorem hearing_mem_takeReply {result : Except Fault Response} (hcaller : caller ∈ session.callers)
    (hresult : ∀ fault, result = .error fault → fault = .connectionClosed) (now : Nat) :
    hearing caller (now + session.patience) result ∈
      (session.takeReply now caller result).callers := by
  unfold hearing
  split
  · next hclose =>
    rw [takeReply_of_close session now hclose hresult]
    exact (turned_setPhase session caller _).self_mem hcaller
  · next hother =>
    rw [takeReply_of_ne session now hother result]
    exact (turned_setPhase session caller _).self_mem hcaller

/-- Whatever the time, by its next turn the caller hears this, outside the line: it is then among
the callers as one that has heard it. -/
def Hears (session : Session) (caller : Caller) (result : Except Fault Response)
    (outside : Session) : Prop :=
  ∀ now most,
    session.callerTurn now most caller = some (outside.takeReply now caller result) ∧
      hearing caller (now + session.patience) result ∈
        (outside.takeReply now caller result).callers

/-- Nobody waits for a reply any more: every command has been settled, its caller can take a turn
and hears of it, and who comes to the front of the line later is refused. -/
structure NobodyWaits (log : List Happening) (session : Session) : Prop where
  queue : session.pending.waiting = []
  settled : ∀ send ∈ sends log, ∃ settlement, session.pending.settlement? send.id = some settlement
  heard : ∀ caller ∈ session.callers, ∀ id, caller.phase = .awaiting id →
    ∃ settlement, session.pending.settlement? id = some settlement ∧
      session.Hears caller (response caller id settlement) session
  refused : ∀ caller ∈ session.callers, ∀ id wire, caller.phase = .queued id wire →
    session.writers.serves (.caller caller.number) →
      session.Hears caller (.error .connectionClosed)
        (session.leaveLine (.caller caller.number))

theorem hears_awaiting {settlement : Settlement} (hcaller : caller ∈ session.callers)
    (hphase : caller.phase = .awaiting id)
    (hsettled : session.pending.settlement? id = some settlement) :
    session.Hears caller (response caller id settlement) session := by
  intro now most
  refine ⟨callerTurn_awaiting hphase hsettled now most, ?_⟩
  exact hearing_mem_takeReply hcaller (fun _ => response_error) now

theorem Coherent.nobodyWaits {start : Session} (h : Coherent start log session)
    (hdrained : session.pending.Drained) : NobodyWaits log session where
  queue := hdrained.2
  settled := fun _ hsend => h.settled_of_drained hsend hdrained.2
  heard := by
    intro caller hcaller id hphase
    have hplaced := h.placed caller hcaller
    simp only [Placed, hphase] at hplaced
    obtain ⟨wire, hsend⟩ := hplaced
    obtain ⟨settlement, hsettled⟩ := h.settled_of_drained hsend hdrained.2
    exact ⟨settlement, hsettled, hears_awaiting hcaller hphase hsettled⟩
  refused := by
    intro caller hcaller id wire hphase hserves now most
    have houtside : caller ∈ (session.leaveLine (.caller caller.number)).callers := hcaller
    refine ⟨callerTurn_refused hphase hserves hdrained.1 now most, ?_⟩
    exact hearing_mem_takeReply houtside (fun _ hfault => (Except.error.inj hfault).symm) now

theorem withdraw_mem_slotActions {id : CommandId} :
    .withdraw id ∈ slotActions log ↔ .failed id ∈ log := by
  rw [slotActions, List.mem_filterMap]
  constructor
  · rintro ⟨happening, hmem, haction⟩
    cases happening with
    | failed other =>
      cases haction
      exact hmem
    | routed frame =>
      by_cases hreply : frame.kind.isReply <;> simp [Happening.slotAction?, hreply] at haction
    | _ => cases haction
  · intro hmem
    exact ⟨_, hmem, rfl⟩

theorem failAll_mem_slotActions : .failAll ∈ slotActions log ↔ .drained ∈ log := by
  rw [slotActions, List.mem_filterMap]
  constructor
  · rintro ⟨happening, hmem, haction⟩
    cases happening with
    | drained => exact hmem
    | routed frame =>
      by_cases hreply : frame.kind.isReply <;> simp [Happening.slotAction?, hreply] at haction
    | _ => cases haction
  · intro hmem
    exact ⟨_, hmem, rfl⟩

/-- From any session that can be reached, any further order of the four actions settles every
command that has ever lined up at most once, provided that new commands have new numbers. The own
history of the session is one of this kind, and after its teardown nobody waits. -/
theorem slots_settle_once (run : (opening.session channelData).Run log session)
    (more : List SlotAction) (hnew : (newIds more).Nodup)
    (hother : ∀ id ∈ newIds more, ∀ send ∈ sends log, send.id ≠ id) :
    session.pending.run more = Pending.empty.run (slotActions log ++ more) ∧
      Pending.Conserved (slotActions log ++ more) ∧ Pending.Conserved (slotActions log) ∧
      (.drained ∈ log → NobodyWaits log session) := by
  have h := coherent_session run
  have hids : (newIds (slotActions log)).Nodup := by
    rw [newIds_slotActions]
    exact h.identified.ids
  have hall : (newIds (slotActions log ++ more)).Nodup := by
    rw [newIds, List.filterMap_append, List.nodup_append]
    refine ⟨hids, hnew, ?_⟩
    intro old hold new hmem
    change old ∈ newIds (slotActions log) at hold
    rw [newIds_slotActions, List.mem_map] at hold
    obtain ⟨send, hsend, rfl⟩ := hold
    exact hother new hmem send hsend
  refine ⟨?_, Pending.conserved hall, Pending.conserved hids, ?_⟩
  · rw [h.queue.pending, Pending.run_append]
  · intro hdrained
    refine h.nobodyWaits ?_
    rw [h.queue.pending]
    exact Pending.drained_of_failAll _ (failAll_mem_slotActions.2 hdrained)

/-- A session over a stream that the switch has opened. -/
def outboundStart : Opening := .start ⟨.outbound, .stream, .standard, ⟨0⟩, .granted⟩ 0 .new

def goodReply : Frame :=
  .ofHeaders [(contentTypeName, "command/reply"), (replyTextName, okMark)] []

/-- Two callers, of which the second comes to the front once the first has written all it has, and a
reply that the switch then sends. -/
def twoCalls : List Move :=
  [.call 1 .noEvents, .call 2 .noLog, .caller 1 0 10, .caller 1 0 4, .caller 1 0 10, .caller 2 0 10,
    .network { Transport.new with
      received := "Content-Type: command/reply\nReply-Text: +OK\n\n".toUTF8,
      sent := "noevents\n\n".toUTF8 },
    .reader 0 1000, .reader 0 1000]

/-- The switch hangs up, and the reader does not wait for the caller that still writes. -/
def hangUp : List Move :=
  [.network { Transport.new with ended := true, sent := "noevents\n\n".toUTF8 }, .reader 0 1000,
    .reader 5000 1000, .reader 5000 1000]

theorem slots_settle_once_two_calls :
    ∃ log session, (outboundStart.session none).Run log session ∧
        slotActions log = [.register ⟨1⟩, .register ⟨2⟩, .resolve goodReply, .failAll] ∧
        (newIds [.register ⟨3⟩, .withdraw ⟨2⟩]).Nodup ∧
        (∀ id ∈ newIds [.register ⟨3⟩, .withdraw ⟨2⟩], ∀ send ∈ sends log, send.id ≠ id) ∧
        Pending.Conserved (slotActions log ++ [.register ⟨3⟩, .withdraw ⟨2⟩]) ∧
        NobodyWaits log session := by
  have hmoves : ((outboundStart.session none).follow [] (twoCalls ++ hangUp)).map (fun reached =>
        (slotActions reached.1, (sends reached.1).map Send.id)) =
      some ([.register ⟨1⟩, .register ⟨2⟩, .resolve goodReply, .failAll], [⟨1⟩, ⟨2⟩]) := by
    decide +kernel
  obtain ⟨⟨log, session⟩, hfollow, hreached⟩ := Option.map_eq_some_iff.1 hmoves
  obtain ⟨hslots, hsends⟩ := Prod.mk.inj hreached
  have run := Run.start.follow hfollow
  have hnew : (newIds [.register ⟨3⟩, .withdraw ⟨2⟩]).Nodup := by decide
  have hother : ∀ id ∈ newIds [.register ⟨3⟩, .withdraw ⟨2⟩], ∀ send ∈ sends log,
      send.id ≠ id := by
    intro id hid send hsend hsame
    have hold : send.id ∈ (sends log).map Send.id := List.mem_map_of_mem hsend
    rw [hsends, hsame] at hold
    clear hsame
    revert id
    decide
  obtain ⟨-, hall, -, hnobody⟩ := slots_settle_once run _ hnew hother
  have hdrained : .drained ∈ log := failAll_mem_slotActions.1 (by rw [hslots]; simp)
  exact ⟨log, session, run, hslots, hnew, hother, hall, hnobody hdrained⟩

end EventSocket.Session
