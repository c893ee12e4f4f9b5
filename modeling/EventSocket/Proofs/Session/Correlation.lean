import EventSocket.Proofs.Session.Settlement

/-!
Replies carry no mark of the command they answer. Commands line up for their replies in the order in
which they are written, so that the oldest of them is the one that the next reply is for.
-/

namespace EventSocket

def Pending.isAnswered (pending : Pending) (id : CommandId) : Bool :=
  match pending.settlement? id with
  | some (.answered _) => true
  | _ => false

/-- The replies that have come, in order. -/
def repliesIn (log : List Happening) : List Frame :=
  (framesIn log).filter fun frame => frame.kind.isReply

namespace Session

variable {start session session' : Session} {log : List Happening} {opening : Opening}
  {channelData : Option Event} {caller : Caller} {send : Send} {frame : Frame} {decoder : Decoder}

/-- As long as the queue has not been drained, a command that does not wait any more has failed or
has been answered. -/
theorem Coherent.settled_iff (h : Coherent start log session) (hopen : .drained ∉ log)
    (hsend : send ∈ sends log) :
    send.id ∈ session.pending.settledIds ↔
      .failed send.id ∈ log ∨ session.pending.isAnswered send.id = true := by
  have hadmitted : send.id ∈ Pending.empty.admitted (slotActions log) := by
    rw [h.queue.admitted]
    exact List.mem_map_of_mem hsend
  constructor
  · intro hsettled
    rcases Pending.settlesOnce_of_admitted h.distinct hadmitted with
      ⟨-, hnone, -⟩ | ⟨-, place, settlement, ⟨action, haction, hdeparts⟩, hgot, -⟩
    · rw [← h.queue.pending] at hnone
      exact absurd hsettled (Pending.settlement?_eq_none.1 hnone)
    · rw [← h.queue.pending] at hgot
      have hmem := List.mem_of_getElem? haction
      cases hdeparts with
      | answered hfront => exact Or.inr (by simp [Pending.isAnswered, hgot])
      | withdrawn hwaits => exact Or.inl (withdraw_mem_slotActions.1 hmem)
      | drained hwaits => exact absurd (failAll_mem_slotActions.1 hmem) hopen
  · rintro (hfailed | hanswered)
    · exact h.queue.failed _ hfailed
    · by_contra hunsettled
      rw [Pending.isAnswered, Pending.settlement?_eq_none.2 hunsettled] at hanswered
      cases hanswered

theorem Coherent.waiting_eq (h : Coherent start log session) (hopen : .drained ∉ log) :
    session.pending.waiting = ((sends log).map Send.id).filter fun id =>
      .failed id ∉ log ∧ ¬ session.pending.isAnswered id := by
  have hwaiting := Pending.waiting_run h.distinct
  rw [← h.queue.pending, h.queue.admitted] at hwaiting
  rw [hwaiting]
  refine List.filter_congr ?_
  intro id hid
  obtain ⟨send, hsend, rfl⟩ := List.mem_map.1 hid
  rw [decide_eq_decide, h.settled_iff hopen hsend, not_or]

theorem readerTurn_of_frame (hreader : session.reader = .running)
    (hnext : session.decoder.next = (.ok (some frame), decoder)) (now most : Nat) :
    session.readerTurn now most = some ({ session with decoder }.route now frame) := by
  simp [readerTurn, hreader, hnext]

/-- What the caller of a command has of the reply to it: it will hear it, or it has been told what
it means. Leave-taking goes on after any reply. -/
def Gets (session : Session) (caller : Caller) (send : Send) (frame : Frame) : Prop :=
  match caller.phase with
  | .awaiting id =>
    id = send.id ∧ caller.request = send.request ∧
      session.Hears caller (.ok (send.response frame)) session
  | .told result => result = send.request.answer (send.response frame)
  | .writing id _ => id = send.id
  | .shutting _ | .lingering _ | .dropping => send.request = .close
  | .queued _ _ | .detaching | .watching => False

/-- The command is the last that has lined up, and its caller is at the front of the line and has
the rest of it still to write. -/
def StillWriting (log : List Happening) (session : Session) (send : Send) : Prop :=
  ∃ before caller rest, sends log = before ++ [send] ∧ caller ∈ session.callers ∧
    caller.number = send.number ∧ caller.phase = .writing send.id rest ∧
    session.writers.serves (.caller send.number) ∧
    octets send.wire = written log send.id ++ octets rest

/-- How commands, bytes and replies belong together. -/
structure Correlated (start : Session) (log : List Happening) (session : Session) : Prop where
  /-- The bytes on the wire are those of the commands that have lined up, one after another. -/
  wire : octets session.transport.sent =
    octets start.transport.sent ++ (sends log).flatMap fun send => written log send.id
  whole : ∀ send ∈ sends log, send.request.Puts send.wire ∧
    (send.Finished log ∨ session.StillWriting log send)
  /-- Those wait, in the order of the wire, that have neither failed nor been answered. -/
  queue : .drained ∉ log → session.pending.waiting = ((sends log).map Send.id).filter fun id =>
    .failed id ∉ log ∧ ¬ session.pending.isAnswered id
  /-- A reply goes to the one that has waited longest, and no other frame goes to any. -/
  oldest : ∀ now most frame decoder, session.reader = .running →
    session.decoder.next = (.ok (some frame), decoder) →
      ∃ session', session.readerTurn now most = some session' ∧
        (frame.kind.isReply = false → session'.pending = session.pending) ∧
        (frame.kind.isReply = true → ∀ id behind, session.pending.waiting = id :: behind →
          session'.pending.waiting = behind ∧ ∀ id' settlement,
            session'.pending.settlement? id' = some settlement ↔
              session.pending.settlement? id' = some settlement ∨
                id' = id ∧ settlement = .answered frame)
  /-- If nothing has failed and no reply has found the queue empty, the replies belong to the
  commands place by place. -/
  paired : (∀ id, .failed id ∉ log) → session.pending.desynced = false →
    ∀ (place : Nat) (frame : Frame), (repliesIn log)[place]? = some frame →
      ∃ send, (sends log)[place]? = some send ∧
        session.pending.settlement? send.id = some (.answered frame) ∧
        ∀ caller ∈ session.callers, caller.number = send.number → session.Gets caller send frame

theorem Coherent.whole (h : Coherent start log session) (hsend : send ∈ sends log) :
    send.Finished log ∨ session.StillWriting log send := by
  rcases h.wire.finished send hsend with hfinished | ⟨caller, hcaller, rest, hphase⟩
  · exact Or.inl hfinished
  · obtain ⟨hserves, before, wire, hown, hlast, hrest⟩ := h.writing hcaller hphase
    have hsame := List.inj_on_of_nodup_map h.identified.ids hsend hown rfl
    have hnumber : caller.number = send.number := by rw [hsame]
    have hwire : wire = send.wire := by rw [hsame]
    rw [← hsame] at hlast
    rw [hnumber] at hserves
    rw [hwire] at hrest
    exact Or.inr ⟨before, caller, rest, hlast, hcaller, hnumber, hphase, hserves, hrest⟩

theorem Coherent.oldest (h : Coherent start log session) (hreader : session.reader = .running)
    (hnext : session.decoder.next = (.ok (some frame), decoder)) (now most : Nat) :
    ∃ session', session.readerTurn now most = some session' ∧
      (frame.kind.isReply = false → session'.pending = session.pending) ∧
      (frame.kind.isReply = true → ∀ id behind, session.pending.waiting = id :: behind →
        session'.pending.waiting = behind ∧ ∀ id' settlement,
          session'.pending.settlement? id' = some settlement ↔
            session.pending.settlement? id' = some settlement ∨
              id' = id ∧ settlement = .answered frame) := by
  have hpending := pending_route { session with decoder } now frame
  refine ⟨_, readerTurn_of_frame hreader hnext now most, ?_, ?_⟩
  · intro hkind
    rw [hpending]
    simp [slotActions, Happening.slotAction?, hkind]
  · intro hkind id behind hfront
    have hresolve : (({ session with decoder } : Session).route now frame).pending =
        session.pending.resolve frame := by
      rw [hpending]
      simp [slotActions, Happening.slotAction?, hkind, Pending.perform]
    have hdistinct := Pending.distinct_run h.distinct
    rw [← h.queue.pending] at hdistinct
    have hunsettled : id ∉ session.pending.settledIds :=
      hdistinct.not_settled (by simp [hfront])
    rw [hresolve]
    refine ⟨by simp [Pending.resolve, hfront], ?_⟩
    intro id' settlement
    exact Pending.settlement?_resolve hfront hunsettled

theorem Coherent.gets (h : Coherent start log session) (hfailed : ∀ id, .failed id ∉ log)
    (hsend : send ∈ sends log) (hanswered : session.pending.settlement? send.id =
      some (.answered frame)) (hcaller : caller ∈ session.callers)
    (hnumber : caller.number = send.number) : session.Gets caller send frame := by
  have hplaced := h.placed caller hcaller
  cases hphase : caller.phase with
  | queued id wire =>
    simp only [Placed, hphase] at hplaced
    exact absurd hnumber.symm (hplaced.2 send hsend)
  | writing id rest =>
    obtain ⟨-, -, wire, hown, -⟩ := h.writing hcaller hphase
    obtain rfl := send_unique h.numbered.senders hown hsend hnumber.symm
    simp only [Gets, hphase]
  | awaiting id =>
    simp only [Placed, hphase] at hplaced
    obtain ⟨wire, hown⟩ := hplaced
    obtain rfl := send_unique h.numbered.senders hown hsend hnumber.symm
    simp only [Gets, hphase]
    exact ⟨trivial, trivial, hears_awaiting hcaller hphase hanswered⟩
  | shutting deadline =>
    simp only [Placed, hphase] at hplaced
    simp only [Gets, hphase]
    exact (hplaced send hsend hnumber.symm).1
  | lingering deadline =>
    simp only [Placed, hphase] at hplaced
    simp only [Gets, hphase]
    exact (hplaced send hsend hnumber.symm).1
  | dropping =>
    simp only [Placed, hphase] at hplaced
    simp only [Gets, hphase]
    exact (hplaced send hsend hnumber.symm).1
  | detaching =>
    simp only [Placed, hphase] at hplaced
    exact absurd hnumber.symm (hplaced send hsend)
  | watching =>
    simp only [Placed, hphase] at hplaced
    exact absurd hnumber.symm (hplaced send hsend)
  | told result =>
    simp only [Placed, hphase] at hplaced
    simp only [Gets, hphase]
    rcases hplaced send hsend hnumber.symm with hfail | ⟨settlement, hsettled, hresult⟩
    · exact absurd hfail (hfailed send.id)
    · rw [hanswered] at hsettled
      exact hresult frame (Option.some.inj hsettled).symm

theorem Coherent.paired (h : Coherent start log session) (hfailed : ∀ id, .failed id ∉ log)
    (hsync : session.pending.desynced = false) {place : Nat}
    (hreply : (repliesIn log)[place]? = some frame) :
    ∃ send, (sends log)[place]? = some send ∧
      session.pending.settlement? send.id = some (.answered frame) ∧
      ∀ caller ∈ session.callers, caller.number = send.number → session.Gets caller send frame := by
  have hkept : Pending.Kept (slotActions log) := by
    intro id hmem
    exact hfailed id (withdraw_mem_slotActions.1 hmem)
  rw [repliesIn, ← replies_slotActions] at hreply
  rw [h.queue.pending] at hsync
  obtain ⟨id, hadmitted, hsettled⟩ := Pending.settlement?_of_reply h.distinct hkept hsync hreply
  rw [← h.queue.pending] at hsettled
  rw [h.queue.admitted, List.getElem?_map] at hadmitted
  obtain ⟨send, hsend, rfl⟩ := Option.map_eq_some_iff.1 hadmitted
  refine ⟨send, hsend, hsettled, ?_⟩
  intro caller hcaller hnumber
  exact h.gets hfailed (List.mem_of_getElem? hsend) hsettled hcaller hnumber

end Session

end EventSocket
