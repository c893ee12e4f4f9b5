import EventSocket.Proofs.Session.Effects

/-!
What holds of a session after any run: callers, commands and bytes on the wire fit together. The
caller that writes is at the front of the line and its command is the last that has lined up, which
is why the order of the replies is the order on the wire.
-/

namespace EventSocket

/-- The response that a reply to the command makes. -/
def Send.response (send : Send) (frame : Frame) : Response :=
  ⟨(send.request.command?.map Command.summary).getD "", send.id, frame⟩

/-- Nothing more will be written for the command. -/
def Send.Finished (log : List Happening) (send : Send) : Prop :=
  octets send.wire = written log send.id ∨ .failed send.id ∈ log ∨ .cutOff send.id ∈ log

namespace Session

variable {start session session' : Session} {log happened : List Happening} {caller other : Caller}
  {phase : CallerPhase} {number : Nat}

/-- The caller has put nothing on the wire. -/
def Silent (log : List Happening) (number : Nat) : Prop :=
  ∀ send ∈ sends log, send.number ≠ number

/-- Only a request to close is left before its caller is told, and only once it has been settled. -/
def TakesLeave (log : List Happening) (session : Session) (number : Nat) : Prop :=
  ∀ send ∈ sends log, send.number = number →
    send.request = .close ∧ ∃ settlement, session.pending.settlement? send.id = some settlement

/-- What the caller has been told is what the reply to its command means, if there was one. -/
def Heard (log : List Happening) (session : Session) (number : Nat)
    (result : Except Fault Answer) : Prop :=
  ∀ send ∈ sends log, send.number = number → .failed send.id ∈ log ∨
    ∃ settlement, session.pending.settlement? send.id = some settlement ∧
      ∀ frame, settlement = .answered frame → result = send.request.answer (send.response frame)

/-- How far a caller is, and what has become of its command by then. -/
def Placed (log : List Happening) (session : Session) (caller : Caller) : Prop :=
  match caller.phase with
  | .queued _ wire => caller.request.Puts wire ∧ Silent log caller.number
  | .writing id rest =>
    session.writers.serves (.caller caller.number) ∧
      ∃ before wire, sends log = before ++ [⟨caller.number, caller.request, id, wire⟩] ∧
        octets wire = written log id ++ octets rest
  | .awaiting id => ∃ wire, ⟨caller.number, caller.request, id, wire⟩ ∈ sends log
  | .shutting _ | .lingering _ | .dropping => TakesLeave log session caller.number
  | .detaching | .watching => Silent log caller.number
  | .told result => Heard log session caller.number result

structure Numbered (log : List Happening) (session : Session) : Prop where
  callers : (session.callers.map Caller.number).Nodup
  called : ∀ caller ∈ session.callers, .called caller.number ∈ log
  senders : ((sends log).map Send.number).Nodup
  sendersCalled : ∀ send ∈ sends log, .called send.number ∈ log

structure Identified (log : List Happening) (session : Session) : Prop where
  ids : ((sends log).map Send.id).Nodup
  below : ∀ send ∈ sends log, send.id.value < session.nextId.value
  queued : ∀ caller ∈ session.callers, ∀ id wire, caller.phase = .queued id wire →
    id.value < session.nextId.value ∧ (∀ send ∈ sends log, send.id ≠ id) ∧
      ∀ other ∈ session.callers, ∀ wire', other.phase = .queued id wire' →
        other.number = caller.number

/-- The queue is what the log has made of an empty one. Every command of the log has lined up, and
those that could not be sent wait no longer. -/
structure Queue (log : List Happening) (session : Session) : Prop where
  pending : session.pending = Pending.empty.run (slotActions log)
  admitted : Pending.empty.admitted (slotActions log) = (sends log).map Send.id
  failed : ∀ id, .failed id ∈ log → id ∈ session.pending.settledIds

/-- The bytes sent are those of the commands that have lined up, in their order. -/
structure Wire (start : Session) (log : List Happening) (session : Session) : Prop where
  puts : ∀ send ∈ sends log, send.request.Puts send.wire
  unwritten : ∀ id, (∀ send ∈ sends log, send.id ≠ id) → written log id = []
  sent : octets session.transport.sent =
    octets start.transport.sent ++ (sends log).flatMap fun send => written log send.id
  finished : ∀ send ∈ sends log, send.Finished log ∨
    ∃ caller ∈ session.callers, ∃ rest, caller.phase = .writing send.id rest

structure Coherent (start : Session) (log : List Happening) (session : Session) : Prop where
  numbered : Numbered log session
  identified : Identified log session
  queue : Queue log session
  wire : Wire start log session
  placed : ∀ caller ∈ session.callers, session.Placed log caller

theorem coherent_start (hcallers : start.callers = []) (hpending : start.pending = .empty) :
    Coherent start [] start where
  numbered := by constructor <;> simp [hcallers]
  identified := by constructor <;> simp [hcallers]
  queue := ⟨hpending, rfl, by simp⟩
  wire := by constructor <;> simp
  placed := by simp [hcallers]

theorem mem_sends_old {send : Send} (hsends : Silent happened number)
    (hsend : send ∈ sends (log ++ happened)) (hnumber : send.number = number) :
    send ∈ sends log := by
  rw [sends_append, List.mem_append] at hsend
  exact hsend.resolve_right fun hnew => hsends send hnew hnumber

theorem Silent.append (h : Silent log number) (hsends : Silent happened number) :
    Silent (log ++ happened) number := by
  intro send hsend hnumber
  exact h send (mem_sends_old hsends hsend hnumber) hnumber

theorem settlement?_kept (hpending : session'.pending = session.pending.run (slotActions happened))
    {id : CommandId} {settlement : Settlement}
    (h : session.pending.settlement? id = some settlement) :
    session'.pending.settlement? id = some settlement := by
  rw [hpending]
  exact Pending.settlement?_run h _

theorem TakesLeave.append (h : session.TakesLeave log number) (hsends : Silent happened number)
    (hpending : session'.pending = session.pending.run (slotActions happened)) :
    session'.TakesLeave (log ++ happened) number := by
  intro send hsend hnumber
  obtain ⟨hclose, settlement, hsettled⟩ := h send (mem_sends_old hsends hsend hnumber) hnumber
  exact ⟨hclose, settlement, settlement?_kept hpending hsettled⟩

theorem Heard.append {result : Except Fault Answer} (h : session.Heard log number result)
    (hsends : Silent happened number)
    (hpending : session'.pending = session.pending.run (slotActions happened)) :
    session'.Heard (log ++ happened) number result := by
  intro send hsend hnumber
  rcases h send (mem_sends_old hsends hsend hnumber) hnumber with
    hfailed | ⟨settlement, hsettled, hresult⟩
  · exact Or.inl (List.mem_append_left _ hfailed)
  · exact Or.inr ⟨settlement, settlement?_kept hpending hsettled, hresult⟩

theorem Placed.append (h : session.Placed log caller) (hsends : Silent happened caller.number)
    (hwriting : ∀ id rest, caller.phase = .writing id rest →
      sends happened = [] ∧ ∀ id, written happened id = [])
    (hpending : session'.pending = session.pending.run (slotActions happened))
    (hline : session.writers.serves (.caller caller.number) →
      session'.writers.serves (.caller caller.number)) :
    session'.Placed (log ++ happened) caller := by
  cases hphase : caller.phase with
  | queued id wire =>
    simp only [Placed, hphase] at h ⊢
    exact ⟨h.1, h.2.append hsends⟩
  | writing id rest =>
    simp only [Placed, hphase] at h ⊢
    obtain ⟨hserves, before, wire, hlast, hrest⟩ := h
    obtain ⟨hnosends, hnothing⟩ := hwriting id rest hphase
    refine ⟨hline hserves, before, wire, ?_, ?_⟩
    · rw [sends_append, hnosends, List.append_nil, hlast]
    · rw [written_append, hnothing, List.append_nil, hrest]
  | awaiting id =>
    simp only [Placed, hphase] at h ⊢
    obtain ⟨wire, hsend⟩ := h
    exact ⟨wire, by rw [sends_append]; exact List.mem_append_left _ hsend⟩
  | shutting deadline =>
    simp only [Placed, hphase] at h ⊢
    exact h.append hsends hpending
  | lingering deadline =>
    simp only [Placed, hphase] at h ⊢
    exact h.append hsends hpending
  | dropping =>
    simp only [Placed, hphase] at h ⊢
    exact h.append hsends hpending
  | detaching =>
    simp only [Placed, hphase] at h ⊢
    exact h.append hsends
  | watching =>
    simp only [Placed, hphase] at h ⊢
    exact h.append hsends
  | told result =>
    simp only [Placed, hphase] at h ⊢
    exact h.append hsends hpending

theorem Placed.not_writing (h : session.Placed log caller) (hne : caller.number ≠ number)
    (hserves : session.writers.serves (.caller number)) (id : CommandId) (rest : ByteArray) :
    caller.phase ≠ .writing id rest := by
  intro hphase
  simp only [Placed, hphase] at h
  exact hne (Writer.caller.inj (Line.serves_unique hserves h.1))

theorem Placed.unsent (h : session.Placed log caller) (hphase : caller.phase.Unsent) :
    Silent log caller.number := by
  cases hwhere : caller.phase with
  | queued id wire =>
    simp only [Placed, hwhere] at h
    exact h.2
  | detaching => simpa only [Placed, hwhere] using h
  | watching => simpa only [Placed, hwhere] using h
  | _ => simp [hwhere, CallerPhase.Unsent] at hphase

theorem Placed.leaving (h : session.Placed log caller) (hphase : caller.phase.Leaving) :
    session.TakesLeave log caller.number := by
  cases hwhere : caller.phase with
  | shutting deadline => simpa only [Placed, hwhere] using h
  | lingering deadline => simpa only [Placed, hwhere] using h
  | dropping => simpa only [Placed, hwhere] using h
  | _ => simp [hwhere, CallerPhase.Leaving] at hphase

theorem placed_leaving (h : session.TakesLeave log caller.number) (hphase : phase.Leaving) :
    session.Placed log { caller with phase } := by
  cases phase with
  | shutting deadline => exact h
  | lingering deadline => exact h
  | dropping => exact h
  | _ => cases hphase

theorem send_unique (hnumbers : ((sends log).map Send.number).Nodup) {send send' : Send}
    (hsend : send ∈ sends log) (hsend' : send' ∈ sends log) (hnumber : send'.number = send.number) :
    send' = send :=
  List.inj_on_of_nodup_map hnumbers hsend' hsend hnumber

theorem Rests.placed (hrests : session.Rests caller phase) (h : session.Placed log caller)
    (hnumbers : ((sends log).map Send.number).Nodup)
    (hpending : session'.pending = session.pending) :
    session'.Placed log { caller with phase } := by
  cases hrests with
  | refused hphase result =>
    intro send hsend hnumber
    exact absurd hnumber (h.unsent hphase send hsend)
  | refusedLeave hphase hclose hleaving =>
    refine placed_leaving ?_ hleaving
    intro send hsend hnumber
    exact absurd hnumber (h.unsent hphase send hsend)
  | @hears id settlement hphase hsettled =>
    simp only [Placed, hphase] at h
    obtain ⟨wire, hown⟩ := h
    intro send hsend hnumber
    obtain rfl := send_unique hnumbers hown hsend hnumber
    refine Or.inr ⟨settlement, by rw [hpending]; exact hsettled, ?_⟩
    rintro frame rfl
    rfl
  | @hearsLeave id settlement _ hphase hsettled hclose hleaving =>
    simp only [Placed, hphase] at h
    obtain ⟨wire, hown⟩ := h
    refine placed_leaving ?_ hleaving
    intro send hsend hnumber
    obtain rfl := send_unique hnumbers hown hsend hnumber
    exact ⟨hclose, settlement, by rw [hpending]; exact hsettled⟩
  | leaves hphase hleaving =>
    refine placed_leaving ?_ hleaving
    intro send hsend hnumber
    rw [hpending]
    exact h.leaving hphase send hsend hnumber
  | ends hphase =>
    intro send hsend hnumber
    obtain ⟨hclose, settlement, hsettled⟩ := h.leaving hphase send hsend hnumber
    refine Or.inr ⟨settlement, by rw [hpending]; exact hsettled, ?_⟩
    intro frame _
    rw [hclose]
    rfl

theorem Rests.not_writing (h : session.Rests caller phase) (id : CommandId) (rest : ByteArray) :
    caller.phase ≠ .writing id rest := by
  intro hwriting
  cases h <;> simp_all [CallerPhase.Unsent, CallerPhase.Leaving]

theorem Rests.not_queued (h : session.Rests caller phase) (id : CommandId) (wire : ByteArray) :
    phase ≠ .queued id wire := by
  rintro rfl
  cases h <;> simp_all [CallerPhase.Leaving]

theorem Turned.numbers (h : session.Turned caller phase session') :
    session'.callers.map Caller.number = session.callers.map Caller.number := by
  rw [h.callers, setPhase, List.map_map]
  refine List.map_congr_left ?_
  intro other _
  by_cases hsame : other.number = caller.number <;> simp [hsame]

theorem Turned.mem (h : session.Turned caller phase session')
    (hnumbers : (session.callers.map Caller.number).Nodup) (hcaller : caller ∈ session.callers)
    (hother : other ∈ session'.callers) :
    (other ∈ session.callers ∧ other.number ≠ caller.number) ∨ other = { caller with phase } := by
  rw [h.callers, setPhase, List.mem_map] at hother
  obtain ⟨before, hbefore, hafter⟩ := hother
  by_cases hsame : before.number = caller.number
  · obtain rfl := List.inj_on_of_nodup_map hnumbers hbefore hcaller hsame
    rw [if_pos rfl] at hafter
    exact Or.inr hafter.symm
  · rw [if_neg hsame] at hafter
    subst hafter
    exact Or.inl ⟨hbefore, hsame⟩

theorem Turned.mem_of_mem (h : session.Turned caller phase session')
    (hother : other ∈ session.callers) (hne : other.number ≠ caller.number) :
    other ∈ session'.callers := by
  rw [h.callers, setPhase, List.mem_map]
  exact ⟨other, hother, if_neg hne⟩

theorem Turned.self_mem (h : session.Turned caller phase session')
    (hcaller : caller ∈ session.callers) : { caller with phase } ∈ session'.callers := by
  rw [h.callers, setPhase, List.mem_map]
  exact ⟨caller, hcaller, if_pos rfl⟩

end Session

end EventSocket
