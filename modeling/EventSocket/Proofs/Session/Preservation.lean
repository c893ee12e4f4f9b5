import EventSocket.Proofs.Session.Coherence

/-!
Every move of a session preserves what holds of it.
-/

namespace EventSocket

variable {log happened : List Happening}

theorem Send.Finished.append {send : Send} (h : send.Finished log)
    (hwritten : written happened send.id = []) : send.Finished (log ++ happened) := by
  rcases h with hwhole | hfailed | hcut
  · refine Or.inl ?_
    rw [written_append, hwritten, List.append_nil, hwhole]
  · exact Or.inr (Or.inl (List.mem_append_left _ hfailed))
  · exact Or.inr (Or.inr (List.mem_append_left _ hcut))

namespace Session

variable {start session session' : Session} {caller other : Caller} {phase : CallerPhase}
  {number : Nat}

theorem Numbered.append (h : Numbered log session) (hsends : sends happened = [])
    (hnumbers : (session'.callers.map Caller.number).Sublist
      (session.callers.map Caller.number)) : Numbered (log ++ happened) session' where
  callers := h.callers.sublist hnumbers
  called := by
    intro caller hcaller
    obtain ⟨before, hbefore, hnumber⟩ := List.mem_map.1
      (hnumbers.subset (List.mem_map_of_mem hcaller))
    rw [← hnumber]
    exact List.mem_append_left _ (h.called before hbefore)
  senders := by
    rw [sends_append, hsends, List.append_nil]
    exact h.senders
  sendersCalled := by
    intro send hsend
    rw [sends_append, hsends, List.append_nil] at hsend
    exact List.mem_append_left _ (h.sendersCalled send hsend)

theorem Identified.append (h : Identified log session) (hsends : sends happened = [])
    (hnext : session'.nextId = session.nextId)
    (hqueued : ∀ caller ∈ session'.callers, ∀ id wire, caller.phase = .queued id wire →
      caller ∈ session.callers) : Identified (log ++ happened) session' where
  ids := by
    rw [sends_append, hsends, List.append_nil]
    exact h.ids
  below := by
    rw [sends_append, hsends, List.append_nil, hnext]
    exact h.below
  queued := by
    intro caller hcaller id wire hphase
    rw [sends_append, hsends, List.append_nil, hnext]
    obtain ⟨hbelow, hother, hunique⟩ :=
      h.queued caller (hqueued caller hcaller id wire hphase) id wire hphase
    refine ⟨hbelow, hother, ?_⟩
    intro other hmem wire' hphase'
    exact hunique other (hqueued other hmem id wire' hphase') wire' hphase'

theorem Queue.append (h : Queue log session)
    (hpending : session'.pending = session.pending.run (slotActions happened))
    (hadmitted : session.pending.admitted (slotActions happened) = (sends happened).map Send.id)
    (hfailed : ∀ id, .failed id ∈ happened → id ∈ session'.pending.settledIds) :
    Queue (log ++ happened) session' where
  pending := by rw [hpending, h.pending, slotActions_append, Pending.run_append]
  admitted := by
    rw [slotActions_append, Pending.admitted_append, h.admitted, ← h.pending, hadmitted,
      sends_append, List.map_append]
  failed := by
    intro id hmem
    rcases List.mem_append.1 hmem with hold | hnew
    · rw [hpending]
      exact Pending.settledIds_run (h.failed id hold) _
    · exact hfailed id hnew

theorem Wire.append (h : Wire start log session) (hsends : sends happened = [])
    (hwritten : ∀ id, written happened id = [])
    (hsent : session'.transport.sent = session.transport.sent)
    (hwriting : ∀ caller ∈ session.callers, ∀ id rest, caller.phase = .writing id rest →
      (.failed id ∈ happened ∨ .cutOff id ∈ happened) ∨ caller ∈ session'.callers) :
    Wire start (log ++ happened) session' where
  puts := by
    rw [sends_append, hsends, List.append_nil]
    exact h.puts
  unwritten := by
    intro id hid
    rw [sends_append, hsends, List.append_nil] at hid
    rw [written_append, hwritten, h.unwritten id hid, List.append_nil]
  sent := by
    simp only [sends_append, hsends, List.append_nil, hsent, written_append, hwritten]
    exact h.sent
  finished := by
    intro send hsend
    rw [sends_append, hsends, List.append_nil] at hsend
    rcases h.finished send hsend with hfinished | ⟨caller, hcaller, rest, hphase⟩
    · exact Or.inl (hfinished.append (hwritten send.id))
    · rcases hwriting caller hcaller send.id rest hphase with (hfailed | hcut) | hstill
      · exact Or.inl (Or.inr (Or.inl (List.mem_append_right _ hfailed)))
      · exact Or.inl (Or.inr (Or.inr (List.mem_append_right _ hcut)))
      · exact Or.inr ⟨caller, hstill, rest, hphase⟩

theorem admitted_of_no_sends (pending : Pending) (hsends : sends happened = []) :
    pending.admitted (slotActions happened) = (sends happened).map Send.id := by
  have hnone : newIds (slotActions happened) = [] := by
    rw [newIds_slotActions, hsends, List.map_nil]
  have hsublist := pending.admitted_sublist (slotActions happened)
  rw [hnone, List.sublist_nil] at hsublist
  rw [hsublist, hsends, List.map_nil]

/-- A move that leaves callers and wire alone. -/
theorem Coherent.undisturbed (h : Coherent start log session)
    (hquiet : session.Undisturbed session') (hsends : sends happened = [])
    (hwritten : ∀ id, written happened id = []) (hfailed : ∀ id, .failed id ∉ happened)
    (hpending : session'.pending = session.pending.run (slotActions happened)) :
    Coherent start (log ++ happened) session' where
  numbered := h.numbered.append hsends (by rw [hquiet.callers])
  identified := by
    refine h.identified.append hsends hquiet.nextId ?_
    intro caller hcaller id wire _
    exact hquiet.callers ▸ hcaller
  queue := h.queue.append hpending (admitted_of_no_sends _ hsends)
    fun id hmem => absurd hmem (hfailed id)
  wire := by
    refine h.wire.append hsends hwritten hquiet.sent ?_
    intro caller hcaller id rest _
    exact Or.inr (hquiet.callers ▸ hcaller)
  placed := by
    intro caller hcaller
    rw [hquiet.callers] at hcaller
    refine (h.placed caller hcaller).append ?_ ?_ hpending (hquiet.line caller.number)
    · simp [Silent, hsends]
    · intro _ _ _
      exact ⟨hsends, hwritten⟩

theorem caller?_of_mem (hnumbers : (session.callers.map Caller.number).Nodup)
    (hcaller : caller ∈ session.callers) : session.caller? caller.number = some caller := by
  cases hfound : session.caller? caller.number with
  | none =>
    have hnone := List.find?_eq_none.1 hfound caller hcaller
    simp at hnone
  | some other =>
    have hnumber : other.number = caller.number := by simpa using List.find?_some hfound
    rw [List.inj_on_of_nodup_map hnumbers (List.mem_of_find?_eq_some hfound) hcaller hnumber]

theorem mem_of_caller? (h : session.caller? number = some caller) :
    caller ∈ session.callers ∧ caller.number = number :=
  ⟨List.mem_of_find?_eq_some h, by simpa using List.find?_some h⟩

theorem abandonHappenings_quiet (session : Session) (number : Nat) :
    sends (session.abandonHappenings number) = [] ∧
      slotActions (session.abandonHappenings number) = [] ∧
      (∀ id, written (session.abandonHappenings number) id = []) ∧
      ∀ id, .failed id ∉ session.abandonHappenings number := by
  unfold abandonHappenings
  split
  · exact ⟨rfl, rfl, fun _ => rfl, fun _ => by simp⟩
  · exact ⟨rfl, rfl, fun _ => rfl, fun _ => by simp⟩

theorem Coherent.abandon (h : Coherent start log session) (number : Nat) :
    Coherent start (log ++ session.abandonHappenings number) (session.abandon number) := by
  have hsubset : (session.abandon number).callers.Sublist session.callers := List.filter_sublist
  obtain ⟨hsends, hslots, hwritten, hfailed⟩ := session.abandonHappenings_quiet number
  have hpending : (session.abandon number).pending =
      session.pending.run (slotActions (session.abandonHappenings number)) := by
    rw [hslots]
    rfl
  constructor
  case numbered => exact h.numbered.append hsends (hsubset.map _)
  case identified =>
    refine h.identified.append hsends rfl ?_
    intro caller hcaller id wire _
    exact hsubset.subset hcaller
  case queue =>
    exact h.queue.append hpending (admitted_of_no_sends _ hsends)
      fun id hmem => absurd hmem (hfailed id)
  case wire =>
    refine h.wire.append hsends hwritten rfl ?_
    intro caller hcaller id rest hphase
    by_cases hsame : caller.number = number
    · subst hsame
      have hfound := caller?_of_mem h.numbered.callers hcaller
      have hcut : session.abandonHappenings caller.number = [.cutOff id] := by
        simp [abandonHappenings, hfound, hphase]
      exact Or.inl (Or.inr (by simp [hcut]))
    · exact Or.inr (List.mem_filter.2 ⟨hcaller, decide_eq_true hsame⟩)
  case placed =>
    intro caller hcaller
    obtain ⟨hbefore, hstays⟩ := List.mem_filter.1 hcaller
    have hne : caller.number ≠ number := of_decide_eq_true hstays
    refine (h.placed caller hbefore).append ?_ ?_ hpending ?_
    · simp [Silent, hsends]
    · intro _ _ _
      exact ⟨hsends, hwritten⟩
    · intro hserves
      exact Line.serves_leave hserves (by simpa using hne)

theorem Numbered.not_mem_numbers (h : Numbered log session) (hfresh : .called number ∉ log) :
    number ∉ session.callers.map Caller.number := by
  intro hmem
  obtain ⟨caller, hcaller, rfl⟩ := List.mem_map.1 hmem
  exact hfresh (h.called caller hcaller)

theorem Numbered.call {new : Caller} (h : Numbered log session)
    (hnobody : ∀ caller ∈ session.callers, caller.number ≠ new.number)
    (hcallers : session'.callers = session.callers ++ [new]) :
    Numbered (log ++ [.called new.number]) session' where
  callers := by
    rw [hcallers, List.map_append, List.map_cons, List.map_nil, List.nodup_append]
    refine ⟨h.callers, List.nodup_singleton _, ?_⟩
    intro old hold number hnew
    obtain ⟨caller, hcaller, rfl⟩ := List.mem_map.1 hold
    rw [List.mem_singleton] at hnew
    exact hnew ▸ hnobody caller hcaller
  called := by
    intro caller hcaller
    rw [hcallers, List.mem_append, List.mem_singleton] at hcaller
    rcases hcaller with hold | rfl
    · exact List.mem_append_left _ (h.called caller hold)
    · simp
  senders := by simpa [Happening.send?] using h.senders
  sendersCalled := by
    intro send hsend
    have hold : send ∈ sends log := by simpa [Happening.send?] using hsend
    exact List.mem_append_left _ (h.sendersCalled send hold)

/-- A new caller that has a command to write gets a number for it that nobody else has. -/
theorem Identified.call {new : Caller} (h : Identified log session)
    (hcallers : session'.callers = session.callers ++ [new])
    (hnext : session.nextId.value ≤ session'.nextId.value)
    (hqueued : ∀ id wire, new.phase = .queued id wire →
      id = session.nextId ∧ session'.nextId = session.nextId.next) :
    Identified (log ++ [.called new.number]) session' := by
  have hsame : sends (log ++ [.called new.number]) = sends log := by simp [Happening.send?]
  constructor
  case ids => rw [hsame]; exact h.ids
  case below =>
    rw [hsame]
    intro send hsend
    exact Nat.lt_of_lt_of_le (h.below send hsend) hnext
  case queued =>
    intro caller hcaller id wire hphase
    rw [hsame]
    rw [hcallers, List.mem_append, List.mem_singleton] at hcaller
    rcases hcaller with hold | rfl
    · obtain ⟨hbelow, hother, hunique⟩ := h.queued caller hold id wire hphase
      refine ⟨Nat.lt_of_lt_of_le hbelow hnext, hother, ?_⟩
      intro other hmem wire' hphase'
      rw [hcallers, List.mem_append, List.mem_singleton] at hmem
      rcases hmem with hold' | rfl
      · exact hunique other hold' wire' hphase'
      · rw [(hqueued id wire' hphase').1] at hbelow
        exact absurd hbelow (Nat.lt_irrefl _)
    · obtain ⟨rfl, hnext'⟩ := hqueued id wire hphase
      refine ⟨by rw [hnext']; exact Nat.lt_succ_self _, ?_, ?_⟩
      · intro send hsend hid
        have hbelow := h.below send hsend
        rw [hid] at hbelow
        exact Nat.lt_irrefl _ hbelow
      · intro other hmem wire' hphase'
        rw [hcallers, List.mem_append, List.mem_singleton] at hmem
        rcases hmem with hold' | rfl
        · have hbelow := (h.queued other hold' _ wire' hphase').1
          exact absurd hbelow (Nat.lt_irrefl _)
        · rfl

theorem Called.nextId_le {request : Request} (h : session.Called request session' phase) :
    session.nextId.value ≤ session'.nextId.value := by
  cases h with
  | queued hputs hnext => simp [hnext, CommandId.next]
  | unsent hphase hnext => exact Nat.le_of_eq (by rw [hnext])
  | told result hnext => exact Nat.le_of_eq (by rw [hnext])

theorem Called.queued_eq {request : Request} {id : CommandId} {wire : ByteArray}
    (h : session.Called request session' (.queued id wire)) :
    id = session.nextId ∧ session'.nextId = session.nextId.next := by
  cases h with
  | queued hputs hnext => exact ⟨rfl, hnext⟩
  | unsent hphase hnext => simp at hphase

theorem Called.placed {request : Request} (h : session.Called request session' phase)
    (hsilent : Silent log number) : session'.Placed log ⟨number, request, phase⟩ := by
  cases h with
  | queued hputs hnext => exact ⟨hputs, hsilent⟩
  | unsent hphase hnext =>
    rcases hphase with rfl | rfl
    · exact hsilent
    · exact hsilent
  | told result hnext =>
    intro send hsend hnumber
    exact absurd hnumber (hsilent send hsend)

theorem Coherent.call {request : Request} (h : Coherent start log session)
    (hfresh : .called number ∉ log) (heffect : session.CallEffect number request session') :
    Coherent start (log ++ [.called number]) session' := by
  obtain ⟨⟨phase, hcallers, hcalled⟩, hsent, hpending, hline⟩ := heffect
  have hnobody : ∀ caller ∈ session.callers, caller.number ≠ number := by
    rintro caller hcaller rfl
    exact hfresh (h.numbered.called caller hcaller)
  have hsilent : Silent (log ++ [.called number]) number := by
    intro send hsend hnumber
    have hold : send ∈ sends log := by simpa [Happening.send?] using hsend
    exact hfresh (hnumber ▸ h.numbered.sendersCalled send hold)
  constructor
  case numbered => exact h.numbered.call hnobody hcallers
  case identified =>
    refine h.identified.call hcallers hcalled.nextId_le ?_
    rintro id wire rfl
    exact hcalled.queued_eq
  case queue => exact h.queue.append hpending rfl (by simp)
  case wire =>
    refine h.wire.append rfl (fun _ => rfl) hsent ?_
    intro caller hcaller id rest _
    rw [hcallers]
    exact Or.inr (List.mem_append_left _ hcaller)
  case placed =>
    intro caller hcaller
    rw [hcallers, List.mem_append, List.mem_singleton] at hcaller
    rcases hcaller with hold | rfl
    · refine (h.placed caller hold).append (by simp [Silent, Happening.send?]) ?_ hpending
        (hline caller.number)
      intro _ _ _
      exact ⟨rfl, fun _ => rfl⟩
    · exact hcalled.placed hsilent

/-- What the turn of a caller does to the others: nothing, unless one of them writes meanwhile. -/
theorem placed_others (h : Coherent start log session) (hcaller : caller ∈ session.callers)
    (hturned : session.Turned caller phase session')
    (hsends : ∀ send ∈ sends happened, send.number = caller.number)
    (hfront : session.writers.serves (.caller caller.number) ∨
      sends happened = [] ∧ ∀ id, written happened id = [])
    (hpending : session'.pending = session.pending.run (slotActions happened))
    (hself : session'.Placed (log ++ happened) { caller with phase }) :
    ∀ other ∈ session'.callers, session'.Placed (log ++ happened) other := by
  intro other hother
  rcases hturned.mem h.numbered.callers hcaller hother with ⟨hold, hne⟩ | rfl
  · have hplaced := h.placed other hold
    refine hplaced.append ?_ ?_ hpending (hturned.line other.number hne)
    · intro send hsend hnumber
      exact hne (hnumber ▸ hsends send hsend)
    · intro id rest hphase
      rcases hfront with hserves | hquiet
      · exact absurd hphase (hplaced.not_writing hne hserves id rest)
      · exact hquiet
  · exact hself

theorem Coherent.rests (h : Coherent start log session) (hcaller : caller ∈ session.callers)
    (hrests : session.Rests caller phase) (hturned : session.Turned caller phase session')
    (hsent : session'.transport.sent = session.transport.sent)
    (hpending : session'.pending = session.pending) : Coherent start (log ++ []) session' where
  numbered := h.numbered.append rfl (by rw [hturned.numbers])
  identified := by
    refine h.identified.append rfl hturned.nextId ?_
    intro other hother id wire hphase
    rcases hturned.mem h.numbered.callers hcaller hother with ⟨hold, hne⟩ | rfl
    · exact hold
    · exact absurd hphase (hrests.not_queued id wire)
  queue := h.queue.append hpending rfl (by simp)
  wire := by
    refine h.wire.append rfl (fun _ => rfl) hsent ?_
    intro other hother id rest hphase
    refine Or.inr (hturned.mem_of_mem hother ?_)
    intro hsame
    rw [List.inj_on_of_nodup_map h.numbered.callers hother hcaller hsame] at hphase
    exact hrests.not_writing id rest hphase
  placed := by
    have hself := hrests.placed (h.placed caller hcaller) h.numbered.senders hpending
    refine placed_others h hcaller hturned (by simp) (Or.inr ⟨rfl, fun _ => rfl⟩) hpending ?_
    rw [List.append_nil]
    exact hself

theorem Coherent.distinct (h : Coherent start log session) :
    Pending.empty.Distinct (newIds (slotActions log)) := by
  rw [newIds_slotActions]
  simpa [Pending.Distinct, Pending.empty, Pending.settledIds] using h.identified.ids

theorem Coherent.known (h : Coherent start log session) {send : Send} (hsend : send ∈ sends log) :
    send.id ∈ session.pending.waiting ∨ send.id ∈ session.pending.settledIds := by
  have hperm := Pending.perm_run h.distinct
  rw [← h.queue.pending, h.queue.admitted] at hperm
  have hmem := hperm.symm.subset (List.mem_append_right _ (List.mem_map_of_mem hsend))
  exact List.mem_append.1 hmem

theorem Coherent.settled_of_withdrawn (h : Coherent start log session) {send : Send}
    (hsend : send ∈ sends log)
    (hpending : session'.pending = session.pending.perform (.withdraw send.id)) :
    send.id ∈ session'.pending.settledIds := by
  rw [hpending]
  rcases h.known hsend with hwaits | hsettled
  · exact List.mem_map_of_mem (Pending.Departs.withdrawn hwaits).settled
  · exact Pending.settledIds_run hsettled [.withdraw send.id]

theorem Coherent.writing (h : Coherent start log session) (hcaller : caller ∈ session.callers)
    {id : CommandId} {rest : ByteArray} (hphase : caller.phase = .writing id rest) :
    session.writers.serves (.caller caller.number) ∧
      ∃ before wire, ⟨caller.number, caller.request, id, wire⟩ ∈ sends log ∧
        sends log = before ++ [⟨caller.number, caller.request, id, wire⟩] ∧
          octets wire = written log id ++ octets rest := by
  have hplaced := h.placed caller hcaller
  simp only [Placed, hphase] at hplaced
  obtain ⟨hserves, before, wire, hlast, hrest⟩ := hplaced
  exact ⟨hserves, before, wire, by simp [hlast], hlast, hrest⟩

theorem Coherent.fails (h : Coherent start log session) (hcaller : caller ∈ session.callers)
    {id : CommandId} {rest : ByteArray} {fault : Fault} (hphase : caller.phase = .writing id rest)
    (hturned : session.Turned caller (.told (.error fault)) session')
    (hsent : session'.transport.sent = session.transport.sent)
    (hpending : session'.pending = session.pending.perform (.withdraw id)) :
    Coherent start (log ++ [.failed id]) session' where
  numbered := h.numbered.append rfl (by rw [hturned.numbers])
  identified := by
    refine h.identified.append rfl hturned.nextId ?_
    intro other hother id' wire hqueued
    rcases hturned.mem h.numbered.callers hcaller hother with ⟨hold, hne⟩ | rfl
    · exact hold
    · cases hqueued
  queue := by
    refine h.queue.append hpending rfl ?_
    intro id' hmem
    cases List.mem_singleton.1 hmem
    obtain ⟨-, -, wire, hown, -⟩ := h.writing hcaller hphase
    exact h.settled_of_withdrawn hown hpending
  wire := by
    refine h.wire.append rfl (fun _ => rfl) hsent ?_
    intro other hother id' rest' hwriting
    by_cases hsame : other.number = caller.number
    · rw [List.inj_on_of_nodup_map h.numbered.callers hother hcaller hsame, hphase] at hwriting
      cases hwriting
      exact Or.inl (Or.inl (List.mem_singleton_self _))
    · exact Or.inr (hturned.mem_of_mem hother hsame)
  placed := by
    obtain ⟨hserves, -, wire, hown, -⟩ := h.writing hcaller hphase
    refine placed_others h hcaller hturned (by simp [Happening.send?]) (Or.inl hserves)
      hpending ?_
    intro send hsend hnumber
    have hold : send ∈ sends log := by simpa [Happening.send?] using hsend
    obtain rfl := send_unique h.numbered.senders hown hold hnumber
    exact Or.inl (by simp)

theorem written_wrote_of_ne {id id' : CommandId} (hne : id ≠ id') (chunk : ByteArray) :
    written [.wrote id chunk] id' = [] := by
  simp [Happening.bytesFor, hne]

theorem written_wrote_self (id : CommandId) (chunk : ByteArray) :
    written [.wrote id chunk] id = octets chunk := by
  simp [Happening.bytesFor]

/-- Bytes of the command that has lined up last go behind everything sent so far. -/
theorem Wire.wrote (h : Wire start log session) (hids : ((sends log).map Send.id).Nodup)
    {before : List Send} {send : Send} (hlast : sends log = before ++ [send]) {chunk : ByteArray}
    (hsent : session'.transport.sent = session.transport.sent ++ chunk)
    (hown : send.Finished (log ++ [.wrote send.id chunk]) ∨
      ∃ caller ∈ session'.callers, ∃ rest, caller.phase = .writing send.id rest)
    (hothers : ∀ caller ∈ session.callers, ∀ id rest, caller.phase = .writing id rest →
      id = send.id) : Wire start (log ++ [.wrote send.id chunk]) session' := by
  have hsame : sends (log ++ [.wrote send.id chunk]) = sends log := by
    simp [Happening.send?]
  have hbefore : ∀ earlier ∈ before, send.id ≠ earlier.id := by
    rw [hlast, List.map_append, List.nodup_append] at hids
    intro earlier hmem hid
    exact hids.2.2 earlier.id (List.mem_map_of_mem hmem) send.id (by simp) hid.symm
  constructor
  case puts => rw [hsame]; exact h.puts
  case unwritten =>
    intro id hid
    rw [hsame] at hid
    have hne : send.id ≠ id := hid send (by simp [hlast])
    rw [written_append, written_wrote_of_ne hne, h.unwritten id hid, List.append_nil]
  case sent =>
    have hearlier : (before.flatMap fun earlier =>
        written (log ++ [.wrote send.id chunk]) earlier.id) =
          before.flatMap fun earlier => written log earlier.id := by
      refine List.flatMap_congr ?_
      intro earlier hmem
      rw [written_append, written_wrote_of_ne (hbefore earlier hmem), List.append_nil]
    have hsofar := h.sent
    rw [hlast] at hsofar
    rw [hsame, hsent, octets_append, hsofar, hlast, List.flatMap_append, List.flatMap_append,
      hearlier]
    simp only [List.flatMap_cons, List.flatMap_nil, written_append, written_wrote_self,
      List.append_nil, List.append_assoc]
  case finished =>
    intro other hother
    rw [hsame] at hother
    by_cases hid : other.id = send.id
    · have hsend : send ∈ sends log := by simp [hlast]
      obtain rfl := List.inj_on_of_nodup_map hids hother hsend hid
      exact hown
    · rcases h.finished other hother with hfinished | ⟨caller, hcaller, rest, hphase⟩
      · exact Or.inl (hfinished.append (written_wrote_of_ne (Ne.symm hid) chunk))
      · exact absurd (hothers caller hcaller other.id rest hphase) hid

theorem writing_unique (h : Coherent start log session) (hcaller : caller ∈ session.callers)
    {id : CommandId} {rest : ByteArray} (hphase : caller.phase = .writing id rest)
    (other : Caller) (hother : other ∈ session.callers) (id' : CommandId) (rest' : ByteArray)
    (hwriting : other.phase = .writing id' rest') : id' = id := by
  obtain ⟨hserves, -⟩ := h.writing hcaller hphase
  by_cases hsame : other.number = caller.number
  · rw [List.inj_on_of_nodup_map h.numbered.callers hother hcaller hsame, hphase] at hwriting
    cases hwriting
    rfl
  · exact absurd hwriting ((h.placed other hother).not_writing hsame hserves id' rest')

theorem Coherent.writes (h : Coherent start log session) (hcaller : caller ∈ session.callers)
    {id : CommandId} {rest chunk : ByteArray} (hphase : caller.phase = .writing id rest)
    (hturned : session.Turned caller phase session')
    (hsent : session'.transport.sent = session.transport.sent ++ chunk)
    (hpending : session'.pending = session.pending)
    (hafter : (phase = .awaiting id ∧ octets rest = octets chunk) ∨
      ∃ rest', phase = .writing id rest' ∧ octets rest = octets chunk ++ octets rest' ∧
        session'.writers = session.writers) :
    Coherent start (log ++ [.wrote id chunk]) session' := by
  obtain ⟨hserves, before, wire, hown, hlast, hrest⟩ := h.writing hcaller hphase
  have hsame : sends (log ++ [.wrote id chunk]) = sends log := by simp [Happening.send?]
  constructor
  case numbered => exact h.numbered.append rfl (by rw [hturned.numbers])
  case identified =>
    refine h.identified.append rfl hturned.nextId ?_
    intro other hother id' wire' hqueued
    rcases hturned.mem h.numbered.callers hcaller hother with ⟨hold, hne⟩ | rfl
    · exact hold
    · rcases hafter with ⟨rfl, -⟩ | ⟨rest', rfl, -⟩
      · cases hqueued
      · cases hqueued
  case queue => exact h.queue.append hpending rfl (by simp)
  case wire =>
    refine h.wire.wrote h.identified.ids hlast hsent ?_ (writing_unique h hcaller hphase)
    rcases hafter with ⟨rfl, hwhole⟩ | ⟨rest', rfl, -⟩
    · refine Or.inl (Or.inl ?_)
      rw [written_append, written_wrote_self, hrest, hwhole]
    · exact Or.inr ⟨_, hturned.self_mem hcaller, rest', rfl⟩
  case placed =>
    refine placed_others h hcaller hturned (by simp [Happening.send?]) (Or.inl hserves)
      hpending ?_
    rcases hafter with ⟨rfl, -⟩ | ⟨rest', rfl, hsplit, hwriters⟩
    · exact ⟨wire, hsame ▸ hown⟩
    · refine ⟨hwriters ▸ hserves, before, wire, hsame.trans hlast, ?_⟩
      rw [written_append, written_wrote_self, hrest, hsplit, List.append_assoc]

theorem Numbered.enter {send : Send} (h : Numbered log session)
    (hnumbers : session'.callers.map Caller.number = session.callers.map Caller.number)
    (hsilent : Silent log send.number) (hcalled : .called send.number ∈ log) :
    Numbered (log ++ [.entered send]) session' where
  callers := by
    rw [hnumbers]
    exact h.callers
  called := by
    intro caller hcaller
    have hnumber : caller.number ∈ session.callers.map Caller.number :=
      hnumbers ▸ List.mem_map_of_mem hcaller
    obtain ⟨old, hold, hsame⟩ := List.mem_map.1 hnumber
    exact List.mem_append_left _ (hsame ▸ h.called old hold)
  senders := by
    simp only [sends_append, sends_singleton, Happening.send?, Option.toList_some, List.map_append,
      List.map_cons, List.map_nil]
    rw [List.nodup_append]
    refine ⟨h.senders, List.nodup_singleton _, ?_⟩
    intro old hold new hnew
    obtain ⟨other, hother, rfl⟩ := List.mem_map.1 hold
    rw [List.mem_singleton] at hnew
    exact hnew ▸ hsilent other hother
  sendersCalled := by
    intro other hother
    rw [sends_append, List.mem_append] at hother
    rcases hother with hold | hnew
    · exact List.mem_append_left _ (h.sendersCalled other hold)
    · obtain rfl : other = send := by simpa [Happening.send?] using hnew
      exact List.mem_append_left _ hcalled

theorem Identified.enter {send : Send} (h : Identified log session)
    (hnext : session'.nextId = session.nextId) (hbelow : send.id.value < session.nextId.value)
    (hnew : ∀ other ∈ sends log, other.id ≠ send.id)
    (hqueued : ∀ caller ∈ session'.callers, ∀ id wire, caller.phase = .queued id wire →
      caller ∈ session.callers ∧ id ≠ send.id) :
    Identified (log ++ [.entered send]) session' := by
  have hmore : sends (log ++ [.entered send]) = sends log ++ [send] := by
    simp [Happening.send?]
  constructor
  case ids =>
    rw [hmore, List.map_append, List.map_cons, List.map_nil, List.nodup_append]
    refine ⟨h.ids, List.nodup_singleton _, ?_⟩
    intro old hold id hid
    obtain ⟨other, hother, rfl⟩ := List.mem_map.1 hold
    rw [List.mem_singleton] at hid
    exact hid ▸ hnew other hother
  case below =>
    intro other hother
    rw [hmore, List.mem_append, List.mem_singleton] at hother
    rw [hnext]
    rcases hother with hold | rfl
    · exact h.below other hold
    · exact hbelow
  case queued =>
    intro caller hcaller id wire hphase
    obtain ⟨hold, hne⟩ := hqueued caller hcaller id wire hphase
    obtain ⟨hbelow', hother, hunique⟩ := h.queued caller hold id wire hphase
    refine ⟨hnext ▸ hbelow', ?_, ?_⟩
    · intro other hmem
      rw [hmore, List.mem_append, List.mem_singleton] at hmem
      rcases hmem with hsent | rfl
      · exact hother other hsent
      · exact hne.symm
    · intro other hmem wire' hphase'
      exact hunique other (hqueued other hmem id wire' hphase').1 wire' hphase'

/-- A command lines up before its first byte is written. -/
theorem Wire.enter {send : Send} (h : Wire start log session) (hputs : send.request.Puts send.wire)
    (hnew : ∀ other ∈ sends log, other.id ≠ send.id)
    (hsent : session'.transport.sent = session.transport.sent)
    (hwriting : ∀ caller ∈ session.callers, ∀ id rest, caller.phase = .writing id rest →
      caller ∈ session'.callers)
    (hown : ∃ caller ∈ session'.callers, ∃ rest, caller.phase = .writing send.id rest) :
    Wire start (log ++ [.entered send]) session' := by
  have hmore : sends (log ++ [.entered send]) = sends log ++ [send] := by
    simp [Happening.send?]
  have hwritten : ∀ id, written (log ++ [.entered send]) id = written log id := by
    simp [Happening.bytesFor]
  constructor
  case puts =>
    intro other hother
    rw [hmore, List.mem_append, List.mem_singleton] at hother
    rcases hother with hold | rfl
    · exact h.puts other hold
    · exact hputs
  case unwritten =>
    intro id hid
    rw [hwritten]
    refine h.unwritten id ?_
    intro other hother
    exact hid other (by rw [hmore]; exact List.mem_append_left _ hother)
  case sent =>
    simp only [hmore, hwritten, List.flatMap_append, List.flatMap_cons, List.flatMap_nil,
      h.unwritten send.id hnew, List.append_nil]
    rw [hsent, h.sent]
  case finished =>
    intro other hother
    rw [hmore, List.mem_append, List.mem_singleton] at hother
    rcases hother with hold | rfl
    · rcases h.finished other hold with hfinished | ⟨caller, hcaller, rest, hphase⟩
      · exact Or.inl (hfinished.append rfl)
      · exact Or.inr ⟨caller, hwriting caller hcaller other.id rest hphase, rest, hphase⟩
    · exact Or.inr hown

theorem Coherent.enter (h : Coherent start log session) (hcaller : caller ∈ session.callers)
    {id : CommandId} {wire : ByteArray} (hphase : caller.phase = .queued id wire)
    (hserves : session.writers.serves (.caller caller.number))
    (hopen : session.pending.closed = false)
    (hturned : session.Turned caller (.writing id wire) session')
    (hwriters : session'.writers = session.writers)
    (hsent : session'.transport.sent = session.transport.sent)
    (hpending : session'.pending = session.pending.perform (.register id)) :
    Coherent start (log ++ [.entered ⟨caller.number, caller.request, id, wire⟩]) session' := by
  have hqueued := h.placed caller hcaller
  simp only [Placed, hphase] at hqueued
  obtain ⟨hputs, hsilent⟩ := hqueued
  obtain ⟨hbelow, hnew, hunique⟩ := h.identified.queued caller hcaller id wire hphase
  constructor
  case numbered =>
    exact h.numbered.enter hturned.numbers hsilent (h.numbered.called caller hcaller)
  case identified =>
    refine h.identified.enter hturned.nextId hbelow hnew ?_
    intro other hother id' wire' hphase'
    rcases hturned.mem h.numbered.callers hcaller hother with ⟨hold, hne⟩ | rfl
    · refine ⟨hold, ?_⟩
      rintro rfl
      exact hne (hunique other hold wire' hphase')
    · cases hphase'
  case queue =>
    refine h.queue.append hpending ?_ (by simp)
    simp [slotActions, Happening.slotAction?, Happening.send?, Pending.admitted, Pending.admits,
      hopen]
  case wire =>
    refine h.wire.enter hputs hnew hsent ?_ ⟨_, hturned.self_mem hcaller, wire, rfl⟩
    intro other hother id' rest hwriting
    refine hturned.mem_of_mem hother ?_
    intro hsame
    rw [List.inj_on_of_nodup_map h.numbered.callers hother hcaller hsame, hphase] at hwriting
    cases hwriting
  case placed =>
    -- Nobody else writes, as the caller is at the front: the last command is its own from now on.
    refine placed_others h hcaller hturned (by simp [Happening.send?]) (Or.inl hserves) hpending ?_
    refine ⟨hwriters ▸ hserves, sends log, wire, by simp [Happening.send?], ?_⟩
    simp [Happening.bytesFor, h.wire.unwritten id hnew]

theorem Coherent.acts (h : Coherent start log session) (hcaller : caller ∈ session.callers)
    (heffect : session.CallerEffect caller session' happened) :
    Coherent start (log ++ happened) session' := by
  cases heffect with
  | enters hphase hserves hopen hturned hwriters hsent hpending =>
    exact h.enter hcaller hphase hserves hopen hturned hwriters hsent hpending
  | writes hphase hrest hturned hwriters hsent hpending =>
    exact h.writes hcaller hphase hturned hsent hpending (Or.inr ⟨_, rfl, hrest, hwriters⟩)
  | completes hphase hrest hturned hsent hpending =>
    exact h.writes hcaller hphase hturned hsent hpending (Or.inl ⟨rfl, hrest⟩)
  | fails hphase hturned hsent hpending =>
    exact h.fails hcaller hphase hturned hsent hpending
  | rests hrests hturned hsent hpending =>
    exact h.rests hcaller hrests hturned hsent hpending

theorem Coherent.perform (h : Coherent start log session) (move : Move) (hfresh : move.Fresh log)
    (hmove : session.perform move = some session') :
    Coherent start (log ++ session.happenings move) session' := by
  cases moves_of_perform hmove with
  | call number request =>
    exact h.call hfresh (call_effect (h.numbered.not_mem_numbers hfresh) request)
  | @caller number now most caller _ hfound hturn =>
    obtain ⟨hcaller, -⟩ := mem_of_caller? hfound
    have hhappens : session.happenings (.caller number now most) =
        session.callerHappenings most caller := by simp [happenings, hfound]
    rw [hhappens]
    exact h.acts hcaller (callerTurn_effect hturn)
  | reader hturn =>
    exact h.undisturbed (undisturbed_readerTurn hturn) session.sends_readerHappenings
      session.written_readerHappenings session.failed_readerHappenings (pending_readerTurn hturn)
  | abandon number => exact h.abandon number
  | network hsent =>
    exact h.undisturbed ⟨rfl, rfl, hsent, fun _ hserves => hserves⟩ rfl (fun _ => rfl)
      (fun _ => List.not_mem_nil) rfl
  | deliver listeners audience =>
    exact h.undisturbed ⟨rfl, rfl, rfl, fun _ hserves => hserves⟩ rfl (fun _ => rfl)
      (fun _ => List.not_mem_nil) rfl

theorem Run.coherent (hcallers : start.callers = []) (hpending : start.pending = .empty)
    (run : start.Run log session) : Coherent start log session := by
  induction run with
  | start => exact coherent_start hcallers hpending
  | step run move hfresh hmove ih => exact ih.perform move hfresh hmove

/-- The turn that the session takes by itself is a move of the reader or of a caller. -/
theorem turn_eq_perform {now : Nat} (hnumbers : (session.callers.map Caller.number).Nodup)
    (h : session.turn now = some session') :
    ∃ move, (∀ log, Move.Fresh log move) ∧ session.perform move = some session' := by
  unfold turn at h
  split at h
  · next hreader =>
    obtain rfl := Option.some.inj h
    exact ⟨.reader now readLimit, fun _ => trivial, hreader⟩
  · obtain ⟨caller, hcaller, hturn⟩ := List.exists_of_findSome?_eq_some h
    refine ⟨.caller caller.number now caller.phase.unwritten, fun _ => trivial, ?_⟩
    rw [Session.perform, caller?_of_mem hnumbers hcaller]
    exact hturn

/-- Whatever a session does by itself is a run of it. -/
theorem Run.takeTurns (hcallers : start.callers = []) (hpending : start.pending = .empty)
    (run : start.Run log session) (now : Nat) (listeners : List Listener) (turns : Nat)
    (audience : Audience) :
    ∃ more, start.Run (log ++ more) (session.takeTurns now listeners turns audience).1 := by
  induction turns generalizing log session audience with
  | zero => exact ⟨[], (List.append_nil log).symm ▸ run⟩
  | succ turns ih =>
    have delivered := run.step (.deliver listeners audience) trivial rfl
    rw [Session.takeTurns]
    dsimp only
    split
    · exact ⟨_, delivered⟩
    · next after hturn =>
      have hnumbers := (delivered.coherent hcallers hpending).numbered.callers
      obtain ⟨move, hfresh, hmove⟩ := turn_eq_perform hnumbers hturn
      obtain ⟨more, hrun⟩ := ih (delivered.step move (hfresh _) hmove)
        (session.dispatcher.deliver listeners audience).2
      rw [List.append_assoc, List.append_assoc] at hrun
      exact ⟨_, hrun⟩

theorem Run.settle (hcallers : start.callers = []) (hpending : start.pending = .empty)
    (run : start.Run log session) (now : Nat) (registers : Registers) (audience : Audience) :
    ∃ more, start.Run (log ++ more) (session.settle now registers audience).1 :=
  run.takeTurns hcallers hpending now _ _ audience

end Session

end EventSocket
