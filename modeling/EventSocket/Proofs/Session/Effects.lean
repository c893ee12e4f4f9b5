import EventSocket.Proofs.Session.Moves
import EventSocket.Proofs.Session.Reach

/-!
What each move of a session changes: the phase of at most one caller, the line of those who write,
the commands that wait for replies, and what has been sent.
-/

namespace EventSocket

namespace Line

variable {α : Type} [DecidableEq α] {line : Line α} {member other : α}

theorem serves_iff : line.serves member = true ↔ line.members.head? = some member := by
  simp [serves]

theorem serves_join (h : line.serves member) (other : α) : (line.join other).serves member := by
  rw [serves_iff] at h ⊢
  rw [join, List.head?_append, h, Option.some_or]

theorem serves_leave (h : line.serves member) (hne : member ≠ other) :
    (line.leave other).serves member := by
  rw [serves_iff] at h ⊢
  obtain ⟨behind, hmembers⟩ := List.head?_eq_some_iff.1 h
  simp [leave, hmembers, hne]

theorem serves_unique (h : line.serves member) (hother : line.serves other) : other = member := by
  rw [serves_iff] at h hother
  exact Option.some.inj (hother.symm.trans h)

end Line

theorem Transport.sent_shutdown (transport : Transport) :
    transport.shutdown.2.sent = transport.sent := by
  unfold shutdown
  split
  · rfl
  · cases transport.shutdownFailure <;> rfl

theorem Transport.sent_read (transport : Transport) (most : Nat) :
    (transport.read most).2.sent = transport.sent := by
  unfold read
  split
  · rfl
  · cases transport.readFailure <;> rfl

theorem octets_extract_append (bytes : ByteArray) (most : Nat) :
    octets bytes = octets (bytes.extract 0 most) ++ octets (bytes.extract most bytes.size) := by
  rw [octets_extract, octets_extract, List.drop_zero, ← length_octets, List.take_length,
    List.take_append_drop]

namespace CallerPhase

/-- The caller has not put a command on the wire. -/
def Unsent : CallerPhase → Prop
  | queued _ _ | detaching | watching => True
  | _ => False

/-- The caller has taken leave of the switch. -/
def Leaving : CallerPhase → Prop
  | shutting _ | lingering _ | dropping => True
  | _ => False

end CallerPhase

/-- The bytes are those of the command that the request puts on the wire. -/
def Request.Puts (request : Request) (wire : ByteArray) : Prop :=
  ∃ command text, request.command? = some command ∧ command.wire = .ok text ∧ wire = text.toUTF8

namespace Session

variable {session session' : Session} {caller : Caller} {phase : CallerPhase} {now most : Nat}

/-- A caller takes a turn that leaves the other callers where they are. -/
structure Turned (session : Session) (caller : Caller) (phase : CallerPhase)
    (session' : Session) : Prop where
  callers : session'.callers = (session.setPhase caller.number phase).callers
  nextId : session'.nextId = session.nextId
  line : ∀ number, number ≠ caller.number → session.writers.serves (.caller number) →
    session'.writers.serves (.caller number)

theorem turned_setPhase (session : Session) (caller : Caller) (phase : CallerPhase) :
    session.Turned caller phase (session.setPhase caller.number phase) :=
  ⟨rfl, rfl, fun _ _ hserves => hserves⟩

theorem Turned.joinLine (h : session.Turned caller phase session') (writer : Writer) :
    session.Turned caller phase (session'.joinLine writer) :=
  ⟨h.callers, h.nextId, fun number hne hserves => Line.serves_join (h.line number hne hserves) _⟩

/-- The ways of a caller that touch neither the wire nor the commands that wait for replies. -/
inductive Rests (session : Session) (caller : Caller) : CallerPhase → Prop
  | refused (hphase : caller.phase.Unsent) (result : Except Fault Answer) :
      Rests session caller (.told result)
  | refusedLeave {phase : CallerPhase} (hphase : caller.phase.Unsent)
      (hclose : caller.request = .close) (hleaving : phase.Leaving) : Rests session caller phase
  | hears {id : CommandId} {settlement : Settlement} (hphase : caller.phase = .awaiting id)
      (hsettled : session.pending.settlement? id = some settlement) :
      Rests session caller (.told ((response caller id settlement).bind caller.request.answer))
  | hearsLeave {id : CommandId} {settlement : Settlement} {phase : CallerPhase}
      (hphase : caller.phase = .awaiting id)
      (hsettled : session.pending.settlement? id = some settlement)
      (hclose : caller.request = .close) (hleaving : phase.Leaving) : Rests session caller phase
  | leaves {phase : CallerPhase} (hphase : caller.phase.Leaving) (hleaving : phase.Leaving) :
      Rests session caller phase
  | ends (hphase : caller.phase.Leaving) : Rests session caller (.told (.ok .done))

/-- What a turn of a caller can do, with what happens by it. -/
inductive CallerEffect (session : Session) (caller : Caller) (session' : Session) :
    List Happening → Prop
  | enters {id : CommandId} {wire : ByteArray} (hphase : caller.phase = .queued id wire)
      (hserves : session.writers.serves (.caller caller.number))
      (hopen : session.pending.closed = false)
      (hturned : session.Turned caller (.writing id wire) session')
      (hwriters : session'.writers = session.writers)
      (hsent : session'.transport.sent = session.transport.sent)
      (hpending : session'.pending = session.pending.perform (.register id)) :
      CallerEffect session caller session' [.entered ⟨caller.number, caller.request, id, wire⟩]
  | writes {id : CommandId} {rest chunk rest' : ByteArray}
      (hphase : caller.phase = .writing id rest)
      (hrest : octets rest = octets chunk ++ octets rest')
      (hturned : session.Turned caller (.writing id rest') session')
      (hwriters : session'.writers = session.writers)
      (hsent : session'.transport.sent = session.transport.sent ++ chunk)
      (hpending : session'.pending = session.pending) :
      CallerEffect session caller session' [.wrote id chunk]
  | completes {id : CommandId} {rest chunk : ByteArray}
      (hphase : caller.phase = .writing id rest) (hrest : octets rest = octets chunk)
      (hturned : session.Turned caller (.awaiting id) session')
      (hsent : session'.transport.sent = session.transport.sent ++ chunk)
      (hpending : session'.pending = session.pending) :
      CallerEffect session caller session' [.wrote id chunk]
  | fails {id : CommandId} {rest : ByteArray} {text : String}
      (hphase : caller.phase = .writing id rest)
      (hturned : session.Turned caller (.told (.error (.io text))) session')
      (hsent : session'.transport.sent = session.transport.sent)
      (hpending : session'.pending = session.pending.perform (.withdraw id)) :
      CallerEffect session caller session' [.failed id]
  | rests {phase : CallerPhase} (hrests : session.Rests caller phase)
      (hturned : session.Turned caller phase session')
      (hsent : session'.transport.sent = session.transport.sent)
      (hpending : session'.pending = session.pending) :
      CallerEffect session caller session' []

theorem takeReply_turned (session : Session) (now : Nat) (caller : Caller)
    (result : Except Fault Response) :
    ∃ phase, session.Turned caller phase (session.takeReply now caller result) ∧
      (session.takeReply now caller result).pending = session.pending ∧
      (session.takeReply now caller result).transport = session.transport ∧
      (phase = .told (result.bind caller.request.answer) ∨
        caller.request = .close ∧ phase.Leaving) := by
  unfold takeReply
  split
  · next hclose =>
    exact ⟨_, (turned_setPhase session caller _).joinLine _, rfl, rfl, Or.inr ⟨hclose, trivial⟩⟩
  · next hclose =>
    exact ⟨_, (turned_setPhase session caller _).joinLine _, rfl, rfl, Or.inr ⟨hclose, trivial⟩⟩
  · exact ⟨_, turned_setPhase session caller _, rfl, rfl, Or.inl rfl⟩
  · exact ⟨_, turned_setPhase session caller _, rfl, rfl, Or.inl rfl⟩

theorem takeReply_of_close (session : Session) (now : Nat) (hclose : caller.request = .close)
    {result : Except Fault Response} (hresult : ∀ fault, result = .error fault →
      fault = .connectionClosed) :
    session.takeReply now caller result =
      (session.setPhase caller.number (.shutting (now + session.patience))).joinLine
        (.caller caller.number) := by
  cases result with
  | ok response => simp only [takeReply, hclose]
  | error fault =>
    obtain rfl := hresult fault rfl
    simp only [takeReply, hclose]

theorem takeReply_of_ne (session : Session) (now : Nat) (hother : caller.request ≠ .close)
    (result : Except Fault Response) :
    session.takeReply now caller result =
      session.tell caller.number (result.bind caller.request.answer) := by
  unfold takeReply
  split
  · next hclose => exact absurd hclose hother
  · next hclose => exact absurd hclose hother
  · rfl
  · rfl

theorem takeReply_io (session : Session) (now : Nat) (caller : Caller) (text : String) :
    session.takeReply now caller (.error (.io text)) =
      session.tell caller.number (.error (.io text)) := by
  by_cases hclose : caller.request = .close
  · simp only [takeReply, hclose]
  · exact takeReply_of_ne session now hclose _

theorem response_error {id : CommandId} {settlement : Settlement} {fault : Fault}
    (h : response caller id settlement = .error fault) : fault = .connectionClosed := by
  cases settlement with
  | answered frame => cases h
  | withdrawn | connectionClosed => cases h; rfl

theorem Turned.after {between : Session} (h : between.Turned caller phase session')
    (hcallers : between.callers = session.callers) (hnext : between.nextId = session.nextId)
    (hline : ∀ number, number ≠ caller.number → session.writers.serves (.caller number) →
      between.writers.serves (.caller number)) : session.Turned caller phase session' := by
  refine ⟨?_, h.nextId.trans hnext, ?_⟩
  · rw [h.callers, setPhase, setPhase, hcallers]
  · intro number hne hserves
    exact h.line number hne (hline number hne hserves)

theorem serves_leaveLine {number : Nat} (hne : number ≠ caller.number)
    (hserves : session.writers.serves (.caller number)) :
    (session.leaveLine (.caller caller.number)).writers.serves (.caller number) :=
  Line.serves_leave hserves (by simpa using hne)

theorem effect_queued {id : CommandId} {wire : ByteArray} (hphase : caller.phase = .queued id wire)
    (h : session.callerTurn now most caller = some session') :
    session.CallerEffect caller session' (session.callerHappenings most caller) := by
  have hunsent : caller.phase.Unsent := by rw [hphase]; trivial
  simp only [callerTurn, hphase] at h
  by_cases hserves : session.writers.serves (.caller caller.number)
  · rw [if_pos hserves] at h
    by_cases hclosed : session.pending.closed
    · have hregister : session.pending.register id = none := by simp [Pending.register, hclosed]
      simp only [hregister, Option.some.injEq] at h
      obtain ⟨phase, hturned, hpending, htransport, hway⟩ := takeReply_turned
        (session.leaveLine (.caller caller.number)) now caller (.error .connectionClosed)
      rw [h] at hturned hpending htransport
      have hrests : session.Rests caller phase := by
        rcases hway with rfl | ⟨hclose, hleaving⟩
        · exact .refused hunsent _
        · exact .refusedLeave hunsent hclose hleaving
      have hnothing : session.callerHappenings most caller = [] := by
        simp [callerHappenings, hphase, hclosed]
      rw [hnothing]
      exact .rests hrests (hturned.after rfl rfl fun _ => serves_leaveLine)
        (congrArg Transport.sent htransport) hpending
    · have hopen : session.pending.closed = false := Bool.eq_false_iff.2 hclosed
      have hregister : session.pending.register id =
          some { session.pending with waiting := session.pending.waiting ++ [id] } := by
        simp [Pending.register, hopen]
      simp only [hregister, Option.some.injEq] at h
      have hperform : session.pending.perform (.register id) =
          { session.pending with waiting := session.pending.waiting ++ [id] } := by
        rw [Pending.perform, hregister, Option.getD_some]
      have hentered : session.callerHappenings most caller =
          [.entered ⟨caller.number, caller.request, id, wire⟩] := by
        simp [callerHappenings, hphase, hopen]
      rw [hentered, ← h]
      exact .enters hphase hserves hopen
        ⟨rfl, rfl, fun _ _ hserves => hserves⟩ rfl rfl hperform.symm
  · rw [if_neg hserves] at h
    cases h

theorem effect_writing {id : CommandId} {rest : ByteArray}
    (hphase : caller.phase = .writing id rest)
    (h : session.callerTurn now most caller = some session') :
    session.CallerEffect caller session' (session.callerHappenings most caller) := by
  simp only [callerTurn, hphase, writeOn] at h
  have hrest := octets_extract_append rest most
  cases hwrite : session.transport.write (rest.extract 0 most) with
  | mk outcome transport =>
    simp only [hwrite] at h
    cases outcome with
    | waiting => cases h
    | failed text =>
      obtain rfl := Option.some.inj h
      have hfailed : session.callerHappenings most caller = [.failed id] := by
        simp [callerHappenings, hphase, hwrite]
      rw [hfailed, takeReply_io]
      exact .fails hphase ⟨rfl, rfl, fun _ => serves_leaveLine⟩ rfl rfl
    | written =>
      have hsent : transport.sent = session.transport.sent ++ rest.extract 0 most := by
        unfold Transport.write at hwrite
        grind
      have hwrote : session.callerHappenings most caller = [.wrote id (rest.extract 0 most)] := by
        simp [callerHappenings, hphase, hwrite]
      rw [hwrote]
      obtain rfl := Option.some.inj h
      by_cases hempty : (rest.extract most rest.size).isEmpty
      · rw [if_pos hempty]
        have hnothing : octets (rest.extract most rest.size) = [] := octets_eq_nil_iff.2 hempty
        exact .completes hphase (by rw [hrest, hnothing, List.append_nil])
          ⟨rfl, rfl, fun _ => serves_leaveLine⟩ hsent rfl
      · rw [if_neg hempty]
        exact .writes hphase hrest ⟨rfl, rfl, fun _ _ hserves => hserves⟩ rfl hsent rfl

theorem effect_awaiting {id : CommandId} (hphase : caller.phase = .awaiting id)
    (h : session.callerTurn now most caller = some session') :
    session.CallerEffect caller session' (session.callerHappenings most caller) := by
  simp only [callerTurn, hphase] at h
  obtain ⟨settlement, hsettled, rfl⟩ := Option.map_eq_some_iff.1 h
  obtain ⟨phase, hturned, hpending, htransport, hway⟩ :=
    takeReply_turned session now caller (response caller id settlement)
  have hrests : session.Rests caller phase := by
    rcases hway with rfl | ⟨hclose, hleaving⟩
    · exact .hears hphase hsettled
    · exact .hearsLeave hphase hsettled hclose hleaving
  have hnothing : session.callerHappenings most caller = [] := by
    simp [callerHappenings, hphase]
  rw [hnothing]
  exact .rests hrests hturned (congrArg Transport.sent htransport) hpending

theorem sent_afterShutdown (session : Session) (writer : Writer) :
    (session.afterShutdown writer).transport.sent = session.transport.sent :=
  session.transport.sent_shutdown

theorem effect_leaving (hphase : caller.phase.Leaving)
    (h : session.callerTurn now most caller = some session') :
    session.CallerEffect caller session' (session.callerHappenings most caller) := by
  have hnothing : session.callerHappenings most caller = [] := by
    unfold callerHappenings
    split
    · next hqueued => simp [hqueued, CallerPhase.Leaving] at hphase
    · next hwriting => simp [hwriting, CallerPhase.Leaving] at hphase
    · rfl
  rw [hnothing]
  cases hwhere : caller.phase with
  | shutting deadline =>
    have hlingers : (CallerPhase.lingering (now + session.patience)).Leaving := trivial
    rcases callerTurn_shutting hwhere h with ⟨-, rfl⟩ | ⟨-, rfl⟩
    · exact .rests (.leaves hphase hlingers) ⟨rfl, rfl, fun _ => serves_leaveLine⟩
        (session.sent_afterShutdown (.caller caller.number)) rfl
    · exact .rests (.leaves hphase hlingers) ⟨rfl, rfl, fun _ => serves_leaveLine⟩ rfl rfl
  | lingering deadline =>
    have hdrops : CallerPhase.dropping.Leaving := trivial
    simp only [callerTurn, hwhere] at h
    split at h
    · obtain rfl := Option.some.inj h
      exact .rests (.ends hphase) (turned_setPhase session caller _) rfl rfl
    · split at h
      · obtain rfl := Option.some.inj h
        exact .rests (.leaves hphase hdrops) ⟨rfl, rfl, fun _ _ hserves => hserves⟩ rfl rfl
      · cases h
  | dropping =>
    simp only [callerTurn, hwhere] at h
    split at h
    · obtain rfl := Option.some.inj h
      exact .rests (.ends hphase) (turned_setPhase session caller _) rfl rfl
    · cases h
  | _ => simp [hwhere, CallerPhase.Leaving] at hphase

theorem effect_detaching (hphase : caller.phase = .detaching)
    (h : session.callerTurn now most caller = some session') :
    session.CallerEffect caller session' (session.callerHappenings most caller) := by
  have hunsent : caller.phase.Unsent := by rw [hphase]; trivial
  have hnothing : session.callerHappenings most caller = [] := by
    simp [callerHappenings, hphase]
  rw [hnothing]
  obtain ⟨-, result, -, rfl⟩ := callerTurn_detaching hphase h
  exact .rests (.refused hunsent result) ⟨rfl, rfl, fun _ => serves_leaveLine⟩
    (session.sent_afterShutdown (.caller caller.number)) rfl

theorem effect_watching (hphase : caller.phase = .watching)
    (h : session.callerTurn now most caller = some session') :
    session.CallerEffect caller session' (session.callerHappenings most caller) := by
  have hunsent : caller.phase.Unsent := by rw [hphase]; trivial
  have hnothing : session.callerHappenings most caller = [] := by
    simp [callerHappenings, hphase]
  rw [hnothing]
  simp only [callerTurn, hphase] at h
  split at h
  · obtain rfl := Option.some.inj h
    exact .rests (.refused hunsent _) (turned_setPhase session caller _) rfl rfl
  · obtain rfl := Option.some.inj h
    exact .rests (.refused hunsent _) (turned_setPhase session caller _) rfl rfl
  · cases h

theorem callerTurn_effect (h : session.callerTurn now most caller = some session') :
    session.CallerEffect caller session' (session.callerHappenings most caller) := by
  cases hphase : caller.phase with
  | queued id wire => exact effect_queued hphase h
  | writing id rest => exact effect_writing hphase h
  | awaiting id => exact effect_awaiting hphase h
  | shutting deadline => exact effect_leaving (by rw [hphase]; trivial) h
  | lingering deadline => exact effect_leaving (by rw [hphase]; trivial) h
  | dropping => exact effect_leaving (by rw [hphase]; trivial) h
  | detaching => exact effect_detaching hphase h
  | watching => exact effect_watching hphase h
  | told result => simp [callerTurn, hphase] at h

/-- Nobody's phase changes, nothing is sent, and who is at the front of the line stays there. -/
structure Undisturbed (session session' : Session) : Prop where
  callers : session'.callers = session.callers
  nextId : session'.nextId = session.nextId
  sent : session'.transport.sent = session.transport.sent
  line : ∀ number, session.writers.serves (.caller number) →
    session'.writers.serves (.caller number)

theorem undisturbed_endWith (session : Session) (now : Nat) (reason : EndReason) :
    session.Undisturbed (session.endWith now reason) :=
  ⟨rfl, rfl, rfl, fun _ hserves => Line.serves_join hserves _⟩

theorem Routed.undisturbed {frame : Frame} (h : session.Routed now frame session') :
    session.Undisturbed session' := by
  cases h with
  | replies | dispatches | ignores => exact ⟨rfl, rfl, rfl, fun _ hserves => hserves⟩
  | unreadable | notices => exact undisturbed_endWith session now _

theorem Reading.undisturbed (h : session.Reading now most session') :
    session.Undisturbed session' := by
  have hsent := session.transport.sent_read most
  cases h with
  | heeds => exact ⟨rfl, rfl, rfl, fun _ hserves => Line.serves_join hserves _⟩
  | takes => exact ⟨rfl, rfl, hsent, fun _ hserves => hserves⟩
  | refuses => exact ⟨rfl, rfl, hsent, fun _ hserves => Line.serves_join hserves _⟩
  | fails | ends => exact undisturbed_endWith session now _

theorem undisturbed_readerTurn (h : session.readerTurn now most = some session') :
    session.Undisturbed session' := by
  have hleave : ∀ number, session.writers.serves (.caller number) →
      (session.leaveLine .reader).writers.serves (.caller number) :=
    fun _ hserves => Line.serves_leave hserves (by simp)
  cases readerTurn_goes h with
  | @routes frame decoder =>
    obtain ⟨hcallers, hnext, hsent, hline⟩ :=
      ({ session with decoder }.route_routed now frame).undisturbed
    exact ⟨hcallers, hnext, hsent, hline⟩
  | reads _ _ hreading =>
    obtain ⟨hcallers, hnext, hsent, hline⟩ := hreading.undisturbed
    exact ⟨hcallers, hnext, hsent, hline⟩
  | breaks => exact ⟨rfl, rfl, rfl, fun _ hserves => Line.serves_join hserves _⟩
  | shuts => exact ⟨rfl, rfl, session.sent_afterShutdown .reader, hleave⟩
  | leaves => exact ⟨rfl, rfl, rfl, hleave⟩
  | drains | endsGeneral | endsJobs => exact ⟨rfl, rfl, rfl, fun _ hserves => hserves⟩

theorem CallerEffect.pending {happened : List Happening}
    (h : session.CallerEffect caller session' happened) :
    session'.pending = session.pending.run (slotActions happened) := by
  cases h with
  | enters hphase hserves hopen hturned hwriters hsent hpending => exact hpending
  | writes hphase hrest hturned hwriters hsent hpending => exact hpending
  | completes hphase hrest hturned hsent hpending => exact hpending
  | fails hphase hturned hsent hpending => exact hpending
  | rests hrests hturned hsent hpending => exact hpending

theorem pending_route (session : Session) (now : Nat) (frame : Frame) :
    (session.route now frame).pending = session.pending.run (slotActions [.routed frame]) := by
  have hactions : slotActions [.routed frame] =
      if frame.kind.isReply then [.resolve frame] else [] := by
    by_cases hkind : frame.kind.isReply <;> simp [slotActions, Happening.slotAction?, hkind]
  rw [hactions]
  have hrouted := session.route_routed now frame
  generalize session.route now frame = session' at hrouted
  cases hrouted with
  | replies hreply =>
    rw [if_pos hreply]
    rfl
  | dispatches hkind | unreadable hkind | notices hkind =>
    rw [hkind]
    rfl
  | ignores hreply =>
    rw [if_neg (Bool.eq_false_iff.mp hreply)]
    rfl

theorem Reading.pending (h : session.Reading now most session') :
    session'.pending = session.pending := by
  cases h <;> rfl

theorem pending_readerTurn (h : session.readerTurn now most = some session') :
    session'.pending = session.pending.run (slotActions session.readerHappenings) := by
  cases readerTurn_goes h with
  | @routes frame decoder hrunning hnext =>
    have hrouted : session.readerHappenings = [.routed frame] := by
      simp [readerHappenings, hrunning, hnext]
    rw [hrouted]
    exact pending_route { session with decoder } now frame
  | reads hrunning hnext hreading =>
    have hnothing : session.readerHappenings = [] := by simp [readerHappenings, hrunning, hnext]
    rw [hnothing]
    exact hreading.pending
  | breaks hrunning hnext =>
    have hnothing : session.readerHappenings = [] := by simp [readerHappenings, hrunning, hnext]
    rw [hnothing]
    rfl
  | drains hreader =>
    have hdrained : session.readerHappenings = [.drained] := by simp [readerHappenings, hreader]
    rw [hdrained]
    rfl
  | shuts hreader | leaves hreader | endsGeneral hreader | endsJobs hreader =>
    have hnothing : session.readerHappenings = [] := by simp [readerHappenings, hreader]
    rw [hnothing]
    rfl

theorem sends_readerHappenings (session : Session) : sends session.readerHappenings = [] := by
  unfold readerHappenings
  split
  · split <;> rfl
  · rfl
  · rfl

theorem framesIn_readerHappenings (hreader : session.reader = .running) :
    framesIn session.readerHappenings =
      match session.decoder.next.1 with
      | .ok (some frame) => [frame]
      | _ => [] := by
  simp only [readerHappenings, hreader]
  cases session.decoder.next.1 with
  | error fault => rfl
  | ok found => cases found <;> rfl

theorem framesIn_callerHappenings (session : Session) (most : Nat) (caller : Caller) :
    framesIn (session.callerHappenings most caller) = [] := by
  unfold callerHappenings
  split
  · split <;> rfl
  · split <;> rfl
  · rfl

theorem framesIn_abandonHappenings (session : Session) (number : Nat) :
    framesIn (session.abandonHappenings number) = [] := by
  unfold abandonHappenings
  split <;> rfl

theorem written_readerHappenings (session : Session) (id : CommandId) :
    written session.readerHappenings id = [] := by
  unfold readerHappenings
  split
  · split <;> rfl
  · rfl
  · rfl

theorem failed_readerHappenings (session : Session) (id : CommandId) :
    .failed id ∉ session.readerHappenings := by
  unfold readerHappenings
  split
  · split <;> simp
  · simp
  · simp

/-- A caller that has just called: it has a command to write, or something else to do, or it has
been told already. -/
inductive Called (session : Session) (request : Request) (session' : Session) :
    CallerPhase → Prop
  | queued {wire : ByteArray} (hputs : request.Puts wire)
      (hnext : session'.nextId = session.nextId.next) :
      Called session request session' (.queued session.nextId wire)
  | unsent {phase : CallerPhase} (hphase : phase = .detaching ∨ phase = .watching)
      (hnext : session'.nextId = session.nextId) : Called session request session' phase
  | told (result : Except Fault Answer) (hnext : session'.nextId = session.nextId) :
      Called session request session' (.told result)

structure CallEffect (session : Session) (number : Nat) (request : Request)
    (session' : Session) : Prop where
  callers : ∃ phase, session'.callers = session.callers ++ [⟨number, request, phase⟩] ∧
    session.Called request session' phase
  sent : session'.transport.sent = session.transport.sent
  pending : session'.pending = session.pending
  line : ∀ number, session.writers.serves (.caller number) →
    session'.writers.serves (.caller number)

theorem callers_setPhase_new {number : Nat} {request : Request}
    (hfresh : number ∉ session.callers.map Caller.number)
    (hcallers : session'.callers = session.callers ++ [⟨number, request, phase⟩])
    (phase' : CallerPhase) :
    (session'.setPhase number phase').callers = session.callers ++ [⟨number, request, phase'⟩] := by
  have hothers : session.callers.map (fun caller =>
      if caller.number = number then { caller with phase := phase' } else caller) =
        session.callers := by
    refine (List.map_congr_left ?_).trans (List.map_id _)
    intro caller hmem
    refine if_neg ?_
    rintro rfl
    exact hfresh (List.mem_map_of_mem hmem)
  rw [setPhase, hcallers, List.map_append, hothers]
  simp

theorem submit_effect {number : Nat} {request : Request} {command : Command}
    (hcommand : request.command? = some command)
    (hfresh : number ∉ session.callers.map Caller.number)
    (hcallers : session'.callers = session.callers ++ [⟨number, request, .watching⟩])
    (hnext : session'.nextId = session.nextId)
    (hsent : session'.transport.sent = session.transport.sent)
    (hpending : session'.pending = session.pending)
    (hwriters : session'.writers = session.writers) :
    session.CallEffect number request (session'.submit number command) := by
  have htell (result : Except Fault Answer) :
      session.CallEffect number request (session'.tell number result) :=
    { callers := ⟨_, callers_setPhase_new hfresh hcallers _, .told result hnext⟩
      sent := hsent
      pending := hpending
      line := fun _ hserves => hwriters ▸ hserves }
  unfold submit
  split
  · cases hwire : command.wire with
    | error cause => exact htell _
    | ok text =>
      refine ⟨⟨.queued session.nextId text.toUTF8, ?_, ?_⟩, hsent, hpending, ?_⟩
      · rw [← hnext]
        exact callers_setPhase_new hfresh hcallers (.queued session'.nextId text.toUTF8)
      · exact .queued ⟨command, text, hcommand, hwire, rfl⟩ (congrArg CommandId.next hnext)
      · intro number hserves
        exact Line.serves_join (hwriters ▸ hserves) _
  · exact htell _
  · exact htell _

theorem call_effect {number : Nat} (hfresh : number ∉ session.callers.map Caller.number)
    (request : Request) :
    session.CallEffect number request (session.call number request) := by
  have htell (result : Except Fault Answer) :
      (({ session with
          callers := session.callers ++ [⟨number, request, .watching⟩] } : Session).tell
            number result).callers = session.callers ++ [⟨number, request, .told result⟩] :=
    callers_setPhase_new hfresh rfl _
  unfold call
  dsimp only
  split
  · exact ⟨⟨.watching, rfl, .unsent (Or.inr rfl) rfl⟩, rfl, rfl, fun _ hserves => hserves⟩
  · refine ⟨⟨.detaching, ?_, .unsent (Or.inl rfl) rfl⟩, rfl, rfl, ?_⟩
    · exact callers_setPhase_new hfresh rfl .detaching
    · intro number hserves
      exact Line.serves_join hserves _
  · split
    · exact ⟨⟨_, htell _, .told _ rfl⟩, rfl, rfl, fun _ hserves => hserves⟩
    · exact submit_effect rfl hfresh rfl rfl rfl rfl rfl
  · split
    · exact ⟨⟨_, htell _, .told _ rfl⟩, rfl, rfl, fun _ hserves => hserves⟩
    · next hcommand => exact submit_effect hcommand hfresh rfl rfl rfl rfl rfl
    · exact ⟨⟨_, htell _, .told _ rfl⟩, rfl, rfl, fun _ hserves => hserves⟩

end Session

end EventSocket
