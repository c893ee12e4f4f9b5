import EventSocket.Proofs.Command.Checks
import EventSocket.Proofs.Session.Refusal
import EventSocket.Proofs.Session.Settlement

/-!
What is refused before anything is sent: requests with texts that cannot be sent, and for events in
a form that is not read. Nothing is left of such a call but what its caller has been told, and no
other call is ever told so. A command that cannot be written leaves the others alone as well.
-/

namespace EventSocket

/-- The fault is found before anything is sent. -/
def Fault.isLocal : Fault → Bool
  | invalidCommand _ | unsupportedEventFormat _ => true
  | _ => false

theorem Fault.not_local_of_late {fault : Fault} (h : fault.isLate = true) :
    fault.isLocal = false := by
  cases fault <;> first | rfl | cases h

namespace CallerPhase

/-- The command that is being written, with the bytes that are left of it. -/
def underway? : CallerPhase → Option (CommandId × ByteArray)
  | writing id rest => some (id, rest)
  | _ => none

theorem writing_of_underway? {phase : CallerPhase} {id : CommandId} {rest : ByteArray}
    (h : phase.underway? = some (id, rest)) : phase = .writing id rest := by
  cases phase <;> cases h
  rfl

end CallerPhase

namespace Request

/-- The form in which the request asks for events. -/
def format? : Request → Option EventFormat
  | confirm (.event format _) | confirm (.myevents format _) => some format
  | _ => none

/-- The texts that the request gives. -/
def fields (request : Request) : List CommandField :=
  (request.command?.map Command.fields).getD []

/-- The request asks for what is not read, or gives a text that cannot be sent. -/
def Unfit (request : Request) : Prop :=
  (∃ format, request.format? = some format ∧ format ≠ .plain) ∨
    ∃ field ∈ request.fields, field.Unfit

def textFault? (request : Request) : Option Fault :=
  (request.fields.findSome? CommandField.fault?).map .invalidCommand

/-- What is said about a request that is refused before anything is sent. -/
def rejection? (request : Request) : Option Fault :=
  match request.format? with
  | some format =>
    if format = .plain then request.textFault? else some (.unsupportedEventFormat format.word)
  | none => request.textFault?

theorem isSome_rejection? {request : Request} : request.rejection?.isSome ↔ request.Unfit := by
  have hfields : request.textFault?.isSome ↔ ∃ field ∈ request.fields, field.Unfit := by
    simp only [textFault?, Option.isSome_map, List.findSome?_isSome_iff,
      CommandField.isSome_fault?]
  unfold rejection? Unfit
  cases request.format? with
  | none => simpa using hfields
  | some format =>
    by_cases hplain : format = .plain
    · simpa [hplain] using hfields
    · simp [hplain]

theorem isLocal_of_rejection? {request : Request} {fault : Fault}
    (h : request.rejection? = some fault) : fault.isLocal = true := by
  have htext (h : request.textFault? = some fault) : fault.isLocal = true := by
    obtain ⟨cause, -, rfl⟩ := Option.map_eq_some_iff.mp h
    rfl
  unfold rejection? at h
  split at h
  · split at h
    · exact htext h
    · cases h
      rfl
  · exact htext h

/-- The form is looked at first. -/
theorem rejection?_eq (request : Request) :
    request.rejection? = request.refusal?.or request.textFault? := by
  unfold rejection? refusal? format?
  cases request with
  | confirm command =>
    cases command with
    | event format names | myevents format leg => cases format <;> simp
    | _ => simp
  | _ => simp

theorem wire_of_textFault? {request : Request} {command : Command}
    (hcommand : request.command? = some command) :
    (∃ cause, command.wire = .error cause ∧ request.textFault? = some (.invalidCommand cause)) ∨
      ∃ text, command.wire = .ok text ∧ request.textFault? = none := by
  have hfault : request.textFault? =
      (command.fields.findSome? CommandField.fault?).map .invalidCommand := by
    simp [textFault?, fields, hcommand]
  cases hwire : command.wire with
  | error cause =>
    exact Or.inl ⟨cause, rfl, by rw [hfault, Command.wire_eq_error_iff.mp hwire]; rfl⟩
  | ok text =>
    refine Or.inr ⟨text, rfl, ?_⟩
    rw [hfault, Option.map_eq_none_iff]
    cases hfind : command.fields.findSome? CommandField.fault? with
    | none => rfl
    | some cause =>
      rw [Command.wire_eq_error_iff.mpr hfind] at hwire
      cases hwire

theorem textFault?_of_none {request : Request} (hnone : request.command? = none) :
    request.textFault? = none := by
  simp [textFault?, fields, hnone]

end Request

namespace Session

variable {session session' : Session} {caller : Caller} {request : Request} {command : Command}
  {fault : Fault} {log : List Happening} {opening : Opening} {channelData : Option Event}
  {number now most : Nat} {move : Move} {id : CommandId} {rest : ByteArray} {text : String}

/-- The session with a caller that is told the result as soon as it calls, and nothing else. -/
def answering (session : Session) (number : Nat) (request : Request)
    (result : Except Fault Answer) : Session :=
  { session with callers := session.callers ++ [⟨number, request, .told result⟩] }

theorem tell_enroll (hfresh : number ∉ session.callers.map Caller.number)
    (result : Except Fault Answer) :
    (session.enroll number request).tell number result =
      session.answering number request result := by
  have hcallers := callers_setPhase_new hfresh (rfl : (session.enroll number request).callers = _)
    (.told result)
  rw [answering, ← hcallers]
  rfl

theorem submit_of_unsendable (hready : session.state = .ready) {cause : CommandFault}
    (hwire : command.wire = .error cause) (number : Nat) :
    session.submit number command = session.tell number (.error (.invalidCommand cause)) := by
  simp only [submit, hready, hwire]

/-- Of a call that is refused for what it asks, nothing is left but the answer. -/
theorem call_of_rejection? (hready : session.state = .ready)
    (hfresh : number ∉ session.callers.map Caller.number)
    (hfault : request.rejection? = some fault) :
    session.call number request = session.answering number request (.error fault) := by
  rw [← tell_enroll hfresh]
  have htext := hfault
  rw [Request.rejection?_eq] at htext
  unfold call
  dsimp only
  split
  · cases hfault
  · cases hfault
  · cases hfault
  · split
    · next hrefusal =>
      rw [hrefusal, Option.some_or] at htext
      obtain rfl := Option.some.inj htext
      rfl
    · next command hrefusal hcommand =>
      rw [hrefusal, Option.none_or] at htext
      rcases Request.wire_of_textFault? hcommand with ⟨cause, hwire, hcause⟩ | ⟨text, -, hnone⟩
      · obtain rfl := Option.some.inj (hcause.symm.trans htext)
        have henrolled : (session.enroll number request).state = .ready := hready
        exact submit_of_unsendable henrolled hwire number
      · rw [hnone] at htext
        cases htext
    · next hrefusal hcommand =>
      rw [hrefusal, Option.none_or, Request.textFault?_of_none hcommand] at htext
      cases htext

/-- Whoever has been told such a fault has asked for what cannot be sent. -/
def Sincere (session : Session) : Prop :=
  ∀ caller ∈ session.callers, ∀ fault, caller.phase = .told (.error fault) →
    fault.isLocal = true → caller.request.Unfit

theorem Sincere.join {phase : CallerPhase} (h : session.Sincere)
    (hcallers : session'.callers = session.callers ++ [⟨number, request, phase⟩])
    (hphase : ∀ fault, phase = .told (.error fault) → fault.isLocal = true → request.Unfit) :
    session'.Sincere := by
  intro caller hcaller
  rw [hcallers, List.mem_append, List.mem_singleton] at hcaller
  rcases hcaller with hold | rfl
  · exact h caller hold
  · exact hphase

theorem Sincere.tell {result : Except Fault Answer} (h : session.Sincere)
    (hfresh : number ∉ session.callers.map Caller.number)
    (hresult : ∀ fault, result = .error fault → fault.isLocal = true → request.Unfit) :
    ((session.enroll number request).tell number result).Sincere := by
  refine h.join (callers_setPhase_new hfresh rfl _) ?_
  rintro fault ⟨rfl⟩
  exact hresult fault rfl

theorem Sincere.submit (h : session.Sincere)
    (hfresh : number ∉ session.callers.map Caller.number)
    (hrefusal : request.refusal? = none) (hcommand : request.command? = some command) :
    ((session.enroll number request).submit number command).Sincere := by
  unfold Session.submit
  split
  · split
    · next cause hwire =>
      refine h.tell hfresh ?_
      rintro fault ⟨rfl⟩ -
      rw [← Request.isSome_rejection?, Request.rejection?_eq, hrefusal, Option.none_or]
      rcases Request.wire_of_textFault? hcommand with ⟨cause, -, hcause⟩ | ⟨text, hsent, -⟩
      · rw [hcause]
        rfl
      · rw [hwire] at hsent
        cases hsent
    · exact h.join (callers_setPhase_new hfresh rfl _) (by simp)
  · exact h.tell hfresh (by rintro fault ⟨rfl⟩ ⟨⟩)
  · exact h.tell hfresh (by rintro fault ⟨rfl⟩ ⟨⟩)

theorem Sincere.call (h : session.Sincere)
    (hfresh : number ∉ session.callers.map Caller.number) (request : Request) :
    (session.call number request).Sincere := by
  unfold Session.call
  dsimp only
  split
  · exact h.join rfl (by simp)
  · exact h.join (callers_setPhase_new hfresh rfl _) (by simp)
  · split
    · exact h.tell hfresh (by simp)
    · have hasked : ({ session with closeRequested := true } : Session).Sincere := h
      exact hasked.submit hfresh rfl rfl
  · split
    · next hrefusal =>
      refine h.tell hfresh ?_
      rintro fault ⟨rfl⟩ -
      rw [← Request.isSome_rejection?, Request.rejection?_eq, hrefusal]
      rfl
    · next hrefusal hcommand => exact h.submit hfresh hrefusal hcommand
    · exact h.tell hfresh (by simp)

theorem Sincere.perform (h : session.Sincere)
    (hnumbers : (session.callers.map Caller.number).Nodup)
    (hfresh : ∀ number request, move = .call number request →
      number ∉ session.callers.map Caller.number)
    (hmove : session.perform move = some session') : session'.Sincere := by
  cases moves_of_perform hmove with
  | call number request => exact h.call (hfresh number request rfl) request
  | caller hfound hturn =>
    obtain ⟨phase, hturned, hlate⟩ := turned_late hturn
    intro other hother fault hphase hlocal
    rcases hturned.mem hnumbers (mem_of_caller? hfound).1 hother with ⟨hold, -⟩ | rfl
    · exact h other hold fault hphase hlocal
    · rw [Fault.not_local_of_late (hlate fault hphase)] at hlocal
      cases hlocal
  | _ => exact fun caller hcaller => h caller (callers_subset (by simp) (by simp) hmove hcaller)

theorem Run.sincere (run : (opening.session channelData).Run log session) : session.Sincere := by
  induction run with
  | start => exact fun caller hcaller => absurd hcaller List.not_mem_nil
  | step run move hfresh hmove ih =>
    have hnumbered := (coherent_session run).numbered
    refine ih.perform hnumbered.callers ?_ hmove
    rintro number request rfl
    exact hnumbered.not_mem_numbers hfresh

/-- A caller whose command could not be written takes it back. Nothing else changes for the commands
that wait for replies or have been settled, nor is anything sent. -/
structure TakesBack (session : Session) (caller : Caller) (id : CommandId) (text : String)
    (session' : Session) : Prop where
  callers : session'.callers = (session.tell caller.number (.error (.io text))).callers
  transport : session'.transport = session.transport
  state : session'.state = session.state
  nextId : session'.nextId = session.nextId
  waiting : session'.pending.waiting = session.pending.waiting.filter (· ≠ id)
  settled : ∀ other, other ≠ id →
    session'.pending.settlement? other = session.pending.settlement? other
  closed : session'.pending.closed = session.pending.closed
  desynced : session'.pending.desynced = session.pending.desynced

theorem takesBack (hphase : caller.phase = .writing id rest)
    (hwrite : (session.transport.write (rest.extract 0 most)).1 = .failed text) :
    ∃ session', session.callerTurn now most caller = some session' ∧
      session.TakesBack caller id text session' := by
  have hturn : session.callerTurn now most caller =
      some (({ session with pending := session.pending.withdraw id }.leaveLine
        (.caller caller.number)).tell caller.number (.error (.io text))) := by
    simp only [callerTurn, hphase, writeOn, hwrite, takeReply_io]
  exact ⟨_, hturn, {
    callers := rfl
    transport := rfl
    state := rfl
    nextId := rfl
    waiting := Pending.waiting_withdraw ..
    settled := fun _ => Pending.settlement?_withdraw
    closed := Pending.closed_withdraw ..
    desynced := Pending.desynced_withdraw .. }⟩

/-- No other caller has a command with the number of the one that is being written. -/
theorem Coherent.ids_of_writing {start : Session} (h : Coherent start log session)
    (hcaller : caller ∈ session.callers) (hphase : caller.phase = .writing id rest) :
    ∀ send ∈ sends log, send.number ≠ caller.number → send.id ≠ id := by
  have hplaced := h.placed caller hcaller
  simp only [Placed, hphase] at hplaced
  obtain ⟨-, before, wire, hlast, -⟩ := hplaced
  have hown : ⟨caller.number, caller.request, id, wire⟩ ∈ sends log := by simp [hlast]
  rintro send hsend hother rfl
  have hsame := List.inj_on_of_nodup_map h.identified.ids hsend hown rfl
  exact hother (congrArg Send.number hsame)

/-- On a ready session a call is refused for what it asks if and only if that cannot be sent, and
nothing is left of it then. Nobody is told so later, and a command that cannot be written leaves the
commands of others alone. -/
structure Discerning (log : List Happening) (session : Session) : Prop where
  exact : session.state = .ready → ∀ number request, .called number ∉ log →
    ((∃ fault, fault.isLocal = true ∧
      session.call number request = session.answering number request (.error fault)) ↔
        request.Unfit)
  named : session.state = .ready → ∀ number request, .called number ∉ log → ∀ fault,
    request.rejection? = some fault →
      session.call number request = session.answering number request (.error fault)
  sincere : session.Sincere
  takesBack : ∀ caller ∈ session.callers, ∀ id rest, caller.phase = .writing id rest →
    (∀ send ∈ sends log, send.number ≠ caller.number → send.id ≠ id) ∧
      ∀ now most text, (session.transport.write (rest.extract 0 most)).1 = .failed text →
        ∃ session', session.perform (.caller caller.number now most) = some session' ∧
          session.TakesBack caller id text session'

/-- Whatever has happened to a session, it refuses just what cannot be sent. -/
theorem refuses_exactly_unfit (run : (opening.session channelData).Run log session) :
    session.Discerning log := by
  have hcoherent := coherent_session run
  constructor
  case exact =>
    intro hready number request hnew
    have hfresh := hcoherent.numbered.not_mem_numbers hnew
    constructor
    · rintro ⟨fault, hlocal, hcall⟩
      have hsincere := run.sincere.call hfresh request
      refine hsincere ⟨number, request, .told (.error fault)⟩ ?_ fault rfl hlocal
      rw [hcall]
      exact List.mem_append_right _ (List.mem_singleton.mpr rfl)
    · intro hunfit
      obtain ⟨fault, hfault⟩ := Option.isSome_iff_exists.mp (Request.isSome_rejection?.mpr hunfit)
      exact ⟨fault, Request.isLocal_of_rejection? hfault, call_of_rejection? hready hfresh hfault⟩
  case named =>
    intro hready number request hnew fault hfault
    exact call_of_rejection? hready (hcoherent.numbered.not_mem_numbers hnew) hfault
  case sincere => exact run.sincere
  case takesBack =>
    intro caller hcaller id rest hphase
    refine ⟨hcoherent.ids_of_writing hcaller hphase, ?_⟩
    intro now most text hwrite
    obtain ⟨session', hturn, htakes⟩ := Session.takesBack hphase hwrite
    refine ⟨session', ?_, htakes⟩
    rw [perform, caller?_of_mem hcoherent.numbered.callers hcaller]
    exact hturn

/-- One command waits for its reply, and another is being written as the connection breaks. -/
def brokenWrite : List Move :=
  [.call 1 .noEvents, .caller 1 0 10, .caller 1 0 10, .call 2 .noLog, .caller 2 0 10,
    .network { Transport.new with
      sent := "noevents\n\n".toUTF8, writeFailure := some "Broken pipe" }]

theorem refuses_exactly_unfit_broken_write :
    ∃ log session, (outboundStart.session none).Run log session ∧
        session.pending.waiting = [⟨1⟩, ⟨2⟩] ∧
        session.call 3 (.api " \t") =
          session.answering 3 (.api " \t") (.error (.invalidCommand (.empty "api command"))) ∧
        ∃ caller session', caller.number = 2 ∧ session.TakesBack caller ⟨2⟩ "Broken pipe" session' ∧
          session'.pending.waiting = [⟨1⟩] := by
  have hmoves : ((outboundStart.session none).follow [] brokenWrite).map (fun reached =>
        ((reached.2.state, reached.2.pending.waiting), decide (.called 3 ∈ reached.1),
          (reached.2.transport.write ("nolog\n\n".toUTF8.extract 0 10)).1,
          (reached.2.caller? 2).bind fun caller => caller.phase.underway?)) =
      some ((.ready, [⟨1⟩, ⟨2⟩]), false, .failed "Broken pipe",
        some (⟨2⟩, "nolog\n\n".toUTF8)) := by
    decide +kernel
  obtain ⟨⟨log, session⟩, hfollow, hreached⟩ := Option.map_eq_some_iff.mp hmoves
  simp only [Prod.mk.injEq] at hreached
  obtain ⟨⟨hready, hwaiting⟩, hnew, hwrite, hwriter⟩ := hreached
  obtain ⟨caller, hfound, hphase⟩ := Option.bind_eq_some_iff.mp hwriter
  obtain ⟨hcaller, hnumber⟩ := mem_of_caller? hfound
  have run := Run.start.follow hfollow
  have hdiscerning := refuses_exactly_unfit run
  have hcall := hdiscerning.named hready 3 (.api " \t") (of_decide_eq_false hnew) _ rfl
  have hwriting := CallerPhase.writing_of_underway? hphase
  obtain ⟨-, hfails⟩ := hdiscerning.takesBack caller hcaller _ _ hwriting
  obtain ⟨session', -, htakes⟩ := hfails 0 10 _ hwrite
  refine ⟨log, session, run, hwaiting, hcall, caller, session', hnumber, htakes, ?_⟩
  rw [htakes.waiting, hwaiting]
  rfl

end Session

end EventSocket
