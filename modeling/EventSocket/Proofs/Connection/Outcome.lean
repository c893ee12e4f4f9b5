import EventSocket.Proofs.Connection.Handshake

/-!
What an opening comes to. A session is ready exactly if the switch has said so, in what has been
heard, to a command that has been written whole; whatever else an opening comes to has a cause that
can be seen from outside.
-/

namespace EventSocket

/-- The switch has asked for the credentials, they have been sent, and this is what it says. -/
structure Answered (log : List Occurrence) (credentials : Credentials) (text : String) : Prop where
  valid : credentials.Valid
  wrote : ∃ wire, credentials.command.wire = .ok wire ∧ wroteBytes log = Text.codes wire
  heard : ∃ greeting reply more, framesHeard log = greeting :: reply :: more ∧
    greeting.kind = .authRequest ∧ reply.kind = .commandReply ∧ reply.replyText? = some text

/-- The switch has let the session in. -/
inductive Granted (log : List Occurrence) : Handshake → Option Event → Prop
  | inbound {credentials : Credentials} {text : String} (hanswered : Answered log credentials text)
      (hmark : okMark.toList <+: text.toList) : Granted log (.inbound credentials) none
  | outbound {reply : Frame} {more : List Frame} {wire : String} {event : Event}
      (hwire : Command.connect.wire = .ok wire) (hwrote : wroteBytes log = Text.codes wire)
      (hframes : framesHeard log = reply :: more) (hreply : reply.kind = .commandReply)
      (hevent : Event.ofChannelData reply = .ok event) (htype : event.isType .channelData = true) :
      Granted log .outbound (some event)

/-- The switch has turned the credentials down. -/
inductive Rejected (log : List Occurrence) : Handshake → String → Prop
  | inbound {credentials : Credentials} {text : String} (hanswered : Answered log credentials text)
      (hmark : ¬ okMark.toList <+: text.toList) : Rejected log (.inbound credentials) text

/-- What is wrong with the reply to credentials. Only a rejection is passed on as it stands. -/
inductive RefusesCredentials (reply : Frame) : Fault → Prop
  | noReply (hkind : reply.kind ≠ .commandReply) :
      RefusesCredentials reply (.handshake (.unexpected .authReply reply.summary))
  | noText (hkind : reply.kind = .commandReply) (htext : reply.replyText? = none) :
      RefusesCredentials reply (.handshake .noReplyText)
  | rejected (hkind : reply.kind = .commandReply) {text : String}
      (htext : reply.replyText? = some text) (hmark : ¬ okMark.toList <+: text.toList) :
      RefusesCredentials reply (.authentication text)

/-- What is wrong with the reply that should describe the channel. -/
inductive LacksChannel (reply : Frame) : Fault → Prop
  | noReply (hkind : reply.kind ≠ .commandReply) :
      LacksChannel reply (.handshake (.unexpected .connectReply reply.summary))
  | unusable (hkind : reply.kind = .commandReply) {cause : Fault}
      (hevent : Event.ofChannelData reply = .error cause) :
      LacksChannel reply (.handshake (.channelData cause.message))
  | otherEvent (hkind : reply.kind = .commandReply) {event : Event}
      (hevent : Event.ofChannelData reply = .ok event)
      (htype : event.isType .channelData = false) :
      LacksChannel reply (.handshake (.notChannelData event.name))

/-- Why an opening by the plan is given up, from what has been heard and what it had come to. -/
inductive GivesUp (plan : OpeningPlan) (began : Nat) (log : List Occurrence) (attempt : Opening)
    (now : Nat) : Fault → Prop
  | noDomain {name secret : String} (hmode : plan.handshake = .inbound (.user name secret))
      (hname : '@' ∉ name.toList) :
      GivesUp plan began log attempt now (.authentication ("Invalid username format '" ++ name ++
        "': must be user@domain (e.g., admin@default)"))
  | unreachable {text : String} (hlink : attempt.link = .unreachable text) :
      GivesUp plan began log attempt now (.io text)
  | unsendable {credentials : Credentials} {cause : CommandFault}
      (hmode : plan.handshake = .inbound credentials) (hvalid : ¬ credentials.Valid)
      (hwire : credentials.command.wire = .error cause) :
      GivesUp plan began log attempt now (.invalidCommand cause)
  | malformed {fault : Fault}
      (hfault : (DecoderView.fresh (heardBytes log)).drain.fault? = some fault) :
      GivesUp plan began log attempt now fault
  | overfull {bytes : ByteArray}
      (hroom : bufferLimit < attempt.decoder.next.2.view.ahead.length + bytes.size) :
      GivesUp plan began log attempt now (.stream (.bufferFull bufferLimit))
  | noGreeting {credentials : Credentials} {frame : Frame} {more : List Frame}
      (hmode : plan.handshake = .inbound credentials) (hframes : framesHeard log = frame :: more)
      (hkind : frame.kind ≠ .authRequest) :
      GivesUp plan began log attempt now (.handshake (.unexpected .authRequest frame.summary))
  | refused {credentials : Credentials} {greeting reply : Frame} {more : List Frame}
      {fault : Fault} (hmode : plan.handshake = .inbound credentials)
      (hframes : framesHeard log = greeting :: reply :: more)
      (hrefuses : RefusesCredentials reply fault) : GivesUp plan began log attempt now fault
  | noChannel {reply : Frame} {more : List Frame} {fault : Fault}
      (hmode : plan.handshake = .outbound) (hframes : framesHeard log = reply :: more)
      (hlacks : LacksChannel reply fault) : GivesUp plan began log attempt now fault
  | unthreaded {data : Option Event} {text : String}
      (hgranted : Granted log plan.handshake data) (hrefused : plan.threads.refusal? = some text) :
      GivesUp plan began log attempt now (.io text)
  | readFailed {text : String} (hnone : attempt.transport.available = 0)
      (hfailure : attempt.transport.readFailure = some text) :
      GivesUp plan began log attempt now (.io text)
  | ended (hnone : attempt.transport.available = 0) (hended : attempt.transport.ended = true) :
      GivesUp plan began log attempt now .connectionClosed
  | writeFailed {text : String} (hcause : attempt.transport.writeFailure = some text ∨
      attempt.transport.shut = true ∧ text = Transport.writeAfterShutdown) :
      GivesUp plan began log attempt now (.io text)
  | timeout (hlate : began + plan.settings.timeout ≤ now) (hstarved : attempt.Starved) :
      GivesUp plan began log attempt now (.timeout plan.settings.timeout)

theorem beginsWith_iff {mark text : String} :
    beginsWith mark text = true ↔ mark.toList <+: text.toList :=
  List.isPrefixOf_iff_prefix

section

variable {plan : OpeningPlan} {began now : Nat} {log log' : List Occurrence} {attempt : Opening}
  {handshake : Handshake} {data : Option Event} {fault : Fault}

theorem Granted.wrote (h : Granted log handshake data) :
    ∃ wire, handshake.command.wire = .ok wire ∧ wroteBytes log = Text.codes wire := by
  cases h with
  | inbound hanswered => exact hanswered.wrote
  | outbound hwire hwrote => exact ⟨_, hwire, hwrote⟩

theorem Granted.not_rejected (h : Granted log handshake data) {text : String} :
    ¬ Rejected log handshake text := by
  intro hrejected
  cases h with
  | inbound hanswered hmark =>
    cases hrejected with
    | inbound hanswered' hmark' =>
      obtain ⟨greeting, reply, more, hframes, -, -, htext⟩ := hanswered.heard
      obtain ⟨greeting', reply', more', hframes', -, -, htext'⟩ := hanswered'.heard
      rw [hframes, List.cons.injEq, List.cons.injEq] at hframes'
      obtain ⟨-, rfl, -⟩ := hframes'
      obtain rfl := Option.some.inj (htext.symm.trans htext')
      exact hmark' hmark
  | outbound => cases hrejected

theorem framesHeard_congr (hheard : heardBytes log' = heardBytes log) :
    framesHeard log' = framesHeard log := by
  rw [framesHeard, hheard, framesHeard]

/-- Only what has been heard and written counts. -/
theorem Answered.congr {credentials : Credentials} {text : String}
    (h : Answered log credentials text) (hheard : heardBytes log' = heardBytes log)
    (hwrote : wroteBytes log' = wroteBytes log) : Answered log' credentials text :=
  ⟨h.valid, hwrote ▸ h.wrote, framesHeard_congr hheard ▸ h.heard⟩

theorem Granted.congr (h : Granted log handshake data) (hheard : heardBytes log' = heardBytes log)
    (hwrote : wroteBytes log' = wroteBytes log) : Granted log' handshake data := by
  cases h with
  | inbound hanswered hmark => exact .inbound (hanswered.congr hheard hwrote) hmark
  | outbound hwire hwritten hframes hreply hevent htype =>
    exact .outbound hwire (hwrote.trans hwritten) ((framesHeard_congr hheard).trans hframes) hreply
      hevent htype

theorem Rejected.congr {text : String} (h : Rejected log handshake text)
    (hheard : heardBytes log' = heardBytes log) (hwrote : wroteBytes log' = wroteBytes log) :
    Rejected log' handshake text := by
  cases h with
  | inbound hanswered hmark => exact .inbound (hanswered.congr hheard hwrote) hmark

theorem GivesUp.congr (h : GivesUp plan began log attempt now fault)
    (hheard : heardBytes log' = heardBytes log) (hwrote : wroteBytes log' = wroteBytes log) :
    GivesUp plan began log' attempt now fault := by
  have hframes' := framesHeard_congr hheard
  cases h with
  | noDomain hmode hname => exact .noDomain hmode hname
  | unreachable hlink => exact .unreachable hlink
  | unsendable hmode hvalid hwire => exact .unsendable hmode hvalid hwire
  | malformed hfault => exact .malformed (hheard ▸ hfault)
  | overfull hroom => exact .overfull hroom
  | noGreeting hmode hframes hkind => exact .noGreeting hmode (hframes'.trans hframes) hkind
  | refused hmode hframes hrefuses => exact .refused hmode (hframes'.trans hframes) hrefuses
  | noChannel hmode hframes hlacks => exact .noChannel hmode (hframes'.trans hframes) hlacks
  | unthreaded hgranted hrefused => exact .unthreaded (hgranted.congr hheard hwrote) hrefused
  | readFailed hnone hfailure => exact .readFailed hnone hfailure
  | ended hnone hended => exact .ended hnone hended
  | writeFailed hcause => exact .writeFailed hcause
  | timeout hlate hstarved => exact .timeout hlate hstarved

end

namespace Opening

variable {plan : OpeningPlan} {began : Nat} {start : Transport} {log occurred : List Occurrence}
  {attempt attempt' : Opening} {now most : Nat} {reply : Frame} {data : Option Event}
  {fault : Fault}

theorem checkAuthReply_of_mark {text : String} (hkind : reply.kind = .commandReply)
    (htext : reply.replyText? = some text) (hmark : okMark.toList <+: text.toList) :
    checkAuthReply reply = .ok () := by
  simp [checkAuthReply, hkind, htext, beginsWith_iff.mpr hmark]

theorem checkAuthReply_cases (reply : Frame) :
    (∃ text, checkAuthReply reply = .ok () ∧ reply.kind = .commandReply ∧
      reply.replyText? = some text ∧ okMark.toList <+: text.toList) ∨
      ∃ fault, checkAuthReply reply = .error fault ∧ RefusesCredentials reply fault := by
  by_cases hkind : reply.kind = .commandReply
  · cases htext : reply.replyText? with
    | none =>
      exact Or.inr ⟨_, by simp only [checkAuthReply, hkind, htext], .noText hkind htext⟩
    | some text =>
      by_cases hmark : okMark.toList <+: text.toList
      · exact Or.inl ⟨text, checkAuthReply_of_mark hkind htext hmark, hkind, rfl, hmark⟩
      · have hbegins : ¬ beginsWith okMark text = true := mt beginsWith_iff.mp hmark
        refine Or.inr ⟨.authentication text, ?_, .rejected hkind htext hmark⟩
        simp only [checkAuthReply, hkind, htext, if_neg hbegins]
  · refine Or.inr ⟨_, ?_, .noReply hkind⟩
    unfold checkAuthReply
    split <;> first | contradiction | rfl

theorem channelData_of_type {event : Event} (hkind : reply.kind = .commandReply)
    (hevent : Event.ofChannelData reply = .ok event) (htype : event.isType .channelData = true) :
    channelData reply = .ok event := by
  simp [channelData, hkind, hevent, htype]

theorem channelData_cases (reply : Frame) :
    (∃ event, channelData reply = .ok event ∧ reply.kind = .commandReply ∧
      Event.ofChannelData reply = .ok event ∧ event.isType .channelData = true) ∨
      ∃ fault, channelData reply = .error fault ∧ LacksChannel reply fault := by
  by_cases hkind : reply.kind = .commandReply
  · cases hevent : Event.ofChannelData reply with
    | error cause =>
      exact Or.inr ⟨_, by simp only [channelData, hkind, hevent], .unusable hkind hevent⟩
    | ok event =>
      cases htype : event.isType .channelData with
      | true => exact Or.inl ⟨event, channelData_of_type hkind hevent htype, hkind, rfl, htype⟩
      | false =>
        refine Or.inr ⟨_, ?_, .otherEvent hkind hevent htype⟩
        simp only [channelData, hkind, hevent, htype, Bool.false_eq_true, ↓reduceIte]
  · refine Or.inr ⟨_, ?_, .noReply hkind⟩
    unfold channelData
    split <;> first | contradiction | rfl

theorem framesHeard_took (log : List Occurrence) (frame : Frame) :
    framesHeard (log ++ [.took frame]) = framesHeard log := by
  simp [framesHeard]

theorem Underway.framesHeard_eq (h : Underway plan began start log attempt) :
    framesHeard log = tookFrames log ++ attempt.decoder.view.drain.frames := by
  rw [framesHeard, h.follows.drain_eq]
  rfl

theorem Underway.drain_of_frame (h : Underway plan began start log attempt) {frame : Frame}
    {decoder : Decoder} (hnext : attempt.decoder.next = (.ok (some frame), decoder)) :
    attempt.decoder.view.drain.frames = frame :: decoder.view.drain.frames := by
  obtain ⟨hview, -⟩ := Decoder.view_next h.sound hnext
  rw [DecoderView.drain_of_frame hview]
  rfl

/-- The frame that comes behind the credentials is the second that has been heard. -/
theorem Underway.reply_inbound (h : Underway plan began start log attempt)
    {credentials : Credentials} {frame : Frame} {decoder : Decoder}
    (hphase : attempt.phase = .replying) (hmode : attempt.handshake = .inbound credentials)
    (hnext : attempt.decoder.next = (.ok (some frame), decoder)) :
    ∃ greeting more wire, framesHeard (log ++ [.took frame]) = greeting :: frame :: more ∧
      greeting.kind = .authRequest ∧ credentials.check = .ok () ∧
      credentials.command.wire = .ok wire ∧ wroteBytes log = Text.codes wire := by
  have hstage := h.stage
  simp only [Stage, hphase, hmode] at hstage
  obtain ⟨hasked, wire, hwire, hwrote⟩ := hstage
  have hframes := h.framesHeard_eq
  rw [h.drain_of_frame hnext] at hframes
  generalize tookFrames log = took at hasked hframes
  cases hasked with
  | inbound hcheck hgreeting =>
    exact ⟨_, _, wire, (framesHeard_took _ _).trans hframes, hgreeting, hcheck, hwire, hwrote⟩

/-- The frame that comes behind the request for the channel is the first that has been heard. -/
theorem Underway.reply_outbound (h : Underway plan began start log attempt) {frame : Frame}
    {decoder : Decoder} (hphase : attempt.phase = .replying)
    (hmode : attempt.handshake = .outbound)
    (hnext : attempt.decoder.next = (.ok (some frame), decoder)) :
    ∃ more wire, framesHeard (log ++ [.took frame]) = frame :: more ∧
      Command.connect.wire = .ok wire ∧ wroteBytes log = Text.codes wire := by
  have hstage := h.stage
  simp only [Stage, hphase, hmode] at hstage
  obtain ⟨hasked, wire, hwire, hwrote⟩ := hstage
  have hframes := h.framesHeard_eq
  rw [h.drain_of_frame hnext] at hframes
  generalize tookFrames log = took at hasked hframes
  cases hasked with
  | outbound => exact ⟨_, wire, (framesHeard_took _ _).trans hframes, hwire, hwrote⟩

/-- The switch lets a session in by its reply and by nothing else. -/
theorem Underway.granted_of_accepts (h : Underway plan began start log attempt) {frame : Frame}
    {decoder : Decoder} (hphase : attempt.phase = .replying)
    (hnext : attempt.decoder.next = (.ok (some frame), decoder))
    (haccepts : Accepts attempt.handshake frame data) :
    Granted (log ++ [.took frame]) plan.handshake data := by
  rw [← h.handshake]
  generalize hmode : attempt.handshake = handshake at haccepts
  cases haccepts with
  | inbound hreply =>
    obtain ⟨greeting, more, wire, hframes, hgreeting, hcheck, hwire, hwrote⟩ :=
      h.reply_inbound hphase hmode hnext
    rcases checkAuthReply_cases frame with ⟨text, -, hkind, htext, hmark⟩ | ⟨fault, hfault, -⟩
    · exact .inbound ⟨Credentials.valid_iff.mpr ⟨hcheck, wire, hwire⟩,
        ⟨wire, hwire, by simpa using hwrote⟩, greeting, frame, more, hframes, hgreeting, hkind,
        htext⟩ hmark
    · rw [hreply] at hfault
      cases hfault
  | outbound hreply =>
    obtain ⟨more, wire, hframes, hwire, hwrote⟩ := h.reply_outbound hphase hmode hnext
    rcases channelData_cases frame with ⟨event, hok, hkind, hevent, htype⟩ | ⟨fault, hfault, -⟩
    · obtain rfl := Except.ok.inj (hok.symm.trans hreply)
      exact .outbound hwire (by simpa using hwrote) hframes hkind hevent htype
    · rw [hreply] at hfault
      cases hfault

/-- A turn makes an opening ready only for what the switch has said, and with all threads. -/
theorem Underway.granted_of_ready (h : Underway plan began start log attempt)
    (heffect : attempt.Effect now most (.ready attempt' data) occurred) :
    Granted (log ++ occurred) plan.handshake data ∧ plan.threads.refusal? = none := by
  cases heffect with
  | admitted hphase hnext haccepts hthreads =>
    exact ⟨h.granted_of_accepts hphase hnext haccepts, h.threads ▸ hthreads⟩

theorem Underway.next_of_frames (h : Underway plan began start log attempt) {frame : Frame}
    {more : List Frame} (hframes : attempt.decoder.view.drain.frames = frame :: more) :
    ∃ decoder, attempt.decoder.next = (.ok (some frame), decoder) := by
  cases hnext : attempt.decoder.next with
  | mk answer decoder =>
    obtain ⟨hview, -⟩ := Decoder.view_next h.sound hnext
    match answer with
    | .ok (some found) =>
      rw [h.drain_of_frame hnext] at hframes
      rw [(List.cons.inj hframes).1]
      exact ⟨decoder, rfl⟩
    | .ok none =>
      rw [DecoderView.drain_of_none hview] at hframes
      cases hframes
    | .error fault =>
      rw [DecoderView.drain_of_fault hview] at hframes
      cases hframes

/-- Behind the whole command there is nothing to do but to take the reply. -/
theorem Underway.replying (h : Underway plan began start log attempt) {wire : String}
    (hwire : plan.handshake.command.wire = .ok wire) (hwrote : wroteBytes log = Text.codes wire) :
    attempt.phase = .replying ∧ attempt.handshake.Asked (tookFrames log) := by
  have hstage := h.stage
  have hwritten : wroteBytes log ≠ [] := hwrote ▸ codes_wire_ne hwire
  rw [← h.handshake] at hwire
  -- In every other phase less than the whole command has been written.
  cases hphase : attempt.phase with
  | dialing =>
    simp only [Stage, hphase] at hstage
    exact absurd hstage.2.2 hwritten
  | greeting =>
    simp only [Stage, hphase] at hstage
    exact absurd hstage.2.2 hwritten
  | sending rest =>
    simp only [Stage, hphase] at hstage
    obtain ⟨-, wire', hwire', hcodes, hrest⟩ := hstage
    obtain rfl : wire' = wire := Except.ok.inj (hwire'.symm.trans hwire)
    rw [hwrote] at hcodes
    exact absurd (List.self_eq_append_right.mp hcodes) hrest
  | replying =>
    simp only [Stage, hphase] at hstage
    exact ⟨rfl, hstage.1⟩

/-- The next turn takes the answer of the switch to the credentials. -/
theorem Underway.turn_of_answered (h : Underway plan began start log attempt)
    {credentials : Credentials} {text : String} (hmode : plan.handshake = .inbound credentials)
    (hanswered : Answered log credentials text) :
    ∃ reply decoder, reply.kind = .commandReply ∧ reply.replyText? = some text ∧
      ∀ now most, attempt.turn now most = { attempt with decoder }.takeReply reply := by
  obtain ⟨wire, hwire, hwrote⟩ := hanswered.wrote
  obtain ⟨greeting, reply, more, hframes, -, hkind, htext⟩ := hanswered.heard
  obtain ⟨hphase, hasked⟩ := h.replying (by rw [hmode]; exact hwire) hwrote
  have hheard := h.framesHeard_eq
  rw [← h.handshake] at hmode
  rw [hmode] at hasked
  generalize tookFrames log = took at hasked hheard
  cases hasked with
  | inbound hcheck hgreeting =>
    rw [hframes] at hheard
    obtain ⟨decoder, hnext⟩ := h.next_of_frames (List.cons.inj hheard).2.symm
    exact ⟨reply, decoder, hkind, htext, turn_of_reply hphase hnext⟩

/-- Once the switch has let the session in, the next turn is the last. All it needs is threads. -/
theorem Underway.concludes_of_granted (h : Underway plan began start log attempt)
    (hgranted : Granted log plan.handshake data) (now most : Nat) :
    ∃ decoder, attempt.turn now most = { attempt with decoder }.conclude data := by
  generalize hmode : plan.handshake = handshake at hgranted
  cases hgranted with
  | inbound hanswered hmark =>
    obtain ⟨reply, decoder, hkind, htext, hturn⟩ := h.turn_of_answered hmode hanswered
    refine ⟨decoder, ?_⟩
    rw [← h.handshake] at hmode
    rw [hturn]
    simp only [takeReply, hmode, checkAuthReply_of_mark hkind htext hmark]
  | outbound hwire hwrote hframes hkind hevent htype =>
    obtain ⟨hphase, hasked⟩ := h.replying (by rw [hmode]; exact hwire) hwrote
    have hheard := h.framesHeard_eq
    rw [← h.handshake] at hmode
    rw [hmode] at hasked
    generalize tookFrames log = took at hasked hheard
    cases hasked with
    | outbound =>
      rw [hframes, List.nil_append] at hheard
      obtain ⟨decoder, hnext⟩ := h.next_of_frames hheard.symm
      refine ⟨decoder, ?_⟩
      rw [turn_of_reply hphase hnext]
      simp only [takeReply, hmode, channelData_of_type hkind hevent htype]

/-- While an opening waits, the switch has not let the session in. -/
theorem Underway.not_granted_of_waiting (h : Underway plan began start log attempt)
    (hturn : attempt.turn now most = .waiting) (data : Option Event) :
    ¬ Granted log plan.handshake data := by
  intro hgranted
  obtain ⟨decoder, hconcludes⟩ := h.concludes_of_granted hgranted now most
  exact conclude_ne_waiting _ data (hconcludes.symm.trans hturn)

/-- Once the switch has turned the credentials down, the next turn is the last. -/
theorem Underway.fails_of_rejected (h : Underway plan began start log attempt) {text : String}
    (hrejected : Rejected log plan.handshake text) (now most : Nat) :
    attempt.turn now most = .fails (.authentication text) := by
  generalize hmode : plan.handshake = handshake at hrejected
  cases hrejected with
  | inbound hanswered hmark =>
    obtain ⟨reply, decoder, hkind, htext, hturn⟩ := h.turn_of_answered hmode hanswered
    have hbegins : ¬ beginsWith okMark text = true := mt beginsWith_iff.mp hmark
    rw [← h.handshake] at hmode
    rw [hturn]
    simp only [takeReply, hmode, checkAuthReply, hkind, htext, if_neg hbegins]

theorem Fails.unheard (h : attempt.Fails now fault occurred) :
    heardBytes occurred = [] ∧ wroteBytes occurred = [] := by
  cases h <;> exact ⟨rfl, rfl⟩

/-- If an opening fails although the switch has let the session in, it is for want of a thread. -/
theorem Underway.refused_of_fails (h : Underway plan began start log attempt)
    (hturn : attempt.turn now most = .fails fault) (hfails : attempt.Fails now fault occurred)
    (hgranted : Granted (log ++ occurred) plan.handshake data) :
    ∃ text, plan.threads.refusal? = some text ∧ fault = .io text := by
  obtain ⟨hheard, hwrote⟩ := hfails.unheard
  have hbefore : Granted log plan.handshake data :=
    hgranted.congr (by simp [hheard]) (by simp [hwrote])
  obtain ⟨decoder, hconcludes⟩ := h.concludes_of_granted hbefore now most
  rw [hturn] at hconcludes
  rw [← h.threads]
  rcases conclude_cases { attempt with decoder } data with ⟨-, hready⟩ | ⟨text, hrefused, hfailed⟩
  · rw [hready] at hconcludes
    cases hconcludes
  · rw [hfailed] at hconcludes
    exact ⟨text, hrefused, OpeningTurn.fails.inj hconcludes⟩

theorem Underway.rejected_of_fails (h : Underway plan began start log attempt)
    (hturn : attempt.turn now most = .fails fault) (hfails : attempt.Fails now fault occurred)
    {text : String} (hrejected : Rejected (log ++ occurred) plan.handshake text) :
    fault = .authentication text := by
  obtain ⟨hheard, hwrote⟩ := hfails.unheard
  have hbefore : Rejected log plan.handshake text :=
    hrejected.congr (by simp [hheard]) (by simp [hwrote])
  have hfails' := h.fails_of_rejected hbefore now most
  rw [hturn] at hfails'
  exact OpeningTurn.fails.inj hfails'

theorem Underway.givesUp_of_readFault (h : Underway plan began start log attempt)
    (hfault : attempt.ReadFault fault) : GivesUp plan began log attempt now fault := by
  cases hfault with
  | malformed hnext =>
    have hview : attempt.decoder.view.next = (.error fault, attempt.decoder.next.2.view) := by
      rw [← (Decoder.next_view h.sound).1, hnext]
    refine .malformed ?_
    rw [h.follows.drain_eq, DecoderView.drain_of_fault hview]
    rfl
  | overfull hnext hroom => exact .overfull hroom
  | failed hnext hnone hfailure => exact .readFailed hnone hfailure
  | ended hnext hnone hended => exact .ended hnone hended

theorem Underway.givesUp_of_fails (h : Underway plan began start log attempt)
    (hfails : attempt.Fails now fault occurred) :
    GivesUp plan began (log ++ occurred) attempt now fault := by
  have hplan := h.handshake
  cases hfails with
  | @credentials credentials _ hphase hmode hcheck =>
    cases credentials with
    | password secret => cases hcheck
    | user name secret =>
      by_cases hdomain : '@' ∈ name.toList
      · simp [Credentials.check, hdomain] at hcheck
      · obtain rfl : _ = fault := by simpa [Credentials.check, hdomain] using hcheck
        exact .noDomain (hplan ▸ hmode) hdomain
  | unreachable hphase hlink => exact .unreachable hlink
  | unsendable hphase hmode hnext hkind hwire =>
    refine .unsendable (hplan ▸ hmode) ?_ hwire
    intro hvalid
    obtain ⟨-, wire, hwire'⟩ := Credentials.valid_iff.mp hvalid
    rw [hwire] at hwire'
    cases hwire'
  | noGreeting hphase hnext hkind =>
    have hstage := h.stage
    simp only [Stage, hphase] at hstage
    obtain ⟨⟨credentials, hmode, -⟩, htook, -⟩ := hstage
    have hframes := h.framesHeard_eq
    rw [h.drain_of_frame hnext, htook, List.nil_append] at hframes
    refine .noGreeting (hplan ▸ hmode) ((framesHeard_took _ _).trans hframes) ?_
    rcases hkind with hkind | houtbound
    · exact hkind
    · rw [hmode] at houtbound
      cases houtbound
  | @refused credentials frame decoder _ hphase hmode hnext hreply =>
    obtain ⟨greeting, more, wire, hframes, -⟩ := h.reply_inbound hphase hmode hnext
    rcases checkAuthReply_cases frame with ⟨text, hok, -⟩ | ⟨fault', hfault, hrefuses⟩
    · rw [hreply] at hok
      cases hok
    · obtain rfl : fault' = fault := Except.error.inj (hfault.symm.trans hreply)
      exact .refused (hplan ▸ hmode) hframes hrefuses
  | @noChannel frame decoder _ hphase hmode hnext hreply =>
    obtain ⟨more, wire, hframes, -⟩ := h.reply_outbound hphase hmode hnext
    rcases channelData_cases frame with ⟨event, hok, -⟩ | ⟨fault', hfault, hlacks⟩
    · rw [hreply] at hok
      cases hok
    · obtain rfl : fault' = fault := Except.error.inj (hfault.symm.trans hreply)
      exact .noChannel (hplan ▸ hmode) hframes hlacks
  | unthreaded hphase hnext haccepts hrefused =>
    exact .unthreaded (h.granted_of_accepts hphase hnext haccepts) (h.threads ▸ hrefused)
  | reading hphase hfault =>
    rw [List.append_nil]
    exact h.givesUp_of_readFault hfault
  | writing hphase hcause => exact .writeFailed hcause
  | expires hlate hstarved =>
    rw [h.settings]
    exact .timeout (h.deadline ▸ hlate) hstarved

end Opening

end EventSocket
