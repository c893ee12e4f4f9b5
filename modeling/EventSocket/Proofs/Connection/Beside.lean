import EventSocket.Proofs.Connection.Admission
import EventSocket.Proofs.Session.Behind

/-!
Two openings side by side that differ in the secret of their credentials. The secret is looked at
for a break of the line and goes into the line that is sent; whatever else an opening does is the
same in both, as long as the switch takes the last byte of either line at the same time.
-/

namespace EventSocket

def Credentials.withSecret (secret : String) : Credentials → Credentials
  | .password _ => .password secret
  | .user name _ => .user name secret

def Handshake.withSecret (secret : String) : Handshake → Handshake
  | .inbound credentials => .inbound (credentials.withSecret secret)
  | .outbound => .outbound

def OpeningPlan.withSecret (secret : String) (plan : OpeningPlan) : OpeningPlan :=
  { plan with handshake := plan.handshake.withSecret secret }

@[simp]
theorem Credentials.check_withSecret (credentials : Credentials) (secret : String) :
    (credentials.withSecret secret).check = credentials.check := by
  cases credentials <;> rfl

@[simp]
theorem Handshake.mode_withSecret (handshake : Handshake) (secret : String) :
    (handshake.withSecret secret).mode = handshake.mode := by
  cases handshake <;> rfl

/-- Both commands can be sent, or neither can and for the same cause. -/
inductive WiresAlike : Except CommandFault String → Except CommandFault String → Prop
  | sent (wire wire' : String) : WiresAlike (.ok wire) (.ok wire')
  | refused (cause : CommandFault) : WiresAlike (.error cause) (.error cause)

section Secrets

variable {secret secret' : String}

theorem Credentials.wires_alike (hbreaks : Text.OneLine secret ↔ Text.OneLine secret')
    (credentials : Credentials) :
    WiresAlike (credentials.withSecret secret).command.wire
      (credentials.withSecret secret').command.wire := by
  have hline : Text.hasLineBreak secret = Text.hasLineBreak secret' := by
    rw [← Text.hasLineBreak_eq_false_iff, ← Text.hasLineBreak_eq_false_iff] at hbreaks
    rw [Bool.eq_iff_iff, ← not_iff_not, Bool.not_eq_true, Bool.not_eq_true]
    exact hbreaks
  have hcheck : checkLine "password" secret = checkLine "password" secret' := by
    simp only [checkLine, hline]
  cases credentials with
  | password _ =>
    simp only [withSecret, command, Command.wire, Command.lines, hcheck]
    cases checkLine "password" secret' with
    | error cause => exact .refused cause
    | ok _ => exact .sent _ _
  | user name _ =>
    simp only [withSecret, command, Command.wire, Command.lines, hcheck]
    cases checkLine "user" name with
    | error cause => exact .refused cause
    | ok _ =>
      cases checkLine "password" secret' with
      | error cause => exact .refused cause
      | ok _ => exact .sent _ _

/-- While the line is sent, there is something of it left. -/
inductive OpeningPhase.Alike : OpeningPhase → OpeningPhase → Prop
  | dialing : Alike .dialing .dialing
  | greeting : Alike .greeting .greeting
  | sending {rest rest' : ByteArray} (hrest : rest.isEmpty = false)
      (hrest' : rest'.isEmpty = false) : Alike (.sending rest) (.sending rest')
  | replying : Alike .replying .replying

namespace Opening

def having (secret : String) (sent : ByteArray) (phase : OpeningPhase) (attempt : Opening) :
    Opening :=
  { attempt with
    handshake := attempt.handshake.withSecret secret
    transport := attempt.transport.sending sent
    phase }

section Having

variable (base : Opening) (secret : String) (sent : ByteArray) (phase : OpeningPhase)

@[simp]
theorem handshake_having :
    (base.having secret sent phase).handshake = base.handshake.withSecret secret := rfl

@[simp]
theorem link_having : (base.having secret sent phase).link = base.link := rfl

@[simp]
theorem threads_having : (base.having secret sent phase).threads = base.threads := rfl

@[simp]
theorem transport_having :
    (base.having secret sent phase).transport = base.transport.sending sent := rfl

@[simp]
theorem decoder_having : (base.having secret sent phase).decoder = base.decoder := rfl

end Having

/-- The two differ in the secret and in what has been sent of the line. -/
inductive Alike (secret secret' : String) : Opening → Opening → Prop
  | mk (base : Opening) (sent sent' : ByteArray) {phase phase' : OpeningPhase}
      (hphase : phase.Alike phase') :
      Alike secret secret' (base.having secret sent phase) (base.having secret' sent' phase')

end Opening

inductive OpeningTurn.Alike (secret secret' : String) : OpeningTurn → OpeningTurn → Prop
  | waiting : Alike secret secret' .waiting .waiting
  | goesOn {attempt attempt' : Opening} (halike : attempt.Alike secret secret' attempt') :
      Alike secret secret' (.goesOn attempt) (.goesOn attempt')
  | ready {attempt attempt' : Opening} (halike : attempt.Alike secret secret' attempt')
      (data : Option Event) : Alike secret secret' (.ready attempt data) (.ready attempt' data)
  | fails (fault : Fault) : Alike secret secret' (.fails fault) (.fails fault)

namespace Opening

variable {attempt attempt' : Opening} {phase phase' : OpeningPhase} {now most most' : Nat}

theorem isEmpty_toUTF8_of_wire {command : Command} {wire : String} (h : command.wire = .ok wire) :
    wire.toUTF8.isEmpty = false := by
  rw [← Bool.not_eq_true, ← octets_eq_nil_iff]
  exact codes_wire_ne h

theorem send_alike {command command' : Command} (hwires : WiresAlike command.wire command'.wire)
    (base : Opening) (sent sent' : ByteArray) :
    OpeningTurn.Alike secret secret' ((base.having secret sent phase).send command)
      ((base.having secret' sent' phase').send command') := by
  unfold send
  generalize hwire : command.wire = written at hwires ⊢
  generalize hwire' : command'.wire = written' at hwires ⊢
  cases hwires with
  | sent wire wire' =>
    exact .goesOn (.mk base sent sent'
      (.sending (isEmpty_toUTF8_of_wire hwire) (isEmpty_toUTF8_of_wire hwire')))
  | refused cause => exact .fails _

theorem dial_alike (base : Opening) (sent sent' : ByteArray) :
    OpeningTurn.Alike secret secret' (base.having secret sent .dialing).dial
      (base.having secret' sent' .dialing).dial := by
  unfold dial
  simp only [handshake_having, link_having]
  cases base.handshake with
  | inbound credentials =>
    simp only [Handshake.withSecret, Credentials.check_withSecret]
    cases credentials.check with
    | error fault => exact .fails fault
    | ok _ =>
      cases base.link with
      | pending => exact .waiting
      | unreachable text => exact .fails (.io text)
      | stream | dialed => exact .goesOn (.mk base sent sent' .greeting)
  | outbound =>
    have hconnect : WiresAlike Command.connect.wire Command.connect.wire := .sent _ _
    simp only [Handshake.withSecret]
    cases base.link with
    | pending => exact .waiting
    | unreachable text => exact .fails (.io text)
    | stream | dialed => exact send_alike hconnect base sent sent'

theorem greet_alike (hbreaks : Text.OneLine secret ↔ Text.OneLine secret') (base : Opening)
    (sent sent' : ByteArray) (frame : Frame) :
    OpeningTurn.Alike secret secret' ((base.having secret sent .greeting).greet frame)
      ((base.having secret' sent' .greeting).greet frame) := by
  unfold greet
  simp only [handshake_having]
  cases base.handshake with
  | inbound credentials =>
    simp only [Handshake.withSecret]
    cases frame.kind with
    | authRequest => exact send_alike (credentials.wires_alike hbreaks) base sent sent'
    | _ => exact .fails _
  | outbound => exact .fails _

theorem conclude_alike (base : Opening) (sent sent' : ByteArray) (data : Option Event) :
    OpeningTurn.Alike secret secret' ((base.having secret sent .replying).conclude data)
      ((base.having secret' sent' .replying).conclude data) := by
  unfold conclude
  simp only [threads_having]
  cases base.threads.refusal? with
  | some text => exact .fails (.io text)
  | none => exact .ready (.mk base sent sent' .replying) data

theorem takeReply_alike (base : Opening) (sent sent' : ByteArray) (frame : Frame) :
    OpeningTurn.Alike secret secret' ((base.having secret sent .replying).takeReply frame)
      ((base.having secret' sent' .replying).takeReply frame) := by
  unfold takeReply
  simp only [handshake_having]
  cases base.handshake with
  | inbound credentials =>
    simp only [Handshake.withSecret]
    cases checkAuthReply frame with
    | ok _ => exact conclude_alike base sent sent' none
    | error fault => exact .fails fault
  | outbound =>
    simp only [Handshake.withSecret]
    cases channelData frame with
    | ok event => exact conclude_alike base sent sent' (some event)
    | error fault => exact .fails fault

theorem readOn_alike (hphase : phase.Alike phase') (base : Opening) (sent sent' : ByteArray)
    (most : Nat) :
    OpeningTurn.Alike secret secret' ((base.having secret sent phase).readOn most)
      ((base.having secret' sent' phase').readOn most) := by
  unfold readOn
  simp only [transport_having, decoder_having, Transport.read_sending]
  cases base.transport.read most with
  | mk outcome transport =>
    cases outcome with
    | waiting => exact .waiting
    | failed text => exact .fails (.io text)
    | ended => exact .fails .connectionClosed
    | read bytes =>
      dsimp only
      cases base.decoder.feed bytes with
      | error fault => exact .fails fault
      | ok decoder => exact .goesOn (.mk { base with transport, decoder } sent sent' hphase)

theorem awaitFrame_alike {take : Opening → Frame → OpeningTurn} (hphase : phase.Alike phase')
    {sent sent' : ByteArray}
    (htake : ∀ base frame, OpeningTurn.Alike secret secret'
      (take (having secret sent phase base) frame) (take (having secret' sent' phase' base) frame))
    (base : Opening) (most : Nat) :
    OpeningTurn.Alike secret secret' ((base.having secret sent phase).awaitFrame most take)
      ((base.having secret' sent' phase').awaitFrame most take) := by
  unfold awaitFrame
  simp only [decoder_having]
  cases base.decoder.next with
  | mk answer decoder =>
    match answer with
    | .ok (some frame) => exact htake { base with decoder } frame
    | .ok none => exact readOn_alike hphase { base with decoder } sent sent' most
    | .error fault => exact .fails fault

/-- Both lines come to their end by the turn, or neither does. -/
theorem writeOn_alike (base : Opening) (sent sent' : ByteArray) (phase phase' : OpeningPhase)
    {rest rest' : ByteArray} (hdone : rest.size ≤ most ↔ rest'.size ≤ most') :
    OpeningTurn.Alike secret secret' ((base.having secret sent phase).writeOn most rest)
      ((base.having secret' sent' phase').writeOn most' rest') := by
  have hempty (bytes : ByteArray) (count : Nat) :
      (bytes.extract count bytes.size).isEmpty = true ↔ bytes.size ≤ count := by
    simp [ByteArray.isEmpty, Nat.sub_eq_zero_iff_le]
  unfold writeOn
  simp only [transport_having, Transport.write_sending]
  cases (base.transport.write ByteArray.empty).1 with
  | waiting => exact .waiting
  | failed text => exact .fails (.io text)
  | written =>
    by_cases hwhole : rest.size ≤ most
    · have hwhole' := hdone.mp hwhole
      rw [if_pos ((hempty rest most).mpr hwhole), if_pos ((hempty rest' most').mpr hwhole')]
      exact .goesOn (.mk base _ _ .replying)
    · have hwhole' := mt hdone.mpr hwhole
      have hleft := mt (hempty rest most).mp hwhole
      have hleft' := mt (hempty rest' most').mp hwhole'
      rw [if_neg hleft, if_neg hleft']
      rw [Bool.not_eq_true] at hleft hleft'
      exact .goesOn (.mk base _ _ (.sending hleft hleft'))

/-- What a turn does before the clock is looked at. -/
def act (most : Nat) (attempt : Opening) : OpeningTurn :=
  match attempt.phase with
  | .dialing => attempt.dial
  | .greeting => attempt.awaitFrame most greet
  | .sending rest => attempt.writeOn most rest
  | .replying => attempt.awaitFrame most takeReply

theorem turn_eq (attempt : Opening) (now most : Nat) :
    attempt.turn now most =
      match attempt.act most with
      | .waiting =>
        if attempt.deadline ≤ now then .fails (.timeout attempt.settings.timeout) else .waiting
      | outcome => outcome := rfl

theorem act_alike (hbreaks : Text.OneLine secret ↔ Text.OneLine secret')
    (halike : attempt.Alike secret secret' attempt')
    (hsame : attempt.unwritten = 0 → most = most')
    (hdone : attempt.unwritten ≤ most ↔ attempt'.unwritten ≤ most') :
    OpeningTurn.Alike secret secret' (attempt.act most) (attempt'.act most') := by
  cases halike with
  | mk base sent sent' hphase =>
    cases hphase with
    | dialing => exact dial_alike base sent sent'
    | greeting =>
      obtain rfl := hsame rfl
      exact awaitFrame_alike .greeting (fun base => greet_alike hbreaks base sent sent') base most
    | sending => exact writeOn_alike base sent sent' _ _ hdone
    | replying =>
      obtain rfl := hsame rfl
      exact awaitFrame_alike .replying (fun base => takeReply_alike base sent sent') base most

theorem turn_alike (hbreaks : Text.OneLine secret ↔ Text.OneLine secret')
    (halike : attempt.Alike secret secret' attempt')
    (hsame : attempt.unwritten = 0 → most = most')
    (hdone : attempt.unwritten ≤ most ↔ attempt'.unwritten ≤ most') (now : Nat) :
    OpeningTurn.Alike secret secret' (attempt.turn now most) (attempt'.turn now most') := by
  have hact := act_alike hbreaks halike hsame hdone
  have hclock : attempt.deadline = attempt'.deadline ∧ attempt.settings = attempt'.settings := by
    cases halike
    exact ⟨rfl, rfl⟩
  rw [turn_eq, turn_eq, ← hclock.1, ← hclock.2]
  generalize attempt.act most = outcome at hact ⊢
  generalize attempt'.act most' = outcome' at hact ⊢
  cases hact with
  | waiting =>
    dsimp only
    split
    · exact .fails _
    · exact .waiting
  | goesOn halike' => exact .goesOn halike'
  | ready halike' data => exact .ready halike' data
  | fails fault => exact .fails fault

/-- The one has something left to write exactly if the other has, and a turn that may take all of it
takes it to the end. -/
theorem Alike.paced (h : attempt.Alike secret secret' attempt') :
    (attempt.unwritten = 0 →
      max readLimit attempt.unwritten = max readLimit attempt'.unwritten) ∧
    (attempt.unwritten ≤ max readLimit attempt.unwritten ↔
      attempt'.unwritten ≤ max readLimit attempt'.unwritten) := by
  refine ⟨?_, iff_of_true (Nat.le_max_right _ _) (Nat.le_max_right _ _)⟩
  intro hnothing
  cases h with
  | mk base sent sent' hphase =>
    cases hphase with
    | @sending rest rest' hrest =>
      have hsize : rest.size ≠ 0 := by simpa [ByteArray.isEmpty] using hrest
      exact absurd hnothing hsize
    | _ => rfl

theorem awaitOccurrences_having (base : Opening) (secret : String) (sent : ByteArray)
    (phase : OpeningPhase) (most : Nat) :
    (base.having secret sent phase).awaitOccurrences most = base.awaitOccurrences most := by
  unfold awaitOccurrences
  rw [transport_having, decoder_having, Transport.read_sending]

end Opening

/-- Everything but the writing of the line. -/
def besideLine (log : List Occurrence) : List Occurrence :=
  log.filter fun
    | .wrote _ => false
    | _ => true

@[simp]
theorem besideLine_append (log more : List Occurrence) :
    besideLine (log ++ more) = besideLine log ++ besideLine more :=
  List.filter_append _ _

theorem Opening.besideLine_sending {attempt : Opening} {rest : ByteArray}
    (hphase : attempt.phase = .sending rest) (most : Nat) :
    besideLine (attempt.occurrences most) = [] := by
  simp only [occurrences, hphase]
  split <;> rfl

theorem Opening.occurrences_alike {attempt attempt' : Opening} {most most' : Nat}
    (halike : attempt.Alike secret secret' attempt')
    (hsame : attempt.unwritten = 0 → most = most') :
    besideLine (attempt.occurrences most) = besideLine (attempt'.occurrences most') := by
  cases halike with
  | mk base sent sent' hphase =>
    cases hphase with
    | dialing => rfl
    | greeting | replying =>
      obtain rfl := hsame rfl
      simp only [occurrences, having]
      exact congrArg besideLine
        ((base.awaitOccurrences_having secret sent _ most).trans
          (base.awaitOccurrences_having secret' sent' _ most).symm)
    | sending => rw [besideLine_sending rfl, besideLine_sending rfl]

namespace Connection

/-- The two differ in the secret, and in what has been sent with it: `front` and `front'` once there
is a session. -/
inductive Alike (secret secret' : String) (front front' : ByteArray) :
    Connection → Connection → Prop
  | idle (transport : Transport) :
      Alike secret secret' front front' (.idle transport) (.idle transport)
  | opening {attempt attempt' : Opening} (halike : attempt.Alike secret secret' attempt') :
      Alike secret secret' front front' (.opening attempt) (.opening attempt')
  | live (base : Session) :
      Alike secret secret' front front' (.live (base.behind front)) (.live (base.behind front'))
  | failed (transport : Transport) (sent sent' : ByteArray) (fault : Fault) :
      Alike secret secret' front front' (.failed (transport.sending sent) fault)
        (.failed (transport.sending sent') fault)
  | abandoned (transport : Transport) (sent sent' : ByteArray) (state : SessionState) :
      Alike secret secret' front front' (.abandoned (transport.sending sent) state)
        (.abandoned (transport.sending sent') state)

/-- The bytes of a line that are still to be written. -/
def unwritten : Connection → Nat
  | opening attempt => attempt.unwritten
  | _ => 0

/-- An opening that has written its line has sent just this. -/
def HasSent (front : ByteArray) (connection : Connection) : Prop :=
  ∀ attempt, connection = .opening attempt → attempt.phase = .replying →
    attempt.transport.sent = front

end Connection

/-- The switch and the callers do the same. While the lines are written, the switch may take more of
the one than of the other by a turn, as long as it takes the last byte of both by the same turn;
what has been sent is nothing that the network could change. -/
inductive ConnectionMove.Alike (connection connection' : Connection) :
    ConnectionMove → ConnectionMove → Prop
  | start : Alike connection connection' .start .start
  | linked (link : Link) : Alike connection connection' (.linked link) (.linked link)
  | turn (now : Nat) {most most' : Nat} (hsame : connection.unwritten = 0 → most = most')
      (hdone : connection.unwritten ≤ most ↔ connection'.unwritten ≤ most') :
      Alike connection connection' (.turn now most) (.turn now most')
  | abandon : Alike connection connection' .abandon .abandon
  | network (transport : Transport) :
      Alike connection connection' (.network (transport.sending connection.transport.sent))
        (.network (transport.sending connection'.transport.sent))
  | session (move : Move) (hmove : ∀ transport, move ≠ .network transport) :
      Alike connection connection' (.session move) (.session move)
  | sessionNetwork (transport : Transport) :
      Alike connection connection'
        (.session (.network (transport.sending connection.transport.sent)))
        (.session (.network (transport.sending connection'.transport.sent)))

namespace Connection

variable {front front' : ByteArray} {connection connection' : Connection}
  {move move' : ConnectionMove}

theorem Alike.state (h : connection.Alike secret secret' front front' connection') :
    connection.state = connection'.state := by
  cases h with
  | opening halike =>
    cases halike with
    | mk base sent sent' hphase => cases hphase <;> rfl
  | _ => rfl

theorem session_having (base : Opening) (secret : String) (sent : ByteArray) (phase : OpeningPhase)
    (data : Option Event) :
    (base.having secret sent phase).session data =
      Session.behind sent
        (Opening.session { base with transport := base.transport.sending ByteArray.empty }
          data) := by
  have hsent : sent ++ ByteArray.empty = sent := ByteArray.append_empty
  simp only [Opening.session, Opening.having, Session.behind, Transport.behind, Transport.sending,
    Handshake.mode_withSecret, hsent]
  rfl

theorem sent_of_ready {attempt attempt' : Opening} {data : Option Event} {now most : Nat}
    (h : attempt.turn now most = .ready attempt' data) :
    attempt.phase = .replying ∧ attempt'.transport = attempt.transport := by
  have heffect := attempt.turn_effect now most
  rw [h] at heffect
  generalize attempt.occurrences most = occurred at heffect
  cases heffect with
  | admitted hphase => exact ⟨hphase, rfl⟩

theorem alike_afterTurn (hbreaks : Text.OneLine secret ↔ Text.OneLine secret')
    {attempt attempt' : Opening} (halike : attempt.Alike secret secret' attempt')
    (hfront : (opening attempt).HasSent front) (hfront' : (opening attempt').HasSent front')
    {most most' : Nat} (hsame : attempt.unwritten = 0 → most = most')
    (hdone : attempt.unwritten ≤ most ↔ attempt'.unwritten ≤ most') (now : Nat) :
    (afterTurn attempt (attempt.turn now most)).Alike secret secret' front front'
      (afterTurn attempt' (attempt'.turn now most')) := by
  have hturns := Opening.turn_alike hbreaks halike hsame hdone now
  generalize hturn : attempt.turn now most = outcome at hturns ⊢
  generalize hturn' : attempt'.turn now most' = outcome' at hturns ⊢
  cases hturns with
  | waiting => exact .opening halike
  | goesOn halike' => exact .opening halike'
  | ready halike' data =>
    obtain ⟨hphase, htransport⟩ := sent_of_ready hturn
    obtain ⟨hphase', htransport'⟩ := sent_of_ready hturn'
    have hsent := (congrArg Transport.sent htransport).trans (hfront attempt rfl hphase)
    have hsent' := (congrArg Transport.sent htransport').trans (hfront' attempt' rfl hphase')
    cases halike' with
    | mk base sent sent' =>
      obtain rfl : sent = front := hsent
      obtain rfl : sent' = front' := hsent'
      rw [afterTurn, afterTurn, session_having, session_having]
      exact .live _
  | fails fault =>
    cases halike with
    | mk base sent sent' => exact .failed base.transport.drop sent sent' fault

theorem Alike.perform (hbreaks : Text.OneLine secret ↔ Text.OneLine secret')
    (h : connection.Alike secret secret' front front' connection')
    (hfront : connection.HasSent front) (hfront' : connection'.HasSent front')
    (hmove : ConnectionMove.Alike connection connection' move move') (plan : OpeningPlan)
    (began : Nat) :
    Option.Rel (Alike secret secret' front front')
      (connection.perform (plan.withSecret secret) began move)
      (connection'.perform (plan.withSecret secret') began move') := by
  cases hmove with
  | start =>
    cases h with
    | idle transport =>
      exact .some (.opening
        (.mk (.start plan began transport) transport.sent transport.sent .dialing))
    | _ => exact .none
  | linked link =>
    cases h with
    | opening halike =>
      cases halike with
      | mk base sent sent' hphase =>
        cases hphase with
        | dialing =>
          by_cases hpending : base.link = .pending
          · simp only [perform, Opening.having, hpending, and_self, ↓reduceIte]
            exact .some (.opening (.mk { base with link } sent sent' .dialing))
          · simp only [perform, Opening.having, hpending, and_false, ↓reduceIte]
            exact .none
        | _ => exact .none
    | _ => exact .none
  | turn now hsame hdone =>
    cases h with
    | opening halike => exact .some (alike_afterTurn hbreaks halike hfront hfront' hsame hdone now)
    | _ => exact .none
  | abandon =>
    cases h with
    | idle transport => exact .some (.abandoned transport.drop transport.sent transport.sent _)
    | opening halike =>
      cases halike with
      | mk base sent sent' hphase =>
        have halike : Alike secret secret' front front' (.opening (base.having secret sent _))
            (.opening (base.having secret' sent' _)) := .opening (.mk base sent sent' hphase)
        have hstate : (base.having secret sent _).state = (base.having secret' sent' _).state :=
          halike.state
        simp only [perform, Connection.abandon, hstate]
        exact .some (.abandoned base.transport.drop sent sent' _)
    | _ => exact .none
  | network transport =>
    cases h with
    | opening halike =>
      cases halike with
      | mk base sent sent' hphase =>
        simp only [perform, Connection.transport, Transport.sending, Opening.having, ↓reduceIte]
        exact .some (.opening (.mk { base with transport } sent sent' hphase))
    | _ => exact .none
  | session move hmove =>
    cases h with
    | live base =>
      have hperform (front : ByteArray) :
          (base.behind front).perform move = (base.perform move).map (Session.behind front) := by
        rw [← base.perform_behind, move.behind_of_ne front hmove]
      simp only [Connection.perform, hperform, Option.map_map]
      cases base.perform move with
      | none => exact .none
      | some base' => exact .some (.live base')
    | _ => exact .none
  | sessionNetwork transport =>
    cases h with
    | live base =>
      simp only [perform, Connection.transport, Session.perform, Transport.sending, ↓reduceIte,
        Option.map_some]
      exact .some (.live { base with transport := transport.sending base.transport.sent })
    | _ => exact .none

theorem Alike.occurrences (h : connection.Alike secret secret' front front' connection')
    (hmove : ConnectionMove.Alike connection connection' move move') :
    besideLine (connection.occurrences move) = besideLine (connection'.occurrences move') := by
  cases hmove with
  | turn now hsame =>
    cases h with
    | opening halike => exact Opening.occurrences_alike halike hsame
    | _ => rfl
  | session move hmove =>
    cases h with
    | live base =>
      have hhappenings (front : ByteArray) :
          (base.behind front).happenings move = base.happenings move := by
        rw [← base.happenings_behind front, move.behind_of_ne front hmove]
      simp only [Connection.occurrences, hhappenings]
    | _ => rfl
  | sessionNetwork transport => cases h <;> rfl
  | _ => rfl

theorem publication_congr {next next' : Connection} (h : connection.state = connection'.state)
    (hnext : next.state = next'.state) :
    connection.publication next = connection'.publication next' := by
  rw [publication, publication, h, hnext]

/-- Whatever the one can do, the other can do too. -/
theorem Alike.exists_move (h : connection.Alike secret secret' front front' connection')
    {plan : OpeningPlan} {began : Nat} {next : Connection}
    (hmove : connection.perform plan began move = some next) :
    ∃ move', ConnectionMove.Alike connection connection' move move' := by
  cases moves_of_perform hmove with
  | start => exact ⟨_, .start⟩
  | linked link => exact ⟨_, .linked link⟩
  | leave | abandon => exact ⟨_, .abandon⟩
  | @network attempt transport hsent =>
    have htransport : transport = transport.sending attempt.transport.sent := hsent ▸ rfl
    rw [htransport]
    exact ⟨_, .network transport⟩
  | turn attempt now most =>
    cases h with
    | opening halike =>
      cases halike with
      | mk base sent sent' hphase =>
        cases hphase with
        | @sending rest rest' hrest hrest' =>
          have hsize (rest : ByteArray) (h : rest.isEmpty = false) : rest.size ≠ 0 := by
            simpa [ByteArray.isEmpty] using h
          by_cases hdone : rest.size ≤ most
          · exact ⟨.turn now rest'.size,
              .turn now (absurd · (hsize rest hrest)) (iff_of_true hdone (Nat.le_refl _))⟩
          · exact ⟨.turn now 0, .turn now (absurd · (hsize rest hrest))
              (iff_of_false hdone (mt Nat.le_zero.mp (hsize rest' hrest')))⟩
        | _ => exact ⟨.turn now most, .turn now (fun _ => rfl) Iff.rfl⟩
  | @session session _ inner hinner =>
    cases inner with
    | network transport =>
      obtain ⟨hsent, -⟩ := Option.ite_none_right_eq_some.mp hinner
      have htransport : transport = transport.sending session.transport.sent := hsent ▸ rfl
      rw [htransport]
      exact ⟨_, .sessionNetwork transport⟩
    | _ => exact ⟨_, .session _ (by simp)⟩

end Connection

end Secrets

end EventSocket
