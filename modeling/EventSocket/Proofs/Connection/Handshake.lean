import EventSocket.Proofs.Command.Wire
import EventSocket.Proofs.Connection.Turns
import EventSocket.Proofs.Frame.Framing

/-!
What has been heard, taken and written at every point of an opening. The command of a handshake is
the only thing that is written, and credentials only behind the greeting that asks for them.
-/

namespace EventSocket

/-- Credentials that can be sent at all: a user has a domain, and no text breaks the line. -/
def Credentials.Valid : Credentials → Prop
  | .password secret => Text.OneLine secret
  | .user name secret => '@' ∈ name.toList ∧ Text.OneLine name ∧ Text.OneLine secret

theorem Credentials.check_eq_ok_iff {credentials : Credentials} :
    credentials.check = .ok () ↔
      ∀ name secret, credentials = .user name secret → '@' ∈ name.toList := by
  cases credentials with
  | password secret => simp [check]
  | user name secret =>
    by_cases hdomain : '@' ∈ name.toList <;> simp [check, hdomain]

theorem Credentials.sendable_iff {credentials : Credentials} :
    (∃ wire, credentials.command.wire = .ok wire) ↔
      match credentials with
      | .password secret => Text.OneLine secret
      | .user name secret => Text.OneLine name ∧ Text.OneLine secret := by
  constructor
  · rintro ⟨wire, hwire⟩
    obtain ⟨lines, hlines, -⟩ := Command.wire_eq_ok hwire
    cases credentials with
    | password secret => exact (checkLine_bind.mp hlines).1
    | user name secret =>
      obtain ⟨hname, hrest⟩ := checkLine_bind.mp hlines
      exact ⟨hname, (checkLine_bind.mp hrest).1⟩
  · intro h
    cases credentials with
    | password secret =>
      have hlines : (Command.auth secret).lines = .ok (Command.line ["auth", secret]) :=
        checkLine_bind.mpr ⟨h, rfl⟩
      exact ⟨_, by rw [command, Command.wire, hlines]; rfl⟩
    | user name secret =>
      have hlines : (Command.userauth name secret).lines =
          .ok (Command.line ["userauth", name ++ ":" ++ secret]) :=
        checkLine_bind.mpr ⟨h.1, checkLine_bind.mpr ⟨h.2, rfl⟩⟩
      exact ⟨_, by rw [command, Command.wire, hlines]; rfl⟩

theorem Credentials.valid_iff {credentials : Credentials} :
    credentials.Valid ↔
      credentials.check = .ok () ∧ ∃ wire, credentials.command.wire = .ok wire := by
  rw [check_eq_ok_iff, sendable_iff]
  cases credentials with
  | password secret => simp [Valid]
  | user name secret => simp [Valid]

/-- The one command of a handshake. -/
def Handshake.command : Handshake → Command
  | .inbound credentials => credentials.command
  | .outbound => .connect

/-- What has to be taken before the command is sent. -/
inductive Handshake.Asked : Handshake → List Frame → Prop
  | inbound {credentials : Credentials} {greeting : Frame} (hcheck : credentials.check = .ok ())
      (hgreeting : greeting.kind = .authRequest) : Asked (.inbound credentials) [greeting]
  | outbound : Asked .outbound []

/-- The frames in all that has been heard. -/
def framesHeard (log : List Occurrence) : List Frame :=
  (DecoderView.fresh (heardBytes log)).drain.frames

namespace DecoderView

/-- A decoder to which all this has been fed and that has given these frames has come to the view,
as far as what it gives from then on goes. -/
def Follows (view : DecoderView) (heard : List UInt8) (took : List Frame) : Prop :=
  ∀ more, (fresh (heard ++ more)).drain = (view.append more).drain.prepend took

theorem follows_fresh : (fresh []).Follows [] [] := fun _ => rfl

theorem Follows.take {view rest : DecoderView} {heard : List UInt8} {took : List Frame}
    {frame : Frame} (h : view.Follows heard took) (hnext : view.next = (.ok (some frame), rest)) :
    rest.Follows heard (took ++ [frame]) := by
  intro more
  rw [h more, drain_append_next hnext]
  simp [Decoding.prepend, Decoding.cons]

theorem Follows.hear {view rest : DecoderView} {heard : List UInt8} {took : List Frame}
    (h : view.Follows heard took) (hnext : view.next = (.ok none, rest)) (bytes : List UInt8) :
    (rest.append bytes).Follows (heard ++ bytes) took := by
  intro more
  rw [List.append_assoc, h, drain_append_next hnext, append_append]

theorem Follows.drain_eq {view : DecoderView} {heard : List UInt8} {took : List Frame}
    (h : view.Follows heard took) : (fresh heard).drain = view.drain.prepend took := by
  have hnow := h []
  rwa [List.append_nil, append_nil] at hnow

end DecoderView

namespace Opening

/-- What has been done when the opening is in its phase. -/
def Stage (log : List Occurrence) (attempt : Opening) : Prop :=
  match attempt.phase with
  | .dialing => heardBytes log = [] ∧ tookFrames log = [] ∧ wroteBytes log = []
  | .greeting =>
    (∃ credentials, attempt.handshake = .inbound credentials ∧ credentials.check = .ok ()) ∧
      tookFrames log = [] ∧ wroteBytes log = []
  | .sending rest =>
    attempt.handshake.Asked (tookFrames log) ∧
      ∃ wire, attempt.handshake.command.wire = .ok wire ∧
        Text.codes wire = wroteBytes log ++ octets rest ∧ octets rest ≠ []
  | .replying =>
    attempt.handshake.Asked (tookFrames log) ∧
      ∃ wire, attempt.handshake.command.wire = .ok wire ∧ wroteBytes log = Text.codes wire

structure Underway (plan : OpeningPlan) (began : Nat) (start : Transport) (log : List Occurrence)
    (attempt : Opening) : Prop where
  handshake : attempt.handshake = plan.handshake
  settings : attempt.settings = plan.settings
  threads : attempt.threads = plan.threads
  deadline : attempt.deadline = began + plan.settings.timeout
  sound : attempt.decoder.Sound
  sent : octets attempt.transport.sent = octets start.sent ++ wroteBytes log
  follows : attempt.decoder.view.Follows (heardBytes log) (tookFrames log)
  stage : attempt.Stage log

variable {plan : OpeningPlan} {began : Nat} {start : Transport} {log occurred : List Occurrence}
  {attempt attempt' : Opening} {now most : Nat}

theorem underway_start (plan : OpeningPlan) (began : Nat) (start : Transport) :
    Underway plan began start [] (Opening.start plan began start) where
  handshake := rfl
  settings := rfl
  threads := rfl
  deadline := rfl
  sound := Decoder.sound_new
  sent := by simp [Opening.start, wroteBytes]
  follows := DecoderView.follows_fresh
  stage := ⟨rfl, rfl, rfl⟩

theorem codes_wire_ne {command : Command} {wire : String} (h : command.wire = .ok wire) :
    Text.codes wire ≠ [] := by
  obtain ⟨lines, -, rfl⟩ := Command.wire_eq_ok h
  rw [Command.wireOfLines, Text.codes_append]
  exact List.append_ne_nil_of_right_ne_nil _ (by decide)

/-- Sending begins with the whole command. -/
theorem stage_sending {command : Command} {wire : String}
    (hasked : attempt.handshake.Asked (tookFrames log))
    (hcommand : attempt.handshake.command = command) (hwire : command.wire = .ok wire)
    (hwrote : wroteBytes log = []) :
    Stage log { attempt with phase := .sending wire.toUTF8 } := by
  refine ⟨hasked, wire, hcommand ▸ hwire, ?_, codes_wire_ne hwire⟩
  rw [hwrote, List.nil_append]
  rfl

/-- Sending ends when nothing is left of the command. -/
theorem Underway.writes (h : Underway plan began start log attempt) {rest : ByteArray}
    (hphase : attempt.phase = .sending rest) (most : Nat) :
    Underway plan began start (log ++ [.wrote (rest.extract 0 most)])
      { attempt with
        transport := { attempt.transport with
          sent := attempt.transport.sent ++ rest.extract 0 most }
        phase := if (rest.extract most rest.size).isEmpty then .replying
          else .sending (rest.extract most rest.size) } := by
  have hstage := h.stage
  simp only [Stage, hphase] at hstage
  obtain ⟨hasked, wire, hwire, hcodes, -⟩ := hstage
  have hrest := octets_extract_append rest most
  refine ⟨h.handshake, h.settings, h.threads, h.deadline, h.sound, by simp [h.sent],
    by simpa using h.follows, ?_⟩
  by_cases hempty : (rest.extract most rest.size).isEmpty
  · rw [(octets_eq_nil_iff).mpr hempty, List.append_nil] at hrest
    simp only [Stage, if_pos hempty]
    exact ⟨by simpa using hasked, wire, hwire, by simp [hcodes, hrest]⟩
  · simp only [Stage, if_neg hempty]
    exact ⟨by simpa using hasked, wire, hwire, by simp [hcodes, hrest],
      mt (octets_eq_nil_iff).mp hempty⟩

theorem Underway.goesOn (h : Underway plan began start log attempt)
    (heffect : attempt.Effect now most (.goesOn attempt') occurred) :
    Underway plan began start (log ++ occurred) attempt' := by
  have hstage := h.stage
  cases heffect with
  | greets hphase hmode hcheck =>
    simp only [Stage, hphase] at hstage
    rw [List.append_nil]
    exact ⟨h.handshake, h.settings, h.threads, h.deadline, h.sound, h.sent, h.follows,
      ⟨_, hmode, hcheck⟩, hstage.2⟩
  | connects hphase hmode hwire =>
    simp only [Stage, hphase] at hstage
    rw [List.append_nil]
    refine ⟨h.handshake, h.settings, h.threads, h.deadline, h.sound, h.sent, h.follows,
      stage_sending ?_ (by rw [hmode]; rfl) hwire hstage.2.2⟩
    rw [hmode, hstage.2.1]
    exact .outbound
  | @answers credentials frame decoder wire hphase hmode hnext hkind hwire =>
    simp only [Stage, hphase] at hstage
    obtain ⟨⟨known, hknown, hcheck⟩, htook, hwrote⟩ := hstage
    obtain rfl := Handshake.inbound.inj (hmode.symm.trans hknown)
    obtain ⟨hview, hsound⟩ := Decoder.view_next h.sound hnext
    refine ⟨h.handshake, h.settings, h.threads, h.deadline, hsound, by simpa using h.sent, ?_,
      stage_sending ?_ (by rw [hmode]; rfl) hwire (by simp [hwrote])⟩
    · simpa using h.follows.take hview
    · rw [hmode]
      simpa [htook] using .inbound hcheck hkind
  | @hears bytes transport decoder decoder' hphase hnext hfeed hsome hsent hless =>
    obtain ⟨hview, hsound⟩ := Decoder.view_next h.sound hnext
    obtain ⟨hfed, hsound'⟩ := Decoder.view_feed hsound hfeed
    refine ⟨h.handshake, h.settings, h.threads, h.deadline, hsound',
      by simpa [hsent] using h.sent, ?_, ?_⟩
    · simpa [hfed] using h.follows.hear hview (octets bytes)
    · rcases hphase with hphase | hphase
      · simpa [Stage, hphase] using hstage
      · simpa [Stage, hphase] using hstage
  | writes hphase => exact h.writes hphase most

end Opening

end EventSocket
