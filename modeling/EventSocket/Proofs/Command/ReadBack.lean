import EventSocket.Application.Basic
import EventSocket.Proofs.Command.Wire
import EventSocket.Proofs.Event.Reading
import EventSocket.Proofs.Frame.RoundTrip

/-!
Messages that run an application are read back. Behind its first line such a message has the form of
a frame, and whatever texts a caller puts into it, a decoder finds each under its own name.
-/

namespace EventSocket

namespace Text

/-- A text on one line can stand behind anything that could end a line itself. -/
theorem OneLine.lineText {text : String} (h : OneLine text) : LineText text where
  noFeed hfeed := (h _ hfeed).1 rfl
  noReturn hreturn := (h _ (List.mem_of_getLast? hreturn)).2 rfl

end Text

namespace Sendmsg

/-- The line that says whom the message is for. -/
def addressLine (message : Sendmsg) : String :=
  match message.target with
  | none => "sendmsg"
  | some leg => "sendmsg " ++ leg

/-- The lines behind the first, each with a name and a text as the caller gave it. -/
def fields (message : Sendmsg) : List (String × String) :=
  [("call-command", "execute"), ("execute-app-name", message.app),
    ("execute-app-arg", message.argument.getD ""), ("loops", toString message.loops)] ++
    if message.eventLock then [("event-lock", "true")] else []

def fieldLine (field : String × String) : String := Event.written field.1 field.2

/-- What a reader takes the fields for. -/
def readFields (message : Sendmsg) : List (String × String) :=
  [("call-command", "execute"), ("execute-app-name", Text.trim message.app),
    ("execute-app-arg", Text.trim (message.argument.getD "")),
    ("loops", toString message.loops)] ++
    if message.eventLock then [("event-lock", "true")] else []

theorem headLine_eq_addressLine {message : Sendmsg} {head : String}
    (h : headLine message.target = .ok head) : head = message.addressLine := by
  cases htarget : message.target with
  | none =>
    rw [htarget] at h
    cases h
    rw [addressLine, htarget]
  | some leg =>
    rw [htarget] at h
    obtain ⟨-, hhead⟩ := checkLine_bind.mp h
    cases hhead
    rw [addressLine, htarget]

theorem lines_eq_fieldLines {message : Sendmsg} {lines : List String}
    (h : message.lines = .ok lines) :
    lines = message.addressLine :: message.fields.map fieldLine := by
  obtain ⟨-, h⟩ := checkLine_bind.mp (checkFilled_bind h)
  obtain ⟨-, h⟩ := checkEach_bind h
  obtain ⟨head, hhead, hlines⟩ := bind_eq_ok h
  cases hlines
  rw [headLine_eq_addressLine hhead, fields, List.map_append]
  cases message.eventLock <;> rfl

theorem readFields_eq (message : Sendmsg) :
    message.readFields = message.fields.map fun field => (field.1, Text.trim field.2) := by
  have hexecute : Text.trim "execute" = "execute" := by decide
  have htrue : Text.trim "true" = "true" := by decide
  have hloops := Text.trim_toString message.loops
  rw [readFields, fields, List.map_append]
  simp only [List.map_cons, List.map_nil, hexecute, hloops]
  cases message.eventLock <;> simp [htrue]

theorem headerName_field (message : Sendmsg) : ∀ field ∈ message.fields, HeaderName field.1 := by
  have hnames : ∀ field ∈ message.fields, field.1 ∈
      ["call-command", "execute-app-name", "execute-app-arg", "loops", "event-lock"] := by
    unfold fields
    split <;> simp
  intro field hfield
  have hname := hnames field hfield
  simp only [List.mem_cons, List.not_mem_nil, or_false] at hname
  rcases hname with hname | hname | hname | hname | hname <;> rw [hname] <;>
    exact ⟨by decide, by decide, by decide, by decide⟩

theorem names_readFields (message : Sendmsg) :
    message.readFields.map Prod.fst =
      ["call-command", "execute-app-name", "execute-app-arg", "loops"] ++
        if message.eventLock then ["event-lock"] else [] := by
  rw [readFields, List.map_append]
  cases message.eventLock <;> rfl

theorem nodup_readFields (message : Sendmsg) : (message.readFields.map Prod.fst).Nodup := by
  rw [names_readFields]
  cases message.eventLock <;> decide

theorem lengthName_notMem_readFields (message : Sendmsg) :
    ∀ pair ∈ message.readFields, pair.1 ≠ contentLengthName := by
  intro pair hpair hname
  have hmem : contentLengthName ∈ message.readFields.map Prod.fst :=
    hname ▸ List.mem_map_of_mem hpair
  rw [names_readFields] at hmem
  revert hmem
  cases message.eventLock <;> decide

theorem headerLines {message : Sendmsg} (h : Command.AllSendable (message.fields.map fieldLine)) :
    List.Forall₂ HeaderLine (message.fields.map fieldLine) message.readFields := by
  rw [readFields_eq, List.forall₂_map_left_iff, List.forall₂_map_right_iff, List.forall₂_same]
  intro field hfield
  have hline := h.2 _ (List.mem_map_of_mem hfield)
  exact ⟨Event.headerOfLine_named (headerName_field message field hfield) field.2,
    hline.oneLine.lineText⟩

/-- What follows the first line of a message, in whatever pieces it arrives, is one frame without a
body. It names the application and its argument without the blanks around them, whatever else is in
them, and nothing is left of it. -/
theorem wire_read_back {message : Sendmsg} {text : String}
    (h : (Command.sendmsg message).wire = .ok text) :
    ∃ rest, text = message.addressLine ++ "\n" ++ rest ∧ '\n' ∉ message.addressLine.toList ∧
      ∀ calls, fed calls = Text.codes rest →
        (rest.utf8ByteSize ≤ bufferLimit → (Decoder.new.play calls).Accepted) ∧
        ((Decoder.new.play calls).Accepted →
          ∃ frame decoder, Decoder.new.play calls = ⟨[frame], .waiting decoder⟩ ∧
            frame.headers.toList = message.readFields ∧ frame.body = [] ∧
            decoder.mode = .fresh ∧ decoder.buffered = 0) := by
  obtain ⟨lines, hlines, rfl⟩ := Command.wire_eq_ok h
  have hsendable := Command.sendmsg_sendable hlines
  rw [lines_eq_fieldLines hlines] at hsendable ⊢
  -- Behind the first line the fields and the empty line are the bytes of one written frame.
  obtain ⟨hfirst, hfields⟩ := List.forall_mem_cons.mp hsendable.2
  have hall : Command.AllSendable (message.fields.map fieldLine) :=
    ⟨by simp [fields], hfields⟩
  obtain ⟨written, hframe, hbytes⟩ :=
    exists_writtenFrame (headerLines hall) (by simp [readFields])
      (lengthName_notMem_readFields message)
  refine ⟨Text.endLines (message.fields.map fieldLine) ++ "\n", ?_, hfirst.noFeed, ?_⟩
  · simp [Command.wireOfLines, Text.endLines, String.append_assoc]
  intro calls hfed
  constructor
  · intro hroom
    refine Decoder.accepted_play Decoder.sound_new calls ?_
    rw [hfed, Text.length_codes, Decoder.view_new]
    simpa [DecoderView.fresh] using hroom
  · intro haccepted
    obtain ⟨decoder, hplay, hview⟩ :=
      Decoding.map_eq_waiting (written.play_alone (hfed.trans hbytes.symm) haccepted)
    refine ⟨written.frame, decoder, hplay, ?_, by rw [hframe]; rfl, ?_, ?_⟩
    · rw [hframe]
      exact Fields.toList_ofList message.nodup_readFields
    · exact congrArg DecoderView.mode hview
    · rw [Decoder.buffered_eq, hview]
      rfl

def lockedSet : Sendmsg :=
  { (Application.set "a:b" "\u2003'c: d' ").onLeg "leg" with loops := 12, eventLock := true }

def lockedSetText : String :=
  "sendmsg leg\ncall-command: execute\nexecute-app-name: set\n" ++
    "execute-app-arg: a:b=\u2003'c: d' \nloops: 12\nevent-lock: true\n\n"

theorem wire_read_back_on_leg :
    (Command.sendmsg lockedSet).wire = .ok lockedSetText ∧
      ∃ rest, lockedSetText = "sendmsg leg\n" ++ rest ∧
        ∀ calls, fed calls = Text.codes rest →
          ∃ frame decoder, Decoder.new.play calls = ⟨[frame], .waiting decoder⟩ ∧
            frame.headers.toList =
              [("call-command", "execute"), ("execute-app-name", "set"),
                ("execute-app-arg", "a:b=\u2003'c: d'"), ("loops", "12"), ("event-lock", "true")] ∧
            frame.body = [] ∧ decoder.buffered = 0 := by
  have hwire : (Command.sendmsg lockedSet).wire = .ok lockedSetText := by decide +kernel
  have hread : lockedSet.readFields =
      [("call-command", "execute"), ("execute-app-name", "set"),
        ("execute-app-arg", "a:b=\u2003'c: d'"), ("loops", "12"), ("event-lock", "true")] := by
    decide +kernel
  obtain ⟨rest, htext, -, hplayed⟩ := wire_read_back hwire
  have hroom : rest.utf8ByteSize ≤ bufferLimit := by
    have hsize := congrArg String.utf8ByteSize htext
    have hlimit : lockedSetText.utf8ByteSize ≤ bufferLimit := by decide +kernel
    rw [String.utf8ByteSize_append] at hsize
    omega
  refine ⟨hwire, rest, htext, fun calls hfed => ?_⟩
  obtain ⟨haccepted, hone⟩ := hplayed calls hfed
  obtain ⟨frame, decoder, hplay, hheaders, hbody, -, hleft⟩ := hone (haccepted hroom)
  exact ⟨frame, decoder, hplay, hheaders.trans hread, hbody, hleft⟩

end Sendmsg

end EventSocket
