import EventSocket.Proofs.Event.RoundTrip

/-!
Events on the wire: a frame that carries the plain form of an event delivers that event, however its
bytes are cut into pieces.
-/

namespace EventSocket

namespace WrittenFrame

/-- The frame carries a text as the plain form of an event. -/
structure Carries (frame : WrittenFrame) (text : String) : Prop where
  body : frame.body = some text
  contentType : frame.frame.contentType? = some "text/event-plain"

/-- What the bytes of the frame bring, in whatever pieces: the frame alone, and the event in it.
They find room if they are no more than the buffer takes. -/
structure Delivers (frame : WrittenFrame) (event : Event) : Prop where
  event : Event.ofFrame frame.frame = .ok event
  decoded : ∀ calls, fed calls = frame.bytes → (Decoder.new.play calls).Accepted →
    (Decoder.new.play calls).frames = [frame.frame] ∧ (Decoder.new.play calls).fault? = none
  accepted : frame.bytes.length ≤ bufferLimit →
    ∀ calls, fed calls = frame.bytes → (Decoder.new.play calls).Accepted

theorem decoded (frame : WrittenFrame) {calls : List DecoderCall} (hfed : fed calls = frame.bytes)
    (haccepted : (Decoder.new.play calls).Accepted) :
    (Decoder.new.play calls).frames = [frame.frame] ∧ (Decoder.new.play calls).fault? = none := by
  have hplayed := frame.play_alone hfed haccepted
  refine ⟨congrArg Decoding.frames hplayed, ?_⟩
  have hending := congrArg Decoding.fault? hplayed
  rwa [Decoding.fault?, Decoding.map, Ending.fault?_map] at hending

theorem Carries.delivers {frame : WrittenFrame} {text : String} {event : Event}
    (h : frame.Carries text) (hread : Event.ofLines (Text.lines text) = .ok event) :
    frame.Delivers event where
  event := by
    rw [Event.ofFrame, h.contentType]
    simpa [WrittenFrame.frame, Frame.ofHeaders, h.body] using hread
  decoded _ hfed haccepted := frame.decoded hfed haccepted
  accepted hlength calls hfed := by
    refine Decoder.accepted_play Decoder.sound_new calls ?_
    rw [hfed]
    simpa [Decoder.new, Decoder.view, Buffer.ahead, Buffer.empty] using hlength

/-- A header with one blank before its value, on a line that ends in a line feed alone. -/
def plainHeader (name value : String) (hname : HeaderName name)
    (htrimmed : Text.trim value = value) (hfeed : '\n' ∉ value.toList) : WrittenHeader where
  name := name
  value := value
  beforeName := .none
  afterName := .none
  beforeValue := .space
  afterValue := .none
  ending := .feed
  name_ne := hname.some
  name_trim := hname.trimmed
  name_oneLine := hname.noFeed
  name_noColon := hname.noColon
  value_trim := htrimmed
  value_oneLine := hfeed

/-- The frame that is sent for a text. -/
def sending (text : String) (h : text.utf8ByteSize ≤ bodyLimit) : WrittenFrame where
  separators := []
  headers := [
    plainHeader contentLengthName (toString text.utf8ByteSize) headerName_contentLength
      (Text.trim_toString _) (Text.noFeed_toString _),
    plainHeader contentTypeName "text/event-plain" headerName_contentType (by decide) (by decide)]
  closing := .feed
  body := some text
  headers_ne := List.cons_ne_nil _ _
  announced := ⟨h, [], _, [_], rfl, rfl, Text.numeral_toString _,
    List.forall_mem_singleton.mpr (by decide)⟩

theorem carries_sending (text : String) (h : text.utf8ByteSize ≤ bodyLimit) :
    (sending text h).Carries text where
  body := rfl
  contentType := by
    simp [sending, plainHeader, WrittenFrame.frame, Frame.contentType?, Frame.header?,
      Frame.ofHeaders, Fields.ofList, WrittenHeader.pair]

theorem utf8ByteSize_le (text : String) : text.utf8ByteSize ≤ 4 * text.toList.length := by
  obtain ⟨chars, rfl⟩ := text.exists_eq_ofList
  rw [← Text.length_codes, Text.codes_ofList, String.toList_ofList]
  induction chars with
  | nil => simp
  | cons c chars ih =>
    have := c.utf8Size_le_four
    simp only [List.flatMap_cons, List.length_append, String.length_utf8EncodeChar,
      List.length_cons]
    omega

theorem length_chars (header : WrittenHeader) :
    header.chars.length = header.beforeName.chars.length + header.name.toList.length +
      header.afterName.chars.length + header.beforeValue.chars.length +
      header.value.toList.length + header.afterValue.chars.length +
      header.ending.chars.length + 1 := by
  simp only [WrittenHeader.chars, WrittenHeader.lineChars, WrittenHeader.nameChars,
    WrittenHeader.valueChars, List.length_append, List.length_cons]
  omega

theorem length_sending (text : String) (h : text.utf8ByteSize ≤ bodyLimit) :
    (sending text h).bytes.length ≤ bufferLimit := by
  have hdigits : (toString text.utf8ByteSize).toList.length ≤ 7 := by
    rw [Nat.toString_eq_repr, Nat.toList_repr, Nat.length_toDigits_le_iff (by decide) (by decide)]
    exact Nat.lt_of_le_of_lt h (by decide)
  obtain ⟨head, hchars, hhead⟩ : ∃ head, (sending text h).chars = head ++ text.toList ∧
      head.length ≤ 100 := by
    refine ⟨(sending text h).headers.flatMap WrittenHeader.chars ++ LineEnding.feed.chars, ?_, ?_⟩
    · rfl
    · have hlength : contentLengthName.toList.length = 14 := by decide
      have htype : contentTypeName.toList.length = 12 := by decide
      have hvalue : "text/event-plain".toList.length = 16 := by decide
      simp only [sending, plainHeader, List.flatMap_cons, List.flatMap_nil, List.append_nil,
        List.length_append, length_chars, hlength, htype, hvalue, Blanks.none, Blanks.space,
        LineEnding.chars, LineEnding.mark, List.length_cons, List.length_nil]
      omega
  have hsize := utf8ByteSize_le (String.ofList head)
  rw [String.toList_ofList] at hsize
  rw [bytes, hchars, String.ofList_append, Text.codes_append, List.length_append,
    Text.length_codes, Text.length_codes, String.ofList_toList]
  have hlimits : 400 + bodyLimit ≤ bufferLimit := by decide
  omega

end WrittenFrame

namespace Event

variable {event : Event}

/-- The plain form of an event is read back from its lines, and so it is from any frame that
carries it. There is such a frame for every form that a body can hold. -/
theorem ofLines_plainText (h : event.Writable) :
    ∃ read, ofLines (Text.lines event.plainText) = .ok read ∧ event.Restored read ∧
      (∀ frame : WrittenFrame, frame.Carries event.plainText → frame.Delivers read) ∧
      (event.plainText.utf8ByteSize ≤ bodyLimit →
        ∃ frame : WrittenFrame, frame.Carries event.plainText ∧
          frame.bytes.length ≤ bufferLimit) := by
  have hread : ofLines (Text.lines event.plainText) = .ok event.restored := by
    rw [plainText_eq, Text.lines_endLines h.lineText, h.ofLines]
  refine ⟨event.restored, hread, h.restored, fun frame hcarries => hcarries.delivers hread, ?_⟩
  intro hlimit
  exact ⟨.sending event.plainText hlimit, WrittenFrame.carries_sending _ _,
    WrittenFrame.length_sending _ _⟩

/-- An event with a length of its own, a value of all sorts and an empty line in its body. -/
def sample : Event where
  eventType := none
  headers := ((Fields.empty.set "Up-Time" "Ä: 0%41\r\n").set contentLengthName "99").set nameHeader
    "BACKGROUND_JOB"
  body := ["+OK ß", "", "\r-"]

theorem writable_sample : sample.Writable where
  named := by decide
  headers := by
    have hheaders : sample.headers.toList.map Prod.fst =
        ["Up-Time", contentLengthName, nameHeader] := rfl
    intro header hheader
    have hname := List.mem_map_of_mem (f := Prod.fst) hheader
    rw [hheaders] at hname
    simp only [List.mem_cons, List.not_mem_nil, or_false] at hname
    rcases hname with hname | hname | hname
    · rw [hname]
      exact ⟨by decide, by decide, by decide, by decide⟩
    · rw [hname]
      exact headerName_contentLength
    · rw [hname]
      exact headerName_event
  body := by
    intro line hline
    rcases (by simpa [sample] using hline : line = "+OK ß" ∨ line = "" ∨ line = "\r-") with
      rfl | rfl | rfl <;> exact ⟨by decide, by decide⟩

theorem ofLines_plainText_sample :
    sample.Writable ∧ sample.plainText =
        "Event-Name: BACKGROUND%5FJOB\nUp-Time: %C3%84%3A%200%2541%0D%0A\n" ++
          "Content-Length: 11\n\n+OK ß\n\n\r-\n" ∧
      ∃ read, ofLines (Text.lines sample.plainText) = .ok read ∧ sample.Restored read ∧
        (∀ frame : WrittenFrame, frame.Carries sample.plainText → frame.Delivers read) ∧
        (sample.plainText.utf8ByteSize ≤ bodyLimit →
          ∃ frame : WrittenFrame, frame.Carries sample.plainText ∧
            frame.bytes.length ≤ bufferLimit) :=
  ⟨writable_sample, by decide +kernel, ofLines_plainText writable_sample⟩

end Event

end EventSocket
