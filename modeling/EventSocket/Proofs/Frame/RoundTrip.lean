import EventSocket.Proofs.Frame.Framing
import EventSocket.Proofs.Text.Lines
import Mathlib.Data.List.Forall2

/-!
Written frames are read back: whatever the bytes of a body look like, they are taken as a body, and
what follows a frame is read as if the frame had never been there.
-/

namespace EventSocket

theorem Announces.measured {headers : List WrittenHeader} {body : Option String}
    (h : Announces headers body) : ∀ header ∈ headers, header.Measured := by
  intro header hmem hname
  cases body with
  | none => exact absurd hname (h header hmem)
  | some body =>
    obtain ⟨hlimit, before, only, after, rfl, -, hvalue, hothers⟩ := h
    rcases List.mem_append.mp hmem with hbefore | hrest
    · exact absurd hname (hothers header (List.mem_append_left after hbefore))
    · rcases List.mem_cons.mp hrest with rfl | hafter
      · exact ⟨_, hlimit, hvalue⟩
      · exact absurd hname (hothers header (List.mem_append_right before hafter))

theorem Announces.asks {headers : List WrittenHeader} {body : Option String}
    (h : Announces headers body) : Asks headers (body.map String.utf8ByteSize) := by
  cases body with
  | none =>
    have hfilter : headers.filter (·.name = contentLengthName) = [] := by
      rw [List.filter_eq_nil_iff]
      intro header hmem
      simpa using h header hmem
    simp [Asks, lengthHeader?, hfilter]
  | some body =>
    obtain ⟨-, before, only, after, rfl, hname, hvalue, hothers⟩ := h
    have hfilter : (before ++ only :: after).filter (·.name = contentLengthName) = [only] := by
      have hbefore : before.filter (·.name = contentLengthName) = [] := by
        rw [List.filter_eq_nil_iff]
        intro header hmem
        simpa using hothers header (List.mem_append_left after hmem)
      have hafter : after.filter (·.name = contentLengthName) = [] := by
        rw [List.filter_eq_nil_iff]
        intro header hmem
        simpa using hothers header (List.mem_append_right before hmem)
      simp [hbefore, hafter, hname]
    exact ⟨only, by simp [lengthHeader?, hfilter], hvalue⟩

namespace WrittenFrame

/-- A written frame is a segment in which one header at most gives a length. -/
def segment (frame : WrittenFrame) : Segment where
  head := ⟨frame.separators, frame.headers, frame.announced.measured⟩
  closing := frame.closing
  body := frame.body
  headers_ne := frame.headers_ne
  asked := frame.announced.asks

theorem bytes_segment (frame : WrittenFrame) : frame.segment.bytes = frame.bytes := by
  simp only [bytes, chars, segment, Segment.bytes, FrameHead.bytes, FrameHead.chars,
    LineEnding.bytes, String.ofList_append, Text.codes_append, String.ofList_toList]

theorem frame_segment (frame : WrittenFrame) : frame.segment.frame = frame.frame := rfl

end WrittenFrame

namespace DecoderView

theorem drain_written (frames : List WrittenFrame) (more : List UInt8) :
    (fresh (frames.flatMap WrittenFrame.bytes ++ more)).drain =
      (fresh more).drain.prepend (frames.map WrittenFrame.frame) := by
  have hdrain := drain_segments (frames.map WrittenFrame.segment) more
  rw [List.flatMap_map, List.map_map] at hdrain
  simpa only [WrittenFrame.bytes_segment, Function.comp_def, WrittenFrame.frame_segment]
    using hdrain

end DecoderView

/-! Lines that are each read as a header make a frame without a body. -/

/-- The line is read as the header, and can stand on a line of its own. -/
structure HeaderLine (line : String) (pair : String × String) : Prop where
  read : headerOfLine line = .ok pair
  lineText : Text.LineText line

theorem HeaderLine.exists_written {line : String} {pair : String × String}
    (h : HeaderLine line pair) :
    ∃ header : WrittenHeader, header.pair = pair ∧ header.chars = line.toList ++ ['\n'] := by
  have hkept : Text.dropReturn line = line := by
    rw [Text.dropReturn, if_neg h.lineText.noReturn]
  obtain ⟨header, hpair, hline⟩ :=
    exists_writtenHeader h.lineText.noFeed (by rw [hkept]; exact h.read)
  refine ⟨header, hpair, ?_⟩
  rw [hline, String.toList_ofList, WrittenHeader.chars, LineEnding.chars, List.append_assoc]

theorem exists_headers {lines : List String} {pairs : List (String × String)}
    (h : List.Forall₂ HeaderLine lines pairs) :
    ∃ headers : List WrittenHeader, headers.map WrittenHeader.pair = pairs ∧
      headers.flatMap WrittenHeader.chars = (Text.endLines lines).toList := by
  induction h with
  | nil => exact ⟨[], rfl, rfl⟩
  | @cons line pair lines pairs hline _ ih =>
    obtain ⟨header, hpair, hchars⟩ := hline.exists_written
    obtain ⟨headers, hpairs, hrest⟩ := ih
    refine ⟨header :: headers, by rw [List.map_cons, hpair, hpairs], ?_⟩
    rw [List.flatMap_cons, hchars, hrest, Text.toList_endLines_cons, List.append_assoc,
      List.singleton_append]

theorem exists_writtenFrame {lines : List String} {pairs : List (String × String)}
    (h : List.Forall₂ HeaderLine lines pairs) (hne : pairs ≠ [])
    (hlength : ∀ pair ∈ pairs, pair.1 ≠ contentLengthName) :
    ∃ frame : WrittenFrame, frame.frame = Frame.ofHeaders pairs [] ∧
      frame.bytes = Text.codes (Text.endLines lines ++ "\n") := by
  obtain ⟨headers, rfl, hchars⟩ := exists_headers h
  let frame : WrittenFrame :=
    { separators := []
      headers := headers
      closing := .feed
      body := none
      headers_ne := by simpa using hne
      announced := fun header hmem => hlength _ (List.mem_map_of_mem hmem) }
  refine ⟨frame, rfl, ?_⟩
  have hframe : frame.chars = (Text.endLines lines).toList ++ ['\n'] := by
    simp [frame, WrittenFrame.chars, hchars, LineEnding.chars, LineEnding.mark]
  rw [WrittenFrame.bytes, hframe, String.ofList_append, String.ofList_toList]

/-- The bytes of one frame, in whatever pieces, give that frame and nothing is left of them. -/
theorem WrittenFrame.play_alone (frame : WrittenFrame) {calls : List DecoderCall}
    (hfed : fed calls = frame.bytes) (haccepted : (Decoder.new.play calls).Accepted) :
    (Decoder.new.play calls).map Decoder.view = ⟨[frame.frame], .waiting (.fresh [])⟩ := by
  have hwritten := DecoderView.drain_written [frame] []
  rw [List.flatMap_singleton, List.append_nil] at hwritten
  rw [(Decoder.play_view Decoder.sound_new calls haccepted).1, Decoder.view_new,
    DecoderView.append_fresh, List.nil_append, hfed, hwritten, DecoderView.drain_fresh_nil]
  rfl

namespace Decoder

/-- A decoder between frames, with the given bytes waiting. -/
def holding (bytes : ByteArray) : Decoder := ⟨⟨bytes, 0, 0⟩, .fresh⟩

theorem view_holding (bytes : ByteArray) : (holding bytes).view = .fresh (octets bytes) := rfl

theorem sound_holding (bytes : ByteArray) : (holding bytes).Sound :=
  ⟨Nat.zero_le _, Nat.zero_le _, by simp [holding]⟩

/-- However written frames and what follows them are cut into pieces, the frames are read back one
by one, and then what follows is decoded as it is on its own. -/
theorem play_written (frames : List WrittenFrame) (more : ByteArray) (calls : List DecoderCall)
    (hfed : fed calls = frames.flatMap WrittenFrame.bytes ++ octets more)
    (haccepted : (new.play calls).Accepted) :
    Alike (new.play calls) ((holding more).drain.prepend (frames.map WrittenFrame.frame)) ∧
      ∀ alone : List DecoderCall, fed alone = octets more → (new.play alone).Accepted →
        Alike (new.play calls) ((new.play alone).prepend (frames.map WrittenFrame.frame)) := by
  obtain ⟨hview, hleaves⟩ := play_view sound_new calls haccepted
  rw [view_new, DecoderView.append_fresh, List.nil_append, hfed, DecoderView.drain_written] at hview
  constructor
  · obtain ⟨hrest, hleft⟩ := drain_view (sound_holding more)
    refine alike_of_view hleaves hleft (hview.trans ?_)
    rw [← view_holding, ← hrest]
    rfl
  · intro alone halone hroom
    obtain ⟨hrest, hleft⟩ := play_view sound_new alone hroom
    rw [view_new, DecoderView.append_fresh, List.nil_append, halone] at hrest
    refine alike_of_view hleaves hleft (hview.trans ?_)
    rw [← hrest]
    rfl

theorem play_written_nested :
    fed [.feed ⟨(WrittenFrame.nested.bytes ++ [67, 58]).toArray⟩, .next] =
        [WrittenFrame.nested].flatMap WrittenFrame.bytes ++ octets ⟨#[67, 58]⟩ ∧
      (new.play [.feed ⟨(WrittenFrame.nested.bytes ++ [67, 58]).toArray⟩, .next]).Accepted ∧
      Alike (new.play [.feed ⟨(WrittenFrame.nested.bytes ++ [67, 58]).toArray⟩, .next])
        ((holding ⟨#[67, 58]⟩).drain.prepend [WrittenFrame.nested.frame]) ∧
      Alike (new.play [.feed ⟨(WrittenFrame.nested.bytes ++ [67, 58]).toArray⟩, .next])
        ((new.play [.feed ⟨#[67, 58]⟩]).prepend [WrittenFrame.nested.frame]) := by
  have hfed : fed [.feed ⟨(WrittenFrame.nested.bytes ++ [67, 58]).toArray⟩, .next] =
      [WrittenFrame.nested].flatMap WrittenFrame.bytes ++ octets ⟨#[67, 58]⟩ := by
    decide +kernel
  have haccepted : (new.play
      [.feed ⟨(WrittenFrame.nested.bytes ++ [67, 58]).toArray⟩, .next]).Accepted :=
    accepted_play sound_new _ (by decide +kernel)
  have halone : (new.play [.feed ⟨#[67, 58]⟩]).Accepted :=
    accepted_play sound_new _ (by decide +kernel)
  obtain ⟨hheld, hplayed⟩ := play_written [WrittenFrame.nested] ⟨#[67, 58]⟩ _ hfed haccepted
  exact ⟨hfed, haccepted, hheld, hplayed _ rfl halone⟩

end Decoder

end EventSocket
