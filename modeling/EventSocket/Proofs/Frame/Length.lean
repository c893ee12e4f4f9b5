import EventSocket.Proofs.Fields
import EventSocket.Proofs.Frame.Framing
import EventSocket.Proofs.Text.Lines

/-!
The length of a body is read twice: off the header lines as they come in, where it decides how many
bytes are taken, and off the headers of the finished frame. Both readings are the same, and the text
of the frame's body is the text that was taken, also in a decoder that is used on after a fault.
-/

namespace EventSocket

def FrameHead.GivesLength (head : FrameHead) : Prop :=
  ∃ header ∈ head.headers, header.name = contentLengthName

theorem lengthHeader?_eq_none_iff {headers : List WrittenHeader} :
    lengthHeader? headers = none ↔ ∀ header ∈ headers, header.name ≠ contentLengthName := by
  simp [lengthHeader?]

theorem lastValue?_pairs (headers : List WrittenHeader) :
    Fields.lastValue? contentLengthName (headers.map WrittenHeader.pair) =
      (lengthHeader? headers).map WrittenHeader.value := by
  rw [Fields.lastValue?, lengthHeader?, List.filter_map, List.getLast?_map, Option.map_map]
  rfl

namespace Segment

def bodyText (segment : Segment) : String := segment.body.getD ""

/-- The bytes behind the header block and the blank line that closes it. -/
def bodyBytes (segment : Segment) : List UInt8 := Text.codes segment.bodyText

/-- The frame says of its body what its bytes say. -/
structure Agrees (segment : Segment) (frame : Frame) : Prop where
  given : segment.head.GivesLength → frame.contentLength? = some segment.bodyBytes.length
  notGiven : ¬ segment.head.GivesLength →
    frame.contentLength? = none ∧ frame.body = [] ∧ segment.bodyBytes = []
  text : '\r' ∉ segment.bodyText.toList →
    frame.bodyText = Text.withoutFinalFeed segment.bodyText

theorem givesLength_iff (segment : Segment) :
    segment.head.GivesLength ↔ segment.body.isSome := by
  have hasked := segment.asked
  cases hbody : segment.body with
  | none =>
    rw [hbody] at hasked
    have hnone := lengthHeader?_eq_none_iff.mp hasked
    simpa [FrameHead.GivesLength] using hnone
  | some body =>
    rw [hbody] at hasked
    obtain ⟨header, hheader, -⟩ := hasked
    have hmem := List.mem_filter.mp (List.mem_of_getLast? hheader)
    simpa using ⟨header, hmem.1, of_decide_eq_true hmem.2⟩

theorem header?_frame (segment : Segment) :
    segment.frame.header? contentLengthName =
      (lengthHeader? segment.head.headers).map WrittenHeader.value := by
  rw [← lastValue?_pairs]
  exact Fields.get?_ofList _ _

theorem contentLength?_frame (segment : Segment) :
    segment.frame.contentLength? = segment.body.map String.utf8ByteSize := by
  have hasked := segment.asked
  rw [Frame.contentLength?, header?_frame]
  cases hbody : segment.body with
  | none =>
    rw [hbody] at hasked
    rw [show lengthHeader? segment.head.headers = none from hasked]
    rfl
  | some body =>
    rw [hbody] at hasked
    obtain ⟨header, hheader, hvalue⟩ := hasked
    have hmem := List.mem_filter.mp (List.mem_of_getLast? hheader)
    -- The header is one that the decoder has let through, so its number is within the limit.
    obtain ⟨count, hcount, hmeasured⟩ :=
      segment.head.measured header hmem.1 (of_decide_eq_true hmem.2)
    have hlimit : body.utf8ByteSize < lengthLimit := by
      rw [hmeasured.unique hvalue]
      exact Nat.lt_of_le_of_lt hcount (by decide)
    rw [hheader, Option.map_some, Option.bind_some, Text.natural?_of_numeral hvalue hlimit]
    rfl

theorem bodyText_frame {segment : Segment} (h : '\r' ∉ segment.bodyText.toList) :
    segment.frame.bodyText = Text.withoutFinalFeed segment.bodyText := by
  cases hbody : segment.body with
  | none =>
    simp [Frame.bodyText, frame, bodyText, hbody, Frame.ofHeaders, Text.joinLines,
      Text.withoutFinalFeed]
  | some body =>
    rw [bodyText, hbody, Option.getD_some] at h ⊢
    simp [Frame.bodyText, frame, hbody, Frame.ofHeaders, Text.joinLines_lines h]

theorem agrees (segment : Segment) : segment.Agrees segment.frame where
  given hgiven := by
    obtain ⟨body, hbody⟩ := Option.isSome_iff_exists.mp (segment.givesLength_iff.mp hgiven)
    rw [contentLength?_frame, bodyBytes, bodyText, hbody, Option.getD_some, Text.length_codes]
    rfl
  notGiven hnot := by
    have hbody : segment.body = none := by simpa [givesLength_iff] using hnot
    rw [contentLength?_frame, bodyBytes, bodyText, hbody]
    exact ⟨rfl, by simp [frame, hbody, Frame.ofHeaders], Text.codes_empty⟩
  text := bodyText_frame

end Segment

/-! A decoder may be used on after a fault. -/

/-- What has become of a decoder: the bytes that found room, the frames and the faults it has
answered with, and the decoder as it is now. -/
structure DecoderRun where
  taken : List UInt8
  frames : List Frame
  faults : List Fault
  decoder : Decoder

namespace DecoderRun

def start : DecoderRun := ⟨[], [], [], Decoder.new⟩

def call (run : DecoderRun) : DecoderCall → DecoderRun
  | .feed bytes =>
    match run.decoder.feed bytes with
    | .ok decoder => { run with taken := run.taken ++ octets bytes, decoder }
    | .error fault => { run with faults := run.faults ++ [fault] }
  | .next =>
    match run.decoder.next with
    | (.ok (some frame), decoder) => { run with frames := run.frames ++ [frame], decoder }
    | (.ok none, decoder) => { run with decoder }
    | (.error fault, decoder) => { run with faults := run.faults ++ [fault], decoder }

/-- Every call is made, whatever the answers to those before it. -/
def of (calls : List DecoderCall) : DecoderRun := calls.foldl call start

theorem of_concat (calls : List DecoderCall) (call : DecoderCall) :
    of (calls ++ [call]) = (of calls).call call := by
  rw [of, List.foldl_append]
  rfl

/-- Of the stream the run has kept some bytes, and passed over those that were at fault. The kept
ones are segments, the beginning of one, and what lies ahead. -/
structure Keeps (run : DecoderRun) (stream kept opened : List UInt8) (segments : List Segment) :
    Prop where
  sound : run.decoder.Sound
  begun : Begun opened run.decoder.view.mode
  kept_eq : kept = segments.flatMap Segment.bytes ++ (opened ++ run.decoder.view.ahead)
  frames_eq : run.frames = segments.map Segment.frame
  kept_sublist : kept.Sublist run.taken
  ahead_suffix : run.decoder.view.ahead <:+ run.taken
  taken_sublist : run.taken.Sublist stream
  whole : run.faults = [] → kept = stream

variable {run : DecoderRun} {stream kept opened : List UInt8} {segments : List Segment}

theorem keeps_start : start.Keeps [] [] [] [] where
  sound := Decoder.sound_new
  begun := begun_fresh
  kept_eq := rfl
  frames_eq := rfl
  kept_sublist := List.Sublist.refl _
  ahead_suffix := List.suffix_rfl
  taken_sublist := List.Sublist.refl _
  whole _ := rfl

theorem Keeps.took (h : run.Keeps stream kept opened segments) {decoder : Decoder}
    {bytes : ByteArray} (hfeed : run.decoder.feed bytes = .ok decoder) :
    { run with taken := run.taken ++ octets bytes, decoder }.Keeps (stream ++ octets bytes)
      (kept ++ octets bytes) opened segments := by
  obtain ⟨hview, hsound⟩ := Decoder.view_feed h.sound hfeed
  have hahead : decoder.view.ahead = run.decoder.view.ahead ++ octets bytes := by rw [hview]; rfl
  exact {
    sound := hsound
    begun := by simpa [hview, DecoderView.append] using h.begun
    kept_eq := by simp only [h.kept_eq, hahead, List.append_assoc]
    frames_eq := h.frames_eq
    kept_sublist := h.kept_sublist.append (List.Sublist.refl _)
    ahead_suffix := by simpa only [hahead] using List.suffix_append_self_iff.mpr h.ahead_suffix
    taken_sublist := h.taken_sublist.append (List.Sublist.refl _)
    whole := fun hfaults => by rw [h.whole hfaults] }

theorem Keeps.refused (h : run.Keeps stream kept opened segments) (bytes : ByteArray)
    (fault : Fault) :
    { run with faults := run.faults ++ [fault] }.Keeps (stream ++ octets bytes) kept opened
      segments :=
  { h with
    taken_sublist := h.taken_sublist.trans (List.sublist_append_left _ _)
    whole := fun hfaults => by simp at hfaults }

theorem Keeps.feed (h : run.Keeps stream kept opened segments) (bytes : ByteArray) :
    ∃ kept', (run.call (.feed bytes)).Keeps (stream ++ octets bytes) kept' opened segments := by
  unfold call
  dsimp only
  split
  · next decoder hfeed => exact ⟨_, h.took hfeed⟩
  · next fault _ => exact ⟨_, h.refused bytes fault⟩

theorem Keeps.next (h : run.Keeps stream kept opened segments) :
    ∃ kept' opened' segments', (run.call .next).Keeps stream kept' opened' segments' := by
  -- Only a fault takes bytes out of the kept ones; the other answers move the line between what has
  -- been taken up and what lies ahead.
  cases hnext : run.decoder.next with
  | mk answer rest =>
    obtain ⟨hview, hsound⟩ := Decoder.view_next h.sound hnext
    have hahead := (DecoderView.next_suffix hview).trans h.ahead_suffix
    cases DecoderView.next_scanned h.begun hview with
    | @frame segment more hbytes hbody hrest =>
      have hrun : run.call .next =
          { run with frames := run.frames ++ [segment.frame], decoder := rest } := by
        simp only [call, hnext]
      rw [hrun]
      refine ⟨kept, [], segments ++ [segment], { h with
        sound := hsound
        begun := hrest ▸ begun_fresh
        kept_eq := ?_
        frames_eq := by rw [h.frames_eq, List.map_append, List.map_singleton]
        ahead_suffix := hahead }⟩
      rw [h.kept_eq, hbytes, hrest]
      simp [DecoderView.fresh]
    | @nothing taken hrest hbegun =>
      have hrun : run.call .next = { run with decoder := rest } := by simp only [call, hnext]
      rw [hrun]
      exact ⟨kept, opened ++ taken, segments, { h with
        sound := hsound
        begun := hbegun
        kept_eq := by rw [h.kept_eq, hrest, List.append_assoc opened]
        ahead_suffix := hahead }⟩
    | @fault fault hfault =>
      obtain ⟨opened', hbegun, hsublist⟩ := DecoderView.begun_next_fault h.begun hview
      have hrun : run.call .next =
          { run with faults := run.faults ++ [fault], decoder := rest } := by
        simp only [call, hnext]
      rw [hrun]
      refine ⟨segments.flatMap Segment.bytes ++ (opened' ++ rest.view.ahead), opened', segments,
        { h with
          sound := hsound
          begun := hbegun
          kept_eq := rfl
          kept_sublist := ?_
          ahead_suffix := hahead
          whole := fun hfaults => by simp at hfaults }⟩
      refine List.Sublist.trans ?_ h.kept_sublist
      rw [h.kept_eq]
      exact (List.Sublist.refl _).append hsublist

theorem keeps_of (calls : List DecoderCall) :
    ∃ kept opened segments, (of calls).Keeps (fed calls) kept opened segments := by
  induction calls using List.reverseRecOn with
  | nil => exact ⟨[], [], [], keeps_start⟩
  | append_singleton calls call ih =>
    obtain ⟨kept, opened, segments, h⟩ := ih
    rw [of_concat, fed_append]
    cases call with
    | feed bytes =>
      obtain ⟨kept', hkept⟩ := h.feed bytes
      exact ⟨kept', opened, segments, by simpa [fed] using hkept⟩
    | next => simpa [fed] using h.next

/-- Every frame is made of the bytes between those before it and those that are left, but for lines
and bodies that were faults, and what it says of its body is true of the bytes taken for it, which
are those right before the ones that are left. -/
theorem emitted_agrees (calls : List DecoderCall) (frame : Frame) (rest : Decoder)
    (hnext : (of calls).decoder.next = (.ok (some frame), rest)) :
    ∃ (kept : List UInt8) (segments : List Segment) (segment : Segment),
      kept.Sublist (fed calls) ∧ ((of calls).faults = [] → kept = fed calls) ∧
      kept = segments.flatMap Segment.bytes ++ segment.bytes ++ rest.view.ahead ∧
      (of calls).frames = segments.map Segment.frame ∧ frame = segment.frame ∧
      segment.bodyBytes ++ rest.view.ahead <:+ (of calls).taken ∧ segment.Agrees frame := by
  obtain ⟨kept, opened, segments, h⟩ := keeps_of calls
  obtain ⟨hview, -⟩ := Decoder.view_next h.sound hnext
  cases DecoderView.next_scanned h.begun hview with
  | frame segment hbytes hbody hrest =>
    refine ⟨kept, segments, segment, h.kept_sublist.trans h.taken_sublist, h.whole, ?_,
      h.frames_eq, rfl, ?_, segment.agrees⟩
    · rw [h.kept_eq, hbytes, hrest, List.append_assoc]
      rfl
    · rw [hrest]
      exact hbody.trans h.ahead_suffix

/-- Names that come twice, a length that is no number, and a body in two pieces. -/
def repeatedNames : List DecoderCall :=
  [.feed "Content-Length: 7\nA: 1\nContent-Length: x\nContent-Length: +4\nA: 2\n\nB:\n".toUTF8,
    .next, .next, .feed "\nC".toUTF8]

theorem emitted_agrees_repeated_names :
    ∃ frame rest, (of repeatedNames).decoder.next = (.ok (some frame), rest) ∧
      frame.headers.toList = [(contentLengthName, "+4"), ("A", "2")] ∧
      frame.contentLength? = some 4 ∧
      ∃ (kept : List UInt8) (segments : List Segment) (segment : Segment),
        kept.Sublist (fed repeatedNames) ∧
        ((of repeatedNames).faults = [] → kept = fed repeatedNames) ∧
        kept = segments.flatMap Segment.bytes ++ segment.bytes ++ rest.view.ahead ∧
        (of repeatedNames).frames = segments.map Segment.frame ∧ frame = segment.frame ∧
        segment.bodyBytes ++ rest.view.ahead <:+ (of repeatedNames).taken ∧
        segment.Agrees frame := by
  have hemits : ((of repeatedNames).decoder.next.1.toOption.join.map fun frame =>
      (frame.headers.toList, frame.contentLength?)) =
        some ([(contentLengthName, "+4"), ("A", "2")], some 4) := by
    decide +kernel
  obtain ⟨frame, hframe, hparts⟩ := Option.map_eq_some_iff.mp hemits
  obtain ⟨hheaders, hlength⟩ := Prod.mk.inj hparts
  have hnext : (of repeatedNames).decoder.next =
      (.ok (some frame), (of repeatedNames).decoder.next.2) := by
    cases hanswer : (of repeatedNames).decoder.next.1 with
    | error fault => simp [hanswer, Except.toOption] at hframe
    | ok answer =>
      obtain rfl : answer = some frame := by simpa [hanswer, Except.toOption] using hframe
      exact Prod.ext hanswer rfl
  exact ⟨frame, _, hnext, hheaders, hlength, emitted_agrees repeatedNames frame _ hnext⟩

end DecoderRun

end EventSocket
