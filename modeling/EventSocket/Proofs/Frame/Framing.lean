import EventSocket.Proofs.Frame.Schedule
import EventSocket.Proofs.Frame.Lines

/-!
Whatever the stream, the frames taken off it are those of its segments, one after another with no
byte between them, and the first bytes that cannot become a segment are the fault that is reported.
-/

namespace EventSocket

/-- The bytes taken up since the last frame are the beginning of a segment, and put a decoder into
the mode. -/
def Begun (opened : List UInt8) : DecoderMode → Prop
  | .headers read length =>
    ∃ head : FrameHead, opened = head.bytes ∧ read = head.pairs.toArray ∧ Asks head.headers length
  | .body read length =>
    ∃ (head : FrameHead) (closing : LineEnding), opened = head.bytes ++ closing.bytes ∧
      head.headers ≠ [] ∧ read = head.pairs.toArray ∧ Asks head.headers (some length)

theorem begun_fresh : Begun [] .fresh :=
  ⟨.none, rfl, rfl, asks_nil⟩

/-! It makes no difference whether the beginning of a segment has been taken up or lies ahead. -/

namespace DecoderView

theorem next_measured {headers : List WrittenHeader} (h : ∀ header ∈ headers, header.Measured)
    {length : Option Nat} (hasks : Asks headers length) (more : List UInt8) :
    (fresh (Text.codes (String.ofList (headers.flatMap WrittenHeader.chars)) ++ more)).next =
      next ⟨.headers (headers.map WrittenHeader.pair).toArray length, more⟩ := by
  -- From the last header back, as it is the last that gives the length.
  induction headers using List.reverseRecOn generalizing length more with
  | nil =>
    rw [asks_nil.unique hasks]
    rfl
  | append_singleton headers header ih =>
    have hheaders : ∀ other ∈ headers, other.Measured :=
      fun other hother => h other (List.mem_append_left _ hother)
    obtain ⟨before, hbefore⟩ := exists_asks hheaders
    obtain ⟨after, hafter, hread⟩ := Decoder.readHeaderLine_measured
      (headers.map WrittenHeader.pair).toArray (h header (by simp)) hbefore
    rw [hafter.unique hasks, List.flatMap_append, String.ofList_append, Text.codes_append,
      List.append_assoc, ih hheaders hbefore, List.flatMap_singleton, next_header header hread]
    simp

theorem next_head (head : FrameHead) {length : Option Nat} (hasks : Asks head.headers length)
    (more : List UInt8) :
    (fresh (head.bytes ++ more)).next = next ⟨.headers head.pairs.toArray length, more⟩ := by
  rw [head.bytes_eq, List.append_assoc, next_separators, next_measured head.measured hasks]
  rfl

theorem next_head_closing (head : FrameHead) (closing : LineEnding) (hne : head.headers ≠ [])
    {count : Nat} (hasks : Asks head.headers (some count)) (more : List UInt8) :
    (fresh (head.bytes ++ closing.bytes ++ more)).next =
      next ⟨.body head.pairs.toArray count, more⟩ := by
  have hpairs : head.pairs ≠ [] := by rwa [ne_eq, FrameHead.pairs_eq_nil]
  rw [List.append_assoc, next_head head hasks]
  exact next_of_advanced (turn_closing_length hpairs count closing more)

theorem next_begun {view : DecoderView} {opened : List UInt8} (h : Begun opened view.mode) :
    (fresh (opened ++ view.ahead)).next = view.next := by
  obtain ⟨mode, ahead⟩ := view
  cases mode with
  | headers read length =>
    obtain ⟨head, rfl, rfl, hasks⟩ := h
    exact next_head head hasks ahead
  | body read length =>
    obtain ⟨head, closing, rfl, hne, rfl, hasks⟩ := h
    exact next_head_closing head closing hne hasks ahead

theorem next_segment (segment : Segment) (more : List UInt8) :
    (fresh (segment.bytes ++ more)).next = (.ok (some segment.frame), fresh more) := by
  have hasked := segment.asked
  have hpairs : segment.head.pairs ≠ [] := by
    rw [ne_eq, FrameHead.pairs_eq_nil]
    exact segment.headers_ne
  rw [Segment.bytes, Segment.frame, List.append_assoc]
  cases hbody : segment.body with
  | none =>
    rw [hbody] at hasked
    rw [List.append_assoc, next_head segment.head hasked]
    exact next_of_frame (turn_closing hpairs segment.closing more)
  | some body =>
    rw [hbody] at hasked
    rw [next_head_closing segment.head segment.closing segment.headers_ne hasked]
    exact next_of_frame (turn_body _ body more)

theorem next_malformed {bytes : List UInt8} {fault : Fault} (h : Malformed bytes fault) :
    (fresh bytes).next.1 = .error fault := by
  cases h with
  | line head hline hbad more =>
    obtain ⟨length, hasks⟩ := exists_asks head.measured
    rw [List.append_assoc, next_head head hasks,
      next_of_fault (turn_bad head.pairs.toArray length hline hbad more)]
  | body head closing hne hasked hbody more =>
    rw [List.append_assoc (head.bytes ++ closing.bytes), next_head_closing head closing hne hasked,
      next_of_fault (turn_body_notText head.pairs.toArray hbody more)]

end DecoderView

/-- What a turn makes of the bytes taken up since the last frame and of those ahead. -/
inductive Scanned (opened : List UInt8) (view : DecoderView) : DecoderTurn → DecoderView → Prop
  | waiting : Scanned opened view .waiting view
  | advanced {taken rest : List UInt8} {mode : DecoderMode} (hahead : view.ahead = taken ++ rest)
      (hbegun : Begun (opened ++ taken) mode) : Scanned opened view .advanced ⟨mode, rest⟩
  | frame (segment : Segment) {more : List UInt8}
      (hbytes : opened ++ view.ahead = segment.bytes ++ more)
      (hbody : Text.codes (segment.body.getD "") ++ more <:+ view.ahead) :
      Scanned opened view (.frame segment.frame) (.fresh more)
  | fault {fault : Fault} {rest : DecoderView} (hfault : Malformed (opened ++ view.ahead) fault) :
      Scanned opened view (.fault fault) rest

namespace DecoderView

theorem scanned_blank (head : FrameHead) {length : Option Nat} (hasks : Asks head.headers length)
    (ending : LineEnding) (more : List UInt8) :
    let view : DecoderView := ⟨.headers head.pairs.toArray length, ending.bytes ++ more⟩
    Scanned head.bytes view view.turn.1 view.turn.2 := by
  intro view
  by_cases hne : head.headers = []
  · have hread : head.pairs.toArray = #[] := by simp [FrameHead.pairs, hne]
    obtain rfl : length = none := asks_nil.unique (hne ▸ hasks)
    have hturn : view.turn = (.advanced, ⟨.headers head.pairs.toArray none, more⟩) := by
      refine turn_line ending.mark_oneLine ?_ more
      rw [hread]
      exact Decoder.readLine_of_separator (Text.fromUTF8?_codes _) ending.dropReturn_mark
    rw [hturn]
    exact .advanced rfl ⟨head.addSeparator ending, (FrameHead.bytes_addSeparator hne ending).symm,
      rfl, hasks⟩
  · have hpairs : head.pairs ≠ [] := by rwa [ne_eq, FrameHead.pairs_eq_nil]
    cases length with
    | none =>
      have hturn : view.turn = (.frame (Frame.ofHeaders head.pairs []), fresh more) :=
        turn_closing hpairs ending more
      let segment : Segment := ⟨head, ending, none, hne, hasks⟩
      rw [hturn]
      exact .frame segment (by simp [segment, Segment.bytes, view])
        (by simp [segment, view, Text.codes_empty])
    | some count =>
      have hturn : view.turn = (.advanced, ⟨.body head.pairs.toArray count, more⟩) :=
        turn_closing_length hpairs count ending more
      rw [hturn]
      exact .advanced rfl ⟨head, ending, rfl, hne, rfl, hasks⟩

theorem scanned_header (head : FrameHead) {length : Option Nat} (hasks : Asks head.headers length)
    {header : WrittenHeader} (hmeasured : header.Measured) (more : List UInt8) :
    let view : DecoderView := ⟨.headers head.pairs.toArray length, header.bytes ++ more⟩
    Scanned head.bytes view view.turn.1 view.turn.2 := by
  intro view
  obtain ⟨length', hasks', hread⟩ :=
    Decoder.readHeaderLine_measured head.pairs.toArray hmeasured hasks
  have hturn : view.turn =
      (.advanced, ⟨.headers (head.pairs.toArray.push header.pair) length', more⟩) :=
    turn_header hread more
  rw [hturn]
  refine .advanced rfl
    ⟨head.addHeader header hmeasured, (head.bytes_addHeader header hmeasured).symm, ?_, hasks'⟩
  rw [head.pairs_addHeader, List.push_toArray]

theorem scanned_bad (head : FrameHead) (length : Option Nat) {line : List UInt8} {fault : Fault}
    (hline : lineFeed ∉ line) (hbad : BadLine line fault) (more : List UInt8) :
    let view : DecoderView := ⟨.headers head.pairs.toArray length, line ++ lineFeed :: more⟩
    Scanned head.bytes view view.turn.1 view.turn.2 := by
  intro view
  rw [show view.turn = _ from turn_bad head.pairs.toArray length hline hbad more]
  refine .fault ?_
  rw [← List.append_assoc]
  exact .line head hline hbad more

theorem scanned_body (head : FrameHead) (closing : LineEnding) (hne : head.headers ≠ [])
    (body : List UInt8) (hasks : Asks head.headers (some body.length)) (more : List UInt8) :
    let view : DecoderView := ⟨.body head.pairs.toArray body.length, body ++ more⟩
    Scanned (head.bytes ++ closing.bytes) view view.turn.1 view.turn.2 := by
  intro view
  cases htext : String.fromUTF8? body.toByteArray with
  | none =>
    have hnotText := Text.fromUTF8?_eq_none_iff.mp htext
    rw [show view.turn = _ from turn_body_notText head.pairs.toArray hnotText more]
    refine .fault ?_
    rw [← List.append_assoc]
    exact .body head closing hne hasks hnotText more
  | some text =>
    obtain rfl := Text.codes_of_fromUTF8? htext
    let segment : Segment := ⟨head, closing, some text, hne, by rwa [Text.length_codes] at hasks⟩
    have hturn : view.turn = (.frame segment.frame, fresh more) := by
      simp only [view, Text.length_codes]
      exact turn_body head.pairs text more
    rw [hturn]
    exact .frame segment (by simp [segment, Segment.bytes, view]) List.suffix_rfl

theorem scanned_turn {view : DecoderView} {opened : List UInt8} (h : Begun opened view.mode) :
    Scanned opened view view.turn.1 view.turn.2 := by
  obtain ⟨mode, ahead⟩ := view
  cases mode with
  | headers read length =>
    obtain ⟨head, rfl, rfl, hasks⟩ := h
    cases hsplit : splitLine ahead with
    | none =>
      rw [turn_headers_none hsplit]
      exact .waiting
    | some split =>
      obtain ⟨line, rest⟩ := split
      obtain ⟨rfl, hline⟩ := splitLine_eq_some_iff.mp hsplit
      rcases line_cases hline with ⟨ending, hending⟩ | ⟨header, hmeasured, hheader⟩ | ⟨fault, hbad⟩
      · rw [List.append_cons, hending]
        exact scanned_blank head hasks ending rest
      · rw [List.append_cons, hheader]
        exact scanned_header head hasks hmeasured rest
      · exact scanned_bad head length hline hbad rest
  | body read length =>
    obtain ⟨head, closing, rfl, hne, rfl, hasks⟩ := h
    by_cases hlength : ahead.length < length
    · rw [turn_body_of_lt hlength]
      exact .waiting
    · have htake : (ahead.take length).length = length :=
        List.length_take_of_le (Nat.not_lt.mp hlength)
      have hscanned := scanned_body head closing hne (ahead.take length) (by rwa [htake])
        (ahead.drop length)
      simpa only [htake, List.take_append_drop] using hscanned

/-- What an answer, and the decoder behind it, say about the bytes since the last frame. -/
inductive Answers (opened : List UInt8) (view rest : DecoderView) :
    Except Fault (Option Frame) → Prop
  | frame (segment : Segment) {more : List UInt8}
      (hbytes : opened ++ view.ahead = segment.bytes ++ more)
      (hbody : Text.codes (segment.body.getD "") ++ more <:+ view.ahead)
      (hrest : rest = fresh more) : Answers opened view rest (.ok (some segment.frame))
  | nothing {taken : List UInt8} (hahead : view.ahead = taken ++ rest.ahead)
      (hbegun : Begun (opened ++ taken) rest.mode) : Answers opened view rest (.ok none)
  | fault {fault : Fault} (hfault : Malformed (opened ++ view.ahead) fault) :
      Answers opened view rest (.error fault)

theorem next_scanned {view rest : DecoderView} {opened : List UInt8}
    {answer : Except Fault (Option Frame)} (h : Begun opened view.mode)
    (hnext : view.next = (answer, rest)) : Answers opened view rest answer := by
  fun_induction next view generalizing opened with
  | case1 view after hturn =>
    cases hnext
    obtain rfl := turn_waiting hturn
    exact .nothing (List.nil_append _).symm (by rwa [List.append_nil])
  | case2 view after hturn ih =>
    have hscanned := scanned_turn h
    rw [hturn] at hscanned
    cases hscanned with
    | @advanced taken rest' mode hahead hbegun =>
      have hbytes : opened ++ view.ahead = opened ++ taken ++ rest' := by
        rw [hahead, List.append_assoc]
      cases ih hbegun hnext with
      | frame segment hsegment hbody hrest =>
        exact .frame segment (hbytes.trans hsegment) (hbody.trans ⟨taken, hahead.symm⟩) hrest
      | @nothing taken' hrest hbegun' =>
        refine @Answers.nothing _ _ _ (taken ++ taken') ?_ ?_
        · rw [hahead, List.append_assoc, ← hrest]
        · rwa [← List.append_assoc]
      | fault hfault => exact .fault (hbytes ▸ hfault)
  | case3 view frame after hturn =>
    have hscanned := scanned_turn h
    rw [hturn] at hscanned
    cases hnext
    cases hscanned with
    | frame segment hbytes hbody => exact .frame segment hbytes hbody rfl
  | case4 view fault after hturn =>
    have hscanned := scanned_turn h
    rw [hturn] at hscanned
    cases hnext
    cases hscanned with
    | fault hfault => exact .fault hfault

theorem begun_turn_fault {view rest : DecoderView} {opened : List UInt8} {fault : Fault}
    (h : Begun opened view.mode) (hturn : view.turn = (.fault fault, rest)) :
    ∃ kept, Begun kept rest.mode ∧ kept.Sublist opened := by
  obtain ⟨mode, ahead⟩ := view
  cases mode with
  | headers read length =>
    cases hsplit : splitLine ahead with
    | none => simp [turn_headers_none hsplit] at hturn
    | some split =>
      obtain ⟨line, more⟩ := split
      rw [turn_headers_some hsplit, Prod.mk.injEq] at hturn
      obtain ⟨hfault, rfl⟩ := hturn
      have hmode := Decoder.readLine_fault (Prod.ext hfault rfl)
      refine ⟨opened, ?_, List.Sublist.refl opened⟩
      simpa only [hmode] using h
  | body read length =>
    by_cases hlength : ahead.length < length
    · simp [turn_body_of_lt hlength] at hturn
    · rw [turn_body_of_le (Nat.not_lt.mp hlength), Prod.mk.injEq] at hturn
      obtain ⟨-, rfl⟩ := hturn
      exact ⟨[], begun_fresh, List.nil_sublist opened⟩

/-- Behind a fault a decoder goes on as if the bytes that it passed over had never been there. -/
theorem begun_next_fault {view rest : DecoderView} {opened : List UInt8} {fault : Fault}
    (h : Begun opened view.mode) (hnext : view.next = (.error fault, rest)) :
    ∃ kept, Begun kept rest.mode ∧ (kept ++ rest.ahead).Sublist (opened ++ view.ahead) := by
  fun_induction next view generalizing opened with
  | case1 => cases hnext
  | case2 view after hturn ih =>
    have hscanned := scanned_turn h
    rw [hturn] at hscanned
    cases hscanned with
    | @advanced taken more mode hahead hbegun =>
      obtain ⟨kept, hkept, hsublist⟩ := ih hbegun hnext
      exact ⟨kept, hkept, by rwa [hahead, ← List.append_assoc]⟩
  | case3 => cases hnext
  | case4 view found after hturn =>
    cases hnext
    obtain ⟨kept, hkept, hsublist⟩ := begun_turn_fault h hturn
    exact ⟨kept, hkept, hsublist.append (turn_suffix hturn).sublist⟩

end DecoderView

def Decoding.prepend {σ : Type} (frames : List Frame) (decoding : Decoding σ) : Decoding σ :=
  { decoding with frames := frames ++ decoding.frames }

namespace DecoderView

theorem drain_segments (segments : List Segment) (more : List UInt8) :
    (fresh (segments.flatMap Segment.bytes ++ more)).drain =
      (fresh more).drain.prepend (segments.map Segment.frame) := by
  induction segments with
  | nil => rfl
  | cons segment segments ih =>
    rw [List.flatMap_cons, List.append_assoc, drain_of_frame (next_segment segment _), ih]
    rfl

theorem drain_fresh_nil : (fresh []).drain = ⟨[], .waiting (fresh [])⟩ :=
  drain_of_none (next_of_waiting (turn_headers_none rfl))

/-- No bytes that follow make up for a fault. -/
theorem not_malformed_of_segments {segments later : List Segment} {unread more : List UInt8}
    (h : segments.flatMap Segment.bytes ++ unread ++ more = later.flatMap Segment.bytes)
    (fault : Fault) : ¬ Malformed unread fault := by
  intro hmalformed
  have hnext : (fresh unread).next = (.error fault, (fresh unread).next.2) := by
    rw [← next_malformed hmalformed]
  have hfault := drain_of_fault (next_append_fault hnext more)
  have hwhole := drain_segments segments (unread ++ more)
  have hlater := drain_segments later []
  rw [← List.append_assoc, h, ← append_fresh unread, hfault] at hwhole
  rw [List.append_nil, hwhole, drain_fresh_nil] at hlater
  cases congrArg Decoding.ending hlater

end DecoderView

namespace Decoder

/-- The frames that a schedule takes off and the decoder that it leaves, unless it comes upon a
fault or bytes that find no room. -/
def follow (decoder : Decoder) : List DecoderCall → Option (List Frame × Decoder)
  | [] => some ([], decoder)
  | .feed bytes :: calls =>
    match decoder.feed bytes with
    | .ok next => next.follow calls
    | .error _ => none
  | .next :: calls =>
    match decoder.next with
    | (.ok (some frame), rest) =>
      (rest.follow calls).map fun (frames, last) => (frame :: frames, last)
    | (.ok none, rest) => rest.follow calls
    | (.error _, _) => none

/-- The frames are those of segments that make up the stream but for the bytes behind the last
frame, and the decoder takes up these as they deserve. -/
structure Framed (stream : List UInt8) (frames : List Frame) (decoder : Decoder)
    (segments : List Segment) (unread : List UInt8) : Prop where
  stream_eq : stream = segments.flatMap Segment.bytes ++ unread
  frames_eq : frames = segments.map Segment.frame
  held : decoder.view.ahead <:+ unread
  emits : ∀ frame, decoder.next.1 = .ok (some frame) ↔
    ∃ (segment : Segment) (more : List UInt8), unread = segment.bytes ++ more ∧
      frame = segment.frame
  leaves : ∀ (segment : Segment) (more : List UInt8), unread = segment.bytes ++ more →
    decoder.next.2.view = .fresh more
  reports : ∀ fault, decoder.next.1 = .error fault ↔ Malformed unread fault
  extends_clean : ∀ (more : List UInt8) (later : List Segment),
    stream ++ more = later.flatMap Segment.bytes → ∀ fault, decoder.next.1 ≠ .error fault

theorem follow_segments {decoder last : Decoder} {opened : List UInt8} {calls : List DecoderCall}
    {frames : List Frame} (sound : decoder.Sound) (h : Begun opened decoder.view.mode)
    (hfollow : decoder.follow calls = some (frames, last)) :
    ∃ (segments : List Segment) (unread : List UInt8),
      opened ++ decoder.view.ahead ++ fed calls =
        segments.flatMap Segment.bytes ++ (unread ++ last.view.ahead) ∧
      frames = segments.map Segment.frame ∧ Begun unread last.view.mode ∧ last.Sound := by
  induction calls generalizing decoder opened frames with
  | nil =>
    simp only [follow, Option.some.injEq, Prod.mk.injEq] at hfollow
    obtain ⟨rfl, rfl⟩ := hfollow
    exact ⟨[], opened, by simp [fed], rfl, h, sound⟩
  | cons call calls ih =>
    cases call with
    | feed bytes =>
      cases hfeed : decoder.feed bytes with
      | error fault => simp [follow, hfeed] at hfollow
      | ok next =>
        simp only [follow, hfeed] at hfollow
        obtain ⟨hview, hsound⟩ := view_feed sound hfeed
        obtain ⟨segments, unread, hstream, hrest⟩ := ih hsound (by rwa [hview]) hfollow
        refine ⟨segments, unread, ?_, hrest⟩
        rw [← hstream, hview, fed, DecoderView.append, List.append_assoc, List.append_assoc,
          List.append_assoc]
    | next =>
      cases hnext : decoder.next with
      | mk answer rest =>
        obtain ⟨hview, hsound⟩ := view_next sound hnext
        cases DecoderView.next_scanned h hview with
        | frame segment hbytes _ hrest =>
          simp only [follow, hnext, Option.map_eq_some_iff] at hfollow
          obtain ⟨⟨frames, last⟩, hfollow, hframes⟩ := hfollow
          cases hframes
          have hbegun : Begun [] rest.view.mode := hrest ▸ begun_fresh
          obtain ⟨segments, unread, hstream, rfl, hlast⟩ := ih hsound hbegun hfollow
          refine ⟨segment :: segments, unread, ?_, rfl, hlast⟩
          rw [hrest] at hstream
          rw [hbytes, fed, List.flatMap_cons, List.append_assoc, List.append_assoc, ← hstream]
          rfl
        | nothing hahead hbegun =>
          simp only [follow, hnext] at hfollow
          obtain ⟨segments, unread, hstream, hrest⟩ := ih hsound hbegun hfollow
          refine ⟨segments, unread, ?_, hrest⟩
          rw [hahead, fed, ← hstream, ← List.append_assoc opened]
        | fault hfault => simp [follow, hnext] at hfollow

/-- However a stream is cut into pieces, each frame is that of the next segment, no byte belongs to
two of them or to none, and the first fault in the stream is reported when it is complete. -/
theorem follow_framed (calls : List DecoderCall) (frames : List Frame) (decoder : Decoder)
    (h : new.follow calls = some (frames, decoder)) :
    ∃ segments unread, Framed (fed calls) frames decoder segments unread := by
  obtain ⟨segments, opened, hstream, hframes, hbegun, sound⟩ :=
    follow_segments sound_new begun_fresh h
  have hfresh := DecoderView.next_begun hbegun
  obtain ⟨hview, -⟩ := next_view sound
  have hanswer : (DecoderView.fresh (opened ++ decoder.view.ahead)).next.1 = decoder.next.1 := by
    rw [hfresh, ← hview]
  have hreports : ∀ fault, decoder.next.1 = .error fault ↔
      Malformed (opened ++ decoder.view.ahead) fault := by
    intro fault
    constructor
    · intro hfault
      have hnext : decoder.view.next = (.error fault, decoder.next.2.view) := by
        rw [← hview, hfault]
      cases DecoderView.next_scanned hbegun hnext with
      | fault hmalformed => exact hmalformed
    · intro hmalformed
      rw [← hanswer, DecoderView.next_malformed hmalformed]
  refine ⟨segments, opened ++ decoder.view.ahead, hstream, hframes, List.suffix_append _ _, ?_, ?_,
    hreports, ?_⟩
  · intro frame
    constructor
    · intro hframe
      have hnext : decoder.view.next = (.ok (some frame), decoder.next.2.view) := by
        rw [← hview, hframe]
      cases DecoderView.next_scanned hbegun hnext with
      | frame segment hbytes => exact ⟨segment, _, hbytes, rfl⟩
    · rintro ⟨segment, more, hbytes, rfl⟩
      rw [← hanswer, hbytes, DecoderView.next_segment]
  · intro segment more hbytes
    rw [hbytes, DecoderView.next_segment, ← hview, Prod.mk.injEq] at hfresh
    exact hfresh.2.symm
  · intro more later hlater fault hfault
    rw [show fed calls = _ from hstream] at hlater
    exact DecoderView.not_malformed_of_segments hlater fault ((hreports fault).mp hfault)

/-- The last of two lengths counts, and what follows the body has no name before its colon. -/
theorem follow_framed_two_lengths :
    ∃ frames decoder segments unread,
      new.follow [.feed "\r\nContent-Length: 9\nContent-Le".toUTF8, .next,
        .feed "ngth: +2\n\nab : x\n".toUTF8, .next] = some (frames, decoder) ∧
      Framed (fed [.feed "\r\nContent-Length: 9\nContent-Le".toUTF8, .next,
        .feed "ngth: +2\n\nab : x\n".toUTF8, .next]) frames decoder segments unread := by
  have hsome : (new.follow [.feed "\r\nContent-Length: 9\nContent-Le".toUTF8, .next,
      .feed "ngth: +2\n\nab : x\n".toUTF8, .next]).isSome := by
    decide +kernel
  obtain ⟨⟨frames, decoder⟩, hfollow⟩ := Option.isSome_iff_exists.mp hsome
  obtain ⟨segments, unread, hframed⟩ := follow_framed _ frames decoder hfollow
  exact ⟨frames, decoder, segments, unread, hfollow, hframed⟩

end Decoder

end EventSocket
