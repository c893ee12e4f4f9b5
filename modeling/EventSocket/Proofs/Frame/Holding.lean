import EventSocket.Proofs.Frame.Framing

/-!
What a decoder holds of the frame it is receiving. The limit of the buffer is one on the bytes that
wait there; header lines that have been taken up no longer wait, and nothing bounds them.
-/

namespace EventSocket

/-- The bytes from the first line on that is not blank. -/
def skipSeparators : List UInt8 → List UInt8
  | 10 :: rest => skipSeparators rest
  | 13 :: 10 :: rest => skipSeparators rest
  | bytes => bytes

theorem skipSeparators_suffix (bytes : List UInt8) : skipSeparators bytes <:+ bytes := by
  fun_induction skipSeparators bytes with
  | case1 rest ih => exact ih.trans (List.suffix_cons 10 rest)
  | case2 rest ih => exact ih.trans (List.suffix_append [13, 10] rest)
  | case3 bytes => exact List.suffix_refl bytes

theorem skipSeparators_ending (ending : LineEnding) (more : List UInt8) :
    skipSeparators (ending.bytes ++ more) = skipSeparators more := by
  cases ending with
  | feed =>
    rw [show LineEnding.feed.bytes = [10] from by decide]
    rfl
  | returnFeed =>
    rw [show LineEnding.returnFeed.bytes = [13, 10] from by decide]
    rfl

theorem skipSeparators_head (head : FrameHead) (more : List UInt8) :
    skipSeparators (head.bytes ++ more) =
      skipSeparators (head.headers.flatMap WrittenHeader.bytes ++ more) := by
  rw [head.bytes_eq_flatMap, List.append_assoc]
  induction head.separators with
  | nil => rfl
  | cons ending separators ih =>
    rw [List.flatMap_cons, List.append_assoc, skipSeparators_ending, ih]

theorem skipSeparators_line {line : List UInt8} (hline : lineFeed ∉ line) (hlong : 2 ≤ line.length)
    (more : List UInt8) : skipSeparators (line ++ more) = line ++ more := by
  match line, hlong with
  | first :: second :: line, _ =>
    simp only [List.mem_cons, not_or] at hline
    rw [List.cons_append, List.cons_append, skipSeparators]
    · intro rest heq
      exact hline.1 (List.cons.inj heq).1.symm
    · intro rest heq
      exact hline.2.1 (List.cons.inj (List.cons.inj heq).2).1.symm

theorem WrittenHeader.skipSeparators_bytes (header : WrittenHeader) (more : List UInt8) :
    skipSeparators (header.bytes ++ more) = header.bytes ++ more := by
  have hline : lineFeed ∉ Text.codes (String.ofList (header.lineChars ++ header.ending.mark)) := by
    rw [Text.lineFeed_mem_codes, String.toList_ofList]
    simp [header.lineChars_oneLine, header.ending.mark_oneLine]
  have hlong :
      2 ≤ (Text.codes (String.ofList (header.lineChars ++ header.ending.mark))).length := by
    have hname : header.name.toList.length ≠ 0 := by simpa using header.name_ne
    refine le_trans ?_ (Text.length_le_codes _)
    simp only [WrittenHeader.lineChars, WrittenHeader.nameChars, List.length_append,
      List.length_cons]
    omega
  rw [header.bytes_eq, List.append_assoc]
  exact skipSeparators_line hline hlong _

/-- Only the separators before the first header line are skipped. -/
theorem skipSeparators_begun {opened : List UInt8} {mode : DecoderMode} (h : Begun opened mode) :
    (mode = .fresh ∧ skipSeparators opened = [] ∧
      ∀ more, skipSeparators (opened ++ more) = skipSeparators more) ∨
    (mode ≠ .fresh ∧
      ∀ more, skipSeparators (opened ++ more) = skipSeparators opened ++ more) := by
  have hheaders {head : FrameHead} (hne : head.headers ≠ []) (more : List UInt8) :
      skipSeparators (head.bytes ++ more) =
        head.headers.flatMap WrittenHeader.bytes ++ more := by
    obtain ⟨header, headers, hcons⟩ := List.exists_cons_of_ne_nil hne
    rw [skipSeparators_head, hcons, List.flatMap_cons, List.append_assoc,
      header.skipSeparators_bytes]
  cases mode with
  | headers read length =>
    obtain ⟨head, rfl, rfl, hasks⟩ := h
    by_cases hempty : head.headers = []
    · left
      have hskip (more : List UInt8) :
          skipSeparators (head.bytes ++ more) = skipSeparators more := by
        rw [skipSeparators_head, hempty]
        rfl
      obtain rfl : length = none := asks_nil.unique (hempty ▸ hasks)
      refine ⟨by simp [FrameHead.pairs, hempty, DecoderMode.fresh], ?_, hskip⟩
      rw [← List.append_nil head.bytes, hskip]
      rfl
    · right
      refine ⟨by simp [FrameHead.pairs, hempty, DecoderMode.fresh], fun more => ?_⟩
      rw [hheaders hempty, ← List.append_nil head.bytes, hheaders hempty, List.append_nil]
  | body read length =>
    obtain ⟨head, closing, rfl, hne, rfl, hasks⟩ := h
    refine Or.inr ⟨by simp [DecoderMode.fresh], fun more => ?_⟩
    rw [List.append_assoc, hheaders hne, hheaders hne, List.append_assoc]

/-! ### A block of headers without an end -/

/-- The header of which every line is `count` letters longer than its name, and the colon. -/
def WrittenHeader.filled (count : Nat) : WrittenHeader where
  name := "a"
  value := String.ofList (List.replicate count 'b')
  beforeName := .none
  afterName := .none
  beforeValue := .none
  afterValue := .none
  ending := .feed
  name_ne := by decide
  name_trim := by decide
  name_oneLine := by decide
  name_noColon := by decide
  value_trim := by
    rw [Text.trim, String.toList_ofList, Text.trimChars_of_none]
    intro c hc
    rw [List.eq_of_mem_replicate hc]
    decide
  value_oneLine := by simp [List.mem_replicate]

theorem WrittenHeader.bytes_filled (count : Nat) :
    (filled count).bytes = 97 :: 58 :: (List.replicate count 98 ++ [10]) := by
  have hvalue : (List.replicate count 'b').flatMap String.utf8EncodeChar =
      List.replicate count 98 := by
    rw [List.flatMap_replicate, show String.utf8EncodeChar 'b' = [98] from by decide,
      List.flatten_replicate_singleton]
  have hfront : ['a', ':'].flatMap String.utf8EncodeChar = [97, 58] := by decide
  have hend : ['\n'].flatMap String.utf8EncodeChar = [10] := by decide
  have hchars : (filled count).chars = ['a', ':'] ++ (List.replicate count 'b' ++ ['\n']) := by
    simp [chars, lineChars, nameChars, valueChars, filled, Blanks.none, LineEnding.chars,
      LineEnding.mark]
  rw [bytes, Text.codes_ofList, hchars, List.flatMap_append, List.flatMap_append, hfront, hvalue,
    hend]
  rfl

theorem WrittenHeader.length_filled (count : Nat) : (filled count).bytes.length = count + 3 := by
  simp [bytes_filled]

namespace DecoderView

/-- Lines that are headers are taken up as fast as they come. -/
theorem next_lines {header : WrittenHeader} (hname : header.name ≠ contentLengthName) (count : Nat)
    (read : Array (String × String)) (length : Option Nat) :
    next ⟨.headers read length, (List.replicate count header.bytes).flatten⟩ =
      (.ok none, ⟨.headers (read ++ (List.replicate count header.pair).toArray) length, []⟩) := by
  induction count generalizing read with
  | zero => simpa using next_of_waiting (turn_headers_none rfl)
  | succ count ih =>
    have hread : Decoder.readHeaderLine read length
        (Text.dropReturn (String.ofList (header.lineChars ++ header.ending.mark))) =
          .ok (.headers (read.push header.pair) length) :=
      Decoder.readHeaderLine_of_ne header.headerOfLine_line hname
    rw [List.replicate_succ, List.flatten_cons, WrittenHeader.bytes, next_header header hread,
      ← WrittenHeader.bytes, ih, List.replicate_succ]
    have hpush : read.push header.pair ++ (List.replicate count header.pair).toArray =
        read ++ (header.pair :: List.replicate count header.pair).toArray :=
      Array.toList_inj.mp (by simp)
    rw [← hpush]

end DecoderView

namespace Decoder

/-- Feeds so many lines at once, and asks for a frame; and all that so many times. -/
def endlessHeaders (header : WrittenHeader) (count rounds : Nat) : List DecoderCall :=
  (List.replicate rounds
    [.feed (List.replicate count header.bytes).flatten.toByteArray, .next]).flatten

theorem fed_endlessHeaders (header : WrittenHeader) (count rounds : Nat) :
    fed (endlessHeaders header count rounds) =
      (List.replicate (rounds * count) header.bytes).flatten := by
  induction rounds with
  | zero => simp [endlessHeaders, fed]
  | succ rounds ih =>
    rw [endlessHeaders] at ih
    rw [endlessHeaders, List.replicate_succ, List.flatten_cons, fed_append, ih, Nat.succ_mul,
      Nat.add_comm, ← List.replicate_append_replicate, List.flatten_append]
    simp [fed]

theorem skipSeparators_endlessHeaders (header : WrittenHeader) (count rounds : Nat) :
    skipSeparators (fed (endlessHeaders header count rounds)) =
      fed (endlessHeaders header count rounds) := by
  rw [fed_endlessHeaders]
  cases rounds * count with
  | zero => rfl
  | succ lines => rw [List.replicate_succ, List.flatten_cons, header.skipSeparators_bytes]

theorem length_endlessHeaders (length count rounds : Nat) :
    (fed (endlessHeaders (.filled length) count rounds)).length =
      rounds * count * (length + 3) := by
  rw [fed_endlessHeaders]
  simp [List.length_flatten, WrittenHeader.length_filled]

theorem follow_endlessHeaders {header : WrittenHeader} (hname : header.name ≠ contentLengthName)
    {count : Nat} (hroom : count * header.bytes.length ≤ bufferLimit) (rounds : Nat)
    {decoder : Decoder} (sound : decoder.Sound) {read : Array (String × String)}
    {length : Option Nat} (hview : decoder.view = ⟨.headers read length, []⟩) :
    ∃ last, decoder.follow (endlessHeaders header count rounds) = some ([], last) ∧
      last.view =
        ⟨.headers (read ++ (List.replicate (rounds * count) header.pair).toArray) length, []⟩ := by
  induction rounds generalizing decoder read with
  | zero => exact ⟨decoder, rfl, by simpa using hview⟩
  | succ rounds ih =>
    have hsize : (List.replicate count header.bytes).flatten.toByteArray.size =
        count * header.bytes.length := by
      rw [← length_octets, octets_toByteArray]
      simp [List.length_flatten]
    obtain ⟨next, hfeed, -⟩ | ⟨-, hfull⟩ :=
      feed_eq decoder (List.replicate count header.bytes).flatten.toByteArray
    · obtain ⟨hnextView, hsound⟩ := view_feed sound hfeed
      rw [hview, DecoderView.append, List.nil_append, octets_toByteArray] at hnextView
      cases hnext : next.next with
      | mk answer rest =>
        obtain ⟨hlines, hrest⟩ := view_next hsound hnext
        rw [hnextView, DecoderView.next_lines hname] at hlines
        obtain ⟨rfl, hrestView⟩ := Prod.mk.inj hlines
        obtain ⟨last, hfollow, hlast⟩ := ih hrest hrestView.symm
        refine ⟨last, ?_, ?_⟩
        · rw [endlessHeaders] at hfollow
          rw [endlessHeaders, List.replicate_succ, List.flatten_cons]
          simp only [List.cons_append, List.nil_append, follow, hfeed, hnext, hfollow]
        · have hlines : read ++ (List.replicate count header.pair).toArray ++
              (List.replicate (rounds * count) header.pair).toArray =
              read ++ (List.replicate ((rounds + 1) * count) header.pair).toArray :=
            Array.toList_inj.mp (by simp [Nat.succ_mul, Nat.add_comm])
          rw [hlast, hlines]
    · rw [hview, hsize] at hfull
      exact absurd hfull (Nat.not_lt.mpr (by simpa using hroom))

/-! ### What the limit of the buffer bounds -/

/-- What a decoder holds of a stream from which the frames have been taken off: `opened`, the lines
of the next frame that it has taken up, and the bytes that wait. -/
structure Holds (stream : List UInt8) (frames : List Frame) (decoder : Decoder)
    (segments : List Segment) (opened : List UInt8) : Prop where
  stream_eq : stream = segments.flatMap Segment.bytes ++ (opened ++ decoder.view.ahead)
  frames_eq : frames = segments.map Segment.frame
  begun : Begun opened decoder.mode
  waiting : decoder.buffered = decoder.view.ahead.length
  within : decoder.buffered ≤ bufferLimit
  /-- All of it together is within the limit if no header line has been taken up, or so few. -/
  bounded : (skipSeparators (opened ++ decoder.view.ahead)).length ≤ bufferLimit ↔
    decoder.mode = .fresh ∨ (skipSeparators opened).length + decoder.buffered ≤ bufferLimit
  /-- When nothing waits, nothing stops a block of headers from going on without an end. -/
  unbounded : ∀ read length, decoder.view = ⟨.headers read length, []⟩ → ∀ room : Nat,
    ∃ more last, decoder.follow more = some ([], last) ∧ last.buffered = 0 ∧
      room < (skipSeparators (opened ++ fed more)).length

theorem follow_within {decoder last : Decoder} {calls : List DecoderCall} {frames : List Frame}
    (sound : decoder.Sound) (hwithin : decoder.view.ahead.length ≤ bufferLimit)
    (hfollow : decoder.follow calls = some (frames, last)) :
    last.view.ahead.length ≤ bufferLimit := by
  induction calls generalizing decoder frames with
  | nil =>
    obtain ⟨-, rfl⟩ : [] = frames ∧ decoder = last := by simpa [follow] using hfollow
    exact hwithin
  | cons call calls ih =>
    cases call with
    | feed bytes =>
      obtain ⟨next, hfeed, hroom⟩ | ⟨hfeed, -⟩ := feed_eq decoder bytes
      · simp only [follow, hfeed] at hfollow
        obtain ⟨hview, hsound⟩ := view_feed sound hfeed
        refine ih hsound ?_ hfollow
        rw [hview, DecoderView.append, List.length_append, length_octets]
        exact hroom
      · simp [follow, hfeed] at hfollow
    | next =>
      rcases hnext : decoder.next with ⟨fault | answer, rest⟩
      · simp [follow, hnext] at hfollow
      · obtain ⟨hview, hsound⟩ := view_next sound hnext
        have hrest := (DecoderView.length_next_le hview).trans hwithin
        cases answer with
        | none =>
          simp only [follow, hnext] at hfollow
          exact ih hsound hrest hfollow
        | some frame =>
          simp only [follow, hnext, Option.map_eq_some_iff] at hfollow
          obtain ⟨⟨frames, last⟩, hfollow, hframes⟩ := hfollow
          cases hframes
          exact ih hsound hrest hfollow

theorem bounded_iff {decoder : Decoder} {opened : List UInt8} (hbegun : Begun opened decoder.mode)
    (hwithin : decoder.view.ahead.length ≤ bufferLimit) :
    (skipSeparators (opened ++ decoder.view.ahead)).length ≤ bufferLimit ↔
      decoder.mode = .fresh ∨ (skipSeparators opened).length + decoder.buffered ≤ bufferLimit := by
  rcases skipSeparators_begun hbegun with ⟨hfresh, -, hskip⟩ | ⟨hsome, hskip⟩
  · rw [hskip]
    exact iff_of_true ((skipSeparators_suffix _).length_le.trans hwithin) (Or.inl hfresh)
  · rw [hskip, List.length_append, buffered_eq]
    exact ⟨Or.inr, fun h => h.resolve_left hsome⟩

theorem exists_beyond {decoder : Decoder} {opened : List UInt8} (sound : decoder.Sound)
    (hbegun : Begun opened decoder.mode) {read : Array (String × String)} {length : Option Nat}
    (hview : decoder.view = ⟨.headers read length, []⟩) (room : Nat) :
    ∃ more last, decoder.follow more = some ([], last) ∧ last.buffered = 0 ∧
      room < (skipSeparators (opened ++ fed more)).length := by
  have hroom : 1 * (WrittenHeader.filled 1).bytes.length ≤ bufferLimit := by decide
  obtain ⟨last, hfollow, hlast⟩ :=
    follow_endlessHeaders (by decide) hroom (room + 1) sound hview
  refine ⟨_, last, hfollow, ?_, ?_⟩
  · rw [buffered_eq, hlast]
    rfl
  · have hlength := length_endlessHeaders 1 1 (room + 1)
    rcases skipSeparators_begun hbegun with ⟨-, -, hskip⟩ | ⟨-, hskip⟩
    · rw [hskip, skipSeparators_endlessHeaders]
      omega
    · rw [hskip, List.length_append]
      omega

/-- The limit of the buffer is one on the bytes that wait. On what is held of a frame altogether it
is one only as long as no header line has been taken up. -/
theorem limit_counts_waiting_bytes (calls : List DecoderCall) (frames : List Frame)
    (decoder : Decoder) (h : new.follow calls = some (frames, decoder)) :
    ∃ segments opened, Holds (fed calls) frames decoder segments opened := by
  obtain ⟨segments, opened, hstream, hframes, hbegun, sound⟩ :=
    follow_segments sound_new begun_fresh h
  have hwithin := follow_within sound_new (Nat.zero_le _) h
  exact ⟨segments, opened, hstream, hframes, hbegun, decoder.buffered_eq,
    decoder.buffered_eq ▸ hwithin, bounded_iff hbegun hwithin,
    fun read length hview => exists_beyond sound hbegun hview⟩

theorem limit_counts_waiting_bytes_partial_line :
    ∃ frames decoder segments opened,
      new.follow [.feed "a: b\n\nc: d\ne".toUTF8, .next, .next] = some (frames, decoder) ∧
        Holds (fed [.feed "a: b\n\nc: d\ne".toUTF8, .next, .next]) frames decoder segments
          opened := by
  have hsome : (new.follow [.feed "a: b\n\nc: d\ne".toUTF8, .next, .next]).isSome := by
    decide +kernel
  obtain ⟨⟨frames, decoder⟩, hfollow⟩ := Option.isSome_iff_exists.mp hsome
  obtain ⟨segments, opened, hholds⟩ := limit_counts_waiting_bytes _ frames decoder hfollow
  exact ⟨frames, decoder, segments, opened, hfollow, hholds⟩

/-- Twice as many bytes as the buffer may hold, of one frame and without a fault. -/
theorem held_beyond_buffer_limit :
    ¬ ∀ (calls : List DecoderCall) (frames : List Frame) (decoder : Decoder)
      (segments : List Segment) (unread : List UInt8),
      new.follow calls = some (frames, decoder) →
      fed calls = segments.flatMap Segment.bytes ++ unread →
      frames = segments.map Segment.frame →
      (skipSeparators unread).length ≤ bufferLimit := by
  intro hbounded
  have hroom : 256 * (WrittenHeader.filled 65533).bytes.length ≤ bufferLimit := by
    rw [WrittenHeader.length_filled]
    decide
  obtain ⟨decoder, hfollow, -⟩ :=
    follow_endlessHeaders (by decide) hroom 2 sound_new view_new
  have hlength := hbounded _ [] decoder [] _ hfollow (List.nil_append _).symm rfl
  rw [skipSeparators_endlessHeaders, length_endlessHeaders] at hlength
  exact absurd hlength (by decide)

end Decoder

end EventSocket
