import EventSocket.Frame.Decoder
import EventSocket.Proofs.Frame.Buffer

/-!
What a decoder does, told without its buffer: where it stands inside a frame and the bytes ahead
decide every answer. Bytes that come later change no answer but the one that asks for more.
-/

namespace EventSocket

structure DecoderView where
  mode : DecoderMode
  ahead : List UInt8

namespace Decoder

section Line

variable {read : Array (String × String)} {length : Option Nat} {bytes : ByteArray} {text : String}

theorem readLine_of_notText (h : String.fromUTF8? bytes = none) :
    readLine read length bytes = (.fault (.stream .lineNotText), .headers read length) := by
  simp [readLine, h]

theorem readLine_of_separator (h : String.fromUTF8? bytes = some text)
    (hblank : Text.dropReturn text = "") :
    readLine #[] length bytes = (.advanced, .headers #[] length) := by
  simp [readLine, h, hblank]

theorem readLine_of_closing (h : String.fromUTF8? bytes = some text)
    (hblank : Text.dropReturn text = "") (hread : read ≠ #[]) :
    readLine read none bytes = (.frame (Frame.ofHeaders read.toList []), .fresh) := by
  simp [readLine, h, hblank, hread]

theorem readLine_of_closing_length {count : Nat} (h : String.fromUTF8? bytes = some text)
    (hblank : Text.dropReturn text = "") (hread : read ≠ #[]) :
    readLine read (some count) bytes = (.advanced, .body read count) := by
  simp [readLine, h, hblank, hread]

theorem readLine_of_header {mode : DecoderMode} (h : String.fromUTF8? bytes = some text)
    (hline : Text.dropReturn text ≠ "")
    (hheader : readHeaderLine read length (Text.dropReturn text) = .ok mode) :
    readLine read length bytes = (.advanced, mode) := by
  simp [readLine, h, hline, hheader]

theorem readLine_of_fault {fault : Fault} (h : String.fromUTF8? bytes = some text)
    (hline : Text.dropReturn text ≠ "")
    (hheader : readHeaderLine read length (Text.dropReturn text) = .error fault) :
    readLine read length bytes = (.fault fault, .headers read length) := by
  simp [readLine, h, hline, hheader]

/-- A line that is reported is passed over, and the headers before it are kept. -/
theorem readLine_fault {fault : Fault} {mode : DecoderMode}
    (h : readLine read length bytes = (.fault fault, mode)) : mode = .headers read length := by
  unfold readLine at h
  dsimp only at h
  split at h
  · cases h
    rfl
  · split at h
    · split at h
      · cases h
      · split at h <;> cases h
    · split at h
      · cases h
      · cases h
        rfl

theorem readLine_ne_waiting : (readLine read length bytes).1 ≠ .waiting := by
  cases h : String.fromUTF8? bytes with
  | none => simp [readLine_of_notText h]
  | some text =>
    by_cases hblank : Text.dropReturn text = ""
    · by_cases hread : read = #[]
      · subst hread
        simp [readLine_of_separator h hblank]
      · cases length with
        | none => simp [readLine_of_closing h hblank hread]
        | some count => simp [readLine_of_closing_length h hblank hread]
    · cases hheader : readHeaderLine read length (Text.dropReturn text) with
      | error fault => simp [readLine_of_fault h hblank hheader]
      | ok mode => simp [readLine_of_header h hblank hheader]

end Line

theorem readBody_ne_waiting {read : Array (String × String)} {bytes : ByteArray} :
    readBody read bytes ≠ .waiting := by
  unfold readBody
  split <;> simp

end Decoder

namespace DecoderView

def fresh (bytes : List UInt8) : DecoderView := ⟨.fresh, bytes⟩

def append (view : DecoderView) (more : List UInt8) : DecoderView :=
  { view with ahead := view.ahead ++ more }

@[simp]
theorem append_nil (view : DecoderView) : view.append [] = view := by
  simp [append]

@[simp]
theorem append_append (view : DecoderView) (some more : List UInt8) :
    (view.append some).append more = view.append (some ++ more) := by
  simp [append]

@[simp]
theorem append_fresh (bytes more : List UInt8) :
    (fresh bytes).append more = fresh (bytes ++ more) :=
  rfl

def turn (view : DecoderView) : DecoderTurn × DecoderView :=
  match view.mode with
  | .headers read length =>
    match splitLine view.ahead with
    | none => (.waiting, view)
    | some (line, rest) =>
      let (turn, mode) := Decoder.readLine read length line.toByteArray
      (turn, ⟨mode, rest⟩)
  | .body read length =>
    if view.ahead.length < length then (.waiting, view)
    else
      (Decoder.readBody read (view.ahead.take length).toByteArray,
        fresh (view.ahead.drop length))

theorem turn_headers_none {read : Array (String × String)} {length : Option Nat}
    {ahead : List UInt8} (h : splitLine ahead = none) :
    turn ⟨.headers read length, ahead⟩ = (.waiting, ⟨.headers read length, ahead⟩) := by
  simp [turn, h]

theorem turn_headers_some {read : Array (String × String)} {length : Option Nat}
    {ahead line rest : List UInt8} (h : splitLine ahead = some (line, rest)) :
    turn ⟨.headers read length, ahead⟩ =
      ((Decoder.readLine read length line.toByteArray).1,
        ⟨(Decoder.readLine read length line.toByteArray).2, rest⟩) := by
  simp [turn, h]

theorem turn_body_of_lt {read : Array (String × String)} {length : Nat} {ahead : List UInt8}
    (h : ahead.length < length) :
    turn ⟨.body read length, ahead⟩ = (.waiting, ⟨.body read length, ahead⟩) := by
  simp [turn, h]

theorem turn_body_of_le {read : Array (String × String)} {length : Nat} {ahead : List UInt8}
    (h : length ≤ ahead.length) :
    turn ⟨.body read length, ahead⟩ =
      (Decoder.readBody read (ahead.take length).toByteArray, fresh (ahead.drop length)) := by
  simp [turn, Nat.not_lt.mpr h]

/-- A body of no bytes takes none away, but the frame is done with. -/
def size (view : DecoderView) : Nat :=
  2 * view.ahead.length + match view.mode with
    | .headers .. => 0
    | .body .. => 1

theorem size_turn_lt {view next : DecoderView} {turn : DecoderTurn}
    (h : view.turn = (turn, next)) (hturn : turn ≠ .waiting) : next.size < view.size := by
  obtain ⟨mode, ahead⟩ := view
  cases mode with
  | headers read length =>
    cases hsplit : splitLine ahead with
    | none =>
      rw [turn_headers_none hsplit, Prod.mk.injEq] at h
      exact absurd h.1.symm hturn
    | some split =>
      rw [turn_headers_some hsplit, Prod.mk.injEq] at h
      obtain ⟨-, rfl⟩ := h
      have := length_lt_of_splitLine hsplit
      simp only [size]
      split <;> omega
  | body read length =>
    by_cases hlength : ahead.length < length
    · rw [turn_body_of_lt hlength, Prod.mk.injEq] at h
      exact absurd h.1.symm hturn
    · rw [turn_body_of_le (Nat.not_lt.mp hlength), Prod.mk.injEq] at h
      obtain ⟨-, rfl⟩ := h
      simp only [size, fresh, DecoderMode.fresh, List.length_drop]
      omega

theorem turn_waiting {view next : DecoderView} (h : view.turn = (.waiting, next)) :
    next = view := by
  obtain ⟨mode, ahead⟩ := view
  cases mode with
  | headers read length =>
    cases hsplit : splitLine ahead with
    | none =>
      rw [turn_headers_none hsplit, Prod.mk.injEq] at h
      exact h.2.symm
    | some split =>
      rw [turn_headers_some hsplit, Prod.mk.injEq] at h
      exact absurd h.1 Decoder.readLine_ne_waiting
  | body read length =>
    by_cases hlength : ahead.length < length
    · rw [turn_body_of_lt hlength, Prod.mk.injEq] at h
      exact h.2.symm
    · rw [turn_body_of_le (Nat.not_lt.mp hlength), Prod.mk.injEq] at h
      exact absurd h.1 Decoder.readBody_ne_waiting

theorem turn_append {view next : DecoderView} {turn : DecoderTurn}
    (h : view.turn = (turn, next)) (hturn : turn ≠ .waiting) (more : List UInt8) :
    (view.append more).turn = (turn, next.append more) := by
  obtain ⟨mode, ahead⟩ := view
  cases mode with
  | headers read length =>
    cases hsplit : splitLine ahead with
    | none =>
      rw [turn_headers_none hsplit, Prod.mk.injEq] at h
      exact absurd h.1.symm hturn
    | some split =>
      rw [turn_headers_some hsplit, Prod.mk.injEq] at h
      obtain ⟨rfl, rfl⟩ := h
      exact turn_headers_some (splitLine_append hsplit more)
  | body read length =>
    by_cases hlength : ahead.length < length
    · rw [turn_body_of_lt hlength, Prod.mk.injEq] at h
      exact absurd h.1.symm hturn
    · have hle := Nat.not_lt.mp hlength
      rw [turn_body_of_le hle, Prod.mk.injEq] at h
      obtain ⟨rfl, rfl⟩ := h
      have hmore : length ≤ (ahead ++ more).length := by
        rw [List.length_append]
        omega
      rw [append, turn_body_of_le hmore, List.take_append_of_le_length hle,
        List.drop_append_of_le_length hle]
      rfl

def next (view : DecoderView) : Except Fault (Option Frame) × DecoderView :=
  match _h : view.turn with
  | (.waiting, rest) => (.ok none, rest)
  | (.advanced, rest) => rest.next
  | (.frame frame, rest) => (.ok (some frame), rest)
  | (.fault fault, rest) => (.error fault, rest)
termination_by view.size
decreasing_by exact size_turn_lt (by assumption) (by simp)

theorem next_of_waiting {view rest : DecoderView} (h : view.turn = (.waiting, rest)) :
    view.next = (.ok none, rest) := by
  rw [next]
  split <;> simp_all

theorem next_of_advanced {view rest : DecoderView} (h : view.turn = (.advanced, rest)) :
    view.next = rest.next := by
  rw [next]
  split <;> simp_all

theorem next_of_frame {view rest : DecoderView} {frame : Frame}
    (h : view.turn = (.frame frame, rest)) : view.next = (.ok (some frame), rest) := by
  rw [next]
  split <;> simp_all

theorem next_of_fault {view rest : DecoderView} {fault : Fault}
    (h : view.turn = (.fault fault, rest)) : view.next = (.error fault, rest) := by
  rw [next]
  split <;> simp_all

theorem size_next_lt {view rest : DecoderView} {frame : Frame}
    (h : view.next = (.ok (some frame), rest)) : rest.size < view.size := by
  fun_induction next view with
  | case1 => cases h
  | case2 view after hturn ih => exact Nat.lt_trans (ih h) (size_turn_lt hturn (by simp))
  | case3 view found after hturn =>
    cases h
    exact size_turn_lt hturn (by simp)
  | case4 => cases h

theorem turn_suffix {view rest : DecoderView} {turn : DecoderTurn}
    (h : view.turn = (turn, rest)) : rest.ahead <:+ view.ahead := by
  obtain ⟨mode, ahead⟩ := view
  cases mode with
  | headers read length =>
    cases hsplit : splitLine ahead with
    | none =>
      rw [turn_headers_none hsplit, Prod.mk.injEq] at h
      obtain ⟨-, rfl⟩ := h
      exact List.suffix_rfl
    | some split =>
      rw [turn_headers_some hsplit, Prod.mk.injEq] at h
      obtain ⟨-, rfl⟩ := h
      obtain ⟨hahead, -⟩ := splitLine_eq_some_iff.mp hsplit
      rw [hahead, List.append_cons]
      exact List.suffix_append _ _
  | body read length =>
    by_cases hlength : ahead.length < length
    · rw [turn_body_of_lt hlength, Prod.mk.injEq] at h
      obtain ⟨-, rfl⟩ := h
      exact List.suffix_rfl
    · rw [turn_body_of_le (Nat.not_lt.mp hlength), Prod.mk.injEq] at h
      obtain ⟨-, rfl⟩ := h
      exact List.drop_suffix length ahead

theorem next_suffix {view rest : DecoderView} {answer : Except Fault (Option Frame)}
    (h : view.next = (answer, rest)) : rest.ahead <:+ view.ahead := by
  fun_induction next view with
  | case1 view after hturn =>
    cases h
    exact turn_suffix hturn
  | case2 view after hturn ih => exact (ih h).trans (turn_suffix hturn)
  | case3 view found after hturn =>
    cases h
    exact turn_suffix hturn
  | case4 view found after hturn =>
    cases h
    exact turn_suffix hturn

theorem length_next_le {view rest : DecoderView} {answer : Except Fault (Option Frame)}
    (h : view.next = (answer, rest)) : rest.ahead.length ≤ view.ahead.length :=
  (next_suffix h).length_le

/-- A view that asks for more bytes has taken up every line that is there. -/
theorem next_none {view rest : DecoderView} (h : view.next = (.ok none, rest)) :
    rest.next = (.ok none, rest) := by
  fun_induction next view with
  | case1 view after hturn =>
    cases h
    obtain rfl := turn_waiting hturn
    exact next_of_waiting hturn
  | case2 view after hturn ih => exact ih h
  | case3 => cases h
  | case4 => cases h

theorem next_append_frame {view rest : DecoderView} {frame : Frame}
    (h : view.next = (.ok (some frame), rest)) (more : List UInt8) :
    (view.append more).next = (.ok (some frame), rest.append more) := by
  fun_induction next view with
  | case1 => cases h
  | case2 view after hturn ih =>
    rw [next_of_advanced (turn_append hturn (by simp) more), ih h]
  | case3 view found after hturn =>
    cases h
    exact next_of_frame (turn_append hturn (by simp) more)
  | case4 => cases h

theorem next_append_fault {view rest : DecoderView} {fault : Fault}
    (h : view.next = (.error fault, rest)) (more : List UInt8) :
    (view.append more).next = (.error fault, rest.append more) := by
  fun_induction next view with
  | case1 => cases h
  | case2 view after hturn ih =>
    rw [next_of_advanced (turn_append hturn (by simp) more), ih h]
  | case3 => cases h
  | case4 view found after hturn =>
    cases h
    exact next_of_fault (turn_append hturn (by simp) more)

theorem next_append_none {view rest : DecoderView} (h : view.next = (.ok none, rest))
    (more : List UInt8) : (view.append more).next = (rest.append more).next := by
  fun_induction next view with
  | case1 view after hturn =>
    cases h
    rw [turn_waiting hturn]
  | case2 view after hturn ih =>
    rw [next_of_advanced (turn_append hturn (by simp) more), ih h]
  | case3 => cases h
  | case4 => cases h

end DecoderView

namespace Decoder

def view (decoder : Decoder) : DecoderView := ⟨decoder.mode, decoder.buffer.ahead⟩

def Sound (decoder : Decoder) : Prop := decoder.buffer.Sound

theorem sound_new : new.Sound := Buffer.sound_empty

@[simp]
theorem view_new : new.view = .fresh [] := rfl

theorem turn_view {decoder : Decoder} (sound : decoder.Sound) :
    (decoder.turn.1, decoder.turn.2.view) = decoder.view.turn ∧ decoder.turn.2.Sound := by
  obtain ⟨buffer, mode⟩ := decoder
  cases mode with
  | headers read length =>
    cases hsplit : splitLine buffer.ahead with
    | none =>
      obtain ⟨rest, htake, hahead, hsound⟩ := Buffer.takeLine_of_none sound hsplit
      simp only [turn, htake, view, hahead]
      exact ⟨(DecoderView.turn_headers_none hsplit).symm, hsound⟩
    | some split =>
      obtain ⟨rest, htake, hahead, hsound⟩ := Buffer.takeLine_of_some sound hsplit
      simp only [turn, htake, view, hahead]
      exact ⟨(DecoderView.turn_headers_some hsplit).symm, hsound⟩
  | body read length =>
    by_cases hlength : buffer.ahead.length < length
    · simp only [turn, Buffer.takeBytes_of_lt hlength, view]
      exact ⟨(DecoderView.turn_body_of_lt hlength).symm, sound⟩
    · have hle := Nat.not_lt.mp hlength
      obtain ⟨rest, htake, hahead, hsound⟩ := Buffer.takeBytes_of_le sound hle
      simp only [turn, htake, view, hahead]
      exact ⟨(DecoderView.turn_body_of_le hle).symm, hsound⟩

theorem next_view {decoder : Decoder} (sound : decoder.Sound) :
    (decoder.next.1, decoder.next.2.view) = decoder.view.next ∧ decoder.next.2.Sound := by
  fun_induction Decoder.next decoder with
  | case1 decoder rest hturn =>
    obtain ⟨hview, hsound⟩ := turn_view sound
    rw [hturn] at hview hsound
    exact ⟨(DecoderView.next_of_waiting hview.symm).symm, hsound⟩
  | case2 decoder rest hturn ih =>
    obtain ⟨hview, hsound⟩ := turn_view sound
    rw [hturn] at hview hsound
    rw [DecoderView.next_of_advanced hview.symm]
    exact ih hsound
  | case3 decoder frame rest hturn =>
    obtain ⟨hview, hsound⟩ := turn_view sound
    rw [hturn] at hview hsound
    exact ⟨(DecoderView.next_of_frame hview.symm).symm, hsound⟩
  | case4 decoder fault rest hturn =>
    obtain ⟨hview, hsound⟩ := turn_view sound
    rw [hturn] at hview hsound
    exact ⟨(DecoderView.next_of_fault hview.symm).symm, hsound⟩

theorem view_next {decoder rest : Decoder} {answer : Except Fault (Option Frame)}
    (sound : decoder.Sound) (h : decoder.next = (answer, rest)) :
    decoder.view.next = (answer, rest.view) ∧ rest.Sound := by
  obtain ⟨hview, hsound⟩ := next_view sound
  rw [h] at hview hsound
  exact ⟨hview.symm, hsound⟩

theorem view_feed {decoder next : Decoder} {bytes : ByteArray} (sound : decoder.Sound)
    (h : decoder.feed bytes = .ok next) :
    next.view = decoder.view.append (octets bytes) ∧ next.Sound := by
  unfold feed at h
  split at h
  · next buffer happend =>
    cases h
    refine ⟨?_, Buffer.Sound.append sound happend⟩
    simp [view, DecoderView.append, Buffer.ahead_append happend]
  · cases h

theorem feed_eq (decoder : Decoder) (bytes : ByteArray) :
    (∃ next, decoder.feed bytes = .ok next ∧
      decoder.view.ahead.length + bytes.size ≤ bufferLimit) ∨
    (decoder.feed bytes = .error (.stream (.bufferFull bufferLimit)) ∧
      bufferLimit < decoder.view.ahead.length + bytes.size) := by
  unfold feed
  rw [Buffer.append_eq]
  by_cases hfull : decoder.buffer.ahead.length + bytes.size > bufferLimit
  · exact .inr ⟨by simp [hfull], hfull⟩
  · exact .inl ⟨_, by rw [if_neg hfull], Nat.not_lt.mp hfull⟩

end Decoder

end EventSocket
