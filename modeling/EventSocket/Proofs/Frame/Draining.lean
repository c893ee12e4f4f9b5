import EventSocket.Proofs.Frame.Schedule

/-!
A decoder that is asked for frames until it has none gets there. Every turn of its loop but the last
takes a line off the buffer, and a frame takes its bytes along; the one frame that takes none, that
of an empty body, follows within the same call on the line that announced it.
-/

namespace EventSocket

namespace Buffer

theorem size_takeLine_of_none {buffer rest : Buffer} (h : buffer.takeLine = (none, rest)) :
    rest.size = buffer.size := by
  unfold takeLine at h
  split at h <;> cases h
  rfl

/-- Where no line has been found there is none to be found again. -/
theorem takeLine_again {buffer rest : Buffer} (h : buffer.takeLine = (none, rest)) :
    rest.takeLine = (none, rest) := by
  unfold takeLine at h
  split at h
  · cases h
  · cases h
    have hbehind : lineFeedFrom buffer.bytes (buffer.start + buffer.size) = none := by
      rw [lineFeedFrom, dif_neg]
      simp only [size]
      omega
    simp only [takeLine, hbehind]
    rfl

theorem size_takeBytes {buffer rest : Buffer} {count : Nat} {bytes : ByteArray}
    (h : buffer.takeBytes count = some (bytes, rest)) : rest.size + count = buffer.size := by
  unfold takeBytes at h
  split at h
  · cases h
  · next hroom =>
    cases h
    simp only [size] at hroom ⊢
    omega

theorem lt_of_takeBytes {buffer : Buffer} {count : Nat} (h : buffer.takeBytes count = none) :
    buffer.size < count := by
  unfold takeBytes at h
  split at h
  · next hshort => exact hshort
  · cases h

end Buffer

/-- A body that is waited for has a byte to wait for. -/
def DecoderMode.Wanting : DecoderMode → Prop
  | .headers .. => True
  | .body _ length => 0 < length

namespace Decoder

variable {decoder rest : Decoder} {turn : DecoderTurn} {frame : Frame}
  {answer : Except Fault (Option Frame)}

/-- Only a line that lets the loop go on can ask for a body. -/
theorem wanting_readLine {read : Array (String × String)} {length : Option Nat}
    {bytes : ByteArray} {mode : DecoderMode} (h : readLine read length bytes = (turn, mode))
    (hturn : turn ≠ .advanced) : mode.Wanting := by
  unfold readLine at h
  dsimp only at h
  repeat' split at h
  all_goals cases h
  all_goals first
    | exact trivial
    | exact absurd rfl hturn

/-- What a turn takes off the buffer, and in which mode it leaves the loop. -/
inductive Turns (decoder : Decoder) : DecoderTurn → Decoder → Prop
  | waiting {rest : Decoder} (hagain : rest.turn = (.waiting, rest))
      (hsize : rest.buffered = decoder.buffered) (hmode : rest.mode.Wanting) :
      Turns decoder .waiting rest
  | line {turn : DecoderTurn} {rest : Decoder} (hturn : turn ≠ .waiting)
      (hless : rest.buffered < decoder.buffered)
      (hmode : turn ≠ .advanced → rest.mode.Wanting) : Turns decoder turn rest
  | body {turn : DecoderTurn} {rest : Decoder} {read : Array (String × String)} {length : Nat}
      (hturn : turn ≠ .waiting) (hbody : decoder.mode = .body read length)
      (hsize : rest.buffered + length = decoder.buffered) (hmode : rest.mode.Wanting) :
      Turns decoder turn rest

theorem turn_turns (decoder : Decoder) : decoder.Turns decoder.turn.1 decoder.turn.2 := by
  obtain ⟨buffer, mode⟩ := decoder
  cases mode with
  | headers read length =>
    cases hline : buffer.takeLine with
    | mk line after =>
      cases line with
      | none =>
        have hagain : (⟨after, .headers read length⟩ : Decoder).turn =
            (.waiting, ⟨after, .headers read length⟩) := by
          simp only [Decoder.turn, Buffer.takeLine_again hline]
        simp only [Decoder.turn, hline]
        exact .waiting hagain (Buffer.size_takeLine_of_none hline) trivial
      | some bytes =>
        simp only [Decoder.turn, hline]
        exact .line readLine_ne_waiting (Buffer.size_takeLine_lt hline) (wanting_readLine rfl)
  | body read length =>
    cases hbytes : buffer.takeBytes length with
    | none =>
      have hshort := Buffer.lt_of_takeBytes hbytes
      have hagain : (⟨buffer, .body read length⟩ : Decoder).turn =
          (.waiting, ⟨buffer, .body read length⟩) := by
        simp only [Decoder.turn, hbytes]
      rw [hagain]
      exact .waiting hagain rfl (Nat.zero_lt_of_lt hshort)
    | some taken =>
      simp only [Decoder.turn, hbytes]
      exact .body readBody_ne_waiting rfl (Buffer.size_takeBytes hbytes) trivial

theorem turns_of_turn (h : decoder.turn = (turn, rest)) : decoder.Turns turn rest := by
  have hturns := decoder.turn_turns
  rwa [h] at hturns

theorem buffered_turn_le (h : decoder.turn = (turn, rest)) :
    rest.buffered ≤ decoder.buffered := by
  cases turns_of_turn h with
  | waiting _ hsize => exact Nat.le_of_eq hsize
  | line _ hless => exact Nat.le_of_lt hless
  | body _ _ hsize => exact Nat.le.intro hsize

theorem wanting_turn (h : decoder.turn = (turn, rest)) (hturn : turn ≠ .advanced) :
    rest.mode.Wanting := by
  cases turns_of_turn h with
  | waiting _ _ hmode => exact hmode
  | line _ _ hmode => exact hmode hturn
  | body _ _ _ hmode => exact hmode

theorem buffered_next_le (h : decoder.next = (answer, rest)) :
    rest.buffered ≤ decoder.buffered := by
  fun_induction Decoder.next decoder with
  | case1 decoder after hturn | case3 decoder found after hturn | case4 decoder fault after hturn =>
    cases h
    exact buffered_turn_le hturn
  | case2 decoder after hturn ih => exact Nat.le_trans (ih h) (buffered_turn_le hturn)

/-- However a call ends, it leaves no empty body behind. -/
theorem wanting_next (h : decoder.next = (answer, rest)) : rest.mode.Wanting := by
  fun_induction Decoder.next decoder with
  | case1 decoder after hturn | case3 decoder found after hturn | case4 decoder fault after hturn =>
    cases h
    exact wanting_turn hturn (by simp)
  | case2 decoder after hturn ih => exact ih h

theorem buffered_next_lt (wanting : decoder.mode.Wanting)
    (h : decoder.next = (.ok (some frame), rest)) : rest.buffered < decoder.buffered := by
  fun_induction Decoder.next decoder with
  | case1 => cases h
  | case2 decoder after hturn _ =>
    exact Nat.lt_of_le_of_lt (buffered_next_le h) (buffered_turn_lt hturn)
  | case3 decoder found after hturn =>
    cases h
    cases turns_of_turn hturn with
    | line _ hless => exact hless
    | body _ hbody hsize =>
      rw [hbody] at wanting
      exact hsize ▸ Nat.lt_add_of_pos_right wanting
  | case4 => cases h

theorem turn_again (h : decoder.turn = (.waiting, rest)) : rest.turn = (.waiting, rest) := by
  cases turns_of_turn h with
  | waiting hagain => exact hagain
  | line hturn => exact absurd rfl hturn
  | body hturn => exact absurd rfl hturn

/-- Who has got nothing gets nothing until more is fed. -/
theorem next_again (h : decoder.next = (.ok none, rest)) : rest.next = (.ok none, rest) := by
  fun_induction Decoder.next decoder with
  | case1 decoder after hturn =>
    cases h
    rw [Decoder.next]
    split <;> simp_all [turn_again hturn]
  | case2 decoder after hturn ih => exact ih h
  | case3 | case4 => cases h

/-! The loops with a count of their turns. -/

/-- The loop of `next`, which is given up when it has taken so many turns. -/
def nextWithin : Nat → Decoder → Option (Except Fault (Option Frame) × Decoder)
  | 0, _ => none
  | turns + 1, decoder =>
    match decoder.turn with
    | (.waiting, rest) => some (.ok none, rest)
    | (.advanced, rest) => nextWithin turns rest
    | (.frame frame, rest) => some (.ok (some frame), rest)
    | (.fault fault, rest) => some (.error fault, rest)

theorem nextWithin_eq {turns : Nat} (h : decoder.buffered < turns) :
    nextWithin turns decoder = some decoder.next := by
  induction turns generalizing decoder with
  | zero => omega
  | succ turns ih =>
    rw [Decoder.next]
    cases hturn : decoder.turn with
    | mk turn rest =>
      cases turn with
      | advanced =>
        have hless := buffered_turn_lt hturn
        simp only [nextWithin, hturn]
        exact ih (by omega)
      | waiting | frame | fault => simp only [nextWithin, hturn]

/-- The loop of `drain`, which is given up when it has made so many calls. -/
def drainWithin : Nat → Decoder → Option (Decoding Decoder)
  | 0, _ => none
  | calls + 1, decoder =>
    match decoder.next with
    | (.ok (some frame), rest) => (drainWithin calls rest).map (Decoding.cons frame)
    | (.ok none, rest) => some ⟨[], .waiting rest⟩
    | (.error fault, _) => some ⟨[], .fault fault⟩

theorem drainWithin_eq {calls : Nat} (wanting : decoder.mode.Wanting)
    (h : decoder.buffered < calls) : drainWithin calls decoder = some decoder.drain := by
  induction calls generalizing decoder with
  | zero => omega
  | succ calls ih =>
    rw [Decoder.drain]
    cases hnext : decoder.next with
    | mk answer rest =>
      match answer with
      | .ok (some frame) =>
        have hless := buffered_next_lt wanting hnext
        have hrest := ih (wanting_next hnext) (by omega)
        simp only [drainWithin, hnext, hrest, Option.map_some]
      | .ok none => simp only [drainWithin, hnext]
      | .error fault => simp only [drainWithin, hnext]

theorem length_drain (wanting : decoder.mode.Wanting) :
    decoder.drain.frames.length ≤ decoder.buffered := by
  fun_induction Decoder.drain decoder with
  | case1 decoder frame rest hnext ih =>
    have hless := buffered_next_lt wanting hnext
    have hframes := ih (wanting_next hnext)
    simp only [Decoding.cons, List.length_cons]
    omega
  | case2 | case3 => exact Nat.zero_le _

/-! Decoders that calls lead to. -/

def after (decoder : Decoder) : List DecoderCall → Decoder
  | [] => decoder
  | call :: calls => (decoder.respond call).2.after calls

theorem mode_feed {next : Decoder} {bytes : ByteArray} (h : decoder.feed bytes = .ok next) :
    next.mode = decoder.mode := by
  unfold feed at h
  split at h <;> cases h
  rfl

theorem wanting_respond (wanting : decoder.mode.Wanting) (call : DecoderCall) :
    (decoder.respond call).2.mode.Wanting := by
  cases call with
  | feed bytes =>
    cases hfeed : decoder.feed bytes with
    | ok next =>
      simp only [respond, hfeed, mode_feed hfeed]
      exact wanting
    | error fault =>
      simp only [respond, hfeed]
      exact wanting
  | next => exact wanting_next rfl

theorem wanting_after (wanting : decoder.mode.Wanting) (calls : List DecoderCall) :
    (decoder.after calls).mode.Wanting := by
  induction calls generalizing decoder with
  | nil => exact wanting
  | cons call calls ih => exact ih (wanting_respond wanting call)

theorem wanting_new (calls : List DecoderCall) : (new.after calls).mode.Wanting :=
  wanting_after (show new.mode.Wanting from trivial) calls

/-- Asking for frames gets on: a call comes back, a frame costs bytes, and nothing stays nothing. -/
structure Progresses (decoder : Decoder) : Prop where
  comesBack : decoder.nextWithin (decoder.buffered + 1) = some decoder.next
  frame : ∀ frame rest, decoder.next = (.ok (some frame), rest) →
    rest.buffered < decoder.buffered
  nothing : ∀ rest, decoder.next = (.ok none, rest) → rest.next = (.ok none, rest)
  ends : decoder.drainWithin (decoder.buffered + 1) = some decoder.drain
  frames : decoder.drain.frames.length ≤ decoder.buffered

theorem progresses_of_wanting (wanting : decoder.mode.Wanting) : decoder.Progresses where
  comesBack := nextWithin_eq (Nat.lt_succ_self _)
  frame := fun _ _ => buffered_next_lt wanting
  nothing := fun _ => next_again
  ends := drainWithin_eq wanting (Nat.lt_succ_self _)
  frames := length_drain wanting

/-- An empty body and a run of blank lines. -/
example :
    (new.after [.feed "A: 1\nContent-Length: 0\n\n\n\nB: 2\n\n".toUTF8]).drain.frames.length =
      2 := by
  decide +kernel

end Decoder

end EventSocket
