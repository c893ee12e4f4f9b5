import EventSocket.Proofs.Frame.Scanning

/-!
Schedules: a stream fed to a decoder piece by piece, with requests for frames in between and, in the
end, until there is none. Where the stream is cut makes no difference.
-/

namespace EventSocket

inductive DecoderCall where
  | feed (bytes : ByteArray)
  | next

/-- How a schedule comes to an end: with everything decoded that is there, with the first fault in
the stream, or with bytes that found no room. -/
inductive Ending (σ : Type) where
  | waiting (state : σ)
  | fault (fault : Fault)
  | refused (fault : Fault)

structure Decoding (σ : Type) where
  frames : List Frame
  ending : Ending σ

def fed : List DecoderCall → List UInt8
  | [] => []
  | .feed bytes :: calls => octets bytes ++ fed calls
  | .next :: calls => fed calls

theorem fed_append (calls later : List DecoderCall) :
    fed (calls ++ later) = fed calls ++ fed later := by
  induction calls with
  | nil => rfl
  | cons call calls ih => cases call <;> simp [fed, ih]

namespace Ending

variable {σ τ : Type}

def map (f : σ → τ) : Ending σ → Ending τ
  | waiting state => waiting (f state)
  | fault cause => fault cause
  | refused cause => refused cause

def fault? : Ending σ → Option Fault
  | fault cause => some cause
  | waiting _ | refused _ => none

theorem fault?_map (f : σ → τ) (ending : Ending σ) : (ending.map f).fault? = ending.fault? := by
  cases ending <;> rfl

end Ending

namespace Decoding

variable {σ τ : Type}

def map (f : σ → τ) (decoding : Decoding σ) : Decoding τ :=
  ⟨decoding.frames, decoding.ending.map f⟩

def cons (frame : Frame) (decoding : Decoding σ) : Decoding σ :=
  { decoding with frames := frame :: decoding.frames }

def fault? (decoding : Decoding σ) : Option Fault := decoding.ending.fault?

/-- All bytes found room. -/
def Accepted (decoding : Decoding σ) : Prop := ∀ cause, decoding.ending ≠ .refused cause

theorem map_cons (f : σ → τ) (frame : Frame) (decoding : Decoding σ) :
    (decoding.cons frame).map f = (decoding.map f).cons frame := rfl

theorem map_eq_waiting {f : σ → τ} {decoding : Decoding σ} {frames : List Frame} {state : τ}
    (h : decoding.map f = ⟨frames, .waiting state⟩) :
    ∃ found, decoding = ⟨frames, .waiting found⟩ ∧ f found = state := by
  obtain ⟨given, ending⟩ := decoding
  cases ending with
  | waiting found =>
    cases h
    exact ⟨found, rfl, rfl⟩
  | fault | refused => cases h

end Decoding

namespace DecoderView

/-- The frames that are there, up to the first fault. -/
def drain (view : DecoderView) : Decoding DecoderView :=
  match _h : view.next with
  | (.ok (some frame), rest) => rest.drain.cons frame
  | (.ok none, rest) => ⟨[], .waiting rest⟩
  | (.error fault, _) => ⟨[], .fault fault⟩
termination_by view.size
decreasing_by exact size_next_lt (by assumption)

theorem drain_of_frame {view rest : DecoderView} {frame : Frame}
    (h : view.next = (.ok (some frame), rest)) : view.drain = rest.drain.cons frame := by
  rw [drain]
  split <;> simp_all

theorem drain_of_none {view rest : DecoderView} (h : view.next = (.ok none, rest)) :
    view.drain = ⟨[], .waiting rest⟩ := by
  rw [drain]
  split <;> simp_all

theorem drain_of_fault {view rest : DecoderView} {fault : Fault}
    (h : view.next = (.error fault, rest)) : view.drain = ⟨[], .fault fault⟩ := by
  rw [drain]
  split <;> simp_all

theorem drain_congr {left right : DecoderView} (h : left.next = right.next) :
    left.drain = right.drain := by
  rw [drain, h, ← drain]

theorem drain_append_next {view rest : DecoderView} {answer : Except Fault (Option Frame)}
    (h : view.next = (answer, rest)) (more : List UInt8) :
    (view.append more).drain =
      match answer with
      | .ok (some frame) => (rest.append more).drain.cons frame
      | .ok none => (rest.append more).drain
      | .error fault => ⟨[], .fault fault⟩ := by
  match answer with
  | .ok (some frame) => exact drain_of_frame (next_append_frame h more)
  | .ok none => exact drain_congr (next_append_none h more)
  | .error fault => exact drain_of_fault (next_append_fault h more)

end DecoderView

namespace Decoder

def size (decoder : Decoder) : Nat :=
  2 * decoder.buffered + match decoder.mode with
    | .headers .. => 0
    | .body .. => 1

theorem size_turn_lt {decoder rest : Decoder} {turn : DecoderTurn}
    (h : decoder.turn = (turn, rest)) (hturn : turn ≠ .waiting) : rest.size < decoder.size := by
  obtain ⟨buffer, mode⟩ := decoder
  cases mode with
  | headers read length =>
    cases htake : buffer.takeLine with
    | mk line after =>
      cases line with
      | none =>
        simp only [Decoder.turn, htake, Prod.mk.injEq] at h
        exact absurd h.1.symm hturn
      | some bytes =>
        simp only [Decoder.turn, htake, Prod.mk.injEq] at h
        obtain ⟨-, rfl⟩ := h
        have := Buffer.size_takeLine_lt htake
        simp only [size, buffered]
        split <;> omega
  | body read length =>
    unfold Decoder.turn Buffer.takeBytes at h
    by_cases hshort : buffer.size < length
    · simp only [hshort, ↓reduceIte, Prod.mk.injEq] at h
      exact absurd h.1.symm hturn
    · simp only [hshort, ↓reduceIte, Prod.mk.injEq] at h
      obtain ⟨-, rfl⟩ := h
      simp only [size, buffered, Buffer.size, DecoderMode.fresh]
      omega

theorem size_next_lt {decoder rest : Decoder} {frame : Frame}
    (h : decoder.next = (.ok (some frame), rest)) : rest.size < decoder.size := by
  fun_induction Decoder.next decoder with
  | case1 => cases h
  | case2 decoder after hturn ih => exact Nat.lt_trans (ih h) (size_turn_lt hturn (by simp))
  | case3 decoder found after hturn =>
    cases h
    exact size_turn_lt hturn (by simp)
  | case4 => cases h

def drain (decoder : Decoder) : Decoding Decoder :=
  match _h : decoder.next with
  | (.ok (some frame), rest) => rest.drain.cons frame
  | (.ok none, rest) => ⟨[], .waiting rest⟩
  | (.error fault, _) => ⟨[], .fault fault⟩
termination_by decoder.size
decreasing_by exact size_next_lt (by assumption)

/-- Follows a schedule up to the first fault, and then asks for what is left. -/
def play (decoder : Decoder) : List DecoderCall → Decoding Decoder
  | [] => decoder.drain
  | .feed bytes :: calls =>
    match decoder.feed bytes with
    | .ok next => next.play calls
    | .error fault => ⟨[], .refused fault⟩
  | .next :: calls =>
    match decoder.next with
    | (.ok (some frame), rest) => (rest.play calls).cons frame
    | (.ok none, rest) => rest.play calls
    | (.error fault, _) => ⟨[], .fault fault⟩

def Leaves (decoding : Decoding Decoder) : Prop :=
  ∀ decoder, decoding.ending = .waiting decoder → decoder.Sound

theorem drain_view {decoder : Decoder} (sound : decoder.Sound) :
    decoder.drain.map view = decoder.view.drain ∧ Leaves decoder.drain := by
  fun_induction Decoder.drain decoder with
  | case1 decoder frame rest hnext ih =>
    obtain ⟨hview, hsound⟩ := view_next sound hnext
    rw [DecoderView.drain_of_frame hview, Decoding.map_cons, (ih hsound).1]
    exact ⟨rfl, (ih hsound).2⟩
  | case2 decoder rest hnext =>
    obtain ⟨hview, hsound⟩ := view_next sound hnext
    rw [DecoderView.drain_of_none hview]
    refine ⟨rfl, fun left hleft => ?_⟩
    cases hleft
    exact hsound
  | case3 decoder fault rest hnext =>
    obtain ⟨hview, -⟩ := view_next sound hnext
    rw [DecoderView.drain_of_fault hview]
    exact ⟨rfl, fun left hleft => by cases hleft⟩

/-- A schedule gives what decoding the whole stream at once gives. -/
theorem play_view {decoder : Decoder} (sound : decoder.Sound) (calls : List DecoderCall)
    (haccepted : (decoder.play calls).Accepted) :
    (decoder.play calls).map view = (decoder.view.append (fed calls)).drain ∧
      Leaves (decoder.play calls) := by
  -- A piece moves from what is to be fed to what lies ahead, and a request takes off what draining
  -- the whole would take off first; both leave the right-hand side as it is.
  induction calls generalizing decoder with
  | nil => simpa [play, fed] using drain_view sound
  | cons call calls ih =>
    cases call with
    | feed bytes =>
      cases hfeed : decoder.feed bytes with
      | error fault =>
        simp only [play, hfeed] at haccepted
        exact absurd rfl (haccepted fault)
      | ok next =>
        obtain ⟨hview, hsound⟩ := view_feed sound hfeed
        simp only [play, hfeed] at haccepted ⊢
        have := ih hsound haccepted
        rwa [hview, DecoderView.append_append] at this
    | next =>
      cases hnext : decoder.next with
      | mk answer rest =>
        obtain ⟨hview, hsound⟩ := view_next sound hnext
        have hdrain := DecoderView.drain_append_next hview (fed calls)
        simp only [play, hnext, fed] at haccepted hdrain ⊢
        match answer with
        | .ok (some frame) =>
          obtain ⟨hplay, hleaves⟩ := ih hsound haccepted
          rw [hdrain, Decoding.map_cons, hplay]
          exact ⟨rfl, hleaves⟩
        | .ok none =>
          rw [hdrain]
          exact ih hsound haccepted
        | .error fault =>
          rw [hdrain]
          exact ⟨rfl, fun left hleft => by cases hleft⟩

theorem accepted_drain (decoder : Decoder) : decoder.drain.Accepted := by
  fun_induction Decoder.drain decoder with
  | case1 decoder frame rest hnext ih => exact ih
  | case2 => exact fun _ h => by cases h
  | case3 => exact fun _ h => by cases h

theorem accepted_play {decoder : Decoder} (sound : decoder.Sound) (calls : List DecoderCall)
    (hlength : decoder.view.ahead.length + (fed calls).length ≤ bufferLimit) :
    (decoder.play calls).Accepted := by
  induction calls generalizing decoder with
  | nil => exact accepted_drain decoder
  | cons call calls ih =>
    cases call with
    | feed bytes =>
      simp only [fed, List.length_append, length_octets] at hlength
      obtain ⟨next, hfeed, -⟩ | ⟨-, hfull⟩ := feed_eq decoder bytes
      · obtain ⟨hview, hsound⟩ := view_feed sound hfeed
        simp only [play, hfeed]
        apply ih hsound
        simp only [hview, DecoderView.append, List.length_append, length_octets]
        omega
      · omega
    | next =>
      simp only [fed] at hlength
      cases hnext : decoder.next with
      | mk answer rest =>
        obtain ⟨hview, hsound⟩ := view_next sound hnext
        have hshorter := DecoderView.length_next_le hview
        have hrest := ih hsound (by omega)
        cases answer with
        | error fault =>
          simp only [play, hnext]
          intro cause hrefused
          cases hrefused
        | ok found =>
          cases found with
          | none =>
            simp only [play, hnext]
            exact hrest
          | some frame =>
            simp only [play, hnext]
            exact hrest

/-! Two decoders that have the same view cannot be told apart, not even by bytes they refuse. -/

def respond (decoder : Decoder) : DecoderCall → Except Fault (Option Frame) × Decoder
  | .feed bytes =>
    match decoder.feed bytes with
    | .ok next => (.ok none, next)
    | .error fault => (.error fault, decoder)
  | .next => decoder.next

/-- The answers to calls one after another, each with the number of bytes held back behind it. -/
def answers (decoder : Decoder) : List DecoderCall → List (Except Fault (Option Frame) × Nat)
  | [] => []
  | call :: calls =>
    let (answer, next) := decoder.respond call
    (answer, next.buffered) :: next.answers calls

theorem buffered_eq (decoder : Decoder) : decoder.buffered = decoder.view.ahead.length :=
  (Buffer.length_ahead decoder.buffer).symm

theorem respond_congr {left right : Decoder} (hleft : left.Sound) (hright : right.Sound)
    (hview : left.view = right.view) (call : DecoderCall) :
    (left.respond call).1 = (right.respond call).1 ∧
      (left.respond call).2.view = (right.respond call).2.view ∧
      (left.respond call).2.Sound ∧ (right.respond call).2.Sound := by
  cases call with
  | feed bytes =>
    obtain ⟨leftNext, hfeedLeft, hroom⟩ | ⟨hfeedLeft, hfull⟩ := feed_eq left bytes <;>
      obtain ⟨rightNext, hfeedRight, hroom'⟩ | ⟨hfeedRight, hfull'⟩ := feed_eq right bytes
    · obtain ⟨hviewLeft, hsoundLeft⟩ := view_feed hleft hfeedLeft
      obtain ⟨hviewRight, hsoundRight⟩ := view_feed hright hfeedRight
      simp only [respond, hfeedLeft, hfeedRight, hviewLeft, hviewRight, hview, true_and]
      exact ⟨hsoundLeft, hsoundRight⟩
    · rw [hview] at hroom
      omega
    · rw [hview] at hfull
      omega
    · simp only [respond, hfeedLeft, hfeedRight, true_and]
      exact ⟨hview, hleft, hright⟩
  | next =>
    obtain ⟨hviewLeft, hsoundLeft⟩ := next_view hleft
    obtain ⟨hviewRight, hsoundRight⟩ := next_view hright
    rw [hview, ← hviewRight, Prod.mk.injEq] at hviewLeft
    exact ⟨hviewLeft.1, hviewLeft.2, hsoundLeft, hsoundRight⟩

theorem answers_congr {left right : Decoder} (hleft : left.Sound) (hright : right.Sound)
    (hview : left.view = right.view) (calls : List DecoderCall) :
    left.answers calls = right.answers calls := by
  induction calls generalizing left right with
  | nil => rfl
  | cons call calls ih =>
    obtain ⟨hanswer, hnext, hsoundLeft, hsoundRight⟩ := respond_congr hleft hright hview call
    simp only [answers]
    rw [hanswer, buffered_eq, buffered_eq, hnext, ih hsoundLeft hsoundRight hnext]

/-- The decodings cannot be told apart: the same frames, the same fault or none, and decoders that
answer alike from then on. -/
structure Alike (left right : Decoding Decoder) : Prop where
  frames : left.frames = right.frames
  fault : left.fault? = right.fault?
  answers : ∀ leftEnd rightEnd, left.ending = .waiting leftEnd → right.ending = .waiting rightEnd →
    ∀ calls, leftEnd.answers calls = rightEnd.answers calls

theorem alike_of_view {left right : Decoding Decoder} (hleft : Leaves left) (hright : Leaves right)
    (hview : left.map view = right.map view) : Alike left right := by
  obtain ⟨frames, ending⟩ := left
  obtain ⟨frames', ending'⟩ := right
  simp only [Decoding.map, Decoding.mk.injEq] at hview
  obtain ⟨hframes, hending⟩ := hview
  refine ⟨hframes, ?_, ?_⟩
  · have := congrArg Ending.fault? hending
    rwa [Ending.fault?_map, Ending.fault?_map] at this
  · rintro leftEnd rightEnd hleftEnd hrightEnd calls
    simp only at hleftEnd hrightEnd
    rw [hleftEnd, hrightEnd] at hending
    simp only [Ending.map, Ending.waiting.injEq] at hending
    exact answers_congr (hleft _ hleftEnd) (hright _ hrightEnd) hending calls

/-- However a stream is cut into pieces, and whenever frames are asked for, it gives the same. -/
theorem play_independent_of_cuts (left right : List DecoderCall) (hfed : fed left = fed right)
    (hleft : (new.play left).Accepted) (hright : (new.play right).Accepted) :
    Alike (new.play left) (new.play right) := by
  obtain ⟨hviewLeft, hleavesLeft⟩ := play_view sound_new left hleft
  obtain ⟨hviewRight, hleavesRight⟩ := play_view sound_new right hright
  refine alike_of_view hleavesLeft hleavesRight ?_
  rw [hviewLeft, hviewRight, hfed]

theorem play_independent_of_cuts_inside_letter :
    fed [.feed "Content-Length: 3\r\n\r\né\n".toUTF8] =
        fed [.feed "Content-Length: 3\r".toUTF8, .next, .feed ⟨#[10, 13, 10, 195]⟩, .next,
          .feed ByteArray.empty, .next, .feed ⟨#[169, 10]⟩] ∧
      (new.play [.feed "Content-Length: 3\r\n\r\né\n".toUTF8]).Accepted ∧
      (new.play [.feed "Content-Length: 3\r".toUTF8, .next, .feed ⟨#[10, 13, 10, 195]⟩, .next,
        .feed ByteArray.empty, .next, .feed ⟨#[169, 10]⟩]).Accepted ∧
      Alike (new.play [.feed "Content-Length: 3\r\n\r\né\n".toUTF8])
        (new.play [.feed "Content-Length: 3\r".toUTF8, .next, .feed ⟨#[10, 13, 10, 195]⟩, .next,
          .feed ByteArray.empty, .next, .feed ⟨#[169, 10]⟩]) := by
  have hfed : fed [.feed "Content-Length: 3\r\n\r\né\n".toUTF8] =
      fed [.feed "Content-Length: 3\r".toUTF8, .next, .feed ⟨#[10, 13, 10, 195]⟩, .next,
        .feed ByteArray.empty, .next, .feed ⟨#[169, 10]⟩] := by
    decide +kernel
  have hwhole : (new.play [.feed "Content-Length: 3\r\n\r\né\n".toUTF8]).Accepted :=
    accepted_play sound_new _ (by decide +kernel)
  have hpieces : (new.play [.feed "Content-Length: 3\r".toUTF8, .next,
      .feed ⟨#[10, 13, 10, 195]⟩, .next, .feed ByteArray.empty, .next,
      .feed ⟨#[169, 10]⟩]).Accepted :=
    accepted_play sound_new _ (by decide +kernel)
  exact ⟨hfed, hwhole, hpieces, play_independent_of_cuts _ _ hfed hwhole hpieces⟩

end Decoder

end EventSocket
