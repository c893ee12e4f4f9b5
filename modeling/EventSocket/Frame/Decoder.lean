import EventSocket.Frame.Basic
import EventSocket.Frame.Buffer
import EventSocket.Text.Blank

/-!
The decoder of frames. Header lines are read up to a blank line; if one of them gave the length of a
body, that many bytes follow. The frames do not depend on how the bytes were cut into pieces.
-/

namespace EventSocket

def bodyLimit : Nat := 8 * 1024 * 1024

def splitColon : List Char → Option (List Char × List Char)
  | chars =>
    match chars.dropWhile (· != ':') with
    | [] => none
    | _ :: value => some (chars.takeWhile (· != ':'), value)

/-- Name and value of a header line, without the blanks around either. -/
def headerOfLine (line : String) : Except Fault (String × String) :=
  match splitColon line.toList with
  | none => .error (.invalidHeader line)
  | some (name, value) =>
    let name := Text.trimChars name
    if name.isEmpty then .error (.invalidHeader line)
    else .ok (String.ofList name, String.ofList (Text.trimChars value))

def announcedLength (value : String) : Except Fault Nat :=
  match Text.natural? lengthLimit value with
  | none => .error (.invalidHeaderValue contentLengthName value)
  | some length =>
    if length > bodyLimit then .error (.stream (.bodyTooLong length bodyLimit)) else .ok length

inductive DecoderMode where
  | headers (read : Array (String × String)) (length : Option Nat)
  | body (read : Array (String × String)) (length : Nat)

def DecoderMode.fresh : DecoderMode := .headers #[] none

structure Decoder where
  buffer : Buffer
  mode : DecoderMode

inductive DecoderTurn where
  | waiting
  | advanced
  | frame (frame : Frame)
  | fault (fault : Fault)

namespace Decoder

def new : Decoder := ⟨Buffer.empty, .fresh⟩

/-- Adds received bytes; refused bytes leave the decoder as it was. -/
def feed (decoder : Decoder) (bytes : ByteArray) : Except Fault Decoder :=
  match decoder.buffer.append bytes with
  | .ok buffer => .ok { decoder with buffer }
  | .error cause => .error (.stream cause)

/-- Bytes received and not taken up by a header line or a frame. -/
def buffered (decoder : Decoder) : Nat := decoder.buffer.size

/-- The headers collected so far, after one more line. -/
def readHeaderLine (read : Array (String × String)) (length : Option Nat) (line : String) :
    Except Fault DecoderMode := do
  let (name, value) ← headerOfLine line
  if name = contentLengthName then
    let announced ← announcedLength value
    return .headers (read.push (name, value)) (some announced)
  else
    return .headers (read.push (name, value)) length

/-- One line in header mode. A blank line ends the headers if there are any, and is skipped if
there are none. -/
def readLine (read : Array (String × String)) (length : Option Nat) (bytes : ByteArray) :
    DecoderTurn × DecoderMode :=
  match String.fromUTF8? bytes with
  | none => (.fault (.stream .lineNotText), .headers read length)
  | some text =>
    let line := Text.dropReturn text
    if line.isEmpty then
      if read.isEmpty then (.advanced, .headers read length)
      else
        match length with
        | some length => (.advanced, .body read length)
        | none => (.frame (Frame.ofHeaders read.toList []), .fresh)
    else
      match readHeaderLine read length line with
      | .ok mode => (.advanced, mode)
      | .error fault => (.fault fault, .headers read length)

/-- A whole body. The frame is done with even if its body is not text. -/
def readBody (read : Array (String × String)) (bytes : ByteArray) : DecoderTurn :=
  match String.fromUTF8? bytes with
  | none => .fault (.stream .bodyNotText)
  | some text => .frame (Frame.ofHeaders read.toList (Text.lines text))

def turn (decoder : Decoder) : DecoderTurn × Decoder :=
  match decoder.mode with
  | .headers read length =>
    match decoder.buffer.takeLine with
    | (none, buffer) => (.waiting, { decoder with buffer })
    | (some bytes, buffer) =>
      let (turn, mode) := readLine read length bytes
      (turn, { buffer, mode })
  | .body read length =>
    match decoder.buffer.takeBytes length with
    | none => (.waiting, decoder)
    | some (bytes, buffer) => (readBody read bytes, { buffer, mode := .fresh })

theorem buffered_turn_lt {decoder rest : Decoder} (h : decoder.turn = (.advanced, rest)) :
    rest.buffered < decoder.buffered := by
  unfold turn at h
  split at h
  · split at h
    · simp at h
    · next hline =>
      obtain ⟨_, rfl⟩ := Prod.mk.inj h
      exact Buffer.size_takeLine_lt hline
  · split at h
    · simp at h
    · obtain ⟨hturn, _⟩ := Prod.mk.inj h
      unfold readBody at hturn
      split at hturn <;> simp at hturn

/-- The next whole frame, or nothing while bytes are missing. -/
def next (decoder : Decoder) : Except Fault (Option Frame) × Decoder :=
  match _h : decoder.turn with
  | (.waiting, rest) => (.ok none, rest)
  | (.advanced, rest) => rest.next
  | (.frame frame, rest) => (.ok (some frame), rest)
  | (.fault fault, rest) => (.error fault, rest)
termination_by decoder.buffered
decreasing_by exact buffered_turn_lt (by assumption)

end Decoder

end EventSocket
