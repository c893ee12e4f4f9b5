import EventSocket.Bytes
import EventSocket.Fault

/-!
The receive buffer: bytes wait here until a whole line or a whole body can be taken off the front.
What has been searched for the end of a line is not searched again.
-/

namespace EventSocket

def bufferLimit : Nat := 16 * 1024 * 1024

def lineFeed : UInt8 := 10

def lineFeedFrom (bytes : ByteArray) (position : Nat) : Option Nat :=
  if h : position < bytes.size then
    if bytes[position] = lineFeed then some position else lineFeedFrom bytes (position + 1)
  else none
termination_by bytes.size - position

theorem le_of_lineFeedFrom {bytes : ByteArray} {position found : Nat}
    (h : lineFeedFrom bytes position = some found) : position ≤ found ∧ found < bytes.size := by
  fun_induction lineFeedFrom bytes position with
  | case1 position inside _ =>
    obtain rfl : position = found := by simpa using h
    exact ⟨Nat.le_refl _, inside⟩
  | case2 position _ _ ih =>
    have := ih h
    omega
  | case3 => simp at h

/-- The bytes from `start` on are waiting; the first `scanned` of them hold no line feed. -/
structure Buffer where
  bytes : ByteArray
  start : Nat
  scanned : Nat
  deriving DecidableEq

namespace Buffer

def empty : Buffer := ⟨ByteArray.empty, 0, 0⟩

def size (buffer : Buffer) : Nat := buffer.bytes.size - buffer.start

def waiting (buffer : Buffer) : ByteArray :=
  if buffer.start = 0 then buffer.bytes else buffer.bytes.extract buffer.start buffer.bytes.size

/-- Adds bytes at the end, unless more than the limit would wait. -/
def append (buffer : Buffer) (bytes : ByteArray) : Except StreamFault Buffer :=
  if buffer.size + bytes.size > bufferLimit then .error (.bufferFull bufferLimit)
  else .ok { buffer with bytes := buffer.waiting ++ bytes, start := 0 }

/-- Takes the first line off, without its line feed. Without a whole line the buffer only notes how
far it has looked. -/
def takeLine (buffer : Buffer) : Option ByteArray × Buffer :=
  match lineFeedFrom buffer.bytes (buffer.start + buffer.scanned) with
  | some found =>
    (some (buffer.bytes.extract buffer.start found),
      { buffer with start := found + 1, scanned := 0 })
  | none => (none, { buffer with scanned := buffer.size })

/-- Takes exactly `count` bytes off, if so many are waiting. -/
def takeBytes (buffer : Buffer) (count : Nat) : Option (ByteArray × Buffer) :=
  if buffer.size < count then none
  else
    some (buffer.bytes.extract buffer.start (buffer.start + count),
      { buffer with start := buffer.start + count, scanned := buffer.scanned - count })

theorem size_takeLine_lt {buffer rest : Buffer} {line : ByteArray}
    (h : buffer.takeLine = (some line, rest)) : rest.size < buffer.size := by
  unfold takeLine at h
  split at h
  · next found hfound =>
    obtain ⟨_, rfl⟩ := Prod.mk.inj h
    have := le_of_lineFeedFrom hfound
    simp only [size]
    omega
  · simp at h

end Buffer

end EventSocket
