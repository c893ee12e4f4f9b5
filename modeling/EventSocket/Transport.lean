import EventSocket.Bytes
import EventSocket.Settings

/-!
Transports: two streams of bytes between this side and the switch. Either side ends its own. The
other direction does not notice.
-/

namespace EventSocket

/-- Of `received` the first `taken` bytes have been read. The texts are those of failures that
reads, writes and the ending of the own stream meet from now on. While a transport is `stalled`
nothing can be written; while it is `shutdownStalled` the own stream cannot be ended. -/
structure Transport where
  received : ByteArray
  taken : Nat
  ended : Bool
  readFailure : Option String
  writeFailure : Option String
  shutdownFailure : Option String
  stalled : Bool
  shutdownStalled : Bool
  sent : ByteArray
  shut : Bool
  dropped : Bool
  deriving DecidableEq

inductive ReadOutcome where
  | waiting
  | read (bytes : ByteArray)
  | failed (text : String)
  | ended
  deriving DecidableEq

inductive WriteOutcome where
  | waiting
  | written
  | failed (text : String)
  deriving DecidableEq

inductive ShutdownOutcome where
  | waiting
  | done
  | failed (text : String)
  deriving DecidableEq

namespace Transport

def new : Transport where
  received := ByteArray.empty
  taken := 0
  ended := false
  readFailure := none
  writeFailure := none
  shutdownFailure := none
  stalled := false
  shutdownStalled := false
  sent := ByteArray.empty
  shut := false
  dropped := false

def available (transport : Transport) : Nat := transport.received.size - transport.taken

def receive (transport : Transport) (bytes : ByteArray) : Transport :=
  if transport.available = 0 then { transport with received := bytes, taken := 0 }
  else { transport with received := transport.received ++ bytes }

def hangUp (transport : Transport) : Transport := { transport with ended := true }

/-- Takes at most `most` bytes. A failure, and then the end, is met only behind the last byte. -/
def read (transport : Transport) (most : Nat) : ReadOutcome × Transport :=
  if transport.available > 0 then
    let stop := transport.taken + min most transport.available
    (.read (transport.received.extract transport.taken stop), { transport with taken := stop })
  else
    match transport.readFailure with
    | some text => (.failed text, transport)
    | none => (if transport.ended then .ended else .waiting, transport)

def writeAfterShutdown : String := "write after shutdown"

/-- Sends the bytes. While the switch does not read, nothing is sent and nothing fails. -/
def write (transport : Transport) (bytes : ByteArray) : WriteOutcome × Transport :=
  if transport.stalled then (.waiting, transport)
  else
    match transport.writeFailure with
    | some text => (.failed text, transport)
    | none =>
      if transport.shut then (.failed writeAfterShutdown, transport)
      else (.written, { transport with sent := transport.sent ++ bytes })

/-- The text sent beyond the first `count` bytes. -/
def sentAfter (transport : Transport) (count : Nat) : String :=
  (String.fromUTF8? (transport.sent.extract count transport.sent.size)).getD ""

def shutdown (transport : Transport) : ShutdownOutcome × Transport :=
  if transport.shutdownStalled then (.waiting, transport)
  else
    match transport.shutdownFailure with
    | some text => (.failed text, transport)
    | none => (.done, { transport with shut := true })

def drop (transport : Transport) : Transport := { transport with dropped := true }

/-- The switch sees the end of our stream. -/
def isClosed (transport : Transport) : Bool := transport.shut || transport.dropped

end Transport

end EventSocket
