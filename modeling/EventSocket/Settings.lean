/-!
Sizes, times and terminators that hold where a caller sets nothing else.
-/

namespace EventSocket

/-- The port on which a switch takes calls to its event socket. -/
def defaultPort : Nat := 8021

def readLimit : Nat := 64 * 1024

def bufferReserve : Nat := 64 * 1024

def lineTerminator : String := "\n"

/-- Ends a block of headers, and a command. -/
def blockTerminator : String := "\n\n"

/-- Settings of a session. Times are in milliseconds. -/
structure Settings where
  /-- No larger than a queue can be made. -/
  queueSize : Nat
  /-- How long the opening of a connection may take, and later the leave-taking. -/
  timeout : Nat
  deriving DecidableEq

def Settings.standard : Settings := ⟨1000, 5000⟩

end EventSocket
