/-!
Lengths of time, as settings give them: whole seconds and a part of a second.
-/

namespace EventSocket

structure Span where
  seconds : Nat
  nanoseconds : Nat
  deriving DecidableEq

namespace Span

def ofMilliseconds (milliseconds : Nat) : Span :=
  ⟨milliseconds / 1000, milliseconds % 1000 * 1000000⟩

/-- Whole milliseconds; what is left over does not count. -/
def milliseconds (span : Span) : Nat := span.seconds * 1000 + span.nanoseconds / 1000000

end Span

end EventSocket
