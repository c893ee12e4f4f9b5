/-!
Bytes as they are sent and received. Two arrays of them are equal if they hold the same bytes.
-/

namespace EventSocket

/-- This equality is meant wherever arrays of bytes are compared, whichever others are in reach. -/
instance decidableEqBytes : DecidableEq ByteArray := ByteArray.decEq

end EventSocket
