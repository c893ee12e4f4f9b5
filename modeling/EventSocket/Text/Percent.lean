import EventSocket.Text.Hexadecimal

/-!
Percent coding. Writing keeps ASCII letters and digits and turns every other byte into a percent
sign with two uppercase hexadecimal digits; reading undoes each such triple and copies every byte
that does not begin one.
-/

namespace EventSocket.Text

def percentSign : UInt8 := 37

def hexPair? (high low : UInt8) : Option UInt8 := do
  let upper ← hexValue? (Char.ofNat high.toNat)
  let lower ← hexValue? (Char.ofNat low.toNat)
  return UInt8.ofNat (16 * upper + lower)

/-- Appends to `done` what the bytes stand for. -/
def percentDecodeOnto (done : ByteArray) : List UInt8 → ByteArray
  | [] => done
  | [byte] => done.push byte
  | [first, second] => (done.push first).push second
  | first :: high :: low :: rest =>
    if first = percentSign then
      match hexPair? high low with
      | some byte => percentDecodeOnto (done.push byte) rest
      | none => percentDecodeOnto (done.push first) (high :: low :: rest)
    else
      percentDecodeOnto (done.push first) (high :: low :: rest)

/-- The text that a percent-coded one stands for; a text whose bytes would not be UTF-8 stands for
itself. -/
def percentDecode (text : String) : String :=
  (String.fromUTF8? (percentDecodeOnto ByteArray.empty text.toUTF8.toList)).getD text

def isUnreserved (byte : UInt8) : Bool :=
  (48 ≤ byte && byte ≤ 57) || (65 ≤ byte && byte ≤ 90) || (97 ≤ byte && byte ≤ 122)

def percentEncodeByte (byte : UInt8) : List Char :=
  if isUnreserved byte then [Char.ofNat byte.toNat]
  else ['%', upperHexDigit (byte.toNat / 16), upperHexDigit (byte.toNat % 16)]

def percentEncode (text : String) : String :=
  String.ofList (text.toUTF8.toList.flatMap percentEncodeByte)

end EventSocket.Text
