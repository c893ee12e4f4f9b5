import EventSocket.Text.Hexadecimal
import EventSocket.Text.Hidden

/-!
Text shown between double quotes so that every character of it can be seen: the common controls, the
quote and the backslash get short escapes, and characters that leave no mark of their own or join
the one before them are written by code point.
-/

namespace EventSocket.Text

def escapedByCode (c : Char) : String :=
  "\\u\x7b" ++ lowerHex c.toNat ++ "\x7d"

def isPlain (c : Char) : Bool :=
  if c.toNat < 0x7f then 0x20 ≤ c.toNat
  else !(hiddenRanges.covers c.toNat) && !(joiningRanges.covers c.toNat)

def escaped (c : Char) : String :=
  if c = '\x00' then "\\0"
  else if c = '\t' then "\\t"
  else if c = '\r' then "\\r"
  else if c = '\n' then "\\n"
  else if c = '"' then "\\\""
  else if c = '\\' then "\\\\"
  else if isPlain c then String.singleton c
  else escapedByCode c

def quoted (text : String) : String :=
  (text.foldl (fun shown c => shown ++ escaped c) "\"") ++ "\""

end EventSocket.Text
