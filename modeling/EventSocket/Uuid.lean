import EventSocket.Text.Hexadecimal

/-!
Universally unique identifiers: 128 bits, written as 32 hexadecimal digits in groups of 8, 4, 4, 4
and 12.
-/

namespace EventSocket

structure Uuid where
  value : Fin (Nat.pow 2 128)
  deriving DecidableEq

namespace Uuid

def digits (uuid : Uuid) : List Nat :=
  (List.range 32).map fun place => uuid.value.val / Nat.pow 16 (31 - place) % 16

/-- The characters in groups of the given sizes, with hyphens between the groups. -/
def hyphenate : List Nat → List Char → List Char
  | [], chars => chars
  | [_], chars => chars
  | size :: sizes, chars => chars.take size ++ '-' :: hyphenate sizes (chars.drop size)

def groups : List Nat := [8, 4, 4, 4, 12]

def text (uuid : Uuid) : String :=
  String.ofList (hyphenate groups (uuid.digits.map Text.lowerHexDigit))

def ofDigits? (chars : List Char) : Option Uuid := do
  guard (chars.length = 32)
  let values ← chars.mapM Text.hexValue?
  return ⟨Fin.ofNat _ (values.foldl (fun value digit => 16 * value + digit) 0)⟩

/-- Takes the hyphens out, if they stand exactly between the groups. -/
def unhyphenate? : List Nat → List Char → Option (List Char)
  | [], chars => if chars.isEmpty then some [] else none
  | [size], chars => if chars.length = size then some chars else none
  | size :: sizes, chars =>
    match chars.drop size with
    | '-' :: rest => (unhyphenate? sizes rest).map (chars.take size ++ ·)
    | _ => none

def ofHyphenated? (chars : List Char) : Option Uuid :=
  (unhyphenate? groups chars).bind ofDigits?

def urnPrefix : List Char := "urn:uuid:".toList

/-- Reads the plain digits, the hyphenated form, and the latter in braces or behind `urn:uuid:`. -/
def ofText? (text : String) : Option Uuid :=
  let chars := text.toList
  if chars.length = 32 then ofDigits? chars
  else if chars.length = 38 then
    if chars.head? = some '\x7b' ∧ chars.getLast? = some '\x7d' then
      ofHyphenated? (chars.drop 1).dropLast
    else none
  else if chars.length = 45 then
    if (chars.take 9).map Char.toLower = urnPrefix then ofHyphenated? (chars.drop 9) else none
  else ofHyphenated? chars

end Uuid

end EventSocket
