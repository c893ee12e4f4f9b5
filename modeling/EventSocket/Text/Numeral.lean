/-!
Decimal numerals within a range. A plus sign may stand in front of any numeral, a minus sign only in
front of one that may be negative; digits are ASCII, at least one, with any number of leading zeros.
-/

namespace EventSocket.Text

def digitValue? (c : Char) : Option Nat :=
  if '0' ≤ c ∧ c ≤ '9' then some (c.toNat - '0'.toNat) else none

def digitsFrom (value : Nat) : List Char → Option Nat
  | [] => some value
  | c :: rest => (digitValue? c).bind fun digit => digitsFrom (10 * value + digit) rest

def digits? : List Char → Option Nat
  | [] => none
  | chars => digitsFrom 0 chars

def unsigned? : List Char → Option Nat
  | '+' :: chars => digits? chars
  | chars => digits? chars

def signed? : List Char → Option Int
  | '-' :: chars => (digits? chars).map fun value => -(value : Int)
  | chars => (unsigned? chars).map Int.ofNat

/-- The number written, if it is less than `limit`. -/
def natural? (limit : Nat) (text : String) : Option Nat :=
  (unsigned? text.toList).filter (· < limit)

/-- The number written, if it is at least `-bound` and less than `bound`. -/
def integer? (bound : Nat) (text : String) : Option Int :=
  (signed? text.toList).filter fun value => -(bound : Int) ≤ value && value < bound

end EventSocket.Text
