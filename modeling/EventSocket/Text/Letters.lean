/-!
Comparison of words without regard to the case of the letters `a` to `z`.
-/

namespace EventSocket.Text

/-- The same word, the case of ASCII letters aside. -/
def sameLetters (left right : String) : Bool :=
  left.toList.map Char.toLower == right.toList.map Char.toLower

end EventSocket.Text
