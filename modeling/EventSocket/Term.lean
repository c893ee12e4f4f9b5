import EventSocket.Text.Letters

/-!
Terms: values of an enumeration that stand as a fixed word on the wire. A word is read without
regard to the case of its letters.
-/

namespace EventSocket

class Term (α : Type) where
  noun : String
  terms : List α
  word : α → String
  /-- The identifier in structured documents. -/
  label : α → String

namespace Term

def parse? {α : Type} [Term α] (text : String) : Option α :=
  (terms : List α).find? fun term => Text.sameLetters text (word term)

def ofLabel? {α : Type} [Term α] (text : String) : Option α :=
  (terms : List α).find? fun term => label term == text

def unknown (α : Type) [Term α] (text : String) : String :=
  "unknown " ++ noun α ++ ": " ++ text

end Term

end EventSocket
