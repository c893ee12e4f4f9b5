import EventSocket.Event.Plain
import EventSocket.Proofs.Fields
import EventSocket.Proofs.Frame.Written
import EventSocket.Proofs.Text.Percent

/-!
Header lines of the plain form, written with a colon, a space and a value without blanks.
-/

namespace EventSocket

/-- A name under which a value can be sent. -/
structure HeaderName (name : String) : Prop where
  some : name ≠ ""
  trimmed : Text.trim name = name
  noColon : ':' ∉ name.toList
  noFeed : '\n' ∉ name.toList

namespace Event

def written (name value : String) : String := name ++ ": " ++ value

theorem toList_written (name value : String) :
    (written name value).toList = name.toList ++ ':' :: ' ' :: value.toList := by
  simp [written]

/-- The blanks around a value do not count. -/
theorem headerOfLine_named {name : String} (hname : HeaderName name) (value : String) :
    headerOfLine (written name value) = .ok (name, Text.trim value) := by
  have htrimmed := Text.trimChars_toList hname.trimmed
  have hsome : Text.trimChars name.toList ≠ [] := by
    rw [htrimmed]
    simpa using hname.some
  have hspace : Text.trimChars ([' '] ++ value.toList) = Text.trimChars value.toList :=
    Text.trimChars_blank_append (by simp [Text.isBlank]) _
  rw [← (written name value).ofList_toList, toList_written,
    headerOfLine_cons hname.noColon hsome, htrimmed, ← List.singleton_append, hspace,
    String.ofList_toList, Text.trim]

theorem headerOfLine_written {name value : String} (hname : HeaderName name)
    (hvalue : ∀ c ∈ value.toList, Text.isBlank c = false) :
    headerOfLine (written name value) = .ok (name, value) := by
  rw [headerOfLine_named hname, Text.trim, Text.trimChars_of_none hvalue, String.ofList_toList]

end Event

end EventSocket
