import EventSocket.Fault
import EventSocket.Fields

/-!
Channel variables in front of a dial string or a file, in the order in which they were first set.
-/

namespace EventSocket

structure Variables where
  fields : Fields
  deriving DecidableEq

namespace Variables

def empty : Variables := ⟨Fields.empty⟩

/-- Characters with a meaning of their own in the rendering. -/
def isReserved (c : Char) : Bool :=
  c == '=' || c == ',' || c == '\x7b' || c == '\x7d' || c == ' '

def isName (name : String) : Bool := !name.isEmpty && !name.toList.any isReserved

def set (values : Variables) (name value : String) : Except CommandFault Variables :=
  if isName name then .ok ⟨values.fields.set name value⟩ else .error (.variableName name)

def setAll (values : Variables) (pairs : List (String × String)) :
    Except CommandFault Variables :=
  pairs.foldlM (fun values pair => values.set pair.1 pair.2) values

def get? (values : Variables) (name : String) : Option String := values.fields.get? name

def size (values : Variables) : Nat := values.fields.size

/-- A value that would end early stands in single quotes. -/
def valueText (value : String) : String :=
  if value.toList.any fun c => c == ',' || c == ' ' then "'" ++ value ++ "'" else value

def itemText (field : String × String) : String := field.1 ++ "=" ++ valueText field.2

def text (values : Variables) : String :=
  if values.fields.isEmpty then ""
  else "\x7b" ++ ",".intercalate (values.fields.toList.map itemText) ++ "\x7d"

end Variables

end EventSocket
