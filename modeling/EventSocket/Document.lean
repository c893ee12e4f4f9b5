import EventSocket.Term

/-!
Structured documents, and terms inside them. A term stands as its identifier; it may also stand as a
record with that one name and nothing under it.
-/

namespace EventSocket

inductive Document where
  | null
  | flag (value : Bool)
  | number (value : Int)
  | text (value : String)
  | list (items : List Document)
  | record (fields : List (String × Document))
  deriving Inhabited

namespace Document

def text? : Document → Option String
  | text value => some value
  | _ => none

def items? : Document → Option (List Document)
  | list items => some items
  | _ => none

def fields? : Document → Option (List (String × Document))
  | record fields => some fields
  | _ => none

/-- The part of a record with this name, if there is one. A record with two of them is not read. -/
def field? (name : String) (fields : List (String × Document)) : Option (Option Document) :=
  match fields.filter fun field => field.1 = name with
  | [] => some none
  | [field] => some (some field.2)
  | _ => none

def ofTerm {α : Type} [Term α] (term : α) : Document := .text (Term.label term)

def term? {α : Type} [Term α] : Document → Option α
  | text label => Term.ofLabel? label
  | record [(label, null)] => Term.ofLabel? label
  | _ => none

end Document

end EventSocket
