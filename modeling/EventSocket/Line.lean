/-!
Waiting in line for something only one can have. Whoever stands at the front has it until leaving.
-/

namespace EventSocket

structure Line (α : Type) where
  members : List α
  deriving DecidableEq

namespace Line

variable {α : Type} [DecidableEq α]

def empty : Line α := ⟨[]⟩

def join (line : Line α) (member : α) : Line α := ⟨line.members ++ [member]⟩

def leave (line : Line α) (member : α) : Line α := ⟨line.members.filter (· ≠ member)⟩

def serves (line : Line α) (member : α) : Bool := line.members.head? = some member

end Line

end EventSocket
