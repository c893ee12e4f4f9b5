import EventSocket.Event.Kind
import EventSocket.Proofs.Fields

/-!
Tables of terms in which a word or a label says which term is meant.
-/

namespace EventSocket

namespace Text

def lowered (text : String) : List Char := text.toList.map Char.toLower

theorem sameLetters_iff {left right : String} :
    sameLetters left right ↔ lowered left = lowered right := by
  simp [sameLetters, lowered]

end Text

/-- The table leaves no term out, and no two of its words or labels can be taken for each other. -/
class LawfulTerm (α : Type) [Term α] : Prop where
  complete : ∀ term : α, term ∈ (Term.terms : List α)
  words : ((Term.terms : List α).map fun term => Text.lowered (Term.word term)).Nodup
  labels : ((Term.terms : List α).map Term.label).Nodup

namespace Term

variable {α : Type} [Term α] [LawfulTerm α] {text : String} {term : α}

theorem parse?_eq_some_iff : parse? text = some term ↔ Text.sameLetters text (word term) := by
  constructor
  · exact List.find?_some
  · intro h
    have hsame : ∀ other : α, Text.sameLetters text (word other) =
        decide (Text.lowered (word other) = Text.lowered (word term)) := by
      intro other
      rw [Bool.eq_iff_iff, Text.sameLetters_iff, Text.sameLetters_iff.mp h, decide_eq_true_iff,
        eq_comm]
    simp only [parse?, hsame]
    exact find?_of_nodup LawfulTerm.words (LawfulTerm.complete term)

@[simp]
theorem ofLabel?_label (term : α) : ofLabel? (label term) = some term := by
  have hsame : ∀ other : α, (label other == label term) = decide (label other = label term) :=
    fun other => rfl
  simp only [ofLabel?, hsame]
  exact find?_of_nodup LawfulTerm.labels (LawfulTerm.complete term)

end Term

instance : LawfulTerm EventType where
  complete eventType := by cases eventType <;> decide
  words := by decide +kernel
  labels := by decide +kernel

end EventSocket
