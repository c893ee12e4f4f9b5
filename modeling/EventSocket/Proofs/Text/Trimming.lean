import EventSocket.Proofs.Text.Numerals
import EventSocket.Text.Blank
import EventSocket.Text.Lines
import Mathlib.Data.List.Basic
import Mathlib.Data.List.DropRight
import Mathlib.Data.List.TakeWhile

/-!
Blanks at the ends of a text do not count, a carriage return among them.
-/

namespace EventSocket.Text

theorem trimChars_blank_append {blanks : List Char} (h : ∀ c ∈ blanks, isBlank c)
    (chars : List Char) : trimChars (blanks ++ chars) = trimChars chars := by
  rw [trimChars, List.dropWhile_append_of_pos h, trimChars]

theorem trimChars_of_blank {blanks : List Char} (h : ∀ c ∈ blanks, isBlank c) :
    trimChars blanks = [] := by
  calc
    trimChars blanks = trimChars (blanks ++ []) := by rw [List.append_nil]
    _ = trimChars [] := trimChars_blank_append h []
    _ = [] := rfl

theorem trimChars_append_blank {blanks : List Char} (h : ∀ c ∈ blanks, isBlank c)
    (chars : List Char) : trimChars (chars ++ blanks) = trimChars chars := by
  by_cases hchars : chars.dropWhile isBlank = []
  · have hall : ∀ c ∈ chars ++ blanks, isBlank c := by
      intro c hc
      rcases List.mem_append.mp hc with hc | hc
      · exact List.dropWhile_eq_nil_iff.mp hchars c hc
      · exact h c hc
    rw [trimChars_of_blank hall, trimChars, hchars]
    rfl
  · rw [trimChars, trimChars, List.dropWhile_append, if_neg (by simpa using hchars),
      List.reverse_append, List.dropWhile_append_of_pos fun c hc => h c (List.mem_reverse.mp hc)]

theorem trimChars_between {left right chars : List Char} (hleft : ∀ c ∈ left, isBlank c)
    (hright : ∀ c ∈ right, isBlank c) (h : trimChars chars = chars) :
    trimChars (left ++ chars ++ right) = chars := by
  rw [trimChars_append_blank hright, trimChars_blank_append hleft, h]

theorem dropWhile_isBlank_of_none {chars : List Char} (h : ∀ c ∈ chars, isBlank c = false) :
    chars.dropWhile isBlank = chars := by
  cases chars with
  | nil => rfl
  | cons c chars => simp [h c List.mem_cons_self]

theorem trimChars_of_none {chars : List Char} (h : ∀ c ∈ chars, isBlank c = false) :
    trimChars chars = chars := by
  have hreversed : ∀ c ∈ chars.reverse, isBlank c = false :=
    fun c hc => h c (List.mem_reverse.mp hc)
  rw [trimChars, dropWhile_isBlank_of_none h, dropWhile_isBlank_of_none hreversed,
    List.reverse_reverse]

theorem toList_trim (text : String) : (trim text).toList = trimChars text.toList := by
  simp [trim]

theorem trimChars_toList {text : String} (h : trim text = text) :
    trimChars text.toList = text.toList := by
  rw [← toList_trim, h]

/-- The characters of a line without the carriage return of its ending. -/
def withoutReturn (chars : List Char) : List Char :=
  if chars.getLast? = some '\r' then chars.dropLast else chars

theorem dropReturn_ofList (chars : List Char) :
    dropReturn (String.ofList chars) = String.ofList (withoutReturn chars) := by
  simp only [dropReturn, withoutReturn, String.toList_ofList]
  split <;> rfl

theorem withoutReturn_append_cons (front : List Char) {c : Char} (hc : c ≠ '\r')
    (chars : List Char) :
    withoutReturn (front ++ c :: chars) = front ++ c :: withoutReturn chars := by
  cases chars with
  | nil => simp [withoutReturn, hc]
  | cons d chars =>
    simp only [withoutReturn, List.getLast?_append, List.getLast?_cons_cons]
    split <;> split <;> simp_all [List.dropLast_cons_of_ne_nil]

theorem trimChars_withoutReturn (chars : List Char) :
    trimChars (withoutReturn chars) = trimChars chars := by
  unfold withoutReturn
  split
  · next h =>
    have hblank : ∀ c ∈ ['\r'], isBlank c := by simp [isBlank]
    conv => rhs; rw [← List.dropLast_append_getLast? _ h, trimChars_append_blank hblank]
  · rfl

theorem exists_blank_trimChars (chars : List Char) :
    ∃ left right, chars = left ++ trimChars chars ++ right ∧ (∀ c ∈ left, isBlank c) ∧
      ∀ c ∈ right, isBlank c := by
  refine ⟨chars.takeWhile isBlank, ((chars.dropWhile isBlank).reverse.takeWhile isBlank).reverse,
    ?_, ?_, ?_⟩
  · rw [trimChars, List.append_assoc, ← List.reverse_append, List.takeWhile_append_dropWhile,
      List.reverse_reverse, List.takeWhile_append_dropWhile]
  · exact fun c hc => List.mem_takeWhile_imp hc
  · exact fun c hc => List.mem_takeWhile_imp (List.mem_reverse.1 hc)

theorem trimChars_eq_rdropWhile (chars : List Char) :
    trimChars chars = (chars.dropWhile isBlank).rdropWhile isBlank := rfl

theorem trimChars_eq_nil_iff {chars : List Char} :
    trimChars chars = [] ↔ ∀ c ∈ chars, isBlank c := by
  constructor
  · intro h
    obtain ⟨left, right, hchars, hleft, hright⟩ := exists_blank_trimChars chars
    rw [h, List.append_nil] at hchars
    intro c hc
    rw [hchars, List.mem_append] at hc
    exact hc.elim (hleft c) (hright c)
  · exact trimChars_of_blank

theorem trimChars_trimChars (chars : List Char) :
    trimChars (trimChars chars) = trimChars chars := by
  have hfront : (trimChars chars).dropWhile isBlank = trimChars chars := by
    rw [List.dropWhile_eq_self_iff]
    intro hlength
    have hinitial : trimChars chars <+: chars.dropWhile isBlank := List.rdropWhile_prefix _ _
    rw [hinitial.getElem hlength]
    exact List.dropWhile_get_zero_not isBlank chars (Nat.lt_of_lt_of_le hlength hinitial.length_le)
  calc
    trimChars (trimChars chars) = (trimChars chars).rdropWhile isBlank := by
      rw [trimChars_eq_rdropWhile, hfront]
    _ = trimChars chars := List.rdropWhile_idempotent _ _

/-! Numbers have no blanks in them. -/

theorem isBlank_of_isDigit {c : Char} (h : c.isDigit) : isBlank c = false := by
  have hrange : 48 ≤ c.toNat ∧ c.toNat ≤ 57 := by
    simpa [Char.isDigit, UInt32.le_iff_toNat_le] using h
  simp [isBlank]
  omega

theorem isBlank_toString (value : Nat) : ∀ c ∈ (toString value).toList, isBlank c = false :=
  fun _ hc => isBlank_of_isDigit (isDigit_of_mem_toString hc)

theorem trim_toString (value : Nat) : trim (toString value) = toString value := by
  rw [trim, trimChars_of_none (isBlank_toString value), String.ofList_toList]

theorem noFeed_toString (value : Nat) : '\n' ∉ (toString value).toList :=
  fun h => absurd (isBlank_toString value _ h) (by decide)

end EventSocket.Text
