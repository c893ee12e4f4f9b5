import EventSocket.Text.Numeral

/-!
Numerals read as the number they write: digits to the base ten, any zeros in front, and a plus sign
before them or none.
-/

namespace EventSocket.Text

/-- The text writes the number. -/
def Numeral (text : String) (value : Nat) : Prop :=
  ∃ digits : List Char, digits ≠ [] ∧ (∀ c ∈ digits, c.isDigit) ∧
    (text.toList = digits ∨ text.toList = '+' :: digits) ∧ Nat.ofDigitChars 10 digits 0 = value

theorem digitValue?_of_isDigit {c : Char} (h : c.isDigit) :
    digitValue? c = some (c.toNat - '0'.toNat) := by
  have hrange : '0' ≤ c ∧ c ≤ '9' := by
    simpa [Char.isDigit, Char.le_def] using h
  rw [digitValue?, if_pos hrange]

theorem digitsFrom_eq {digits : List Char} (h : ∀ c ∈ digits, c.isDigit) (value : Nat) :
    digitsFrom value digits = some (Nat.ofDigitChars 10 digits value) := by
  induction digits generalizing value with
  | nil => simp [digitsFrom]
  | cons c digits ih =>
    have hc : c.isDigit := h c List.mem_cons_self
    have hdigits : ∀ d ∈ digits, d.isDigit := fun d hd => h d (List.mem_cons_of_mem c hd)
    rw [digitsFrom, digitValue?_of_isDigit hc, Nat.ofDigitChars_cons]
    exact ih hdigits _

theorem unsigned?_of_numeral {text : String} {value : Nat} (h : Numeral text value) :
    unsigned? text.toList = some value := by
  obtain ⟨digits, hne, hdigits, htext, rfl⟩ := h
  obtain ⟨c, rest, rfl⟩ := List.exists_cons_of_ne_nil hne
  have hread : digits? (c :: rest) = some (Nat.ofDigitChars 10 (c :: rest) 0) :=
    digitsFrom_eq hdigits 0
  rcases htext with htext | htext
  · have hplus : c ≠ '+' := by
      rintro rfl
      exact absurd (hdigits '+' List.mem_cons_self) (by decide)
    rw [htext, ← hread]
    unfold unsigned?
    split
    · next heq =>
      cases heq
      exact absurd rfl hplus
    · rfl
  · rw [htext, ← hread]
    rfl

theorem natural?_of_numeral {text : String} {value limit : Nat} (h : Numeral text value)
    (hlimit : value < limit) : natural? limit text = some value := by
  simp [natural?, unsigned?_of_numeral h, hlimit]

theorem isDigit_of_mem_toString {value : Nat} {c : Char} (h : c ∈ (toString value).toList) :
    c.isDigit := by
  rw [Nat.toString_eq_repr, Nat.toList_repr] at h
  exact Nat.isDigit_of_mem_toDigits (by decide) (by decide) h

theorem numeral_toString (value : Nat) : Numeral (toString value) value := by
  have hdigits : (toString value).toList = Nat.toDigits 10 value := Nat.toList_repr
  exact ⟨(toString value).toList, hdigits ▸ Nat.toDigits_ne_nil,
    fun _ => isDigit_of_mem_toString, Or.inl rfl,
    hdigits ▸ Nat.ofDigitChars_toDigits (by decide) (by decide)⟩

theorem isDigit_of_digitValue? {c : Char} {digit : Nat} (h : digitValue? c = some digit) :
    c.isDigit := by
  unfold digitValue? at h
  split at h
  · next hrange => simpa [Char.isDigit, Char.le_def] using hrange
  · cases h

theorem isDigit_of_digitsFrom {digits : List Char} {start value : Nat}
    (h : digitsFrom start digits = some value) : ∀ c ∈ digits, c.isDigit := by
  induction digits generalizing start with
  | nil => simp
  | cons c digits ih =>
    obtain ⟨digit, hdigit, hrest⟩ := Option.bind_eq_some_iff.1 h
    intro d hd
    rcases List.mem_cons.1 hd with rfl | hd
    · exact isDigit_of_digitValue? hdigit
    · exact ih hrest d hd

theorem digits?_eq_some {digits : List Char} {value : Nat} (h : digits? digits = some value) :
    digits ≠ [] ∧ (∀ c ∈ digits, c.isDigit) ∧ Nat.ofDigitChars 10 digits 0 = value := by
  unfold digits? at h
  split at h
  · cases h
  · next hne =>
    have hdigits := isDigit_of_digitsFrom h
    rw [digitsFrom_eq hdigits, Option.some.injEq] at h
    exact ⟨hne, hdigits, h⟩

theorem numeral_of_unsigned? {text : String} {value : Nat}
    (h : unsigned? text.toList = some value) : Numeral text value := by
  unfold unsigned? at h
  split at h
  · next digits htext =>
    obtain ⟨hne, hdigits, hvalue⟩ := digits?_eq_some h
    exact ⟨digits, hne, hdigits, Or.inr htext, hvalue⟩
  · obtain ⟨hne, hdigits, hvalue⟩ := digits?_eq_some h
    exact ⟨text.toList, hne, hdigits, Or.inl rfl, hvalue⟩

theorem natural?_eq_some_iff {text : String} {value limit : Nat} :
    natural? limit text = some value ↔ Numeral text value ∧ value < limit := by
  constructor
  · intro h
    obtain ⟨hvalue, hlimit⟩ := Option.filter_eq_some_iff.1 h
    exact ⟨numeral_of_unsigned? hvalue, of_decide_eq_true hlimit⟩
  · rintro ⟨hvalue, hlimit⟩
    exact natural?_of_numeral hvalue hlimit

theorem Numeral.unique {text : String} {value other : Nat} (h : Numeral text value)
    (hother : Numeral text other) : other = value := by
  have hread := unsigned?_of_numeral h
  rw [unsigned?_of_numeral hother, Option.some.injEq] at hread
  exact hread

end EventSocket.Text
