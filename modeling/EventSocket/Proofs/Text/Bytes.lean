import EventSocket.Frame.Buffer

/-!
Text as bytes. In UTF-8 a line feed stands for itself and no other character has that byte in its
code, so that lines can be told apart before the text in them is read.
-/

namespace EventSocket

def octets (bytes : ByteArray) : List UInt8 := bytes.data.toList

@[simp]
theorem octets_empty : octets ByteArray.empty = [] := rfl

@[simp]
theorem octets_append (left right : ByteArray) :
    octets (left ++ right) = octets left ++ octets right :=
  ByteArray.toList_data_append

@[simp]
theorem octets_toByteArray (bytes : List UInt8) : octets bytes.toByteArray = bytes := by
  simp [octets]

@[simp]
theorem length_octets (bytes : ByteArray) : (octets bytes).length = bytes.size := by
  simp [octets]

theorem octets_eq_nil_iff {bytes : ByteArray} : octets bytes = [] ↔ bytes.isEmpty = true := by
  rw [← List.length_eq_zero_iff, length_octets]
  simp [ByteArray.isEmpty]

theorem octets_extract (bytes : ByteArray) (start stop : Nat) :
    octets (bytes.extract start stop) = ((octets bytes).take stop).drop start := by
  simp [octets, ByteArray.data_extract, List.drop_take]

theorem octets_injective : Function.Injective octets := by
  intro left right h
  exact ByteArray.ext (Array.toList_inj.mp h)

theorem toByteArray_octets (bytes : ByteArray) : (octets bytes).toByteArray = bytes :=
  octets_injective (octets_toByteArray _)

namespace Text

/-- The bytes of a text in UTF-8. -/
def codes (text : String) : List UInt8 := octets text.toUTF8

@[simp]
theorem codes_empty : codes "" = [] := rfl

@[simp]
theorem codes_append (left right : String) : codes (left ++ right) = codes left ++ codes right := by
  simp [codes]

theorem codes_ofList (chars : List Char) :
    codes (String.ofList chars) = chars.flatMap String.utf8EncodeChar := by
  simp [codes, List.utf8Encode]

theorem codes_flatMap {α : Type} (chars : α → List Char) (items : List α) :
    codes (String.ofList (items.flatMap chars)) =
      items.flatMap fun item => codes (String.ofList (chars item)) := by
  simp only [codes_ofList, List.flatMap_assoc]

theorem length_le_codes (chars : List Char) :
    chars.length ≤ (codes (String.ofList chars)).length := by
  rw [codes_ofList]
  induction chars with
  | nil => simp
  | cons c chars ih =>
    have hsize := c.utf8Size_pos
    rw [List.flatMap_cons, List.length_append, String.length_utf8EncodeChar, List.length_cons]
    omega

theorem length_codes (text : String) : (codes text).length = text.utf8ByteSize := by
  simp [codes]

theorem fromUTF8?_toUTF8 (text : String) : String.fromUTF8? text.toUTF8 = some text := by
  simp only [String.fromUTF8?, String.toUTF8_eq_toByteArray, text.isValidUTF8, ↓reduceDIte]
  rfl

theorem fromUTF8?_codes (text : String) :
    String.fromUTF8? (codes text).toByteArray = some text := by
  rw [codes, toByteArray_octets, fromUTF8?_toUTF8]

theorem toUTF8_of_fromUTF8? {bytes : ByteArray} {text : String}
    (h : String.fromUTF8? bytes = some text) : text.toUTF8 = bytes := by
  unfold String.fromUTF8? at h
  split at h
  · cases h
    rfl
  · cases h

theorem codes_of_fromUTF8? {bytes : List UInt8} {text : String}
    (h : String.fromUTF8? bytes.toByteArray = some text) : codes text = bytes := by
  rw [codes, toUTF8_of_fromUTF8? h, octets_toByteArray]

theorem fromUTF8?_eq_none_iff {bytes : List UInt8} :
    String.fromUTF8? bytes.toByteArray = none ↔ ∀ text, codes text ≠ bytes := by
  constructor
  · rintro h text rfl
    rw [fromUTF8?_codes] at h
    cases h
  · intro h
    cases htext : String.fromUTF8? bytes.toByteArray with
    | none => rfl
    | some text => exact absurd (codes_of_fromUTF8? htext) (h text)

theorem codes_line (chars : List Char) :
    codes (String.ofList (chars ++ ['\n'])) = codes (String.ofList chars) ++ [lineFeed] := by
  have hfeed : codes (String.ofList ['\n']) = [lineFeed] := by
    rw [codes_ofList]
    rfl
  rw [String.ofList_append, codes_append, hfeed]

/-- A byte below 128 stands for one character and occurs in the code of no other. -/
theorem mem_utf8EncodeChar_iff {byte : UInt8} (hbyte : byte.toNat < 128) (c : Char) :
    byte ∈ String.utf8EncodeChar c ↔ c.toNat = byte.toNat := by
  have hself : c.toNat = c.val.toNat := rfl
  have hcode (value : Nat) : byte = UInt8.ofNat value ↔ byte.toNat = value % 256 := by
    rw [← UInt8.toNat_inj, UInt8.toNat_ofNat']
  rw [hself]
  -- A code of several bytes has none below 128.
  fun_cases String.utf8EncodeChar c <;>
    simp only [List.mem_cons, hcode, List.not_mem_nil, or_false] <;> omega

theorem mem_codes_iff {byte : UInt8} (hbyte : byte.toNat < 128) (text : String) :
    byte ∈ codes text ↔ ∃ c ∈ text.toList, c.toNat = byte.toNat := by
  obtain ⟨chars, rfl⟩ := text.exists_eq_ofList
  simp [codes_ofList, mem_utf8EncodeChar_iff hbyte]

theorem lineFeed_mem_codes (text : String) : lineFeed ∈ codes text ↔ '\n' ∈ text.toList := by
  have hfeed (c : Char) : c.toNat = lineFeed.toNat ↔ c = '\n' := by
    rw [Char.ext_iff, ← UInt32.toNat_inj]
    rfl
  rw [mem_codes_iff (by decide)]
  simp [hfeed]

end Text

end EventSocket
