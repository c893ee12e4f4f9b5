import EventSocket.Proofs.Text.Trimming
import EventSocket.Proofs.Text.Bytes
import EventSocket.Text.Percent

/-!
Percent coding is undone by reading, for any text. What it writes holds no blank, and what holds no
percent sign is read as it stands.
-/

namespace EventSocket.Text

theorem toList_loop_eq (bytes : ByteArray) (position : Nat) (done : List UInt8) :
    ByteArray.toList.loop bytes position done =
      done.reverse ++ (octets bytes).drop position := by
  fun_induction ByteArray.toList.loop bytes position done with
  | case1 position done inside ih =>
    have hposition : position < (octets bytes).length := by simpa using inside
    have hbyte : bytes.get! position = (octets bytes)[position] := by
      simp only [octets, Array.getElem_toList]
      exact getElem!_pos bytes.data position inside
    rw [ih, List.drop_eq_getElem_cons hposition, hbyte]
    simp
  | case2 position done outside => simpa using outside

theorem toList_eq_octets (bytes : ByteArray) : bytes.toList = octets bytes := by
  rw [ByteArray.toList, toList_loop_eq]
  rfl

def pushAll (done : ByteArray) (bytes : List UInt8) : ByteArray := bytes.foldl ByteArray.push done

theorem octets_pushAll (done : ByteArray) (bytes : List UInt8) :
    octets (pushAll done bytes) = octets done ++ bytes := by
  induction bytes generalizing done with
  | nil => simp [pushAll]
  | cons byte bytes ih =>
    have hpush : octets (done.push byte) = octets done ++ [byte] := by simp [octets]
    rw [pushAll, List.foldl_cons, ← pushAll, ih, hpush, List.append_assoc]
    rfl

/-! Reading, one byte or one triple at a time. -/

theorem percentDecodeOnto_copied {byte : UInt8} (h : byte ≠ percentSign) (done : ByteArray)
    (rest : List UInt8) :
    percentDecodeOnto done (byte :: rest) = percentDecodeOnto (done.push byte) rest := by
  match rest with
  | [] => rfl
  | [_] => rfl
  | _ :: _ :: _ => rw [percentDecodeOnto, if_neg h]

theorem percentDecodeOnto_triple {high low byte : UInt8} (h : hexPair? high low = some byte)
    (done : ByteArray) (rest : List UInt8) :
    percentDecodeOnto done (percentSign :: high :: low :: rest) =
      percentDecodeOnto (done.push byte) rest := by
  rw [percentDecodeOnto, if_pos rfl, h]

theorem percentDecodeOnto_plain {bytes : List UInt8} (h : percentSign ∉ bytes)
    (done : ByteArray) : percentDecodeOnto done bytes = pushAll done bytes := by
  induction bytes generalizing done with
  | nil => rfl
  | cons byte bytes ih =>
    rw [List.mem_cons, not_or] at h
    rw [percentDecodeOnto_copied (Ne.symm h.1), ih h.2]
    rfl

theorem percentDecode_eq {text : String} {bytes : List UInt8} {meant : String}
    (hcodes : codes text = bytes)
    (hread : percentDecodeOnto ByteArray.empty bytes = pushAll ByteArray.empty (codes meant)) :
    percentDecode text = meant := by
  have hbytes : pushAll ByteArray.empty (codes meant) = meant.toUTF8 :=
    octets_injective (octets_pushAll _ _)
  rw [percentDecode, toList_eq_octets, ← codes, hcodes, hread, hbytes, fromUTF8?_toUTF8]
  rfl

theorem percentDecode_of_plain {text : String} (h : '%' ∉ text.toList) :
    percentDecode text = text := by
  have hsign : percentSign ∉ codes text := by
    rw [mem_codes_iff (by decide)]
    rintro ⟨c, hc, hsame⟩
    obtain rfl : c = '%' := Char.toNat_inj.mp hsame
    exact h hc
  exact percentDecode_eq rfl (percentDecodeOnto_plain hsign _)

/-! What reading gives, byte by byte, whatever the bytes are. -/

/-- The bytes begin with a percent sign and two hexadecimal digits. -/
def BeginsTriple (bytes : List UInt8) : Prop :=
  ∃ high low byte rest, bytes = percentSign :: high :: low :: rest ∧ hexPair? high low = some byte

/-- Bytes and those they stand for: one byte for each triple, and every other byte for itself. -/
inductive Unescaped : List UInt8 → List UInt8 → Prop
  | nil : Unescaped [] []
  | triple {high low byte : UInt8} {rest meant : List UInt8} (h : hexPair? high low = some byte)
      (hrest : Unescaped rest meant) :
      Unescaped (percentSign :: high :: low :: rest) (byte :: meant)
  | copied {byte : UInt8} {rest meant : List UInt8} (h : ¬ BeginsTriple (byte :: rest))
      (hrest : Unescaped rest meant) : Unescaped (byte :: rest) (byte :: meant)

theorem exists_unescaped (bytes : List UInt8) : ∃ meant, Unescaped bytes meant := by
  -- By the length of the bytes, as a triple takes three of them at once.
  match bytes with
  | [] => exact ⟨[], .nil⟩
  | first :: rest =>
    by_cases htriple : BeginsTriple (first :: rest)
    · obtain ⟨high, low, byte, more, hbytes, hpair⟩ := htriple
      obtain ⟨rfl, rfl⟩ := List.cons.inj hbytes
      obtain ⟨meant, hmeant⟩ := exists_unescaped more
      exact ⟨byte :: meant, .triple hpair hmeant⟩
    · obtain ⟨meant, hmeant⟩ := exists_unescaped rest
      exact ⟨first :: meant, .copied htriple hmeant⟩
termination_by bytes.length

theorem percentDecodeOnto_notTriple {byte : UInt8} {rest : List UInt8}
    (h : ¬ BeginsTriple (byte :: rest)) (done : ByteArray) :
    percentDecodeOnto done (byte :: rest) = percentDecodeOnto (done.push byte) rest := by
  by_cases hsign : byte = percentSign
  · match rest with
    | [] => rfl
    | [_] => rfl
    | high :: low :: more =>
      cases hpair : hexPair? high low with
      | none => rw [percentDecodeOnto, if_pos hsign, hpair]
      | some meant => exact absurd ⟨high, low, meant, more, by rw [hsign], hpair⟩ h
  · exact percentDecodeOnto_copied hsign done rest

theorem Unescaped.percentDecodeOnto {bytes meant : List UInt8} (h : Unescaped bytes meant)
    (done : ByteArray) : percentDecodeOnto done bytes = pushAll done meant := by
  induction h generalizing done with
  | nil => rfl
  | triple hpair _ ih =>
    rw [percentDecodeOnto_triple hpair, ih]
    rfl
  | copied hbyte _ ih =>
    rw [percentDecodeOnto_notTriple hbyte, ih]
    rfl

/-- The value that a percent-coded text stands for. A text that stands for bytes of no text is its
own value. -/
def StandsFor (text value : String) : Prop :=
  ∃ bytes, Unescaped (codes text) bytes ∧
    (codes value = bytes ∨ (∀ other, codes other ≠ bytes) ∧ value = text)

theorem percentDecode_of_unescaped {text : String} {bytes : List UInt8}
    (h : Unescaped (codes text) bytes) :
    percentDecode text = (String.fromUTF8? bytes.toByteArray).getD text := by
  have hread : Text.percentDecodeOnto ByteArray.empty (codes text) = bytes.toByteArray := by
    apply octets_injective
    rw [h.percentDecodeOnto, octets_pushAll, octets_toByteArray, octets_empty, List.nil_append]
  rw [percentDecode, toList_eq_octets, ← codes, hread]

theorem standsFor_iff {text value : String} :
    StandsFor text value ↔ value = percentDecode text := by
  constructor
  · rintro ⟨bytes, hbytes, rfl | ⟨hnone, rfl⟩⟩
    · rw [percentDecode_of_unescaped hbytes, fromUTF8?_codes, Option.getD_some]
    · rw [percentDecode_of_unescaped hbytes, fromUTF8?_eq_none_iff.mpr hnone, Option.getD_none]
  · rintro rfl
    obtain ⟨bytes, hbytes⟩ := exists_unescaped (codes text)
    refine ⟨bytes, hbytes, ?_⟩
    rw [percentDecode_of_unescaped hbytes]
    cases hvalue : String.fromUTF8? bytes.toByteArray with
    | none => exact .inr ⟨fromUTF8?_eq_none_iff.mp hvalue, rfl⟩
    | some value => exact .inl (codes_of_fromUTF8? hvalue)

/-! Writing, byte by byte. -/

def digitByte (value : Nat) : UInt8 := UInt8.ofNat (upperHexDigit value).toNat

theorem utf8EncodeChar_upperHexDigit : ∀ value < 16,
    String.utf8EncodeChar (upperHexDigit value) = [digitByte value] := by
  decide

theorem hexValue?_digitByte : ∀ value < 16,
    hexValue? (Char.ofNat (digitByte value).toNat) = some value := by
  decide

theorem hexPair?_digitByte (byte : UInt8) :
    hexPair? (digitByte (byte.toNat / 16)) (digitByte (byte.toNat % 16)) = some byte := by
  have hbyte : byte.toNat < 256 := byte.toNat_lt
  rw [hexPair?, hexValue?_digitByte _ (by omega), hexValue?_digitByte _ (by omega)]
  calc
    some (UInt8.ofNat (16 * (byte.toNat / 16) + byte.toNat % 16)) =
        some (UInt8.ofNat byte.toNat) := by rw [Nat.div_add_mod]
    _ = some byte := by rw [UInt8.ofNat_toNat]

theorem utf8EncodeChar_of_lt : ∀ value < 128,
    String.utf8EncodeChar (Char.ofNat value) = [UInt8.ofNat value] := by
  decide +kernel

theorem unreserved_bounds {byte : UInt8} (h : isUnreserved byte) :
    (48 ≤ byte.toNat ∧ byte.toNat ≤ 57) ∨ (65 ≤ byte.toNat ∧ byte.toNat ≤ 90) ∨
      (97 ≤ byte.toNat ∧ byte.toNat ≤ 122) := by
  simpa [isUnreserved, UInt8.le_iff_toNat_le, or_assoc] using h

/-- The bytes that stand for one byte. -/
def codedByte (byte : UInt8) : List UInt8 :=
  if isUnreserved byte then [byte]
  else [percentSign, digitByte (byte.toNat / 16), digitByte (byte.toNat % 16)]

theorem codes_percentEncodeByte (byte : UInt8) :
    (percentEncodeByte byte).flatMap String.utf8EncodeChar = codedByte byte := by
  by_cases h : isUnreserved byte
  · have hbounds := unreserved_bounds h
    simp [percentEncodeByte, codedByte, h, utf8EncodeChar_of_lt byte.toNat (by omega)]
  · have hbyte : byte.toNat < 256 := byte.toNat_lt
    have hsign : String.utf8EncodeChar '%' = [percentSign] := by decide
    simp [percentEncodeByte, codedByte, h, hsign, utf8EncodeChar_upperHexDigit _
      (show byte.toNat / 16 < 16 by omega), utf8EncodeChar_upperHexDigit _
      (show byte.toNat % 16 < 16 by omega)]

theorem codes_percentEncode (text : String) :
    codes (percentEncode text) = (codes text).flatMap codedByte := by
  rw [percentEncode, codes_ofList, toList_eq_octets, List.flatMap_assoc, ← codes]
  simp only [codes_percentEncodeByte]

theorem percentDecodeOnto_codedByte (byte : UInt8) (done : ByteArray) (rest : List UInt8) :
    percentDecodeOnto done (codedByte byte ++ rest) = percentDecodeOnto (done.push byte) rest := by
  unfold codedByte
  split
  · next h =>
    have hsign : byte ≠ percentSign := by
      rintro rfl
      exact absurd h (by decide)
    exact percentDecodeOnto_copied hsign done rest
  · exact percentDecodeOnto_triple (hexPair?_digitByte byte) done rest

theorem percentDecodeOnto_coded (bytes : List UInt8) (done : ByteArray) :
    percentDecodeOnto done (bytes.flatMap codedByte) = pushAll done bytes := by
  induction bytes generalizing done with
  | nil => rfl
  | cons byte bytes ih =>
    rw [List.flatMap_cons, percentDecodeOnto_codedByte, ih]
    rfl

theorem percentDecode_percentEncode (text : String) : percentDecode (percentEncode text) = text :=
  percentDecode_eq (codes_percentEncode text) (percentDecodeOnto_coded _ _)

theorem isBlank_of_lt : ∀ value < 128, 32 < value → isBlank (Char.ofNat value) = false := by
  decide

theorem isBlank_upperHexDigit : ∀ value < 16, isBlank (upperHexDigit value) = false := by
  decide

theorem isBlank_of_mem_percentEncode {text : String} {c : Char}
    (h : c ∈ (percentEncode text).toList) : isBlank c = false := by
  simp only [percentEncode, String.toList_ofList, List.mem_flatMap] at h
  obtain ⟨byte, -, hc⟩ := h
  have hbyte : byte.toNat < 256 := byte.toNat_lt
  unfold percentEncodeByte at hc
  split at hc
  · next hplain =>
    have hbounds := unreserved_bounds hplain
    obtain rfl := List.mem_singleton.mp hc
    exact isBlank_of_lt _ (by omega) (by omega)
  · simp only [List.mem_cons, List.not_mem_nil, or_false] at hc
    rcases hc with rfl | rfl | rfl
    · decide
    · exact isBlank_upperHexDigit _ (by omega)
    · exact isBlank_upperHexDigit _ (by omega)

end EventSocket.Text
