import EventSocket.Proofs.Frame.Written

/-!
The segments of a stream, each of which makes one frame, and the beginnings that make none. Of
several headers that give a length the last counts.
-/

namespace EventSocket

def LineEnding.bytes (ending : LineEnding) : List UInt8 :=
  Text.codes (String.ofList ending.chars)

theorem LineEnding.bytes_eq (ending : LineEnding) :
    ending.bytes = Text.codes (String.ofList ending.mark) ++ [lineFeed] :=
  Text.codes_line ending.mark

namespace WrittenHeader

def bytes (header : WrittenHeader) : List UInt8 := Text.codes (String.ofList header.chars)

theorem bytes_eq (header : WrittenHeader) : header.bytes =
    Text.codes (String.ofList (header.lineChars ++ header.ending.mark)) ++ [lineFeed] := by
  rw [bytes, chars, LineEnding.chars, ← List.append_assoc, Text.codes_line]

/-- If the header gives a length, it is one that a body may have. -/
def Measured (header : WrittenHeader) : Prop :=
  header.name = contentLengthName → ∃ count ≤ bodyLimit, Text.Numeral header.value count

end WrittenHeader

def lengthHeader? (headers : List WrittenHeader) : Option WrittenHeader :=
  (headers.filter (·.name = contentLengthName)).getLast?

/-- The length of the body that the headers ask for. -/
def Asks (headers : List WrittenHeader) : Option Nat → Prop
  | none => lengthHeader? headers = none
  | some count => ∃ header, lengthHeader? headers = some header ∧ Text.Numeral header.value count

/-- A frame up to some header line: blank lines, and then headers if there are any yet. -/
structure FrameHead where
  separators : List LineEnding
  headers : List WrittenHeader
  measured : ∀ header ∈ headers, header.Measured

namespace FrameHead

def chars (head : FrameHead) : List Char :=
  head.separators.flatMap LineEnding.chars ++ head.headers.flatMap WrittenHeader.chars

def bytes (head : FrameHead) : List UInt8 := Text.codes (String.ofList head.chars)

def pairs (head : FrameHead) : List (String × String) := head.headers.map WrittenHeader.pair

end FrameHead

/-- The bytes of one frame. There is a body exactly if the headers give a length, and it has that
length. -/
structure Segment where
  head : FrameHead
  closing : LineEnding
  body : Option String
  headers_ne : head.headers ≠ []
  asked : Asks head.headers (body.map String.utf8ByteSize)

namespace Segment

def bytes (segment : Segment) : List UInt8 :=
  segment.head.bytes ++ segment.closing.bytes ++ Text.codes (segment.body.getD "")

/-- The frame that the segment describes. -/
def frame (segment : Segment) : Frame :=
  Frame.ofHeaders segment.head.pairs ((segment.body.map Text.lines).getD [])

end Segment

/-- A line, without its line feed, that is neither blank nor a header, or gives a length that no
body may have. -/
inductive BadLine : List UInt8 → Fault → Prop
  | notText {line : List UInt8} (h : ∀ text, Text.codes text ≠ line) :
      BadLine line (.stream .lineNotText)
  | noHeader {text : String} (hsome : Text.dropReturn text ≠ "")
      (hname : ':' ∉ (Text.dropReturn text).toList ∨
        ∃ name value, (Text.dropReturn text).toList = name ++ ':' :: value ∧
          ∀ c ∈ name, Text.isBlank c) :
      BadLine (Text.codes text) (.invalidHeader (Text.dropReturn text))
  | noLength (header : WrittenHeader) (hname : header.name = contentLengthName)
      (hvalue : ∀ count < lengthLimit, ¬ Text.Numeral header.value count) :
      BadLine (Text.codes (String.ofList (header.lineChars ++ header.ending.mark)))
        (.invalidHeaderValue contentLengthName header.value)
  | tooLong (header : WrittenHeader) (hname : header.name = contentLengthName) {count : Nat}
      (hvalue : Text.Numeral header.value count) (hcount : count < lengthLimit)
      (hlong : bodyLimit < count) :
      BadLine (Text.codes (String.ofList (header.lineChars ++ header.ending.mark)))
        (.stream (.bodyTooLong count bodyLimit))

/-- The bytes begin with what could be a frame but for a complete line or a complete body in which
the fault lies. -/
inductive Malformed : List UInt8 → Fault → Prop
  | line (head : FrameHead) {line : List UInt8} {fault : Fault} (hline : lineFeed ∉ line)
      (hbad : BadLine line fault) (more : List UInt8) :
      Malformed (head.bytes ++ line ++ lineFeed :: more) fault
  | body (head : FrameHead) (closing : LineEnding) {body : List UInt8} (hne : head.headers ≠ [])
      (hasked : Asks head.headers (some body.length)) (hbody : ∀ text, Text.codes text ≠ body)
      (more : List UInt8) :
      Malformed (head.bytes ++ closing.bytes ++ body ++ more) (.stream .bodyNotText)

theorem asks_nil : Asks [] none := rfl

theorem asks_append_other {headers : List WrittenHeader} {header : WrittenHeader}
    (hname : header.name ≠ contentLengthName) (length : Option Nat) :
    Asks (headers ++ [header]) length ↔ Asks headers length := by
  cases length <;> simp [Asks, lengthHeader?, List.filter_append, hname]

theorem asks_append_length {headers : List WrittenHeader} {header : WrittenHeader}
    (hname : header.name = contentLengthName) (length : Option Nat) :
    Asks (headers ++ [header]) length ↔
      ∃ count, length = some count ∧ Text.Numeral header.value count := by
  cases length <;> simp [Asks, lengthHeader?, List.filter_append, hname]

theorem Asks.unique {headers : List WrittenHeader} {length other : Option Nat}
    (h : Asks headers length) (hother : Asks headers other) : other = length := by
  cases length with
  | none =>
    cases other with
    | none => rfl
    | some count =>
      obtain ⟨header, hheader, -⟩ := hother
      rw [show lengthHeader? headers = none from h] at hheader
      cases hheader
  | some count =>
    obtain ⟨header, hheader, hvalue⟩ := h
    cases other with
    | none =>
      rw [show lengthHeader? headers = none from hother] at hheader
      cases hheader
    | some count' =>
      obtain ⟨header', hheader', hvalue'⟩ := hother
      rw [hheader, Option.some.injEq] at hheader'
      subst hheader'
      rw [hvalue.unique hvalue']

/-- Headers that each may stand there ask for a body or for none. -/
theorem exists_asks {headers : List WrittenHeader}
    (h : ∀ header ∈ headers, header.Measured) : ∃ length, Asks headers length := by
  cases hheader : lengthHeader? headers with
  | none => exact ⟨none, hheader⟩
  | some header =>
    have hmem := List.mem_filter.mp (List.mem_of_getLast? hheader)
    obtain ⟨count, -, hvalue⟩ := h header hmem.1 (of_decide_eq_true hmem.2)
    exact ⟨some count, header, hheader, hvalue⟩

namespace FrameHead

def none : FrameHead := ⟨[], [], by simp⟩

def addSeparator (head : FrameHead) (ending : LineEnding) : FrameHead :=
  { head with separators := head.separators ++ [ending] }

def addHeader (head : FrameHead) (header : WrittenHeader) (h : header.Measured) : FrameHead where
  separators := head.separators
  headers := head.headers ++ [header]
  measured := by
    intro other hother
    rcases List.mem_append.mp hother with hold | hnew
    · exact head.measured other hold
    · rw [List.mem_singleton.mp hnew]
      exact h

theorem bytes_eq (head : FrameHead) : head.bytes =
    Text.codes (String.ofList (head.separators.flatMap LineEnding.chars)) ++
      Text.codes (String.ofList (head.headers.flatMap WrittenHeader.chars)) := by
  rw [bytes, chars, String.ofList_append, Text.codes_append]

theorem bytes_eq_flatMap (head : FrameHead) : head.bytes =
    head.separators.flatMap LineEnding.bytes ++ head.headers.flatMap WrittenHeader.bytes := by
  rw [bytes_eq, Text.codes_flatMap, Text.codes_flatMap]
  rfl

theorem bytes_addSeparator {head : FrameHead} (h : head.headers = []) (ending : LineEnding) :
    (head.addSeparator ending).bytes = head.bytes ++ ending.bytes := by
  have hchars : (head.addSeparator ending).chars = head.chars ++ ending.chars := by
    simp [addSeparator, chars, h]
  rw [bytes, hchars, String.ofList_append, Text.codes_append, bytes, LineEnding.bytes]

theorem bytes_addHeader (head : FrameHead) (header : WrittenHeader) (h : header.Measured) :
    (head.addHeader header h).bytes = head.bytes ++ header.bytes := by
  have hchars : (head.addHeader header h).chars = head.chars ++ header.chars := by
    simp [addHeader, chars]
  rw [bytes, hchars, String.ofList_append, Text.codes_append, bytes, WrittenHeader.bytes]

theorem pairs_addHeader (head : FrameHead) (header : WrittenHeader) (h : header.Measured) :
    (head.addHeader header h).pairs = head.pairs ++ [header.pair] := by
  simp [addHeader, pairs]

theorem pairs_eq_nil {head : FrameHead} : head.pairs = [] ↔ head.headers = [] := by
  simp [pairs]

end FrameHead

end EventSocket
