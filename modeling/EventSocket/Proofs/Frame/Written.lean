import EventSocket.Frame.Decoder
import EventSocket.Proofs.Text.Bytes
import EventSocket.Proofs.Text.Numerals
import EventSocket.Proofs.Text.Trimming

/-!
Frames as they are written: header lines with blanks wherever these do not count, lines that end in
either way, blank lines between frames, and a body of which one header gives the length.
-/

namespace EventSocket

inductive LineEnding where
  | feed
  | returnFeed
  deriving DecidableEq

/-- What stands before the line feed. -/
def LineEnding.mark : LineEnding → List Char
  | feed => []
  | returnFeed => ['\r']

def LineEnding.chars (ending : LineEnding) : List Char := ending.mark ++ ['\n']

structure Blanks where
  chars : List Char
  blank : ∀ c ∈ chars, Text.isBlank c
  oneLine : '\n' ∉ chars

def Blanks.none : Blanks := ⟨[], by simp, by simp⟩

def Blanks.space : Blanks := ⟨[' '], by simp [Text.isBlank], by decide⟩

theorem Blanks.noColon (blanks : Blanks) : ':' ∉ blanks.chars :=
  fun h => absurd (blanks.blank ':' h) (by decide)

/-- A header line. Name and value have no blanks at their ends; those around them are extra. -/
structure WrittenHeader where
  name : String
  value : String
  beforeName : Blanks
  afterName : Blanks
  beforeValue : Blanks
  afterValue : Blanks
  ending : LineEnding
  name_ne : name ≠ ""
  name_trim : Text.trim name = name
  name_oneLine : '\n' ∉ name.toList
  name_noColon : ':' ∉ name.toList
  value_trim : Text.trim value = value
  value_oneLine : '\n' ∉ value.toList

namespace WrittenHeader

def pair (header : WrittenHeader) : String × String := (header.name, header.value)

def nameChars (header : WrittenHeader) : List Char :=
  header.beforeName.chars ++ header.name.toList ++ header.afterName.chars

def valueChars (header : WrittenHeader) : List Char :=
  header.beforeValue.chars ++ header.value.toList ++ header.afterValue.chars

def lineChars (header : WrittenHeader) : List Char := header.nameChars ++ ':' :: header.valueChars

def chars (header : WrittenHeader) : List Char := header.lineChars ++ header.ending.chars

end WrittenHeader

/-- A body comes with one header that gives its length in bytes; without a body no header does. -/
def Announces (headers : List WrittenHeader) : Option String → Prop
  | none => ∀ header ∈ headers, header.name ≠ contentLengthName
  | some body =>
    body.utf8ByteSize ≤ bodyLimit ∧
      ∃ before header after, headers = before ++ header :: after ∧
        header.name = contentLengthName ∧ Text.Numeral header.value body.utf8ByteSize ∧
        ∀ other ∈ before ++ after, other.name ≠ contentLengthName

/-- A frame with the blank lines before it and the blank line behind its headers. -/
structure WrittenFrame where
  separators : List LineEnding
  headers : List WrittenHeader
  closing : LineEnding
  body : Option String
  headers_ne : headers ≠ []
  announced : Announces headers body

namespace WrittenFrame

def chars (frame : WrittenFrame) : List Char :=
  frame.separators.flatMap LineEnding.chars ++ frame.headers.flatMap WrittenHeader.chars ++
    frame.closing.chars ++ (frame.body.getD "").toList

def bytes (frame : WrittenFrame) : List UInt8 := Text.codes (String.ofList frame.chars)

/-- The frame that is meant. -/
def frame (frame : WrittenFrame) : Frame :=
  Frame.ofHeaders (frame.headers.map WrittenHeader.pair) ((frame.body.map Text.lines).getD [])

end WrittenFrame

/-- A frame with a body that looks like a frame itself. -/
def WrittenFrame.nested : WrittenFrame where
  separators := [.returnFeed, .feed]
  headers := [
    ⟨"Content-Type", "api/response", .none, .space, .space, .none, .feed, by decide, by decide,
      by decide, by decide, by decide, by decide⟩,
    ⟨contentLengthName, "+012", .space, .none, .none, .space, .returnFeed, by decide, by decide,
      by decide, by decide, by decide, by decide⟩]
  closing := .returnFeed
  body := some "\nÄ: b\r\n\r\nC:"
  headers_ne := by simp
  announced := ⟨by decide, [_], _, [], rfl, rfl,
    ⟨['0', '1', '2'], by decide, by simp, by decide, by decide⟩, by decide⟩

/-! What the decoder makes of one line. -/

theorem splitColon_cons {name : List Char} (h : ':' ∉ name) (value : List Char) :
    splitColon (name ++ ':' :: value) = some (name, value) := by
  have hname : ∀ c ∈ name, (c != ':') = true := fun c hc => by
    simpa using fun e : c = ':' => h (e ▸ hc)
  simp [splitColon, List.dropWhile_append_of_pos hname, List.takeWhile_append_of_pos hname]

theorem headerOfLine_cons {name : List Char} (hcolon : ':' ∉ name)
    (hname : Text.trimChars name ≠ []) (value : List Char) :
    headerOfLine (String.ofList (name ++ ':' :: value)) =
      .ok (String.ofList (Text.trimChars name), String.ofList (Text.trimChars value)) := by
  simp [headerOfLine, splitColon_cons hcolon, hname]

namespace WrittenHeader

theorem trimChars_nameChars (header : WrittenHeader) :
    Text.trimChars header.nameChars = header.name.toList :=
  Text.trimChars_between header.beforeName.blank header.afterName.blank
    (Text.trimChars_toList header.name_trim)

theorem trimChars_valueChars (header : WrittenHeader) :
    Text.trimChars header.valueChars = header.value.toList :=
  Text.trimChars_between header.beforeValue.blank header.afterValue.blank
    (Text.trimChars_toList header.value_trim)

theorem nameChars_noColon (header : WrittenHeader) : ':' ∉ header.nameChars := by
  simp [nameChars, header.beforeName.noColon, header.afterName.noColon, header.name_noColon]

theorem lineChars_oneLine (header : WrittenHeader) : '\n' ∉ header.lineChars := by
  simp [lineChars, nameChars, valueChars, header.beforeName.oneLine, header.afterName.oneLine,
    header.beforeValue.oneLine, header.afterValue.oneLine, header.name_oneLine,
    header.value_oneLine]

/-- The line as the decoder sees it, without the carriage return of its ending or of its blanks. -/
theorem withoutReturn_line (header : WrittenHeader) :
    ∃ value, Text.withoutReturn (header.lineChars ++ header.ending.mark) =
        header.nameChars ++ ':' :: value ∧
      Text.trimChars value = header.value.toList := by
  refine ⟨Text.withoutReturn (header.valueChars ++ header.ending.mark), ?_, ?_⟩
  · rw [lineChars, List.append_assoc, List.cons_append]
    exact Text.withoutReturn_append_cons _ (by decide) _
  · have hmark : ∀ c ∈ header.ending.mark, Text.isBlank c := by
      cases header.ending <;> simp [LineEnding.mark, Text.isBlank]
    rw [Text.trimChars_withoutReturn, Text.trimChars_append_blank hmark, trimChars_valueChars]

theorem headerOfLine_line (header : WrittenHeader) :
    headerOfLine (Text.dropReturn (String.ofList (header.lineChars ++ header.ending.mark))) =
      .ok header.pair := by
  obtain ⟨value, hline, hvalue⟩ := header.withoutReturn_line
  have hname : Text.trimChars header.nameChars ≠ [] := by
    rw [trimChars_nameChars]
    simpa using header.name_ne
  rw [Text.dropReturn_ofList, hline, headerOfLine_cons header.nameChars_noColon hname, hvalue,
    trimChars_nameChars]
  simp [pair]

theorem dropReturn_line_ne (header : WrittenHeader) :
    Text.dropReturn (String.ofList (header.lineChars ++ header.ending.mark)) ≠ "" := by
  obtain ⟨value, hline, -⟩ := header.withoutReturn_line
  rw [Text.dropReturn_ofList, hline]
  simp

end WrittenHeader

namespace Decoder

theorem readHeaderLine_of_ne {read : Array (String × String)} {length : Option Nat}
    {line name value : String} (h : headerOfLine line = .ok (name, value))
    (hname : name ≠ contentLengthName) :
    readHeaderLine read length line = .ok (.headers (read.push (name, value)) length) := by
  simp [readHeaderLine, h, hname, bind, Except.bind, pure, Except.pure]

theorem readHeaderLine_of_length {read : Array (String × String)} {length : Option Nat}
    {line value : String} {count : Nat} (h : headerOfLine line = .ok (contentLengthName, value))
    (hcount : announcedLength value = .ok count) :
    readHeaderLine read length line =
      .ok (.headers (read.push (contentLengthName, value)) (some count)) := by
  simp [readHeaderLine, h, hcount, bind, Except.bind, pure, Except.pure]

end Decoder

theorem announcedLength_of_numeral {value : String} {count : Nat} (h : Text.Numeral value count)
    (hcount : count ≤ bodyLimit) : announcedLength value = .ok count := by
  have hlimit : count < lengthLimit := Nat.lt_of_le_of_lt hcount (by decide)
  simp [announcedLength, Text.natural?_of_numeral h hlimit, Nat.not_lt.mpr hcount]

end EventSocket
