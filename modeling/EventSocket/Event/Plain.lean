import EventSocket.Event.Basic
import EventSocket.Frame.Decoder
import EventSocket.Text.Percent

/-!
The plain form of events: one `Name: value` line per header with the value percent-coded, and after
a `Content-Length` header the lines of the body.
-/

namespace EventSocket.Event

/-- Reads header lines up to and including the first of the length; gives the lines after it. -/
def readHead (headers : Fields) : List String → Except Fault (Fields × List String)
  | [] => .ok (headers, [])
  | line :: rest =>
    if line.isEmpty then readHead headers rest
    else
      match headerOfLine line with
      | .error fault => .error fault
      | .ok (name, value) =>
        let headers := headers.set name (Text.percentDecode value)
        if name = contentLengthName then .ok (headers, rest) else readHead headers rest

/-- Reads the plain form. Empty lines are skipped in the head and in the body. -/
def ofLines (lines : List String) : Except Fault Event :=
  match readHead Fields.empty lines with
  | .error fault => .error fault
  | .ok (headers, rest) => ofFields headers (rest.filter fun line => !line.isEmpty)

/-- The event that a frame carries. Only the plain form is read. -/
def ofFrame (frame : Frame) : Except Fault Event :=
  match frame.contentType? with
  | none => .error (.missingHeader contentTypeName)
  | some contentType =>
    if contentType = "text/event-plain" then ofLines frame.body
    else .error (.unsupportedContentType contentType)

/-- The event that stands in the header block of a frame itself. -/
def ofChannelData (frame : Frame) : Except Fault Event :=
  ofFields (frame.headers.mapValues Text.percentDecode) frame.body

def headerLine (header : String × String) : String :=
  header.1 ++ ": " ++ Text.percentEncode header.2 ++ "\n"

/-- The headers that the plain form lists by name: neither the event's name nor the length. -/
def listedHeaders (event : Event) : List (String × String) :=
  (event.headers.toList.filter fun header =>
    header.1 != nameHeader && header.1 != contentLengthName).mergeSort
      fun left right => decide (left.1 ≤ right.1)

def plainBody (event : Event) : String := String.join (event.body.map (· ++ "\n"))

/-- Writes the plain form: the name, the other headers in order of their names, and the length and
the lines of the body if there is one. -/
def plainText (event : Event) : String :=
  let head :=
    headerLine (nameHeader, event.name) ++ String.join (event.listedHeaders.map headerLine)
  if event.body.isEmpty then head
  else
    let body := event.plainBody
    head ++ contentLengthName ++ ": " ++ toString body.utf8ByteSize ++ "\n\n" ++ body

end EventSocket.Event
