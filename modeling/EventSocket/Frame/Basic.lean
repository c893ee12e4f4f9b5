import EventSocket.Fields
import EventSocket.Text.Lines
import EventSocket.Text.Numeral
import EventSocket.Text.Quoted

/-!
Frames: what the switch sends, one block of headers and a body of lines at a time.
-/

namespace EventSocket

def contentTypeName : String := "Content-Type"

def contentLengthName : String := "Content-Length"

def replyTextName : String := "Reply-Text"

def contentDispositionName : String := "Content-Disposition"

/-- Lengths in a header are words of 64 bits. -/
def lengthLimit : Nat := Nat.pow 2 64

inductive FrameKind where
  | authRequest
  | commandReply
  | apiResponse
  | event
  | disconnectNotice
  | logData
  | other (contentType : String)
  deriving DecidableEq

namespace FrameKind

def ofContentType (contentType : String) : FrameKind :=
  if contentType = "auth/request" then authRequest
  else if contentType = "command/reply" then commandReply
  else if contentType = "api/response" then apiResponse
  else if contentType = "text/event-plain" then event
  else if contentType = "text/event-json" then event
  else if contentType = "text/event-xml" then event
  else if contentType = "text/disconnect-notice" then disconnectNotice
  else if contentType = "log/data" then logData
  else other contentType

def isReply : FrameKind → Bool
  | commandReply | apiResponse => true
  | _ => false

end FrameKind

structure Frame where
  headers : Fields
  body : List String
  deriving DecidableEq

namespace Frame

/-- Of several headers with one name the last gives the value and the first the place. -/
def ofHeaders (headers : List (String × String)) (body : List String) : Frame :=
  ⟨Fields.ofList headers, body⟩

def header? (frame : Frame) (name : String) : Option String := frame.headers.get? name

def contentType? (frame : Frame) : Option String := frame.header? contentTypeName

def contentLength? (frame : Frame) : Option Nat :=
  (frame.header? contentLengthName).bind (Text.natural? lengthLimit)

def replyText? (frame : Frame) : Option String := frame.header? replyTextName

def kind (frame : Frame) : FrameKind :=
  FrameKind.ofContentType (frame.contentType?.getD "")

def bodyText (frame : Frame) : String := Text.joinLines frame.body

def summary (frame : Frame) : String :=
  "EslMessage: content-type=[" ++ frame.contentType?.getD "<none>" ++ "] headers=" ++
    toString frame.headers.size ++ ", body=" ++ toString frame.body.length ++ " lines"

def quotedOption : Option String → String
  | some text => "Some(" ++ Text.quoted text ++ ")"
  | none => "None"

def record (frame : Frame) : String :=
  "EslMessage \x7b content_type: " ++ quotedOption frame.contentType? ++ ", headers: " ++
    toString frame.headers.size ++ ", body_lines: " ++ toString frame.body.length ++ " \x7d"

end Frame

end EventSocket
