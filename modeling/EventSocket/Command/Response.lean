import EventSocket.Event.HeaderName
import EventSocket.Fault
import EventSocket.Frame.Basic
import EventSocket.Uuid

/-!
Answers to commands. Most begin with `+OK` or `-ERR`; a few are a bare value.
-/

namespace EventSocket

/-- Commands are numbered in the order in which they are submitted. -/
structure CommandId where
  value : Nat
  deriving DecidableEq

def CommandId.first : CommandId := ⟨1⟩

def CommandId.next (id : CommandId) : CommandId := ⟨id.value + 1⟩

def CommandId.successive (id : CommandId) : Nat → List CommandId
  | 0 => []
  | count + 1 => id :: id.next.successive count

def CommandId.text (id : CommandId) : String := "#" ++ toString id.value

inductive ReplyStatus where
  | ok | err | other
  deriving DecidableEq

def ReplyStatus.label : ReplyStatus → String
  | ok => "Ok"
  | err => "Err"
  | other => "Other"

def okMark : String := "+OK"

def errMark : String := "-ERR"

def beginsWith (mark text : String) : Bool := mark.toList.isPrefixOf text.toList

/-- A reply without a text is a good one. -/
def ReplyStatus.ofReplyText? (replyText : Option String) : ReplyStatus :=
  match replyText with
  | none => ok
  | some text =>
    if text.isEmpty then ok
    else if beginsWith okMark text then ok
    else if beginsWith errMark text then err
    else other

/-- `command` is the command in one line. -/
structure Response where
  command : String
  id : CommandId
  frame : Frame
  deriving DecidableEq

namespace Response

def replyText? (response : Response) : Option String := response.frame.replyText?

def status (response : Response) : ReplyStatus := .ofReplyText? response.replyText?

def isSuccess (response : Response) : Bool := response.status = .ok

def accept (response : Response) : Except Fault Response :=
  match response.status with
  | .ok => .ok response
  | .err => .error (.commandFailed (response.replyText?.getD errMark))
  | .other => .error (.unexpectedReply (response.replyText?.getD ""))

def jobUuid (response : Response) : Except Fault Uuid :=
  let name := EventHeader.jobUuid.word
  match response.frame.header? name with
  | none => .error (.missingHeader name)
  | some text =>
    match Uuid.ofText? text with
    | some uuid => .ok uuid
    | none => .error (.invalidHeaderValue name text)

end Response

end EventSocket
