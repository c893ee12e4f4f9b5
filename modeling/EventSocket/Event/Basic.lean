import EventSocket.Event.HeaderName
import EventSocket.Event.Kind
import EventSocket.Fault
import EventSocket.Fields
import EventSocket.Text.Lines

/-!
Events: what the switch reports unasked. An event has named values and a body of lines; its type is
read off its name.
-/

namespace EventSocket

/-- `eventType` is absent when the name is none of the table's. -/
structure Event where
  eventType : Option EventType
  headers : Fields
  body : List String
  deriving DecidableEq

namespace Event

def nameHeader : String := EventHeader.eventName.word

def ofType (eventType : EventType) : Event where
  eventType := some eventType
  headers := Fields.empty.set nameHeader eventType.word
  body := []

/-- An event needs a name that is not empty. -/
def ofFields (headers : Fields) (body : List String) : Except Fault Event :=
  match headers.get? nameHeader with
  | none => .error (.missingHeader nameHeader)
  | some name =>
    if name.isEmpty then .error (.missingHeader nameHeader)
    else .ok { eventType := Term.parse? name, headers, body }

def header? (event : Event) (name : String) : Option String := event.headers.get? name

def requireHeader (event : Event) (name : String) : Except Fault String :=
  match event.header? name with
  | some value => .ok value
  | none => .error (.missingHeader name)

def name (event : Event) : String := (event.header? nameHeader).getD ""

def isType (event : Event) (eventType : EventType) : Bool := event.eventType == some eventType

def isBackgroundJob (event : Event) : Bool := event.isType .backgroundJob

/-- Sets a value; a new name brings its type along. -/
def setHeader (event : Event) (name value : String) : Event :=
  { event with
    eventType := if name = nameHeader then Term.parse? value else event.eventType
    headers := event.headers.set name value }

def setBody (event : Event) (body : List String) : Event := { event with body }

def channelVariable? (event : Event) (name : String) : Option String :=
  event.header? ("variable_" ++ name)

def bodyText? (event : Event) : Option String :=
  if event.body.isEmpty then none else some (Text.joinLines event.body)

def summary (event : Event) : String :=
  "EslEvent: name=[" ++ event.name ++ "] headers=" ++ toString event.headers.size ++
    ", body=" ++ toString event.body.length ++ " lines"

/-- The same type, the same values under the same names, the same body. -/
def agrees (left right : Event) : Bool :=
  left.eventType == right.eventType && left.headers.agrees right.headers && left.body == right.body

end Event

end EventSocket
