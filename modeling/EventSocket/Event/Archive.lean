import EventSocket.Document
import EventSocket.Event.Basic

/-!
Events as structured documents, for keeping and for passing on. Reading checks the shape of a
document and nothing about its content.
-/

namespace EventSocket.Event

def toDocument (event : Event) : Document :=
  .record [
    ("event_type", (event.eventType.map Document.ofTerm).getD .null),
    ("headers", .record (event.headers.toList.map fun header => (header.1, .text header.2))),
    ("body", .list (event.body.map .text))]

def eventTypeOf? : Document → Option (Option EventType)
  | .null => some none
  | document => (document.term? : Option EventType).map some

def headersOf? (document : Document) : Option Fields := do
  let fields ← document.fields?
  let headers ← fields.mapM fun field => field.2.text?.map (field.1, ·)
  return Fields.ofList headers

def bodyOf? (document : Document) : Option (List String) := do
  let items ← document.items?
  items.mapM Document.text?

def ofParts? (eventType headers body : Document) : Option Event := do
  return {
    eventType := ← eventTypeOf? eventType
    headers := ← headersOf? headers
    body := ← bodyOf? body }

/-- Reads a record with the three parts, of which the type may be missing, or their bare list. -/
def ofDocument? : Document → Option Event
  | .record fields => do
    let eventType ← Document.field? "event_type" fields
    let headers ← (Document.field? "headers" fields).join
    let body ← (Document.field? "body" fields).join
    ofParts? (eventType.getD .null) headers body
  | .list [eventType, headers, body] => ofParts? eventType headers body
  | _ => none

end EventSocket.Event
