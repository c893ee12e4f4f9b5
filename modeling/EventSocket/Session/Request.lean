import EventSocket.Command.Basic
import EventSocket.Command.Response
import EventSocket.Session.State

/-!
What callers ask of a session, and what they are told in the end. Events are read in the plain form
only, so a request for any other is refused before anything is sent.
-/

namespace EventSocket

inductive Request where
  /-- Sends a command; any response will do. -/
  | submit (command : Command)
  /-- Sends a message; the response has to be a good one. -/
  | execute (message : Sendmsg)
  /-- Sends a command of which only the success counts. -/
  | confirm (command : Command)
  | background (text : String)
  | value (name : String)
  /-- Takes leave and waits for the end. -/
  | close
  /-- Ends the own stream without taking leave. -/
  | disconnect
  | waitClosed
  deriving DecidableEq

inductive Answer where
  | response (response : Response)
  | job (uuid : Uuid)
  | value (text : String)
  | ended (reason : EndReason)
  | done
  deriving DecidableEq

namespace Request

def api (text : String) : Request := submit (.api text)

def events (format : EventFormat) (names : String) : Request := confirm (.event format names)

def eventNames (types : List EventType) : String := " ".intercalate (types.map EventType.word)

def subscribe (format : EventFormat) (types : List EventType) : Request :=
  events format (eventNames types)

def unsubscribe (types : List EventType) : Request := confirm (.nixevent (eventNames types))

def noEvents : Request := confirm .noevents

def filter (header value : String) : Request := confirm (.filter header value)

def filterDelete (header : String) (value : Option String) : Request :=
  confirm (.filterDelete header value)

def hangup (leg : Option String) (cause : HangupCause) : Request := confirm (.hangup leg cause)

def log (level : LogLevel) : Request := confirm (.log level)

def noLog : Request := confirm .nolog

def myEvents (format : EventFormat) (leg : Option String) : Request :=
  confirm (.myevents format leg)

def linger (seconds : Option Nat) : Request := confirm (.linger seconds)

def noLinger : Request := confirm .nolinger

def resume : Request := confirm .resume

def divertEvents (on : Bool) : Request := confirm (.divertEvents on)

def command? : Request → Option Command
  | submit command | confirm command => some command
  | execute message => some (.sendmsg message)
  | background text => some (.bgapi text)
  | value name => some (.getvar name)
  | close => some .exit
  | disconnect | waitClosed => none

/-- The fault of a request for events in a form that is not read. -/
def refusal? : Request → Option Fault
  | confirm (.event format _) | confirm (.myevents format _) =>
    if format = .plain then none else some (.unsupportedEventFormat format.word)
  | _ => none

/-- What the response to its command means for a request. -/
def answer (request : Request) (response : Response) : Except Fault Answer :=
  match request with
  | submit _ => .ok (.response response)
  | execute _ => response.accept.map .response
  | background _ => do
    let accepted ← response.accept
    return .job (← accepted.jobUuid)
  | value _ => .ok (.value (response.replyText?.getD ""))
  | confirm _ => response.accept.map fun _ => .done
  | close | disconnect | waitClosed => .ok .done

end Request

end EventSocket
