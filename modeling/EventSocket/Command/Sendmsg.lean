import EventSocket.Fault
import EventSocket.Text.Blank
import EventSocket.Text.Lines

/-!
Messages that run an application on a channel, and the checks that keep a text on one line.
-/

namespace EventSocket

def checkFilled (field text : String) : Except CommandFault Unit :=
  if Text.isBlankText text then .error (.empty field) else .ok ()

/-- A text that must not begin a line of its own. -/
def checkLine (field text : String) : Except CommandFault Unit :=
  if Text.hasLineBreak text then .error (.lineBreak field) else .ok ()

/-- Without a target the message goes to the channel of the socket itself. -/
structure Sendmsg where
  target : Option String
  app : String
  argument : Option String
  loops : Nat
  eventLock : Bool
  deriving DecidableEq

namespace Sendmsg

def execute (app : String) : Sendmsg := ⟨none, app, none, 1, false⟩

def headLine (target : Option String) : Except CommandFault String :=
  match target with
  | some leg => do
    checkLine "sendmsg uuid" leg
    return "sendmsg " ++ leg
  | none => return "sendmsg"

def lines (message : Sendmsg) : Except CommandFault (List String) := do
  checkFilled "execute app" message.app
  checkLine "execute app" message.app
  message.argument.forM (checkLine "execute arg")
  let head ← headLine message.target
  return [
    head,
    "call-command: execute",
    "execute-app-name: " ++ message.app,
    "execute-app-arg: " ++ message.argument.getD "",
    "loops: " ++ toString message.loops] ++
      if message.eventLock then ["event-lock: true"] else []

end Sendmsg

end EventSocket
