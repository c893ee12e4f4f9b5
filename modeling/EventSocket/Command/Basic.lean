import EventSocket.Channel.HangupCause
import EventSocket.Command.LogLevel
import EventSocket.Command.Sendmsg
import EventSocket.Event.Kind

/-!
Commands and the lines they are put on the wire as. A command that could be taken for more than one
is refused: no text in it may break a line.
-/

namespace EventSocket

inductive Command where
  | auth (password : String)
  | userauth (user password : String)
  | api (text : String)
  | bgapi (text : String)
  | event (format : EventFormat) (events : String)
  | nixevent (events : String)
  | noevents
  | filter (header value : String)
  | filterDelete (header : String) (value : Option String)
  | log (level : LogLevel)
  | nolog
  | exit
  | connect
  | myevents (format : EventFormat) (leg : Option String)
  | linger (seconds : Option Nat)
  | nolinger
  | resume
  | divertEvents (on : Bool)
  | getvar (name : String)
  | sendmsg (message : Sendmsg)
  | hangup (leg : Option String) (cause : HangupCause)
  deriving DecidableEq

namespace Command

def verb : Command → String
  | auth _ => "auth"
  | userauth .. => "userauth"
  | api _ => "api"
  | bgapi _ => "bgapi"
  | event .. => "event"
  | nixevent _ => "nixevent"
  | noevents => "noevents"
  | filter .. | filterDelete .. => "filter"
  | log _ => "log"
  | nolog => "nolog"
  | exit => "exit"
  | connect => "connect"
  | myevents .. => "myevents"
  | linger _ => "linger"
  | nolinger => "nolinger"
  | resume => "resume"
  | divertEvents _ => "divert_events"
  | getvar _ => "getvar"
  | sendmsg _ | hangup .. => "sendmsg"

def line (words : List String) : List String := [" ".intercalate words]

/-- A text that has to say something, on one line. -/
def checkWord (field text : String) : Except CommandFault Unit := do
  checkFilled field text
  checkLine field text

def lines : Command → Except CommandFault (List String)
  | auth password => do
    checkLine "password" password
    return line ["auth", password]
  | userauth user password => do
    checkLine "user" user
    checkLine "password" password
    return line ["userauth", user ++ ":" ++ password]
  | api text => do
    checkWord "api command" text
    return line ["api", text]
  | bgapi text => do
    checkWord "bgapi command" text
    return line ["bgapi", text]
  | event format events => do
    checkWord "event list" events
    return line ["event", format.word, events]
  | nixevent events => do
    checkWord "nixevent list" events
    return line ["nixevent", events]
  | noevents => return line ["noevents"]
  | filter header value => do
    checkWord "filter header" header
    checkLine "filter value" value
    return line ["filter", header, value]
  | filterDelete header value => do
    checkWord "filter delete header" header
    value.forM (checkLine "filter delete value")
    return line (["filter", "delete", header] ++ value.toList)
  | log level => return line ["log", level.word]
  | nolog => return line ["nolog"]
  | exit => return line ["exit"]
  | connect => return line ["connect"]
  | myevents format leg => do
    leg.forM (checkLine "myevents uuid")
    return line (["myevents"] ++ leg.toList ++ [format.word])
  | linger seconds => return line (["linger"] ++ (seconds.map toString).toList)
  | nolinger => return line ["nolinger"]
  | resume => return line ["resume"]
  | divertEvents on => return line ["divert_events", if on then "on" else "off"]
  | getvar name => do
    checkWord "getvar name" name
    return line ["getvar", name]
  | sendmsg message => message.lines
  | hangup leg cause => do
    let head ← Sendmsg.headLine leg
    return [head, "call-command: hangup", "hangup-cause: " ++ cause.word]

/-- Each line with its line feed, and the empty line that ends a command. -/
def wireOfLines (lines : List String) : String :=
  String.join (lines.map (· ++ "\n")) ++ "\n"

def wire (command : Command) : Except CommandFault String :=
  command.lines.map wireOfLines

def legSuffix (leg : Option String) : String := (leg.map (" " ++ ·)).getD ""

/-- A command in one line, credentials left out. -/
def summary : Command → String
  | auth _ => "auth [REDACTED]"
  | userauth user _ => "userauth " ++ user ++ ":[REDACTED]"
  | sendmsg message => "sendmsg" ++ legSuffix message.target ++ " execute " ++ message.app
  | hangup leg cause => "sendmsg" ++ legSuffix leg ++ " hangup " ++ cause.word
  | command =>
    match command.lines with
    | .ok lines => lines.headD ""
    | .error _ => "<invalid command>"

def record : Command → String
  | auth _ => "Auth \x7b password: \"[REDACTED]\" \x7d"
  | userauth user _ =>
    "UserAuth \x7b user: " ++ Text.quoted user ++ ", password: \"[REDACTED]\" \x7d"
  | command => command.summary

end Command

end EventSocket
