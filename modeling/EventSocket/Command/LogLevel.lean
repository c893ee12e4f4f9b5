import EventSocket.Term

/-!
Levels of the switch's log.
-/

namespace EventSocket

/-- Log levels, most severe first. -/
inductive LogLevel where
  | console | alert | crit | error | warning | notice | info | debug
  deriving DecidableEq

namespace LogLevel

def word : LogLevel → String
  | .console => "CONSOLE"
  | .alert => "ALERT"
  | .crit => "CRIT"
  | .error => "ERR"
  | .warning => "WARNING"
  | .notice => "NOTICE"
  | .info => "INFO"
  | .debug => "DEBUG"

def label : LogLevel → String
  | .console => "Console"
  | .alert => "Alert"
  | .crit => "Crit"
  | .error => "Error"
  | .warning => "Warning"
  | .notice => "Notice"
  | .info => "Info"
  | .debug => "Debug"

instance : Term LogLevel where
  noun := "log level"
  terms := [
    .console, .alert, .crit, .error, .warning, .notice, .info, .debug]
  word := word
  label := label

end LogLevel

end EventSocket
