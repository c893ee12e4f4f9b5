import EventSocket.Api.Variables
import EventSocket.Span
import EventSocket.Uuid

/-!
API commands: a word and an argument, as the commands `api` and `bgapi` take them.
-/

namespace EventSocket

structure ApiCommand where
  word : String
  argument : String
  deriving DecidableEq

def ApiCommand.text (command : ApiCommand) : String :=
  if command.argument.isEmpty then command.word else command.word ++ " " ++ command.argument

/-- Where a new leg goes once it is answered. -/
inductive OriginateTarget where
  | application (name : String) (argument : Option String)
  | extension (number : String) (dialplan context : Option String)
  deriving DecidableEq

/-- A context counts only together with a dialplan. -/
def OriginateTarget.text : OriginateTarget → String
  | application name argument => "&" ++ name ++ "(" ++ argument.getD "" ++ ")"
  | extension number none _ => number
  | extension number (some dialplan) none => number ++ " " ++ dialplan
  | extension number (some dialplan) (some context) =>
    number ++ " " ++ dialplan ++ " " ++ context

/-- Setting up a new leg, which can be named in advance and can be asked to report at intervals. -/
structure Originate where
  dialString : String
  target : OriginateTarget
  values : Variables
  leg : Option Uuid
  heartbeat : Option Span
  deriving DecidableEq

namespace Originate

def new (dialString : String) (target : OriginateTarget) : Originate :=
  ⟨dialString, target, Variables.empty, none, none⟩

def setVariable (originate : Originate) (name value : String) : Except CommandFault Originate := do
  return { originate with values := ← originate.values.set name value }

/-- The variables that the builder itself gives a value. -/
def ownFields (originate : Originate) : List (String × String) :=
  (originate.leg.map fun leg => ("origination_uuid", leg.text)).toList ++
    [("ignore_early_media", "true")] ++
    (originate.heartbeat.map fun every =>
      ("enable_heartbeat_events", toString every.seconds)).toList

/-- The caller's variables, with the builder's own set over them. -/
def allVariables (originate : Originate) : Variables where
  fields := originate.ownFields.foldl (fun fields field => fields.set field.1 field.2)
    originate.values.fields

def argument (originate : Originate) : String :=
  originate.allVariables.text ++ originate.dialString ++ " " ++ originate.target.text

def command (originate : Originate) : ApiCommand := ⟨"originate", originate.argument⟩

end Originate

def getVariableCommand (leg : Uuid) (name : String) : ApiCommand :=
  ⟨"uuid_getvar", leg.text ++ " " ++ name⟩

/-- Without a value the variable is taken away. -/
def setVariableCommand (leg : Uuid) (name : String) (value : Option String) : ApiCommand :=
  ⟨"uuid_setvar", leg.text ++ " " ++ name ++ (value.map (" " ++ ·)).getD ""⟩

/-- When a scheduled command runs: once after a while, repeatedly, or once at a given second. -/
inductive ScheduleTime where
  | after (delay : Span)
  | every (interval : Span)
  | once (second : Nat)
  deriving DecidableEq

def ScheduleTime.text : ScheduleTime → String
  | after delay => "+" ++ toString delay.seconds
  | every interval => "@" ++ toString interval.seconds
  | once second => toString second

/-- Runs `text` later, in a thread of its own if `background` is set. -/
def scheduleCommand (time : ScheduleTime) (group text : String) (background : Bool) : ApiCommand :=
  ⟨"sched_api",
    time.text ++ " " ++ group ++ " " ++ text ++ if background then " &" else ""⟩

end EventSocket
