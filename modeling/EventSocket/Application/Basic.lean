import EventSocket.Api.Variables
import EventSocket.Application.Say
import EventSocket.Channel.HangupCause
import EventSocket.Command.Sendmsg
import EventSocket.Span

/-!
Applications that a channel can be told to run, each with the argument text it takes.
-/

namespace EventSocket

/-- Collecting digits: a prompt is played, and played again while too few digits are pressed. -/
structure DigitPrompt where
  least : Nat
  most : Nat
  tries : Nat
  timeout : Span
  terminators : String
  file : String
  invalidFile : String
  variableName : String
  pattern : String
  digitTimeout : Span
  deriving DecidableEq

namespace DigitPrompt

def limit : Nat := 128

def new (file variableName : String) : DigitPrompt where
  least := 0
  most := limit
  tries := 1
  timeout := .ofMilliseconds 5000
  terminators := "#"
  file := file
  invalidFile := "silence_stream://150"
  variableName := variableName
  pattern := "\\d+"
  digitTimeout := .ofMilliseconds 2000

def setDigits (prompt : DigitPrompt) (least most : Nat) : Except CommandFault DigitPrompt :=
  if least > most || most > limit then .error (.digitRange least most limit)
  else .ok { prompt with least, most }

def argument (prompt : DigitPrompt) : String :=
  " ".intercalate [
    toString prompt.least, toString prompt.most, toString prompt.tries,
    toString prompt.timeout.milliseconds, "'" ++ prompt.terminators ++ "'",
    "'" ++ prompt.file ++ "'", prompt.invalidFile, prompt.variableName, prompt.pattern,
    toString prompt.digitTimeout.milliseconds]

end DigitPrompt

/-- Times are in seconds, and no time limit is zero. -/
structure Recording where
  path : String
  timeLimit : Nat
  silenceThreshold : Nat
  silenceHits : Nat
  deriving DecidableEq

def Recording.new (path : String) : Recording := ⟨path, 0, 0, 3⟩

structure Playback where
  file : String
  values : Variables
  loops : Nat
  deriving DecidableEq

def Playback.new (file : String) : Playback := ⟨file, Variables.empty, 1⟩

structure Say where
  language : String
  sayType : SayType
  method : SayMethod
  gender : SayGender
  text : String
  deriving DecidableEq

structure Speak where
  engine : String
  voice : String
  text : String
  timer : Option String
  deriving DecidableEq

def Speak.new (text : String) : Speak := ⟨"flite", "kal", text, none⟩

inductive Application where
  | answer
  | park
  | preAnswer
  | hangup (cause : HangupCause)
  | playback (settings : Playback)
  | playAndGetDigits (prompt : DigitPrompt)
  | record (settings : Recording)
  | say (settings : Say)
  | speak (settings : Speak)
  | sleep (time : Span)
  | set (name value : String)
  | raw (name : String) (argument : Option String)
  deriving DecidableEq

namespace Application

def defaultCause : HangupCause := .normalClearing

def name : Application → String
  | answer => "answer"
  | park => "park"
  | preAnswer => "pre_answer"
  | hangup _ => "hangup"
  | playback _ => "playback"
  | playAndGetDigits _ => "play_and_get_digits"
  | record _ => "record"
  | say _ => "say"
  | speak _ => "speak"
  | sleep _ => "sleep"
  | set .. => "set"
  | raw name _ => name

def argument? : Application → Option String
  | answer | park | preAnswer => none
  | hangup cause => some cause.word
  | playback settings => some (settings.values.text ++ settings.file)
  | playAndGetDigits prompt => some prompt.argument
  | record settings =>
    some (" ".intercalate [settings.path, toString settings.timeLimit,
      toString settings.silenceThreshold, toString settings.silenceHits])
  | say settings =>
    some (" ".intercalate [settings.language, settings.sayType.word, settings.method.word,
      settings.gender.word, settings.text])
  | speak settings =>
    some ("|".intercalate
      ([settings.engine, settings.voice, settings.text] ++ settings.timer.toList))
  | sleep time => some (toString time.milliseconds)
  | set name value => some (name ++ "=" ++ value)
  | raw _ argument => argument

def loops : Application → Nat
  | playback settings => settings.loops
  | _ => 1

/-- The message that runs the application on the socket's own channel. -/
def toSendmsg (application : Application) : Sendmsg :=
  { Sendmsg.execute application.name with
    argument := application.argument?
    loops := application.loops }

def onLeg (application : Application) (leg : String) : Sendmsg :=
  { application.toSendmsg with target := some leg }

end Application

end EventSocket
