import EventSocket.Channel.HangupCause
import EventSocket.Channel.State
import EventSocket.Event.Basic
import EventSocket.Text.Numeral
import EventSocket.Uuid

/-!
Typed questions about events. A header that has to be there and is not, and one whose value cannot
be read, are different faults.
-/

namespace EventSocket

def ChannelState.ofNumber? (number : Nat) : Option ChannelState :=
  (Term.terms : List ChannelState)[number]?

def ChannelState.number (state : ChannelState) : Nat :=
  (Term.terms : List ChannelState).idxOf state

namespace Event

def value? (event : Event) (header : EventHeader) : Option String := event.header? header.word

def require {α : Type} (event : Event) (header : EventHeader) (read? : String → Option α) :
    Except Fault α :=
  match event.requireHeader header.word with
  | .error fault => .error fault
  | .ok text =>
    match read? text with
    | some value => .ok value
    | none => .error (.invalidHeaderValue header.word text)

def singleChar? (text : String) : Option Char :=
  match text.toList with
  | [c] => some c
  | _ => none

def uniqueId (event : Event) := event.require .uniqueId Uuid.ofText?

def callerUniqueId (event : Event) := event.require .callerUniqueId Uuid.ofText?

def jobUuid (event : Event) := event.require .jobUuid Uuid.ofText?

def coreUuid (event : Event) := event.require .coreUuid Uuid.ofText?

def timestamp (event : Event) := event.require .eventDateTimestamp (Text.integer? (Nat.pow 2 63))

def channelState (event : Event) : Except Fault ChannelState :=
  event.require .channelState Term.parse?

def channelStateByNumber (event : Event) : Except Fault ChannelState :=
  event.require .channelStateNumber fun text =>
    (Text.natural? 256 text).bind ChannelState.ofNumber?

def callState (event : Event) : Except Fault CallState :=
  event.require .channelCallState Term.parse?

def answerState (event : Event) : Except Fault AnswerState :=
  event.require .answerState Term.parse?

def callDirection (event : Event) : Except Fault CallDirection :=
  event.require .callDirection Term.parse?

def hangupCause (event : Event) : Except Fault HangupCause :=
  event.require .hangupCause Term.parse?

def dtmfDigit (event : Event) := event.require .dtmfDigit singleChar?

def dtmfDuration (event : Event) := event.require .dtmfDuration (Text.natural? (Nat.pow 2 64))

/-- The dialled number: that of the channel, or else that of the caller. -/
def destinationNumber? (event : Event) : Option String :=
  (event.value? .channelDestinationNumber).or (event.value? .callerDestinationNumber)

end Event

end EventSocket
