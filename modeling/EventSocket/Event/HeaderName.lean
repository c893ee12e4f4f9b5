import EventSocket.Term

/-!
Names of headers found inside events.
-/

namespace EventSocket

/-- Headers that events carry, as opposed to those of the frames around them. -/
inductive EventHeader where
  | eventName | eventSubclass | coreUuid | eventDateLocal | eventDateGmt | eventDateTimestamp
  | uniqueId | callerUniqueId | otherLegUniqueId | jobUuid | jobCommand | jobCommandArg
  | channelName | channelState | channelStateNumber | channelCallState | channelDestinationNumber
  | answerState | callDirection | hangupCause | callerCallerIdName | callerCallerIdNumber
  | callerDestinationNumber | callerContext | callerNetworkAddr | dtmfDigit | dtmfDuration
  deriving DecidableEq

namespace EventHeader

def word : EventHeader → String
  | .eventName => "Event-Name"
  | .eventSubclass => "Event-Subclass"
  | .coreUuid => "Core-UUID"
  | .eventDateLocal => "Event-Date-Local"
  | .eventDateGmt => "Event-Date-GMT"
  | .eventDateTimestamp => "Event-Date-Timestamp"
  | .uniqueId => "Unique-ID"
  | .callerUniqueId => "Caller-Unique-ID"
  | .otherLegUniqueId => "Other-Leg-Unique-ID"
  | .jobUuid => "Job-UUID"
  | .jobCommand => "Job-Command"
  | .jobCommandArg => "Job-Command-Arg"
  | .channelName => "Channel-Name"
  | .channelState => "Channel-State"
  | .channelStateNumber => "Channel-State-Number"
  | .channelCallState => "Channel-Call-State"
  | .channelDestinationNumber => "Channel-Destination-Number"
  | .answerState => "Answer-State"
  | .callDirection => "Call-Direction"
  | .hangupCause => "Hangup-Cause"
  | .callerCallerIdName => "Caller-Caller-ID-Name"
  | .callerCallerIdNumber => "Caller-Caller-ID-Number"
  | .callerDestinationNumber => "Caller-Destination-Number"
  | .callerContext => "Caller-Context"
  | .callerNetworkAddr => "Caller-Network-Addr"
  | .dtmfDigit => "DTMF-Digit"
  | .dtmfDuration => "DTMF-Duration"

def label : EventHeader → String
  | .eventName => "EventName"
  | .eventSubclass => "EventSubclass"
  | .coreUuid => "CoreUuid"
  | .eventDateLocal => "EventDateLocal"
  | .eventDateGmt => "EventDateGmt"
  | .eventDateTimestamp => "EventDateTimestamp"
  | .uniqueId => "UniqueId"
  | .callerUniqueId => "CallerUniqueId"
  | .otherLegUniqueId => "OtherLegUniqueId"
  | .jobUuid => "JobUuid"
  | .jobCommand => "JobCommand"
  | .jobCommandArg => "JobCommandArg"
  | .channelName => "ChannelName"
  | .channelState => "ChannelState"
  | .channelStateNumber => "ChannelStateNumber"
  | .channelCallState => "ChannelCallState"
  | .channelDestinationNumber => "ChannelDestinationNumber"
  | .answerState => "AnswerState"
  | .callDirection => "CallDirection"
  | .hangupCause => "HangupCause"
  | .callerCallerIdName => "CallerCallerIdName"
  | .callerCallerIdNumber => "CallerCallerIdNumber"
  | .callerDestinationNumber => "CallerDestinationNumber"
  | .callerContext => "CallerContext"
  | .callerNetworkAddr => "CallerNetworkAddr"
  | .dtmfDigit => "DtmfDigit"
  | .dtmfDuration => "DtmfDuration"

instance : Term EventHeader where
  noun := "event header"
  terms := [
    .eventName, .eventSubclass, .coreUuid, .eventDateLocal, .eventDateGmt, .eventDateTimestamp,
    .uniqueId, .callerUniqueId, .otherLegUniqueId, .jobUuid, .jobCommand, .jobCommandArg,
    .channelName, .channelState, .channelStateNumber, .channelCallState,
    .channelDestinationNumber, .answerState, .callDirection, .hangupCause, .callerCallerIdName,
    .callerCallerIdNumber, .callerDestinationNumber, .callerContext, .callerNetworkAddr,
    .dtmfDigit, .dtmfDuration]
  word := word
  label := label

end EventHeader

end EventSocket
