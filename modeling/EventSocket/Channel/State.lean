import EventSocket.Term

/-!
Where a channel and its call stand.
-/

namespace EventSocket

/-- The stages of a channel; the position in the list is the number on the wire. -/
inductive ChannelState where
  | new | init | routing | softExecute | execute | exchangeMedia | park | consumeMedia
  | hibernate | reset | hangup | reporting | destroy | absent
  deriving DecidableEq

namespace ChannelState

def word : ChannelState → String
  | .new => "CS_NEW"
  | .init => "CS_INIT"
  | .routing => "CS_ROUTING"
  | .softExecute => "CS_SOFT_EXECUTE"
  | .execute => "CS_EXECUTE"
  | .exchangeMedia => "CS_EXCHANGE_MEDIA"
  | .park => "CS_PARK"
  | .consumeMedia => "CS_CONSUME_MEDIA"
  | .hibernate => "CS_HIBERNATE"
  | .reset => "CS_RESET"
  | .hangup => "CS_HANGUP"
  | .reporting => "CS_REPORTING"
  | .destroy => "CS_DESTROY"
  | .absent => "CS_NONE"

def label : ChannelState → String
  | .new => "CsNew"
  | .init => "CsInit"
  | .routing => "CsRouting"
  | .softExecute => "CsSoftExecute"
  | .execute => "CsExecute"
  | .exchangeMedia => "CsExchangeMedia"
  | .park => "CsPark"
  | .consumeMedia => "CsConsumeMedia"
  | .hibernate => "CsHibernate"
  | .reset => "CsReset"
  | .hangup => "CsHangup"
  | .reporting => "CsReporting"
  | .destroy => "CsDestroy"
  | .absent => "CsNone"

instance : Term ChannelState where
  noun := "channel state"
  terms := [
    .new, .init, .routing, .softExecute, .execute, .exchangeMedia, .park, .consumeMedia,
    .hibernate, .reset, .hangup, .reporting, .destroy, .absent]
  word := word
  label := label

end ChannelState

/-- The stages of the call a channel belongs to. -/
inductive CallState where
  | down | dialing | ringing | early | active | held | ringWait | hangup | unheld
  deriving DecidableEq

namespace CallState

def word : CallState → String
  | .down => "DOWN"
  | .dialing => "DIALING"
  | .ringing => "RINGING"
  | .early => "EARLY"
  | .active => "ACTIVE"
  | .held => "HELD"
  | .ringWait => "RING_WAIT"
  | .hangup => "HANGUP"
  | .unheld => "UNHELD"

def label : CallState → String
  | .down => "Down"
  | .dialing => "Dialing"
  | .ringing => "Ringing"
  | .early => "Early"
  | .active => "Active"
  | .held => "Held"
  | .ringWait => "RingWait"
  | .hangup => "Hangup"
  | .unheld => "Unheld"

instance : Term CallState where
  noun := "call state"
  terms := [
    .down, .dialing, .ringing, .early, .active, .held, .ringWait, .hangup, .unheld]
  word := word
  label := label

end CallState

inductive AnswerState where
  | hangup | answered | early | ringing
  deriving DecidableEq

namespace AnswerState

def word : AnswerState → String
  | .hangup => "hangup"
  | .answered => "answered"
  | .early => "early"
  | .ringing => "ringing"

def label : AnswerState → String
  | .hangup => "Hangup"
  | .answered => "Answered"
  | .early => "Early"
  | .ringing => "Ringing"

instance : Term AnswerState where
  noun := "answer state"
  terms := [
    .hangup, .answered, .early, .ringing]
  word := word
  label := label

end AnswerState

/-- Which way a leg was set up, as the switch sees it. -/
inductive CallDirection where
  | inbound | outbound
  deriving DecidableEq

namespace CallDirection

def word : CallDirection → String
  | .inbound => "inbound"
  | .outbound => "outbound"

def label : CallDirection → String
  | .inbound => "Inbound"
  | .outbound => "Outbound"

instance : Term CallDirection where
  noun := "call direction"
  terms := [
    .inbound, .outbound]
  word := word
  label := label

end CallDirection

end EventSocket
