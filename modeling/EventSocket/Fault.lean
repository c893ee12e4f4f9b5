import EventSocket.Text.Quoted

/-!
What can go wrong, by cause, and what is said about it. The texts are part of the interface: they
reach callers in refusals and in the reason for which a session ended.
-/

namespace EventSocket

/-- Why a stream of bytes cannot be taken apart into frames. -/
inductive StreamFault where
  | lineNotText
  | bodyNotText
  | bodyTooLong (length limit : Nat)
  | bufferFull (limit : Nat)
  | stated (text : String)
  deriving DecidableEq

def StreamFault.message : StreamFault → String
  | lineNotText => "invalid UTF-8 in header line"
  | bodyNotText => "invalid UTF-8 in body"
  | bodyTooLong length limit =>
    "Content-Length " ++ toString length ++ " exceeds maximum " ++ toString limit
  | bufferFull limit => "receive buffer would exceed " ++ toString limit ++ " bytes"
  | stated text => text

/-- Why a command cannot be put on the wire. `field` names the part at fault. -/
inductive CommandFault where
  | empty (field : String)
  | lineBreak (field : String)
  | variableName (name : String)
  | digitRange (least most limit : Nat)
  | stated (text : String)
  deriving DecidableEq

def CommandFault.message : CommandFault → String
  | empty field => field ++ " must not be empty"
  | lineBreak field => field ++ " must not contain newlines"
  | variableName name => "invalid channel variable name " ++ Text.quoted name
  | digitRange least most limit =>
    "digit range " ++ toString least ++ "..=" ++ toString most ++
      " must satisfy min <= max <= " ++ toString limit
  | stated text => text

/-- What a connection that is being opened waits for. -/
inductive Awaited where
  | authRequest | authReply | connectReply
  deriving DecidableEq

def Awaited.name : Awaited → String
  | authRequest => "auth request"
  | authReply => "auth reply"
  | connectReply => "connect reply"

/-- Why a connection could not be opened, refused credentials aside. -/
inductive HandshakeFault where
  | unexpected (awaited : Awaited) (summary : String)
  | noReplyText
  | channelData (text : String)
  | notChannelData (name : String)
  | stated (text : String)
  deriving DecidableEq

def HandshakeFault.message : HandshakeFault → String
  | unexpected awaited summary => "expected " ++ awaited.name ++ ", got " ++ summary
  | noReplyText => "auth reply carries no Reply-Text"
  | channelData text => "unusable channel data: " ++ text
  | notChannelData name => "expected CHANNEL_DATA, got " ++ Text.quoted name
  | stated text => text

inductive Fault where
  | io (text : String)
  | timeout (milliseconds : Nat)
  | connectionClosed
  | notConnected
  | stream (cause : StreamFault)
  | invalidHeader (line : String)
  | missingHeader (name : String)
  | invalidHeaderValue (name value : String)
  | unsupportedContentType (contentType : String)
  | unsupportedEventFormat (format : String)
  | authentication (replyText : String)
  | handshake (cause : HandshakeFault)
  | commandFailed (replyText : String)
  | unexpectedReply (replyText : String)
  | invalidCommand (cause : CommandFault)
  deriving DecidableEq

def Fault.message : Fault → String
  | io text => "I/O error: " ++ text
  | timeout milliseconds => "operation timed out after " ++ toString milliseconds ++ "ms"
  | connectionClosed => "connection closed"
  | notConnected => "not connected"
  | stream cause => "protocol error: " ++ cause.message
  | invalidHeader line => "invalid header line: " ++ Text.quoted line
  | missingHeader name => "missing header: " ++ name
  | invalidHeaderValue name value =>
    "invalid value " ++ Text.quoted value ++ " for header " ++ name
  | unsupportedContentType contentType => "unsupported content type: " ++ contentType
  | unsupportedEventFormat format => "unsupported event format: " ++ format
  | authentication replyText => "authentication failed: " ++ replyText
  | handshake cause => "handshake failed: " ++ cause.message
  | commandFailed replyText => "command failed: " ++ replyText
  | unexpectedReply replyText => "unexpected reply: " ++ replyText
  | invalidCommand cause => "invalid command: " ++ cause.message

def Fault.label : Fault → String
  | io _ => "Io"
  | timeout _ => "Timeout"
  | connectionClosed => "ConnectionClosed"
  | notConnected => "NotConnected"
  | stream _ => "ProtocolError"
  | invalidHeader _ => "InvalidHeader"
  | missingHeader _ => "MissingHeader"
  | invalidHeaderValue .. => "InvalidHeaderValue"
  | unsupportedContentType _ => "UnsupportedContentType"
  | unsupportedEventFormat _ => "UnsupportedEventFormat"
  | authentication _ => "AuthFailed"
  | handshake _ => "HandshakeFailed"
  | commandFailed _ => "CommandFailed"
  | unexpectedReply _ => "UnexpectedReply"
  | invalidCommand _ => "InvalidCommand"

/-- The connection is gone, or was never there. -/
def Fault.isConnectionLoss : Fault → Bool
  | io _ | connectionClosed | notConnected => true
  | _ => false

end EventSocket
