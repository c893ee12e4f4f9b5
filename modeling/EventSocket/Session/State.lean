import EventSocket.Text.Quoted

/-!
The life of a session: disconnected, connecting, handshaking, ready, closed. An opening that does
not come to an end is failed. Closed and failed are final.
-/

namespace EventSocket

inductive EndReason where
  | serverNotice
  | connectionClosed
  | ioError (text : String)
  | protocolError (text : String)
  | clientRequested
  deriving DecidableEq

namespace EndReason

def text : EndReason → String
  | serverNotice => "server sent disconnect notice"
  | connectionClosed => "connection closed"
  | ioError text => "I/O error: " ++ text
  | protocolError text => "protocol error: " ++ text
  | clientRequested => "client requested disconnect"

def record : EndReason → String
  | serverNotice => "ServerNotice"
  | connectionClosed => "ConnectionClosed"
  | ioError text => "IoError(" ++ Text.quoted text ++ ")"
  | protocolError text => "ProtocolError(" ++ Text.quoted text ++ ")"
  | clientRequested => "ClientRequested"

end EndReason

inductive SessionState where
  | disconnected
  | connecting
  | handshaking
  | ready
  | closed (reason : EndReason)
  | failed (text : String)
  deriving DecidableEq

namespace SessionState

def text : SessionState → String
  | disconnected => "disconnected"
  | connecting => "connecting"
  | handshaking => "handshaking"
  | ready => "ready"
  | closed reason => "closed (" ++ reason.text ++ ")"
  | failed text => "failed (" ++ text ++ ")"

def record : SessionState → String
  | disconnected => "Disconnected"
  | connecting => "Connecting"
  | handshaking => "Handshaking"
  | ready => "Ready"
  | closed reason => "Closed(" ++ reason.record ++ ")"
  | failed text => "Failed(" ++ Text.quoted text ++ ")"

def isReady : SessionState → Bool
  | ready => true
  | _ => false

def isTerminal : SessionState → Bool
  | closed _ | failed _ => true
  | _ => false

end SessionState

end EventSocket
