import EventSocket.Term

/-!
The types of events, and the encodings in which a switch can deliver events.
-/

namespace EventSocket

/-- Event types in the order of the switch's table; the last is the wildcard of subscriptions. -/
inductive EventType where
  | custom | clone | channelCreate | channelDestroy | channelState | channelCallstate
  | channelAnswer | channelHangup | channelHangupComplete | channelExecute
  | channelExecuteComplete | channelHold | channelUnhold | channelBridge | channelUnbridge
  | channelProgress | channelProgressMedia | channelOutgoing | channelPark | channelUnpark
  | channelApplication | channelOriginate | channelUuid | api | log | inboundChan | outboundChan
  | startup | shutdown | publish | unpublish | talk | notalk | sessionCrash | moduleLoad
  | moduleUnload | dtmf | message | presenceIn | notifyIn | presenceOut | presenceProbe
  | messageWaiting | messageQuery | roster | codec | backgroundJob | detectedSpeech
  | detectedTone | privateCommand | heartbeat | trap | addSchedule | delSchedule | exeSchedule
  | reSchedule | reloadXml | notify | phoneFeature | phoneFeatureSubscribe | sendMessage
  | recvMessage | requestParams | channelData | general | command | sessionHeartbeat
  | clientDisconnected | serverDisconnected | sendInfo | recvInfo | recvRtcpMessage
  | sendRtcpMessage | callSecure | nat | recordStart | recordStop | playbackStart | playbackStop
  | callUpdate | failure | socketData | mediaBugStart | mediaBugStop | conferenceDataQuery
  | conferenceData | callSetupReq | callSetupResult | callDetail | deviceState | text
  | shutdownRequested | wildcard
  deriving DecidableEq

namespace EventType

def word : EventType → String
  | .custom => "CUSTOM"
  | .clone => "CLONE"
  | .channelCreate => "CHANNEL_CREATE"
  | .channelDestroy => "CHANNEL_DESTROY"
  | .channelState => "CHANNEL_STATE"
  | .channelCallstate => "CHANNEL_CALLSTATE"
  | .channelAnswer => "CHANNEL_ANSWER"
  | .channelHangup => "CHANNEL_HANGUP"
  | .channelHangupComplete => "CHANNEL_HANGUP_COMPLETE"
  | .channelExecute => "CHANNEL_EXECUTE"
  | .channelExecuteComplete => "CHANNEL_EXECUTE_COMPLETE"
  | .channelHold => "CHANNEL_HOLD"
  | .channelUnhold => "CHANNEL_UNHOLD"
  | .channelBridge => "CHANNEL_BRIDGE"
  | .channelUnbridge => "CHANNEL_UNBRIDGE"
  | .channelProgress => "CHANNEL_PROGRESS"
  | .channelProgressMedia => "CHANNEL_PROGRESS_MEDIA"
  | .channelOutgoing => "CHANNEL_OUTGOING"
  | .channelPark => "CHANNEL_PARK"
  | .channelUnpark => "CHANNEL_UNPARK"
  | .channelApplication => "CHANNEL_APPLICATION"
  | .channelOriginate => "CHANNEL_ORIGINATE"
  | .channelUuid => "CHANNEL_UUID"
  | .api => "API"
  | .log => "LOG"
  | .inboundChan => "INBOUND_CHAN"
  | .outboundChan => "OUTBOUND_CHAN"
  | .startup => "STARTUP"
  | .shutdown => "SHUTDOWN"
  | .publish => "PUBLISH"
  | .unpublish => "UNPUBLISH"
  | .talk => "TALK"
  | .notalk => "NOTALK"
  | .sessionCrash => "SESSION_CRASH"
  | .moduleLoad => "MODULE_LOAD"
  | .moduleUnload => "MODULE_UNLOAD"
  | .dtmf => "DTMF"
  | .message => "MESSAGE"
  | .presenceIn => "PRESENCE_IN"
  | .notifyIn => "NOTIFY_IN"
  | .presenceOut => "PRESENCE_OUT"
  | .presenceProbe => "PRESENCE_PROBE"
  | .messageWaiting => "MESSAGE_WAITING"
  | .messageQuery => "MESSAGE_QUERY"
  | .roster => "ROSTER"
  | .codec => "CODEC"
  | .backgroundJob => "BACKGROUND_JOB"
  | .detectedSpeech => "DETECTED_SPEECH"
  | .detectedTone => "DETECTED_TONE"
  | .privateCommand => "PRIVATE_COMMAND"
  | .heartbeat => "HEARTBEAT"
  | .trap => "TRAP"
  | .addSchedule => "ADD_SCHEDULE"
  | .delSchedule => "DEL_SCHEDULE"
  | .exeSchedule => "EXE_SCHEDULE"
  | .reSchedule => "RE_SCHEDULE"
  | .reloadXml => "RELOADXML"
  | .notify => "NOTIFY"
  | .phoneFeature => "PHONE_FEATURE"
  | .phoneFeatureSubscribe => "PHONE_FEATURE_SUBSCRIBE"
  | .sendMessage => "SEND_MESSAGE"
  | .recvMessage => "RECV_MESSAGE"
  | .requestParams => "REQUEST_PARAMS"
  | .channelData => "CHANNEL_DATA"
  | .general => "GENERAL"
  | .command => "COMMAND"
  | .sessionHeartbeat => "SESSION_HEARTBEAT"
  | .clientDisconnected => "CLIENT_DISCONNECTED"
  | .serverDisconnected => "SERVER_DISCONNECTED"
  | .sendInfo => "SEND_INFO"
  | .recvInfo => "RECV_INFO"
  | .recvRtcpMessage => "RECV_RTCP_MESSAGE"
  | .sendRtcpMessage => "SEND_RTCP_MESSAGE"
  | .callSecure => "CALL_SECURE"
  | .nat => "NAT"
  | .recordStart => "RECORD_START"
  | .recordStop => "RECORD_STOP"
  | .playbackStart => "PLAYBACK_START"
  | .playbackStop => "PLAYBACK_STOP"
  | .callUpdate => "CALL_UPDATE"
  | .failure => "FAILURE"
  | .socketData => "SOCKET_DATA"
  | .mediaBugStart => "MEDIA_BUG_START"
  | .mediaBugStop => "MEDIA_BUG_STOP"
  | .conferenceDataQuery => "CONFERENCE_DATA_QUERY"
  | .conferenceData => "CONFERENCE_DATA"
  | .callSetupReq => "CALL_SETUP_REQ"
  | .callSetupResult => "CALL_SETUP_RESULT"
  | .callDetail => "CALL_DETAIL"
  | .deviceState => "DEVICE_STATE"
  | .text => "TEXT"
  | .shutdownRequested => "SHUTDOWN_REQUESTED"
  | .wildcard => "ALL"

def label : EventType → String
  | .custom => "Custom"
  | .clone => "Clone"
  | .channelCreate => "ChannelCreate"
  | .channelDestroy => "ChannelDestroy"
  | .channelState => "ChannelState"
  | .channelCallstate => "ChannelCallstate"
  | .channelAnswer => "ChannelAnswer"
  | .channelHangup => "ChannelHangup"
  | .channelHangupComplete => "ChannelHangupComplete"
  | .channelExecute => "ChannelExecute"
  | .channelExecuteComplete => "ChannelExecuteComplete"
  | .channelHold => "ChannelHold"
  | .channelUnhold => "ChannelUnhold"
  | .channelBridge => "ChannelBridge"
  | .channelUnbridge => "ChannelUnbridge"
  | .channelProgress => "ChannelProgress"
  | .channelProgressMedia => "ChannelProgressMedia"
  | .channelOutgoing => "ChannelOutgoing"
  | .channelPark => "ChannelPark"
  | .channelUnpark => "ChannelUnpark"
  | .channelApplication => "ChannelApplication"
  | .channelOriginate => "ChannelOriginate"
  | .channelUuid => "ChannelUuid"
  | .api => "Api"
  | .log => "Log"
  | .inboundChan => "InboundChan"
  | .outboundChan => "OutboundChan"
  | .startup => "Startup"
  | .shutdown => "Shutdown"
  | .publish => "Publish"
  | .unpublish => "Unpublish"
  | .talk => "Talk"
  | .notalk => "Notalk"
  | .sessionCrash => "SessionCrash"
  | .moduleLoad => "ModuleLoad"
  | .moduleUnload => "ModuleUnload"
  | .dtmf => "Dtmf"
  | .message => "Message"
  | .presenceIn => "PresenceIn"
  | .notifyIn => "NotifyIn"
  | .presenceOut => "PresenceOut"
  | .presenceProbe => "PresenceProbe"
  | .messageWaiting => "MessageWaiting"
  | .messageQuery => "MessageQuery"
  | .roster => "Roster"
  | .codec => "Codec"
  | .backgroundJob => "BackgroundJob"
  | .detectedSpeech => "DetectedSpeech"
  | .detectedTone => "DetectedTone"
  | .privateCommand => "PrivateCommand"
  | .heartbeat => "Heartbeat"
  | .trap => "Trap"
  | .addSchedule => "AddSchedule"
  | .delSchedule => "DelSchedule"
  | .exeSchedule => "ExeSchedule"
  | .reSchedule => "ReSchedule"
  | .reloadXml => "ReloadXml"
  | .notify => "Notify"
  | .phoneFeature => "PhoneFeature"
  | .phoneFeatureSubscribe => "PhoneFeatureSubscribe"
  | .sendMessage => "SendMessage"
  | .recvMessage => "RecvMessage"
  | .requestParams => "RequestParams"
  | .channelData => "ChannelData"
  | .general => "General"
  | .command => "Command"
  | .sessionHeartbeat => "SessionHeartbeat"
  | .clientDisconnected => "ClientDisconnected"
  | .serverDisconnected => "ServerDisconnected"
  | .sendInfo => "SendInfo"
  | .recvInfo => "RecvInfo"
  | .recvRtcpMessage => "RecvRtcpMessage"
  | .sendRtcpMessage => "SendRtcpMessage"
  | .callSecure => "CallSecure"
  | .nat => "Nat"
  | .recordStart => "RecordStart"
  | .recordStop => "RecordStop"
  | .playbackStart => "PlaybackStart"
  | .playbackStop => "PlaybackStop"
  | .callUpdate => "CallUpdate"
  | .failure => "Failure"
  | .socketData => "SocketData"
  | .mediaBugStart => "MediaBugStart"
  | .mediaBugStop => "MediaBugStop"
  | .conferenceDataQuery => "ConferenceDataQuery"
  | .conferenceData => "ConferenceData"
  | .callSetupReq => "CallSetupReq"
  | .callSetupResult => "CallSetupResult"
  | .callDetail => "CallDetail"
  | .deviceState => "DeviceState"
  | .text => "Text"
  | .shutdownRequested => "ShutdownRequested"
  | .wildcard => "All"

instance : Term EventType where
  noun := "event type"
  terms := [
    .custom, .clone, .channelCreate, .channelDestroy, .channelState, .channelCallstate,
    .channelAnswer, .channelHangup, .channelHangupComplete, .channelExecute,
    .channelExecuteComplete, .channelHold, .channelUnhold, .channelBridge, .channelUnbridge,
    .channelProgress, .channelProgressMedia, .channelOutgoing, .channelPark, .channelUnpark,
    .channelApplication, .channelOriginate, .channelUuid, .api, .log, .inboundChan,
    .outboundChan, .startup, .shutdown, .publish, .unpublish, .talk, .notalk, .sessionCrash,
    .moduleLoad, .moduleUnload, .dtmf, .message, .presenceIn, .notifyIn, .presenceOut,
    .presenceProbe, .messageWaiting, .messageQuery, .roster, .codec, .backgroundJob,
    .detectedSpeech, .detectedTone, .privateCommand, .heartbeat, .trap, .addSchedule,
    .delSchedule, .exeSchedule, .reSchedule, .reloadXml, .notify, .phoneFeature,
    .phoneFeatureSubscribe, .sendMessage, .recvMessage, .requestParams, .channelData, .general,
    .command, .sessionHeartbeat, .clientDisconnected, .serverDisconnected, .sendInfo, .recvInfo,
    .recvRtcpMessage, .sendRtcpMessage, .callSecure, .nat, .recordStart, .recordStop,
    .playbackStart, .playbackStop, .callUpdate, .failure, .socketData, .mediaBugStart,
    .mediaBugStop, .conferenceDataQuery, .conferenceData, .callSetupReq, .callSetupResult,
    .callDetail, .deviceState, .text, .shutdownRequested, .wildcard]
  word := word
  label := label

end EventType

/-- Encodings of events; only `plain` is read. -/
inductive EventFormat where
  | plain | json | xml
  deriving DecidableEq

namespace EventFormat

def word : EventFormat → String
  | .plain => "plain"
  | .json => "json"
  | .xml => "xml"

def label : EventFormat → String
  | .plain => "Plain"
  | .json => "Json"
  | .xml => "Xml"

def ofContentType? (contentType : String) : Option EventFormat :=
  if contentType = "text/event-plain" then some .plain
  else if contentType = "text/event-json" then some .json
  else if contentType = "text/event-xml" then some .xml
  else none

instance : Term EventFormat where
  noun := "event format"
  terms := [
    .plain, .json, .xml]
  word := word
  label := label

end EventFormat

end EventSocket
