import EventSocket.Term

/-!
Why a call was hung up, in the words of Q.850 and the switch's own additions.
-/

namespace EventSocket

/-- Hangup causes, in the order of the switch's table. -/
inductive HangupCause where
  | unspecified | unallocatedNumber | noRouteTransitNet | noRouteDestination
  | channelUnacceptable | callAwardedDelivered | normalClearing | userBusy | noUserResponse
  | noAnswer | subscriberAbsent | callRejected | numberChanged | redirectionToNewDestination
  | exchangeRoutingError | destinationOutOfOrder | invalidNumberFormat | facilityRejected
  | responseToStatusEnquiry | normalUnspecified | normalCircuitCongestion | networkOutOfOrder
  | normalTemporaryFailure | switchCongestion | accessInfoDiscarded | requestedChanUnavail
  | preEmpted | facilityNotSubscribed | outgoingCallBarred | incomingCallBarred
  | bearercapabilityNotauth | bearercapabilityNotavail | serviceUnavailable
  | bearercapabilityNotimpl | chanNotImplemented | facilityNotImplemented | serviceNotImplemented
  | invalidCallReference | incompatibleDestination | invalidMsgUnspecified | mandatoryIeMissing
  | messageTypeNonexist | wrongMessage | ieNonexist | invalidIeContents | wrongCallState
  | recoveryOnTimerExpire | mandatoryIeLengthError | protocolError | interworking | success
  | originatorCancel | crash | systemShutdown | loseRace | managerRequest | blindTransfer
  | attendedTransfer | allottedTimeout | userChallenge | mediaTimeout | pickedOff
  | userNotRegistered | progressTimeout | gatewayDown
  deriving DecidableEq

namespace HangupCause

def word : HangupCause → String
  | .unspecified => "NONE"
  | .unallocatedNumber => "UNALLOCATED_NUMBER"
  | .noRouteTransitNet => "NO_ROUTE_TRANSIT_NET"
  | .noRouteDestination => "NO_ROUTE_DESTINATION"
  | .channelUnacceptable => "CHANNEL_UNACCEPTABLE"
  | .callAwardedDelivered => "CALL_AWARDED_DELIVERED"
  | .normalClearing => "NORMAL_CLEARING"
  | .userBusy => "USER_BUSY"
  | .noUserResponse => "NO_USER_RESPONSE"
  | .noAnswer => "NO_ANSWER"
  | .subscriberAbsent => "SUBSCRIBER_ABSENT"
  | .callRejected => "CALL_REJECTED"
  | .numberChanged => "NUMBER_CHANGED"
  | .redirectionToNewDestination => "REDIRECTION_TO_NEW_DESTINATION"
  | .exchangeRoutingError => "EXCHANGE_ROUTING_ERROR"
  | .destinationOutOfOrder => "DESTINATION_OUT_OF_ORDER"
  | .invalidNumberFormat => "INVALID_NUMBER_FORMAT"
  | .facilityRejected => "FACILITY_REJECTED"
  | .responseToStatusEnquiry => "RESPONSE_TO_STATUS_ENQUIRY"
  | .normalUnspecified => "NORMAL_UNSPECIFIED"
  | .normalCircuitCongestion => "NORMAL_CIRCUIT_CONGESTION"
  | .networkOutOfOrder => "NETWORK_OUT_OF_ORDER"
  | .normalTemporaryFailure => "NORMAL_TEMPORARY_FAILURE"
  | .switchCongestion => "SWITCH_CONGESTION"
  | .accessInfoDiscarded => "ACCESS_INFO_DISCARDED"
  | .requestedChanUnavail => "REQUESTED_CHAN_UNAVAIL"
  | .preEmpted => "PRE_EMPTED"
  | .facilityNotSubscribed => "FACILITY_NOT_SUBSCRIBED"
  | .outgoingCallBarred => "OUTGOING_CALL_BARRED"
  | .incomingCallBarred => "INCOMING_CALL_BARRED"
  | .bearercapabilityNotauth => "BEARERCAPABILITY_NOTAUTH"
  | .bearercapabilityNotavail => "BEARERCAPABILITY_NOTAVAIL"
  | .serviceUnavailable => "SERVICE_UNAVAILABLE"
  | .bearercapabilityNotimpl => "BEARERCAPABILITY_NOTIMPL"
  | .chanNotImplemented => "CHAN_NOT_IMPLEMENTED"
  | .facilityNotImplemented => "FACILITY_NOT_IMPLEMENTED"
  | .serviceNotImplemented => "SERVICE_NOT_IMPLEMENTED"
  | .invalidCallReference => "INVALID_CALL_REFERENCE"
  | .incompatibleDestination => "INCOMPATIBLE_DESTINATION"
  | .invalidMsgUnspecified => "INVALID_MSG_UNSPECIFIED"
  | .mandatoryIeMissing => "MANDATORY_IE_MISSING"
  | .messageTypeNonexist => "MESSAGE_TYPE_NONEXIST"
  | .wrongMessage => "WRONG_MESSAGE"
  | .ieNonexist => "IE_NONEXIST"
  | .invalidIeContents => "INVALID_IE_CONTENTS"
  | .wrongCallState => "WRONG_CALL_STATE"
  | .recoveryOnTimerExpire => "RECOVERY_ON_TIMER_EXPIRE"
  | .mandatoryIeLengthError => "MANDATORY_IE_LENGTH_ERROR"
  | .protocolError => "PROTOCOL_ERROR"
  | .interworking => "INTERWORKING"
  | .success => "SUCCESS"
  | .originatorCancel => "ORIGINATOR_CANCEL"
  | .crash => "CRASH"
  | .systemShutdown => "SYSTEM_SHUTDOWN"
  | .loseRace => "LOSE_RACE"
  | .managerRequest => "MANAGER_REQUEST"
  | .blindTransfer => "BLIND_TRANSFER"
  | .attendedTransfer => "ATTENDED_TRANSFER"
  | .allottedTimeout => "ALLOTTED_TIMEOUT"
  | .userChallenge => "USER_CHALLENGE"
  | .mediaTimeout => "MEDIA_TIMEOUT"
  | .pickedOff => "PICKED_OFF"
  | .userNotRegistered => "USER_NOT_REGISTERED"
  | .progressTimeout => "PROGRESS_TIMEOUT"
  | .gatewayDown => "GATEWAY_DOWN"

def label : HangupCause → String
  | .unspecified => "None"
  | .unallocatedNumber => "UnallocatedNumber"
  | .noRouteTransitNet => "NoRouteTransitNet"
  | .noRouteDestination => "NoRouteDestination"
  | .channelUnacceptable => "ChannelUnacceptable"
  | .callAwardedDelivered => "CallAwardedDelivered"
  | .normalClearing => "NormalClearing"
  | .userBusy => "UserBusy"
  | .noUserResponse => "NoUserResponse"
  | .noAnswer => "NoAnswer"
  | .subscriberAbsent => "SubscriberAbsent"
  | .callRejected => "CallRejected"
  | .numberChanged => "NumberChanged"
  | .redirectionToNewDestination => "RedirectionToNewDestination"
  | .exchangeRoutingError => "ExchangeRoutingError"
  | .destinationOutOfOrder => "DestinationOutOfOrder"
  | .invalidNumberFormat => "InvalidNumberFormat"
  | .facilityRejected => "FacilityRejected"
  | .responseToStatusEnquiry => "ResponseToStatusEnquiry"
  | .normalUnspecified => "NormalUnspecified"
  | .normalCircuitCongestion => "NormalCircuitCongestion"
  | .networkOutOfOrder => "NetworkOutOfOrder"
  | .normalTemporaryFailure => "NormalTemporaryFailure"
  | .switchCongestion => "SwitchCongestion"
  | .accessInfoDiscarded => "AccessInfoDiscarded"
  | .requestedChanUnavail => "RequestedChanUnavail"
  | .preEmpted => "PreEmpted"
  | .facilityNotSubscribed => "FacilityNotSubscribed"
  | .outgoingCallBarred => "OutgoingCallBarred"
  | .incomingCallBarred => "IncomingCallBarred"
  | .bearercapabilityNotauth => "BearercapabilityNotauth"
  | .bearercapabilityNotavail => "BearercapabilityNotavail"
  | .serviceUnavailable => "ServiceUnavailable"
  | .bearercapabilityNotimpl => "BearercapabilityNotimpl"
  | .chanNotImplemented => "ChanNotImplemented"
  | .facilityNotImplemented => "FacilityNotImplemented"
  | .serviceNotImplemented => "ServiceNotImplemented"
  | .invalidCallReference => "InvalidCallReference"
  | .incompatibleDestination => "IncompatibleDestination"
  | .invalidMsgUnspecified => "InvalidMsgUnspecified"
  | .mandatoryIeMissing => "MandatoryIeMissing"
  | .messageTypeNonexist => "MessageTypeNonexist"
  | .wrongMessage => "WrongMessage"
  | .ieNonexist => "IeNonexist"
  | .invalidIeContents => "InvalidIeContents"
  | .wrongCallState => "WrongCallState"
  | .recoveryOnTimerExpire => "RecoveryOnTimerExpire"
  | .mandatoryIeLengthError => "MandatoryIeLengthError"
  | .protocolError => "ProtocolError"
  | .interworking => "Interworking"
  | .success => "Success"
  | .originatorCancel => "OriginatorCancel"
  | .crash => "Crash"
  | .systemShutdown => "SystemShutdown"
  | .loseRace => "LoseRace"
  | .managerRequest => "ManagerRequest"
  | .blindTransfer => "BlindTransfer"
  | .attendedTransfer => "AttendedTransfer"
  | .allottedTimeout => "AllottedTimeout"
  | .userChallenge => "UserChallenge"
  | .mediaTimeout => "MediaTimeout"
  | .pickedOff => "PickedOff"
  | .userNotRegistered => "UserNotRegistered"
  | .progressTimeout => "ProgressTimeout"
  | .gatewayDown => "GatewayDown"

instance : Term HangupCause where
  noun := "hangup cause"
  terms := [
    .unspecified, .unallocatedNumber, .noRouteTransitNet, .noRouteDestination,
    .channelUnacceptable, .callAwardedDelivered, .normalClearing, .userBusy, .noUserResponse,
    .noAnswer, .subscriberAbsent, .callRejected, .numberChanged, .redirectionToNewDestination,
    .exchangeRoutingError, .destinationOutOfOrder, .invalidNumberFormat, .facilityRejected,
    .responseToStatusEnquiry, .normalUnspecified, .normalCircuitCongestion, .networkOutOfOrder,
    .normalTemporaryFailure, .switchCongestion, .accessInfoDiscarded, .requestedChanUnavail,
    .preEmpted, .facilityNotSubscribed, .outgoingCallBarred, .incomingCallBarred,
    .bearercapabilityNotauth, .bearercapabilityNotavail, .serviceUnavailable,
    .bearercapabilityNotimpl, .chanNotImplemented, .facilityNotImplemented,
    .serviceNotImplemented, .invalidCallReference, .incompatibleDestination,
    .invalidMsgUnspecified, .mandatoryIeMissing, .messageTypeNonexist, .wrongMessage,
    .ieNonexist, .invalidIeContents, .wrongCallState, .recoveryOnTimerExpire,
    .mandatoryIeLengthError, .protocolError, .interworking, .success, .originatorCancel, .crash,
    .systemShutdown, .loseRace, .managerRequest, .blindTransfer, .attendedTransfer,
    .allottedTimeout, .userChallenge, .mediaTimeout, .pickedOff, .userNotRegistered,
    .progressTimeout, .gatewayDown]
  word := word
  label := label

end HangupCause

end EventSocket
