import ParcelLink.ParcelType
import ParcelLink.Text.Quoted
import ParcelLink.Value

/-!
# Requests

What can be asked of the modem, the number under which it is asked, and the arguments that follow
the token in its parcel. Requests without arguments have an empty layout.
-/

namespace ParcelLink

/-- Something that is asked of the modem. -/
inductive Request where
  | getIccStatus
  | enterIccPin (pin : String)
  | setRadioPower (on : Bool)
  | setScreenState (on : Bool)
  | getRegistrationState
  | getGprsRegistrationState
  | getOperator
  | getNetworkSelectionMode
  | getCurrentCalls
  | getSignalStrength
  | getImei
  | getImeisv
  | getImsi
  | getBasebandVersion
  | getDeviceIdentity
  | dial (address : String) (clirMode uusInfo : UInt32)
  | hangUp (index : UInt32)
  | setMute (on : Bool)
  | answerCall
  | rejectCall
  /-- Send a message, given as the hexadecimal text of its parts. -/
  | sendSms (smscPdu pdu : String)
  | startTone (tone : Char)
  | stopTone
  | sendTone (tone : Char)
  deriving DecidableEq, Repr

namespace Request

/-- The number of a request. -/
def type : Request → ParcelType
  | getIccStatus => .getSimStatus
  | enterIccPin _ => .enterSimPin
  | setRadioPower _ => .radioPower
  | setScreenState _ => .screenState
  | getRegistrationState => .registrationState
  | getGprsRegistrationState => .gprsRegistrationState
  | getOperator => .operator
  | getNetworkSelectionMode => .queryNetworkSelectionMode
  | getCurrentCalls => .getCurrentCalls
  | getSignalStrength => .signalStrength
  | getImei => .getImei
  | getImeisv => .getImeisv
  | getImsi => .getImsi
  | getBasebandVersion => .basebandVersion
  | getDeviceIdentity => .deviceIdentity
  | dial .. => .dial
  | hangUp _ => .hangup
  | setMute _ => .setMute
  | answerCall => .answer
  | rejectCall => .udub
  | sendSms .. => .sendSms
  | startTone _ => .dtmfStart
  | stopTone => .dtmfStop
  | sendTone _ => .dtmf

/-- The arguments of a request, in order. -/
def arguments : Request → List Value
  | enterIccPin pin => [.u32 1, .string (some pin)]
  | setRadioPower on | setScreenState on | setMute on => [.words [if on then 1 else 0]]
  | dial address clirMode uusInfo =>
    -- The modem expects one more zero word.
    [.string (some address), .u32 clirMode, .u32 uusInfo, .u32 0]
  | hangUp index => [.words [index]]
  | sendSms smscPdu pdu => [.u32 2, .string (some smscPdu), .string (some pdu)]
  | startTone tone | sendTone tone => [.string (some tone.toString)]
  | _ => []

/-- The bytes of the arguments of a request. -/
def encode (request : Request) : Octets := request.arguments.flatMap Value.encode

/-- A request as the log shows it. -/
def describe : Request → String
  | getIccStatus => "GetIccStatus"
  | enterIccPin pin => Text.fielded "EnterIccPin" [("pin", Text.quoted pin)]
  | setRadioPower on => "SetRadioPower(" ++ toString on ++ ")"
  | setScreenState on => "SetScreenState(" ++ toString on ++ ")"
  | getRegistrationState => "GetRegistrationState"
  | getGprsRegistrationState => "GetGprsRegistrationState"
  | getOperator => "GetOperator"
  | getNetworkSelectionMode => "GetNetworkSelectionMode"
  | getCurrentCalls => "GetCurrentCalls"
  | getSignalStrength => "GetSignalStrength"
  | getImei => "GetImei"
  | getImeisv => "GetImeisv"
  | getImsi => "GetImsi"
  | getBasebandVersion => "GetBasebandVersion"
  | getDeviceIdentity => "GetDeviceIdentity"
  | dial address clirMode uusInfo =>
    Text.fielded "Dial"
      [("address", Text.quoted address), ("clir_mode", toString clirMode),
        ("uus_info", toString uusInfo)]
  | hangUp index => Text.fielded "HangUp" [("index", toString index)]
  | setMute on => "SetMute(" ++ toString on ++ ")"
  | answerCall => "AnswerCall"
  | rejectCall => "RejectCall"
  | sendSms smscPdu pdu =>
    Text.fielded "SendSms" [("smsc_pdu", Text.quoted smscPdu), ("pdu", Text.quoted pdu)]
  | startTone tone => "StartTone(" ++ Text.quotedChar tone ++ ")"
  | stopTone => "StopTone"
  | sendTone tone => "SendTone(" ++ Text.quotedChar tone ++ ")"

end Request

end ParcelLink
