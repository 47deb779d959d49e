import ParcelLink.Payload.Decoders

/-!
# How bodies are laid out

The fields of each shape of body in the order in which a modem writes them. The decoders of
`Payload.Decoders` read these layouts, and more than these: they forgive an application too many, a
garbled signal strength, and a missing count of calls.

## Main definitions

* `Payload.fields`: the fields of a body.
* `Payload.encode`: its bytes.
* `Payload.decoder`: the decoder of the shape that a body has.
-/

namespace ParcelLink

/-- The fields of an application on the SIM card. -/
def CardApp.fields (app : CardApp) : List Value :=
  [.u32 app.appType, .u32 app.appState, .u32 app.persoSubstate, .string app.aid,
    .string app.appLabel, .u32 app.pin1Replaced, .u32 app.pin1, .u32 app.pin2]

/-- The fields of a card status: the count of the applications stands in front of them. -/
def CardStatus.fields (status : CardStatus) : List Value :=
  [.u32 status.cardState, .u32 status.universalPinState,
    .u32 status.gsmUmtsSubscriptionAppIndex, .u32 status.cdmaSubscriptionAppIndex,
    .u32 (UInt32.ofNat status.apps.length)] ++ status.apps.flatMap CardApp.fields

/-- The fields of user-to-user signalling: a one in front says that it is there. -/
def UusInfo.fields : Option UusInfo → List Value
  | none => [.u32 0]
  | some info => [.u32 1, .u32 info.uusType, .u32 info.dcs]

/-- The fields of a call. -/
def Call.fields (call : Call) : List Value :=
  [.u32 call.state, .u32 call.index, .u32 call.toa, .bool call.isMpty, .bool call.isMt,
    .u32 call.als, .bool call.isVoice, .bool call.isVoicePrivacy, .u32 call.unknown,
    .string call.number, .u32 call.numberPresentation, .string call.name,
    .u32 call.namePresentation] ++ UusInfo.fields call.uusInfo

/-- The fields of the measurements of the radio signal. -/
def SignalStrength.fields (signal : SignalStrength) : List Value :=
  [.u32 signal.gsmSignalStrength, .u32 signal.gsmBitErrorRate, .u32 signal.cdmaDbm,
    .u32 signal.cdmaEcio, .u32 signal.evdoDbm, .u32 signal.evdoEcio, .u32 signal.evdoSnr]

/-- The fields of what became of a message. -/
def SmsSent.fields (outcome : SmsSent) : List Value :=
  [.u32 outcome.messageRef, .string outcome.ackPdu, .u32 outcome.errorCode]

namespace Payload

/-- The fields of a body. -/
def fields : Payload → List Value
  | ack => []
  | cardStatus status => status.fields
  | retryCounts counts => [.words counts]
  | currentCalls calls => .u32 (UInt32.ofNat calls.length) :: calls.flatMap Call.fields
  | text s => [.string s]
  | signalStrength signal => signal.fields
  | strings ss => [.strings ss]
  | smsSent outcome => outcome.fields
  | integers ns => [.words ns]
  | radioState state => [.u32 state]

/-- The bytes of a body. -/
def encode (payload : Payload) : Octets := payload.fields.flatMap Value.encode

/-- The decoder of the shape that a body has. -/
def decoder : Payload → Decoder Payload
  | ack => ackDecoder
  | cardStatus _ => cardStatusDecoder
  | retryCounts _ => retryCountsDecoder
  | currentCalls _ => currentCallsDecoder
  | text _ => textDecoder
  | signalStrength _ => signalStrengthDecoder
  | strings _ => stringsDecoder
  | smsSent _ => smsSentDecoder
  | integers _ => integersDecoder
  | radioState _ => radioStateDecoder

end Payload

end ParcelLink
