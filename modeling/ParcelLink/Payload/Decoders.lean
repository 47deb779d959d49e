import ParcelLink.Payload
import ParcelLink.Value

/-!
# Decoders of bodies

How each shape of body is read. Every decoder reads its fields in order and stops at the first that
cannot be read; bytes behind the last field are left alone.

Three decoders do more than that. A card status names at most `maxCardApps` applications, whatever
count it declares. A signal strength keeps the low byte of its first number, since some modems put
garbage above it. An empty body is an empty list of calls, since the modem then omits even the count.
-/

namespace ParcelLink.Payload

open Decoder

/-- The most applications that are read from a card status. -/
def maxCardApps : UInt32 := 8

/-- Nothing is read. -/
def ackDecoder : Decoder Payload := return .ack

/-- One string. -/
def textDecoder : Decoder Payload := .text <$> string

/-- A count and strings. -/
def stringsDecoder : Decoder Payload := .strings <$> Decoder.strings

/-- A count and numbers. -/
def integersDecoder : Decoder Payload := .integers <$> words

/-- A count and the tries left for each PIN. -/
def retryCountsDecoder : Decoder Payload := .retryCounts <$> words

/-- One application of a card status. -/
def cardAppDecoder : Decoder CardApp := do
  let appType ← u32
  let appState ← u32
  let persoSubstate ← u32
  let aid ← string
  let appLabel ← string
  let pin1Replaced ← u32
  let pin1 ← u32
  let pin2 ← u32
  return { appType, appState, persoSubstate, aid, appLabel, pin1Replaced, pin1, pin2 }

/-- A card status, with the first of its applications. -/
def cardStatusDecoder : Decoder Payload := do
  let cardState ← u32
  let universalPinState ← u32
  let gsmUmtsSubscriptionAppIndex ← u32
  let cdmaSubscriptionAppIndex ← u32
  let declared ← u32
  let apps ← many cardAppDecoder (min declared maxCardApps).toNat
  return .cardStatus
    { cardState, universalPinState, gsmUmtsSubscriptionAppIndex, cdmaSubscriptionAppIndex, apps }

/-- The user-to-user signalling of a call, which is there if the number in front of it is one. -/
def uusInfoDecoder : Decoder (Option UusInfo) := do
  if (← u32) ≠ 1 then return none
  let uusType ← u32
  let dcs ← u32
  return some { uusType, dcs }

/-- One call. -/
def callDecoder : Decoder Call := do
  let state ← u32
  let index ← u32
  let toa ← u32
  let isMpty ← bool
  let isMt ← bool
  let als ← u32
  let isVoice ← bool
  let isVoicePrivacy ← bool
  let unknown ← u32
  let number ← string
  let numberPresentation ← u32
  let name ← string
  let namePresentation ← u32
  let uusInfo ← uusInfoDecoder
  return { state, index, toa, isMpty, isMt, als, isVoice, isVoicePrivacy, unknown, number,
           numberPresentation, name, namePresentation, uusInfo }

/-- A count and calls, or nothing at all if there are none. -/
def currentCallsDecoder : Decoder Payload := do
  if (← remaining) = 0 then return .currentCalls []
  .currentCalls <$> list callDecoder

/-- The measurements of the radio signal. -/
def signalStrengthDecoder : Decoder Payload := do
  let first ← u32
  let gsmBitErrorRate ← u32
  let cdmaDbm ← u32
  let cdmaEcio ← u32
  let evdoDbm ← u32
  let evdoEcio ← u32
  let evdoSnr ← u32
  return .signalStrength
    { gsmSignalStrength := first &&& 0xff
      gsmBitErrorRate, cdmaDbm, cdmaEcio, evdoDbm, evdoEcio, evdoSnr }

/-- What became of a message. -/
def smsSentDecoder : Decoder Payload := do
  let messageRef ← u32
  let ackPdu ← string
  let errorCode ← u32
  return .smsSent { messageRef, ackPdu, errorCode }

/-- One number. -/
def radioStateDecoder : Decoder Payload := .radioState <$> u32

end ParcelLink.Payload
