import ParcelLink.Json
import ParcelLink.Payload

/-!
# Decoded bodies as JSON

A body that carries nothing is the string `"ack"`. Every other is an object with one field, which
is named for the shape of the body.
-/

namespace ParcelLink

open Json (word string?)

/-- An application on the SIM card as JSON. -/
def CardApp.toJson (app : CardApp) : Json :=
  .object
    [("appType", word app.appType), ("appState", word app.appState),
      ("persoSubstate", word app.persoSubstate), ("aid", string? app.aid),
      ("appLabel", string? app.appLabel), ("pin1Replaced", word app.pin1Replaced),
      ("pin1", word app.pin1), ("pin2", word app.pin2)]

/-- The state of the SIM card as JSON. -/
def CardStatus.toJson (status : CardStatus) : Json :=
  .object
    [("cardState", word status.cardState), ("universalPinState", word status.universalPinState),
      ("gsmUmtsSubscriptionAppIndex", word status.gsmUmtsSubscriptionAppIndex),
      ("cdmaSubscriptionAppIndex", word status.cdmaSubscriptionAppIndex),
      ("apps", .list (status.apps.map CardApp.toJson))]

/-- User-to-user signalling as JSON. -/
def UusInfo.toJson (info : UusInfo) : Json :=
  .object [("type", word info.uusType), ("dcs", word info.dcs)]

/-- A call as JSON. -/
def Call.toJson (call : Call) : Json :=
  .object
    [("state", word call.state), ("index", word call.index), ("toa", word call.toa),
      ("isMpty", .bool call.isMpty), ("isMt", .bool call.isMt), ("als", word call.als),
      ("isVoice", .bool call.isVoice), ("isVoicePrivacy", .bool call.isVoicePrivacy),
      ("unknown", word call.unknown), ("number", string? call.number),
      ("numberPresentation", word call.numberPresentation), ("name", string? call.name),
      ("namePresentation", word call.namePresentation),
      ("uusInfo", (call.uusInfo.map UusInfo.toJson).getD .null)]

/-- Measurements of the radio signal as JSON. -/
def SignalStrength.toJson (signal : SignalStrength) : Json :=
  .object
    [("gsmSignalStrength", word signal.gsmSignalStrength),
      ("gsmBitErrorRate", word signal.gsmBitErrorRate), ("cdmaDbm", word signal.cdmaDbm),
      ("cdmaEcio", word signal.cdmaEcio), ("evdoDbm", word signal.evdoDbm),
      ("evdoEcio", word signal.evdoEcio), ("evdoSnr", word signal.evdoSnr)]

/-- What became of a message, as JSON. -/
def SmsSent.toJson (outcome : SmsSent) : Json :=
  .object
    [("messageRef", word outcome.messageRef), ("ackPdu", string? outcome.ackPdu),
      ("errorCode", word outcome.errorCode)]

/-- A decoded body as JSON. -/
def Payload.toJson : Payload → Json
  | ack => .string "ack"
  | cardStatus status => .object [("iccStatus", status.toJson)]
  | retryCounts counts => .object [("retryCounts", .list (counts.map word))]
  | currentCalls calls => .object [("currentCalls", .list (calls.map Call.toJson))]
  | text s => .object [("text", string? s)]
  | signalStrength signal => .object [("signalStrength", signal.toJson)]
  | strings ss => .object [("strings", .list (ss.map string?))]
  | smsSent outcome => .object [("smsSent", outcome.toJson)]
  | integers ns => .object [("integers", .list (ns.map word))]
  | radioState state => .object [("radioState", word state)]

end ParcelLink
