import ParcelLink.Event
import ParcelLink.Text.Quoted

/-!
# Events as the log shows them

An event that no one receives is shown in the log in full: the name of its case, and behind it the
fields in order, each under its name.
-/

namespace ParcelLink

open Text (quoted listed fielded)

/-- A string that may be absent. -/
def describeString : Option String → String
  | none => "None"
  | some s => "Some(" ++ quoted s ++ ")"

/-- A list of numbers. -/
def describeWords (ns : List UInt32) : String := listed (ns.map toString)

/-- An application on the SIM card. -/
def CardApp.describe (app : CardApp) : String :=
  fielded "IccApp"
    [("app_type", toString app.appType), ("app_state", toString app.appState),
      ("perso_substate", toString app.persoSubstate), ("aid", describeString app.aid),
      ("app_label", describeString app.appLabel), ("pin1_replaced", toString app.pin1Replaced),
      ("pin1", toString app.pin1), ("pin2", toString app.pin2)]

/-- The state of the SIM card. -/
def CardStatus.describe (status : CardStatus) : String :=
  fielded "IccStatus"
    [("card_state", toString status.cardState),
      ("universal_pin_state", toString status.universalPinState),
      ("gsm_umts_subscription_app_index", toString status.gsmUmtsSubscriptionAppIndex),
      ("cdma_subscription_app_index", toString status.cdmaSubscriptionAppIndex),
      ("apps", listed (status.apps.map CardApp.describe))]

/-- User-to-user signalling. -/
def UusInfo.describe (info : UusInfo) : String :=
  fielded "UusInfo" [("uus_type", toString info.uusType), ("dcs", toString info.dcs)]

/-- A call. -/
def Call.describe (call : Call) : String :=
  fielded "Call"
    [("state", toString call.state), ("index", toString call.index), ("toa", toString call.toa),
      ("is_mpty", toString call.isMpty), ("is_mt", toString call.isMt),
      ("als", toString call.als), ("is_voice", toString call.isVoice),
      ("is_voice_privacy", toString call.isVoicePrivacy), ("unknown", toString call.unknown),
      ("number", describeString call.number),
      ("number_presentation", toString call.numberPresentation),
      ("name", describeString call.name), ("name_presentation", toString call.namePresentation),
      ("uus_info",
        match call.uusInfo with
        | none => "None"
        | some info => "Some(" ++ info.describe ++ ")")]

/-- Measurements of the radio signal. -/
def SignalStrength.describe (signal : SignalStrength) : String :=
  fielded "SignalStrength"
    [("gsm_signal_strength", toString signal.gsmSignalStrength),
      ("gsm_bit_error_rate", toString signal.gsmBitErrorRate),
      ("cdma_dbm", toString signal.cdmaDbm), ("cdma_ecio", toString signal.cdmaEcio),
      ("evdo_dbm", toString signal.evdoDbm), ("evdo_ecio", toString signal.evdoEcio),
      ("evdo_snr", toString signal.evdoSnr)]

/-- A decoded body. -/
def Payload.describe : Payload → String
  | ack => "Ack"
  | cardStatus status => "IccStatus(" ++ status.describe ++ ")"
  | retryCounts counts => "RetryCounts(" ++ describeWords counts ++ ")"
  | currentCalls calls => "CurrentCalls(" ++ listed (calls.map Call.describe) ++ ")"
  | text s => "Text(" ++ describeString s ++ ")"
  | signalStrength signal => "SignalStrength(" ++ signal.describe ++ ")"
  | strings ss => "Strings(" ++ listed (ss.map describeString) ++ ")"
  | smsSent outcome =>
    fielded "SmsSent"
      [("message_ref", toString outcome.messageRef),
        ("ack_pdu", describeString outcome.ackPdu),
        ("error_code", toString outcome.errorCode)]
  | integers ns => "Integers(" ++ describeWords ns ++ ")"
  | radioState state => "RadioState(" ++ toString state ++ ")"

/-- An event. -/
def Event.describe : Event → String
  | response request token payload =>
    fielded "Response"
      [("request", toString request), ("token", toString token), ("payload", payload.describe)]
  | requestFailed request token error =>
    fielded "RequestFailed"
      [("request", toString request), ("token", toString token), ("error", toString error)]
  | responseMalformed request token reason =>
    fielded "ResponseMalformed"
      [("request", toString request), ("token", toString token), ("reason", quoted reason)]
  | notification type payload =>
    fielded "Notification" [("kind", toString type), ("payload", payload.describe)]

end ParcelLink
