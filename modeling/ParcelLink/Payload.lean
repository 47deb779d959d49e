/-!
# Decoded bodies

What the body of an answer or of a notification says, by the shape of the body.
-/

namespace ParcelLink

/-- An application on the SIM card. -/
structure CardApp where
  appType : UInt32
  appState : UInt32
  persoSubstate : UInt32
  /-- The application identifier. -/
  aid : Option String
  appLabel : Option String
  pin1Replaced : UInt32
  pin1 : UInt32
  pin2 : UInt32
  deriving DecidableEq, Repr

/-- The state of the SIM card and of the applications on it. -/
structure CardStatus where
  cardState : UInt32
  universalPinState : UInt32
  gsmUmtsSubscriptionAppIndex : UInt32
  cdmaSubscriptionAppIndex : UInt32
  apps : List CardApp
  deriving DecidableEq, Repr

/-- User-to-user signalling that comes with a call. -/
structure UusInfo where
  uusType : UInt32
  dcs : UInt32
  deriving DecidableEq, Repr

/-- A call known to the modem. -/
structure Call where
  state : UInt32
  /-- The index of the call, from one on. -/
  index : UInt32
  toa : UInt32
  isMpty : Bool
  isMt : Bool
  als : UInt32
  isVoice : Bool
  isVoicePrivacy : Bool
  /-- A field that modems send without a known meaning. -/
  unknown : UInt32
  number : Option String
  numberPresentation : UInt32
  name : Option String
  namePresentation : UInt32
  uusInfo : Option UusInfo
  deriving DecidableEq, Repr

/-- Measurements of the radio signal. -/
structure SignalStrength where
  /-- From 0 to 31, or 99. -/
  gsmSignalStrength : UInt32
  /-- From 0 to 7, or 99. -/
  gsmBitErrorRate : UInt32
  cdmaDbm : UInt32
  cdmaEcio : UInt32
  evdoDbm : UInt32
  evdoEcio : UInt32
  /-- From 0 to 8, the clearest signal. -/
  evdoSnr : UInt32
  deriving DecidableEq, Repr

/-- What became of a message that was sent. -/
structure SmsSent where
  messageRef : UInt32
  ackPdu : Option String
  errorCode : UInt32
  deriving DecidableEq, Repr

/-- The decoded body of an answer or notification. -/
inductive Payload where
  /-- There is nothing to be said beyond the header. -/
  | ack
  | cardStatus (status : CardStatus)
  /-- How many tries are left for each PIN. -/
  | retryCounts (counts : List UInt32)
  | currentCalls (calls : List Call)
  /-- One string. -/
  | text (s : Option String)
  | signalStrength (signal : SignalStrength)
  /-- Strings such as the names of an operator. -/
  | strings (ss : List (Option String))
  | smsSent (outcome : SmsSent)
  | integers (ns : List UInt32)
  | radioState (state : UInt32)
  deriving DecidableEq, Repr

end ParcelLink
