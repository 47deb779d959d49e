/-!
# Parcel types

A parcel says what it is about by a number. Requests count up from one, notifications from
`ParcelType.notificationBase`; the two tables below hold the names under which both are logged, and
`ParcelType.name?` looks a number up in the table of its range.
-/

namespace ParcelLink

/-- The number of a request or of a notification. -/
abbrev ParcelType := UInt32

namespace ParcelType

/-- The number of the first notification. -/
def notificationBase : ParcelType := 1000

/-! ### Requests that the library builds or decodes -/

def getSimStatus : ParcelType := 1
def enterSimPin : ParcelType := 2
def getCurrentCalls : ParcelType := 9
def dial : ParcelType := 10
def getImsi : ParcelType := 11
def hangup : ParcelType := 12
def udub : ParcelType := 17
def signalStrength : ParcelType := 19
def registrationState : ParcelType := 20
def gprsRegistrationState : ParcelType := 21
def operator : ParcelType := 22
def radioPower : ParcelType := 23
def dtmf : ParcelType := 24
def sendSms : ParcelType := 25
def getImei : ParcelType := 38
def getImeisv : ParcelType := 39
def answer : ParcelType := 40
def queryNetworkSelectionMode : ParcelType := 45
def dtmfStart : ParcelType := 49
def dtmfStop : ParcelType := 50
def basebandVersion : ParcelType := 51
def setMute : ParcelType := 53
def screenState : ParcelType := 61
def deviceIdentity : ParcelType := 98

/-! ### Notifications that the library decodes -/

def radioStateChanged : ParcelType := 1000
def callStateChanged : ParcelType := 1001
def networkStateChanged : ParcelType := 1002
def signalStrengthReport : ParcelType := 1009
def callRing : ParcelType := 1018

/-! ### Names -/

/-- Names of the requests, from number one on. -/
def requestNames : Array String := #[
    "GET_SIM_STATUS", "ENTER_SIM_PIN", "ENTER_SIM_PUK", "ENTER_SIM_PIN2", "ENTER_SIM_PUK2",
    "CHANGE_SIM_PIN", "CHANGE_SIM_PIN2", "ENTER_NETWORK_DEPERSONALIZATION", "GET_CURRENT_CALLS",
    "DIAL", "GET_IMSI", "HANGUP", "HANGUP_WAITING_OR_BACKGROUND",
    "HANGUP_FOREGROUND_RESUME_BACKGROUND", "SWITCH_WAITING_OR_HOLDING_AND_ACTIVE", "CONFERENCE",
    "UDUB", "LAST_CALL_FAIL_CAUSE", "SIGNAL_STRENGTH", "REGISTRATION_STATE",
    "GPRS_REGISTRATION_STATE", "OPERATOR", "RADIO_POWER", "DTMF", "SEND_SMS",
    "SEND_SMS_EXPECT_MORE", "SETUP_DATA_CALL", "SIM_IO", "SEND_USSD", "CANCEL_USSD", "GET_CLIR",
    "SET_CLIR", "QUERY_CALL_FORWARD_STATUS", "SET_CALL_FORWARD", "QUERY_CALL_WAITING",
    "SET_CALL_WAITING", "SMS_ACKNOWLEDGE", "GET_IMEI", "GET_IMEISV", "ANSWER",
    "DEACTIVATE_DATA_CALL", "QUERY_FACILITY_LOCK", "SET_FACILITY_LOCK", "CHANGE_BARRING_PASSWORD",
    "QUERY_NETWORK_SELECTION_MODE", "SET_NETWORK_SELECTION_AUTOMATIC",
    "SET_NETWORK_SELECTION_MANUAL", "QUERY_AVAILABLE_NETWORKS", "DTMF_START", "DTMF_STOP",
    "BASEBAND_VERSION", "SEPARATE_CONNECTION", "SET_MUTE", "GET_MUTE", "QUERY_CLIP",
    "LAST_DATA_CALL_FAIL_CAUSE", "DATA_CALL_LIST", "RESET_RADIO", "OEM_HOOK_RAW",
    "OEM_HOOK_STRINGS", "SCREEN_STATE", "SET_SUPP_SVC_NOTIFICATION", "WRITE_SMS_TO_SIM",
    "DELETE_SMS_ON_SIM", "SET_BAND_MODE", "QUERY_AVAILABLE_BAND_MODE", "STK_GET_PROFILE",
    "STK_SET_PROFILE", "STK_SEND_ENVELOPE_COMMAND", "STK_SEND_TERMINAL_RESPONSE",
    "STK_HANDLE_CALL_SETUP_REQUESTED_FROM_SIM", "EXPLICIT_CALL_TRANSFER",
    "SET_PREFERRED_NETWORK_TYPE", "GET_PREFERRED_NETWORK_TYPE", "GET_NEIGHBORING_CELL_IDS",
    "SET_LOCATION_UPDATES", "CDMA_SET_SUBSCRIPTION", "CDMA_SET_ROAMING_PREFERENCE",
    "CDMA_QUERY_ROAMING_PREFERENCE", "SET_TTY_MODE", "QUERY_TTY_MODE",
    "CDMA_SET_PREFERRED_VOICE_PRIVACY_MODE", "CDMA_QUERY_PREFERRED_VOICE_PRIVACY_MODE",
    "CDMA_FLASH", "CDMA_BURST_DTMF", "CDMA_VALIDATE_AND_WRITE_AKEY", "CDMA_SEND_SMS",
    "CDMA_SMS_ACKNOWLEDGE", "GSM_GET_BROADCAST_SMS_CONFIG", "GSM_SET_BROADCAST_SMS_CONFIG",
    "GSM_SMS_BROADCAST_ACTIVATION", "CDMA_GET_BROADCAST_SMS_CONFIG",
    "CDMA_SET_BROADCAST_SMS_CONFIG", "CDMA_SMS_BROADCAST_ACTIVATION", "CDMA_SUBSCRIPTION",
    "CDMA_WRITE_SMS_TO_RUIM", "CDMA_DELETE_SMS_ON_RUIM", "DEVICE_IDENTITY",
    "EXIT_EMERGENCY_CALLBACK_MODE", "GET_SMSC_ADDRESS", "SET_SMSC_ADDRESS",
    "REPORT_SMS_MEMORY_STATUS", "REPORT_STK_SERVICE_IS_RUNNING"]

/-- Names of the notifications, from `notificationBase` on. -/
def notificationNames : Array String := #[
    "RADIO_STATE_CHANGED", "CALL_STATE_CHANGED", "NETWORK_STATE_CHANGED", "NEW_SMS",
    "NEW_SMS_STATUS_REPORT", "NEW_SMS_ON_SIM", "ON_USSD", "ON_USSD_REQUEST", "NITZ_TIME_RECEIVED",
    "SIGNAL_STRENGTH", "DATA_CALL_LIST_CHANGED", "SUPP_SVC_NOTIFICATION", "STK_SESSION_END",
    "STK_PROACTIVE_COMMAND", "STK_EVENT_NOTIFY", "STK_CALL_SETUP", "SIM_SMS_STORAGE_FULL",
    "SIM_REFRESH", "CALL_RING", "SIM_STATUS_CHANGED", "CDMA_NEW_SMS", "NEW_BROADCAST_SMS",
    "CDMA_RUIM_SMS_STORAGE_FULL", "RESTRICTED_STATE_CHANGED", "ENTER_EMERGENCY_CALLBACK_MODE",
    "CDMA_CALL_WAITING", "CDMA_OTA_PROVISION_STATUS", "CDMA_INFO_REC", "OEM_HOOK_RAW",
    "RINGBACK_TONE", "RESEND_INCALL_MUTE"]

/-- The name of a request or notification, if its number is in a table. -/
def name? (type : ParcelType) : Option String :=
  if notificationBase ≤ type then
    notificationNames[type.toNat - notificationBase.toNat]?
  else if type = 0 then
    none
  else
    requestNames[type.toNat - 1]?

/-- The name by which a type appears in the log. -/
def label (type : ParcelType) : String := (name? type).getD "UNKNOWN"

end ParcelType

end ParcelLink
