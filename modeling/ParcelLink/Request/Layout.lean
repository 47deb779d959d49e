import ParcelLink.Request

/-!
# Reading requests back

A modem that gets a parcel knows from its type which arguments follow, and from the arguments which
request it is. `Request.layout` and `Request.ofArguments?` say how, so that nothing of a request is lost
on the wire.

## Main definitions

* `Request.layout`: the kinds of the arguments, by the type of the request.
* `Request.ofArguments?`: the request with a type and arguments.

`Request.kind_arguments` and `Request.ofArguments?_arguments` say that both fit what is written.
-/

namespace ParcelLink.Request

/-- The kinds of the arguments of the requests that have any. -/
def layouts : List (ParcelType × List Kind) :=
  [(.enterSimPin, [.u32, .string]), (.radioPower, [.words]), (.screenState, [.words]),
    (.setMute, [.words]), (.dial, [.string, .u32, .u32, .u32]), (.hangup, [.words]),
    (.sendSms, [.u32, .string, .string]), (.dtmfStart, [.string]), (.dtmf, [.string])]

/-- The kinds of the arguments of a request, by its type. -/
def layout (type : ParcelType) : List Kind := (layouts.lookup type).getD []

/-- The requests without arguments, by their types. -/
def bare : List (ParcelType × Request) :=
  [getIccStatus, getRegistrationState, getGprsRegistrationState, getOperator,
    getNetworkSelectionMode, getCurrentCalls, getSignalStrength, getImei, getImeisv, getImsi,
    getBasebandVersion, getDeviceIdentity, answerCall, rejectCall, stopTone].map
    fun request ↦ (request.type, request)

/-- The request with one number in a list. -/
def ofWord? (type : ParcelType) (n : UInt32) : Option Request :=
  if type = .radioPower then some (setRadioPower (n != 0))
  else if type = .screenState then some (setScreenState (n != 0))
  else if type = .setMute then some (setMute (n != 0))
  else if type = .hangup then some (hangUp n)
  else none

/-- The request with a tone. -/
def ofTone? (type : ParcelType) (tone : Char) : Option Request :=
  if type = .dtmfStart then some (startTone tone)
  else if type = .dtmf then some (sendTone tone)
  else none

/-- The request with a type and arguments. -/
def ofArguments? (type : ParcelType) : List Value → Option Request
  | [] => bare.lookup type
  | [.words [n]] => ofWord? type n
  | [.string (some s)] =>
    match s.toList with
    | [tone] => ofTone? type tone
    | _ => none
  | [.u32 1, .string (some pin)] => if type = .enterSimPin then some (enterIccPin pin) else none
  | [.u32 2, .string (some smscPdu), .string (some pdu)] =>
    if type = .sendSms then some (sendSms smscPdu pdu) else none
  | [.string (some address), .u32 clirMode, .u32 uusInfo, .u32 0] =>
    if type = .dial then some (dial address clirMode uusInfo) else none
  | _ => none

/-- **The arguments of a request are of the kinds that its type tells.** -/
theorem kind_arguments (request : Request) :
    request.arguments.map Value.kind = layout request.type := by
  cases request <;> rfl

/-- **A request is known by its type and its arguments.** -/
theorem ofArguments?_arguments (request : Request) :
    ofArguments? request.type request.arguments = some request := by
  cases request with
  | setRadioPower on | setScreenState on | setMute on => cases on <;> rfl
  | startTone tone | sendTone tone =>
    simp only [ofArguments?, arguments, type, Char.toString, String.toList_singleton]
    rfl
  | _ => rfl

end ParcelLink.Request
