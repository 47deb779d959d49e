import ParcelLink.Keyed
import ParcelLink.ParcelType
import ParcelLink.Payload.Decoders
import ParcelLink.Text.Quoted

/-!
# The registry of decoders

Which decoder reads the bodies of which parcel type. A type without a decoder is known to the link
but its bodies are not looked at. Users register decoders of their own, so one that crashes is
reckoned with: a `BodyDecoder` ends in a payload, a fault, or a crash, and `Registry.decode` turns
the crash into a fault that names the type.
-/

namespace ParcelLink

/-! ### Decoders of whole bodies -/

/-- How the decoder of a body can end without a payload. -/
inductive Halt where
  /-- It failed, and says why. -/
  | fault (cause : Fault)
  /-- It ended without an outcome. -/
  | crash
  deriving DecidableEq, Repr

/-- Why there is no payload, for a parcel of a type. -/
def Halt.cause (type : ParcelType) : Halt → Fault
  | fault cause => cause
  | crash => .decoderCrashed type

/-- A reading of a body that may fail or crash. -/
abbrev BodyDecoder := ExceptT Halt Reading Payload

namespace BodyDecoder

/-- A decoder that does not crash. -/
def ofDecoder (decoder : Decoder Payload) : BodyDecoder :=
  ExceptT.mk (Except.mapError Halt.fault <$> decoder.run)

/-- A decoder that crashes without reading. -/
def crash : BodyDecoder := throw .crash

end BodyDecoder

/-! ### The registry -/

/-- A decoder for each of some parcel types. -/
structure Registry where
  /-- The decoders, by parcel type. -/
  decoders : Keyed BodyDecoder := Keyed.empty

namespace Registry

/-- The registry without any decoder. -/
def empty : Registry := ⟨Keyed.empty⟩

/-- The decoder of a type. -/
def decoder? (r : Registry) (type : ParcelType) : Option BodyDecoder := r.decoders.find? type

/-- Whether a type has a decoder. -/
def contains (r : Registry) (type : ParcelType) : Bool := r.decoders.contains type

/-- How many types have a decoder. -/
def size (r : Registry) : Nat := r.decoders.size

/-- Give a type a decoder, in place of the one it had. -/
def register (r : Registry) (type : ParcelType) (decoder : BodyDecoder) : Registry :=
  ⟨r.decoders.put type decoder⟩

/-- Take the decoder of a type away. -/
def unregister (r : Registry) (type : ParcelType) : Registry := ⟨r.decoders.erase type⟩

/-- The types that have a decoder, in ascending order. -/
def types (r : Registry) : List ParcelType := r.decoders.keys.mergeSort (· ≤ ·)

/-- Read a body with the decoder of its type: nothing is read if there is none. -/
def decode (r : Registry) (type : ParcelType) : Reading (Option (Except Fault Payload)) :=
  match r.decoder? type with
  | none => return none
  | some decoder => (fun outcome ↦ some (outcome.mapError (Halt.cause type))) <$> decoder.run

/-- The names of the types that have a decoder, as the log shows them. -/
def describe (r : Registry) : String :=
  Text.listed (r.types.map fun type ↦ Text.quoted (type.name?.getD "?"))

/-- The decoders that a modem's common answers and notifications need. -/
def standard : Registry :=
  let entries : List (ParcelType × Decoder Payload) :=
    [(.getSimStatus, Payload.cardStatusDecoder), (.enterSimPin, Payload.retryCountsDecoder),
      (.getCurrentCalls, Payload.currentCallsDecoder),
      (.signalStrength, Payload.signalStrengthDecoder), (.sendSms, Payload.smsSentDecoder),
      (.queryNetworkSelectionMode, Payload.integersDecoder),
      (.dial, Payload.ackDecoder), (.hangup, Payload.ackDecoder), (.udub, Payload.ackDecoder),
      (.dtmf, Payload.ackDecoder), (.answer, Payload.ackDecoder),
      (.dtmfStart, Payload.ackDecoder), (.dtmfStop, Payload.ackDecoder),
      (.setMute, Payload.ackDecoder), (.callStateChanged, Payload.ackDecoder),
      (.networkStateChanged, Payload.ackDecoder), (.callRing, Payload.ackDecoder),
      (.getImsi, Payload.textDecoder), (.getImei, Payload.textDecoder),
      (.getImeisv, Payload.textDecoder), (.basebandVersion, Payload.textDecoder),
      (.registrationState, Payload.stringsDecoder),
      (.gprsRegistrationState, Payload.stringsDecoder), (.operator, Payload.stringsDecoder),
      (.radioStateChanged, Payload.radioStateDecoder),
      (.signalStrengthReport, Payload.signalStrengthDecoder)]
  entries.foldl (fun r entry ↦ r.register entry.1 (.ofDecoder entry.2)) empty

end Registry

end ParcelLink
