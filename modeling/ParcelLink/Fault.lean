/-!
# Causes of failure

Every operation of the link that can fail says why with a `Fault`. The wording of each cause is in
one place, `Fault.message`.
-/

namespace ParcelLink

/-- Why an operation failed. -/
inductive Fault where
  /-- The socket reported a failure of its own. -/
  | io (cause : String)
  /-- A read asked for more bytes than were left. -/
  | truncated (needed remaining : Nat)
  /-- A string was not followed by zero units; their bits, or-ed together. -/
  | malformedString (delimiter : UInt32)
  /-- A size announced a parcel above the limit. -/
  | parcelTooLarge (size limit : Nat)
  /-- A parcel was neither an answer nor a notification. -/
  | unknownResponseType (type : UInt32)
  /-- The decoder of a parcel type stopped without an outcome. -/
  | decoderCrashed (type : UInt32)
  /-- An answer carried a token that no pending request has. -/
  | unknownToken (token : UInt32)
  /-- The other side is gone. -/
  | connectionClosed
  /-- No room for another parcel came up in time. -/
  | backpressureTimeout
  deriving DecidableEq, Repr

namespace Fault

/-- A number in lowercase hexadecimal digits behind `0x`, without leading zeros. -/
def hexText (n : Nat) : String := "0x" ++ String.ofList (Nat.toDigits 16 n)

/-- The text that is shown for a cause. -/
def message : Fault → String
  | io cause => s!"I/O error: {cause}"
  | truncated needed remaining =>
    s!"Parcel truncated: needed {needed} bytes, {remaining} remaining"
  | malformedString delimiter => "Malformed string delimiter: " ++ hexText delimiter.toNat
  | parcelTooLarge size limit => s!"Parcel size {size} exceeds maximum {limit}"
  | unknownResponseType type => s!"Unknown response type: {type}"
  | decoderCrashed type => s!"Decoder for parcel type {type} panicked"
  | unknownToken token => s!"No pending request for token {token}"
  | connectionClosed => "Connection closed"
  | backpressureTimeout => "Backpressure timeout"

end Fault

/-- Outcomes can be compared. -/
instance Fault.decidableEqOutcome {α : Type} [DecidableEq α] : DecidableEq (Except Fault α)
  | .ok a, .ok b => decidable_of_iff (a = b) (by simp)
  | .error cause, .error cause' => decidable_of_iff (cause = cause') (by simp)
  | .ok _, .error _ => isFalse nofun
  | .error _, .ok _ => isFalse nofun

end ParcelLink
