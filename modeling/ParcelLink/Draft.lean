import ParcelLink.Capacity
import ParcelLink.Notice
import ParcelLink.Octets

/-!
# Drafts of outgoing parcels

An outgoing parcel is put together in a buffer that is used again for the next one. The first four
bytes are kept for the size, which is known only at the end; `Draft.finish` stamps it, hands out the
parcel and starts over. A draft grows as bytes are written, and what earlier parcels left behind its
end is never handed out.

## Main definitions

* `Draft`: the buffer and the end of what has been written.
* `Draft.written`: the size and the body so far.
* `Draft.write`, `Draft.stampSize`, `Draft.reset`, `Draft.finish`: the operations.
-/

namespace ParcelLink

/-- How many bytes the size in front of a parcel takes. -/
def sizeWidth : Nat := 4

/-- A buffer for one outgoing parcel at a time. -/
structure Draft where
  /-- All bytes of the buffer, written for this parcel or not. -/
  bytes : Array UInt8
  /-- Where the next byte goes. -/
  length : Nat
  deriving DecidableEq, Repr

namespace Draft

/-- The capacity of a draft, unless another is asked for. -/
def defaultCapacity : Nat := 1024

/-- How many bytes the buffer holds. -/
def capacity (d : Draft) : Nat := d.bytes.size

/-- The size and the body, as far as written. -/
def written (d : Draft) : Octets := (d.bytes.extract 0 d.length).toList

/-- How long the body is so far. -/
def bodyLength (d : Draft) : Nat := d.length - sizeWidth

/-- Whether there is no body yet. -/
def isEmpty (d : Draft) : Bool := d.length == sizeWidth

/-- An empty draft with room for `wanted` bytes. -/
def ofCapacity (wanted : Nat) : Draft :=
  ⟨Array.replicate (Capacity.initial wanted) 0, sizeWidth⟩

/-- The draft with a larger buffer, the smallest that holds `needed` bytes. -/
def grow (d : Draft) (needed : Nat) : Logged Draft :=
  let grown := Capacity.roundUp needed
  { value := { d with bytes := d.bytes ++ Array.replicate (grown - d.capacity) 0 }
    notices := #[.draftGrows d.capacity grown] }

/-- The draft with room for one more byte. -/
def reserve (d : Draft) : Logged Draft :=
  if d.capacity ≤ d.length then d.grow (d.length + 1) else pure d

/-- One more byte of the body. -/
def put (d : Draft) (b : UInt8) : Logged Draft :=
  (fun ⟨bytes, length⟩ ↦ ⟨bytes.setIfInBounds length b, length + 1⟩) <$> d.reserve

/-- More bytes of the body. -/
def write (d : Draft) (bytes : Octets) : Logged Draft := Logged.foldl put d bytes

/-- Write a size in front. The end stays where it is. -/
def stampSize (d : Draft) (size : UInt32) : Draft :=
  let stamp := Octets.big sizeWidth size.toNat
  { d with bytes := (stamp.zipIdx.foldl (fun bytes (b, i) ↦ bytes.setIfInBounds i b) d.bytes) }

/-- Start over with an empty body. -/
def reset (d : Draft) : Draft := { d with length := sizeWidth }

/-- The finished parcel with its size in front, and the draft for the next one. -/
def finish (d : Draft) : Octets × Draft :=
  let stamped := d.stampSize (UInt32.ofNat d.bodyLength)
  (stamped.written, stamped.reset)

end Draft

end ParcelLink
