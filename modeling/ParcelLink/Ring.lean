import ParcelLink.Capacity
import ParcelLink.Notice
import ParcelLink.Octets
import ParcelLink.Reading

/-!
# The ring of incoming bytes

Bytes that came in wait in a circular buffer until they are read. The ring is a first-in first-out
queue: `Ring.contents` lists the unread bytes in the order in which they will be read, and every
operation is known by what it does to that list. Writing appends a chunk and grows the ring first if
the chunk does not fit; the bytes behind the unread ones keep whatever was written there before.

## Main definitions

* `Ring`: the buffer, the place of the next byte to be read and of the next to be written, and the
  count of unread bytes, without which a full ring could not be told from an empty one.
* `Ring.contents`: the unread bytes in order.
* `Ring.Valid`: how the places and the count hang together.
* `Ring.write`, `Ring.next?`, `Ring.peek`, `Ring.reposition`, `Ring.clear`: the operations.

A ring is a `Source` whose fields are read byte by byte.
-/

namespace ParcelLink

/-- A circular buffer of bytes. -/
structure Ring where
  /-- All bytes of the buffer, unread or not. -/
  bytes : Array UInt8
  /-- Where the next incoming byte goes. -/
  writeIndex : Nat
  /-- Where the next byte is read. -/
  readIndex : Nat
  /-- How many bytes have been written but not read. -/
  unread : Nat
  deriving DecidableEq, Repr

namespace Ring

/-! ### Views -/

/-- How many bytes the buffer holds. -/
def capacity (r : Ring) : Nat := r.bytes.size

/-- The place `offset` bytes behind the next byte to be read, around the end. -/
def indexAfter (r : Ring) (offset : Nat) : Nat := (r.readIndex + offset) % r.capacity

/-- The byte `offset` places behind the next byte to be read. -/
def slot (r : Ring) (offset : Nat) : UInt8 := r.bytes.getD (r.indexAfter offset) 0

/-- The next unread bytes, up to `count` of them. -/
def peek (r : Ring) (count : Nat) : Octets := (List.range (min count r.unread)).map r.slot

/-- The unread bytes, in the order in which they will be read. -/
def contents (r : Ring) : Octets := (List.range r.unread).map r.slot

/-- The buffer is a power of two and has room for a size, both places lie in it, and the next byte
goes right behind the unread ones, of which there are no more than fit. -/
structure Valid (r : Ring) : Prop where
  capacity_eq : ∃ k, r.capacity = Nat.pow 2 k
  four_le : 4 ≤ r.capacity
  readIndex_lt : r.readIndex < r.capacity
  unread_le : r.unread ≤ r.capacity
  writeIndex_eq : r.writeIndex = r.indexAfter r.unread

/-! ### Operations -/

/-- An empty ring with room for `wanted` bytes. -/
def ofCapacity (wanted : Nat) : Ring :=
  { bytes := Array.replicate (Capacity.initial wanted) 0
    writeIndex := 0
    readIndex := 0
    unread := 0 }

/-- The ring with a larger buffer, the smallest that holds `needed` bytes. The unread bytes move to
its front. -/
def grow (r : Ring) (needed : Nat) : Logged Ring :=
  let grown := Capacity.roundUp needed
  { value :=
      { bytes := (r.contents ++ List.replicate (grown - r.unread) 0).toArray
        writeIndex := r.unread
        readIndex := 0
        unread := r.unread }
    notices := #[.ringGrows r.capacity needed grown] }

/-- The ring with room for `count` more bytes. -/
def reserve (r : Ring) (count : Nat) : Logged Ring :=
  if r.capacity < r.unread + count then r.grow (r.unread + count) else pure r

/-- One more byte behind the unread ones. The caller has made room for it. -/
def put (r : Ring) (b : UInt8) : Ring :=
  let ⟨bytes, writeIndex, readIndex, unread⟩ := r
  let next := (writeIndex + 1) % bytes.size
  { bytes := bytes.setIfInBounds writeIndex b
    writeIndex := next
    readIndex := readIndex
    unread := unread + 1 }

/-- A chunk behind the unread bytes. -/
def write (r : Ring) (chunk : Octets) : Logged Ring :=
  (fun room ↦ chunk.foldl put room) <$> r.reserve chunk.length

/-- The next byte, and the ring behind it. -/
def next? (r : Ring) : Option (UInt8 × Ring) :=
  if r.unread = 0 then none
  else some (r.slot 0, { r with readIndex := r.indexAfter 1, unread := r.unread - 1 })

/-- Go on reading at a place that has `unread` bytes behind it. -/
def reposition (r : Ring) (index unread : Nat) : Ring :=
  { r with readIndex := index % r.capacity, unread := unread }

/-- Skip the next `count` bytes. -/
def skip (r : Ring) (count : Nat) : Ring := r.reposition (r.indexAfter count) (r.unread - count)

/-- Forget the unread bytes. -/
def clear (r : Ring) : Ring := { r with writeIndex := 0, readIndex := 0, unread := 0 }

/-- Whether there is nothing to read. -/
def isEmpty (r : Ring) : Bool := r.unread == 0

instance : Source Ring where
  left := unread
  next? := next?
  whole := false

end Ring

end ParcelLink
