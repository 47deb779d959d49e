import ParcelLink.Ring

/-!
# Windows on the ring

The handler of a parcel reads it through a `Window`, which ends where the parcel ends: it gives out
no byte behind that place, whatever the ring holds there. A field that is not in the window in full
is refused and leaves the window as it is.
-/

namespace ParcelLink

/-- The next `remaining` unread bytes of a ring. -/
structure Window where
  /-- The ring, from which every byte read through the window is gone. -/
  ring : Ring
  /-- How many bytes of the window have not been read. -/
  remaining : Nat
  /-- How many bytes have been read through the window. -/
  consumed : Nat := 0
  deriving DecidableEq, Repr

namespace Window

/-- The window on the next `length` unread bytes. -/
def ofRing (ring : Ring) (length : Nat) : Window := ⟨ring, length, 0⟩

/-- The next byte of the window. -/
def next? (w : Window) : Option (UInt8 × Window) :=
  if w.remaining = 0 then none
  else w.ring.next?.map fun (b, ring) ↦ (b, ⟨ring, w.remaining - 1, w.consumed + 1⟩)

instance : Source Window where
  left := remaining
  next? := next?
  whole := true

end Window

end ParcelLink
