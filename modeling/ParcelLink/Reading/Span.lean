import ParcelLink.Octets
import ParcelLink.Reading

/-!
# Spans of bytes

A `Span` is a source over bytes that are all there, with a count of those already read. Its fields
are read byte by byte.
-/

namespace ParcelLink

/-- Bytes to be read, and how many were read before them. -/
structure Span where
  /-- The bytes not yet read. -/
  rest : Octets
  /-- How many bytes have been read. -/
  position : Nat := 0
  deriving DecidableEq, Repr

namespace Span

/-- A span over some bytes, none of them read. -/
def ofOctets (bytes : Octets) : Span := ⟨bytes, 0⟩

/-- The next byte. -/
def next? : Span → Option (UInt8 × Span)
  | ⟨[], _⟩ => none
  | ⟨b :: rest, position⟩ => some (b, ⟨rest, position + 1⟩)

instance : Source Span where
  left s := s.rest.length
  next? := next?
  whole := false

end Span

end ParcelLink
