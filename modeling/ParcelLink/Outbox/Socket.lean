import ParcelLink.Fault

/-!
# Sockets, as a writer sees them

A socket is known by its answers. Asked to write, it takes some of the bytes that it is offered, or
takes no more bytes at all, or fails, or lets the writer wait; asked to flush, it is done, or fails,
or lets the writer wait. Which answer comes depends on how many bytes are offered and on nothing
else, so that a socket which changes its mind is several sockets, one after the other.

## Main definitions

* `Socket`: the answers of a socket.
* `Socket.taking`, `Socket.stalled`, `Socket.broken`, `Socket.shut`: sockets of each kind.
-/

namespace ParcelLink

/-- The answer of a socket to a write. -/
inductive Socket.WriteAnswer where
  /-- It takes so many bytes of those offered, first bytes first. -/
  | took (count : Nat)
  /-- It takes no more bytes. -/
  | shut
  /-- It fails. -/
  | failed (cause : Fault)
  /-- Nothing yet. -/
  | waiting
  deriving DecidableEq, Repr

/-- The answer of a socket to a flush. -/
inductive Socket.FlushAnswer where
  /-- All bytes are on their way. -/
  | done
  /-- It fails. -/
  | failed (cause : Fault)
  /-- Nothing yet. -/
  | waiting
  deriving DecidableEq, Repr

/-- A socket, as far as a writer can tell. -/
structure Socket where
  /-- The answer to a write of so many bytes. -/
  onWrite : Nat → Socket.WriteAnswer
  /-- The answer to a flush. -/
  onFlush : Socket.FlushAnswer

namespace Socket

/-- A socket that takes every byte, or up to a limit of them at a time. -/
def taking (limit? : Option Nat) : Socket :=
  { onWrite := fun offered ↦ .took ((limit?.map (min · offered)).getD offered)
    onFlush := .done }

/-- A socket that lets every write wait. -/
def stalled : Socket := ⟨fun _ ↦ .waiting, .done⟩

/-- A socket that fails every write. -/
def broken (cause : Fault) : Socket := ⟨fun _ ↦ .failed cause, .done⟩

/-- A socket that takes no more bytes. -/
def shut : Socket := ⟨fun _ ↦ .shut, .done⟩

end Socket

end ParcelLink
