import ParcelLink.Fault

/-!
# Reading numbers from a source of bytes

A `Reading α` is a program that asks a source of bytes for numbers of a given width, or for how many
bytes are left, and ends in an `α`. It is a tree, so the same reading runs on every kind of source:
a span of bytes (`Span`), the ring of incoming bytes (`Ring`), or the window on the ring that holds
one parcel (`Window`). A reading sees a failed request as an answer like any other and may go on.

A `Decoder α` is a reading that may also end in a fault, at which the rest of the decoder is skipped.

## Main definitions

* `Source`: what a source offers, and `Source.take`, a number of a given width from it.
* `Reading`, `Reading.run`: programs of requests, and how a source answers them.
* `Decoder`: readings that may fail.

`Reading.run_bind` says that a source answers the parts of a reading one after the other.
-/

namespace ParcelLink

/-! ### Sources -/

/-- A source of bytes that are read in order. -/
class Source (σ : Type) where
  /-- How many bytes are left. -/
  left : σ → Nat
  /-- The next byte, and the source behind it. -/
  next? : σ → Option (UInt8 × σ)
  /-- Whether a field is refused untouched unless all of it is there. Otherwise it is read byte by
  byte, and one that is cut short uses up the bytes that were there. -/
  whole : Bool

namespace Source

variable {σ : Type}

/-- A number of `width` bytes, least significant first, read byte by byte. -/
def takeBytes [Source σ] : Nat → σ → Except Fault Nat × σ
  | 0, s => (.ok 0, s)
  | width + 1, s =>
    match next? s with
    | none => (.error (.truncated 1 0), s)
    | some (b, s) =>
      match takeBytes width s with
      | (.ok n, s) => (.ok (b.toNat + 256 * n), s)
      | (.error fault, s) => (.error fault, s)

/-- A number of `width` bytes, least significant first. -/
def take [Source σ] (width : Nat) (s : σ) : Except Fault Nat × σ :=
  if whole σ = true ∧ left s < width then (.error (.truncated width (left s)), s)
  else takeBytes width s

end Source

/-! ### Readings -/

/-- A program of requests to a source of bytes that ends in an `α`. -/
inductive Reading (α : Type) where
  /-- Ends with a value. -/
  | done (value : α)
  /-- Asks how many bytes are left. -/
  | left (next : Nat → Reading α)
  /-- Asks for a number of `width` bytes, least significant first. -/
  | take (width : Nat) (next : Except Fault Nat → Reading α)

namespace Reading

variable {α β σ : Type}

/-- One reading, then another that depends on its value. -/
def bind : Reading α → (α → Reading β) → Reading β
  | done value, f => f value
  | left next, f => left fun n ↦ (next n).bind f
  | take width next, f => take width fun answer ↦ (next answer).bind f

instance : Monad Reading where
  pure := done
  bind := bind

/-- The end of a reading on a source, and the source behind it. -/
def run [Source σ] : Reading α → σ → α × σ
  | done value, s => (value, s)
  | left next, s => (next (Source.left s)).run s
  | take width next, s =>
    let (answer, s) := Source.take width s
    (next answer).run s

/-- The number of bytes that are left. -/
def remaining : Reading Nat := left done

/-- A number of `width` bytes, or why there is none. -/
def number (width : Nat) : Reading (Except Fault Nat) := take width done

/-- The next `count` bytes in front of those read so far, or as many as there are. -/
def bytesOnto : Nat → List UInt8 → Reading (List UInt8)
  | 0, read => done read.reverse
  | count + 1, read => take 1 fun
    | .ok n => bytesOnto count (UInt8.ofNat n :: read)
    | .error _ => done read.reverse

/-- All bytes that are left. -/
def rest : Reading (List UInt8) := left fun count ↦ bytesOnto count []

/-! ### How a source answers -/

@[simp] theorem run_pure [Source σ] (value : α) (s : σ) :
    (pure value : Reading α).run s = (value, s) := rfl

/-- A source answers the first part of a reading, and then the second from where that ended. -/
@[simp] theorem run_bind [Source σ] (x : Reading α) (f : α → Reading β) (s : σ) :
    (x >>= f).run s = (f (x.run s).1).run (x.run s).2 := by
  show (x.bind f).run s = _
  induction x generalizing s with
  | done value => rfl
  | left next ih => exact ih _ s
  | take width next ih => exact ih _ _

theorem bind_pure_eq (x : Reading α) : x.bind done = x := by
  induction x with
  | done value => rfl
  | left next ih => exact congrArg left (funext ih)
  | take width next ih => exact congrArg (take width) (funext ih)

theorem bind_assoc_eq {γ : Type} (x : Reading α) (f : α → Reading β) (g : β → Reading γ) :
    (x.bind f).bind g = x.bind fun a ↦ (f a).bind g := by
  induction x with
  | done value => rfl
  | left next ih => exact congrArg left (funext ih)
  | take width next ih => exact congrArg (take width) (funext ih)

instance : LawfulMonad Reading :=
  LawfulMonad.mk' Reading bind_pure_eq (fun _ _ ↦ rfl) bind_assoc_eq

end Reading

/-! ### Decoders -/

/-- A reading that may fail before its value. -/
abbrev Decoder (α : Type) := ExceptT Fault Reading α

namespace Decoder

variable {α : Type}

/-- A decoder that fails without reading. -/
def fail (cause : Fault) : Decoder α := throw cause

/-- A number of `width` bytes, least significant first. -/
def number (width : Nat) : Decoder Nat := ExceptT.mk (Reading.number width)

/-- How many bytes are left. -/
def remaining : Decoder Nat := liftM Reading.remaining

/-- `count` items in front of those read so far, which come in reverse. -/
def manyOnto (item : Decoder α) : Nat → List α → Decoder (List α)
  | 0, read => pure read.reverse
  | count + 1, read => do manyOnto item count ((← item) :: read)

/-- `count` items, one after the other. -/
def many (item : Decoder α) (count : Nat) : Decoder (List α) := manyOnto item count []

end Decoder

end ParcelLink
