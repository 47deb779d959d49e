import ParcelLink.Draft
import ParcelLink.Ring.Window

/-!
# Framing incoming bytes into parcels

On the wire a parcel is its size in four bytes, most significant first, and a body of that many
bytes. Chunks arrive cut anywhere. A `Framer` gathers them in a ring and gives every body that is
complete to a handler, as a window on the ring.

The framer alone decides where a parcel ends: before the handler runs it notes the place behind the
body, and there it goes on, whatever the handler has read. So a handler that reads too little, or
tries to read too much, does not touch the parcels behind its own.

A size above the limit is taken for garbage, behind which no boundary can be found. Everything
buffered is thrown away, and framing starts over with the next chunk.

## Main definitions

* `Framer`, `Framer.Phase`: the ring and whether a size or a body comes next.
* `Framer.advance`: frame one parcel, if all of it is there.
* `Framer.push`: take in a chunk and frame every parcel that it completes.

`Framer.push` ends since each parcel leaves less to be done (`Framer.work_lt_of_advance`).
-/

namespace ParcelLink

/-- What a framer waits for. -/
inductive Framer.Phase where
  /-- The size of the next parcel. -/
  | awaitingSize
  /-- The body of a parcel whose size has been read. -/
  | awaitingBody (size : Nat)
  deriving DecidableEq, Repr

/-- Received bytes on their way into parcels. -/
structure Framer where
  /-- The bytes received but not yet handed out. -/
  ring : Ring
  /-- What comes next. -/
  phase : Framer.Phase
  /-- The largest size that is believed. -/
  limit : Nat
  deriving DecidableEq, Repr

namespace Framer

variable {σ : Type}

/-- The capacity of the ring, unless another is asked for. -/
def defaultCapacity : Nat := 1024

/-- The largest size that is believed, unless another is asked for. -/
def defaultLimit : Nat := 1024 * 1024

/-- A framer without any bytes. -/
def ofCapacity (capacity limit : Nat) : Framer := ⟨Ring.ofCapacity capacity, .awaitingSize, limit⟩

/-- How many bytes wait to be framed. A size that has been read is not among them. -/
def pending (f : Framer) : Nat := f.ring.unread

/-- The size of the parcel whose body is awaited. -/
def currentSize? (f : Framer) : Option Nat :=
  match f.phase with
  | .awaitingSize => none
  | .awaitingBody size => some size

/-- Whether the framer is between parcels with nothing buffered. -/
def isEmpty (f : Framer) : Bool := f.ring.isEmpty && f.phase == .awaitingSize

/-- Forget all bytes and wait for a size. -/
def clear (f : Framer) : Framer := { f with ring := f.ring.clear, phase := .awaitingSize }

/-! ### One parcel -/

/-- Read the size of the next parcel unless it has been read. There is none if it is not there yet,
or if it is not believed; then everything buffered is thrown away. -/
def nextSize (f : Framer) : Logged (Framer × Option Nat) :=
  match f.phase with
  | .awaitingBody size => pure (f, some size)
  | .awaitingSize =>
    if f.ring.unread < sizeWidth then ⟨(f, none), #[.sizeUnknown]⟩
    else
      let size := Octets.ofBig (f.ring.peek sizeWidth)
      let ring := f.ring.skip sizeWidth
      if f.limit < size then
        ⟨({ f with ring := ring }.clear, none),
          #[.discarded ring.unread (.parcelTooLarge size f.limit)]⟩
      else
        ⟨({ f with ring := ring, phase := .awaitingBody size }, some size),
          #[.parcelAnnounced size]⟩

/-- Give a body that is there to the handler, and go on behind it. -/
def deliver (f : Framer) (size : Nat) (handler : σ → Reading (Logged σ)) (state : σ) :
    Logged (Framer × σ) :=
  let behind := f.ring.indexAfter size
  let left := f.ring.unread - size
  let (outcome, window) := (handler state).run (Window.ofRing f.ring size)
  let leftOver := if window.consumed = size then #[] else #[.leftOver (size - window.consumed)]
  { value :=
      ({ f with ring := window.ring.reposition behind left, phase := .awaitingSize },
        outcome.value)
    notices := outcome.notices ++ leftOver }

/-- Frame one parcel if all of it is there, and give what the handler made of it. -/
def advance (f : Framer) (handler : σ → Reading (Logged σ)) (state : σ) :
    Logged (Framer × Option σ) := do
  let (f, size?) ← f.nextSize
  match size? with
  | none => return (f, none)
  | some size =>
    if f.ring.unread < size then
      Logged.note (.bodyIncomplete f.ring.unread size)
      return (f, none)
    else
      let (f, state) ← f.deliver size handler state
      return (f, some state)

/-! ### All parcels -/

/-- What is left to be done: bytes to be framed, and a size that has been read. -/
def work (f : Framer) : Nat :=
  match f.phase with
  | .awaitingSize => 2 * f.ring.unread
  | .awaitingBody _ => 2 * f.ring.unread + 1

theorem work_nextSize_lt {f f' : Framer} {size : Nat} (h : f.nextSize.value = (f', some size)) :
    f'.phase = .awaitingBody size ∧ f'.work ≤ f.work := by
  unfold nextSize at h
  split at h
  · next size' hp =>
    simp only [Logged.value_pure, Prod.mk.injEq, Option.some.injEq] at h
    obtain ⟨rfl, rfl⟩ := h
    exact ⟨hp, Nat.le_refl _⟩
  · next hp =>
    split at h
    · simp at h
    · next hr =>
      simp only at h
      split at h
      · simp at h
      · simp only [Prod.mk.injEq, Option.some.injEq] at h
        obtain ⟨rfl, rfl⟩ := h
        refine ⟨rfl, ?_⟩
        simp only [work, hp, Ring.skip, Ring.reposition, sizeWidth] at hr ⊢
        omega

/-- **A parcel that is framed leaves less to be done.** -/
theorem work_lt_of_advance {f f' : Framer} {handler : σ → Reading (Logged σ)} {state state' : σ}
    (h : (f.advance handler state).value = (f', some state')) : f'.work < f.work := by
  simp only [advance, Logged.value_bind] at h
  generalize hn : f.nextSize.value = next at h
  obtain ⟨f₁, _ | size⟩ := next
  · simp at h
  · obtain ⟨hp, hw⟩ := work_nextSize_lt hn
    simp only at h
    split at h
    · simp at h
    · simp only [Logged.value_bind, Logged.value_pure, deliver, Prod.mk.injEq] at h
      obtain ⟨rfl, -⟩ := h
      have h₁ : f₁.work = 2 * f₁.ring.unread + 1 := by simp [work, hp]
      refine Nat.lt_of_lt_of_le ?_ hw
      rw [h₁]
      simp only [work, Ring.reposition]
      omega

/-- Frame parcels until one is incomplete. Gives the framer, the state that the handlers left, how
many parcels there were in all, and the notices so far. -/
def drain (handler : σ → Reading (Logged σ)) (f : Framer) (state : σ) (count : Nat)
    (notices : Array Notice) : Logged (Framer × σ × Nat) :=
  match _h : f.advance handler state with
  | ⟨(f', none), more⟩ => ⟨(f', state, count), notices ++ more⟩
  | ⟨(f', some state'), more⟩ => drain handler f' state' (count + 1) (notices ++ more)
termination_by f.work
decreasing_by exact work_lt_of_advance (by rw [_h])

/-- Take in a chunk and give every parcel that it completes to the handler. The handler carries a
state from parcel to parcel; next to it stands how many parcels there were. -/
def push (f : Framer) (chunk : Octets) (handler : σ → Reading (Logged σ)) (state : σ) :
    Logged (Framer × σ × Nat) := do
  Logged.note (.bytesReceived chunk.length f.ring.unread)
  let ring ← f.ring.write chunk
  drain handler { f with ring := ring } state 0 #[]

end Framer

end ParcelLink
