import ParcelLink.Outbox
import ParcelLink.Outbox.Socket

/-!
# The carrier of an outbox

The carrier takes parcels from the queue, as many as there are but no more than fit into one batch,
and gives each slot that it empties to the first sender in line. It writes the batch to its end, as
many bytes at a time as the socket takes, flushes, and only then lets the parcels go from the count.
A socket that takes nothing of a batch is as good as broken, and that is what a batch of nothing but
empty parcels looks like, since it offers nothing.

One `Outbox.carry` is one answer of the socket or one look into the queue; `Outbox.drive` goes on for
as long as there is no need to wait, which cannot be forever (`Outbox.load_lt_of_carry`).

## Main definitions

* `Outbox.carry`: one step of the carrier, given how the socket answers.
* `Outbox.Carried`: the steps of the carrier, case by case.
* `Outbox.load`: what the carrier still has to do.
* `Outbox.drive`: the steps up to the next wait.
-/

namespace ParcelLink.Outbox

/-- The most parcels in one batch. -/
def maxBatch : Nat := 64

/-- What stops the carrier when a socket takes nothing of a batch. -/
def nothingTaken : Fault := .io "write zero"

/-! ### One step -/

/-- The carrier takes a batch, and the slots go to those who wait for one. -/
def takeBatch (o : Outbox) : Outbox :=
  let batch := o.queue.take maxBatch
  let count := batch.length
  { o with
    queue := o.queue.drop maxBatch
    slotLine := o.slotLine.drop count
    ready := o.ready ++ (o.slotLine.take count).map Agent.enqueue
    carrier := .writing batch count 0 }

/-- The carrier ends since there will be no more parcels. -/
def finish (o : Outbox) : Outbox :=
  { o.note .queueClosed with carrier := .ended (.ok ()) 0 }.record (.ended (.ok ()))

/-- The carrier ends since a batch cannot be written. What is queued is lost with the batch, and
those who wait for a slot are woken to be turned away. -/
def fail (o : Outbox) (parcels : Nat) (cause : Fault) : Outbox :=
  { o.note (.batchFailed parcels cause) with
    carrier := .ended (.error cause) (parcels + o.queue.length)
    queue := []
    slotLine := []
    ready := o.ready ++ o.slotLine.map Agent.enqueue }.record (.ended (.error cause))

/-- The socket takes so many bytes of a batch, if it offers as many. -/
def wrote (o : Outbox) (batch : Batch) (parcels bytes count : Nat) : Outbox :=
  let count := min count batch.size
  let o := o.record (.wrote (batch.front count))
  if count = 0 then o.fail parcels nothingTaken
  else { o with carrier := .writing (batch.consume count) parcels (bytes + count) }

/-- A batch has been flushed. -/
def flushed (o : Outbox) (parcels bytes : Nat) : Outbox :=
  { (((o.record .flushed).note (.batchWritten parcels bytes)).release parcels) with
    carrier := .idle }

/-- One step of the carrier; there is none when it has to wait. -/
def carry (socket : Socket) (o : Outbox) : Option Outbox :=
  match o.carrier with
  | .idle =>
    if o.queue.isEmpty then (if o.isOpen then none else some o.finish)
    else some o.takeBatch
  | .writing [] parcels bytes => some { o with carrier := .flushing parcels bytes }
  | .writing (parcel :: rest) parcels bytes =>
    let batch : Batch := parcel :: rest
    match socket.onWrite batch.size with
    | .took count => some (o.wrote batch parcels bytes count)
    | .shut => some (o.fail parcels nothingTaken)
    | .failed cause => some (o.fail parcels cause)
    | .waiting => none
  | .flushing parcels bytes =>
    match socket.onFlush with
    | .done => some (o.flushed parcels bytes)
    | .failed cause => some (o.fail parcels cause)
    | .waiting => none
  | .ended .. => none

/-- What a step of the carrier does, and when. -/
inductive Carried (socket : Socket) (o : Outbox) : Outbox → Prop where
  /-- There are no more parcels. -/
  | finished (idle : o.carrier = .idle) (empty : o.queue = []) (closed : o.isOpen = false) :
    Carried socket o o.finish
  /-- There are parcels to be written. -/
  | tookBatch (idle : o.carrier = .idle) (some_parcel : o.queue ≠ []) : Carried socket o o.takeBatch
  /-- Nothing is left of a batch. -/
  | written {parcels bytes : Nat} (writing : o.carrier = .writing [] parcels bytes) :
    Carried socket o { o with carrier := .flushing parcels bytes }
  /-- The socket took bytes of a batch. -/
  | wrote {parcel : Octets} {rest : Batch} {parcels bytes count : Nat}
    (writing : o.carrier = .writing (parcel :: rest) parcels bytes)
    (answer : socket.onWrite (Batch.size (parcel :: rest)) = .took count) :
    Carried socket o (o.wrote (parcel :: rest) parcels bytes count)
  /-- The socket takes no more bytes. -/
  | shut {parcel : Octets} {rest : Batch} {parcels bytes : Nat}
    (writing : o.carrier = .writing (parcel :: rest) parcels bytes)
    (answer : socket.onWrite (Batch.size (parcel :: rest)) = .shut) :
    Carried socket o (o.fail parcels nothingTaken)
  /-- A write failed. -/
  | failedWrite {parcel : Octets} {rest : Batch} {parcels bytes : Nat} {cause : Fault}
    (writing : o.carrier = .writing (parcel :: rest) parcels bytes)
    (answer : socket.onWrite (Batch.size (parcel :: rest)) = .failed cause) :
    Carried socket o (o.fail parcels cause)
  /-- A batch has been flushed. -/
  | flushed {parcels bytes : Nat} (flushing : o.carrier = .flushing parcels bytes)
    (answer : socket.onFlush = .done) : Carried socket o (o.flushed parcels bytes)
  /-- A flush failed. -/
  | failedFlush {parcels bytes : Nat} {cause : Fault}
    (flushing : o.carrier = .flushing parcels bytes) (answer : socket.onFlush = .failed cause) :
    Carried socket o (o.fail parcels cause)

/-- **These are all steps of the carrier.** -/
theorem carried_of_carry {socket : Socket} {o o' : Outbox} (h : o.carry socket = some o') :
    Carried socket o o' := by
  unfold carry at h
  split at h
  · next idle =>
    by_cases hqueue : o.queue = []
    · rcases hclosed : o.isOpen with - | -
      · rw [hqueue, hclosed] at h
        exact Option.some.inj h ▸ .finished idle hqueue hclosed
      · rw [hqueue, hclosed] at h
        cases h
    · rw [if_neg (by simpa using hqueue)] at h
      exact Option.some.inj h ▸ .tookBatch idle hqueue
  · next writing => exact Option.some.inj h ▸ .written writing
  · next parcel rest parcels bytes writing =>
    rcases answer : socket.onWrite (Batch.size (parcel :: rest)) with count | - | cause | - <;>
      simp only [answer, Option.some.injEq, reduceCtorEq] at h
    · exact h ▸ .wrote writing answer
    · exact h ▸ .shut writing answer
    · exact h ▸ .failedWrite writing answer
  · next parcels bytes flushing =>
    rcases answer : socket.onFlush with - | cause | - <;>
      simp only [answer, Option.some.injEq, reduceCtorEq] at h
    · exact h ▸ .flushed flushing answer
    · exact h ▸ .failedFlush flushing answer
  · cases h

/-! ### Up to the next wait -/

/-- What a carrier has to do with the batch that it is at. -/
def Carrier.load : Carrier → Nat
  | .idle => 1
  | .writing batch _ _ => 3 + batch.size
  | .flushing .. => 2
  | .ended .. => 0

/-- What the carrier still has to do: the batch that it is at, and the parcels in the queue, as if
each of them were a batch of its own. -/
def load (o : Outbox) : Nat := o.carrier.load + 3 * o.queue.length + Batch.size o.queue

theorem load_takeBatch_lt {o : Outbox} (hc : o.carrier = .idle) (hq : o.queue ≠ []) :
    o.takeBatch.load < o.load := by
  have hpos : 0 < o.queue.length := List.length_pos_iff.mpr hq
  have hsize : Batch.size (o.queue.take maxBatch) + Batch.size (o.queue.drop maxBatch)
      = Batch.size o.queue := by
    simp only [Batch.size_eq_length_flatten, ← List.length_append, ← List.flatten_append,
      List.take_append_drop]
  simp only [load, takeBatch, Carrier.load, hc, List.length_drop, maxBatch] at hsize ⊢
  omega

theorem load_wrote_lt {o : Outbox} {batch : Batch} {parcels bytes : Nat} (count : Nat)
    (hc : o.carrier = .writing batch parcels bytes) :
    (o.wrote batch parcels bytes count).load < o.load := by
  unfold wrote
  simp only
  split
  · simp only [fail, record, note, load, Carrier.load, hc, Batch.size_nil, List.length_nil]
    omega
  · next h =>
    simp only [record, load, Carrier.load, hc, Batch.size_consume]
    omega

theorem load_fail_lt {o : Outbox} (parcels : Nat) (cause : Fault) (hb : o.carrier.isBusy) :
    (o.fail parcels cause).load < o.load := by
  have : 0 < o.carrier.load := by
    generalize o.carrier = c at hb
    cases c <;> simp only [Carrier.isBusy, Carrier.load, Bool.false_eq_true] at hb ⊢ <;> omega
  have hend : ∀ outcome lost, (Carrier.ended outcome lost).load = 0 := fun _ _ ↦ rfl
  simp only [load, fail, record, note, hend, Batch.size_nil, List.length_nil]
  omega

/-- **A step of the carrier leaves it less to do.** -/
theorem load_lt_of_carry {socket : Socket} {o o' : Outbox} (h : o.carry socket = some o') :
    o'.load < o.load := by
  cases carried_of_carry h with
  | finished idle => simp [finish, record, note, load, Carrier.load, idle]
  | tookBatch idle some_parcel => exact load_takeBatch_lt idle some_parcel
  | written writing =>
    simp only [load, Carrier.load, writing]
    omega
  | wrote writing => exact load_wrote_lt _ writing
  | shut writing | failedWrite writing => exact load_fail_lt _ _ (by simp [writing, Carrier.isBusy])
  | flushed flushing => simp [flushed, record, note, release, load, Carrier.load, flushing]
  | failedFlush flushing => exact load_fail_lt _ _ (by simp [flushing, Carrier.isBusy])

/-- The carrier goes on until it has to wait or has ended. -/
def drive (socket : Socket) (o : Outbox) : Outbox :=
  match _h : o.carry socket with
  | none => o
  | some o' => drive socket o'
termination_by o.load
decreasing_by exact load_lt_of_carry _h

end ParcelLink.Outbox
