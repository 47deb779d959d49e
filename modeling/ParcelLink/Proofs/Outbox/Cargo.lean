import ParcelLink.Outbox.Traffic

/-!
# Where the parcels of an outbox are

Of everything that an outbox does only a few parts touch parcels: a parcel is put into the queue, the
carrier takes some of them, the socket takes bytes of what the carrier has, and a carrier that fails
loses the rest. `Outbox.cargo` is all that these parts see of an outbox, and the other parts leave it
as it is.

What holds of the cargo at every moment is `Outbox.Cargo.Sound`: the parcels in the order in which
they were queued are first those that the carrier took and then those in the queue, and the bytes that
the socket took are those of the taken parcels, up to what the carrier still has to write. A carrier
that has ended has an empty queue; if it ended well the socket took everything, and otherwise the
beginning.

## Main definitions

* `Outbox.cargo`, `Outbox.Cargo.Sound`: the parcels and bytes of an outbox, and what holds of them.
* `Outbox.Carrier.unwritten`: what the carrier still has to write.
-/

namespace ParcelLink.Outbox

/-- The bytes of its batch that a carrier still has to write. -/
def Carrier.unwritten : Carrier → Octets
  | .writing batch .. => batch.flatten
  | .idle | .flushing .. | .ended .. => []

/-- The parcels and bytes of an outbox. -/
structure Cargo where
  /-- All parcels that were queued, first to last. -/
  queued : List Octets
  /-- All bytes that the socket took. -/
  written : Octets
  /-- The parcels that wait for the carrier. -/
  queue : List Octets
  /-- What the carrier is at. -/
  carrier : Carrier
  /-- What became of the senders. -/
  outcomes : List (Nat × Except Fault Unit)

/-- The parcels and bytes of an outbox. -/
def cargo (o : Outbox) : Cargo where
  queued := o.journal.queued
  written := o.journal.writes.flatten
  queue := o.queue
  carrier := o.carrier
  outcomes := o.journal.outcomes

/-! ### What touches the cargo -/

@[simp] theorem cargo_rouse (o : Outbox) : o.rouse.cargo = o.cargo := by
  rw [rouse_eq]
  rfl

/-- A parcel that is queued comes behind the others. -/
theorem cargo_push (o : Outbox) (ticket? : Option Nat) (parcel : Octets) :
    (o.push ticket? parcel).cargo
      = { o.cargo with
          queued := o.cargo.queued ++ [parcel]
          queue := o.cargo.queue ++ [parcel]
          outcomes := o.cargo.outcomes ++ (ticket?.map fun ticket ↦ (ticket, .ok ())).toList } := by
  rw [push, cargo_rouse]
  cases ticket? <;> simp [cargo, record, Journal.queued, Journal.writes, Journal.outcomes]

/-- Turning a sender away leaves all parcels where they are. -/
theorem cargo_refuse (o : Outbox) (sender : Sender) (cause : Fault) :
    (o.refuse sender cause).cargo
      = { o.cargo with
          outcomes := o.cargo.outcomes ++ [(sender.ticket, .error cause)] } := by
  rw [refuse, cargo_rouse]
  simp [cargo, record, Journal.queued, Journal.writes, Journal.outcomes]

theorem cargo_takeParcels (o : Outbox) (count : Nat) :
    (o.takeParcels count).cargo
      = { o.cargo with
          queue := o.cargo.queue.drop count
          carrier := .writing (o.cargo.queue.take count) (o.cargo.queue.take count).length 0 } :=
  rfl

theorem cargo_finish (o : Outbox) :
    o.finish.cargo = { o.cargo with carrier := .ended (.ok ()) 0 } := by
  simp [finish, cargo, note, record, Journal.queued, Journal.writes, Journal.outcomes]

/-- A carrier that fails loses what is in the queue. -/
theorem cargo_fail (o : Outbox) (parcels : Nat) (cause : Fault) :
    (o.fail parcels cause).cargo
      = { o.cargo with
          queue := []
          carrier := .ended (.error cause) (parcels + o.cargo.queue.length) } := by
  simp [fail, cargo, note, record, Journal.queued, Journal.writes, Journal.outcomes]

theorem cargo_flushed (o : Outbox) (parcels bytes : Nat) :
    (o.flushed parcels bytes).cargo = { o.cargo with carrier := .idle } := by
  simp [flushed, release, cargo, note, record, Journal.queued, Journal.writes, Journal.outcomes]

/-- The socket takes the first bytes of what is left of a batch, as far as there are any. -/
theorem cargo_wrote (o : Outbox) (batch : Batch) (parcels bytes count : Nat) :
    (o.wrote batch parcels bytes count).cargo
      = let taken := { o.cargo with
          written := o.cargo.written ++ batch.flatten.take (min count batch.size) }
        if min count batch.size = 0 then
          { taken with
            queue := []
            carrier := .ended (.error nothingTaken) (parcels + o.cargo.queue.length) }
        else
          { taken with
            carrier := .writing (batch.consume (min count batch.size)) parcels
              (bytes + min count batch.size) } := by
  have hrecord : (o.record (.wrote (batch.front (min count batch.size)))).cargo
      = { o.cargo with
          written := o.cargo.written ++ batch.flatten.take (min count batch.size) } := by
    simp [cargo, record, Journal.queued, Journal.writes, Journal.outcomes,
      Batch.front_eq_take_flatten]
  simp only [wrote]
  by_cases hnothing : min count batch.size = 0
  · rw [if_pos hnothing, if_pos hnothing, cargo_fail, hrecord]
  · rw [if_neg hnothing, if_neg hnothing]
    exact congrArg (fun c : Cargo ↦ { c with
      carrier := .writing (batch.consume (min count batch.size)) parcels
        (bytes + min count batch.size) }) hrecord

/-! ### What holds of the cargo -/

namespace Cargo

/-- What the carrier took and the socket did not is still to be written; and the queue is behind. -/
def Sound (c : Cargo) : Prop :=
  match c.carrier with
  | .idle | .writing .. | .flushing .. =>
    ∃ taken, c.queued = taken ++ c.queue ∧ c.written ++ c.carrier.unwritten = taken.flatten
  | .ended outcome _ =>
    c.queue = [] ∧ c.written <+: c.queued.flatten
      ∧ (outcome = .ok () → c.written = c.queued.flatten)

theorem sound_iff_taken {c : Cargo} (h : c.carrier.isEnded = false) :
    c.Sound ↔ ∃ taken, c.queued = taken ++ c.queue
      ∧ c.written ++ c.carrier.unwritten = taken.flatten := by
  obtain ⟨queued, written, queue, carrier, outcomes⟩ := c
  cases carrier with
  | ended outcome lost => cases h
  | idle | writing | flushing => exact Iff.rfl

/-- **The bytes that the socket took are a beginning of the parcels in the order of the queue.** -/
theorem Sound.written_prefix {c : Cargo} (h : c.Sound) : c.written <+: c.queued.flatten := by
  rcases hended : c.carrier.isEnded with - | -
  · obtain ⟨taken, hqueued, hwritten⟩ := (sound_iff_taken hended).1 h
    rw [hqueued, List.flatten_append, ← hwritten, List.append_assoc]
    exact List.prefix_append c.written _
  · obtain ⟨queued, written, queue, carrier, outcomes⟩ := c
    cases carrier with
    | ended outcome lost => exact h.2.1
    | idle | writing | flushing => cases hended

/-- The parcels that wait for the carrier are the last ones that were queued. -/
theorem Sound.queue_suffix {c : Cargo} (h : c.Sound) : c.queue <:+ c.queued := by
  rcases hended : c.carrier.isEnded with - | -
  · obtain ⟨taken, hqueued, -⟩ := (sound_iff_taken hended).1 h
    exact ⟨taken, hqueued.symm⟩
  · obtain ⟨queued, written, queue, carrier, outcomes⟩ := c
    cases carrier with
    | ended outcome lost => exact h.1 ▸ List.nil_suffix
    | idle | writing | flushing => cases hended

/-- While the carrier waits, the socket has taken all that the carrier took. -/
theorem Sound.taken_of_idle {c : Cargo} (h : c.Sound) (hidle : c.carrier = .idle) :
    ∃ taken, c.queued = taken ++ c.queue ∧ c.written = taken.flatten := by
  obtain ⟨taken, hqueued, hwritten⟩ := (sound_iff_taken (by rw [hidle]; rfl)).1 h
  rw [hidle] at hwritten
  exact ⟨taken, hqueued, (List.append_nil c.written).symm.trans hwritten⟩

/-- Once the carrier has ended well, the socket has taken everything. -/
theorem Sound.written_of_ended {c : Cargo} (h : c.Sound) {lost : Nat}
    (hended : c.carrier = .ended (.ok ()) lost) : c.written = c.queued.flatten := by
  obtain ⟨queued, written, queue, carrier, outcomes⟩ := c
  obtain rfl : carrier = .ended (.ok ()) lost := hended
  exact h.2.2 rfl

/-- A parcel comes behind the others, while the queue is open. -/
theorem Sound.push {c : Cargo} (h : c.Sound) (hopen : c.carrier.isEnded = false) (parcel : Octets)
    (outcomes : List (Nat × Except Fault Unit)) :
    ({ c with
      queued := c.queued ++ [parcel]
      queue := c.queue ++ [parcel]
      outcomes := outcomes } : Cargo).Sound := by
  obtain ⟨taken, hqueued, hwritten⟩ := (sound_iff_taken hopen).1 h
  refine (sound_iff_taken (by exact hopen)).2 ⟨taken, ?_, hwritten⟩
  show c.queued ++ [parcel] = taken ++ (c.queue ++ [parcel])
  rw [hqueued, List.append_assoc]

/-- A carrier that waits takes a batch. -/
theorem Sound.take {c : Cargo} (h : c.Sound) (hidle : c.carrier = .idle) (count : Nat)
    (parcels bytes : Nat) :
    ({ c with
      queue := c.queue.drop count
      carrier := .writing (c.queue.take count) parcels bytes } : Cargo).Sound := by
  obtain ⟨taken, hqueued, hwritten⟩ := h.taken_of_idle hidle
  refine ⟨taken ++ c.queue.take count, ?_, ?_⟩
  · rw [hqueued, List.append_assoc, List.take_append_drop]
  · rw [List.flatten_append, ← hwritten]
    rfl

/-- A carrier ends well if it has nothing to write and there is nothing to take. -/
theorem Sound.finish {c : Cargo} (h : c.Sound) (hidle : c.carrier = .idle) (hqueue : c.queue = [])
    (lost : Nat) : ({ c with carrier := .ended (.ok ()) lost } : Cargo).Sound := by
  obtain ⟨taken, hqueued, hwritten⟩ := h.taken_of_idle hidle
  have hwhole : c.written = c.queued.flatten := by
    rw [hqueued, hqueue, List.append_nil, hwritten]
  exact ⟨hqueue, hwhole ▸ List.prefix_rfl, fun _ ↦ hwhole⟩

/-- Whenever a carrier fails, the socket has taken a beginning. -/
theorem Sound.fail {c : Cargo} (h : c.Sound) (cause : Fault) (lost : Nat) :
    ({ c with queue := [], carrier := .ended (.error cause) lost } : Cargo).Sound :=
  ⟨rfl, h.written_prefix, fun hok ↦ by cases hok⟩

/-- The socket takes bytes of a batch, and they are not to be written any more. -/
theorem Sound.write {c : Cargo} {batch : Batch} {parcels bytes : Nat} (h : c.Sound)
    (hwriting : c.carrier = .writing batch parcels bytes) (count bytes' : Nat) :
    ({ c with
      written := c.written ++ batch.flatten.take count
      carrier := .writing (batch.consume count) parcels bytes' } : Cargo).Sound := by
  obtain ⟨taken, hqueued, hwritten⟩ := (sound_iff_taken (by rw [hwriting]; rfl)).1 h
  refine ⟨taken, hqueued, ?_⟩
  rw [hwriting] at hwritten
  show c.written ++ batch.flatten.take count ++ (batch.consume count).flatten = taken.flatten
  rw [Batch.flatten_consume, List.append_assoc, List.take_append_drop]
  exact hwritten

/-- A carrier goes on to something else when nothing is left to be written. -/
theorem Sound.rest {c : Cargo} (h : c.Sound)
    (hdone : (∃ parcels bytes, c.carrier = .writing [] parcels bytes)
      ∨ ∃ parcels bytes, c.carrier = .flushing parcels bytes)
    {carrier : Carrier} (hopen : carrier.isEnded = false) (hwritten : carrier.unwritten = []) :
    ({ c with carrier := carrier } : Cargo).Sound := by
  have hbefore : c.carrier.isEnded = false ∧ c.carrier.unwritten = [] := by
    obtain ⟨parcels, bytes, hcarrier⟩ | ⟨parcels, bytes, hcarrier⟩ := hdone <;>
      exact hcarrier ▸ ⟨rfl, rfl⟩
  obtain ⟨taken, hqueued, htaken⟩ := (sound_iff_taken hbefore.1).1 h
  refine (sound_iff_taken (by exact hopen)).2 ⟨taken, hqueued, ?_⟩
  show c.written ++ carrier.unwritten = taken.flatten
  rw [hwritten, ← htaken, hbefore.2]

end Cargo

/-! ### Every part keeps it -/

theorem sound_queueOffer {o : Outbox} (h : o.cargo.Sound) (parcel : Octets) :
    (o.queueOffer parcel).2.cargo.Sound := by
  unfold queueOffer
  split
  · exact h
  · next hopen =>
    split
    · exact h
    · rw [cargo_push]
      exact h.push (Bool.not_eq_true _ ▸ hopen) parcel _

theorem sound_queueSender {o : Outbox} (h : o.cargo.Sound) (sender : Sender) :
    (o.queueSender sender).cargo.Sound := by
  unfold queueSender
  split
  · rw [cargo_refuse]
    exact h
  · next hopen =>
    split
    · exact h
    · rw [cargo_push]
      exact h.push (Bool.not_eq_true _ ▸ hopen) sender.parcel _

theorem sound_enqueue {o : Outbox} (h : o.cargo.Sound) (sender : Sender) :
    (o.enqueue sender).cargo.Sound := by
  unfold enqueue
  split
  · rw [cargo_refuse]
    exact h
  · next hopen =>
    rw [cargo_push]
    exact h.push (Bool.not_eq_true _ ▸ hopen) sender.parcel _

theorem sound_reserve {o : Outbox} (h : o.cargo.Sound) (hfull : o.isFull = true)
    (sender : Sender) : (o.reserve sender).cargo.Sound := by
  rw [reserve, if_pos hfull]
  split
  · rw [cargo_refuse]
    exact h
  · exact h

/-- **A step of the carrier keeps the cargo sound.** -/
theorem sound_carry {socket : Socket} {o o' : Outbox} (h : o.cargo.Sound)
    (hstep : o.carry socket = some o') : o'.cargo.Sound := by
  cases carried_of_carry hstep with
  | finished idle empty =>
    rw [cargo_finish]
    exact h.finish idle empty 0
  | tookBatch idle =>
    rw [takeBatch_eq, cargo_takeParcels]
    exact h.take idle maxBatch _ 0
  | written writing => exact h.rest (.inl ⟨_, _, writing⟩) rfl rfl
  | @wrote parcel rest parcels bytes count writing =>
    have hwrite := h.write writing (min count (Batch.size (parcel :: rest)))
      (bytes + min count (Batch.size (parcel :: rest)))
    rw [cargo_wrote]
    split
    · exact hwrite.fail nothingTaken _
    · exact hwrite
  | shut | failedWrite | failedFlush =>
    rw [cargo_fail]
    exact h.fail _ _
  | flushed flushing =>
    rw [cargo_flushed]
    exact h.rest (.inr ⟨_, _, flushing⟩) rfl rfl

end ParcelLink.Outbox
