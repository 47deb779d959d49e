import ParcelLink.Outbox.Batch
import ParcelLink.Outbox.Journal

/-!
# The outbox

Parcels that are to be written wait in a queue with a fixed number of slots. A carrier takes them from
there in batches and writes them to a socket. Every parcel counts as pending from the moment room is
reserved for it until the batch it belongs to has been flushed, and while the count stands at the
limit nobody reserves room.

There are two ways in. An *offer* is taken at once or refused. A *sender* waits: first for room, with
a deadline, then for a free slot, without one. Whoever waits is woken by what it waits for and then
tries again; the woken take turns in the order in which they were woken, and one that finds no room
goes back to the end of the line. A slot that comes free is not up for grabs but given to the first in
line, which is what keeps the order of the queue.

When the carrier has ended the queue is closed. Parcels that it had not written are lost and stay
counted. Senders are refused when they come to queue their parcel, and give their room back.

## Main definitions

* `Outbox`: the queue, those who wait, the carrier, the clock, and the journal.
* `Outbox.offer`: the way in that does not wait.
* `Outbox.reserve`, `Outbox.enqueue`: one try of a sender to get room, and what it does with a slot.

What the carrier does is in `Outbox.Carrier`, and who takes a turn when in `Outbox.Schedule`.
-/

namespace ParcelLink

namespace Outbox

/-- How many parcels may be pending, unless another number is asked for. -/
def defaultLimit : Nat := 1024

/-- How many slots the queue has, unless another number is asked for. -/
def defaultSlots : Nat := 1024

/-- How many milliseconds a sender waits for room, unless another number is asked for. -/
def defaultPatience : Nat := 5000

/-- How many slots a queue can have. Free slots are counted in a word of 64 bits, three of which are
not for counting. -/
def maxSlots : Nat := Nat.pow 2 61 - 1

/-- How an outbox is set up. -/
structure Config where
  /-- How many parcels may be pending. -/
  limit : Nat := defaultLimit
  /-- How many slots the queue has. -/
  slots : Nat := defaultSlots
  /-- How many milliseconds a sender waits for room. -/
  patience : Nat := defaultPatience
  /-- A queue has a slot at least. -/
  slots_pos : 0 < slots := by decide
  /-- A queue has no more slots than can be counted. -/
  slots_le : slots ≤ maxSlots := by decide

/-- A setup with these numbers, if there can be one. -/
def Config.ofNumbers? (limit slots patience : Nat) : Option Config :=
  if h : 0 < slots ∧ slots ≤ maxSlots then some ⟨limit, slots, patience, h.1, h.2⟩ else none

/-- Someone who waits until a parcel is queued. -/
structure Sender where
  /-- What tells senders apart. -/
  ticket : Nat
  /-- The parcel to be queued. -/
  parcel : Octets
  /-- The time at which waiting for room ends. -/
  deadline : Nat
  deriving DecidableEq, Repr

/-- Someone whose turn comes. -/
inductive Agent where
  /-- The carrier. -/
  | carrier
  /-- A sender that looks for room. -/
  | reserve (sender : Sender)
  /-- A sender that was given a slot, or whose wait for one is over since the queue was closed. -/
  | enqueue (sender : Sender)
  deriving DecidableEq, Repr

/-- The sender that an agent is. -/
def Agent.sender? : Agent → Option Sender
  | carrier => none
  | reserve sender | enqueue sender => some sender

@[simp] theorem Agent.sender?_carrier : Agent.carrier.sender? = none := rfl

@[simp] theorem Agent.filterMap_sender?_reserve (senders : List Sender) :
    (senders.map reserve).filterMap sender? = senders := by
  simp [List.filterMap_map, Function.comp_def, sender?]

@[simp] theorem Agent.filterMap_sender?_enqueue (senders : List Sender) :
    (senders.map enqueue).filterMap sender? = senders := by
  simp [List.filterMap_map, Function.comp_def, sender?]

/-- What the carrier is at. -/
inductive Carrier where
  /-- It waits for parcels. -/
  | idle
  /-- It writes what is left of a batch of so many parcels; so many bytes have been written. -/
  | writing (batch : Batch) (parcels bytes : Nat)
  /-- It flushes a batch of so many parcels and bytes. -/
  | flushing (parcels bytes : Nat)
  /-- It has ended, and so many parcels that had been queued are lost. -/
  | ended (outcome : Except Fault Unit) (lost : Nat)
  deriving DecidableEq

/-- Whether the carrier waits for the socket. -/
def Carrier.isBusy : Carrier → Bool
  | writing .. | flushing .. => true
  | idle | ended .. => false

/-- Whether the carrier has ended. -/
def Carrier.isEnded : Carrier → Bool
  | ended .. => true
  | _ => false

end Outbox

/-- Parcels on their way to a socket. -/
structure Outbox where
  /-- The numbers that bound it. -/
  config : Outbox.Config
  /-- Whether its owner may still offer parcels. -/
  held : Bool := true
  /-- How many parcels are pending. -/
  pending : Nat := 0
  /-- The parcels that wait for the carrier. -/
  queue : List Octets := []
  /-- The senders that wait for room. -/
  roomLine : List Outbox.Sender := []
  /-- The senders that have room and wait for a slot. -/
  slotLine : List Outbox.Sender := []
  /-- Those who were woken and have not had their turn yet. -/
  ready : List Outbox.Agent := []
  /-- What the carrier is at. -/
  carrier : Outbox.Carrier := .idle
  /-- The time, in milliseconds. -/
  now : Nat := 0
  /-- What has happened. -/
  journal : Outbox.Journal := #[]

namespace Outbox

/-- An outbox with nothing in it. -/
def ofConfig (config : Config) : Outbox := { config := config }

/-- Whether no more room is given. -/
def isFull (o : Outbox) : Bool := o.config.limit ≤ o.pending

/-- Whether no more parcels are queued. -/
def isClosed (o : Outbox) : Bool := o.carrier.isEnded

/-- How many slots have been given to senders that have not had their turn yet. -/
def granted (o : Outbox) : Nat :=
  o.ready.countP fun
    | .enqueue _ => true
    | _ => false

/-- How many slots are free. -/
def freeSlots (o : Outbox) : Nat := o.config.slots - (o.queue.length + o.granted)

/-- All senders whose parcel is not queued yet. -/
def senders (o : Outbox) : List Sender :=
  o.roomLine ++ o.slotLine ++ o.ready.filterMap Agent.sender?

/-- Whether there may be more parcels. -/
def isOpen (o : Outbox) : Bool := o.held || !o.senders.isEmpty

/-! ### The parts of a move -/

/-- Write into the journal. -/
def record (o : Outbox) (entry : Entry) : Outbox := { o with journal := o.journal.push entry }

/-- Give a notice. -/
def note (o : Outbox) (notice : Notice) : Outbox := o.record (.noted notice)

/-- Count one more parcel as pending. -/
def book (o : Outbox) : Outbox := { o with pending := o.pending + 1 }

/-- Count parcels as pending no more, and wake everyone who waits for room. -/
def release (o : Outbox) (parcels : Nat) : Outbox :=
  { o with
    pending := o.pending - parcels
    roomLine := []
    ready := o.ready ++ o.roomLine.map Agent.reserve }

/-- Wake the carrier if it waits for parcels and there are some, or there will never be any. -/
def rouse (o : Outbox) : Outbox :=
  match o.carrier with
  | .idle =>
    if (o.queue.isEmpty && o.isOpen) || o.ready.contains .carrier then o
    else { o with ready := o.ready ++ [.carrier] }
  | _ => o

/-- Rousing the carrier changes nothing but who is ready. -/
theorem rouse_eq (o : Outbox) : o.rouse = { o with ready := o.rouse.ready } := by
  unfold rouse
  split
  · split <;> rfl
  · rfl

@[simp] theorem roomLine_rouse (o : Outbox) : o.rouse.roomLine = o.roomLine := by rw [rouse_eq]

@[simp] theorem slotLine_rouse (o : Outbox) : o.rouse.slotLine = o.slotLine := by rw [rouse_eq]

@[simp] theorem queue_rouse (o : Outbox) : o.rouse.queue = o.queue := by rw [rouse_eq]

@[simp] theorem pending_rouse (o : Outbox) : o.rouse.pending = o.pending := by rw [rouse_eq]

@[simp] theorem carrier_rouse (o : Outbox) : o.rouse.carrier = o.carrier := by rw [rouse_eq]

@[simp] theorem now_rouse (o : Outbox) : o.rouse.now = o.now := by rw [rouse_eq]

@[simp] theorem journal_rouse (o : Outbox) : o.rouse.journal = o.journal := by rw [rouse_eq]

/-- Put a parcel into a slot. -/
def push (o : Outbox) (ticket? : Option Nat) (parcel : Octets) : Outbox :=
  ({ o with queue := o.queue ++ [parcel] }.record (.queued ticket? parcel)).rouse

/-- Turn a sender away. It may have been the last from whom a parcel was to come. -/
def refuse (o : Outbox) (sender : Sender) (cause : Fault) : Outbox :=
  (o.record (.refused sender.ticket cause)).rouse

/-! ### Ways in -/

/-- Queue a parcel at once, or say why not. -/
def offer (o : Outbox) (parcel : Octets) : Except Fault Unit × Outbox :=
  if o.isFull then (.error .backpressureTimeout, o)
  else if o.isClosed then (.error .connectionClosed, o.book.release 1)
  else if o.freeSlots = 0 then (.error .backpressureTimeout, o.book.release 1)
  else (.ok (), o.book.push none parcel)

/-- A sender looks for room, and for a slot if it gets room. -/
def reserve (o : Outbox) (sender : Sender) : Outbox :=
  if o.isFull then
    if sender.deadline ≤ o.now then o.refuse sender .backpressureTimeout
    else { o with roomLine := o.roomLine ++ [sender] }
  else if o.isClosed then (o.book.release 1).refuse sender .connectionClosed
  else if o.freeSlots = 0 then { o.book with slotLine := o.slotLine ++ [sender] }
  else o.book.push (some sender.ticket) sender.parcel

/-- A sender uses the slot that it was given, unless the queue has been closed. -/
def enqueue (o : Outbox) (sender : Sender) : Outbox :=
  if o.isClosed then (o.release 1).refuse sender .connectionClosed
  else o.push (some sender.ticket) sender.parcel

end Outbox

end ParcelLink
