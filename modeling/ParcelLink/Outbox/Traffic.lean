import Mathlib.Logic.Relation
import ParcelLink.Outbox.Schedule

/-!
# Traffic through an outbox

`Outbox.settle` gives turns in one order. What holds of an outbox should not hang on that order, nor on
how far the carrier comes before somebody else has a turn, nor on which socket it finds when it goes
on. So the steps are set down one by one: `Outbox.Traffic.Step` lets anybody step who could, at any
time, and the carrier with any of some sockets. A law about an outbox is a law about every run of
such steps.

The steps are smaller than the turns of the schedule. Somebody who has got room is not at the queue
yet: between the two others may step, find no room, fill the queue or close it. And the carrier may
take fewer parcels than there are.

Each offer and each sender is a call. It is known by its number, in the order in which the calls were
made, and returns when it is known what became of its parcel.

## Main definitions

* `Outbox.Traffic`: an outbox, those on their way to its queue, and what became of the calls.
* `Outbox.Traffic.Step`, `Outbox.Traffic.Runs`: one step of anybody, and steps one after the other.
* `Outbox.Traffic.Leads`, `Outbox.Traffic.LeadsAlone`: that the steps lead from one outbox to
  another, and that they do so without any calls.

`Outbox.Traffic.leadsAlone_settle` and `Outbox.Traffic.leadsAlone_advance` say that the schedule
makes nothing but steps, and no calls; `Outbox.Traffic.runs_offerNow` says it of an offer.
-/

namespace ParcelLink.Outbox

/-! ### Coming to the queue -/

/-- An offer that has room comes to the queue. -/
def queueOffer (o : Outbox) (parcel : Octets) : Except Fault Unit × Outbox :=
  if o.isClosed then (.error .connectionClosed, o.release 1)
  else if o.freeSlots = 0 then (.error .backpressureTimeout, o.release 1)
  else (.ok (), o.push none parcel)

/-- A sender that has room comes to the queue. -/
def queueSender (o : Outbox) (sender : Sender) : Outbox :=
  if o.isClosed then (o.release 1).refuse sender .connectionClosed
  else if o.freeSlots = 0 then { o with slotLine := o.slotLine ++ [sender] }
  else o.push (some sender.ticket) sender.parcel

/-- An offer gets room and then comes to the queue. -/
theorem offer_of_room {o : Outbox} (h : o.isFull = false) (parcel : Octets) :
    o.offer parcel = o.book.queueOffer parcel := by
  rw [offer, h]
  rfl

/-- A sender gets room and then comes to the queue. -/
theorem reserve_of_room {o : Outbox} (h : o.isFull = false) (sender : Sender) :
    o.reserve sender = o.book.queueSender sender := by
  rw [reserve, h]
  rfl

/-- The carrier takes so many parcels as a batch, and the slots go to those who wait for one. -/
def takeParcels (o : Outbox) (count : Nat) : Outbox :=
  let batch := o.queue.take count
  { o with
    queue := o.queue.drop count
    slotLine := o.slotLine.drop batch.length
    ready := o.ready ++ (o.slotLine.take batch.length).map Agent.enqueue
    carrier := .writing batch batch.length 0 }

theorem takeBatch_eq (o : Outbox) : o.takeBatch = o.takeParcels maxBatch := rfl

/-- One who has room and has not come to the queue yet. -/
inductive Guest where
  /-- An offer, by its call. -/
  | offer (call : Nat) (parcel : Octets)
  /-- A sender. -/
  | sender (sender : Sender)
  deriving DecidableEq, Repr

/-- The call of a sender and its parcel. -/
def Sender.entry (sender : Sender) : Nat × Octets := (sender.ticket, sender.parcel)

/-- The call of a guest and its parcel. -/
def Guest.entry : Guest → Nat × Octets
  | .offer call parcel => (call, parcel)
  | .sender s => s.entry

/-! ### Traffic -/

/-- An outbox, and the calls that were made on it. -/
structure Traffic where
  outbox : Outbox
  /-- The parcels of all calls, first to last. The ticket of a sender is the number of its call. -/
  calls : List Octets := []
  /-- Those who have room and are on their way to the queue. -/
  guests : List Guest := []
  /-- The calls that have returned, in the order in which they did, and how. -/
  returned : List (Nat × Except Fault Unit) := []

namespace Traffic

variable {sockets : Socket → Prop}

/-- No calls yet. -/
def ofConfig (config : Config) : Traffic := { outbox := Outbox.ofConfig config }

/-- The parcel of a call. -/
def parcel (t : Traffic) (call : Nat) : Octets := t.calls.getD call []

/-- The calls that have not returned, with their parcels. -/
def entries (t : Traffic) : List (Nat × Octets) :=
  t.outbox.senders.map Sender.entry ++ t.guests.map Guest.entry

/-- The calls that put their parcels into the queue, in the order in which they did. -/
def accepted (t : Traffic) : List Nat :=
  t.returned.filterMap fun
    | (call, .ok ()) => some call
    | (_, .error _) => none

/-- The outbox has changed. A sender returns as soon as its outcome stands in the journal. -/
def move (t : Traffic) (o : Outbox) : Traffic :=
  { t with
    outbox := o
    returned := t.returned ++ o.journal.outcomes.drop t.outbox.journal.outcomes.length }

/-- A parcel is offered. Without room the offer is refused at once. -/
def offer (t : Traffic) (parcel : Octets) : Traffic :=
  let call := t.calls.length
  let t := { t with calls := t.calls ++ [parcel] }
  if t.outbox.isFull then
    { t with returned := t.returned ++ [(call, .error .backpressureTimeout)] }
  else { t with outbox := t.outbox.book, guests := t.guests ++ [.offer call parcel] }

/-- A sender comes. -/
def spawn (t : Traffic) (parcel : Octets) : Traffic :=
  { t with outbox := t.outbox.spawn t.calls.length parcel, calls := t.calls ++ [parcel] }

/-- A sender looks for room. -/
def reserve (t : Traffic) (sender : Sender) : Traffic :=
  if t.outbox.isFull then t.move (t.outbox.reserve sender)
  else { t with outbox := t.outbox.book, guests := t.guests ++ [.sender sender] }

/-- A guest comes to the queue. -/
def arrive (t : Traffic) : Guest → Traffic
  | .offer call parcel =>
    let (outcome, o) := t.outbox.queueOffer parcel
    { t with outbox := o, returned := t.returned ++ [(call, outcome)] }
  | .sender sender => t.move (t.outbox.queueSender sender)

/-- One step, by anybody who can make one. The carrier may find any of some sockets. -/
inductive Step (sockets : Socket → Prop) : Traffic → Traffic → Prop where
  /-- A parcel is offered. -/
  | offer (t : Traffic) (parcel : Octets) (held : t.outbox.held = true) :
    Step sockets t (t.offer parcel)
  /-- A sender comes. -/
  | spawn (t : Traffic) (parcel : Octets) (held : t.outbox.held = true) :
    Step sockets t (t.spawn parcel)
  /-- A sender that was woken looks for room. -/
  | reserve {t : Traffic} {before after : List Agent} {sender : Sender}
    (woken : t.outbox.ready = before ++ .reserve sender :: after) :
    Step sockets t
      ({ t with outbox := { t.outbox with ready := before ++ after } : Traffic }.reserve sender)
  /-- A guest comes to the queue, not necessarily the first who got room. -/
  | arrive {t : Traffic} {before after : List Guest} {guest : Guest}
    (coming : t.guests = before ++ guest :: after) :
    Step sockets t ({ t with guests := before ++ after }.arrive guest)
  /-- A sender that was woken uses its slot. -/
  | enqueue {t : Traffic} {before after : List Agent} {sender : Sender}
    (woken : t.outbox.ready = before ++ .enqueue sender :: after) :
    Step sockets t (t.move ({ t.outbox with ready := before ++ after }.enqueue sender))
  /-- A sender that waits for room looks again, since room was made while it looked before. -/
  | wake {t : Traffic} {sender : Sender} (waits : sender ∈ t.outbox.roomLine) :
    Step sockets t (t.move { t.outbox with
      roomLine := t.outbox.roomLine.erase sender
      ready := t.outbox.ready ++ [.reserve sender] })
  /-- A sender has waited for room too long. -/
  | expire {t : Traffic} {sender : Sender} (waits : sender ∈ t.outbox.roomLine)
    (overdue : sender.deadline ≤ t.outbox.now) :
    Step sockets t (t.move (t.outbox.expireSender sender))
  /-- The carrier takes some parcels, maybe not all that it could. -/
  | take {t : Traffic} {count : Nat} (idle : t.outbox.carrier = .idle) (pos : 0 < count)
    (le_maxBatch : count ≤ maxBatch) (le_length : count ≤ t.outbox.queue.length) :
    Step sockets t (t.move (t.outbox.takeParcels count))
  /-- The carrier makes a step with a socket. It does not end while somebody is on the way. -/
  | carry {t : Traffic} {o : Outbox} (socket : Socket) (found : sockets socket)
    (step : t.outbox.carry socket = some o)
    (alone : t.outbox.carrier = .idle → t.outbox.queue = [] → t.guests = []) :
    Step sockets t (t.move o)
  /-- The carrier that was woken has nothing to do. -/
  | rest {t : Traffic} {before after : List Agent}
    (woken : t.outbox.ready = before ++ .carrier :: after) :
    Step sockets t (t.move { t.outbox with ready := before ++ after })
  /-- The carrier is to try again. -/
  | retry (t : Traffic) : Step sockets t (t.move t.outbox.retry)
  /-- Time passes. -/
  | pass (t : Traffic) (span : Nat) :
    Step sockets t (t.move { t.outbox with now := t.outbox.now + span })
  /-- The owner lets go. -/
  | letGo (t : Traffic) : Step sockets t (t.move t.outbox.letGo)

/-- Some steps, one after the other. -/
abbrev Runs (sockets : Socket → Prop) : Traffic → Traffic → Prop :=
  Relation.ReflTransGen (Step sockets)

/-! ### The schedule makes steps -/

/-- A parcel is offered and at once comes to the queue, if there is room. -/
def offerNow (t : Traffic) (parcel : Octets) : Traffic :=
  { t with
    outbox := (t.outbox.offer parcel).2
    calls := t.calls ++ [parcel]
    returned := t.returned ++ [(t.calls.length, (t.outbox.offer parcel).1)] }

/-- The carrier makes so many steps with a socket, or fewer if it has to wait. -/
def carryOn (socket : Socket) : Nat → Traffic → Traffic
  | 0, t => t
  | steps + 1, t =>
    match t.outbox.carry socket with
    | none => t
    | some o => carryOn socket steps (t.move o)

/-- An offer that has been made comes to the queue, if it has got room. -/
theorem runs_offer (t : Traffic) (parcel : Octets) (hguests : t.guests = []) :
    Runs sockets (t.offer parcel) (t.offerNow parcel) := by
  obtain ⟨o, calls, guests, returned⟩ := t
  obtain rfl : guests = [] := hguests
  unfold offerNow
  rcases hfull : o.isFull with - | -
  · rw [Traffic.offer, if_neg (by simp [hfull]), offer_of_room hfull]
    exact .single (@Step.arrive sockets
      ⟨o.book, calls ++ [parcel], [.offer calls.length parcel], returned⟩ [] [] _ rfl)
  · rw [Traffic.offer, if_pos hfull, Outbox.offer, if_pos hfull]

/-- **An offer is two steps**, or one if there is no room. -/
theorem runs_offerNow (t : Traffic) (parcel : Octets) (held : t.outbox.held = true)
    (hguests : t.guests = []) : Runs sockets t (t.offerNow parcel) :=
  .head (.offer t parcel held) (t.runs_offer parcel hguests)

theorem runs_carryOn {socket : Socket} (hsocket : sockets socket) (steps : Nat) (t : Traffic)
    (hguests : t.guests = []) :
    Runs sockets t (t.carryOn socket steps) ∧ (t.carryOn socket steps).guests = [] := by
  fun_induction carryOn socket steps t with
  | case1 t => exact ⟨.refl, hguests⟩
  | case2 t steps hwaits => exact ⟨.refl, hguests⟩
  | case3 t steps o hstep ih =>
    obtain ⟨hruns, hguests'⟩ := ih hguests
    exact ⟨.head (.carry socket hsocket hstep fun _ _ ↦ hguests) hruns, hguests'⟩

/-- Steps lead from one outbox to another if nobody is on the way before or after. -/
def Leads (sockets : Socket → Prop) (o o' : Outbox) : Prop :=
  ∀ t : Traffic, t.outbox = o → t.guests = [] →
    ∃ t', Runs sockets t t' ∧ t'.outbox = o' ∧ t'.guests = []

/-- Steps lead from one outbox to another, and no calls are made meanwhile. -/
def LeadsAlone (sockets : Socket → Prop) (o o' : Outbox) : Prop :=
  ∀ t : Traffic, t.outbox = o → t.guests = [] →
    ∃ t', Runs sockets t t' ∧ t'.outbox = o' ∧ t'.guests = [] ∧ t'.calls = t.calls

namespace LeadsAlone

theorem leads {o o' : Outbox} (h : LeadsAlone sockets o o') : Leads sockets o o' := by
  intro t ho hguests
  obtain ⟨t', hruns, ho', hguests', -⟩ := h t ho hguests
  exact ⟨t', hruns, ho', hguests'⟩

theorem refl (o : Outbox) : LeadsAlone sockets o o :=
  fun t ho hguests ↦ ⟨t, .refl, ho, hguests, rfl⟩

theorem trans {o₁ o₂ o₃ : Outbox} (h₁ : LeadsAlone sockets o₁ o₂) (h₂ : LeadsAlone sockets o₂ o₃) :
    LeadsAlone sockets o₁ o₃ := by
  intro t ho hguests
  obtain ⟨t₂, hruns, ho₂, hguests₂, hcalls⟩ := h₁ t ho hguests
  obtain ⟨t₃, hruns', ho₃, hguests₃, hcalls'⟩ := h₂ t₂ ho₂ hguests₂
  exact ⟨t₃, hruns.trans hruns', ho₃, hguests₃, hcalls'.trans hcalls⟩

/-- One step that moves the outbox. -/
theorem of_step {o o' : Outbox}
    (h : ∀ t : Traffic, t.outbox = o → t.guests = [] → Step sockets t (t.move o')) :
    LeadsAlone sockets o o' :=
  fun t ho hguests ↦ ⟨t.move o', .single (h t ho hguests), rfl, hguests, rfl⟩

end LeadsAlone

theorem leadsAlone_drive {socket : Socket} (hsocket : sockets socket) (o : Outbox) :
    LeadsAlone sockets o (o.drive socket) := by
  fun_induction drive socket o with
  | case1 o h => exact .refl o
  | case2 o o' h ih =>
    have hcarry : LeadsAlone sockets o o' :=
      .of_step fun _ ho hguests ↦ .carry socket hsocket (ho ▸ h) fun _ _ ↦ hguests
    exact hcarry.trans ih

/-- A sender that looks for room goes on to the queue if it gets room. -/
theorem leadsAlone_reserve {o : Outbox} {before after : List Agent} {sender : Sender}
    (woken : o.ready = before ++ .reserve sender :: after) :
    LeadsAlone sockets o ({ o with ready := before ++ after }.reserve sender) := by
  rintro t rfl hguests
  have hstep : Step sockets _ _ := .reserve woken
  rcases hfull : t.outbox.isFull with - | -
  · have hroom : ({ t.outbox with ready := before ++ after } : Outbox).isFull = false := hfull
    rw [Traffic.reserve, if_neg (by simp [hroom]), hguests] at hstep
    have harrive := @Step.arrive sockets
      { t with
        outbox := { t.outbox with ready := before ++ after }.book
        guests := [.sender sender] } [] [] _ rfl
    exact ⟨_, .tail (.single hstep) harrive, (reserve_of_room hroom sender).symm, rfl, rfl⟩
  · have hfull' : ({ t.outbox with ready := before ++ after } : Outbox).isFull = true := hfull
    rw [Traffic.reserve, if_pos hfull'] at hstep
    exact ⟨_, .single hstep, rfl, hguests, rfl⟩

/-- The turn of the first of those who were woken is made of steps. -/
theorem leadsAlone_turn {socket : Socket} (hsocket : sockets socket) {o : Outbox} {agent : Agent}
    {rest : List Agent} (h : o.ready = agent :: rest) :
    LeadsAlone sockets o ({ o with ready := rest }.turn socket agent) := by
  cases agent with
  | carrier =>
    refine LeadsAlone.trans ?_ (leadsAlone_drive hsocket _)
    exact .of_step fun t ho _ ↦ ho ▸ @Step.rest sockets t [] rest (ho ▸ h)
  | reserve sender => exact @leadsAlone_reserve sockets o [] rest sender h
  | enqueue sender =>
    exact .of_step fun t ho _ ↦ ho ▸ @Step.enqueue sockets t [] rest sender (ho ▸ h)

/-- **Settling is made of steps**, none of which is a call. -/
theorem leadsAlone_settle {socket : Socket} (hsocket : sockets socket) (o : Outbox) :
    LeadsAlone sockets o (o.settle socket) := by
  fun_induction settle socket o with
  | case1 o h => exact .refl o
  | case2 o agent rest h ih => exact (leadsAlone_turn hsocket h).trans ih

theorem leads_settle {socket : Socket} (hsocket : sockets socket) (o : Outbox) :
    Leads sockets o (o.settle socket) :=
  (leadsAlone_settle hsocket o).leads

/-- Turning away senders that have waited too long, in any order, is made of steps. -/
theorem leadsAlone_expireSenders (senders : List Sender) (o : Outbox)
    (waits : ∀ s, senders.count s ≤ o.roomLine.count s)
    (overdue : ∀ s ∈ senders, s.deadline ≤ o.now) :
    LeadsAlone sockets o (senders.foldl expireSender o) := by
  induction senders generalizing o with
  | nil => exact .refl o
  | cons sender rest ih =>
    have hmem : sender ∈ o.roomLine := by
      have := waits sender
      rw [List.count_cons_self] at this
      exact List.count_pos_iff.mp (by omega)
    have hfirst : LeadsAlone sockets o (o.expireSender sender) :=
      .of_step fun t ho _ ↦ ho ▸ .expire (ho ▸ hmem) (ho ▸ overdue sender List.mem_cons_self)
    refine hfirst.trans (ih _ ?_ ?_)
    · intro s
      have := waits s
      simp only [expireSender, refuse, roomLine_rouse, record, List.count_erase]
      rw [List.count_cons] at this
      split at this
      · next h => rw [if_pos h]; omega
      · next h => rw [if_neg h]; omega
    · intro s hs
      simpa [expireSender, refuse, record] using overdue s (List.mem_cons_of_mem _ hs)

/-- **The passing of time is made of steps**, none of which is a call. -/
theorem leadsAlone_advance {socket : Socket} (hsocket : sockets socket) (span : Nat) (o : Outbox) :
    LeadsAlone sockets o (o.advance socket span) := by
  have hpass : LeadsAlone sockets o { o with now := o.now + span } :=
    .of_step fun t ho _ ↦ ho ▸ .pass t span
  refine hpass.trans (.trans ?_ (leadsAlone_settle hsocket _))
  refine leadsAlone_expireSenders _ _ (fun s ↦ ?_) (fun s hs ↦ ?_)
  · rw [due, (List.mergeSort_perm _ _).count_eq]
    exact List.Sublist.count_le s List.filter_sublist
  · rw [due, List.mem_mergeSort] at hs
    simpa using (List.mem_filter.mp hs).2

end Traffic

end ParcelLink.Outbox
