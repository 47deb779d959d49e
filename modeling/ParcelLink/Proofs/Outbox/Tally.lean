import ParcelLink.Proofs.Outbox.Delivery

/-!
# What is counted as pending

The count of pending parcels is a number next to the things that it counts, and nothing but the
order of the operations ties the two together. `Outbox.tally` puts them side by side: the count,
the senders that have room and wait for a slot, and the stock, which is the parcels in the queue,
in the batch of the carrier, or lost with it.

Every step keeps the balance of the tally (`Outbox.Traffic.balanced_step`): the count is the seated
senders, the guests who are on their way to the queue, and the stock.

## Main definitions

* `Outbox.Tally`, `Outbox.tally`: the count, and what is counted.
* `Outbox.Tally.Balanced`: that they are the same.
-/

namespace ParcelLink.Outbox

/-! ### What is counted -/

/-- The parcels of the batch that a carrier is at. -/
def Carrier.batched : Carrier → Nat
  | .writing _ parcels _ | .flushing parcels _ => parcels
  | .idle | .ended .. => 0

/-- The parcels that were lost with a carrier. -/
def Carrier.lost : Carrier → Nat
  | .ended _ lost => lost
  | .idle | .writing .. | .flushing .. => 0

/-- The sender that an agent is, if it is one that was given a slot. -/
def Agent.granted? : Agent → Option Sender
  | .enqueue sender => some sender
  | .carrier | .reserve _ => none

@[simp] theorem Agent.filterMap_granted?_reserve (senders : List Sender) :
    (senders.map reserve).filterMap granted? = [] := by
  simp [List.filterMap_map, Function.comp_def, granted?]

@[simp] theorem Agent.filterMap_granted?_enqueue (senders : List Sender) :
    (senders.map enqueue).filterMap granted? = senders := by
  simp [List.filterMap_map, Function.comp_def, granted?]

/-- The count of an outbox, and what is counted. -/
structure Tally where
  /-- How many parcels may be pending. -/
  limit : Nat
  /-- How many are. -/
  pending : Nat
  /-- The senders that have room and wait for a slot, or were given one and have not used it yet. -/
  seated : List Sender
  /-- How many parcels are in the queue, in the batch of the carrier, or lost with it. -/
  stock : Nat
  /-- How many parcels were queued in all. -/
  queued : Nat

/-- The count of an outbox, and what is counted. -/
def tally (o : Outbox) : Tally where
  limit := o.config.limit
  pending := o.pending
  seated := o.slotLine ++ o.ready.filterMap Agent.granted?
  stock := o.queue.length + o.carrier.batched + o.carrier.lost
  queued := o.cargo.queued.length

theorem length_seated (o : Outbox) : o.tally.seated.length = o.slotLine.length + o.granted := by
  rw [tally, List.length_append, List.length_filterMap_eq_countP, granted]
  congr 1
  exact List.countP_congr fun agent _ ↦ by cases agent <;> simp [Agent.granted?]

@[simp] theorem tally_rouse (o : Outbox) : o.rouse.tally = o.tally := by
  unfold rouse
  split
  · split
    · rfl
    · simp [tally, Agent.granted?, cargo]
  · rfl

/-- A parcel that is queued is in stock. -/
theorem tally_push (o : Outbox) (ticket? : Option Nat) (parcel : Octets) :
    (o.push ticket? parcel).tally
      = { o.tally with stock := o.tally.stock + 1, queued := o.tally.queued + 1 } := by
  rw [push, tally_rouse]
  simp [tally, record, cargo, Journal.queued]
  omega

@[simp] theorem tally_refuse (o : Outbox) (sender : Sender) (cause : Fault) :
    (o.refuse sender cause).tally = o.tally := by
  rw [refuse, tally_rouse]
  simp [tally, record, cargo, Journal.queued]

@[simp] theorem tally_release (o : Outbox) (parcels : Nat) :
    (o.release parcels).tally = { o.tally with pending := o.tally.pending - parcels } := by
  simp only [tally, release, List.filterMap_append, Agent.filterMap_granted?_reserve,
    List.append_nil]
  rfl

/-- The stock is told by the queue and by what the carrier is at. -/
theorem stock_of_carrier {o : Outbox} {carrier : Carrier} (h : o.carrier = carrier) :
    o.tally.stock = o.queue.length + carrier.batched + carrier.lost :=
  h ▸ rfl

/-! ### Everything counted has a place -/

/-- The count is the seated senders, so many guests, and the stock, which is of parcels that were
queued. It is no more than the limit. -/
structure Tally.Balanced (limit guests : Nat) (c : Tally) : Prop where
  limit_eq : c.limit = limit
  pending_eq : c.pending = c.seated.length + guests + c.stock
  stock_le : c.stock ≤ c.queued
  pending_le : c.pending ≤ limit

variable {limit guests : Nat}

namespace Tally.Balanced

variable {c : Tally}

/-- The seated may change their order, and the stock its places. -/
theorem stay (h : c.Balanced limit guests) {c' : Tally} (hlimit : c'.limit = c.limit)
    (hpending : c'.pending = c.pending) (hseated : c'.seated.Perm c.seated)
    (hstock : c'.stock = c.stock) (hqueued : c'.queued = c.queued) :
    c'.Balanced limit guests where
  limit_eq := hlimit.trans h.limit_eq
  pending_eq := by rw [hpending, hseated.length_eq, hstock, h.pending_eq]
  stock_le := hstock ▸ hqueued ▸ h.stock_le
  pending_le := hpending ▸ h.pending_le

/-- A guest leaves and is not counted any more. -/
theorem leave (h : c.Balanced limit (guests + 1)) :
    ({ c with pending := c.pending - 1 } : Tally).Balanced limit guests where
  limit_eq := h.limit_eq
  pending_eq := by
    show c.pending - 1 = c.seated.length + guests + c.stock
    rw [h.pending_eq]
    omega
  stock_le := h.stock_le
  pending_le := Nat.le_trans (Nat.sub_le _ _) h.pending_le

/-- The parcel of a guest is queued. -/
theorem push (h : c.Balanced limit (guests + 1)) :
    ({ c with stock := c.stock + 1, queued := c.queued + 1 } : Tally).Balanced limit guests where
  limit_eq := h.limit_eq
  pending_eq := by
    show c.pending = c.seated.length + guests + (c.stock + 1)
    rw [h.pending_eq]
    omega
  stock_le := Nat.succ_le_succ h.stock_le
  pending_le := h.pending_le

end Tally.Balanced

theorem balanced_queueOffer {o : Outbox} (h : o.tally.Balanced limit (guests + 1))
    (parcel : Octets) : (o.queueOffer parcel).2.tally.Balanced limit guests := by
  unfold queueOffer
  split
  · rw [tally_release]
    exact h.leave
  · split
    · rw [tally_release]
      exact h.leave
    · rw [tally_push]
      exact h.push

theorem balanced_queueSender {o : Outbox} (h : o.tally.Balanced limit (guests + 1))
    (sender : Sender) : (o.queueSender sender).tally.Balanced limit guests := by
  unfold queueSender
  split
  · rw [tally_refuse, tally_release]
    exact h.leave
  · split
    · refine ⟨h.limit_eq, ?_, h.stock_le, h.pending_le⟩
      simp only [tally, List.length_append, List.length_singleton]
      have := h.pending_eq
      simp only [tally, List.length_append] at this
      omega
    · rw [tally_push]
      exact h.push

theorem balanced_enqueue {o : Outbox} (h : o.tally.Balanced limit (guests + 1))
    (sender : Sender) : (o.enqueue sender).tally.Balanced limit guests := by
  unfold enqueue
  split
  · rw [tally_refuse, tally_release]
    exact h.leave
  · rw [tally_push]
    exact h.push

/-- A batch that is taken stays in stock, and senders that are given a slot stay seated. -/
theorem balanced_takeParcels {o : Outbox} (h : o.tally.Balanced limit guests)
    (idle : o.carrier = .idle) (count : Nat) :
    (o.takeParcels count).tally.Balanced limit guests := by
  refine h.stay rfl rfl ?_ ?_ rfl
  · simp only [tally, takeParcels, List.filterMap_append, Agent.filterMap_granted?_enqueue]
    generalize (o.queue.take count).length = slots
    refine (List.perm_append_comm.append_left (o.slotLine.drop slots)).trans ?_
    rw [← List.append_assoc]
    refine List.Perm.append_right _ (List.perm_append_comm.trans ?_)
    rw [List.take_append_drop]
  · rw [stock_of_carrier idle]
    show (o.queue.drop count).length + (o.queue.take count).length + 0 = o.queue.length + 0 + 0
    rw [List.length_drop, List.length_take]
    omega

/-- A carrier that fails loses its batch and the queue, which stay in stock, and all stay seated. -/
theorem balanced_fail {o : Outbox} (h : o.tally.Balanced limit guests)
    {carrier : Carrier} (hcarrier : o.carrier = carrier) (hlost : carrier.lost = 0)
    (cause : Fault) :
    (o.fail carrier.batched cause).tally.Balanced limit guests := by
  refine h.stay rfl rfl ?_ ?_ ?_
  · simp only [tally, fail, note, record, List.filterMap_append, Agent.filterMap_granted?_enqueue,
      List.nil_append]
    exact List.perm_append_comm
  · rw [stock_of_carrier hcarrier, hlost]
    show 0 + 0 + (carrier.batched + o.queue.length) = o.queue.length + carrier.batched + 0
    omega
  · show (o.fail carrier.batched cause).cargo.queued.length = o.cargo.queued.length
    rw [cargo_fail]

/-- A batch that has been flushed is not in stock any more, and not counted. -/
theorem balanced_flushed {o : Outbox} {parcels bytes : Nat} (h : o.tally.Balanced limit guests)
    (flushing : o.carrier = .flushing parcels bytes) :
    (o.flushed parcels bytes).tally.Balanced limit guests := by
  have hstock : o.tally.stock = (o.flushed parcels bytes).tally.stock + parcels := by
    rw [stock_of_carrier flushing]
    show o.queue.length + parcels + 0 = o.queue.length + 0 + 0 + parcels
    omega
  have hseated : (o.flushed parcels bytes).tally.seated = o.tally.seated := by
    show (((o.record .flushed).note (.batchWritten parcels bytes)).release parcels).tally.seated = _
    rw [tally_release]
    rfl
  have hqueued : (o.flushed parcels bytes).tally.queued = o.tally.queued := by
    show (o.flushed parcels bytes).cargo.queued.length = o.cargo.queued.length
    rw [cargo_flushed]
  refine ⟨h.limit_eq, ?_, ?_, ?_⟩
  · show o.tally.pending - parcels = _
    rw [h.pending_eq, hseated, hstock]
    omega
  · have := h.stock_le
    omega
  · exact Nat.le_trans (Nat.sub_le _ _) h.pending_le

/-- The carrier moves what is counted, and takes a batch off the count when it has been flushed. -/
theorem balanced_carry {socket : Socket} {o o' : Outbox}
    (h : o.tally.Balanced limit guests) (hstep : o.carry socket = some o') :
    o'.tally.Balanced limit guests := by
  cases carried_of_carry hstep with
  | finished idle =>
    refine h.stay rfl rfl .rfl ?_ ?_
    · rw [stock_of_carrier idle]
      rfl
    · show o.finish.cargo.queued.length = o.cargo.queued.length
      rw [cargo_finish]
  | tookBatch idle => exact balanced_takeParcels h idle maxBatch
  | written writing =>
    refine h.stay rfl rfl .rfl ?_ rfl
    rw [stock_of_carrier writing]
    rfl
  | @wrote parcel rest parcels bytes count writing =>
    have hrecord (taken : Octets) : (o.record (.wrote taken)).tally.Balanced limit guests :=
      h.stay rfl rfl .rfl rfl (by simp [tally, record, cargo, Journal.queued])
    simp only [Outbox.wrote]
    split
    · exact balanced_fail (hrecord _) writing rfl nothingTaken
    · exact (hrecord _).stay rfl rfl .rfl (stock_of_carrier (o := o.record _) writing).symm rfl
  | shut writing | failedWrite writing => exact balanced_fail h writing rfl _
  | flushed flushing => exact balanced_flushed h flushing
  | failedFlush flushing => exact balanced_fail h flushing rfl _

/-! ### Every step keeps it -/

/-- One who gets room is counted from then on. -/
theorem balanced_book {o : Outbox} (h : o.tally.Balanced limit guests) (room : o.isFull = false) :
    o.book.tally.Balanced limit (guests + 1) where
  limit_eq := h.limit_eq
  pending_eq := by
    show o.tally.pending + 1 = _
    rw [h.pending_eq]
    show _ = o.tally.seated.length + (guests + 1) + o.tally.stock
    omega
  stock_le := h.stock_le
  pending_le := by
    have hroom : o.config.limit > o.pending := by simpa [isFull] using room
    exact h.limit_eq ▸ hroom

/-- An agent that has no slot may be woken, or have its turn. -/
theorem balanced_ready {o : Outbox} (h : o.tally.Balanced limit guests) {ready : List Agent}
    (hready : ready.filterMap Agent.granted? = o.ready.filterMap Agent.granted?) :
    ({ o with ready := ready } : Outbox).tally.Balanced limit guests :=
  h.stay rfl rfl (.of_eq (congrArg (o.slotLine ++ ·) hready)) rfl rfl

/-- A sender that comes to use its slot is not seated any more, and still counted. -/
theorem balanced_woken {o : Outbox} (h : o.tally.Balanced limit guests)
    {before after : List Agent} {sender : Sender}
    (woken : o.ready = before ++ .enqueue sender :: after) :
    ({ o with ready := before ++ after } : Outbox).tally.Balanced limit (guests + 1) where
  limit_eq := h.limit_eq
  pending_eq := by
    have := h.pending_eq
    simp only [tally, woken, List.filterMap_append, List.filterMap_cons, Agent.granted?,
      List.length_append, List.length_cons] at this ⊢
    omega
  stock_le := h.stock_le
  pending_le := h.pending_le

namespace Traffic

variable {sockets : Socket → Prop}

/-- **Every step keeps the count balanced.** -/
theorem balanced_step {t t' : Traffic} (h : t.outbox.tally.Balanced limit t.guests.length)
    (hstep : Step sockets t t') : t'.outbox.tally.Balanced limit t'.guests.length := by
  cases hstep with
  | offer parcel =>
    simp only [Traffic.offer]
    split
    · exact h
    · next hroom =>
      rw [List.length_append]
      exact balanced_book h (Bool.not_eq_true _ ▸ hroom)
  | spawn parcel => exact balanced_ready h (by simp [Agent.granted?])
  | @reserve before after sender woken =>
    have hout : ({ t.outbox with ready := before ++ after } : Outbox).tally.Balanced limit
        t.guests.length := balanced_ready h (by simp [woken, List.filterMap_cons, Agent.granted?])
    unfold Traffic.reserve
    split
    · next hfull =>
      show (Outbox.reserve _ sender).tally.Balanced limit _
      rw [Outbox.reserve, if_pos hfull]
      split
      · rw [tally_refuse]
        exact hout
      · exact hout
    · next hroom =>
      rw [List.length_append]
      exact balanced_book hout (Bool.not_eq_true _ ▸ hroom)
  | @arrive before after guest coming =>
    have hlength : t.guests.length = (before ++ after).length + 1 := by
      simp only [coming, List.length_append, List.length_cons]
      omega
    rw [hlength] at h
    cases guest with
    | offer call parcel => exact balanced_queueOffer h parcel
    | sender sender => exact balanced_queueSender h sender
  | @enqueue before after sender woken => exact balanced_enqueue (balanced_woken h woken) sender
  | wake => exact balanced_ready h (by simp [move, Agent.granted?])
  | expire =>
    show (Outbox.refuse _ _ _).tally.Balanced limit _
    rw [tally_refuse]
    exact h
  | take idle => exact balanced_takeParcels h idle _
  | carry socket _ step => exact balanced_carry h step
  | rest woken =>
    exact balanced_ready h (by simp [woken, List.filterMap_cons, Agent.granted?])
  | retry =>
    show t.outbox.retry.tally.Balanced limit _
    unfold retry
    split
    · exact balanced_ready h (by simp [Agent.granted?])
    · exact h
  | pass => exact h
  | letGo =>
    show (Outbox.rouse _).tally.Balanced limit _
    rw [tally_rouse]
    exact h

theorem balanced_of_runs {config : Config} {t : Traffic} (h : Runs sockets (ofConfig config) t) :
    t.outbox.tally.Balanced config.limit t.guests.length := by
  induction h with
  | refl => exact ⟨rfl, rfl, Nat.le_refl 0, Nat.zero_le _⟩
  | tail _ step ih => exact balanced_step ih step

end Traffic

end ParcelLink.Outbox
