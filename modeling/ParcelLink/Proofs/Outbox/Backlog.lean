import ParcelLink.Proofs.Outbox.Returns

/-!
# The count of pending parcels is exact

The count of an outbox is raised in one place and lowered in four: by an offer or a sender that has
room and finds the queue closed or full, by a sender whose wait for a slot is over since the queue
was closed, and by the carrier once a batch has been flushed. Since the tally is balanced, there is
something to be lowered in each of these places (`Outbox.Traffic.covered_of_balanced`).

The count can also be read call by call. The calls that are counted are those that have room, and
of the accepted calls the last ones, whose parcels are in stock (`Outbox.Traffic.holders`). A call
that was refused is not among them, and its refusal leaves all others where they are
(`Outbox.Traffic.holders_of_refused`).

## Main definitions

* `Outbox.release?`: to lower the count, unless less is counted; and the four places with it.
* `Outbox.Traffic.Covered`: that the count is never too low for them.
* `Outbox.Traffic.holders`: the calls that are counted.
-/

namespace ParcelLink.Outbox

/-! ### Lowering the count, if there is enough -/

/-- Count parcels as pending no more, unless fewer are counted. -/
def release? (o : Outbox) (parcels : Nat) : Option Outbox :=
  if parcels ≤ o.pending then some (o.release parcels) else none

/-- An offer that has room comes to the queue, and gives its room back only if that is counted. -/
def queueOffer? (o : Outbox) (parcel : Octets) : Option (Except Fault Unit × Outbox) :=
  if o.isClosed then (o.release? 1).map (.error .connectionClosed, ·)
  else if o.freeSlots = 0 then (o.release? 1).map (.error .backpressureTimeout, ·)
  else some (.ok (), o.push none parcel)

/-- A sender that has room comes to the queue, and gives its room back only if that is counted. -/
def queueSender? (o : Outbox) (sender : Sender) : Option Outbox :=
  if o.isClosed then (o.release? 1).map (·.refuse sender .connectionClosed)
  else if o.freeSlots = 0 then some { o with slotLine := o.slotLine ++ [sender] }
  else some (o.push (some sender.ticket) sender.parcel)

/-- A sender uses its slot, or gives its room back only if that is counted. -/
def enqueue? (o : Outbox) (sender : Sender) : Option Outbox :=
  if o.isClosed then (o.release? 1).map (·.refuse sender .connectionClosed)
  else some (o.push (some sender.ticket) sender.parcel)

/-- A step of the carrier, which takes a batch off the count only if all of it is counted. -/
def carry? (socket : Socket) (o : Outbox) : Option (Option Outbox) :=
  match o.carrier, socket.onFlush with
  | .flushing parcels bytes, .done =>
    (((o.record .flushed).note (.batchWritten parcels bytes)).release? parcels).map fun o ↦
      some { o with carrier := .idle }
  | _, _ => some (o.carry socket)

theorem release?_of_le {o : Outbox} {parcels : Nat} (h : parcels ≤ o.pending) :
    o.release? parcels = some (o.release parcels) :=
  if_pos h

theorem queueOffer?_of_pos {o : Outbox} (h : 1 ≤ o.pending) (parcel : Octets) :
    o.queueOffer? parcel = some (o.queueOffer parcel) := by
  rw [queueOffer?, queueOffer, release?_of_le h]
  split
  · rfl
  · split <;> rfl

theorem queueSender?_of_pos {o : Outbox} (h : 1 ≤ o.pending) (sender : Sender) :
    o.queueSender? sender = some (o.queueSender sender) := by
  rw [queueSender?, queueSender, release?_of_le h]
  split
  · rfl
  · split <;> rfl

theorem enqueue?_of_pos {o : Outbox} (h : 1 ≤ o.pending) (sender : Sender) :
    o.enqueue? sender = some (o.enqueue sender) := by
  rw [enqueue?, enqueue, release?_of_le h]
  split <;> rfl

theorem carry?_of_le {o : Outbox} (h : o.carrier.batched ≤ o.pending) (socket : Socket) :
    o.carry? socket = some (o.carry socket) := by
  unfold carry?
  split
  · next parcels bytes flushing done =>
    have hrelease := release?_of_le (o := (o.record .flushed).note (.batchWritten parcels bytes))
      (show parcels ≤ o.pending by rw [flushing] at h; exact h)
    rw [hrelease, carry, flushing]
    simp only [done]
    rfl
  · rfl

namespace Traffic

variable {sockets : Socket → Prop} {limit : Nat}

/-- That nothing is taken off the count that is not counted. -/
structure Covered (t : Traffic) : Prop where
  /-- Every offer on its way to the queue can give its room back. -/
  queueOffer : ∀ call parcel, .offer call parcel ∈ t.guests →
    t.outbox.queueOffer? parcel = some (t.outbox.queueOffer parcel)
  /-- So can every sender on its way to the queue. -/
  queueSender : ∀ sender, .sender sender ∈ t.guests →
    t.outbox.queueSender? sender = some (t.outbox.queueSender sender)
  /-- So can every sender that was given a slot. -/
  enqueue : ∀ before sender after, t.outbox.ready = before ++ .enqueue sender :: after →
    let o := { t.outbox with ready := before ++ after }
    o.enqueue? sender = some (o.enqueue sender)
  /-- The carrier can take its batch off the count. -/
  carry : ∀ socket, t.outbox.carry? socket = some (t.outbox.carry socket)

theorem covered_of_balanced {t : Traffic} (h : t.outbox.tally.Balanced limit t.guests.length) :
    t.Covered := by
  have hpending : t.outbox.pending
      = t.outbox.tally.seated.length + t.guests.length + t.outbox.tally.stock := h.pending_eq
  have hguest {guest : Guest} (hmem : guest ∈ t.guests) : 1 ≤ t.outbox.pending := by
    have := List.length_pos_of_mem hmem
    omega
  refine ⟨fun _ parcel hmem ↦ queueOffer?_of_pos (hguest hmem) parcel,
    fun sender hmem ↦ queueSender?_of_pos (hguest hmem) sender,
    fun before sender after woken ↦ enqueue?_of_pos ?_ sender, fun socket ↦ carry?_of_le ?_ socket⟩
  · have hwoken : t.outbox.pending = _ := (balanced_woken h woken).pending_eq
    show 1 ≤ t.outbox.pending
    omega
  · have hstock : t.outbox.carrier.batched ≤ t.outbox.tally.stock := by
      rw [stock_of_carrier rfl]
      omega
    omega

/-! ### Who is counted -/

/-- The calls that are counted: those that have room, and of the accepted calls the last ones, whose
parcels are in stock. -/
def holders (t : Traffic) : List Nat :=
  t.admitted ++ t.accepted.drop (t.accepted.length - t.outbox.tally.stock)

/-- As many calls are counted as the count says. -/
theorem length_holders {t : Traffic} (h : t.outbox.tally.Balanced limit t.guests.length)
    (haccounted : t.Accounted) : t.holders.length = t.outbox.pending := by
  have hpending : t.outbox.pending
      = t.outbox.tally.seated.length + t.guests.length + t.outbox.tally.stock := h.pending_eq
  have hqueued : t.outbox.tally.queued = t.accepted.length := by
    show t.outbox.cargo.queued.length = _
    rw [haccounted.queued_eq, List.length_map]
  have hstock := h.stock_le
  simp only [holders, admitted, List.length_append, List.length_map, List.length_drop]
  omega

theorem admitted_sublist (t : Traffic) : t.admitted.Sublist (t.entries.map Prod.fst) := by
  have hgranted : (t.outbox.ready.filterMap Agent.granted?).Sublist
      (t.outbox.ready.filterMap Agent.sender?) := by
    induction t.outbox.ready with
    | nil => exact .refl []
    | cons agent rest ih =>
      cases agent with
      | carrier => exact ih
      | reserve sender => exact ih.cons sender
      | enqueue sender => exact ih.cons_cons sender
  have hseated : t.outbox.tally.seated.Sublist t.outbox.senders := by
    rw [senders, List.append_assoc]
    exact ((List.Sublist.refl _).append hgranted).trans (List.sublist_append_right _ _)
  rw [admitted, entries, List.map_append, List.map_map, List.map_map]
  exact (hseated.map _).append (.refl _)

theorem accepted_sublist (t : Traffic) : t.accepted.Sublist (t.returned.map Prod.fst) := by
  rw [accepted]
  induction t.returned with
  | nil => exact .refl []
  | cons result rest ih =>
    obtain ⟨call, cause | ⟨⟩⟩ := result
    · exact ih.cons call
    · exact ih.cons_cons call

/-- No call is counted twice. -/
theorem nodup_holders {t : Traffic} (h : t.Accounted) : t.holders.Nodup := by
  have hnodup := h.calls_perm.nodup_iff.2 List.nodup_range
  exact (t.admitted_sublist.append ((List.drop_sublist _ _).trans t.accepted_sublist)).nodup hnodup

/-- A call that was refused is not counted. -/
theorem not_mem_holders {t : Traffic} (h : t.Accounted) {call : Nat} {cause : Fault}
    (hrefused : (call, .error cause) ∈ t.returned) : call ∉ t.holders := by
  rw [holders, List.mem_append]
  rintro (hadmitted | haccepted)
  · exact h.not_returned (t.admitted_sublist.subset hadmitted) (List.mem_map_of_mem hrefused)
  · exact h.not_accepted hrefused (List.mem_of_mem_drop haccepted)

/-- **A refusal takes nothing off the count but the call's own share**, if it had one. -/
theorem holders_of_refused {t t' : Traffic} (hstep : Step sockets t t') {call : Nat}
    {cause : Fault} (hrefused : t'.returned = t.returned ++ [(call, .error cause)]) :
    t.holders.Perm t'.holders ∨ t.holders.Perm (call :: t'.holders) := by
  have haccepted : t'.accepted = t.accepted := by
    rw [accepted_of_returned hrefused]
    exact List.append_nil _
  have hsame {result : Nat × Except Fault Unit} (h : t'.returned = t.returned ++ [result]) :
      result = (call, .error cause) := by
    simpa using h.symm.trans hrefused
  -- A call that had no room leaves the count alone, and one that had room gives its own back.
  cases returns_of_step hstep with
  | none hnone => exact absurd (hnone.symm.trans hrefused) (by simp)
  | accepted _ haccept => cases hsame haccept
  | noRoom _ _ _ hadmitted hstock =>
    left
    rw [holders, holders, haccepted, hstock, hadmitted]
  | expired _ _ _ hadmitted hstock =>
    left
    rw [holders, holders, haccepted, hstock, hadmitted]
  | closed _ hclosed _ hadmitted hstock =>
    cases hsame hclosed
    right
    rw [holders, holders, haccepted, hstock, ← List.cons_append]
    exact hadmitted.append_right _
  | noSlot _ _ hfull _ _ hadmitted hstock =>
    cases hsame hfull
    right
    rw [holders, holders, haccepted, hstock, ← List.cons_append]
    exact hadmitted.append_right _

/-- **The count of pending parcels is exact.** At every moment of every run it is the senders that
have room and wait for a slot or were given one, those with room who are on their way to the queue,
the parcels in the queue, those of the batch that the carrier is at, and those lost with a carrier
that failed. It is never above the limit, and nothing is ever taken off it that is not counted. It
is also the number of the calls that are counted, each of them once. A call that was refused is not
counted, and the step in which a call is refused takes that call off the count and no other. -/
theorem count_of_pending {config : Config} {t : Traffic} (h : Runs sockets (ofConfig config) t) :
    let o := t.outbox
    o.pending = (o.slotLine.length + o.granted + t.guests.length) + o.queue.length
        + o.carrier.batched + o.carrier.lost
      ∧ o.pending ≤ config.limit
      ∧ t.Covered
      ∧ t.holders.length = o.pending ∧ t.holders.Nodup
      ∧ (∀ call cause, (call, .error cause) ∈ t.returned → call ∉ t.holders)
      ∧ ∀ t' call cause, Step sockets t t' →
          t'.returned = t.returned ++ [(call, .error cause)] →
          t'.holders.Perm (t.holders.erase call) := by
  intro o
  have hbalanced := balanced_of_runs h
  obtain ⟨-, haccounted⟩ := invariant_of_runs h
  refine ⟨?_, hbalanced.pending_le, covered_of_balanced hbalanced,
    length_holders hbalanced haccounted, nodup_holders haccounted,
    fun call cause ↦ not_mem_holders haccounted, fun t' call cause hstep hrefused ↦ ?_⟩
  · have hpending : o.pending
        = o.tally.seated.length + t.guests.length + o.tally.stock := hbalanced.pending_eq
    rw [hpending, length_seated, stock_of_carrier rfl]
    omega
  · have haccounted' := accounted_step haccounted hstep
    have hmem : (call, .error cause) ∈ t'.returned := by simp [hrefused]
    have hgone := not_mem_holders haccounted' hmem
    obtain hsame | hless := holders_of_refused hstep hrefused
    · rw [List.erase_of_not_mem (fun hmem ↦ hgone (hsame.subset hmem))]
      exact hsame.symm
    · have := hless.erase call
      rw [List.erase_cons_head] at this
      exact this.symm

/-- The carrier fails with a batch of one parcel, while a sender that was given its slot and an
offer have room: three are counted, one of them lost. The offer is then refused, and two are
left. -/
theorem count_of_pending_around_failure :
    let start := ofConfig { limit := 3, slots := 1 }
    let sender : Sender := ⟨1, [2], 5000⟩
    let socket := Socket.broken nothingTaken
    let spawned := (start.offerNow [1]).spawn [2]
    let looked := ({ spawned with
      outbox := { spawned.outbox with ready := [.carrier] } } : Traffic).reserve sender
    let offered := ((({ looked with guests := [] } : Traffic).arrive (.sender sender)).carryOn
      socket 1).offer [3]
    let failed := offered.move (offered.outbox.fail 1 nothingTaken)
    let refused := ({ failed with guests := [] } : Traffic).arrive (.offer 2 [3])
    Runs (fun _ ↦ True) start failed ∧ Step (fun _ ↦ True) failed refused
      ∧ failed.outbox.pending = (0 + 1 + 1) + 0 + 0 + 1
      ∧ refused.returned = failed.returned ++ [(2, .error .connectionClosed)]
      ∧ refused.holders.Perm ([1, 2, 0].erase 2) ∧ 2 ∉ refused.holders := by
  intro start sender socket spawned looked offered failed refused
  have hspawned : Runs (fun _ ↦ True) start spawned :=
    (runs_offerNow start [1] rfl rfl).tail (.spawn _ [2] (by decide +kernel))
  have hlooked : Runs (fun _ ↦ True) start looked :=
    hspawned.tail (@Step.reserve _ spawned [.carrier] [] sender (by decide +kernel))
  have hwaiting : Runs (fun _ ↦ True) start
      (({ looked with guests := [] } : Traffic).arrive (.sender sender)) :=
    hlooked.tail (@Step.arrive _ looked [] [] (.sender sender) (by decide +kernel))
  have hoffered : Runs (fun _ ↦ True) start offered :=
    (hwaiting.trans (runs_carryOn trivial 1 _ rfl).1).tail (.offer _ [3] (by decide +kernel))
  have hfailed : Runs (fun _ ↦ True) start failed :=
    hoffered.tail (.carry socket trivial rfl fun hidle ↦ absurd hidle (by decide +kernel))
  have hrefused : Step (fun _ ↦ True) failed refused :=
    @Step.arrive _ failed [] [] (.offer 2 [3]) (by decide +kernel)
  have hreturned : refused.returned = failed.returned ++ [(2, .error .connectionClosed)] := by
    decide +kernel
  obtain ⟨hpending, -, -, -, -, -, hstep⟩ := count_of_pending hfailed
  obtain ⟨-, -, -, -, -, hgone, -⟩ := count_of_pending (hfailed.tail hrefused)
  have hholders : failed.holders = [1, 2, 0] := by decide +kernel
  refine ⟨hfailed, hrefused, ?_, hreturned, ?_, hgone 2 .connectionClosed (by decide +kernel)⟩
  · rw [hpending]
    decide +kernel
  · rw [← hholders]
    exact hstep refused 2 .connectionClosed hrefused hreturned

end Traffic

end ParcelLink.Outbox
