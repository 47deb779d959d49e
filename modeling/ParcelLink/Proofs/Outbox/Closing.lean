import ParcelLink.Proofs.Outbox.Backlog
import ParcelLink.Proofs.Outbox.Wakeups

/-!
# What a closed outbox tells its callers

Once the carrier has ended it stays so, and nothing is queued any more. But callers come to the
closed queue only with room, and parcels that were lost with the carrier never leave the count. So
a call that has room is told that the queue is closed, and one that finds none is told the same as
if the carrier were slow (`Outbox.Traffic.told_of_ended`). If the lost parcels alone make up the
limit, nobody is ever told that the queue is closed (`Outbox.Traffic.told_full_of_failure`); if
they do not, nobody keeps waiting.

## Main definitions

* `Outbox.Shuts`: what a step does to the carrier's end and to those who wait for a slot.
-/

namespace ParcelLink.Outbox

/-- What a step does to the carrier's end and to those who wait for a slot. -/
inductive Shuts (o o' : Outbox) : Prop where
  /-- Nothing. -/
  | stay (carrier_eq : o'.carrier = o.carrier) (slotLine_eq : o'.slotLine = o.slotLine)
  /-- The queue is open before and after. -/
  | goOn (open_before : o.isClosed = false) (open_after : o'.isClosed = false)
  /-- The carrier ends, and nobody waits for a slot any more. -/
  | close (open_before : o.isClosed = false) (slotLine_eq : o'.slotLine = [])

/-- Rousing the carrier does not matter. -/
theorem Shuts.rouse {o o' : Outbox} (h : Shuts o o') : Shuts o o'.rouse := by
  cases h with
  | stay carrier_eq slotLine_eq => exact .stay (by rwa [carrier_rouse]) (by rwa [slotLine_rouse])
  | goOn before after => exact .goOn before (by rwa [isClosed, carrier_rouse])
  | close before slotLine_eq => exact .close before (by rwa [slotLine_rouse])

theorem shuts_push (o : Outbox) (ticket? : Option Nat) (parcel : Octets) :
    Shuts o (o.push ticket? parcel) :=
  Shuts.rouse (.stay rfl rfl)

theorem shuts_queueOffer (o : Outbox) (parcel : Octets) : Shuts o (o.queueOffer parcel).2 := by
  unfold queueOffer
  split
  · exact .stay rfl rfl
  · split
    · exact .stay rfl rfl
    · exact shuts_push o none parcel

/-- A sender waits for a slot only while the queue is open. -/
theorem shuts_queueSender (o : Outbox) (sender : Sender) : Shuts o (o.queueSender sender) := by
  unfold queueSender
  split
  · exact Shuts.rouse (.stay rfl rfl)
  · next hopen =>
    split
    · exact .goOn (Bool.not_eq_true _ ▸ hopen) (Bool.not_eq_true _ ▸ hopen)
    · exact shuts_push o _ _

theorem shuts_enqueue (o : Outbox) (ready : List Agent) (sender : Sender) :
    Shuts o ({ o with ready := ready }.enqueue sender) := by
  unfold enqueue
  split <;> exact Shuts.rouse (.stay rfl rfl)

/-- When the carrier ends those who wait for a slot are woken, if there are any. -/
theorem shuts_carry {socket : Socket} {o o' : Outbox} (h : o.carry socket = some o') :
    Shuts o o' := by
  have hopen {carrier : Carrier} (hcarrier : o.carrier = carrier)
      (hended : carrier.isEnded = false) : o.isClosed = false := by rw [isClosed, hcarrier, hended]
  cases carried_of_carry h with
  | finished idle _ closed =>
    refine .close (hopen idle rfl) ?_
    -- The carrier ends well only if no sender is left, so none waits for a slot either.
    have hnobody : o.senders = [] := by
      rw [isOpen, Bool.or_eq_false_iff] at closed
      simpa using closed.2
    rw [senders, List.append_assoc] at hnobody
    exact (List.append_eq_nil_iff.1 (List.append_eq_nil_iff.1 hnobody).2).1
  | tookBatch idle => exact .goOn (hopen idle rfl) rfl
  | written writing => exact .goOn (hopen writing rfl) rfl
  | wrote writing =>
    simp only [wrote]
    split
    · exact .close (hopen writing rfl) rfl
    · exact .goOn (hopen writing rfl) rfl
  | shut writing | failedWrite writing => exact .close (hopen writing rfl) rfl
  | flushed flushing => exact .goOn (hopen flushing rfl) rfl
  | failedFlush flushing => exact .close (hopen flushing rfl) rfl

theorem ready_settle (socket : Socket) (o : Outbox) : (o.settle socket).ready = [] := by
  fun_induction settle socket o with
  | case1 o h => exact h
  | case2 o agent rest h ih => exact ih

namespace Traffic

variable {sockets : Socket → Prop}

/-- **What a step does to the carrier's end.** -/
theorem shuts_step {t t' : Traffic} (hstep : Step sockets t t') : Shuts t.outbox t'.outbox := by
  cases hstep with
  | offer parcel =>
    simp only [Traffic.offer]
    split <;> exact .stay rfl rfl
  | spawn => exact .stay rfl rfl
  | @reserve before after sender =>
    unfold Traffic.reserve
    split
    · next hfull =>
      show Shuts _ (Outbox.reserve _ sender)
      rw [Outbox.reserve, if_pos hfull]
      split
      · exact Shuts.rouse (.stay rfl rfl)
      · exact .stay rfl rfl
    · exact .stay rfl rfl
  | @arrive before after guest =>
    cases guest with
    | offer call parcel => exact shuts_queueOffer t.outbox parcel
    | sender sender => exact shuts_queueSender t.outbox sender
  | @enqueue before after sender => exact shuts_enqueue t.outbox (before ++ after) sender
  | expire => exact Shuts.rouse (.stay rfl rfl)
  | carry socket _ step => exact shuts_carry step
  | take idle => exact .goOn (by rw [isClosed, idle]; rfl) rfl
  | wake | rest | pass => exact .stay rfl rfl
  | retry =>
    show Shuts t.outbox t.outbox.retry
    unfold retry
    split <;> exact .stay rfl rfl
  | letGo => exact Shuts.rouse (.stay rfl rfl)

/-- **A carrier that has ended stays so.** -/
theorem carrier_of_ended {t t' : Traffic} {outcome : Except Fault Unit} {lost : Nat}
    (hended : t.outbox.carrier = .ended outcome lost) (hruns : Runs sockets t t') :
    t'.outbox.carrier = .ended outcome lost := by
  induction hruns with
  | refl => exact hended
  | @tail t₁ t₂ _ step ih =>
    have hclosed : t₁.outbox.isClosed = true := by rw [isClosed, ih]; rfl
    cases shuts_step step with
    | stay carrier_eq => exact carrier_eq.trans ih
    | goOn hopen | close hopen => exact absurd (hclosed.symm.trans hopen) (by decide)

/-- **Nobody waits for a slot of a closed queue.** -/
theorem slotLine_of_closed {config : Config} {t : Traffic}
    (h : Runs sockets (ofConfig config) t) (hclosed : t.outbox.isClosed = true) :
    t.outbox.slotLine = [] := by
  induction h with
  | refl => cases hclosed
  | @tail t₁ t₂ _ step ih =>
    cases shuts_step step with
    | stay carrier_eq slotLine_eq =>
      rw [slotLine_eq]
      exact ih (by rwa [isClosed, carrier_eq] at hclosed)
    | goOn _ hopen => exact absurd (hclosed.symm.trans hopen) (by decide)
    | close _ slotLine_eq => exact slotLine_eq

/-- Once the carrier has ended, all that is counted is lost or has room still. -/
theorem pending_of_ended {config : Config} {t : Traffic} (h : Runs sockets (ofConfig config) t)
    {outcome : Except Fault Unit} {lost : Nat} (hended : t.outbox.carrier = .ended outcome lost) :
    t.outbox.pending = lost + t.admitted.length := by
  have hqueue : t.outbox.queue = [] := by
    obtain ⟨hsound, -⟩ := invariant_of_runs h
    have hcarrier : t.outbox.cargo.carrier = .ended outcome lost := hended
    rw [Cargo.Sound, hcarrier] at hsound
    exact hsound.1
  have hstock : t.outbox.tally.stock = lost := by
    rw [stock_of_carrier hended, hqueue]
    exact Nat.zero_add lost
  have hpending : t.outbox.pending = _ := (balanced_of_runs h).pending_eq
  rw [hpending, hstock, admitted, List.length_append, List.length_map, List.length_map]
  omega

/-- A call that has returned does not have room. -/
theorem not_admitted {t : Traffic} (h : t.Accounted) {call : Nat}
    (hreturned : call ∈ t.returned.map Prod.fst) : call ∉ t.admitted := fun hadmitted ↦
  h.not_returned (t.admitted_sublist.subset hadmitted) hreturned

/-- **A call that has room is told that the queue is closed, and any other that there is no
room.** -/
theorem told_of_step {config : Config} {t t' : Traffic} (h : Runs sockets (ofConfig config) t)
    (hclosed : t.outbox.isClosed = true) (hstep : Step sockets t t') {call : Nat}
    {outcome : Except Fault Unit} (hreturned : t'.returned = t.returned ++ [(call, outcome)]) :
    call ∈ t.admitted ∧ outcome = .error .connectionClosed
      ∨ call ∉ t.admitted ∧ outcome = .error .backpressureTimeout ∧ t.outbox.isFull = true := by
  have hsame {result : Nat × Except Fault Unit} (h : t'.returned = t.returned ++ [result]) :
      result = (call, outcome) := by
    simpa using h.symm.trans hreturned
  -- A call that has returned has no room any more. A refusal for want of room takes none away, so
  -- the call did not have room before either.
  have hgone : call ∉ t'.admitted :=
    not_admitted (accounted_step (invariant_of_runs h).2 hstep) (by simp [hreturned])
  cases returns_of_step hstep with
  | none hnone => exact absurd (hnone.symm.trans hreturned) (by simp)
  | accepted _ _ hopen | noSlot _ _ _ _ hopen =>
    exact absurd (hclosed.symm.trans hopen) (by decide)
  | noRoom _ hnoRoom full hadmitted =>
    cases hsame hnoRoom
    exact .inr ⟨hadmitted ▸ hgone, rfl, full⟩
  | expired _ hexpired hwaits hadmitted =>
    cases hsame hexpired
    exact .inr ⟨hadmitted ▸ hgone, rfl, Watch.full_of_line h hwaits⟩
  | closed _ htold _ hadmitted =>
    cases hsame htold
    exact .inl ⟨hadmitted.symm.subset List.mem_cons_self, rfl⟩

/-- An offer to a closed queue is told so if it finds room. -/
theorem offer_of_closed {o : Outbox} (hclosed : o.isClosed = true) (parcel : Octets) :
    (o.offer parcel).1
      = .error (if o.isFull then .backpressureTimeout else .connectionClosed) := by
  rw [Outbox.offer, if_pos hclosed]
  split <;> rfl

/-- If the lost parcels leave room, nobody waits any more once all who were woken have had their
turns. -/
theorem senders_of_ended {config : Config} {t : Traffic} (h : Runs sockets (ofConfig config) t)
    {outcome : Except Fault Unit} {lost : Nat} (hended : t.outbox.carrier = .ended outcome lost)
    (hready : t.outbox.ready = []) (hguests : t.guests = []) (hroom : lost < config.limit) :
    t.outbox.senders = [] := by
  have hslotLine : t.outbox.slotLine = [] :=
    slotLine_of_closed h (by rw [isClosed, hended]; rfl)
  have hpending := pending_of_ended h hended
  simp only [admitted, tally, hslotLine, hready, hguests, List.filterMap_nil, List.append_nil,
    List.map_nil, List.length_nil, Nat.add_zero] at hpending
  -- Nobody has room, so the count is that of the lost parcels, and nobody has reason to wait.
  have hroomLine : t.outbox.roomLine = [] := by
    rw [List.eq_nil_iff_forall_not_mem]
    intro sender hwaits
    have hfull := Watch.full_of_line h hwaits
    have hlimit : t.outbox.config.limit = config.limit := (balanced_of_runs h).limit_eq
    simp only [isFull, decide_eq_true_eq] at hfull
    omega
  rw [senders, hroomLine, hslotLine, hready]
  rfl

/-- **What a closed outbox tells its callers.** Once the carrier has ended it stays so, and all
that is counted are the lost parcels and the calls that have room still. From then on, a call that
returns and has room is told that the queue is closed; and one that has none is told that there is
none, at a moment at which that is so. An offer has room if the count is below the limit when it
comes. If the lost parcels are fewer than the limit, no sender is left once all who were woken have
had their turns; and if they are not, no call ever has room. -/
theorem told_of_ended {config : Config} {t t' : Traffic} (h : Runs sockets (ofConfig config) t)
    {outcome : Except Fault Unit} {lost : Nat} (hended : t.outbox.carrier = .ended outcome lost)
    (hlater : Runs sockets t t') :
    let o := t'.outbox
    o.carrier = .ended outcome lost
      ∧ o.pending = lost + t'.admitted.length
      ∧ (∀ t'' call result, Step sockets t' t'' →
          t''.returned = t'.returned ++ [(call, result)] →
          call ∈ t'.admitted ∧ result = .error .connectionClosed
            ∨ call ∉ t'.admitted ∧ result = .error .backpressureTimeout
              ∧ config.limit ≤ o.pending)
      ∧ (∀ parcel, (o.offer parcel).1
          = .error (if config.limit ≤ o.pending then .backpressureTimeout else .connectionClosed))
      ∧ (lost < config.limit → t'.guests = [] → ∀ socket, sockets socket →
          (o.settle socket).senders = [])
      ∧ (config.limit ≤ lost → t'.admitted = []) := by
  intro o
  have hruns := h.trans hlater
  have hended' : o.carrier = .ended outcome lost := carrier_of_ended hended hlater
  have hclosed : o.isClosed = true := by rw [isClosed, hended']; rfl
  have hpending : o.pending = lost + t'.admitted.length := pending_of_ended hruns hended'
  have hbalanced := balanced_of_runs hruns
  have hlimit : o.config.limit = config.limit := hbalanced.limit_eq
  refine ⟨hended', hpending, fun t'' call result hstep hreturned ↦ ?_, fun parcel ↦ ?_,
    fun hroom hguests socket hsocket ↦ ?_, fun hlost ↦ ?_⟩
  · rcases told_of_step hruns hclosed hstep hreturned with hhas | ⟨hlacks, htold, hfull⟩
    · exact .inl hhas
    · refine .inr ⟨hlacks, htold, ?_⟩
      rw [← hlimit]
      simpa [isFull] using hfull
  · rw [offer_of_closed hclosed, isFull, hlimit]
    simp only [decide_eq_true_eq]
  · obtain ⟨t₂, hruns₂, houtbox, hguests₂⟩ := leads_settle hsocket o t' rfl hguests
    rw [← houtbox]
    refine senders_of_ended (hruns.trans hruns₂) (carrier_of_ended hended' hruns₂) ?_ hguests₂ hroom
    rw [houtbox]
    exact ready_settle socket o
  · have hle : o.pending ≤ config.limit := hbalanced.pending_le
    rw [← List.length_eq_zero_iff]
    omega

/-- The carrier fails with a batch of one parcel. There is room for two, which the parcel and a
sender have that was given its slot, and a second sender waits for room. An offer at that moment is
told that there is no room, and the first sender that the queue is closed; then nobody is left. -/
theorem told_of_failure :
    let start := ofConfig { limit := 2, slots := 1 }
    let first : Sender := ⟨1, [2], 5000⟩
    let second : Sender := ⟨2, [3], 5000⟩
    let spawned := ((start.offerNow [1]).spawn [2]).spawn [3]
    let looked := ({ spawned with
      outbox := { spawned.outbox with
        ready := [.carrier, .reserve second] } } : Traffic).reserve first
    let seated := ({ looked with guests := [] } : Traffic).arrive (.sender first)
    let waiting := ({ seated with
      outbox := { seated.outbox with ready := [.carrier] } } : Traffic).reserve second
    let failed := waiting.carryOn (Socket.broken nothingTaken) 2
    let told := failed.move ({ failed.outbox with ready := [.carrier] }.enqueue first)
    Runs (fun _ ↦ True) start failed ∧ failed.outbox.carrier = .ended (.error nothingTaken) 1
      ∧ failed.admitted = [1] ∧ failed.outbox.pending = 1 + 1
      ∧ (failed.outbox.offer []).1 = .error .backpressureTimeout
      ∧ Step (fun _ ↦ True) failed told
      ∧ told.returned = failed.returned ++ [(1, .error .connectionClosed)]
      ∧ (told.outbox.settle (Socket.broken nothingTaken)).senders = [] := by
  intro start first second spawned looked seated waiting failed told
  have hspawned : Runs (fun _ ↦ True) start spawned :=
    ((runs_offerNow start [1] rfl rfl).tail (.spawn _ [2] (by decide +kernel))).tail
      (.spawn _ [3] (by decide +kernel))
  have hlooked : Runs (fun _ ↦ True) start looked :=
    hspawned.tail (@Step.reserve _ spawned [.carrier] [.reserve second] first (by decide +kernel))
  have hseated : Runs (fun _ ↦ True) start seated :=
    hlooked.tail (@Step.arrive _ looked [] [] (.sender first) (by decide +kernel))
  have hwaiting : Runs (fun _ ↦ True) start waiting :=
    hseated.tail (@Step.reserve _ seated [.carrier] [] second (by decide +kernel))
  have hfailed : Runs (fun _ ↦ True) start failed :=
    hwaiting.trans (runs_carryOn trivial 2 waiting (by decide +kernel)).1
  have hended : failed.outbox.carrier = .ended (.error nothingTaken) 1 := by decide +kernel
  have htold : Step (fun _ ↦ True) failed told :=
    @Step.enqueue _ failed [.carrier] [] first (by decide +kernel)
  have hreturned : told.returned = failed.returned ++ [(1, .error .connectionClosed)] := by
    decide +kernel
  have hadmitted : failed.admitted = [1] := by decide +kernel
  obtain ⟨-, hpending, -, hoffer, -, -⟩ := told_of_ended hfailed hended .refl
  obtain ⟨-, -, -, -, hsenders, -⟩ := told_of_ended hfailed hended (.single htold)
  refine ⟨hfailed, hended, hadmitted, ?_, ?_, htold, hreturned,
    hsenders (by decide) (by decide +kernel) _ trivial⟩
  · rw [hpending, hadmitted]
    rfl
  · rw [hoffer, if_pos (by decide +kernel)]

/-- There is room for one parcel, and it is lost with the carrier. A later offer is told that there
is no room, and so is a sender that waited for room when the carrier failed, after its time is
over. -/
theorem told_full_of_failure :
    let start := ofConfig { limit := 1, slots := 1 }
    let sender : Sender := ⟨1, [1], 5000⟩
    let spawned := (start.offerNow [0]).spawn [1]
    let waiting := ({ spawned with
      outbox := { spawned.outbox with ready := [.carrier] } } : Traffic).reserve sender
    let failed := waiting.carryOn (Socket.broken nothingTaken) 2
    let late := failed.move { failed.outbox with now := failed.outbox.now + 5000 }
    let expired := late.move (late.outbox.expireSender sender)
    Runs (fun _ ↦ True) start failed ∧ failed.outbox.carrier = .ended (.error nothingTaken) 1
      ∧ (failed.outbox.offer [1]).1 = .error .backpressureTimeout
      ∧ (failed.outbox.offer [1]).1 ≠ .error .connectionClosed
      ∧ Runs (fun _ ↦ True) failed expired
      ∧ expired.returned = failed.returned ++ [(1, .error .backpressureTimeout)] := by
  intro start sender spawned waiting failed late expired
  have hspawned : Runs (fun _ ↦ True) start spawned :=
    (runs_offerNow start [0] rfl rfl).tail (.spawn _ [1] (by decide +kernel))
  have hwaiting : Runs (fun _ ↦ True) start waiting :=
    hspawned.tail (@Step.reserve _ spawned [.carrier] [] sender (by decide +kernel))
  have hexpired : Runs (fun _ ↦ True) failed expired :=
    (Relation.ReflTransGen.single (.pass failed 5000)).tail
      (.expire (by decide +kernel) (by decide +kernel))
  exact ⟨hwaiting.trans (runs_carryOn trivial 2 waiting (by decide +kernel)).1, by decide +kernel,
    by decide +kernel, by decide +kernel, hexpired, by decide +kernel⟩

end Traffic

end ParcelLink.Outbox
