import ParcelLink.Proofs.Outbox.Closing

/-!
# Batches of nothing but empty parcels

A socket that never fails and takes something of whatever it is offered gets every byte. Still a
carrier can fail with it: a batch of nothing but empty parcels offers nothing, so that nothing can
be taken of it, and a carrier that sees nothing taken takes the socket for broken. No other batch
does that. One with a byte in it offers that byte, and what is left of it after a write has no empty
parcel in front (`Outbox.Carrier.Whole`).

So with such sockets the carrier fails by a hollow batch or not at all, and it does not get past one
(`Outbox.Traffic.fails_by_hollow`).

## Main definitions

* `Socket.Willing`: sockets that never fail and take something of whatever they are offered.
* `Outbox.Hauls`: what a step does to the carrier.
* `Outbox.Carrier.Hollow`: a carrier at a batch of nothing but empty parcels.
-/

namespace ParcelLink

/-- A socket that never fails, and takes something of whatever it is offered. It may let the carrier
wait. -/
structure Socket.Willing (socket : Socket) : Prop where
  write_ne_failed : ∀ offered cause, socket.onWrite offered ≠ .failed cause
  write_ne_nothing : ∀ offered, 0 < offered →
    socket.onWrite offered ≠ .shut ∧ socket.onWrite offered ≠ .took 0
  flush_ne_failed : ∀ cause, socket.onFlush ≠ .failed cause

/-- A socket that takes every byte is willing. -/
theorem Socket.willing_taking : (Socket.taking none).Willing where
  write_ne_failed _ _ := nofun
  write_ne_nothing offered hpos := by
    refine ⟨nofun, fun hnothing ↦ ?_⟩
    exact absurd (WriteAnswer.took.inj hnothing) (Nat.ne_of_gt hpos)
  flush_ne_failed _ := nofun

namespace Batch

/-- A batch that offers nothing consists of empty parcels. -/
theorem eq_replicate_of_size {batch : Batch} (h : batch.size = 0) :
    batch = List.replicate batch.length [] := by
  rw [size_eq_length_flatten, List.length_eq_zero_iff, List.flatten_eq_nil_iff] at h
  exact List.eq_replicate_of_mem h

theorem size_replicate_nil (parcels : Nat) : Batch.size (List.replicate parcels []) = 0 := by
  rw [size_eq_length_flatten, List.flatten_replicate_nil, List.length_nil]

/-- What is left of a batch after a write offers something, if anything is left. -/
theorem consume_eq_nil {batch : Batch} {written : Nat} (h : (batch.consume written).size = 0) :
    batch.consume written = [] := by
  rcases hleft : batch.consume written with - | ⟨parcel, rest⟩
  · rfl
  · have hparcel := ne_nil_of_head?_consume (by rw [hleft, List.head?_cons])
    rw [hleft, size, Nat.add_eq_zero_iff, List.length_eq_zero_iff] at h
    exact absurd h.1 hparcel

end Batch

namespace Outbox

/-! ### What a step does to the carrier -/

/-- What a step does to the carrier: nothing, or it takes a batch, or it is the carrier's own. -/
inductive Hauls (sockets : Socket → Prop) (o o' : Outbox) : Prop where
  | stay (carrier_eq : o'.carrier = o.carrier)
  | take (idle : o.carrier = .idle) {batch : Batch} (batch_subset : batch ⊆ o.queue)
    (taken : o'.carrier = .writing batch batch.length 0)
  | carry {socket : Socket} (found : sockets socket) (step : o.carry socket = some o')

@[simp] theorem carrier_push (o : Outbox) (ticket? : Option Nat) (parcel : Octets) :
    (o.push ticket? parcel).carrier = o.carrier := carrier_rouse _

@[simp] theorem carrier_refuse (o : Outbox) (sender : Sender) (cause : Fault) :
    (o.refuse sender cause).carrier = o.carrier := carrier_rouse _

theorem carrier_queueOffer (o : Outbox) (parcel : Octets) :
    (o.queueOffer parcel).2.carrier = o.carrier := by
  unfold queueOffer
  split
  · rfl
  · split
    · rfl
    · exact carrier_push o none parcel

theorem carrier_queueSender (o : Outbox) (sender : Sender) :
    (o.queueSender sender).carrier = o.carrier := by
  unfold queueSender
  split
  · exact carrier_refuse _ sender _
  · split
    · rfl
    · exact carrier_push o _ _

theorem carrier_enqueue (o : Outbox) (sender : Sender) :
    (o.enqueue sender).carrier = o.carrier := by
  unfold enqueue
  split
  · exact carrier_refuse _ sender _
  · exact carrier_push o _ _

theorem carrier_reserve (o : Outbox) (sender : Sender) :
    (o.reserve sender).carrier = o.carrier := by
  rcases hfull : o.isFull with - | -
  · rw [reserve_of_room hfull]
    exact carrier_queueSender o.book sender
  · rw [reserve, if_pos hfull]
    split
    · exact carrier_refuse o sender _
    · rfl

/-! ### Hollow batches -/

namespace Carrier

/-- The carrier is at a batch of nothing but empty parcels, of which nothing has been written. -/
def Hollow (carrier : Carrier) : Prop :=
  ∃ parcels, 0 < parcels ∧ carrier = .writing (List.replicate parcels []) parcels 0

/-- If what the carrier has left of its batch offers nothing, it is the batch as it was taken, which
is of some of these parcels. -/
def Whole (parcels : List Octets) : Carrier → Prop
  | .writing batch count bytes =>
    batch ≠ [] → batch.size = 0 → batch.length = count ∧ bytes = 0 ∧ batch ⊆ parcels
  | .idle | .flushing .. | .ended .. => True

theorem Whole.mono {parcels more : List Octets} {carrier : Carrier} (h : carrier.Whole parcels)
    (hmore : parcels ⊆ more) : carrier.Whole more := by
  cases carrier with
  | writing batch count bytes =>
    intro hne hsize
    obtain ⟨hcount, hbytes, hsubset⟩ := h hne hsize
    exact ⟨hcount, hbytes, List.Subset.trans hsubset hmore⟩
  | idle | flushing | ended => trivial

/-- A whole batch that offers nothing is hollow, and there is an empty parcel. -/
theorem Whole.hollow {parcels : List Octets} {batch : Batch} {count bytes : Nat}
    (h : (Carrier.writing batch count bytes).Whole parcels) (hne : batch ≠ [])
    (hsize : batch.size = 0) : (Carrier.writing batch count bytes).Hollow ∧ [] ∈ parcels := by
  obtain ⟨rfl, rfl, hsubset⟩ := h hne hsize
  have hempty := Batch.eq_replicate_of_size hsize
  have hpos := List.length_pos_iff.2 hne
  refine ⟨⟨batch.length, hpos, congrArg (Carrier.writing · batch.length 0) hempty⟩, hsubset ?_⟩
  rw [hempty, List.mem_replicate]
  exact ⟨Nat.ne_of_gt hpos, rfl⟩

end Carrier

/-- **What is left of a batch after a write offers something**, so that only a batch as it was taken
offers nothing. -/
theorem whole_carry {socket : Socket} {o o' : Outbox} (h : o.carry socket = some o') :
    o'.carrier.Whole o.queue := by
  cases carried_of_carry h with
  | tookBatch => exact fun _ _ ↦ ⟨rfl, rfl, List.take_subset _ _⟩
  | wrote writing =>
    simp only [wrote]
    split
    · trivial
    · exact fun hne hsize ↦ absurd (Batch.consume_eq_nil hsize) hne
  | finished | written | shut | failedWrite | flushed | failedFlush => trivial

/-- **A willing socket fails the carrier by a hollow batch only.** -/
theorem hollow_of_carry {socket : Socket} (hwilling : socket.Willing) {o o' : Outbox}
    {parcels : List Octets} (hwhole : o.carrier.Whole parcels) (h : o.carry socket = some o')
    {cause : Fault} {lost : Nat} (hended : o'.carrier = .ended (.error cause) lost) :
    cause = nothingTaken ∧ o.carrier.Hollow ∧ [] ∈ parcels := by
  have hcause {count : Nat} {other : Fault} {q : Outbox}
      (hfail : (q.fail count other).carrier = .ended (.error cause) lost) : cause = other := by
    cases hfail
    rfl
  have hhollow {parcel : Octets} {rest : Batch} {count bytes : Nat}
      (writing : o.carrier = .writing (parcel :: rest) count bytes)
      (hsize : ¬ 0 < Batch.size (parcel :: rest)) : o.carrier.Hollow ∧ [] ∈ parcels := by
    rw [writing] at hwhole ⊢
    exact hwhole.hollow (List.cons_ne_nil _ _) (Nat.eq_zero_of_not_pos hsize)
  cases carried_of_carry h with
  | @wrote parcel rest parcels bytes count writing answer =>
    simp only [wrote] at hended
    split at hended
    · next hnothing =>
      refine ⟨hcause hended, hhollow writing fun hpos ↦ ?_⟩
      have htook := (hwilling.write_ne_nothing _ hpos).2
      rw [answer] at htook
      have hcount : count ≠ 0 := fun hzero ↦ htook (congrArg _ hzero)
      omega
    · cases hended
  | shut writing answer =>
    exact ⟨hcause hended, hhollow writing fun hpos ↦ (hwilling.write_ne_nothing _ hpos).1 answer⟩
  | failedWrite _ answer => exact absurd answer (hwilling.write_ne_failed _ _)
  | failedFlush _ answer => exact absurd answer (hwilling.flush_ne_failed _)
  | finished | tookBatch | written | flushed => cases hended

/-- **A carrier at a hollow batch waits or fails.** -/
theorem carry_of_hollow {socket : Socket} (hwilling : socket.Willing) {o : Outbox}
    (h : o.carrier.Hollow) :
    (socket.onWrite 0 = .waiting ∧ o.carry socket = none)
      ∨ ∃ o' lost, o.carry socket = some o'
        ∧ o'.carrier = .ended (.error nothingTaken) lost := by
  obtain ⟨parcels, hpos, hcarrier⟩ := h
  obtain ⟨parcels, rfl⟩ := Nat.exists_eq_succ_of_ne_zero (Nat.ne_of_gt hpos)
  have hsize := Batch.size_replicate_nil (parcels + 1)
  rw [List.replicate_succ] at hcarrier hsize
  rw [carry, hcarrier]
  simp only [hsize]
  rcases hanswer : socket.onWrite 0 with count | - | cause | -
  · refine .inr ⟨_, parcels + 1 + o.queue.length, rfl, ?_⟩
    simp only [wrote, hsize, Nat.min_zero, if_true]
    rfl
  · exact .inr ⟨_, _, rfl, rfl⟩
  · exact absurd hanswer (hwilling.write_ne_failed 0 cause)
  · exact .inl ⟨rfl, rfl⟩

namespace Traffic

variable {sockets : Socket → Prop}

/-- **What a step does to the carrier.** -/
theorem hauls_step {t t' : Traffic} (hstep : Step sockets t t') :
    Hauls sockets t.outbox t'.outbox := by
  cases hstep with
  | offer parcel =>
    simp only [Traffic.offer]
    split <;> exact .stay rfl
  | reserve =>
    unfold Traffic.reserve
    split
    · exact .stay (carrier_reserve _ _)
    · exact .stay rfl
  | @arrive before after guest =>
    cases guest with
    | offer call parcel => exact .stay (carrier_queueOffer t.outbox parcel)
    | sender sender => exact .stay (carrier_queueSender t.outbox sender)
  | enqueue => exact .stay (carrier_enqueue _ _)
  | expire => exact .stay (carrier_refuse _ _ _)
  | take idle => exact .take idle (List.take_subset _ _) rfl
  | carry socket found step => exact .carry found step
  | spawn | wake | rest | pass => exact .stay rfl
  | retry =>
    refine .stay ?_
    show t.outbox.retry.carrier = t.outbox.carrier
    unfold retry
    split <;> rfl
  | letGo => exact .stay (carrier_rouse _)

/-- Calls are made, and stay made. -/
theorem calls_step {t t' : Traffic} (hstep : Step sockets t t') : t.calls ⊆ t'.calls := by
  cases hstep with
  | offer parcel =>
    simp only [Traffic.offer]
    split <;> exact List.subset_append_left _ _
  | spawn => exact List.subset_append_left _ _
  | reserve =>
    unfold Traffic.reserve
    split <;> exact List.Subset.refl _
  | @arrive before after guest => cases guest <;> exact List.Subset.refl _
  | enqueue | wake | expire | take | carry | rest | retry | pass | letGo => exact List.Subset.refl _

/-- The parcels in the queue are those of calls. -/
theorem queue_subset_calls {config : Config} {t : Traffic}
    (h : Runs sockets (ofConfig config) t) : t.outbox.queue ⊆ t.calls := by
  obtain ⟨hsound, haccounted⟩ := invariant_of_runs h
  intro parcel hparcel
  have hqueued : parcel ∈ t.outbox.cargo.queued := hsound.queue_suffix.subset hparcel
  rw [haccounted.queued_eq] at hqueued
  obtain ⟨call, hcall, rfl⟩ := List.mem_map.1 hqueued
  have hlt := haccounted.lt_of_accepted hcall
  rw [Traffic.parcel, List.getD, List.getElem?_eq_getElem hlt]
  exact List.getElem_mem hlt

/-- **The carrier is never at a batch that offers nothing but as it was taken.** -/
theorem whole_of_runs {config : Config} {t : Traffic} (h : Runs sockets (ofConfig config) t) :
    t.outbox.carrier.Whole t.calls := by
  induction h with
  | refl => trivial
  | @tail t₁ t₂ hruns step ih =>
    refine Carrier.Whole.mono ?_ (calls_step step)
    have hqueue := queue_subset_calls hruns
    cases hauls_step step with
    | stay carrier_eq => rwa [carrier_eq]
    | take idle batch_subset taken =>
      rw [taken]
      exact fun _ _ ↦ ⟨rfl, rfl, List.Subset.trans batch_subset hqueue⟩
    | carry _ step => exact (whole_carry step).mono hqueue

/-- A carrier that has failed has been at a hollow batch. -/
theorem hollow_of_failed {config : Config} {t : Traffic}
    (h : Runs Socket.Willing (ofConfig config) t) {cause : Fault} {lost : Nat}
    (hended : t.outbox.carrier = .ended (.error cause) lost) :
    cause = nothingTaken ∧ [] ∈ t.calls ∧ ∃ t₀, Runs Socket.Willing (ofConfig config) t₀
      ∧ Runs Socket.Willing t₀ t ∧ t₀.outbox.carrier.Hollow := by
  induction h with
  | refl => cases hended
  | @tail t₁ t₂ hruns step ih =>
    cases hauls_step step with
    | stay carrier_eq =>
      obtain ⟨hcause, hempty, t₀, hbefore, hafter, hhollow⟩ := ih (carrier_eq.symm.trans hended)
      exact ⟨hcause, calls_step step hempty, t₀, hbefore, hafter.tail step, hhollow⟩
    | take idle _ taken =>
      rw [taken] at hended
      cases hended
    | carry hwilling carried =>
      obtain ⟨hcause, hhollow, hempty⟩ :=
        hollow_of_carry hwilling (whole_of_runs hruns) carried hended
      exact ⟨hcause, calls_step step hempty, t₁, hruns, .single step, hhollow⟩

/-- The carrier does not get past a hollow batch. -/
theorem stays_hollow {t t' : Traffic} (h : t.outbox.carrier.Hollow)
    (hruns : Runs Socket.Willing t t') :
    t'.outbox.carrier = t.outbox.carrier
      ∨ ∃ lost, t'.outbox.carrier = .ended (.error nothingTaken) lost := by
  induction hruns with
  | refl => exact .inl rfl
  | @tail t₁ t₂ _ step ih =>
    rcases ih with hsame | ⟨lost, hended⟩
    · rw [← hsame] at h ⊢
      cases hauls_step step with
      | stay carrier_eq => exact .inl carrier_eq
      | take idle =>
        obtain ⟨parcels, -, hcarrier⟩ := h
        rw [idle] at hcarrier
        cases hcarrier
      | carry hwilling carried =>
        rcases carry_of_hollow hwilling h with ⟨-, hwaits⟩ | ⟨o', lost, hcarry, hended⟩
        · rw [hwaits] at carried
          cases carried
        · rw [hcarry] at carried
          exact .inr ⟨lost, Option.some.inj carried ▸ hended⟩
    · exact .inr ⟨lost, carrier_of_ended hended (.single step)⟩

/-- **With willing sockets the carrier fails by a hollow batch or not at all.** In every run, if it
has failed then because nothing was taken, some call had an empty parcel, and the carrier was at a
batch of nothing but empty parcels before. And it does not get past such a batch: it is at it for as
long as the socket lets it wait, and fails with the first other answer. -/
theorem fails_by_hollow {config : Config} {t : Traffic}
    (h : Runs Socket.Willing (ofConfig config) t) :
    (∀ cause lost, t.outbox.carrier = .ended (.error cause) lost →
        cause = nothingTaken ∧ [] ∈ t.calls ∧ ∃ t₀, Runs Socket.Willing (ofConfig config) t₀
          ∧ Runs Socket.Willing t₀ t ∧ t₀.outbox.carrier.Hollow)
      ∧ (t.outbox.carrier.Hollow →
        (∀ socket : Socket, socket.Willing → socket.onWrite 0 ≠ .waiting →
            ∃ o lost, t.outbox.carry socket = some o
              ∧ o.carrier = .ended (.error nothingTaken) lost)
          ∧ ∀ t', Runs Socket.Willing t t' →
            t'.outbox.carrier = t.outbox.carrier
              ∨ ∃ lost, t'.outbox.carrier = .ended (.error nothingTaken) lost) := by
  refine ⟨fun cause lost hended ↦ hollow_of_failed h hended, fun hhollow ↦
    ⟨fun socket hwilling hanswer ↦ ?_, fun t' hruns ↦ stays_hollow hhollow hruns⟩⟩
  rcases carry_of_hollow hwilling hhollow with ⟨hwaits, -⟩ | hfails
  · exact absurd hwaits hanswer
  · exact hfails

/-- Empty parcels around one with a byte do no harm: the batch is written. The next batch is one
empty parcel, and the carrier fails. -/
theorem fails_by_hollow_after_mixed :
    let start := ofConfig { limit := 3, slots := 3 }
    let socket := Socket.taking none
    let written := (((start.offerNow []).offerNow [7]).offerNow []).carryOn socket 4
    let hollow := (written.offerNow []).carryOn socket 1
    let failed := hollow.carryOn socket 1
    Runs Socket.Willing start failed ∧ written.outbox.carrier = .idle
      ∧ written.outbox.journal.writes = [[7]] ∧ hollow.outbox.carrier.Hollow
      ∧ failed.outbox.carrier = .ended (.error nothingTaken) 1
      ∧ (∃ t₀, Runs Socket.Willing t₀ failed ∧ t₀.outbox.carrier.Hollow)
      ∧ ∃ o lost, hollow.outbox.carry socket = some o
        ∧ o.carrier = .ended (.error nothingTaken) lost := by
  intro start socket written hollow failed
  have hoffered : Runs Socket.Willing start (((start.offerNow []).offerNow [7]).offerNow []) :=
    ((runs_offerNow start [] rfl rfl).trans (runs_offerNow _ [7] (by decide +kernel) rfl)).trans
      (runs_offerNow _ [] (by decide +kernel) rfl)
  have hwritten : Runs Socket.Willing start written :=
    hoffered.trans (runs_carryOn Socket.willing_taking 4 _ rfl).1
  have hhollow : Runs Socket.Willing start hollow :=
    (hwritten.trans (runs_offerNow _ [] (by decide +kernel) (by decide +kernel))).trans
      (runs_carryOn Socket.willing_taking 1 _ (by decide +kernel)).1
  have hfailed : Runs Socket.Willing start failed :=
    hhollow.trans (runs_carryOn Socket.willing_taking 1 _ (by decide +kernel)).1
  have hended : failed.outbox.carrier = .ended (.error nothingTaken) 1 := by decide +kernel
  have hbatch : hollow.outbox.carrier.Hollow := ⟨1, by decide, by decide +kernel⟩
  obtain ⟨-, -, t₀, -, hruns, hbefore⟩ := (fails_by_hollow hfailed).1 _ _ hended
  exact ⟨hfailed, by decide +kernel, by decide +kernel, hbatch, hended, ⟨t₀, hruns, hbefore⟩,
    ((fails_by_hollow hhollow).2 hbatch).1 _ Socket.willing_taking nofun⟩

/-- One empty parcel is offered, to a socket that takes every byte. -/
theorem fails_by_empty_parcel :
    let start := ofConfig { limit := 1, slots := 1 }
    let failed := (start.offerNow []).carryOn (Socket.taking none) 2
    (Socket.taking none).Willing ∧ Runs Socket.Willing start failed
      ∧ failed.outbox.carrier = .ended (.error nothingTaken) 1
      ∧ ¬ ∀ t, Runs Socket.Willing start t → ∀ cause lost,
        t.outbox.carrier ≠ .ended (.error cause) lost := by
  intro start failed
  have hfailed : Runs Socket.Willing start failed :=
    (runs_offerNow start [] rfl rfl).trans (runs_carryOn Socket.willing_taking 2 _ rfl).1
  have hended : failed.outbox.carrier = .ended (.error nothingTaken) 1 := by decide +kernel
  exact ⟨Socket.willing_taking, hfailed, hended, fun hnever ↦ hnever failed hfailed _ _ hended⟩

end Traffic

end Outbox

end ParcelLink
