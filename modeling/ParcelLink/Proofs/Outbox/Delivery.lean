import Mathlib.Data.List.Nodup
import ParcelLink.Proofs.Outbox.Senders

/-!
# Parcels are delivered in the order of the queue

Whatever the order in which senders, offers and the carrier make their steps, and whichever socket the
carrier finds, the bytes that the socket took are a beginning of the accepted parcels, in the order in
which they came into the queue (`Outbox.Traffic.delivered`).

Two things are kept by every step. The cargo of the outbox stays sound, which is about bytes
(`Outbox.Traffic.sound_step`). And all calls stay accounted for, which is about who gave the parcels:
each call waits, is on its way or has returned, and only one of these and only once, so that a call
that was refused is not one whose parcel is in the queue (`Outbox.Traffic.accounted_step`).

## Main definitions

* `Outbox.Traffic.Accounted`: how calls, those who wait, and those who have returned hang together.
-/

namespace ParcelLink.Outbox

namespace Traffic

variable {sockets : Socket → Prop}

/-! ### The cargo stays sound -/

theorem sound_offer {t : Traffic} (h : t.outbox.cargo.Sound) (parcel : Octets) :
    (t.offer parcel).outbox.cargo.Sound := by
  simp only [Traffic.offer]
  split <;> exact h

/-- **Every step keeps the cargo sound.** -/
theorem sound_step {t t' : Traffic} (h : t.outbox.cargo.Sound) (hstep : Step sockets t t') :
    t'.outbox.cargo.Sound := by
  cases hstep with
  | offer parcel => exact sound_offer h parcel
  | spawn => exact h
  | reserve =>
    unfold Traffic.reserve
    split
    · next hfull => exact sound_reserve (by exact h) hfull _
    · exact h
  | @arrive before after guest =>
    cases guest with
    | offer call parcel => exact sound_queueOffer h parcel
    | sender sender => exact sound_queueSender h sender
  | enqueue => exact sound_enqueue (by exact h) _
  | wake => exact h
  | expire =>
    show (Outbox.refuse _ _ _).cargo.Sound
    rw [cargo_refuse]
    exact h
  | @take count idle =>
    show (t.outbox.takeParcels count).cargo.Sound
    rw [cargo_takeParcels]
    exact h.take idle count _ 0
  | carry socket _ step => exact sound_carry h step
  | rest => exact h
  | retry =>
    show t.outbox.retry.cargo.Sound
    unfold retry
    split <;> exact h
  | pass => exact h
  | letGo =>
    show (Outbox.rouse _).cargo.Sound
    rw [cargo_rouse]
    exact h

/-! ### All calls stay accounted for -/

/-- Every call waits or has returned, once; those who wait have the parcels of their calls; and the
queue was given the parcels of the accepted calls, in the order in which these returned. -/
structure Accounted (t : Traffic) : Prop where
  calls_perm :
    (t.entries.map Prod.fst ++ t.returned.map Prod.fst).Perm (List.range t.calls.length)
  parcel_eq : ∀ entry ∈ t.entries, t.calls[entry.1]? = some entry.2
  queued_eq : t.outbox.cargo.queued = t.accepted.map t.parcel

theorem parcel_congr {t t' : Traffic} (hcalls : t'.calls = t.calls) : t'.parcel = t.parcel := by
  funext call
  rw [parcel, hcalls, parcel]

theorem accepted_congr {t t' : Traffic} (hreturned : t'.returned = t.returned) :
    t'.accepted = t.accepted := by
  rw [accepted, hreturned, accepted]

theorem accepted_of_returned {t t' : Traffic} {call : Nat} {outcome : Except Fault Unit}
    (hreturned : t'.returned = t.returned ++ [(call, outcome)]) :
    t'.accepted = t.accepted ++ (gained outcome []).map fun _ ↦ call := by
  rw [accepted, hreturned, List.filterMap_append]
  rcases outcome with cause | ⟨⟩ <;> rfl

theorem mem_returned_of_accepted {t : Traffic} {call : Nat} (h : call ∈ t.accepted) :
    (call, .ok ()) ∈ t.returned := by
  obtain ⟨⟨call', cause | ⟨⟩⟩, hmem, heq⟩ := List.mem_filterMap.1 h
  · cases heq
  · cases heq
    exact hmem

/-- Those who wait may change their places. -/
theorem Accounted.stay {t t' : Traffic} (h : t.Accounted) (hcalls : t'.calls = t.calls)
    (hreturned : t'.returned = t.returned)
    (hqueued : t'.outbox.cargo.queued = t.outbox.cargo.queued)
    (hentries : t'.entries.Perm t.entries) : t'.Accounted where
  calls_perm := by
    rw [hcalls, hreturned]
    exact ((hentries.map Prod.fst).append_right _).trans h.calls_perm
  parcel_eq entry hentry := by
    rw [hcalls]
    exact h.parcel_eq entry (hentries.subset hentry)
  queued_eq := by
    rw [hqueued, h.queued_eq, accepted_congr hreturned, parcel_congr hcalls]

/-- One who waits returns, and its parcel may have come into the queue. -/
theorem Accounted.leave {t t' : Traffic} (h : t.Accounted) (entry : Nat × Octets)
    (outcome : Except Fault Unit) (hcalls : t'.calls = t.calls)
    (hreturned : t'.returned = t.returned ++ [(entry.1, outcome)])
    (hqueued : t'.outbox.cargo.queued = t.outbox.cargo.queued ++ gained outcome entry.2)
    (hentries : t.entries.Perm (entry :: t'.entries)) : t'.Accounted where
  calls_perm := by
    rw [hcalls, hreturned]
    refine List.Perm.trans ?_ h.calls_perm
    refine List.Perm.trans ?_ ((hentries.map Prod.fst).append_right _).symm
    rw [List.map_append, List.map_cons, List.map_cons, List.map_nil, ← List.append_assoc]
    exact List.perm_append_singleton _ _
  parcel_eq other hother := by
    rw [hcalls]
    exact h.parcel_eq other (hentries.symm.subset (List.mem_cons_of_mem entry hother))
  queued_eq := by
    have hparcel : t.parcel entry.1 = entry.2 := by
      rw [parcel, List.getD_eq_getElem?_getD,
        h.parcel_eq entry (hentries.symm.subset List.mem_cons_self)]
      rfl
    rw [hqueued, h.queued_eq, parcel_congr hcalls, accepted_of_returned hreturned, List.map_append]
    rcases outcome with cause | ⟨⟩
    · rfl
    · exact congrArg (fun p ↦ t.accepted.map t.parcel ++ [p]) hparcel.symm

theorem Accounted.lt_of_accepted {t : Traffic} (h : t.Accounted) {call : Nat}
    (hcall : call ∈ t.accepted) : call < t.calls.length := by
  have hmem := List.mem_map_of_mem (f := Prod.fst) (mem_returned_of_accepted hcall)
  exact List.mem_range.1 (h.calls_perm.subset (List.mem_append_right _ hmem))

/-- A new call waits, or is on its way. -/
theorem Accounted.come {t t' : Traffic} {parcel : Octets} (h : t.Accounted)
    (hcalls : t'.calls = t.calls ++ [parcel]) (hreturned : t'.returned = t.returned)
    (hqueued : t'.outbox.cargo.queued = t.outbox.cargo.queued)
    (hentries : t'.entries.Perm ((t.calls.length, parcel) :: t.entries)) : t'.Accounted where
  calls_perm := by
    rw [hcalls, hreturned, List.length_append, List.length_singleton, List.range_succ]
    refine List.Perm.trans ((hentries.map Prod.fst).append_right _) ?_
    exact ((h.calls_perm.cons _).trans (List.perm_append_singleton _ _).symm)
  parcel_eq entry hentry := by
    rw [hcalls]
    rcases List.mem_cons.1 (hentries.subset hentry) with rfl | hold
    · simp
    · have hknown := h.parcel_eq entry hold
      obtain ⟨hlt, -⟩ := List.getElem?_eq_some_iff.1 hknown
      rw [List.getElem?_append_left hlt, hknown]
  queued_eq := by
    rw [hqueued, h.queued_eq, accepted_congr hreturned]
    refine List.map_congr_left fun call hcall ↦ ?_
    have hlt := h.lt_of_accepted hcall
    rw [Traffic.parcel, Traffic.parcel, hcalls, List.getD_eq_getElem?_getD,
      List.getD_eq_getElem?_getD, List.getElem?_append_left hlt]

/-! ### Steps and calls -/

/-- Just the new outcomes are those of senders that return. -/
theorem returned_move {t : Traffic} {o : Outbox} {new : List (Nat × Except Fault Unit)}
    (h : o.cargo.outcomes = t.outbox.cargo.outcomes ++ new) :
    (t.move o).returned = t.returned ++ new := by
  show t.returned ++ o.cargo.outcomes.drop t.outbox.cargo.outcomes.length = _
  rw [h, List.drop_left]

theorem entries_perm_of_senders (t t' : Traffic) (hguests : t'.guests = t.guests)
    (hsenders : t'.outbox.senders.Perm t.outbox.senders) : t'.entries.Perm t.entries := by
  rw [entries, entries, hguests]
  exact (hsenders.map Sender.entry).append_right _

theorem entries_perm_cons (t t' : Traffic) (sender : Sender) (hguests : t'.guests = t.guests)
    (hsenders : t'.outbox.senders.Perm (sender :: t.outbox.senders)) :
    t'.entries.Perm (sender.entry :: t.entries) := by
  rw [entries, entries, hguests]
  exact (hsenders.map Sender.entry).append_right _

/-- The outbox changes and nobody returns. -/
theorem Accounted.move {t : Traffic} {o : Outbox} (h : t.Accounted)
    (hsenders : o.senders.Perm t.outbox.senders)
    (hqueued : o.cargo.queued = t.outbox.cargo.queued)
    (houtcomes : o.cargo.outcomes = t.outbox.cargo.outcomes) : (t.move o).Accounted := by
  refine h.stay rfl ?_ hqueued (entries_perm_of_senders t (t.move o) rfl hsenders)
  rw [returned_move (houtcomes.trans (List.append_nil _).symm), List.append_nil]

/-- What the outbox does with a sender that has been taken out. -/
theorem Accounted.handle {t : Traffic} {sender : Sender} {o : Outbox} (h : t.Accounted)
    (t₁ : Traffic) (hcalls : t₁.calls = t.calls) (hreturned : t₁.returned = t.returned)
    (hqueued : t₁.outbox.cargo.queued = t.outbox.cargo.queued)
    (hentries : t.entries.Perm (sender.entry :: t₁.entries)) (ho : Handles sender t₁.outbox o) :
    (t₁.move o).Accounted := by
  cases ho with
  | settled outcome houtcomes hgained hsenders =>
    refine h.leave sender.entry outcome hcalls ?_ ?_ (hentries.trans ?_)
    · rw [returned_move houtcomes, hreturned]
      rfl
    · rw [← hqueued]
      exact hgained
    · exact (entries_perm_of_senders t₁ (t₁.move o) rfl hsenders).symm.cons _
  | waits houtcomes hsame hsenders =>
    refine h.stay hcalls ?_ (hsame.trans hqueued) ?_
    · rw [returned_move (houtcomes.trans (List.append_nil _).symm), List.append_nil, hreturned]
    · exact (entries_perm_cons t₁ (t₁.move o) sender rfl hsenders).trans hentries.symm

/-- A guest is taken out. -/
theorem entries_coming {t : Traffic} {before after : List Guest} {guest : Guest}
    (coming : t.guests = before ++ guest :: after) :
    t.entries.Perm (guest.entry :: { t with guests := before ++ after }.entries) := by
  rw [entries, entries, coming, List.map_append, List.map_cons, List.map_append,
    ← List.append_assoc, ← List.append_assoc]
  exact List.perm_middle

/-- A guest joins those who are on their way. -/
theorem entries_guest (t : Traffic) (guest : Guest) :
    { t with guests := t.guests ++ [guest] }.entries.Perm (guest.entry :: t.entries) := by
  rw [entries, entries, List.map_append, ← List.append_assoc]
  exact List.perm_append_singleton _ _

/-- A call that is offered waits first, even if it returns at once. -/
theorem accounted_offer {t : Traffic} (h : t.Accounted) (parcel : Octets) :
    (t.offer parcel).Accounted := by
  have hcome : Accounted { t with
      calls := t.calls ++ [parcel]
      guests := t.guests ++ [.offer t.calls.length parcel] } :=
    h.come rfl rfl rfl (entries_guest t (.offer t.calls.length parcel))
  simp only [Traffic.offer]
  split
  · exact hcome.leave (t.calls.length, parcel) _ rfl rfl (List.append_nil _).symm
      (entries_guest t (.offer t.calls.length parcel))
  · exact hcome.stay rfl rfl rfl .rfl

theorem accounted_spawn {t : Traffic} (h : t.Accounted) (parcel : Octets) :
    (t.spawn parcel).Accounted := by
  refine h.come rfl rfl rfl ?_
  refine entries_perm_cons t _ (t.outbox.newSender t.calls.length parcel) rfl ?_
  simp only [spawn, Outbox.spawn, senders, List.filterMap_append]
  rw [← List.append_assoc]
  exact List.perm_append_singleton _ _

/-- **Every step keeps all calls accounted for.** -/
theorem accounted_step {t t' : Traffic} (h : t.Accounted) (hstep : Step sockets t t') :
    t'.Accounted := by
  cases hstep with
  | offer parcel => exact accounted_offer h parcel
  | spawn parcel => exact accounted_spawn h parcel
  | @reserve before after sender woken =>
    let t₁ := { t with outbox := { t.outbox with ready := before ++ after } }
    have hout := entries_perm_cons t₁ t sender rfl (senders_woken woken rfl)
    unfold Traffic.reserve
    split
    · next hfull => exact h.handle t₁ rfl rfl rfl hout (handles_reserve hfull sender)
    · exact h.stay rfl rfl rfl ((entries_guest t₁ (.sender sender)).trans hout.symm)
  | @arrive before after guest coming =>
    let t₁ := { t with guests := before ++ after }
    have hout := entries_coming coming
    cases guest with
    | offer call parcel =>
      obtain ⟨hqueued, hsenders⟩ := queueOffer_settled t.outbox parcel
      refine h.leave (call, parcel) _ rfl rfl hqueued (hout.trans (.cons _ ?_))
      exact (entries_perm_of_senders t₁ (t₁.arrive (.offer call parcel)) rfl hsenders).symm
    | sender sender => exact h.handle t₁ rfl rfl rfl hout (handles_queueSender t.outbox sender)
  | @enqueue before after sender woken =>
    let t₁ := { t with outbox := { t.outbox with ready := before ++ after } }
    have hout := entries_perm_cons t₁ t sender rfl (senders_woken woken rfl)
    exact h.handle t₁ rfl rfl rfl hout (handles_enqueue t₁.outbox sender)
  | @wake sender waits =>
    refine h.move (List.Perm.trans ?_ (senders_waits waits).symm) rfl rfl
    simp only [senders, List.filterMap_append]
    rw [← List.append_assoc]
    exact List.perm_append_singleton _ _
  | @expire sender waits =>
    let t₁ := { t with outbox := { t.outbox with roomLine := t.outbox.roomLine.erase sender } }
    have hout := entries_perm_cons t₁ t sender rfl (senders_waits waits)
    exact h.handle t₁ rfl rfl rfl hout (handles_refuse t₁.outbox sender _)
  | take => exact h.move (senders_takeParcels_perm _ _) rfl rfl
  | carry socket _ step =>
    obtain ⟨hsenders, hqueued, houtcomes⟩ := senders_carry step
    exact h.move hsenders hqueued houtcomes
  | rest woken =>
    refine h.move (.of_eq ?_) rfl rfl
    simp only [senders, woken, List.filterMap_append]
    rfl
  | retry =>
    unfold retry
    split
    · refine h.move (.of_eq ?_) rfl rfl
      simp [senders]
    · exact h.move .rfl rfl rfl
  | pass => exact h.move .rfl rfl rfl
  | letGo =>
    refine h.move (.of_eq (senders_rouse _)) ?_ ?_
    · rw [Outbox.letGo, cargo_rouse]
      rfl
    · rw [Outbox.letGo, cargo_rouse]
      rfl

/-! ### Every run -/

theorem accounted_ofConfig (config : Config) : (ofConfig config).Accounted :=
  ⟨.nil, fun _ h ↦ (List.not_mem_nil h).elim, rfl⟩

theorem sound_ofConfig (config : Config) : (ofConfig config).outbox.cargo.Sound :=
  ⟨[], rfl, rfl⟩

/-- **A run keeps the cargo sound and all calls accounted for.** -/
theorem invariant_runs {t t' : Traffic} (hsound : t.outbox.cargo.Sound) (haccounted : t.Accounted)
    (h : Runs sockets t t') : t'.outbox.cargo.Sound ∧ t'.Accounted := by
  induction h with
  | refl => exact ⟨hsound, haccounted⟩
  | tail _ step ih => exact ⟨sound_step ih.1 step, accounted_step ih.2 step⟩

/-- Along every run the cargo is sound and all calls are accounted for. -/
theorem invariant_of_runs {config : Config} {t : Traffic} (h : Runs sockets (ofConfig config) t) :
    t.outbox.cargo.Sound ∧ t.Accounted :=
  invariant_runs (sound_ofConfig config) (accounted_ofConfig config) h

/-- A call returns once, so it is not both refused and accepted. -/
theorem Accounted.not_accepted {t : Traffic} (h : t.Accounted) {call : Nat} {cause : Fault}
    (hrefused : (call, .error cause) ∈ t.returned) : call ∉ t.accepted := by
  have hnodup := (List.nodup_append.1 (h.calls_perm.nodup_iff.2 List.nodup_range)).2.1
  intro haccepted
  have heq := List.inj_on_of_nodup_map hnodup hrefused (mem_returned_of_accepted haccepted) rfl
  cases heq

/-- **The socket gets the accepted parcels, whole and in the order of the queue.** At every moment of
every run the bytes that the socket took are a beginning of the parcels of the accepted calls, in the
order in which these came into the queue. Every call returns once at most, and the parcel of a call
that returned with an error is not among them. Whenever the carrier waits for parcels, the socket has
taken just the parcels that the carrier has, and those behind are still in the queue; and if the
carrier has ended well, it has taken all of them. -/
theorem delivered {config : Config} {t : Traffic} (h : Runs sockets (ofConfig config) t) :
    let bytes := t.outbox.journal.writes.flatten
    t.outbox.journal.queued = t.accepted.map t.parcel
      ∧ bytes <+: (t.accepted.map t.parcel).flatten
      ∧ (t.returned.map Prod.fst).Nodup
      ∧ (∀ call cause, (call, .error cause) ∈ t.returned → call ∉ t.accepted)
      ∧ (t.outbox.carrier = .idle → ∃ taken waiting, t.accepted = taken ++ waiting
          ∧ t.outbox.queue = waiting.map t.parcel ∧ bytes = (taken.map t.parcel).flatten)
      ∧ ∀ lost, t.outbox.carrier = .ended (.ok ()) lost →
          bytes = (t.accepted.map t.parcel).flatten := by
  intro bytes
  obtain ⟨hsound, haccounted⟩ := invariant_of_runs h
  have hqueued : t.outbox.cargo.queued = t.accepted.map t.parcel := haccounted.queued_eq
  have hnodup := haccounted.calls_perm.nodup_iff.2 List.nodup_range
  refine ⟨hqueued, ?_, (List.nodup_append.1 hnodup).2.1, fun call cause hrefused ↦ ?_,
    fun hidle ↦ ?_, fun lost hended ↦ ?_⟩
  · rw [← hqueued]
    exact hsound.written_prefix
  · exact haccounted.not_accepted hrefused
  · obtain ⟨taken, hsplit, hwritten⟩ := hsound.taken_of_idle hidle
    obtain ⟨first, last, haccepted, hfirst, hlast⟩ :=
      List.map_eq_append_iff.1 (hqueued.symm.trans hsplit)
    exact ⟨first, last, haccepted, hlast.symm, hfirst ▸ hwritten⟩
  · rw [← hqueued]
    exact hsound.written_of_ended hended

/-- Three parcels are offered where there is room for two, and the socket takes two bytes at a time:
in the middle of the batch, and after the carrier has ended. -/
theorem delivered_in_pieces :
    let start := ofConfig { limit := 2, slots := 2 }
    let offered := ((start.offerNow [1, 2, 3]).offerNow [4]).offerNow [9]
    let socket := Socket.taking (some 2)
    let written := offered.carryOn socket 2
    let idle := offered.carryOn socket 5
    let ended := (idle.move idle.outbox.letGo).carryOn socket 1
    Runs (fun _ ↦ True) start written ∧ Runs (fun _ ↦ True) start idle
      ∧ Runs (fun _ ↦ True) start ended
      ∧ written.outbox.journal.writes.flatten = [1, 2] ∧ [1, 2] <+: ([1, 2, 3, 4] : Octets)
      ∧ idle.outbox.carrier = .idle
      ∧ (∃ taken waiting, idle.accepted = taken ++ waiting
          ∧ idle.outbox.queue = waiting.map idle.parcel
          ∧ idle.outbox.journal.writes.flatten = (taken.map idle.parcel).flatten)
      ∧ ended.outbox.carrier = .ended (.ok ()) 0
      ∧ ended.outbox.journal.writes.flatten = [1, 2, 3, 4] ∧ 2 ∉ ended.accepted := by
  intro start offered socket written idle ended
  have hoffered : Runs (fun _ ↦ True) start offered :=
    ((runs_offerNow start _ rfl rfl).trans (runs_offerNow _ _ (by decide +kernel) rfl)).trans
      (runs_offerNow _ _ (by decide +kernel) rfl)
  have hwritten : Runs (fun _ ↦ True) start written :=
    hoffered.trans (runs_carryOn trivial 2 offered rfl).1
  have hidle : Runs (fun _ ↦ True) start idle :=
    hoffered.trans (runs_carryOn trivial 5 offered rfl).1
  have hended : Runs (fun _ ↦ True) start ended :=
    (hidle.tail (.letGo idle)).trans (runs_carryOn trivial 1 _ (by decide +kernel)).1
  have hbytes : written.outbox.journal.writes.flatten = [1, 2] := by decide +kernel
  have haccepted : (written.accepted.map written.parcel).flatten = [1, 2, 3, 4] := by
    decide +kernel
  have hbeginning := (delivered hwritten).2.1
  rw [hbytes, haccepted] at hbeginning
  have hwaits : idle.outbox.carrier = .idle := by decide +kernel
  have hdone : ended.outbox.carrier = .ended (.ok ()) 0 := by decide +kernel
  have hwhole := (delivered hended).2.2.2.2.2 0 hdone
  have hparcels : (ended.accepted.map ended.parcel).flatten = [1, 2, 3, 4] := by decide +kernel
  refine ⟨hwritten, hidle, hended, hbytes, hbeginning, hwaits,
    (delivered hidle).2.2.2.2.1 hwaits, hdone, hwhole.trans hparcels, ?_⟩
  exact (delivered hended).2.2.2.1 2 .backpressureTimeout (by decide +kernel)

end Traffic

end ParcelLink.Outbox
