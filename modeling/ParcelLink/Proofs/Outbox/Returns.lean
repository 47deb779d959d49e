import ParcelLink.Proofs.Outbox.Tally

/-!
# How calls return

In one step of the traffic one call returns at most, and there are few ways for it to do so
(`Outbox.Traffic.returns_of_step`). A call that has no room is refused since it finds none or since
it has waited for it too long. A call that has room is admitted: it is accepted, or turned away
since the queue is closed, or, if it is an offer, full.

## Main definitions

* `Outbox.Traffic.admitted`: the calls that have room and are not in the queue yet.
* `Outbox.Traffic.Returns`: how a step lets a call return, if it does.
-/

namespace ParcelLink.Outbox.Traffic

variable {sockets : Socket → Prop}

/-- The calls that have room and whose parcels are not in the queue yet. -/
def admitted (t : Traffic) : List Nat :=
  t.outbox.tally.seated.map Sender.ticket ++ t.guests.map fun guest ↦ guest.entry.1

theorem admitted_congr {t t' : Traffic} (hseated : t'.outbox.tally.seated = t.outbox.tally.seated)
    (hguests : t'.guests = t.guests) : t'.admitted = t.admitted := by
  rw [admitted, admitted, hseated, hguests]

theorem admitted_coming {t : Traffic} {before after : List Guest} {guest : Guest}
    (coming : t.guests = before ++ guest :: after) :
    t.admitted.Perm (guest.entry.1 :: { t with guests := before ++ after }.admitted) := by
  simp only [admitted, coming, List.map_append, List.map_cons]
  rw [← List.append_assoc, ← List.append_assoc]
  exact List.perm_middle

theorem admitted_woken {t : Traffic} {before after : List Agent} {sender : Sender}
    (woken : t.outbox.ready = before ++ .enqueue sender :: after) :
    t.admitted.Perm (sender.ticket
      :: { t with outbox := { t.outbox with ready := before ++ after } }.admitted) := by
  simp only [admitted, tally, woken, List.filterMap_append, List.filterMap_cons, Agent.granted?,
    List.map_append, List.map_cons]
  rw [← List.cons_append, ← List.append_assoc, ← List.append_assoc]
  exact List.perm_middle.append_right _

/-- A call that is still to return has not returned. -/
theorem Accounted.not_returned {t : Traffic} (h : t.Accounted) {call : Nat}
    (hwaits : call ∈ t.entries.map Prod.fst) : call ∉ t.returned.map Prod.fst := fun hreturned ↦
  (List.nodup_append.1 (h.calls_perm.nodup_iff.2 List.nodup_range)).2.2 _ hwaits _ hreturned rfl

/-- How a step lets a call return, if it does. -/
inductive Returns (t t' : Traffic) : Prop where
  /-- No call returns. -/
  | none (returned_eq : t'.returned = t.returned)
  /-- The parcel of a call is queued. -/
  | accepted (call : Nat) (returned_eq : t'.returned = t.returned ++ [(call, .ok ())])
    (open_queue : t.outbox.isClosed = false)
  /-- A call finds no room and cannot wait for it. -/
  | noRoom (call : Nat)
    (returned_eq : t'.returned = t.returned ++ [(call, .error .backpressureTimeout)])
    (full : t.outbox.isFull = true) (admitted_eq : t'.admitted = t.admitted)
    (stock_eq : t'.outbox.tally.stock = t.outbox.tally.stock)
  /-- A sender has waited for room too long. -/
  | expired (sender : Sender)
    (returned_eq : t'.returned = t.returned ++ [(sender.ticket, .error .backpressureTimeout)])
    (waits : sender ∈ t.outbox.roomLine) (admitted_eq : t'.admitted = t.admitted)
    (stock_eq : t'.outbox.tally.stock = t.outbox.tally.stock)
  /-- A call that has room comes to a closed queue. -/
  | closed (call : Nat)
    (returned_eq : t'.returned = t.returned ++ [(call, .error .connectionClosed)])
    (closed_queue : t.outbox.isClosed = true)
    (admitted_perm : t.admitted.Perm (call :: t'.admitted))
    (stock_eq : t'.outbox.tally.stock = t.outbox.tally.stock)
  /-- An offer that has room comes to a full queue. -/
  | noSlot (call : Nat) (parcel : Octets)
    (returned_eq : t'.returned = t.returned ++ [(call, .error .backpressureTimeout)])
    (guest : .offer call parcel ∈ t.guests) (open_queue : t.outbox.isClosed = false)
    (admitted_perm : t.admitted.Perm (call :: t'.admitted))
    (stock_eq : t'.outbox.tally.stock = t.outbox.tally.stock)

/-- Nobody returns in a move that leaves the outcomes of the senders as they are. -/
theorem returns_none {t u : Traffic} {o : Outbox} (hreturned : u.returned = t.returned)
    (houtcomes : o.cargo.outcomes = u.outbox.cargo.outcomes) : Returns t (u.move o) := by
  refine .none ?_
  rw [returned_move (houtcomes.trans (List.append_nil _).symm), List.append_nil, hreturned]

/-- A sender that has room is taken out, and finds the queue closed. -/
theorem returns_closed {t u : Traffic} {sender : Sender} (hclosed : t.outbox.isClosed = true)
    (hreturned : u.returned = t.returned)
    (hadmitted : t.admitted.Perm (sender.ticket :: u.admitted))
    (hstock : u.outbox.tally.stock = t.outbox.tally.stock) :
    Returns t (u.move ((u.outbox.release 1).refuse sender .connectionClosed)) := by
  let o := (u.outbox.release 1).refuse sender .connectionClosed
  have htally : o.tally = { u.outbox.tally with pending := u.outbox.tally.pending - 1 } := by
    rw [tally_refuse, tally_release]
  have houtcomes : o.cargo.outcomes
      = u.outbox.cargo.outcomes ++ [(sender.ticket, .error .connectionClosed)] := by
    rw [cargo_refuse]
    rfl
  have hsame : (u.move o).admitted = u.admitted :=
    admitted_congr (by rw [move, htally]) rfl
  refine .closed sender.ticket ?_ hclosed ?_ ?_
  · rw [returned_move houtcomes, hreturned]
  · rw [hsame]
    exact hadmitted
  · rw [move, htally]
    exact hstock

/-- A sender that has room is taken out, and its parcel is queued. -/
theorem returns_push {t u : Traffic} {sender : Sender} (hopen : ¬ t.outbox.isClosed = true)
    (hreturned : u.returned = t.returned) :
    Returns t (u.move (u.outbox.push (some sender.ticket) sender.parcel)) := by
  refine .accepted sender.ticket ?_ (Bool.not_eq_true _ ▸ hopen)
  rw [returned_move (by rw [cargo_push]), ← hreturned]
  rfl

theorem returns_arrive_offer {t : Traffic} {before after : List Guest} {call : Nat}
    {parcel : Octets} (coming : t.guests = before ++ .offer call parcel :: after) :
    Returns t ({ t with guests := before ++ after }.arrive (.offer call parcel)) := by
  have hguest : Guest.offer call parcel ∈ t.guests := by simp [coming]
  have hadmitted {o : Outbox} {returned : List (Nat × Except Fault Unit)}
      (h : o.tally.seated = t.outbox.tally.seated) :
      t.admitted.Perm (call :: Traffic.admitted ⟨o, t.calls, before ++ after, returned⟩) := by
    have hsame : Traffic.admitted ⟨o, t.calls, before ++ after, returned⟩
        = { t with guests := before ++ after }.admitted := admitted_congr h rfl
    rw [hsame]
    exact admitted_coming coming
  simp only [arrive, queueOffer]
  split
  · next hclosed =>
    exact .closed call rfl hclosed (hadmitted (by rw [tally_release])) (by rw [tally_release])
  · next hopen =>
    split
    · exact .noSlot call parcel rfl hguest (Bool.not_eq_true _ ▸ hopen)
        (hadmitted (by rw [tally_release])) (by rw [tally_release])
    · exact .accepted call rfl (Bool.not_eq_true _ ▸ hopen)

theorem returns_arrive_sender {t : Traffic} {before after : List Guest} {sender : Sender}
    (coming : t.guests = before ++ .sender sender :: after) :
    Returns t ({ t with guests := before ++ after }.arrive (.sender sender)) := by
  let t₁ : Traffic := { t with guests := before ++ after }
  simp only [arrive, queueSender]
  split
  · next hclosed => exact returns_closed (u := t₁) hclosed rfl (admitted_coming coming) rfl
  · next hopen =>
    split
    · exact returns_none (u := t₁) rfl rfl
    · exact returns_push (u := t₁) hopen rfl

theorem returns_enqueue {t : Traffic} {before after : List Agent} {sender : Sender}
    (woken : t.outbox.ready = before ++ .enqueue sender :: after) :
    Returns t (t.move ({ t.outbox with ready := before ++ after }.enqueue sender)) := by
  let t₁ : Traffic := { t with outbox := { t.outbox with ready := before ++ after } }
  simp only [enqueue]
  split
  · next hclosed => exact returns_closed (u := t₁) hclosed rfl (admitted_woken woken) rfl
  · next hopen => exact returns_push (u := t₁) hopen rfl

/-- A sender that has no room is turned away. -/
theorem returned_refuse (t : Traffic) (sender : Sender) (cause : Fault) :
    (t.move (t.outbox.refuse sender cause)).returned
      = t.returned ++ [(sender.ticket, .error cause)] :=
  returned_move (by rw [cargo_refuse])

theorem returns_reserve {t : Traffic} {before after : List Agent} {sender : Sender}
    (woken : t.outbox.ready = before ++ .reserve sender :: after) :
    Returns t (Traffic.reserve
      { t with outbox := { t.outbox with ready := before ++ after } } sender) := by
  let t₁ : Traffic := { t with outbox := { t.outbox with ready := before ++ after } }
  have hseated : t₁.outbox.tally.seated = t.outbox.tally.seated := by
    simp [t₁, tally, woken, List.filterMap_cons, Agent.granted?]
  unfold Traffic.reserve
  split
  · next hfull =>
    rw [Outbox.reserve, if_pos hfull]
    split
    · refine .noRoom sender.ticket (returned_refuse t₁ sender _) hfull ?_ ?_
      · exact admitted_congr (by rw [move, tally_refuse, ← hseated]) rfl
      · rw [move, tally_refuse]
        rfl
    · exact returns_none (u := t₁) rfl rfl
  · exact .none rfl

theorem returns_expire {t : Traffic} {sender : Sender} (waits : sender ∈ t.outbox.roomLine) :
    Returns t (t.move (t.outbox.expireSender sender)) := by
  let t₁ : Traffic := { t with
    outbox := { t.outbox with roomLine := t.outbox.roomLine.erase sender } }
  refine .expired sender (returned_refuse t₁ sender _) waits ?_ ?_
  · exact admitted_congr (by rw [move, expireSender, tally_refuse]; rfl) rfl
  · rw [move, expireSender, tally_refuse]
    rfl

/-- **In a step one call returns at most, in one of few ways.** -/
theorem returns_of_step {t t' : Traffic} (hstep : Step sockets t t') : Returns t t' := by
  cases hstep with
  | offer parcel =>
    simp only [Traffic.offer]
    split
    · next hfull => exact .noRoom t.calls.length rfl hfull rfl rfl
    · exact .none rfl
  | spawn => exact .none rfl
  | reserve woken => exact returns_reserve woken
  | @arrive _ _ guest coming =>
    cases guest with
    | offer call parcel => exact returns_arrive_offer coming
    | sender sender => exact returns_arrive_sender coming
  | enqueue woken => exact returns_enqueue woken
  | expire waits => exact returns_expire waits
  | carry socket _ step => exact returns_none rfl (senders_carry step).2.2
  | wake | take | rest | pass => exact returns_none (u := t) rfl rfl
  | retry =>
    refine returns_none rfl ?_
    unfold retry
    split <;> rfl
  | letGo => exact returns_none rfl (by rw [Outbox.letGo, cargo_rouse]; rfl)

end ParcelLink.Outbox.Traffic
