import ParcelLink.Proofs.Outbox.Returns
import ParcelLink.Session.Turns

/-!
# An outbox with one caller

Whatever an outbox does while it is left alone, nothing comes into its queue: only a call puts a
parcel there. So if all calls are offers made by one caller, one after the other, then each of them
is settled before the next one, and the parcels that were queued are those of the accepted offers,
in order (`Outbox.Traffic.quiet_of_offersAlone`).

The law of all runs of the traffic is enough for this. An outbox for which nobody waits is that of a
traffic in which every queued parcel was a call that was accepted (`Outbox.Traffic.ofQueued`). All
calls stay accounted for, and those that have returned stay so; hence without new calls none
returns, and with one new call only that one can.

## Main definitions

* `Outbox.Quiet`: nobody waits to get a parcel into an outbox.
* `Outbox.Traffic.ofQueued`: a traffic that has led to an outbox.
-/

namespace ParcelLink.Outbox

/-- Nobody waits to get a parcel into the outbox, and its cargo is sound. -/
structure Quiet (o : Outbox) : Prop where
  senders_eq : o.senders = []
  sound : o.cargo.Sound

theorem quiet_ofConfig (config : Config) : (ofConfig config).Quiet :=
  ⟨rfl, Traffic.sound_ofConfig config⟩

/-- Notices are not parcels. -/
theorem cargo_note (o : Outbox) (notice : Notice) : (o.note notice).cargo = o.cargo := by
  simp [note, record, cargo, Journal.queued, Journal.writes, Journal.outcomes]

theorem cargo_notes (o : Outbox) (notices : Array Notice) :
    (notices.foldl note o).cargo = o.cargo ∧ (notices.foldl note o).senders = o.senders := by
  rw [← Array.foldl_toList]
  induction notices.toList generalizing o with
  | nil => exact ⟨rfl, rfl⟩
  | cons notice rest ih =>
    obtain ⟨hcargo, hsenders⟩ := ih (o.note notice)
    exact ⟨hcargo.trans (cargo_note o notice), hsenders⟩

theorem Quiet.notes {o : Outbox} (h : o.Quiet) (notices : Array Notice) :
    (notices.foldl note o).Quiet := by
  obtain ⟨hcargo, hsenders⟩ := cargo_notes o notices
  exact ⟨hsenders.trans h.senders_eq, hcargo ▸ h.sound⟩

namespace Traffic

variable {sockets : Socket → Prop}

/-! ### Calls that have returned -/

/-- Calls that have returned have returned for good. -/
theorem returned_prefix_of_runs {t t' : Traffic} (h : Runs sockets t t') :
    t.returned <+: t'.returned := by
  induction h with
  | refl => exact List.prefix_rfl
  | tail _ step ih =>
    refine ih.trans ?_
    cases returns_of_step step with
    | none returned_eq => exact returned_eq ▸ List.prefix_rfl
    | accepted _ returned_eq | noRoom _ returned_eq | expired _ returned_eq
    | closed _ returned_eq | noSlot _ _ returned_eq => exact returned_eq ▸ List.prefix_append _ _

/-- Each call waits or has returned. -/
theorem Accounted.length_eq {t : Traffic} (h : t.Accounted) :
    t.entries.length + t.returned.length = t.calls.length := by
  simpa using h.calls_perm.length_eq

/-- Nobody waits if as many calls have returned as were made. -/
theorem Accounted.senders_eq {t : Traffic} (h : t.Accounted)
    (hreturned : t.returned.length = t.calls.length) : t.outbox.senders = [] := by
  have hlength := h.length_eq
  have hnone : t.entries = [] := by
    rw [← List.length_eq_zero_iff]
    omega
  rw [entries, List.append_eq_nil_iff, List.map_eq_nil_iff] at hnone
  exact hnone.1

/-! ### A traffic that has led to an outbox -/

/-- Every queued parcel was offered, and the offers were accepted in this order. -/
def ofQueued (o : Outbox) : Traffic where
  outbox := o
  calls := o.cargo.queued
  returned := (List.range o.cargo.queued.length).map fun call ↦ (call, .ok ())

theorem accepted_ofQueued (o : Outbox) :
    (ofQueued o).accepted = List.range o.cargo.queued.length := by
  simp [ofQueued, accepted, List.filterMap_map]

theorem length_returned_ofQueued (o : Outbox) :
    (ofQueued o).returned.length = (ofQueued o).calls.length := by
  simp [ofQueued]

/-- The parcels of these calls, put in front of others. -/
theorem map_parcel_of_calls {t : Traffic} {calls more : List Octets} (h : t.calls = calls ++ more) :
    (List.range calls.length).map t.parcel = calls := by
  refine List.ext_getElem (by simp) fun i hi hi' ↦ ?_
  rw [List.getElem_map, List.getElem_range, parcel, h, List.getD_eq_getElem?_getD,
    List.getElem?_append_left hi', List.getElem?_eq_getElem hi']
  rfl

theorem accounted_ofQueued {o : Outbox} (h : o.senders = []) : (ofQueued o).Accounted := by
  have hentries : (ofQueued o).entries = [] := by
    rw [entries, show (ofQueued o).outbox.senders = [] from h]
    rfl
  refine ⟨?_, fun entry hentry ↦ ?_, ?_⟩
  · rw [hentries]
    simp [ofQueued, List.map_map, Function.comp_def]
  · rw [hentries] at hentry
    cases hentry
  · have hcalls : (ofQueued o).calls = o.cargo.queued ++ [] := (List.append_nil _).symm
    rw [accepted_ofQueued, map_parcel_of_calls hcalls]
    rfl

/-! ### One caller -/

/-- **Nothing comes into the queue of an outbox that is left alone.** -/
theorem quiet_of_leadsAlone {o o' : Outbox} (h : o.Quiet) (hleads : LeadsAlone sockets o o') :
    o'.Quiet ∧ o'.cargo.queued = o.cargo.queued := by
  obtain ⟨t', hruns, rfl, -, hcalls⟩ := hleads (ofQueued o) rfl rfl
  obtain ⟨hsound, haccounted⟩ :=
    invariant_runs h.sound (accounted_ofQueued h.senders_eq) hruns
  -- All calls had returned before, so none can return again.
  have hcount := haccounted.length_eq
  have hreturned : (ofQueued o).returned = t'.returned := by
    refine (returned_prefix_of_runs hruns).eq_of_length_le ?_
    rw [hcalls] at hcount
    rw [length_returned_ofQueued]
    exact hcount ▸ Nat.le_add_left _ _
  refine ⟨⟨haccounted.senders_eq ?_, hsound⟩, ?_⟩
  · rw [hcalls, ← hreturned, length_returned_ofQueued]
  · rw [haccounted.queued_eq, accepted_congr hreturned.symm, parcel_congr hcalls,
      ← (accounted_ofQueued h.senders_eq).queued_eq]
    rfl

theorem returned_prefix_offer (t : Traffic) (parcel : Octets) :
    t.returned <+: (t.offer parcel).returned := by
  simp only [Traffic.offer]
  split
  · exact List.prefix_append _ _
  · exact List.prefix_rfl

/-- **What one caller offers to an outbox that is otherwise left alone is settled at once**: it is
the next parcel in the queue, or it does not come into the queue. -/
theorem quiet_of_offersAlone {o o' : Outbox} {parcel : Octets} {outcome : Except Fault Unit}
    (h : o.Quiet) (hoffers : OffersAlone sockets o parcel outcome o') :
    o'.Quiet ∧ o'.cargo.queued = o.cargo.queued ++ gained outcome parcel := by
  let t := ofQueued o
  obtain ⟨t', hruns, rfl, -, hcalls, hreturns⟩ := hoffers t rfl rfl
  have hbefore : t.Accounted := accounted_ofQueued h.senders_eq
  obtain ⟨hsound, haccounted⟩ :=
    invariant_runs (sound_offer h.sound parcel) (accounted_offer hbefore parcel) hruns
  have hlength : t'.calls.length = t.returned.length + 1 := by
    rw [hcalls, List.length_append, ← length_returned_ofQueued]
    rfl
  have hcount := haccounted.length_eq
  -- Only the new call can have returned in addition to those before, and it has.
  obtain ⟨more, hmore⟩ := (returned_prefix_offer t parcel).trans (returned_prefix_of_runs hruns)
  have hnew : (t.calls.length, outcome) ∈ more := by
    rw [← hmore] at hreturns
    refine (List.mem_append.1 hreturns).resolve_left fun hold ↦ ?_
    have := hbefore.calls_perm.subset
      (List.mem_append_right _ (List.mem_map_of_mem (f := Prod.fst) hold))
    exact absurd (List.mem_range.1 this) (Nat.lt_irrefl _)
  have hmore' : more = [(t.calls.length, outcome)] := by
    have := congrArg List.length hmore
    rw [List.length_append] at this
    obtain ⟨first, hfirst⟩ := List.length_eq_one_iff.1
      (Nat.le_antisymm (by omega) (List.length_pos_of_mem hnew))
    rw [hfirst, List.mem_singleton] at hnew
    rw [hfirst, hnew]
  rw [hmore'] at hmore
  refine ⟨⟨haccounted.senders_eq ?_, hsound⟩, ?_⟩
  · rw [hlength, ← hmore, List.length_append, List.length_singleton]
  · have hqueued : (List.range o.cargo.queued.length).map t'.parcel = o.cargo.queued :=
      map_parcel_of_calls hcalls
    rw [haccounted.queued_eq, accepted_of_returned hmore.symm, accepted_ofQueued, List.map_append,
      hqueued]
    rcases outcome with cause | ⟨⟩
    · rfl
    · show _ ++ [t'.parcel t.calls.length] = _ ++ [parcel]
      rw [Traffic.parcel, hcalls]
      simp

end Traffic

end ParcelLink.Outbox
