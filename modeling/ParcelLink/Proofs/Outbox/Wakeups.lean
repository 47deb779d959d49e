import ParcelLink.Outbox.Watch
import ParcelLink.Proofs.Outbox.Returns

/-!
# Nobody waits while there is room

A sender waits for room only while there is none: whoever makes room wakes everyone in the line,
and who looks for room has stepped into the line before, so room that is made after the look is not
missed. What a step of the traffic does to those in the line is said once (`Outbox.Attends`), and
with it every step of anybody keeps the line in order (`Outbox.Watch.inOrder_step`).

It follows that a sender is told that it has waited for too long only while there is no room.

## Main definitions

* `Outbox.Attends`: why somebody is in the line after a step.
* `Outbox.Watch.InOrder`: that those in the line who do not look are there since there is no room.
-/

namespace ParcelLink.Outbox

/-! ### Those in the line -/

/-- Why senders are in the line after a step: they were there before and no room has been made, or
none is there, or there is no room. -/
inductive Attends (o o' : Outbox) : Prop where
  /-- Nobody has stepped into the line, and no room has been made. -/
  | stay (config_eq : o'.config = o.config) (roomLine_subset : o'.roomLine ⊆ o.roomLine)
    (pending_le : o.pending ≤ o'.pending)
  /-- Everyone in the line has been woken. -/
  | wake (config_eq : o'.config = o.config) (roomLine_eq : o'.roomLine = [])
  /-- There is no room. -/
  | full (config_eq : o'.config = o.config) (full : o'.isFull = true)

@[simp] theorem config_rouse (o : Outbox) : o.rouse.config = o.config := by rw [rouse_eq]

theorem Attends.config_eq {o o' : Outbox} (h : Attends o o') : o'.config = o.config := by
  cases h <;> assumption

/-- Nothing changes for those in the line. -/
theorem Attends.refl (o : Outbox) : Attends o o := .stay rfl (fun _ h ↦ h) (Nat.le_refl _)

/-- Rousing the carrier is nothing to those in the line. -/
theorem Attends.rouse {o o' : Outbox} (h : Attends o o') : Attends o o'.rouse := by
  have hconfig := config_rouse o'
  cases h with
  | stay config_eq roomLine_subset pending_le =>
    exact .stay (hconfig.trans config_eq) (by rwa [roomLine_rouse]) (by rwa [pending_rouse])
  | wake config_eq roomLine_eq =>
    exact .wake (hconfig.trans config_eq) (by rwa [roomLine_rouse])
  | full config_eq full =>
    exact .full (hconfig.trans config_eq) (by rwa [isFull, config_rouse, pending_rouse])

/-- Whoever makes room wakes everyone. -/
theorem attends_release (o : Outbox) (parcels : Nat) : Attends o (o.release parcels) :=
  .wake rfl rfl

theorem attends_push (o : Outbox) (ticket? : Option Nat) (parcel : Octets) :
    Attends o (o.push ticket? parcel) :=
  Attends.rouse (.stay rfl (fun _ h ↦ h) (Nat.le_refl _))

theorem attends_queueOffer (o : Outbox) (parcel : Octets) :
    Attends o (o.queueOffer parcel).2 := by
  unfold queueOffer
  split
  · exact attends_release o 1
  · split
    · exact attends_release o 1
    · exact attends_push o none parcel

theorem attends_queueSender (o : Outbox) (sender : Sender) : Attends o (o.queueSender sender) := by
  unfold queueSender
  split
  · exact Attends.rouse (.wake rfl rfl)
  · split
    · exact .stay rfl (fun _ h ↦ h) (Nat.le_refl _)
    · exact attends_push o _ _

theorem attends_enqueue (o : Outbox) (sender : Sender) : Attends o (o.enqueue sender) := by
  unfold enqueue
  split
  · exact Attends.rouse (.wake rfl rfl)
  · exact attends_push o _ _

/-- The carrier makes room when it has flushed a batch, and else leaves those in the line alone. -/
theorem attends_carry {socket : Socket} {o o' : Outbox} (h : o.carry socket = some o') :
    Attends o o' := by
  cases carried_of_carry h with
  | wrote =>
    simp only [wrote]
    split <;> exact .stay rfl (fun _ h ↦ h) (Nat.le_refl _)
  | flushed => exact .wake rfl rfl
  | finished | tookBatch | written | shut | failedWrite | failedFlush =>
    exact .stay rfl (fun _ h ↦ h) (Nat.le_refl _)

namespace Traffic

variable {sockets : Socket → Prop}

/-- **What a step does to those in the line.** -/
theorem attends_step {t t' : Traffic} (hstep : Step sockets t t') :
    Attends t.outbox t'.outbox := by
  cases hstep with
  | offer parcel =>
    simp only [Traffic.offer]
    split
    · exact .refl _
    · exact .stay rfl (fun _ h ↦ h) (Nat.le_succ _)
  | spawn => exact .stay rfl (fun _ h ↦ h) (Nat.le_refl _)
  | @reserve before after sender =>
    unfold Traffic.reserve
    split
    · next hfull =>
      show Attends _ (Outbox.reserve _ sender)
      rw [Outbox.reserve, if_pos hfull]
      split
      · exact Attends.rouse (.stay rfl (fun _ h ↦ h) (Nat.le_refl _))
      · exact .full rfl hfull
    · exact .stay rfl (fun _ h ↦ h) (Nat.le_succ _)
  | @arrive before after guest =>
    cases guest with
    | offer call parcel => exact attends_queueOffer t.outbox parcel
    | sender sender => exact attends_queueSender t.outbox sender
  | @enqueue before after sender =>
    -- Who is ready is nothing to those in the line.
    have h := attends_enqueue { t.outbox with ready := before ++ after } sender
    cases h with
    | stay config_eq roomLine_subset pending_le => exact .stay config_eq roomLine_subset pending_le
    | wake config_eq roomLine_eq => exact .wake config_eq roomLine_eq
    | full config_eq full => exact .full config_eq full
  | wake => exact .stay rfl (fun _ h ↦ List.mem_of_mem_erase h) (Nat.le_refl _)
  | expire =>
    exact Attends.rouse (.stay rfl (fun _ h ↦ List.mem_of_mem_erase h) (Nat.le_refl _))
  | carry socket _ step => exact attends_carry step
  | take | rest | pass => exact .stay rfl (fun _ h ↦ h) (Nat.le_refl _)
  | retry =>
    show Attends t.outbox t.outbox.retry
    unfold retry
    split
    · exact .stay rfl (fun _ h ↦ h) (Nat.le_refl _)
    · exact .refl _
  | letGo => exact Attends.rouse (.stay rfl (fun _ h ↦ h) (Nat.le_refl _))

/-- No sender is there twice. -/
theorem Accounted.nodup_senders {t : Traffic} (h : t.Accounted) : t.outbox.senders.Nodup := by
  have hnodup := (List.nodup_append.1 (h.calls_perm.nodup_iff.2 List.nodup_range)).1
  rw [entries, List.map_append] at hnodup
  exact .of_map _ (.of_map _ (List.nodup_append.1 hnodup).1)

end Traffic

/-! ### Those who look -/

namespace Watch

variable {sockets : Socket → Prop}

/-- A sender in the line looks for room, or there is none. -/
structure InOrder (limit : Nat) (w : Watch) : Prop where
  accounted : w.traffic.Accounted
  limit_eq : w.traffic.outbox.config.limit = limit
  full_of_waits : ∀ sender ∈ w.traffic.outbox.roomLine, sender ∉ w.looking →
    w.traffic.outbox.isFull = true

/-- A sender that looks is one of those who may wait for room while there is some. -/
theorem InOrder.looks_of_room {limit : Nat} {w : Watch} (h : w.InOrder limit)
    (room : w.traffic.outbox.isFull = false) {sender : Sender}
    (hwaits : sender ∈ w.traffic.outbox.roomLine) : sender ∈ w.looking := by
  by_contra hrests
  rw [h.full_of_waits sender hwaits hrests] at room
  cases room

/-- A sender that steps into the line is still there. -/
theorem accounted_listen {t : Traffic} {before after : List Agent} {sender : Sender}
    (h : t.Accounted) (woken : t.outbox.ready = before ++ .reserve sender :: after) :
    (listen t (before ++ after) sender).Accounted := by
  refine h.stay rfl rfl rfl (Traffic.entries_perm_of_senders t _ rfl ?_)
  refine List.Perm.trans ?_ (senders_woken woken rfl).symm
  simp only [listen, senders, List.append_assoc]
  exact List.perm_middle

/-- A sender that gets room is on its way. -/
theorem accounted_enter {t : Traffic} {roomLine : List Sender} {ready : List Agent}
    {sender : Sender} (h : t.Accounted)
    (hout : t.outbox.senders.Perm
      (sender :: { t.outbox with roomLine := roomLine, ready := ready }.senders)) :
    (enter t roomLine ready sender).Accounted := by
  let t₁ : Traffic := { t with outbox := { t.outbox with roomLine := roomLine, ready := ready } }
  have hentries := Traffic.entries_perm_cons t₁ t sender rfl hout
  refine h.stay rfl rfl rfl (List.Perm.trans ?_ hentries.symm)
  exact Traffic.entries_guest t₁ (.sender sender)

/-- **Every step keeps the line in order.** -/
theorem inOrder_step {limit : Nat} {w w' : Watch} (h : w.InOrder limit)
    (hstep : Step sockets w w') : w'.InOrder limit := by
  cases hstep with
  | @listen t looking before after sender woken =>
    refine ⟨accounted_listen h.accounted woken, h.limit_eq, fun s hwaits hrests ↦ ?_⟩
    rw [List.mem_cons, not_or] at hrests
    rcases List.mem_append.1 hwaits with hold | hnew
    · exact h.full_of_waits s hold hrests.2
    · exact absurd (List.mem_singleton.1 hnew) hrests.1
  | @find t looking sender looks stands room =>
    refine ⟨accounted_enter h.accounted (senders_waits stands), h.limit_eq, ?_⟩
    intro s hwaits hrests
    -- There is room, so everyone in the line looks, and only the sender has done so.
    have hlooks := h.looks_of_room room (List.mem_of_mem_erase hwaits)
    have hsame : s = sender := by
      by_contra hne
      exact hrests ((List.mem_erase_of_ne hne).2 hlooks)
    have hnodup : t.outbox.roomLine.Nodup := by
      have hsenders := h.accounted.nodup_senders
      rw [senders, List.append_assoc] at hsenders
      exact (List.nodup_append.1 hsenders).1
    exact absurd (hsame ▸ hwaits) hnodup.not_mem_erase
  | @findWoken t looking before after sender looks woken room =>
    have hout := senders_woken woken rfl
    refine ⟨accounted_enter h.accounted hout, h.limit_eq, fun s hwaits hrests ↦ ?_⟩
    have hlooks := h.looks_of_room room hwaits
    have hsame : s = sender := by
      by_contra hne
      exact hrests ((List.mem_erase_of_ne hne).2 hlooks)
    -- The sender was woken, so it is not in the line.
    have hgone := (List.nodup_cons.1 (hout.nodup_iff.1 h.accounted.nodup_senders)).1
    exact absurd (List.mem_append_left _ (List.mem_append_left _ (hsame ▸ hwaits))) hgone
  | miss looks full => exact ⟨h.accounted, h.limit_eq, fun _ _ _ ↦ full⟩
  | @other t t' looking step =>
    have hattends := Traffic.attends_step step
    refine ⟨Traffic.accounted_step h.accounted step, ?_, fun s hwaits hrests ↦ ?_⟩
    · show t'.outbox.config.limit = limit
      rw [hattends.config_eq]
      exact h.limit_eq
    · cases hattends with
      | stay config_eq roomLine_subset pending_le =>
        have hfull := h.full_of_waits s (roomLine_subset hwaits) hrests
        simp only [isFull, decide_eq_true_eq] at hfull ⊢
        rw [config_eq]
        exact Nat.le_trans hfull pending_le
      | wake _ roomLine_eq => exact absurd (roomLine_eq ▸ hwaits) List.not_mem_nil
      | full _ full => exact full

theorem inOrder_of_runs {config : Config} {w : Watch} (h : Runs sockets (ofConfig config) w) :
    w.InOrder config.limit := by
  induction h with
  | refl =>
    exact ⟨Traffic.accounted_ofConfig config, rfl, fun _ hmem ↦ absurd hmem List.not_mem_nil⟩
  | tail _ step ih => exact inOrder_step ih step

/-- Whoever waits in the line does so since there is no room. -/
theorem full_of_line {config : Config} {t : Traffic}
    (h : Traffic.Runs sockets (.ofConfig config) t) {sender : Sender}
    (hwaits : sender ∈ t.outbox.roomLine) : t.outbox.isFull = true :=
  (inOrder_of_runs (runs_of_runs h)).full_of_waits sender hwaits List.not_mem_nil

/-- The calls of senders that have not returned. -/
def sending (t : Traffic) : List Nat :=
  t.outbox.senders.map Sender.ticket ++ t.guests.filterMap fun
    | .offer _ _ => none
    | .sender sender => some sender.ticket

/-- The call of an offer is not that of a sender. -/
theorem not_sending {t : Traffic} (h : t.Accounted) {call : Nat} {parcel : Octets}
    (hoffer : .offer call parcel ∈ t.guests) : call ∉ sending t := by
  have hnodup := (List.nodup_append.1 (h.calls_perm.nodup_iff.2 List.nodup_range)).1
  rw [Traffic.entries, List.map_append, List.map_map, List.map_map] at hnodup
  obtain ⟨-, hguests, hapart⟩ := List.nodup_append.1 hnodup
  intro hsending
  rcases List.mem_append.1 hsending with hsender | hguest
  · exact hapart _ hsender _ (List.mem_map_of_mem hoffer) rfl
  · obtain ⟨guest, hmem, hcall⟩ := List.mem_filterMap.1 hguest
    cases guest with
    | offer => cases hcall
    | sender sender =>
      have := List.inj_on_of_nodup_map hguests hmem hoffer (Option.some.inj hcall)
      cases this

/-- A sender that is turned away is not one that looks. -/
theorem rests_of_refused {t t' : Traffic} {looking : List Sender} (h : t'.Accounted)
    (aside : ∀ sender ∈ looking, Stays sender t.outbox t'.outbox) {sender : Sender} {cause : Fault}
    (hwaits : sender ∈ t.outbox.roomLine)
    (hreturned : t'.returned = t.returned ++ [(sender.ticket, .error cause)]) :
    sender ∉ looking := by
  intro hlooks
  have hstays : sender ∈ t'.outbox.senders := by
    rcases (aside sender hlooks).1 hwaits with hline | hready
    · exact List.mem_append_left _ (List.mem_append_left _ hline)
    · exact List.mem_append_right _ (List.mem_filterMap.2 ⟨_, hready, rfl⟩)
  have hmem : sender.ticket ∈ t'.entries.map Prod.fst := by
    rw [Traffic.entries, List.map_append, List.map_map]
    exact List.mem_append_left _ (List.mem_map_of_mem hstays)
  exact h.not_returned hmem (by simp [hreturned])

/-- **Nobody waits while there is room.** Whatever the order of all steps, and even if the steps of
senders that look for room are taken apart: a sender that has found no room and has not been woken
since is in the line only while the count of pending parcels stands at the limit. So a sender
returns with the news that it has waited for room too long only at such a moment. -/
theorem full_of_waiting {config : Config} {w : Watch} (h : Runs sockets (ofConfig config) w) :
    (∀ sender ∈ w.traffic.outbox.roomLine, sender ∉ w.looking →
        config.limit ≤ w.traffic.outbox.pending)
      ∧ ∀ w' call, Step sockets w w' → call ∈ sending w.traffic →
          w'.traffic.returned = w.traffic.returned ++ [(call, .error .backpressureTimeout)] →
          config.limit ≤ w.traffic.outbox.pending := by
  have horder := inOrder_of_runs h
  have hlimit (hfull : w.traffic.outbox.isFull = true) :
      config.limit ≤ w.traffic.outbox.pending := by
    rw [← horder.limit_eq]
    simpa [isFull] using hfull
  refine ⟨fun sender hwaits hrests ↦ hlimit (horder.full_of_waits sender hwaits hrests), ?_⟩
  intro w' call hstep hsending hreturned
  cases hstep with
  | listen | find | findWoken | miss => exact absurd hreturned (by simp [listen, enter])
  | @other t t' looking step aside =>
    have hsame {result : Nat × Except Fault Unit} (h : t'.returned = t.returned ++ [result]) :
        result = (call, .error .backpressureTimeout) := by
      simpa using h.symm.trans hreturned
    cases Traffic.returns_of_step step with
    | none hnone => exact absurd (hnone.symm.trans hreturned) (by simp)
    | accepted _ haccepted => cases hsame haccepted
    | noRoom _ _ full => exact hlimit full
    | expired sender hexpired hwaits =>
      -- A sender that looks is left alone, so one that is turned away rests.
      have haccounted' := Traffic.accounted_step horder.accounted step
      have hrests := rests_of_refused haccounted' aside hwaits hexpired
      exact hlimit (horder.full_of_waits sender hwaits hrests)
    | closed _ hclosed => cases hsame hclosed
    | noSlot _ parcel hnoSlot hguest =>
      cases hsame hnoSlot
      exact absurd hsending (not_sending horder.accounted hguest)

/-- There is room for one parcel. A sender has found none, and a second one has stepped into the
line when the first parcel has been written. The second one looks first and takes the room that
both were woken for, so the first one waits again, and is turned away when its time is over. -/
theorem full_of_waiting_again :
    let start := ofConfig { limit := 1, slots := 1 }
    let socket := Socket.taking none
    let first : Sender := ⟨1, [2], 5000⟩
    let second : Sender := ⟨2, [3], 5000⟩
    let spawned := ((start.traffic.offerNow [1]).spawn [2]).spawn [3]
    let waiting := listen (spawned.carryOn socket 3) [.carrier, .reserve second] first
    let looking := listen waiting [.carrier] second
    let flushed := looking.move (looking.outbox.flushed 1 1)
    let found := enter flushed [] [.carrier, .reserve first] second
    let again := listen found [.carrier] first
    let late := again.move { again.outbox with now := again.outbox.now + 5000 }
    let expired := late.move (late.outbox.expireSender first)
    Runs (fun _ ↦ True) start ⟨waiting, []⟩ ∧ first ∈ waiting.outbox.roomLine
      ∧ 1 ≤ waiting.outbox.pending
      ∧ Runs (fun _ ↦ True) start ⟨late, []⟩ ∧ Step (fun _ ↦ True) ⟨late, []⟩ ⟨expired, []⟩
      ∧ expired.returned = late.returned ++ [(1, .error .backpressureTimeout)]
      ∧ 1 ≤ late.outbox.pending := by
  intro start socket first second spawned waiting looking flushed found again late expired
  have hspawned : Traffic.Runs (fun _ ↦ True) start.traffic spawned :=
    ((Traffic.runs_offerNow start.traffic [1] rfl rfl).tail (.spawn _ [2] (by decide +kernel))).tail
      (.spawn _ [3] (by decide +kernel))
  have hwaiting : Runs (fun _ ↦ True) start ⟨waiting, []⟩ :=
    ((runs_of_runs (hspawned.trans (Traffic.runs_carryOn trivial 3 spawned rfl).1)).tail
      (@Step.listen _ _ [] [.carrier] [.reserve second] first (by decide +kernel)
        List.not_mem_nil)).tail
      (@Step.miss _ waiting [first] first List.mem_cons_self (by decide +kernel))
  have hflushed : Runs (fun _ ↦ True) start ⟨flushed, [second]⟩ :=
    (hwaiting.tail (@Step.listen _ waiting [] [.carrier] [] second (by decide +kernel)
      List.not_mem_nil)).tail
      (.other (.carry socket trivial rfl fun hidle ↦ absurd hidle (by decide +kernel))
        (by unfold Stays; decide +kernel))
  have hagain : Runs (fun _ ↦ True) start ⟨again, []⟩ :=
    ((hflushed.tail (@Step.findWoken _ flushed [second] [.carrier, .reserve first] [] second
      List.mem_cons_self (by decide +kernel) (by decide +kernel))).tail
      (@Step.listen _ found [] [.carrier] [] first (by decide +kernel) List.not_mem_nil)).tail
      (@Step.miss _ again [first] first List.mem_cons_self (by decide +kernel))
  have hlate : Runs (fun _ ↦ True) start ⟨late, []⟩ :=
    hagain.tail (.other (.pass again 5000) fun _ hmem ↦ absurd hmem List.not_mem_nil)
  have hexpired : Step (fun _ ↦ True) ⟨late, []⟩ ⟨expired, []⟩ :=
    .other (.expire (by decide +kernel) (by decide +kernel)) fun _ hmem ↦
      absurd hmem List.not_mem_nil
  have hreturned : expired.returned = late.returned ++ [(1, .error .backpressureTimeout)] := by
    decide +kernel
  have hstands : first ∈ waiting.outbox.roomLine := by decide +kernel
  exact ⟨hwaiting, hstands, (full_of_waiting hwaiting).1 first hstands List.not_mem_nil, hlate,
    hexpired, hreturned, (full_of_waiting hlate).2 _ 1 hexpired (by decide +kernel) hreturned⟩

end Watch

end ParcelLink.Outbox
