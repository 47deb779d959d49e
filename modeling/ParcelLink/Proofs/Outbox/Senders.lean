import ParcelLink.Proofs.Outbox.Cargo

/-!
# What an outbox does with senders

A sender that is woken, gets a slot or is told that the queue has been closed changes its place, and
is still there. Only two things take a sender away: its parcel is put into the queue, or it is turned
away. Each time somebody looks after a sender, that sender is settled in one of these ways or it waits
(`Outbox.Handles`).

## Main definitions

* `Outbox.gained`: the parcels that come into the queue with the outcome of a call.
* `Outbox.Handles`: what an outbox does with a sender.
-/

namespace ParcelLink.Outbox

/-! ### Senders -/

@[simp] theorem senders_rouse (o : Outbox) : o.rouse.senders = o.senders := by
  unfold rouse
  split
  · split
    · rfl
    · simp [senders]
  · rfl

@[simp] theorem senders_push (o : Outbox) (ticket? : Option Nat) (parcel : Octets) :
    (o.push ticket? parcel).senders = o.senders :=
  senders_rouse _

@[simp] theorem senders_refuse (o : Outbox) (sender : Sender) (cause : Fault) :
    (o.refuse sender cause).senders = o.senders :=
  senders_rouse _

/-- Senders that are woken are still there. -/
theorem senders_release_perm (o : Outbox) (parcels : Nat) :
    (o.release parcels).senders.Perm o.senders := by
  simp only [release, senders, List.filterMap_append, Agent.filterMap_sender?_reserve,
    List.nil_append]
  rw [List.append_assoc o.roomLine, ← List.append_assoc]
  exact List.perm_append_comm

/-- Senders that are given a slot are still there. -/
theorem senders_takeParcels_perm (o : Outbox) (count : Nat) :
    (o.takeParcels count).senders.Perm o.senders := by
  simp only [takeParcels, senders, List.filterMap_append, Agent.filterMap_sender?_enqueue]
  generalize (o.queue.take count).length = slots
  rw [List.append_assoc, List.append_assoc, ← List.append_assoc (o.slotLine.drop slots)]
  refine List.Perm.append_left o.roomLine (List.perm_append_comm.trans ?_)
  rw [← List.append_assoc, List.take_append_drop]

/-- Senders that are woken since the queue is closed are still there. -/
theorem senders_fail_perm (o : Outbox) (parcels : Nat) (cause : Fault) :
    (o.fail parcels cause).senders.Perm o.senders := by
  simp only [fail, note, record, senders, List.filterMap_append, Agent.filterMap_sender?_enqueue,
    List.append_nil]
  rw [List.append_assoc]
  exact List.perm_append_comm.append_left o.roomLine

/-- **The carrier leaves all senders there**, and no outcome is due to it. -/
theorem senders_carry {socket : Socket} {o o' : Outbox} (h : o.carry socket = some o') :
    o'.senders.Perm o.senders ∧ o'.cargo.queued = o.cargo.queued
      ∧ o'.cargo.outcomes = o.cargo.outcomes := by
  cases carried_of_carry h with
  | finished => exact ⟨.rfl, by rw [cargo_finish], by rw [cargo_finish]⟩
  | tookBatch => exact ⟨senders_takeParcels_perm o maxBatch, rfl, rfl⟩
  | written => exact ⟨.rfl, rfl, rfl⟩
  | @wrote parcel rest parcels bytes count writing =>
    rw [cargo_wrote]
    refine ⟨?_, by split <;> rfl, by split <;> rfl⟩
    simp only [Outbox.wrote]
    split
    · exact senders_fail_perm _ _ _
    · exact .rfl
  | shut | failedWrite | failedFlush =>
    rw [cargo_fail]
    exact ⟨senders_fail_perm _ _ _, rfl, rfl⟩
  | @flushed parcels bytes =>
    rw [cargo_flushed]
    exact ⟨senders_release_perm ((o.record .flushed).note (.batchWritten parcels bytes)) parcels,
      rfl, rfl⟩

/-- A sender that was woken is taken out. -/
theorem senders_woken {o : Outbox} {before after : List Agent} {agent : Agent} {sender : Sender}
    (woken : o.ready = before ++ agent :: after) (hsender : agent.sender? = some sender) :
    o.senders.Perm (sender :: { o with ready := before ++ after }.senders) := by
  simp only [senders, woken, List.filterMap_append, List.filterMap_cons, hsender]
  rw [← List.append_assoc, ← List.append_assoc]
  exact List.perm_middle

/-- A sender that waits for room is taken out. -/
theorem senders_waits {o : Outbox} {sender : Sender} (waits : sender ∈ o.roomLine) :
    o.senders.Perm (sender :: { o with roomLine := o.roomLine.erase sender }.senders) := by
  simp only [senders]
  exact (List.perm_cons_erase waits).append_right _ |>.append_right _

/-! ### What an outbox does with a sender -/

/-- The parcels that come into the queue with a call. -/
def gained (outcome : Except Fault Unit) (parcel : Octets) : List Octets :=
  match outcome with
  | .ok () => [parcel]
  | .error _ => []

/-- A sender that has been taken out is settled, which puts its parcel into the queue or turns the
sender away, or it waits. -/
inductive Handles (sender : Sender) (o o' : Outbox) : Prop where
  /-- It is known what becomes of the parcel. -/
  | settled (outcome : Except Fault Unit)
    (outcomes_eq : o'.cargo.outcomes = o.cargo.outcomes ++ [(sender.ticket, outcome)])
    (queued_eq : o'.cargo.queued = o.cargo.queued ++ gained outcome sender.parcel)
    (senders_perm : o'.senders.Perm o.senders)
  /-- The sender waits. -/
  | waits (outcomes_eq : o'.cargo.outcomes = o.cargo.outcomes)
    (queued_eq : o'.cargo.queued = o.cargo.queued)
    (senders_perm : o'.senders.Perm (sender :: o.senders))

theorem handles_refuse (o : Outbox) (sender : Sender) (cause : Fault) :
    Handles sender o (o.refuse sender cause) := by
  refine .settled (.error cause) ?_ ?_ ?_
  · rw [cargo_refuse]
  · rw [cargo_refuse, gained, List.append_nil]
  · rw [senders_refuse]

theorem handles_push (o : Outbox) (sender : Sender) :
    Handles sender o (o.push (some sender.ticket) sender.parcel) := by
  refine .settled (.ok ()) ?_ ?_ ?_
  · rw [cargo_push]
    rfl
  · rw [cargo_push]
    rfl
  · rw [senders_push]

/-- Making room first does not matter. -/
theorem Handles.of_release {sender : Sender} {o o' : Outbox} {parcels : Nat}
    (h : Handles sender (o.release parcels) o') : Handles sender o o' := by
  have hperm := senders_release_perm o parcels
  cases h with
  | settled outcome houtcomes hqueued hsenders =>
    exact .settled outcome houtcomes hqueued (hsenders.trans hperm)
  | waits houtcomes hqueued hsenders =>
    exact .waits houtcomes hqueued (hsenders.trans (hperm.cons sender))

theorem handles_queueSender (o : Outbox) (sender : Sender) :
    Handles sender o (o.queueSender sender) := by
  unfold queueSender
  split
  · exact (handles_refuse _ _ _).of_release
  · split
    · refine .waits rfl rfl ?_
      simp only [senders]
      rw [← List.append_assoc, List.append_assoc _ [sender]]
      exact List.perm_middle
    · exact handles_push o sender

theorem handles_enqueue (o : Outbox) (sender : Sender) : Handles sender o (o.enqueue sender) := by
  unfold enqueue
  split
  · exact (handles_refuse _ _ _).of_release
  · exact handles_push o sender

/-- A sender that finds no room waits for it, or has waited too long. -/
theorem handles_reserve {o : Outbox} (hfull : o.isFull = true) (sender : Sender) :
    Handles sender o (o.reserve sender) := by
  rw [reserve, if_pos hfull]
  split
  · exact handles_refuse o sender _
  · refine .waits rfl rfl ?_
    simp only [senders, List.append_assoc]
    exact List.perm_middle

/-- An offer that has room is settled at once. -/
theorem queueOffer_settled (o : Outbox) (parcel : Octets) :
    (o.queueOffer parcel).2.cargo.queued
        = o.cargo.queued ++ gained (o.queueOffer parcel).1 parcel
      ∧ (o.queueOffer parcel).2.senders.Perm o.senders := by
  unfold queueOffer
  split
  · exact ⟨(List.append_nil _).symm, senders_release_perm o 1⟩
  · split
    · exact ⟨(List.append_nil _).symm, senders_release_perm o 1⟩
    · rw [cargo_push, senders_push]
      exact ⟨rfl, .rfl⟩

end ParcelLink.Outbox
