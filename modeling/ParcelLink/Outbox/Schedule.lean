import ParcelLink.Outbox.Carrier

/-!
# Turns

Those who were woken have their turns in the order in which they were woken, and each goes on until
it has to wait. Time stands still meanwhile. When nobody is left the outbox is settled: all that can
change it now is a new parcel, another answer of the socket, the passing of time, or the owner letting
go.

That an outbox settles is not plain, since a turn can wake others and a sender can be woken again and
again. But everybody is woken for a reason that does not come back: a batch has been flushed or a
sender has left (`Outbox.live` is less), or a parcel has come closer to being written
(`Outbox.distance` is less). A turn without such a reason wakes nobody (`Outbox.turn_lt`).

## Main definitions

* `Outbox.turn`: the turn of one agent.
* `Outbox.settle`: turns until nobody is left.
* `Outbox.spawn`, `Outbox.retry`, `Outbox.letGo`, `Outbox.advance`: what wakes the first.
* `Outbox.sendWithin`: a sender of the owner's own, for whom the owner waits.
-/

namespace ParcelLink.Outbox

/-- The turn of one who was woken. -/
def turn (socket : Socket) (o : Outbox) : Agent → Outbox
  | .carrier => o.drive socket
  | .reserve sender => o.reserve sender
  | .enqueue sender => o.enqueue sender

/-! ### What turns use up -/

/-- What a carrier adds to those who can still wake others. -/
def Carrier.live : Carrier → Nat
  | .idle => 1
  | .writing _ parcels _ | .flushing parcels _ => parcels + 2
  | .ended .. => 0

/-- Everybody who can still wake others: senders, parcels, and the carrier. -/
def live (o : Outbox) : Nat :=
  3 * (o.roomLine.length + o.slotLine.length + (o.ready.filterMap Agent.sender?).length
    + o.queue.length) + o.carrier.live

/-- How far an agent is from having its parcel written. -/
def Agent.distance : Agent → Nat
  | .carrier => 0
  | .reserve _ => 3
  | .enqueue _ => 2

/-- How far all parcels are from being written. -/
def distance (o : Outbox) : Nat :=
  3 * o.roomLine.length + 2 * o.slotLine.length
    + o.ready.foldr (fun agent sum ↦ agent.distance + sum) 0 + o.queue.length

/-- That less is left to be done after some turns: somebody is gone, or a parcel has come closer, or
else fewer are waiting for their turn. -/
def Before (after before : Outbox) : Prop :=
  after.live < before.live ∨ after.live = before.live ∧
    (after.distance < before.distance ∨ after.distance = before.distance ∧
      after.ready.length < before.ready.length)

/-- That some steps of the carrier have used something up, or have woken nobody. -/
def Calm (after before : Outbox) : Prop :=
  after.live < before.live ∨ after.live = before.live ∧ after.distance = before.distance ∧
    after.ready.length = before.ready.length

theorem Calm.trans {o₁ o₂ o₃ : Outbox} (h₁ : Calm o₂ o₁) (h₂ : Calm o₃ o₂) : Calm o₃ o₁ := by
  unfold Calm at *
  omega

/-- Rousing the carrier leaves everybody where they are. -/
theorem live_rouse (o : Outbox) : o.rouse.live = o.live ∧ o.rouse.distance = o.distance := by
  unfold rouse
  split
  · split
    · exact ⟨rfl, rfl⟩
    · simp [live, distance, List.filterMap_cons, Agent.distance]
  · exact ⟨rfl, rfl⟩

theorem live_push (o : Outbox) (ticket? : Option Nat) (parcel : Octets) :
    (o.push ticket? parcel).live = o.live + 3
      ∧ (o.push ticket? parcel).distance = o.distance + 1 := by
  have h := live_rouse ({ o with queue := o.queue ++ [parcel] }.record (.queued ticket? parcel))
  simp only [push, h]
  simp only [record, live, distance, List.length_append, List.length_cons, List.length_nil]
  omega

theorem live_refuse (o : Outbox) (sender : Sender) (cause : Fault) :
    (o.refuse sender cause).live = o.live := by
  simp only [refuse, live_rouse]
  rfl

theorem live_release (o : Outbox) (parcels : Nat) : (o.release parcels).live = o.live := by
  simp only [release, live, List.filterMap_append, Agent.filterMap_sender?_reserve,
    List.length_append, List.length_nil]
  omega

theorem live_fail_lt {o : Outbox} (parcels : Nat) (cause : Fault) (hb : o.carrier.isBusy) :
    (o.fail parcels cause).live < o.live := by
  have hpos : 0 < o.carrier.live := by
    generalize o.carrier = c at hb
    cases c <;> simp only [Carrier.isBusy, Carrier.live, Bool.false_eq_true] at hb ⊢ <;> omega
  have hend : ∀ outcome lost, (Carrier.ended outcome lost).live = 0 := fun _ _ ↦ rfl
  simp only [fail, record, note, live, hend, List.filterMap_append,
    Agent.filterMap_sender?_enqueue, List.length_append, List.length_nil]
  omega

theorem live_takeBatch_lt {o : Outbox} (hc : o.carrier = .idle) (hq : o.queue ≠ []) :
    o.takeBatch.live < o.live := by
  have hpos : 0 < o.queue.length := List.length_pos_iff.mpr hq
  simp only [takeBatch, live, Carrier.live, hc, List.filterMap_append,
    Agent.filterMap_sender?_enqueue, List.length_append, List.length_take, List.length_drop,
    maxBatch]
  omega

theorem calm_wrote {o : Outbox} {batch : Batch} {parcels bytes : Nat} (count : Nat)
    (hc : o.carrier = .writing batch parcels bytes) :
    Calm (o.wrote batch parcels bytes count) o := by
  unfold wrote
  simp only
  split
  · exact .inl (live_fail_lt (o := o.record _) parcels _ (by simp [record, hc, Carrier.isBusy]))
  · exact .inr ⟨by simp [record, live, hc, Carrier.live], rfl, rfl⟩

/-- **A step of the carrier uses something up, or wakes nobody.** -/
theorem calm_carry {socket : Socket} {o o' : Outbox} (h : o.carry socket = some o') :
    Calm o' o := by
  cases carried_of_carry h with
  | finished idle => exact .inl (by simp [finish, record, note, live, Carrier.live, idle])
  | tookBatch idle some_parcel => exact .inl (live_takeBatch_lt idle some_parcel)
  | written writing => exact .inr ⟨by simp [live, writing, Carrier.live], rfl, rfl⟩
  | wrote writing => exact calm_wrote _ writing
  | shut writing | failedWrite writing =>
    exact .inl (live_fail_lt _ _ (by simp [writing, Carrier.isBusy]))
  | @flushed parcels bytes flushing =>
    refine .inl ?_
    have := live_release ((o.record .flushed).note (.batchWritten parcels bytes)) parcels
    simp only [flushed, live, Carrier.live, record, note, release, flushing] at this ⊢
    omega
  | failedFlush flushing => exact .inl (live_fail_lt _ _ (by simp [flushing, Carrier.isBusy]))

theorem calm_drive (socket : Socket) (o : Outbox) : Calm (o.drive socket) o := by
  fun_induction drive socket o with
  | case1 o h => exact .inr ⟨rfl, rfl, rfl⟩
  | case2 o o' h ih => exact (calm_carry h).trans ih

/-- **A turn leaves less to be done.** -/
theorem turn_lt (socket : Socket) {o : Outbox} {agent : Agent} {rest : List Agent}
    (h : o.ready = agent :: rest) :
    Before ({ o with ready := rest }.turn socket agent) o := by
  have hdist : o.distance = { o with ready := rest }.distance + agent.distance := by
    simp only [distance, h, List.foldr_cons]
    omega
  cases agent with
  | carrier =>
    have hlive : o.live = { o with ready := rest }.live := by simp [live, h, List.filterMap_cons]
    have hc := calm_drive socket { o with ready := rest }
    simp only [Agent.distance] at hdist
    simp only [turn, Before, Calm, h, List.length_cons] at hc ⊢
    omega
  | reserve sender =>
    have hlive : o.live = { o with ready := rest }.live + 3 := by
      simp only [live, h, List.filterMap_cons, Agent.sender?, List.length_cons]
      omega
    generalize ho : ({ o with ready := rest } : Outbox) = o₁ at hlive hdist ⊢
    have hready : o₁.ready.length < o.ready.length := by simp [← ho, h]
    simp only [Agent.distance] at hdist
    simp only [turn, reserve, Before]
    split
    · split
      · rw [live_refuse]
        omega
      · simp only [live, distance, List.length_append, List.length_cons, List.length_nil]
          at hlive hdist ⊢
        omega
    · split
      · rw [live_refuse, live_release]
        refine .inl ?_
        simp only [book, live] at hlive ⊢
        omega
      · split
        · refine .inr ?_
          simp only [book, live, distance, List.length_append, List.length_cons, List.length_nil]
            at hlive hdist ⊢
          omega
        · have hp := live_push o₁.book (some sender.ticket) sender.parcel
          have hb : o₁.book.live = o₁.live ∧ o₁.book.distance = o₁.distance := ⟨rfl, rfl⟩
          omega
  | enqueue sender =>
    have hlive : o.live = { o with ready := rest }.live + 3 := by
      simp only [live, h, List.filterMap_cons, Agent.sender?, List.length_cons]
      omega
    generalize ({ o with ready := rest } : Outbox) = o₁ at hlive hdist ⊢
    simp only [Agent.distance] at hdist
    simp only [turn, enqueue, Before]
    split
    · rw [live_refuse, live_release]
      omega
    · have hp := live_push o₁ (some sender.ticket) sender.parcel
      omega

/-! ### Settling -/

/-- Turns, in the order in which the agents were woken, until nobody is left. -/
def settle (socket : Socket) (o : Outbox) : Outbox :=
  match _h : o.ready with
  | [] => o
  | agent :: rest => settle socket ({ o with ready := rest }.turn socket agent)
termination_by (o.live, o.distance, o.ready.length)
decreasing_by
  simp only [Prod.lex_def]
  have := turn_lt socket _h
  simpa only [Before] using this

/-! ### What wakes the first -/

/-- A sender that comes now. -/
def newSender (o : Outbox) (ticket : Nat) (parcel : Octets) : Sender :=
  ⟨ticket, parcel, o.now + o.config.patience⟩

/-- Somebody wants to send a parcel and has not had a turn yet. -/
def spawn (o : Outbox) (ticket : Nat) (parcel : Octets) : Outbox :=
  { o with ready := o.ready ++ [.reserve (o.newSender ticket parcel)] }

/-- The socket may have changed its mind, so a carrier that waits for it should try again. -/
def retry (o : Outbox) : Outbox :=
  if o.carrier.isBusy then { o with ready := o.ready ++ [.carrier] } else o

/-- The owner offers no more parcels. -/
def letGo (o : Outbox) : Outbox := { o with held := false }.rouse

/-- Turn away a sender whose wait for room is over. -/
def expireSender (o : Outbox) (sender : Sender) : Outbox :=
  { o with roomLine := o.roomLine.erase sender }.refuse sender .backpressureTimeout

/-- The senders whose wait for room is over, in the order of their deadlines. -/
def due (o : Outbox) : List Sender :=
  (o.roomLine.filter fun s ↦ s.deadline ≤ o.now).mergeSort fun a b ↦ a.deadline ≤ b.deadline

/-- Turn away everybody whose wait for room is over. -/
def expire (o : Outbox) : Outbox := o.due.foldl expireSender o

/-- Some milliseconds pass. -/
def advance (socket : Socket) (span : Nat) (o : Outbox) : Outbox :=
  { o with now := o.now + span }.expire.settle socket

/-! ### Waiting for one's own parcel -/

/-- A sender gives up. If it has room it takes that along. -/
def forsake (o : Outbox) (ticket : Nat) : Outbox :=
  { o with
    roomLine := o.roomLine.filter (·.ticket ≠ ticket)
    slotLine := o.slotLine.filter (·.ticket ≠ ticket) }

/-- Send a parcel and wait until it is known what became of it, or until `span` milliseconds have
passed; then nothing is given, and the sender gives up. -/
def sendWithin (socket : Socket) (span ticket : Nat) (parcel : Octets) (o : Outbox) :
    Option (Except Fault Unit) × Outbox :=
  let start := o.journal.size
  let sender := o.newSender ticket parcel
  let o := (o.reserve sender).settle socket
  match (o.journal.since start).outcome? ticket with
  | some outcome => (some outcome, o)
  | none =>
    -- Waiting for room ends by itself, waiting for a slot does not.
    let wait := if o.roomLine.contains sender then min o.config.patience span else span
    let o := o.advance socket wait
    ((o.journal.since start).outcome? ticket, o.forsake ticket)

end ParcelLink.Outbox
