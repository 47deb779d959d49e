import Mathlib.Data.List.Induction
import ParcelLink.Proofs.Ring.Operations

/-!
# A framer holds back less than one parcel

Bytes may come from anybody, and a size may claim anything. A framer still never holds back more than
it has to: a size that is not complete, or less than the body of a parcel whose size it believes
(`Framer.Settled`). So what has to fit into the ring is that and one chunk, and the ring does not grow
beyond the smallest power of two that holds both, unless it was larger from the beginning
(`Framer.bounded_performAll`).

The first half is `Framer.settled_perform`: every chunk is framed as far as can be before the next one
is written. The second rests on it and on `Framer.capacity_push`: only writing a chunk can make the
ring grow, whatever the handlers do.

## Main definitions

* `Framer.Operation`, `Framer.performAll`: what is done to a framer.
* `Framer.Phase.Believed`: that a size which has been read is one that is believed.
* `Framer.Settled`: what holds of a framer between chunks.
-/

namespace ParcelLink

/-! ### The capacity of a ring -/

namespace Ring

/-- Writing never makes the buffer smaller. -/
theorem le_capacity_write (r : Ring) (chunk : Octets) :
    r.capacity ≤ (r.write chunk).value.capacity := by
  rw [capacity_write, reserve]
  split
  · next hover =>
    rw [capacity_grow (Nat.le_add_right _ _)]
    exact Nat.le_trans (Nat.le_of_lt hover) (Capacity.le_roundUp _)
  · exact Nat.le_refl _

/-- A power of two that holds the unread bytes and a chunk is not exceeded for them. -/
theorem capacity_write_le {r : Ring} {chunk : Octets} {k : Nat}
    (h : r.unread + chunk.length ≤ Nat.pow 2 k) :
    (r.write chunk).value.capacity ≤ max r.capacity (Nat.pow 2 k) := by
  rw [capacity_write, reserve]
  split
  · rw [capacity_grow (Nat.le_add_right _ _)]
    exact Nat.le_trans (Capacity.roundUp_le_of_le_two_pow h) (Nat.le_max_right _ _)
  · exact Nat.le_max_left _ _

end Ring

namespace Framer

variable {σ : Type}

/-! ### Only writing makes the ring grow -/

theorem capacity_nextSize (f : Framer) : f.nextSize.value.1.ring.capacity = f.ring.capacity := by
  unfold nextSize
  split
  · rfl
  · split
    · rfl
    · simp only
      split <;> rfl

theorem capacity_deliver {f : Framer} (hv : f.ring.Valid) {size : Nat} (hs : size ≤ f.ring.unread)
    (handler : σ → Reading (Logged σ)) (state : σ) :
    (f.deliver size handler state).value.1.ring.capacity = f.ring.capacity := by
  rw [value_deliver f hv hs]
  rfl

/-- Framing a parcel leaves the buffer as large as it is. -/
theorem capacity_advance {f : Framer} {limit : Nat} {phase : Phase} {rest : Octets}
    (h : f.StandsAt limit phase rest) (handler : σ → Reading (Logged σ)) (state : σ) :
    (f.advance handler state).value.1.ring.capacity = f.ring.capacity := by
  have hcapacity := f.capacity_nextSize
  obtain ⟨f₁, hsize, -, -⟩ | ⟨f₁, size, rest₁, hsize, hstands, -⟩ := value_nextSize h
  · simp only [hsize] at hcapacity
    simp only [advance, Logged.value_bind, hsize, Logged.value_pure, hcapacity]
  · simp only [hsize] at hcapacity
    simp only [advance, Logged.value_bind, hsize]
    split
    · simp only [Logged.value_bind, Logged.value_pure, hcapacity]
    · next hwhole =>
      have hdeliver := capacity_deliver hstands.valid (Nat.le_of_not_lt hwhole) handler state
      simp only [Logged.value_bind, Logged.value_pure, hdeliver, hcapacity]

theorem capacity_drain {f : Framer} {limit : Nat} {phase : Phase} {rest : Octets}
    (h : f.StandsAt limit phase rest) (handler : σ → Reading (Logged σ)) (state : σ) (count : Nat)
    (notices : Array Notice) :
    (drain handler f state count notices).value.1.ring.capacity = f.ring.capacity := by
  fun_induction drain handler f state count notices generalizing phase rest with
  | case1 f state count notices f' more hadv =>
    have hcapacity := capacity_advance h handler state
    rwa [hadv] at hcapacity
  | case2 f state count notices f' state' more hadv ih =>
    have hcapacity := capacity_advance h handler state
    rw [hadv] at hcapacity
    obtain ⟨f₁, hval, -, -⟩ | ⟨f₁, body, rest', hval, hstands, -⟩ := value_advance h handler state
    · rw [hadv] at hval
      simp at hval
    · rw [hadv] at hval
      obtain ⟨rfl, -⟩ := Prod.mk.inj hval
      exact (ih hstands).trans hcapacity

/-- **Only writing a chunk makes the ring grow**, whatever the handler does. -/
theorem capacity_push {f : Framer} (hv : f.ring.Valid) (chunk : Octets)
    (handler : σ → Reading (Logged σ)) (state : σ) :
    (f.push chunk handler state).value.1.ring.capacity = (f.ring.write chunk).value.capacity := by
  have hwritten : { f with ring := (f.ring.write chunk).value : Framer }.StandsAt f.limit f.phase
      (f.ring.write chunk).value.contents :=
    ⟨Ring.valid_write hv chunk, rfl, rfl, rfl⟩
  simp only [push, Logged.value_bind]
  exact capacity_drain hwritten handler state 0 #[]

/-! ### Between chunks -/

/-- A size that has been read is believed, and was written in so many bytes as a size has. -/
def Phase.Believed (limit : Nat) : Phase → Prop
  | awaitingSize => True
  | awaitingBody size => size ≤ limit ∧ size < UInt32.size

/-- Between chunks a framer has a ring, believes the size that it has read, and has fewer bytes than
it needs to go on. -/
structure Settled (f : Framer) : Prop where
  valid : f.ring.Valid
  believed : f.phase.Believed f.limit
  unread_lt : f.ring.unread < f.phase.needs

theorem settled_ofCapacity (capacity limit : Nat) : (ofCapacity capacity limit).Settled :=
  ⟨Ring.valid_ofCapacity capacity, trivial, Nat.zero_lt_succ 3⟩

theorem settled_clear {f : Framer} (h : f.Settled) : f.clear.Settled :=
  ⟨Ring.valid_clear h.valid, trivial, Nat.zero_lt_succ 3⟩

/-- A split stops behind a size only if the size is believed. -/
theorem believed_split {limit : Nat} {phase : Phase} (h : phase.Believed limit) (bytes : Octets) :
    (split limit phase bytes).phase.Believed limit := by
  fun_induction split limit phase bytes with
  | case1 | case2 => trivial
  | case3 bytes hlt size hlim ih => exact ih ⟨Nat.le_of_not_lt hlim, ofBig_take_lt hlt⟩
  | case4 => exact h
  | case5 size bytes hlt ih => exact ih trivial

theorem Settled.standsAt {f : Framer} (h : f.Settled) :
    f.StandsAt f.limit f.phase f.ring.contents :=
  ⟨h.valid, rfl, rfl, rfl⟩

/-- **A chunk is framed as far as can be.** -/
theorem settled_push {f : Framer} (h : f.Settled) (chunk : Octets)
    (handler : σ → Reading (Logged σ)) (state : σ) :
    (f.push chunk handler state).value.1.Settled
      ∧ (f.push chunk handler state).value.1.limit = f.limit := by
  obtain ⟨f', hpush, hvalid, hlimit, hphase, hcontents⟩ := value_push h.standsAt chunk handler state
  rw [hpush]
  refine ⟨⟨hvalid, ?_, ?_⟩, hlimit⟩
  · rw [hphase, hlimit]
    exact believed_split h.believed _
  · rw [← Ring.length_contents, hcontents, hphase]
    exact length_rest_split_lt f.limit f.phase _

/-- What a framer holds back is less than a size, or less than a body whose size is believed. -/
theorem Settled.unread_le {f : Framer} (h : f.Settled) : f.ring.unread ≤ max 3 (f.limit - 1) := by
  obtain ⟨-, hbelieved, hunread⟩ := h
  rcases hphase : f.phase with - | size
  · rw [hphase, Phase.needs, sizeWidth] at hunread
    omega
  · rw [hphase] at hbelieved hunread
    have hle : size ≤ f.limit := hbelieved.1
    rw [Phase.needs] at hunread
    omega

/-! ### Operations -/

/-- Something that is done to a framer. Each chunk may meet a handler of its own. -/
inductive Operation where
  /-- A chunk is taken in. -/
  | push {σ : Type} (handler : σ → Reading (Logged σ)) (state : σ) (chunk : Octets)
  /-- All bytes are forgotten. -/
  | clear

/-- The chunk that is taken in. -/
def Operation.chunk : Operation → Octets
  | push _ _ chunk => chunk
  | clear => []

/-- The framer after an operation. -/
def perform (f : Framer) : Operation → Framer
  | .push handler state chunk => (f.push chunk handler state).value.1
  | .clear => f.clear

/-- The framer after some operations. -/
def performAll (f : Framer) (operations : List Operation) : Framer := operations.foldl perform f

theorem performAll_concat (f : Framer) (operations : List Operation) (operation : Operation) :
    f.performAll (operations ++ [operation]) = (f.performAll operations).perform operation := by
  rw [performAll, List.foldl_append]
  rfl

/-- Every operation leaves a framer settled. -/
theorem settled_perform {f : Framer} (h : f.Settled) (operation : Operation) :
    (f.perform operation).Settled ∧ (f.perform operation).limit = f.limit := by
  cases operation with
  | push handler state chunk => exact settled_push h chunk handler state
  | clear => exact ⟨settled_clear h, rfl⟩

/-- **Whatever has been done to it, a framer is settled.** -/
theorem settled_performAll (capacity limit : Nat) (operations : List Operation) :
    ((ofCapacity capacity limit).performAll operations).Settled
      ∧ ((ofCapacity capacity limit).performAll operations).limit = limit := by
  induction operations using List.reverseRecOn with
  | nil => exact ⟨settled_ofCapacity capacity limit, rfl⟩
  | append_singleton operations operation ih =>
    obtain ⟨hsettled, hlimit⟩ := ih
    rw [performAll_concat]
    have hafter := settled_perform hsettled operation
    exact ⟨hafter.1, hafter.2.trans hlimit⟩

/-! ### The capacity of the ring -/

theorem le_capacity_perform {f : Framer} (h : f.Settled) (operation : Operation) :
    f.ring.capacity ≤ (f.perform operation).ring.capacity := by
  cases operation with
  | push handler state chunk =>
    rw [perform, capacity_push h.valid]
    exact f.ring.le_capacity_write chunk
  | clear => exact Nat.le_refl _

/-- A power of two that holds what may be held back and one chunk is enough. -/
theorem capacity_perform_le {f : Framer} (h : f.Settled) {operation : Operation} {most k : Nat}
    (hmost : operation.chunk.length ≤ most) (hk : max 3 (f.limit - 1) + most ≤ Nat.pow 2 k) :
    (f.perform operation).ring.capacity ≤ max f.ring.capacity (Nat.pow 2 k) := by
  cases operation with
  | push handler state chunk =>
    rw [perform, capacity_push h.valid]
    exact Ring.capacity_write_le (Nat.le_trans (Nat.add_le_add h.unread_le hmost) hk)
  | clear => exact Nat.le_max_left _ _

theorem capacity_performAll_le (capacity limit : Nat) {operations : List Operation} {most k : Nat}
    (hmost : ∀ operation ∈ operations, operation.chunk.length ≤ most)
    (hk : max 3 (limit - 1) + most ≤ Nat.pow 2 k) :
    ((ofCapacity capacity limit).performAll operations).ring.capacity
      ≤ max (ofCapacity capacity limit).ring.capacity (Nat.pow 2 k) := by
  induction operations using List.reverseRecOn with
  | nil => exact Nat.le_max_left _ _
  | append_singleton operations operation ih =>
    have hbefore := ih fun other hother ↦ hmost other (List.mem_append_left _ hother)
    obtain ⟨hsettled, hlimit⟩ := settled_performAll capacity limit operations
    have hlast := hmost operation (List.mem_append_right _ (List.mem_singleton_self operation))
    have hstep := capacity_perform_le hsettled hlast (by rw [hlimit]; exact hk)
    rw [performAll_concat]
    exact Nat.le_trans hstep (Nat.max_le.2 ⟨hbefore, Nat.le_max_right _ _⟩)

/-- **Whoever sends the bytes, a framer holds back less than one parcel.** After any chunks, each with
a handler that may do anything, and with all bytes forgotten now and then, it waits for a size and has
at most three bytes, or it waits for a body of a size that it believes, not zero, and has fewer bytes
than that. The capacity of its ring is a power of two and never goes down; and if no chunk has more
than `most` bytes, then no power of two that holds `most` bytes next to those held back is exceeded,
unless the ring was larger from the beginning. -/
theorem bounded_performAll (capacity limit : Nat) (operations : List Operation) :
    let start := ofCapacity capacity limit
    let f := start.performAll operations
    (f.phase = .awaitingSize ∧ f.pending ≤ 3
        ∨ ∃ size, f.phase = .awaitingBody size ∧ 1 ≤ size ∧ size ≤ limit ∧ f.pending < size)
      ∧ (∃ k, f.ring.capacity = Nat.pow 2 k)
      ∧ (∀ operation, f.ring.capacity ≤ (f.perform operation).ring.capacity)
      ∧ ∀ most, (∀ operation ∈ operations, operation.chunk.length ≤ most) →
          ∀ k, max 3 (limit - 1) + most ≤ Nat.pow 2 k →
            f.ring.capacity ≤ max start.ring.capacity (Nat.pow 2 k) := by
  intro start f
  obtain ⟨hsettled, hlimit⟩ := settled_performAll capacity limit operations
  refine ⟨?_, hsettled.valid.capacity_eq, le_capacity_perform hsettled, fun most hmost k hk ↦ ?_⟩
  · have hbelieved := hsettled.believed
    have hunread := hsettled.unread_lt
    rcases hphase : f.phase with - | size
    · rw [hphase] at hunread
      exact .inl ⟨rfl, Nat.le_of_lt_succ hunread⟩
    · rw [hphase, hlimit] at hbelieved
      rw [hphase] at hunread
      exact .inr ⟨size, rfl, Nat.lt_of_le_of_lt (Nat.zero_le _) hunread, hbelieved.1, hunread⟩
  · exact capacity_performAll_le capacity limit hmost hk

/-- A size that is not believed comes behind a parcel and the beginning of another. The chunks have
eight bytes at most and the bodies five, and the ring grows to sixteen bytes, which hold twelve. -/
theorem bounded_of_hostile_chunks :
    let chunks : List Octets :=
      [[0, 0, 0, 5, 1, 2, 3], [4, 5, 0, 0, 0, 1, 6, 0xff], [0xff, 0xff, 0xff, 7]]
    let operations := chunks.map fun chunk ↦ Operation.push keeper [] chunk
    let f := (ofCapacity 0 5).performAll operations
    (∀ operation ∈ operations, operation.chunk.length ≤ 8) ∧ max 3 (5 - 1) + 8 ≤ Nat.pow 2 4
      ∧ f.ring.capacity ≤ max (ofCapacity 0 5).ring.capacity (Nat.pow 2 4)
      ∧ f.ring.capacity = 16 ∧ f.pending = 0 := by
  intro chunks operations f
  have hmost : ∀ operation ∈ operations, operation.chunk.length ≤ 8 := by decide +kernel
  have hk : max 3 (5 - 1) + 8 ≤ Nat.pow 2 4 := by decide
  have hbounded := (bounded_performAll 0 5 operations).2.2.2 8 hmost 4 hk
  exact ⟨hmost, hk, hbounded, by decide +kernel, by decide +kernel⟩

end Framer

end ParcelLink
