import Mathlib.Data.List.Induction
import ParcelLink.Proofs.Framer.Chunks
import ParcelLink.Proofs.Ring.Blocks
import ParcelLink.Reading.Span

/-!
# Rings under any operations

Whatever has been written to a fresh ring, read from it and skipped, in any order, the ring is valid
and its contents are those of a queue to which the same was done (`Ring.queue_performAll`). A reading
is any program of requests, on the ring itself or through a window on its next bytes, so what holds
behind every reading holds between its requests as well.

What a valid ring does is told by its contents (`Ring.ActsAsQueue`), and none of it can go wrong
(`Ring.Safe`): a chunk is copied in blocks that lie in the buffer, every place is in the buffer, and
nothing is taken off a count that is less.

## Main definitions

* `Ring.Operation`, `Ring.performAll`: what is done to a ring.
* `Ring.Operation.leaves`: what it leaves of a queue.
* `Ring.ActsAsQueue`, `Ring.Safe`: what a ring does to its contents, and that it can do it.
-/

namespace ParcelLink.Ring

/-! ### Readings and the contents -/

/-- A ring answers like its contents by themselves. -/
theorem agree : Source.Agree fun (r : Ring) (s : Span) ↦ r.Valid ∧ r.contents = s.rest where
  whole_eq := rfl
  left_eq h := by
    show unread _ = _
    rw [← length_contents, h.2]
    rfl
  next?_eq_none := by
    rintro r ⟨_ | ⟨b, rest⟩, position⟩ ⟨-, hcontents⟩ hend
    · show r.next? = none
      rw [next?, if_pos (by rw [← length_contents, hcontents]; rfl)]
    · cases hend
  next?_eq_some := by
    rintro r ⟨_ | ⟨b, rest⟩, position⟩ b' s' ⟨hvalid, hcontents⟩ hnext
    · cases hnext
    · obtain ⟨rfl, rfl⟩ : b = b' ∧ (⟨rest, position + 1⟩ : Span) = s' := by
        simpa [Source.next?, Span.next?] using hnext
      obtain ⟨r', hnext', hvalid', hcontents', -⟩ := next?_of_contents hvalid hcontents
      exact ⟨r', hnext', hvalid', hcontents'⟩

/-- What a reading of a ring ends in and leaves. -/
theorem run_eq {r : Ring} (h : r.Valid) {α : Type} (program : Reading α) :
    (program.run r).1 = (program.run (Span.ofOctets r.contents)).1
      ∧ (program.run r).2.Valid
      ∧ (program.run r).2.contents = (program.run (Span.ofOctets r.contents)).2.rest := by
  have hfresh : r.Valid ∧ r.contents = (Span.ofOctets r.contents).rest := ⟨h, rfl⟩
  exact agree.run program hfresh

/-- What a reading through a window ends in, and how it leaves the window. -/
theorem run_ofRing_eq {r : Ring} (h : r.Valid) {length : Nat} (hl : length ≤ r.unread) {α : Type}
    (program : Reading α) :
    let x := program.run (Excerpt.ofOctets (r.contents.take length))
    let y := program.run (Window.ofRing r length)
    y.1 = x.1 ∧ Window.Shows r (r.contents.drop length) y.2 x.2 := by
  intro x y
  have htake : (r.contents.take length).length = length :=
    List.length_take_of_le (by rw [length_contents]; exact hl)
  have hshows := Window.shows_ofRing h (List.take_append_drop length r.contents).symm
  rw [htake] at hshows
  exact (Window.agree r _).run program hshows

/-! ### Operations -/

/-- Something that is done to a ring. -/
inductive Operation where
  /-- A chunk is written. -/
  | write (chunk : Octets)
  /-- The ring is read by any program. -/
  | read (program : Reading Unit)
  /-- The next bytes, up to `length` of them, are read through a window by any program. -/
  | readWindow (length : Nat) (program : Reading Unit)
  /-- The next bytes, up to `count` of them, are skipped. -/
  | skip (count : Nat)
  /-- All bytes are forgotten. -/
  | clear

/-- The ring after an operation. -/
def perform (r : Ring) : Operation → Ring
  | .write chunk => (r.write chunk).value
  | .read program => (program.run r).2
  | .readWindow length program => (program.run (Window.ofRing r (min length r.unread))).2.ring
  | .skip count => r.skip (min count r.unread)
  | .clear => r.clear

/-- The ring after some operations. -/
def performAll (r : Ring) (operations : List Operation) : Ring := operations.foldl perform r

/-- What an operation leaves of a queue. -/
def Operation.leaves (queue : Octets) : Operation → Octets
  | write chunk => queue ++ chunk
  | read program => (program.run (Span.ofOctets queue)).2.rest
  | readWindow length program =>
    (program.run (Excerpt.ofOctets (queue.take length))).2.rest ++ queue.drop length
  | skip count => queue.drop count
  | clear => []

/-- **An operation does to the contents what it does to a queue**, and leaves the ring valid. -/
theorem valid_perform {r : Ring} (h : r.Valid) (operation : Operation) :
    (r.perform operation).Valid ∧ (r.perform operation).contents = operation.leaves r.contents := by
  have hlength := length_contents r
  cases operation with
  | write chunk => exact ⟨valid_write h chunk, contents_write h chunk⟩
  | read program => exact (run_eq h program).2
  | readWindow length program =>
    obtain ⟨-, hshows⟩ := run_ofRing_eq h (Nat.min_le_right length r.unread) program
    refine ⟨hshows.valid, ?_⟩
    rw [perform, hshows.contents_eq, Operation.leaves, ← hlength, ← List.take_eq_take_min,
      ← List.drop_eq_drop_min]
  | skip count =>
    refine ⟨valid_skip h (Nat.min_le_right count r.unread), ?_⟩
    rw [perform, contents_skip h, Operation.leaves, ← hlength, ← List.drop_eq_drop_min]
  | clear => exact ⟨valid_clear h, rfl⟩

/-- **Whatever is done to a fresh ring, it is valid and holds what a queue would hold.** -/
theorem valid_performAll (wanted : Nat) (operations : List Operation) :
    ((ofCapacity wanted).performAll operations).Valid
      ∧ ((ofCapacity wanted).performAll operations).contents
        = operations.foldl Operation.leaves [] := by
  induction operations using List.reverseRecOn with
  | nil => exact ⟨valid_ofCapacity wanted, contents_ofCapacity wanted⟩
  | append_singleton operations operation ih =>
    obtain ⟨hvalid, hcontents⟩ := valid_perform ih.1 operation
    rw [performAll, List.foldl_append, List.foldl_append]
    exact ⟨hvalid, by rw [ih.2] at hcontents; exact hcontents⟩

/-! ### What a ring does -/

/-- What each operation of a ring does, told by the contents. -/
structure ActsAsQueue (r : Ring) : Prop where
  /-- Writing appends a chunk. -/
  contents_write : ∀ chunk, (r.write chunk).value.contents = r.contents ++ chunk
  /-- The buffer stays as large as it is if the chunk fits beside the unread bytes. -/
  capacity_write : ∀ chunk, r.unread + chunk.length ≤ r.capacity →
    (r.write chunk).value.capacity = r.capacity
  /-- Otherwise it becomes the smallest power of two that holds both. -/
  capacity_write_of_lt : ∀ chunk, r.capacity < r.unread + chunk.length →
    (∃ k, (r.write chunk).value.capacity = Nat.pow 2 k)
      ∧ r.unread + chunk.length ≤ (r.write chunk).value.capacity
      ∧ ∀ k, r.unread + chunk.length ≤ Nat.pow 2 k → (r.write chunk).value.capacity ≤ Nat.pow 2 k
  /-- The next byte is the first, and it is gone when it has been read. -/
  next?_eq : r.next?.map (fun (b, r') ↦ (b, r'.contents)) = r.contents.head?.map (·, r.contents.tail)
  /-- A reading ends as it does on the contents by themselves, and leaves what it does not read. -/
  run_eq : ∀ (α : Type) (program : Reading α),
    (program.run r).1 = (program.run (Span.ofOctets r.contents)).1
      ∧ (program.run r).2.contents = (program.run (Span.ofOctets r.contents)).2.rest
  /-- Looking ahead gives the first bytes. -/
  peek_eq : ∀ count, r.peek count = r.contents.take (min count r.unread)
  /-- Skipping drops the bytes that are skipped. -/
  contents_skip : ∀ count ≤ r.unread, (r.skip count).contents = r.contents.drop count
  /-- To go on behind the next bytes is to skip them, whatever has been read of them. -/
  reposition_eq : ∀ count ≤ r.unread, ∀ (α : Type) (program : Reading α),
    (program.run (Window.ofRing r count)).2.ring.reposition (r.indexAfter count) (r.unread - count)
      = r.skip count
  /-- Clearing drops all bytes. -/
  contents_clear : r.clear.contents = []

/-- That nothing a ring does can go wrong. -/
structure Safe (r : Ring) : Prop where
  /-- A chunk is copied in blocks that lie in the buffer. -/
  write : ∀ chunk, r.writeByBlocks? chunk = some (r.write chunk).value
  /-- The next byte has a place, if there is one. -/
  next : r.unread ≠ 0 → r.nextByMask? = r.next?
  /-- So has every byte that is looked at. -/
  peek : ∀ count, r.peekByMask? count = some (r.peek count)
  /-- So has what is behind the bytes that are skipped. -/
  skip : ∀ count ≤ r.unread, r.skipByMask? count = some (r.skip count)
  /-- A window has no more bytes left than the ring, whatever is read through it, so that each of
  them can be taken. -/
  window : ∀ length ≤ r.unread, ∀ (α : Type) (program : Reading α),
    (program.run (Window.ofRing r length)).2.remaining
      ≤ (program.run (Window.ofRing r length)).2.ring.unread

theorem capacity_foldl_put (r : Ring) (chunk : Octets) :
    (chunk.foldl put r).capacity = r.capacity := by
  induction chunk generalizing r with
  | nil => rfl
  | cons b rest ih =>
    rw [List.foldl_cons, ih]
    simp [put, capacity]

theorem capacity_write (r : Ring) (chunk : Octets) :
    (r.write chunk).value.capacity = (r.reserve chunk.length).value.capacity :=
  capacity_foldl_put _ chunk

theorem actsAsQueue {r : Ring} (h : r.Valid) : r.ActsAsQueue where
  contents_write := contents_write h
  capacity_write chunk hfits := by
    rw [capacity_write, reserve, if_neg (by omega)]
    rfl
  capacity_write_of_lt chunk hover := by
    rw [capacity_write, reserve, if_pos hover, capacity_grow (Nat.le_add_right _ _)]
    exact ⟨Capacity.roundUp_eq_two_pow _, Capacity.le_roundUp _,
      fun k ↦ Capacity.roundUp_le_of_le_two_pow⟩
  next?_eq := by
    rcases hc : r.contents with - | ⟨b, rest⟩
    · have hu : r.unread = 0 := by rw [← length_contents, hc]; rfl
      rw [next?, if_pos hu]
      rfl
    · obtain ⟨r', hnext, -, hrest, -⟩ := next?_of_contents h hc
      rw [hnext, ← hrest]
      rfl
  run_eq α program := ⟨(run_eq h program).1, (run_eq h program).2.2⟩
  peek_eq count := by rw [peek_eq_take, ← length_contents, ← List.take_eq_take_min]
  contents_skip count _ := contents_skip h count
  reposition_eq count hc α program := by
    obtain ⟨-, hshows⟩ := run_ofRing_eq h hc program
    exact reposition_indexAfter hshows.bytes_eq hshows.writeIndex_eq count
  contents_clear := contents_clear r

theorem safe {r : Ring} (h : r.Valid) : r.Safe where
  write := writeByBlocks?_eq h
  next := nextByMask?_eq h
  peek := peekByMask?_eq h
  skip _ := skipByMask?_eq h
  window length hl α program := by
    obtain ⟨-, hshows⟩ := run_ofRing_eq h hl program
    rw [hshows.remaining_eq, ← length_contents, hshows.contents_eq, List.length_append]
    omega

/-- **A ring is a first-in first-out queue**, whatever is done to it. Its capacity is a power of two
and at least four, both places are below it and no more bytes are unread than fit, and the next byte
to be written goes behind the unread ones. Its contents are what the same operations leave of an empty
queue, each operation goes on to act on them as on a queue, and none can go wrong. -/
theorem queue_performAll (wanted : Nat) (operations : List Operation) :
    let r := (ofCapacity wanted).performAll operations
    (∃ k, r.capacity = Nat.pow 2 k) ∧ 4 ≤ r.capacity
      ∧ r.readIndex < r.capacity ∧ r.writeIndex < r.capacity ∧ r.unread ≤ r.capacity
      ∧ r.writeIndex = (r.readIndex + r.unread) % r.capacity
      ∧ r.contents = operations.foldl Operation.leaves [] ∧ r.contents.length = r.unread
      ∧ r.ActsAsQueue ∧ r.Safe := by
  intro r
  obtain ⟨hvalid, hcontents⟩ := valid_performAll wanted operations
  have hwrite : r.writeIndex < r.capacity := by
    rw [hvalid.writeIndex_eq]
    exact indexAfter_lt hvalid _
  exact ⟨hvalid.capacity_eq, hvalid.four_le, hvalid.readIndex_lt, hwrite, hvalid.unread_le,
    hvalid.writeIndex_eq, hcontents, length_contents r, actsAsQueue hvalid, safe hvalid⟩

end ParcelLink.Ring
