import Mathlib.Data.List.Induction
import ParcelLink.Proofs.Octets.Overwrite
import ParcelLink.Proofs.Ring.Queue

/-!
# The ring in blocks

`Ring.write` and `Ring.grow` are said byte by byte and with remainders, and none of that can go wrong.
In memory a chunk is copied in one block, or in two if it goes around the end, and a place is found
by masking. There every block has to lie in the buffer and every difference has to exist, and an
operation that asks for another one stops dead.

Here the operations are set down in that way, with `none` for such an end. On a valid ring none of
them comes to it, and all leave what the operations of `Ring` leave (`Ring.writeByBlocks?_eq`,
`Ring.nextByMask?_eq`, `Ring.peekByMask?_eq`, `Ring.skipByMask?_eq`).

## Main definitions

* `Ring.minus?`, `Ring.blockAt?`, `Ring.copyAt?`: a difference, a block of a buffer and a copy into a
  buffer, if there can be one.
* `Ring.growByBlocks?`, `Ring.copyByBlocks?`, `Ring.writeByBlocks?`, `Ring.nextByMask?`,
  `Ring.peekByMask?`, `Ring.skipByMask?`: the operations of a ring in these terms.
-/

namespace ParcelLink.Ring

/-! ### What can go wrong -/

/-- The difference of two numbers, if there is one. -/
def minus? (m n : Nat) : Option Nat := if n ≤ m then some (m - n) else none

/-- The bytes of a block of a buffer, if the block lies in it. -/
def blockAt? (buffer : Array UInt8) (start count : Nat) : Option Octets :=
  if start + count ≤ buffer.size then some ((buffer.toList.drop start).take count) else none

/-- A buffer with a block copied over its bytes from a place on, if the block ends in it. -/
def copyAt? (buffer : Array UInt8) (start : Nat) (block : Octets) : Option (Array UInt8) :=
  if start + block.length ≤ buffer.size then some (Octets.overwrite buffer start block) else none

theorem minus?_eq {m n : Nat} (h : n ≤ m) : minus? m n = some (m - n) := if_pos h

theorem blockAt?_eq {buffer : Array UInt8} {start count : Nat} (h : start + count ≤ buffer.size) :
    blockAt? buffer start count = some ((buffer.toList.drop start).take count) := if_pos h

theorem copyAt?_eq {buffer : Array UInt8} {start : Nat} {block : Octets}
    (h : start + block.length ≤ buffer.size) :
    copyAt? buffer start block = some (Octets.overwrite buffer start block) := if_pos h

/-! ### The operations -/

/-- The ring with a larger buffer, to which the unread bytes are copied: those up to the end of the
old buffer, then those from its front on. -/
def growByBlocks? (r : Ring) (needed : Nat) : Option Ring := do
  let upToEnd ← minus? r.capacity r.readIndex
  let head := min r.unread upToEnd
  let tail ← minus? r.unread head
  let bytes ← copyAt? (Array.replicate (Capacity.roundUp needed) 0) 0
    (← blockAt? r.bytes r.readIndex head)
  let bytes ← copyAt? bytes head (← blockAt? r.bytes 0 tail)
  return { bytes := bytes, writeIndex := r.unread, readIndex := 0, unread := r.unread }

/-- A chunk copied behind the unread bytes of a ring that has room for it: up to the end of the
buffer, and what is left of it from the front on. -/
def copyByBlocks? (r : Ring) (chunk : Octets) : Option Ring := do
  let upToEnd ← minus? r.capacity r.writeIndex
  let bytes ←
    if chunk.length ≤ upToEnd then copyAt? r.bytes r.writeIndex chunk
    else do
      let bytes ← copyAt? r.bytes r.writeIndex (chunk.take upToEnd)
      copyAt? bytes 0 (chunk.drop upToEnd)
  let mask ← minus? r.capacity 1
  return { r with
    bytes := bytes
    writeIndex := (r.writeIndex + chunk.length) &&& mask
    unread := r.unread + chunk.length }

/-- The ring with room for `count` more bytes. -/
def reserveByBlocks? (r : Ring) (count : Nat) : Option Ring :=
  if r.capacity < r.unread + count then r.growByBlocks? (r.unread + count) else some r

/-- A chunk behind the unread bytes, for which the ring grows first if it has to. -/
def writeByBlocks? (r : Ring) (chunk : Octets) : Option Ring := do
  let room ← r.reserveByBlocks? chunk.length
  room.copyByBlocks? chunk

/-- The next byte of a ring that has one, and the ring behind it. -/
def nextByMask? (r : Ring) : Option (UInt8 × Ring) := do
  let b ← r.bytes[r.readIndex]?
  let mask ← minus? r.capacity 1
  let unread ← minus? r.unread 1
  return (b, { r with readIndex := (r.readIndex + 1) &&& mask, unread := unread })

/-- The next unread bytes, up to `count` of them, each from its masked place. -/
def peekByMask? (r : Ring) (count : Nat) : Option Octets :=
  (List.range (min count r.unread)).mapM fun offset ↦ do
    let mask ← minus? r.capacity 1
    r.bytes[(r.readIndex + offset) &&& mask]?

/-- Go on behind the next `count` bytes of a ring that has as many. -/
def skipByMask? (r : Ring) (count : Nat) : Option Ring := do
  let mask ← minus? r.capacity 1
  let unread ← minus? r.unread count
  return { r with readIndex := ((r.readIndex + count) &&& mask) &&& mask, unread := unread }

/-! ### Masks -/

theorem minus?_mask {r : Ring} (h : r.Valid) : minus? r.capacity 1 = some (r.capacity - 1) :=
  minus?_eq (Nat.le_trans (by omega) h.four_le)

/-- A masked place is the place around the end. -/
theorem and_mask {r : Ring} (h : r.Valid) (place : Nat) :
    place &&& (r.capacity - 1) = place % r.capacity := by
  obtain ⟨k, hk⟩ := h.capacity_eq
  rw [hk]
  exact Nat.and_two_pow_sub_one_eq_mod place k

/-! ### Reading, looking ahead and skipping -/

theorem getElem?_readIndex {r : Ring} (h : r.Valid) : r.bytes[r.readIndex]? = some (r.slot 0) := by
  have hlt : r.readIndex < r.bytes.size := h.readIndex_lt
  have hplace : r.indexAfter 0 = r.readIndex := Nat.mod_eq_of_lt hlt
  simp [slot, hplace, Array.getD_eq_getD_getElem?, hlt]

/-- **Taking the next byte cannot go wrong** on a ring that has one. -/
theorem nextByMask?_eq {r : Ring} (h : r.Valid) (hu : r.unread ≠ 0) : r.nextByMask? = r.next? := by
  have hone : minus? r.unread 1 = some (r.unread - 1) := minus?_eq (by omega)
  rw [nextByMask?, getElem?_readIndex h, minus?_mask h, hone, next?, if_neg hu, indexAfter,
    ← and_mask h]
  rfl

theorem getElem?_indexAfter {r : Ring} (h : r.Valid) (offset : Nat) :
    r.bytes[r.indexAfter offset]? = some (r.slot offset) := by
  have hlt : r.indexAfter offset < r.bytes.size := indexAfter_lt h offset
  simp [slot, Array.getD_eq_getD_getElem?, hlt]

/-- **Looking ahead cannot go wrong.** -/
theorem peekByMask?_eq {r : Ring} (h : r.Valid) (count : Nat) :
    r.peekByMask? count = some (r.peek count) := by
  have hbyte : (fun offset ↦ do
      let mask ← minus? r.capacity 1
      r.bytes[(r.readIndex + offset) &&& mask]?) = fun offset ↦ some (r.slot offset) := by
    funext offset
    rw [minus?_mask h, ← getElem?_indexAfter h, indexAfter, ← and_mask h]
    rfl
  rw [peekByMask?, hbyte, peek]
  exact List.mapM_pure

/-- **Skipping bytes that are there cannot go wrong.** -/
theorem skipByMask?_eq {r : Ring} (h : r.Valid) {count : Nat} (hc : count ≤ r.unread) :
    r.skipByMask? count = some (r.skip count) := by
  rw [skipByMask?, minus?_mask h, minus?_eq hc, skip, reposition, indexAfter, ← and_mask h,
    ← and_mask h]
  rfl

/-! ### Writing -/

/-- A chunk that fits in front of the end of the buffer is written as one block. -/
theorem foldl_put_eq {r : Ring} (chunk : Octets) (hw : r.writeIndex < r.capacity)
    (h : r.writeIndex + chunk.length ≤ r.capacity) :
    chunk.foldl put r
      = { r with
          bytes := Octets.overwrite r.bytes r.writeIndex chunk
          writeIndex := (r.writeIndex + chunk.length) % r.capacity
          unread := r.unread + chunk.length } := by
  induction chunk using List.reverseRecOn with
  | nil =>
    rw [List.length_nil, Nat.add_zero, Nat.mod_eq_of_lt hw]
    rfl
  | append_singleton front b ih =>
    rw [List.length_append, List.length_singleton] at h
    have hplace : (r.writeIndex + front.length) % r.capacity = r.writeIndex + front.length :=
      Nat.mod_eq_of_lt (by omega)
    rw [List.foldl_append, ih (by omega), hplace, Octets.overwrite_append]
    simp only [List.foldl_cons, List.foldl_nil, put, Octets.size_overwrite, List.length_append,
      List.length_singleton, Octets.overwrite_cons, Octets.overwrite_nil, capacity, Nat.add_assoc]

/-- A chunk that goes around the end is written as two blocks, the second from the front on. -/
theorem foldl_put_append_eq {r : Ring} {first second : Octets} (hw : r.writeIndex < r.capacity)
    (hfirst : r.writeIndex + first.length = r.capacity) (hsecond : second.length ≤ r.capacity) :
    (first ++ second).foldl put r
      = { r with
          bytes := Octets.overwrite (Octets.overwrite r.bytes r.writeIndex first) 0 second
          writeIndex := (r.writeIndex + (first ++ second).length) % r.capacity
          unread := r.unread + (first ++ second).length } := by
  -- the first block ends with the buffer, so the second begins at the front
  have hfront := foldl_put_eq first hw (Nat.le_of_eq hfirst)
  rw [hfirst, Nat.mod_self] at hfront
  have hcapacity : (first.foldl put r).capacity = r.capacity := by
    rw [hfront, capacity, Octets.size_overwrite, capacity]
  have hplace : (first.foldl put r).writeIndex = 0 := by rw [hfront]
  have hback := foldl_put_eq (r := first.foldl put r) second
    (by rw [hcapacity, hplace]; omega) (by rw [hcapacity, hplace]; omega)
  rw [hcapacity, hplace, Nat.zero_add] at hback
  rw [List.foldl_append, hback, hfront, List.length_append, ← Nat.add_assoc, ← Nat.add_assoc, hfirst,
    Nat.add_mod_left]

/-- **Copying a chunk cannot go wrong** on a ring that has room for it. -/
theorem copyByBlocks?_eq {r : Ring} (h : r.Valid) {chunk : Octets}
    (hroom : r.unread + chunk.length ≤ r.capacity) :
    r.copyByBlocks? chunk = some (chunk.foldl put r) := by
  have hw : r.writeIndex < r.capacity := by
    rw [h.writeIndex_eq]
    exact indexAfter_lt h r.unread
  simp only [copyByBlocks?, minus?_eq (Nat.le_of_lt hw), Option.bind_eq_bind, Option.bind_some,
    minus?_mask h, and_mask h]
  split
  · next hfits =>
    have hblock : r.writeIndex + chunk.length ≤ r.capacity := by omega
    rw [copyAt?_eq hblock, foldl_put_eq chunk hw hblock]
    rfl
  · next hover =>
    obtain ⟨first, second, rfl, hlength⟩ : ∃ first second, chunk = first ++ second
        ∧ first.length = r.capacity - r.writeIndex :=
      ⟨_, _, (List.take_append_drop (r.capacity - r.writeIndex) chunk).symm,
        List.length_take_of_le (by omega)⟩
    rw [List.length_append] at hroom
    have hfirst : r.writeIndex + first.length = r.capacity := by omega
    have hsecond : 0 + second.length ≤ (Octets.overwrite r.bytes r.writeIndex first).size := by
      rw [Octets.size_overwrite]
      show 0 + second.length ≤ r.capacity
      omega
    rw [← hlength, List.take_left, List.drop_left, copyAt?_eq (Nat.le_of_eq hfirst),
      Option.bind_some, copyAt?_eq hsecond, foldl_put_append_eq hw hfirst (by omega)]
    rfl

/-! ### Growing -/

/-- The contents are a block up to the end of the buffer and a block from its front on. -/
theorem contents_eq_blocks {r : Ring} (h : r.Valid) :
    let head := min r.unread (r.capacity - r.readIndex)
    r.contents = (r.bytes.toList.drop r.readIndex).take head
      ++ r.bytes.toList.take (r.unread - head) := by
  intro head
  have hread := h.readIndex_lt
  have hunread := h.unread_le
  have hsize : r.bytes.toList.length = r.capacity := Array.length_toList
  have hhead : ((r.bytes.toList.drop r.readIndex).take head).length = head :=
    List.length_take_of_le (by rw [List.length_drop, hsize]; omega)
  refine List.ext_getElem? fun i ↦ ?_
  rw [List.getElem?_append, hhead]
  by_cases hi : i < r.unread
  · have hplace := indexAfter_eq hread (Nat.le_trans (Nat.le_of_lt hi) hunread)
    have hslot := getElem?_indexAfter h i
    have hbyte : r.contents[i]? = r.bytes.toList[r.indexAfter i]? := by
      rw [← Array.getElem?_toList] at hslot
      rw [hslot, contents]
      simp [hi]
    rw [hbyte, hplace]
    by_cases hfront : i < head
    · rw [if_pos hfront, if_pos (by omega), List.getElem?_take_of_lt hfront, List.getElem?_drop]
    · rw [if_neg hfront, if_neg (by omega), List.getElem?_take_of_lt (by omega)]
      congr 1
      omega
  · have hnone : r.contents[i]? = none := List.getElem?_eq_none (by rw [length_contents]; omega)
    rw [hnone, if_neg (by omega)]
    exact (List.getElem?_eq_none (by rw [List.length_take]; omega)).symm

/-- **Growing cannot go wrong** if the new buffer holds the unread bytes. -/
theorem growByBlocks?_eq {r : Ring} (h : r.Valid) {needed : Nat} (hn : r.unread ≤ needed) :
    r.growByBlocks? needed = some (r.grow needed).value := by
  have hread : r.readIndex < r.bytes.size := h.readIndex_lt
  have hunread : r.unread ≤ r.bytes.size := h.unread_le
  have hgrown := Capacity.le_roundUp needed
  have hcontents := contents_eq_blocks h
  have hlength := length_contents r
  simp only [growByBlocks?, capacity, minus?_eq (Nat.le_of_lt hread), Option.bind_eq_bind,
    Option.bind_some] at hcontents ⊢
  generalize hhead : min r.unread (r.bytes.size - r.readIndex) = head at hcontents ⊢
  rw [minus?_eq (by omega), Option.bind_some, blockAt?_eq (by omega), Option.bind_some,
    blockAt?_eq (by omega), List.drop_zero]
  have hfront : ((r.bytes.toList.drop r.readIndex).take head).length = head :=
    List.length_take_of_le (by rw [List.length_drop, Array.length_toList]; omega)
  generalize (r.bytes.toList.drop r.readIndex).take head = front at hcontents hfront ⊢
  generalize r.bytes.toList.take (r.unread - head) = back at hcontents ⊢
  rw [hcontents, List.length_append] at hlength
  -- the two blocks, one behind the other, are the contents
  have hcopied : Octets.overwrite
        (Octets.overwrite (Array.replicate (Capacity.roundUp needed) 0) 0 front) head back
      = (r.contents ++ List.replicate (Capacity.roundUp needed - r.unread) 0).toArray := by
    rw [← hfront, ← Nat.zero_add front.length, ← Octets.overwrite_append, ← hcontents]
    apply Array.toList_inj.1
    rw [Octets.toList_overwrite (by rw [Array.size_replicate, length_contents]; omega)]
    simp
  rw [copyAt?_eq (by rw [Array.size_replicate]; omega), Option.bind_some, Option.bind_some,
    copyAt?_eq (by rw [Octets.size_overwrite, Array.size_replicate]; omega), Option.bind_some,
    hcopied]
  rfl

theorem reserveByBlocks?_eq {r : Ring} (h : r.Valid) (count : Nat) :
    r.reserveByBlocks? count = some (r.reserve count).value := by
  unfold reserveByBlocks? reserve
  split
  · exact growByBlocks?_eq h (Nat.le_add_right _ _)
  · rfl

/-- **Writing cannot go wrong**, whether or not the ring has to grow for the chunk. -/
theorem writeByBlocks?_eq {r : Ring} (h : r.Valid) (chunk : Octets) :
    r.writeByBlocks? chunk = some (r.write chunk).value := by
  obtain ⟨hvalid, hcontents, hroom⟩ := valid_reserve h chunk.length
  have hunread : (r.reserve chunk.length).value.unread = r.unread := by
    rw [← length_contents, hcontents, length_contents]
  rw [writeByBlocks?, reserveByBlocks?_eq h, Option.bind_eq_bind, Option.bind_some]
  exact copyByBlocks?_eq hvalid (by rw [hunread]; exact hroom)

end ParcelLink.Ring
