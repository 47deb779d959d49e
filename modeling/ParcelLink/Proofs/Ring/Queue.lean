import ParcelLink.Ring

/-!
# The ring is a queue

Every operation of a valid ring is known by what it does to `Ring.contents`: writing appends,
reading takes the first byte off, skipping drops bytes in front, and growth changes nothing. All of
this rests on one fact about places around the end, `Ring.indexAfter_eq`: below one full turn a
place is found by a comparison and a subtraction, so that different offsets have different places.

Reading leaves the buffer itself alone, and the next byte to be written stays where it is. So
whoever knows where a body ends can go on there, however much of the body has been read
(`Ring.reposition_indexAfter`).
-/

namespace ParcelLink.Ring

/-! ### Places around the end -/

/-- Up to one full turn, a place is found by a comparison and a subtraction. -/
theorem indexAfter_eq {r : Ring} {offset : Nat} (hr : r.readIndex < r.capacity)
    (ho : offset ≤ r.capacity) :
    r.indexAfter offset
      = if r.readIndex + offset < r.capacity then r.readIndex + offset
        else r.readIndex + offset - r.capacity := by
  unfold indexAfter
  split
  · exact Nat.mod_eq_of_lt ‹_›
  · rw [Nat.mod_eq_sub_mod (by omega), Nat.mod_eq_of_lt (by omega)]

theorem indexAfter_lt {r : Ring} (h : r.Valid) (offset : Nat) : r.indexAfter offset < r.capacity :=
  Nat.mod_lt _ (Nat.lt_of_lt_of_le (by omega) h.four_le)

/-- Two offsets within one turn have different places. -/
theorem indexAfter_ne {r : Ring} {i j : Nat} (hr : r.readIndex < r.capacity) (hij : i < j)
    (hj : j < r.capacity) : r.indexAfter i ≠ r.indexAfter j := by
  rw [indexAfter_eq hr (by omega), indexAfter_eq hr (by omega)]
  split <;> split <;> omega

/-- Offsets from a place further on are offsets from the old place. -/
theorem slot_advanced (r : Ring) (count unread offset : Nat) :
    slot { r with readIndex := r.indexAfter count, unread := unread } offset
      = r.slot (count + offset) := by
  simp only [slot, indexAfter, capacity, Nat.mod_add_mod, Nat.add_assoc]

/-! ### Contents -/

@[simp] theorem length_contents (r : Ring) : r.contents.length = r.unread := by
  simp [contents]

theorem getElem_contents (r : Ring) (i : Nat) (hi : i < r.contents.length) :
    r.contents[i] = r.slot i := by
  simp [contents]

/-- The next bytes are a first part of the contents. -/
theorem peek_eq_take (r : Ring) (count : Nat) : r.peek count = r.contents.take count := by
  rw [peek, contents, ← List.map_take, List.take_range]

/-! ### Fresh rings -/

theorem valid_ofCapacity (wanted : Nat) : (ofCapacity wanted).Valid where
  capacity_eq := by
    obtain ⟨k, hk⟩ := Capacity.roundUp_eq_two_pow (max wanted 4)
    exact ⟨k, by simpa [capacity, ofCapacity, Capacity.initial] using hk⟩
  four_le := by simpa [capacity, ofCapacity] using Capacity.four_le_initial wanted
  readIndex_lt := by
    have := Capacity.four_le_initial wanted
    simp only [capacity, ofCapacity, Array.size_replicate]
    omega
  unread_le := Nat.zero_le _
  writeIndex_eq := by simp [indexAfter, ofCapacity]

@[simp] theorem contents_ofCapacity (wanted : Nat) : (ofCapacity wanted).contents = [] := rfl

theorem valid_clear {r : Ring} (h : r.Valid) : r.clear.Valid where
  capacity_eq := h.capacity_eq
  four_le := h.four_le
  readIndex_lt := Nat.lt_of_lt_of_le (Nat.zero_lt_succ 3) h.four_le
  unread_le := Nat.zero_le _
  writeIndex_eq := by simp [indexAfter, clear]

@[simp] theorem contents_clear (r : Ring) : r.clear.contents = [] := rfl

/-! ### Reading -/

/-- A ring whose first unread bytes are given up is valid. -/
theorem valid_advance {r : Ring} (h : r.Valid) {count : Nat} (hc : count ≤ r.unread) :
    Valid { r with readIndex := r.indexAfter count, unread := r.unread - count } := by
  refine ⟨h.capacity_eq, h.four_le, indexAfter_lt h count, ?_, ?_⟩
  · exact Nat.le_trans (Nat.sub_le _ _) h.unread_le
  -- the bytes that are left end where all of them ended
  · rw [h.writeIndex_eq, indexAfter, indexAfter, indexAfter]
    simp only [capacity, Nat.mod_add_mod]
    congr 1
    omega

/-- **The next byte is the first of the contents**, and the ring behind it holds the others. The
buffer stays as it is. -/
theorem next?_of_contents {r : Ring} (h : r.Valid) {b : UInt8} {rest : Octets}
    (hc : r.contents = b :: rest) :
    ∃ r', r.next? = some (b, r') ∧ r'.Valid ∧ r'.contents = rest ∧ r'.bytes = r.bytes
      ∧ r'.writeIndex = r.writeIndex := by
  have hu : r.unread = rest.length + 1 := by rw [← length_contents, hc, List.length_cons]
  have hb : r.slot 0 = b := by
    rw [← getElem_contents r 0 (by simp [hu])]
    simp [hc]
  refine ⟨{ r with readIndex := r.indexAfter 1, unread := r.unread - 1 }, ?_, ?_, ?_, rfl, rfl⟩
  · rw [next?, if_neg (by omega), hb]
  · exact valid_advance h (by omega)
  · refine List.ext_getElem (by simp [hu]) fun i hi hi' ↦ ?_
    have hlt : i + 1 < r.contents.length := by simpa [hc] using hi'
    have htail : rest[i] = r.contents[i + 1] := by simp [hc]
    rw [getElem_contents, slot_advanced, htail, getElem_contents, Nat.add_comm]

/-- Going on behind the next `count` bytes of a ring is the same from every ring that has the same
buffer: nothing of what has been read in between matters. -/
theorem reposition_indexAfter {r r' : Ring} (hb : r'.bytes = r.bytes)
    (hw : r'.writeIndex = r.writeIndex) (count : Nat) :
    r'.reposition (r.indexAfter count) (r.unread - count) = r.skip count := by
  obtain ⟨bytes, writeIndex, readIndex, unread⟩ := r'
  simp only at hb hw
  subst hb hw
  rfl

theorem skip_eq {r : Ring} (h : r.Valid) (count : Nat) :
    r.skip count = { r with readIndex := r.indexAfter count, unread := r.unread - count } := by
  rw [skip, reposition, Nat.mod_eq_of_lt (indexAfter_lt h count)]

theorem valid_skip {r : Ring} (h : r.Valid) {count : Nat} (hc : count ≤ r.unread) :
    (r.skip count).Valid := by
  rw [skip_eq h]
  exact valid_advance h hc

theorem contents_skip {r : Ring} (h : r.Valid) (count : Nat) :
    (r.skip count).contents = r.contents.drop count := by
  rw [skip_eq h]
  refine List.ext_getElem (by simp) fun i hi hi' ↦ ?_
  rw [getElem_contents, slot_advanced, List.getElem_drop, getElem_contents]

/-! ### Writing -/

theorem valid_put {r : Ring} (h : r.Valid) (hroom : r.unread < r.capacity) (b : UInt8) :
    (r.put b).Valid := by
  have hcap : (r.put b).capacity = r.capacity := by simp [put, capacity]
  refine ⟨by rw [hcap]; exact h.capacity_eq, by rw [hcap]; exact h.four_le, ?_, ?_, ?_⟩
  · rw [hcap]
    exact h.readIndex_lt
  · rw [hcap]
    exact hroom
  · rw [indexAfter, hcap]
    show (r.writeIndex + 1) % r.capacity = (r.readIndex + (r.unread + 1)) % r.capacity
    rw [h.writeIndex_eq, indexAfter, Nat.mod_add_mod, Nat.add_assoc]

/-- One more byte is written behind the unread ones and over none of them. -/
theorem contents_put {r : Ring} (h : r.Valid) (hroom : r.unread < r.capacity) (b : UInt8) :
    (r.put b).contents = r.contents ++ [b] := by
  have hplace : ∀ offset, (r.put b).indexAfter offset = r.indexAfter offset := by
    intro offset
    simp [indexAfter, put, capacity]
  -- the byte goes to a place that none of the unread ones has
  have hold : ∀ i, i < r.unread → (r.put b).slot i = r.slot i := by
    intro i hi
    have hne : r.writeIndex ≠ r.indexAfter i := by
      rw [h.writeIndex_eq]
      exact (indexAfter_ne h.readIndex_lt hi hroom).symm
    rw [slot, slot, hplace]
    simp [put, Array.getD_eq_getD_getElem?, hne]
  have hnew : (r.put b).slot r.unread = b := by
    have hlt : r.indexAfter r.unread < r.bytes.size := indexAfter_lt h r.unread
    rw [slot, hplace]
    simp [put, h.writeIndex_eq, Array.getD_eq_getD_getElem?, hlt]
  show (List.range (r.unread + 1)).map (r.put b).slot = _
  rw [List.range_succ, List.map_append, List.map_singleton, hnew]
  congr 1
  exact List.map_congr_left fun i hi ↦ hold i (List.mem_range.1 hi)

/-- A chunk for which there is room is written behind the unread bytes. -/
theorem foldl_put {r : Ring} (h : r.Valid) {chunk : Octets}
    (hroom : r.unread + chunk.length ≤ r.capacity) :
    (chunk.foldl put r).Valid ∧ (chunk.foldl put r).contents = r.contents ++ chunk := by
  induction chunk generalizing r with
  | nil => exact ⟨h, by simp⟩
  | cons b rest ih =>
    rw [List.length_cons] at hroom
    have hlt : r.unread < r.capacity := by omega
    have hcap : (r.put b).capacity = r.capacity := by simp [put, capacity]
    have hun : (r.put b).unread = r.unread + 1 := rfl
    obtain ⟨hv, hc⟩ := ih (valid_put h hlt b) (by rw [hcap, hun]; omega)
    refine ⟨hv, ?_⟩
    rw [List.foldl_cons, hc, contents_put h hlt, List.append_assoc, List.singleton_append]

/-- A buffer that grows has just the capacity that is needed, rounded up. -/
theorem capacity_grow {r : Ring} {needed : Nat} (hn : r.unread ≤ needed) :
    (r.grow needed).value.capacity = Capacity.roundUp needed := by
  have hle := Capacity.le_roundUp needed
  simp only [grow, capacity, List.size_toArray, List.length_append, length_contents,
    List.length_replicate]
  omega

/-- A larger buffer holds the same bytes, from its front on. -/
theorem valid_grow {r : Ring} (h : r.Valid) {needed : Nat} (hn : r.capacity < needed) :
    (r.grow needed).value.Valid ∧ (r.grow needed).value.contents = r.contents
      ∧ needed ≤ (r.grow needed).value.capacity := by
  have hle := Capacity.le_roundUp needed
  have hfour := h.four_le
  have hunread := h.unread_le
  have hcap := capacity_grow (show r.unread ≤ needed by omega)
  obtain ⟨k, hk⟩ := Capacity.roundUp_eq_two_pow needed
  refine ⟨⟨⟨k, hcap.trans hk⟩, by omega, ?_, ?_, ?_⟩, ?_, by omega⟩
  · rw [hcap]
    show 0 < _
    omega
  · rw [hcap]
    show r.unread ≤ _
    omega
  · rw [indexAfter, hcap]
    show r.unread = (0 + r.unread) % _
    rw [Nat.zero_add, Nat.mod_eq_of_lt (by omega)]
  · refine List.ext_getElem (by simp [grow]) fun i hi hi' ↦ ?_
    have hi'' : i < r.unread := by simpa using hi'
    have hplace : (r.grow needed).value.indexAfter i = i := by
      rw [indexAfter, hcap]
      show (0 + i) % _ = i
      rw [Nat.zero_add, Nat.mod_eq_of_lt (by omega)]
    rw [getElem_contents, slot, hplace]
    simp [grow, Array.getD_eq_getD_getElem?, List.getElem?_append, hi'']

/-- Room is made without touching the contents. -/
theorem valid_reserve {r : Ring} (h : r.Valid) (count : Nat) :
    (r.reserve count).value.Valid ∧ (r.reserve count).value.contents = r.contents
      ∧ r.unread + count ≤ (r.reserve count).value.capacity := by
  unfold reserve
  split
  · exact valid_grow h ‹_›
  · exact ⟨h, rfl, Nat.le_of_not_lt ‹_›⟩

theorem valid_write {r : Ring} (h : r.Valid) (chunk : Octets) : (r.write chunk).value.Valid := by
  obtain ⟨hv, hc, hroom⟩ := valid_reserve h chunk.length
  rw [← length_contents, ← hc, length_contents] at hroom
  exact (foldl_put hv hroom).1

/-- **Writing appends a chunk to the contents**, whether or not the ring has to grow for it. -/
theorem contents_write {r : Ring} (h : r.Valid) (chunk : Octets) :
    (r.write chunk).value.contents = r.contents ++ chunk := by
  obtain ⟨hv, hc, hroom⟩ := valid_reserve h chunk.length
  rw [← length_contents, ← hc, length_contents] at hroom
  rw [← hc]
  exact (foldl_put hv hroom).2

end ParcelLink.Ring
