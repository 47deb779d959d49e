import ParcelLink.Draft
import ParcelLink.Proofs.Octets.Overwrite

/-!
# A draft is a size and a body

What has been written into a draft is the four bytes kept for the size, then the body. Writing
appends to the body, whether or not the buffer has to grow for it and whatever earlier parcels left
in it (`Draft.valid_write`), so the parcel that is handed out is the length of the body and the
body, and the draft starts over without one (`Draft.finish_eq`).

## Main definitions

* `Draft.Valid`: how the buffer and the end of what has been written hang together.
* `Draft.body`: the body so far.
-/

namespace ParcelLink.Draft

/-- The buffer is a power of two, and what has been written lies in it and has room for a size. -/
structure Valid (d : Draft) : Prop where
  capacity_eq : ∃ k, d.capacity = Nat.pow 2 k
  sizeWidth_le : sizeWidth ≤ d.length
  length_le : d.length ≤ d.capacity

/-- The body, as far as written. -/
def body (d : Draft) : Octets := d.written.drop sizeWidth

theorem written_eq_take (d : Draft) : d.written = d.bytes.toList.take d.length := by
  simp [written, List.extract_eq_take_drop]

theorem length_written {d : Draft} (h : d.Valid) : d.written.length = d.length := by
  have hle : d.length ≤ d.bytes.size := h.length_le
  simp [written_eq_take, hle]

theorem length_body {d : Draft} (h : d.Valid) : d.body.length = d.bodyLength := by
  rw [body, List.length_drop, length_written h, bodyLength]

/-! ### Fresh drafts and drafts that start over -/

theorem valid_ofCapacity (wanted : Nat) : (ofCapacity wanted).Valid where
  capacity_eq := by
    obtain ⟨k, hk⟩ := Capacity.roundUp_eq_two_pow (max wanted 4)
    exact ⟨k, by simpa [capacity, ofCapacity, Capacity.initial] using hk⟩
  sizeWidth_le := Nat.le_refl _
  length_le := by
    show sizeWidth ≤ (Array.replicate _ _).size
    rw [Array.size_replicate]
    exact Capacity.four_le_initial wanted

theorem valid_reset {d : Draft} (h : d.Valid) : d.reset.Valid :=
  ⟨h.capacity_eq, Nat.le_refl _, Nat.le_trans h.sizeWidth_le h.length_le⟩

@[simp] theorem body_reset (d : Draft) : d.reset.body = [] := by
  rw [body, written_eq_take]
  simp [reset]

@[simp] theorem body_ofCapacity (wanted : Nat) : (ofCapacity wanted).body = [] :=
  body_reset (ofCapacity wanted)

/-! ### Writing -/

/-- Room is made without touching what has been written. -/
theorem valid_reserve {d : Draft} (h : d.Valid) :
    d.reserve.value.Valid ∧ d.reserve.value.written = d.written
      ∧ d.reserve.value.length = d.length ∧ d.length < d.reserve.value.capacity := by
  have hsize : d.length ≤ d.bytes.size := h.length_le
  unfold reserve
  split
  · next hfull =>
    have hlarger := Capacity.le_roundUp (d.length + 1)
    have hcapacity : (d.grow (d.length + 1)).value.capacity = Capacity.roundUp (d.length + 1) := by
      have hle := h.length_le
      simp only [grow, capacity, Array.size_append, Array.size_replicate] at hle hfull ⊢
      omega
    obtain ⟨k, hk⟩ := Capacity.roundUp_eq_two_pow (d.length + 1)
    refine ⟨⟨⟨k, hcapacity.trans hk⟩, h.sizeWidth_le, ?_⟩, ?_, rfl, by omega⟩
    · show d.length ≤ _
      omega
    · have hlist : d.length ≤ d.bytes.toList.length := by simpa using hsize
      rw [written_eq_take, written_eq_take]
      show (d.bytes ++ _).toList.take d.length = _
      rw [Array.toList_append, List.take_append_of_le_length hlist]
  · next hroom => exact ⟨h, rfl, rfl, Nat.lt_of_not_le hroom⟩

theorem value_put (d : Draft) (b : UInt8) :
    (d.put b).value
      = ⟨d.reserve.value.bytes.setIfInBounds d.reserve.value.length b,
          d.reserve.value.length + 1⟩ := rfl

/-- One more byte is written behind the others. -/
theorem valid_put {d : Draft} (h : d.Valid) (b : UInt8) :
    (d.put b).value.Valid ∧ (d.put b).value.written = d.written ++ [b] := by
  obtain ⟨hvalid, hwritten, hlength, hroom⟩ := valid_reserve h
  have hsize : d.length < d.reserve.value.bytes.size := hroom
  have hle := h.sizeWidth_le
  rw [value_put, hlength]
  refine ⟨⟨?_, ?_, ?_⟩, ?_⟩
  · simpa [capacity] using hvalid.capacity_eq
  · show sizeWidth ≤ d.length + 1
    omega
  · show d.length + 1 ≤ (Array.setIfInBounds _ _ _).size
    rw [Array.size_setIfInBounds]
    exact hsize
  · have hlist : d.length < (d.reserve.value.bytes.toList.set d.length b).length := by
      simpa using hsize
    rw [← hwritten, written_eq_take, written_eq_take, hlength, Array.toList_setIfInBounds,
      List.take_succ_eq_append_getElem hlist, List.take_set_of_le (Nat.le_refl d.length),
      List.getElem_set_self]

/-- **Writing appends**, whatever the buffer held behind the end. -/
theorem valid_write {d : Draft} (h : d.Valid) (bytes : Octets) :
    (d.write bytes).value.Valid ∧ (d.write bytes).value.written = d.written ++ bytes := by
  rw [write, Logged.value_foldl]
  induction bytes generalizing d with
  | nil => exact ⟨h, by simp⟩
  | cons b rest ih =>
    obtain ⟨hput, hwritten⟩ := valid_put h b
    obtain ⟨hvalid, hrest⟩ := ih hput
    refine ⟨hvalid, ?_⟩
    rw [List.foldl_cons, hrest, hwritten, List.append_assoc, List.singleton_append]

theorem body_write {d : Draft} (h : d.Valid) (bytes : Octets) :
    (d.write bytes).value.body = d.body ++ bytes := by
  have hle : sizeWidth ≤ d.written.length := by
    rw [length_written h]
    exact h.sizeWidth_le
  rw [body, (valid_write h bytes).2, List.drop_append_of_le_length hle, body]

/-! ### The finished parcel -/

/-- A size is written over the first bytes of the buffer. -/
theorem stampSize_eq (d : Draft) (size : UInt32) :
    d.stampSize size
      = ⟨Octets.overwrite d.bytes 0 (Octets.big sizeWidth size.toNat), d.length⟩ := by
  unfold stampSize
  generalize Octets.big sizeWidth size.toNat = stamp
  rfl

/-- A size is written in front and changes nothing else. -/
theorem valid_stampSize {d : Draft} (h : d.Valid) (size : UInt32) :
    (d.stampSize size).Valid
      ∧ (d.stampSize size).written = Octets.big sizeWidth size.toNat ++ d.body := by
  have hlength : sizeWidth ≤ d.length := h.sizeWidth_le
  have hcapacity : d.length ≤ d.bytes.size := h.length_le
  have hwidth : (Octets.big sizeWidth size.toNat).length = sizeWidth := Octets.length_big _ _
  rw [stampSize_eq]
  generalize Octets.big sizeWidth size.toNat = stamp at hwidth ⊢
  have hsize : (Octets.overwrite d.bytes 0 stamp).size = d.bytes.size :=
    Octets.size_overwrite d.bytes 0 stamp
  refine ⟨⟨?_, hlength, Nat.le_trans hcapacity (Nat.le_of_eq hsize.symm)⟩, ?_⟩
  · obtain ⟨k, hk⟩ := h.capacity_eq
    exact ⟨k, hsize.trans hk⟩
  · have hfits : 0 + stamp.length ≤ d.bytes.size := by omega
    have hfront : stamp.length ≤ d.length := by omega
    rw [written_eq_take, Octets.toList_overwrite hfits, List.take_zero, List.nil_append,
      Nat.zero_add, List.take_append, List.take_of_length_le hfront, body, written_eq_take,
      List.drop_take, hwidth]

/-- **A finished parcel is the length of its body and the body**, and the next one starts without
a body. -/
theorem finish_eq {d : Draft} (h : d.Valid) :
    d.finish.1 = Octets.big sizeWidth d.body.length ++ d.body ∧ d.finish.2.Valid
      ∧ d.finish.2.body = [] := by
  obtain ⟨hvalid, hwritten⟩ := valid_stampSize h (UInt32.ofNat d.bodyLength)
  refine ⟨?_, valid_reset hvalid, body_reset _⟩
  show (d.stampSize (UInt32.ofNat d.bodyLength)).written = _
  rw [hwritten, length_body h, UInt32.toNat_ofNat']
  exact congrArg (· ++ d.body) (Octets.big_mod sizeWidth d.bodyLength)

end ParcelLink.Draft
