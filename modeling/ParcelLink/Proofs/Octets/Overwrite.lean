import ParcelLink.Octets

/-!
# Blocks written over a buffer

A block that is written over a buffer byte by byte takes the place of the bytes that were there and
leaves those in front of it and behind it alone (`Octets.toList_overwrite`). The place need not be
looked up again: a block can be written in two parts (`Octets.overwrite_append`).

## Main definitions

* `Octets.overwrite`: a buffer with a block written over its bytes from a place on.
-/

namespace ParcelLink.Octets

/-- A buffer with a block written over its bytes from a place on. -/
def overwrite (buffer : Array UInt8) (start : Nat) (block : Octets) : Array UInt8 :=
  (block.zipIdx start).foldl (fun buffer (b, i) ↦ buffer.setIfInBounds i b) buffer

@[simp] theorem overwrite_nil (buffer : Array UInt8) (start : Nat) :
    overwrite buffer start [] = buffer := rfl

theorem overwrite_cons (buffer : Array UInt8) (start : Nat) (b : UInt8) (rest : Octets) :
    overwrite buffer start (b :: rest)
      = overwrite (buffer.setIfInBounds start b) (start + 1) rest := rfl

/-- A block can be written in two parts. -/
theorem overwrite_append (buffer : Array UInt8) (start : Nat) (first second : Octets) :
    overwrite buffer start (first ++ second)
      = overwrite (overwrite buffer start first) (start + first.length) second := by
  rw [overwrite, overwrite, overwrite, List.zipIdx_append, List.foldl_append, Nat.add_comm]

@[simp] theorem size_overwrite (buffer : Array UInt8) (start : Nat) (block : Octets) :
    (overwrite buffer start block).size = buffer.size := by
  induction block generalizing buffer start with
  | nil => rfl
  | cons b rest ih => rw [overwrite_cons, ih, Array.size_setIfInBounds]

/-- **A block takes the place of the bytes that were there** and leaves the others alone. -/
theorem toList_overwrite {buffer : Array UInt8} {start : Nat} {block : Octets}
    (h : start + block.length ≤ buffer.size) :
    (overwrite buffer start block).toList
      = buffer.toList.take start ++ block ++ buffer.toList.drop (start + block.length) := by
  induction block generalizing buffer start with
  | nil => simp
  | cons b rest ih =>
    rw [List.length_cons] at h
    have hlist : start < (buffer.toList.set start b).length := by
      rw [List.length_set, Array.length_toList]
      omega
    have hroom : start + 1 + rest.length ≤ (buffer.setIfInBounds start b).size := by
      rw [Array.size_setIfInBounds]
      omega
    rw [overwrite_cons, ih hroom, Array.toList_setIfInBounds,
      List.take_succ_eq_append_getElem hlist, List.take_set_of_le (Nat.le_refl start),
      List.getElem_set_self, List.drop_set_of_lt (by omega), List.length_cons,
      Nat.add_assoc, Nat.add_comm 1]
    simp

end ParcelLink.Octets
