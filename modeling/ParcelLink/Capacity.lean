/-!
# Buffer capacities

The buffers of the link hold a power of two bytes and never fewer than the four bytes of a size.
`Capacity.roundUp` is the smallest power of two that holds a given count of bytes: it holds them
(`le_roundUp`) and no smaller power of two does (`roundUp_le_of_le_two_pow`). The largest buffer that
can be addressed has `Capacity.largest` bytes, so that not every count of bytes can be asked for
(`admits_iff`).
-/

namespace ParcelLink.Capacity

/-- The smallest power of two that is at least `count`. -/
def roundUp (count : Nat) : Nat :=
  if count ≤ 1 then 1 else Nat.pow 2 ((count - 1).log2 + 1)

/-- The capacity of a fresh buffer asked to hold `wanted` bytes: room for a size, rounded up. -/
def initial (wanted : Nat) : Nat := roundUp (max wanted 4)

/-- The largest power of two that is the size of something in memory: sizes are words of 64 bits with
a sign. -/
def largest : Nat := Nat.pow 2 62

/-- Whether a fresh buffer can be asked to hold `wanted` bytes. -/
def admits (wanted : Nat) : Bool := initial wanted ≤ largest

theorem le_roundUp (count : Nat) : count ≤ roundUp count := by
  unfold roundUp
  split
  · omega
  · have : count - 1 < Nat.pow 2 ((count - 1).log2 + 1) := Nat.lt_log2_self
    omega

theorem roundUp_eq_two_pow (count : Nat) : ∃ k, roundUp count = Nat.pow 2 k := by
  unfold roundUp
  split
  · exact ⟨0, rfl⟩
  · exact ⟨_, rfl⟩

/-- A power of two that holds `count` bytes is at least as large as the rounded capacity. -/
theorem roundUp_le_of_le_two_pow {count k : Nat} (h : count ≤ Nat.pow 2 k) :
    roundUp count ≤ Nat.pow 2 k := by
  unfold roundUp
  split
  · exact Nat.one_le_two_pow
  · have hlt : count - 1 < Nat.pow 2 k := by omega
    have hlog : (count - 1).log2 < k := (Nat.log2_lt (by omega)).2 hlt
    exact Nat.pow_le_pow_right (by omega) hlog

theorem four_le_initial (wanted : Nat) : 4 ≤ initial wanted :=
  Nat.le_trans (Nat.le_max_right wanted 4) (le_roundUp _)

/-- What can be asked for is at most the largest capacity: rounding up does not go beyond it. -/
theorem admits_iff {wanted : Nat} : admits wanted ↔ wanted ≤ largest := by
  rw [admits, decide_eq_true_iff]
  refine ⟨fun h ↦ ?_, fun h ↦ roundUp_le_of_le_two_pow (Nat.max_le.2 ⟨h, by decide⟩)⟩
  exact Nat.le_trans (Nat.le_trans (Nat.le_max_left wanted 4) (le_roundUp _)) h

end ParcelLink.Capacity
