import ParcelLink.Framer

/-!
# What a stream of bytes holds

A stream by itself, without a ring and without chunks, falls into parcels in one way: four bytes of
size, most significant first, so many bytes of body, and so on. `Framer.split` says what that way is,
for a stream that begins at a boundary or inside a parcel whose size is known. It is what the framer
is measured by, which has to find the same bodies whatever the chunks are.

## Main definitions

* `Framer.Split`: the bodies in a stream, and what is left behind them.
* `Framer.split`: the split of a stream.

`Framer.split_append` says that a stream can be split piece by piece: what is left of the first
piece is put in front of the second.
-/

namespace ParcelLink.Framer

/-- A stream in parcels. -/
structure Split where
  /-- The bodies of the complete parcels. -/
  bodies : List Octets
  /-- What comes next in the stream. -/
  phase : Phase
  /-- The bytes behind the last complete parcel, or behind the size that comes after it. -/
  rest : Octets
  /-- A size that is not believed, with which the rest was lost. -/
  refused? : Option Nat := none
  deriving DecidableEq, Repr

namespace Split

/-- The split with one more body in front. -/
def cons (body : Octets) (s : Split) : Split := { s with bodies := body :: s.bodies }

end Split

/-- A stream in parcels, given the largest size that is believed and what comes first. -/
def split (limit : Nat) : Phase → Octets → Split
  | .awaitingSize, bytes =>
    if bytes.length < sizeWidth then ⟨[], .awaitingSize, bytes, none⟩
    else
      let size := Octets.ofBig (bytes.take sizeWidth)
      if limit < size then ⟨[], .awaitingSize, [], some size⟩
      else split limit (.awaitingBody size) (bytes.drop sizeWidth)
  | .awaitingBody size, bytes =>
    if bytes.length < size then ⟨[], .awaitingBody size, bytes, none⟩
    else (split limit .awaitingSize (bytes.drop size)).cons (bytes.take size)
termination_by phase bytes => 2 * bytes.length + (match phase with
  | .awaitingSize => 0
  | .awaitingBody _ => 1)
decreasing_by
  · rename_i h _
    simp only [List.length_drop, sizeWidth] at h ⊢
    omega
  · simp only [List.length_drop]
    omega

/-- A stream that begins at a boundary. -/
theorem split_awaitingSize (limit : Nat) (bytes : Octets) :
    split limit .awaitingSize bytes =
      if bytes.length < sizeWidth then ⟨[], .awaitingSize, bytes, none⟩
      else if limit < Octets.ofBig (bytes.take sizeWidth) then
        ⟨[], .awaitingSize, [], some (Octets.ofBig (bytes.take sizeWidth))⟩
      else split limit (.awaitingBody (Octets.ofBig (bytes.take sizeWidth)))
        (bytes.drop sizeWidth) := by
  rw [split]

/-- A stream that begins behind the size of a parcel. -/
theorem split_awaitingBody (limit size : Nat) (bytes : Octets) :
    split limit (.awaitingBody size) bytes =
      if bytes.length < size then ⟨[], .awaitingBody size, bytes, none⟩
      else (split limit .awaitingSize (bytes.drop size)).cons (bytes.take size) := by
  conv => lhs; rw [split]

/-- **A stream can be split piece by piece**, as long as every size in the first piece is believed. -/
theorem split_append (limit : Nat) (phase : Phase) (first second : Octets)
    (h : (split limit phase first).refused? = none) :
    split limit phase (first ++ second)
      = let s := split limit phase first
        let t := split limit s.phase (s.rest ++ second)
        { t with bodies := s.bodies ++ t.bodies } := by
  fun_induction split limit phase first with
  | case1 bytes hlt => simp
  | case2 bytes hlt size hlim => simp at h
  | case3 bytes hlt size hlim ih =>
    have hlen : sizeWidth ≤ bytes.length := by omega
    have hnot : ¬ (bytes ++ second).length < sizeWidth := by
      simp only [List.length_append]; omega
    rw [← ih h, split_awaitingSize limit (bytes ++ second), if_neg hnot,
      List.take_append_of_le_length hlen, List.drop_append_of_le_length hlen, if_neg hlim]
  | case4 size bytes hlt => simp
  | case5 size bytes hlt ih =>
    have hlen : size ≤ bytes.length := by omega
    have hnot : ¬ (bytes ++ second).length < size := by
      simp only [List.length_append]; omega
    rw [split_awaitingBody limit size (bytes ++ second), if_neg hnot,
      List.take_append_of_le_length hlen, List.drop_append_of_le_length hlen, ih h]
    simp [Split.cons]

end ParcelLink.Framer
