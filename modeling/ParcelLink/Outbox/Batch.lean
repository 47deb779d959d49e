import ParcelLink.Octets

/-!
# Batches of parcels on their way out

Parcels are written several at a time, and a socket may take fewer bytes than it is offered, so that
a write can end inside a parcel. What is left of a batch after a write is the parcels behind that
place, the first of them cut.

## Main definitions

* `Batch`: parcels, the first of which may have been written in part.
* `Batch.size`, `Batch.front`: how many bytes it offers, and the first of them.
* `Batch.consume`: what is left of a batch when some bytes have been written.

`Batch.flatten_consume` says that nothing but the written bytes leaves the batch, and
`Batch.ne_nil_of_head?_consume` that what is left never has an empty parcel in front, so that a
batch with something left to write offers something to write.
-/

namespace ParcelLink

/-- Parcels that are written together, the first of which may have been written in part. -/
abbrev Batch := List Octets

namespace Batch

/-- How many bytes a batch offers. -/
def size : Batch → Nat
  | [] => 0
  | parcel :: rest => parcel.length + size rest

/-- The first `count` bytes of a batch. -/
def front : Batch → Nat → Octets
  | [], _ => []
  | parcel :: rest, count =>
    if count ≤ parcel.length then parcel.take count
    else parcel ++ front rest (count - parcel.length)

@[simp] theorem size_nil : Batch.size [] = 0 := rfl

theorem size_eq_length_flatten (batch : Batch) : batch.size = batch.flatten.length := by
  induction batch with
  | nil => rfl
  | cons parcel rest ih => rw [size, ih, List.flatten_cons, List.length_append]

theorem front_eq_take_flatten (batch : Batch) (count : Nat) :
    batch.front count = batch.flatten.take count := by
  fun_induction front batch count with
  | case1 => simp
  | case2 parcel rest count h =>
    simp [List.take_append, Nat.sub_eq_zero_of_le h]
  | case3 parcel rest count h ih =>
    have : parcel.take count = parcel := List.take_of_length_le (by omega)
    simp [List.take_append, ih, this]

/-! ### What a write leaves -/

/-- A batch without the empty parcels in front. -/
def trim (batch : Batch) : Batch := batch.dropWhile List.isEmpty

/-- What is left of a batch when some bytes of it have been written. Empty parcels behind a parcel
that has been written to its end need no write of their own. -/
def consume : Batch → Nat → Batch
  | batch, 0 => batch.trim
  | [], _ + 1 => []
  | parcel :: rest, written + 1 =>
    if written + 1 < parcel.length then parcel.drop (written + 1) :: rest
    else consume rest (written + 1 - parcel.length)

theorem flatten_trim (batch : Batch) : batch.trim.flatten = batch.flatten := by
  induction batch with
  | nil => rfl
  | cons parcel rest ih =>
    cases parcel with
    | nil => simpa [trim] using ih
    | cons b bs => simp [trim]

/-- **Just the written bytes leave a batch**, and they leave it in front. -/
theorem flatten_consume (batch : Batch) (written : Nat) :
    (batch.consume written).flatten = batch.flatten.drop written := by
  fun_induction consume batch written with
  | case1 batch => simpa using flatten_trim batch
  | case2 => simp
  | case3 parcel rest written h =>
    simp [List.drop_append, Nat.sub_eq_zero_of_le (Nat.le_of_lt h)]
  | case4 parcel rest written h ih =>
    have : parcel.drop (written + 1) = [] := List.drop_eq_nil_of_le (by omega)
    simp [List.drop_append, ih, this]

/-- What is left offers the bytes that have not been written. -/
theorem size_consume (batch : Batch) (written : Nat) :
    (batch.consume written).size = batch.size - written := by
  simp [size_eq_length_flatten, flatten_consume]

theorem ne_nil_of_head?_trim {batch : Batch} {parcel : Octets}
    (h : batch.trim.head? = some parcel) : parcel ≠ [] := by
  induction batch with
  | nil => simp [trim] at h
  | cons first rest ih =>
    cases first with
    | nil => exact ih (by simpa [trim] using h)
    | cons b bs => simp only [trim, List.dropWhile_cons, List.isEmpty_cons] at h; grind

/-- **What is left has no empty parcel in front.** -/
theorem ne_nil_of_head?_consume {batch : Batch} {written : Nat} {parcel : Octets}
    (h : (batch.consume written).head? = some parcel) : parcel ≠ [] := by
  fun_induction consume batch written with
  | case1 batch => exact ne_nil_of_head?_trim h
  | case2 => simp at h
  | case3 first rest written hlt =>
    simp only [List.head?_cons, Option.some.injEq] at h
    intro hnil
    rw [hnil] at h
    have := List.drop_eq_nil_iff.mp h
    omega
  | case4 first rest written _ ih => exact ih h

end Batch

end ParcelLink
