import Mathlib.Data.List.Induction
import ParcelLink.Proofs.Draft.Body
import ParcelLink.Value

/-!
# Drafts under any operations

A buffer that is used again for every parcel shows what a fresh sheet would show. Whatever is
written into a draft, stamped, thrown away or handed out, and in whatever order, what stands in it
is the size that was stamped last and the values written since it last started over
(`Draft.sheet_performAll`). Nothing of an earlier parcel, nor of the buffer before it grew, is in
what it shows or hands out.

The buffer grows only while bytes are written, and then by bytes behind its end, so that its
capacity never becomes less (`Draft.capacity_le_perform`).

## Main definitions

* `Draft.Operation`, `Draft.performAll`: what is done to a draft.
* `Draft.Sheet`, `Draft.Operation.leaves`: a size and the values behind it, and what an operation
  leaves of them.
-/

namespace ParcelLink.Draft

/-! ### Operations -/

/-- Something that is done to a draft. -/
inductive Operation where
  /-- A value is written. -/
  | write (value : Value)
  /-- A size is written in front. -/
  | stampSize (size : UInt32)
  /-- The draft starts over. -/
  | reset
  /-- The parcel is handed out, and the draft starts over. -/
  | finish

/-- The draft after an operation. -/
def perform (d : Draft) : Operation → Draft
  | .write value => (d.write value.encode).value
  | .stampSize size => d.stampSize size
  | .reset => d.reset
  | .finish => d.finish.2

/-- The draft after some operations. -/
def performAll (d : Draft) (operations : List Operation) : Draft := operations.foldl perform d

/-! ### Sheets -/

/-- A size and the values written behind it. -/
structure Sheet where
  /-- The size that was stamped last, or zero. -/
  size : UInt32 := 0
  /-- The values written since the sheet was last empty, first to last. -/
  values : List Value := []

/-- The bytes of the values, as they would be written behind nothing. -/
def Sheet.body (s : Sheet) : Octets := s.values.flatMap Value.encode

/-- The size and the bytes of the values. -/
def Sheet.bytes (s : Sheet) : Octets := Octets.big sizeWidth s.size.toNat ++ s.body

/-- What an operation leaves of a sheet. A parcel that is handed out has had its own size stamped,
as far as it fits. -/
def Operation.leaves (s : Sheet) : Operation → Sheet
  | write value => { s with values := s.values ++ [value] }
  | stampSize size => { s with size := size }
  | reset => { s with values := [] }
  | finish => { size := UInt32.ofNat s.body.length }

/-! ### What a draft shows -/

/-- A draft shows a sheet. -/
structure Shows (d : Draft) (s : Sheet) : Prop where
  valid : d.Valid
  written_eq : d.written = s.bytes

theorem Shows.body_eq {d : Draft} {s : Sheet} (h : d.Shows s) : d.body = s.body := by
  rw [body, h.written_eq, Sheet.bytes, List.drop_left' (Octets.length_big _ _)]

/-- A draft that starts over keeps the size. -/
theorem written_reset {d : Draft} (h : d.Valid) : d.reset.written = d.written.take sizeWidth := by
  rw [written_eq_take, written_eq_take, List.take_take, Nat.min_eq_left h.sizeWidth_le]
  rfl

theorem Shows.reset {d : Draft} {s : Sheet} (h : d.Shows s) :
    d.reset.Shows { s with values := [] } where
  valid := valid_reset h.valid
  written_eq := by
    rw [written_reset h.valid, h.written_eq, Sheet.bytes,
      List.take_left' (Octets.length_big _ _)]
    exact (List.append_nil _).symm

theorem Shows.stampSize {d : Draft} {s : Sheet} (h : d.Shows s) (size : UInt32) :
    (d.stampSize size).Shows { s with size := size } where
  valid := (valid_stampSize h.valid size).1
  written_eq := by rw [(valid_stampSize h.valid size).2, h.body_eq]; rfl

/-- A fresh draft has a size of zero and no values. -/
theorem shows_ofCapacity (wanted : Nat) : (ofCapacity wanted).Shows {} where
  valid := valid_ofCapacity wanted
  written_eq := by
    have hfour : min sizeWidth (Capacity.initial wanted) = sizeWidth :=
      Nat.min_eq_left (Capacity.four_le_initial wanted)
    rw [written_eq_take, ofCapacity, Array.toList_replicate, List.take_replicate, hfour]
    rfl

/-- **An operation does to a draft what it does to a sheet.** -/
theorem Shows.perform {d : Draft} {s : Sheet} (h : d.Shows s) (operation : Operation) :
    (d.perform operation).Shows (operation.leaves s) := by
  cases operation with
  | write value =>
    obtain ⟨hvalid, hwritten⟩ := valid_write h.valid value.encode
    refine ⟨hvalid, ?_⟩
    rw [Draft.perform, hwritten, h.written_eq, Sheet.bytes, Sheet.bytes, Sheet.body, Sheet.body,
      Operation.leaves, List.flatMap_append, List.flatMap_singleton, List.append_assoc]
  | stampSize size => exact h.stampSize size
  | reset => exact h.reset
  | finish =>
    have hlength : d.bodyLength = s.body.length := by rw [← length_body h.valid, h.body_eq]
    rw [Operation.leaves, ← hlength]
    exact (h.stampSize (UInt32.ofNat d.bodyLength)).reset

/-! ### Capacity -/

theorem capacity_le_reserve (d : Draft) : d.capacity ≤ d.reserve.value.capacity := by
  unfold reserve
  split
  · simp only [grow, capacity, Array.size_append]
    exact Nat.le_add_right _ _
  · exact Nat.le_refl _

theorem capacity_le_write (d : Draft) (bytes : Octets) :
    d.capacity ≤ (d.write bytes).value.capacity := by
  rw [write, Logged.value_foldl]
  induction bytes generalizing d with
  | nil => exact Nat.le_refl _
  | cons b rest ih =>
    have hput : (d.put b).value.capacity = d.reserve.value.capacity := by
      rw [value_put, capacity, Array.size_setIfInBounds, capacity]
    exact Nat.le_trans (Nat.le_trans (capacity_le_reserve d) (Nat.le_of_eq hput.symm)) (ih _)

@[simp] theorem capacity_stampSize (d : Draft) (size : UInt32) :
    (d.stampSize size).capacity = d.capacity := by
  rw [stampSize_eq, capacity, Octets.size_overwrite, capacity]

@[simp] theorem capacity_reset (d : Draft) : d.reset.capacity = d.capacity := rfl

/-- No operation makes the buffer smaller. -/
theorem capacity_le_perform (d : Draft) (operation : Operation) :
    d.capacity ≤ (d.perform operation).capacity := by
  cases operation with
  | write value => exact capacity_le_write d value.encode
  | stampSize size => exact Nat.le_of_eq (capacity_stampSize d size).symm
  | reset => exact Nat.le_refl _
  | finish =>
    have hfinish : (d.perform .finish).capacity = d.capacity := by
      rw [perform, finish, capacity_reset, capacity_stampSize]
    exact Nat.le_of_eq hfinish.symm

theorem capacity_le_performAll (d : Draft) (operations : List Operation) :
    d.capacity ≤ (d.performAll operations).capacity := by
  induction operations generalizing d with
  | nil => exact Nat.le_refl _
  | cons operation rest ih => exact Nat.le_trans (capacity_le_perform d operation) (ih _)

/-! ### Any operations -/

theorem shows_performAll (wanted : Nat) (operations : List Operation) :
    ((ofCapacity wanted).performAll operations).Shows (operations.foldl Operation.leaves {}) := by
  induction operations using List.reverseRecOn with
  | nil => exact shows_ofCapacity wanted
  | append_singleton operations operation ih =>
    rw [performAll, List.foldl_append, List.foldl_append]
    exact ih.perform operation

/-- **A draft shows what a sheet would**, whatever is done to it. Its capacity is a power of two and
never becomes less, and what has been written lies in it, with room for a size. What it shows is the
size that was stamped last and the bytes of the values written since it last started over. The
parcel that it hands out is the length of these bytes, as far as four bytes can tell it, and the
bytes. -/
theorem sheet_performAll (wanted : Nat) (operations : List Operation) :
    let d := (ofCapacity wanted).performAll operations
    let s := operations.foldl Operation.leaves {}
    let body := s.values.flatMap Value.encode
    (∃ k, d.capacity = Nat.pow 2 k) ∧ wanted ≤ d.capacity
      ∧ (∀ more, d.capacity ≤ (d.performAll more).capacity)
      ∧ 4 ≤ d.length ∧ d.length ≤ d.capacity
      ∧ d.written = Octets.big 4 s.size.toNat ++ body
      ∧ d.finish.1 = Octets.big 4 body.length ++ body
      ∧ Octets.ofBig (d.finish.1.take 4) = body.length % Nat.pow 2 32 := by
  intro d s body
  have hshows : d.Shows s := shows_performAll wanted operations
  have hfinish : d.finish.1 = Octets.big 4 body.length ++ body := by
    rw [(finish_eq hshows.valid).1, hshows.body_eq]
    rfl
  have hwanted : wanted ≤ (ofCapacity wanted).capacity := by
    rw [capacity, ofCapacity, Array.size_replicate]
    exact Nat.le_trans (Nat.le_max_left wanted 4) (Capacity.le_roundUp _)
  refine ⟨hshows.valid.capacity_eq, Nat.le_trans hwanted (capacity_le_performAll _ operations),
    capacity_le_performAll d, hshows.valid.sizeWidth_le, hshows.valid.length_le,
    hshows.written_eq, hfinish, ?_⟩
  rw [hfinish, List.take_left' (Octets.length_big _ _), Octets.ofBig_big]

end ParcelLink.Draft
