import ParcelLink.Octets
import ParcelLink.Reading

/-!
# Sources that answer alike

A reading learns of its source only how many bytes are left, whether a field is refused as a whole,
and the bytes one by one. So two sources that agree on these three along some relation of their
states cannot be told apart by any reading (`Source.Agree.run`): not by one that stops early, not by
one that asks for more than there is, and not by one that goes on after a refusal.

## Main definitions

* `Source.Agree`: what two sources have to have in common.
* `Excerpt`: bytes by themselves, read as a parcel is read. It is the plainest source whose fields
  are refused as a whole, and `Excerpt.take_eq` says what it answers.
-/

namespace ParcelLink

namespace Source

variable {σ τ : Type} [Source σ] [Source τ]

/-- Along a relation of their states, two sources answer every request alike. -/
structure Agree (R : σ → τ → Prop) : Prop where
  /-- Both refuse fields as a whole, or both do not. -/
  whole_eq : whole σ = whole τ
  /-- The same number of bytes is left. -/
  left_eq : ∀ {s t}, R s t → left s = left t
  /-- Where the second ends, the first ends. -/
  next?_eq_none : ∀ {s t}, R s t → next? t = none → next? s = none
  /-- A byte of the second is a byte of the first. -/
  next?_eq_some : ∀ {s t b t'}, R s t → next? t = some (b, t') →
    ∃ s', next? s = some (b, s') ∧ R s' t'

namespace Agree

variable {R : σ → τ → Prop}

theorem takeBytes (hR : Agree R) (width : Nat) {s : σ} {t : τ} (h : R s t) :
    (Source.takeBytes width s).1 = (Source.takeBytes width t).1 ∧
      R (Source.takeBytes width s).2 (Source.takeBytes width t).2 := by
  induction width generalizing s t with
  | zero => exact ⟨rfl, h⟩
  | succ width ih =>
    rcases ht : next? t with - | ⟨b, t'⟩
    · simp only [Source.takeBytes, ht, hR.next?_eq_none h ht]
      exact ⟨trivial, h⟩
    -- what comes behind the first byte may still be refused, by both or by neither
    · obtain ⟨s', hs, h'⟩ := hR.next?_eq_some h ht
      obtain ⟨hanswer, hstate⟩ := ih h'
      simp only [Source.takeBytes, ht, hs]
      rcases hs' : Source.takeBytes width s' with ⟨fault | n, s''⟩ <;>
        rcases ht' : Source.takeBytes width t' with ⟨fault' | m, t''⟩ <;>
        simp_all

theorem take (hR : Agree R) (width : Nat) {s : σ} {t : τ} (h : R s t) :
    (Source.take width s).1 = (Source.take width t).1 ∧
      R (Source.take width s).2 (Source.take width t).2 := by
  unfold Source.take
  rw [hR.whole_eq, hR.left_eq h]
  split
  · exact ⟨rfl, h⟩
  · exact hR.takeBytes width h

/-- **No reading tells two sources apart that answer alike**, and it leaves them so. -/
theorem run {α : Type} (hR : Agree R) (x : Reading α) {s : σ} {t : τ} (h : R s t) :
    (x.run s).1 = (x.run t).1 ∧ R (x.run s).2 (x.run t).2 := by
  induction x generalizing s t with
  | done value => exact ⟨rfl, h⟩
  | left next ih =>
    simp only [Reading.run, hR.left_eq h]
    exact ih _ h
  | take width next ih =>
    obtain ⟨hanswer, hstate⟩ := hR.take width h
    simp only [Reading.run, hanswer]
    exact ih _ hstate

end Agree

end Source

/-! ### Bytes by themselves -/

/-- Bytes to be read as the body of a parcel is read, and how many were read before them. -/
structure Excerpt where
  /-- The bytes not yet read. -/
  rest : Octets
  /-- How many bytes have been read. -/
  consumed : Nat := 0
  deriving DecidableEq, Repr

namespace Excerpt

/-- An excerpt of which nothing has been read. -/
def ofOctets (bytes : Octets) : Excerpt := ⟨bytes, 0⟩

/-- The next byte. -/
def next? : Excerpt → Option (UInt8 × Excerpt)
  | ⟨[], _⟩ => none
  | ⟨b :: rest, consumed⟩ => some (b, ⟨rest, consumed + 1⟩)

instance : Source Excerpt where
  left x := x.rest.length
  next? := next?
  whole := true

/-- Bytes that are all there are read as the number they spell. -/
theorem takeBytes_eq (width : Nat) (x : Excerpt) (h : width ≤ x.rest.length) :
    Source.takeBytes width x
      = (.ok (Octets.ofLittle (x.rest.take width)),
          ⟨x.rest.drop width, x.consumed + width⟩) := by
  induction width generalizing x with
  | zero => rfl
  | succ width ih =>
    obtain ⟨_ | ⟨b, rest⟩, consumed⟩ := x
    · simp at h
    · have hrest : width ≤ rest.length := by simpa using h
      have hnext : Source.next? (⟨b :: rest, consumed⟩ : Excerpt)
          = some (b, ⟨rest, consumed + 1⟩) := rfl
      simp only [Source.takeBytes, hnext, ih ⟨rest, consumed + 1⟩ hrest]
      simp [Octets.ofLittle, Nat.add_assoc, Nat.add_comm 1 width]

/-- **A field is read in full or refused untouched.** -/
theorem take_eq (width : Nat) (x : Excerpt) :
    Source.take width x
      = if x.rest.length < width then (.error (.truncated width x.rest.length), x)
        else (.ok (Octets.ofLittle (x.rest.take width)),
          ⟨x.rest.drop width, x.consumed + width⟩) := by
  have hwhole : Source.whole Excerpt = true := rfl
  have hleft : Source.left x = x.rest.length := rfl
  rw [Source.take, hwhole, hleft]
  by_cases h : x.rest.length < width
  · rw [if_pos ⟨rfl, h⟩, if_pos h]
  · rw [if_neg fun hc ↦ h hc.2, if_neg h, takeBytes_eq width x (by omega)]

end Excerpt

end ParcelLink
