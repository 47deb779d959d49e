import ParcelLink.Octets
import ParcelLink.Reading

/-!
# What decoders read

A decoder reads some bytes as a value if every source that has these bytes in front gives it the
value and is left with the bytes behind them (`Decoder.Reads`). Whether the source is bytes by
themselves, a ring or a window does not matter, nor whether its fields are refused as a whole: while
there are bytes enough no source refuses anything (`Source.Gives.take`).

What is read in sequence is written in sequence (`Decoder.Reads.bind`), and items are read one after
the other (`Decoder.reads_many`), so that the layout of a decoder can be read off its definition.

## Main definitions

* `Source.Gives`: along a relation of states and bytes, a source gives out the bytes.
* `Decoder.Reads`: what a decoder makes of the bytes in front of any source.
-/

namespace ParcelLink

/-! ### Sources and their bytes -/

namespace Source

variable {σ : Type} [Source σ]

/-- A source whose states hold bytes: it tells how many there are and gives them out in order. -/
structure Gives (R : σ → Octets → Prop) : Prop where
  /-- As many bytes are left as there are. -/
  left_eq : ∀ {s bytes}, R s bytes → left s = bytes.length
  /-- The next byte is the first, and the others are left. -/
  next?_eq : ∀ {s b rest}, R s (b :: rest) → ∃ s', next? s = some (b, s') ∧ R s' rest

namespace Gives

variable {R : σ → Octets → Prop}

theorem takeBytes (hR : Gives R) {s : σ} {front rest : Octets} (h : R s (front ++ rest)) :
    ∃ s', Source.takeBytes front.length s = (.ok (Octets.ofLittle front), s') ∧ R s' rest := by
  induction front generalizing s with
  | nil => exact ⟨s, rfl, h⟩
  | cons b front ih =>
    obtain ⟨s₁, hnext, h₁⟩ := hR.next?_eq h
    obtain ⟨s₂, htake, h₂⟩ := ih h₁
    refine ⟨s₂, ?_, h₂⟩
    simp only [List.length_cons, Source.takeBytes, hnext, htake, Octets.ofLittle]

/-- **A field that is there is read**, from sources of either kind. -/
theorem take (hR : Gives R) {s : σ} {front rest : Octets} (h : R s (front ++ rest)) :
    ∃ s', Source.take front.length s = (.ok (Octets.ofLittle front), s') ∧ R s' rest := by
  have henough : ¬ (whole σ = true ∧ left s < front.length) := by
    rw [hR.left_eq h, List.length_append]
    omega
  rw [Source.take, if_neg henough]
  exact hR.takeBytes h

end Gives

end Source

/-! ### Decoders and what they read -/

namespace Decoder

variable {α β : Type}

/-- From every source that has these bytes in front, a decoder gets the value, and leaves the bytes
behind them. -/
def Reads (x : Decoder α) (bytes : Octets) (value : α) : Prop :=
  ∀ ⦃σ : Type⦄ [Source σ] ⦃R : σ → Octets → Prop⦄, Source.Gives R →
    ∀ ⦃s : σ⦄ ⦃rest : Octets⦄, R s (bytes ++ rest) →
      ∃ s', x.run.run s = (.ok value, s') ∧ R s' rest

theorem reads_pure (value : α) : Reads (pure value) [] value :=
  fun _ _ _ _ s _ h ↦ ⟨s, rfl, h⟩

/-- **What is read in sequence is written in sequence.** -/
theorem Reads.bind {x : Decoder α} {f : α → Decoder β} {first second : Octets} {a : α} {b : β}
    (hx : Reads x first a) (hf : Reads (f a) second b) : Reads (x >>= f) (first ++ second) b := by
  intro σ _ R hR s rest h
  rw [List.append_assoc] at h
  obtain ⟨s₁, hfirst, h₁⟩ := hx hR h
  obtain ⟨s₂, hsecond, h₂⟩ := hf hR h₁
  refine ⟨s₂, ?_, h₂⟩
  simp only [ExceptT.run_bind, Reading.run_bind, hfirst]
  exact hsecond

theorem Reads.map {x : Decoder α} {bytes : Octets} {a : α} (hx : Reads x bytes a) (f : α → β) :
    Reads (f <$> x) bytes (f a) := by
  rw [map_eq_pure_bind, ← List.append_nil bytes]
  exact hx.bind (reads_pure (f a))

/-- A number is read as it is written, as far as it fits. -/
theorem reads_number (width n : Nat) :
    Reads (number width) (Octets.little width n) (n % Nat.pow 256 width) := by
  intro σ _ R hR s rest h
  obtain ⟨s', htake, h'⟩ := hR.take h
  rw [Octets.length_little, Octets.ofLittle_little] at htake
  exact ⟨s', htake, h'⟩

/-! ### Items in sequence -/

theorem reads_manyOnto {item : Decoder α} {write : α → Octets} {items : List α} (read : List α)
    (h : ∀ a ∈ items, Reads item (write a) a) :
    Reads (manyOnto item items.length read) (items.flatMap write) (read.reverse ++ items) := by
  induction items generalizing read with
  | nil =>
    rw [List.append_nil]
    exact reads_pure read.reverse
  | cons a items ih =>
    have hrest := ih (a :: read) fun b hb ↦ h b (List.mem_cons_of_mem a hb)
    rw [List.reverse_cons, List.append_assoc, List.singleton_append] at hrest
    exact (h a List.mem_cons_self).bind hrest

/-- **Items are read as they are written**, one after the other. -/
theorem reads_many {item : Decoder α} {write : α → Octets} {items : List α}
    (h : ∀ a ∈ items, Reads item (write a) a) :
    Reads (many item items.length) (items.flatMap write) items :=
  reads_manyOnto [] h

end Decoder

end ParcelLink
