import ParcelLink.Proofs.Reading.Agreement
import ParcelLink.Proofs.Value.RoundTrip

/-!
# Where readers part

A span gives out a field byte by byte, and one that is cut short uses up the bytes that were there.
An excerpt refuses such a field untouched. So the two do not answer alike, and a reading that looks
at a refusal and goes on can tell them apart. A decoder does not go on: it hands the refusal on.
Until it is cut short it finds both sources at the same place, and if it is cut short by one then it
is by the other (`Decoder.Level`).

This is so of a number, and what is read in sequence is level if its parts are
(`Decoder.Level.bind`).

## Main definitions

* `Fault.isTruncation`, `Decoder.wasCut`: whether a decoder was cut short.
* `Decoder.InStep`, `Decoder.Level`: that a span and an excerpt part only where both are cut short.
-/

namespace ParcelLink

/-- Whether there were too few bytes. -/
def Fault.isTruncation : Fault → Bool
  | truncated .. => true
  | _ => false

/-- A field that is cut short uses up the rest of a span. -/
theorem Span.takeBytes_of_short {width : Nat} {bytes : Octets} (h : bytes.length < width)
    (position : Nat) :
    Source.takeBytes width (⟨bytes, position⟩ : Span)
      = (.error (.truncated 1 0), ⟨[], position + bytes.length⟩) := by
  induction width generalizing bytes position with
  | zero => exact absurd h (Nat.not_lt_zero _)
  | succ width ih =>
    cases bytes with
    | nil => rfl
    | cons b rest =>
      have hnext : Source.next? (⟨b :: rest, position⟩ : Span)
          = some (b, ⟨rest, position + 1⟩) := rfl
      have hrest : rest.length < width := by simpa using h
      simp only [Source.takeBytes, hnext, ih hrest, List.length_cons]
      rw [Nat.add_assoc, Nat.add_comm 1]

theorem Span.take_of_short {width : Nat} {bytes : Octets} (h : bytes.length < width)
    (position : Nat) :
    Source.take width (⟨bytes, position⟩ : Span)
      = (.error (.truncated 1 0), ⟨[], position + bytes.length⟩) := by
  rw [Source.take, if_neg fun h ↦ Bool.false_ne_true h.1, takeBytes_of_short h]

/-- A field that is there is read off the front of a span. -/
theorem Span.take_of_le {width : Nat} {bytes : Octets} (h : width ≤ bytes.length)
    (position : Nat) :
    Source.take width (⟨bytes, position⟩ : Span)
      = (.ok (Octets.ofLittle (bytes.take width)), ⟨bytes.drop width, position + width⟩) := by
  have hlength : (bytes.take width).length = width := List.length_take_of_le h
  have hstart : (⟨bytes, position⟩ : Span).rest = bytes.take width ++ bytes.drop width
      ∧ (⟨bytes, position⟩ : Span).position + (bytes.take width ++ bytes.drop width).length
        = position + bytes.length := by
    rw [List.take_append_drop]
    exact ⟨rfl, rfl⟩
  obtain ⟨⟨rest, place⟩, htake, rfl, hcount⟩ := (Span.gives _).take hstart
  rw [hlength] at htake
  have hplace : place = position + width := by
    have hcount' : place + (bytes.drop width).length = position + bytes.length := hcount
    rw [List.length_drop] at hcount'
    omega
  rw [htake, hplace]

/-- A reading takes bytes off the front of a span, and counts them. -/
theorem Span.run_eq {α : Type} (r : Reading α) (s : Span) :
    ∃ n ≤ s.rest.length, (r.run s).2 = ⟨s.rest.drop n, s.position + n⟩ := by
  induction r generalizing s with
  | done value => exact ⟨0, Nat.zero_le _, rfl⟩
  | left next ih => exact ih _ s
  | take width next ih =>
    obtain ⟨bytes, position⟩ := s
    rw [Reading.run]
    rcases Nat.lt_or_ge bytes.length width with hshort | henough
    · rw [take_of_short hshort]
      obtain ⟨n, hn, hrun⟩ := ih (.error (.truncated 1 0)) ⟨[], position + bytes.length⟩
      obtain rfl : n = 0 := Nat.le_zero.1 hn
      refine ⟨bytes.length, Nat.le_refl _, ?_⟩
      rw [List.drop_length]
      exact hrun
    · rw [take_of_le henough]
      obtain ⟨n, hn, hrun⟩ := ih (.ok (Octets.ofLittle (bytes.take width)))
        ⟨bytes.drop width, position + width⟩
      rw [List.length_drop] at hn
      refine ⟨width + n, Nat.add_le_of_le_sub' henough hn, ?_⟩
      rw [← List.drop_drop, ← Nat.add_assoc]
      exact hrun

namespace Decoder

variable {α β : Type}

/-- Whether a decoder was cut short. -/
def wasCut : Except Fault α → Bool
  | .error cause => cause.isTruncation
  | .ok _ => false

/-- What a decoder makes of a span and of an excerpt: the same, and it leaves both at the same
place, or it is cut short by both. -/
inductive InStep (s : Except Fault α × Span) (e : Except Fault α × Excerpt) : Prop where
  | same (outcome_eq : s.1 = e.1) (not_cut : wasCut s.1 = false) (rest_eq : s.2.rest = e.2.rest)
    (place_eq : s.2.position = e.2.consumed)
  | cut (span_cut : wasCut s.1 = true) (excerpt_cut : wasCut e.1 = true)

/-- A decoder is cut short by a span or an excerpt only if the other cuts it short as well. -/
def Level (x : Decoder α) : Prop :=
  ∀ bytes place, InStep (x.run.run (⟨bytes, place⟩ : Span)) (x.run.run (⟨bytes, place⟩ : Excerpt))

theorem level_pure (a : α) : Level (pure a) := fun _ _ ↦ .same rfl rfl rfl rfl

theorem level_fail {cause : Fault} (h : cause.isTruncation = false) :
    Level (fail cause : Decoder α) :=
  fun _ _ ↦ .same rfl h rfl rfl

/-- A number is cut short if its bytes are not all there. -/
theorem level_number (width : Nat) : Level (number width) := by
  intro bytes place
  have hspan : (number width).run.run (⟨bytes, place⟩ : Span) = Source.take width ⟨bytes, place⟩ :=
    rfl
  have hexcerpt : (number width).run.run (⟨bytes, place⟩ : Excerpt)
      = Source.take width ⟨bytes, place⟩ := rfl
  rw [hspan, hexcerpt, Excerpt.take_eq]
  rcases Nat.lt_or_ge bytes.length width with hshort | henough
  · rw [if_pos hshort, Span.take_of_short hshort]
    exact .cut rfl rfl
  · rw [if_neg (Nat.not_lt.2 henough), Span.take_of_le henough]
    exact .same rfl rfl rfl rfl

/-- **What is read in sequence is level if its parts are.** -/
theorem Level.bind {x : Decoder α} {f : α → Decoder β} (hx : x.Level) (hf : ∀ a, (f a).Level) :
    (x >>= f).Level := by
  intro bytes place
  simp only [ExceptT.run_bind, Reading.run_bind]
  have hfirst := hx bytes place
  rcases hspan : x.run.run (⟨bytes, place⟩ : Span) with ⟨outcome, ⟨rest, position⟩⟩
  rcases hexcerpt : x.run.run (⟨bytes, place⟩ : Excerpt) with ⟨outcome', ⟨rest', consumed⟩⟩
  rw [hspan, hexcerpt] at hfirst
  cases hfirst with
  | same outcome_eq not_cut rest_eq place_eq =>
    obtain rfl : outcome = outcome' := outcome_eq
    obtain rfl : rest = rest' := rest_eq
    obtain rfl : position = consumed := place_eq
    cases outcome with
    | ok a => exact hf a rest position
    | error cause => exact .same rfl not_cut rfl rfl
  | cut span_cut excerpt_cut =>
    -- what cuts the first part short is handed on, and it is cut short by both
    cases outcome with
    | ok a => cases span_cut
    | error cause =>
      cases outcome' with
      | ok a => cases excerpt_cut
      | error cause' => exact .cut span_cut excerpt_cut

theorem Level.map {x : Decoder α} (hx : x.Level) (f : α → β) : (f <$> x).Level := by
  rw [map_eq_pure_bind]
  exact hx.bind fun a ↦ level_pure (f a)

theorem level_manyOnto {item : Decoder α} (h : item.Level) (count : Nat) (read : List α) :
    (manyOnto item count read).Level := by
  induction count generalizing read with
  | zero => exact level_pure read.reverse
  | succ count ih => exact h.bind fun a ↦ ih (a :: read)

/-- Items in sequence are level if each is. -/
theorem level_many {item : Decoder α} (h : item.Level) (count : Nat) : (many item count).Level :=
  level_manyOnto h count []

end Decoder

end ParcelLink
