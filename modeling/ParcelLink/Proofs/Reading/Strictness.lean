import ParcelLink.Proofs.Reading.Bodies

/-!
# Strict decoders

A decoder is strict if it takes what it needs off the front of the bytes, and needs all of it: bytes
behind what it takes make no difference, and with any of it missing the decoder is cut short
(`Decoder.Takes`). A strict decoder that takes nothing fails as bytes make it fail, cut short or at a
string that does not end where it should (`Decoder.Strict`).

What is read in sequence is strict if its parts are (`Decoder.Strict.bind`): bytes are missing either
from the first part or, behind all of the first, from the second. How many bytes a value was taken
from is told along with the value, and adds up.

## Main definitions

* `Decoder.CutShort`, `Decoder.FailsOn`: how a decoder fails on bytes.
* `Decoder.Takes`: a decoder takes a value off the front, and nothing less will do.
* `Decoder.Strict`: a decoder that takes a value off the front of any bytes, or fails.
-/

namespace ParcelLink.Decoder

variable {α β : Type}

/-! ### How decoders fail on bytes -/

/-- On these bytes a decoder is cut short. -/
def CutShort (x : Decoder α) (bytes : Octets) : Prop :=
  ∃ needed left, (x.onBody bytes).1 = .error (.truncated needed left)

/-- On these bytes a decoder fails, cut short or at the end of a string. -/
def FailsOn (x : Decoder α) (bytes : Octets) : Prop :=
  x.CutShort bytes ∨ ∃ bits, (x.onBody bytes).1 = .error (.malformedString bits)

/-- A decoder that fails is not gone on from. -/
theorem outcome_bind_of_error {x : Decoder α} {bytes : Octets} {cause : Fault}
    (h : (x.onBody bytes).1 = .error cause) (f : α → Decoder β) :
    ((x >>= f).onBody bytes).1 = .error cause := by
  have hx : (x.run.run (Excerpt.ofOctets bytes)).1 = .error cause := h
  simp only [onBody, ExceptT.run_bind, Reading.run_bind, hx]
  rfl

/-- Behind what was read, the rest decides. -/
theorem Reads.outcome_bind {x : Decoder α} {front : Octets} {a : α} (h : Reads x front a)
    (f : α → Decoder β) (rest : Octets) :
    ((x >>= f).onBody (front ++ rest)).1 = ((f a).onBody rest).1 := by
  rw [h.onBody_bind]

/-- Bytes that are missing behind what was read are missing. -/
theorem Reads.cutShort_bind {x : Decoder α} {f : α → Decoder β} {front rest : Octets} {a : α}
    (hx : Reads x front a) (hf : (f a).CutShort rest) : (x >>= f).CutShort (front ++ rest) := by
  obtain ⟨needed, left, hcut⟩ := hf
  exact ⟨needed, left, (hx.outcome_bind f rest).trans hcut⟩

theorem CutShort.bind {x : Decoder α} {bytes : Octets} (h : x.CutShort bytes)
    (f : α → Decoder β) : (x >>= f).CutShort bytes := by
  obtain ⟨needed, left, hcut⟩ := h
  exact ⟨needed, left, outcome_bind_of_error hcut f⟩

theorem FailsOn.bind {x : Decoder α} {bytes : Octets} (h : x.FailsOn bytes)
    (f : α → Decoder β) : (x >>= f).FailsOn bytes := by
  rcases h with hcut | ⟨bits, hbits⟩
  · exact .inl (hcut.bind f)
  · exact .inr ⟨bits, outcome_bind_of_error hbits f⟩

/-! ### Taking a value off the front -/

/-- A decoder takes a value off the front, and nothing less will do. -/
structure Takes (x : Decoder α) (front : Octets) (a : α) : Prop where
  reads : Reads x front a
  cutShort : ∀ k < front.length, x.CutShort (front.take k)

theorem takes_pure (a : α) : Takes (pure a) [] a := ⟨reads_pure a, fun _ h ↦ absurd h (by simp)⟩

/-- **Bytes are missing from the first part, or from the second behind all of the first.** -/
theorem Takes.bind {x : Decoder α} {f : α → Decoder β} {first second : Octets} {a : α} {b : β}
    (hx : x.Takes first a) (hf : (f a).Takes second b) :
    (x >>= f).Takes (first ++ second) b := by
  refine ⟨hx.reads.bind hf.reads, fun k hk ↦ ?_⟩
  rw [List.length_append] at hk
  rcases Nat.lt_or_ge k first.length with hfirst | hbehind
  · rw [List.take_append_of_le_length (Nat.le_of_lt hfirst)]
    exact (hx.cutShort k hfirst).bind f
  · rw [List.take_append, List.take_of_length_le hbehind]
    exact hx.reads.cutShort_bind (hf.cutShort (k - first.length) (by omega))

/-! ### Strict decoders -/

/-- A decoder takes a value off the front of any bytes, or fails on them. What is told of a value is
told along with the number of bytes that it was taken from. -/
def Strict (x : Decoder α) (P : Nat → α → Prop) : Prop :=
  ∀ bytes, (∃ front rest a, bytes = front ++ rest ∧ x.Takes front a ∧ P front.length a)
    ∨ x.FailsOn bytes

namespace Strict

variable {P : Nat → α → Prop} {Q : Nat → β → Prop}

/-- What is read in sequence is strict if its parts are. -/
theorem bind {x : Decoder α} {f : α → Decoder β} (hx : x.Strict P)
    (hf : ∀ n a, P n a → (f a).Strict fun m b ↦ Q (n + m) b) : (x >>= f).Strict Q := by
  intro bytes
  obtain ⟨first, rest, a, rfl, htakes, hfirst⟩ | hfails := hx bytes
  · obtain ⟨second, rest, b, rfl, htakes', hsecond⟩ | hfails := hf _ a hfirst rest
    · refine .inl ⟨first ++ second, rest, b, (List.append_assoc ..).symm, htakes.bind htakes', ?_⟩
      rw [List.length_append]
      exact hsecond
    · rw [FailsOn, CutShort, ← htakes.reads.outcome_bind f rest] at hfails
      exact .inr hfails
  · exact .inr (hfails.bind f)

/-- Of a value less may be told. -/
theorem mono {x : Decoder α} {P' : Nat → α → Prop} (hx : x.Strict P)
    (h : ∀ n a, P n a → P' n a) : x.Strict P' :=
  fun bytes ↦ (hx bytes).imp_left fun ⟨front, rest, a, heq, htakes, hfront⟩ ↦
    ⟨front, rest, a, heq, htakes, h _ a hfront⟩

theorem pure {a : α} (h : P 0 a) : Strict (pure a) P :=
  fun bytes ↦ .inl ⟨[], bytes, a, rfl, takes_pure a, h⟩

theorem map {x : Decoder α} (hx : x.Strict P) {f : α → β} (h : ∀ n a, P n a → Q n (f a)) :
    (f <$> x).Strict Q := by
  rw [map_eq_pure_bind]
  exact hx.bind fun n a ha ↦ pure (h n a ha)

/-- A string that does not end where it should is no value. -/
theorem malformed (bits : UInt32) : Strict (fail (.malformedString bits)) P :=
  fun _ ↦ .inr (.inr ⟨bits, rfl⟩)

/-! ### What a strict decoder makes of a body -/

variable {x : Decoder α} {body : Octets}

/-- A strict decoder fails in two ways only. -/
theorem cause_of_error (hx : x.Strict P) {cause : Fault} (h : (x.onBody body).1 = .error cause) :
    (∃ needed left, cause = .truncated needed left) ∨ ∃ bits, cause = .malformedString bits := by
  obtain ⟨front, rest, a, rfl, htakes, -⟩ | ⟨needed, left, hcut⟩ | ⟨bits, hbits⟩ := hx body
  · rw [htakes.reads.onBody] at h
    cases h
  · rw [h] at hcut
    exact .inl ⟨needed, left, Except.error.inj hcut⟩
  · rw [h] at hbits
    exact .inr ⟨bits, Except.error.inj hbits⟩

/-- **A strict decoder that succeeds looks at no byte behind those that it takes, and needs all of
these.** -/
theorem of_ok (hx : x.Strict P) {a : α} {n : Nat} (h : x.onBody body = (.ok a, n)) :
    P n a ∧ (∀ extra, x.onBody (body ++ extra) = (.ok a, n))
      ∧ ∀ k < n, x.CutShort (body.take k) := by
  obtain ⟨front, rest, a', rfl, htakes, hfront⟩ | ⟨needed, left, hcut⟩ | ⟨bits, hbits⟩ := hx body
  · obtain ⟨rfl, rfl⟩ : a' = a ∧ front.length = n := by
      rw [htakes.reads.onBody] at h
      exact ⟨Except.ok.inj (congrArg Prod.fst h), congrArg Prod.snd h⟩
    refine ⟨hfront, fun extra ↦ ?_, fun k hk ↦ ?_⟩
    · rw [List.append_assoc]
      exact htakes.reads.onBody (rest ++ extra)
    · rw [List.take_append_of_le_length (Nat.le_of_lt hk)]
      exact htakes.cutShort k hk
  · rw [h] at hcut
    cases hcut
  · rw [h] at hbits
    cases hbits

end Strict

/-! ### Numbers -/

/-- Too few bytes are no number. -/
theorem cutShort_number {width : Nat} {bytes : Octets} (h : bytes.length < width) :
    (number width).CutShort bytes :=
  ⟨width, bytes.length,
    congrArg Prod.fst ((Excerpt.take_eq width (Excerpt.ofOctets bytes)).trans (if_pos h))⟩

/-- Bytes enough are a number as it is written. -/
theorem number_covers (width : Nat) (bytes : Octets) :
    (∃ n behind, n < Nat.pow 256 width ∧ bytes = Octets.little width n ++ behind)
      ∨ (number width).CutShort bytes := by
  rcases Nat.lt_or_ge bytes.length width with hshort | henough
  · exact .inr (cutShort_number hshort)
  · have hlength : (bytes.take width).length = width := List.length_take_of_le henough
    have hlt := Octets.ofLittle_lt (bytes.take width)
    have hspell := Octets.little_ofLittle (bytes.take width)
    rw [hlength] at hlt hspell
    exact .inl ⟨_, bytes.drop width, hlt, by rw [hspell, List.take_append_drop]⟩

/-- A number takes its bytes, whatever they are. -/
theorem strict_number (width : Nat) : (number width).Strict fun n _ ↦ n = width := by
  intro bytes
  rcases number_covers width bytes with ⟨n, behind, -, rfl⟩ | hcut
  · have hlength := Octets.length_little width n
    refine .inl ⟨Octets.little width n, behind, _, rfl,
      ⟨reads_number width n, fun k hk ↦ cutShort_number ?_⟩, hlength⟩
    rw [List.length_take]
    omega
  · exact .inr (.inl hcut)

end ParcelLink.Decoder
