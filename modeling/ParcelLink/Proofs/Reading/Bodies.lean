import ParcelLink.Proofs.Value.RoundTrip

/-!
# Decoders on bodies

A decoder is asked about a body, and the body is a list of bytes: what the decoder makes of it, and
how many bytes it takes, is `Decoder.onBody`. Whatever the window is on which a parcel is read, it
shows no more than this (`Window.run_ofRing`), for a decoder that succeeds and for one that fails.

## Main definitions

* `Decoder.onBody`: the outcome of a decoder on a body, and the bytes that it takes.
-/

namespace ParcelLink

variable {α β : Type}

/-- A reading takes bytes off the front, and counts them. -/
theorem Excerpt.run_eq (r : Reading α) (x : Excerpt) :
    ∃ n ≤ x.rest.length, (r.run x).2 = ⟨x.rest.drop n, x.consumed + n⟩ := by
  induction r generalizing x with
  | done value => exact ⟨0, Nat.zero_le _, rfl⟩
  | left next ih => exact ih _ x
  | take width next ih =>
    rw [Reading.run, take_eq]
    by_cases hshort : x.rest.length < width
    · rw [if_pos hshort]
      exact ih _ x
    · rw [if_neg hshort]
      obtain ⟨n, hn, hrun⟩ := ih (.ok (Octets.ofLittle (x.rest.take width)))
        ⟨x.rest.drop width, x.consumed + width⟩
      rw [List.length_drop] at hn
      refine ⟨width + n, by omega, ?_⟩
      rw [← List.drop_drop, ← Nat.add_assoc]
      exact hrun

namespace Decoder

/-- What a decoder makes of a body, and how many of its bytes it takes. -/
def onBody (x : Decoder α) (body : Octets) : Except Fault α × Nat :=
  let (outcome, excerpt) := x.run.run (Excerpt.ofOctets body)
  (outcome, excerpt.consumed)

/-- **What a decoder makes of the rest of a body does not depend on how much has been read.** -/
theorem run_excerpt_eq (x : Decoder α) (bytes : Octets) (consumed : Nat) :
    x.run.run (⟨bytes, consumed⟩ : Excerpt)
        = ((x.onBody bytes).1, ⟨bytes.drop (x.onBody bytes).2, consumed + (x.onBody bytes).2⟩)
      ∧ (x.onBody bytes).2 ≤ bytes.length := by
  have hagree : Source.Agree fun s t : Excerpt ↦
      s.rest = t.rest ∧ s.consumed = consumed + t.consumed :=
    { whole_eq := rfl
      left_eq := fun h ↦ congrArg List.length h.1
      next?_eq_none := by
        rintro ⟨_ | ⟨b, rest⟩, _⟩ ⟨_, _⟩ ⟨rfl, -⟩ hnone
        · rfl
        · cases hnone
      next?_eq_some := by
        rintro ⟨_, place⟩ ⟨_ | ⟨b, rest⟩, place'⟩ _ _ ⟨rfl, hplace⟩ hsome
        · cases hsome
        · cases hsome
          exact ⟨⟨rest, place + 1⟩, rfl, rfl, congrArg (· + 1) hplace⟩ }
  obtain ⟨houtcome, hrest, hconsumed⟩ :=
    hagree.run x.run (s := ⟨bytes, consumed⟩) (t := Excerpt.ofOctets bytes) ⟨rfl, rfl⟩
  obtain ⟨n, hn, hrun⟩ := Excerpt.run_eq x.run (Excerpt.ofOctets bytes)
  have htaken : (x.onBody bytes).2 = n := (congrArg Excerpt.consumed hrun).trans (Nat.zero_add n)
  rw [hrun] at hrest
  refine ⟨Prod.ext houtcome ?_, htaken ▸ hn⟩
  rcases hstate : (x.run.run (⟨bytes, consumed⟩ : Excerpt)).2 with ⟨rest, place⟩
  rw [hstate] at hrest hconsumed
  obtain rfl : rest = bytes.drop n := hrest
  obtain rfl : place = consumed + (x.onBody bytes).2 := hconsumed
  rw [htaken]

theorem Reads.run_excerpt {x : Decoder α} {bytes : Octets} {a : α} (h : Reads x bytes a)
    (rest : Octets) (consumed : Nat) :
    x.run.run (⟨bytes ++ rest, consumed⟩ : Excerpt)
      = (.ok a, ⟨rest, consumed + bytes.length⟩) := by
  have hstart : (⟨bytes ++ rest, consumed⟩ : Excerpt).rest = bytes ++ rest
      ∧ (⟨bytes ++ rest, consumed⟩ : Excerpt).consumed + (bytes ++ rest).length
        = consumed + (bytes ++ rest).length := ⟨rfl, rfl⟩
  obtain ⟨⟨rest, consumed'⟩, hrun, rfl, hcount⟩ := h (Excerpt.gives _) hstart
  have hcount' : consumed' + rest.length = consumed + (bytes ++ rest).length := hcount
  rw [List.length_append, ← Nat.add_assoc, Nat.add_right_cancel_iff] at hcount'
  exact hcount' ▸ hrun

/-- **What is in front of a body is read, and no other byte is taken.** -/
theorem Reads.onBody {x : Decoder α} {bytes : Octets} {a : α} (h : Reads x bytes a)
    (trailing : Octets) : x.onBody (bytes ++ trailing) = (.ok a, bytes.length) := by
  rw [Decoder.onBody, Excerpt.ofOctets, h.run_excerpt trailing 0, Nat.zero_add]

/-- The same bytes are not read as two values. -/
theorem Reads.inj {x : Decoder α} {bytes : Octets} {a b : α} (h : Reads x bytes a)
    (h' : Reads x bytes b) : a = b := by
  have heq := (h.onBody []).symm.trans (h'.onBody [])
  exact Except.ok.inj (congrArg Prod.fst heq)

/-- Behind what was read, the rest decides, and what it takes is taken as well. -/
theorem Reads.onBody_bind {x : Decoder α} {front : Octets} {a : α} (h : Reads x front a)
    (f : α → Decoder β) (rest : Octets) :
    (x >>= f).onBody (front ++ rest)
      = (((f a).onBody rest).1, front.length + ((f a).onBody rest).2) := by
  have hx : x.run.run (Excerpt.ofOctets (front ++ rest)) = _ := h.run_excerpt rest 0
  have hrun : (x >>= f).run.run (Excerpt.ofOctets (front ++ rest))
      = (f a).run.run (⟨rest, 0 + front.length⟩ : Excerpt) := by
    simp only [ExceptT.run_bind, Reading.run_bind, hx]
  rw [Decoder.onBody, hrun, ((f a).run_excerpt_eq rest _).1, Nat.zero_add]

/-- A decoder that asks first how much is left gets to know that something is left. -/
theorem Reads.remaining_bind {f : Nat → Decoder β} {bytes : Octets} {b : β} (hne : bytes ≠ [])
    (hf : ∀ n, n ≠ 0 → Reads (f n) bytes b) : Reads (remaining >>= f) bytes b := by
  intro σ _ R hR s rest h
  have hleft : Source.left s ≠ 0 := by
    rw [hR.left_eq h, List.length_append]
    exact Nat.ne_of_gt (Nat.add_pos_left (List.length_pos_iff.2 hne) _)
  exact hf (Source.left s) hleft hR h

end Decoder

/-- **A parcel is read as its body by itself is read**, wherever in the ring it begins and whatever
the ring holds behind it: the outcome is the same, the same bytes are taken, and the others are
left. -/
theorem Window.run_ofRing {ring : Ring} {body behind : Octets} (hvalid : ring.Valid)
    (hcontents : ring.contents = body ++ behind) (x : Decoder α) :
    ∃ w, x.run.run (Window.ofRing ring body.length) = ((x.onBody body).1, w)
      ∧ w.consumed = (x.onBody body).2 ∧ w.remaining = body.length - w.consumed
      ∧ w.ring.contents = (body ++ behind).drop w.consumed := by
  obtain ⟨houtcome, hshows⟩ := (agree ring behind).run x.run (shows_ofRing hvalid hcontents)
  obtain ⟨n, hn, hrun⟩ := Excerpt.run_eq x.run (Excerpt.ofOctets body)
  have htaken : (x.run.run (Excerpt.ofOctets body)).2.consumed = n :=
    (congrArg Excerpt.consumed hrun).trans (Nat.zero_add n)
  have hrest : (x.run.run (Excerpt.ofOctets body)).2.rest = body.drop n :=
    congrArg Excerpt.rest hrun
  refine ⟨_, Prod.ext houtcome rfl, hshows.consumed_eq, ?_, ?_⟩
  · rw [hshows.remaining_eq, hrest, List.length_drop, hshows.consumed_eq, htaken]
  · rw [hshows.contents_eq, hrest, hshows.consumed_eq, htaken]
    exact (List.drop_append_of_le_length hn).symm

end ParcelLink
