import ParcelLink.Proofs.Reading.Bodies
import ParcelLink.Proofs.Reading.Cuts

/-!
# Three ways to read the same bytes

The same bytes can be read from a span, from a ring that holds just them, and through a window on a
ring that holds more. The ring answers like the span, to the last read of any sequence
(`Ring.agree_skip`), and the window like the bytes by themselves (`Window.agree_skip`). Both sources
are told by how many bytes have been read: a ring is always the ring from before, with so many bytes
skipped.

The window and the span part where a field is cut short, and not before
(`Source.takeWhile_readEach`), since every decoder of a value is level (`Kind.level`). Behind that
read nothing can be said, as one of them has used up bytes that the other has not.

## Main definitions

* `Source.readEach`: values read one after the other, where a failed read does not stop the next.
-/

namespace ParcelLink

/-! ### The ring, told by how many bytes have been read -/

theorem Ring.skip_zero {ring : Ring} (h : ring.Valid) : ring.skip 0 = ring := by
  rw [skip_eq h, indexAfter, Nat.add_zero, Nat.mod_eq_of_lt h.readIndex_lt, Nat.sub_zero]

/-- The next byte of a ring of which `count` bytes have been skipped. -/
theorem Ring.next?_skip {ring : Ring} (h : ring.Valid) {count : Nat} {b : UInt8} {rest : Octets}
    (hc : ring.contents.drop count = b :: rest) :
    (ring.skip count).next? = some (b, ring.skip (count + 1)) := by
  have hlt : count < ring.contents.length := by
    rw [← Nat.not_le, ← List.drop_eq_nil_iff, hc]
    exact List.cons_ne_nil _ _
  have hb : ring.slot count = b := by
    rw [← getElem_contents ring count hlt, ← Option.some_inj, ← List.getElem?_eq_getElem hlt,
      ← List.head?_drop, hc, List.head?_cons]
  rw [length_contents] at hlt
  have hplace : (ring.indexAfter count + 1) % ring.capacity = ring.indexAfter (count + 1) := by
    rw [indexAfter, Nat.mod_add_mod, Nat.add_assoc, indexAfter]
  rw [skip_eq h, skip_eq h, next?, if_neg (by simp only; omega), slot_advanced, Nat.add_zero, hb]
  simp only [indexAfter, capacity] at hplace ⊢
  rw [hplace, Nat.sub_sub]

/-- **A ring answers like a span of its contents**, and is behind each read the ring from before
with as many bytes skipped as have been read of the span. -/
theorem Ring.agree_skip {ring : Ring} (h : ring.Valid) :
    Source.Agree fun (r : Ring) (s : Span) ↦ s.position ≤ ring.unread
      ∧ s.rest = ring.contents.drop s.position ∧ r = ring.skip s.position where
  whole_eq := rfl
  left_eq := by
    rintro r ⟨rest, position⟩ ⟨-, hrest, rfl⟩
    show (ring.skip position).unread = rest.length
    rw [← length_contents, contents_skip h, ← hrest]
  next?_eq_none := by
    rintro r ⟨_ | ⟨b, rest⟩, position⟩ ⟨-, hrest, rfl⟩ hend
    · have hempty : (ring.skip position).unread = 0 := by
        rw [← length_contents, contents_skip h, ← hrest, List.length_nil]
      show (ring.skip position).next? = none
      rw [next?, if_pos hempty]
    · cases hend
  next?_eq_some := by
    rintro r ⟨_ | ⟨b, rest⟩, position⟩ b' s' ⟨hle, hrest, rfl⟩ hnext
    · cases hnext
    · cases hnext
      refine ⟨ring.skip (position + 1), next?_skip h hrest.symm, ?_, ?_, rfl⟩
      · have hlength := congrArg List.length hrest
        simp only [List.length_cons, List.length_drop, length_contents] at hlength
        show position + 1 ≤ ring.unread
        omega
      · show rest = ring.contents.drop (position + 1)
        rw [← List.tail_drop, ← hrest, List.tail_cons]

/-- **A window answers like its bytes by themselves**, and the ring under it is the ring from before
with as many bytes skipped as have been read. Bytes that were read before count as well. -/
theorem Window.agree_skip {ring : Ring} (h : ring.Valid) {bytes behind : Octets}
    (hcontents : ring.contents = bytes ++ behind) (before : Nat) :
    Source.Agree fun (w : Window) (x : Excerpt) ↦ x.consumed ≤ bytes.length
      ∧ x.rest = bytes.drop x.consumed
      ∧ w = ⟨ring.skip x.consumed, bytes.length - x.consumed, before + x.consumed⟩ where
  whole_eq := rfl
  left_eq := by
    rintro w ⟨rest, consumed⟩ ⟨-, hrest, rfl⟩
    exact List.length_drop.symm.trans (congrArg List.length hrest.symm)
  next?_eq_none := by
    rintro w ⟨_ | ⟨b, rest⟩, consumed⟩ ⟨-, hrest, rfl⟩ hend
    · have hlength := congrArg List.length hrest
      rw [List.length_drop, List.length_nil] at hlength
      show Window.next? _ = none
      rw [next?, if_pos hlength.symm]
    · cases hend
  next?_eq_some := by
    rintro w ⟨_ | ⟨b, rest⟩, consumed⟩ b' x' ⟨hle, hrest, rfl⟩ hnext
    · cases hnext
    · cases hnext
      have hlt : consumed < bytes.length := by
        have hlength := congrArg List.length hrest
        simp only [List.length_drop, List.length_cons] at hlength
        omega
      have hrest' : ring.contents.drop consumed = b :: (rest ++ behind) := by
        rw [hcontents, List.drop_append_of_le_length hle, ← hrest, List.cons_append]
      refine ⟨⟨ring.skip (consumed + 1), bytes.length - (consumed + 1), before + (consumed + 1)⟩,
        ?_, hlt, ?_, rfl⟩
      · show Window.next? _ = _
        rw [next?, if_neg (by simp only; omega), Ring.next?_skip h hrest']
        simp only [Option.map_some, Nat.sub_sub, Nat.add_assoc]
      · show rest = bytes.drop (consumed + 1)
        rw [← List.tail_drop, ← hrest, List.tail_cons]

/-! ### Decoders of values are level -/

namespace Decoder

theorem level_u8 : Decoder.u8.Level := (level_number 1).map _

theorem level_u16 : Decoder.u16.Level := (level_number 2).map _

theorem level_u32 : Decoder.u32.Level := (level_number 4).map _

theorem level_delimiterBits (length : UInt32) : (delimiterBits length).Level := by
  unfold delimiterBits
  refine level_u16.bind fun first ↦ ?_
  by_cases heven : length % 2 = 0
  · rw [if_pos heven]
    exact level_u16.bind fun second ↦ level_pure _
  · rw [if_neg heven]
    exact level_pure _

/-- A string whose delimiter is not zero fails at the same place. -/
theorem level_string : Decoder.string.Level := by
  unfold Decoder.string
  refine level_u32.bind fun length ↦ ?_
  by_cases habsent : absentThreshold ≤ length
  · rw [if_pos habsent]
    exact level_pure none
  · rw [if_neg habsent]
    refine (level_many level_u16 _).bind fun units ↦ (level_delimiterBits length).bind fun bits ↦ ?_
    by_cases hbits : bits ≠ 0
    · rw [if_pos hbits]
      exact (level_fail rfl).bind fun _ ↦ level_pure _
    · rw [if_neg hbits]
      exact level_pure _

theorem level_list {α : Type} {item : Decoder α} (h : item.Level) : (list item).Level :=
  level_u32.bind fun count ↦ level_many h count.toNat

/-- A parcel that is neither an answer nor a notification fails at the same place. -/
theorem level_header : Header.decoder.Level := by
  unfold Header.decoder
  refine level_u32.bind fun response ↦ ?_
  by_cases hsolicited : response = solicitedType
  · rw [if_pos hsolicited]
    exact level_u32.bind fun token ↦ level_pure _
  · rw [if_neg hsolicited]
    by_cases hunsolicited : response = unsolicitedType
    · rw [if_pos hunsolicited]
      exact level_u32.bind fun type ↦ level_pure _
    · rw [if_neg hunsolicited]
      exact level_fail rfl

end Decoder

/-- **Values of every kind are read alike until they are cut short.** -/
theorem Kind.level (kind : Kind) : kind.decoder.Level := by
  cases kind with
  | u8 => exact Decoder.level_u8.map _
  | u16 => exact Decoder.level_u16.map _
  | u32 => exact Decoder.level_u32.map _
  | bool => exact (Decoder.level_u32.map _).map _
  | size => exact ((Decoder.level_many Decoder.level_u8 4).map _).map _
  | string => exact Decoder.level_string.map _
  | words => exact (Decoder.level_list Decoder.level_u32).map _
  | strings => exact (Decoder.level_list Decoder.level_string).map _
  | header => exact Decoder.level_header.map _

/-! ### Reads in sequence -/

namespace Source

variable {σ τ : Type} [Source σ] [Source τ]

/-- Values of some kinds, read one after the other: the outcome of each read, and the source behind
it. A read that fails does not stop the next one. -/
def readEach : List Kind → σ → List (Except Fault Value × σ)
  | [], _ => []
  | kind :: kinds, s =>
    let (outcome, s) := kind.decoder.run.run s
    (outcome, s) :: readEach kinds s

/-- If a source is known from one that it agrees with, so is every read of it. -/
theorem Agree.readEach_eq {R : σ → τ → Prop} (hR : Agree R) {f : τ → σ}
    (hf : ∀ {s t}, R s t → s = f t) (kinds : List Kind) {s : σ} {t : τ} (h : R s t) :
    readEach kinds s = (readEach kinds t).map (fun (outcome, t) ↦ (outcome, f t))
      ∧ ∀ read ∈ readEach kinds t, R (f read.2) read.2 := by
  induction kinds generalizing s t with
  | nil => exact ⟨rfl, nofun⟩
  | cons kind kinds ih =>
    obtain ⟨houtcome, hstate⟩ := hR.run kind.decoder.run h
    obtain ⟨hrest, hall⟩ := ih hstate
    refine ⟨?_, ?_⟩
    · simp only [readEach, List.map_cons, houtcome, hrest, ← hf hstate]
    · rw [readEach, List.forall_mem_cons]
      exact ⟨hf hstate ▸ hstate, hall⟩

/-- **A span and an excerpt give the same reads at the same places** up to the first that is cut
short, which is the same of both. -/
theorem takeWhile_readEach (kinds : List Kind) (bytes : Octets) (place : Nat) :
    let spans := (readEach kinds (⟨bytes, place⟩ : Span)).map fun (o, s) ↦ (o, s.position)
    let excerpts := (readEach kinds (⟨bytes, place⟩ : Excerpt)).map fun (o, x) ↦ (o, x.consumed)
    excerpts.takeWhile (fun read ↦ !Decoder.wasCut read.1)
        = spans.takeWhile (fun read ↦ !Decoder.wasCut read.1)
      ∧ excerpts.findIdx (fun read ↦ Decoder.wasCut read.1)
        = spans.findIdx (fun read ↦ Decoder.wasCut read.1) := by
  induction kinds generalizing bytes place with
  | nil => exact ⟨rfl, rfl⟩
  | cons kind kinds ih =>
    have hfirst := kind.level bytes place
    simp only [readEach, List.map_cons, List.takeWhile_cons, List.findIdx_cons]
    rcases hspan : kind.decoder.run.run (⟨bytes, place⟩ : Span) with ⟨outcome, ⟨rest, position⟩⟩
    rcases hexcerpt : kind.decoder.run.run (⟨bytes, place⟩ : Excerpt)
      with ⟨outcome', ⟨rest', consumed⟩⟩
    rw [hspan, hexcerpt] at hfirst
    cases hfirst with
    | same outcome_eq not_cut rest_eq place_eq =>
      obtain rfl : outcome = outcome' := outcome_eq
      obtain rfl : rest = rest' := rest_eq
      obtain rfl : position = consumed := place_eq
      obtain ⟨htake, hfind⟩ := ih rest position
      have hnot : Decoder.wasCut outcome = false := not_cut
      simp only [hnot, htake, hfind, and_self]
    | cut span_cut excerpt_cut =>
      have hspan : Decoder.wasCut outcome = true := span_cut
      have hexcerpt : Decoder.wasCut outcome' = true := excerpt_cut
      simp only [hspan, hexcerpt, cond_true, Bool.not_true, Bool.false_eq_true, if_false, and_self]

/-! ### Spans, rings and windows -/

/-- Some ring holds just these bytes. -/
theorem exists_ring (bytes : Octets) : ∃ ring : Ring, ring.Valid ∧ ring.contents = bytes := by
  have hvalid := Ring.valid_ofCapacity 0
  exact ⟨_, Ring.valid_write hvalid bytes, by rw [Ring.contents_write hvalid]; rfl⟩

/-- **Three readers of the same bytes.** Values of any kinds are read one after the other, also
behind reads that fail. A span over the bytes and a ring that holds just them give the same outcomes
at the same places. A window on a ring that holds the bytes in front of others gives outcomes that
do not depend on the others, nor on where in the ring the bytes begin; what has been read of it and
what is left add up to the bytes, and just what has been read is gone from the ring. Up to the first
read that is cut short the outcomes and places of the window are those of the span, and it is the
same read of both. -/
theorem alike_of_bytes (bytes : Octets) (kinds : List Kind) :
    ∃ spans windows : List (Except Fault Value × Nat),
      readEach kinds (Span.ofOctets bytes) = spans.map (fun (o, n) ↦ (o, ⟨bytes.drop n, n⟩))
        ∧ (∀ ring : Ring, ring.Valid → ring.contents = bytes →
            readEach kinds ring = spans.map fun (o, n) ↦ (o, ring.skip n))
        ∧ (∀ (ring : Ring) (behind : Octets), ring.Valid → ring.contents = bytes ++ behind →
            readEach kinds (Window.ofRing ring bytes.length)
              = windows.map fun (o, n) ↦ (o, ⟨ring.skip n, bytes.length - n, n⟩))
        ∧ (∀ read ∈ spans ++ windows, read.2 ≤ bytes.length)
        ∧ windows.takeWhile (fun read ↦ !Decoder.wasCut read.1)
          = spans.takeWhile (fun read ↦ !Decoder.wasCut read.1)
        ∧ windows.findIdx (fun read ↦ Decoder.wasCut read.1)
          = spans.findIdx (fun read ↦ Decoder.wasCut read.1) := by
  have hring {ring : Ring} (hvalid : ring.Valid) (hcontents : ring.contents = bytes) :=
    (Ring.agree_skip hvalid).readEach_eq (fun h ↦ h.2.2) kinds
      (s := ring) (t := Span.ofOctets bytes)
      ⟨Nat.zero_le _, hcontents.symm, (Ring.skip_zero hvalid).symm⟩
  have hwindow {ring : Ring} {behind : Octets} (hvalid : ring.Valid)
      (hcontents : ring.contents = bytes ++ behind) :=
    (Window.agree_skip hvalid hcontents 0).readEach_eq (fun h ↦ h.2.2) kinds
      (s := Window.ofRing ring bytes.length) (t := Excerpt.ofOctets bytes)
      ⟨Nat.zero_le _, rfl, by rw [Excerpt.ofOctets, Ring.skip_zero hvalid]; rfl⟩
  -- where spans and excerpts are is told by any ring that holds the bytes
  obtain ⟨held, hheld, hbytes⟩ := exists_ring bytes
  have hspans := (hring hheld hbytes).2
  have hexcerpts := (hwindow hheld (hbytes.trans (List.append_nil bytes).symm)).2
  refine ⟨(readEach kinds (Span.ofOctets bytes)).map fun (o, s) ↦ (o, s.position),
    (readEach kinds (Excerpt.ofOctets bytes)).map fun (o, x) ↦ (o, x.consumed),
    ?_, fun ring hvalid hcontents ↦ ?_, fun ring behind hvalid hcontents ↦ ?_, ?_,
    takeWhile_readEach kinds bytes 0⟩
  · rw [List.map_map]
    refine (List.map_id _).symm.trans (List.map_congr_left fun read hread ↦ ?_)
    obtain ⟨-, hrest, -⟩ := hspans read hread
    obtain ⟨outcome, ⟨rest, position⟩⟩ := read
    rw [hbytes] at hrest
    exact congrArg (fun rest ↦ (outcome, (⟨rest, position⟩ : Span))) hrest
  · rw [List.map_map]
    exact (hring hvalid hcontents).1
  · rw [List.map_map, (hwindow hvalid hcontents).1]
    simp only [Nat.zero_add]
    rfl
  · intro read hread
    rcases List.mem_append.1 hread with hread | hread
    · obtain ⟨⟨outcome, span⟩, hmem, rfl⟩ := List.mem_map.1 hread
      have hle := (hspans _ hmem).1
      rwa [← Ring.length_contents, hbytes] at hle
    · obtain ⟨⟨outcome, excerpt⟩, hmem, rfl⟩ := List.mem_map.1 hread
      exact (hexcerpts _ hmem).1

/-- A byte, a string that does not end where it should, a header of neither kind, and three bytes in
which the fourth read is cut short, in a ring in which they go around the end. The span has used up
the three bytes then, so its fifth read is cut short as well, and that of the window is not. -/
theorem alike_of_cut_field :
    let kinds : List Kind := [.u8, .string, .header, .u32, .u16]
    let bytes : Octets := [7, 1, 0, 0, 0, 97, 0, 0x34, 0x12, 2, 0, 0, 0, 1, 0, 0]
    let ring := (((Ring.ofCapacity 32).write (List.replicate 24 0)).value.skip 24).write
      (bytes ++ [5]) |>.value
    ring.Valid ∧ ring.contents = bytes ++ [5]
      ∧ (readEach kinds (Span.ofOctets bytes)).map (fun read ↦ Decoder.wasCut read.1)
        = [false, false, false, true, true]
      ∧ (readEach kinds (Window.ofRing ring bytes.length)).map (fun read ↦ Decoder.wasCut read.1)
        = [false, false, false, true, false]
      ∧ ∃ spans windows : List (Except Fault Value × Nat),
          readEach kinds (Span.ofOctets bytes) = spans.map (fun (o, n) ↦ (o, ⟨bytes.drop n, n⟩))
            ∧ readEach kinds (Window.ofRing ring bytes.length)
              = windows.map (fun (o, n) ↦ (o, ⟨ring.skip n, bytes.length - n, n⟩))
            ∧ windows.takeWhile (fun read ↦ !Decoder.wasCut read.1)
              = spans.takeWhile (fun read ↦ !Decoder.wasCut read.1) := by
  intro kinds bytes ring
  have hfilled : ((Ring.ofCapacity 32).write (List.replicate 24 0)).value.Valid :=
    Ring.valid_write (Ring.valid_ofCapacity 32) _
  have hring : ring.Valid := Ring.valid_write (Ring.valid_skip hfilled (by decide +kernel)) _
  have hcontents : ring.contents = bytes ++ [5] := by decide +kernel
  obtain ⟨spans, windows, hspan, -, hwindow, -, htake, -⟩ := alike_of_bytes bytes kinds
  exact ⟨hring, hcontents, by decide +kernel, by decide +kernel, spans, windows, hspan,
    hwindow ring [5] hring hcontents, htake⟩

end Source

end ParcelLink
