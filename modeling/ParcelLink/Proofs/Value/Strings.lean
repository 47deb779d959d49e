import ParcelLink.Proofs.Value.Readers
import ParcelLink.Proofs.Value.Strictness

/-!
# What is read as a string

Bytes that a string is read from begin with a count that stands for an absent string, or with a
field: a count, as many units, and the units that end the field (`StringField`). If they begin with
neither, some of the field is missing. Which it is decides what the read makes of them
(`StringLaw`): a string if the units at the end are all zero, and their bits if they are not.

Numbers and units are exact, which is to say that a decoder of them reads all that can be written
and that only missing bytes make it fail (`Decoder.Exact`), so the cases follow the fields
(`Decoder.string_cases`). The three readers all keep the law, wherever they stand
(`Decoder.string_grammar`).

A string that was read is written with the units of its field, but for the surrogates without
partners (`StringField.encodeString_text`).

## Main definitions

* `Decoder.Exact`: a decoder of all that can be written.
* `StringField`: the field of a string, with any units at its end.
* `StringLaw`, `StringRead`: what the read of a string makes of bytes.
-/

namespace ParcelLink

/-! ### The field of a string -/

/-- The number of units that end a field of `length` units. -/
def endingCount (length : Nat) : Nat := if length % 2 = 0 then 2 else 1

/-- The bits of the units that end a field, or-ed together. -/
def endingBits (ending : List UInt16) : UInt32 :=
  ending.foldr (fun unit bits ↦ unit.toUInt32 ||| bits) 0

/-- No bits are left exactly if all units are zero. -/
theorem endingBits_eq_zero_iff {ending : List UInt16} :
    endingBits ending = 0 ↔ ∀ unit ∈ ending, unit = 0 := by
  induction ending with
  | nil => simp [endingBits]
  | cons unit ending ih =>
    have hunit : unit.toUInt32 = 0 ↔ unit = 0 := by
      rw [← UInt32.toNat_inj, ← UInt16.toNat_inj]
      rfl
    rw [List.forall_mem_cons, ← ih, ← hunit]
    exact UInt32.or_eq_zero_iff

/-- The field of a string: units that are not too many to be counted, and behind them one or two
units, which ought to be zero. -/
structure StringField where
  /-- The units of the string. -/
  units : List UInt16
  /-- The units behind them. -/
  ending : List UInt16
  length_lt : units.length < absentThreshold.toNat
  length_ending : ending.length = endingCount units.length

namespace StringField

/-- The bytes of a field: the count of its units, the units, and those that end it. -/
def encode (f : StringField) : Octets :=
  encodeU32 (UInt32.ofNat f.units.length) ++ (f.units.flatMap encodeU16
    ++ f.ending.flatMap encodeU16)

/-- Whether a field ends with zero units only. -/
def IsClosed (f : StringField) : Prop := ∀ unit ∈ f.ending, unit = 0

/-- What a field is read as. -/
def outcome (f : StringField) : Except Fault (Option String) :=
  if endingBits f.ending = 0 then .ok (some (Utf16.text f.units))
  else .error (.malformedString (endingBits f.ending))

/-- The field with the replacement character for each surrogate that has no partner. -/
def mended (f : StringField) : StringField where
  units := Utf16.mend f.units
  ending := f.ending
  length_lt := by
    rw [Utf16.length_mend]
    exact f.length_lt
  length_ending := by
    rw [Utf16.length_mend]
    exact f.length_ending

/-- A closed field is read as a string, and any other is refused. -/
theorem outcome_cases (f : StringField) :
    f.IsClosed ∧ f.outcome = .ok (some (Utf16.text f.units))
      ∨ ¬ f.IsClosed ∧ f.outcome = .error (.malformedString (endingBits f.ending)) := by
  by_cases hclosed : f.IsClosed
  · exact .inl ⟨hclosed, if_pos (endingBits_eq_zero_iff.2 hclosed)⟩
  · exact .inr ⟨hclosed, if_neg (mt endingBits_eq_zero_iff.1 hclosed)⟩

theorem outcome_eq_some_iff {f : StringField} {text : String} :
    f.outcome = .ok (some text) ↔ f.IsClosed ∧ text = Utf16.text f.units := by
  rcases f.outcome_cases with ⟨hclosed, houtcome⟩ | ⟨hopen, houtcome⟩
  · simp [hclosed, houtcome, eq_comm]
  · simp [hopen, houtcome]

theorem outcome_eq_malformed_iff {f : StringField} {bits : UInt32} :
    f.outcome = .error (.malformedString bits)
      ↔ ¬ f.IsClosed ∧ bits = endingBits f.ending := by
  rcases f.outcome_cases with ⟨hclosed, houtcome⟩ | ⟨hopen, houtcome⟩
  · simp [hclosed, houtcome]
  · simp [hopen, houtcome, eq_comm]

/-- What is read of a field is neither an absent string nor cut short. -/
theorem outcome_settled (f : StringField) :
    f.outcome ≠ .ok none ∧ Decoder.wasCut f.outcome = false := by
  rcases f.outcome_cases with ⟨-, houtcome⟩ | ⟨-, houtcome⟩ <;> rw [houtcome] <;> exact ⟨nofun, rfl⟩

/-- The count of a field tells how many units there are, and marks no absent string. -/
theorem toNat_count (f : StringField) :
    (UInt32.ofNat f.units.length).toNat = f.units.length
      ∧ ¬ absentThreshold ≤ UInt32.ofNat f.units.length := by
  have hcount := UInt32.toNat_ofNat_of_lt' (Nat.lt_trans f.length_lt (by decide))
  refine ⟨hcount, ?_⟩
  rw [UInt32.le_iff_toNat_le, hcount]
  exact Nat.not_le.2 f.length_lt

/-- A field takes four bytes for the count, two for each unit, and two or four for the end. -/
theorem length_encode (f : StringField) :
    f.encode.length = 4 + 2 * f.units.length + if f.units.length % 2 = 0 then 4 else 2 := by
  rw [encode, List.length_append, List.length_append, length_flatMap_encodeU16,
    length_flatMap_encodeU16, f.length_ending, endingCount, encodeU32, Octets.length_little]
  split <;> omega

/-- **A field fills words of four bytes.** -/
theorem four_dvd_length_encode (f : StringField) : 4 ∣ f.encode.length := by
  rw [length_encode]
  split <;> omega

/-- The end of a closed field is the one that is written. -/
theorem flatMap_ending {f : StringField} (h : f.IsClosed) :
    f.ending.flatMap encodeU16 = delimiter f.units.length := by
  rw [List.eq_replicate_of_mem h, f.length_ending, endingCount, delimiter]
  by_cases heven : f.units.length % 2 = 0
  · rw [if_pos heven, if_pos heven]
    rfl
  · rw [if_neg heven, if_neg heven]
    rfl

/-- **What was read from a field is written with the units of the field**, but for the surrogates
without partners. -/
theorem encodeString_text {f : StringField} (h : f.IsClosed) :
    encodeString (some (Utf16.text f.units)) = f.mended.encode := by
  have hending : f.mended.ending.flatMap encodeU16 = delimiter f.mended.units.length :=
    flatMap_ending h
  rw [encode, hending, encodeString, Utf16.units_text, List.append_assoc]
  rfl

end StringField

namespace Decoder

variable {α β : Type}

/-! ### Exact decoders -/

/-- A decoder reads all that can be written, and only missing bytes make it fail. -/
structure Exact (x : Decoder α) (write : α → Octets) (P : α → Prop) : Prop where
  reads : ∀ a, P a → Reads x (write a) a
  covers : ∀ bytes, (∃ a behind, P a ∧ bytes = write a ++ behind) ∨ x.CutShort bytes

theorem exact_u16 : Exact Decoder.u16 encodeU16 fun _ ↦ True where
  reads n _ := reads_u16 n
  covers bytes := by
    rcases number_covers 2 bytes with ⟨n, behind, hn, rfl⟩ | hcut
    · exact .inl ⟨UInt16.ofNat n, behind, trivial, by rw [encodeU16, UInt16.toNat_ofNat_of_lt' hn]⟩
    · exact .inr (hcut.bind _)

theorem exact_u32 : Exact Decoder.u32 encodeU32 fun _ ↦ True where
  reads n _ := reads_u32 n
  covers bytes := by
    rcases number_covers 4 bytes with ⟨n, behind, hn, rfl⟩ | hcut
    · exact .inl ⟨UInt32.ofNat n, behind, trivial, by rw [encodeU32, UInt32.toNat_ofNat_of_lt' hn]⟩
    · exact .inr (hcut.bind _)

theorem Exact.manyOnto_covers {item : Decoder α} {write : α → Octets} {P : α → Prop}
    (h : item.Exact write P) (count : Nat) (read : List α) (bytes : Octets) :
    (∃ (items : List α) (behind : Octets), (items.length = count ∧ ∀ a ∈ items, P a)
        ∧ bytes = items.flatMap write ++ behind)
      ∨ (manyOnto item count read).CutShort bytes := by
  induction count generalizing read bytes with
  | zero => exact .inl ⟨[], bytes, ⟨rfl, nofun⟩, rfl⟩
  | succ count ih =>
    rcases h.covers bytes with ⟨a, behind, ha, rfl⟩ | hcut
    · rcases ih (a :: read) behind with ⟨items, behind, ⟨hlength, hitems⟩, rfl⟩ | hcut
      · refine .inl ⟨a :: items, behind, ⟨congrArg (· + 1) hlength, ?_⟩, ?_⟩
        · exact List.forall_mem_cons.2 ⟨ha, hitems⟩
        · rw [List.flatMap_cons, List.append_assoc]
      · exact .inr ((h.reads a ha).cutShort_bind hcut)
    · exact .inr (hcut.bind _)

/-- **Items in sequence are exact if each is.** -/
theorem Exact.many {item : Decoder α} {write : α → Octets} {P : α → Prop}
    (h : item.Exact write P) (count : Nat) :
    (many item count).Exact (fun items ↦ items.flatMap write)
      fun items ↦ items.length = count ∧ ∀ a ∈ items, P a where
  reads := by
    rintro items ⟨rfl, hitems⟩
    exact reads_many fun a ha ↦ h.reads a (hitems a ha)
  covers := h.manyOnto_covers count []

/-- Units are exact. -/
theorem exact_units (count : Nat) :
    (many Decoder.u16 count).Exact (fun units ↦ units.flatMap encodeU16)
      fun units ↦ units.length = count := by
  have hunits := exact_u16.many count
  simp only [implies_true, and_true] at hunits
  exact hunits

/-! ### The cases of a string -/

/-- The bits at the end of a field are those of as many units as there ought to be. -/
theorem delimiterBits_eq (length : UInt32) :
    delimiterBits length = endingBits <$> many Decoder.u16 (endingCount length.toNat) := by
  unfold delimiterBits endingCount
  by_cases heven : length % 2 = 0
  · simp [heven, (even_iff length).1 heven, many, manyOnto, endingBits]
  · simp [heven, mt (even_iff length).2 heven, many, manyOnto, endingBits]

/-- What is read of the field of a string, behind the count. -/
def field (length : UInt32) : Decoder (Option String) := do
  let units ← many u16 length.toNat
  let ending ← many u16 (endingCount length.toNat)
  if endingBits ending ≠ 0 then fail (.malformedString (endingBits ending))
  return some (Utf16.text units)

theorem string_eq : Decoder.string = (do
    let length ← u32
    if absentThreshold ≤ length then return none
    field length) := by
  unfold Decoder.string field
  simp only [delimiterBits_eq, bind_map_left]

/-- A count that stands for an absent string is all that is read. -/
theorem string_onBody_absent {n : UInt32} (h : absentThreshold ≤ n) (behind : Octets) :
    Decoder.string.onBody (encodeU32 n ++ behind) = (.ok none, 4) := by
  rw [string_eq, (reads_u32 n).onBody_bind, if_pos h, encodeU32, Octets.length_little]
  rfl

/-- **A field is read in full**, and its end decides. -/
theorem string_onBody_field (f : StringField) (behind : Octets) :
    Decoder.string.onBody (f.encode ++ behind) = (f.outcome, f.encode.length) := by
  obtain ⟨hcount, hpresent⟩ := f.toNat_count
  have hunits := (exact_units f.units.length).reads f.units rfl
  have hending := (exact_units _).reads f.ending f.length_ending
  rw [string_eq, StringField.encode, List.append_assoc, List.append_assoc,
    (reads_u32 _).onBody_bind, if_neg hpresent, field, hcount, hunits.onBody_bind,
    hending.onBody_bind, StringField.outcome]
  by_cases hbits : endingBits f.ending = 0
  · rw [if_neg (not_not.2 hbits), if_pos hbits]
    simp only [List.length_append]
    rfl
  · rw [if_pos hbits, if_neg hbits]
    simp only [List.length_append]
    rfl

/-- The units of a field, or some of them are missing. -/
theorem field_cases {n : UInt32} (h : ¬ absentThreshold ≤ n) (bytes : Octets) :
    (∃ (f : StringField) (behind : Octets), encodeU32 n ++ bytes = f.encode ++ behind)
      ∨ (field n).CutShort bytes := by
  rcases (exact_units n.toNat).covers bytes with ⟨units, bytes, hunits, rfl⟩ | hcut
  · have hreads := (exact_units n.toNat).reads units hunits
    rcases (exact_units (endingCount n.toNat)).covers bytes
      with ⟨ending, behind, hending, rfl⟩ | hcut
    · have hlt : units.length < absentThreshold.toNat := by
        rw [hunits, ← Nat.not_le, ← UInt32.le_iff_toNat_le]
        exact h
      refine .inl ⟨⟨units, ending, hlt, by rw [hending, hunits]⟩, behind, ?_⟩
      simp only [StringField.encode, hunits, UInt32.ofNat_toNat, List.append_assoc]
    · exact .inr (hreads.cutShort_bind (hcut.bind _))
  · exact .inr (hcut.bind _)

/-- **What bytes begin with when a string is read from them**: a count that stands for an absent
string, or a field, or a part of one. -/
theorem string_cases (bytes : Octets) :
    (∃ n behind, absentThreshold ≤ n ∧ bytes = encodeU32 n ++ behind)
      ∨ (∃ (f : StringField) (behind : Octets), bytes = f.encode ++ behind)
      ∨ Decoder.string.CutShort bytes := by
  rw [string_eq]
  rcases exact_u32.covers bytes with ⟨n, bytes, -, rfl⟩ | hcut
  · by_cases habsent : absentThreshold ≤ n
    · exact .inl ⟨n, bytes, habsent, rfl⟩
    · refine .inr ((field_cases habsent bytes).imp_right fun hcut ↦ (reads_u32 n).cutShort_bind ?_)
      rw [if_neg habsent]
      exact hcut
  · exact .inr (.inr (hcut.bind _))

end Decoder

/-! ### Writing what was read -/

namespace StringField

theorem length_encode_mended (f : StringField) : f.mended.encode.length = f.encode.length := by
  have hlength : f.mended.units.length = f.units.length := Utf16.length_mend f.units
  rw [length_encode, length_encode, hlength]

/-- **A field is written as it was read exactly if its units are well-formed.** -/
theorem encode_mended_eq_iff (f : StringField) :
    f.mended.encode = f.encode ↔ Utf16.WellFormed f.units := by
  rw [← Utf16.units_text_eq_iff, Utf16.units_text]
  have hlength : f.mended.units.length = f.units.length := Utf16.length_mend f.units
  constructor
  · intro heq
    rw [encode, encode, hlength, List.append_cancel_left_eq] at heq
    obtain ⟨hunits, -⟩ := List.append_inj heq (by simp only [length_flatMap_encodeU16, hlength])
    have hmended := (Decoder.exact_units f.units.length).reads f.mended.units hlength
    have hread := (Decoder.exact_units f.units.length).reads f.units rfl
    simp only [hunits] at hmended
    exact hmended.inj hread
  · intro heq
    have hmended : f.mended.units = f.units := heq
    have hending : f.mended.ending = f.ending := rfl
    rw [encode, hmended, hending, encode]

end StringField

/-! ### The law of strings -/

/-- Whether bytes begin with a count that stands for an absent string. -/
def BeginsAbsent (bytes : Octets) : Prop :=
  ∃ n behind, absentThreshold ≤ n ∧ bytes = encodeU32 n ++ behind

/-- Whether bytes begin with this field. -/
def StringField.Begins (f : StringField) (bytes : Octets) : Prop :=
  ∃ behind, bytes = f.encode ++ behind

/-- What the read of a string makes of bytes, and how many it takes. -/
structure StringLaw (bytes : Octets) (outcome : Except Fault (Option String)) (taken : Nat) :
    Prop where
  /-- A string is absent exactly if the bytes begin with a count that says so. -/
  absent_iff : outcome = .ok none ↔ BeginsAbsent bytes
  /-- A string is read exactly if the bytes begin with its field, which ends with zero units. -/
  present_iff (text : String) : outcome = .ok (some text) ↔
    ∃ f : StringField, f.Begins bytes ∧ f.IsClosed ∧ text = Utf16.text f.units
  /-- The end is refused exactly if all of it is there and it is not all zero, with its bits. -/
  malformed_iff (bits : UInt32) : outcome = .error (.malformedString bits) ↔
    ∃ f : StringField, f.Begins bytes ∧ ¬ f.IsClosed ∧ bits = endingBits f.ending
  /-- Else the read is cut short. -/
  cut_iff : Decoder.wasCut outcome = true ↔
    ¬ BeginsAbsent bytes ∧ ∀ f : StringField, ¬ f.Begins bytes
  /-- Of an absent string only the count is taken. -/
  taken_of_absent : BeginsAbsent bytes → taken = 4
  /-- A field is taken in full. -/
  taken_of_field (f : StringField) : f.Begins bytes → taken = f.encode.length

/-- What comes of each of the cases. -/
structure StringCases (bytes : Octets) (outcome : Except Fault (Option String)) (taken : Nat) :
    Prop where
  absent : BeginsAbsent bytes → outcome = .ok none ∧ taken = 4
  field (f : StringField) : f.Begins bytes → outcome = f.outcome ∧ taken = f.encode.length
  cut : ¬ BeginsAbsent bytes → (∀ f : StringField, ¬ f.Begins bytes) →
    Decoder.wasCut outcome = true

namespace StringCases

variable {bytes : Octets} {outcome : Except Fault (Option String)} {taken : Nat}

theorem absent_iff (h : StringCases bytes outcome taken) :
    outcome = .ok none ↔ BeginsAbsent bytes := by
  refine ⟨fun hnone ↦ ?_, fun habsent ↦ (h.absent habsent).1⟩
  by_cases habsent : BeginsAbsent bytes
  · exact habsent
  · have hcut := h.cut habsent fun f hf ↦ f.outcome_settled.1 ((h.field f hf).1.symm.trans hnone)
    rw [hnone] at hcut
    cases hcut

/-- Whatever is not an absent string and not cut short was read of a field. -/
theorem eq_iff (h : StringCases bytes outcome taken) {o : Except Fault (Option String)}
    (hnone : o ≠ .ok none) (hcut : Decoder.wasCut o = false) :
    outcome = o ↔ ∃ f : StringField, f.Begins bytes ∧ f.outcome = o := by
  constructor
  · rintro rfl
    by_cases hfield : ∃ f : StringField, f.Begins bytes ∧ f.outcome = outcome
    · exact hfield
    · have hbegins : ∀ f : StringField, ¬ f.Begins bytes := fun f hf ↦
        hfield ⟨f, hf, (h.field f hf).1.symm⟩
      rw [h.cut (mt h.absent_iff.2 hnone) hbegins] at hcut
      cases hcut
  · rintro ⟨f, hf, rfl⟩
    exact (h.field f hf).1

/-- The law holds if each of the cases comes out as it should. -/
theorem law (h : StringCases bytes outcome taken) : StringLaw bytes outcome taken where
  absent_iff := h.absent_iff
  present_iff text := by
    refine (h.eq_iff (o := .ok (some text)) nofun rfl).trans ?_
    simp only [StringField.outcome_eq_some_iff]
  malformed_iff bits := by
    refine (h.eq_iff (o := .error (.malformedString bits)) nofun rfl).trans ?_
    simp only [StringField.outcome_eq_malformed_iff]
  cut_iff := by
    refine ⟨fun hcut ↦ ⟨fun habsent ↦ ?_, fun f hf ↦ ?_⟩,
      fun ⟨habsent, hfield⟩ ↦ h.cut habsent hfield⟩
    · rw [(h.absent habsent).1] at hcut
      cases hcut
    · rw [(h.field f hf).1, f.outcome_settled.2] at hcut
      cases hcut
  taken_of_absent habsent := (h.absent habsent).2
  taken_of_field f hf := (h.field f hf).2

end StringCases

/-- **Bytes by themselves are read by the law.** -/
theorem Decoder.string_onBody_cases (bytes : Octets) :
    StringCases bytes (Decoder.string.onBody bytes).1 (Decoder.string.onBody bytes).2 where
  absent := by
    rintro ⟨n, behind, hn, rfl⟩
    rw [string_onBody_absent hn]
    exact ⟨rfl, rfl⟩
  field := by
    rintro f ⟨behind, rfl⟩
    rw [string_onBody_field]
    exact ⟨rfl, rfl⟩
  cut habsent hfield := by
    rcases string_cases bytes with habsent' | ⟨f, hf⟩ | ⟨needed, left, hcut⟩
    · exact absurd habsent' habsent
    · exact absurd hf (hfield f)
    · rw [hcut]
      rfl

/-- A read of a string keeps the law, and leaves its source as it is behind the bytes that were
taken. -/
def StringRead {σ : Type} (bytes : Octets) (behind : Nat → σ)
    (read : Except Fault (Option String) × σ) : Prop :=
  ∃ taken ≤ bytes.length, read.2 = behind taken ∧ StringLaw bytes read.1 taken

namespace Decoder

theorem stringRead_excerpt (bytes : Octets) (place : Nat) :
    StringRead bytes (fun n ↦ ⟨bytes.drop n, place + n⟩)
      (Decoder.string.run.run (⟨bytes, place⟩ : Excerpt)) := by
  obtain ⟨hrun, hle⟩ := Decoder.string.run_excerpt_eq bytes place
  refine ⟨_, hle, congrArg Prod.snd hrun, ?_⟩
  rw [hrun]
  exact (string_onBody_cases bytes).law

/-- A span is read as an excerpt is, or both are cut short. -/
theorem stringRead_span (bytes : Octets) (place : Nat) :
    StringRead bytes (fun n ↦ ⟨bytes.drop n, place + n⟩)
      (Decoder.string.run.run (⟨bytes, place⟩ : Span)) := by
  obtain ⟨n, hn, hplace⟩ := Span.run_eq Decoder.string.run ⟨bytes, place⟩
  obtain ⟨m, -, hexcerpt, hlaw⟩ := stringRead_excerpt bytes place
  refine ⟨n, hn, hplace, ?_⟩
  rcases level_string bytes place with ⟨houtcome, -, -, hsame⟩ | ⟨hspan, hcut⟩
  · rw [hplace, hexcerpt] at hsame
    obtain rfl : n = m := Nat.add_left_cancel hsame
    rw [houtcome]
    exact hlaw
  · obtain ⟨habsent, hfield⟩ := hlaw.cut_iff.1 hcut
    exact StringCases.law ⟨fun h ↦ absurd h habsent, fun f hf ↦ absurd hf (hfield f),
      fun _ _ ↦ hspan⟩

theorem stringRead_ring {ring : Ring} (h : ring.Valid) :
    StringRead ring.contents ring.skip (Decoder.string.run.run ring) := by
  obtain ⟨houtcome, -, -, hring⟩ := (Ring.agree_skip h).run Decoder.string.run
    (s := ring) (t := Span.ofOctets ring.contents)
    ⟨Nat.zero_le _, rfl, (Ring.skip_zero h).symm⟩
  obtain ⟨n, hn, hplace, hlaw⟩ := stringRead_span ring.contents 0
  refine ⟨n, hn, ?_, ?_⟩
  · simp only [hring, Span.ofOctets, hplace, Nat.zero_add]
  · rw [houtcome]
    exact hlaw

theorem stringRead_window {ring : Ring} (h : ring.Valid) {bytes others : Octets}
    (hcontents : ring.contents = bytes ++ others) (place : Nat) :
    StringRead bytes (fun n ↦ ⟨ring.skip n, bytes.length - n, place + n⟩)
      (Decoder.string.run.run (⟨ring, bytes.length, place⟩ : Window)) := by
  obtain ⟨houtcome, -, -, hwindow⟩ := (Window.agree_skip h hcontents place).run Decoder.string.run
    (s := ⟨ring, bytes.length, place⟩) (t := Excerpt.ofOctets bytes)
    ⟨Nat.zero_le _, rfl, by rw [Excerpt.ofOctets, Ring.skip_zero h]; rfl⟩
  obtain ⟨n, hn, hplace, hlaw⟩ := stringRead_excerpt bytes 0
  refine ⟨n, hn, ?_, ?_⟩
  · simp only [hwindow, Excerpt.ofOctets, hplace, Nat.zero_add]
  · rw [houtcome]
    exact hlaw

/-- **A string is read by the law**, from a span, from a ring that holds the bytes, and through a
window on a ring that holds them in front of others, whatever was read before. A field takes whole
words, and what was read of one is written with as many bytes: those of the field with each
surrogate that has no partner replaced, which are those of the field exactly if every surrogate has
its partner. -/
theorem string_grammar (bytes : Octets) :
    (∀ place, StringRead bytes (fun n ↦ ⟨bytes.drop n, place + n⟩)
        (Decoder.string.run.run (⟨bytes, place⟩ : Span)))
      ∧ (∀ ring : Ring, ring.Valid → ring.contents = bytes →
          StringRead bytes ring.skip (Decoder.string.run.run ring))
      ∧ (∀ (ring : Ring) (others : Octets) (place : Nat), ring.Valid →
          ring.contents = bytes ++ others →
          StringRead bytes (fun n ↦ ⟨ring.skip n, bytes.length - n, place + n⟩)
            (Decoder.string.run.run (⟨ring, bytes.length, place⟩ : Window)))
      ∧ ∀ f : StringField, f.Begins bytes →
          (f.encode.length = 4 + 2 * f.units.length + if f.units.length % 2 = 0 then 4 else 2)
            ∧ 4 ∣ f.encode.length
            ∧ (f.IsClosed →
              encodeString (some (Utf16.text f.units)) = f.mended.encode
                ∧ (encodeString (some (Utf16.text f.units))).length = f.encode.length
                ∧ (encodeString (some (Utf16.text f.units)) = f.encode
                  ↔ Utf16.WellFormed f.units)) := by
  refine ⟨stringRead_span bytes, ?_, fun ring others place hvalid hcontents ↦
    stringRead_window hvalid hcontents place, fun f _ ↦
    ⟨f.length_encode, f.four_dvd_length_encode, fun hclosed ↦ ?_⟩⟩
  · rintro ring hvalid rfl
    exact stringRead_ring hvalid
  · rw [StringField.encodeString_text hclosed]
    exact ⟨rfl, f.length_encode_mended, f.encode_mended_eq_iff⟩

/-- A low surrogate, a pair and a high surrogate, behind other bytes and around the end of a ring. -/
theorem string_grammar_of_unpaired :
    let f : StringField := ⟨[0xdc00, 0xd83d, 0xde00, 0xd800], [0, 0], by decide, by decide⟩
    let ring := (((Ring.ofCapacity 32).write (List.replicate 24 0)).value.skip 24).write
      (f.encode ++ [5]) |>.value
    ring.Valid ∧ ring.contents = f.encode ++ [5] ∧ f.IsClosed
      ∧ Decoder.string.run.run (⟨ring, f.encode.length, 3⟩ : Window)
        = (.ok (some (Utf16.text f.units)), ⟨ring.skip 16, 0, 19⟩)
      ∧ Utf16.units (Utf16.text f.units) = [0xfffd, 0xd83d, 0xde00, 0xfffd]
      ∧ encodeString (some (Utf16.text f.units)) = f.mended.encode
      ∧ ¬ Utf16.WellFormed f.units := by
  intro f ring
  have hfilled : ((Ring.ofCapacity 32).write (List.replicate 24 0)).value.Valid :=
    Ring.valid_write (Ring.valid_ofCapacity 32) _
  have hring : ring.Valid := Ring.valid_write (Ring.valid_skip hfilled (by decide +kernel)) _
  have hcontents : ring.contents = f.encode ++ [5] := by decide +kernel
  have hbegins : f.Begins f.encode := ⟨[], (List.append_nil _).symm⟩
  have hclosed : f.IsClosed := by
    intro unit hunit
    exact List.eq_of_mem_replicate (n := 2) hunit
  obtain ⟨-, -, hwindow, hfield⟩ := string_grammar f.encode
  obtain ⟨taken, -, hplace, hlaw⟩ := hwindow ring [5] 3 hring hcontents
  obtain ⟨-, -, hwritten⟩ := hfield f hbegins
  obtain ⟨hmended, -, hformed⟩ := hwritten hclosed
  have houtcome := (hlaw.present_iff (Utf16.text f.units)).2 ⟨f, hbegins, hclosed, rfl⟩
  obtain rfl : taken = 16 := hlaw.taken_of_field f hbegins
  refine ⟨hring, hcontents, hclosed, Prod.ext houtcome hplace, by decide +kernel, hmended, ?_⟩
  rw [← hformed]
  decide +kernel

end Decoder

end ParcelLink
