import ParcelLink.Proofs.Reading.Strictness
import ParcelLink.Proofs.Text.Pairing

/-!
# Values are read strictly

Whatever value is read, it was taken from as many bytes as it is written with, and it can be told
from these (`Value.Fill`). This holds of bytes that no value is written with as well: a string with a
surrogate without its partner, an absent string with another length than the one that is written, a
truth value beyond one.

Decoders of records and lists have this from their parts, the bytes of which add up
(`Value.Fill.append`, `Decoder.strict_many`).

## Main definitions

* `Value.Fill`: values that are written with a number of bytes, and can be told from them.
-/

namespace ParcelLink

/-! ### Values and their bytes -/

/-- Values that are written with so many bytes, and can be told from them. -/
structure Value.Fill (values : List Value) (n : Nat) : Prop where
  length_eq : (values.flatMap Value.encode).length = n
  fits : ∀ v ∈ values, v.Fits

namespace Value.Fill

variable {values others : List Value} {n m : Nat}

theorem nil : Fill [] 0 := ⟨rfl, nofun⟩

theorem append (h : Fill values n) (h' : Fill others m) : Fill (values ++ others) (n + m) := by
  refine ⟨?_, fun v hv ↦ ?_⟩
  · rw [List.flatMap_append, List.length_append, h.length_eq, h'.length_eq]
  · exact (List.mem_append.1 hv).elim (h.fits v) (h'.fits v)

theorem cons {v : Value} (h : Fill [v] n) (h' : Fill values m) : Fill (v :: values) (n + m) :=
  h.append h'

/-- A list is written as its count and its items. -/
theorem list {α : Type} {v : α → Value} {items : List α}
    (h : Fill (.u32 (UInt32.ofNat items.length) :: items.flatMap fun a ↦ [v a]) n) :
    (encodeList (fun a ↦ (v a).encode) items).length = n := by
  rw [← h.length_eq, List.flatMap_cons, List.flatMap_assoc]
  simp only [List.flatMap_singleton]
  rfl

end Value.Fill

theorem length_flatMap_encodeU16 (units : List UInt16) :
    (units.flatMap encodeU16).length = 2 * units.length := by
  induction units with
  | nil => rfl
  | cons unit units ih =>
    rw [List.flatMap_cons, List.length_append, ih, List.length_cons, encodeU16,
      Octets.length_little]
    omega

theorem length_encodeString (text : String) :
    (encodeString (some text)).length
      = 4 + (2 * (Utf16.units text).length + (delimiter (Utf16.units text).length).length) := by
  rw [encodeString, List.length_append, List.length_append, length_flatMap_encodeU16, encodeU32,
    Octets.length_little, Nat.add_assoc]

namespace Decoder

open Value (Fill)

variable {α : Type}

/-! ### Numbers -/

/-- Every number of this width is written with as many bytes. -/
theorem strict_u32 : Decoder.u32.Strict fun n _ ↦ ∀ k, Fill [.u32 k] n := by
  refine (strict_number 4).map ?_
  rintro _ _ rfl k
  exact ⟨by simp [Value.encode, encodeU32], by simp [Value.Fits]⟩

theorem strict_u16 : Decoder.u16.Strict fun n _ ↦ n = 2 :=
  (strict_number 2).map fun _ _ h ↦ h

/-- A truth value beyond one takes no other room than one. -/
theorem strict_bool : Decoder.bool.Strict fun n _ ↦ ∀ b, Fill [.bool b] n :=
  strict_u32.map fun _ _ h b ↦ ⟨(h (if b then 1 else 0)).length_eq, by simp [Value.Fits]⟩

/-! ### Items in sequence -/

theorem strict_manyOnto {item : Decoder α} {P : Nat → List α → Prop} (hnil : P 0 [])
    {Q : Nat → α → Prop} (hcons : ∀ n a m items, Q n a → P m items → P (n + m) (a :: items))
    (h : item.Strict Q) (count : Nat) (read : List α) :
    (manyOnto item count read).Strict fun n items ↦
      ∃ new, items = read.reverse ++ new ∧ new.length = count ∧ P n new := by
  induction count generalizing read with
  | zero => exact .pure ⟨[], (List.append_nil _).symm, rfl, hnil⟩
  | succ count ih =>
    refine h.bind fun n a ha ↦ (ih (a :: read)).mono ?_
    rintro m _ ⟨new, rfl, hlength, hnew⟩
    exact ⟨a :: new, by simp, congrArg (· + 1) hlength, hcons n a m new ha hnew⟩

/-- **Items in sequence are strict if each is**, and what is told of them adds up. -/
theorem strict_many {item : Decoder α} {P : Nat → List α → Prop} (hnil : P 0 [])
    {Q : Nat → α → Prop} (hcons : ∀ n a m items, Q n a → P m items → P (n + m) (a :: items))
    (h : item.Strict Q) (count : Nat) :
    (many item count).Strict fun n items ↦ items.length = count ∧ P n items :=
  (strict_manyOnto hnil hcons h count []).mono fun _ _ ⟨_, heq, hlength, hnew⟩ ↦
    heq ▸ ⟨hlength, hnew⟩

/-- Records in sequence fill what the fields of each fill. -/
theorem strict_records {item : Decoder α} {fields : α → List Value}
    (h : item.Strict fun n a ↦ Fill (fields a) n) (count : Nat) :
    (many item count).Strict fun n items ↦
      items.length = count ∧ Fill (items.flatMap fields) n :=
  strict_many Fill.nil (fun _ _ _ _ ha hitems ↦ ha.append hitems) h count

/-- A list has no more items than a count can tell, whatever the declared count is. -/
theorem strict_list {item : Decoder α} {fields : α → List Value}
    (h : item.Strict fun n a ↦ Fill (fields a) n) :
    (list item).Strict fun n items ↦ items.length < UInt32.size
      ∧ Fill (.u32 (UInt32.ofNat items.length) :: items.flatMap fields) n := by
  refine strict_u32.bind fun n count hcount ↦ (strict_records h count.toNat).mono ?_
  rintro m items ⟨hlength, hitems⟩
  exact ⟨hlength ▸ count.toNat_lt, (hcount _).cons hitems⟩

/-! ### Strings -/

theorem strict_units (count : Nat) :
    (many Decoder.u16 count).Strict fun n units ↦
      units.length = count ∧ n = 2 * units.length :=
  strict_many rfl (by rintro _ _ _ units rfl rfl; rw [List.length_cons]; omega) strict_u16 count

theorem strict_delimiterBits (length : UInt32) :
    (delimiterBits length).Strict fun n _ ↦ n = (delimiter length.toNat).length := by
  unfold delimiterBits delimiter
  refine strict_u16.bind fun n first hfirst ↦ ?_
  by_cases heven : length % 2 = 0
  · rw [if_pos heven, if_pos ((even_iff length).1 heven)]
    refine strict_u16.bind fun m second hsecond ↦ .pure ?_
    rw [hfirst, hsecond]
    rfl
  · rw [if_neg heven, if_neg (mt (even_iff length).2 heven)]
    refine .pure ?_
    rw [hfirst]
    rfl

/-- **A string takes as many bytes as it is written with**, whatever units it was read from. -/
theorem strict_string : Decoder.string.Strict fun n s ↦ Fill [.string s] n := by
  unfold Decoder.string
  refine strict_u32.bind fun n length hn ↦ ?_
  by_cases habsent : absentThreshold ≤ length
  · rw [if_pos habsent]
    exact .pure ⟨(hn 0).length_eq, by simp [Value.Fits, StringFits]⟩
  · rw [if_neg habsent]
    refine (strict_units length.toNat).bind fun m units hunits ↦ ?_
    refine (strict_delimiterBits length).bind fun k bits hk ↦ ?_
    by_cases hbits : bits ≠ 0
    · rw [if_pos hbits]
      exact (Strict.malformed (P := fun _ _ ↦ False) bits).bind fun _ _ h ↦ h.elim
    -- the units need not be those that the string is written with, but they are as many
    · rw [if_neg hbits]
      have hlength : (Utf16.units (Utf16.text units)).length = length.toNat :=
        (Utf16.length_units_text units).trans hunits.1
      refine .pure ⟨?_, ?_⟩
      · rw [List.flatMap_singleton, Value.encode, length_encodeString, hlength, hk, hunits.2,
          hunits.1, ← (hn 0).length_eq]
        rfl
      · intro v hv
        obtain rfl := List.mem_singleton.1 hv
        rintro text ⟨⟩
        rw [hlength]
        exact Nat.lt_of_not_le fun hle ↦ habsent (UInt32.le_iff_toNat_le.2 hle)

/-! ### Lists of values -/

theorem strict_words : words.Strict fun n ns ↦ Fill [.words ns] n := by
  refine (strict_list (strict_u32.mono fun n k hk ↦ hk k)).mono ?_
  rintro n ns ⟨hsize, hitems⟩
  refine ⟨?_, by simpa [Value.Fits] using hsize⟩
  rw [List.flatMap_singleton]
  exact hitems.list

theorem strict_strings : strings.Strict fun n ss ↦ Fill [.strings ss] n := by
  refine (strict_list strict_string).mono ?_
  rintro n ss ⟨hsize, hitems⟩
  refine ⟨?_, ?_⟩
  · rw [List.flatMap_singleton]
    exact hitems.list
  · intro v hv
    obtain rfl := List.mem_singleton.1 hv
    exact ⟨hsize, fun s hs ↦ hitems.fits (.string s)
      (List.mem_cons_of_mem _ (List.mem_flatMap.2 ⟨s, hs, List.mem_cons_self⟩))⟩

end Decoder

end ParcelLink
