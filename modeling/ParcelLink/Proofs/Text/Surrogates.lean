import ParcelLink.Text.Utf16

/-!
# Strings survive UTF-16

A character is written as units that stand for it alone: one that is no surrogate, or a high and a
low surrogate. So reading takes the units of one character off whatever units follow them
(`Utf16.charsOnto_unitsOf`), and the units of a string spell the string again (`Utf16.text_units`).
-/

namespace ParcelLink.Utf16

/-! ### The numbers of characters -/

theorem toNat_ofNat {n : Nat} (h : n.isValidChar) : (Char.ofNat n).toNat = n := by
  rw [Char.ofNat, dif_pos h]
  rfl

/-- The number of a character lies below the surrogates or above them. -/
theorem toNat_cases (c : Char) : c.toNat < 0xd800 ∨ 0xdfff < c.toNat ∧ c.toNat < 0x110000 := by
  have hvalid := c.valid
  simp only [UInt32.isValidChar, Nat.isValidChar] at hvalid
  simp only [Char.toNat]
  omega

theorem isHigh_iff (unit : UInt16) :
    isHigh unit = true ↔ 0xd800 ≤ unit.toNat ∧ unit.toNat < 0xdc00 := by
  simp [isHigh, UInt16.le_iff_toNat_le, UInt16.lt_iff_toNat_lt]

theorem isLow_iff (unit : UInt16) :
    isLow unit = true ↔ 0xdc00 ≤ unit.toNat ∧ unit.toNat < 0xe000 := by
  simp [isLow, UInt16.le_iff_toNat_le, UInt16.lt_iff_toNat_lt]

/-! ### One character -/

/-- A character of the basic plane is one unit, which is no surrogate. -/
theorem single_ofNat {c : Char} (h : c.toNat < 0x10000) :
    isHigh (UInt16.ofNat c.toNat) = false ∧ single (UInt16.ofNat c.toNat) = c := by
  have hunit : (UInt16.ofNat c.toNat).toNat = c.toNat := UInt16.toNat_ofNat_of_lt h
  have hrange := toNat_cases c
  have hhigh : isHigh (UInt16.ofNat c.toNat) = false := by
    rw [Bool.eq_false_iff, Ne, isHigh_iff, hunit]
    omega
  have hlow : isLow (UInt16.ofNat c.toNat) = false := by
    rw [Bool.eq_false_iff, Ne, isLow_iff, hunit]
    omega
  refine ⟨hhigh, ?_⟩
  rw [single, hhigh, hlow, hunit]
  exact Char.ofNat_toNat c

/-- A character beyond the basic plane is a pair of surrogates. -/
theorem pair_ofNat {c : Char} (h : ¬ c.toNat < 0x10000) :
    let high := UInt16.ofNat (0xd800 + (c.toNat - 0x10000) / 0x400)
    let low := UInt16.ofNat (0xdc00 + (c.toNat - 0x10000) % 0x400)
    isHigh high = true ∧ isLow low = true ∧ pair high low = c := by
  intro high low
  have hrange := toNat_cases c
  have hhigh : high.toNat = 0xd800 + (c.toNat - 0x10000) / 0x400 :=
    UInt16.toNat_ofNat_of_lt (show _ < 0x10000 by omega)
  have hlow : low.toNat = 0xdc00 + (c.toNat - 0x10000) % 0x400 :=
    UInt16.toNat_ofNat_of_lt (show _ < 0x10000 by omega)
  refine ⟨(isHigh_iff high).2 (by omega), (isLow_iff low).2 (by omega), ?_⟩
  have hnumber : 0x10000 + (high.toNat - 0xd800) * 0x400 + (low.toNat - 0xdc00) = c.toNat := by
    omega
  rw [pair, hnumber]
  exact Char.ofNat_toNat c

/-- **The units of a character are read as the character**, whatever units follow. -/
theorem charsOnto_unitsOf (c : Char) (rest : List UInt16) (read : List Char) :
    charsOnto (unitsOf c ++ rest) read = charsOnto rest (c :: read) := by
  by_cases h : c.toNat < 0x10000
  · obtain ⟨hhigh, hsingle⟩ := single_ofNat h
    simp only [unitsOf, if_pos h, List.singleton_append]
    -- a unit in front of nothing and one in front of another are read by different rules
    cases rest with
    | nil => rw [charsOnto, charsOnto, hsingle]
    | cons second rest => rw [charsOnto, hhigh, hsingle]; rfl
  · obtain ⟨hhigh, hlow, hpair⟩ := pair_ofNat h
    simp only [unitsOf, if_neg h, List.cons_append, List.nil_append]
    rw [charsOnto, hhigh, hlow, hpair]
    rfl

/-! ### Strings -/

theorem charsOnto_flatMap (chars read : List Char) :
    charsOnto (chars.flatMap unitsOf) read = read.reverse ++ chars := by
  induction chars generalizing read with
  | nil => simp [charsOnto]
  | cons c chars ih => rw [List.flatMap_cons, charsOnto_unitsOf, ih]; simp

/-- **The units of a string spell the string.** -/
theorem text_units (s : String) : text (units s) = s := by
  rw [text, units, charsOnto_flatMap]
  simp

end ParcelLink.Utf16
