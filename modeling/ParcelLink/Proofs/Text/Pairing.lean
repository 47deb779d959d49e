import ParcelLink.Proofs.Text.Surrogates

/-!
# What is lost of ill-formed units

Whether a surrogate has its partner is seen from the units beside it: a high one needs a low one
behind it, and a low one a high one in front (`Utf16.isUnpairedAt`). Reading any units as a string
and writing the string again keeps every unit at its place, but for the surrogates without partners,
each of which becomes the replacement character (`Utf16.units_text`).

So units are the units of some string exactly if no surrogate is without its partner
(`Utf16.wellFormed_iff`).

## Main definitions

* `Utf16.isUnpairedAt`, `Utf16.WellFormed`: surrogates without their partners, and units without
  such.
* `Utf16.mend`: units with these replaced.
-/

namespace ParcelLink.Utf16

/-! ### Surrogates without their partners -/

/-- The unit of the replacement character. -/
def replacementUnit : UInt16 := 0xfffd

/-- Whether the unit at a place is a surrogate without its partner: a high one with no low one
behind it, or a low one with no high one in front of it. -/
def isUnpairedAt (us : List UInt16) (i : Nat) : Bool :=
  us[i]?.any isHigh && !us[i + 1]?.any isLow
    || us[i]?.any isLow && !(decide (0 < i) && us[i - 1]?.any isHigh)

/-- Every surrogate has its partner. -/
def WellFormed (us : List UInt16) : Prop := ∀ i, isUnpairedAt us i = false

/-- Units with the replacement character for each surrogate that has no partner. -/
def mend (us : List UInt16) : List UInt16 :=
  us.mapIdx fun i unit ↦ if isUnpairedAt us i then replacementUnit else unit

@[simp] theorem length_mend (us : List UInt16) : (mend us).length = us.length := List.length_mapIdx

theorem getElem?_mend (us : List UInt16) (i : Nat) :
    (mend us)[i]? = us[i]?.map fun unit ↦ if isUnpairedAt us i then replacementUnit else unit :=
  List.getElem?_mapIdx

/-- A surrogate without its partner is a surrogate. -/
theorem surrogate_of_isUnpairedAt {us : List UInt16} {i : Nat} (h : isUnpairedAt us i = true) :
    ∃ unit, us[i]? = some unit ∧ (isHigh unit = true ∨ isLow unit = true) := by
  rcases hunit : us[i]? with - | unit
  · simp [isUnpairedAt, hunit] at h
  · refine ⟨unit, rfl, ?_⟩
    simp only [isUnpairedAt, hunit, Option.any_some, Bool.or_eq_true, Bool.and_eq_true] at h
    exact h.imp And.left And.left

/-- No unit is a high surrogate and a low one. -/
theorem isLow_of_isHigh {unit : UInt16} (h : isHigh unit = true) : isLow unit = false := by
  rw [isHigh_iff] at h
  rw [Bool.eq_false_iff, Ne, isLow_iff]
  omega

/-- The replacement character is no surrogate. -/
theorem ne_replacementUnit {unit : UInt16} (h : isHigh unit = true ∨ isLow unit = true) :
    unit ≠ replacementUnit := by
  rintro rfl
  exact absurd h (by decide)

/-- A unit is judged by its neighbours. -/
theorem isUnpairedAt_append (before : List UInt16) (unit : UInt16) (rest : List UInt16) :
    isUnpairedAt (before ++ unit :: rest) before.length
      = (isHigh unit && !rest.head?.any isLow
        || isLow unit && !before.getLast?.any isHigh) := by
  have hthis : (before ++ unit :: rest)[before.length]? = some unit := by simp
  have hnext : (before ++ unit :: rest)[before.length + 1]? = rest.head? := by
    rw [List.getElem?_append_right (by omega), Nat.add_sub_cancel_left,
      List.getElem?_cons_succ, List.head?_eq_getElem?]
  have hprevious : (decide (0 < before.length)
      && (before ++ unit :: rest)[before.length - 1]?.any isHigh) = before.getLast?.any isHigh := by
    rcases List.eq_nil_or_concat before with rfl | ⟨before, last, rfl⟩
    · rfl
    · simp
  rw [isUnpairedAt, hthis, hnext, hprevious]
  rfl

/-- Units are mended one after the other. -/
theorem drop_mend (before : List UInt16) (unit : UInt16) (rest : List UInt16) :
    (mend (before ++ unit :: rest)).drop before.length
      = (if isHigh unit && !rest.head?.any isLow || isLow unit && !before.getLast?.any isHigh
          then replacementUnit else unit)
        :: (mend ((before ++ [unit]) ++ rest)).drop (before ++ [unit]).length := by
  have hlt : before.length < (mend (before ++ unit :: rest)).length := by simp
  rw [List.drop_eq_getElem_cons hlt, ← isUnpairedAt_append, List.append_assoc,
    List.singleton_append, List.length_append, List.length_singleton]
  congr 1
  simp [mend]

/-! ### Writing what was read -/

/-- A unit by itself is written again, or the replacement character is if it is a surrogate. -/
theorem unitsOf_single (unit : UInt16) :
    unitsOf (single unit) = [if isHigh unit || isLow unit then replacementUnit else unit] := by
  unfold single
  by_cases hsurrogate : (isHigh unit || isLow unit) = true
  · rw [if_pos hsurrogate, if_pos hsurrogate]
    decide
  · rw [if_neg hsurrogate, if_neg hsurrogate]
    rw [Bool.or_eq_true, isHigh_iff, isLow_iff] at hsurrogate
    have hunit := unit.toNat_lt
    have hnumber : (Char.ofNat unit.toNat).toNat = unit.toNat :=
      toNat_ofNat (by simp only [Nat.isValidChar]; omega)
    rw [unitsOf, hnumber, if_pos hunit, UInt16.ofNat_toNat]

/-- A pair of surrogates is written again. -/
theorem unitsOf_pair {high low : UInt16} (hhigh : isHigh high = true) (hlow : isLow low = true) :
    unitsOf (pair high low) = [high, low] := by
  rw [isHigh_iff] at hhigh
  rw [isLow_iff] at hlow
  have hnumber : (pair high low).toNat
      = 0x10000 + (high.toNat - 0xd800) * 0x400 + (low.toNat - 0xdc00) := by
    rw [pair, toNat_ofNat (by simp only [Nat.isValidChar]; omega)]
  have hfirst : 0xd800 + ((pair high low).toNat - 0x10000) / 0x400 = high.toNat := by omega
  have hsecond : 0xdc00 + ((pair high low).toNat - 0x10000) % 0x400 = low.toNat := by omega
  rw [unitsOf, if_neg (by omega), hfirst, hsecond, UInt16.ofNat_toNat, UInt16.ofNat_toNat]

/-- Whatever was read before, units are written again as they are mended, unless the first of them
would be the partner of the last before. -/
theorem flatMap_charsOnto (rest : List UInt16) (read : List Char) (before : List UInt16)
    (h : before.getLast?.any isHigh = true → rest.head?.any isLow = false) :
    (charsOnto rest read).flatMap unitsOf
      = read.reverse.flatMap unitsOf ++ (mend (before ++ rest)).drop before.length := by
  fun_induction charsOnto rest read generalizing before with
  | case1 read => simp
  | case2 unit read =>
    have hlone : (isHigh unit && !([] : List UInt16).head?.any isLow
        || isLow unit && !before.getLast?.any isHigh) = (isHigh unit || isLow unit) := by
      have h' : before.getLast?.any isHigh = true → isLow unit = false := h
      cases hlow : isLow unit <;> grind
    rw [drop_mend, hlone, List.append_nil, List.drop_of_length_le (by simp)]
    simp [unitsOf_single]
  | case3 first second rest read hpair ih =>
    obtain ⟨hhigh, hlow⟩ := Bool.and_eq_true_iff.1 hpair
    have hnothigh : isHigh second = false := by
      rw [Bool.eq_false_iff]
      intro hhigh'
      rw [isLow_of_isHigh hhigh'] at hlow
      cases hlow
    rw [drop_mend, drop_mend, ih ((before ++ [first]) ++ [second]) (by simp [hnothigh])]
    simp [unitsOf_pair hhigh hlow, hhigh, hlow, hnothigh, isLow_of_isHigh hhigh]
  | case4 first second rest read hpair ih =>
    have hlone : (isHigh first && !(second :: rest).head?.any isLow
        || isLow first && !before.getLast?.any isHigh) = (isHigh first || isLow first) := by
      have h' : before.getLast?.any isHigh = true → isLow first = false := h
      have hpair' : ¬ (isHigh first && isLow second) = true := hpair
      cases hlow : isLow first <;> cases hhigh : isHigh first <;> simp_all
    have hnext : (before ++ [first]).getLast?.any isHigh = true →
        (second :: rest).head?.any isLow = false := by
      simpa using hpair
    rw [drop_mend, hlone, ih (before ++ [first]) hnext]
    simp [unitsOf_single]

/-- **What some units spell is written as these units, with the replacement character for each
surrogate without its partner.** -/
theorem units_text (us : List UInt16) : units (text us) = mend us := by
  rw [units, text, String.toList_ofList, flatMap_charsOnto us [] [] (by simp)]
  simp

/-- **What some units spell is written with as many units**, also where a surrogate without its
partner is replaced. -/
theorem length_units_text (us : List UInt16) : (units (text us)).length = us.length := by
  rw [units_text, length_mend]

/-- **Units are written again as they were read exactly if they are well-formed.** -/
theorem units_text_eq_iff {us : List UInt16} : units (text us) = us ↔ WellFormed us := by
  rw [units_text]
  constructor
  · intro heq i
    rw [Bool.eq_false_iff]
    intro hunpaired
    obtain ⟨unit, hunit, hsurrogate⟩ := surrogate_of_isUnpairedAt hunpaired
    have hmended : (mend us)[i]? = some replacementUnit := by
      rw [getElem?_mend, hunit, Option.map_some, if_pos hunpaired]
    rw [heq, hunit] at hmended
    exact ne_replacementUnit hsurrogate (Option.some.inj hmended)
  · intro hformed
    refine List.ext_getElem? fun i ↦ ?_
    rw [getElem?_mend, hformed i]
    simp

/-- Well-formed units are the units of strings. -/
theorem wellFormed_iff {us : List UInt16} : WellFormed us ↔ ∃ s, units s = us := by
  rw [← units_text_eq_iff]
  constructor
  · exact fun h ↦ ⟨text us, h⟩
  · rintro ⟨s, rfl⟩
    rw [text_units]

end ParcelLink.Utf16
