/-!
# Bytes and the numbers written in them

Everything that crosses the link is a list of bytes. This module fixes how a number is laid out in a
given count of bytes, least significant byte first (`little`) or most significant first (`big`), and
how it is read back (`ofLittle`, `ofBig`). Both layouts keep only what fits: a number is written
modulo `256 ^ width`, which `ofLittle_little` and `ofBig_big` state.

## Main definitions

* `Octets`: a list of bytes.
* `Octets.little`, `Octets.big`: a number in `width` bytes.
* `Octets.ofLittle`, `Octets.ofBig`: the number that some bytes spell.
* `Octets.pieces`: bytes cut into pieces of one length.
-/

namespace ParcelLink

/-- A run of bytes in the order in which they cross the link. -/
abbrev Octets := List UInt8

namespace Octets

/-- The low `width` bytes of a number, least significant first. -/
def little : Nat → Nat → Octets
  | 0, _ => []
  | width + 1, n => UInt8.ofNat n :: little width (n / 256)

/-- The number whose bytes, least significant first, are given. -/
def ofLittle : Octets → Nat
  | [] => 0
  | b :: rest => b.toNat + 256 * ofLittle rest

/-- The low `width` bytes of a number, most significant first. -/
def big (width n : Nat) : Octets := (little width n).reverse

/-- The number whose bytes, most significant first, are given. -/
def ofBig (bytes : Octets) : Nat := ofLittle bytes.reverse

/-! ### Lengths and reading back -/

@[simp] theorem length_little (width n : Nat) : (little width n).length = width := by
  induction width generalizing n with
  | zero => rfl
  | succ width ih => simp [little, ih]

@[simp] theorem length_big (width n : Nat) : (big width n).length = width := by
  simp [big]

theorem ofLittle_little (width n : Nat) : ofLittle (little width n) = n % Nat.pow 256 width := by
  induction width generalizing n with
  | zero => simp [little, ofLittle, Nat.mod_one]
  | succ width ih =>
    have hb : (UInt8.ofNat n).toNat = n % 256 := by simp
    have hpow : Nat.pow 256 (width + 1) = 256 * Nat.pow 256 width := Nat.mul_comm _ _
    rw [little, ofLittle, ih, hb, hpow, Nat.mod_mul]

theorem ofBig_big (width n : Nat) : ofBig (big width n) = n % Nat.pow 256 width := by
  simp [ofBig, big, ofLittle_little]

/-- Bytes spell a number below `256 ^ length`. -/
theorem ofLittle_lt (bytes : Octets) : ofLittle bytes < Nat.pow 256 bytes.length := by
  induction bytes with
  | nil => simp [ofLittle]
  | cons b rest ih =>
    have hb := b.toNat_lt
    have hpow : Nat.pow 256 (rest.length + 1) = Nat.pow 256 rest.length * 256 := rfl
    rw [ofLittle, List.length_cons, hpow]
    omega

/-- Bytes that spell a number are what the number is written as. -/
theorem little_ofLittle (bytes : Octets) : little bytes.length (ofLittle bytes) = bytes := by
  induction bytes with
  | nil => rfl
  | cons b rest ih =>
    have hb := b.toNat_lt
    have hdiv : (b.toNat + 256 * ofLittle rest) / 256 = ofLittle rest := by omega
    have hmod : UInt8.ofNat (b.toNat + 256 * ofLittle rest) = b := by
      apply UInt8.toNat_inj.1
      rw [UInt8.toNat_ofNat']
      omega
    rw [List.length_cons, ofLittle, little, hdiv, hmod, ih]

theorem big_ofBig (bytes : Octets) : big bytes.length (ofBig bytes) = bytes := by
  rw [big, ofBig, ← List.length_reverse, little_ofLittle, List.reverse_reverse]

/-- Only what fits of a number is written. -/
theorem big_mod (width n : Nat) : big width (n % Nat.pow 256 width) = big width n := by
  have h := big_ofBig (big width n)
  rwa [length_big, ofBig_big] at h

/-! ### Pieces -/

/-- Bytes in pieces of `length` bytes, or of one byte if that is less; the last piece may be shorter,
and no bytes have no pieces. -/
def pieces (length : Nat) : Octets → List Octets
  | [] => []
  | b :: rest => (b :: rest.take (length - 1)) :: pieces length (rest.drop (length - 1))
termination_by bytes => bytes.length
decreasing_by simp only [List.length_drop, List.length_cons]; omega

/-- Cutting loses nothing. -/
theorem flatten_pieces (length : Nat) (bytes : Octets) : (pieces length bytes).flatten = bytes := by
  fun_induction pieces length bytes with
  | case1 => rfl
  | case2 b rest ih => simp [ih]

/-- No piece is empty, and none is too long. -/
theorem length_of_mem_pieces {length : Nat} (hpos : 0 < length) {bytes piece : Octets}
    (h : piece ∈ pieces length bytes) : piece ≠ [] ∧ piece.length ≤ length := by
  fun_induction pieces length bytes with
  | case1 => cases h
  | case2 b rest ih =>
    rcases List.mem_cons.1 h with rfl | hrest
    · refine ⟨List.cons_ne_nil _ _, ?_⟩
      rw [List.length_cons, List.length_take]
      omega
    · exact ih hrest

end Octets

end ParcelLink
