import ParcelLink.Ledger

/-!
# Tokens and the ledger

What the ledger holds is what `Ledger.type?` says, and each operation has one lemma about it. As
long as the number that comes next is free, it is the token that is given out
(`Ledger.insert_of_isFree`). A token that is taken back at once leaves nothing behind but the next
number (`Ledger.erase_insert`), and is not given out again while there is another one
(`Ledger.insert_ne`).
-/

namespace ParcelLink.Ledger

/-! ### Free numbers -/

theorem isFree_iff {l : Ledger} {token : UInt32} :
    l.isFree token = true ↔ token ≠ 0 ∧ l.type? token = none := by
  simp [isFree, Keyed.contains, type?]

/-- A free number is found at once. -/
theorem firstFree_of_isFree {l : Ledger} {token : UInt32} (h : l.isFree token = true)
    (tries : Nat) : l.firstFree tries token = token := by
  cases tries with
  | zero => rfl
  | succ tries => rw [firstFree, if_pos h]

/-- **The next number is the next token if it is free.** -/
theorem insert_of_isFree {l : Ledger} (h : l.isFree l.nextToken = true) (type : UInt32) :
    l.insert type = (l.nextToken, ⟨l.pending.add l.nextToken type, l.nextToken + 1⟩) := by
  rw [insert, firstFree_of_isFree h]

/-- The numbers behind a number are those from the next one on. -/
theorem add_ofNat_succ (start : UInt32) (k : Nat) :
    start + UInt32.ofNat (k + 1) = start + 1 + UInt32.ofNat k := by
  rw [UInt32.ofNat_add, UInt32.add_assoc, UInt32.add_comm (UInt32.ofNat k)]
  rfl

/-- The search ends no later than at a free number. -/
theorem firstFree_le {l : Ledger} {start : UInt32} {j : Nat}
    (h : l.isFree (start + UInt32.ofNat j) = true) (tries : Nat) :
    ∃ k ≤ j, l.firstFree tries start = start + UInt32.ofNat k := by
  induction tries generalizing start j with
  | zero => exact ⟨0, Nat.zero_le j, by simp [firstFree]⟩
  | succ tries ih =>
    rw [firstFree]
    by_cases hstart : l.isFree start = true
    · exact ⟨0, Nat.zero_le j, by simp [hstart]⟩
    · rw [if_neg hstart]
      cases j with
      | zero => exact absurd (by simpa using h) hstart
      | succ j =>
        rw [add_ofNat_succ] at h
        obtain ⟨k, hk, heq⟩ := ih h
        exact ⟨k + 1, Nat.succ_le_succ hk, by rw [heq, add_ofNat_succ]⟩

/-- **While there is another free number, a token that was given out last is not given out next.** -/
theorem insert_ne {l : Ledger} {token other : UInt32} (hnext : l.nextToken = token + 1)
    (hother : l.isFree other = true) (hne : other ≠ token) (type : UInt32) :
    (l.insert type).1 ≠ token := by
  -- the other number is met before the search has come around
  have hreach : l.nextToken + UInt32.ofNat (other - l.nextToken).toNat = other := by
    rw [UInt32.ofNat_toNat, UInt32.add_comm, UInt32.sub_add_cancel]
  obtain ⟨k, hk, htoken⟩ := firstFree_le (hreach.symm ▸ hother) (l.pending.size + 1)
  show l.firstFree _ _ ≠ token
  rw [hnext] at hk
  rw [htoken, hnext]
  -- to come around to the token takes all numbers but the one that the search starts from
  intro heq
  apply hne
  rw [← UInt32.toNat_inj] at heq ⊢
  have htoken_lt := token.toNat_lt
  have hother_lt := other.toNat_lt
  simp only [UInt32.toNat_add, UInt32.toNat_sub, UInt32.toNat_ofNat', UInt32.toNat_one] at heq hk
  omega

/-! ### What is pending after each operation -/

/-- Giving out a token leaves the others as they are. -/
theorem type?_insert (l : Ledger) (type token : UInt32) :
    (l.insert type).2.type? token
      = if token = (l.insert type).1 then some type else l.type? token :=
  Keyed.find?_add l.pending _ token type

theorem type?_erase (l : Ledger) (token other : UInt32) :
    (l.erase token).type? other = if other = token then none else l.type? other :=
  Keyed.find?_erase l.pending token other

/-- Nothing is erased under a token of no pending request. -/
theorem erase_of_type?_eq_none {l : Ledger} {token : UInt32} (h : l.type? token = none) :
    l.erase token = l := by
  have hnot : token ∉ l.pending.keys := by
    rw [← Keyed.contains_iff, Keyed.contains, show l.pending.find? token = none from h]
    simp
  have hall : ∀ p ∈ l.pending.pairs, (p.1 != token) = true := by
    intro p hp
    rw [bne_iff_ne]
    exact ne_of_mem_of_not_mem (List.mem_map_of_mem hp) hnot
  rw [erase, Keyed.erase, List.filter_eq_self.2 hall]

/-- Requests can be erased in any order. -/
theorem erase_right_comm (l : Ledger) (token other : UInt32) :
    (l.erase token).erase other = (l.erase other).erase token := by
  simp only [erase, Keyed.erase, List.filter_filter, Bool.and_comm]

@[simp] theorem nextToken_erase (l : Ledger) (token : UInt32) :
    (l.erase token).nextToken = l.nextToken := rfl

/-- A token that is taken back leaves nothing behind but the next number. -/
theorem erase_insert {l : Ledger} (h : l.isFree l.nextToken = true) (type : UInt32) :
    (l.insert type).2.erase l.nextToken = ⟨l.pending, l.nextToken + 1⟩ := by
  have hnone : l.pending.erase l.nextToken = l.pending :=
    congrArg Ledger.pending (erase_of_type?_eq_none (isFree_iff.1 h).2)
  rw [insert_of_isFree h]
  simp only [erase, Keyed.erase_add_self, hnone]

/-- A free next token stays free when another one is erased. -/
theorem isFree_erase {l : Ledger} (token : UInt32) (h : l.isFree l.nextToken = true) :
    (l.erase token).isFree (l.erase token).nextToken = true := by
  obtain ⟨hzero, hnone⟩ := isFree_iff.1 h
  rw [nextToken_erase, isFree_iff, type?_erase, hnone]
  exact ⟨hzero, ite_self none⟩

/-- A request can be erased before or after another one is given its token. -/
theorem insert_erase {l : Ledger} {token : UInt32} (h : l.isFree l.nextToken = true)
    (hne : token ≠ l.nextToken) (type : UInt32) :
    (l.erase token).insert type = ((l.insert type).1, (l.insert type).2.erase token) := by
  rw [insert_of_isFree h, insert_of_isFree (isFree_erase token h)]
  simp only [erase, Keyed.erase_add_of_ne hne]

end ParcelLink.Ledger
