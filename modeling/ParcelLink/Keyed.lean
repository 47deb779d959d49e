/-!
# Finite maps keyed by a word

The ledger of pending requests and the registry of decoders both map 32-bit numbers to values. A
`Keyed α` holds the pairs, the latest first and every key once: `put` drops the pair that it
replaces. What a map holds is what `find?` says; each operation has one lemma about it.
-/

namespace ParcelLink

/-- A finite map from 32-bit keys, as its pairs with the latest first. -/
structure Keyed (α : Type) where
  /-- The pairs of the map. -/
  pairs : List (UInt32 × α) := []

namespace Keyed

variable {α : Type}

/-- The map without any key. -/
def empty : Keyed α := ⟨[]⟩

/-- How many keys there are. -/
def size (m : Keyed α) : Nat := m.pairs.length

/-- The keys, the latest first. -/
def keys (m : Keyed α) : List UInt32 := m.pairs.map Prod.fst

/-- The value under a key. -/
def find? (m : Keyed α) (key : UInt32) : Option α := m.pairs.lookup key

/-- Whether there is a value under a key. -/
def contains (m : Keyed α) (key : UInt32) : Bool := (m.find? key).isSome

/-- The map without a key. -/
def erase (m : Keyed α) (key : UInt32) : Keyed α := ⟨m.pairs.filter fun p ↦ p.1 != key⟩

/-- The map with a value under a new key. -/
def add (m : Keyed α) (key : UInt32) (value : α) : Keyed α := ⟨(key, value) :: m.pairs⟩

/-- The map with a value under a key, in place of what was there. -/
def put (m : Keyed α) (key : UInt32) (value : α) : Keyed α := (m.erase key).add key value

/-! ### What is found after each operation -/

theorem lookup_cons_self (key : UInt32) (value : α) (rest : List (UInt32 × α)) :
    ((key, value) :: rest).lookup key = some value := by
  simp

theorem lookup_cons_of_ne {key other : UInt32} (h : other ≠ key) (value : α)
    (rest : List (UInt32 × α)) : ((key, value) :: rest).lookup other = rest.lookup other := by
  have hb : (other == key) = false := by simpa using h
  rw [List.lookup_cons, hb]

@[simp] theorem find?_empty (key : UInt32) : (empty : Keyed α).find? key = none := rfl

theorem find?_erase (m : Keyed α) (key other : UInt32) :
    (m.erase key).find? other = if other = key then none else m.find? other := by
  obtain ⟨pairs⟩ := m
  simp only [find?, erase]
  induction pairs with
  | nil => simp
  | cons p rest ih =>
    obtain ⟨k, v⟩ := p
    by_cases hk : k = key
    · have hf : ((k, v) :: rest).filter (fun p ↦ p.1 != key) = rest.filter fun p ↦ p.1 != key := by
        simp [hk]
      rw [hf, ih]
      by_cases ho : other = key
      · simp [ho]
      · rw [if_neg ho, if_neg ho, lookup_cons_of_ne (hk ▸ ho)]
    · have hf : ((k, v) :: rest).filter (fun p ↦ p.1 != key)
          = (k, v) :: rest.filter fun p ↦ p.1 != key := by simp [hk]
      rw [hf]
      by_cases ho : other = k
      · subst ho
        rw [lookup_cons_self, lookup_cons_self, if_neg hk]
      · rw [lookup_cons_of_ne ho, lookup_cons_of_ne ho, ih]

theorem find?_add (m : Keyed α) (key other : UInt32) (value : α) :
    (m.add key value).find? other = if other = key then some value else m.find? other := by
  by_cases h : other = key
  · subst h
    simp [find?, add]
  · simp only [find?, add, if_neg h]
    exact lookup_cons_of_ne h value m.pairs

theorem find?_put (m : Keyed α) (key other : UInt32) (value : α) :
    (m.put key value).find? other = if other = key then some value else m.find? other := by
  rw [put, find?_add, find?_erase]
  by_cases h : other = key <;> simp [h]

/-! ### A key that is added and a key that is erased -/

theorem erase_add_self (m : Keyed α) (key : UInt32) (value : α) :
    (m.add key value).erase key = m.erase key := by
  rw [erase, add, List.filter_cons_of_neg (by simp), erase]

theorem erase_add_of_ne {key other : UInt32} (h : other ≠ key) (m : Keyed α) (value : α) :
    (m.add key value).erase other = (m.erase other).add key value := by
  rw [erase, add, List.filter_cons_of_pos (by simpa using h.symm), add, erase]

/-! ### Keys -/

/-- A key has a value exactly if it is one of the keys. -/
theorem contains_iff (m : Keyed α) (key : UInt32) : m.contains key = true ↔ key ∈ m.keys := by
  obtain ⟨pairs⟩ := m
  simp only [contains, find?, keys]
  induction pairs with
  | nil => simp
  | cons p rest ih =>
    obtain ⟨k, v⟩ := p
    by_cases h : key = k
    · subst h
      simp
    · rw [lookup_cons_of_ne h, ih]
      simp [h]

end Keyed

end ParcelLink
