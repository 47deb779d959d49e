import ParcelLink.Keyed

/-!
# The ledger of pending requests

Every request goes out under a token, which the answer carries back. The ledger holds the type of
each request that has not been answered, by its token, and the token from which the search for the
next free one starts. Zero is never a token.

Tokens count up and wrap around. The search for a free one tries as many numbers as can be taken,
one for zero and one for each pending request; behind these there is a free one as long as fewer
than `2 ^ 32 - 1` requests are pending.
-/

namespace ParcelLink

/-- The requests that wait for an answer. -/
structure Ledger where
  /-- The type of each pending request, by its token. -/
  pending : Keyed UInt32 := Keyed.empty
  /-- Where the search for the next token starts. -/
  nextToken : UInt32 := 1

namespace Ledger

/-- Whether a number can be given out as a token. -/
def isFree (l : Ledger) (token : UInt32) : Bool := token != 0 && !l.pending.contains token

/-- The first free token from a number on, after up to `tries` numbers that are taken. -/
def firstFree (l : Ledger) : Nat → UInt32 → UInt32
  | 0, token => token
  | tries + 1, token => if l.isFree token then token else l.firstFree tries (token + 1)

/-- Give out a token to a request of a type, which is pending from now on. -/
def insert (l : Ledger) (type : UInt32) : UInt32 × Ledger :=
  let token := l.firstFree (l.pending.size + 1) l.nextToken
  (token, ⟨l.pending.add token type, token + 1⟩)

/-- The type of a pending request. -/
def type? (l : Ledger) (token : UInt32) : Option UInt32 := l.pending.find? token

/-- Whether a request is pending. -/
def isPending (l : Ledger) (token : UInt32) : Bool := l.pending.contains token

/-- The ledger without a request. -/
def erase (l : Ledger) (token : UInt32) : Ledger := { l with pending := l.pending.erase token }

/-- The type of a pending request, and the ledger without it. -/
def resolve (l : Ledger) (token : UInt32) : Option UInt32 × Ledger := (l.type? token, l.erase token)

/-- How many requests are pending. -/
def size (l : Ledger) : Nat := l.pending.size

/-- Give out `count` tokens to requests of one type; the last of them, if any. -/
def insertMany (l : Ledger) (type : UInt32) (count : Nat) : Option UInt32 × Ledger :=
  (List.range count).foldl (fun acc _ ↦
    let (token, l) := acc.2.insert type
    (some token, l)) (none, l)

@[simp] theorem insertMany_zero (l : Ledger) (type : UInt32) : l.insertMany type 0 = (none, l) := rfl

/-- One token more is given out by one `insert` more. -/
theorem insertMany_succ (l : Ledger) (type : UInt32) (count : Nat) :
    l.insertMany type (count + 1) = ((l.insertMany type count).2.insert type).map some id := by
  rw [insertMany, List.range_succ, List.foldl_append]
  rfl

end Ledger

end ParcelLink
