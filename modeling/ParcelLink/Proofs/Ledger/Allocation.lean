import Mathlib.Algebra.GroupWithZero.Nat
import Mathlib.Data.List.Induction
import Mathlib.Data.List.Nodup
import ParcelLink.Proofs.Ledger.Tokens

/-!
# Which tokens are given out

The search for a free number as such has no bound, it goes on until it meets one (`Ledger.Finds`).
It meets one because the numbers that are taken, zero and those of the pending requests, are fewer
than the numbers that it can look at (`Ledger.exists_isFree`). So the ledger, which tries just as
many, gives out the number at which the search ends (`Ledger.allots_insert`).

A book is a ledger with a log of what was given out and what was answered. In every run from an
empty ledger the ledger holds of a token what the latest entry about it says (`Ledger.Book.Follows`), and
from this it is seen which entry can come next: no token is given out while a request waits under
it, and an answer is told once.

## Main definitions

* `Ledger.Finds`: the search for a free number, where it ends.
* `Ledger.Allots`: all that an insertion changes.
* `Ledger.Book`, `Ledger.Operation`: a ledger with its log, and what is done to it.
* `Ledger.latest?`, `Ledger.Waits`: what a log says of a token.
-/

namespace ParcelLink.Ledger

/-! ### The search -/

/-- The search for a free number ends at a token: it stays at the first number that is free, and
goes on from one that is taken to the next. -/
inductive Finds (l : Ledger) : UInt32 → UInt32 → Prop
  | here {token : UInt32} (free : l.isFree token = true) : Finds l token token
  | next {start token : UInt32} (taken : l.isFree start = false)
    (rest : Finds l (start + 1) token) : Finds l start token

/-- A number that is taken is zero or that of a pending request. -/
theorem isFree_eq_false_iff {l : Ledger} {token : UInt32} :
    l.isFree token = false ↔ token = 0 ∨ l.isPending token = true := by
  simp only [isFree, isPending, Bool.and_eq_false_iff, bne_eq_false_iff_eq, Bool.not_eq_false']

/-- **Of one more number than can be taken one is free.** -/
theorem exists_isFree {l : Ledger} (h : l.size < 2 ^ 32 - 1) (start : UInt32) :
    ∃ k ≤ l.size + 1, l.isFree (start + UInt32.ofNat k) = true := by
  by_cases hsome : ∃ k ≤ l.size + 1, l.isFree (start + UInt32.ofNat k) = true
  · exact hsome
  -- else they are all taken, so that they are not more than those that can be
  · have htaken : (List.range (l.size + 2)).map (fun k ↦ start + UInt32.ofNat k)
        ⊆ 0 :: l.pending.keys := by
      intro token htoken
      obtain ⟨k, hk, rfl⟩ := List.mem_map.1 htoken
      have hlt : k < l.size + 2 := List.mem_range.1 hk
      have hnot : l.isFree (start + UInt32.ofNat k) = false := by
        rw [Bool.eq_false_iff]
        exact fun hfree ↦ hsome ⟨k, Nat.le_of_lt_succ hlt, hfree⟩
      rw [List.mem_cons, ← Keyed.contains_iff]
      exact isFree_eq_false_iff.1 hnot
    have hnodup : ((List.range (l.size + 2)).map fun k ↦ start + UInt32.ofNat k).Nodup := by
      refine List.nodup_range.map_on fun i hi j hj heq ↦ ?_
      have hi : i < l.size + 2 := List.mem_range.1 hi
      have hj : j < l.size + 2 := List.mem_range.1 hj
      rw [← UInt32.toNat_inj] at heq
      simp only [UInt32.toNat_add, UInt32.toNat_ofNat'] at heq
      omega
    have hle := hnodup.length_le_of_subset htaken
    rw [List.length_map, List.length_range, List.length_cons, Keyed.keys, List.length_map] at hle
    exact absurd hle (Nat.not_le.2 (Nat.lt_succ_self _))

/-- The search from a number on ends so many numbers behind it, where so many tries end too. -/
structure EndsAt (l : Ledger) (tries : Nat) (start : UInt32) (k : Nat) : Prop where
  firstFree_eq : l.firstFree tries start = start + UInt32.ofNat k
  finds : l.Finds start (start + UInt32.ofNat k)
  free : l.isFree (start + UInt32.ofNat k) = true
  taken : ∀ j < k, l.isFree (start + UInt32.ofNat j) = false

theorem EndsAt.here {l : Ledger} {start : UInt32} (h : l.isFree start = true) (tries : Nat) :
    l.EndsAt tries start 0 := by
  have hzero : start + UInt32.ofNat 0 = start := UInt32.add_zero start
  constructor
  · rw [hzero, firstFree_of_isFree h]
  · rw [hzero]
    exact .here h
  · rwa [hzero]
  · exact nofun

theorem EndsAt.next {l : Ledger} {start : UInt32} {tries k : Nat} (h : l.isFree start = false)
    (hrest : l.EndsAt tries (start + 1) k) : l.EndsAt (tries + 1) start (k + 1) := by
  constructor
  · rw [firstFree, if_neg (Bool.eq_false_iff.1 h), hrest.firstFree_eq, add_ofNat_succ]
  · rw [add_ofNat_succ]
    exact .next h hrest.finds
  · rw [add_ofNat_succ]
    exact hrest.free
  · intro j hj
    cases j with
    | zero => simpa using h
    | succ j =>
      rw [add_ofNat_succ]
      exact hrest.taken j (Nat.lt_of_succ_lt_succ hj)

/-- Where there is a free number the search ends, and enough tries end there too. -/
theorem exists_endsAt {l : Ledger} {start : UInt32} {k : Nat}
    (h : l.isFree (start + UInt32.ofNat k) = true) {tries : Nat} (hle : k ≤ tries) :
    ∃ j ≤ k, l.EndsAt tries start j := by
  induction tries generalizing start k with
  | zero =>
    obtain rfl := Nat.le_zero.1 hle
    exact ⟨0, Nat.le_refl 0, .here (by simpa using h) 0⟩
  | succ tries ih =>
    by_cases hstart : l.isFree start = true
    · exact ⟨0, Nat.zero_le k, .here hstart _⟩
    · cases k with
      | zero => exact absurd (by simpa using h) hstart
      | succ k =>
        rw [add_ofNat_succ] at h
        obtain ⟨j, hj, hends⟩ := ih h (Nat.le_of_succ_le_succ hle)
        exact ⟨j + 1, Nat.succ_le_succ hj, .next (Bool.eq_false_iff.2 hstart) hends⟩

/-! ### What an insertion changes -/

/-- All that a ledger has changed by when it has given out a token. -/
structure Allots (l : Ledger) (type token : UInt32) (l' : Ledger) : Prop where
  /-- The search ends, and it ends at the token. -/
  finds : l.Finds l.nextToken token
  /-- All numbers from the next one up to the token are taken, and these are not all numbers. -/
  first : ∃ k < 2 ^ 32, token = l.nextToken + UInt32.ofNat k
    ∧ ∀ j < k, l.nextToken + UInt32.ofNat j = 0 ∨ l.isPending (l.nextToken + UInt32.ofNat j) = true
  ne_zero : token ≠ 0
  not_pending : l.isPending token = false
  /-- The token is pending with the type of its request, and nothing else is different. -/
  type?_eq : ∀ other, l'.type? other = if other = token then some type else l.type? other
  size_eq : l'.size = l.size + 1
  nextToken_eq : l'.nextToken = token + 1
  /-- Zero is not pending if it was not. -/
  zero_absent : l.isPending 0 = false → l'.isPending 0 = false

theorem isPending_eq {l : Ledger} {token : UInt32} :
    l.isPending token = (l.type? token).isSome := rfl

/-- **A ledger with room gives out the first free token.** -/
theorem allots_insert {l : Ledger} (h : l.size < 2 ^ 32 - 1) (type : UInt32) :
    l.Allots type (l.insert type).1 (l.insert type).2 := by
  obtain ⟨k, hk, hfree⟩ := exists_isFree h l.nextToken
  obtain ⟨j, hj, hends⟩ := exists_endsAt hfree hk
  have htoken : (l.insert type).1 = l.nextToken + UInt32.ofNat j := hends.firstFree_eq
  obtain ⟨hzero, hnone⟩ := isFree_iff.1 (htoken ▸ hends.free)
  constructor
  · rw [htoken]
    exact hends.finds
  · exact ⟨j, by omega, htoken, fun i hi ↦ isFree_eq_false_iff.1 (hends.taken i hi)⟩
  · exact hzero
  · rw [isPending_eq, hnone]
    rfl
  · exact type?_insert l type
  · rfl
  · rfl
  · intro habsent
    rw [isPending_eq, type?_insert, if_neg (Ne.symm hzero), ← isPending_eq, habsent]

/-! ### Runs -/

/-- What is done to a ledger. -/
inductive Operation where
  /-- A request of this type is given a token. -/
  | insert (type : UInt32)
  /-- The request with this token is answered. -/
  | resolve (token : UInt32)
  deriving DecidableEq, Repr

/-- What came of an operation. -/
inductive Entry where
  /-- A token was given out to a request of this type. -/
  | issued (token type : UInt32)
  /-- The type of the request with a token was told, if it was pending. -/
  | resolved (token : UInt32) (answer : Option UInt32)
  deriving DecidableEq, Repr

/-- The token that an entry is about. -/
def Entry.token : Entry → UInt32
  | issued token _ => token
  | resolved token _ => token

/-- The type of the request that waits after an entry. -/
def Entry.type? : Entry → Option UInt32
  | issued _ type => some type
  | resolved .. => none

/-- A ledger, and the log of all that was done to it. -/
structure Book where
  /-- The ledger. -/
  ledger : Ledger := {}
  /-- What came of the operations, in order. -/
  log : List Entry := []

namespace Book

/-- A book after one more operation. -/
def perform (b : Book) : Operation → Book
  | .insert type =>
    let (token, l) := b.ledger.insert type
    ⟨l, b.log ++ [.issued token type]⟩
  | .resolve token =>
    let (answer, l) := b.ledger.resolve token
    ⟨l, b.log ++ [.resolved token answer]⟩

/-- The book after some operations on a new ledger. -/
def performAll (operations : List Operation) : Book := operations.foldl perform {}

theorem performAll_concat (operations : List Operation) (operation : Operation) :
    performAll (operations ++ [operation]) = (performAll operations).perform operation := by
  rw [performAll, List.foldl_concat, performAll]

/-- **Tokens that are given out together are given out one after the other.** The ledger is that of a
run of insertions, and the token that is told is the one in its last entry. -/
theorem performAll_insertMany (operations : List Operation) (type : UInt32) (count : Nat) :
    let b := performAll (operations ++ List.replicate count (.insert type))
    let given := (performAll operations).ledger.insertMany type count
    b.ledger = given.2
      ∧ ∀ token, given.1 = some token → b.log.getLast? = some (.issued token type) := by
  induction count with
  | zero => exact ⟨by rw [List.replicate_zero, List.append_nil, insertMany_zero], nofun⟩
  | succ count ih =>
    rw [List.replicate_succ', ← List.append_assoc, performAll_concat, insertMany_succ, ← ih.1]
    refine ⟨rfl, fun token htoken ↦ ?_⟩
    rw [← Option.some.inj htoken]
    exact List.getLast?_concat ..

/-- There is room in the ledger whenever a token is given out. -/
def HasRoom (operations : List Operation) : Prop :=
  ∀ past type, past ++ [.insert type] <+: operations →
    (performAll past).ledger.size < 2 ^ 32 - 1

/-- No more requests are pending than operations were done. -/
theorem size_performAll_le (operations : List Operation) :
    (performAll operations).ledger.size ≤ operations.length := by
  induction operations using List.reverseRecOn with
  | nil => exact Nat.le_refl 0
  | append_singleton operations operation ih =>
    rw [performAll_concat, List.length_append, List.length_singleton]
    cases operation with
    | insert type => exact Nat.succ_le_succ ih
    | resolve token => exact Nat.le_succ_of_le (Nat.le_trans (List.length_filter_le ..) ih)

/-- There is room in every run that is shorter than there are tokens. -/
theorem hasRoom_of_length_lt {operations : List Operation}
    (h : operations.length < 2 ^ 32) : HasRoom operations := by
  intro past type hpast
  have hlength := hpast.length_le
  have hsize := size_performAll_le past
  rw [List.length_append, List.length_singleton] at hlength
  omega

end Book

/-! ### What a log says of a token -/

/-- The type of the request that waits under a token, by the latest entry about the token: none does
if that entry is an answer. -/
def latest? (log : List Entry) (token : UInt32) : Option UInt32 :=
  (log.reverse.find? fun entry ↦ entry.token == token).bind Entry.type?

/-- The request that was given a token at some place of a log waits still: the token was not
answered since. -/
def Waits (log past : List Entry) (token type : UInt32) : Prop :=
  ∃ since, log = past ++ .issued token type :: since ∧ ∀ answer, .resolved token answer ∉ since

/-- How many tokens were given out. -/
def issues (log : List Entry) : Nat := log.countP (Entry.type? · |>.isSome)

theorem latest?_concat (log : List Entry) (entry : Entry) (token : UInt32) :
    latest? (log ++ [entry]) token
      = if token = entry.token then entry.type? else latest? log token := by
  rw [latest?, List.reverse_append, List.reverse_singleton, List.singleton_append, List.find?_cons]
  by_cases htoken : token = entry.token
  · simp [htoken]
  · have hother : (entry.token == token) = false := by simpa using Ne.symm htoken
    rw [hother, if_neg htoken, latest?]

theorem issues_concat (log : List Entry) (entry : Entry) :
    issues (log ++ [entry]) = issues log + if entry.type?.isSome then 1 else 0 := by
  rw [issues, issues, List.countP_append, List.countP_singleton]

/-- Entries of the same kind do not change whether a request waits. -/
theorem latest?_isSome_of_alike {past since : List Entry} {entry : Entry}
    (h : ∀ x ∈ since, x.token = entry.token → x.type?.isSome = entry.type?.isSome) :
    (latest? (past ++ entry :: since) entry.token).isSome = entry.type?.isSome := by
  induction since using List.reverseRecOn with
  | nil => rw [latest?_concat, if_pos rfl]
  | append_singleton since x ih =>
    rw [← List.cons_append, ← List.append_assoc, latest?_concat]
    by_cases htoken : entry.token = x.token
    · rw [if_pos htoken]
      exact h x (List.mem_append_right _ (List.mem_singleton_self x)) htoken.symm
    · rw [if_neg htoken]
      exact ih fun y hy ↦ h y (List.mem_append_left _ hy)

/-- A token that a request waits under has its latest entry from a request. -/
theorem Waits.latest?_isSome {log past : List Entry} {token type : UInt32}
    (h : Waits log past token type) : (latest? log token).isSome = true := by
  obtain ⟨since, rfl, hopen⟩ := h
  refine latest?_isSome_of_alike fun x hx htoken ↦ ?_
  cases x with
  | issued => rfl
  | resolved other answer =>
    obtain rfl : other = token := htoken
    exact absurd hx (hopen answer)

/-- Behind an answer no request waits until the token is given out again. -/
theorem latest?_of_resolved {past since : List Entry} {token : UInt32} {answer : Option UInt32}
    (h : ∀ type, .issued token type ∉ since) :
    latest? (past ++ .resolved token answer :: since) token = none := by
  refine Option.not_isSome_iff_eq_none.1 (Bool.eq_false_iff.1 ?_)
  refine latest?_isSome_of_alike fun x hx htoken ↦ ?_
  cases x with
  | issued other type =>
    obtain rfl : other = token := htoken
    exact absurd hx (h type)
  | resolved => rfl

/-! ### Each entry follows from the log before it -/

/-- Whether an entry can come next: a token that is given out has no request waiting under it, and
is the next number until all have been given out; an answer is the type of the request that waits.
-/
def Entry.ComesAfter (past : List Entry) : Entry → Prop
  | issued token _ =>
    latest? past token = none ∧ (issues past + 1 < 2 ^ 32 → token.toNat = issues past + 1)
  | resolved token answer => answer = latest? past token

namespace Book

/-- The ledger of a book is the one that its log tells of. -/
structure Follows (b : Book) : Prop where
  /-- Of a token the ledger holds what the latest entry says. -/
  type?_eq : ∀ token, b.ledger.type? token = latest? b.log token
  /-- Until all numbers have been given out, the search starts behind the last of them. -/
  nextToken_eq : issues b.log < 2 ^ 32 → b.ledger.nextToken = UInt32.ofNat (issues b.log + 1)
  /-- Requests wait under numbers that have been given out. -/
  toNat_le : ∀ token, (latest? b.log token).isSome = true → token.toNat ≤ issues b.log

theorem follows_new : Follows {} := ⟨fun _ ↦ rfl, fun _ ↦ rfl, nofun⟩

/-- One more entry is followed if the ledger changes under its token as the entry says. -/
theorem Follows.concat {b : Book} (h : b.Follows) {l : Ledger} {entry : Entry}
    (htype : ∀ token, l.type? token
      = if token = entry.token then entry.type? else b.ledger.type? token)
    (hnext : issues (b.log ++ [entry]) < 2 ^ 32 →
      l.nextToken = UInt32.ofNat (issues (b.log ++ [entry]) + 1))
    (hle : entry.type?.isSome = true → entry.token.toNat ≤ issues (b.log ++ [entry])) :
    Follows ⟨l, b.log ++ [entry]⟩ := by
  refine ⟨fun token ↦ ?_, hnext, fun token hsome ↦ ?_⟩
  · rw [htype, latest?_concat, h.type?_eq]
  · rw [latest?_concat] at hsome
    by_cases htoken : token = entry.token
    · rw [if_pos htoken] at hsome
      rw [htoken]
      exact hle hsome
    · rw [if_neg htoken] at hsome
      rw [issues_concat]
      exact Nat.le_add_right_of_le (h.toNat_le token hsome)

/-- Until all numbers have been given out, the next one is free. -/
theorem Follows.isFree_nextToken {b : Book} (h : b.Follows) (hfew : issues b.log + 1 < 2 ^ 32) :
    b.ledger.isFree b.ledger.nextToken = true ∧ b.ledger.nextToken.toNat = issues b.log + 1 := by
  have hnumber : b.ledger.nextToken.toNat = issues b.log + 1 := by
    rw [h.nextToken_eq (Nat.lt_of_succ_lt hfew), UInt32.toNat_ofNat_of_lt' hfew]
  refine ⟨isFree_iff.2 ⟨fun hzero ↦ ?_, ?_⟩, hnumber⟩
  · rw [hzero] at hnumber
    exact absurd hnumber (Nat.succ_ne_zero _).symm
  · rw [h.type?_eq, ← Option.not_isSome_iff_eq_none]
    intro hsome
    have hle := h.toNat_le _ hsome
    omega

/-- **A token that is given out has no request waiting under it, and is the next number** until all
numbers have been given out. -/
theorem Follows.insert {b : Book} (h : b.Follows) (hroom : b.ledger.size < 2 ^ 32 - 1)
    (type : UInt32) :
    (Entry.issued (b.ledger.insert type).1 type).ComesAfter b.log
      ∧ (b.perform (.insert type)).Follows := by
  have hallots := allots_insert hroom type
  have hnone : latest? b.log (b.ledger.insert type).1 = none := by
    rw [← h.type?_eq, ← Option.not_isSome_iff_eq_none, ← isPending_eq, hallots.not_pending]
    exact Bool.false_ne_true
  have hnumber : issues b.log + 1 < 2 ^ 32 →
      (b.ledger.insert type).1.toNat = issues b.log + 1 := by
    intro hfew
    obtain ⟨hfree, hnext⟩ := h.isFree_nextToken hfew
    rw [insert_of_isFree hfree]
    exact hnext
  have hissues : issues (b.log ++ [.issued (b.ledger.insert type).1 type]) = issues b.log + 1 :=
    issues_concat ..
  have hfollows : Follows ⟨(b.ledger.insert type).2,
      b.log ++ [.issued (b.ledger.insert type).1 type]⟩ := by
    refine h.concat hallots.type?_eq (fun hfew ↦ ?_) fun _ ↦ ?_
    · rw [hissues] at hfew ⊢
      rw [hallots.nextToken_eq, ← UInt32.ofNat_toNat (x := (b.ledger.insert type).1),
        hnumber hfew]
      exact (UInt32.ofNat_add _ 1).symm
    · rw [hissues]
      rcases Nat.lt_or_ge (issues b.log + 1) (2 ^ 32) with hfew | hall
      · exact Nat.le_of_eq (hnumber hfew)
      · exact Nat.le_of_lt (Nat.lt_of_lt_of_le (UInt32.toNat_lt _) hall)
  exact ⟨⟨hnone, hnumber⟩, hfollows⟩

/-- **An answer is the type of the request that waits**, and none waits behind it. -/
theorem Follows.resolve {b : Book} (h : b.Follows) (token : UInt32) :
    (Entry.resolved token (b.ledger.type? token)).ComesAfter b.log
      ∧ (b.perform (.resolve token)).Follows := by
  have hissues : issues (b.log ++ [.resolved token (b.ledger.type? token)]) = issues b.log :=
    issues_concat ..
  refine ⟨h.type?_eq token, h.concat (type?_erase b.ledger token) ?_ nofun⟩
  intro hfew
  rw [hissues] at hfew ⊢
  exact h.nextToken_eq hfew

/-- **Along every run with room each entry follows from those before it.** -/
theorem follows_performAll {operations : List Operation} (hroom : HasRoom operations) :
    (performAll operations).Follows
      ∧ ∀ past entry, past ++ [entry] <+: (performAll operations).log → entry.ComesAfter past := by
  induction operations using List.reverseRecOn with
  | nil => exact ⟨follows_new, fun past entry hentry ↦ absurd (List.prefix_nil.1 hentry) (by simp)⟩
  | append_singleton operations operation ih =>
    obtain ⟨hfollows, hentries⟩ := ih fun past type hpast ↦
      hroom past type (hpast.trans (List.prefix_append _ _))
    have hstep : ∃ entry : Entry, ((performAll operations).perform operation).log
          = (performAll operations).log ++ [entry]
        ∧ entry.ComesAfter (performAll operations).log
        ∧ ((performAll operations).perform operation).Follows := by
      cases operation with
      | insert type => exact ⟨_, rfl, hfollows.insert (hroom _ type (List.prefix_refl _)) type⟩
      | resolve token => exact ⟨_, rfl, hfollows.resolve token⟩
    obtain ⟨last, hlog, hlast, hfollows'⟩ := hstep
    rw [performAll_concat]
    refine ⟨hfollows', fun past entry hentry ↦ ?_⟩
    rw [hlog, List.prefix_concat_iff] at hentry
    rcases hentry with heq | hearlier
    · obtain ⟨rfl, hsingle⟩ := List.append_inj' heq rfl
      obtain rfl := List.singleton_inj.1 hsingle
      exact hlast
    · exact hentries past entry hearlier

end Book

/-! ### Requests that wait -/

/-- A request that waits has its token from before any other that waits under it. -/
theorem Waits.length_le {log past past' : List Entry} {token type type' : UInt32}
    (hlog : ∀ past entry, past ++ [entry] <+: log → entry.ComesAfter past)
    (h : Waits log past token type) (h' : Waits log past' token type') :
    past'.length ≤ past.length := by
  refine Nat.not_lt.1 fun hlt ↦ ?_
  obtain ⟨since, rfl, hopen⟩ := h
  obtain ⟨since', heq, -⟩ := h'
  -- the first request waits still when the token is given out again
  have hfirst : past ++ [.issued token type] <+: past ++ .issued token type :: since :=
    ⟨since, by simp⟩
  have hlength : (past ++ [Entry.issued token type]).length ≤ past'.length := by
    rwa [List.length_append, List.length_singleton]
  have hbegin := List.prefix_of_prefix_length_le hfirst ⟨_, heq.symm⟩ hlength
  obtain ⟨between, rfl⟩ := hbegin
  have hsince : since = between ++ .issued token type' :: since' := by simpa using heq
  have hwaits : Waits (past ++ [.issued token type] ++ between) past token type := by
    refine ⟨between, by simp, fun answer hanswer ↦ hopen answer ?_⟩
    rw [hsince]
    exact List.mem_append_left _ hanswer
  have hfree := (hlog (past ++ [.issued token type] ++ between) (.issued token type')
    ⟨since', by simp [hsince]⟩).1
  rw [← Option.not_isSome_iff_eq_none] at hfree
  exact hfree hwaits.latest?_isSome

/-- **No two requests wait under one token.** -/
theorem Waits.past_unique {log past past' : List Entry} {token type type' : UInt32}
    (hlog : ∀ past entry, past ++ [entry] <+: log → entry.ComesAfter past)
    (h : Waits log past token type) (h' : Waits log past' token type') : past = past' := by
  have hlength := Nat.le_antisymm (h'.length_le hlog h) (h.length_le hlog h')
  obtain ⟨since, rfl, -⟩ := h
  obtain ⟨since', heq, -⟩ := h'
  exact (List.append_inj heq hlength).1

/-- **Tokens are given out right.** A ledger with room finds the first free token from its next
number on, and has changed by the request only. In every run from a new ledger with room at each
insertion no two requests that wait have the same token; an answer is the type of the latest request
that was given the token, and is told once; and the requests are given the numbers from one on until
these have all been given out. -/
theorem tokens_allotted :
    (∀ (l : Ledger) (type : UInt32), l.size < 2 ^ 32 - 1 →
        l.Allots type (l.insert type).1 (l.insert type).2)
      ∧ ∀ operations : List Operation, Book.HasRoom operations →
        let log := (Book.performAll operations).log
        (∀ past past' token token' type type', Waits log past token type →
            Waits log past' token' type' → past ≠ past' → token ≠ token')
          ∧ (∀ past token answer, past ++ [.resolved token answer] <+: log →
            answer = latest? past token)
          ∧ (∀ past since token answer answer',
            past ++ .resolved token answer :: since ++ [.resolved token answer'] <+: log →
            (∀ type, .issued token type ∉ since) → answer' = none)
          ∧ ∀ past token type, past ++ [.issued token type] <+: log →
            issues past + 1 < 2 ^ 32 → token.toNat = issues past + 1 := by
  refine ⟨fun l type hroom ↦ allots_insert hroom type, fun operations hroom ↦ ?_⟩
  have hlog := (Book.follows_performAll hroom).2
  refine ⟨?_, fun past token answer hentry ↦ hlog _ _ hentry, ?_,
    fun past token type hentry ↦ (hlog _ _ hentry).2⟩
  · rintro past past' token _ type type' hwaits hwaits' hne rfl
    exact hne (hwaits.past_unique hlog hwaits')
  · intro past since token answer answer' hentry hsince
    have hanswer : answer' = latest? (past ++ .resolved token answer :: since) token :=
      hlog _ _ hentry
    rw [hanswer, latest?_of_resolved hsince]

/-- The search goes around: the last number, zero and the first are taken. In the run a token is
answered twice. -/
theorem tokens_allotted_around_zero :
    let l : Ledger := ⟨⟨[(0xffffffff, 7), (1, 8)]⟩, 0xffffffff⟩
    let operations : List Operation :=
      [.insert 7, .insert 8, .resolve 1, .insert 9, .resolve 1]
    let log : List Entry := [.issued 1 7, .issued 2 8, .resolved 1 (some 7), .issued 3 9]
    l.size < 2 ^ 32 - 1 ∧ l.Allots 9 2 (l.insert 9).2 ∧ Book.HasRoom operations
      ∧ (Book.performAll operations).log = log ++ [.resolved 1 none]
      ∧ latest? log 1 = none ∧ (2 : UInt32) ≠ 3 := by
  intro l operations log
  have hsize : l.size < 2 ^ 32 - 1 := by decide
  have hroom : Book.HasRoom operations := Book.hasRoom_of_length_lt (by decide)
  obtain ⟨htable, hruns⟩ := tokens_allotted
  obtain ⟨hwaits, hanswers, -⟩ := hruns operations hroom
  have hallots := htable l 9 hsize
  have htoken : (l.insert 9).1 = 2 := by decide
  rw [htoken] at hallots
  refine ⟨hsize, hallots, hroom, rfl, (hanswers log 1 none (List.prefix_refl _)).symm, ?_⟩
  refine hwaits [.issued 1 7] [.issued 1 7, .issued 2 8, .resolved 1 (some 7)] 2 3 8 9
    ⟨_, rfl, ?_⟩ ⟨_, rfl, ?_⟩ (by decide)
  · intro answer
    simp
  · intro answer
    simp

end ParcelLink.Ledger
