import Mathlib.Data.List.Nodup
import ParcelLink.Proofs.Endpoint.Course
import ParcelLink.Proofs.Ledger.Tokens

/-!
# Answers go to their requests

Every event with a token is about the request that the token was given out to, and no request gets
two of them. What makes this so is that the ledger holds, at any time, exactly the requests that are
still outstanding: those whose token was given out, and since then neither taken back nor answered
(`Endpoint.Outstanding`).

The argument forgets the endpoint. A `Endpoint.Chronicle` is a history in which every entry follows
from the ledger before it, as one of three steps; the history of every course is one
(`Endpoint.Course.chronicle_performAll`). As long as the tokens have not been used up, they are
given out in the order of the numbers, and each step preserves the agreement of the history with the
ledger (`Endpoint.Consistent.step`). Every beginning of a chronicle is a chronicle
(`Endpoint.Chronicle.exists_step`), so the agreement holds at each moment of the history, also
between the bodies of one chunk.

## Main definitions

* `Endpoint.issues`, `Endpoint.events`, `Endpoint.answeredTokens`: what a history holds.
* `Endpoint.Outstanding`: whether a request waits for its answer, told from a history.
* `Endpoint.Chronicle`: histories in which every entry follows from the ledger before it.
* `Endpoint.Consistent`: the agreement of a history with a ledger.
-/

namespace ParcelLink

namespace Endpoint

/-! ### What a history holds -/

namespace Happening

/-- The token that is given out, with the type of its request. -/
def issue? : Happening → Option (UInt32 × ParcelType)
  | issued token type => some (token, type)
  | _ => none

/-- The event that is due. -/
def event? : Happening → Option Event
  | arrived _ event? => event?
  | _ => none

/-- Whether a token is used up: it is taken back, or an event carries it. -/
def Spends (token : UInt32) (x : Happening) : Prop :=
  x = withdrawn token ∨ ∃ event, x.event? = some event ∧ event.token? = some token

/-- Whether a token is not waited for any more: it is taken back, or a body answers it. -/
def Closes (token : UInt32) : Happening → Prop
  | issued .. => False
  | withdrawn other => other = token
  | arrived body _ => solicited? body = some token

end Happening

/-- The tokens given out, with the types of their requests. -/
def issues (happenings : List Happening) : List (UInt32 × ParcelType) :=
  happenings.filterMap Happening.issue?

/-- The events that are due. -/
def events (happenings : List Happening) : List Event := happenings.filterMap Happening.event?

/-- The tokens that events carry. -/
def answeredTokens (happenings : List Happening) : List UInt32 :=
  (events happenings).filterMap Event.token?

/-- Whether a token has been used up. -/
def Spent (happenings : List Happening) (token : UInt32) : Prop :=
  .withdrawn token ∈ happenings ∨ token ∈ answeredTokens happenings

/-- A request waits for its answer: its token was given out to a type, and nothing has closed it
since. -/
def Outstanding (happenings : List Happening) (token : UInt32) (type : ParcelType) : Prop :=
  ∃ past since, happenings = past ++ .issued token type :: since ∧ ∀ x ∈ since, ¬ x.Closes token

section Histories

variable {h : List Happening} {x : Happening} {token : UInt32} {type : ParcelType}

/-- In a history with one more entry, an entry is the last one or stands in the history. -/
theorem concat_eq_append_cons {α : Type} {l past since : List α} {x y : α}
    (heq : l ++ [x] = past ++ y :: since) :
    (past = l ∧ y = x ∧ since = [])
      ∨ ∃ since', since = since' ++ [x] ∧ l = past ++ y :: since' := by
  rcases List.eq_nil_or_concat since with rfl | ⟨since', last, rfl⟩
  · obtain ⟨hl, hx⟩ := List.append_inj' heq rfl
    exact .inl ⟨hl.symm, (List.singleton_inj.1 hx).symm, rfl⟩
  · rw [List.concat_eq_append, ← List.cons_append, ← List.append_assoc] at heq
    obtain ⟨hl, hx⟩ := List.append_inj' heq rfl
    obtain rfl := List.singleton_inj.1 hx
    exact .inr ⟨since', List.concat_eq_append, hl⟩

theorem mem_issues : (token, type) ∈ issues h ↔ .issued token type ∈ h := by
  simp only [issues, List.mem_filterMap]
  constructor
  · rintro ⟨x, hx, heq⟩
    cases x with
    | issued token' type' =>
      cases heq
      exact hx
    | withdrawn | arrived => cases heq
  · exact fun hmem ↦ ⟨_, hmem, rfl⟩

/-- One more entry leaves open what it does not close, and may open something itself. -/
theorem outstanding_concat :
    Outstanding (h ++ [x]) token type
      ↔ x = .issued token type ∨ Outstanding h token type ∧ ¬ x.Closes token := by
  constructor
  · rintro ⟨past, since, heq, hopen⟩
    obtain ⟨-, rfl, -⟩ | ⟨since, rfl, rfl⟩ := concat_eq_append_cons heq
    · exact .inl rfl
    · have hx : ¬ x.Closes token := hopen x (List.mem_append_right _ (List.mem_singleton_self x))
      exact .inr ⟨⟨past, since, rfl, fun y hy ↦ hopen y (List.mem_append_left _ hy)⟩, hx⟩
  · rintro (rfl | ⟨⟨past, since, rfl, hopen⟩, hx⟩)
    · exact ⟨h, [], rfl, by simp⟩
    · refine ⟨past, since ++ [x], by simp, fun y hy ↦ ?_⟩
      rcases List.mem_append.1 hy with hy | hy
      · exact hopen y hy
      · rwa [List.mem_singleton.1 hy]

theorem answeredTokens_concat :
    answeredTokens (h ++ [x]) = answeredTokens h ++ (x.event?.bind Event.token?).toList := by
  rw [answeredTokens, events, List.filterMap_append, List.filterMap_append, answeredTokens, events]
  rcases hevent : x.event? with - | event
  · simp [hevent]
  · rcases htoken : event.token? with - | token <;> simp [hevent, htoken]

theorem spent_concat : Spent (h ++ [x]) token ↔ Spent h token ∨ x.Spends token := by
  simp only [Spent, Happening.Spends, answeredTokens_concat, List.mem_append, List.mem_singleton,
    Option.mem_toList, Option.bind_eq_some_iff, eq_comm (a := x)]
  exact or_or_or_comm

/-- Earlier on, no more tokens had been given out. -/
theorem length_issues_le (h later : List Happening) :
    (issues h).length ≤ (issues (h ++ later)).length := by
  rw [issues, issues, List.filterMap_append, List.length_append]
  exact Nat.le_add_right _ _

/-- If the numbers are not used up, they were not used up before. -/
theorem room_before {history : List Entry} {entry : Entry}
    (hroom : (issues ((history ++ [entry]).map Entry.what)).length + 1 < 2 ^ 32) :
    (issues (history.map Entry.what)).length + 1 < 2 ^ 32 := by
  have hle := length_issues_le (history.map Entry.what) [entry.what]
  rw [List.map_append, List.map_singleton] at hroom
  omega

theorem Outstanding.issued_mem (ho : Outstanding h token type) : .issued token type ∈ h := by
  obtain ⟨past, since, rfl, -⟩ := ho
  simp

end Histories

/-! ### Histories that follow from the ledger -/

/-- What may happen next, and the requests that are pending then. A token is only taken back while
its request is outstanding. -/
inductive Step (history : List Entry) (ledger : Ledger) : Entry → Prop where
  /-- A token is given out to a request of a type. -/
  | issue (type : ParcelType) :
    Step history ledger ⟨.issued (ledger.insert type).1 type, (ledger.insert type).2⟩
  /-- A token is taken back. -/
  | withdraw (token : UInt32) (type : ParcelType)
      (waits : Outstanding (history.map Entry.what) token type) :
    Step history ledger ⟨.withdrawn token, ledger.erase token⟩
  /-- A body is dispatched. -/
  | arrive (registry : Registry) (body : Octets) :
    Step history ledger
      ⟨.arrived body (conclude registry ledger body).2, (conclude registry ledger body).1⟩

/-- A history from the beginning, and the requests that are pending behind it. -/
inductive Chronicle : List Entry → Ledger → Prop where
  | nil : Chronicle [] {}
  | snoc {history : List Entry} {ledger : Ledger} {entry : Entry} :
    Chronicle history ledger → Step history ledger entry →
      Chronicle (history ++ [entry]) entry.pending

namespace Chronicle

/-- Every entry follows from the chronicle before it. -/
theorem exists_step {history past later : List Entry} {ledger : Ledger} {entry : Entry}
    (h : Chronicle history ledger) (heq : history = past ++ entry :: later) :
    ∃ before, Chronicle past before ∧ Step past before entry := by
  induction h generalizing later with
  | nil => simp at heq
  | @snoc history ledger last h hstep ih =>
    obtain ⟨rfl, rfl, -⟩ | ⟨later, -, heq⟩ := concat_eq_append_cons heq
    · exact ⟨ledger, h, hstep⟩
    · exact ih heq

/-- Bodies that arrive prolong a chronicle. -/
theorem arrivals {history : List Entry} {ledger : Ledger} (h : Chronicle history ledger)
    (registry : Registry) (bodies : List Octets) :
    Chronicle (history ++ Endpoint.arrivals registry ledger bodies)
      (concludeAll registry ledger bodies).1 := by
  induction bodies generalizing history ledger with
  | nil => simpa [Endpoint.arrivals, concludeAll] using h
  | cons body bodies ih =>
    have hrest := ih (h.snoc (.arrive registry body))
    rw [List.append_assoc] at hrest
    rw [concludeAll_cons, arrivals_cons]
    exact hrest

end Chronicle

/-- The events of bodies that arrive are those of their conclusions. -/
theorem events_arrivals (registry : Registry) (ledger : Ledger) (bodies : List Octets) :
    events ((arrivals registry ledger bodies).map Entry.what)
      = (concludeAll registry ledger bodies).2 := by
  induction bodies generalizing ledger with
  | nil => rfl
  | cons body bodies ih =>
    simp only [concludeAll_cons, ← ih, arrivals_cons, events, List.map_cons, List.filterMap_cons,
      Happening.event?]
    rcases (conclude registry ledger body).2 with - | event <;> rfl

/-! ### The agreement of a history with the ledger -/

/-- The ledger agrees with what has happened. -/
structure Consistent (h : List Happening) (ledger : Ledger) : Prop where
  /-- Tokens are given out in the order of the numbers. -/
  issues_eq : (issues h).map (fun issue ↦ issue.1.toNat) = List.range' 1 (issues h).length
  /-- The next number is the next token. -/
  nextToken_eq : ledger.nextToken.toNat = (issues h).length + 1
  /-- A request is pending exactly while it is outstanding. -/
  type?_eq : ∀ token type, ledger.type? token = some type ↔ Outstanding h token type
  /-- No two events carry the same token. -/
  nodup : (answeredTokens h).Nodup
  /-- Only tokens that were given out are used up. -/
  issued_of_spent : ∀ token, Spent h token → ∃ type, .issued token type ∈ h
  /-- The token of an outstanding request is not used up. -/
  not_spent : ∀ token type, Outstanding h token type → ¬ Spent h token

namespace Consistent

variable {h : List Happening} {ledger : Ledger} {token : UInt32} {type type' : ParcelType}

/-- A token that was given out is below the next one. -/
theorem toNat_lt (hc : Consistent h ledger) (hi : .issued token type ∈ h) :
    token.toNat < ledger.nextToken.toNat := by
  have hmem : token.toNat ∈ (issues h).map fun issue ↦ issue.1.toNat :=
    List.mem_map.2 ⟨_, mem_issues.2 hi, rfl⟩
  rw [hc.issues_eq, List.mem_range'_1] at hmem
  rw [hc.nextToken_eq]
  omega

/-- A token is given out to one type only. -/
theorem type_unique (hc : Consistent h ledger) (hi : .issued token type ∈ h)
    (hi' : .issued token type' ∈ h) : type = type' := by
  have hnodup : ((issues h).map fun issue ↦ issue.1.toNat).Nodup := by
    rw [hc.issues_eq]
    exact List.nodup_range'
  have heq := List.inj_on_of_nodup_map hnodup (mem_issues.2 hi) (mem_issues.2 hi') rfl
  exact (Prod.mk.inj heq).2

/-- The next token is free. -/
theorem isFree_nextToken (hc : Consistent h ledger) : ledger.isFree ledger.nextToken = true := by
  refine Ledger.isFree_iff.2 ⟨fun hzero ↦ ?_, ?_⟩
  · have hnext := hc.nextToken_eq
    rw [hzero] at hnext
    cases hnext
  · rcases htype : ledger.type? ledger.nextToken with - | type
    · rfl
    · have hi := ((hc.type?_eq _ _).1 htype).issued_mem
      exact absurd (hc.toNat_lt hi) (Nat.lt_irrefl _)

/-- The fresh ledger agrees with the empty history. -/
theorem nil : Consistent [] {} where
  issues_eq := rfl
  nextToken_eq := rfl
  type?_eq token type := by
    constructor
    · intro htype
      cases htype
    · rintro ⟨past, since, heq, -⟩
      simp at heq
  nodup := List.nodup_nil
  issued_of_spent token hs := by simp [Spent, answeredTokens, events] at hs
  not_spent token type hs := by simp [Spent, answeredTokens, events]

/-- Giving out a token preserves the agreement, unless the numbers are used up. -/
theorem issue (hc : Consistent h ledger) (hroom : (issues h).length + 2 < 2 ^ 32)
    (type : ParcelType) :
    Consistent (h ++ [.issued (ledger.insert type).1 type]) (ledger.insert type).2 := by
  have hinsert := Ledger.insert_of_isFree hc.isFree_nextToken type
  have htoken : (ledger.insert type).1 = ledger.nextToken := by rw [hinsert]
  have hnext : (ledger.insert type).2.nextToken = ledger.nextToken + 1 := by rw [hinsert]
  -- the token is new, so nothing that is known of earlier tokens is about it
  have hfresh : ∀ type', .issued ledger.nextToken type' ∉ h := fun type' hi ↦
    absurd (hc.toNat_lt hi) (Nat.lt_irrefl _)
  have hspends : ∀ token, ¬ (Happening.issued ledger.nextToken type).Spends token := by
    simp [Happening.Spends, Happening.event?]
  have hissues : issues (h ++ [.issued ledger.nextToken type])
      = issues h ++ [(ledger.nextToken, type)] := by
    simp [issues, Happening.issue?]
  rw [htoken]
  refine ⟨?_, ?_, fun token type' ↦ ?_, ?_, fun token hs ↦ ?_, fun token type' ho hs ↦ ?_⟩
  · rw [hissues, List.map_append, hc.issues_eq, List.length_append, List.length_singleton,
      List.range'_concat, List.map_singleton, hc.nextToken_eq, Nat.one_mul, Nat.add_comm]
  · rw [hnext, hissues, List.length_append, List.length_singleton, UInt32.toNat_add,
      hc.nextToken_eq]
    exact Nat.mod_eq_of_lt hroom
  · rw [outstanding_concat, Ledger.type?_insert, htoken]
    by_cases h : token = ledger.nextToken
    · subst h
      have hnot : ¬ Outstanding _ ledger.nextToken type' := fun ho ↦ hfresh type' ho.issued_mem
      simp [hnot]
    · rw [if_neg h, hc.type?_eq]
      simp [Happening.Closes, Ne.symm h]
  · rw [answeredTokens_concat]
    simpa [Happening.event?] using hc.nodup
  · have hs := (spent_concat.1 hs).resolve_right (hspends token)
    obtain ⟨type', hi⟩ := hc.issued_of_spent token hs
    exact ⟨type', List.mem_append_left _ hi⟩
  · have hs := (spent_concat.1 hs).resolve_right (hspends token)
    rcases outstanding_concat.1 ho with heq | ⟨ho, -⟩
    · cases heq
      obtain ⟨type', hi⟩ := hc.issued_of_spent _ hs
      exact hfresh type' hi
    · exact hc.not_spent token type' ho hs

/-- What only closes requests preserves the agreement, if it uses up no tokens but those of
outstanding requests that it closes. -/
theorem close (hc : Consistent h ledger) {x : Happening} {ledger' : Ledger} (hx : x.issue? = none)
    (hnext : ledger'.nextToken = ledger.nextToken)
    (htype : ∀ token type,
      ledger'.type? token = some type ↔ ledger.type? token = some type ∧ ¬ x.Closes token)
    (hspends : ∀ token, x.Spends token → x.Closes token ∧ ∃ type, Outstanding h token type) :
    Consistent (h ++ [x]) ledger' := by
  have hissues : issues (h ++ [x]) = issues h := by simp [issues, hx]
  have hnot : ∀ token type, x ≠ .issued token type := by
    rintro token type rfl
    cases hx
  refine ⟨?_, ?_, fun token type ↦ ?_, ?_, fun token hs ↦ ?_, fun token type ho hs ↦ ?_⟩
  · rw [hissues]
    exact hc.issues_eq
  · rw [hissues, hnext]
    exact hc.nextToken_eq
  · rw [outstanding_concat, htype, hc.type?_eq]
    simp [hnot token type]
  · rw [answeredTokens_concat]
    rcases hanswered : x.event?.bind Event.token? with - | token
    · simpa using hc.nodup
    -- a token that is answered now was outstanding, so no event has carried it before
    · obtain ⟨-, type, hwaits⟩ := hspends token (.inr (Option.bind_eq_some_iff.1 hanswered))
      have hnew : token ∉ answeredTokens h := fun hmem ↦ hc.not_spent token type hwaits (.inr hmem)
      simpa [List.nodup_append, hc.nodup] using fun a ha ↦ ne_of_mem_of_not_mem ha hnew
  · rcases spent_concat.1 hs with hs | hs
    · obtain ⟨type, hi⟩ := hc.issued_of_spent token hs
      exact ⟨type, List.mem_append_left _ hi⟩
    · obtain ⟨-, type, hwaits⟩ := hspends token hs
      exact ⟨type, List.mem_append_left _ hwaits.issued_mem⟩
  · obtain heq | ⟨ho, hopen⟩ := outstanding_concat.1 ho
    · exact hnot token type heq
    · rcases spent_concat.1 hs with hs | hs
      · exact hc.not_spent token type ho hs
      · exact hopen (hspends token hs).1

/-- Taking back the token of an outstanding request preserves the agreement. -/
theorem withdraw (hc : Consistent h ledger) (hwaits : Outstanding h token type) :
    Consistent (h ++ [.withdrawn token]) (ledger.erase token) := by
  refine hc.close rfl (Ledger.nextToken_erase _ _) (fun other type' ↦ ?_) ?_
  · rw [Ledger.type?_erase]
    by_cases heq : other = token
    · simp [heq, Happening.Closes]
    · simp [heq, Happening.Closes, Ne.symm heq]
  · rintro other (heq | ⟨event, hevent, -⟩)
    · cases heq
      exact ⟨rfl, type, hwaits⟩
    · cases hevent

/-- An event with a token is about the outstanding request that has the token. -/
theorem outstanding_of_event (hc : Consistent h ledger) {registry : Registry} {body : Octets}
    {event : Event} (hevent : (conclude registry ledger body).2 = some event)
    (htoken : event.token? = some token) : Outstanding h token event.type :=
  (hc.type?_eq _ _).1 (pending_of_event hevent htoken).2

/-- Dispatching a body preserves the agreement. -/
theorem arrive (hc : Consistent h ledger) (registry : Registry) (body : Octets) :
    Consistent (h ++ [.arrived body (conclude registry ledger body).2])
      (conclude registry ledger body).1 := by
  refine hc.close rfl (nextToken_conclude _ _ _) (fun token type ↦ ?_) ?_
  · rw [type?_conclude]
    by_cases hsolicited : solicited? body = some token
    · simp [hsolicited, Happening.Closes]
    · simp [hsolicited, Happening.Closes]
  · rintro token (heq | ⟨event, hevent, htoken⟩)
    · cases heq
    · exact ⟨(pending_of_event hevent htoken).1, _, hc.outstanding_of_event hevent htoken⟩

/-- **Each step preserves the agreement**, as long as the numbers are not used up. -/
theorem step {history : List Entry} {entry : Entry}
    (hc : Consistent (history.map Entry.what) ledger) (hs : Step history ledger entry)
    (hroom : (issues ((history ++ [entry]).map Entry.what)).length + 1 < 2 ^ 32) :
    Consistent ((history ++ [entry]).map Entry.what) entry.pending := by
  rw [List.map_append, List.map_singleton] at hroom ⊢
  cases hs with
  | issue type =>
    refine hc.issue ?_ type
    simpa [issues, Happening.issue?] using hroom
  | withdraw token type waits => exact hc.withdraw waits
  | arrive registry body => exact hc.arrive registry body

end Consistent

/-- An event with a token is due for the request that was outstanding under the token. -/
theorem Step.outstanding_of_event {history : List Entry} {ledger : Ledger} {entry : Entry}
    (hs : Step history ledger entry) (hc : Consistent (history.map Entry.what) ledger)
    {event : Event} {token : UInt32} (hevent : entry.what.event? = some event)
    (htoken : event.token? = some token) :
    Outstanding (history.map Entry.what) token event.type := by
  cases hs with
  | issue | withdraw => cases hevent
  | arrive registry body => exact hc.outstanding_of_event hevent htoken

/-- A token that has been used up is not taken back. -/
theorem Step.ne_withdrawn {history : List Entry} {ledger : Ledger} {entry : Entry}
    (hs : Step history ledger entry) (hc : Consistent (history.map Entry.what) ledger)
    {token : UInt32} (hspent : Spent (history.map Entry.what) token) :
    entry.what ≠ .withdrawn token := by
  intro heq
  cases hs with
  | issue | arrive => cases heq
  | withdraw other type waits =>
    obtain rfl : other = token := Happening.withdrawn.inj heq
    exact hc.not_spent other type waits hspent

/-- **A chronicle agrees with its ledger**, as long as the numbers are not used up. -/
theorem Chronicle.consistent {history : List Entry} {ledger : Ledger} (h : Chronicle history ledger)
    (hroom : (issues (history.map Entry.what)).length + 1 < 2 ^ 32) :
    Consistent (history.map Entry.what) ledger := by
  induction h with
  | nil => exact .nil
  | @snoc history ledger entry h hstep ih =>
    exact (ih (room_before hroom)).step hstep hroom

/-! ### The history of a course -/

namespace Course

variable {τ : Type}

/-- An operation prolongs the chronicle. -/
theorem chronicle_perform (transport : Transport τ) {c : Course τ} (hstands : c.Stands)
    (h : Chronicle c.history c.endpoint.ledger) (operation : Operation) :
    Chronicle (c.perform transport operation).history
      (c.perform transport operation).endpoint.ledger := by
  cases operation with
  | abandon type arguments =>
    obtain ⟨draft, hprepare⟩ := c.endpoint.value_prepare type arguments
    simp only [perform, hprepare]
    exact h.snoc (.issue type)
  | send type arguments =>
    obtain ⟨draft, hprepare⟩ := c.endpoint.value_prepare type arguments
    obtain ⟨draft', wire, hsend | ⟨cause, hsend⟩⟩ :=
      c.endpoint.value_send type arguments transport c.wire
    · simp only [perform, hprepare, hsend]
      exact h.snoc (.issue type)
    · simp only [perform, hprepare, hsend]
      have hwaits : Outstanding (c.happenings ++ [.issued (c.endpoint.ledger.insert type).1 type])
          (c.endpoint.ledger.insert type).1 type := outstanding_concat.2 (.inl rfl)
      have hwithdrawn := (h.snoc (.issue type)).snoc
        (.withdraw _ type (by simpa [happenings] using hwaits))
      rwa [List.append_assoc] at hwithdrawn
  | equip registry => exact h
  | receive chunk =>
    obtain ⟨framer, hreceive, -⟩ := value_receive hstands chunk
    simp only [perform, hreceive]
    exact h.arrivals _ _

/-- The history of a course is a chronicle. -/
theorem chronicle_performAll (transport : Transport τ) (config : Config) (wire : τ)
    (operations : List Operation) :
    Chronicle ((fresh config wire).performAll transport operations).history
      ((fresh config wire).performAll transport operations).endpoint.ledger := by
  induction operations using List.reverseRecOn with
  | nil => exact .nil
  | append_singleton operations operation ih =>
    rw [performAll_concat]
    have hstands := stands_performAll transport config wire operations
    exact chronicle_perform transport hstands ih operation

/-- What was received are the events of the history that the sink takes. -/
def Recorded (sink : Sink) (c : Course τ) : Prop :=
  c.endpoint.sink = sink ∧ c.received = sink.taken (events c.happenings)

theorem recorded_perform (transport : Transport τ) {sink : Sink} {c : Course τ} (hstands : c.Stands)
    (h : c.Recorded sink) (operation : Operation) :
    (c.perform transport operation).Recorded sink := by
  obtain ⟨rfl, hreceived⟩ := h
  cases operation with
  | abandon type arguments =>
    obtain ⟨draft, hprepare⟩ := c.endpoint.value_prepare type arguments
    simp only [perform, hprepare]
    refine ⟨rfl, ?_⟩
    simpa [happenings, events, List.filterMap_cons, Happening.event?] using hreceived
  | send type arguments =>
    obtain ⟨draft, hprepare⟩ := c.endpoint.value_prepare type arguments
    obtain ⟨draft', wire, hsend | ⟨cause, hsend⟩⟩ :=
      c.endpoint.value_send type arguments transport c.wire
    all_goals
      simp only [perform, hprepare, hsend]
      refine ⟨rfl, ?_⟩
      simpa [happenings, events, List.filterMap_cons, Happening.event?] using hreceived
  | equip registry => exact ⟨rfl, hreceived⟩
  | receive chunk =>
    obtain ⟨framer, hreceive, -⟩ := value_receive hstands chunk
    simp only [perform, hreceive]
    refine ⟨rfl, ?_⟩
    have hevents : events ((c.history ++ arrivals c.endpoint.registry c.endpoint.ledger
          (c.endpoint.framer.completed chunk)).map Entry.what)
        = events c.happenings ++ (concludeAll c.endpoint.registry c.endpoint.ledger
            (c.endpoint.framer.completed chunk)).2 := by
      rw [← events_arrivals, List.map_append]
      exact List.filterMap_append
    rw [happenings, hevents, Sink.taken_append, ← hreceived]
    rfl

theorem recorded_performAll (transport : Transport τ) (config : Config) (wire : τ)
    (operations : List Operation) :
    ((fresh config wire).performAll transport operations).Recorded config.sink := by
  induction operations using List.reverseRecOn with
  | nil => exact ⟨rfl, rfl⟩
  | append_singleton operations operation ih =>
    rw [performAll_concat]
    have hstands := stands_performAll transport config wire operations
    exact recorded_perform transport hstands ih operation

/-! ### Answers and requests -/

/-- **Answers go to their requests, and no request is answered twice.** Fewer than `2 ^ 32 - 1`
tokens have been given out to requests, by any operations on a fresh endpoint. Then an event with a
token is about the one request that had been given the token when the body was dispatched, and the
token had not been taken back; no two events carry the same token; and after each happening, as in
the end, a request is pending exactly if it is outstanding. The events that were received are these
events, as far as the sink takes them. -/
theorem events_of_requests (transport : Transport τ) (config : Config) (wire : τ)
    (operations : List Operation)
    (h : (issues ((fresh config wire).performAll transport operations).happenings).length
      < 2 ^ 32 - 1) :
    let c := (fresh config wire).performAll transport operations
    (∀ past body event later token,
        c.happenings = past ++ .arrived body (some event) :: later → event.token? = some token →
          (∀ type, .issued token type ∈ past ↔ type = event.type) ∧ .withdrawn token ∉ past)
      ∧ (answeredTokens c.happenings).Nodup
      ∧ (∀ past entry later, c.history = past ++ entry :: later → ∀ token type,
          entry.pending.type? token = some type
            ↔ Outstanding ((past ++ [entry]).map Entry.what) token type)
      ∧ (∀ token type,
          c.endpoint.ledger.type? token = some type ↔ Outstanding c.happenings token type)
      ∧ c.received = config.sink.taken (events c.happenings) := by
  intro c
  have hchronicle := chronicle_performAll transport config wire operations
  have hroom : (issues c.happenings).length + 1 < 2 ^ 32 := by
    have hlt : (issues c.happenings).length < 2 ^ 32 - 1 := h
    omega
  have hearlier : ∀ past later : List Entry, c.history = past ++ later →
      (issues (past.map Entry.what)).length + 1 < 2 ^ 32 := by
    intro past later heq
    have hle := length_issues_le (past.map Entry.what) (later.map Entry.what)
    rw [← List.map_append, ← heq] at hle
    exact Nat.lt_of_le_of_lt (Nat.succ_le_succ hle) hroom
  have hconsistent := hchronicle.consistent hroom
  refine ⟨?_, hconsistent.nodup, ?_, hconsistent.type?_eq,
    (recorded_performAll transport config wire operations).2⟩
  · intro past body event later token heq htoken
    obtain ⟨past, rest, hhistory, rfl, hrest⟩ := List.map_eq_append_iff.1 heq
    obtain ⟨entry, later, rfl, hwhat, -⟩ := List.map_eq_cons_iff.1 hrest
    obtain ⟨ledger, hpast, hstep⟩ := hchronicle.exists_step hhistory
    -- the ledger that the body met agrees with what had happened by then
    have hbefore := hpast.consistent (hearlier past _ hhistory)
    have hwaits := hstep.outstanding_of_event hbefore (congrArg Happening.event? hwhat) htoken
    refine ⟨fun type ↦ ⟨fun hi ↦ hbefore.type_unique hi hwaits.issued_mem, ?_⟩, fun hw ↦ ?_⟩
    · rintro rfl
      exact hwaits.issued_mem
    · exact hbefore.not_spent _ _ hwaits (.inl hw)
  · intro past entry later heq
    obtain ⟨ledger, hpast, hstep⟩ := hchronicle.exists_step heq
    rw [List.append_cons] at heq
    exact ((hpast.snoc hstep).consistent (hearlier _ _ heq)).type?_eq

/-- Two requests are sent; the second is answered with the error code 2, and then once more. -/
theorem events_of_repeated_answer :
    let c := (fresh { incoming := 4, outgoing := 4 } ()).performAll Transport.absent
      [.send .getImei [], .send .getImsi [],
        .receive [0, 0, 0, 12, 0, 0, 0, 0, 2, 0, 0, 0, 2, 0, 0, 0],
        .receive [0, 0, 0, 12, 0, 0, 0, 0, 2, 0, 0, 0, 2, 0, 0, 0]]
    (issues c.happenings).length < 2 ^ 32 - 1
      ∧ c.received = [.requestFailed .getImsi 2 2]
      ∧ events c.happenings = [.requestFailed .getImsi 2 2]
      ∧ Outstanding c.happenings 1 .getImei := by
  intro c
  have hroom : (issues c.happenings).length < 2 ^ 32 - 1 := by decide +kernel
  have hevents : events c.happenings = [.requestFailed .getImsi 2 2] := by decide +kernel
  obtain ⟨-, -, -, hpending, hreceived⟩ := events_of_requests _ _ _ _ hroom
  refine ⟨hroom, ?_, hevents, (hpending 1 _).1 (by decide +kernel)⟩
  rw [hreceived, hevents, Sink.taken_attached]

end Course

end Endpoint

end ParcelLink
