import ParcelLink.Proofs.Endpoint.Sending

/-!
# A refused parcel leaves no trace

A request is drafted and pending before it is known whether the transport takes its parcel. If the
transport refuses, the endpoint is what it was before, but for the next token and for the draft, which
starts over (`Endpoint.Course.undone_of_refused`). This rests on the next token being free: taking a
token back that some other request had would take that request off the ledger.

From then on the token is silent (`Endpoint.Chronicle.silent`): an answer under it gives no event and
settles nothing, until the token is given out again. It is given out again only when the numbers have
been used up, and even then not before every other one.
-/

namespace ParcelLink

namespace Endpoint

variable {τ : Type}

/-! ### Tokens that nobody waits for -/

/-- Nothing follows from an answer that no request waits for. -/
theorem conclude_of_unexpected {ledger : Ledger} {body : Octets} {token : UInt32}
    (hfree : ledger.type? token = none) (hsolicited : solicited? body = some token)
    (registry : Registry) : conclude registry ledger body = (ledger, none) := by
  rw [solicited?] at hsolicited
  split at hsolicited
  · next hheader =>
    obtain rfl := Option.some.inj hsolicited
    rw [conclude, hheader]
    simp only [hfree]
  · cases hsolicited

/-- Answers under a token give no events. -/
def Silent (token : UInt32) (happenings : List Happening) : Prop :=
  ∀ body event?, .arrived body event? ∈ happenings → solicited? body = some token → event? = none

/-- A token that nobody waits for stays so, and an answer under it gives no event, unless it is given
out. -/
theorem Step.silent {history : List Entry} {ledger : Ledger} {entry : Entry} {token : UInt32}
    (hs : Step history ledger entry) (hfree : ledger.type? token = none)
    (hnot : ∀ type, entry.what ≠ .issued token type) :
    entry.pending.type? token = none ∧ Silent token [entry.what] := by
  cases hs with
  | issue type =>
    have hne : token ≠ (ledger.insert type).1 := fun heq ↦ hnot type (by rw [heq])
    refine ⟨by rw [Ledger.type?_insert, if_neg hne, hfree], fun body event? hmem ↦ ?_⟩
    cases List.mem_singleton.1 hmem
  | withdraw other type waits =>
    refine ⟨by rw [Ledger.type?_erase, hfree, ite_self], fun body event? hmem ↦ ?_⟩
    cases List.mem_singleton.1 hmem
  | arrive registry body =>
    refine ⟨by rw [type?_conclude, hfree, ite_self], fun body' event? hmem hsolicited ↦ ?_⟩
    cases List.mem_singleton.1 hmem
    rw [conclude_of_unexpected hfree hsolicited]

/-- **A token that nobody waits for is silent until it is given out again.** -/
theorem Chronicle.silent {history past since : List Entry} {ledger : Ledger} {entry : Entry}
    {token : UInt32} (h : Chronicle history ledger) (heq : history = past ++ entry :: since)
    (hfree : entry.pending.type? token = none)
    (hnot : ∀ type, .issued token type ∉ since.map Entry.what) :
    ledger.type? token = none ∧ Silent token (since.map Entry.what) := by
  induction h generalizing since with
  | nil => simp at heq
  | @snoc history ledger last h hstep ih =>
    obtain ⟨rfl, rfl, rfl⟩ | ⟨since, rfl, hbefore⟩ := concat_eq_append_cons heq
    · exact ⟨hfree, fun body event? hmem ↦ absurd hmem (by simp)⟩
    · rw [List.map_append, List.map_singleton] at hnot ⊢
      obtain ⟨hledger, hsilent⟩ := ih hbefore fun type hmem ↦ hnot type (List.mem_append_left _ hmem)
      obtain ⟨hpending, hlast⟩ := hstep.silent hledger fun type hwhat ↦
        hnot type (List.mem_append_right _ (List.mem_singleton.2 hwhat.symm))
      refine ⟨hpending, fun body event? hmem ↦ ?_⟩
      rcases List.mem_append.1 hmem with hmem | hmem
      · exact hsilent body event? hmem
      · exact hlast body event? hmem

/-- A token that was given out is not given out again, and is not the next one, as long as the
numbers are not used up. -/
theorem Consistent.not_issued {past since : List Happening} {ledger : Ledger} {token : UInt32}
    {type : ParcelType} (hc : Consistent (past ++ since) ledger) (hi : .issued token type ∈ past) :
    (∀ type', .issued token type' ∉ since) ∧ ∀ type', (ledger.insert type').1 ≠ token := by
  refine ⟨fun type' hi' ↦ ?_, fun type' heq ↦ ?_⟩
  · have hnodup : ((issues (past ++ since)).map fun issue ↦ issue.1.toNat).Nodup := by
      rw [hc.issues_eq]
      exact List.nodup_range'
    rw [issues, List.filterMap_append, List.map_append, List.nodup_append] at hnodup
    exact hnodup.2.2 _ (List.mem_map_of_mem (mem_issues.2 hi)) _
      (List.mem_map_of_mem (mem_issues.2 hi')) rfl
  · have hlt := hc.toNat_lt (List.mem_append_left since hi)
    rw [Ledger.insert_of_isFree hc.isFree_nextToken] at heq
    rw [← heq] at hlt
    exact Nat.lt_irrefl _ hlt

namespace Course

/-! ### What comes later -/

/-- An operation prolongs the history. -/
theorem history_perform (transport : Transport τ) (c : Course τ) (operation : Operation) :
    ∃ since, (c.perform transport operation).history = c.history ++ since := by
  cases operation with
  | abandon | send | receive => exact ⟨_, rfl⟩
  | equip => exact ⟨[], (List.append_nil _).symm⟩

theorem history_performAll (transport : Transport τ) (c : Course τ) (operations : List Operation) :
    ∃ since, (c.performAll transport operations).history = c.history ++ since := by
  induction operations generalizing c with
  | nil => exact ⟨[], (List.append_nil _).symm⟩
  | cons operation operations ih =>
    obtain ⟨first, hfirst⟩ := c.history_perform transport operation
    obtain ⟨rest, hrest⟩ := ih (c.perform transport operation)
    exact ⟨first ++ rest, by rw [← List.append_assoc, ← hfirst]; exact hrest⟩

/-- What comes later is received behind what was received before. -/
theorem received_of_history {sink : Sink} {c later : Course τ} (h : c.Recorded sink)
    (hlater : later.Recorded sink) {since : List Entry}
    (hhistory : later.history = c.history ++ since) :
    later.received = c.received ++ sink.taken (events (since.map Entry.what)) := by
  rw [hlater.2, h.2, happenings, hhistory, List.map_append, events, List.filterMap_append,
    Sink.taken_append]
  rfl

/-! ### Refused parcels -/

/-- A request whose parcel is refused gets a token and loses it, and nothing else comes of it. -/
theorem perform_refused {transport : Transport τ} {c : Course τ} (hdraft : c.endpoint.draft.Valid)
    (hfree : c.endpoint.ledger.isFree c.endpoint.ledger.nextToken = true) {type : ParcelType}
    {arguments : List Value} {cause : Fault}
    (hrefused : (transport.send c.wire (Framer.frame (encodeU32 type
      ++ encodeU32 (c.endpoint.ledger.insert type).1 ++ arguments.flatMap Value.encode))).value.1
        = .error cause) :
    let token := c.endpoint.ledger.nextToken
    let e := { c.endpoint with
      draft := (drafted c.endpoint.draft type token arguments).finish.2
      ledger := ⟨c.endpoint.ledger.pending, token + 1⟩ : Endpoint }
    let wire := (transport.send c.wire (Framer.frame (encodeU32 type ++ encodeU32 token
      ++ arguments.flatMap Value.encode))).value.2
    (c.endpoint.send type arguments transport c.wire).value = (.error cause, e, wire)
      ∧ c.perform transport (.send type arguments)
        = { c with
            endpoint := e
            wire := wire
            history := c.history ++ [⟨.issued token type, (c.endpoint.ledger.insert type).2⟩,
              ⟨.withdrawn token, e.ledger⟩] } := by
  have hsend := value_send_eq hdraft type arguments transport c.wire
  have htoken : (c.endpoint.ledger.insert type).1 = c.endpoint.ledger.nextToken := by
    rw [Ledger.insert_of_isFree hfree]
  simp only [htoken] at hsend hrefused
  simp only [hrefused, booked, htoken, Ledger.erase_insert hfree] at hsend
  refine ⟨hsend, ?_⟩
  simp only [perform, hsend, value_prepare_eq, htoken]
  rfl

/-- **A refused parcel leaves no trace.** The endpoint has been through any operations in which fewer
than `2 ^ 32 - 1` tokens were given out, and the transport refuses the parcel of a request. Then the
request comes to just that refusal, and the endpoint is what it was before, but for the next token and
for the draft, in which nothing is left but the place of the size. No event is received.

The next request gets another token, if there is another one. Whatever is done later, the token is not
pending and an answer under it gives no event, as long as the token is not given out again; and it is
not, and the next request gets another token, as long as fewer than `2 ^ 32 - 1` tokens have been
given out in all. Every later request puts its own type, token and arguments on the wire, and no other
bytes. -/
theorem undone_of_refused (transport : Transport τ) (config : Config) (wire : τ)
    (operations : List Operation) (type : ParcelType) (arguments : List Value) (cause : Fault) :
    let c := (fresh config wire).performAll transport operations
    let token := (c.endpoint.ledger.insert type).1
    let sent := (transport.send c.wire (Framer.frame
      (encodeU32 type ++ encodeU32 token ++ arguments.flatMap Value.encode))).value
    (issues c.happenings).length < 2 ^ 32 - 1 → sent.1 = .error cause →
    let d := c.perform transport (.send type arguments)
    (∃ draft : Draft, draft.body = [] ∧ draft.length = sizeWidth
        ∧ (c.endpoint.send type arguments transport c.wire).value = (.error cause, d.endpoint, sent.2)
        ∧ d.endpoint = { c.endpoint with
          draft := draft
          ledger := ⟨c.endpoint.ledger.pending, c.endpoint.ledger.nextToken + 1⟩ })
      ∧ d.received = c.received
      ∧ (∀ other type', d.endpoint.ledger.isFree other = true → other ≠ token →
          (d.endpoint.ledger.insert type').1 ≠ token)
      ∧ ∀ more : List Operation,
        let later := d.performAll transport more
        ∃ since, later.happenings = d.happenings ++ since
          ∧ later.received = d.received ++ config.sink.taken (events since)
          ∧ ((∀ type', .issued token type' ∉ since) →
              later.endpoint.ledger.type? token = none ∧ Silent token since)
          ∧ ((issues later.happenings).length < 2 ^ 32 - 1 →
              (∀ type', .issued token type' ∉ since)
                ∧ ∀ type', (later.endpoint.ledger.insert type').1 ≠ token)
          ∧ ∀ (type' : ParcelType) (arguments' : List Value),
            let token' := (later.endpoint.ledger.insert type').1
            (later.endpoint.send type' arguments' transport later.wire).value.2.2
              = (transport.send later.wire (Framer.frame (encodeU32 type' ++ encodeU32 token'
                ++ arguments'.flatMap Value.encode))).value.2 := by
  intro c token sent hroom hrefused d
  have hc : c.Reached transport config := ⟨wire, operations, rfl⟩
  have hd : d.Reached transport config := hc.performAll [.send type arguments]
  have hfree := (hc.consistent hroom).isFree_nextToken
  obtain ⟨hsend, hrefusal⟩ := perform_refused hc.draft hfree hrefused
  have hd_eq : d = _ := hrefusal
  have htoken : token = c.endpoint.ledger.nextToken := by
    show (c.endpoint.ledger.insert type).1 = _
    rw [Ledger.insert_of_isFree hfree]
  refine ⟨⟨_, (finish_drafted hc.draft type c.endpoint.ledger.nextToken arguments).2.1, rfl, ?_, ?_⟩,
    by rw [hd_eq], fun other type' hother hne ↦ ?_, fun more ↦ ?_⟩
  · rw [hsend, hd_eq]
    simp only [sent, htoken]
  · rw [hd_eq]
  · refine Ledger.insert_ne ?_ hother hne type'
    rw [hd_eq, htoken]
  · have hlater := hd.performAll more
    obtain ⟨since, hhistory⟩ := d.history_performAll transport more
    have hhappenings : (d.performAll transport more).happenings
        = d.happenings ++ since.map Entry.what := by
      rw [happenings, hhistory, List.map_append, happenings]
    intro later
    refine ⟨since.map Entry.what, hhappenings,
      received_of_history hd.recorded hlater.recorded hhistory, fun hnot ↦ ?_, fun hroom' ↦ ?_,
      fun type' arguments' ↦ (wire_send hlater.draft type' arguments' transport later.wire).2.2⟩
    -- the token was taken back in the last entry before what comes later
    · have hpast : d.history = c.history
          ++ [⟨.issued token type, (c.endpoint.ledger.insert type).2⟩,
            ⟨.withdrawn token, ⟨c.endpoint.ledger.pending, token + 1⟩⟩] := by rw [hd_eq, htoken]
      rw [hpast, List.append_assoc, List.cons_append, List.singleton_append,
        List.append_cons] at hhistory
      refine hlater.chronicle.silent hhistory ?_ hnot
      rw [htoken]
      exact (Ledger.isFree_iff.1 hfree).2
    · have hissued : .issued token type ∈ d.happenings := by
        rw [hd_eq, htoken]
        simp [happenings]
      have hconsistent := hlater.consistent hroom'
      rw [hhappenings] at hconsistent
      exact hconsistent.not_issued hissued

/-- A call is begun and given up, and a request is sent. The transport then refuses a parcel, and
takes the next one. An answer to the refused parcel comes in with the answer to the one before. -/
theorem undone_of_refused_between :
    let transport : Transport (Array Octets × Bool) := ⟨fun (kept, ready) parcel ↦ pure
      (if ready then (.ok (), kept.push parcel, false) else (.error .connectionClosed, kept, true))⟩
    let before := [Operation.abandon .dial [.string (some "0123456789")], .send .getImei []]
    let c := (fresh { incoming := 4, outgoing := 4 } (#[], true)).performAll transport before
    let pin : List Value := [.u32 1, .string (some "12")]
    let token := (c.endpoint.ledger.insert ParcelType.enterSimPin).1
    let d := c.perform transport (.send .enterSimPin pin)
    let later := d.performAll transport
      [.receive [0, 0, 0, 12, 0, 0, 0, 0, 3, 0, 0, 0, 2, 0, 0, 0,
        0, 0, 0, 12, 0, 0, 0, 0, 2, 0, 0, 0, 2, 0, 0, 0]]
    (issues c.happenings).length < 2 ^ 32 - 1
      ∧ (transport.send c.wire (Framer.frame (encodeU32 ParcelType.enterSimPin ++ encodeU32 token
        ++ pin.flatMap Value.encode))).value.1 = .error .connectionClosed
      ∧ (c.endpoint.send .enterSimPin pin transport c.wire).value.1 = .error .connectionClosed
      ∧ token = 3 ∧ d.endpoint.ledger = ⟨c.endpoint.ledger.pending, 4⟩
      ∧ later.endpoint.ledger.type? 3 = none
      ∧ later.received = [.requestFailed .getImei 2 2]
      ∧ (later.endpoint.send .getImsi [] transport later.wire).value.2.2.1
        = #[Framer.frame (encodeU32 ParcelType.getImei ++ encodeU32 2),
          Framer.frame (encodeU32 ParcelType.getImsi ++ encodeU32 4)] := by
  intro transport before c pin token d later
  have hroom : (issues c.happenings).length < 2 ^ 32 - 1 := by decide +kernel
  have hrefused : (transport.send c.wire (Framer.frame (encodeU32 ParcelType.enterSimPin
      ++ encodeU32 token ++ pin.flatMap Value.encode))).value.1 = .error .connectionClosed := by
    decide +kernel
  have htoken : token = 3 := by decide +kernel
  obtain ⟨⟨draft, -, -, hsend, hd⟩, -, -, hlater⟩ := undone_of_refused transport
    { incoming := 4, outgoing := 4 } (#[], true) before .enterSimPin pin .connectionClosed hroom
    hrefused
  obtain ⟨since, -, -, hsilent, hfresh, hnext⟩ := hlater
    [.receive [0, 0, 0, 12, 0, 0, 0, 0, 3, 0, 0, 0, 2, 0, 0, 0,
      0, 0, 0, 12, 0, 0, 0, 0, 2, 0, 0, 0, 2, 0, 0, 0]]
  have hnone := (hsilent (hfresh (by decide +kernel)).1).1
  refine ⟨hroom, hrefused, congrArg Prod.fst hsend, htoken, ?_, ?_, by decide +kernel, ?_⟩
  · refine (congrArg Endpoint.ledger hd).trans ?_
    exact congrArg (Ledger.mk c.endpoint.ledger.pending) (by decide +kernel)
  · rw [← htoken]
    exact hnone
  · refine (congrArg Prod.fst (hnext .getImsi [])).trans ?_
    decide +kernel

end Course

end Endpoint

end ParcelLink
