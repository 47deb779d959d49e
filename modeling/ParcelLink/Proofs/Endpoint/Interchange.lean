import ParcelLink.Proofs.Endpoint.Order
import ParcelLink.Proofs.Endpoint.Sending

/-!
# A request and a chunk can change places

Requests go out while bytes come in, and whoever drives an endpoint takes whichever is there first.
The two meet in the ledger only. A request adds the next token, which no pending request has, and a
chunk takes off the tokens that its bodies answer, so the order does not matter unless a body answers
under the very token that the request is about to get (`Endpoint.booked_concludeAll`,
`Endpoint.events_concludeAll_booked`). The framer does not learn of requests at all, and what it makes
of a chunk does not depend on the ledger (`Endpoint.framer_receive`).

That the next token is free is where the history of the endpoint comes in: it holds as long as the
numbers have not been used up.

## Main results

* `Endpoint.Course.request_chunk_comm`: a request and a chunk come to the same in either order.
-/

namespace ParcelLink

namespace Endpoint

variable {τ : Type}

/-! ### Tokens that are taken off, and one that is given out -/

section Ledgers

variable {ledger : Ledger} {tokens : List UInt32}

theorem erase_foldl_erase (ledger : Ledger) (tokens : List UInt32) (token : UInt32) :
    (tokens.foldl Ledger.erase ledger).erase token
      = tokens.foldl Ledger.erase (ledger.erase token) := by
  induction tokens generalizing ledger with
  | nil => rfl
  | cons other tokens ih =>
    rw [List.foldl_cons, List.foldl_cons, ih, Ledger.erase_right_comm]

theorem nextToken_foldl_erase (ledger : Ledger) (tokens : List UInt32) :
    (tokens.foldl Ledger.erase ledger).nextToken = ledger.nextToken := by
  induction tokens generalizing ledger with
  | nil => rfl
  | cons token tokens ih => rw [List.foldl_cons, ih, Ledger.nextToken_erase]

/-- A free token is the next one whatever other tokens are taken off before. -/
theorem insert_foldl_erase (hfree : ledger.isFree ledger.nextToken = true)
    (h : ∀ token ∈ tokens, token ≠ ledger.nextToken) (type : ParcelType) :
    (tokens.foldl Ledger.erase ledger).insert type
      = ((ledger.insert type).1, tokens.foldl Ledger.erase (ledger.insert type).2) := by
  induction tokens generalizing ledger with
  | nil => rfl
  | cons token tokens ih =>
    have hinsert := Ledger.insert_erase hfree (h token List.mem_cons_self) type
    have hfree' := Ledger.isFree_erase token hfree
    rw [List.foldl_cons, ih hfree' fun other hother ↦ h other (List.mem_cons_of_mem _ hother),
      hinsert, List.foldl_cons]

/-- What a request does to the ledger it does as well when other tokens are taken off before. -/
theorem booked_foldl_erase (hfree : ledger.isFree ledger.nextToken = true)
    (h : ∀ token ∈ tokens, token ≠ ledger.nextToken) (type : ParcelType)
    (answer : Except Fault Unit) :
    booked (tokens.foldl Ledger.erase ledger) type answer
      = tokens.foldl Ledger.erase (booked ledger type answer) := by
  rcases answer with cause | ⟨⟩
  · simp only [booked, insert_foldl_erase hfree h, erase_foldl_erase]
  · simp only [booked, insert_foldl_erase hfree h]

/-- A request concerns no token but its own. -/
theorem type?_booked {token : UInt32} {type : ParcelType} (h : token ≠ (ledger.insert type).1)
    (answer : Except Fault Unit) : (booked ledger type answer).type? token = ledger.type? token := by
  rcases answer with cause | ⟨⟩
  · rw [booked, Ledger.type?_erase, if_neg h, Ledger.type?_insert, if_neg h]
  · rw [booked, Ledger.type?_insert, if_neg h]

end Ledgers

/-! ### Bodies, and a request that is none of their business -/

section Bodies

variable (registry : Registry) {ledger : Ledger} {bodies : List Octets}

/-- The events of bodies depend on the ledger only through the requests with their tokens. -/
theorem events_concludeAll_congr {ledger' : Ledger}
    (h : ∀ body ∈ bodies, ∀ token, solicited? body = some token →
      ledger'.type? token = ledger.type? token) :
    (concludeAll registry ledger' bodies).2 = (concludeAll registry ledger bodies).2 := by
  induction bodies generalizing ledger ledger' with
  | nil => rfl
  | cons body bodies ih =>
    have hevent : (conclude registry ledger' body).2 = (conclude registry ledger body).2 :=
      event_conclude_congr (h body List.mem_cons_self)
    -- behind the body the ledgers still agree on the tokens of the others
    have hagree : ∀ other ∈ bodies, ∀ token, solicited? other = some token →
        (conclude registry ledger' body).1.type? token
          = (conclude registry ledger body).1.type? token := by
      intro other hother token htoken
      rw [type?_conclude, type?_conclude, h other (List.mem_cons_of_mem _ hother) token htoken]
    rw [concludeAll_cons, concludeAll_cons]
    simp only [hevent, ih hagree]

/-- Bodies that do not answer a request have the same events before and behind it. -/
theorem events_concludeAll_booked {type : ParcelType}
    (h : ∀ body ∈ bodies, solicited? body ≠ some (ledger.insert type).1)
    (answer : Except Fault Unit) :
    (concludeAll registry (booked ledger type answer) bodies).2
      = (concludeAll registry ledger bodies).2 := by
  refine events_concludeAll_congr registry fun body hbody token htoken ↦ type?_booked ?_ answer
  rintro rfl
  exact h body hbody htoken

/-- The request gets the same token before such bodies and behind them, and the ledger is the same in
the end. -/
theorem insert_concludeAll (hfree : ledger.isFree ledger.nextToken = true) {type : ParcelType}
    (h : ∀ body ∈ bodies, solicited? body ≠ some (ledger.insert type).1)
    (answer : Except Fault Unit) :
    ((concludeAll registry ledger bodies).1.insert type).1 = (ledger.insert type).1
      ∧ booked (concludeAll registry ledger bodies).1 type answer
        = (concludeAll registry (booked ledger type answer) bodies).1 := by
  have htokens : ∀ token ∈ bodies.filterMap solicited?, token ≠ ledger.nextToken := by
    intro token htoken
    obtain ⟨body, hbody, hsolicited⟩ := List.mem_filterMap.1 htoken
    rintro rfl
    rw [Ledger.insert_of_isFree hfree] at h
    exact h body hbody hsolicited
  rw [ledger_concludeAll, ledger_concludeAll, insert_foldl_erase hfree htokens]
  exact ⟨rfl, booked_foldl_erase hfree htokens type answer⟩

end Bodies

/-! ### Chunks and the framer -/

/-- What a chunk makes of the framer does not depend on the rest of the endpoint. -/
theorem framer_receive {e e' : Endpoint} (h : e.framer.ring.Valid) (heq : e'.framer = e.framer)
    (chunk : Octets) :
    (e'.receive chunk).value.1.framer = (e.receive chunk).value.1.framer := by
  have hpush := Framer.framer_push h chunk (dispatch e.registry e.sink)
    (dispatch e'.registry e'.sink) ⟨e.ledger, #[]⟩ ⟨e'.ledger, #[]⟩
  simp only [receive, Logged.value_bind, Logged.value_pure, heq, hpush]

/-- What a chunk makes of an endpoint, but for the framer. -/
theorem value_receive_eq {e : Endpoint} (h : e.framer.ring.Valid) (chunk : Octets) :
    let c := concludeAll e.registry e.ledger (e.framer.completed chunk)
    (e.receive chunk).value
      = ({ e with framer := (e.receive chunk).value.1.framer, ledger := c.1 }, e.sink.taken c.2) := by
  obtain ⟨framer, hreceive, -⟩ := value_receive ⟨h, rfl, rfl, rfl⟩ chunk
  rw [hreceive]
  rfl

/-! ### One behind the other -/

section Both

variable {e : Endpoint} {request : Request} {chunk : Octets}

/-- What a request comes to behind a chunk that has nothing to do with it. -/
theorem submit_of_received (hring : e.framer.ring.Valid) (hdraft : e.draft.Valid)
    (hfree : e.ledger.isFree e.ledger.nextToken = true)
    (hapart : ∀ body ∈ e.framer.completed chunk,
      solicited? body ≠ some (e.ledger.insert request.type).1)
    (transport : Transport τ) (wire : τ) :
    let received := (e.receive chunk).value.1
    let token := (e.ledger.insert request.type).1
    let sent := (transport.send wire (request.parcel token)).value
    (received.submit request transport wire).value
      = (sent.1.map fun _ ↦ token,
          { e with
            framer := received.framer
            draft := (drafted e.draft request.type token request.arguments).finish.2
            ledger := (concludeAll e.registry (booked e.ledger request.type sent.1)
              (e.framer.completed chunk)).1 },
          sent.2) := by
  intro received token sent
  obtain ⟨htoken, hledger⟩ := insert_concludeAll e.registry hfree hapart sent.1
  have hreceived : received = _ := congrArg Prod.fst (value_receive_eq hring chunk)
  rw [hreceived, value_submit_of_valid (by exact hdraft)]
  simp only [htoken, ← hledger, sent, token]

/-- What a chunk does behind a request that it has nothing to do with. -/
theorem receive_of_submitted (hring : e.framer.ring.Valid) (hdraft : e.draft.Valid)
    (hapart : ∀ body ∈ e.framer.completed chunk,
      solicited? body ≠ some (e.ledger.insert request.type).1)
    (transport : Transport τ) (wire : τ) :
    let submitted := (e.submit request transport wire).value.2.1
    let token := (e.ledger.insert request.type).1
    let answer := (transport.send wire (request.parcel token)).value.1
    (submitted.receive chunk).value
      = ({ e with
            framer := (e.receive chunk).value.1.framer
            draft := (drafted e.draft request.type token request.arguments).finish.2
            ledger := (concludeAll e.registry (booked e.ledger request.type answer)
              (e.framer.completed chunk)).1 },
          (e.receive chunk).value.2) := by
  intro submitted token answer
  have hsubmitted : submitted = _ :=
    congrArg (·.2.1) (value_submit_of_valid hdraft request transport wire)
  have hring' : submitted.framer.ring.Valid := by rw [hsubmitted]; exact hring
  have hframer : (submitted.receive chunk).value.1.framer = (e.receive chunk).value.1.framer :=
    framer_receive hring (by rw [hsubmitted]) chunk
  have hevents := events_concludeAll_booked e.registry hapart answer
  rw [value_receive_eq hring', hframer, value_receive_eq hring]
  simp only [hsubmitted, ← hevents]
  rfl

end Both

namespace Course

/-- **A request and a chunk can change places.** The endpoint has been through any operations in which
fewer than `2 ^ 32 - 1` tokens were given out, and no body that the chunk completes answers under the
token that the request is about to get. If the transport answers alike, then the request comes to the
same in both orders, the same parcel is handed over, the same events are received, and the endpoints
are the same in the end. Besides, and without any condition, a chunk leaves the transport, the
decoders and the next token alone, and a request leaves the framer alone and gives no event. -/
theorem request_chunk_comm (transport : Transport τ) (config : Config) (wire : τ)
    (operations : List Operation) :
    let c := (fresh config wire).performAll transport operations
    (∀ (request : Request) (chunk : Octets),
      let token := (c.endpoint.ledger.insert request.type).1
      (issues c.happenings).length < 2 ^ 32 - 1 →
      (∀ body ∈ c.endpoint.framer.completed chunk, solicited? body ≠ some token) →
      ∀ (sooner later : Transport τ) (near far : τ),
        let reply := (sooner.send near (request.parcel token)).value
        let reply' := (later.send far (request.parcel token)).value
        reply.1 = reply'.1 →
        let sent := (c.endpoint.submit request sooner near).value
        let sentReceived := (sent.2.1.receive chunk).value
        let received := (c.endpoint.receive chunk).value
        let receivedSent := (received.1.submit request later far).value
        receivedSent.1 = sent.1 ∧ sent.2.2 = reply.2 ∧ receivedSent.2.2 = reply'.2
          ∧ received.2 = sentReceived.2 ∧ receivedSent.2.1 = sentReceived.1)
      ∧ (∀ chunk : Octets,
        let d := c.perform transport (.receive chunk)
        d.wire = c.wire ∧ d.endpoint.registry = c.endpoint.registry
          ∧ d.endpoint.ledger.nextToken = c.endpoint.ledger.nextToken)
      ∧ ∀ (type : ParcelType) (arguments : List Value),
        let d := c.perform transport (.send type arguments)
        d.endpoint.framer = c.endpoint.framer ∧ d.received = c.received := by
  intro c
  have hc : c.Reached transport config := ⟨wire, operations, rfl⟩
  have hdraft : c.endpoint.draft.Valid := hc.draft
  refine ⟨fun request chunk ↦ ?_, fun chunk ↦ ?_, fun type arguments ↦ ?_⟩
  · intro token hroom hapart sooner later near far reply reply' hreply sent sentReceived received
      receivedSent
    have hfree := (hc.consistent hroom).isFree_nextToken
    have hsent : sent = _ := value_submit_of_valid hdraft request sooner near
    have hbehind : sentReceived = _ :=
      receive_of_submitted hc.stands.valid hdraft hapart sooner near
    have hbehind' : receivedSent = _ :=
      submit_of_received hc.stands.valid hdraft hfree hapart later far
    rw [hsent, hbehind, hbehind', ← hreply]
    exact ⟨rfl, rfl, rfl, rfl, rfl⟩
  · obtain ⟨framer, hreceive, -⟩ := value_receive hc.stands chunk
    simp only [perform, hreceive, ledger_concludeAll, nextToken_foldl_erase]
    exact ⟨trivial, trivial, trivial⟩
  · simp only [perform, value_send_eq hdraft type arguments transport c.wire]
    exact ⟨trivial, trivial⟩

/-- A request is sent, and half of its answer has come in. The other half comes in before or behind
the next request, for which the transport is in one state or another. -/
theorem request_chunk_comm_of_half_answer :
    let c := (fresh { incoming := 4, outgoing := 4 } (#[], none)).performAll Transport.recorder
      [.send .getImei [], .receive [0, 0, 0, 12, 0, 0]]
    let request := Request.enterIccPin "12"
    let chunk : Octets := [0, 0, 1, 0, 0, 0, 2, 0, 0, 0, 0, 0]
    let far : Array Octets × Option Fault := (#[[7]], none)
    let sent := (c.endpoint.submit request Transport.recorder c.wire).value
    let sentReceived := (sent.2.1.receive chunk).value
    let received := (c.endpoint.receive chunk).value
    let receivedSent := (received.1.submit request Transport.recorder far).value
    (issues c.happenings).length < 2 ^ 32 - 1
      ∧ (c.endpoint.ledger.insert request.type).1 = 2
      ∧ (∀ body ∈ c.endpoint.framer.completed chunk, solicited? body ≠ some 2)
      ∧ (Transport.recorder.send c.wire (request.parcel 2)).value.1
        = (Transport.recorder.send far (request.parcel 2)).value.1
      ∧ receivedSent.1 = .ok 2 ∧ receivedSent.2.2 = (#[[7], request.parcel 2], none)
      ∧ sentReceived.2 = [.requestFailed .getImei 1 2] ∧ receivedSent.2.1 = sentReceived.1 := by
  intro c request chunk far sent sentReceived received receivedSent
  have hroom : (issues c.happenings).length < 2 ^ 32 - 1 := by decide +kernel
  have htoken : (c.endpoint.ledger.insert request.type).1 = 2 := by decide +kernel
  have hapart : ∀ body ∈ c.endpoint.framer.completed chunk, solicited? body ≠ some 2 := by
    decide +kernel
  have hsent : sent.1 = .ok 2 := by decide +kernel
  have hreceived : received.2 = [.requestFailed .getImei 1 2] := by decide +kernel
  obtain ⟨houtcome, -, hwire, hevents, hsame⟩ :=
    (request_chunk_comm Transport.recorder { incoming := 4, outgoing := 4 } (#[], none)
      [.send .getImei [], .receive [0, 0, 0, 12, 0, 0]]).1 request chunk hroom
      (by rw [htoken]; exact hapart) Transport.recorder Transport.recorder c.wire far rfl
  refine ⟨hroom, htoken, hapart, rfl, houtcome.trans hsent, hwire.trans ?_,
    hevents.symm.trans hreceived, hsame⟩
  rw [htoken]
  rfl

end Course

end Endpoint

end ParcelLink
