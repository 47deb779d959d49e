import ParcelLink.Endpoint.Reception
import ParcelLink.Proofs.Framer.Chunks
import ParcelLink.Proofs.Ledger.Tokens

/-!
# What follows from a body

Incoming parcels share a ring, a ledger and a sink, and their bodies are read by decoders that may
do anything a reading can do. What follows from a body can nevertheless be said of the body alone,
given the pending requests and the decoders: `Endpoint.conclude` says it in terms of bytes. It tells
the words of the header by cutting the body, and runs the decoder on the bytes behind them as if
these were all there is.

The endpoint does just that with every body of the stream (`Endpoint.digest_dispatch`). Since the
framer makes the same of any two rings that hold the same bytes, what a chunk does to an endpoint is
what these conclusions, one after the other, do to its ledger (`Endpoint.value_receive`).

## Main definitions

* `Endpoint.word?`: the number in front of some bytes, and the bytes behind it.
* `Endpoint.conclude`: what follows from a body.
* `Endpoint.concludeAll`: what follows from bodies, one after the other.
* `Sink.taken`: the events among some that a sink takes.
-/

namespace ParcelLink

/-! ### The header, cut from the body -/

namespace Endpoint

/-- The number in the first four bytes, and the bytes behind it. -/
def word? (bytes : Octets) : Option (UInt32 × Octets) :=
  if bytes.length < 4 then none
  else some (UInt32.ofNat (Octets.ofLittle (bytes.take 4)), bytes.drop 4)

/-- The header in the first two words of a body, and the bytes behind it. There is none if a word is
missing or the response type is not known. -/
def header? (body : Octets) : Option (Header × Octets) :=
  match word? body with
  | none => none
  | some (response, behind) =>
    match word? behind with
    | none => none
    | some (subject, rest) =>
      if response = solicitedType then some (.solicited subject, rest)
      else if response = unsolicitedType then some (.unsolicited subject, rest)
      else none

end Endpoint

namespace Excerpt

/-- How much was read before does not matter to a reading. -/
theorem agree_rest : Source.Agree fun x y : Excerpt ↦ x.rest = y.rest where
  whole_eq := rfl
  left_eq h := congrArg List.length h
  next?_eq_none := by
    rintro ⟨rest, _⟩ ⟨_ | _, _⟩ rfl h
    · rfl
    · cases h
  next?_eq_some := by
    rintro ⟨rest, consumed⟩ ⟨_ | ⟨b, rest'⟩, _⟩ b' y rfl h
    · cases h
    · cases h
      exact ⟨⟨rest', consumed + 1⟩, rfl, rfl⟩

/-- A 32-bit number is the word in front, and is refused if there is none. -/
theorem run_u32 (x : Excerpt) :
    Decoder.u32.run.run x
      = match Endpoint.word? x.rest with
        | none => (.error (.truncated 4 x.rest.length), x)
        | some (n, rest) => (.ok n, ⟨rest, x.consumed + 4⟩) := by
  have hrun : Decoder.u32.run.run x
      = ((Source.take 4 x).1.map UInt32.ofNat, (Source.take 4 x).2) := by
    rw [Decoder.u32, ExceptT.run_map, map_eq_pure_bind, Reading.run_bind, Reading.run_pure]
    rfl
  rw [hrun, take_eq, Endpoint.word?]
  split <;> rfl

/-- The field behind the response type, as part of a header. -/
theorem run_subject (make : UInt32 → Header) (x : Excerpt) :
    (do return make (← Decoder.u32) : Decoder Header).run.run x
      = match Endpoint.word? x.rest with
        | none => (.error (.truncated 4 x.rest.length), x)
        | some (n, rest) => (.ok (make n), ⟨rest, x.consumed + 4⟩) := by
  simp only [ExceptT.run_bind, Reading.run_bind, run_u32]
  rcases Endpoint.word? x.rest with - | ⟨n, rest⟩ <;> rfl

/-- The header is the one cut from the body, and is refused if there is none. -/
theorem run_header (x : Excerpt) :
    (Endpoint.header? x.rest = none ∧ ∃ cause, (Header.decoder.run.run x).1 = .error cause)
      ∨ ∃ header rest consumed, Endpoint.header? x.rest = some (header, rest)
        ∧ Header.decoder.run.run x = (.ok header, ⟨rest, consumed⟩) := by
  simp only [Header.decoder, ExceptT.run_bind, Reading.run_bind, run_u32]
  unfold Endpoint.header?
  rcases Endpoint.word? x.rest with - | ⟨response, behind⟩
  · exact .inl ⟨rfl, _, rfl⟩
  · by_cases hs : response = solicitedType
    · simp only [if_pos hs, run_subject]
      rcases Endpoint.word? behind with - | ⟨subject, rest⟩
      · exact .inl ⟨rfl, _, rfl⟩
      · exact .inr ⟨_, _, _, rfl, rfl⟩
    · by_cases hu : response = unsolicitedType
      · simp only [if_neg hs, if_pos hu, run_subject]
        rcases Endpoint.word? behind with - | ⟨subject, rest⟩
        · exact .inl ⟨rfl, _, rfl⟩
        · exact .inr ⟨_, _, _, rfl, rfl⟩
      · simp only [if_neg hs, if_neg hu]
        rcases Endpoint.word? behind with - | ⟨subject, rest⟩ <;> exact .inl ⟨rfl, _, rfl⟩

end Excerpt

/-- The events among some that a sink takes. -/
def Sink.taken (sink : Sink) (events : List Event) : List Event :=
  events.filterMap fun event ↦ (sink.deliver event).value

@[simp] theorem Sink.taken_attached (events : List Event) :
    Sink.attached.taken events = events := by
  simp [taken, deliver]

theorem Sink.taken_append (sink : Sink) (first second : List Event) :
    sink.taken (first ++ second) = sink.taken first ++ sink.taken second :=
  List.filterMap_append

namespace Endpoint

/-! ### Conclusions -/

/-- What a decoder makes of a payload by itself. -/
def outcome (decoder : BodyDecoder) (payload : Octets) : Except Halt Payload :=
  (decoder.run.run (Excerpt.ofOctets payload)).1

/-- The event that an answer to a pending request gives, from the bytes behind its token. -/
def answerEvent? (registry : Registry) (request : ParcelType) (token : UInt32) (rest : Octets) :
    Option Event :=
  match word? rest with
  | none => none
  | some (error, payload) =>
    if error ≠ 0 then some (.requestFailed request token error)
    else
      match registry.decoder? request with
      | none => none
      | some decoder =>
        match outcome decoder payload with
        | .ok payload => some (.response request token payload)
        | .error halt => some (.responseMalformed request token (halt.cause request).message)

/-- The event that a notification gives. -/
def noticeEvent? (registry : Registry) (type : ParcelType) (payload : Octets) : Option Event :=
  match registry.decoder? type with
  | none => none
  | some decoder =>
    match outcome decoder payload with
    | .ok payload => some (.notification type payload)
    | .error _ => none

/-- What follows from a body: the requests that are pending from now on, and the event that is due.
A body without a header, and an answer that no request waits for, have no consequence. -/
def conclude (registry : Registry) (ledger : Ledger) (body : Octets) : Ledger × Option Event :=
  match header? body with
  | none => (ledger, none)
  | some (.solicited token, rest) =>
    match ledger.type? token with
    | none => (ledger, none)
    | some request => (ledger.erase token, answerEvent? registry request token rest)
  | some (.unsolicited type, rest) => (ledger, noticeEvent? registry type rest)

/-! ### What a conclusion can be -/

/-- The token in the header of a body that answers a request. -/
def solicited? (body : Octets) : Option UInt32 :=
  match header? body with
  | some (.solicited token, _) => some token
  | _ => none

theorem word?_eq_none_iff {bytes : Octets} : word? bytes = none ↔ bytes.length < 4 := by
  rw [word?]
  split <;> simp_all

/-- A header takes eight bytes. -/
theorem length_of_header? {body rest : Octets} {header : Header}
    (h : header? body = some (header, rest)) : body.length = rest.length + 8 := by
  have hword : ∀ {bytes behind : Octets} {n : UInt32}, word? bytes = some (n, behind) →
      bytes.length = behind.length + 4 := by
    intro bytes behind n hn
    rw [word?] at hn
    split at hn
    · cases hn
    · obtain ⟨-, rfl⟩ := Prod.mk.inj (Option.some.inj hn)
      rw [List.length_drop]
      omega
  rw [header?] at h
  split at h
  · cases h
  · next response behind hresponse =>
    split at h
    · cases h
    · next subject rest' hsubject =>
      have hrest : rest' = rest := by
        split at h
        · exact (Prod.mk.inj (Option.some.inj h)).2
        · split at h
          · exact (Prod.mk.inj (Option.some.inj h)).2
          · cases h
      rw [hword hresponse, hword hsubject, hrest]

/-- The event that an answer gives is about the request that was pending, under its token. -/
theorem answers_of_answerEvent? {registry : Registry} {request : ParcelType} {token : UInt32}
    {rest : Octets} {event : Event} (h : answerEvent? registry request token rest = some event) :
    event.token? = some token ∧ event.type = request := by
  rw [answerEvent?] at h
  split at h
  · cases h
  · split at h
    · cases h
      exact ⟨rfl, rfl⟩
    · split at h
      · cases h
      · split at h <;> cases h <;> exact ⟨rfl, rfl⟩

/-- Where there is a decoder, an answer gives no event exactly if it has no error code. -/
theorem answerEvent?_eq_none_iff {registry : Registry} {request : ParcelType} {token : UInt32}
    {rest : Octets} (h : registry.contains request = true) :
    answerEvent? registry request token rest = none ↔ rest.length < 4 := by
  obtain ⟨decoder, hdecoder⟩ := Option.isSome_iff_exists.1 h
  rw [← word?_eq_none_iff, answerEvent?]
  rcases word? rest with - | ⟨error, payload⟩
  · simp
  · have hsome : registry.decoder? request = some decoder := hdecoder
    by_cases he : error ≠ 0
    · simp [he]
    · simp only [if_neg he, hsome]
      rcases outcome decoder payload with halt | payload <;> simp

/-- A notification answers no request. -/
theorem token?_of_noticeEvent? {registry : Registry} {type : ParcelType} {payload : Octets}
    {event : Event} (h : noticeEvent? registry type payload = some event) :
    event.token? = none := by
  rw [noticeEvent?] at h
  split at h
  · cases h
  · split at h <;> cases h
    rfl

/-- **A body either leaves all pending requests as they are, or settles the one that it answers.**
In the first case the event, if any, has no token. -/
theorem conclude_cases (registry : Registry) (ledger : Ledger) (body : Octets) :
    ((conclude registry ledger body).1 = ledger
        ∧ (∀ event, (conclude registry ledger body).2 = some event → event.token? = none)
        ∧ ∀ token, solicited? body = some token → ledger.type? token = none)
      ∨ ∃ token request rest, header? body = some (.solicited token, rest)
        ∧ ledger.type? token = some request
        ∧ conclude registry ledger body
          = (ledger.erase token, answerEvent? registry request token rest) := by
  rw [conclude, solicited?]
  rcases header? body with - | ⟨token | type, rest⟩
  · simp
  · rcases hpending : ledger.type? token with - | request
    · refine .inl ⟨by simp only [hpending], by simp [hpending], ?_⟩
      rintro token' ⟨⟩
      exact hpending
    · exact .inr ⟨token, request, rest, rfl, hpending, by simp only [hpending]⟩
  · exact .inl ⟨rfl, fun event ↦ token?_of_noticeEvent?, by simp⟩

/-- What is pending after a body. -/
theorem type?_conclude (registry : Registry) (ledger : Ledger) (body : Octets) (token : UInt32) :
    (conclude registry ledger body).1.type? token
      = if solicited? body = some token then none else ledger.type? token := by
  obtain ⟨hledger, -, hnone⟩ | ⟨token', request, rest, hheader, -, hconclude⟩ :=
    conclude_cases registry ledger body
  · rw [hledger]
    split
    · next hs => exact hnone token hs
    · rfl
  · rw [hconclude, Ledger.type?_erase, solicited?, hheader]
    simp only [Option.some.injEq, eq_comm]

theorem nextToken_conclude (registry : Registry) (ledger : Ledger) (body : Octets) :
    (conclude registry ledger body).1.nextToken = ledger.nextToken := by
  obtain ⟨hledger, -⟩ | ⟨token, request, rest, -, -, hconclude⟩ :=
    conclude_cases registry ledger body
  · rw [hledger]
  · rw [hconclude, Ledger.nextToken_erase]

/-- An event with a token is about the pending request that the body answers. -/
theorem pending_of_event {registry : Registry} {ledger : Ledger} {body : Octets} {event : Event}
    {token : UInt32} (hevent : (conclude registry ledger body).2 = some event)
    (htoken : event.token? = some token) :
    solicited? body = some token ∧ ledger.type? token = some event.type := by
  obtain ⟨-, hnone, -⟩ | ⟨token', request, rest, hheader, hpending, hconclude⟩ :=
    conclude_cases registry ledger body
  · rw [hnone event hevent] at htoken
    cases htoken
  · rw [hconclude] at hevent
    obtain ⟨htoken', rfl⟩ := answers_of_answerEvent? hevent
    obtain rfl : token' = token := Option.some.inj (htoken'.symm.trans htoken)
    exact ⟨by rw [solicited?, hheader], hpending⟩

/-! ### One body after the other -/

/-- What follows from one more body, next to the events so far. -/
def concludeOnto (registry : Registry) (acc : Ledger × List Event) (body : Octets) :
    Ledger × List Event :=
  let (ledger, event?) := conclude registry acc.1 body
  (ledger, acc.2 ++ event?.toList)

/-- What follows from bodies, one after the other: the requests that are pending in the end, and all
events. -/
def concludeAll (registry : Registry) (ledger : Ledger) (bodies : List Octets) :
    Ledger × List Event :=
  bodies.foldl (concludeOnto registry) (ledger, [])

/-- Earlier events only stand in front. -/
theorem foldl_concludeOnto (registry : Registry) (ledger : Ledger) (events : List Event)
    (bodies : List Octets) :
    bodies.foldl (concludeOnto registry) (ledger, events)
      = ((concludeAll registry ledger bodies).1,
          events ++ (concludeAll registry ledger bodies).2) := by
  induction bodies generalizing ledger events with
  | nil => simp [concludeAll]
  | cons body bodies ih =>
    have hcons : concludeAll registry ledger (body :: bodies)
        = ((concludeAll registry (conclude registry ledger body).1 bodies).1,
            (conclude registry ledger body).2.toList
              ++ (concludeAll registry (conclude registry ledger body).1 bodies).2) := ih _ _
    rw [List.foldl_cons, hcons, ← List.append_assoc]
    exact ih _ _

theorem concludeAll_cons (registry : Registry) (ledger : Ledger) (body : Octets)
    (bodies : List Octets) :
    concludeAll registry ledger (body :: bodies)
      = let c := conclude registry ledger body
        let c' := concludeAll registry c.1 bodies
        (c'.1, c.2.toList ++ c'.2) :=
  foldl_concludeOnto registry _ _ bodies

/-- What follows from the first bodies comes before what follows from the others. -/
theorem concludeAll_append (registry : Registry) (ledger : Ledger) (first second : List Octets) :
    concludeAll registry ledger (first ++ second)
      = let c := concludeAll registry ledger first
        let c' := concludeAll registry c.1 second
        (c'.1, c.2 ++ c'.2) := by
  rw [concludeAll, List.foldl_append]
  exact foldl_concludeOnto registry _ _ second

/-! ### The endpoint draws these conclusions -/

/-- Decoding a payload is running the decoder on it by itself. -/
theorem run_decode (registry : Registry) (type : ParcelType) (x : Excerpt) :
    ((registry.decode type).run x).1
      = (registry.decoder? type).map fun decoder ↦
          (outcome decoder x.rest).mapError (Halt.cause type) := by
  unfold Registry.decode
  split
  · next h => rw [h]; rfl
  · next decoder h =>
    -- the header was read before, but a decoder cannot tell how much that was
    have hrun := (Excerpt.agree_rest.run decoder.run (s := x) (t := Excerpt.ofOctets x.rest) rfl).1
    rw [h, Option.map_some, outcome, ← hrun]
    simp only [map_eq_pure_bind, Reading.run_bind, Reading.run_pure]

/-- What an answer turns out to be, read from behind its token. -/
theorem run_answerReading (registry : Registry) (request : ParcelType) (token : UInt32)
    (x : Excerpt) :
    ((Reception.answerReading registry request token).run x).1.settled? = some token
      ∧ ((Reception.answerReading registry request token).run x).1.event?
        = answerEvent? registry request token x.rest := by
  simp only [Reception.answerReading, Reading.run_bind, Excerpt.run_u32, answerEvent?]
  rcases word? x.rest with - | ⟨error, payload⟩
  · exact ⟨rfl, rfl⟩
  · by_cases h : error ≠ 0
    · simp only [if_pos h]
      exact ⟨rfl, rfl⟩
    · simp only [if_neg h, Reading.run_bind, run_decode, Reading.run_pure]
      refine ⟨rfl, ?_⟩
      rcases registry.decoder? request with - | decoder
      · rfl
      · simp only [Option.map_some, Reception.event?]
        rcases outcome decoder payload with halt | payload <;> rfl

/-- **What a body turns out to be has the consequences that follow from the body.** -/
theorem run_reading (registry : Registry) (ledger : Ledger) (body : Octets) :
    let reception := ((Reception.reading ledger.type? registry).run (Excerpt.ofOctets body)).1
    (settle ledger reception, reception.event?) = conclude registry ledger body := by
  simp only [Reception.reading, Reading.run_bind, conclude]
  obtain ⟨hnone, cause, hcause⟩ | ⟨header, rest, consumed, hsome, hrun⟩ :=
    Excerpt.run_header (Excerpt.ofOctets body)
  · rw [show header? body = none from hnone]
    simp only [hcause, Reading.run_pure]
    rfl
  · rw [show header? body = some (header, rest) from hsome]
    simp only [hrun]
    cases header with
    | solicited token =>
      rcases hpending : ledger.type? token with - | request
      · simp only [hpending]
        rfl
      · simp only [hpending]
        obtain ⟨hsettled, hevent⟩ := run_answerReading registry request token ⟨rest, consumed⟩
        simp only [settle, hsettled, hevent]
    | unsolicited type =>
      simp only [Reading.run_bind, run_decode, Reading.run_pure, noticeEvent?]
      rcases registry.decoder? type with - | decoder
      · rfl
      · simp only [Option.map_some]
        rcases outcome decoder rest with halt | payload <;> rfl

/-- **Giving a body to the dispatch draws its conclusion**, on the desk and at the sink. -/
theorem digest_dispatch (registry : Registry) (sink : Sink) (desk : Desk) (body : Octets) :
    let c := conclude registry desk.ledger body
    Framer.digest (dispatch registry sink) desk body
      = ⟨c.1, desk.events ++ (sink.taken c.2.toList).toArray⟩ := by
  rw [← run_reading registry desk.ledger body]
  simp only [Framer.digest, dispatch, map_eq_pure_bind, Reading.run_bind, Reading.run_pure,
    Desk.take]
  rcases Reception.event? _ with - | event
  · simp [Sink.taken]
  · rcases h : (sink.deliver event).value with - | received <;> simp [Sink.taken, h]

theorem foldl_digest_dispatch (registry : Registry) (sink : Sink) (ledger : Ledger)
    (events : Array Event) (bodies : List Octets) :
    let c := concludeAll registry ledger bodies
    bodies.foldl (Framer.digest (dispatch registry sink)) ⟨ledger, events⟩
      = ⟨c.1, events ++ (sink.taken c.2).toArray⟩ := by
  induction bodies generalizing ledger events with
  | nil => simp [concludeAll, Sink.taken]
  | cons body bodies ih =>
    rw [List.foldl_cons, digest_dispatch, ih, concludeAll_cons]
    simp [Sink.taken_append, Array.append_assoc]

/-- **A chunk does to an endpoint what follows from the bodies that it completes.** Nothing but the
framer and the ledger changes, and the events are those that the sink takes. -/
theorem value_receive {e : Endpoint} {limit : Nat} {phase : Framer.Phase} {rest : Octets}
    (h : e.framer.StandsAt limit phase rest) (chunk : Octets) :
    let s := Framer.split limit phase (rest ++ chunk)
    let c := concludeAll e.registry e.ledger s.bodies
    ∃ framer, (e.receive chunk).value
        = ({ e with framer := framer, ledger := c.1 }, e.sink.taken c.2)
      ∧ framer.StandsAt limit s.phase s.rest := by
  obtain ⟨framer, hpush, hstands⟩ := Framer.value_push h chunk (dispatch e.registry e.sink)
    ⟨e.ledger, #[]⟩
  refine ⟨framer, ?_, hstands⟩
  simp only [receive, Logged.value_bind, hpush, foldl_digest_dispatch, Logged.value_pure,
    Array.empty_append]

/-- Take in chunks one after the other. Gives the events that were received from all of them. -/
def receiveAll (e : Endpoint) : List Octets → Logged (Endpoint × List Event)
  | [] => pure (e, [])
  | chunk :: chunks => do
    let (e, events) ← e.receive chunk
    let (e, more) ← receiveAll e chunks
    return (e, events ++ more)

theorem value_receiveAll {e : Endpoint} {limit : Nat} {phase : Framer.Phase} {rest : Octets}
    (h : e.framer.StandsAt limit phase rest) (chunks : List Octets) :
    let s := Framer.splitChunks limit phase rest chunks
    let c := concludeAll e.registry e.ledger s.bodies
    ∃ framer, (e.receiveAll chunks).value
        = ({ e with framer := framer, ledger := c.1 }, e.sink.taken c.2)
      ∧ framer.StandsAt limit s.phase s.rest := by
  induction chunks generalizing e phase rest with
  | nil => exact ⟨e.framer, rfl, h⟩
  | cons chunk chunks ih =>
    obtain ⟨framer, hreceive, hstands⟩ := value_receive h chunk
    -- the other chunks meet the endpoint that the first one has left
    obtain ⟨framer', hrest, hstands'⟩ := ih (e := { e with
      framer := framer
      ledger := (concludeAll e.registry e.ledger
        (Framer.split limit phase (rest ++ chunk)).bodies).1 }) hstands
    refine ⟨framer', ?_, hstands'⟩
    simp only [receiveAll, Logged.value_bind, hreceive, hrest, Logged.value_pure,
      Framer.splitChunks, concludeAll_append, Sink.taken_append]

end Endpoint

end ParcelLink
