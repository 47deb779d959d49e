import ParcelLink.Proofs.Endpoint.Course
import ParcelLink.Proofs.Ledger.Tokens

/-!
# Parcels do not disturb each other

Whatever decoders do with their windows, the bodies behind theirs come out whole, and what follows
from a body depends on the body, the pending requests and the decoders alone. So what an endpoint
makes of any chunks is the conclusions of their bodies, one after the other
(`Endpoint.receiveAll_eq_foldl`).

That a parcel settles a request is known before the rest of the parcel is. If the type of the
request has a decoder, there is an event for the request whatever the rest is, as long as it has an
error code (`Endpoint.events_dispatched`). An answer that ends behind its token settles the request
without a word (`Endpoint.settled_without_event`).

## Main definitions

* `Endpoint.dispatched`: the desk after the body in front of a ring.
-/

namespace ParcelLink

namespace Endpoint

variable {τ : Type}

/-! ### A decoder on a ring -/

/-- A decoder that reads a payload from a ring of its own ends as it does on the payload. -/
theorem run_decoder_ofRing (decoder : BodyDecoder) (capacity : Nat) (payload : Octets) :
    (decoder.run.run (Window.ofRing ((Ring.ofCapacity capacity).write payload).value
      payload.length)).1 = outcome decoder payload := by
  have hvalid : (Ring.ofCapacity capacity).Valid := Ring.valid_ofCapacity capacity
  have hcontents : ((Ring.ofCapacity capacity).write payload).value.contents = payload ++ [] := by
    rw [Ring.contents_write hvalid, Ring.contents_ofCapacity, List.nil_append, List.append_nil]
  have hshows := Window.shows_ofRing (Ring.valid_write hvalid payload) hcontents
  exact ((Window.agree _ _).run decoder.run hshows).1

/-! ### Conclusions, one after the other -/

/-- **What an endpoint makes of chunks is the conclusions of their bodies, in order.** The endpoint
may have been through any operations, and its decoders may do anything. The bodies are those that a
handler is given which keeps them, and each decoder ends as it does on a payload in a ring of its
own. -/
theorem receiveAll_eq_foldl (transport : Transport τ) (config : Config) (wire : τ)
    (operations : List Operation) (chunks : List Octets) :
    let e := ((Course.fresh config wire).performAll transport operations).endpoint
    let s := Framer.splitChunks e.framer.limit e.framer.phase e.framer.ring.contents chunks
    let c := s.bodies.foldl (concludeOnto e.registry) (e.ledger, [])
    (e.receiveAll chunks).value.1.ledger = c.1
      ∧ (e.receiveAll chunks).value.2 = e.sink.taken c.2
      ∧ (e.framer.pushAll Framer.keeper chunks []).value.2.1 = s.bodies
      ∧ ∀ decoder : BodyDecoder, ∀ capacity payload,
        (decoder.run.run (Window.ofRing ((Ring.ofCapacity capacity).write payload).value
          payload.length)).1 = outcome decoder payload := by
  intro e s c
  have hstands := Course.stands_performAll transport config wire operations
  obtain ⟨framer, hreceive, -⟩ := value_receiveAll hstands chunks
  obtain ⟨framer', counts, hkept, -, -⟩ := Framer.value_pushAll hstands Framer.keeper chunks []
  refine ⟨?_, ?_, ?_, run_decoder_ofRing⟩
  · exact congrArg (fun p ↦ p.1.ledger) hreceive
  · exact congrArg Prod.snd hreceive
  · rw [hkept, Framer.foldl_digest_keeper, List.nil_append]

/-! ### Settled requests and their events -/

/-- What is on the desk after the body of a size in front of a ring is dispatched. -/
def dispatched (registry : Registry) (sink : Sink) (desk : Desk) (ring : Ring) (size : Nat) :
    Desk :=
  ((dispatch registry sink desk).run (Window.ofRing ring size)).1.value

/-- The ring does not matter, nor what is in it behind the body. -/
theorem dispatched_eq {ring : Ring} {body behind : Octets} (hring : ring.Valid)
    (hcontents : ring.contents = body ++ behind) (registry : Registry) (sink : Sink) (desk : Desk) :
    dispatched registry sink desk ring body.length
      = ⟨(conclude registry desk.ledger body).1,
          desk.events ++ (sink.taken (conclude registry desk.ledger body).2.toList).toArray⟩ := by
  have hshows := Window.shows_ofRing hring hcontents
  rw [dispatched, ((Window.agree _ _).run (dispatch registry sink desk) hshows).1]
  exact digest_dispatch registry sink desk body

/-- **A request is settled with one event if its answer has an error code.** Say that a request is
pending, its type has a decoder, and the request is not pending any more after a body. If the body
has the twelve bytes of the response type, the token and the error code, then one event for the
request is handed to the sink, whatever the rest of the body is and whatever the decoder does. A
shorter body gives no event. -/
theorem events_dispatched {registry : Registry} {sink : Sink} {desk : Desk} {ring : Ring}
    {body behind : Octets} {token : UInt32} {request : ParcelType} (hring : ring.Valid)
    (hcontents : ring.contents = body ++ behind) (hpending : desk.ledger.type? token = some request)
    (hsettled : (dispatched registry sink desk ring body.length).ledger.type? token = none)
    (hdecoder : registry.contains request = true) :
    (12 ≤ body.length → ∃ event, event.token? = some token ∧ event.type = request
        ∧ ∀ sink' : Sink, (dispatched registry sink' desk ring body.length).events
          = desk.events ++ (sink'.taken [event]).toArray)
      ∧ (body.length < 12 → ∀ sink' : Sink,
          (dispatched registry sink' desk ring body.length).events = desk.events) := by
  simp only [dispatched_eq hring hcontents] at hsettled ⊢
  obtain ⟨hledger, -⟩ | ⟨token', request', rest, hheader, hpending', hconclude⟩ :=
    conclude_cases registry desk.ledger body
  · rw [hledger, hpending] at hsettled
    cases hsettled
  -- the token that is settled can only be the one in the header
  · obtain rfl : token = token' := by
      by_contra hne
      rw [hconclude, Ledger.type?_erase, if_neg hne, hpending] at hsettled
      cases hsettled
    obtain rfl : request = request' := Option.some.inj (hpending.symm.trans hpending')
    have hlength := length_of_header? hheader
    rw [hconclude]
    rcases hevent : answerEvent? registry request token rest with - | event
    · have hshort := (answerEvent?_eq_none_iff hdecoder).1 hevent
      exact ⟨fun hlong ↦ by omega, fun _ sink' ↦ by simp [Sink.taken]⟩
    · have hlong : ¬ rest.length < 4 := fun h ↦ by
        rw [(answerEvent?_eq_none_iff hdecoder).2 h] at hevent
        cases hevent
      obtain ⟨htoken, htype⟩ := answers_of_answerEvent? hevent
      exact ⟨fun _ ↦ ⟨event, htoken, htype, fun sink' ↦ rfl⟩, fun hshort ↦ by omega⟩

/-- An answer with the error code 2 settles the request with one event. -/
theorem event_of_refusal :
    let ledger := (({} : Ledger).insert ParcelType.getImei).2
    let body : Octets := [0, 0, 0, 0, 1, 0, 0, 0, 2, 0, 0, 0]
    let ring := ((Ring.ofCapacity 16).write body).value
    ring.Valid ∧ ring.contents = body ++ [] ∧ ledger.type? 1 = some ParcelType.getImei
      ∧ (dispatched .standard .attached ⟨ledger, #[]⟩ ring body.length).ledger.type? 1 = none
      ∧ Registry.standard.contains .getImei = true
      ∧ ∃ event, event.token? = some 1 ∧ event.type = ParcelType.getImei
        ∧ (dispatched .standard .attached ⟨ledger, #[]⟩ ring body.length).events = #[event] := by
  intro ledger body ring
  have hring : ring.Valid := Ring.valid_write (Ring.valid_ofCapacity 16) body
  have hcontents : ring.contents = body ++ [] := by decide +kernel
  have hpending : ledger.type? 1 = some ParcelType.getImei := by decide +kernel
  have hsettled : (dispatched .standard .attached ⟨ledger, #[]⟩ ring body.length).ledger.type? 1
      = none := by decide +kernel
  have hdecoder : Registry.standard.contains .getImei = true := by decide +kernel
  obtain ⟨event, htoken, htype, hevents⟩ :=
    (events_dispatched hring hcontents hpending hsettled hdecoder).1 (by decide)
  exact ⟨hring, hcontents, hpending, hsettled, hdecoder, event, htoken, htype,
    by simpa using hevents .attached⟩

/-- **An answer without an error code settles a request without a word.** The endpoint has sent a
request whose type has a decoder, and takes in a parcel of eight bytes: the response type of an
answer and the token. The request is not pending any more, and no event is received. -/
theorem settled_without_event :
    let before := (Course.fresh { incoming := 4, outgoing := 4 } ()).performAll Transport.absent
      [.send .getImei []]
    let after := before.performAll Transport.absent [.receive [0, 0, 0, 8, 0, 0, 0, 0, 1, 0, 0, 0]]
    before.endpoint.ledger.type? 1 = some ParcelType.getImei
      ∧ before.endpoint.registry.contains .getImei = true
      ∧ after.endpoint.ledger.type? 1 = none
      ∧ after.received = [] := by
  decide +kernel

end Endpoint

end ParcelLink
