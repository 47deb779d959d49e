import ParcelLink.Proofs.Endpoint.Course
import ParcelLink.Proofs.Request.Wire

/-!
# Outgoing parcels do not depend on the history

All parcels of an endpoint are put together in one draft, which keeps the bytes of earlier parcels,
of parcels that were given up and of parcels that the transport refused. None of them gets into a
later parcel: whatever has been done to an endpoint, its draft is valid
(`Endpoint.Course.draft_performAll`), and the parcel of a request is then told by the request and its
token alone (`Endpoint.value_submit`).

## Main results

* `Endpoint.Course.parcels_of_requests`: what a request puts on the wire after any history, and what
  is read back from such parcels.
-/

namespace ParcelLink.Endpoint

variable {τ : Type}

/-! ### One parcel -/

/-- The parcel of a request is begun behind nothing, whatever was in the draft. -/
theorem draft_prepare {e : Endpoint} (h : e.draft.Valid) (type : ParcelType)
    (arguments : List Value) :
    (e.prepare type arguments).value.2.draft.Valid
      ∧ (e.prepare type arguments).value.2.draft.body
        = encodeU32 type ++ encodeU32 (e.ledger.insert type).1
          ++ arguments.flatMap Value.encode := by
  have hreset := Draft.valid_reset h
  have htype := (Draft.valid_write hreset (encodeU32 type)).1
  have hstart := (Draft.valid_write htype (encodeU32 (e.ledger.insert type).1)).1
  obtain ⟨hvalid, hbody⟩ := Draft.valid_writeAll hstart arguments
  simp only [prepare, start, Logged.value_bind, Logged.value_pure, value_argueAll]
  refine ⟨hvalid, ?_⟩
  rw [hbody, Draft.body_write htype, Draft.body_write hreset, Draft.body_reset, List.nil_append]

/-- What is sent is the framed type, token and arguments, and the draft starts over. -/
theorem wire_send {e : Endpoint} (h : e.draft.Valid) (type : ParcelType) (arguments : List Value)
    (transport : Transport τ) (wire : τ) :
    let token := (e.ledger.insert type).1
    let sent := transport.send wire
      (Framer.frame (encodeU32 type ++ encodeU32 token ++ arguments.flatMap Value.encode))
    (e.send type arguments transport wire).value.1 = sent.value.1.map (fun _ ↦ token)
      ∧ (e.send type arguments transport wire).value.2.1.draft.Valid
      ∧ (e.send type arguments transport wire).value.2.2 = sent.value.2 := by
  intro token sent
  obtain ⟨hvalid, hbody⟩ := draft_prepare h type arguments
  obtain ⟨hparcel, hfinished, -⟩ := Draft.finish_eq hvalid
  obtain ⟨draft, hprepare⟩ := e.value_prepare type arguments
  have hsend : (e.send type arguments transport wire).value
      = ((e.prepare type arguments).value.2.finish type (e.prepare type arguments).value.1
          transport wire).value := rfl
  rw [hprepare] at hsend hvalid hbody hparcel hfinished
  have hsent : sent = transport.send wire draft.finish.1 := by
    rw [hparcel, hbody]
    rfl
  rw [hsend, hsent]
  simp only [finish, Logged.value_bind]
  rcases (transport.send wire draft.finish.1).value with ⟨cause | ⟨⟩, wire'⟩
  · exact ⟨rfl, hfinished, rfl⟩
  · exact ⟨rfl, hfinished, rfl⟩

/-- **A request puts its parcel on the wire, and nothing else.** -/
theorem value_submit {e : Endpoint} (h : e.draft.Valid) (request : Request)
    (transport : Transport τ) (wire : τ) :
    let token := (e.ledger.insert request.type).1
    let sent := transport.send wire (request.parcel token)
    (e.submit request transport wire).value.1 = sent.value.1.map (fun _ ↦ token)
      ∧ (e.submit request transport wire).value.2.2 = sent.value.2 := by
  obtain ⟨houtcome, -, hwire⟩ := wire_send h request.type request.arguments transport wire
  exact ⟨houtcome, hwire⟩

/-! ### The draft of a course -/

namespace Course

theorem draft_perform (transport : Transport τ) {c : Course τ} (hstands : c.Stands)
    (h : c.endpoint.draft.Valid) (operation : Operation) :
    (c.perform transport operation).endpoint.draft.Valid := by
  cases operation with
  | abandon type arguments => exact (draft_prepare h type arguments).1
  | send type arguments => exact (wire_send h type arguments transport c.wire).2.1
  | equip registry => exact h
  | receive chunk =>
    obtain ⟨framer, hreceive, -⟩ := value_receive hstands chunk
    simp only [perform, hreceive]
    exact h

/-- **Whatever has been done to it, the draft of an endpoint is valid.** -/
theorem draft_performAll (transport : Transport τ) (config : Config) (wire : τ)
    (operations : List Operation) :
    ((fresh config wire).performAll transport operations).endpoint.draft.Valid := by
  induction operations using List.reverseRecOn with
  | nil => exact Draft.valid_ofCapacity config.outgoing
  | append_singleton operations operation ih =>
    rw [performAll_concat]
    exact draft_perform transport (stands_performAll transport config wire operations) ih operation

/-- **Outgoing parcels are exact, whatever came before, and are read back.** After any operations on
an endpoint, a request hands its parcel to the transport, once and with nothing else, and the outcome
is the token in the parcel or the refusal of the transport. And when such parcels, one behind the
other and in any chunks, are given to a framer that believes their sizes, then reading the type, the
token and the layout of the type in every body gives just these requests with their tokens, in
order, and leaves no byte of a body and none behind the last. -/
theorem parcels_of_requests (transport : Transport τ) (config : Config) (wire : τ)
    (operations : List Operation) :
    let c := (fresh config wire).performAll transport operations
    (∀ request : Request,
      let token := (c.endpoint.ledger.insert request.type).1
      let sent := transport.send c.wire (request.parcel token)
      (c.endpoint.submit request transport c.wire).value.1 = sent.value.1.map (fun _ ↦ token)
        ∧ (c.endpoint.submit request transport c.wire).value.2.2 = sent.value.2)
    ∧ ∀ (capacity limit : Nat) (sent : List (Request × UInt32)) (chunks : List Octets),
      chunks.flatten = (sent.flatMap fun p ↦ p.1.parcel p.2) →
      (∀ p ∈ sent, p.1.Fits) →
      (∀ p ∈ sent, (p.1.body p.2).length ≤ limit ∧ (p.1.body p.2).length < UInt32.size) →
      Framer.Sight.ofPushed
          ((Framer.ofCapacity capacity limit).pushAll Request.collect chunks []).value
        = ⟨sent.map fun p ↦ ⟨.ok (some p.1, p.2), 0⟩, sent.length, none, []⟩ := by
  intro c
  refine ⟨fun request ↦ ?_, fun capacity limit sent chunks hchunks hfits hsizes ↦ ?_⟩
  · exact value_submit (draft_performAll transport config wire operations) request transport c.wire
  · exact Request.sight_of_parcels capacity hchunks hfits hsizes

/-- A parcel that was given up, longer than the next one, leaves nothing in it; and the parcel is
read back from chunks together with another. -/
theorem parcels_after_abandoned :
    let abandoned := Operation.abandon .dial [.string (some "0123456789")]
    let c := (fresh { outgoing := 0 } (#[], none)).performAll Transport.recorder [abandoned]
    let parcels : List Octets := [(Request.enterIccPin "12").parcel 2, Request.stopTone.parcel 3]
    (c.endpoint.submit (.enterIccPin "12") Transport.recorder c.wire).value.2.2
        = (#[[0, 0, 0, 24, 2, 0, 0, 0, 2, 0, 0, 0, 1, 0, 0, 0, 2, 0, 0, 0, 49, 0, 50, 0, 0, 0, 0,
          0]], none)
      ∧ [parcels.flatten.take 2, parcels.flatten.drop 2].flatten = parcels.flatten
      ∧ (Request.enterIccPin "12").Fits ∧ Request.stopTone.Fits
      ∧ Framer.Sight.ofPushed ((Framer.ofCapacity 0 24).pushAll Request.collect
          [parcels.flatten.take 2, parcels.flatten.drop 2] []).value
        = ⟨[⟨.ok (some (.enterIccPin "12"), 2), 0⟩, ⟨.ok (some .stopTone, 3), 0⟩], 2, none,
          []⟩ := by
  intro abandoned c parcels
  obtain ⟨hwire, hread⟩ := parcels_of_requests Transport.recorder { outgoing := 0 } (#[], none)
    [abandoned]
  have hflat : [parcels.flatten.take 2, parcels.flatten.drop 2].flatten = parcels.flatten := by
    decide +kernel
  have hfits : ∀ p ∈ [(Request.enterIccPin "12", (2 : UInt32)), (.stopTone, 3)], p.1.Fits := by
    decide +kernel
  refine ⟨?_, hflat, hfits (.enterIccPin "12", 2) (by simp),
    hfits (.stopTone, 3) (by simp), ?_⟩
  · rw [(hwire (.enterIccPin "12")).2]
    decide +kernel
  · exact hread 0 24 _ _ hflat hfits (by decide +kernel)

end Course

end ParcelLink.Endpoint
