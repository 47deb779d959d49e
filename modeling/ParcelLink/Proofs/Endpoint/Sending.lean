import ParcelLink.Proofs.Endpoint.Answers
import ParcelLink.Proofs.Endpoint.Correlation
import ParcelLink.Proofs.Endpoint.Parcels

/-!
# What a request does to an endpoint

A request goes through an endpoint in one move, and nothing of the endpoint takes part in it but the
draft and the ledger. The parcel is put together in the draft, which starts over as soon as the parcel
is handed out (`Endpoint.finish_drafted`). The ledger gives out a token, and takes it back if the
transport refuses the parcel (`Endpoint.booked`). So sending is known in full by the answer of the
transport to one parcel (`Endpoint.value_send_eq`).

## Main definitions

* `Endpoint.drafted`: the draft with the parcel of a request.
* `Endpoint.booked`: the pending requests behind a request, by the answer of the transport.
-/

namespace ParcelLink

namespace Endpoint

variable {τ : Type}

/-- A draft in which the parcel of a request has been put together, whatever was in it before. -/
def drafted (draft : Draft) (type : ParcelType) (token : UInt32) (arguments : List Value) : Draft :=
  (((draft.reset.write (encodeU32 type)).value.write (encodeU32 token)).value.writeAll
    arguments).value

/-- The requests that are pending behind a request of a type, by the answer of the transport. -/
def booked (ledger : Ledger) (type : ParcelType) : Except Fault Unit → Ledger
  | .ok () => (ledger.insert type).2
  | .error _ => (ledger.insert type).2.erase (ledger.insert type).1

/-- A request that is begun is drafted and pending. -/
theorem value_prepare_eq (e : Endpoint) (type : ParcelType) (arguments : List Value) :
    (e.prepare type arguments).value
      = ((e.ledger.insert type).1,
          { e with
            draft := drafted e.draft type (e.ledger.insert type).1 arguments
            ledger := (e.ledger.insert type).2 }) := by
  simp only [prepare, start, Logged.value_bind, Logged.value_pure, value_argueAll, drafted]

/-- The drafted parcel is the framed type, token and arguments, and the draft starts over behind it,
with nothing but the place of the size. -/
theorem finish_drafted {draft : Draft} (h : draft.Valid) (type : ParcelType) (token : UInt32)
    (arguments : List Value) :
    (drafted draft type token arguments).finish.1
        = Framer.frame (encodeU32 type ++ encodeU32 token ++ arguments.flatMap Value.encode)
      ∧ (drafted draft type token arguments).finish.2.body = []
      ∧ (drafted draft type token arguments).finish.2.length = sizeWidth := by
  have hreset := Draft.valid_reset h
  have htype := (Draft.valid_write hreset (encodeU32 type)).1
  have htoken := (Draft.valid_write htype (encodeU32 token)).1
  obtain ⟨hvalid, hbody⟩ := Draft.valid_writeAll htoken arguments
  rw [Draft.body_write htype, Draft.body_write hreset, Draft.body_reset, List.nil_append] at hbody
  obtain ⟨hparcel, -, hempty⟩ := Draft.finish_eq hvalid
  rw [hbody] at hparcel
  exact ⟨hparcel, hempty, rfl⟩

/-- **Sending a request is told by the answer of the transport to its parcel**: the draft starts
over, the token is given out and is taken back if the parcel is refused, and nothing else of the
endpoint changes. -/
theorem value_send_eq {e : Endpoint} (h : e.draft.Valid) (type : ParcelType)
    (arguments : List Value) (transport : Transport τ) (wire : τ) :
    let token := (e.ledger.insert type).1
    let sent := (transport.send wire
      (Framer.frame (encodeU32 type ++ encodeU32 token ++ arguments.flatMap Value.encode))).value
    (e.send type arguments transport wire).value
      = (sent.1.map fun _ ↦ token,
          { e with
            draft := (drafted e.draft type token arguments).finish.2
            ledger := booked e.ledger type sent.1 },
          sent.2) := by
  intro token sent
  have hsend : (e.send type arguments transport wire).value
      = ((e.prepare type arguments).value.2.finish type (e.prepare type arguments).value.1
          transport wire).value := rfl
  have hsent : sent = (transport.send wire
      (drafted e.draft type token arguments).finish.1).value := by
    rw [(finish_drafted h type token arguments).1]
  rw [hsend, value_prepare_eq, value_finish, hsent]
  rcases (transport.send wire (drafted e.draft type token arguments).finish.1).value with
    ⟨cause | ⟨⟩, wire'⟩ <;> rfl

theorem value_submit_of_valid {e : Endpoint} (h : e.draft.Valid) (request : Request)
    (transport : Transport τ) (wire : τ) :
    let token := (e.ledger.insert request.type).1
    let sent := (transport.send wire (request.parcel token)).value
    (e.submit request transport wire).value
      = (sent.1.map fun _ ↦ token,
          { e with
            draft := (drafted e.draft request.type token request.arguments).finish.2
            ledger := booked e.ledger request.type sent.1 },
          sent.2) :=
  value_send_eq h request.type request.arguments transport wire

namespace Course

/-! ### What an endpoint has whatever was done to it -/

/-- A course of a fresh endpoint, after some operations. -/
def Reached (transport : Transport τ) (config : Config) (c : Course τ) : Prop :=
  ∃ wire operations, c = (fresh config wire).performAll transport operations

namespace Reached

variable {transport : Transport τ} {config : Config} {c : Course τ}

theorem performAll (h : c.Reached transport config) (operations : List Operation) :
    (c.performAll transport operations).Reached transport config := by
  obtain ⟨wire, before, rfl⟩ := h
  exact ⟨wire, before ++ operations, (List.foldl_append ..).symm⟩

theorem stands (h : c.Reached transport config) : c.Stands := by
  obtain ⟨wire, operations, rfl⟩ := h
  exact stands_performAll transport config wire operations

theorem draft (h : c.Reached transport config) : c.endpoint.draft.Valid := by
  obtain ⟨wire, operations, rfl⟩ := h
  exact draft_performAll transport config wire operations

theorem chronicle (h : c.Reached transport config) : Chronicle c.history c.endpoint.ledger := by
  obtain ⟨wire, operations, rfl⟩ := h
  exact chronicle_performAll transport config wire operations

theorem recorded (h : c.Reached transport config) : c.Recorded config.sink := by
  obtain ⟨wire, operations, rfl⟩ := h
  exact recorded_performAll transport config wire operations

/-- The history agrees with the ledger, as long as the numbers are not used up. -/
theorem consistent (h : c.Reached transport config)
    (hroom : (issues c.happenings).length < 2 ^ 32 - 1) :
    Consistent c.happenings c.endpoint.ledger :=
  h.chronicle.consistent (Nat.add_lt_of_lt_sub hroom)

end Reached

end Course

end Endpoint

end ParcelLink
