import ParcelLink.Proofs.Endpoint.Course
import ParcelLink.Session.Turns

/-!
# A request knows its transport by one answer

To submit a request is to hand one parcel to the transport, and the parcel does not depend on the
transport. So two transports that do the same with that parcel do the same for the request
(`Endpoint.submit_congr`), and what the request comes to and the endpoint behind it depend on the
answer alone (`Endpoint.value_submit_answering`).
-/

namespace ParcelLink

/-- What comes next matters only as it goes on from the result. -/
theorem Logged.bind_congr {α β : Type} {x : Logged α} {f g : α → Logged β}
    (h : f x.value = g x.value) : (x >>= f) = (x >>= g) := by
  show (⟨(f x.value).value, x.notices ++ (f x.value).notices⟩ : Logged β)
    = ⟨(g x.value).value, x.notices ++ (g x.value).notices⟩
  rw [h]

namespace Endpoint

variable {τ : Type}

/-- What becomes of a finished parcel is told by the answer of the transport. -/
theorem value_finish (e : Endpoint) (type : ParcelType) (token : UInt32) (transport : Transport τ)
    (state : τ) :
    let sent := (transport.send state e.draft.finish.1).value
    (e.finish type token transport state).value
      = (sent.1.map fun _ ↦ token,
          { e with
            draft := e.draft.finish.2
            ledger := match sent.1 with
              | .ok () => e.ledger
              | .error _ => e.ledger.erase token },
          sent.2) := by
  simp only [finish, Logged.value_bind]
  rcases (transport.send state e.draft.finish.1).value with ⟨cause | ⟨⟩, state'⟩ <;> rfl

/-- A request is begun and given its arguments, and then finished. -/
theorem value_submit_eq (e : Endpoint) (request : Request) (transport : Transport τ) (state : τ) :
    let begun := (e.prepare request.type request.arguments).value
    (e.submit request transport state).value
      = (begun.2.finish request.type begun.1 transport state).value :=
  rfl

theorem outgoing_eq (e : Endpoint) (request : Request) :
    e.outgoing request
      = (e.prepare request.type request.arguments).value.2.draft.finish.1 := by
  rw [outgoing, value_submit_eq, value_finish]
  rfl

/-- **What a request comes to depends on the answer of the transport alone**, and so does the
endpoint behind it. -/
theorem value_submit_answering (e : Endpoint) (request : Request) (transport : Transport τ)
    (state : τ) :
    let sent := (transport.send state (e.outgoing request)).value
    (e.submit request transport state).value
      = ((e.submit request (.answering sent.1 ()) ()).value.1,
          (e.submit request (.answering sent.1 ()) ()).value.2.1, sent.2) := by
  intro sent
  have hsent : sent = (transport.send state
      (e.prepare request.type request.arguments).value.2.draft.finish.1).value := by
    rw [← outgoing_eq]
  simp only [value_submit_eq, value_finish, ← hsent]
  rfl

/-- Transports that do the same with a finished parcel do the same for its request. -/
theorem finish_congr {e : Endpoint} {transport transport' : Transport τ} {state state' : τ}
    (h : transport.send state e.draft.finish.1 = transport'.send state' e.draft.finish.1)
    (type : ParcelType) (token : UInt32) :
    e.finish type token transport state = e.finish type token transport' state' := by
  simp only [finish]
  rw [h]

/-- **Transports that do the same with the parcel of a request do the same for the request.** -/
theorem submit_congr {e : Endpoint} {request : Request} {transport transport' : Transport τ}
    {state state' : τ}
    (h : transport.send state (e.outgoing request) = transport'.send state' (e.outgoing request)) :
    e.submit request transport state = e.submit request transport' state' := by
  rw [outgoing_eq] at h
  have hfinish := finish_congr h request.type (e.prepare request.type request.arguments).value.1
  unfold submit send
  refine Logged.bind_congr (Logged.bind_congr ?_)
  exact hfinish

end Endpoint

end ParcelLink
