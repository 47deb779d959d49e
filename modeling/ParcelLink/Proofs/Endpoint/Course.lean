import Mathlib.Data.List.Induction
import ParcelLink.Endpoint.Submission
import ParcelLink.Proofs.Endpoint.Conclusion
import ParcelLink.Proofs.Value.RoundTrip

/-!
# The course of an endpoint

Everything that can be done to an endpoint is an `Endpoint.Operation`: a request is begun and given
up, a request is sent, the decoders are changed, or bytes come in. A request with no arguments and a
typed request are sent like any other (`Endpoint.submit`). An `Endpoint.Course` is an endpoint with
its transport after some operations, next to the events that were received and to a history of what
happened to tokens.

The history goes parcel by parcel: between the bodies of one chunk there are moments at which some
requests have been settled and others not. Every entry keeps the requests that are pending right
after it, so that these moments can be spoken about.

Sending is known by `Endpoint.value_send`: a token is given out, and taken back if the transport
refuses the parcel. No operation leaves a framer without a place in its stream
(`Endpoint.Course.stands_performAll`).

## Main definitions

* `Endpoint.Operation`, `Endpoint.Happening`: what is done to an endpoint, and what happens to
  tokens.
* `Endpoint.Course`, `Endpoint.Course.performAll`: an endpoint and its history.
* `Framer.completed`: the bodies that a chunk completes.
-/

namespace ParcelLink

/-- The bodies that a chunk completes. -/
def Framer.completed (f : Framer) (chunk : Octets) : List Octets :=
  (split f.limit f.phase (f.ring.contents ++ chunk)).bodies

namespace Endpoint

variable {τ : Type}

/-! ### Sending -/

/-- Begin the parcel of a request and write its arguments. Gives its token. -/
def prepare (e : Endpoint) (type : ParcelType) (arguments : List Value) :
    Logged (UInt32 × Endpoint) := do
  let (token, e) ← e.start type
  let e ← Logged.foldl argue e arguments
  return (token, e)

/-- Arguments are written into the draft, and change nothing else. -/
theorem value_argueAll (e : Endpoint) (arguments : List Value) :
    (Logged.foldl argue e arguments).value
      = { e with draft := (e.draft.writeAll arguments).value } := by
  rw [Draft.writeAll, Logged.value_foldl, Logged.value_foldl]
  induction arguments generalizing e with
  | nil => rfl
  | cons argument arguments ih => exact ih (e.argue argument).value

/-- A request that is begun gets a token and is pending. -/
theorem value_start (e : Endpoint) (type : ParcelType) :
    ∃ draft, (e.start type).value
      = ((e.ledger.insert type).1,
          { e with draft := draft, ledger := (e.ledger.insert type).2 }) := by
  simp only [start, Logged.value_bind, Logged.value_pure]
  exact ⟨_, rfl⟩

/-- Its arguments do not matter for that. -/
theorem value_prepare (e : Endpoint) (type : ParcelType) (arguments : List Value) :
    ∃ draft, (e.prepare type arguments).value
      = ((e.ledger.insert type).1,
          { e with draft := draft, ledger := (e.ledger.insert type).2 }) := by
  obtain ⟨draft, hstart⟩ := e.value_start type
  refine ⟨(draft.writeAll arguments).value, ?_⟩
  simp only [prepare, Logged.value_bind, hstart, value_argueAll, Logged.value_pure]

/-- **A request that is sent is pending if the transport takes it.** If not, its token is taken
back. -/
theorem value_send (e : Endpoint) (type : ParcelType) (arguments : List Value)
    (transport : Transport τ) (wire : τ) :
    let (token, ledger) := e.ledger.insert type
    ∃ draft wire',
      (e.send type arguments transport wire).value
          = (.ok token, { e with draft := draft, ledger := ledger }, wire')
        ∨ ∃ cause, (e.send type arguments transport wire).value
          = (.error cause, { e with draft := draft, ledger := ledger.erase token }, wire') := by
  obtain ⟨draft, hprepare⟩ := e.value_prepare type arguments
  have hsend : (e.send type arguments transport wire).value
      = ((e.prepare type arguments).value.2.finish type (e.prepare type arguments).value.1
          transport wire).value := rfl
  rw [hsend, hprepare]
  simp only [finish, Logged.value_bind]
  refine ⟨draft.finish.2, (transport.send wire draft.finish.1).value.2, ?_⟩
  rcases (transport.send wire draft.finish.1).value with ⟨cause | ⟨⟩, wire'⟩
  · exact .inr ⟨cause, rfl⟩
  · exact .inl rfl

/-! ### Operations and what happens to tokens -/

/-- Something that is done to an endpoint. -/
inductive Operation where
  /-- A request is begun and given some arguments, but never finished. -/
  | abandon (type : ParcelType) (arguments : List Value)
  /-- A request is sent. -/
  | send (type : ParcelType) (arguments : List Value)
  /-- The decoders are changed. -/
  | equip (registry : Registry)
  /-- Bytes come in. -/
  | receive (chunk : Octets)

/-- Something that happens to a token, or may happen to one. -/
inductive Happening where
  /-- A token is given out to a request. -/
  | issued (token : UInt32) (type : ParcelType)
  /-- A token is taken back, since the transport refused the parcel. -/
  | withdrawn (token : UInt32)
  /-- A body is dispatched, and an event may be due. -/
  | arrived (body : Octets) (event? : Option Event)
  deriving DecidableEq

/-- A happening, and the requests that are pending right after it. -/
structure Entry where
  what : Happening
  pending : Ledger

/-- The entries for bodies that are dispatched one after the other. -/
def arrivals (registry : Registry) : Ledger → List Octets → List Entry
  | _, [] => []
  | ledger, body :: bodies =>
    let desk := Framer.digest (dispatch registry .attached) ⟨ledger, #[]⟩ body
    ⟨.arrived body desk.events[0]?, desk.ledger⟩ :: arrivals registry desk.ledger bodies

/-- The dispatch of a body draws its conclusion. -/
theorem arrivals_cons (registry : Registry) (ledger : Ledger) (body : Octets)
    (bodies : List Octets) :
    arrivals registry ledger (body :: bodies)
      = let c := conclude registry ledger body
        ⟨.arrived body c.2, c.1⟩ :: arrivals registry c.1 bodies := by
  simp only [arrivals, digest_dispatch]
  rcases (conclude registry ledger body).2 with - | event <;> simp

/-- An endpoint and its transport after some operations. -/
structure Course (τ : Type) where
  endpoint : Endpoint
  /-- The state of the transport. -/
  wire : τ
  /-- What has happened, first to last. -/
  history : List Entry := []
  /-- The events received, first to last. -/
  received : List Event := []

namespace Course

/-- The course of a fresh endpoint. -/
def fresh (config : Config) (wire : τ) : Course τ := { endpoint := ofConfig config, wire := wire }

/-- What has happened, without the pending requests. -/
def happenings (c : Course τ) : List Happening := c.history.map Entry.what

/-- One more operation. -/
def perform (transport : Transport τ) (c : Course τ) : Operation → Course τ
  | .abandon type arguments =>
    let (token, e) := (c.endpoint.prepare type arguments).value
    { c with endpoint := e, history := c.history ++ [⟨.issued token type, e.ledger⟩] }
  | .send type arguments =>
    let (token, begun) := (c.endpoint.prepare type arguments).value
    let (outcome, e, wire) := (c.endpoint.send type arguments transport c.wire).value
    let withdrawal : List Entry :=
      match outcome with
      | .ok _ => []
      | .error _ => [⟨.withdrawn token, e.ledger⟩]
    { c with
      endpoint := e
      wire := wire
      history := c.history ++ ⟨.issued token type, begun.ledger⟩ :: withdrawal }
  | .equip registry => { c with endpoint := { c.endpoint with registry := registry } }
  | .receive chunk =>
    let (e, events) := (c.endpoint.receive chunk).value
    { c with
      endpoint := e
      history := c.history
        ++ arrivals c.endpoint.registry c.endpoint.ledger (c.endpoint.framer.completed chunk)
      received := c.received ++ events }

/-- Operations, one after the other. -/
def performAll (transport : Transport τ) (c : Course τ) (operations : List Operation) : Course τ :=
  operations.foldl (perform transport) c

theorem performAll_concat (transport : Transport τ) (c : Course τ) (operations : List Operation)
    (operation : Operation) :
    c.performAll transport (operations ++ [operation])
      = (c.performAll transport operations).perform transport operation := by
  rw [performAll, List.foldl_append]
  rfl

/-! ### Every course stands at a place of its stream -/

/-- The framer of an endpoint has a valid ring. -/
def Stands (c : Course τ) : Prop :=
  c.endpoint.framer.StandsAt c.endpoint.framer.limit c.endpoint.framer.phase
    c.endpoint.framer.ring.contents

theorem stands_iff {c : Course τ} : c.Stands ↔ c.endpoint.framer.ring.Valid :=
  ⟨fun h ↦ h.valid, fun h ↦ ⟨h, rfl, rfl, rfl⟩⟩

theorem stands_perform (transport : Transport τ) {c : Course τ} (h : c.Stands)
    (operation : Operation) : (c.perform transport operation).Stands := by
  rw [stands_iff] at h ⊢
  cases operation with
  | abandon type arguments =>
    obtain ⟨draft, hprepare⟩ := c.endpoint.value_prepare type arguments
    simp only [perform, hprepare]
    exact h
  | send type arguments =>
    obtain ⟨draft, wire, hsend | ⟨cause, hsend⟩⟩ :=
      c.endpoint.value_send type arguments transport c.wire
    · simp only [perform, hsend]
      exact h
    · simp only [perform, hsend]
      exact h
  | equip registry => exact h
  | receive chunk =>
    obtain ⟨framer, hreceive, hstands⟩ := value_receive (stands_iff.2 h) chunk
    simp only [perform, hreceive]
    exact hstands.valid

/-- **Whatever has been done to it, an endpoint stands at a place of its stream.** -/
theorem stands_performAll (transport : Transport τ) (config : Config) (wire : τ)
    (operations : List Operation) :
    ((fresh config wire).performAll transport operations).Stands := by
  induction operations using List.reverseRecOn with
  | nil => exact stands_iff.2 (Ring.valid_ofCapacity config.incoming)
  | append_singleton operations operation ih =>
    rw [performAll_concat]
    exact stands_perform transport ih operation

end Course

end Endpoint

end ParcelLink
