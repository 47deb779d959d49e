import ParcelLink.Endpoint

/-!
# What becomes of an incoming parcel

A parcel is read in two steps. First the reading decides what the parcel is, as a `Reception`: the
answer to a pending request, a notification, or something that has to be dropped. It depends on the
body, the pending requests and the registry alone. Then the reception says all that follows: which
request is settled, which event is due, and what goes into the log.

An answer settles its request as soon as the token is known, so what follows in its body cannot
bring the request back. Only an answer whose error code cannot be read, or whose type has no decoder,
settles a request without an event.

## Main definitions

* `Reception`, `Reception.reading`: what a parcel is, and how that is read.
* `Reception.settled?`, `Reception.event?`, `Reception.notices`: what follows from it.
* `Endpoint.receive`: take in a chunk of bytes.
-/

namespace ParcelLink

/-- What an incoming parcel turned out to be. -/
inductive Reception where
  /-- Its header cannot be read. -/
  | unreadable (cause : Fault)
  /-- An answer to no pending request. -/
  | unexpected (token : UInt32)
  /-- An answer to a request, but its error code cannot be read. -/
  | cutShort (token : UInt32) (cause : Fault)
  /-- An answer that reports an error. -/
  | refusal (request : ParcelType) (token error : UInt32)
  /-- An answer with a body, which has been decoded if its type has a decoder. -/
  | answer (request : ParcelType) (token : UInt32) (body : Option (Except Fault Payload))
  /-- A notification with a body, which has been decoded if its type has a decoder. -/
  | notification (type : ParcelType) (body : Option (Except Fault Payload))

namespace Reception

/-- Read an answer behind its token: the error code, and the body unless there is an error. -/
def answerReading (registry : Registry) (request : ParcelType) (token : UInt32) :
    Reading Reception := do
  match ← Decoder.u32.run with
  | .error cause => return cutShort token cause
  | .ok error =>
    if error ≠ 0 then return refusal request token error
    return answer request token (← registry.decode request)

/-- Read a parcel, given the types of the pending requests by their tokens. -/
def reading (request? : UInt32 → Option ParcelType) (registry : Registry) :
    Reading Reception := do
  match ← Header.decoder.run with
  | .error cause => return unreadable cause
  | .ok (.unsolicited type) => return notification type (← registry.decode type)
  | .ok (.solicited token) =>
    match request? token with
    | none => return unexpected token
    | some request => answerReading registry request token

/-- The token of the request that is settled. -/
def settled? : Reception → Option UInt32
  | unreadable _ | unexpected _ | notification .. => none
  | cutShort token _ | refusal _ token _ | answer _ token _ => some token

/-- The event that is due. -/
def event? : Reception → Option Event
  | unreadable _ | unexpected _ | cutShort .. => none
  | refusal request token error => some (.requestFailed request token error)
  | answer request token body =>
    body.map fun
      | .ok payload => .response request token payload
      | .error cause => .responseMalformed request token cause.message
  | notification type (some (.ok payload)) => some (.notification type payload)
  | notification .. => none

/-- What the log says about the decoding of a body. -/
def bodyNotices (type : ParcelType) : Option (Except Fault Payload) → Array Notice
  | none => #[.undecoded type]
  | some (.error cause) => #[.decodingFailed type cause]
  | some (.ok _) => #[]

/-- What the log says about a parcel. -/
def notices : Reception → Array Notice
  | unreadable cause => #[.parcelDropped cause]
  | unexpected token => #[.parcelDropped (.unknownToken token)]
  | cutShort token cause => #[.answerDropped token cause]
  | refusal request token error => #[.requestFailed error request token]
  | answer request token body => #[.answered request token] ++ bodyNotices request body
  | notification type body => #[.notified type] ++ bodyNotices type body

end Reception

namespace Endpoint

/-- What incoming parcels change: the pending requests, and the events received so far. -/
structure Desk where
  /-- The requests that wait for an answer. -/
  ledger : Ledger
  /-- The events received, first to last. -/
  events : Array Event := #[]

/-- The requests that wait for an answer behind a reception. -/
def settle (ledger : Ledger) (reception : Reception) : Ledger :=
  match reception.settled? with
  | none => ledger
  | some token => ledger.erase token

/-- What follows from a reception. -/
def Desk.take (desk : Desk) (sink : Sink) (reception : Reception) : Logged Desk :=
  let received : Logged (Option Event) :=
    match reception.event? with
    | none => pure none
    | some event => sink.deliver event
  { value := ⟨settle desk.ledger reception, desk.events ++ received.value.toArray⟩
    notices := reception.notices ++ received.notices }

/-- Read a parcel and do what follows from it. -/
def dispatch (registry : Registry) (sink : Sink) (desk : Desk) : Reading (Logged Desk) :=
  desk.take sink <$> Reception.reading desk.ledger.type? registry

/-- Take in bytes. Gives the events that were received from the parcels they complete. -/
def receive (e : Endpoint) (chunk : Octets) : Logged (Endpoint × List Event) := do
  let (framer, desk, _) ← e.framer.push chunk (dispatch e.registry e.sink) ⟨e.ledger, #[]⟩
  return ({ e with framer := framer, ledger := desk.ledger }, desk.events.toList)

end Endpoint

end ParcelLink
