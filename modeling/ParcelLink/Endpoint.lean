import ParcelLink.Event.Describe
import ParcelLink.Framer
import ParcelLink.Ledger
import ParcelLink.Registry
import ParcelLink.Request

/-!
# The endpoint

Our end of the link holds everything that a conversation with the modem needs: the framer of
incoming bytes, the draft of outgoing parcels, the ledger of pending requests, the registry of
decoders, and a sink for events. What it does with incoming bytes is in `Endpoint.Reception`, how
requests leave it in `Endpoint.Submission`.
-/

namespace ParcelLink

/-! ### Sinks -/

/-- Where events go. -/
inductive Sink where
  /-- To a receiver. -/
  | attached
  /-- To a receiver that is gone: they are dropped with a warning. -/
  | abandoned
  /-- Nowhere: they are only shown in the log. -/
  | absent
  deriving DecidableEq, Repr

/-- Hand an event to a sink; what is received, if anything. -/
def Sink.deliver (sink : Sink) (event : Event) : Logged (Option Event) :=
  match sink with
  | attached => pure (some event)
  | abandoned => ⟨none, #[.receiverGone event.type.name?]⟩
  | absent => ⟨none, #[.noReceiver event.describe]⟩

/-! ### Endpoints -/

/-- Our end of the link. -/
structure Endpoint where
  /-- Incoming bytes on their way into parcels. -/
  framer : Framer
  /-- The outgoing parcel. -/
  draft : Draft
  /-- The requests that wait for an answer. -/
  ledger : Ledger
  /-- The decoders of bodies. -/
  registry : Registry
  /-- Where events go. -/
  sink : Sink

/-- How an endpoint is set up. -/
structure Endpoint.Config where
  /-- The first capacity of the ring of incoming bytes. -/
  incoming : Nat := Framer.defaultCapacity
  /-- The first capacity of the draft of outgoing parcels. -/
  outgoing : Nat := Draft.defaultCapacity
  /-- The largest size of an incoming parcel that is believed. -/
  limit : Nat := Framer.defaultLimit
  /-- The decoders of bodies. -/
  registry : Registry := Registry.standard
  /-- Where events go. -/
  sink : Sink := .attached

/-- Whether an endpoint can be set up so: both of its buffers can be had. -/
def Endpoint.Config.isPossible (config : Endpoint.Config) : Bool :=
  Capacity.admits config.incoming && Capacity.admits config.outgoing

namespace Endpoint

/-- A fresh endpoint. -/
def ofConfig (config : Config) : Endpoint :=
  { framer := Framer.ofCapacity config.incoming config.limit
    draft := Draft.ofCapacity config.outgoing
    ledger := {}
    registry := config.registry
    sink := config.sink }

/-- How many requests wait for an answer. -/
def pendingRequests (e : Endpoint) : Nat := e.ledger.size

/-- How many bytes have been received but not yet framed. -/
def bufferedBytes (e : Endpoint) : Nat := e.framer.pending

/-- The capacity of the ring of incoming bytes. -/
def incomingCapacity (e : Endpoint) : Nat := e.framer.ring.capacity

/-- The capacity of the draft of outgoing parcels. -/
def outgoingCapacity (e : Endpoint) : Nat := e.draft.capacity

/-! ### The endpoint as the log shows it -/

/-- What a framer waits for. -/
def describePhase : Framer.Phase → String
  | .awaitingSize => "AwaitingSize"
  | .awaitingBody size => Text.fielded "AwaitingBody" [("size", toString size)]

/-- The pending requests, as types by their tokens. -/
def describePending (pending : Keyed UInt32) : String :=
  "\x7b" ++ ", ".intercalate (pending.pairs.map fun (token, type) ↦ s!"{token}: {type}") ++ "\x7d"

/-- An endpoint, as far as it is shown. -/
def describe (e : Endpoint) : String :=
  let ring := Text.fielded "InboundBuffer"
    [("bytes", Text.listed (e.framer.ring.bytes.toList.map toString)),
      ("write_index", toString e.framer.ring.writeIndex),
      ("read_index", toString e.framer.ring.readIndex),
      ("unread", toString e.framer.ring.unread)]
  let framer := Text.fielded "ParcelFramer"
    [("buffer", ring), ("state", describePhase e.framer.phase),
      ("max_parcel_size", toString e.framer.limit)]
  let ledger := Text.fielded "CorrelationTable"
    [("pending", describePending e.ledger.pending), ("next_token", toString e.ledger.nextToken)]
  "Engine \x7b framer: " ++ framer ++ ", outgoing: " ++ toString e.draft.length ++ ", table: "
    ++ ledger ++ ", registry: " ++ e.registry.describe ++ ", .. \x7d"

end Endpoint

end ParcelLink
