import ParcelLink.Endpoint.Reception
import ParcelLink.Endpoint.Submission
import ParcelLink.Outbox.Schedule

/-!
# Sessions

A session runs an endpoint on a socket. A single loop serves both directions, one thing at a time:
bytes that have arrived are given to the endpoint, and requests are submitted in the order in which
they were made, their parcels offered to an outbox that writes them. Whatever a request comes to, a
token or a cause, is reported to whoever made it. A refused parcel does not stop the loop; only the
end of the stream does, or a failure to read from it, and then the requests that the loop has not
taken are told that the connection is closed.

Notices go into the journal of the outbox, where those of its carrier stand as well, so that there is
one log.

## Main definitions

* `Session`, `Session.Phase`: the loop, what waits for it, and what it has given.
* `Session.ask`, `Session.forsake`: what those who make requests do.
* `Session.takeRequest`, `Session.takeBytes`, `Session.takeEnd`, `Session.takeFailure`,
  `Session.closeRequests`: the turns of the loop.
* `Session.settle`: the loop and the carrier go on until both wait.
* `Session.send`, `Session.abandon`, `Session.feed`, `Session.shutdown`: a turn and what it leads to.
-/

namespace ParcelLink

/-- The way of parcels into an outbox. -/
def Outbox.transport : Transport Outbox := ⟨fun o parcel ↦ pure (o.offer parcel)⟩

namespace Session

/-- How many bytes are read at a time at most. -/
def readLimit : Nat := 64 * 1024

/-- A request on its way to the endpoint. -/
structure Submission where
  /-- What tells submissions apart. -/
  ticket : Nat
  /-- The request. -/
  request : Request
  /-- Whether anybody waits for what it comes to. -/
  awaited : Bool := true

/-- What the loop of a session is at. -/
inductive Phase where
  /-- It serves the endpoint, and still takes requests or not. -/
  | serving (endpoint : Endpoint) (accepting : Bool)
  /-- The peer closed the connection. -/
  | finished (endpoint : Endpoint)
  /-- Reading failed. -/
  | failed (cause : Fault)
  /-- The loop stopped without an outcome. -/
  | crashed

end Session

/-- An endpoint that runs on a socket. -/
structure Session where
  /-- What the loop is at. -/
  phase : Session.Phase
  /-- The requests that it has not taken yet. -/
  requests : List Session.Submission := []
  /-- What requests came to, by their tickets, in the order in which it was reported. -/
  outcomes : Array (Nat × Except Fault UInt32) := #[]
  /-- The events received, first to last. -/
  events : Array Event := #[]
  /-- The parcels on their way out. -/
  outbox : Outbox

namespace Session

/-- A session in which nothing has happened. -/
def start (endpoint : Endpoint.Config) (outbox : Outbox.Config) : Session :=
  { phase := .serving (Endpoint.ofConfig { endpoint with sink := .attached }) true
    outbox := Outbox.ofConfig outbox }

/-- Whether no more events can come. A session whose peer closed the connection keeps the endpoint,
and with it the way on which events come. -/
def eventsEnded (s : Session) : Bool :=
  match s.phase with
  | .serving .. | .finished _ => false
  | .failed _ | .crashed => true

/-- What a request came to. -/
def outcome? (s : Session) (ticket : Nat) : Option (Except Fault UInt32) :=
  (s.outcomes.find? (·.1 = ticket)).map (·.2)

/-- Give notices. -/
def noteAll (s : Session) (notices : Array Notice) : Session :=
  { s with outbox := notices.foldl Outbox.note s.outbox }

/-- Give a notice. -/
def note (s : Session) (notice : Notice) : Session := { s with outbox := s.outbox.note notice }

/-! ### Requests -/

/-- Report what a request came to. -/
def report (s : Session) (ticket : Nat) (outcome : Except Fault UInt32) : Session :=
  { s with outcomes := s.outcomes.push (ticket, outcome) }

/-- Make a request. If the loop takes no more requests it is over at once. -/
def ask (s : Session) (ticket : Nat) (request : Request) : Session :=
  match s.phase with
  | .serving _ true => { s with requests := s.requests ++ [⟨ticket, request, true⟩] }
  | _ => s.report ticket (.error .connectionClosed)

/-- Go away without waiting for what a request comes to. The request stays. -/
def forsake (s : Session) (ticket : Nat) : Session :=
  { s with
    requests := s.requests.map fun r ↦ if r.ticket = ticket then { r with awaited := false } else r }

/-! ### Turns of the loop -/

/-- The loop submits a request and reports what it comes to, if anybody waits for that. -/
def serve (s : Session) (transport : Transport Outbox) (endpoint : Endpoint) (accepting : Bool)
    (submission : Submission) : Session :=
  let ⟨(outcome, endpoint, outbox), notices⟩ :=
    endpoint.submit submission.request transport s.outbox
  let s := { s with phase := .serving endpoint accepting, outbox := outbox }.noteAll notices
  let s :=
    match outcome with
    | .ok _ => s
    | .error cause => s.note (.submissionFailed submission.request.describe cause)
  if submission.awaited then s.report submission.ticket outcome
  else s.note (.submitterGone submission.request.describe)

/-- The loop takes the first request, if there is one. -/
def takeRequest (s : Session) : Session :=
  match s.phase, s.requests with
  | .serving endpoint accepting, submission :: rest =>
    { s with requests := rest }.serve Outbox.transport endpoint accepting submission
  | _, _ => s

/-- The loop takes bytes that have arrived. -/
def takeBytes (s : Session) (chunk : Octets) : Session :=
  match s.phase with
  | .serving endpoint accepting =>
    let ⟨(endpoint, events), notices⟩ := endpoint.receive chunk
    { s with
      phase := .serving endpoint accepting
      events := s.events ++ events.toArray }.noteAll notices
  | _ => s

/-- The loop takes no more requests. -/
def closeRequests (s : Session) : Session :=
  match s.phase with
  | .serving endpoint true => { s with phase := .serving endpoint false }.note .requestsClosed
  | _ => s

/-- The loop stops, and the requests that it has not taken are over. -/
def stop (s : Session) (phase : Phase) : Session :=
  (s.requests.filter (·.awaited)).foldl (fun s r ↦ s.report r.ticket (.error .connectionClosed))
    { s with phase := phase, requests := [] }

/-- The loop finds the end of the stream. -/
def takeEnd (s : Session) : Session :=
  match s.phase with
  | .serving endpoint _ => (s.note (.streamEnded endpoint.pendingRequests)).stop (.finished endpoint)
  | _ => s

/-- The loop cannot read from the stream. -/
def takeFailure (s : Session) (cause : Fault) : Session :=
  match s.phase with
  | .serving .. => (s.note (.readFailed cause)).stop (.failed cause)
  | _ => s

/-- The loop stops dead while reading. -/
def takeCrash (s : Session) : Session :=
  match s.phase with
  | .serving .. => s.stop .crashed
  | _ => s

/-! ### Whole steps -/

/-- The loop takes all requests there are, and then those in the outbox have their turns. -/
def settle (s : Session) (socket : Socket) : Session :=
  let s := s.requests.foldl (fun s _ ↦ s.takeRequest) s
  { s with outbox := s.outbox.settle socket }

/-- Make a request and wait for what it comes to. -/
def send (s : Session) (socket : Socket) (ticket : Nat) (request : Request) :
    Option (Except Fault UInt32) × Session :=
  let s := (s.ask ticket request).settle socket
  (s.outcome? ticket, s)

/-- Make a request and go away at once. Gives whether the request was over before that. -/
def abandon (s : Session) (socket : Socket) (ticket : Nat) (request : Request) : Bool × Session :=
  let s := s.ask ticket request
  ((s.outcome? ticket).isSome, (s.forsake ticket).settle socket)

/-- Bytes arrive, and are read as many at a time as can be. A read that gives no bytes is what the end
of the stream looks like, so no bytes are the end. -/
def feed (s : Session) (socket : Socket) (bytes : Octets) : Session :=
  if bytes.isEmpty then s.takeEnd.settle socket
  else ((Octets.pieces readLimit bytes).foldl takeBytes s).settle socket

/-- The socket may have changed its mind about what is to be written. -/
def retry (s : Session) (socket : Socket) : Session :=
  { s with outbox := s.outbox.retry }.settle socket

/-- Let go of the outbox, which offers no more parcels. -/
def letGo (s : Session) (socket : Socket) : Session :=
  { s with outbox := s.outbox.letGo }.settle socket

/-- Make no more requests and wait for the loop to stop. Gives the endpoint or what stopped the loop;
there is nothing to give, and no end of waiting, while the peer keeps the connection. When the wait
is over nobody is left to offer a parcel. -/
def shutdown (s : Session) (socket : Socket) : Option (Except Fault Endpoint) × Session :=
  let s := s.closeRequests
  match s.phase with
  | .serving .. => (none, s.settle socket)
  | .finished endpoint => (some (.ok endpoint), s.letGo socket)
  | .failed cause => (some (.error cause), s.letGo socket)
  | .crashed => (some (.error .connectionClosed), s.letGo socket)

end Session

end ParcelLink
