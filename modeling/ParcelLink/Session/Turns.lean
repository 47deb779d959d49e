import ParcelLink.Outbox.Traffic
import ParcelLink.Session

/-!
# Turns of a session, in any order

`Session.settle` lets the loop take all requests first and then those in the outbox have their
turns. What holds of a session should hang neither on that order nor on when bytes arrive, when
requests are made, or when those who made them go away. So here are the steps one by one:
`Session.Service.Step` lets the loop take whatever there is, in any order, and the outbox move on
at any time, even while a parcel is on its way into it.

The requests stand in no order. A few of them fit into a queue and the others wait to get into it,
so that a request can overtake another, and is gone for good if its maker goes away before it is
queued.

The outbox of a session belongs to the loop: nobody else offers parcels to it or waits to send one.
What hangs on that is said of the steps of `Session.Service.StepAlone`.

## Main definitions

* `Session.Service`: a session, with what was asked of it and which turns its loop has taken.
* `Session.Service.Step`, `Session.Service.Runs`: one step of anybody, and steps one after the
  other.
* `Session.Service.StepAlone`, `Session.Service.RunsAlone`: the same, while nobody else makes calls
  on the outbox.
* `Outbox.Traffic.Offers`, `Outbox.Traffic.OffersAlone`: how an offer may come out.
-/

namespace ParcelLink

/-- A transport that gives an answer to whatever it is sent, and then is in a state. -/
def Transport.answering {τ : Type} (answer : Except Fault Unit) (state : τ) : Transport τ :=
  ⟨fun _ _ ↦ pure (answer, state)⟩

/-- The parcel that a request puts on the wire: what a transport gets that keeps it. -/
def Endpoint.outgoing (e : Endpoint) (request : Request) : Octets :=
  (e.submit request ⟨fun _ parcel ↦ pure (.ok (), parcel)⟩ []).value.2.2

namespace Outbox.Traffic

/-- An offer of a parcel may come out so, and the outbox be another one then. Between the two others
may make steps. -/
def Offers (sockets : Socket → Prop) (o : Outbox) (parcel : Octets) (outcome : Except Fault Unit)
    (o' : Outbox) : Prop :=
  ∀ t : Traffic, t.outbox = o → t.guests = [] →
    ∃ t', Runs sockets (t.offer parcel) t' ∧ t'.outbox = o' ∧ t'.guests = []
      ∧ (t.calls.length, outcome) ∈ t'.returned

/-- An offer of a parcel may come out so, and the outbox be another one then. Between the two others
may make steps, but nobody makes another call. -/
def OffersAlone (sockets : Socket → Prop) (o : Outbox) (parcel : Octets)
    (outcome : Except Fault Unit) (o' : Outbox) : Prop :=
  ∀ t : Traffic, t.outbox = o → t.guests = [] →
    ∃ t', Runs sockets (t.offer parcel) t' ∧ t'.outbox = o' ∧ t'.guests = []
      ∧ t'.calls = t.calls ++ [parcel] ∧ (t.calls.length, outcome) ∈ t'.returned

theorem OffersAlone.offers {sockets : Socket → Prop} {o o' : Outbox} {parcel : Octets}
    {outcome : Except Fault Unit} (h : OffersAlone sockets o parcel outcome o') :
    Offers sockets o parcel outcome o' := by
  intro t ho hguests
  obtain ⟨t', hruns, ho', hguests', -, hreturned⟩ := h t ho hguests
  exact ⟨t', hruns, ho', hguests', hreturned⟩

/-- An offer may come out as it does when nobody makes a step meanwhile. -/
theorem offersAlone_offer {sockets : Socket → Prop} (o : Outbox) (parcel : Octets) :
    OffersAlone sockets o parcel (o.offer parcel).1 (o.offer parcel).2 := by
  rintro t rfl hguests
  refine ⟨t.offerNow parcel, t.runs_offer parcel hguests, rfl, hguests, rfl, ?_⟩
  exact List.mem_append_right _ (List.mem_singleton.2 rfl)

theorem offers_offer {sockets : Socket → Prop} (o : Outbox) (parcel : Octets) :
    Offers sockets o parcel (o.offer parcel).1 (o.offer parcel).2 :=
  (offersAlone_offer o parcel).offers

end Outbox.Traffic

namespace Session

variable {sockets : Socket → Prop}

/-- Whether requests are taken. -/
def Phase.accepts : Phase → Bool
  | .serving _ accepting => accepting
  | .finished _ | .failed _ | .crashed => false

/-- What tells a request from others, and the request. -/
def Submission.entry (submission : Submission) : Nat × Request :=
  (submission.ticket, submission.request)

/-- A turn of the loop that does something to its endpoint. -/
inductive Turn where
  /-- A request is submitted, and its parcel gets an answer from the outbox. -/
  | request (submission : Submission) (answer : Except Fault Unit)
  /-- Bytes are read. -/
  | bytes (chunk : Octets)

/-- A session, with what was asked of it and what its loop has done. -/
structure Service where
  session : Session
  /-- The requests that were made, in order, by their tickets. -/
  asked : List (Nat × Request) := []
  /-- The requests that went away before they were queued. -/
  withdrawn : List (Nat × Request) := []
  /-- The turns of the loop, first to last. -/
  turns : List Turn := []
  /-- The requests that the loop will never take, since they came too late or were left over. -/
  dismissed : List Submission := []

namespace Service

/-- A session in which nothing has happened. -/
def start (endpoint : Endpoint.Config) (outbox : Outbox.Config) : Service :=
  { session := Session.start endpoint outbox }

/-- A request is made. -/
def ask (v : Service) (ticket : Nat) (request : Request) : Service :=
  { v with
    session := v.session.ask ticket request
    asked := v.asked ++ [(ticket, request)]
    dismissed := v.dismissed
      ++ if v.session.phase.accepts then [] else [⟨ticket, request, true⟩] }

/-- The loop has taken a request, left others, and submitted it. Its parcel gets an answer, and then
the outbox is another one. -/
def submit (v : Service) (endpoint : Endpoint) (accepting : Bool) (left : List Submission)
    (submission : Submission) (answer : Except Fault Unit) (o : Outbox) : Service :=
  { v with
    session := { v.session with requests := left }.serve (.answering answer o) endpoint accepting
      submission
    turns := v.turns ++ [.request submission answer] }

/-- The loop has read bytes. -/
def read (v : Service) (chunk : Octets) : Service :=
  { v with session := v.session.takeBytes chunk, turns := v.turns ++ [.bytes chunk] }

/-- The loop has stopped, and the requests that are left over are dismissed. -/
def stop (v : Service) (stopped : Session) : Service :=
  { v with session := stopped, dismissed := v.dismissed ++ v.session.requests }

/-- One step, by anybody who can make one. -/
inductive Step (sockets : Socket → Prop) : Service → Service → Prop where
  /-- A request is made. -/
  | ask (v : Service) (ticket : Nat) (request : Request) (fresh : ticket ∉ v.asked.map Prod.fst) :
    Step sockets v (v.ask ticket request)
  /-- Whoever made a request goes away, and the request stays. -/
  | forsake (v : Service) (ticket : Nat) :
    Step sockets v { v with session := v.session.forsake ticket }
  /-- Whoever made a request goes away before it is queued. -/
  | withdraw {v : Service} {before after : List Submission} {submission : Submission}
    (waits : v.session.requests = before ++ submission :: after) :
    Step sockets v { v with
      session := { v.session with requests := before ++ after }
      withdrawn := v.withdrawn ++ [submission.entry] }
  /-- The loop takes a request. -/
  | take {v : Service} {endpoint : Endpoint} {accepting : Bool} {before after : List Submission}
    {submission : Submission} {answer : Except Fault Unit} {o : Outbox}
    (serving : v.session.phase = .serving endpoint accepting)
    (waits : v.session.requests = before ++ submission :: after)
    (sent : Outbox.Traffic.Offers sockets v.session.outbox (endpoint.outgoing submission.request)
      answer o) :
    Step sockets v (v.submit endpoint accepting (before ++ after) submission answer o)
  /-- The loop reads bytes. -/
  | read {v : Service} {endpoint : Endpoint} {accepting : Bool} {chunk : Octets}
    (serving : v.session.phase = .serving endpoint accepting) (some_byte : chunk ≠ [])
    (le_readLimit : chunk.length ≤ readLimit) : Step sockets v (v.read chunk)
  /-- The loop finds that there are no more requests, and that there will be none. -/
  | close {v : Service} (none_left : v.session.requests = []) :
    Step sockets v { v with session := v.session.closeRequests }
  /-- The loop finds the end of the stream. -/
  | finish {v : Service} {endpoint : Endpoint} {accepting : Bool}
    (serving : v.session.phase = .serving endpoint accepting) :
    Step sockets v (v.stop v.session.takeEnd)
  /-- The loop cannot read from the stream. -/
  | fail {v : Service} {endpoint : Endpoint} {accepting : Bool}
    (serving : v.session.phase = .serving endpoint accepting) (cause : Fault) :
    Step sockets v (v.stop (v.session.takeFailure cause))
  /-- The loop stops dead while reading. -/
  | crash {v : Service} {endpoint : Endpoint} {accepting : Bool}
    (serving : v.session.phase = .serving endpoint accepting) :
    Step sockets v (v.stop v.session.takeCrash)
  /-- The outbox moves on. -/
  | progress {v : Service} {o : Outbox}
    (leads : Outbox.Traffic.Leads sockets v.session.outbox o) :
    Step sockets v { v with session := { v.session with outbox := o } }

/-- Some steps, one after the other. -/
abbrev Runs (sockets : Socket → Prop) : Service → Service → Prop :=
  Relation.ReflTransGen (Step sockets)

/-- The loop takes no request, and the outbox has nothing but notices of what is done. -/
structure Beside (v v' : Service) : Prop where
  untaken : ∀ submission answer, v'.turns ≠ v.turns ++ [.request submission answer]
  noted : ∃ notices : Array Notice,
    v'.session.outbox = notices.foldl Outbox.note v.session.outbox

/-- One step, by anybody who can make one, while the loop is the only one who makes calls on the
outbox. -/
inductive StepAlone (sockets : Socket → Prop) : Service → Service → Prop where
  /-- The loop takes a request. -/
  | take {v : Service} {endpoint : Endpoint} {accepting : Bool} {before after : List Submission}
    {submission : Submission} {answer : Except Fault Unit} {o : Outbox}
    (serving : v.session.phase = .serving endpoint accepting)
    (waits : v.session.requests = before ++ submission :: after)
    (sent : Outbox.Traffic.OffersAlone sockets v.session.outbox
      (endpoint.outgoing submission.request) answer o) :
    StepAlone sockets v (v.submit endpoint accepting (before ++ after) submission answer o)
  /-- The outbox moves on. -/
  | progress {v : Service} {o : Outbox}
    (leads : Outbox.Traffic.LeadsAlone sockets v.session.outbox o) :
    StepAlone sockets v { v with session := { v.session with outbox := o } }
  /-- Anything else is done. -/
  | aside {v v' : Service} (step : Step sockets v v') (beside : Beside v v') :
    StepAlone sockets v v'

/-- Some steps, one after the other, while the loop is the only one who makes calls on the outbox. -/
abbrev RunsAlone (sockets : Socket → Prop) : Service → Service → Prop :=
  Relation.ReflTransGen (StepAlone sockets)

theorem StepAlone.step {v v' : Service} (h : StepAlone sockets v v') : Step sockets v v' := by
  cases h with
  | take serving waits sent => exact .take serving waits sent.offers
  | progress leads => exact .progress leads.leads
  | aside step => exact step

end Service

end Session

end ParcelLink
