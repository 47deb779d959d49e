import ParcelLink.Session.Turns

/-!
# What a session shows

All that those around a session see of it, apart from the bytes on the socket, is what its loop is
at, which requests wait, what requests came to, and which events there were. `Session.docket` is
these four, without the outbox and its journal, and each turn is one equation on it.

## Main definitions

* `Session.Docket`, `Session.docket`: what a session shows.
* `Session.told`: what those are told whose requests will never be taken.
-/

namespace ParcelLink.Session

/-- What a session shows. -/
structure Docket where
  /-- What the loop is at. -/
  phase : Phase
  /-- The requests that wait. -/
  requests : List Submission
  /-- What requests came to, in the order in which it was reported. -/
  outcomes : List (Nat × Except Fault UInt32)
  /-- The events received, first to last. -/
  events : List Event

/-- What a session shows. -/
def docket (s : Session) : Docket where
  phase := s.phase
  requests := s.requests
  outcomes := s.outcomes.toList
  events := s.events.toList

/-- What those are told who wait for requests that will never be taken. -/
def told (requests : List Submission) : List (Nat × Except Fault UInt32) :=
  (requests.filter (·.awaited)).map fun submission ↦ (submission.ticket, .error .connectionClosed)

theorem told_append (requests more : List Submission) :
    told (requests ++ more) = told requests ++ told more := by
  rw [told, List.filter_append, List.map_append]
  rfl

@[simp] theorem docket_noteAll (s : Session) (notices : Array Notice) :
    (s.noteAll notices).docket = s.docket := rfl

@[simp] theorem docket_note (s : Session) (notice : Notice) : (s.note notice).docket = s.docket :=
  rfl

theorem docket_report (s : Session) (ticket : Nat) (outcome : Except Fault UInt32) :
    (s.report ticket outcome).docket
      = { s.docket with outcomes := s.docket.outcomes ++ [(ticket, outcome)] } := by
  simp [docket, report]

/-! ### Requests -/

/-- A request waits, or is dismissed at once. -/
theorem docket_ask (s : Session) (ticket : Nat) (request : Request) :
    (s.ask ticket request).docket
      = if s.phase.accepts then
          { s.docket with requests := s.docket.requests ++ [⟨ticket, request, true⟩] }
        else
          { s.docket with
            outcomes := s.docket.outcomes ++ told [⟨ticket, request, true⟩] } := by
  unfold ask
  split
  · next hphase =>
    rw [if_pos (by rw [hphase]; rfl)]
    rfl
  · next hphase =>
    have hrefuses : s.phase.accepts = false := by
      rcases hcase : s.phase with ⟨endpoint, _ | _⟩ | _ | _ | _
      · rfl
      · exact absurd hcase (hphase endpoint)
      all_goals rfl
    rw [hrefuses, docket_report]
    rfl

/-! ### Turns of the loop -/

/-- What a request came to is reported if anybody waits for it, and the loop goes on. -/
theorem docket_serve (s : Session) (transport : Transport Outbox) (endpoint : Endpoint)
    (accepting : Bool) (submission : Submission) :
    let submitted := (endpoint.submit submission.request transport s.outbox).value
    (s.serve transport endpoint accepting submission).docket
      = { s.docket with
          phase := .serving submitted.2.1 accepting
          outcomes := s.docket.outcomes
            ++ if submission.awaited then [(submission.ticket, submitted.1)] else [] } := by
  unfold serve
  rcases endpoint.submit submission.request transport s.outbox with
    ⟨⟨cause | token, endpoint', outbox⟩, notices⟩ <;>
  · rcases hawaited : submission.awaited with - | -
    · simp [docket, noteAll, note]
    · simp [docket, noteAll, note, report]

theorem docket_takeBytes {s : Session} {endpoint : Endpoint} {accepting : Bool}
    (serving : s.phase = .serving endpoint accepting) (chunk : Octets) :
    (s.takeBytes chunk).docket
      = { s.docket with
          phase := .serving (endpoint.receive chunk).value.1 accepting
          events := s.docket.events ++ (endpoint.receive chunk).value.2 } := by
  unfold takeBytes
  rw [serving]
  simp [docket, noteAll]

/-- The loop takes no more requests, and goes on otherwise. -/
theorem docket_closeRequests (s : Session) :
    s.closeRequests.docket
      = { s.docket with
          phase := match s.phase with
            | .serving endpoint _ => .serving endpoint false
            | phase => phase } := by
  unfold closeRequests
  rcases hphase : s.phase with ⟨endpoint, _ | _⟩ | _ | _ | _
  · simp [docket, hphase]
  · simp [docket, note]
  all_goals simp [docket, hphase]

/-- The loop stops, and all who wait are told. -/
theorem docket_stop (s : Session) (phase : Phase) :
    (s.stop phase).docket
      = { s.docket with
          phase := phase
          requests := []
          outcomes := s.docket.outcomes ++ told s.requests } := by
  have hreports : ∀ (waiting : List Submission) (s : Session),
      (waiting.foldl (fun s r ↦ s.report r.ticket (.error .connectionClosed)) s).docket
        = { s.docket with
            outcomes := s.docket.outcomes
              ++ waiting.map fun r ↦ (r.ticket, .error .connectionClosed) } := by
    intro waiting
    induction waiting with
    | nil => intro s; simp
    | cons submission rest ih => intro s; simp [ih, docket_report]
  rw [stop, hreports]
  rfl

theorem docket_takeEnd {s : Session} {endpoint : Endpoint} {accepting : Bool}
    (serving : s.phase = .serving endpoint accepting) :
    s.takeEnd.docket
      = { s.docket with
          phase := .finished endpoint
          requests := []
          outcomes := s.docket.outcomes ++ told s.requests } := by
  rw [takeEnd, serving]
  exact docket_stop _ _

theorem docket_takeFailure {s : Session} {endpoint : Endpoint} {accepting : Bool}
    (serving : s.phase = .serving endpoint accepting) (cause : Fault) :
    (s.takeFailure cause).docket
      = { s.docket with
          phase := .failed cause
          requests := []
          outcomes := s.docket.outcomes ++ told s.requests } := by
  rw [takeFailure, serving]
  exact docket_stop _ _

theorem docket_takeCrash {s : Session} {endpoint : Endpoint} {accepting : Bool}
    (serving : s.phase = .serving endpoint accepting) :
    s.takeCrash.docket
      = { s.docket with
          phase := .crashed
          requests := []
          outcomes := s.docket.outcomes ++ told s.requests } := by
  rw [takeCrash, serving]
  exact docket_stop _ _

end ParcelLink.Session
