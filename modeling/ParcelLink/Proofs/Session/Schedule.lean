import ParcelLink.Proofs.Endpoint.Answers

/-!
# A session as it is run makes steps

The functions that run a session take turns in one order: all requests, then those in the outbox.
Whatever they do is made of the steps that anybody may make (`Session.Leads`), so a law about all
runs of such steps is a law about them. Only the loop makes calls on the outbox meanwhile.

## Main definitions

* `Session.Leads`: that the steps lead from one session to another.
-/

namespace ParcelLink.Session

variable {sockets : Socket → Prop}

/-- What the loop does with a request depends on what the transport does with its parcel. -/
theorem serve_congr {s : Session} {transport transport' : Transport Outbox} {endpoint : Endpoint}
    {submission : Submission}
    (h : transport.send s.outbox (endpoint.outgoing submission.request)
      = transport'.send s.outbox (endpoint.outgoing submission.request)) (accepting : Bool) :
    s.serve transport endpoint accepting submission
      = s.serve transport' endpoint accepting submission := by
  unfold serve
  rw [Endpoint.submit_congr h]

/-- Steps lead from one session to another, whatever was asked before, and nobody but the loop makes
calls on the outbox. -/
def Leads (sockets : Socket → Prop) (s s' : Session) : Prop :=
  ∀ v : Service, v.session = s → ∃ v', Service.RunsAlone sockets v v' ∧ v'.session = s'

namespace Leads

theorem refl (s : Session) : Leads sockets s s := fun v hv ↦ ⟨v, .refl, hv⟩

theorem trans {s₁ s₂ s₃ : Session} (h₁ : Leads sockets s₁ s₂) (h₂ : Leads sockets s₂ s₃) :
    Leads sockets s₁ s₃ := by
  intro v hv
  obtain ⟨v₂, hruns, hv₂⟩ := h₁ v hv
  obtain ⟨v₃, hruns', hv₃⟩ := h₂ v₂ hv₂
  exact ⟨v₃, hruns.trans hruns', hv₃⟩

/-- The outbox moves on. -/
theorem of_outbox (s : Session) {o : Outbox} (h : Outbox.Traffic.LeadsAlone sockets s.outbox o) :
    Leads sockets s { s with outbox := o } := by
  rintro v rfl
  exact ⟨_, .single (.progress h), rfl⟩

end Leads

/-! ### Steps beside the outbox -/

theorem outbox_stop (s : Session) (phase : Phase) : (s.stop phase).outbox = s.outbox := by
  have hreports : ∀ (waiting : List Submission) (s : Session),
      (waiting.foldl (fun s r ↦ s.report r.ticket (.error .connectionClosed)) s).outbox
        = s.outbox := by
    intro waiting
    induction waiting with
    | nil => exact fun s ↦ rfl
    | cons submission rest ih => exact fun s ↦ ih _
  exact hreports _ _

namespace Service

/-- The loop has no turn, and notices are given. -/
theorem beside_of_turns {v v' : Service} (hturns : v'.turns = v.turns) (notices : Array Notice)
    (houtbox : v'.session.outbox = notices.foldl Outbox.note v.session.outbox) : Beside v v' :=
  ⟨fun submission answer h ↦ by simp [hturns] at h, notices, houtbox⟩

theorem beside_ask (v : Service) (ticket : Nat) (request : Request) :
    Beside v (v.ask ticket request) := by
  refine beside_of_turns rfl #[] ?_
  show (v.session.ask ticket request).outbox = _
  unfold Session.ask
  split <;> rfl

theorem beside_read {v : Service} {endpoint : Endpoint} {accepting : Bool}
    (serving : v.session.phase = .serving endpoint accepting) (chunk : Octets) :
    Beside v (v.read chunk) := by
  refine ⟨fun submission answer h ↦ ?_, (endpoint.receive chunk).notices, ?_⟩
  · have hlast := List.append_cancel_left h
    cases hlast
  · show (v.session.takeBytes chunk).outbox = _
    rw [takeBytes, serving]
    rfl

theorem beside_close (v : Service) :
    Beside v { v with session := v.session.closeRequests } := by
  rcases hphase : v.session.phase with ⟨endpoint, _ | _⟩ | _ | _ | _
  case serving.true =>
    refine beside_of_turns rfl #[.requestsClosed] ?_
    simp only [closeRequests, hphase]
    rfl
  all_goals
    refine beside_of_turns rfl #[] ?_
    simp only [closeRequests, hphase]
    rfl

/-- The loop stops, and gives some notices before that. -/
theorem beside_stop (v : Service) (notices : Array Notice) (phase : Phase) :
    Beside v (v.stop ((v.session.noteAll notices).stop phase)) :=
  beside_of_turns rfl notices (outbox_stop _ _)

theorem beside_finish {v : Service} {endpoint : Endpoint} {accepting : Bool}
    (serving : v.session.phase = .serving endpoint accepting) :
    Beside v (v.stop v.session.takeEnd) := by
  rw [takeEnd, serving]
  exact v.beside_stop #[.streamEnded endpoint.pendingRequests] _

theorem beside_fail {v : Service} {endpoint : Endpoint} {accepting : Bool}
    (serving : v.session.phase = .serving endpoint accepting) (cause : Fault) :
    Beside v (v.stop (v.session.takeFailure cause)) := by
  rw [takeFailure, serving]
  exact v.beside_stop #[.readFailed cause] _

theorem beside_crash {v : Service} {endpoint : Endpoint} {accepting : Bool}
    (serving : v.session.phase = .serving endpoint accepting) :
    Beside v (v.stop v.session.takeCrash) := by
  rw [takeCrash, serving]
  exact v.beside_stop #[] _

end Service

/-! ### Turns of the loop -/

theorem leads_takeRequest (s : Session) : Leads sockets s s.takeRequest := by
  unfold takeRequest
  split
  · next endpoint accepting submission rest hphase hrequests =>
    rintro v rfl
    refine ⟨_, .single (@Service.StepAlone.take sockets v endpoint accepting [] rest submission _ _
      hphase hrequests (Outbox.Traffic.offersAlone_offer _ _)), ?_⟩
    exact serve_congr (s := { v.session with requests := rest }) rfl accepting
  · exact .refl s

theorem leads_takeBytes (s : Session) {chunk : Octets} (hsome : chunk ≠ [])
    (hle : chunk.length ≤ readLimit) : Leads sockets s (s.takeBytes chunk) := by
  rintro v rfl
  rcases hphase : v.session.phase with ⟨endpoint, accepting⟩ | _ | _ | _
  · exact ⟨_, .single (.aside (.read hphase hsome hle) (Service.beside_read hphase chunk)), rfl⟩
  all_goals exact ⟨v, .refl, by rw [takeBytes, hphase]⟩

theorem leads_takeEnd (s : Session) : Leads sockets s s.takeEnd := by
  rintro v rfl
  rcases hphase : v.session.phase with ⟨endpoint, accepting⟩ | _ | _ | _
  · exact ⟨_, .single (.aside (.finish hphase) (Service.beside_finish hphase)), rfl⟩
  all_goals exact ⟨v, .refl, by rw [takeEnd, hphase]⟩

theorem leads_takeFailure (s : Session) (cause : Fault) :
    Leads sockets s (s.takeFailure cause) := by
  rintro v rfl
  rcases hphase : v.session.phase with ⟨endpoint, accepting⟩ | _ | _ | _
  · exact ⟨_, .single (.aside (.fail hphase cause) (Service.beside_fail hphase cause)), rfl⟩
  all_goals exact ⟨v, .refl, by rw [takeFailure, hphase]⟩

theorem leads_takeCrash (s : Session) : Leads sockets s s.takeCrash := by
  rintro v rfl
  rcases hphase : v.session.phase with ⟨endpoint, accepting⟩ | _ | _ | _
  · exact ⟨_, .single (.aside (.crash hphase) (Service.beside_crash hphase)), rfl⟩
  all_goals exact ⟨v, .refl, by rw [takeCrash, hphase]⟩

/-- The loop may find that no more requests will come, if it has taken all there are. -/
theorem leads_closeRequests {s : Session} (h : s.requests = []) :
    Leads sockets s s.closeRequests := by
  rintro v rfl
  exact ⟨_, .single (.aside (.close h) v.beside_close), rfl⟩

/-! ### Whole steps -/

variable {socket : Socket}

/-- **Settling is made of steps.** -/
theorem leads_settle (hsocket : sockets socket) (s : Session) :
    Leads sockets s (s.settle socket) := by
  -- There are as many turns as there were requests; one that finds none changes nothing.
  have hrequests : ∀ (requests : List Submission) (s : Session),
      Leads sockets s (requests.foldl (fun s _ ↦ s.takeRequest) s) := by
    intro requests
    induction requests with
    | nil => exact .refl
    | cons _ rest ih => exact fun s ↦ (leads_takeRequest s).trans (ih s.takeRequest)
  exact (hrequests s.requests s).trans (.of_outbox _ (Outbox.Traffic.leadsAlone_settle hsocket _))

/-- **Bytes that arrive are read in steps.** -/
theorem leads_feed (hsocket : sockets socket) (s : Session) (bytes : Octets) :
    Leads sockets s (s.feed socket bytes) := by
  unfold feed
  split
  · exact (leads_takeEnd s).trans (leads_settle hsocket _)
  · refine .trans ?_ (leads_settle hsocket _)
    have hpieces : ∀ (pieces : List Octets) (s : Session),
        (∀ piece ∈ pieces, piece ≠ [] ∧ piece.length ≤ readLimit) →
          Leads sockets s (pieces.foldl takeBytes s) := by
      intro pieces
      induction pieces with
      | nil => exact fun s _ ↦ .refl s
      | cons piece rest ih =>
        intro s h
        obtain ⟨hsome, hle⟩ := h piece List.mem_cons_self
        exact (leads_takeBytes s hsome hle).trans
          (ih _ fun other hother ↦ h other (List.mem_cons_of_mem piece hother))
    exact hpieces _ s fun piece hpiece ↦
      Octets.length_of_mem_pieces (by decide : 0 < readLimit) hpiece

theorem leads_retry (hsocket : sockets socket) (s : Session) :
    Leads sockets s (s.retry socket) :=
  .trans (.of_outbox s (.of_step fun t ho _ ↦ ho ▸ .retry t)) (leads_settle hsocket _)

theorem leads_letGo (hsocket : sockets socket) (s : Session) :
    Leads sockets s (s.letGo socket) :=
  .trans (.of_outbox s (.of_step fun t ho _ ↦ ho ▸ .letGo t)) (leads_settle hsocket _)

theorem leads_shutdown (hsocket : sockets socket) {s : Session} (h : s.requests = []) :
    Leads sockets s (s.shutdown socket).2 := by
  refine (leads_closeRequests h).trans ?_
  unfold shutdown
  simp only
  split
  · exact leads_settle hsocket _
  all_goals exact leads_letGo hsocket _

namespace Service

/-- **A request that is made and waited for is made of steps.** -/
theorem runs_send (hsocket : sockets socket) {v : Service} {ticket : Nat} (request : Request)
    (fresh : ticket ∉ v.asked.map Prod.fst) :
    ∃ v', RunsAlone sockets v v' ∧ v'.session = (v.session.send socket ticket request).2 := by
  obtain ⟨v', hruns, hsession⟩ := leads_settle hsocket _ (v.ask ticket request) rfl
  exact ⟨v', .head (.aside (.ask v ticket request fresh) (v.beside_ask ticket request)) hruns,
    hsession⟩

/-- A request that is made and left alone is made of steps. -/
theorem runs_abandon (hsocket : sockets socket) {v : Service} {ticket : Nat} (request : Request)
    (fresh : ticket ∉ v.asked.map Prod.fst) :
    ∃ v', RunsAlone sockets v v' ∧ v'.session = (v.session.abandon socket ticket request).2 := by
  let v₁ := v.ask ticket request
  obtain ⟨v', hruns, hsession⟩ :=
    leads_settle hsocket _ { v₁ with session := v₁.session.forsake ticket } rfl
  have hasked : StepAlone sockets v v₁ :=
    .aside (.ask v ticket request fresh) (v.beside_ask ticket request)
  have hforsaken : StepAlone sockets v₁ { v₁ with session := v₁.session.forsake ticket } :=
    .aside (.forsake v₁ ticket) (beside_of_turns rfl #[] rfl)
  exact ⟨v', .head hasked (.head hforsaken hruns), hsession⟩

end Service

end ParcelLink.Session
