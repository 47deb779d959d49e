import ParcelLink.Proofs.Session.Docket
import ParcelLink.Proofs.Session.Schedule

/-!
# A session is a serialization

A session does many things at once, but whatever it shows has been done one thing after the other.
Take the turns of its loop in the order in which they were taken, and give them to one endpoint
whose transport gives the answers that the outbox gave: the events are the same, the requests come
to the same, and the endpoint is the same in the end (`Session.Service.serialized`).

This is kept by every step (`Session.Service.inStep_step`). The steps of the loop are those of the
endpoint, since what a request comes to depends on the answer alone
(`Endpoint.value_submit_answering`). All other steps leave what is shown as it is, or only move
requests about.

## Main definitions

* `Session.Serial`, `Session.Serial.run`: one endpoint to which the turns are given.
* `Session.Service.InStep`: that a session shows what the endpoint does.
-/

namespace ParcelLink

/-- A transport that gives some answers, one after the other. Its state is how many it has given. -/
def Transport.scripted (answers : List (Except Fault Unit)) : Transport Nat :=
  ⟨fun given _ ↦ pure (answers.getD given (.ok ()), given + 1)⟩

namespace Session

/-! ### One thing after the other -/

/-- The requests that were taken. -/
def taken (turns : List Turn) : List Submission :=
  turns.filterMap fun
    | .request submission _ => some submission
    | .bytes _ => none

/-- The answers that their parcels got. -/
def answers (turns : List Turn) : List (Except Fault Unit) :=
  turns.filterMap fun
    | .request _ answer => some answer
    | .bytes _ => none

@[simp] theorem taken_concat_request (turns : List Turn) (submission : Submission)
    (answer : Except Fault Unit) :
    taken (turns ++ [.request submission answer]) = taken turns ++ [submission] := by
  simp [taken]

@[simp] theorem taken_concat_bytes (turns : List Turn) (chunk : Octets) :
    taken (turns ++ [.bytes chunk]) = taken turns := by
  simp [taken]

@[simp] theorem answers_concat_request (turns : List Turn) (submission : Submission)
    (answer : Except Fault Unit) :
    answers (turns ++ [.request submission answer]) = answers turns ++ [answer] := by
  simp [answers]

@[simp] theorem answers_concat_bytes (turns : List Turn) (chunk : Octets) :
    answers (turns ++ [.bytes chunk]) = answers turns := by
  simp [answers]

/-- An endpoint to which turns are given, and what the requests among them came to. -/
structure Serial where
  course : Endpoint.Course Nat
  outcomes : List (Submission × Except Fault UInt32) := []

namespace Serial

/-- A turn is given to the endpoint. -/
def take (transport : Transport Nat) (r : Serial) : Turn → Serial
  | .request submission _ =>
    let request := submission.request
    { course := r.course.perform transport (.send request.type request.arguments)
      outcomes := r.outcomes
        ++ [(submission, (r.course.endpoint.submit request transport r.course.wire).value.1)] }
  | .bytes chunk => { r with course := r.course.perform transport (.receive chunk) }

/-- Turns are given to a fresh endpoint, one after the other. -/
def run (config : Endpoint.Config) (transport : Transport Nat) (turns : List Turn) : Serial :=
  turns.foldl (take transport) { course := .fresh config 0 }

theorem run_concat (config : Endpoint.Config) (transport : Transport Nat) (turns : List Turn)
    (turn : Turn) :
    run config transport (turns ++ [turn]) = (run config transport turns).take transport turn := by
  rw [run, List.foldl_append]
  rfl

/-- What is reported to those who wait for it. -/
def reported (r : Serial) : List (Nat × Except Fault UInt32) :=
  (r.outcomes.filter (·.1.awaited)).map fun (submission, outcome) ↦ (submission.ticket, outcome)

/-- What a request comes to, if its parcel gets an answer. -/
theorem take_request {r : Serial} {script : List (Except Fault Unit)} {answer : Except Fault Unit}
    (hanswer : script.getD r.course.wire (.ok ()) = answer) (submission : Submission) :
    let submitted := (r.course.endpoint.submit submission.request (.answering answer ()) ()).value
    let r' := r.take (.scripted script) (.request submission answer)
    r'.course.endpoint = submitted.2.1
      ∧ r'.course.wire = r.course.wire + 1
      ∧ r'.course.received = r.course.received
      ∧ r'.outcomes = r.outcomes ++ [(submission, submitted.1)] := by
  have hvalue := r.course.endpoint.value_submit_answering submission.request (.scripted script)
    r.course.wire
  simp only [Transport.scripted, Logged.value_pure, hanswer] at hvalue
  refine ⟨?_, ?_, rfl, ?_⟩
  · exact congrArg (fun x ↦ x.2.1) hvalue
  · exact congrArg (fun x ↦ x.2.2) hvalue
  · exact congrArg (fun x ↦ r.outcomes ++ [(submission, x.1)]) hvalue

end Serial

namespace Service

variable {sockets : Socket → Prop} {config : Endpoint.Config}

/-- The endpoint that a session has, until its loop fails. -/
def endpoint? (v : Service) : Option Endpoint :=
  match v.session.phase with
  | .serving endpoint _ | .finished endpoint => some endpoint
  | .failed _ | .crashed => none

/-- A session shows what one endpoint does. -/
structure Shows (v : Service) (r : Serial) : Prop where
  wire_eq : r.course.wire = (answers v.turns).length
  taken_eq : r.outcomes.map Prod.fst = taken v.turns
  events_eq : v.session.docket.events = r.course.received
  outcomes_eq : v.session.docket.outcomes = r.reported ++ told v.dismissed
  endpoint_eq : ∀ endpoint, v.endpoint? = some endpoint → r.course.endpoint = endpoint

/-- A session shows what one endpoint does to which its turns are given, and every request that was
made is in just one place: taken, waiting, withdrawn or dismissed. None waits when the loop takes no
more requests, and none is dismissed before. -/
structure InStep (config : Endpoint.Config) (v : Service) : Prop where
  asked_nodup : (v.asked.map Prod.fst).Nodup
  asked_perm : ((taken v.turns).map Submission.entry
    ++ v.session.requests.map Submission.entry ++ v.withdrawn
    ++ v.dismissed.map Submission.entry).Perm v.asked
  requests_eq : v.session.phase.accepts = false → v.session.requests = []
  dismissed_eq : v.session.phase.accepts = true → v.dismissed = []
  shows : ∀ script, answers v.turns <+: script →
    v.Shows (Serial.run config (.scripted script) v.turns)

/-! ### What a turn shows -/

theorem turns_submit (v : Service) (endpoint : Endpoint) (accepting : Bool)
    (left : List Submission) (submission : Submission) (answer : Except Fault Unit) (o : Outbox) :
    (v.submit endpoint accepting left submission answer o).turns
      = v.turns ++ [.request submission answer] := rfl

theorem turns_read (v : Service) (chunk : Octets) :
    (v.read chunk).turns = v.turns ++ [.bytes chunk] := rfl

theorem docket_submit (v : Service) (endpoint : Endpoint) (accepting : Bool)
    (left : List Submission) (submission : Submission) (answer : Except Fault Unit) (o : Outbox) :
    let submitted := (endpoint.submit submission.request (.answering answer ()) ()).value
    (v.submit endpoint accepting left submission answer o).session.docket
      = { v.session.docket with
          phase := .serving submitted.2.1 accepting
          requests := left
          outcomes := v.session.docket.outcomes
            ++ if submission.awaited then [(submission.ticket, submitted.1)] else [] } := by
  have hdocket := docket_serve { v.session with requests := left } (.answering answer o) endpoint
    accepting submission
  have hvalue := endpoint.value_submit_answering submission.request (.answering answer o)
    v.session.outbox
  simp only [hvalue] at hdocket
  exact hdocket

theorem phase_submit (v : Service) (endpoint : Endpoint) (accepting : Bool)
    (left : List Submission) (submission : Submission) (answer : Except Fault Unit) (o : Outbox) :
    (v.submit endpoint accepting left submission answer o).session.phase
      = .serving (endpoint.submit submission.request (.answering answer ()) ()).value.2.1
          accepting :=
  congrArg Docket.phase (v.docket_submit endpoint accepting left submission answer o)

theorem requests_submit (v : Service) (endpoint : Endpoint) (accepting : Bool)
    (left : List Submission) (submission : Submission) (answer : Except Fault Unit) (o : Outbox) :
    (v.submit endpoint accepting left submission answer o).session.requests = left :=
  congrArg Docket.requests (v.docket_submit endpoint accepting left submission answer o)

theorem docket_read {v : Service} {endpoint : Endpoint} {accepting : Bool}
    (serving : v.session.phase = .serving endpoint accepting) (chunk : Octets) :
    (v.read chunk).session.docket
      = { v.session.docket with
          phase := .serving (endpoint.receive chunk).value.1 accepting
          events := v.session.docket.events ++ (endpoint.receive chunk).value.2 } :=
  docket_takeBytes serving chunk

theorem phase_read {v : Service} {endpoint : Endpoint} {accepting : Bool}
    (serving : v.session.phase = .serving endpoint accepting) (chunk : Octets) :
    (v.read chunk).session.phase = .serving (endpoint.receive chunk).value.1 accepting :=
  congrArg Docket.phase (docket_read serving chunk)

/-! ### Every step keeps it -/

/-- Nothing new is shown but that some requests are dismissed. -/
theorem Shows.dismiss {v v' : Service} {r : Serial} (h : v.Shows r) (more : List Submission)
    (hturns : v'.turns = v.turns)
    (hevents : v'.session.docket.events = v.session.docket.events)
    (houtcomes : v'.session.docket.outcomes = v.session.docket.outcomes ++ told more)
    (hdismissed : v'.dismissed = v.dismissed ++ more)
    (hendpoint : ∀ endpoint, v'.endpoint? = some endpoint → v.endpoint? = some endpoint) :
    v'.Shows r where
  wire_eq := by rw [hturns, h.wire_eq]
  taken_eq := by rw [hturns, h.taken_eq]
  events_eq := by rw [hevents, h.events_eq]
  outcomes_eq := by rw [houtcomes, hdismissed, h.outcomes_eq, told_append, List.append_assoc]
  endpoint_eq endpoint hsome := h.endpoint_eq endpoint (hendpoint endpoint hsome)

/-- As many answers have been given as requests were taken, so the next one is the answer that comes
behind them in the script. -/
theorem Shows.answer_eq {v : Service} {r : Serial} (h : v.Shows r) {answer : Except Fault Unit}
    {script : List (Except Fault Unit)} (hscript : answers v.turns ++ [answer] <+: script) :
    script.getD r.course.wire (.ok ()) = answer := by
  obtain ⟨rest, rfl⟩ := hscript
  rw [h.wire_eq, List.append_assoc, List.getD_eq_getElem?_getD]
  simp

/-- A request is submitted to the endpoint of the session, and to the one that shows the same. -/
theorem Shows.submit {v : Service} {r : Serial} (h : v.Shows r) {endpoint : Endpoint}
    {accepting : Bool} (serving : v.session.phase = .serving endpoint accepting)
    (hdismissed : v.dismissed = []) (left : List Submission) (submission : Submission)
    {answer : Except Fault Unit} (o : Outbox) {script : List (Except Fault Unit)}
    (hscript : answers v.turns ++ [answer] <+: script) :
    (v.submit endpoint accepting left submission answer o).Shows
      (r.take (.scripted script) (.request submission answer)) := by
  have hanswer := h.answer_eq hscript
  have hendpoint : r.course.endpoint = endpoint := h.endpoint_eq endpoint (by
    rw [endpoint?, serving])
  obtain ⟨hendpoint', hwire, hreceived, houtcomes⟩ := Serial.take_request hanswer submission
  rw [hendpoint] at hendpoint' houtcomes
  have hdocket := v.docket_submit endpoint accepting left submission answer o
  refine ⟨?_, ?_, ?_, ?_, fun endpoint' hsome ↦ ?_⟩
  · rw [hwire, turns_submit, answers_concat_request, List.length_append, h.wire_eq]
    rfl
  · rw [houtcomes, turns_submit, taken_concat_request, List.map_append, h.taken_eq]
    rfl
  · rw [hdocket, hreceived]
    exact h.events_eq
  · rw [hdocket, Serial.reported, houtcomes, List.filter_append, List.map_append]
    show v.session.docket.outcomes ++ _ = r.reported ++ _ ++ told v.dismissed
    rw [h.outcomes_eq, hdismissed]
    cases hawaited : submission.awaited <;> simp [hawaited, told]
  · rw [endpoint?, phase_submit] at hsome
    rw [hendpoint']
    exact Option.some.inj hsome

/-- Bytes are given to the endpoint of the session, and to the one that shows the same. -/
theorem Shows.read {v : Service} {r : Serial} (h : v.Shows r) {endpoint : Endpoint}
    {accepting : Bool} (serving : v.session.phase = .serving endpoint accepting)
    (transport : Transport Nat) (chunk : Octets) :
    (v.read chunk).Shows (r.take transport (.bytes chunk)) := by
  have hdocket := docket_read serving chunk
  have hendpoint : r.course.endpoint = endpoint := h.endpoint_eq endpoint (by
    rw [endpoint?, serving])
  refine ⟨?_, ?_, ?_, ?_, fun endpoint' hsome ↦ ?_⟩
  · rw [turns_read, answers_concat_bytes]
    exact h.wire_eq
  · rw [turns_read, taken_concat_bytes]
    exact h.taken_eq
  · show _ = r.course.received ++ (r.course.endpoint.receive chunk).value.2
    rw [hdocket, hendpoint, h.events_eq]
  · rw [hdocket]
    exact h.outcomes_eq
  · rw [endpoint?, phase_read serving] at hsome
    show (r.course.endpoint.receive chunk).value.1 = endpoint'
    rw [hendpoint]
    exact Option.some.inj hsome

/-- Some requests are made and some are dismissed; the others may change their places without being
taken, and nothing else is shown. -/
theorem InStep.move {v v' : Service} (h : v.InStep config) (made : List (Nat × Request))
    (gone : List Submission) (hasked : v'.asked = v.asked ++ made)
    (hnodup : (v'.asked.map Prod.fst).Nodup) (hturns : v'.turns = v.turns)
    (hdismissed : v'.dismissed = v.dismissed ++ gone)
    (hperm : (v'.session.requests.map Submission.entry ++ v'.withdrawn
        ++ gone.map Submission.entry).Perm
      (v.session.requests.map Submission.entry ++ v.withdrawn ++ made))
    (hrequests : v'.session.phase.accepts = false → v'.session.requests = [])
    (haccepts : v'.session.phase.accepts = true → v.session.phase.accepts = true ∧ gone = [])
    (hendpoint : ∀ endpoint, v'.endpoint? = some endpoint → v.endpoint? = some endpoint)
    (hevents : v'.session.docket.events = v.session.docket.events)
    (houtcomes : v'.session.docket.outcomes = v.session.docket.outcomes ++ told gone) :
    v'.InStep config where
  asked_nodup := hnodup
  asked_perm := by
    have hplaces := List.perm_iff_count.1 h.asked_perm
    have hmoved := List.perm_iff_count.1 hperm
    rw [hasked, hturns, hdismissed, List.map_append, List.perm_iff_count]
    -- Each entry is counted in all places, before and after.
    intro entry
    have hbefore := hplaces entry
    have hafter := hmoved entry
    simp only [List.count_append] at hbefore hafter ⊢
    omega
  requests_eq := hrequests
  dismissed_eq hyes := by
    obtain ⟨hbefore, rfl⟩ := haccepts hyes
    rw [hdismissed, List.append_nil, h.dismissed_eq hbefore]
  shows script hscript := by
    rw [hturns] at hscript ⊢
    exact (h.shows script hscript).dismiss gone hturns hevents houtcomes hdismissed hendpoint

/-- Requests may change their places without being taken, while nothing new is shown. -/
theorem InStep.stay {v v' : Service} (h : v.InStep config) (hasked : v'.asked = v.asked)
    (hturns : v'.turns = v.turns) (hdismissed : v'.dismissed = v.dismissed)
    (hperm : (v'.session.requests.map Submission.entry ++ v'.withdrawn).Perm
      (v.session.requests.map Submission.entry ++ v.withdrawn))
    (hrequests : v'.session.phase.accepts = false → v'.session.requests = [])
    (haccepts : v'.session.phase.accepts = true → v.session.phase.accepts = true)
    (hendpoint : v'.endpoint? = v.endpoint?)
    (hevents : v'.session.docket.events = v.session.docket.events)
    (houtcomes : v'.session.docket.outcomes = v.session.docket.outcomes) : v'.InStep config := by
  refine h.move [] [] ?_ (hasked ▸ h.asked_nodup) hturns ?_ ?_ hrequests
    (fun hyes ↦ ⟨haccepts hyes, rfl⟩) (hendpoint ▸ fun _ hsome ↦ hsome) hevents ?_
  · rw [hasked, List.append_nil]
  · rw [hdismissed, List.append_nil]
  · simpa using hperm
  · exact houtcomes.trans (List.append_nil _).symm

/-- A request that is made waits, or is dismissed if it comes too late. -/
theorem inStep_ask {v : Service} (h : v.InStep config) (ticket : Nat) (request : Request)
    (fresh : ticket ∉ v.asked.map Prod.fst) : (v.ask ticket request).InStep config := by
  have hnodup : ((v.asked ++ [(ticket, request)]).map Prod.fst).Nodup := by
    rw [List.map_append]
    exact (List.perm_append_singleton ticket _).nodup_iff.2
      (List.nodup_cons.2 ⟨fresh, h.asked_nodup⟩)
  have hdocket := docket_ask v.session ticket request
  rcases haccepts : v.session.phase.accepts with - | -
  · rw [haccepts, if_neg Bool.false_ne_true] at hdocket
    have hphase : (v.ask ticket request).session.phase = v.session.phase :=
      congrArg Docket.phase hdocket
    have hrequests : (v.ask ticket request).session.requests = v.session.requests :=
      congrArg Docket.requests hdocket
    refine h.move [(ticket, request)] [⟨ticket, request, true⟩] rfl hnodup rfl ?_ ?_
      (fun _ ↦ hrequests.trans (h.requests_eq haccepts)) (fun hyes ↦ ?_) ?_
      (congrArg Docket.events hdocket :) (congrArg Docket.outcomes hdocket :)
    · simp [ask, haccepts]
    · rw [hrequests]
      exact .rfl
    · rw [hphase, haccepts] at hyes
      cases hyes
    · rw [endpoint?, hphase]
      exact fun _ hsome ↦ hsome
  · rw [haccepts, if_pos rfl] at hdocket
    have hphase : (v.ask ticket request).session.phase = v.session.phase :=
      congrArg Docket.phase hdocket
    have hrequests : (v.ask ticket request).session.requests
        = v.session.requests ++ [⟨ticket, request, true⟩] := congrArg Docket.requests hdocket
    refine h.move [(ticket, request)] [] rfl hnodup rfl ?_ ?_ (fun hno ↦ ?_)
      (fun _ ↦ ⟨haccepts, rfl⟩) ?_ (congrArg Docket.events hdocket :)
      ((congrArg Docket.outcomes hdocket).trans (List.append_nil _).symm)
    · simp [ask, haccepts]
    · rw [hrequests, List.map_append, List.append_assoc, List.append_assoc, List.append_assoc]
      refine List.Perm.append_left _ ?_
      exact List.perm_append_comm.trans (.of_eq (by simp [ask, Submission.entry]))
    · rw [hphase, haccepts] at hno
      cases hno
    · rw [endpoint?, hphase]
      exact fun _ hsome ↦ hsome

/-- When the loop stops, the requests that wait are dismissed. -/
theorem inStep_stop {v : Service} (h : v.InStep config) {stopped : Session}
    (hdocket : stopped.docket
      = { v.session.docket with
          phase := stopped.phase
          requests := []
          outcomes := v.session.docket.outcomes ++ told v.session.requests })
    (haccepts : stopped.phase.accepts = false)
    (hendpoint : ∀ endpoint, (v.stop stopped).endpoint? = some endpoint →
      v.endpoint? = some endpoint) : (v.stop stopped).InStep config := by
  have hrequests : (v.stop stopped).session.requests = [] := congrArg Docket.requests hdocket
  refine h.move [] v.session.requests (List.append_nil _).symm h.asked_nodup rfl rfl ?_
    (fun _ ↦ hrequests) (fun hyes ↦ absurd (hyes.symm.trans haccepts) (by decide))
    hendpoint (congrArg Docket.events hdocket :) (congrArg Docket.outcomes hdocket :)
  rw [hrequests, List.append_nil]
  exact List.perm_append_comm

theorem ne_nil_of_waits {v : Service} {before after : List Submission} {submission : Submission}
    (waits : v.session.requests = before ++ submission :: after) : v.session.requests ≠ [] := by
  rw [waits]
  exact List.append_ne_nil_of_right_ne_nil _ (List.cons_ne_nil _ _)

/-- The loop takes a request, and whatever that comes to goes on. -/
theorem inStep_submit {v : Service} (h : v.InStep config) {endpoint : Endpoint} {accepting : Bool}
    {before after : List Submission} {submission : Submission}
    (serving : v.session.phase = .serving endpoint accepting)
    (waits : v.session.requests = before ++ submission :: after) (answer : Except Fault Unit)
    (o : Outbox) :
    (v.submit endpoint accepting (before ++ after) submission answer o).InStep config := by
  have hphase : (v.submit endpoint accepting (before ++ after) submission answer
      o).session.phase.accepts = v.session.phase.accepts := by
    rw [phase_submit, serving]
    rfl
  -- A request waits, so none has been dismissed yet, and the outcome stands behind those of the
  -- requests that were taken.
  have haccepts : v.session.phase.accepts = true := by
    by_contra hno
    exact ne_nil_of_waits waits (h.requests_eq (Bool.not_eq_true _ ▸ hno))
  have hdismissed := h.dismissed_eq haccepts
  refine ⟨h.asked_nodup, ?_, fun hno ↦ ?_, fun _ ↦ hdismissed, fun script hscript ↦ ?_⟩
  · have hperm := List.perm_iff_count.1 h.asked_perm
    rw [turns_submit, requests_submit, List.perm_iff_count]
    intro entry
    have := hperm entry
    show _ = v.asked.count entry
    simp only [submit, waits, taken_concat_request, List.map_append, List.map_cons, List.map_nil,
      List.count_append, List.count_cons, List.count_nil] at this ⊢
    omega
  · rw [hphase, haccepts] at hno
    cases hno
  · rw [turns_submit, answers_concat_request] at hscript
    rw [turns_submit, Serial.run_concat]
    exact (h.shows script ((List.prefix_append _ _).trans hscript)).submit serving hdismissed _
      submission o hscript

/-- The loop reads bytes. -/
theorem inStep_read {v : Service} (h : v.InStep config) {endpoint : Endpoint} {accepting : Bool}
    (serving : v.session.phase = .serving endpoint accepting) (chunk : Octets) :
    (v.read chunk).InStep config := by
  have hdocket := docket_read serving chunk
  have hrequests : (v.read chunk).session.requests = v.session.requests :=
    congrArg Docket.requests hdocket
  have hphase : (v.read chunk).session.phase.accepts = v.session.phase.accepts := by
    rw [phase_read serving, serving]
    rfl
  refine ⟨h.asked_nodup, ?_, fun hno ↦ ?_, fun hyes ↦ h.dismissed_eq (hphase ▸ hyes),
    fun script hscript ↦ ?_⟩
  · rw [turns_read, taken_concat_bytes, hrequests]
    exact h.asked_perm
  · exact hrequests.trans (h.requests_eq (hphase ▸ hno))
  · rw [turns_read, answers_concat_bytes] at hscript
    rw [turns_read, Serial.run_concat]
    exact (h.shows script hscript).read serving _ chunk

/-- **Every step keeps a session in step.** -/
theorem inStep_step {v v' : Service} (h : v.InStep config) (hstep : Step sockets v v') :
    v'.InStep config := by
  cases hstep with
  | ask ticket request fresh => exact inStep_ask h ticket request fresh
  | forsake ticket =>
    have hentries : (v.session.forsake ticket).requests.map Submission.entry
        = v.session.requests.map Submission.entry := by
      rw [forsake, List.map_map]
      refine List.map_congr_left fun submission _ ↦ ?_
      rw [Function.comp_apply]
      split <;> rfl
    refine h.stay rfl rfl rfl (.of_eq (by rw [hentries])) (fun hno ↦ ?_) id rfl rfl rfl
    rw [forsake, h.requests_eq hno]
    rfl
  | @withdraw before after submission waits =>
    refine h.stay rfl rfl rfl ?_ (fun hno ↦ ?_) id rfl rfl rfl
    swap
    · exact absurd (h.requests_eq hno) (ne_nil_of_waits waits)
    rw [waits, List.map_append, List.map_append, List.map_cons, ← List.append_assoc]
    exact (List.perm_append_singleton _ _).trans (List.perm_middle.symm.append_right v.withdrawn)
  | take serving waits => exact inStep_submit h serving waits _ _
  | read serving => exact inStep_read h serving _
  | close none_left =>
    have hdocket := docket_closeRequests v.session
    have hrequests : v.session.closeRequests.requests = v.session.requests :=
      congrArg Docket.requests hdocket
    have hphase : v.session.closeRequests.phase = _ := congrArg Docket.phase hdocket
    refine h.stay rfl rfl rfl (.of_eq (by rw [hrequests])) (fun _ ↦ hrequests.trans none_left)
      (fun hyes ↦ ?_) ?_ (congrArg Docket.events hdocket :) (congrArg Docket.outcomes hdocket :)
    · rw [hphase] at hyes
      rcases hcase : v.session.phase with ⟨endpoint, accepting⟩ | _ | _ | _ <;>
      · rw [hcase] at hyes
        cases hyes
    · rw [endpoint?, endpoint?, hphase]
      rcases v.session.phase with ⟨endpoint, accepting⟩ | _ | _ | _ <;> rfl
  | finish serving =>
    have hdocket := docket_takeEnd serving
    have hphase : v.session.takeEnd.phase = _ := congrArg Docket.phase hdocket
    refine inStep_stop h (by rw [hdocket, hphase]) (by rw [hphase]; rfl) fun endpoint hsome ↦ ?_
    rw [endpoint?, stop, hphase] at hsome
    rw [endpoint?, serving]
    exact hsome
  | fail serving cause =>
    have hdocket := docket_takeFailure serving cause
    have hphase : (v.session.takeFailure cause).phase = _ := congrArg Docket.phase hdocket
    refine inStep_stop h (by rw [hdocket, hphase]) (by rw [hphase]; rfl) fun endpoint hsome ↦ ?_
    rw [endpoint?, stop, hphase] at hsome
    cases hsome
  | crash serving =>
    have hdocket := docket_takeCrash serving
    have hphase : v.session.takeCrash.phase = _ := congrArg Docket.phase hdocket
    refine inStep_stop h (by rw [hdocket, hphase]) (by rw [hphase]; rfl) fun endpoint hsome ↦ ?_
    rw [endpoint?, stop, hphase] at hsome
    cases hsome
  | progress => exact h.stay rfl rfl rfl .rfl h.requests_eq id rfl rfl rfl

theorem inStep_start (endpoint : Endpoint.Config) (outbox : Outbox.Config) :
    (start endpoint outbox).InStep { endpoint with sink := .attached } where
  asked_nodup := List.nodup_nil
  asked_perm := .nil
  requests_eq _ := rfl
  dismissed_eq _ := rfl
  shows _ _ := ⟨rfl, rfl, rfl, rfl, fun _ hsome ↦ Option.some.inj hsome⟩

theorem inStep_of_runs {endpoint : Endpoint.Config} {outbox : Outbox.Config} {v : Service}
    (h : Runs sockets (start endpoint outbox) v) :
    v.InStep { endpoint with sink := .attached } := by
  induction h with
  | refl => exact inStep_start endpoint outbox
  | tail _ step ih => exact inStep_step ih step

/-! ### What every run shows -/

/-- Taken and dismissed are two places of four, and no request is in two of them. -/
theorem InStep.nodup_tickets {v : Service} (h : v.InStep config) :
    (((taken v.turns).map fun submission ↦ submission.entry.1)
      ++ v.dismissed.map fun submission ↦ submission.entry.1).Nodup := by
  have hnodup := (h.asked_perm.map Prod.fst).nodup_iff.2 h.asked_nodup
  rw [List.append_assoc _ _ v.withdrawn, List.append_assoc, List.map_append, List.map_map] at hnodup
  refine List.Sublist.nodup (List.Sublist.append (.refl _) ?_) hnodup
  rw [List.map_append, List.map_map]
  exact List.sublist_append_right _ _

/-- Every request has one outcome at most. -/
theorem InStep.nodup_outcomes {v : Service} (h : v.InStep config) :
    (v.session.docket.outcomes.map Prod.fst).Nodup := by
  have hshows := h.shows (answers v.turns) List.prefix_rfl
  rw [hshows.outcomes_eq, List.map_append]
  generalize Serial.run config (.scripted (answers v.turns)) v.turns = r at hshows ⊢
  have hreported : (r.reported.map Prod.fst).Sublist
      ((taken v.turns).map fun submission ↦ submission.entry.1) := by
    rw [← hshows.taken_eq, Serial.reported, List.map_map, List.map_map]
    exact List.Sublist.map (fun x : Submission × Except Fault UInt32 ↦ x.1.ticket)
      List.filter_sublist
  have htold : ((told v.dismissed).map Prod.fst).Sublist
      (v.dismissed.map fun submission ↦ submission.entry.1) := by
    rw [told, List.map_map]
    exact List.Sublist.map Submission.ticket List.filter_sublist
  exact (hreported.append htold).nodup h.nodup_tickets

/-- The loop goes on, whatever a request comes to and even if there will be no more of them, until
the stream ends or cannot be read. -/
theorem goes_on {v v' : Service} {endpoint : Endpoint} {accepting : Bool}
    (serving : v.session.phase = .serving endpoint accepting) (hstep : Step sockets v v') :
    (∃ endpoint' accepting', v'.session.phase = .serving endpoint' accepting')
      ∨ v'.session = v.session.takeEnd ∨ (∃ cause, v'.session = v.session.takeFailure cause)
      ∨ v'.session = v.session.takeCrash := by
  cases hstep with
  | ask ticket request =>
    have hphase : (v.session.ask ticket request).phase = v.session.phase := by
      have hdocket := docket_ask v.session ticket request
      split at hdocket <;> exact congrArg Docket.phase hdocket
    exact .inl ⟨endpoint, accepting, hphase.trans serving⟩
  | forsake | withdraw | progress => exact .inl ⟨endpoint, accepting, serving⟩
  | take => exact .inl ⟨_, _, phase_submit _ _ _ _ _ _ _⟩
  | read => exact .inl ⟨_, _, phase_read serving _⟩
  | close =>
    refine .inl ⟨endpoint, false, ?_⟩
    have hphase : v.session.closeRequests.phase = _ :=
      congrArg Docket.phase (docket_closeRequests v.session)
    rw [hphase, serving]
  | finish => exact .inr (.inl rfl)
  | fail _ cause => exact .inr (.inr (.inl ⟨cause, rfl⟩))
  | crash => exact .inr (.inr (.inr rfl))

/-- **A session is a serialization.** Whatever the order in which requests are made, withdrawn and
left alone, the loop takes requests and bytes, the outbox moves on, and the loop stops: the events
and the endpoint of a session are those of one endpoint to which the turns of the loop are given
one after the other, and whose transport gives the answers that the outbox gave. What that endpoint
says to the requests is what is reported, once for each of them that somebody waits for, and all
who wait for a request that will never be taken are told that the connection is closed. Every
request that was made has been taken, waits, has been withdrawn, or will never be taken; and when
the loop has stopped, none waits. The loop goes on and reads, whatever a request comes to and even
if there will be no more of them, until the stream ends or cannot be read. -/
theorem serialized {endpoint : Endpoint.Config} {outbox : Outbox.Config} {v : Service}
    (h : Runs sockets (start endpoint outbox) v) :
    let s := v.session
    let r := Serial.run { endpoint with sink := .attached } (.scripted (answers v.turns)) v.turns
    s.events.toList = r.course.received
      ∧ (∀ e, v.endpoint? = some e → r.course.endpoint = e)
      ∧ r.outcomes.map Prod.fst = taken v.turns
      ∧ s.outcomes.toList = r.reported ++ told v.dismissed
      ∧ (s.outcomes.toList.map Prod.fst).Nodup
      ∧ ((taken v.turns).map Submission.entry ++ s.requests.map Submission.entry ++ v.withdrawn
          ++ v.dismissed.map Submission.entry).Perm v.asked
      ∧ (s.phase.accepts = false → s.requests = [])
      ∧ ∀ e accepting, s.phase = .serving e accepting →
          (∀ v', Step sockets v v' →
            (∃ e' accepting', v'.session.phase = .serving e' accepting')
              ∨ v'.session = s.takeEnd ∨ (∃ cause, v'.session = s.takeFailure cause)
              ∨ v'.session = s.takeCrash)
          ∧ ∀ chunk : Octets, chunk ≠ [] → chunk.length ≤ readLimit →
              Step sockets v (v.read chunk) := by
  intro s r
  have hin := inStep_of_runs h
  have hshows := hin.shows (answers v.turns) List.prefix_rfl
  exact ⟨hshows.events_eq, hshows.endpoint_eq, hshows.taken_eq, hshows.outcomes_eq,
    hin.nodup_outcomes, hin.asked_perm, hin.requests_eq, fun e accepting serving ↦
      ⟨fun v' hstep ↦ goes_on serving hstep,
        fun chunk hsome hle ↦ .read serving hsome hle⟩⟩

/-- Four requests are made, and the maker of the last one goes away. The second one is taken first
and gets the only room in the outbox, so that the first one is refused; the answer to the second
one is read; and then the stream ends, with two requests left over, and one more is made too late.
-/
theorem serialized_of_overtaken :
    let start := Service.start { incoming := 0, outgoing := 0 } { limit := 1, slots := 1 }
    let fresh := Endpoint.ofConfig { incoming := 0, outgoing := 0 }
    let asked := (((start.ask 7 .getImei).ask 8 .stopTone).ask 9 .getImsi).ask 10 .stopTone
    let forsaken := { asked with session := asked.session.forsake 10 }
    let left : List Submission := [⟨9, .getImsi, true⟩, ⟨10, .stopTone, false⟩]
    let first := forsaken.session.outbox.offer (fresh.outgoing .stopTone)
    let used := (fresh.submit .stopTone (.answering first.1 ()) ()).value.2.1
    let sent := forsaken.submit fresh true (⟨7, .getImei, true⟩ :: left) ⟨8, .stopTone, true⟩
      first.1 first.2
    let second := sent.session.outbox.offer (used.outgoing .getImei)
    let refused := sent.submit used true left ⟨7, .getImei, true⟩ second.1 second.2
    let read := refused.read [0, 0, 0, 12, 0, 0, 0, 0, 1, 0, 0, 0, 0, 0, 0, 0]
    let ended := (read.stop read.session.takeEnd).ask 11 .getImei
    let r := Serial.run { incoming := 0, outgoing := 0 } (.scripted (answers ended.turns))
      ended.turns
    Runs (fun _ ↦ True) start ended
      ∧ answers ended.turns = [.ok (), .error .backpressureTimeout]
      ∧ r.course.received = [.response 50 1 .ack]
      ∧ ended.session.events.toList = [.response 50 1 .ack]
      ∧ r.reported = [(8, .ok 1), (7, .error .backpressureTimeout)]
      ∧ ended.session.outcomes.toList = [(8, .ok 1), (7, .error .backpressureTimeout),
          (9, .error .connectionClosed), (11, .error .connectionClosed)]
      ∧ ended.session.requests = [] := by
  intro start fresh asked forsaken left first used sent second refused read ended r
  have hasked : Runs (fun _ ↦ True) start forsaken :=
    ((((Relation.ReflTransGen.single (.ask start 7 .getImei (by decide +kernel))).tail
      (.ask _ 8 .stopTone (by decide +kernel))).tail (.ask _ 9 .getImsi (by decide +kernel))).tail
      (.ask _ 10 .stopTone (by decide +kernel))).tail (.forsake asked 10)
  have hsent : Runs (fun _ ↦ True) start sent :=
    hasked.tail (@Step.take _ forsaken fresh true [⟨7, .getImei, true⟩] left
      ⟨8, .stopTone, true⟩ _ _ rfl rfl (Outbox.Traffic.offers_offer _ _))
  have hused : sent.session.phase = .serving used true := phase_submit _ _ _ _ _ _ _
  have hleft : sent.session.requests = [] ++ ⟨7, .getImei, true⟩ :: left :=
    requests_submit _ _ _ _ _ _ _
  have hrefused : Runs (fun _ ↦ True) start refused :=
    hsent.tail (@Step.take _ sent used true [] left ⟨7, .getImei, true⟩ _ _ hused hleft
      (Outbox.Traffic.offers_offer _ _))
  have hserving := sent.phase_submit used true left ⟨7, .getImei, true⟩ second.1 second.2
  have hread : Runs (fun _ ↦ True) start read :=
    hrefused.tail (@Step.read _ refused _ true _ hserving (by decide) (by decide))
  have hended : Runs (fun _ ↦ True) start ended :=
    (hread.tail (@Step.finish _ read _ true (phase_read hserving _))).tail
      (.ask _ 11 .getImei (by decide +kernel))
  obtain ⟨hevents, -, -, houtcomes, -, -, hrequests, -⟩ := serialized hended
  have hreceived : r.course.received = [.response 50 1 .ack] := by decide +kernel
  have hreported : r.reported = [(8, .ok 1), (7, .error .backpressureTimeout)] := by
    decide +kernel
  have htold : told ended.dismissed
      = [(9, .error .connectionClosed), (11, .error .connectionClosed)] := by
    decide +kernel
  refine ⟨hended, by decide +kernel, hreceived, hevents.trans hreceived, hreported, ?_,
    hrequests (by decide +kernel)⟩
  rw [houtcomes]
  exact congrArg₂ (· ++ ·) hreported htold

end Service

end Session

end ParcelLink
