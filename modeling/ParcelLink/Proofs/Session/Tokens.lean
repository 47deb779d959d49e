import ParcelLink.Proofs.Endpoint.Correlation
import ParcelLink.Proofs.Endpoint.Parcels
import ParcelLink.Proofs.Outbox.Senders
import ParcelLink.Proofs.Session.Serial

/-!
# Tokens that requests are told

Turns are given to one endpoint, one after the other, and some of the requests among them come to
tokens. Each token that the endpoint gives out is told to the request that it was given out to, or
it is taken back (`Session.Serial.faithful_run`). A token that has been taken back is not pending,
and no event carries it. So the tokens of pending requests and of events were told
(`Session.Serial.exists_sent`), no token is told twice (`Session.Serial.nodup_tokens`), and no two
of the parcels are the same (`Session.Serial.nodup_parcels`).

## Main definitions

* `Session.Turn.operation`: what a turn does to the endpoint.
* `Session.Serial.sent`, `Session.Serial.parcels`: the requests that came to tokens, and their
  parcels.
* `Session.Serial.Faithful`: that the tokens told are those given out and not taken back.
-/

namespace ParcelLink

namespace Endpoint

/-! ### Tokens that are not taken back -/

/-- The token of an event was given out to a request of its type, and is not taken back, neither
before nor after. -/
theorem Chronicle.issued_of_event {history : List Entry} {ledger : Ledger}
    (h : Chronicle history ledger)
    (hroom : (issues (history.map Entry.what)).length + 1 < 2 ^ 32) {event : Event}
    {token : UInt32} (hevent : event ∈ events (history.map Entry.what))
    (htoken : event.token? = some token) :
    .issued token event.type ∈ history.map Entry.what
      ∧ .withdrawn token ∉ history.map Entry.what := by
  induction h with
  | nil => cases hevent
  | @snoc history ledger entry h hstep ih =>
    have hc := h.consistent (room_before hroom)
    rw [List.map_append, List.map_singleton] at hevent ⊢
    rw [events, List.filterMap_append, List.mem_append] at hevent
    rcases hevent with hold | hnew
    · obtain ⟨hissued, hkept⟩ := ih (room_before hroom) hold
      have hspent : Spent (history.map Entry.what) token :=
        .inr (List.mem_filterMap.2 ⟨event, hold, htoken⟩)
      refine ⟨List.mem_append_left _ hissued, fun hgone ↦ ?_⟩
      rcases List.mem_append.1 hgone with hgone | hlast
      · exact hkept hgone
      · exact hstep.ne_withdrawn hc hspent (List.mem_singleton.1 hlast).symm
    · obtain ⟨x, hx, hsome⟩ := List.mem_filterMap.1 hnew
      obtain rfl : x = entry.what := List.mem_singleton.1 hx
      have hwaits := hstep.outstanding_of_event hc hsome htoken
      refine ⟨List.mem_append_left _ hwaits.issued_mem, fun hgone ↦ ?_⟩
      rcases List.mem_append.1 hgone with hgone | hlast
      · exact hc.not_spent token _ hwaits (.inl hgone)
      · rw [← List.mem_singleton.1 hlast] at hsome
        cases hsome

/-- The token of a pending request was given out to a request of its type, and is not taken back. -/
theorem Consistent.issued_of_pending {happenings : List Happening} {ledger : Ledger}
    (h : Consistent happenings ledger) {token : UInt32} {type : ParcelType}
    (hpending : ledger.type? token = some type) :
    .issued token type ∈ happenings ∧ .withdrawn token ∉ happenings := by
  have hwaits := (h.type?_eq token type).1 hpending
  exact ⟨hwaits.issued_mem, fun hgone ↦ h.not_spent token type hwaits (.inl hgone)⟩

/-- Bodies that arrive give out no tokens. -/
theorem issues_arrivals (registry : Registry) (ledger : Ledger) (bodies : List Octets) :
    issues ((arrivals registry ledger bodies).map Entry.what) = [] := by
  induction bodies generalizing ledger with
  | nil => rfl
  | cons body bodies ih =>
    rw [arrivals_cons]
    exact ih _

/-- A request that is sent gets a token, which is taken back if the transport refuses its parcel. -/
theorem Course.happenings_send {τ : Type} (transport : Transport τ) (c : Course τ)
    (type : ParcelType) (arguments : List Value) :
    let token := (c.endpoint.ledger.insert type).1
    let outcome := (c.endpoint.send type arguments transport c.wire).value.1
    let happenings := (c.perform transport (.send type arguments)).happenings
    (outcome = .ok token ∧ happenings = c.happenings ++ [.issued token type])
      ∨ ∃ cause, outcome = .error cause
          ∧ happenings = c.happenings ++ [.issued token type, .withdrawn token] := by
  intro token outcome happenings
  obtain ⟨draft, hprepare⟩ := c.endpoint.value_prepare type arguments
  obtain ⟨draft', wire, hsend | ⟨cause, hsend⟩⟩ :=
    c.endpoint.value_send type arguments transport c.wire
  · refine .inl ⟨congrArg Prod.fst hsend, ?_⟩
    simp [happenings, Course.happenings, perform, hprepare, hsend, token]
  · refine .inr ⟨cause, congrArg Prod.fst hsend, ?_⟩
    simp [happenings, Course.happenings, perform, hprepare, hsend, token]

/-- A valid draft gives the parcel of a request under the token that comes next. -/
theorem outgoing_of_valid {e : Endpoint} (h : e.draft.Valid) (request : Request) :
    e.outgoing request = request.parcel (e.ledger.insert request.type).1 :=
  (value_submit h request _ _).2

end Endpoint

namespace Session

/-- What is done to the endpoint in a turn. -/
def Turn.operation : Turn → Endpoint.Operation
  | .request submission _ => .send submission.request.type submission.request.arguments
  | .bytes chunk => .receive chunk

/-- A request with its token, as the endpoint knows it. -/
def issue (p : Submission × UInt32) : UInt32 × ParcelType := (p.2, p.1.request.type)

namespace Serial

/-- The requests that came to tokens, in order, with these. -/
def sent (r : Serial) : List (Submission × UInt32) :=
  r.outcomes.filterMap fun (submission, outcome) ↦ outcome.toOption.map (submission, ·)

/-- The parcels of the requests that came to tokens. -/
def parcels (r : Serial) : List Octets := r.sent.map fun p ↦ p.1.request.parcel p.2

/-! ### Turns are operations -/

theorem course_run (config : Endpoint.Config) (transport : Transport Nat) (turns : List Turn) :
    (run config transport turns).course
      = (Endpoint.Course.fresh config 0).performAll transport (turns.map Turn.operation) := by
  induction turns using List.reverseRecOn with
  | nil => rfl
  | append_singleton turns turn ih =>
    rw [run_concat, List.map_append, List.map_singleton, Endpoint.Course.performAll_concat, ← ih]
    cases turn <;> rfl

theorem draft_run (config : Endpoint.Config) (transport : Transport Nat) (turns : List Turn) :
    (run config transport turns).course.endpoint.draft.Valid := by
  rw [course_run]
  exact Endpoint.Course.draft_performAll transport config 0 _

theorem mem_sent {r : Serial} {submission : Submission} {token : UInt32} :
    (submission, token) ∈ r.sent ↔ (submission, .ok token) ∈ r.outcomes := by
  rw [sent, List.mem_filterMap]
  constructor
  · rintro ⟨⟨submission, cause | token⟩, hmem, heq⟩
    · cases heq
    · cases heq
      exact hmem
  · exact fun hmem ↦ ⟨_, hmem, rfl⟩

theorem sent_sublist (r : Serial) : (r.sent.map Prod.fst).Sublist (r.outcomes.map Prod.fst) := by
  rw [sent]
  induction r.outcomes with
  | nil => exact .slnil
  | cons p outcomes ih =>
    obtain ⟨submission, cause | token⟩ := p
    · exact ih.cons submission
    · exact ih.cons_cons submission

/-- A request that is taken is the next one that came to a token, or it did not come to one. -/
theorem sent_take_request (transport : Transport Nat) (r : Serial) (submission : Submission)
    (answer : Except Fault Unit) :
    let outcome := (r.course.endpoint.submit submission.request transport r.course.wire).value.1
    (r.take transport (.request submission answer)).sent
      = r.sent ++ (outcome.toOption.map (submission, ·)).toList := by
  intro outcome
  have htake : (r.take transport (.request submission answer)).outcomes
      = r.outcomes ++ [(submission, outcome)] := rfl
  rw [sent, htake, List.filterMap_append]
  rcases outcome with cause | token <;> rfl

/-- **A turn adds the parcel that it offers**, if the answer is that it was taken. -/
theorem parcels_take_request {r : Serial} (h : r.course.endpoint.draft.Valid)
    {script : List (Except Fault Unit)} {answer : Except Fault Unit}
    (hanswer : script.getD r.course.wire (.ok ()) = answer) (submission : Submission) :
    (r.take (.scripted script) (.request submission answer)).parcels
      = r.parcels ++ Outbox.gained answer (r.course.endpoint.outgoing submission.request) := by
  have hvalue := (Endpoint.value_submit h submission.request (.scripted script) r.course.wire).1
  simp only [Transport.scripted, Logged.value_pure, hanswer] at hvalue
  rw [parcels, sent_take_request, List.map_append, Endpoint.outgoing_of_valid h]
  refine congrArg (r.parcels ++ ·) ?_
  simp only [Transport.scripted, hvalue]
  rcases answer with cause | ⟨⟩ <;> rfl

/-! ### Tokens that are told -/

/-- The tokens that were told are those that were given out, but for those that were taken back. -/
structure Faithful (r : Serial) : Prop where
  /-- Tokens were given out to the requests that they were told to. -/
  sent_sublist : (r.sent.map issue).Sublist (Endpoint.issues r.course.happenings)
  /-- A token that was given out is taken back or told. -/
  told_of_issued : ∀ token type, .issued token type ∈ r.course.happenings →
    .withdrawn token ∈ r.course.happenings ∨ (token, type) ∈ r.sent.map issue
  /-- One token is given out to each request. -/
  length_eq : (Endpoint.issues r.course.happenings).length = r.outcomes.length

/-- More happens and more is told, and what is told is what happens. -/
theorem Faithful.append {r r' : Serial} (h : r.Faithful) {more : List Endpoint.Happening}
    {new : List (Submission × UInt32)}
    (hhappenings : r'.course.happenings = r.course.happenings ++ more)
    (hsent : r'.sent = r.sent ++ new)
    (hlength : r'.outcomes.length = r.outcomes.length + (Endpoint.issues more).length)
    (hnew : (new.map issue).Sublist (Endpoint.issues more))
    (htold : ∀ token type, .issued token type ∈ more →
      .withdrawn token ∈ more ∨ (token, type) ∈ new.map issue) : r'.Faithful where
  sent_sublist := by
    rw [hsent, hhappenings, List.map_append, Endpoint.issues, List.filterMap_append]
    exact h.sent_sublist.append hnew
  told_of_issued token type hissued := by
    rw [hhappenings] at hissued ⊢
    rw [hsent, List.map_append, List.mem_append, List.mem_append]
    rcases List.mem_append.1 hissued with hold | hmore
    · exact (h.told_of_issued token type hold).imp .inl .inl
    · exact (htold token type hmore).imp .inr .inr
  length_eq := by
    rw [hhappenings, hlength, ← h.length_eq, Endpoint.issues, List.filterMap_append,
      List.length_append]
    rfl

/-- A token is given out to a request, and told to it or taken back. -/
theorem Faithful.take_request {r : Serial} (h : r.Faithful) (transport : Transport Nat)
    (submission : Submission) (answer : Except Fault Unit) :
    (r.take transport (.request submission answer)).Faithful := by
  have hsent := r.sent_take_request transport submission answer
  obtain ⟨houtcome, hhappenings⟩ | ⟨cause, houtcome, hhappenings⟩ :=
    r.course.happenings_send transport submission.request.type submission.request.arguments
  · simp only [Endpoint.submit, houtcome] at hsent
    refine h.append hhappenings hsent List.length_append (.refl _) fun token type hissued ↦ .inr ?_
    cases List.mem_singleton.1 hissued
    exact List.mem_singleton_self _
  · simp only [Endpoint.submit, houtcome] at hsent
    refine h.append hhappenings hsent List.length_append (List.nil_sublist _)
      fun token type hissued ↦ .inl ?_
    rcases List.mem_cons.1 hissued with heq | hmem
    · cases heq
      exact List.mem_cons_of_mem _ (List.mem_singleton_self _)
    · cases List.mem_singleton.1 hmem

/-- Bytes that are read leave all tokens as they are. -/
theorem Faithful.take_bytes {r : Serial} (h : r.Faithful) (transport : Transport Nat)
    (chunk : Octets) : (r.take transport (.bytes chunk)).Faithful := by
  have hissues := Endpoint.issues_arrivals r.course.endpoint.registry r.course.endpoint.ledger
    (r.course.endpoint.framer.completed chunk)
  have hsent : (r.take transport (.bytes chunk)).sent = r.sent ++ [] := (List.append_nil _).symm
  refine h.append List.map_append hsent ?_ (List.nil_sublist _) fun token type hissued ↦ ?_
  · rw [hissues]
    rfl
  · rw [← Endpoint.mem_issues, hissues] at hissued
    cases hissued

/-- **The tokens that are told are those that are given out and not taken back.** -/
theorem faithful_run (config : Endpoint.Config) (transport : Transport Nat) (turns : List Turn) :
    (run config transport turns).Faithful := by
  induction turns using List.reverseRecOn with
  | nil => exact ⟨.slnil, fun token type h ↦ (List.not_mem_nil h).elim, rfl⟩
  | append_singleton turns turn ih =>
    rw [run_concat]
    cases turn with
    | request submission answer => exact ih.take_request transport submission answer
    | bytes chunk => exact ih.take_bytes transport chunk

/-! ### What holds of tokens that are told -/

section Run

variable {config : Endpoint.Config} {transport : Transport Nat} {turns : List Turn}

theorem chronicle_run :
    Endpoint.Chronicle (run config transport turns).course.history
      (run config transport turns).course.endpoint.ledger := by
  rw [course_run]
  exact Endpoint.Course.chronicle_performAll transport config 0 _

/-- There are numbers enough for tokens if there are for requests. -/
theorem room_run (hroom : (run config transport turns).outcomes.length < 2 ^ 32 - 1) :
    (Endpoint.issues (run config transport turns).course.happenings).length + 1 < 2 ^ 32 := by
  rw [(faithful_run config transport turns).length_eq]
  omega

theorem consistent_run (hroom : (run config transport turns).outcomes.length < 2 ^ 32 - 1) :
    Endpoint.Consistent (run config transport turns).course.happenings
      (run config transport turns).course.endpoint.ledger :=
  chronicle_run.consistent (room_run hroom)

/-- Everything that happens and is an event is received, if there is a receiver. -/
theorem received_run (hsink : config.sink = .attached) :
    (run config transport turns).course.received
      = Endpoint.events (run config transport turns).course.happenings := by
  rw [course_run, (Endpoint.Course.recorded_performAll transport config 0 _).2, hsink,
    Sink.taken_attached]

/-- A token that was given out and is not taken back was told. -/
theorem exists_sent {token : UInt32} {type : ParcelType}
    (h : .issued token type ∈ (run config transport turns).course.happenings
      ∧ .withdrawn token ∉ (run config transport turns).course.happenings) :
    ∃ submission, (submission, token) ∈ (run config transport turns).sent
      ∧ submission.request.type = type := by
  have hfaithful := faithful_run config transport turns
  have htold := (hfaithful.told_of_issued token type h.1).resolve_left h.2
  obtain ⟨⟨submission, token'⟩, hmem, heq⟩ := List.mem_map.1 htold
  cases heq
  exact ⟨submission, hmem, rfl⟩

/-- **No token is told twice.** -/
theorem nodup_tokens (hroom : (run config transport turns).outcomes.length < 2 ^ 32 - 1) :
    ((run config transport turns).sent.map Prod.snd).Nodup := by
  have hsublist := (faithful_run config transport turns).sent_sublist.map fun i ↦ i.1.toNat
  have hissued : ((Endpoint.issues (run config transport turns).course.happenings).map
      fun i ↦ i.1.toNat).Nodup := by
    rw [(consistent_run hroom).issues_eq]
    exact List.nodup_range'
  rw [List.map_map] at hsublist
  refine List.Nodup.of_map UInt32.toNat ?_
  rw [List.map_map]
  exact hsublist.nodup hissued

/-- **No two parcels are the same.** -/
theorem nodup_parcels (hroom : (run config transport turns).outcomes.length < 2 ^ 32 - 1) :
    (run config transport turns).parcels.Nodup := by
  have htokens := List.pairwise_map.1 (nodup_tokens hroom)
  exact List.pairwise_map.2 (htokens.imp fun hne heq ↦ hne (Request.token_inj heq))

end Run

end Serial

end Session

end ParcelLink
