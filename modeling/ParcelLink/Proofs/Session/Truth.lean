import ParcelLink.Proofs.Session.Alone
import ParcelLink.Proofs.Session.Tokens

/-!
# What requests are told is true of the wire

A request that is told a token has its parcel in the queue, once, and one that is told a cause has
none (`Session.Service.truthful`). The way there goes through everything a session is made of. What
requests are told is what one endpoint comes to, to which the turns of the loop are given one after
the other, and what holds of its tokens is known. And since all calls on the outbox are offers of
the loop, its queue was given just the parcels of the requests that came to tokens, in order. This
is kept by every step (`Session.Service.posted_step`).

## Main definitions

* `Session.Service.Posted`: that the queue was given the parcels of these requests.
-/

namespace ParcelLink.Session.Service

variable {sockets : Socket → Prop} {config : Endpoint.Config}

/-! ### The queue of a session -/

/-- Nobody waits at the outbox of a session, and its queue was given the parcels of the requests
that came to tokens. -/
structure Posted (config : Endpoint.Config) (v : Service) : Prop where
  quiet : v.session.outbox.Quiet
  queued_eq : ∀ script, answers v.turns <+: script →
    v.session.outbox.cargo.queued = (Serial.run config (.scripted script) v.turns).parcels

theorem posted_start (endpoint : Endpoint.Config) (outbox : Outbox.Config) :
    (start endpoint outbox).Posted config :=
  ⟨Outbox.quiet_ofConfig outbox, fun _ _ ↦ rfl⟩

/-- Behind the answer to a request that is taken, the outbox gets nothing but notices. -/
theorem outbox_submit (v : Service) (endpoint : Endpoint) (accepting : Bool)
    (left : List Submission) (submission : Submission) (answer : Except Fault Unit) (o : Outbox) :
    ∃ notices : Array Notice,
      (v.submit endpoint accepting left submission answer o).session.outbox
        = notices.foldl Outbox.note o := by
  have houtbox := congrArg (fun x ↦ x.2.2)
    (endpoint.value_submit_answering submission.request (.answering answer o) v.session.outbox)
  show ∃ notices : Array Notice, (serve _ _ _ _ _).outbox = _
  unfold serve
  simp only
  generalize endpoint.submit submission.request (.answering answer o) v.session.outbox = submitted
    at houtbox ⊢
  obtain ⟨⟨outcome, endpoint', outbox⟩, notices⟩ := submitted
  obtain rfl : outbox = o := houtbox
  have hnote : ∀ (more : Array Notice) (notice : Notice),
      (more.foldl Outbox.note outbox).note notice = (more.push notice).foldl Outbox.note outbox :=
    fun more notice ↦ by simp
  rcases outcome with cause | token <;> rcases submission.awaited with - | -
  · exact ⟨(notices.push _).push _, by rw [← hnote, ← hnote]; rfl⟩
  · exact ⟨notices.push _, by rw [← hnote]; rfl⟩
  · exact ⟨notices.push _, by rw [← hnote]; rfl⟩
  · exact ⟨notices, rfl⟩

/-- What is not the taking of a request has no turn, or reads bytes. -/
theorem turns_of_untaken {v v' : Service} (hstep : Step sockets v v')
    (untaken : ∀ submission answer, v'.turns ≠ v.turns ++ [.request submission answer]) :
    v'.turns = v.turns ∨ ∃ chunk, v'.turns = v.turns ++ [.bytes chunk] := by
  cases hstep with
  | take => exact absurd rfl (untaken _ _)
  | read => exact .inr ⟨_, rfl⟩
  | ask | forsake | withdraw | close | finish | fail | crash | progress => exact .inl rfl

/-- A request that is taken has its parcel queued if it comes to a token. -/
theorem posted_submit {v : Service} (hin : v.InStep config) (h : v.Posted config)
    {endpoint : Endpoint} {accepting : Bool}
    (serving : v.session.phase = .serving endpoint accepting) (left : List Submission)
    {submission : Submission} {answer : Except Fault Unit} {o : Outbox}
    (offers : Outbox.Traffic.OffersAlone sockets v.session.outbox
      (endpoint.outgoing submission.request) answer o) :
    (v.submit endpoint accepting left submission answer o).Posted config := by
  obtain ⟨hquiet, hqueued⟩ := Outbox.Traffic.quiet_of_offersAlone h.quiet offers
  obtain ⟨notices, hnotices⟩ := v.outbox_submit endpoint accepting left submission answer o
  refine ⟨hnotices ▸ hquiet.notes notices, fun script hscript ↦ ?_⟩
  rw [turns_submit, answers_concat_request] at hscript
  have hbefore : answers v.turns <+: script := (List.prefix_append _ _).trans hscript
  have hshows := hin.shows script hbefore
  have hendpoint := hshows.endpoint_eq endpoint (by rw [endpoint?, serving])
  have hdraft := Serial.draft_run config (.scripted script) v.turns
  rw [hnotices, (Outbox.cargo_notes o notices).1, hqueued, h.queued_eq script hbefore,
    turns_submit, Serial.run_concat,
    Serial.parcels_take_request hdraft (hshows.answer_eq hscript), hendpoint]

/-- **Every step keeps what was queued the parcels of the requests that came to tokens.** -/
theorem posted_step {v v' : Service} (hin : v.InStep config) (h : v.Posted config)
    (hstep : StepAlone sockets v v') : v'.Posted config := by
  cases hstep with
  | take serving _ sent => exact posted_submit hin h serving _ sent
  | progress leads =>
    obtain ⟨hquiet, hqueued⟩ := Outbox.Traffic.quiet_of_leadsAlone h.quiet leads
    exact ⟨hquiet, fun script hscript ↦ hqueued.trans (h.queued_eq script hscript)⟩
  | aside step beside =>
    obtain ⟨notices, hnotices⟩ := beside.noted
    refine ⟨hnotices ▸ h.quiet.notes notices, fun script hscript ↦ ?_⟩
    rw [hnotices, (Outbox.cargo_notes v.session.outbox notices).1]
    obtain hturns | ⟨chunk, hturns⟩ := turns_of_untaken step beside.untaken
    · rw [hturns] at hscript ⊢
      exact h.queued_eq script hscript
    -- bytes that are read come to nothing that is told
    · rw [hturns, answers_concat_bytes] at hscript
      rw [hturns, Serial.run_concat]
      exact h.queued_eq script hscript

/-- A session stays in step and what is due stays posted. -/
theorem posted_of_runs {endpoint : Endpoint.Config} {outbox : Outbox.Config} {v : Service}
    (h : RunsAlone sockets (start endpoint outbox) v) :
    v.InStep { endpoint with sink := .attached }
      ∧ v.Posted { endpoint with sink := .attached } := by
  induction h with
  | refl => exact ⟨inStep_start endpoint outbox, posted_start endpoint outbox⟩
  | tail _ step ih => exact ⟨inStep_step ih.1 step.step, posted_step ih.1 ih.2 step⟩

/-! ### What requests are told -/

/-- Not more requests have been taken than were made. -/
theorem InStep.length_taken_le {v : Service} (h : v.InStep config) :
    (taken v.turns).length ≤ v.asked.length := by
  rw [← h.asked_perm.length_eq]
  simp only [List.length_append, List.length_map]
  omega

/-- Somebody is told a token just if the parcel of the request was queued under it. -/
theorem InStep.mem_sent_iff {v : Service} (h : v.InStep config) {ticket : Nat} {token : UInt32} :
    (ticket, .ok token) ∈ v.session.docket.outcomes
      ↔ ∃ request, (⟨ticket, request, true⟩, token)
          ∈ (Serial.run config (.scripted (answers v.turns)) v.turns).sent := by
  rw [(h.shows _ List.prefix_rfl).outcomes_eq, List.mem_append]
  constructor
  · rintro (hreported | htold)
    · obtain ⟨⟨⟨ticket', request, awaited⟩, outcome⟩, hmem, heq⟩ := List.mem_map.1 hreported
      obtain ⟨houtcome, hawaited⟩ := List.mem_filter.1 hmem
      cases heq
      obtain rfl : awaited = true := hawaited
      exact ⟨request, Serial.mem_sent.2 houtcome⟩
    · obtain ⟨submission, -, heq⟩ := List.mem_map.1 htold
      cases heq
  · rintro ⟨request, hsent⟩
    exact .inl (List.mem_map.2
      ⟨_, List.mem_filter.2 ⟨Serial.mem_sent.1 hsent, rfl⟩, rfl⟩)

/-- A request that came to a token was taken. -/
theorem InStep.mem_taken {v : Service} (h : v.InStep config) {p : Submission × UInt32}
    (hp : p ∈ (Serial.run config (.scripted (answers v.turns)) v.turns).sent) :
    p.1 ∈ taken v.turns := by
  rw [← (h.shows _ List.prefix_rfl).taken_eq]
  exact List.mem_map_of_mem (f := Prod.fst) (Serial.mem_sent.1 hp)

/-- No request comes to two tokens. -/
theorem InStep.nodup_sent {v : Service} (h : v.InStep config) :
    ((Serial.run config (.scripted (answers v.turns)) v.turns).sent.map
      fun p ↦ p.1.ticket).Nodup := by
  have hsublist := (Serial.run config (.scripted (answers v.turns)) v.turns).sent_sublist.map
    Submission.ticket
  rw [(h.shows _ List.prefix_rfl).taken_eq, List.map_map] at hsublist
  exact hsublist.nodup (List.nodup_append.1 h.nodup_tickets).1

/-- No request comes to two outcomes, nor to one after it was dismissed. -/
theorem InStep.not_sent_of_error {v : Service} (h : v.InStep config) {ticket : Nat} {cause : Fault}
    (herror : (ticket, .error cause) ∈ v.session.docket.outcomes) {p : Submission × UInt32}
    (hp : p ∈ (Serial.run config (.scripted (answers v.turns)) v.turns).sent) :
    p.1.ticket ≠ ticket := by
  rintro rfl
  have hshows := h.shows _ List.prefix_rfl
  obtain ⟨htaken, -, hapart⟩ := List.nodup_append.1 h.nodup_tickets
  rw [hshows.outcomes_eq, List.mem_append] at herror
  rcases herror with hreported | htold
  · obtain ⟨⟨submission, outcome⟩, hmem, heq⟩ := List.mem_map.1 hreported
    have houtcome := List.mem_of_mem_filter hmem
    rw [← hshows.taken_eq, List.map_map] at htaken
    have hticket : submission.ticket = p.1.ticket := congrArg Prod.fst heq
    cases List.inj_on_of_nodup_map htaken houtcome (Serial.mem_sent.1 hp) hticket
    cases heq
  · obtain ⟨submission, hmem, heq⟩ := List.mem_map.1 htold
    exact hapart _ (List.mem_map_of_mem (h.mem_taken hp)) _
      (List.mem_map_of_mem (List.mem_of_mem_filter hmem)) (congrArg Prod.fst heq).symm

/-- **What requests are told is true of the wire.** Fewer than `2 ^ 32 - 1` requests were made of a
session whose loop is the only one who makes calls on the outbox, and otherwise anything may have
happened in any order: requests were made, left alone and withdrawn, the loop took requests and
bytes, the carrier went on, stood still or failed, and the loop stopped. Then the queue was given
the parcels of the requests that came to tokens, one for each in this order, and nothing else: the
parcels that wait in the queue are the last of them, and the bytes that the socket took are a
beginning. Who waits is told a token just if the request came to it, and no token is told twice; the
parcel of the request under the token stands in the queue once. Who is told a cause has made a
request that is none of these. Every event with a token is about the type of the request that came
to the token, and no two events carry the same token; and every request that is pending in the
endpoint came to its token. -/
theorem truthful {endpoint : Endpoint.Config} {outbox : Outbox.Config} {v : Service}
    (h : RunsAlone sockets (start endpoint outbox) v) (hroom : v.asked.length < 2 ^ 32 - 1) :
    let s := v.session
    let r := Serial.run { endpoint with sink := .attached } (.scripted (answers v.turns)) v.turns
    let queued := s.outbox.journal.queued
    queued = (r.sent.map fun p ↦ p.1.request.parcel p.2)
      ∧ s.outbox.queue <:+ queued
      ∧ s.outbox.journal.writes.flatten <+: queued.flatten
      ∧ (∀ ticket token, (ticket, .ok token) ∈ s.outcomes.toList
          ↔ ∃ request, (⟨ticket, request, true⟩, token) ∈ r.sent)
      ∧ (r.sent.map fun p ↦ p.1.ticket).Nodup
      ∧ (r.sent.map Prod.snd).Nodup
      ∧ (∀ p ∈ r.sent, p.1.entry ∈ v.asked ∧ queued.count (p.1.request.parcel p.2) = 1)
      ∧ (∀ ticket cause, (ticket, .error cause) ∈ s.outcomes.toList →
          ∀ p ∈ r.sent, p.1.ticket ≠ ticket)
      ∧ (∀ event ∈ s.events.toList, ∀ token, event.token? = some token →
          ∃ submission, (submission, token) ∈ r.sent ∧ submission.request.type = event.type)
      ∧ (s.events.toList.filterMap Event.token?).Nodup
      ∧ ∀ e, v.endpoint? = some e → ∀ token type, e.ledger.type? token = some type →
          ∃ submission, (submission, token) ∈ r.sent ∧ submission.request.type = type := by
  intro s r queued
  obtain ⟨hin, hposted⟩ := posted_of_runs h
  have hshows := hin.shows (answers v.turns) List.prefix_rfl
  have hqueued : queued = r.parcels := hposted.queued_eq (answers v.turns) List.prefix_rfl
  have hroom' : r.outcomes.length < 2 ^ 32 - 1 := by
    have hlength := congrArg List.length hshows.taken_eq
    have hle := hin.length_taken_le
    rw [List.length_map] at hlength
    exact hlength ▸ Nat.lt_of_le_of_lt hle hroom
  have hconsistent := Serial.consistent_run hroom'
  have hevents : s.events.toList = Endpoint.events r.course.happenings :=
    hshows.events_eq.trans (Serial.received_run rfl)
  refine ⟨hqueued, hposted.quiet.sound.queue_suffix, hposted.quiet.sound.written_prefix,
    fun ticket token ↦ hin.mem_sent_iff, hin.nodup_sent, Serial.nodup_tokens hroom',
    fun p hp ↦ ⟨?_, ?_⟩, fun ticket cause herror p hp ↦ hin.not_sent_of_error herror hp,
    fun event hevent token htoken ↦ ?_, ?_, fun e hsome token type hpending ↦ ?_⟩
  · refine hin.asked_perm.subset ?_
    simp only [List.mem_append]
    exact .inl (.inl (.inl (List.mem_map_of_mem (hin.mem_taken hp))))
  · rw [hqueued]
    exact List.count_eq_one_of_mem (Serial.nodup_parcels hroom') (List.mem_map_of_mem hp)
  · rw [hevents] at hevent
    exact Serial.exists_sent
      (Serial.chronicle_run.issued_of_event (Serial.room_run hroom') hevent htoken)
  · rw [hevents]
    exact hconsistent.nodup
  · rw [← hshows.endpoint_eq e hsome] at hpending
    exact Serial.exists_sent (hconsistent.issued_of_pending hpending)

/-- Three requests are made. The second one is taken first and gets the only room in the outbox, so
that the first one is refused; the answer to the second one is read; and then the stream ends, with
one request left over. -/
theorem truthful_of_refused :
    let start := Service.start { incoming := 0, outgoing := 0 } { limit := 1, slots := 1 }
    let fresh := Endpoint.ofConfig { incoming := 0, outgoing := 0 }
    let asked := ((start.ask 7 .getImei).ask 8 .stopTone).ask 9 .getImsi
    let left : List Submission := [⟨9, .getImsi, true⟩]
    let first := asked.session.outbox.offer (fresh.outgoing .stopTone)
    let used := (fresh.submit .stopTone (.answering first.1 ()) ()).value.2.1
    let sent := asked.submit fresh true (⟨7, .getImei, true⟩ :: left) ⟨8, .stopTone, true⟩
      first.1 first.2
    let second := sent.session.outbox.offer (used.outgoing .getImei)
    let refused := sent.submit used true left ⟨7, .getImei, true⟩ second.1 second.2
    let read := refused.read [0, 0, 0, 12, 0, 0, 0, 0, 1, 0, 0, 0, 0, 0, 0, 0]
    let ended := read.stop read.session.takeEnd
    let queued := ended.session.outbox.journal.queued
    let r := Serial.run { incoming := 0, outgoing := 0 } (.scripted (answers ended.turns))
      ended.turns
    RunsAlone (fun _ ↦ True) start ended ∧ ended.asked.length < 2 ^ 32 - 1
      ∧ ended.session.outcomes.toList = [(8, .ok 1), (7, .error .backpressureTimeout),
          (9, .error .connectionClosed)]
      ∧ (r.sent.map fun p ↦ (p.1.entry, p.2)) = [((8, .stopTone), 1)]
      ∧ queued = [[0, 0, 0, 8, 50, 0, 0, 0, 1, 0, 0, 0]]
      ∧ (∃ request, (⟨8, request, true⟩, 1) ∈ r.sent ∧ queued.count (request.parcel 1) = 1)
      ∧ (∀ p ∈ r.sent, p.1.ticket ≠ 7) ∧ (∀ p ∈ r.sent, p.1.ticket ≠ 9)
      ∧ ended.session.events.toList = [.response 50 1 .ack]
      ∧ ∃ submission, (submission, 1) ∈ r.sent ∧ submission.request.type = 50 := by
  intro start fresh asked left first used sent second refused read ended queued r
  have hasked : RunsAlone (fun _ ↦ True) start asked :=
    ((Relation.ReflTransGen.single (.aside (.ask start 7 .getImei (by decide +kernel))
      (beside_ask _ _ _))).tail (.aside (.ask _ 8 .stopTone (by decide +kernel))
      (beside_ask _ _ _))).tail (.aside (.ask _ 9 .getImsi (by decide +kernel)) (beside_ask _ _ _))
  have hsent : RunsAlone (fun _ ↦ True) start sent :=
    hasked.tail (@StepAlone.take _ asked fresh true [⟨7, .getImei, true⟩] left
      ⟨8, .stopTone, true⟩ _ _ rfl rfl (Outbox.Traffic.offersAlone_offer _ _))
  have hused : sent.session.phase = .serving used true := phase_submit _ _ _ _ _ _ _
  have hleft : sent.session.requests = [] ++ ⟨7, .getImei, true⟩ :: left :=
    requests_submit _ _ _ _ _ _ _
  have hrefused : RunsAlone (fun _ ↦ True) start refused :=
    hsent.tail (@StepAlone.take _ sent used true [] left ⟨7, .getImei, true⟩ _ _ hused hleft
      (Outbox.Traffic.offersAlone_offer _ _))
  have hserving := sent.phase_submit used true left ⟨7, .getImei, true⟩ second.1 second.2
  have hread : RunsAlone (fun _ ↦ True) start read :=
    hrefused.tail (.aside (@Step.read _ refused _ true _ hserving (by decide) (by decide))
      (beside_read hserving _))
  have hserving' := phase_read hserving [0, 0, 0, 12, 0, 0, 0, 0, 1, 0, 0, 0, 0, 0, 0, 0]
  have hended : RunsAlone (fun _ ↦ True) start ended :=
    hread.tail (.aside (@Step.finish _ read _ true hserving') (beside_finish hserving'))
  have hroom : ended.asked.length < 2 ^ 32 - 1 := by decide +kernel
  obtain ⟨-, -, -, htold, -, -, hposted, herror, hevent, -, -⟩ := truthful hended hroom
  have hsents : (r.sent.map fun p ↦ (p.1.entry, p.2)) = [((8, .stopTone), 1)] := by
    decide +kernel
  have houtcomes : ended.session.outcomes.toList = [(8, .ok 1), (7, .error .backpressureTimeout),
      (9, .error .connectionClosed)] := by decide +kernel
  have hevents : ended.session.events.toList = [.response 50 1 .ack] := by decide +kernel
  obtain ⟨request, hmem⟩ := (htold 8 1).1 (by rw [houtcomes]; simp)
  refine ⟨hended, hroom, houtcomes, hsents, by decide +kernel, ⟨request, hmem, (hposted _ hmem).2⟩,
    herror 7 .backpressureTimeout (by rw [houtcomes]; simp),
    herror 9 .connectionClosed (by rw [houtcomes]; simp), hevents, ?_⟩
  exact hevent _ (by rw [hevents]; exact List.mem_singleton_self _) 1 rfl

end ParcelLink.Session.Service
