import ParcelLink.Proofs.Endpoint.Correlation

/-!
# Answers in any order

The modem may answer requests in any order, with notifications and garbage in between. Two bodies
that do not answer under the same token have nothing to do with each other (`Endpoint.Apart`): what a
body changes of the ledger is told by its token alone (`Endpoint.ledger_conclude`), and its event
depends on the ledger only as far as that token goes (`Endpoint.event_conclude_congr`). So neighbours
that are apart can change places, and bodies that are all apart can come in any order
(`Endpoint.Course.any_order`).

What an endpoint between parcels makes of chunks is known by the bodies that they carry
(`Endpoint.Course.receiveAll_of_carries`), so the chunks do not matter either.

## Main definitions

* `Endpoint.Apart`: two bodies do not answer under the same token.
* `Endpoint.Course.receiveAll`: a course after some more chunks.
-/

namespace ParcelLink

namespace Endpoint

/-! ### What a body changes, and what it depends on -/

/-- Two bodies that do not answer under the same token. -/
def Apart (first second : Octets) : Prop :=
  ∀ token, solicited? first = some token → solicited? second ≠ some token

theorem Apart.symm {first second : Octets} (h : Apart first second) : Apart second first :=
  fun token hsecond hfirst ↦ h token hfirst hsecond

/-- Bodies are apart if no token occurs twice among them. -/
theorem pairwise_apart_iff {bodies : List Octets} :
    bodies.Pairwise Apart ↔ (bodies.filterMap solicited?).Nodup := by
  rw [List.Nodup, List.pairwise_filterMap]
  refine ⟨fun h ↦ h.imp fun hapart token hfirst other hsecond heq ↦ ?_,
    fun h ↦ h.imp fun hne token hfirst hsecond ↦ ?_⟩
  · exact hapart token hfirst (heq ▸ hsecond)
  · exact hne token hfirst token hsecond rfl

section Bodies

variable (registry : Registry) (ledger : Ledger)

/-- The token of a body, if it has one, is taken off the ledger, and nothing else changes. -/
theorem ledger_conclude (body : Octets) :
    (conclude registry ledger body).1 = (solicited? body).elim ledger ledger.erase := by
  rcases hs : solicited? body with - | token
  · obtain ⟨hledger, -⟩ | ⟨token, request, rest, hheader, -⟩ := conclude_cases registry ledger body
    · exact hledger
    · rw [solicited?, hheader] at hs
      cases hs
  · obtain ⟨hledger, -, hnone⟩ | ⟨token', request, rest, hheader, -, hconclude⟩ :=
      conclude_cases registry ledger body
    · rw [hledger]
      exact (Ledger.erase_of_type?_eq_none (hnone token hs)).symm
    · rw [solicited?, hheader] at hs
      rw [hconclude, Option.some.inj hs]
      rfl

/-- The event of a body depends on the ledger only through the request with the token of the body. -/
theorem event_conclude_congr {registry : Registry} {ledger ledger' : Ledger} {body : Octets}
    (h : ∀ token, solicited? body = some token → ledger'.type? token = ledger.type? token) :
    (conclude registry ledger' body).2 = (conclude registry ledger body).2 := by
  rw [conclude, conclude]
  rcases hheader : header? body with - | ⟨token | type, rest⟩
  · rfl
  · have htype := h token (by rw [solicited?, hheader])
    rcases hpending : ledger.type? token with - | request
    · simp only [htype, hpending]
    · simp only [htype, hpending]
  · rfl

/-- **The event of a body does not depend on a body before it that is apart from it.** -/
theorem event_conclude_of_apart {first second : Octets} (h : Apart first second) :
    (conclude registry (conclude registry ledger first).1 second).2
      = (conclude registry ledger second).2 := by
  refine event_conclude_congr fun token hsecond ↦ ?_
  rw [type?_conclude, if_neg fun hfirst ↦ h token hfirst hsecond]

/-! ### Some bodies, in any order -/

/-- The tokens of bodies are taken off the ledger, one after the other. -/
theorem ledger_concludeAll (bodies : List Octets) :
    (concludeAll registry ledger bodies).1
      = (bodies.filterMap solicited?).foldl Ledger.erase ledger := by
  induction bodies generalizing ledger with
  | nil => rfl
  | cons body bodies ih =>
    rw [concludeAll_cons]
    simp only
    rw [ih, ledger_conclude]
    rcases hs : solicited? body with - | token
    · rw [List.filterMap_cons_none hs]
      rfl
    · rw [List.filterMap_cons_some hs]
      rfl

/-- **What is pending in the end does not depend on the order.** -/
theorem ledger_concludeAll_perm {bodies bodies' : List Octets} (h : bodies'.Perm bodies) :
    (concludeAll registry ledger bodies').1 = (concludeAll registry ledger bodies).1 := by
  rw [ledger_concludeAll, ledger_concludeAll]
  exact (h.filterMap solicited?).foldl_eq'
    (fun token _ other _ l ↦ l.erase_right_comm token other) ledger

/-- Some bodies arrive, and then others. -/
theorem arrivals_append (first second : List Octets) :
    arrivals registry ledger (first ++ second)
      = arrivals registry ledger first
        ++ arrivals registry (concludeAll registry ledger first).1 second := by
  induction first generalizing ledger with
  | nil => rfl
  | cons body bodies ih =>
    rw [List.cons_append, arrivals_cons, arrivals_cons, concludeAll_cons]
    simp only [ih, List.cons_append]

/-- What happens when bodies arrive. -/
def arriving (bodies : List Octets) : List Happening :=
  (arrivals registry ledger bodies).map Entry.what

theorem arriving_cons (body : Octets) (bodies : List Octets) :
    arriving registry ledger (body :: bodies)
      = .arrived body (conclude registry ledger body).2
        :: arriving registry (conclude registry ledger body).1 bodies := by
  rw [arriving, arrivals_cons]
  rfl

theorem length_arriving (bodies : List Octets) :
    (arriving registry ledger bodies).length = bodies.length := by
  induction bodies generalizing ledger with
  | nil => rfl
  | cons body bodies ih => rw [arriving_cons, List.length_cons, ih, List.length_cons]

theorem arriving_append (first second : List Octets) :
    arriving registry ledger (first ++ second)
      = arriving registry ledger first
        ++ arriving registry (concludeAll registry ledger first).1 second := by
  rw [arriving, arrivals_append, List.map_append]
  rfl

/-- **Bodies that are all apart have the events that each has by itself.** -/
theorem arriving_of_pairwise {bodies : List Octets} (h : bodies.Pairwise Apart) :
    arriving registry ledger bodies
      = bodies.map fun body ↦ .arrived body (conclude registry ledger body).2 := by
  induction bodies generalizing ledger with
  | nil => rfl
  | cons body bodies ih =>
    obtain ⟨hbody, hbodies⟩ := List.pairwise_cons.1 h
    rw [arriving_cons, ih _ hbodies, List.map_cons]
    congr 1
    refine List.map_congr_left fun other hother ↦ ?_
    rw [event_conclude_of_apart registry ledger (hbody other hother)]

/-- **Neighbours that are apart can change places**, whatever comes before and behind them. -/
theorem arriving_swap {first second : Octets} (h : Apart first second)
    (before after : List Octets) :
    ∃ past x y later, past.length = before.length
      ∧ arriving registry ledger (before ++ first :: second :: after)
        = past ++ .arrived first x :: .arrived second y :: later
      ∧ arriving registry ledger (before ++ second :: first :: after)
        = past ++ .arrived second y :: .arrived first x :: later := by
  -- the ledger that both of them meet, and what it is behind them
  let l := (concludeAll registry ledger before).1
  have hledger : (concludeAll registry l [second, first]).1
      = (concludeAll registry l [first, second]).1 :=
    ledger_concludeAll_perm registry l (List.Perm.swap first second [])
  have hpair : [first, second].Pairwise Apart := List.pairwise_pair.2 h
  have hpair' : [second, first].Pairwise Apart := List.pairwise_pair.2 h.symm
  refine ⟨arriving registry ledger before, (conclude registry l first).2,
    (conclude registry l second).2,
    arriving registry (concludeAll registry l [first, second]).1 after,
    length_arriving registry ledger before, ?_, ?_⟩
  · have hafter := arriving_append registry l [first, second] after
    rw [arriving_of_pairwise registry l hpair] at hafter
    rw [arriving_append]
    exact congrArg (arriving registry ledger before ++ ·) hafter
  · have hafter := arriving_append registry l [second, first] after
    rw [arriving_of_pairwise registry l hpair', hledger] at hafter
    rw [arriving_append]
    exact congrArg (arriving registry ledger before ++ ·) hafter

end Bodies

/-! ### Courses -/

namespace Course

variable {τ : Type}

/-- A course after some more chunks. -/
def receiveAll (transport : Transport τ) (c : Course τ) (chunks : List Octets) : Course τ :=
  c.performAll transport (chunks.map .receive)

/-- A course after one more chunk. -/
theorem perform_receive (transport : Transport τ) {c : Course τ} {limit : Nat}
    {phase : Framer.Phase} {rest : Octets} (h : c.endpoint.framer.StandsAt limit phase rest)
    (chunk : Octets) :
    let s := Framer.split limit phase (rest ++ chunk)
    let concluded := concludeAll c.endpoint.registry c.endpoint.ledger s.bodies
    ∃ framer, c.perform transport (.receive chunk)
        = { c with
            endpoint := { c.endpoint with framer := framer, ledger := concluded.1 }
            history := c.history ++ arrivals c.endpoint.registry c.endpoint.ledger s.bodies
            received := c.received ++ c.endpoint.sink.taken concluded.2 }
      ∧ framer.StandsAt limit s.phase s.rest := by
  intro s concluded
  have hbodies : c.endpoint.framer.completed chunk = s.bodies := by
    rw [Framer.completed, h.limit_eq, h.phase_eq, h.contents_eq]
  obtain ⟨framer, hreceive, hstands⟩ := value_receive h chunk
  refine ⟨framer, ?_, hstands⟩
  simp only [perform, hreceive, hbodies]
  rfl

/-- **What chunks do to a course is told by the bodies that they complete.** -/
theorem receiveAll_eq (transport : Transport τ) {c : Course τ} {limit : Nat} {phase : Framer.Phase}
    {rest : Octets} (h : c.endpoint.framer.StandsAt limit phase rest) (chunks : List Octets) :
    let s := Framer.splitChunks limit phase rest chunks
    let concluded := concludeAll c.endpoint.registry c.endpoint.ledger s.bodies
    ∃ framer, c.receiveAll transport chunks
        = { c with
            endpoint := { c.endpoint with framer := framer, ledger := concluded.1 }
            history := c.history ++ arrivals c.endpoint.registry c.endpoint.ledger s.bodies
            received := c.received ++ c.endpoint.sink.taken concluded.2 }
      ∧ framer.StandsAt limit s.phase s.rest := by
  induction chunks generalizing c phase rest with
  | nil =>
    refine ⟨c.endpoint.framer, ?_, h⟩
    simp [receiveAll, performAll, Framer.splitChunks, concludeAll, arrivals, Sink.taken]
  | cons chunk chunks ih =>
    obtain ⟨framer, hfirst, hstands⟩ := perform_receive transport h chunk
    obtain ⟨framer', hrest, hstands'⟩ := ih (c := c.perform transport (.receive chunk))
      (by rw [hfirst]; exact hstands)
    refine ⟨framer', ?_, hstands'⟩
    rw [receiveAll] at hrest ⊢
    rw [List.map_cons, performAll, List.foldl_cons]
    rw [performAll] at hrest
    rw [hrest, hfirst]
    simp only [Framer.splitChunks, concludeAll_append, arrivals_append, Sink.taken_append,
      List.append_assoc]

/-- **What chunks do to a course that is between parcels is told by the bodies that they carry.** -/
theorem receiveAll_of_carries (transport : Transport τ) {c : Course τ} (hstands : c.Stands)
    (hempty : c.endpoint.framer.isEmpty = true) {chunks bodies : List Octets}
    (h : Framer.Carries c.endpoint.framer.limit chunks bodies) :
    let d := c.receiveAll transport chunks
    let happenings := arriving c.endpoint.registry c.endpoint.ledger bodies
    d.endpoint.ledger = (concludeAll c.endpoint.registry c.endpoint.ledger bodies).1
      ∧ d.happenings = c.happenings ++ happenings
      ∧ d.received = c.received ++ c.endpoint.sink.taken (events happenings) := by
  have hphase : c.endpoint.framer.phase = .awaitingSize ∧ c.endpoint.framer.ring.contents = [] := by
    simpa [Framer.isEmpty, Ring.isEmpty, ← Ring.length_contents, and_comm] using hempty
  obtain ⟨framer, hreceive, -⟩ := receiveAll_eq transport hstands chunks
  rw [hphase.1, hphase.2, Framer.splitChunks_of_carries h] at hreceive
  intro d happenings
  have hd : d = _ := hreceive
  rw [hd]
  refine ⟨rfl, List.map_append, ?_⟩
  rw [← events_arrivals]
  rfl

/-! ### Any order -/

/-- **Answers may arrive in any order.** The endpoint has been through any operations and is between
parcels, and is given bodies that are framed and cut into chunks anywhere. If no two of them answer
under the same token, then in whatever order and in whatever chunks they come, the same requests are
pending in the end, and each body has the same event, or none. And whatever the bodies are, two
neighbours that do not answer under the same token can change places: the same requests are pending
in the end, and all events are the same, but for the places of these two. -/
theorem any_order (transport : Transport τ) (config : Config) (wire : τ)
    (operations : List Operation)
    (hempty : ((fresh config wire).performAll transport operations).endpoint.framer.isEmpty
      = true) :
    let c := (fresh config wire).performAll transport operations
    let limit := c.endpoint.framer.limit
    (∀ bodies : List Octets, bodies.Pairwise Apart → ∃ ledger, ∃ event? : Octets → Option Event,
        ∀ order chunks, order.Perm bodies → Framer.Carries limit chunks order →
          let d := c.receiveAll transport chunks
          d.endpoint.ledger = ledger ∧ d.endpoint.pendingRequests = ledger.size
            ∧ d.happenings = c.happenings ++ order.map (fun body ↦ .arrived body (event? body))
            ∧ d.received = c.received ++ config.sink.taken (order.filterMap event?))
      ∧ ∀ before first second behind chunks chunks', Apart first second →
        Framer.Carries limit chunks (before ++ first :: second :: behind) →
        Framer.Carries limit chunks' (before ++ second :: first :: behind) →
          let d := c.receiveAll transport chunks
          let d' := c.receiveAll transport chunks'
          d.endpoint.ledger = d'.endpoint.ledger
            ∧ d.endpoint.pendingRequests = d'.endpoint.pendingRequests
            ∧ ∃ past x y later, past.length = before.length
              ∧ let forth := past ++ .arrived first x :: .arrived second y :: later
                let back := past ++ .arrived second y :: .arrived first x :: later
                d.happenings = c.happenings ++ forth ∧ d'.happenings = c.happenings ++ back
                  ∧ d.received = c.received ++ config.sink.taken (events forth)
                  ∧ d'.received = c.received ++ config.sink.taken (events back) := by
  intro c limit
  have hstands : c.Stands := stands_performAll transport config wire operations
  obtain ⟨hsink, hreceived⟩ : c.Recorded config.sink :=
    recorded_performAll transport config wire operations
  refine ⟨fun bodies hapart ↦ ?_, fun before first second behind chunks chunks' hapart h h' ↦ ?_⟩
  · refine ⟨(concludeAll c.endpoint.registry c.endpoint.ledger bodies).1,
      fun body ↦ (conclude c.endpoint.registry c.endpoint.ledger body).2,
      fun order chunks hperm h ↦ ?_⟩
    obtain ⟨hledger, hhappenings, hevents⟩ := receiveAll_of_carries transport hstands hempty h
    have horder : order.Pairwise Apart := (hperm.pairwise_iff fun h ↦ Apart.symm h).2 hapart
    rw [arriving_of_pairwise _ _ horder] at hhappenings hevents
    have hpending := hledger.trans (ledger_concludeAll_perm _ _ hperm)
    refine ⟨hpending, congrArg Ledger.size hpending, hhappenings, ?_⟩
    rw [hevents, hsink, events, List.filterMap_map]
    rfl
  · obtain ⟨hledger, hhappenings, hevents⟩ := receiveAll_of_carries transport hstands hempty h
    obtain ⟨hledger', hhappenings', hevents'⟩ := receiveAll_of_carries transport hstands hempty h'
    obtain ⟨past, x, y, later, hlength, hforth, hback⟩ :=
      arriving_swap c.endpoint.registry c.endpoint.ledger hapart before behind
    have hswap : (before ++ first :: second :: behind).Perm (before ++ second :: first :: behind) :=
      (List.Perm.swap second first behind).append_left before
    have hpending := hledger.trans
      ((ledger_concludeAll_perm _ _ hswap).trans hledger'.symm)
    rw [hforth, hsink] at hevents
    rw [hforth] at hhappenings
    rw [hback, hsink] at hevents'
    rw [hback] at hhappenings'
    exact ⟨hpending, congrArg Ledger.size hpending, past, x, y, later, hlength, hhappenings,
      hhappenings', hevents, hevents'⟩

/-- Two requests are sent, and their answers come in the other order, with a notification and a body
that is no parcel in between. -/
theorem any_order_of_two_answers :
    let c := (fresh { incoming := 4, outgoing := 4 } ()).performAll Transport.absent
      [.send .getImei [], .send .getImsi []]
    let imei : Octets := [0, 0, 0, 0, 1, 0, 0, 0, 2, 0, 0, 0]
    let imsi : Octets := [0, 0, 0, 0, 2, 0, 0, 0, 3, 0, 0, 0]
    let ring : Octets := [1, 0, 0, 0, 0xfa, 3, 0, 0]
    let bodies := [imei, ring, [7], imsi]
    let order := [imsi, [7], ring, imei]
    let chunks := [(order.flatMap Framer.frame).take 6, (order.flatMap Framer.frame).drop 6]
    c.endpoint.framer.isEmpty = true ∧ bodies.Pairwise Apart ∧ order.Perm bodies
      ∧ Framer.Carries c.endpoint.framer.limit chunks order
      ∧ (∃ event? : Octets → Option Event,
        (c.receiveAll Transport.absent chunks).received
          = c.received ++ Sink.attached.taken (order.filterMap event?))
      ∧ (c.receiveAll Transport.absent chunks).received
        = [.requestFailed .getImsi 2 3, .notification .callRing .ack, .requestFailed .getImei 1 2]
      ∧ (c.receiveAll Transport.absent chunks).endpoint.pendingRequests = 0 := by
  intro c imei imsi ring bodies order chunks
  have hempty : c.endpoint.framer.isEmpty = true := by decide +kernel
  have hapart : bodies.Pairwise Apart := pairwise_apart_iff.2 (by decide +kernel)
  have hperm : order.Perm bodies := by decide
  have hcarries : Framer.Carries c.endpoint.framer.limit chunks order :=
    ⟨by decide +kernel, by decide +kernel⟩
  obtain ⟨horder, -⟩ := any_order Transport.absent { incoming := 4, outgoing := 4 } ()
    [.send .getImei [], .send .getImsi []] hempty
  obtain ⟨ledger, event?, hall⟩ := horder bodies hapart
  obtain ⟨-, -, -, hreceived⟩ := hall order chunks hperm hcarries
  exact ⟨hempty, hapart, hperm, hcarries, ⟨event?, hreceived⟩, by decide +kernel,
    by decide +kernel⟩

end Course

end Endpoint

end ParcelLink
