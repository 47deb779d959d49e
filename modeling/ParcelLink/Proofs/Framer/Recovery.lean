import ParcelLink.Proofs.Framer.Bounds

/-!
# A framer recovers from a refused size

A size that is not believed ends what can be framed: no boundary can be found behind it. The parcels
in front of it are handed out as ever, everything else is thrown away, and the framer starts over
(`Framer.recovers_performAll`). Its ring keeps the bytes that were written into it, and whatever
capacity it has grown to. None of this can be seen afterwards: what a framer does depends only on the
place of the stream at which it stands (`Framer.StandsAt.alike`), and that place is the beginning.

That nothing but a refused size makes the framer throw bytes away is `Framer.frames_split`; that a
size which is refused was met in the stream is `Framer.meets_of_refused`.

## Main definitions

* `Framer.Meets`: a stream has a size, behind parcels that are believed.
* `Framer.LikeFresh`: a framer can not be told from a fresh one.
-/

namespace ParcelLink.Framer

variable {σ : Type}

/-! ### Two framers at one place -/

/-- **What a framer does depends only on where it stands.** Two framers at the same place of a stream
give the same answers to the same chunks, chunk by chunk, and stand at the same place behind them. -/
theorem StandsAt.alike {f g : Framer} {limit : Nat} {phase : Phase} {rest : Octets}
    (hf : f.StandsAt limit phase rest) (hg : g.StandsAt limit phase rest)
    (handler : σ → Reading (Logged σ)) (chunks : List Octets) (state : σ) :
    ∃ f' g' answers phase' rest', (f.pushAll handler chunks state).value = (f', answers)
      ∧ (g.pushAll handler chunks state).value = (g', answers)
      ∧ f'.StandsAt limit phase' rest' ∧ g'.StandsAt limit phase' rest' := by
  induction chunks generalizing f g phase rest state with
  | nil => exact ⟨f, g, (state, []), phase, rest, rfl, rfl, hf, hg⟩
  | cons chunk chunks ih =>
    obtain ⟨f₁, hpush, hf₁⟩ := value_push hf chunk handler state
    obtain ⟨g₁, hpush', hg₁⟩ := value_push hg chunk handler state
    obtain ⟨f₂, g₂, answers, phase', rest', hrest, hrest', hf₂, hg₂⟩ := ih hf₁ hg₁
      ((split limit phase (rest ++ chunk)).bodies.foldl (digest handler) state)
    refine ⟨f₂, g₂, (answers.1, (split limit phase (rest ++ chunk)).bodies.length :: answers.2),
      phase', rest', ?_, ?_, hf₂, hg₂⟩
    · simp only [pushAll, Logged.value_bind, hpush, hrest, Logged.value_pure]
    · simp only [pushAll, Logged.value_bind, hpush', hrest', Logged.value_pure]

/-- A framer that can not be told from a fresh one of any capacity: given the same chunks and the same
handler, both leave the handler in the same state and give the same counts of parcels, and as many
bytes wait behind them, for a body of the same size if one is awaited. -/
def LikeFresh (f : Framer) (limit : Nat) : Prop :=
  ∀ (capacity : Nat) {σ : Type} (handler : σ → Reading (Logged σ)) (state : σ)
    (chunks : List Octets),
    let pushed := (f.pushAll handler chunks state).value
    let fresh := ((ofCapacity capacity limit).pushAll handler chunks state).value
    pushed.2 = fresh.2 ∧ pushed.1.pending = fresh.1.pending
      ∧ pushed.1.currentSize? = fresh.1.currentSize?

/-- A framer that waits for a size with nothing buffered can not be told from a fresh one. -/
theorem likeFresh_of_standsAt {f : Framer} {limit : Nat} (h : f.StandsAt limit .awaitingSize []) :
    f.LikeFresh limit := by
  intro capacity σ handler state chunks pushed fresh
  obtain ⟨f', g', answers, phase, rest, hf, hg, hf', hg'⟩ :=
    h.alike (standsAt_ofCapacity capacity limit) handler chunks state
  have hsize : ∀ f : Framer, f.currentSize? = f.phase.size? := fun _ ↦ rfl
  have hpending : ∀ f : Framer, f.pending = f.ring.contents.length := fun f ↦
    (Ring.length_contents f.ring).symm
  simp only [pushed, fresh, hf, hg, hsize, hpending, hf'.phase_eq, hg'.phase_eq, hf'.contents_eq,
    hg'.contents_eq, and_self]

/-! ### Sizes in a stream -/

/-- Behind some parcels, whose sizes are all believed, a stream has a size and a rest. -/
structure Meets (stream : Octets) (limit : Nat) (bodies : List Octets) (size : Nat) (rest : Octets) :
    Prop where
  believed : ∀ body ∈ bodies, body.length ≤ limit
  size_lt : size < UInt32.size
  stream_eq : stream = bodies.flatMap frame ++ (Octets.big sizeWidth size ++ rest)

/-- A size that has been read can be put back. -/
theorem split_announced {limit : Nat} {phase : Phase} (h : phase.Believed limit) (bytes : Octets) :
    split limit .awaitingSize (phase.announced ++ bytes) = split limit phase bytes := by
  cases phase with
  | awaitingSize => rfl
  | awaitingBody size =>
    obtain ⟨hle, hlt⟩ := h
    rw [Phase.announced, split_big_append limit hlt, if_neg (Nat.not_lt.2 hle)]

/-- The split of a stream that has a size: the bodies in front of it, then what comes of the size. -/
theorem Meets.split_eq {stream : Octets} {limit : Nat} {bodies : List Octets} {size : Nat}
    {rest : Octets} (h : Meets stream limit bodies size rest) (hlimit : limit ≤ size) :
    split limit .awaitingSize stream
      = let t := if limit < size then ⟨[], .awaitingSize, [], some size⟩
          else split limit (.awaitingBody size) rest
        { t with bodies := bodies ++ t.bodies } := by
  obtain ⟨hbelieved, hsize, rfl⟩ := h
  have hbodies : ∀ body ∈ bodies, body.length ≤ limit ∧ body.length < UInt32.size := by
    intro body hbody
    have hle := hbelieved body hbody
    omega
  rw [split_flatMap_frame_append hbodies, split_big_append limit hsize]

/-- **A size that a split refuses was met in the stream**, behind the bodies of the split. -/
theorem meets_of_refused {limit : Nat} {phase : Phase} {bytes : Octets} {size : Nat}
    (hphase : phase.Believed limit) (h : (split limit phase bytes).refused? = some size) :
    limit < size ∧ ∃ lost,
      Meets (phase.announced ++ bytes) limit (split limit phase bytes).bodies size lost := by
  fun_induction split limit phase bytes with
  | case1 | case4 => simp at h
  | case2 bytes hlong size' hlim =>
    obtain rfl := Option.some.inj h
    refine ⟨hlim, bytes.drop sizeWidth, ?_, ofBig_take_lt hlong, ?_⟩
    · simp
    · rw [big_ofBig_take hlong, List.take_append_drop]
      rfl
  | case3 bytes hlong size' hlim ih =>
    have hmeets := ih ⟨Nat.le_of_not_lt hlim, ofBig_take_lt hlong⟩ h
    rwa [Phase.announced, big_ofBig_take hlong, List.take_append_drop] at hmeets
  | case5 size' bytes hlong ih =>
    obtain ⟨hlimit, lost, hbelieved, hlt, heq⟩ := ih trivial h
    have hlen : (bytes.take size').length = size' :=
      List.length_take_of_le (Nat.le_of_not_lt hlong)
    refine ⟨hlimit, lost, ?_, hlt, ?_⟩
    · simp only [Split.cons, List.forall_mem_cons, hlen]
      exact ⟨hphase.1, hbelieved⟩
    · rw [Phase.announced, List.nil_append] at heq
      rw [Split.cons, List.flatMap_cons, List.append_assoc, ← heq, frame, hlen, List.append_assoc,
        List.take_append_drop, Phase.announced]

/-! ### Recovery -/

/-- What a chunk does, told by the split of the stream since the last size: of that size, if there is
one, of the bytes held back and of the chunk. -/
theorem Settled.value_push {f : Framer} {limit : Nat} (h : f.Settled) (hlimit : f.limit = limit)
    (chunk : Octets) (handler : σ → Reading (Logged σ)) (state : σ) {s : Split}
    (hs : split limit .awaitingSize (f.phase.announced ++ (f.ring.contents ++ chunk)) = s) :
    (f.push chunk keeper []).value.2.1 = s.bodies
      ∧ ∃ f', (f.push chunk handler state).value
          = (f', s.bodies.foldl (digest handler) state, s.bodies.length)
        ∧ f'.StandsAt limit s.phase s.rest := by
  subst hlimit hs
  rw [split_announced h.believed]
  obtain ⟨f', hkeep, -⟩ := Framer.value_push h.standsAt chunk keeper []
  rw [hkeep, foldl_digest_keeper]
  exact ⟨rfl, Framer.value_push h.standsAt chunk handler state⟩

/-- **A framer recovers from a size that is not believed.** Whatever has been done to it, let the
stream be the size that it has read, if any, the bytes that it holds back, and the next chunk. If the
stream has a size above the limit, then exactly the parcels in front of that size are handed out,
every other byte is thrown away, and the framer waits for a size; from then on, as after all bytes
have been forgotten, it can not be told from a fresh framer of any capacity. If the stream has no such
size, nothing is thrown away. A size that is equal to the limit is believed: its body is awaited, or
handed out if all of it is there. -/
theorem recovers_performAll (capacity limit : Nat) (operations : List Operation) (chunk : Octets)
    (handler : σ → Reading (Logged σ)) (state : σ) :
    let f := (ofCapacity capacity limit).performAll operations
    let stream := f.phase.announced ++ (f.ring.contents ++ chunk)
    let pushed := (f.push chunk handler state).value
    let kept := (f.push chunk keeper []).value.2.1
    (∀ bodies size lost, Meets stream limit bodies size lost → limit < size →
        pushed.2 = (bodies.foldl (digest handler) state, bodies.length) ∧ kept = bodies
          ∧ pushed.1.phase = .awaitingSize ∧ pushed.1.ring.contents = []
          ∧ pushed.1.LikeFresh limit)
      ∧ ((∀ bodies size lost, Meets stream limit bodies size lost → size ≤ limit) →
          stream = kept.flatMap frame ++ (pushed.1.phase.announced ++ pushed.1.ring.contents))
      ∧ f.clear.LikeFresh limit
      ∧ ∀ bodies rest, Meets stream limit bodies limit rest →
          (rest.length < limit → kept = bodies ∧ pushed.1.phase = .awaitingBody limit
            ∧ pushed.1.ring.contents = rest)
          ∧ (limit ≤ rest.length → ∃ more, kept = bodies ++ rest.take limit :: more) := by
  intro f stream pushed kept
  obtain ⟨hsettled, hlimit⟩ : f.Settled ∧ f.limit = limit :=
    settled_performAll capacity limit operations
  have hclear : f.clear.StandsAt limit .awaitingSize [] :=
    ⟨Ring.valid_clear hsettled.valid, hlimit, rfl, rfl⟩
  refine ⟨fun bodies size lost hmeets hlt ↦ ?_, fun hnone ↦ ?_, likeFresh_of_standsAt hclear,
    fun bodies rest hmeets ↦ ?_⟩
  · have hsplit := hmeets.split_eq (Nat.le_of_lt hlt)
    simp only [if_pos hlt, List.append_nil] at hsplit
    obtain ⟨hkept, f', hpush, hstands⟩ := hsettled.value_push hlimit chunk handler state hsplit
    have hpushed : pushed = _ := hpush
    rw [hpushed]
    exact ⟨rfl, hkept, hstands.phase_eq, hstands.contents_eq, likeFresh_of_standsAt hstands⟩
  · have hrefused : (split limit .awaitingSize stream).refused? = none := by
      rw [Option.eq_none_iff_forall_ne_some]
      intro size hsome
      have hbelieved : Phase.awaitingSize.Believed limit := trivial
      obtain ⟨hlt, lost, hmeets⟩ := meets_of_refused hbelieved hsome
      exact absurd (hnone _ size lost hmeets) (Nat.not_le.2 hlt)
    obtain ⟨hkept, f', hpush, hstands⟩ := hsettled.value_push hlimit chunk handler state rfl
    simp only [pushed, kept, hpush, hkept, hstands.phase_eq, hstands.contents_eq]
    exact frames_split limit .awaitingSize stream hrefused
  · have hsplit := hmeets.split_eq (Nat.le_refl limit)
    simp only [if_neg (Nat.lt_irrefl limit)] at hsplit
    obtain ⟨hkept, f', hpush, hstands⟩ := hsettled.value_push hlimit chunk handler state hsplit
    simp only [pushed, kept, hpush, hkept, hstands.phase_eq, hstands.contents_eq]
    rw [split_awaitingBody]
    refine ⟨fun hshort ↦ ?_, fun hwhole ↦ ?_⟩
    · rw [if_pos hshort, List.append_nil]
      exact ⟨rfl, rfl, rfl⟩
    · rw [if_neg (Nat.not_lt.2 hwhole)]
      exact ⟨_, rfl⟩

/-- With a limit of five, a body of five bytes comes in two chunks, then a size of six. The body is
handed out, the size is refused, and old bytes are left in the ring. -/
theorem recovers_of_refused_size :
    let operations := [[0, 0, 0, 2, 8, 9], [0, 0, 0, 5, 1, 2]].map fun chunk ↦
      Operation.push keeper [] chunk
    let f := (ofCapacity 0 5).performAll operations
    let chunk : Octets := [3, 4, 5, 0, 0, 0, 6, 7, 7, 7]
    let pushed := (f.push chunk keeper []).value
    Meets (f.phase.announced ++ (f.ring.contents ++ chunk)) 5 [[1, 2, 3, 4, 5]] 6 [7, 7, 7] ∧ 5 < 6
      ∧ pushed.2 = ([[1, 2, 3, 4, 5]], 1) ∧ pushed.1.ring.bytes ≠ (Ring.ofCapacity 0).bytes
      ∧ pushed.1.LikeFresh 5 := by
  intro operations f chunk pushed
  have hmeets : Meets (f.phase.announced ++ (f.ring.contents ++ chunk)) 5 [[1, 2, 3, 4, 5]] 6
      [7, 7, 7] := ⟨by decide, by decide, by decide +kernel⟩
  obtain ⟨hrefused, -⟩ := recovers_performAll 0 5 operations chunk keeper []
  obtain ⟨-, -, -, -, hfresh⟩ := hrefused _ 6 _ hmeets (by decide)
  exact ⟨hmeets, by decide, by decide +kernel, by decide +kernel, hfresh⟩

end ParcelLink.Framer
