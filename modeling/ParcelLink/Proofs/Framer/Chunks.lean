import Mathlib.Algebra.GroupWithZero.Nat
import ParcelLink.Proofs.Framer.Stream
import ParcelLink.Proofs.Reading.Agreement
import ParcelLink.Proofs.Ring.Queue

/-!
# Framing does not depend on the chunks

A framer sees a stream through a ring, in chunks that are cut anywhere, and hands out bodies through
windows on that ring. What it does can be said without any of these: the bodies are those of the
split of the stream, and the handler meets each of them as if it were read by itself.

The handler is arbitrary, and this is what the argument turns on. A window agrees with the body by
itself (`Window.agree`), so the handler ends in the same state; and since going on behind the body
depends only on what the handler cannot change, the framer is left as if the body had been skipped
(`Framer.value_deliver`). One step of the framer is then one step of the split
(`Framer.value_advance`), a chunk is a split of what was buffered and the chunk
(`Framer.value_push`), and the chunks together are a split of the stream by `Framer.split_append`.
The framer behind a chunk is the same for every handler, to the last byte of its buffer
(`Framer.framer_push`).

## Main definitions

* `Framer.digest`: what a handler makes of a body by itself.
* `Framer.StandsAt`: a framer has a valid ring, and stands at a place of the stream.
* `Framer.pushAll`: take in chunks one after the other.
* `Framer.Sight`: what can be seen of a framer behind a stream.
* `Framer.keeper`: a handler that keeps the bodies that it is given.
-/

namespace ParcelLink

/-! ### The window and the body by itself -/

/-- A window shows an excerpt: the ring has the rest of the excerpt in front of the bytes `behind`,
and its buffer is that of the ring that the window was opened on. -/
structure Window.Shows (ring : Ring) (behind : Octets) (w : Window) (x : Excerpt) : Prop where
  valid : w.ring.Valid
  contents_eq : w.ring.contents = x.rest ++ behind
  remaining_eq : w.remaining = x.rest.length
  consumed_eq : w.consumed = x.consumed
  bytes_eq : w.ring.bytes = ring.bytes
  writeIndex_eq : w.ring.writeIndex = ring.writeIndex

namespace Window

/-- A fresh window shows the bytes that it was opened on. -/
theorem shows_ofRing {ring : Ring} (h : ring.Valid) {body behind : Octets}
    (hc : ring.contents = body ++ behind) :
    Shows ring behind (ofRing ring body.length) (Excerpt.ofOctets body) :=
  ⟨h, hc, rfl, rfl, rfl, rfl⟩

/-- **A window answers like the body by itself**: no reading gets at the bytes behind the body. -/
theorem agree (ring : Ring) (behind : Octets) : Source.Agree (Shows ring behind) where
  whole_eq := rfl
  left_eq h := h.remaining_eq
  next?_eq_none := by
    rintro w ⟨_ | ⟨b, rest⟩, consumed⟩ h ht
    · show w.next? = none
      have hrem : w.remaining = 0 := h.remaining_eq
      rw [next?, if_pos hrem]
    · cases ht
  next?_eq_some := by
    rintro w ⟨_ | ⟨b, rest⟩, consumed⟩ b' x' h ht
    · cases ht
    · obtain ⟨rfl, rfl⟩ : b = b' ∧ (⟨rest, consumed + 1⟩ : Excerpt) = x' := by
        simpa [Source.next?, Excerpt.next?] using ht
      have hc : w.ring.contents = b :: (rest ++ behind) := h.contents_eq
      obtain ⟨ring', hnext, hvalid, hcontents, hbytes, hwrite⟩ := Ring.next?_of_contents h.valid hc
      refine ⟨⟨ring', w.remaining - 1, w.consumed + 1⟩, ?_, ?_⟩
      · show w.next? = _
        have hrem : w.remaining ≠ 0 := by simp [h.remaining_eq]
        rw [next?, if_neg hrem, hnext, Option.map_some]
      · refine ⟨hvalid, hcontents, ?_, ?_, hbytes.trans h.bytes_eq, hwrite.trans h.writeIndex_eq⟩
        · simp [h.remaining_eq]
        · simp [h.consumed_eq]

end Window

namespace Framer

variable {σ : Type}

/-! ### One parcel -/

/-- What a handler makes of a body by itself. -/
def digest (handler : σ → Reading (Logged σ)) (state : σ) (body : Octets) : σ :=
  ((handler state).run (Excerpt.ofOctets body)).1.value

/-- A framer with a valid ring that stands at a place of a stream: what comes next there, and which
bytes are buffered. -/
structure StandsAt (f : Framer) (limit : Nat) (phase : Phase) (rest : Octets) : Prop where
  valid : f.ring.Valid
  limit_eq : f.limit = limit
  phase_eq : f.phase = phase
  contents_eq : f.ring.contents = rest

/-- A fresh framer stands at the beginning of its stream. -/
theorem standsAt_ofCapacity (capacity limit : Nat) :
    (ofCapacity capacity limit).StandsAt limit .awaitingSize [] :=
  ⟨Ring.valid_ofCapacity capacity, rfl, rfl, rfl⟩

/-- **The framer goes on behind the body, whatever the handler reads**, and the handler meets the
body as if it were read by itself. -/
theorem value_deliver (f : Framer) {size : Nat} (hv : f.ring.Valid) (hs : size ≤ f.ring.unread)
    (handler : σ → Reading (Logged σ)) (state : σ) :
    (f.deliver size handler state).value
      = ({ f with ring := f.ring.skip size, phase := .awaitingSize },
          digest handler state (f.ring.contents.take size)) := by
  have hlen : (f.ring.contents.take size).length = size := by simp [hs]
  have hshows := Window.shows_ofRing hv (List.take_append_drop size f.ring.contents).symm
  rw [hlen] at hshows
  -- wherever the handler has left its window, the buffer behind it is the one of the framer
  obtain ⟨hstate, hwindow⟩ := (Window.agree _ _).run (handler state) hshows
  simp only [deliver, digest, hstate]
  rw [Ring.reposition_indexAfter hwindow.bytes_eq hwindow.writeIndex_eq]

/-- The framer finds the next size where the split does, and stands behind it afterwards. -/
theorem value_nextSize {f : Framer} {limit : Nat} {phase : Phase} {rest : Octets}
    (h : f.StandsAt limit phase rest) :
    (∃ f', f.nextSize.value = (f', none) ∧ (split limit phase rest).bodies = []
        ∧ f'.StandsAt limit (split limit phase rest).phase (split limit phase rest).rest)
      ∨ ∃ f' size rest', f.nextSize.value = (f', some size)
        ∧ f'.StandsAt limit (.awaitingBody size) rest'
        ∧ split limit phase rest = split limit (.awaitingBody size) rest' := by
  obtain ⟨hvalid, rfl, rfl, rfl⟩ := h
  rcases hp : f.phase with - | size
  · rw [split_awaitingSize, Ring.length_contents, ← Ring.peek_eq_take]
    simp only [nextSize, hp]
    by_cases hshort : f.ring.unread < sizeWidth
    · rw [if_pos hshort, if_pos hshort]
      exact .inl ⟨f, rfl, rfl, hvalid, rfl, hp, rfl⟩
    · have hskip := Ring.valid_skip hvalid (Nat.le_of_not_lt hshort)
      rw [if_neg hshort, if_neg hshort]
      by_cases hlimit : f.limit < Octets.ofBig (f.ring.peek sizeWidth)
      · rw [if_pos hlimit, if_pos hlimit]
        exact .inl ⟨_, rfl, rfl, Ring.valid_clear hskip, rfl, rfl, rfl⟩
      · rw [if_neg hlimit, if_neg hlimit]
        exact .inr ⟨_, _, _, rfl, ⟨hskip, rfl, rfl, Ring.contents_skip hvalid _⟩, rfl⟩
  · simp only [nextSize, hp]
    exact .inr ⟨f, size, _, rfl, ⟨hvalid, rfl, hp, rfl⟩, rfl⟩

/-- **One step of the framer is one step of the split**: it ends where the split has no body, and
otherwise takes the first body off. Which it is, and what becomes of the framer, does not depend on
the handler. -/
theorem advance_cases {f : Framer} {limit : Nat} {phase : Phase} {rest : Octets}
    (h : f.StandsAt limit phase rest) :
    (∃ f', (∀ (handler : σ → Reading (Logged σ)) state,
          (f.advance handler state).value = (f', none))
        ∧ (split limit phase rest).bodies = []
        ∧ f'.StandsAt limit (split limit phase rest).phase (split limit phase rest).rest)
      ∨ ∃ f' body rest', (∀ (handler : σ → Reading (Logged σ)) state,
          (f.advance handler state).value = (f', some (digest handler state body)))
        ∧ f'.StandsAt limit .awaitingSize rest'
        ∧ split limit phase rest = (split limit .awaitingSize rest').cons body := by
  obtain ⟨f₁, hsize, hnone, hstands⟩ | ⟨f₁, size, rest₁, hsize, hstands, hsplit⟩ := value_nextSize h
  · refine .inl ⟨f₁, fun handler state ↦ ?_, hnone, hstands⟩
    simp only [advance, Logged.value_bind, hsize, Logged.value_pure]
  · simp only [advance, Logged.value_bind, hsize]
    obtain ⟨hvalid, rfl, hphase, rfl⟩ := hstands
    rw [hsplit, split_awaitingBody, Ring.length_contents]
    by_cases hshort : f₁.ring.unread < size
    · rw [if_pos hshort]
      exact .inl ⟨f₁, fun handler state ↦ by rw [if_pos hshort]; rfl, rfl, hvalid, rfl, hphase, rfl⟩
    · have hle : size ≤ f₁.ring.unread := Nat.le_of_not_lt hshort
      rw [if_neg hshort]
      refine .inr ⟨{ f₁ with ring := f₁.ring.skip size, phase := .awaitingSize },
        f₁.ring.contents.take size, f₁.ring.contents.drop size, fun handler state ↦ ?_, ?_, rfl⟩
      · simp only [if_neg hshort, Logged.value_bind, value_deliver f₁ hvalid hle,
          Logged.value_pure]
      · exact ⟨Ring.valid_skip hvalid hle, rfl, rfl, Ring.contents_skip hvalid size⟩

theorem value_advance {f : Framer} {limit : Nat} {phase : Phase} {rest : Octets}
    (h : f.StandsAt limit phase rest) (handler : σ → Reading (Logged σ)) (state : σ) :
    (∃ f', (f.advance handler state).value = (f', none) ∧ (split limit phase rest).bodies = []
        ∧ f'.StandsAt limit (split limit phase rest).phase (split limit phase rest).rest)
      ∨ ∃ f' body rest', (f.advance handler state).value = (f', some (digest handler state body))
        ∧ f'.StandsAt limit .awaitingSize rest'
        ∧ split limit phase rest = (split limit .awaitingSize rest').cons body := by
  obtain ⟨f', hadvance, hsplit⟩ | ⟨f', body, rest', hadvance, hsplit⟩ := advance_cases h
  · exact .inl ⟨f', hadvance handler state, hsplit⟩
  · exact .inr ⟨f', body, rest', hadvance handler state, hsplit⟩

/-! ### All parcels of a chunk -/

theorem value_drain {f : Framer} {limit : Nat} {phase : Phase} {rest : Octets}
    (h : f.StandsAt limit phase rest) (handler : σ → Reading (Logged σ)) (state : σ) (count : Nat)
    (notices : Array Notice) :
    ∃ f', (drain handler f state count notices).value
        = (f', (split limit phase rest).bodies.foldl (digest handler) state,
            count + (split limit phase rest).bodies.length)
      ∧ f'.StandsAt limit (split limit phase rest).phase (split limit phase rest).rest := by
  -- by the steps of the framer, each of which is one of the split
  fun_induction drain handler f state count notices generalizing phase rest with
  | case1 f state count notices f' more hadv =>
    obtain ⟨f₁, hval, hnone, hstands⟩ | ⟨f₁, body, rest', hval, -, -⟩ :=
      value_advance h handler state
    · rw [hadv] at hval
      obtain ⟨rfl, -⟩ := Prod.mk.inj hval
      exact ⟨f', by simp [hnone], hstands⟩
    · rw [hadv] at hval
      simp at hval
  | case2 f state count notices f' state' more hadv ih =>
    obtain ⟨f₁, hval, -, -⟩ | ⟨f₁, body, rest', hval, hstands, hsplit⟩ :=
      value_advance h handler state
    · rw [hadv] at hval
      simp at hval
    · rw [hadv] at hval
      obtain ⟨rfl, hstate⟩ := Prod.mk.inj hval
      obtain rfl := Option.some.inj hstate
      obtain ⟨f₂, hdrain, hstands₂⟩ := ih hstands
      refine ⟨f₂, ?_, by rw [hsplit]; exact hstands₂⟩
      rw [hdrain, hsplit]
      simp [Split.cons, Nat.add_assoc, Nat.add_comm 1]

/-- **A chunk gives the bodies in the split of what was buffered and the chunk**: the handler meets
them in order, each once, and the framer stands where the split ends. -/
theorem value_push {f : Framer} {limit : Nat} {phase : Phase} {rest : Octets}
    (h : f.StandsAt limit phase rest) (chunk : Octets) (handler : σ → Reading (Logged σ))
    (state : σ) :
    let s := split limit phase (rest ++ chunk)
    ∃ f', (f.push chunk handler state).value
        = (f', s.bodies.foldl (digest handler) state, s.bodies.length)
      ∧ f'.StandsAt limit s.phase s.rest := by
  obtain ⟨hvalid, hlimit, hphase, rfl⟩ := h
  have hwritten : { f with ring := (f.ring.write chunk).value : Framer }.StandsAt limit phase
      (f.ring.contents ++ chunk) :=
    ⟨Ring.valid_write hvalid chunk, hlimit, hphase, Ring.contents_write hvalid chunk⟩
  obtain ⟨f', hdrain, hstands⟩ := value_drain hwritten handler state 0 #[]
  refine ⟨f', ?_, hstands⟩
  simp only [push, Logged.value_bind, hdrain, Nat.zero_add]

/-! ### The framer behind a chunk -/

/-- Where the first step ends, nothing more is framed. -/
theorem drain_of_none {handler : σ → Reading (Logged σ)} {f f' : Framer} {state : σ}
    (h : (f.advance handler state).value = (f', none)) (count : Nat) (notices : Array Notice) :
    (drain handler f state count notices).value = (f', state, count) := by
  rw [drain]
  split
  · next hadv =>
    rw [hadv] at h
    obtain ⟨rfl, -⟩ := Prod.mk.inj h
    rfl
  · next hadv =>
    rw [hadv] at h
    cases h

/-- Where the first step frames a parcel, the others follow. -/
theorem drain_of_some {handler : σ → Reading (Logged σ)} {f f' : Framer} {state state' : σ}
    (h : (f.advance handler state).value = (f', some state')) (count : Nat)
    (notices : Array Notice) :
    ∃ notices', drain handler f state count notices
      = drain handler f' state' (count + 1) notices' := by
  conv in drain handler f state count notices => rw [drain]
  split
  · next hadv =>
    rw [hadv] at h
    cases h
  · next hadv =>
    rw [hadv] at h
    cases h
    exact ⟨_, rfl⟩

theorem framer_drain {f : Framer} {limit : Nat} {phase : Phase} {rest : Octets}
    (h : f.StandsAt limit phase rest) (handler handler' : σ → Reading (Logged σ))
    (state state' : σ) (count count' : Nat) (notices notices' : Array Notice) :
    (drain handler' f state' count' notices').value.1
      = (drain handler f state count notices).value.1 := by
  induction hwork : f.work using Nat.strongRecOn
    generalizing f phase rest state state' count count' notices notices' with
  | ind work ih =>
    obtain ⟨f₁, hadvance, -⟩ | ⟨f₁, body, rest', hadvance, hstands, -⟩ :=
      advance_cases (σ := σ) h
    · rw [drain_of_none (hadvance handler state), drain_of_none (hadvance handler' state')]
    · obtain ⟨notices₁, hdrain⟩ := drain_of_some (hadvance handler state) count notices
      obtain ⟨notices₂, hdrain'⟩ := drain_of_some (hadvance handler' state') count' notices'
      have hless : f₁.work < work := hwork ▸ work_lt_of_advance (hadvance handler state)
      rw [hdrain, hdrain']
      exact ih f₁.work hless hstands _ _ _ _ _ _ rfl

/-- **What a chunk makes of the framer does not depend on the handler.** -/
theorem framer_push {f : Framer} (hv : f.ring.Valid) (chunk : Octets)
    (handler handler' : σ → Reading (Logged σ)) (state state' : σ) :
    (f.push chunk handler' state').value.1 = (f.push chunk handler state).value.1 := by
  have hwritten : { f with ring := (f.ring.write chunk).value : Framer }.StandsAt f.limit f.phase
      (f.ring.contents ++ chunk) :=
    ⟨Ring.valid_write hv chunk, rfl, rfl, Ring.contents_write hv chunk⟩
  simp only [push, Logged.value_bind]
  exact framer_drain hwritten handler handler' state state' 0 0 #[] #[]

/-! ### All chunks of a stream -/

/-- Take in chunks one after the other. Next to the state that the handlers left stand the counts of
the parcels that each chunk completed. -/
def pushAll (f : Framer) (handler : σ → Reading (Logged σ)) :
    List Octets → σ → Logged (Framer × σ × List Nat)
  | [], state => pure (f, state, [])
  | chunk :: chunks, state => do
    let (f, state, count) ← f.push chunk handler state
    let (f, state, counts) ← pushAll f handler chunks state
    return (f, state, count :: counts)

theorem value_pushAll {f : Framer} {limit : Nat} {phase : Phase} {rest : Octets}
    (h : f.StandsAt limit phase rest) (handler : σ → Reading (Logged σ)) (chunks : List Octets)
    (state : σ) :
    let s := splitChunks limit phase rest chunks
    ∃ f' counts, (f.pushAll handler chunks state).value
        = (f', s.bodies.foldl (digest handler) state, counts)
      ∧ counts.sum = s.bodies.length
      ∧ f'.StandsAt limit s.phase s.rest := by
  induction chunks generalizing f phase rest state with
  | nil => exact ⟨f, [], rfl, rfl, h⟩
  | cons chunk chunks ih =>
    obtain ⟨f₁, hpush, hstands⟩ := value_push h chunk handler state
    obtain ⟨f₂, counts, hrest, hsum, hstands₂⟩ := ih hstands
      ((split limit phase (rest ++ chunk)).bodies.foldl (digest handler) state)
    refine ⟨f₂, (split limit phase (rest ++ chunk)).bodies.length :: counts, ?_, ?_, hstands₂⟩
    · simp only [pushAll, Logged.value_bind, hpush, hrest, Logged.value_pure, splitChunks,
        List.foldl_append]
    · simp only [List.sum_cons, hsum, splitChunks, List.length_append]

/-- What can be seen of a framer behind a stream. -/
structure Sight (σ : Type) where
  /-- What the handlers left. -/
  state : σ
  /-- How many parcels there were. -/
  parcels : Nat
  /-- The size of the body that is awaited. -/
  currentSize? : Option Nat
  /-- The bytes that wait to be framed. -/
  unread : Octets

/-- What can be seen behind chunks. -/
def Sight.ofPushed (pushed : Framer × σ × List Nat) : Sight σ :=
  ⟨pushed.2.1, pushed.2.2.sum, pushed.1.currentSize?, pushed.1.ring.contents⟩

theorem sight_pushAll {f : Framer} {limit : Nat} {phase : Phase} {rest : Octets}
    (h : f.StandsAt limit phase rest) (handler : σ → Reading (Logged σ)) (chunks : List Octets)
    (state : σ) :
    let s := splitChunks limit phase rest chunks
    Sight.ofPushed (f.pushAll handler chunks state).value
      = ⟨s.bodies.foldl (digest handler) state, s.bodies.length, s.phase.size?, s.rest⟩ := by
  obtain ⟨f', counts, hpushed, hsum, -, -, hphase, hcontents⟩ := value_pushAll h handler chunks state
  have hsize : f'.currentSize? = f'.phase.size? := rfl
  rw [hpushed, Sight.ofPushed, hsum, hsize, hphase, hcontents]

/-- What is seen behind a stream whose sizes are all believed is told by the split of the stream. -/
theorem sight_of_believed (capacity limit : Nat) (handler : σ → Reading (Logged σ)) (state : σ)
    {chunks : List Octets} {stream : Octets} (hstream : chunks.flatten = stream)
    (h : (split limit .awaitingSize stream).refused? = none) :
    let s := split limit .awaitingSize stream
    Sight.ofPushed ((ofCapacity capacity limit).pushAll handler chunks state).value
      = ⟨s.bodies.foldl (digest handler) state, s.bodies.length, s.phase.size?, s.rest⟩ := by
  subst hstream
  have hsplit : splitChunks limit .awaitingSize [] chunks
      = split limit .awaitingSize ([] ++ chunks.flatten) :=
    splitChunks_eq_split chunks (Nat.zero_lt_succ 3) h
  rw [List.nil_append] at hsplit
  rw [← hsplit]
  exact sight_pushAll (standsAt_ofCapacity capacity limit) handler chunks state

/-! ### A handler that keeps what it is given -/

/-- The handler that reads every body to its end and keeps all of them. -/
def keeper (kept : List Octets) : Reading (Logged (List Octets)) :=
  (fun body ↦ pure (kept ++ [body])) <$> Reading.rest

theorem bytesOnto_excerpt (bytes : Octets) (consumed : Nat) (read : List UInt8) :
    ((Reading.bytesOnto bytes.length read).run (⟨bytes, consumed⟩ : Excerpt)).1
      = read.reverse ++ bytes := by
  induction bytes generalizing consumed read with
  | nil => simp [Reading.bytesOnto, Reading.run]
  | cons b rest ih =>
    have htake : Source.take 1 (⟨b :: rest, consumed⟩ : Excerpt)
        = (.ok b.toNat, ⟨rest, consumed + 1⟩) := by
      rw [Excerpt.take_eq, if_neg (by simp)]
      simp [Octets.ofLittle]
    simp only [List.length_cons, Reading.bytesOnto, Reading.run, htake]
    rw [ih]
    simp

theorem digest_keeper (kept : List Octets) (body : Octets) :
    digest keeper kept body = kept ++ [body] := by
  have hbody : (Reading.rest.run (Excerpt.ofOctets body)).1 = body :=
    bytesOnto_excerpt body 0 []
  simp only [digest, keeper, map_eq_pure_bind, Reading.run_bind, hbody, Reading.run_pure,
    Logged.value_pure]

theorem foldl_digest_keeper (bodies kept : List Octets) :
    bodies.foldl (digest keeper) kept = kept ++ bodies := by
  induction bodies generalizing kept with
  | nil => simp
  | cons body bodies ih => rw [List.foldl_cons, digest_keeper, ih, List.append_assoc]; rfl

/-! ### Independence of the chunks -/

/-- **Framing does not depend on the chunks.** A fresh framer that is given a stream in chunks,
every size in it believed, meets the bodies in the split of the stream, in order and each once, and
is left with the undivided rest. A handler that keeps what it is given keeps these bodies; the
stream is these bodies, framed, and the rest, which is too short to go on. Nothing that can be seen
depends on the chunks, or on the first capacity of the ring. -/
theorem sight_of_stream (capacity limit : Nat) (handler : σ → Reading (Logged σ)) (state : σ)
    (chunks : List Octets) (h : (split limit .awaitingSize chunks.flatten).refused? = none) :
    let s := split limit .awaitingSize chunks.flatten
    let pushed := (ofCapacity capacity limit).pushAll handler chunks state
    Sight.ofPushed pushed.value
        = ⟨s.bodies.foldl (digest handler) state, s.bodies.length, s.phase.size?, s.rest⟩
      ∧ ((ofCapacity capacity limit).pushAll keeper chunks []).value.2.1 = s.bodies
      ∧ chunks.flatten = s.bodies.flatMap frame ++ (s.phase.announced ++ s.rest)
      ∧ s.rest.length < s.phase.needs
      ∧ ∀ capacity' chunks', chunks'.flatten = chunks.flatten →
        Sight.ofPushed ((ofCapacity capacity' limit).pushAll handler chunks' state).value
          = Sight.ofPushed pushed.value := by
  intro s pushed
  have hpushed := sight_of_believed capacity limit handler state rfl h
  refine ⟨hpushed, ?_, frames_split limit _ _ h, length_rest_split_lt limit _ _,
    fun capacity' chunks' hchunks ↦ ?_⟩
  · have hkept := congrArg Sight.state (sight_of_believed capacity limit keeper [] rfl h)
    rw [foldl_digest_keeper] at hkept
    exact hkept
  · exact (sight_of_believed capacity' limit handler state hchunks h).trans hpushed.symm

/-- A size cut in two, a body cut in two, and the beginning of another size, through a ring that has
to grow. -/
theorem sight_of_cut_stream :
    (split 4 .awaitingSize [[0, 0], [0, 2, 7], [8, 0, 0, 0]].flatten).refused? = none
      ∧ Sight.ofPushed ((ofCapacity 0 4).pushAll keeper [[0, 0], [0, 2, 7], [8, 0, 0, 0]] []).value
        = ⟨[[7, 8]], 1, none, [0, 0, 0]⟩ := by
  have hsplit : split 4 .awaitingSize [[0, 0], [0, 2, 7], [8, 0, 0, 0]].flatten
      = ⟨[[7, 8]], .awaitingSize, [0, 0, 0], none⟩ := by decide +kernel
  have hrefused := congrArg Split.refused? hsplit
  refine ⟨hrefused, ?_⟩
  rw [(sight_of_stream 0 4 keeper [] _ hrefused).1, hsplit]
  rfl

end Framer

end ParcelLink
