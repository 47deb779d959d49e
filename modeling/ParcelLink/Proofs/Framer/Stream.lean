import ParcelLink.Framer.Split

/-!
# A stream and its split

`Framer.split` takes a stream apart. Here it is put together again: a stream is its bodies, each
with its size in front, then the size that was read last, if any, then too few bytes to go on
(`Framer.frames_split`, `Framer.length_rest_split_lt`). So a split leaves nothing out and stops only
where it must, and the stream has no other parcels. The other way around, bodies that are framed and
put one behind the other are what their stream falls into (`Framer.split_flatMap_frame`).

What is left of a split does not fall apart any further (`Framer.split_of_lt`). With
`Framer.split_append` this makes the split of a stream in chunks (`Framer.splitChunks`) the split of
the stream, as long as every size is believed (`Framer.splitChunks_eq_split`).

## Main definitions

* `Framer.frame`: a body with its size in front.
* `Framer.Phase.announced`, `Framer.Phase.needs`: the size read before a place of a stream, and how
  many bytes have to follow before something happens there.
* `Framer.splitChunks`: what a stream in chunks falls into, refused sizes and all.
* `Framer.Carries`: chunks that are framed bodies, cut anywhere.
-/

namespace ParcelLink

namespace Framer

/-- A body as a parcel on the wire: its size in front, most significant byte first. -/
def frame (body : Octets) : Octets := Octets.big sizeWidth body.length ++ body

namespace Phase

/-- The bytes of the size that was read last, if its body is still to come. -/
def announced : Phase → Octets
  | awaitingSize => []
  | awaitingBody size => Octets.big sizeWidth size

/-- How many bytes have to be there before a size or a body can be taken off. -/
def needs : Phase → Nat
  | awaitingSize => sizeWidth
  | awaitingBody size => size

/-- The size of the body that comes next, if it is known. -/
def size? : Phase → Option Nat
  | awaitingSize => none
  | awaitingBody size => some size

end Phase

/-! ### Sizes -/

/-- A size that is read off a stream is written as it stands there. -/
theorem big_ofBig_take {bytes : Octets} (h : ¬ bytes.length < sizeWidth) :
    Octets.big sizeWidth (Octets.ofBig (bytes.take sizeWidth)) = bytes.take sizeWidth := by
  have hlen : (bytes.take sizeWidth).length = sizeWidth :=
    List.length_take_of_le (Nat.le_of_not_lt h)
  have hbig := Octets.big_ofBig (bytes.take sizeWidth)
  rwa [hlen] at hbig

/-- A size that is read off a stream is one that can be written. -/
theorem ofBig_take_lt {bytes : Octets} (h : ¬ bytes.length < sizeWidth) :
    Octets.ofBig (bytes.take sizeWidth) < UInt32.size := by
  have hsize := Octets.ofLittle_lt (bytes.take sizeWidth).reverse
  rwa [List.length_reverse, List.length_take_of_le (Nat.le_of_not_lt h)] at hsize

/-! ### A split loses nothing and leaves nothing to be done -/

/-- **A stream is its bodies, framed, and what is left of it.** -/
theorem frames_split (limit : Nat) (phase : Phase) (bytes : Octets)
    (h : (split limit phase bytes).refused? = none) :
    phase.announced ++ bytes
      = (split limit phase bytes).bodies.flatMap frame
        ++ ((split limit phase bytes).phase.announced ++ (split limit phase bytes).rest) := by
  fun_induction split limit phase bytes with
  | case1 bytes hlt => simp
  | case2 bytes hlt size hlim => simp at h
  | case3 bytes hlt size hlim ih =>
    rw [← ih h, Phase.announced, Phase.announced, big_ofBig_take hlt, List.take_append_drop,
      List.nil_append]
  | case4 size bytes hlt => simp
  | case5 size bytes hlt ih =>
    have hlen : (bytes.take size).length = size := by
      rw [List.length_take]
      omega
    have hrest := ih h
    rw [Phase.announced, List.nil_append] at hrest
    simp only [Split.cons, List.flatMap_cons, List.append_assoc]
    rw [← hrest, frame, hlen, List.append_assoc, List.take_append_drop, Phase.announced]

/-- What is left of a stream is too short to go on. -/
theorem length_rest_split_lt (limit : Nat) (phase : Phase) (bytes : Octets) :
    (split limit phase bytes).rest.length < (split limit phase bytes).phase.needs := by
  fun_induction split limit phase bytes with
  | case1 bytes hlt => exact hlt
  | case2 bytes hlt size hlim => exact Nat.zero_lt_succ 3
  | case3 bytes hlt size hlim ih => exact ih
  | case4 size bytes hlt => exact hlt
  | case5 size bytes hlt ih => exact ih

/-- Bytes that are too short to go on are left as they are. -/
theorem split_of_lt {limit : Nat} {phase : Phase} {rest : Octets} (h : rest.length < phase.needs) :
    split limit phase rest = ⟨[], phase, rest, none⟩ := by
  cases phase with
  | awaitingSize => exact (split_awaitingSize limit rest).trans (if_pos h)
  | awaitingBody size => exact (split_awaitingBody limit size rest).trans (if_pos h)

/-- A size in front is read, if it can be written, and refused if it is not believed. -/
theorem split_big_append (limit : Nat) {size : Nat} (hsize : size < UInt32.size) (rest : Octets) :
    split limit .awaitingSize (Octets.big sizeWidth size ++ rest)
      = if limit < size then ⟨[], .awaitingSize, [], some size⟩
        else split limit (.awaitingBody size) rest := by
  have hwidth : (Octets.big sizeWidth size).length = sizeWidth := Octets.length_big _ _
  have hlong : ¬ (Octets.big sizeWidth size ++ rest).length < sizeWidth := by
    rw [List.length_append, hwidth]
    omega
  have hread : Octets.ofBig (Octets.big sizeWidth size) = size :=
    (Octets.ofBig_big _ _).trans (Nat.mod_eq_of_lt hsize)
  rw [split_awaitingSize, if_neg hlong, List.take_left' hwidth, List.drop_left' hwidth, hread]

/-- A framed body in front is taken off, if its size is believed and can be written. -/
theorem split_frame_append {limit : Nat} {body : Octets} (hlimit : body.length ≤ limit)
    (hsize : body.length < UInt32.size) (rest : Octets) :
    split limit .awaitingSize (frame body ++ rest)
      = (split limit .awaitingSize rest).cons body := by
  have hwhole : ¬ (body ++ rest).length < body.length := by
    rw [List.length_append]
    omega
  rw [frame, List.append_assoc, split_big_append limit hsize, if_neg (Nat.not_lt.2 hlimit),
    split_awaitingBody, if_neg hwhole, List.take_left, List.drop_left]

/-- Framed bodies in front are taken off one after the other. -/
theorem split_flatMap_frame_append {limit : Nat} {bodies : List Octets}
    (h : ∀ body ∈ bodies, body.length ≤ limit ∧ body.length < UInt32.size) (rest : Octets) :
    split limit .awaitingSize (bodies.flatMap frame ++ rest)
      = { split limit .awaitingSize rest with
          bodies := bodies ++ (split limit .awaitingSize rest).bodies } := by
  induction bodies with
  | nil => rfl
  | cons body bodies ih =>
    obtain ⟨hlimit, hsize⟩ := h body List.mem_cons_self
    have hrest := ih fun b hb ↦ h b (List.mem_cons_of_mem body hb)
    rw [List.flatMap_cons, List.append_assoc, split_frame_append hlimit hsize, hrest, Split.cons]
    rfl

/-- **Framed bodies, one behind the other, fall into these bodies.** -/
theorem split_flatMap_frame {limit : Nat} {bodies : List Octets}
    (h : ∀ body ∈ bodies, body.length ≤ limit ∧ body.length < UInt32.size) :
    split limit .awaitingSize (bodies.flatMap frame) = ⟨bodies, .awaitingSize, [], none⟩ := by
  have hframes := split_flatMap_frame_append h []
  have hend : split limit .awaitingSize [] = ⟨[], .awaitingSize, [], none⟩ :=
    split_of_lt (Nat.zero_lt_succ 3)
  rwa [hend, List.append_nil, List.append_nil] at hframes

/-- A size that is refused in a first piece of a stream is refused in the stream. -/
theorem refused?_split_of_append {limit : Nat} {phase : Phase} {first second : Octets}
    (h : (split limit phase (first ++ second)).refused? = none) :
    (split limit phase first).refused? = none := by
  fun_induction split limit phase first with
  | case1 bytes hlt => rfl
  | case2 bytes hlt size hlim =>
    have hlen : sizeWidth ≤ bytes.length := by omega
    have hnot : ¬ (bytes ++ second).length < sizeWidth := by
      simp only [List.length_append]
      omega
    rw [split_awaitingSize, if_neg hnot, List.take_append_of_le_length hlen, if_pos hlim] at h
    simp at h
  | case3 bytes hlt size hlim ih =>
    have hlen : sizeWidth ≤ bytes.length := by omega
    have hnot : ¬ (bytes ++ second).length < sizeWidth := by
      simp only [List.length_append]
      omega
    rw [split_awaitingSize, if_neg hnot, List.take_append_of_le_length hlen, if_neg hlim,
      List.drop_append_of_le_length hlen] at h
    exact ih h
  | case4 size bytes hlt => rfl
  | case5 size bytes hlt ih =>
    have hlen : size ≤ bytes.length := by omega
    have hnot : ¬ (bytes ++ second).length < size := by
      simp only [List.length_append]
      omega
    rw [split_awaitingBody, if_neg hnot, List.drop_append_of_le_length hlen] at h
    exact ih h

/-! ### Streams in chunks -/

/-- What a stream in chunks falls into, given what comes first and what was buffered before it. A
size that is not believed loses the rest of its chunk. -/
def splitChunks (limit : Nat) : Phase → Octets → List Octets → Split
  | phase, rest, [] => ⟨[], phase, rest, none⟩
  | phase, rest, chunk :: chunks =>
    let s := split limit phase (rest ++ chunk)
    let t := splitChunks limit s.phase s.rest chunks
    { t with bodies := s.bodies ++ t.bodies }

/-- **The chunks do not matter** as long as every size in the stream is believed. -/
theorem splitChunks_eq_split {limit : Nat} {phase : Phase} {rest : Octets} (chunks : List Octets)
    (hrest : rest.length < phase.needs)
    (h : (split limit phase (rest ++ chunks.flatten)).refused? = none) :
    splitChunks limit phase rest chunks = split limit phase (rest ++ chunks.flatten) := by
  induction chunks generalizing phase rest with
  | nil => rw [List.flatten_nil, List.append_nil, split_of_lt hrest, splitChunks]
  | cons chunk chunks ih =>
    rw [List.flatten_cons, ← List.append_assoc] at h ⊢
    have happ := split_append limit phase (rest ++ chunk) chunks.flatten (refused?_split_of_append h)
    rw [happ] at h ⊢
    rw [splitChunks, ih (length_rest_split_lt limit phase (rest ++ chunk)) h]

/-- Chunks carry bodies: together they are these bodies, framed, and every size can be written and is
believed. -/
structure Carries (limit : Nat) (chunks bodies : List Octets) : Prop where
  believed : ∀ body ∈ bodies, body.length ≤ limit ∧ body.length < UInt32.size
  flatten_eq : chunks.flatten = bodies.flatMap frame

/-- **Chunks fall into the bodies that they carry**, and nothing is left. -/
theorem splitChunks_of_carries {limit : Nat} {chunks bodies : List Octets}
    (h : Carries limit chunks bodies) :
    splitChunks limit .awaitingSize [] chunks = ⟨bodies, .awaitingSize, [], none⟩ := by
  have hsplit := split_flatMap_frame h.believed
  rw [← h.flatten_eq] at hsplit
  have hrefused : (split limit .awaitingSize ([] ++ chunks.flatten)).refused? = none :=
    congrArg Split.refused? hsplit
  have hstart : ([] : Octets).length < Phase.awaitingSize.needs := Nat.zero_lt_succ 3
  exact (splitChunks_eq_split chunks hstart hrefused).trans hsplit

end Framer

end ParcelLink
