import ParcelLink.Proofs.Outbox.Hollow

/-!
# A batch is written in as many writes as it takes

A socket may take a part of what it is offered, so that a batch takes several writes. What a write
leaves of a batch is its last parcels, the first of them maybe cut, and never with an empty parcel
in front (`Batch.isRestOf_consume`, `Batch.ne_nil_of_head?_consume`). So as long as something is
left it is offered, and a socket that takes something of it brings the end closer. With such sockets
a batch with a byte in it is written to its end, each byte once and in order, and then flushed
(`Outbox.writes_out`).

## Main definitions

* `Batch.IsRestOf`: the last parcels of a batch, the first of them maybe cut.
* `Socket.Advances`: sockets that take something of whatever they are offered.
* `Outbox.carryEach`: steps of the carrier, each with a socket of its own.
* `Outbox.wroteAll`: an outbox when the socket has taken the last of some writes.
-/

namespace ParcelLink

namespace Batch

/-! ### What a write leaves -/

/-- What is left are the last parcels of a batch, the first of them maybe without some bytes in
front. -/
def IsRestOf (left batch : Batch) : Prop :=
  ∃ done kept cut, batch = done ++ kept ∧ left = kept.modifyHead (List.drop cut)

theorem isRestOf_trim (batch : Batch) : batch.trim.IsRestOf batch := by
  refine ⟨batch.takeWhile List.isEmpty, batch.trim, 0, List.takeWhile_append_dropWhile.symm, ?_⟩
  cases batch.trim <;> rfl

/-- **A write leaves the last parcels of a batch**, and cuts no more than the first of them. -/
theorem isRestOf_consume (batch : Batch) (written : Nat) :
    (batch.consume written).IsRestOf batch := by
  fun_induction consume batch written with
  | case1 batch => exact isRestOf_trim batch
  | case2 written => exact ⟨[], [], 0, rfl, rfl⟩
  | case3 parcel rest written h => exact ⟨[], parcel :: rest, written + 1, rfl, rfl⟩
  | case4 parcel rest written h ih =>
    obtain ⟨done, kept, cut, hrest, hleft⟩ := ih
    exact ⟨parcel :: done, kept, cut, congrArg (parcel :: ·) hrest, hleft⟩

theorem size_pos {batch : Batch} (h : ∃ parcel ∈ batch, parcel ≠ []) : 0 < batch.size := by
  obtain ⟨parcel, hmem, hne⟩ := h
  rw [size_eq_length_flatten, List.length_pos_iff, Ne, List.flatten_eq_nil_iff]
  exact fun hempty ↦ hne (hempty parcel hmem)

end Batch

/-- A socket that takes something of whatever it is offered, and no more than that. -/
def Socket.Advances (socket : Socket) : Prop :=
  ∀ offered, 0 < offered → ∃ count, socket.onWrite offered = .took count ∧ 0 < count
    ∧ count ≤ offered

/-- A socket that takes up to some bytes at a time advances. -/
theorem Socket.advances_taking {limit : Nat} (hpos : 0 < limit) :
    (Socket.taking (some limit)).Advances :=
  fun offered hoffered ↦ ⟨min limit offered, rfl, by omega, Nat.min_le_right _ _⟩

namespace Outbox

/-! ### Steps with one socket each -/

/-- The carrier makes a step with each of some sockets in turn, if it need not wait. -/
def carryEach : List Socket → Outbox → Option Outbox
  | [], o => some o
  | socket :: rest, o => (o.carry socket).bind (carryEach rest)

theorem carryEach_cons {socket : Socket} {rest : List Socket} {o o' : Outbox}
    (h : o.carry socket = some o') : carryEach (socket :: rest) o = carryEach rest o' := by
  rw [carryEach, h, Option.bind_some]

/-- The outbox when the socket has taken all of a batch in some writes, and so many bytes with
them. -/
def wroteAll (o : Outbox) (writes : List Octets) (parcels bytes : Nat) : Outbox :=
  { o with
    carrier := .writing [] parcels bytes
    journal := o.journal ++ (writes.map Entry.wrote).toArray }

/-- The socket takes some of what it is offered. -/
theorem wrote_of_le (o : Outbox) {batch : Batch} {count : Nat} (hpos : 0 < count)
    (hle : count ≤ batch.size) (parcels bytes : Nat) :
    o.wrote batch parcels bytes count = { o with
      carrier := .writing (batch.consume count) parcels (bytes + count)
      journal := o.journal.push (.wrote (batch.flatten.take count)) } := by
  simp only [wrote, Nat.min_eq_left hle, if_neg (Nat.ne_of_gt hpos), record,
    Batch.front_eq_take_flatten]

/-- A carrier with something to write writes some of it. -/
theorem carry_of_advances {socket : Socket} (hsocket : socket.Advances) {o : Outbox}
    {batch : Batch} {parcels bytes : Nat} (hwriting : o.carrier = .writing batch parcels bytes)
    (hpos : 0 < batch.size) :
    ∃ count, 0 < count ∧ count ≤ batch.size
      ∧ o.carry socket = some (o.wrote batch parcels bytes count) := by
  obtain ⟨count, hanswer, hcount, hle⟩ := hsocket batch.size hpos
  refine ⟨count, hcount, hle, ?_⟩
  cases batch with
  | nil => exact absurd hpos (Nat.lt_irrefl 0)
  | cons parcel rest =>
    rw [carry, hwriting]
    simp only [hanswer]

/-- **A batch is written to its end**, if it offers something unless nothing is left of it. The
socket may be another one with each write. -/
theorem exists_writes {batch : Batch} {sockets : Nat → Socket}
    (hsockets : ∀ i, (sockets i).Advances) (hoffers : batch.size = 0 → batch = []) {o : Outbox}
    {parcels bytes : Nat} (hwriting : o.carrier = .writing batch parcels bytes) :
    ∃ writes : List Octets, writes.flatten = batch.flatten ∧ (∀ w ∈ writes, w ≠ [])
      ∧ writes.length ≤ batch.size
      ∧ o.carryEach ((List.range writes.length).map sockets)
        = some (o.wroteAll writes parcels (bytes + batch.size)) := by
  -- each write leaves less to offer
  induction hsize : batch.size using Nat.strongRecOn generalizing batch sockets o bytes with
  | ind size ih =>
    by_cases hnothing : size = 0
    · obtain rfl := hoffers (hsize.trans hnothing)
      refine ⟨[], rfl, fun _ hw ↦ absurd hw List.not_mem_nil, Nat.zero_le _, ?_⟩
      rw [hnothing, Nat.add_zero, wroteAll, ← hwriting, List.map_nil, Array.append_empty]
      rfl
    · obtain ⟨count, hcount, hle, hstep⟩ := carry_of_advances (hsockets 0) hwriting (by omega)
      have hnext := wrote_of_le o hcount hle parcels bytes
      obtain ⟨writes, hflat, hne, hfew, hrest⟩ := ih (batch.size - count) (by omega)
        (fun i ↦ hsockets (i + 1)) Batch.consume_eq_nil (congrArg carrier hnext)
        (Batch.size_consume batch count)
      have htook : (batch.flatten.take count).length = count := by
        rw [List.length_take, ← Batch.size_eq_length_flatten, Nat.min_eq_left hle]
      refine ⟨batch.flatten.take count :: writes, ?_, ?_, ?_, ?_⟩
      · rw [List.flatten_cons, hflat, Batch.flatten_consume, List.take_append_drop]
      · refine List.forall_mem_cons.2 ⟨fun hnil ↦ ?_, hne⟩
        rw [hnil] at htook
        exact Nat.ne_of_lt hcount htook
      · rw [List.length_cons]
        omega
      · have hbytes : bytes + count + (batch.size - count) = bytes + size := by omega
        rw [List.length_cons, List.range_succ_eq_map, List.map_cons, List.map_map,
          carryEach_cons hstep, ← hbytes]
        refine hrest.trans ?_
        simp [wroteAll, hnext]

/-! ### The whole of a batch -/

/-- The writes are in the journal, and no flush is among them. -/
theorem journal_wroteAll (o : Outbox) (writes : List Octets) (parcels bytes : Nat) :
    (o.wroteAll writes parcels bytes).journal.writes = o.journal.writes ++ writes
      ∧ (o.wroteAll writes parcels bytes).journal.flushes = o.journal.flushes := by
  simp [wroteAll, Journal.writes, Journal.flushes, List.filterMap_map, Function.comp_def,
    List.countP_map]

/-- A carrier with nothing left of its batch flushes, and lets the parcels go. -/
theorem carryEach_flush {socket : Socket} (hflush : socket.onFlush = .done) {o : Outbox}
    {parcels bytes : Nat} (hwriting : o.carrier = .writing [] parcels bytes) :
    ∃ o', o.carryEach [socket, socket] = some o' ∧ o'.carrier = .idle
      ∧ o'.journal.writes = o.journal.writes ∧ o'.journal.flushes = o.journal.flushes + 1
      ∧ o'.pending = o.pending - parcels := by
  let flushing : Outbox := { o with carrier := .flushing parcels bytes }
  have hstep : o.carry socket = some flushing := by
    rw [carry, hwriting]
  have hdone : flushing.carry socket = some (flushing.flushed parcels bytes) := by
    simp only [carry, flushing, hflush]
  refine ⟨flushing.flushed parcels bytes, ?_, rfl, ?_, ?_, rfl⟩
  · rw [carryEach_cons hstep, carryEach_cons hdone, carryEach]
  · simp [flushed, release, note, record, Journal.writes, flushing]
  · simp [flushed, release, note, record, Journal.flushes, flushing, List.countP_append]

/-- **A batch with a byte in it is written to its end and flushed**, if the socket takes something
of whatever it is offered. What a write leaves of any batch are the bytes that were not written, in
the last parcels of the batch, of which the first may be cut and is not empty. So there are only so
many writes; together they are the bytes of the batch, and when nothing is left of it comes its one
flush. -/
theorem writes_out (batch : Batch) :
    (∀ written, (batch.consume written).flatten = batch.flatten.drop (min written batch.size)
        ∧ (batch.consume written).IsRestOf batch
        ∧ ∀ parcel, (batch.consume written).head? = some parcel → parcel ≠ [])
      ∧ ∀ (sockets : Nat → Socket) (o : Outbox) (parcels bytes : Nat),
        (∃ parcel ∈ batch, parcel ≠ []) → (∀ i, (sockets i).Advances) →
        o.carrier = .writing batch parcels bytes →
        ∃ writes : List Octets, writes.flatten = batch.flatten ∧ (∀ w ∈ writes, w ≠ [])
          ∧ writes.length ≤ batch.size
          ∧ ∃ o', o.carryEach ((List.range writes.length).map sockets) = some o'
            ∧ o'.carrier = .writing [] parcels (bytes + batch.size)
            ∧ ∀ socket : Socket, socket.onFlush = .done →
              ∃ o'', o'.carryEach [socket, socket] = some o'' ∧ o''.carrier = .idle
                ∧ o''.journal.writes = o.journal.writes ++ writes
                ∧ o''.journal.flushes = o.journal.flushes + 1
                ∧ o''.pending = o.pending - parcels := by
  refine ⟨fun written ↦ ⟨?_, Batch.isRestOf_consume batch written,
    fun _ ↦ Batch.ne_nil_of_head?_consume⟩,
    fun sockets o parcels bytes hbyte hsockets hwriting ↦ ?_⟩
  · rw [Batch.flatten_consume, Batch.size_eq_length_flatten, ← List.drop_eq_drop_min]
  · have hpos := Batch.size_pos hbyte
    obtain ⟨writes, hflat, hne, hfew, hrun⟩ :=
      exists_writes hsockets (fun hnothing ↦ absurd hnothing (Nat.ne_of_gt hpos)) hwriting
    obtain ⟨hwrites, hflushes⟩ := journal_wroteAll o writes parcels (bytes + batch.size)
    have hwritten : (o.wroteAll writes parcels (bytes + batch.size)).carrier
        = .writing [] parcels (bytes + batch.size) := rfl
    refine ⟨writes, hflat, hne, hfew, _, hrun, hwritten, fun socket hflush ↦ ?_⟩
    obtain ⟨o'', hdone, hidle, hwrites', hflushes', hpending⟩ := carryEach_flush hflush hwritten
    rw [hwrites] at hwrites'
    rw [hflushes] at hflushes'
    exact ⟨o'', hdone, hidle, hwrites', hflushes', hpending⟩

/-- The first write ends where a parcel ends, in front of an empty one, and the second takes what is
left between two empty ones. -/
theorem writes_out_around_empty :
    let batch : Batch := [[], [1, 2], [], [3], []]
    let start : Outbox := { ofConfig { limit := 5, slots := 5 } with queue := batch, pending := 5 }
    let o := start.takeBatch
    let sockets := fun i ↦ Socket.taking (some (i + 2))
    (∃ parcel ∈ batch, parcel ≠ []) ∧ (∀ i, (sockets i).Advances) ∧ o.carrier = .writing batch 5 0
      ∧ batch.consume 2 = [[3], []] ∧ (batch.consume 2).IsRestOf batch
      ∧ ∃ writes : List Octets, writes.flatten = [1, 2, 3] ∧ writes.length ≤ 3
        ∧ ∃ o' o'', o.carryEach ((List.range writes.length).map sockets) = some o'
          ∧ o'.carrier = .writing [] 5 3
          ∧ o'.carryEach [Socket.taking none, Socket.taking none] = some o''
          ∧ o''.carrier = .idle ∧ o''.journal.writes = writes ∧ o''.journal.flushes = 1
          ∧ o''.pending = 0 := by
  intro batch start o sockets
  have hbyte : ∃ parcel ∈ batch, parcel ≠ [] := ⟨[3], by decide, by decide⟩
  have hsockets : ∀ i, (sockets i).Advances := fun i ↦ Socket.advances_taking (by omega)
  have hwriting : o.carrier = .writing batch 5 0 := rfl
  obtain ⟨hleaves, hwhole⟩ := writes_out batch
  obtain ⟨writes, hflat, -, hfew, o', hrun, hwritten, hflush⟩ :=
    hwhole sockets o 5 0 hbyte hsockets hwriting
  obtain ⟨o'', hdone, hidle, hwrites, hflushes, hpending⟩ := hflush (Socket.taking none) rfl
  exact ⟨hbyte, hsockets, hwriting, by decide, (hleaves 2).2.1, writes, hflat, hfew, o', o'', hrun,
    hwritten, hdone, hidle, hwrites, hflushes, hpending⟩

end Outbox

end ParcelLink
