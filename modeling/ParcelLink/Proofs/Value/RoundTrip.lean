import ParcelLink.Proofs.Draft.Body
import ParcelLink.Proofs.Framer.Chunks
import ParcelLink.Proofs.Reading.Spelling
import ParcelLink.Proofs.Text.Surrogates
import ParcelLink.Reading.Span
import ParcelLink.Value

/-!
# Values are read as they are written

For every kind of value the decoder reads what the encoding writes, bytes behind it or not
(`Value.reads_encode`). The encoding loses something of two kinds of value only, and `Value.Fits`
leaves these out: a string with so many units that their count stands for an absent string, and a
list with more items than a count can tell.

Since each value is read off the front of the others, values in sequence are read as they were
written in sequence (`Value.reads_all`). The source may be a span, a ring, or a window on a ring,
wherever in the ring the bytes begin (`Value.decode_encode`).

## Main definitions

* `Value.Fits`: whether a value can be told from its bytes.
* `Draft.writeAll`: values written into a draft.
-/

namespace ParcelLink

/-! ### Sources that give out their bytes -/

/-- A span gives out its bytes and counts them. -/
theorem Span.gives (total : Nat) :
    Source.Gives fun (s : Span) bytes ↦ s.rest = bytes ∧ s.position + bytes.length = total where
  left_eq h := congrArg List.length h.1
  next?_eq := by
    rintro ⟨_, position⟩ b rest ⟨rfl, hcount⟩
    refine ⟨⟨rest, position + 1⟩, rfl, rfl, ?_⟩
    have hcount' : position + (rest.length + 1) = total := hcount
    show position + 1 + rest.length = total
    omega

/-- An excerpt gives out its bytes and counts them. -/
theorem Excerpt.gives (total : Nat) :
    Source.Gives fun (x : Excerpt) bytes ↦
      x.rest = bytes ∧ x.consumed + bytes.length = total where
  left_eq h := congrArg List.length h.1
  next?_eq := by
    rintro ⟨_, consumed⟩ b rest ⟨rfl, hcount⟩
    refine ⟨⟨rest, consumed + 1⟩, rfl, rfl, ?_⟩
    have hcount' : consumed + (rest.length + 1) = total := hcount
    show consumed + 1 + rest.length = total
    omega

/-- A ring gives out its contents, wherever they begin. -/
theorem Ring.gives : Source.Gives fun (r : Ring) bytes ↦ r.Valid ∧ r.contents = bytes where
  left_eq h := by
    rw [← h.2, Ring.length_contents]
    rfl
  next?_eq h := by
    obtain ⟨r', hnext, hvalid, hcontents, -⟩ := Ring.next?_of_contents h.1 h.2
    exact ⟨r', hnext, hvalid, hcontents⟩

/-- A source that answers like one that gives out bytes gives them out as well. -/
theorem Source.Gives.of_agree {σ τ : Type} [Source σ] [Source τ] {A : σ → τ → Prop}
    {R : τ → Octets → Prop} (hA : Source.Agree A) (hR : Source.Gives R) :
    Source.Gives fun s bytes ↦ ∃ t, A s t ∧ R t bytes where
  left_eq := by
    rintro s bytes ⟨t, hA', hR'⟩
    rw [hA.left_eq hA', hR.left_eq hR']
  next?_eq := by
    rintro s b rest ⟨t, hA', hR'⟩
    obtain ⟨t', hnext, hrest⟩ := hR.next?_eq hR'
    obtain ⟨s', hnext', hA''⟩ := hA.next?_eq_some hA' hnext
    exact ⟨s', hnext', t', hA'', hrest⟩

/-! ### Values that can be told from their bytes -/

/-- Whether a string has few enough units not to be taken for an absent one. -/
def StringFits (s : Option String) : Prop :=
  ∀ text ∈ s, (Utf16.units text).length < absentThreshold.toNat

instance (s : Option String) : Decidable (StringFits s) :=
  match s with
  | none => isTrue (by simp [StringFits])
  | some text =>
    decidable_of_iff ((Utf16.units text).length < absentThreshold.toNat) (by simp [StringFits])

/-- Whether a value can be told from its bytes. -/
def Value.Fits : Value → Prop
  | string s => StringFits s
  | words ns => ns.length < UInt32.size
  | strings ss => ss.length < UInt32.size ∧ ∀ s ∈ ss, StringFits s
  | _ => True

instance : DecidablePred Value.Fits
  | .string s => inferInstanceAs (Decidable (StringFits s))
  | .words ns => inferInstanceAs (Decidable (ns.length < UInt32.size))
  | .strings ss =>
    inferInstanceAs (Decidable (ss.length < UInt32.size ∧ ∀ s ∈ ss, StringFits s))
  | .u8 _ | .u16 _ | .u32 _ | .bool _ | .size _ | .header _ => isTrue trivial

namespace Decoder

/-! ### Numbers -/

theorem reads_u8 (n : UInt8) : Reads u8 (encodeU8 n) n := by
  have hread := (reads_number 1 n.toNat).map UInt8.ofNat
  have hbytes : Octets.little 1 n.toNat = encodeU8 n := by simp [Octets.little, encodeU8]
  rwa [Nat.mod_eq_of_lt n.toNat_lt, UInt8.ofNat_toNat, hbytes] at hread

theorem reads_u16 (n : UInt16) : Reads Decoder.u16 (encodeU16 n) n := by
  have hread := (reads_number 2 n.toNat).map UInt16.ofNat
  rwa [Nat.mod_eq_of_lt n.toNat_lt, UInt16.ofNat_toNat] at hread

theorem reads_u32 (n : UInt32) : Reads Decoder.u32 (encodeU32 n) n := by
  have hread := (reads_number 4 n.toNat).map UInt32.ofNat
  rwa [Nat.mod_eq_of_lt n.toNat_lt, UInt32.ofNat_toNat] at hread

theorem reads_bool (b : Bool) : Reads Decoder.bool (encodeBool b) b := by
  have hread := (reads_u32 (if b then 1 else 0)).map (· != 0)
  cases b <;> exact hread

/-- The bytes of a size come with the most significant in front, and are turned around. -/
theorem reads_size (n : UInt32) : Reads Decoder.size (Octets.big 4 n.toNat) n := by
  have hbytes := reads_many fun b (_ : b ∈ Octets.big 4 n.toNat) ↦ reads_u8 b
  have hflat : (Octets.big 4 n.toNat).flatMap encodeU8 = Octets.big 4 n.toNat := by
    show (Octets.big 4 n.toNat).flatMap (fun b ↦ [b]) = _
    simp
  rw [Octets.length_big, hflat] at hbytes
  have hread := hbytes.map fun bytes ↦ UInt32.ofNat (Octets.ofBig bytes)
  simp only [Octets.ofBig_big] at hread
  rw [Nat.mod_eq_of_lt n.toNat_lt, UInt32.ofNat_toNat] at hread
  exact hread

/-! ### Strings -/

/-- Whether a count is even is seen from its bits as well. -/
theorem even_iff (length : UInt32) : length % 2 = 0 ↔ length.toNat % 2 = 0 := by
  rw [← UInt32.toNat_inj, UInt32.toNat_mod]
  rfl

theorem reads_delimiter {length : Nat} (h : length < UInt32.size) :
    Reads (Decoder.delimiterBits (UInt32.ofNat length)) (delimiter length) 0 := by
  have hparity : UInt32.ofNat length % 2 = 0 ↔ length % 2 = 0 := by
    rw [even_iff, UInt32.toNat_ofNat_of_lt' h]
  unfold Decoder.delimiterBits delimiter
  by_cases heven : length % 2 = 0
  · simp only [hparity, if_pos heven]
    exact (reads_u16 0).bind ((reads_u16 0).map _)
  · simp only [hparity, if_neg heven]
    exact (reads_u16 0).map _

theorem reads_string {s : Option String} (h : StringFits s) :
    Reads Decoder.string (encodeString s) s := by
  unfold Decoder.string
  cases s with
  | none =>
    rw [encodeString, ← List.append_nil (encodeU32 absentLength)]
    exact (reads_u32 absentLength).bind (reads_pure none)
  | some text =>
    have hfits : (Utf16.units text).length < 0x7fffffff := h text rfl
    have hsize : (Utf16.units text).length < UInt32.size :=
      Nat.lt_trans hfits (by decide)
    have hlength := UInt32.toNat_ofNat_of_lt' hsize
    have hpresent : ¬ absentThreshold ≤ UInt32.ofNat (Utf16.units text).length := by
      rw [UInt32.le_iff_toNat_le, hlength]
      exact Nat.not_le.2 hfits
    have hunits := reads_many fun unit (_ : unit ∈ Utf16.units text) ↦ reads_u16 unit
    rw [← hlength] at hunits
    simp only [encodeString, List.append_assoc]
    refine (reads_u32 _).bind ?_
    rw [if_neg hpresent]
    refine hunits.bind ?_
    rw [← List.append_nil (delimiter _)]
    refine (reads_delimiter hsize).bind ?_
    rw [if_neg (by simp), Utf16.text_units]
    exact reads_pure (some text)

/-! ### Lists and headers -/

theorem reads_list {α : Type} {item : Decoder α} {write : α → Octets} {items : List α}
    (hsize : items.length < UInt32.size) (h : ∀ a ∈ items, Reads item (write a) a) :
    Reads (list item) (encodeList write items) items := by
  have hitems := reads_many h
  rw [← UInt32.toNat_ofNat_of_lt' hsize] at hitems
  exact (reads_u32 _).bind hitems

theorem reads_header (h : Header) : Reads Header.decoder h.encode h := by
  unfold Header.decoder
  cases h with
  | solicited token =>
    refine (reads_u32 solicitedType).bind ?_
    rw [if_pos rfl]
    exact (reads_u32 token).map Header.solicited
  | unsolicited type =>
    refine (reads_u32 unsolicitedType).bind ?_
    rw [if_neg (by decide), if_pos rfl]
    exact (reads_u32 type).map Header.unsolicited

end Decoder

/-! ### Values -/

namespace Value

open Decoder (Reads)

/-- **A value is read as it is written.** -/
theorem reads_encode {v : Value} (h : v.Fits) : Reads v.kind.decoder v.encode v := by
  cases v with
  | u8 n => exact (Decoder.reads_u8 n).map u8
  | u16 n => exact (Decoder.reads_u16 n).map u16
  | u32 n => exact (Decoder.reads_u32 n).map u32
  | bool b => exact (Decoder.reads_bool b).map bool
  | size n => exact (Decoder.reads_size n).map size
  | string s => exact (Decoder.reads_string h).map string
  | words ns => exact (Decoder.reads_list h fun n _ ↦ Decoder.reads_u32 n).map words
  | strings ss =>
    exact (Decoder.reads_list h.1 fun s hs ↦ Decoder.reads_string (h.2 s hs)).map strings
  | header hd => exact (Decoder.reads_header hd).map header

/-- Values in sequence are read as they are written in sequence. -/
theorem reads_all {values : List Value} (h : ∀ v ∈ values, v.Fits) :
    Reads ((values.map kind).mapM Kind.decoder) (values.flatMap encode) values := by
  induction values with
  | nil => exact Decoder.reads_pure []
  | cons v values ih =>
    have hrest := ih fun w hw ↦ h w (List.mem_cons_of_mem v hw)
    rw [List.map_cons, List.mapM_cons]
    exact (reads_encode (h v List.mem_cons_self)).bind (hrest.map (v :: ·))

end Value

/-! ### Values in a draft -/

namespace Draft

/-- Values written into a draft, one after the other. -/
def writeAll (d : Draft) (values : List Value) : Logged Draft :=
  Logged.foldl (fun d v ↦ d.write v.encode) d values

theorem valid_writeAll {d : Draft} (h : d.Valid) (values : List Value) :
    (d.writeAll values).value.Valid
      ∧ (d.writeAll values).value.body = d.body ++ values.flatMap Value.encode := by
  rw [writeAll, Logged.value_foldl]
  induction values generalizing d with
  | nil => exact ⟨h, by simp⟩
  | cons v values ih =>
    obtain ⟨hvalid, hbody⟩ := ih (valid_write h v.encode).1
    refine ⟨hvalid, ?_⟩
    rw [List.foldl_cons, hbody, body_write h, List.append_assoc, List.flatMap_cons]

end Draft

/-! ### Writing, then reading -/

namespace Value

/-- **Values that were written are read back, and reading ends behind them.** The bytes that values
in sequence are written as are the same in a draft of any capacity, and whatever bytes are behind
them, a reading of the same kinds in sequence gets just these values and fails at none. It does so
from a span, from a ring with these bytes wherever in the ring they begin, and from a window on
such a ring, whatever is in the ring behind the window. -/
theorem decode_encode (values : List Value) (trailing : Octets) (h : ∀ v ∈ values, v.Fits) :
    let bytes := values.flatMap encode
    let reading := ((values.map kind).mapM Kind.decoder).run
    (∀ capacity, ((Draft.ofCapacity capacity).writeAll values).value.body = bytes)
      ∧ reading.run (Span.ofOctets (bytes ++ trailing)) = (.ok values, ⟨trailing, bytes.length⟩)
      ∧ (∀ ring : Ring, ring.Valid → ring.contents = bytes ++ trailing →
          ∃ ring', reading.run ring = (.ok values, ring') ∧ ring'.Valid
            ∧ ring'.contents = trailing)
      ∧ ∀ (ring : Ring) (behind : Octets), ring.Valid →
          ring.contents = (bytes ++ trailing) ++ behind →
          ∃ w, reading.run (Window.ofRing ring (bytes ++ trailing).length) = (.ok values, w)
            ∧ w.ring.contents = trailing ++ behind ∧ w.remaining = trailing.length
            ∧ w.consumed = bytes.length := by
  intro bytes reading
  have hreads := reads_all h
  refine ⟨fun capacity ↦ ?_, ?_, fun ring hvalid hcontents ↦ ?_,
    fun ring behind hvalid hcontents ↦ ?_⟩
  · rw [(Draft.valid_writeAll (Draft.valid_ofCapacity capacity) values).2,
      Draft.body_ofCapacity, List.nil_append]
  · have hfresh : (Span.ofOctets (bytes ++ trailing)).rest = bytes ++ trailing
        ∧ (Span.ofOctets (bytes ++ trailing)).position + (bytes ++ trailing).length
          = (bytes ++ trailing).length := ⟨rfl, Nat.zero_add _⟩
    obtain ⟨⟨rest, position⟩, hrun, rfl, hcount⟩ := hreads (Span.gives _) hfresh
    have hcount' : position + rest.length = (bytes ++ rest).length := hcount
    rw [List.length_append, Nat.add_right_cancel_iff] at hcount'
    exact hcount' ▸ hrun
  · exact hreads Ring.gives ⟨hvalid, hcontents⟩
  · have hshows := Window.shows_ofRing hvalid hcontents
    obtain ⟨w, hrun, x, hshows', rfl, hcount⟩ :=
      hreads ((Excerpt.gives (bytes ++ trailing).length).of_agree (Window.agree ring behind))
        ⟨_, hshows, rfl, Nat.zero_add _⟩
    refine ⟨w, hrun, hshows'.contents_eq, hshows'.remaining_eq, ?_⟩
    rw [List.length_append, Nat.add_right_cancel_iff] at hcount
    exact hshows'.consumed_eq.trans hcount

/-- An odd string with a pair of surrogates and a list with an absent string, read through a window
on a ring in which they go around the end. -/
theorem decode_encode_around :
    let values : List Value := [.u8 7, .string (some "☎📞"), .strings [none, some "a"], .bool true]
    let bytes := values.flatMap encode
    let ring := (((Ring.ofCapacity 64).write (List.replicate 48 0)).value.skip 48).write
      (bytes ++ [9, 9, 5]) |>.value
    (∀ v ∈ values, v.Fits) ∧ ring.Valid ∧ ring.contents = (bytes ++ [9, 9]) ++ [5]
      ∧ ∃ w, ((values.map kind).mapM Kind.decoder).run.run
          (Window.ofRing ring (bytes ++ [9, 9]).length) = (.ok values, w)
        ∧ w.ring.contents = [9, 9, 5] ∧ w.remaining = 2 ∧ w.consumed = 33 := by
  intro values bytes ring
  have hfits : ∀ v ∈ values, v.Fits := by decide +kernel
  have hfilled : ((Ring.ofCapacity 64).write (List.replicate 48 0)).value.Valid :=
    Ring.valid_write (Ring.valid_ofCapacity 64) _
  have hring : ring.Valid := Ring.valid_write (Ring.valid_skip hfilled (by decide +kernel)) _
  have hcontents : ring.contents = (bytes ++ [9, 9]) ++ [5] := by decide +kernel
  obtain ⟨w, hrun, hrest, hremaining, hconsumed⟩ :=
    (decode_encode values [9, 9] hfits).2.2.2 ring [5] hring hcontents
  exact ⟨hfits, hring, hcontents, w, hrun, hrest, hremaining, hconsumed⟩

end Value

end ParcelLink
