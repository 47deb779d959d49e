import ParcelLink.Payload.Layout
import ParcelLink.Proofs.Reading.Bodies

/-!
# Bodies are read as they are laid out

The decoder of each shape of body reads the fields of the layout in their order, records in lists and
optional tails included, and so gives back the body and takes just its bytes
(`Payload.reads_encode`). What the decoders forgive is said next to it: applications beyond the
first eight are left unread, and what is above the low byte of a signal strength is dropped.

## Main definitions

* `Payload.Fits`: whether a body can be told from its bytes.

## Main results

* `Payload.decode_layout`: what the decoders make of laid out bodies with bytes behind them.
-/

namespace ParcelLink

open Decoder (Reads reads_u32 reads_bool reads_string reads_list reads_pure)

/-! ### Fields in sequence -/

namespace Decoder

variable {α β : Type}

/-- A field is read, and then the others. -/
theorem Reads.field {x : Decoder α} {f : α → Decoder β} {v : Value} {fields : List Value} {a : α}
    {b : β} (hx : Reads x v.encode a) (hf : Reads (f a) (fields.flatMap Value.encode) b) :
    Reads (x >>= f) ((v :: fields).flatMap Value.encode) b :=
  hx.bind hf

/-- The only field of a body is read. -/
theorem Reads.only {x : Decoder α} {v : Value} {a : α} (hx : Reads x v.encode a) (f : α → β) :
    Reads (f <$> x) ([v].flatMap Value.encode) (f a) := by
  rw [List.flatMap_singleton]
  exact hx.map f

/-- What is read last is put into a record. -/
theorem Reads.last {x : Decoder α} {bytes : Octets} {a : α} (hx : Reads x bytes a) (f : α → β) :
    Reads (x >>= fun a ↦ pure (f a)) bytes (f a) := by
  rw [← map_eq_pure_bind]
  exact hx.map f

end Decoder

/-! ### Bodies that can be told from their bytes -/

namespace Payload

/-- Whether a body has no more parts, and no greater first number, than its decoder gives back. -/
def Bounded : Payload → Prop
  | cardStatus status => status.apps.length ≤ maxCardApps.toNat
  | currentCalls calls => calls.length < UInt32.size
  | signalStrength signal => signal.gsmSignalStrength < 256
  | _ => True

instance : DecidablePred Bounded
  | cardStatus status => inferInstanceAs (Decidable (status.apps.length ≤ maxCardApps.toNat))
  | currentCalls calls => inferInstanceAs (Decidable (calls.length < UInt32.size))
  | signalStrength signal => inferInstanceAs (Decidable (signal.gsmSignalStrength < 256))
  | ack | retryCounts _ | text _ | strings _ | smsSent _ | integers _ | radioState _ =>
    isTrue trivial

/-- Whether a body can be told from its bytes. -/
def Fits (payload : Payload) : Prop := (∀ v ∈ payload.fields, v.Fits) ∧ payload.Bounded

instance : DecidablePred Fits := fun payload ↦
  inferInstanceAs (Decidable ((∀ v ∈ payload.fields, v.Fits) ∧ payload.Bounded))

/-! ### Records -/

theorem reads_cardApp {app : CardApp} (h : ∀ v ∈ app.fields, v.Fits) :
    Reads cardAppDecoder (app.fields.flatMap Value.encode) app := by
  have haid : StringFits app.aid := h (.string app.aid) (by simp [CardApp.fields])
  have hlabel : StringFits app.appLabel := h (.string app.appLabel) (by simp [CardApp.fields])
  refine .field (reads_u32 _) ?_
  refine .field (reads_u32 _) ?_
  refine .field (reads_u32 _) ?_
  refine .field (reads_string haid) ?_
  refine .field (reads_string hlabel) ?_
  refine .field (reads_u32 _) ?_
  refine .field (reads_u32 _) ?_
  refine .field (reads_u32 _) ?_
  exact reads_pure app

/-- The tail is there or not, as the number in front of it says. -/
theorem reads_uusInfo (info : Option UusInfo) :
    Reads uusInfoDecoder ((UusInfo.fields info).flatMap Value.encode) info := by
  cases info with
  | none =>
    refine .field (reads_u32 0) ?_
    exact reads_pure none
  | some info =>
    refine .field (reads_u32 1) ?_
    refine .field (reads_u32 _) ?_
    refine .field (reads_u32 _) ?_
    exact reads_pure (some info)

theorem reads_call {call : Call} (h : ∀ v ∈ call.fields, v.Fits) :
    Reads callDecoder (call.fields.flatMap Value.encode) call := by
  have hnumber : StringFits call.number := h (.string call.number) (by simp [Call.fields])
  have hname : StringFits call.name := h (.string call.name) (by simp [Call.fields])
  refine .field (reads_u32 _) ?_
  refine .field (reads_u32 _) ?_
  refine .field (reads_u32 _) ?_
  refine .field (reads_bool _) ?_
  refine .field (reads_bool _) ?_
  refine .field (reads_u32 _) ?_
  refine .field (reads_bool _) ?_
  refine .field (reads_bool _) ?_
  refine .field (reads_u32 _) ?_
  refine .field (reads_string hnumber) ?_
  refine .field (reads_u32 _) ?_
  refine .field (reads_string hname) ?_
  refine .field (reads_u32 _) ?_
  exact (reads_uusInfo call.uusInfo).last _

end Payload

/-! ### Card statuses that declare more than is read -/

namespace CardStatus

/-- The fields of a card status that declares some count of applications. -/
def declaring (status : CardStatus) (declared : UInt32) : List Value :=
  [.u32 status.cardState, .u32 status.universalPinState,
    .u32 status.gsmUmtsSubscriptionAppIndex, .u32 status.cdmaSubscriptionAppIndex,
    .u32 declared] ++ status.apps.flatMap CardApp.fields

/-- A card status with the first of its applications. -/
def clamped (status : CardStatus) : CardStatus :=
  { status with apps := status.apps.take Payload.maxCardApps.toNat }

theorem fields_eq (status : CardStatus) :
    status.fields = status.declaring (UInt32.ofNat status.apps.length) := rfl

/-- Every count takes the same room. -/
theorem length_declaring (status : CardStatus) (declared declared' : UInt32) :
    ((status.declaring declared).flatMap Value.encode).length
      = ((status.declaring declared').flatMap Value.encode).length := by
  simp only [declaring, List.flatMap_append, List.flatMap_cons, List.length_append, Value.encode,
    encodeU32, Octets.length_little]

/-- The applications that are left unread come behind the others. -/
theorem declaring_eq_append (status : CardStatus) (declared : UInt32) :
    status.declaring declared = status.clamped.declaring declared
      ++ (status.apps.drop Payload.maxCardApps.toNat).flatMap CardApp.fields := by
  rw [declaring, declaring, List.append_assoc, clamped, ← List.flatMap_append,
    List.take_append_drop]

end CardStatus

namespace Payload

/-! ### Bodies -/

/-- Records in sequence are read as they are laid out in sequence. -/
theorem reads_records {α : Type} {item : Decoder α} {fields : α → List Value} {items : List α}
    (h : ∀ a ∈ items, Reads item ((fields a).flatMap Value.encode) a) :
    Reads (Decoder.many item items.length) ((items.flatMap fields).flatMap Value.encode) items := by
  rw [List.flatMap_assoc]
  exact Decoder.reads_many h

theorem toNat_min (a b : UInt32) : (min a b).toNat = min a.toNat b.toNat := by
  show (if a ≤ b then a else b).toNat = _
  by_cases hle : a ≤ b
  · rw [if_pos hle, Nat.min_eq_left (UInt32.le_iff_toNat_le.1 hle)]
  · rw [if_neg hle, Nat.min_eq_right (Nat.le_of_not_le fun h ↦ hle (UInt32.le_iff_toNat_le.2 h))]

/-- A number that is one byte is its low byte. -/
theorem and_low {n : UInt32} (h : n < 256) : n &&& 0xff = n := by
  have hlt : n.toNat < 2 ^ 8 := h
  apply UInt32.toNat_inj.1
  rw [UInt32.toNat_and]
  exact (Nat.and_two_pow_sub_one_eq_mod n.toNat 8).trans (Nat.mod_eq_of_lt hlt)

/-- As many applications are read as the declared count says, up to the limit. -/
theorem reads_cardStatus {status : CardStatus} {declared : UInt32}
    (hcount : (min declared maxCardApps).toNat = status.apps.length)
    (h : ∀ v ∈ status.declaring declared, v.Fits) :
    Reads cardStatusDecoder ((status.declaring declared).flatMap Value.encode)
      (.cardStatus status) := by
  have happs : ∀ app ∈ status.apps, Reads cardAppDecoder (app.fields.flatMap Value.encode) app :=
    fun app happ ↦ reads_cardApp fun v hv ↦
      h v (List.mem_append_right _ (List.mem_flatMap.2 ⟨app, happ, hv⟩))
  have hrecords := reads_records happs
  rw [← hcount] at hrecords
  refine .field (reads_u32 _) ?_
  refine .field (reads_u32 _) ?_
  refine .field (reads_u32 _) ?_
  refine .field (reads_u32 _) ?_
  refine .field (reads_u32 declared) ?_
  exact hrecords.last _

/-- Calls are read, and the count in front of them shows that the body is not empty. -/
theorem reads_currentCalls {calls : List Call} (hsize : calls.length < UInt32.size)
    (h : ∀ call ∈ calls, ∀ v ∈ call.fields, v.Fits) :
    Reads currentCallsDecoder (currentCalls calls).encode (.currentCalls calls) := by
  have hcalls : Reads (Decoder.list callDecoder) (currentCalls calls).encode calls := by
    have hrecords := reads_records fun call hcall ↦ reads_call (h call hcall)
    rw [← UInt32.toNat_ofNat_of_lt' hsize] at hrecords
    exact .field (reads_u32 _) hrecords
  have hcount : encodeU32 (UInt32.ofNat calls.length) ≠ [] := by simp [encodeU32, Octets.little]
  have hne : (currentCalls calls).encode ≠ [] := List.append_ne_nil_of_left_ne_nil hcount _
  refine .remaining_bind hne fun n hn ↦ ?_
  rw [if_neg hn]
  exact hcalls.map currentCalls

/-- Of the first number only the low byte is kept. -/
theorem reads_signalStrength (signal : SignalStrength) :
    Reads signalStrengthDecoder (signalStrength signal).encode
      (.signalStrength { signal with gsmSignalStrength := signal.gsmSignalStrength &&& 0xff }) := by
  refine .field (reads_u32 _) ?_
  refine .field (reads_u32 _) ?_
  refine .field (reads_u32 _) ?_
  refine .field (reads_u32 _) ?_
  refine .field (reads_u32 _) ?_
  refine .field (reads_u32 _) ?_
  refine .field (reads_u32 _) ?_
  exact reads_pure _

theorem reads_smsSent {outcome : SmsSent} (h : StringFits outcome.ackPdu) :
    Reads smsSentDecoder (smsSent outcome).encode (.smsSent outcome) := by
  refine .field (reads_u32 _) ?_
  refine .field (reads_string h) ?_
  refine .field (reads_u32 _) ?_
  exact reads_pure _

/-- **A body is read as it is laid out.** -/
theorem reads_encode {payload : Payload} (h : payload.Fits) :
    Reads payload.decoder payload.encode payload := by
  obtain ⟨hfields, hbounded⟩ := h
  cases payload with
  | ack => exact reads_pure ack
  | cardStatus status =>
    have hsize : status.apps.length < UInt32.size := Nat.lt_of_le_of_lt hbounded (by decide)
    refine reads_cardStatus ?_ hfields
    rw [toNat_min, UInt32.toNat_ofNat_of_lt' hsize, Nat.min_eq_left hbounded]
  | retryCounts counts =>
    have hsize : counts.length < UInt32.size := hfields (.words counts) List.mem_cons_self
    exact (reads_list hsize fun n _ ↦ reads_u32 n).only retryCounts
  | currentCalls calls =>
    exact reads_currentCalls hbounded fun call hcall v hv ↦
      hfields v (List.mem_cons_of_mem _ (List.mem_flatMap.2 ⟨call, hcall, hv⟩))
  | text s => exact (reads_string (hfields (.string s) List.mem_cons_self)).only text
  | signalStrength signal =>
    have hread := reads_signalStrength signal
    rwa [and_low hbounded] at hread
  | strings ss =>
    obtain ⟨hsize, hstrings⟩ := hfields (.strings ss) List.mem_cons_self
    exact (reads_list hsize fun s hs ↦ reads_string (hstrings s hs)).only strings
  | smsSent outcome =>
    exact reads_smsSent (hfields (.string outcome.ackPdu) (by simp [fields, SmsSent.fields]))
  | integers ns =>
    have hsize : ns.length < UInt32.size := hfields (.words ns) List.mem_cons_self
    exact (reads_list hsize fun n _ ↦ reads_u32 n).only integers
  | radioState state => exact (reads_u32 state).only radioState

/-! ### Writing, then reading -/

/-- **The decoders invert the layouts.** The bytes of a body are the same in a draft of any capacity.
With any bytes behind them, the decoder of the shape gives the body back and takes just its bytes.
Of a card status with more applications than eight it gives back the first eight, and of a signal
strength with any first number the low byte of that. All this is so wherever in a ring the parcel
begins that holds the body. -/
theorem decode_layout :
    (∀ (payload : Payload) (trailing : Octets), payload.Fits →
        (∀ capacity,
          ((Draft.ofCapacity capacity).writeAll payload.fields).value.body = payload.encode)
        ∧ payload.decoder.onBody (payload.encode ++ trailing) = (.ok payload, payload.encode.length))
    ∧ (∀ (status : CardStatus) (trailing : Octets), (∀ v ∈ status.fields, v.Fits) →
        maxCardApps.toNat < status.apps.length → status.apps.length < UInt32.size →
        let first := cardStatus { status with apps := status.apps.take maxCardApps.toNat }
        cardStatusDecoder.onBody ((cardStatus status).encode ++ trailing)
          = (.ok first, first.encode.length))
    ∧ (∀ (signal : SignalStrength) (trailing : Octets),
        let kept := { signal with gsmSignalStrength := signal.gsmSignalStrength &&& 0xff }
        signalStrengthDecoder.onBody ((signalStrength signal).encode ++ trailing)
          = (.ok (signalStrength kept), (signalStrength signal).encode.length))
    ∧ ∀ (decoder : Decoder Payload) (ring : Ring) (body behind : Octets), ring.Valid →
        ring.contents = body ++ behind →
        ∃ w, decoder.run.run (Window.ofRing ring body.length) = ((decoder.onBody body).1, w)
          ∧ w.consumed = (decoder.onBody body).2 ∧ w.remaining = body.length - w.consumed
          ∧ w.ring.contents = (body ++ behind).drop w.consumed := by
  refine ⟨fun payload trailing hfits ↦ ⟨fun capacity ↦ ?_, (reads_encode hfits).onBody trailing⟩,
    fun status trailing hfits hmany hsize ↦ ?_,
    fun signal trailing ↦ (reads_signalStrength signal).onBody trailing,
    fun decoder ring body behind hvalid hcontents ↦ Window.run_ofRing hvalid hcontents decoder⟩
  · rw [(Draft.valid_writeAll (Draft.valid_ofCapacity capacity) payload.fields).2,
      Draft.body_ofCapacity, List.nil_append, encode]
  -- the applications behind the eighth are bytes behind what is read
  · have happs : status.clamped.apps.length = maxCardApps.toNat :=
      List.length_take_of_le (Nat.le_of_lt hmany)
    have hcount : (min (UInt32.ofNat status.apps.length) maxCardApps).toNat
        = status.clamped.apps.length := by
      rw [toNat_min, UInt32.toNat_ofNat_of_lt' hsize, Nat.min_eq_right (Nat.le_of_lt hmany), happs]
    rw [CardStatus.fields_eq, CardStatus.declaring_eq_append] at hfits
    have hread := reads_cardStatus hcount fun v hv ↦ hfits v (List.mem_append_left _ hv)
    intro first
    have hfirst : first.encode.length = ((status.clamped.declaring
        (UInt32.ofNat status.apps.length)).flatMap Value.encode).length :=
      status.clamped.length_declaring _ _
    have hbytes : (cardStatus status).encode = _ :=
      congrArg (List.flatMap Value.encode) (status.declaring_eq_append _)
    rw [hbytes, List.flatMap_append, List.append_assoc, hfirst]
    exact hread.onBody _

/-- A call with signalling and a call without, in a parcel that goes around the end of the ring; and
a card status with nine applications. -/
theorem decode_layout_around :
    let call : Call :=
      { state := 0, index := 1, toa := 129, isMpty := false, isMt := true, als := 0,
        isVoice := true, isVoicePrivacy := false, unknown := 7, number := some "☎",
        numberPresentation := 0, name := none, namePresentation := 2, uusInfo := some ⟨1, 4⟩ }
    let calls := currentCalls [call, { call with index := 2, uusInfo := none }]
    let ring := (((Ring.ofCapacity 64).write (List.replicate 48 0)).value.skip 48).write
      ((calls.encode ++ [9]) ++ [5]) |>.value
    let app : CardApp :=
      { appType := 2, appState := 5, persoSubstate := 0, aid := some "A0", appLabel := none,
        pin1Replaced := 0, pin1 := 1, pin2 := 3 }
    let status : CardStatus := ⟨1, 0, 0, 0xffffffff, List.replicate 9 app⟩
    calls.Fits ∧ ring.Valid ∧ ring.contents = (calls.encode ++ [9]) ++ [5]
      ∧ (∃ w, currentCallsDecoder.run.run (Window.ofRing ring (calls.encode ++ [9]).length)
          = (.ok calls, w) ∧ w.consumed = 132 ∧ w.remaining = 1 ∧ w.ring.contents = [9, 5])
      ∧ (∀ v ∈ status.fields, v.Fits) ∧ maxCardApps.toNat < status.apps.length
      ∧ cardStatusDecoder.onBody ((cardStatus status).encode ++ [9])
        = (.ok (cardStatus { status with apps := List.replicate 8 app }), 340) := by
  intro call calls ring app status
  have hfits : calls.Fits := by decide +kernel
  have hfilled : ((Ring.ofCapacity 64).write (List.replicate 48 0)).value.Valid :=
    Ring.valid_write (Ring.valid_ofCapacity 64) _
  have hring : ring.Valid := Ring.valid_write (Ring.valid_skip hfilled (by decide +kernel)) _
  have hcontents : ring.contents = (calls.encode ++ [9]) ++ [5] := by decide +kernel
  have happs : ∀ v ∈ status.fields, v.Fits := by decide +kernel
  obtain ⟨hbodies, hclamped, -, hwindows⟩ := decode_layout
  have hbody : currentCallsDecoder.onBody (calls.encode ++ [9]) = (.ok calls, 132) :=
    (hbodies calls [9] hfits).2
  obtain ⟨w, hrun, hconsumed, hremaining, hrest⟩ :=
    hwindows currentCallsDecoder ring _ [5] hring hcontents
  rw [hbody] at hrun hconsumed
  rw [hconsumed] at hremaining hrest
  refine ⟨hfits, hring, hcontents, ⟨w, hrun, hconsumed, hremaining.trans ?_, hrest.trans ?_⟩, happs,
    by decide, ?_⟩
  · decide +kernel
  · decide +kernel
  · exact (hclamped status [9] happs (by decide) (by decide)).trans (by decide +kernel)

end Payload

end ParcelLink
