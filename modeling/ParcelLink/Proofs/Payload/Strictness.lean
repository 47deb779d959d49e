import ParcelLink.Proofs.Payload.RoundTrip
import ParcelLink.Proofs.Value.Strictness

/-!
# Bodies are read strictly

Bodies come from a modem, and may be anything: cut short, with bytes behind them, with counts and
lengths of things that are not there. Whatever a body is, its decoder takes a payload off the front
that is written with as many bytes and can be told from these, or it is cut short or stopped by a
string (`Payload.strict_counted`). So what a count declares does not matter: nothing comes of it that
was not paid for in bytes (`Payload.items_le`).

One body is out of line. An empty body is an empty list of calls, and any other list of calls that is
cut to nothing becomes one (`Payload.omitsCount`).

## Main results

* `Payload.decode_body`: what the decoders make of any body.
-/

namespace ParcelLink

open Value (Fill)
open Decoder (strict_u32 strict_bool strict_string strict_records)

namespace Payload

/-! ### Records -/

theorem strict_cardApp : cardAppDecoder.Strict fun n app ↦ Fill app.fields n := by
  -- what each field fills is noted as it is read, and put together in the order of the layout
  refine strict_u32.bind fun _ _ htype ↦ ?_
  refine strict_u32.bind fun _ _ hstate ↦ ?_
  refine strict_u32.bind fun _ _ hperso ↦ ?_
  refine strict_string.bind fun _ _ haid ↦ ?_
  refine strict_string.bind fun _ _ hlabel ↦ ?_
  refine strict_u32.bind fun _ _ hreplaced ↦ ?_
  refine strict_u32.bind fun _ _ hpin1 ↦ ?_
  refine strict_u32.bind fun _ _ hpin2 ↦ .pure ?_
  exact (htype _).cons <| (hstate _).cons <| (hperso _).cons <| haid.cons <| hlabel.cons <|
    (hreplaced _).cons <| (hpin1 _).cons <| (hpin2 _).cons .nil

/-- Every number but one in front of a tail says that the tail is not there. -/
theorem strict_uusInfo : uusInfoDecoder.Strict fun n info ↦ Fill (UusInfo.fields info) n := by
  refine strict_u32.bind fun _ flag hflag ↦ ?_
  by_cases habsent : flag ≠ 1
  · rw [if_pos habsent]
    exact .pure (hflag 0)
  · rw [if_neg habsent]
    refine strict_u32.bind fun _ _ htype ↦ ?_
    refine strict_u32.bind fun _ _ hdcs ↦ .pure ?_
    exact (hflag 1).cons <| (htype _).cons <| (hdcs _).cons .nil

theorem strict_call : callDecoder.Strict fun n call ↦ Fill call.fields n := by
  refine strict_u32.bind fun _ _ hstate ↦ ?_
  refine strict_u32.bind fun _ _ hindex ↦ ?_
  refine strict_u32.bind fun _ _ htoa ↦ ?_
  refine strict_bool.bind fun _ _ hmpty ↦ ?_
  refine strict_bool.bind fun _ _ hmt ↦ ?_
  refine strict_u32.bind fun _ _ hals ↦ ?_
  refine strict_bool.bind fun _ _ hvoice ↦ ?_
  refine strict_bool.bind fun _ _ hprivacy ↦ ?_
  refine strict_u32.bind fun _ _ hunknown ↦ ?_
  refine strict_string.bind fun _ _ hnumber ↦ ?_
  refine strict_u32.bind fun _ _ hnumberShown ↦ ?_
  refine strict_string.bind fun _ _ hname ↦ ?_
  refine strict_u32.bind fun _ _ hnameShown ↦ ?_
  refine strict_uusInfo.bind fun _ _ huus ↦ .pure ?_
  exact (hstate _).cons <| (hindex _).cons <| (htoa _).cons <| (hmpty _).cons <| (hmt _).cons <|
    (hals _).cons <| (hvoice _).cons <| (hprivacy _).cons <| (hunknown _).cons <| hnumber.cons <|
    (hnumberShown _).cons <| hname.cons <| (hnameShown _).cons huus

/-! ### Bodies -/

/-- Whether a body is the empty one, of a list of calls. -/
def omitsCount : Payload → Octets → Bool
  | currentCalls _, [] => true
  | _, _ => false

/-- The decoder of the shape that a body has, but for calls without a count. -/
def countedDecoder : Payload → Decoder Payload
  | currentCalls _ => currentCalls <$> Decoder.list callDecoder
  | shape => shape.decoder

/-- No other body than the empty one of calls is read without a count. -/
theorem onBody_decoder {shape : Payload} {body : Octets} (h : shape.omitsCount body = false) :
    shape.decoder.onBody body = shape.countedDecoder.onBody body := by
  cases shape with
  | currentCalls calls =>
    cases body with
    | nil => cases h
    | cons b body => rfl
  | _ => rfl

theorem eq_of_omitsCount {shape : Payload} {body : Octets} (h : shape.omitsCount body = true) :
    (∃ calls, shape = currentCalls calls) ∧ body = [] := by
  cases shape with
  | currentCalls calls =>
    cases body with
    | nil => exact ⟨⟨calls, rfl⟩, rfl⟩
    | cons b body => cases h
  | _ => cases h

/-- Without a count there are no calls. -/
theorem onBody_nil : currentCallsDecoder.onBody [] = (.ok (currentCalls []), 0) := rfl

theorem omitsCount_append {shape : Payload} {body : Octets} (h : shape.omitsCount body = false)
    (extra : Octets) : shape.omitsCount (body ++ extra) = false := by
  cases shape with
  | currentCalls calls =>
    cases body with
    | nil => cases h
    | cons b body => rfl
  | _ => rfl

/-- A card status is written with the count of the applications that were read, in the place of the
declared one. -/
theorem strict_cardStatus : cardStatusDecoder.Strict fun n payload ↦
    ∃ status, payload = cardStatus status ∧ payload.Bounded ∧ Fill payload.fields n := by
  refine strict_u32.bind fun _ _ hcard ↦ ?_
  refine strict_u32.bind fun _ _ huniversal ↦ ?_
  refine strict_u32.bind fun _ _ hgsm ↦ ?_
  refine strict_u32.bind fun _ _ hcdma ↦ ?_
  refine strict_u32.bind fun _ declared hdeclared ↦ ?_
  refine (strict_records strict_cardApp _).bind fun _ apps happs ↦ .pure ?_
  refine ⟨_, rfl, ?_, ?_⟩
  · show apps.length ≤ maxCardApps.toNat
    rw [happs.1, toNat_min]
    exact Nat.min_le_right _ _
  · exact (hcard _).cons <| (huniversal _).cons <| (hgsm _).cons <| (hcdma _).cons <|
      (hdeclared _).cons happs.2

/-- A signal strength is written with the low byte of its first number, in the place of that. -/
theorem strict_signalStrength : signalStrengthDecoder.Strict fun n payload ↦
    ∃ signal, payload = signalStrength signal ∧ payload.Bounded ∧ Fill payload.fields n := by
  refine strict_u32.bind fun _ first hfirst ↦ ?_
  refine strict_u32.bind fun _ _ hrate ↦ ?_
  refine strict_u32.bind fun _ _ hcdma ↦ ?_
  refine strict_u32.bind fun _ _ hcdmaEcio ↦ ?_
  refine strict_u32.bind fun _ _ hevdo ↦ ?_
  refine strict_u32.bind fun _ _ hevdoEcio ↦ ?_
  refine strict_u32.bind fun _ _ hsnr ↦ .pure ?_
  refine ⟨_, rfl, ?_, ?_⟩
  · show first &&& 0xff < 256
    rw [UInt32.lt_iff_toNat_lt, UInt32.toNat_and]
    exact Nat.lt_succ_of_le Nat.and_le_right
  · exact (hfirst _).cons <| (hrate _).cons <| (hcdma _).cons <| (hcdmaEcio _).cons <|
      (hevdo _).cons <| (hevdoEcio _).cons <| (hsnr _).cons .nil

theorem strict_smsSent : smsSentDecoder.Strict fun n payload ↦
    ∃ outcome, payload = smsSent outcome ∧ Fill payload.fields n := by
  refine strict_u32.bind fun _ _ href ↦ ?_
  refine strict_string.bind fun _ _ hpdu ↦ ?_
  refine strict_u32.bind fun _ _ herror ↦ .pure ?_
  exact ⟨_, rfl, (href _).cons <| hpdu.cons <| (herror _).cons .nil⟩

/-- **Every body is read strictly, and what is read is of the shape that the decoder is for**, can be
told from its bytes, and is written with as many as it was taken from. -/
theorem strict_counted (shape : Payload) : shape.countedDecoder.Strict fun n payload ↦
    payload.decoder = shape.decoder ∧ payload.Bounded ∧ Fill payload.fields n := by
  cases shape with
  | ack => exact .pure ⟨rfl, trivial, .nil⟩
  | cardStatus =>
    refine strict_cardStatus.mono ?_
    rintro n _ ⟨status, rfl, h⟩
    exact ⟨rfl, h⟩
  | retryCounts => exact Decoder.strict_words.map fun n ns h ↦ ⟨rfl, trivial, h⟩
  | currentCalls => exact (Decoder.strict_list strict_call).map fun n calls h ↦ ⟨rfl, h⟩
  | text => exact strict_string.map fun n s h ↦ ⟨rfl, trivial, h⟩
  | signalStrength =>
    refine strict_signalStrength.mono ?_
    rintro n _ ⟨signal, rfl, h⟩
    exact ⟨rfl, h⟩
  | strings => exact Decoder.strict_strings.map fun n ss h ↦ ⟨rfl, trivial, h⟩
  | smsSent =>
    refine strict_smsSent.mono ?_
    rintro n _ ⟨outcome, rfl, h⟩
    exact ⟨rfl, trivial, h⟩
  | integers => exact Decoder.strict_words.map fun n ns h ↦ ⟨rfl, trivial, h⟩
  | radioState => exact strict_u32.map fun n k h ↦ ⟨rfl, trivial, h k⟩

/-! ### What a count can make -/

/-- How many items are in the list of a body, if it has one. -/
def items : Payload → Nat
  | cardStatus status => status.apps.length
  | retryCounts counts => counts.length
  | currentCalls calls => calls.length
  | strings ss => ss.length
  | integers ns => ns.length
  | ack | text _ | signalStrength _ | smsSent _ | radioState _ => 0

theorem le_length_flatMap {α : Type} {write : α → Octets} (h : ∀ a, 4 ≤ (write a).length)
    (items : List α) : 4 * items.length ≤ (items.flatMap write).length := by
  induction items with
  | nil => exact Nat.zero_le _
  | cons a items ih =>
    have ha := h a
    rw [List.length_cons, List.flatMap_cons, List.length_append]
    omega

/-- A record that begins with a number takes up four bytes at least. -/
theorem le_length_record (k : UInt32) (values : List Value) :
    4 ≤ ((.u32 k :: values).flatMap Value.encode).length := by
  rw [List.flatMap_cons, List.length_append]
  exact Nat.le_add_right 4 _

theorem le_length_string (s : Option String) : 4 ≤ (encodeString s).length := by
  cases s with
  | none => exact Nat.le_refl 4
  | some text => rw [length_encodeString]; exact Nat.le_add_right 4 _

/-- Items behind others take up no less than by themselves. -/
theorem le_length_behind {α : Type} {write : α → Octets} (h : ∀ a, 4 ≤ (write a).length)
    (front : Octets) (items : List α) : 4 * items.length ≤ (front ++ items.flatMap write).length := by
  rw [List.length_append]
  exact Nat.le_trans (le_length_flatMap h items) (Nat.le_add_left _ _)

/-- **Every item of a list takes up four bytes at least.** -/
theorem items_le (payload : Payload) : 4 * payload.items ≤ payload.encode.length := by
  have hnumber : ∀ k : UInt32, 4 ≤ (encodeU32 k).length := fun k ↦ Nat.le_refl 4
  cases payload with
  | cardStatus status =>
    rw [encode, fields, CardStatus.fields, List.flatMap_append, List.flatMap_assoc]
    exact le_length_behind (fun app ↦ le_length_record _ _) _ _
  | currentCalls calls =>
    rw [encode, fields, List.flatMap_cons, List.flatMap_assoc]
    exact le_length_behind (fun call ↦ le_length_record _ _) _ _
  | retryCounts counts =>
    rw [encode, fields, List.flatMap_singleton]
    exact le_length_behind hnumber _ _
  | integers ns =>
    rw [encode, fields, List.flatMap_singleton]
    exact le_length_behind hnumber _ _
  | strings ss =>
    rw [encode, fields, List.flatMap_singleton]
    exact le_length_behind le_length_string _ _
  | ack | text | signalStrength | smsSent | radioState => exact Nat.zero_le _

/-! ### Any body -/

/-- **What the decoders make of any body.** A decoder fails only as cut short, or as stopped by a
string. If it takes a payload of `n` bytes, then bytes behind the body make no difference, and with
any of the `n` bytes missing it is cut short: but for the empty body of calls, which other calls come
to when nothing is left of them. The payload is written with just `n` bytes, but for the empty list
of calls that had no count, and is read back from what it is written with; and so there are no more
items in it than four bytes each allow. All this is so wherever in a ring the parcel begins that holds
the body. -/
theorem decode_body (shape : Payload) (body : Octets) :
    (∀ cause, (shape.decoder.onBody body).1 = .error cause →
        (∃ needed left, cause = .truncated needed left) ∨ ∃ bits, cause = .malformedString bits)
    ∧ (∀ payload n, shape.decoder.onBody body = (.ok payload, n) →
        (shape.omitsCount body = false →
          ∀ extra, shape.decoder.onBody (body ++ extra) = (.ok payload, n))
        ∧ (∀ k < n,
          if shape.omitsCount (body.take k) then
            k = 0 ∧ shape.decoder.onBody (body.take k) = (.ok (currentCalls []), 0)
          else shape.decoder.CutShort (body.take k))
        ∧ n = (if shape.omitsCount body then 0 else payload.encode.length)
        ∧ shape.decoder.onBody payload.encode = (.ok payload, payload.encode.length)
        ∧ payload.items ≤ n / 4)
    ∧ ∀ (ring : Ring) (behind : Octets), ring.Valid → ring.contents = body ++ behind →
        ∃ w, shape.decoder.run.run (Window.ofRing ring body.length)
            = ((shape.decoder.onBody body).1, w)
          ∧ w.consumed = (shape.decoder.onBody body).2 ∧ w.remaining = body.length - w.consumed
          ∧ w.ring.contents = (body ++ behind).drop w.consumed := by
  refine ⟨fun cause h ↦ ?_, fun payload n h ↦ ?_,
    fun ring behind hvalid hcontents ↦ Window.run_ofRing hvalid hcontents shape.decoder⟩
  · rcases hcount : shape.omitsCount body with - | -
    · rw [onBody_decoder hcount] at h
      exact shape.strict_counted.cause_of_error h
    · obtain ⟨⟨calls, rfl⟩, rfl⟩ := eq_of_omitsCount hcount
      cases h
  · rcases hcount : shape.omitsCount body with - | -
    · rw [onBody_decoder hcount] at h
      obtain ⟨⟨hshape, hbounded, hfill⟩, hextra, hcut⟩ := shape.strict_counted.of_ok h
      have hback := (reads_encode ⟨hfill.fits, hbounded⟩).onBody []
      rw [List.append_nil, hshape] at hback
      refine ⟨fun _ extra ↦ ?_, fun k hk ↦ ?_, hfill.length_eq.symm, hback, ?_⟩
      · rw [onBody_decoder (omitsCount_append hcount extra)]
        exact hextra extra
      -- a body that is cut to nothing is not cut short if it is one of calls
      · split
        · next hnone =>
          obtain ⟨⟨calls, rfl⟩, hnil⟩ := eq_of_omitsCount hnone
          rcases List.take_eq_nil_iff.1 hnil with rfl | rfl
          · exact ⟨rfl, onBody_nil⟩
          · cases hcount
        · next hsome =>
          rw [Decoder.CutShort, onBody_decoder (Bool.eq_false_iff.2 hsome)]
          exact hcut k hk
      · rw [Nat.le_div_iff_mul_le (by decide), Nat.mul_comm, ← hfill.length_eq]
        exact payload.items_le
    · obtain ⟨⟨calls, rfl⟩, rfl⟩ := eq_of_omitsCount hcount
      obtain ⟨rfl, rfl⟩ : currentCalls [] = payload ∧ 0 = n :=
        ⟨Except.ok.inj (congrArg Prod.fst h), congrArg Prod.snd h⟩
      have hfits : (currentCalls []).Fits := by decide
      have hback := (reads_encode hfits).onBody []
      refine ⟨fun hnone ↦ ?_, fun k hk ↦ absurd hk (Nat.not_lt_zero k), rfl, hback, Nat.le_refl 0⟩
      cases hnone

/-- A string with a surrogate without its partner is written with other units, but as many. A body
that declares all the numbers that a count can tell has none of them. -/
theorem decode_body_of_surrogate :
    let body : Octets := [2, 0, 0, 0, 0, 0xd8, 97, 0, 0, 0, 0, 0, 9]
    let spelled := text (some "\uFFFDa")
    let ring := ((Ring.ofCapacity 16).write (body ++ [5])).value
    textDecoder.onBody body = (.ok spelled, 12)
      ∧ textDecoder.onBody (body ++ [1, 2]) = (.ok spelled, 12)
      ∧ textDecoder.CutShort (body.take 11)
      ∧ spelled.encode.length = 12 ∧ spelled.encode ≠ body.take 12
      ∧ textDecoder.onBody spelled.encode = (.ok spelled, 12)
      ∧ (∃ w, textDecoder.run.run (Window.ofRing ring body.length) = (.ok spelled, w)
        ∧ w.consumed = 12 ∧ w.ring.contents = [9, 5])
      ∧ ∃ needed left,
        (integersDecoder.onBody [255, 255, 255, 255, 1, 0, 0, 0]).1
          = .error (.truncated needed left) := by
  intro body spelled ring
  have hbody : spelled.decoder.onBody body = (.ok spelled, 12) := by decide +kernel
  have hring : ring.Valid := Ring.valid_write (Ring.valid_ofCapacity 16) _
  have hcontents : ring.contents = body ++ [5] := by decide +kernel
  obtain ⟨-, htaken, hwindows⟩ := decode_body spelled body
  obtain ⟨hextra, hcut, hlength, hback, -⟩ := htaken spelled 12 hbody
  have hwritten : spelled.encode.length = 12 := hlength.symm
  rw [hwritten] at hback
  obtain ⟨w, hrun, hconsumed, -, hrest⟩ := hwindows ring [5] hring hcontents
  rw [hbody] at hrun hconsumed
  rw [hconsumed] at hrest
  have hfailed : (integersDecoder.onBody [255, 255, 255, 255, 1, 0, 0, 0]).1
      = .error (.truncated 4 0) := by decide +kernel
  obtain ⟨needed, left, hcause⟩ | ⟨bits, hcause⟩ := (decode_body (integers []) _).1 _ hfailed
  · exact ⟨hbody, hextra rfl [1, 2], hcut 11 (by decide), hwritten, by decide +kernel, hback,
      ⟨w, hrun, hconsumed, hrest.trans (by decide +kernel)⟩, needed, left, hcause ▸ hfailed⟩
  · cases hcause

end Payload

end ParcelLink
