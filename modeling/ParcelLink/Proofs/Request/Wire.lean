import ParcelLink.Proofs.Value.RoundTrip
import ParcelLink.Request.Layout

/-!
# Requests on the wire

The parcel of a request is a framed body: the type, the token under which it is asked, and the
arguments. The type tells how the arguments are read, so a body gives back the request and its token
and is read to its last byte (`Request.digest_collect`). Parcels one behind the other, in chunks that
are cut anywhere, give back the requests in order (`Request.sight_of_parcels`).

## Main definitions

* `Request.body`, `Request.parcel`: the parcel of a request and what is framed in it.
* `Request.Fits`: whether the strings of a request are short enough to be told from absent ones.
* `Request.decoder`, `Request.collect`: how requests are read back from bodies.
-/

namespace ParcelLink.Request

/-- What is framed in the parcel of a request under a token. -/
def body (request : Request) (token : UInt32) : Octets :=
  encodeU32 request.type ++ encodeU32 token ++ request.encode

/-- The parcel of a request under a token. -/
def parcel (request : Request) (token : UInt32) : Octets := Framer.frame (request.body token)

/-- Whether every string of a request has few enough units not to be taken for an absent one. -/
def Fits (request : Request) : Prop :=
  ∀ text, .string (some text) ∈ request.arguments →
    (Utf16.units text).length < absentThreshold.toNat

/-- An argument is a string, a number, or a list of one number. -/
theorem argument_cases {request : Request} {v : Value} (h : v ∈ request.arguments) :
    (∃ text, v = .string (some text)) ∨ (∃ n, v = .u32 n) ∨ ∃ n, v = .words [n] := by
  cases request <;> simp only [arguments, List.mem_cons, List.not_mem_nil, or_false] at h <;>
    grind

/-- Only strings can be too long to be told from their bytes. -/
theorem fits_iff {request : Request} : request.Fits ↔ ∀ v ∈ request.arguments, v.Fits := by
  constructor
  · intro h v hv
    obtain ⟨text, rfl⟩ | ⟨n, rfl⟩ | ⟨n, rfl⟩ := argument_cases hv
    · rintro _ ⟨⟩
      exact h text hv
    · trivial
    · show 1 < UInt32.size
      decide
  · intro h text htext
    exact h _ htext text rfl

instance : DecidablePred Fits := fun _ ↦ decidable_of_iff _ fits_iff.symm

/-! ### Reading a request back -/

/-- Reads a request and its token. There is no request if the arguments are not those of one. -/
def decoder : Decoder (Option Request × UInt32) := do
  let type ← Decoder.u32
  let token ← Decoder.u32
  let arguments ← (layout type).mapM Kind.decoder
  return (ofArguments? type arguments, token)

/-- **A request is read from its body**, with the token under which it was asked. -/
theorem reads_body {request : Request} (h : request.Fits) (token : UInt32) :
    Decoder.Reads decoder (request.body token) (some request, token) := by
  have harguments := Value.reads_all (fits_iff.1 h)
  rw [kind_arguments] at harguments
  have hread := harguments.map fun arguments ↦ (ofArguments? request.type arguments, token)
  rw [ofArguments?_arguments, map_eq_pure_bind] at hread
  rw [body, List.append_assoc]
  exact (Decoder.reads_u32 request.type).bind ((Decoder.reads_u32 token).bind hread)

/-- What was read in a body, or why nothing was, and how many bytes of the body are left. -/
structure Receipt where
  outcome : Except Fault (Option Request × UInt32)
  left : Nat

/-- The handler that reads a request in every body and keeps what it has read. -/
def collect (receipts : List Receipt) : Reading (Logged (List Receipt)) := do
  let outcome ← decoder.run
  let left ← Reading.remaining
  return pure (receipts ++ [⟨outcome, left⟩])

/-- **A body is read to its last byte.** -/
theorem digest_collect {request : Request} (h : request.Fits) (token : UInt32)
    (receipts : List Receipt) :
    Framer.digest collect receipts (request.body token)
      = receipts ++ [⟨.ok (some request, token), 0⟩] := by
  have hfresh : (Excerpt.ofOctets (request.body token)).rest = request.body token ++ []
      ∧ (Excerpt.ofOctets (request.body token)).consumed + (request.body token ++ []).length
        = (request.body token).length := by
    rw [List.append_nil]
    exact ⟨rfl, Nat.zero_add _⟩
  obtain ⟨x, hrun, hrest, -⟩ := reads_body h token (Excerpt.gives _) hfresh
  have hleft : Source.left x = 0 := congrArg List.length hrest
  simp only [Framer.digest, collect, Reading.run_bind, hrun, Reading.remaining, Reading.run, hleft,
    Reading.run_pure, Logged.value_pure]

theorem foldl_digest_collect {sent : List (Request × UInt32)} (h : ∀ p ∈ sent, p.1.Fits)
    (receipts : List Receipt) :
    (sent.map fun p ↦ p.1.body p.2).foldl (Framer.digest collect) receipts
      = receipts ++ sent.map fun p ↦ ⟨.ok (some p.1, p.2), 0⟩ := by
  induction sent generalizing receipts with
  | nil => simp
  | cons p sent ih =>
    have hrest := ih fun q hq ↦ h q (List.mem_cons_of_mem p hq)
    rw [List.map_cons, List.foldl_cons, digest_collect (h p List.mem_cons_self), hrest,
      List.append_assoc, List.map_cons, List.singleton_append]

/-! ### Parcels one behind the other -/

/-- A token is read behind the size and the type. -/
theorem token_of_parcel (request : Request) (token : UInt32) :
    Octets.ofLittle (((request.parcel token).drop 8).take 4) = token.toNat := by
  have hfront : (Octets.big sizeWidth (request.body token).length
      ++ encodeU32 request.type).length = 8 := by
    simp [encodeU32, sizeWidth]
  have hparcel : request.parcel token = (Octets.big sizeWidth (request.body token).length
      ++ encodeU32 request.type) ++ (encodeU32 token ++ request.encode) := by
    simp [parcel, Framer.frame, body]
  rw [hparcel, List.drop_left' hfront, encodeU32, List.take_left' (Octets.length_little 4 _),
    Octets.ofLittle_little]
  exact Nat.mod_eq_of_lt token.toNat_lt

/-- Parcels under different tokens are different. -/
theorem token_inj {request other : Request} {token token' : UInt32}
    (h : request.parcel token = other.parcel token') : token = token' := by
  rw [← UInt32.toNat_inj, ← request.token_of_parcel, ← other.token_of_parcel, h]

/-- The parcels of requests fall into their bodies. -/
theorem split_parcels {limit : Nat} {sent : List (Request × UInt32)}
    (h : ∀ p ∈ sent, (p.1.body p.2).length ≤ limit ∧ (p.1.body p.2).length < UInt32.size) :
    Framer.split limit .awaitingSize (sent.flatMap fun p ↦ p.1.parcel p.2)
      = ⟨sent.map fun p ↦ p.1.body p.2, .awaitingSize, [], none⟩ := by
  have hframes : (sent.flatMap fun p ↦ p.1.parcel p.2)
      = (sent.map fun p ↦ p.1.body p.2).flatMap Framer.frame := by
    rw [List.flatMap_map]
    rfl
  rw [hframes]
  refine Framer.split_flatMap_frame fun body hbody ↦ ?_
  obtain ⟨p, hp, rfl⟩ := List.mem_map.1 hbody
  exact h p hp

/-- **Requests are read back from their parcels**, each with its token, in order and each once, and
no byte is left in a body or behind the last one. -/
theorem sight_of_parcels (capacity : Nat) {limit : Nat} {sent : List (Request × UInt32)}
    {chunks : List Octets} (hchunks : chunks.flatten = sent.flatMap fun p ↦ p.1.parcel p.2)
    (hfits : ∀ p ∈ sent, p.1.Fits)
    (h : ∀ p ∈ sent, (p.1.body p.2).length ≤ limit ∧ (p.1.body p.2).length < UInt32.size) :
    Framer.Sight.ofPushed
        ((Framer.ofCapacity capacity limit).pushAll collect chunks []).value
      = ⟨sent.map fun p ↦ ⟨.ok (some p.1, p.2), 0⟩, sent.length, none, []⟩ := by
  have hsplit := split_parcels h
  have hsight := Framer.sight_of_believed capacity limit collect [] hchunks
    (congrArg Framer.Split.refused? hsplit)
  simp only [hsplit, foldl_digest_collect hfits, List.nil_append, List.length_map] at hsight
  exact hsight

end ParcelLink.Request
