import ParcelLink.Endpoint

/-!
# How requests leave the endpoint

The parcel of a request is the type, a fresh token, and the arguments. The token is pending from the
moment it is written, before any argument is. When the parcel is finished it goes to the transport;
if that refuses it, the token is taken back and no answer is expected. A parcel that is begun but
never finished leaves its token pending, and the draft starts over with the next one.

## Main definitions

* `Transport`: where finished parcels go.
* `Endpoint.start`, `Endpoint.argue`, `Endpoint.finish`: a parcel step by step.
* `Endpoint.submit`: a whole request.
-/

namespace ParcelLink

/-- Where finished parcels go. A transport has a state of type `τ`, and takes each parcel or says
why not. -/
structure Transport (τ : Type) where
  /-- Take a parcel. -/
  send : τ → Octets → Logged (Except Fault Unit × τ)

namespace Transport

/-- No transport: parcels are dropped with a warning. -/
def absent : Transport Unit := ⟨fun _ parcel ↦ ⟨(.ok (), ()), #[.noTransport parcel.length]⟩⟩

/-- A transport that keeps every parcel, the last one last, or refuses every parcel for a cause. -/
def recorder : Transport (Array Octets × Option Fault) :=
  ⟨fun (kept, refusal?) parcel ↦
    match refusal? with
    | none => pure (.ok (), (kept.push parcel, none))
    | some cause => pure (.error cause, (kept, some cause))⟩

end Transport

namespace Endpoint

variable {τ : Type}

/-- Begin the parcel of a request, which is pending from now on. Gives its token. -/
def start (e : Endpoint) (type : ParcelType) : Logged (UInt32 × Endpoint) := do
  let draft ← e.draft.reset.write (encodeU32 type)
  let (token, ledger) := e.ledger.insert type
  let draft ← draft.write (encodeU32 token)
  return (token, { e with draft := draft, ledger := ledger })

/-- Write an argument into the parcel that was begun. -/
def argue (e : Endpoint) (argument : Value) : Logged Endpoint := do
  let draft ← e.draft.write argument.encode
  return { e with draft := draft }

/-- Hand the parcel that was begun to the transport. Gives the token, or why the parcel was
refused; then the request is not pending any more. -/
def finish (e : Endpoint) (type : ParcelType) (token : UInt32) (transport : Transport τ)
    (state : τ) : Logged (Except Fault UInt32 × Endpoint × τ) := do
  let (parcel, draft) := e.draft.finish
  Logged.note (.parcelFinished type token parcel.length)
  let (outcome, state) ← transport.send state parcel
  let e := { e with draft := draft }
  match outcome with
  | .ok () => return (.ok token, e, state)
  | .error cause => return (.error cause, { e with ledger := e.ledger.erase token }, state)

/-- Send a request with arguments. Gives its token. -/
def send (e : Endpoint) (type : ParcelType) (arguments : List Value) (transport : Transport τ)
    (state : τ) : Logged (Except Fault UInt32 × Endpoint × τ) := do
  let (token, e) ← e.start type
  let e ← Logged.foldl argue e arguments
  e.finish type token transport state

/-- Send a request. Gives its token. -/
def submit (e : Endpoint) (request : Request) (transport : Transport τ) (state : τ) :
    Logged (Except Fault UInt32 × Endpoint × τ) :=
  e.send request.type request.arguments transport state

end Endpoint

end ParcelLink
