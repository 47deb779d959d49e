import ParcelLink.Event
import ParcelLink.Proofs.Json.Rendering

/-!
# The JSON text of an event says the event

Two events with the same JSON are the same: the first field tells how the event came about, the
name of a payload tells its shape, and the fields that follow hold the numbers and strings as they
are (`Event.toJson_inj`). Since the text of a value says its tree and no other, the text of an event
is read back as the event, whatever stands in its strings (`Event.json_faithful`).
-/

namespace ParcelLink

/-! ### Words and optional strings -/

@[simp] theorem Json.word_inj {m n : UInt32} : word m = word n ↔ m = n := by
  rw [word, word, number.injEq, UInt32.toNat_inj]

@[simp] theorem Json.string?_inj {s t : Option String} : string? s = string? t ↔ s = t := by
  cases s <;> cases t <;> simp [string?]

/-! ### Payloads -/

@[simp] theorem CardApp.toJson_inj {app other : CardApp} :
    app.toJson = other.toJson ↔ app = other := by
  cases app
  cases other
  simp [toJson]

@[simp] theorem CardStatus.toJson_inj {status other : CardStatus} :
    status.toJson = other.toJson ↔ status = other := by
  cases status
  cases other
  simp [toJson, List.map_inj_right]

@[simp] theorem UusInfo.toJson_inj {info other : UusInfo} :
    info.toJson = other.toJson ↔ info = other := by
  cases info
  cases other
  simp [toJson]

/-- Signalling that is missing is not mistaken for signalling that is there. -/
theorem UusInfo.toJson_getD_inj {info other : Option UusInfo} :
    (info.map toJson).getD .null = (other.map toJson).getD .null ↔ info = other := by
  rcases info with _ | ⟨_, _⟩ <;> rcases other with _ | ⟨_, _⟩ <;> simp [toJson]

@[simp] theorem Call.toJson_inj {call other : Call} :
    call.toJson = other.toJson ↔ call = other := by
  cases call
  cases other
  simp [toJson, UusInfo.toJson_getD_inj]

@[simp] theorem SignalStrength.toJson_inj {signal other : SignalStrength} :
    signal.toJson = other.toJson ↔ signal = other := by
  cases signal
  cases other
  simp [toJson]

@[simp] theorem SmsSent.toJson_inj {outcome other : SmsSent} :
    outcome.toJson = other.toJson ↔ outcome = other := by
  cases outcome
  cases other
  simp [toJson]

@[simp] theorem Payload.toJson_inj {payload other : Payload} :
    payload.toJson = other.toJson ↔ payload = other := by
  cases payload <;> cases other <;> simp [toJson, List.map_inj_right]

/-! ### Events -/

namespace Event

theorem toJson_inj {event other : Event} : event.toJson = other.toJson ↔ event = other := by
  cases event <;> cases other <;> simp [toJson]

/-- **The JSON text of an event is faithful.** By the grammar it says the JSON of the event and
nothing else, no other event has the same text, and no control stands in it. -/
theorem json_faithful (event : Event) :
    (∀ tree, Json.Says event.json tree ↔ tree = event.toJson.tree)
      ∧ (∀ other : Event, other.json = event.json → other = event)
      ∧ ∀ c ∈ event.json.toList, 0x20 ≤ c.toNat := by
  refine ⟨Json.says_render_iff event.toJson, fun other h ↦ ?_, Json.visible_render event.toJson⟩
  exact toJson_inj.mp (Json.render_inj h)

-- one text for each kind of event, with payloads that hold a list, fields and a number

example : (response .operator 8 (.strings [some "\"a\"\n", none])).json
    = r#"{"event":"response","request":22,"token":8,"payload":{"strings":["\"a\"\n",null]}}"# := rfl

example :
    (response .sendSms 7 (.smsSent { messageRef := 3, ackPdu := some "a", errorCode := 0 })).json
      = r#"{"event":"response","request":25,"token":7,"payload":"#
        ++ r#"{"smsSent":{"messageRef":3,"ackPdu":"a","errorCode":0}}}"# := by cbv

example : (requestFailed .dial 2 1).json
    = r#"{"event":"requestFailed","request":10,"token":2,"error":1}"# := rfl

example : (responseMalformed .getImsi 9 "Truncated").json
    = r#"{"event":"responseMalformed","request":11,"token":9,"reason":"Truncated"}"# := rfl

example : (notification .radioStateChanged (.radioState 1)).json
    = r#"{"event":"notification","kind":1000,"payload":{"radioState":1}}"# := rfl

end Event

end ParcelLink
