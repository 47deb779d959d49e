import ParcelLink.ParcelType
import ParcelLink.Payload.Json

/-!
# Events

What the link tells its user about the modem: how a request was answered, or what the modem reports
on its own.
-/

namespace ParcelLink

/-- Something that the modem told. -/
inductive Event where
  /-- The answer to a request. -/
  | response (request : ParcelType) (token : UInt32) (payload : Payload)
  /-- An answer that reports an error. -/
  | requestFailed (request : ParcelType) (token error : UInt32)
  /-- An answer whose body cannot be read. -/
  | responseMalformed (request : ParcelType) (token : UInt32) (reason : String)
  /-- A notification. -/
  | notification (type : ParcelType) (payload : Payload)
  deriving DecidableEq, Repr

namespace Event

/-- The request or notification that an event is about. -/
def type : Event → ParcelType
  | response request .. | requestFailed request .. | responseMalformed request .. => request
  | notification type _ => type

/-- The token of the request that an event answers. -/
def token? : Event → Option UInt32
  | response _ token _ | requestFailed _ token _ | responseMalformed _ token _ => some token
  | notification .. => none

/-- An event as JSON. -/
def toJson : Event → Json
  | response request token payload =>
    .object [("event", .string "response"), ("request", .word request), ("token", .word token),
      ("payload", payload.toJson)]
  | requestFailed request token error =>
    .object [("event", .string "requestFailed"), ("request", .word request),
      ("token", .word token), ("error", .word error)]
  | responseMalformed request token reason =>
    .object [("event", .string "responseMalformed"), ("request", .word request),
      ("token", .word token), ("reason", .string reason)]
  | notification type payload =>
    .object [("event", .string "notification"), ("kind", .word type),
      ("payload", payload.toJson)]

/-- The JSON text of an event. -/
def json (event : Event) : String := event.toJson.render

end Event

end ParcelLink
