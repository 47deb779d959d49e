import ParcelLink.Fault
import ParcelLink.ParcelType

/-!
# Notices for the log

What the link has to say about its own work is data: an operation returns the notices it gave next
to its result, as a `Logged` value, and each notice knows its level and its wording. Nothing else
depends on them, so a law about a result is a law about `Logged.value`.

## Main definitions

* `Notice`: everything that can be said, by cause.
* `Notice.level`, `Notice.text`: how loud it is and how it reads.
* `Logged`: a result and the notices given on the way to it, in order.
-/

namespace ParcelLink

/-- How loud a notice is. -/
inductive Level where
  | error
  | warn
  | debug
  deriving DecidableEq, Repr

/-- The word that stands for a level in the log. -/
def Level.label : Level → String
  | error => "ERROR"
  | warn => "WARN"
  | debug => "DEBUG"

/-- Something the link has to say about its work. -/
inductive Notice where
  /-- Bytes came in while others were still unread. -/
  | bytesReceived (count buffered : Nat)
  /-- Fewer bytes are there than a size takes. -/
  | sizeUnknown
  /-- A size has been read. -/
  | parcelAnnounced (size : Nat)
  /-- A size has been read, but not all of its body is there. -/
  | bodyIncomplete (unread size : Nat)
  /-- Everything buffered was thrown away. -/
  | discarded (count : Nat) (cause : Fault)
  /-- The handler of a parcel left bytes of it unread. -/
  | leftOver (count : Nat)
  /-- The ring of incoming bytes grows. -/
  | ringGrows (capacity needed grown : Nat)
  /-- The draft of an outgoing parcel grows. -/
  | draftGrows (capacity grown : Nat)
  /-- A parcel is finished and goes to the transport. -/
  | parcelFinished (type : ParcelType) (token : UInt32) (length : Nat)
  /-- An answer reports that the request failed. -/
  | requestFailed (error : UInt32) (type : ParcelType) (token : UInt32)
  /-- An answer to a pending request. -/
  | answered (type : ParcelType) (token : UInt32)
  /-- A notification. -/
  | notified (type : ParcelType)
  /-- A parcel of a type that has no decoder. -/
  | undecoded (type : ParcelType)
  /-- A parcel that could not be made out. -/
  | parcelDropped (cause : Fault)
  /-- An answer whose error code could not be read. -/
  | answerDropped (token : UInt32) (cause : Fault)
  /-- There is no transport to take a parcel. -/
  | noTransport (length : Nat)
  /-- The decoder of a parcel type failed. -/
  | decodingFailed (type : ParcelType) (cause : Fault)
  /-- The receiver of events is gone. -/
  | receiverGone (name : Option String)
  /-- There is no receiver of events. -/
  | noReceiver (event : String)
  /-- A batch of parcels has been written and flushed. -/
  | batchWritten (parcels bytes : Nat)
  /-- No more parcels will be queued. -/
  | queueClosed
  /-- A batch of parcels could not be written. -/
  | batchFailed (parcels : Nat) (cause : Fault)
  /-- The peer closed the connection. -/
  | streamEnded (pending : Nat)
  /-- No more requests will be submitted. -/
  | requestsClosed
  /-- The outcome of a request has no one to go to. -/
  | submitterGone (request : String)
  /-- A request could not be sent. -/
  | submissionFailed (request : String) (cause : Fault)
  /-- Reading from the peer failed. -/
  | readFailed (cause : Fault)
  deriving DecidableEq, Repr

namespace Notice

/-- The level at which a notice is given. -/
def level : Notice → Level
  | discarded .. | decodingFailed .. | submissionFailed .. | readFailed .. => .error
  | leftOver .. | parcelDropped .. | answerDropped .. | noTransport .. | receiverGone ..
  | batchFailed .. => .warn
  | _ => .debug

/-- A type's number with its name. -/
def typeText (type : ParcelType) : String := s!"{type} (" ++ type.label ++ ")"

/-- The words of a notice. -/
def text : Notice → String
  | bytesReceived count buffered => s!"Received {count} bytes, {buffered} already buffered"
  | sizeUnknown => "Next parcel size unknown, waiting for more data"
  | parcelAnnounced size => s!"New incoming parcel of size {size}"
  | bodyIncomplete unread size =>
    s!"Read {unread} bytes, but parcel size is {size}, waiting for more data"
  | discarded count cause => s!"Discarding {count} buffered bytes: " ++ cause.message
  | leftOver count => s!"Parcel handler didn't consume whole parcel, {count} bytes left over"
  | ringGrows capacity needed grown =>
    s!"Incoming buffer of {capacity} bytes can't hold {needed} bytes, growing to {grown}"
  | draftGrows capacity grown =>
    s!"Outgoing buffer of {capacity} bytes too small, growing to {grown}"
  | parcelFinished type token length =>
    "Outgoing parcel " ++ typeText type ++ s!", token {token}, {length} bytes"
  | requestFailed error type token =>
    s!"Received error {error} for solicited parcel type " ++ typeText type ++ s!", token {token}"
  | answered type token =>
    "Solicited response for request type " ++ typeText type ++ s!", token {token}"
  | notified type => "Unsolicited response for type " ++ typeText type
  | undecoded type => "No decoder for parcel type " ++ typeText type ++ ", ignoring"
  | parcelDropped cause => "Dropping parcel: " ++ cause.message
  | answerDropped token cause => s!"Dropping response for token {token}: " ++ cause.message
  | noTransport length => s!"No transport configured, dropping {length} byte parcel"
  | decodingFailed type cause =>
    "Failed to decode parcel type " ++ typeText type ++ ": " ++ cause.message
  | receiverGone name =>
    "Event receiver dropped, discarding "
      ++ (match name with
        | some name => "Some(\"" ++ name ++ "\")"
        | none => "None")
  | noReceiver event => "No sink configured, dropping " ++ event
  | batchWritten parcels bytes => s!"Wrote {parcels} parcels, {bytes} bytes"
  | queueClosed => "Parcel queue closed, writer task exiting"
  | batchFailed parcels cause => s!"Failed to write {parcels} parcels: " ++ cause.message
  | streamEnded pending => s!"Connection closed, {pending} requests still pending"
  | requestsClosed => "Request channel closed"
  | submitterGone request => "Submitter of " ++ request ++ " went away"
  | submissionFailed request cause => "Failed to send " ++ request ++ ": " ++ cause.message
  | readFailed cause => "Read loop error: " ++ cause.message

/-- A notice as a line of the log: its level, then its words. -/
def line (notice : Notice) : String := notice.level.label ++ " " ++ notice.text

end Notice

/-! ### Results with notices -/

/-- A result, and the notices given on the way to it. -/
structure Logged (α : Type) where
  /-- The result. -/
  value : α
  /-- The notices, first to last. -/
  notices : Array Notice := #[]

namespace Logged

variable {α β : Type}

instance : Monad Logged where
  pure value := ⟨value, #[]⟩
  bind x f :=
    let y := f x.value
    ⟨y.value, x.notices ++ y.notices⟩

/-- Give one notice. -/
def note (notice : Notice) : Logged Unit := ⟨(), #[notice]⟩

@[simp] theorem value_pure (a : α) : (pure a : Logged α).value = a := rfl

@[simp] theorem value_bind (x : Logged α) (f : α → Logged β) :
    (x >>= f).value = (f x.value).value := rfl

@[simp] theorem value_map (f : α → β) (x : Logged α) : (f <$> x).value = f x.value := rfl

/-- Run a logged step over a list from the left, giving the notices of each step in turn. -/
def foldl (f : β → α → Logged β) (start : β) (items : List α) : Logged β :=
  items.foldl (fun acc a ↦
    let next := f acc.value a
    ⟨next.value, acc.notices ++ next.notices⟩) ⟨start, #[]⟩

/-- The result of a logged fold is the fold of the results. -/
theorem value_foldl (f : β → α → Logged β) (start : β) (items : List α) :
    (foldl f start items).value = items.foldl (fun b a ↦ (f b a).value) start := by
  suffices h : ∀ acc : Logged β, (items.foldl (fun acc a ↦
      let next := f acc.value a
      (⟨next.value, acc.notices ++ next.notices⟩ : Logged β)) acc).value
        = items.foldl (fun b a ↦ (f b a).value) acc.value from h _
  induction items with
  | nil => intro acc; rfl
  | cons a rest ih => intro acc; exact ih _

end Logged

end ParcelLink
