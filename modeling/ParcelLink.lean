import ParcelLink.Octets
import ParcelLink.Capacity
import ParcelLink.Fault
import ParcelLink.ParcelType
import ParcelLink.Notice
import ParcelLink.Keyed
import ParcelLink.Text.Utf16
import ParcelLink.Text.Quoted
import ParcelLink.Reading
import ParcelLink.Reading.Span
import ParcelLink.Value
import ParcelLink.Ring
import ParcelLink.Ring.Window
import ParcelLink.Draft
import ParcelLink.Framer
import ParcelLink.Ledger
import ParcelLink.Json
import ParcelLink.Json.Grammar
import ParcelLink.Payload
import ParcelLink.Payload.Decoders
import ParcelLink.Payload.Json
import ParcelLink.Registry
import ParcelLink.Event
import ParcelLink.Event.Describe
import ParcelLink.Request
import ParcelLink.Endpoint
import ParcelLink.Endpoint.Reception
import ParcelLink.Endpoint.Submission
import ParcelLink.Outbox
import ParcelLink.Outbox.Batch
import ParcelLink.Outbox.Journal
import ParcelLink.Outbox.Socket
import ParcelLink.Outbox.Carrier
import ParcelLink.Outbox.Schedule
import ParcelLink.Session
import ParcelLink.Framer.Split
import ParcelLink.Outbox.Traffic
import ParcelLink.Outbox.Watch
import ParcelLink.Session.Turns
import ParcelLink.Payload.Layout
import ParcelLink.Request.Layout
import ParcelLink.Proofs.Ring.Queue
import ParcelLink.Proofs.Framer.Chunks
import ParcelLink.Proofs.Framer.Bounds
import ParcelLink.Proofs.Framer.Recovery
import ParcelLink.Proofs.Endpoint.Conclusion
import ParcelLink.Proofs.Endpoint.Course
import ParcelLink.Proofs.Ledger.Tokens
import ParcelLink.Proofs.Endpoint.Correlation
import ParcelLink.Proofs.Endpoint.Isolation
import ParcelLink.Proofs.Endpoint.Order
import ParcelLink.Proofs.Text.Surrogates
import ParcelLink.Proofs.Reading.Spelling
import ParcelLink.Proofs.Octets.Overwrite
import ParcelLink.Proofs.Value.RoundTrip
import ParcelLink.Proofs.Draft.Body
import ParcelLink.Proofs.Ring.Blocks
import ParcelLink.Proofs.Ring.Operations
import ParcelLink.Proofs.Request.Wire
import ParcelLink.Proofs.Endpoint.Parcels
import ParcelLink.Proofs.Outbox.Cargo
import ParcelLink.Proofs.Outbox.Delivery
import ParcelLink.Proofs.Outbox.Tally
import ParcelLink.Proofs.Outbox.Returns
import ParcelLink.Proofs.Outbox.Backlog
import ParcelLink.Proofs.Outbox.Wakeups
import ParcelLink.Proofs.Outbox.Closing
import ParcelLink.Proofs.Endpoint.Answers
import ParcelLink.Proofs.Session.Schedule
import ParcelLink.Proofs.Session.Docket
import ParcelLink.Proofs.Session.Serial
import ParcelLink.Proofs.Session.Alone
import ParcelLink.Proofs.Session.Tokens
import ParcelLink.Proofs.Session.Truth
import ParcelLink.Proofs.Endpoint.Interchange
import ParcelLink.Proofs.Endpoint.Refusal
import ParcelLink.Proofs.Payload.RoundTrip
import ParcelLink.Proofs.Reading.Strictness
import ParcelLink.Proofs.Value.Strictness
import ParcelLink.Proofs.Payload.Strictness
import ParcelLink.Proofs.Reading.Cuts
import ParcelLink.Proofs.Value.Readers
import ParcelLink.Proofs.Text.Pairing
import ParcelLink.Proofs.Value.Strings
import ParcelLink.Proofs.Ledger.Allocation
import ParcelLink.Proofs.Outbox.Hollow
import ParcelLink.Proofs.Draft.Operations
import ParcelLink.Proofs.Outbox.Writing
import ParcelLink.Proofs.Json.Unambiguous
import ParcelLink.Proofs.Json.Rendering
import ParcelLink.Proofs.Event.Json
