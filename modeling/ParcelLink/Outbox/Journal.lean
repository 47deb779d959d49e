import ParcelLink.Notice
import ParcelLink.Octets

/-!
# The journal of an outbox

Everything that an outbox does for others to see stands in its journal, in the order in which it
happened: the parcels that it queued, the senders that it turned away, the bytes that the socket took,
and the notices for the log. A journal only grows, so what happened during some steps is the entries
behind those that were there before.

## Main definitions

* `Outbox.Entry`: one thing that happened.
* `Outbox.Journal`: everything that happened, first to last.
* `Journal.queued`, `Journal.writes`, `Journal.flushes`, `Journal.outcomes`, `Journal.ending?`,
  `Journal.notices`: what a journal says, one kind of entry at a time.
-/

namespace ParcelLink.Outbox

/-- One thing that happened to an outbox. -/
inductive Entry where
  /-- A parcel was queued, for a sender that waited for it or for nobody in particular. -/
  | queued (ticket? : Option Nat) (parcel : Octets)
  /-- A sender was turned away. -/
  | refused (ticket : Nat) (cause : Fault)
  /-- The socket took these bytes in one write. -/
  | wrote (bytes : Octets)
  /-- The socket was flushed. -/
  | flushed
  /-- The carrier ended. -/
  | ended (outcome : Except Fault Unit)
  /-- A notice was given. -/
  | noted (notice : Notice)

/-- Everything that happened to an outbox, first to last. -/
abbrev Journal := Array Entry

namespace Journal

/-- The entries behind the first `count`. -/
def since (journal : Journal) (count : Nat) : Journal := journal.extract count journal.size

/-- The parcels that were queued. -/
def queued (journal : Journal) : List Octets :=
  journal.toList.filterMap fun
    | .queued _ parcel => some parcel
    | _ => none

/-- What became of the senders that waited, by their tickets. -/
def outcomes (journal : Journal) : List (Nat × Except Fault Unit) :=
  journal.toList.filterMap fun
    | .queued (some ticket) _ => some (ticket, .ok ())
    | .refused ticket cause => some (ticket, .error cause)
    | _ => none

/-- What became of a sender. -/
def outcome? (journal : Journal) (ticket : Nat) : Option (Except Fault Unit) :=
  (journal.outcomes.find? (·.1 = ticket)).map (·.2)

/-- The bytes of each write that the socket took. -/
def writes (journal : Journal) : List Octets :=
  journal.toList.filterMap fun
    | .wrote bytes => some bytes
    | _ => none

/-- How often the socket was flushed. -/
def flushes (journal : Journal) : Nat :=
  journal.toList.countP fun
    | .flushed => true
    | _ => false

/-- How the carrier ended, if it did. -/
def ending? (journal : Journal) : Option (Except Fault Unit) :=
  journal.toList.findSome? fun
    | .ended outcome => some outcome
    | _ => none

/-- The notices that were given. -/
def notices (journal : Journal) : Array Notice :=
  journal.filterMap fun
    | .noted notice => some notice
    | _ => none

end Journal

end ParcelLink.Outbox
