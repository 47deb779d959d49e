import ParcelLink.Outbox.Traffic

/-!
# Senders that look for room

A sender that looks for room takes its place in the line first, then looks, and only then waits. In
`Outbox.Traffic` these are one step. Here they are taken apart, so that anything can happen between
them: room may be made after the sender has stepped into the line and before it looks, or others may
take the room that it was woken for.

A sender that looks does nothing else meanwhile, so it is not turned away either, however late it
is. But it can be woken, and if it then finds no room it looks again instead of waiting.

Making room, which wakes everyone in the line, is one step.

## Main definitions

* `Outbox.Watch`: the traffic, and the senders that are looking.
* `Outbox.Watch.Step`, `Outbox.Watch.Runs`: one step of anybody, and steps one after the other.

`Outbox.Watch.runs_of_runs` says that nothing is lost: whatever traffic does is also done here.
-/

namespace ParcelLink.Outbox

/-- The traffic, and the senders that are looking for room. -/
structure Watch where
  traffic : Traffic
  /-- Those who have stepped into the line and have not looked yet. -/
  looking : List Sender := []

namespace Watch

variable {sockets : Socket → Prop}

/-- No calls yet. -/
def ofConfig (config : Config) : Watch := { traffic := .ofConfig config }

/-- A sender stays where it looks for room, or it is woken. -/
def Stays (sender : Sender) (o o' : Outbox) : Prop :=
  (sender ∈ o.roomLine → sender ∈ o'.roomLine ∨ .reserve sender ∈ o'.ready)
    ∧ (.reserve sender ∈ o.ready → .reserve sender ∈ o'.ready)

/-- A sender that was woken steps into the line. -/
def listen (t : Traffic) (ready : List Agent) (sender : Sender) : Traffic :=
  { t with outbox := { t.outbox with
    ready := ready
    roomLine := t.outbox.roomLine ++ [sender] } }

/-- A sender gets room, and neither waits for it nor has to be woken any more. -/
def enter (t : Traffic) (roomLine : List Sender) (ready : List Agent) (sender : Sender) : Traffic :=
  { t with
    outbox := { t.outbox with roomLine := roomLine, ready := ready }.book
    guests := t.guests ++ [.sender sender] }

/-- One step, by anybody who can make one. -/
inductive Step (sockets : Socket → Prop) : Watch → Watch → Prop where
  /-- A sender that was woken steps into the line, before it looks. -/
  | listen {t : Traffic} {looking : List Sender} {before after : List Agent} {sender : Sender}
    (woken : t.outbox.ready = before ++ .reserve sender :: after) (apart : sender ∉ looking) :
    Step sockets ⟨t, looking⟩ ⟨listen t (before ++ after) sender, sender :: looking⟩
  /-- A sender looks and finds room. -/
  | find {t : Traffic} {looking : List Sender} {sender : Sender} (looks : sender ∈ looking)
    (stands : sender ∈ t.outbox.roomLine) (room : t.outbox.isFull = false) :
    Step sockets ⟨t, looking⟩
      ⟨enter t (t.outbox.roomLine.erase sender) t.outbox.ready sender, looking.erase sender⟩
  /-- A sender looks and finds room, and was woken meanwhile. -/
  | findWoken {t : Traffic} {looking : List Sender} {before after : List Agent} {sender : Sender}
    (looks : sender ∈ looking) (woken : t.outbox.ready = before ++ .reserve sender :: after)
    (room : t.outbox.isFull = false) :
    Step sockets ⟨t, looking⟩
      ⟨enter t t.outbox.roomLine (before ++ after) sender, looking.erase sender⟩
  /-- A sender looks and finds no room. It stays in the line, unless it was woken meanwhile. -/
  | miss {t : Traffic} {looking : List Sender} {sender : Sender} (looks : sender ∈ looking)
    (full : t.outbox.isFull = true) : Step sockets ⟨t, looking⟩ ⟨t, looking.erase sender⟩
  /-- Someone else makes a step. -/
  | other {t t' : Traffic} {looking : List Sender} (step : Traffic.Step sockets t t')
    (aside : ∀ sender ∈ looking, Stays sender t.outbox t'.outbox) :
    Step sockets ⟨t, looking⟩ ⟨t', looking⟩

/-- Some steps, one after the other. -/
abbrev Runs (sockets : Socket → Prop) : Watch → Watch → Prop :=
  Relation.ReflTransGen (Step sockets)

/-- **Every run of the traffic is one in which nobody is seen looking.** -/
theorem runs_of_runs {t t' : Traffic} (h : Traffic.Runs sockets t t') :
    Runs sockets ⟨t, []⟩ ⟨t', []⟩ := by
  induction h with
  | refl => exact .refl
  | tail _ step ih => exact ih.tail (.other step fun _ hmem ↦ (List.not_mem_nil hmem).elim)

end Watch

end ParcelLink.Outbox
