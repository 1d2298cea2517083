import Rendezvous.Channel
import Rendezvous.Limits

/-!
# Sessions

A session is the authoritative state of one room: for each side an identity and a
live connection, the messages that wait for it, and the last offer and the last
answer it sent for each track.

The operations here are functions on that state alone. What they bring about
outside it, frames pushed and counters raised, is part of their result, and
`Rendezvous.Session.Live` carries it out. Both directions follow one rule, with
the role as an argument.
-/

namespace Rendezvous

/-! ## Caches of offers and answers -/

/-- The last envelope of one kind for each track, in rising order of tracks. -/
structure TrackCache where
  entries : List Envelope

namespace TrackCache

/-- Nothing cached. -/
def empty : TrackCache := ⟨[]⟩

/-- The envelope of a track. -/
def get? (c : TrackCache) (track : String) : Option Envelope :=
  c.entries.find? (·.track == track)

/-- Puts an envelope in the place of its track. -/
def place (e : Envelope) : List Envelope → List Envelope
  | [] => [e]
  | x :: rest =>
    if e.track < x.track then e :: x :: rest
    else if e.track = x.track then e :: rest
    else x :: place e rest

/-- Remembers an envelope, unless its track is new and the cache is full. -/
def remember (c : TrackCache) (limit : Nat) (e : Envelope) : TrackCache :=
  if (c.get? e.track).isNone && limit ≤ c.entries.length then c else ⟨place e c.entries⟩

end TrackCache

/-! ## Sides -/

/-- Who holds a role, and the connection that speaks for it. -/
structure Slot where
  identity : Option String
  connection : Option ConnId
  deriving DecidableEq, Repr

/-- An empty slot. -/
def Slot.empty : Slot := ⟨none, none⟩

/-- Everything a session knows of one side. -/
structure Side where
  slot : Slot
  /-- What was sent to this side while it had no connection. -/
  pending : List Envelope
  /-- The last offers this side sent. -/
  offers : TrackCache
  /-- The last answers this side sent. -/
  answers : TrackCache

namespace Side

/-- A side that nobody holds and nothing was sent to or by. -/
def empty : Side := ⟨.empty, [], .empty, .empty⟩

/-- What the side last sent, offers first. -/
def cached (s : Side) : List Envelope := s.offers.entries ++ s.answers.entries

/-- Remembers what the side sends. Candidates are not remembered. -/
def remember (s : Side) (limit : Nat) (e : Envelope) : Side :=
  match e.kind with
  | .offer => { s with offers := s.offers.remember limit e }
  | .answer => { s with answers := s.answers.remember limit e }
  | .candidate => s

/-- The envelope of a kind and a track that the side last sent. -/
def cached? (s : Side) (k : Kind) (track : String) : Option Envelope :=
  match k with
  | .offer => s.offers.get? track
  | .answer => s.answers.get? track
  | .candidate => none

end Side

/-! ## Sessions -/

/-- A time, in milliseconds on a clock that never goes back. -/
abbrev Instant := Nat

/-- One room. -/
structure Session where
  code : String
  /-- When the state was last changed. -/
  lastActive : Instant
  sides : ByRole Side
  limits : Limits

namespace Session

/-- A new room, held by its presenter. -/
def start (code presenter : String) (limits : Limits) (now : Instant) : Session :=
  { code, limits, lastActive := now
    sides := ⟨{ Side.empty with slot := ⟨some presenter, none⟩ }, .empty⟩ }

/-- One side. -/
def side (s : Session) (r : Role) : Side := s.sides.get r

/-- The slot of a role. -/
def slot (s : Session) (r : Role) : Slot := (s.side r).slot

/-- What waits for a role. -/
def pending (s : Session) (r : Role) : List Envelope := (s.side r).pending

/-- The role has a live connection. -/
def isConnected (s : Session) (r : Role) : Bool := (s.slot r).connection.isSome

/-- How long nothing has changed. -/
def idle (s : Session) (now : Instant) : Nat := now - s.lastActive

/-- The envelope of a kind and a track that a role last sent. -/
def cached? (s : Session) (sender : Role) (k : Kind) (track : String) : Option Envelope :=
  (s.side sender).cached? k track

/-- The role that a user holds, the presenter looked at first. -/
def roleOf? (s : Session) (user : String) : Option Role :=
  Role.all.find? fun r => (s.slot r).identity == some user

/-- The state is changed now. -/
def touch (s : Session) (now : Instant) : Session := { s with lastActive := now }

/-- One side changed. -/
def modifySide (s : Session) (r : Role) (f : Side → Side) : Session :=
  { s with sides := s.sides.modify r f }

/-- One slot changed. -/
def modifySlot (s : Session) (r : Role) (f : Slot → Slot) : Session :=
  s.modifySide r fun side => { side with slot := f side.slot }

/-! ### Slots -/

/-- A user claims the viewer's slot, with or without a connection in it. -/
def claimViewer (s : Session) (user : String) (now : Instant) : Session :=
  (s.touch now).modifySlot .viewer fun slot => { slot with identity := some user }

/-- The viewer's slot is emptied. -/
def clearViewer (s : Session) (now : Instant) : Session :=
  (s.touch now).modifySlot .viewer fun _ => .empty

/-- A role gives up its connection. The presenter keeps its identity, since the room
is its own; the viewer's slot is emptied. -/
def release (s : Session) (r : Role) (now : Instant) : Session :=
  match r with
  | .viewer => s.clearViewer now
  | .presenter => (s.touch now).modifySlot .presenter fun slot => { slot with connection := none }

/-- The slot of a role still holds the connection. -/
def holds (s : Session) (r : Role) (id : ConnId) : Bool := (s.slot r).connection == some id

/-- A role gives up a connection, unless a newer one has taken its place. -/
def detach (s : Session) (r : Role) (id : ConnId) (now : Instant) : Session :=
  if s.holds r id then s.release r now else s

/-- The live connections, the presenter's first. -/
def connections (s : Session) : List ConnId := Role.all.filterMap fun r => (s.slot r).connection

/-- Both slots without their connections. -/
def disconnect (s : Session) : Session :=
  let clear (s : Session) (r : Role) := s.modifySlot r fun slot => { slot with connection := none }
  Role.all.foldl clear s

/-! ### Attaching -/

/-- What a newly attached connection is handed, and which one it displaced. -/
structure Attachment where
  /-- The messages that waited, in the order in which they came. -/
  flushed : List Envelope
  /-- What the other side last sent, without what has been flushed. -/
  replayed : List Envelope
  displaced : Option ConnId

/-- Everything that is pushed on the new connection. -/
def Attachment.backlog (a : Attachment) : List Envelope := a.flushed ++ a.replayed

/-- Puts a connection into the slot of a role. The messages that waited are handed
to it, and then what the other side last sent: its offers, then its answers, but
nothing that has just been flushed. -/
def attach (s : Session) (r : Role) (id : ConnId) (now : Instant) : Session × Attachment :=
  let flushed := s.pending r
  let replayed := (s.side r.peer).cached.filter fun e => !flushed.contains e
  let taken (side : Side) : Side :=
    { side with slot := { side.slot with connection := some id }, pending := [] }
  ((s.touch now).modifySide r taken, ⟨flushed, replayed, (s.slot r).connection⟩)

/-! ### Relaying -/

/-- Where a message goes. -/
inductive Route where
  /-- To a live connection. -/
  | live (id : ConnId)
  /-- Into the queue, which may have been full. -/
  | queued (overflowed : Bool)

/-- Queues a message behind those that wait. A full queue loses its oldest. -/
def enqueue (limit : Nat) (e : Envelope) (waiting : List Envelope) : List Envelope :=
  if limit ≤ waiting.length then waiting.tail ++ [e] else waiting ++ [e]

/-- Takes a message for a role from the other side: remembers it, and sends it to
the live connection or queues it. -/
def relay (s : Session) (destination : Role) (e : Envelope) (now : Instant) : Session × Route :=
  let s := (s.touch now).modifySide destination.peer (·.remember s.limits.tracks e)
  match (s.slot destination).connection with
  | some id => (s, .live id)
  | none =>
    let overflowed := decide (s.limits.pending ≤ (s.pending destination).length)
    let queue (side : Side) : Side :=
      { side with pending := enqueue s.limits.pending e side.pending }
    (s.modifySide destination queue, .queued overflowed)

end Session

end Rendezvous
