import Rendezvous.Fault

/-!
# The tally

What the relay counts while it works. Every counter has its labels from a fixed
set, so the tally is a record with one number for each, and nothing a client
sends can make it grow. Counters only rise; the two gauges follow the number of
rooms and of joined connections.
-/

namespace Rendezvous

/-- One thing for each kind of envelope. -/
structure ByKind (α : Type) where
  offer : α
  answer : α
  candidate : α

namespace ByKind

variable {α : Type}

/-- The thing of one kind. -/
def get (all : ByKind α) : Kind → α
  | .offer => all.offer
  | .answer => all.answer
  | .candidate => all.candidate

/-- The same with the thing of one kind changed. -/
def modify (all : ByKind α) (k : Kind) (f : α → α) : ByKind α :=
  match k with
  | .offer => { all with offer := f all.offer }
  | .answer => { all with answer := f all.answer }
  | .candidate => { all with candidate := f all.candidate }

end ByKind

/-- The counters and gauges. -/
structure Tally where
  roomsCreated : Nat
  /-- Rooms that were removed on request. -/
  roomsEnded : Nat
  /-- Rooms that were removed by a sweep. -/
  roomsEvicted : Nat
  /-- The number of live rooms when it last changed. -/
  roomsActive : Nat
  /-- Connections that have joined as a role and are still being read. -/
  connections : ByRole Int
  /-- Envelopes pushed on a live connection, by destination and kind. -/
  relayed : ByRole (ByKind Nat)
  /-- Envelopes queued, by destination. -/
  buffered : ByRole Nat
  /-- Overflows of the pending queue, by destination. -/
  dropped : ByRole Nat
  /-- Envelopes refused because the connection's writer was gone. -/
  failedClosed : Nat
  /-- Envelopes refused because the connection's buffer was full. -/
  failedBackpressure : Nat
  /-- Sweeps for idle rooms. -/
  sweeps : Nat

namespace Tally

/-- Nothing has happened yet. -/
def zero : Tally where
  roomsCreated := 0
  roomsEnded := 0
  roomsEvicted := 0
  roomsActive := 0
  connections := ⟨0, 0⟩
  relayed := ⟨⟨0, 0, 0⟩, ⟨0, 0, 0⟩⟩
  buffered := ⟨0, 0⟩
  dropped := ⟨0, 0⟩
  failedClosed := 0
  failedBackpressure := 0
  sweeps := 0

/-- A room was created, and so many are live now. -/
def created (t : Tally) (live : Nat) : Tally :=
  { t with roomsCreated := t.roomsCreated + 1, roomsActive := live }

/-- A room was removed on request, and so many are live now. -/
def ended (t : Tally) (live : Nat) : Tally :=
  { t with roomsEnded := t.roomsEnded + 1, roomsActive := live }

/-- A sweep removed a room. -/
def evicted (t : Tally) : Tally := { t with roomsEvicted := t.roomsEvicted + 1 }

/-- A sweep is over, and so many rooms are live now. -/
def swept (t : Tally) (live : Nat) : Tally :=
  { t with sweeps := t.sweeps + 1, roomsActive := live }

/-- A connection joined as a role. -/
def opened (t : Tally) (r : Role) : Tally :=
  { t with connections := t.connections.modify r (· + 1) }

/-- A connection that had joined as a role is read no longer. -/
def closed (t : Tally) (r : Role) : Tally :=
  { t with connections := t.connections.modify r (· - 1) }

/-- An envelope went to a live connection of the destination. -/
def delivered (t : Tally) (destination : Role) (k : Kind) : Tally :=
  { t with relayed := t.relayed.modify destination (·.modify k (· + 1)) }

/-- A live connection refused an envelope. -/
def refused (t : Tally) : Refusal → Tally
  | .closed => { t with failedClosed := t.failedClosed + 1 }
  | .backpressure => { t with failedBackpressure := t.failedBackpressure + 1 }

/-- An envelope was queued for the destination; `overflowed` if the queue was full. -/
def queued (t : Tally) (destination : Role) (overflowed : Bool) : Tally :=
  let t := if overflowed then { t with dropped := t.dropped.modify destination (· + 1) } else t
  { t with buffered := t.buffered.modify destination (· + 1) }

/-! ## The samples -/

/-- The direction of what is sent to a role, as a label. -/
def direction (destination : Role) : String := "to_" ++ destination.name

/-- A series: the metric's name and its labels. -/
def series (metric : String) (labels : List (String × String)) : String :=
  match labels with
  | [] => metric
  | _ => metric ++ "\x7b" ++ ",".intercalate (labels.map fun l => l.1 ++ "=\"" ++ l.2 ++ "\"") ++ "\x7d"

/-- A series for each role. -/
def perRole (metric label : String) (labelOf : Role → String) (value : Role → Int) :
    List (String × Int) :=
  Role.all.map fun r => (series metric [(label, labelOf r)], value r)

/-- Every series with its value. -/
def samples (t : Tally) : List (String × Int) :=
  [(series "relay_rooms_active" [], (t.roomsActive : Int)),
   (series "relay_rooms_created_total" [], (t.roomsCreated : Int)),
   (series "relay_rooms_removed_total" [("reason", "ended")], (t.roomsEnded : Int)),
   (series "relay_rooms_removed_total" [("reason", "evicted")], (t.roomsEvicted : Int))] ++
  perRole "relay_connections_active" "role" Role.name t.connections.get ++
  Role.all.flatMap (fun r => Kind.all.map fun k =>
    (series "relay_messages_relayed_total" [("direction", direction r), ("kind", k.name)],
      ((t.relayed.get r).get k : Int))) ++
  perRole "relay_messages_buffered_total" "direction" direction (fun r => t.buffered.get r) ++
  perRole "relay_messages_dropped_total" "direction" direction (fun r => t.dropped.get r) ++
  [(series "relay_delivery_failures_total" [("reason", Refusal.closed.label)],
      (t.failedClosed : Int)),
   (series "relay_delivery_failures_total" [("reason", Refusal.backpressure.label)],
      (t.failedBackpressure : Int)),
   (series "relay_eviction_sweep_duration_seconds_count" [], (t.sweeps : Int))]

end Tally

end Rendezvous
