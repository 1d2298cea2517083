import Rendezvous.Frame

/-!
# Channels

A connection is written to through a bounded queue that a writer empties. Pushing
never waits: a queue whose writer has gone, or that is full, refuses the frame.
That the writer has gone is noticed first.

A channel keeps every frame it ever accepted, and how many of them the writer has
taken. The queue is what lies between. What a client is ever shown is then a part
of the channel itself, and an argument about it needs no record beside the state.
-/

namespace Rendezvous

/-- The outbound queue of one connection. -/
structure Channel where
  /-- How many frames can wait at once. -/
  capacity : Nat
  /-- Every frame accepted so far, the oldest first. -/
  accepted : List Frame
  /-- How many of them have been taken off the queue. -/
  taken : Nat
  /-- The writer is still there. -/
  listening : Bool

namespace Channel

/-- An empty channel with a writer. It holds one frame at least. -/
def fresh (capacity : Nat) : Channel := ⟨max capacity 1, [], 0, true⟩

/-- A channel without a writer. -/
def gone : Channel := ⟨1, [], 0, false⟩

/-- The frames that wait. -/
def queue (c : Channel) : List Frame := c.accepted.drop c.taken

/-- How many more frames can wait. -/
def room (c : Channel) : Nat := c.capacity - c.queue.length

/-- Why the next frame would be refused. -/
def refusal? (c : Channel) : Option Refusal :=
  if !c.listening then some .closed
  else if c.capacity ≤ c.queue.length then some .backpressure
  else none

/-- The channel with one more frame, if it takes it. -/
def push (c : Channel) (f : Frame) : Except Refusal Channel :=
  match c.refusal? with
  | some refusal => .error refusal
  | none => .ok { c with accepted := c.accepted ++ [f] }

/-- Takes up to `count` frames off the queue. -/
def take (c : Channel) (count : Nat) : List Frame × Channel :=
  (c.queue.take count, { c with taken := min (c.taken + count) c.accepted.length })

/-- The writer goes away, and with it the frames that wait. -/
def drop (c : Channel) : Channel := { c with taken := c.accepted.length, listening := false }

/-! ## What pushing comes to -/

theorem push_of_refusal {c : Channel} {r : Refusal} (h : c.refusal? = some r) (f : Frame) :
    c.push f = .error r := by simp [push, h]

theorem push_of_none {c : Channel} (h : c.refusal? = none) (f : Frame) :
    c.push f = .ok { c with accepted := c.accepted ++ [f] } := by simp [push, h]

end Channel

/-! ## The connections of the relay -/

/-- The name of a connection. Names are never used twice. -/
structure ConnId where
  index : Nat
  deriving DecidableEq, Repr

/-- The channels of all connections, by name. -/
structure Lines where
  table : List (ConnId × Channel)

namespace Lines

/-- No connections. -/
def empty : Lines := ⟨[]⟩

/-- The channel of a connection. One that was never opened has no writer. -/
def get (lines : Lines) (id : ConnId) : Channel := (lines.table.lookup id).getD .gone

/-- The connection has been opened. -/
def isOpen (lines : Lines) (id : ConnId) : Bool := (lines.table.lookup id).isSome

/-- Puts a channel in the place of one, or behind all others. -/
def put (id : ConnId) (c : Channel) : List (ConnId × Channel) → List (ConnId × Channel)
  | [] => [(id, c)]
  | (k, d) :: rest => if k = id then (k, c) :: rest else (k, d) :: put id c rest

/-- The lines with another channel for a connection. -/
def set (lines : Lines) (id : ConnId) (c : Channel) : Lines := ⟨put id c lines.table⟩

/-- A name that no connection has. -/
def unused (lines : Lines) : ConnId :=
  ⟨lines.table.foldl (fun n entry => max n (entry.1.index + 1)) 0⟩

/-- Pushes a frame onto the channel of a connection. -/
def push (lines : Lines) (id : ConnId) (f : Frame) : Except Refusal Lines :=
  (((lines.get id).push f).map fun c => lines.set id c)

/-- Takes frames off the queue of a connection. -/
def take (lines : Lines) (id : ConnId) (count : Nat) : List Frame × Lines :=
  let (frames, c) := (lines.get id).take count
  (frames, if lines.isOpen id then lines.set id c else lines)

/-- The writer of a connection goes away. -/
def drop (lines : Lines) (id : ConnId) : Lines :=
  if lines.isOpen id then lines.set id (lines.get id).drop else lines

end Lines

end Rendezvous
