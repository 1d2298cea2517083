import Rendezvous.WebSocket.Message

/-!
# WebSocket connections

A signaling connection over a WebSocket has two halves that run on their own. One
reads the client's messages and serves them. The other, the writer, takes frames
off the connection's channel and writes them, in order, up to the first request to
close. What the writer has begun is in transit until the client reads it.

A client may stop reading. The transport holds only so many bytes; once more has
been begun, the writer stands still in the middle of a frame, and what follows
waits in the channel. That may last as long as the connection is served. When it
is served no longer, the writer gets a little time to finish, and is then cut off.
-/

namespace Rendezvous.WebSocket

open Signaling (Serving)

/-- How far the writer is. -/
inductive Writer where
  | active
  /-- It has begun its last frame, the request to close. -/
  | closing
  | stopped
  deriving DecidableEq, Repr

/-- The state of the transport. -/
inductive Link where
  | up
  /-- The relay has let go of it; what is in transit can still be read. -/
  | released
  /-- The client has cut it. -/
  | cut
  deriving DecidableEq, Repr

/-- A signaling connection over a WebSocket. -/
structure Socket where
  serving : Serving
  writer : Writer
  link : Link
  /-- What has been begun and not been read by the client, the oldest first. -/
  transit : List Shown
  /-- The client reads whatever comes. -/
  reading : Bool
  /-- What the client has read and not been asked for. -/
  seen : List Shown
  /-- The relay knows that the client has closed. -/
  clientClosed : Bool
  /-- The client has seen the end, or has made it. -/
  isOver : Bool
  /-- When the writer is cut off. -/
  deadline : Option Instant

namespace Socket

/-- A connection that has just been opened. -/
def fresh (id : ConnId) (reading : Bool) : Socket where
  serving := .start id [] false
  writer := .active
  link := .up
  transit := []
  reading := reading
  seen := []
  clientClosed := false
  isOver := false
  deadline := none

/-- The connection. -/
def connection (s : Socket) : ConnId := s.serving.call.connection

/-- How many bytes the transport holds. -/
def transportSize : Nat := 4096

/-- How many milliseconds the writer gets when the connection is served no longer. -/
def drainTime : Nat := 5000

/-! ## The client -/

/-- The relay has begun its own close. -/
def closeBegun (s : Socket) : Bool := s.writer == .closing || s.writer == .stopped

/-- The client sends a message. It is lost once nobody reads the connection. A ping
is answered at once, unless one of the two sides has closed. -/
def receive (s : Socket) (m : Message) : Socket :=
  if s.isOver || s.link != .up || s.serving.isDone then s
  else match m with
    | .ping bytes =>
      if s.closeBegun || s.clientClosed then s
      else { s with transit := s.transit ++ [.pong bytes] }
    | .close _ => { s with clientClosed := true, serving := s.serving.hangUp }
    | m =>
      match m.inbound? with
      | some x => { s with serving := s.serving.offer x }
      | none => s

/-- The client goes away without closing. Reading fails, and so does writing. -/
def cut (s : Socket) : Socket :=
  if s.isOver then s
  else
    { s with
      serving := (s.serving.offer (.failure (.transport "connection reset"))).hangUp
      link := .cut, transit := [], isOver := true }

/-- The client begins to read. -/
def resume (s : Socket) : Socket := { s with reading := true }

/-- What the client has seen since it was last asked. -/
def takeSeen (s : Socket) : List Shown × Socket := (s.seen, { s with seen := [] })

/-- The client reads what is in transit. It answers a close with its own. -/
def view (s : Socket) : Socket :=
  if s.isOver || !s.reading then s
  else
    let closed := s.transit.any fun x => x matches .close ..
    let s := { s with seen := s.seen ++ s.transit, transit := [] }
    let s := if closed then { s with clientClosed := true, serving := s.serving.hangUp } else s
    if s.link = .released then { s with seen := s.seen ++ [.over], isOver := true } else s

/-! ## The writer -/

/-- The bytes in transit. -/
def transitSize (s : Socket) : Nat := s.transit.foldl (fun n shown => n + shown.wireSize) 0

/-- The writer stands still in the middle of a frame. -/
def isStuck (s : Socket) : Bool := !s.reading && s.link == .up && transportSize < s.transitSize

/-- Begins to write a frame. That fails once the client has closed or is gone, and
then nothing more is written. -/
def startFrame (s : Socket) (f : Frame) : Socket :=
  if s.clientClosed || s.link != .up then { s with writer := .stopped }
  else match f with
    | .close reason =>
      { s with transit := s.transit ++ [.close normalClose reason], writer := .closing }
    | .envelope e => { s with transit := s.transit ++ [.text e.wireText] }
    | .error report => { s with transit := s.transit ++ [.text report.wireText] }

/-- Writes what waits in the channel, as far as the transport takes it. The writer
stops behind a close, and when nobody is left who could push anything. -/
def write : Nat → Socket → Relay → Socket × Relay
  | 0, s, r => (s, r)
  | fuel + 1, s, r =>
    if s.isStuck then (s, r)
    else match s.writer with
      | .stopped => (s, r.drop s.connection)
      | .closing => ({ s with writer := .stopped }, r.drop s.connection)
      | .active =>
        match r.take s.connection 1 with
        | (f :: _, r) => write fuel (s.startFrame f) r
        | ([], r) =>
          if s.serving.isDone then ({ s with writer := .stopped }, r.drop s.connection)
          else (s, r)

/-- Lets go of the transport when both halves are over, and otherwise sees to it
that a writer left alone does not stay for ever. -/
def release (s : Socket) (now : Instant) : Socket :=
  if !s.serving.isDone || s.link != .up then s
  else if s.writer = .stopped then { s with link := .released }
  else if s.deadline.isNone then { s with deadline := some (now + drainTime) }
  else s

/-- The things in transit that the transport holds whole. -/
def held (room : Nat) : List Shown → List Shown
  | [] => []
  | x :: rest => if x.wireSize ≤ room then x :: held (room - x.wireSize) rest else []

/-- Cuts the writer off if its time is over. What it has only begun is lost. -/
def expire (s : Socket) (r : Relay) : Socket × Relay :=
  match s.deadline with
  | some time =>
    if s.link = .up && time ≤ r.now then
      ({ s with writer := .stopped, link := .released, transit := held transportSize s.transit },
        r.drop s.connection)
    else (s, r)
  | none => (s, r)

/-! ## Both halves -/

/-- Serves what the client has sent. -/
def serve (s : Socket) (r : Relay) : Socket × Relay :=
  let (serving, r) := s.serving.rest r
  ({ s with serving }, r)

/-- Writes what waits, and lets the client read. -/
def flush (s : Socket) (r : Relay) : Socket × Relay :=
  let (s, r) := s.write ((r.channel s.connection).queue.length + 2) r
  ((s.release r.now).view, r)

end Socket

end Rendezvous.WebSocket
