import Rendezvous.Session.State
import Rendezvous.Tally

/-!
# Sessions on live connections

Carries out what the operations of a session bring about: frames are pushed on
the channels of connections, and the tally is kept. Delivery is best-effort. A
refused frame is counted and reported, and the session stays as it is.
-/

namespace Rendezvous

/-- What the sessions act on: the connections, and the tally. -/
structure Outlet where
  lines : Lines
  tally : Tally

namespace Outlet

/-- No connections, and nothing counted. -/
def empty : Outlet := ⟨.empty, .zero⟩

/-- Pushes a frame; a refusal changes nothing. -/
def push (o : Outlet) (id : ConnId) (f : Frame) : Except Refusal Unit × Outlet :=
  match o.lines.push id f with
  | .ok lines => (.ok (), { o with lines })
  | .error refusal => (.error refusal, o)

/-- Asks a connection to close, if it can take the frame. -/
def close (o : Outlet) (id : ConnId) (reason : String) : Outlet := (o.push id (.close reason)).2

/-- Pushes an envelope for a role, and counts the outcome. -/
def deliver (o : Outlet) (id : ConnId) (destination : Role) (e : Envelope) :
    Except Refusal Unit × Outlet :=
  match o.push id (.envelope e) with
  | (.ok (), o) => (.ok (), { o with tally := o.tally.delivered destination e.kind })
  | (.error refusal, o) => (.error refusal, { o with tally := o.tally.refused refusal })

/-- Pushes envelopes in order, and counts those that were refused. -/
def deliverAll (o : Outlet) (id : ConnId) (destination : Role) : List Envelope → Nat × Outlet
  | [] => (0, o)
  | e :: rest =>
    match o.deliver id destination e with
    | (.ok (), o) => o.deliverAll id destination rest
    | (.error _, o) =>
      let (failed, o) := o.deliverAll id destination rest
      (failed + 1, o)

end Outlet

namespace Session

/-- The reason given to a connection that a newer one took the place of. -/
def replacedReason : String := "replaced"

/-- What came of attaching a connection. -/
structure AttachOutcome where
  /-- Messages that had waited. -/
  flushed : Nat
  /-- Cached messages of the other side. -/
  replayed : Nat
  /-- Those among both that the connection refused. -/
  failed : Nat
  deriving DecidableEq, Repr

/-- What came of relaying a message. -/
inductive Delivery where
  | sent
  | buffered
  deriving DecidableEq, Repr

/-- Attaches a connection, hands it the backlog, and asks the one it displaced to
close. -/
def join (s : Session) (o : Outlet) (r : Role) (id : ConnId) (now : Instant) :
    AttachOutcome × Session × Outlet :=
  let (s, attachment) := s.attach r id now
  let (failed, o) := o.deliverAll id r attachment.backlog
  let o := match attachment.displaced with
    | some old => o.close old replacedReason
    | none => o
  (⟨attachment.flushed.length, attachment.replayed.length, failed⟩, s, o)

/-- Relays a message to a role. -/
def send (s : Session) (o : Outlet) (destination : Role) (e : Envelope) (now : Instant) :
    Except Refusal Delivery × Session × Outlet :=
  match s.relay destination e now with
  | (s, .live id) =>
    match o.deliver id destination e with
    | (.ok (), o) => (.ok .sent, s, o)
    | (.error refusal, o) => (.error refusal, s, o)
  | (s, .queued overflowed) =>
    (.ok .buffered, s, { o with tally := o.tally.queued destination overflowed })

/-- Asks both live connections to close, and empties their places. -/
def dismiss (s : Session) (o : Outlet) (reason : String) : Session × Outlet :=
  (s.disconnect, s.connections.foldl (fun o id => o.close id reason) o)

end Session

end Rendezvous
