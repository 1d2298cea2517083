import Rendezvous.Relay
import Rendezvous.Subscription

/-!
# Calls

A call serves one connection from its first message to its end. The first message
has to be a subscription to a live room; a connection that sends anything else is
told what is wrong and closed. From then on every message is an envelope and is
relayed to the other side, in the order read, until the stream ends, a message
cannot be read, or the room is gone. At the end the connection leaves its slot.

A call moves in steps, and each step does at most one thing to the relay. Between
two steps anything else may happen, which is why the room is looked up by its
code every time.
-/

namespace Rendezvous.Signaling

/-- What reading from a connection brings. -/
inductive Inbound where
  | text (s : String)
  | failure (fault : Fault)

/-- How far a call has come. -/
inductive Phase where
  /-- Nothing has been read yet. -/
  | awaiting
  /-- The connection has joined, and its messages are relayed. -/
  | relaying (code : String) (role : Role)
  /-- Nothing more is read, but the connection may still be in its slot. -/
  | leaving (code : String) (role : Role)
  /-- The slot has been left, and the connection is to be closed. -/
  | closing
  | done
  deriving DecidableEq, Repr

/-- One served connection. -/
structure Call where
  connection : ConnId
  phase : Phase
  deriving DecidableEq, Repr

namespace Call

/-- A call that has not begun to read. -/
def start (id : ConnId) : Call := ⟨id, .awaiting⟩

/-- The reason given to a connection whose call has come to its end. -/
def doneReason : String := "connection closed"

/-- The call reads its stream. -/
def isReading (c : Call) : Bool :=
  match c.phase with
  | .awaiting | .relaying .. => true
  | _ => false

/-- The call is over. -/
def isDone (c : Call) : Bool := c.phase == .done

/-- Tells a client what is wrong with its first message, and closes. -/
def reject (c : Call) (r : Relay) (fault : Fault) : Call × Relay :=
  let (_, o) := r.outlet.push c.connection (.error fault.report)
  ({ c with phase := .done }, { r with outlet := o.close c.connection fault.clientMessage })

/-- Takes the slot that the first message asks for. -/
def subscribe (c : Call) (r : Relay) (s : Subscription) : Call × Relay :=
  match r.join s.code s.role c.connection with
  | (false, r) => c.reject r (.roomNotFound s.code)
  | (true, r) => ({ c with phase := .relaying s.code s.role }, r.record (·.opened s.role))

/-- Reads the first message. -/
def readFirst (c : Call) (r : Relay) : Option Inbound → Call × Relay
  | some (.text s) =>
    match Subscription.ofText s with
    | .ok subscription => c.subscribe r subscription
    | .error fault => c.reject r fault
  | some (.failure _) | none => ({ c with phase := .done }, r)

/-- Stops reading. -/
def stop (c : Call) (r : Relay) (code : String) (role : Role) : Call × Relay :=
  ({ c with phase := .leaving code role }, r.record (·.closed role))

/-- Relays a message. A message that was refused is lost, and the call goes on; a
room that is gone ends it. -/
def forward (c : Call) (r : Relay) (code : String) (role : Role) (e : Envelope) : Call × Relay :=
  match r.send code role.peer e with
  | (.error (.roomNotFound _), r) => c.stop r code role
  | (_, r) => (c, r)

/-- Reads one of the messages after the first. -/
def readNext (c : Call) (r : Relay) (code : String) (role : Role) :
    Option Inbound → Call × Relay
  | some (.text s) =>
    match Envelope.ofText s with
    | .ok e => c.forward r code role e
    | .error _ => c.stop r code role
  | some (.failure _) | none => c.stop r code role

/-- Reads the next thing on the stream, or its end. -/
def read (c : Call) (r : Relay) (next : Option Inbound) : Call × Relay :=
  match c.phase with
  | .awaiting => c.readFirst r next
  | .relaying code role => c.readNext r code role next
  | _ => (c, r)

/-- Takes the next step of a call that reads no longer. -/
def finish (c : Call) (r : Relay) : Call × Relay :=
  match c.phase with
  | .leaving code role => ({ c with phase := .closing }, r.leave code role c.connection)
  | .closing =>
    ({ c with phase := .done }, { r with outlet := r.outlet.close c.connection doneReason })
  | _ => (c, r)

end Call

end Rendezvous.Signaling
