import Rendezvous.Session.Live

/-!
# The relay

The directory of all live rooms, and what can be done to it. Every operation here
is one step: it reads and writes the rooms with nobody in between. Whatever takes
several operations, such as serving a connection or ending a room for a user, is
made of such steps, and other steps may come between them.

Looking for something that is not there is reported and changes nothing.
-/

namespace Rendezvous

/-- The live rooms with everything they act on. -/
structure Relay where
  /-- The live rooms in the order in which they were made. -/
  rooms : List Session
  /-- The bounds of every new room. -/
  limits : Limits
  /-- The candidates for the codes of new rooms, one after the other. -/
  candidates : Nat → String
  /-- How many candidates have been drawn. -/
  drawn : Nat
  outlet : Outlet
  now : Instant

/-- The room a user is in, and as what. -/
structure Membership where
  code : String
  role : Role
  deriving DecidableEq, Repr

/-- The wire text of a membership. -/
def Membership.wireText (m : Membership) : String :=
  Json.recordText [("roomCode", .string m.code), ("role", .string m.role.name)]

namespace Relay

/-- A relay without rooms. -/
def empty (limits : Limits) (candidates : Nat → String) : Relay :=
  { rooms := [], limits, candidates, drawn := 0, outlet := .empty, now := 0 }

/-! ## Looking -/

/-- The live room of a code. -/
def find? (r : Relay) (code : String) : Option Session := r.rooms.find? (·.code == code)

/-- The code names a live room. -/
def isLive (r : Relay) (code : String) : Bool := (r.find? code).isSome

/-- The number of live rooms. -/
def count (r : Relay) : Nat := r.rooms.length

/-- The room whose presenter or viewer is the user. -/
def membership? (r : Relay) (user : String) : Option Membership :=
  r.rooms.findSome? fun s => (s.roleOf? user).map fun role => ⟨s.code, role⟩

/-! ## Changing one room -/

/-- The relay with another state of a room. -/
def put (r : Relay) (s : Session) : Relay :=
  { r with rooms := r.rooms.map fun old => if old.code == s.code then s else old }

/-- Changes the room of a code, and tells whether there is one. -/
def change (r : Relay) (code : String) (f : Session → Session) : Bool × Relay :=
  match r.find? code with
  | none => (false, r)
  | some s => (true, r.put (f s))

/-- Puts a connection into a slot of a room, and tells whether there is the room. -/
def join (r : Relay) (code : String) (role : Role) (id : ConnId) : Bool × Relay :=
  match r.find? code with
  | none => (false, r)
  | some s =>
    let (_, s, outlet) := s.join r.outlet role id r.now
    (true, { r.put s with outlet })

/-- A user claims the viewer's slot of a room. -/
def claimViewer (r : Relay) (code user : String) : Bool × Relay :=
  r.change code (·.claimViewer user r.now)

/-- The viewer's slot of a room is emptied. -/
def leaveViewer (r : Relay) (code : String) : Relay :=
  (r.change code (·.clearViewer r.now)).2

/-- A connection leaves its slot, unless a newer one has taken it. -/
def leave (r : Relay) (code : String) (role : Role) (id : ConnId) : Relay :=
  (r.change code (·.detach role id r.now)).2

/-- Relays a message to a role of a room. -/
def send (r : Relay) (code : String) (destination : Role) (e : Envelope) :
    Except Fault Session.Delivery × Relay :=
  match r.find? code with
  | none => (.error (.roomNotFound code), r)
  | some s =>
    let (result, s, outlet) := s.send r.outlet destination e r.now
    (result.mapError .delivery, { r.put s with outlet })

/-! ## Making and removing rooms -/

/-- How many candidates are tried for the code of one room. -/
def maxDraws : Nat := 32

/-- Draws candidates until one is usable: not empty, and not the code of a live
room. The result is that candidate and the number drawn in all. -/
def draw (r : Relay) : Nat → Nat → Option String × Nat
  | 0, drawn => (none, drawn)
  | left + 1, drawn =>
    let code := r.candidates drawn
    if code.isEmpty || r.isLive code then r.draw left (drawn + 1) else (some code, drawn + 1)

/-- Makes a room for a presenter, and gives its code. -/
def create (r : Relay) (presenter : String) : Except Fault String × Relay :=
  match r.draw maxDraws r.drawn with
  | (none, drawn) => (.error (.codesExhausted maxDraws), { r with drawn })
  | (some code, drawn) =>
    let rooms := r.rooms ++ [.start code presenter r.limits r.now]
    let tally := r.outlet.tally.created rooms.length
    (.ok code, { r with rooms, drawn, outlet := { r.outlet with tally } })

/-- The reason given to the connections of a room that is removed on request. -/
def endedReason : String := "room ended"

/-- The reason given to the connections of a room that was idle too long. -/
def expiredReason : String := "room expired"

/-- The rooms without the one of a code. -/
def without (r : Relay) (code : String) : List Session := r.rooms.filter (·.code != code)

/-- Removes a room and asks its connections to close. Tells whether there was one. -/
def remove (r : Relay) (code : String) : Bool × Relay :=
  match r.find? code with
  | none => (false, r)
  | some s =>
    let (_, outlet) := s.dismiss r.outlet endedReason
    let rooms := r.without code
    (true, { r with rooms, outlet := { outlet with tally := outlet.tally.ended rooms.length } })

/-- Asks the connections of a room that was idle too long to close, and counts it. -/
def expire (o : Outlet) (s : Session) : Outlet :=
  let (_, o) := s.dismiss o expiredReason
  { o with tally := o.tally.evicted }

/-- The room has been idle for longer than so many milliseconds. -/
def isIdle (r : Relay) (maxIdle : Nat) (s : Session) : Bool := maxIdle < s.idle r.now

/-- Removes every room that has been idle for longer than so many milliseconds, and
gives their codes. -/
def evict (r : Relay) (maxIdle : Nat) : List String × Relay :=
  let expired := r.rooms.filter (r.isIdle maxIdle)
  let rooms := r.rooms.filter fun s => !r.isIdle maxIdle s
  let outlet := expired.foldl expire r.outlet
  (expired.map (·.code),
    { r with rooms, outlet := { outlet with tally := outlet.tally.swept rooms.length } })

/-! ## Connections and time -/

/-- Opens a connection under a name that none has had. -/
def connect (r : Relay) (capacity : Nat) : ConnId × Relay :=
  let id := r.outlet.lines.unused
  (id, { r with outlet := { r.outlet with lines := r.outlet.lines.set id (.fresh capacity) } })

/-- The channel of a connection. -/
def channel (r : Relay) (id : ConnId) : Channel := r.outlet.lines.get id

/-- Takes frames off the queue of a connection. -/
def take (r : Relay) (id : ConnId) (count : Nat) : List Frame × Relay :=
  let (frames, lines) := r.outlet.lines.take id count
  (frames, { r with outlet := { r.outlet with lines } })

/-- The writer of a connection goes away. -/
def drop (r : Relay) (id : ConnId) : Relay :=
  { r with outlet := { r.outlet with lines := r.outlet.lines.drop id } }

/-- Keeps the tally. -/
def record (r : Relay) (f : Tally → Tally) : Relay :=
  { r with outlet := { r.outlet with tally := f r.outlet.tally } }

end Relay

end Rendezvous
