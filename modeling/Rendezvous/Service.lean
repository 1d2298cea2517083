import Rendezvous.Http.Api
import Rendezvous.Http.Health
import Rendezvous.Sweep
import Rendezvous.WebSocket.Socket

/-!
# The whole service

Everything that runs at once: the relay, the calls that serve connections, the
WebSocket connections with their clients, and the sweep timer, together with the
clock. What comes from outside is one change each; afterwards `settle` lets all of
it run until nothing moves. Time passes only when asked to.

Connections can also be served without a WebSocket: whoever holds one hands in
messages and takes frames off the channel by itself.
-/

namespace Rendezvous

open Signaling (Serving Inbound)
open WebSocket (Socket)

/-- The running service. -/
structure Service where
  settings : Settings
  relay : Relay
  /-- The service says that it is ready for traffic. -/
  ready : Bool
  /-- Streams served without a WebSocket, the latest first. -/
  servings : List Serving
  sockets : List Socket
  /-- A sweep task has been started and not been stopped. -/
  sweeping : Bool
  /-- The timer of the sweep task. -/
  timer : Option Sweep

namespace Service

/-- A service that nobody has called yet. -/
def start (settings : Settings) (limits : Limits) (candidates : Nat → String) : Service where
  settings := settings
  relay := .empty limits candidates
  ready := false
  servings := []
  sockets := []
  sweeping := false
  timer := none

/-! ## Running until nothing moves -/

/-- Does something to each of a list in turn, and to the relay. -/
def eachWith {α : Type} (f : α → Relay → α × Relay) : List α → Relay → List α × Relay
  | [], r => ([], r)
  | x :: rest, r =>
    let (x, r) := f x r
    let (rest, r) := eachWith f rest r
    (x :: rest, r)

/-- All calls take steps until they wait, and then all writers write. -/
def pulse (s : Service) : Service :=
  let (servings, relay) := eachWith Serving.rest s.servings s.relay
  let (sockets, relay) := eachWith Socket.serve s.sockets relay
  let (sockets, relay) := eachWith Socket.flush sockets relay
  { s with servings, sockets, relay }

/-- Lets everything run until nothing moves. A client that reads a close answers it,
which ends its call; after that there is nothing left to move. -/
def settle (s : Service) : Service := s.pulse.pulse

/-! ## Served streams -/

/-- The latest stream of a connection. -/
def serving? (s : Service) (id : ConnId) : Option Serving :=
  s.servings.find? (·.call.connection == id)

/-- Changes the first of a list that satisfies `p`. -/
def changeFirst {α : Type} (p : α → Bool) (f : α → α) : List α → List α
  | [] => []
  | x :: rest => if p x then f x :: rest else x :: changeFirst p f rest

/-- Changes the latest stream of a connection. -/
def changeServing (s : Service) (id : ConnId) (f : Serving → Serving) : Service :=
  { s with servings := changeFirst (·.call.connection == id) f s.servings }

/-- Opens a connection that is not a WebSocket's. -/
def connect (s : Service) (capacity : Nat) : ConnId × Service :=
  let (id, relay) := s.relay.connect capacity
  (id, { s with relay })

/-- Serves a connection from now on. A stream that it was served with before ends. -/
def serve (s : Service) (id : ConnId) (waiting : List Inbound) (ended : Bool) : Service :=
  let before := s.servings.map fun x => if x.call.connection == id then x.hangUp else x
  { s with servings := .start id waiting ended :: before }

/-- Gives a connection a stream that nobody reads yet. -/
def prepare (s : Service) (id : ConnId) : Service :=
  { s with servings := .idle id :: s.servings }

/-- Begins to read a prepared stream. -/
def beginReading (s : Service) (id : ConnId) : Service :=
  s.changeServing id fun x => { x with started := true }

/-- Something arrives on the stream of a connection. -/
def offer (s : Service) (id : ConnId) (x : Inbound) : Service := s.changeServing id (·.offer x)

/-- The stream of a connection ends. -/
def hangUp (s : Service) (id : ConnId) : Service := s.changeServing id Serving.hangUp

/-! ## Requests and WebSockets -/

/-- The most frames that a channel can be made for. -/
def maxBuffer : Nat := 0xFFFFFFFFFFFFFFFF / 8

/-- Opens a WebSocket connection. With a buffer that no channel can be made for, it
is over at once. -/
def openSocket (s : Service) (reading : Bool) : ConnId × Service :=
  let (id, relay) := s.relay.connect s.settings.buffer
  let socket := Socket.fresh id reading
  if s.settings.buffer ≤ maxBuffer then (id, { s with relay, sockets := s.sockets ++ [socket] })
  else
    let dead := { socket with
      serving := { socket.serving with call := ⟨id, .done⟩ }, writer := .stopped }
    (id, { s with relay := relay.drop id, sockets := s.sockets ++ [dead] })

/-- Answers a request to the room interface. -/
def request (s : Service) (r : Http.Request) : Http.Reply × Service :=
  let (reply, relay) := Http.handle s.settings s.relay r
  (reply, { s with relay })

/-- Answers a request for health; the tally is shown only if asked for. -/
def healthRequest (s : Service) (metrics : Bool) (r : Http.Request) : Http.Response :=
  Http.health s.ready (if metrics then some (Http.exposition s.relay.outlet.tally) else none) r

/-- The socket of a connection. -/
def socket? (s : Service) (id : ConnId) : Option Socket := s.sockets.find? (·.connection == id)

/-- Changes the socket of a connection. -/
def changeSocket (s : Service) (id : ConnId) (f : Socket → Socket) : Service :=
  { s with sockets := changeFirst (·.connection == id) f s.sockets }

/-- There is something that the client of a socket has not been given, or the socket
is over. -/
def hasNews (s : Service) (id : ConnId) : Bool :=
  (s.socket? id).all fun x => x.isOver || !x.seen.isEmpty

/-- Gives the client of a socket what it has been sent, and lets nothing more be sent
to it until it resumes. Tells whether the socket is over. -/
def hand (s : Service) (id : ConnId) : (List WebSocket.Shown × Bool) × Service :=
  match s.socket? id with
  | none => (([], true), s)
  | some x => ((x.seen, x.isOver), s.changeSocket id fun x => { x with seen := [], reading := false })

/-- Forgets a socket that is over. -/
def forget (s : Service) (id : ConnId) : Service :=
  { s with
    relay := s.relay.drop id
    sockets := s.sockets.filter (·.connection != id) }

/-! ## Time -/

/-- Starts the sweep task as configured. -/
def startSweeps (s : Service) : Service :=
  { s with sweeping := true, timer := Sweep.start? s.settings.sweep s.relay.now }

/-- Stops the sweep task. -/
def stopSweeps (s : Service) : Service := { s with sweeping := false, timer := none }

/-- Whatever is due at the present time happens, late or not. -/
def fire (s : Service) : Service :=
  let (timer, relay) := match s.timer with
    | some t =>
      let (t, relay) := t.poll s.relay
      (some t, relay)
    | none => (none, s.relay)
  let (sockets, relay) := eachWith Socket.expire s.sockets relay
  { s with timer, sockets, relay }

/-- The clock shows a time, and what is due happens. -/
def moveTo (s : Service) (time : Instant) : Service :=
  ({ s with relay := { s.relay with now := time } } : Service).fire.settle

/-- The clock jumps, and everything that fell due meanwhile happens afterwards. -/
def jump (s : Service) (milliseconds : Nat) : Service := s.moveTo (s.relay.now + milliseconds)

/-- When a socket has something to do by itself. -/
def socketDue? (x : Socket) : Option Instant := if x.link = .up then x.deadline else none

/-- The times at which something falls due. -/
def dueTimes (s : Service) : List Instant :=
  (s.timer.map (·.due)).toList ++ s.sockets.filterMap socketDue?

/-- The next time, up to a given one, at which something falls due. -/
def nextDue? (s : Service) (target : Instant) : Option Instant :=
  (s.dueTimes.filter (· ≤ target)).min?

/-- The clock runs up to a time, and everything happens when it is due. -/
def runTo (target : Instant) : Nat → Service → Service
  | 0, s => s.moveTo target
  | fuel + 1, s =>
    match s.nextDue? target with
    | some time => runTo target fuel (s.moveTo (max time s.relay.now))
    | none => s.moveTo target

/-- The clock runs for so many milliseconds. The timer falls due once every interval,
and a socket once. -/
def wait (s : Service) (milliseconds : Nat) : Service :=
  let ticks := match s.timer with
    | some t => milliseconds / max t.interval 1 + 1
    | none => 0
  runTo (s.relay.now + milliseconds) (ticks + s.sockets.length + 1) s

end Service

end Rendezvous
