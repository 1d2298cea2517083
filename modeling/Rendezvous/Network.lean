import Rendezvous.Program
import Rendezvous.RoomCode
import Rendezvous.Service
import Rendezvous.WebSocket.Handshake
import Rendezvous.WebSocket.Wire
import Std.Async.Signal
import Std.Async.TCP
import Std.Async.Timer
import Std.Sync.Mutex
import Std.Sync.Notify
import Std.Time

/-!
# The network

Where the service meets real clients. The service itself is a value behind a lock,
and everything that happens, a request, a message, the passing of time, is one
change of it. Each connection has a task that reads; a WebSocket has a second one
that writes. While a write is under way the service takes the client for one that
does not read, so that a slow client is as slow as the service says.
-/

namespace Rendezvous.Network

open Std.Async (Async await background)
open Std.Async.TCP.Socket (Client Server)

/-- What the tasks share. -/
structure State where
  service : Service
  /-- What the machine's clock showed when the service began. -/
  origin : Nat
  /-- The requests that are being answered. -/
  busy : Nat
  /-- No more connections are taken. -/
  stopping : Bool

/-- The service with what it takes to wait for it. -/
structure World where
  state : Std.Mutex State
  /-- Something may have changed. -/
  changed : Std.Notify

namespace World

/-- A world in which nothing has begun. -/
def fresh : IO World := do
  let service := Service.start .default .default (RoomCode.draw 0)
  return ⟨← Std.Mutex.new ⟨service, ← IO.monoMsNow, 0, false⟩, ← Std.Notify.new⟩

/-- Changes the service, at the present time, and lets it come to rest. -/
def change {α : Type} (w : World) (f : Service → α × Service) : IO α := do
  let now ← IO.monoMsNow
  let result ← w.state.atomically do
    let s ← get
    let (result, service) := f (s.service.moveTo (now - s.origin))
    set { s with service := service.settle }
    return result
  w.changed.notify
  return result

/-- Changes the service for the sake of the change. -/
def update (w : World) (f : Service → Service) : IO Unit := w.change fun s => ((), f s)

/-- Does something that the end of the program waits for. -/
def hold {α : Type} (w : World) (act : Async α) : Async α := do
  w.state.atomically do modify fun s => { s with busy := s.busy + 1 }
  try act
  finally w.state.atomically do modify fun s => { s with busy := s.busy - 1 }

/-- Makes the service of some settings, and begins to sweep. -/
def begin (w : World) (settings : Settings) : IO Unit := do
  let seed := (← IO.getRandomBytes 8).toUInt64LE!
  let origin ← IO.monoMsNow
  w.state.atomically do
    modify fun s =>
      { s with service := (Service.start settings settings.limits (RoomCode.draw seed)).startSweeps,
               origin }

/-- Waits until there is something for the client of a socket, and takes it. -/
def awaitNews (w : World) (id : ConnId) : Async (List WebSocket.Shown × Bool) := do
  repeat
    let found : Except (Std.Async.AsyncTask Unit) _ ← w.state.atomically do
      let s ← get
      if s.service.hasNews id then
        let (news, service) := s.service.hand id
        set { s with service }
        return .ok news
      else return .error (← w.changed.wait)
    match found with
    | .ok news => return news
    | .error later => await later
  return ([], true)

end World

/-! ## WebSockets -/

/-- Sends bytes. -/
def send (client : Client) (bytes : List UInt8) : Async Unit := client.send ⟨bytes.toArray⟩

/-- Receives what has arrived, and nothing once the client has closed. -/
def receive? (client : Client) : Async (Option (List UInt8)) := do
  return (← client.recv? 65536).map (·.toList)

/-- Writes to the client of a socket until the socket is over. -/
def write (w : World) (client : Client) (id : ConnId) : Async Unit := do
  repeat
    let (shown, isOver) ← w.awaitNews id
    try
      send client (shown.flatMap WebSocket.Shown.bytes)
    catch _ =>
      w.update (·.changeSocket id (·.cut))
    if isOver then
      break
    w.update (·.changeSocket id (·.resume))
  w.update (·.forget id)
  client.shutdown

/-- Reads from the client of a socket until no more can be read. -/
def read (w : World) (client : Client) (id : ConnId) (first : List UInt8) : Async Unit := do
  let mut intake := WebSocket.Intake.empty
  let mut arrived := some first
  repeat
    match arrived with
    | none =>
      w.update (·.changeSocket id (·.cut))
      break
    | some bytes =>
      let (messages, broken, rest) := intake.feed bytes
      intake := rest
      for m in messages do
        w.update (·.changeSocket id (·.receive m))
      if broken then
        w.update (·.changeSocket id (·.cut))
        break
      arrived ← try receive? client catch _ => pure none

/-- Serves a client that has become a WebSocket. -/
def serveSocket (w : World) (client : Client) (r : Http.Request) (first : List UInt8) :
    Async Unit := do
  send client (WebSocket.openingText ((r.header? "sec-websocket-key").getD [])).toUTF8.toList
  let id ← w.change fun s => s.openSocket true
  background (write w client id)
  read w client id first

/-! ## Requests -/

/-- The longest head that is read. -/
def maxHead : Nat := 65536

/-- Receives the head of a request, and whatever came with it. -/
def receiveHead? (client : Client) : Async (Option (List UInt8 × List UInt8)) := do
  let mut bytes := []
  repeat
    match ← receive? client with
    | none => return none
    | some more =>
      bytes := bytes ++ more
      if let some found := Http.splitHead? bytes then
        return some found
      if maxHead < bytes.length then
        return none
  return none

/-- What the service answers at a door. -/
def reply (door : Program.Door) (r : Http.Request) (s : Service) : Http.Reply × Service :=
  match door with
  | .health => (.response (s.healthRequest true r), s)
  | .api => s.request r

/-- Sends a response, which is all that a client gets. -/
def respond (client : Client) (response : Http.Response) : Async Unit := do
  send client response.wireText.toUTF8.toList
  client.shutdown

/-- Answers the request of a client, and tells whether it becomes a WebSocket. -/
def answer (w : World) (door : Program.Door) (client : Client) (r : Http.Request) :
    Async Bool := do
  match ← w.change (reply door r) with
  | .response response =>
    respond client response
    return false
  | .upgrade _ => return true

/-- Serves a client that has been taken. -/
def serve (w : World) (door : Program.Door) (client : Client) : Async Unit := do
  let some (head, rest) ← receiveHead? client | return
  match Http.Request.ofHead? head with
  | none => respond client .badRequest
  | some r =>
    if ← w.hold (answer w door client r) then
      serveSocket w client r rest

/-- Takes the clients that come, until no more are taken. -/
def accept (w : World) (door : Program.Door) (server : Server) : Async Unit := do
  repeat
    let client ← server.accept
    if (← w.state.atomically do return (← get).stopping) then
      break
    background (serve w door client)

/-! ## The machine -/

/-- The address as the machine takes it. -/
def machineAddress (a : Address) : Std.Net.SocketAddress :=
  match a.host with
  | .short b c d e => .v4 ⟨.ofParts b.toUInt8 c.toUInt8 d.toUInt8 e.toUInt8, a.port.toUInt16⟩
  | .long gs _ =>
    let group (i : Nat) : UInt16 := (gs.getD i 0).toUInt16
    .v6 ⟨.ofParts (group 0) (group 1) (group 2) (group 3) (group 4) (group 5) (group 6) (group 7),
      a.port.toUInt16⟩

/-- The machine's number for an error, which may come with its sign turned. -/
def errorNumber (code : UInt32) : Nat := (if code < 0x80000000 then code else 0 - code).toNat

/-- The number and the words of an error. -/
def errorParts : IO.Error → Nat × String
  | .resourceBusy code details | .unsupportedOperation code details
  | .otherError code details | .permissionDenied _ code details => (errorNumber code, details)
  | e => (0, toString e)

/-- The error of an address that cannot be listened on. -/
def bindError (e : IO.Error) : Program.BindError :=
  match errorParts e with
  | (13, _) => ⟨13, "PermissionDenied", "Permission denied"⟩
  | (98, _) => ⟨98, "AddrInUse", "Address already in use"⟩
  | (99, _) => ⟨99, "AddrNotAvailable", "Cannot assign requested address"⟩
  | (code, details) => ⟨code, "Uncategorized", details⟩

/-- How many clients may wait to be taken. -/
def backlog : UInt32 := 1024

/-- Listens on an address, and takes who comes. -/
def listen (w : World) (door : Program.Door) (a : Address) : IO (Option Program.BindError) := do
  try
    let server ← Server.mk
    server.bind (machineAddress a)
    server.listen backlog
    (background (accept w door server) : Async Unit).block
    return none
  catch e => return some (bindError e)

/-- Waits for one of the two signals that ask a program to stop. -/
def awaitSignal : IO Unit := do
  let interrupt ← (← Std.Async.Signal.Waiter.mk .sigint false).wait
  let terminate ← (← Std.Async.Signal.Waiter.mk .sigterm false).wait
  let _ ← IO.waitAny [interrupt, terminate]

/-- The present time, for the log. -/
def timeText : IO String := do
  return (Std.Time.DateTime.ofTimestampWithZone (← Std.Time.Timestamp.now) .UTC).toISO8601String

/-- How many milliseconds pass between two looks at the clock. -/
def pause : UInt32 := 50

/-- Lets time pass for the service. -/
def tick (w : World) : Async Unit := do
  repeat
    Std.Async.sleep (.ofNat pause.toNat)
    w.update id

/-- Takes no more clients, and waits until those that were taken have their answers,
but no longer than so many seconds. -/
def finish (w : World) (seconds : Nat) : IO Bool := do
  w.state.atomically do modify fun s => { s with stopping := true }
  for _ in [0 : seconds * 1000 / pause.toNat] do
    if (← w.state.atomically do return (← get).busy) = 0 then
      return true
    IO.sleep pause
  return false

/-- The machine that a world runs on. -/
def host (w : World) : Program.Host IO where
  log format record := do
    IO.println (record.line format (some (← timeText)))
    (← IO.getStdout).flush
  complain line := IO.eprintln line
  begin settings := do
    w.begin settings
    (background (tick w) : Async Unit).block
  listen := listen w
  setReady ready := w.update fun s => { s with ready }
  awaitStop := awaitSignal
  finish := finish w
  rooms := w.change fun s => (s.relay.count, s)

end Rendezvous.Network
