import Rendezvous.Http.Route
import Rendezvous.Relay
import Rendezvous.Settings

/-!
# The room interface

What the application around the relay asks it: make a room, look up the caller's
room, claim the viewer's slot, end a room, open a signaling connection. Who asks
is looked at before anything else on every known path, so that a request without
an identity learns only that the path is known.

A room is ended in two steps, a look and a removal, and it is removed only for its
presenter; to anyone else it reads as not found.
-/

namespace Rendezvous.Http

/-- What comes of a request. -/
inductive Reply where
  | response (r : Response)
  /-- The connection becomes a signaling connection of the user. -/
  | upgrade (user : String)

/-- The response with a membership. -/
def Response.membership (status : Nat) (m : Membership) : Response := .json status m.wireText

/-- The code in a path cannot be decoded. -/
def Response.badCode : Response := .plain 400 "Invalid URL: Invalid UTF-8 in `code`"

/-! ## Rooms -/

/-- Makes a room with the caller as its presenter. -/
def createRoom (relay : Relay) (user : String) : Response × Relay :=
  match relay.create user with
  | (.ok code, relay) => (.membership 201 ⟨code, .presenter⟩, relay)
  | (.error fault, relay) => (.ofFault fault, relay)

/-- The caller's room. -/
def currentRoom (relay : Relay) (user : String) : Response :=
  match relay.membership? user with
  | some m => .membership 200 m
  | none => .ofFault (.roomNotFound "no room for user")

/-- Claims the viewer's slot of a room for the caller. -/
def claimViewer (relay : Relay) (code user : String) : Response × Relay :=
  match relay.claimViewer code user with
  | (true, relay) => (.membership 200 ⟨code, .viewer⟩, relay)
  | (false, relay) => (.ofFault (.roomNotFound code), relay)

/-- The user is the presenter of the room. -/
def mayEnd (relay : Relay) (code user : String) : Bool :=
  match relay.find? code with
  | some s => s.roleOf? user == some .presenter
  | none => false

/-- Ends a room that the caller may end. -/
def endRoom (relay : Relay) (code user : String) : Response × Relay :=
  if mayEnd relay code user then
    match relay.remove code with
    | (true, relay) => ({ status := 204 }, relay)
    | (false, relay) => (.ofFault (.roomNotFound code), relay)
  else (.ofFault (.roomNotFound code), relay)

/-! ## Signaling connections -/

/-- The header has exactly these letters, in any case. -/
def Request.hasExactly (r : Request) (name want : String) : Bool :=
  match (r.header? name).bind utf8Text? with
  | some value => Text.lowerAscii value == want
  | none => false

/-- The letters stand somewhere in the text. -/
def contains (part : List Char) : List Char → Bool
  | [] => part.isEmpty
  | c :: rest => part.isPrefixOf (c :: rest) || contains part rest

/-- The header has these letters somewhere, in any case. -/
def Request.mentions (r : Request) (name want : String) : Bool :=
  match (r.header? name).bind utf8Text? with
  | some value => contains want.toList (Text.lowerAscii value).toList
  | none => false

/-- Why a request cannot become a signaling connection. -/
def handshakeProblem? (r : Request) : Option Response :=
  if r.method != "GET" then some (.plain 405 "Request method must be `GET`")
  else if !r.mentions "connection" "upgrade" then
    some (.plain 400 "Connection header did not include 'upgrade'")
  else if !r.hasExactly "upgrade" "websocket" then
    some (.plain 400 "`Upgrade` header did not include 'websocket'")
  else if !r.hasExactly "sec-websocket-version" "13" then
    some (.plain 400 "`Sec-WebSocket-Version` header did not include '13'")
  else if (r.header? "sec-websocket-key").isNone then
    some (.plain 400 "`Sec-WebSocket-Key` header missing")
  else if !r.upgradable then
    some (.plain 426 "WebSocket request couldn't be upgraded since no upgrade state was present")
  else none

/-- Opens a signaling connection, if the request asks for one in the right way. -/
def openSignaling (r : Request) (user : String) : Reply :=
  match handshakeProblem? r with
  | some problem => .response problem
  | none => .upgrade user

/-! ## All routes -/

/-- Answers a request whose caller and route are known, and whose method the route
knows. -/
def serve (relay : Relay) (r : Request) (user : String) : Route → Reply × Relay
  | .rooms =>
    let (response, relay) := createRoom relay user
    (.response response, relay)
  | .current => (.response (currentRoom relay user), relay)
  | .viewer code =>
    match pathText? code with
    | none => (.response .badCode, relay)
    | some code =>
      let (response, relay) := claimViewer relay code user
      (.response response, relay)
  | .room code =>
    match pathText? code with
    | none => (.response .badCode, relay)
    | some code =>
      let (response, relay) := endRoom relay code user
      (.response response, relay)
  | .signaling => (openSignaling r user, relay)

/-- A request for the head of something gets everything but the body. -/
def Reply.forMethod (method : String) : Reply → Reply
  | .response r => .response (if method = "HEAD" then r.headOnly else r)
  | .upgrade user => .upgrade user

/-- The response to a request without an identity. -/
def Response.unauthenticated : Response := .ofFault (.unauthenticated "Missing identity header")

/-- Answers a request: the path first, then the identity, then the method. -/
def handle (settings : Settings) (relay : Relay) (r : Request) : Reply × Relay :=
  match Route.ofPath? settings.root r.path with
  | none => (.response .notFound, relay)
  | some route =>
    if route.knows r.method then
      match r.identity? settings.identityHeader with
      | none => ((Reply.response .unauthenticated).forMethod r.method, relay)
      | some user =>
        let (reply, relay) := serve relay r user route
        (reply.forMethod r.method, relay)
    else
      match r.identity? settings.identityHeader with
      | none => (.response { Response.unauthenticated with allow := some route.allow }, relay)
      | some _ => (.response (.wrongMethod route.allow), relay)

end Rendezvous.Http
