import Rendezvous.Http.Message

/-!
# Routes

The paths of the room interface, all under one configured path. Paths are
compared as they are written, letter by letter and without decoding anything; only
the code of a room is decoded, once the route is known.
-/

namespace Rendezvous.Http

/-- The routes. -/
inductive Route where
  /-- Where rooms are made. -/
  | rooms
  /-- The caller's own room. -/
  | current
  /-- The viewer's slot of a room, by its code as written. -/
  | viewer (code : List Char)
  /-- A room, by its code as written. -/
  | room (code : List Char)
  /-- Where signaling connections are opened. -/
  | signaling
  deriving DecidableEq, Repr

/-- The parts of a path between its slashes. -/
def segments : List Char → List (List Char)
  | [] => [[]]
  | '/' :: rest => [] :: segments rest
  | c :: rest =>
    match segments rest with
    | [] => [[c]]
    | part :: parts => (c :: part) :: parts

/-- What is left of a path behind the path in front of it. -/
def behind? : List Char → List Char → Option (List Char)
  | [], path => some path
  | c :: root, d :: path => if c = d then behind? root path else none
  | _ :: _, [] => none

/-- The route of a path under `root`. -/
def Route.ofPath? (root : String) (path : List Char) : Option Route :=
  match (behind? root.toList path).map fun rest => (segments rest).map String.ofList with
  | some ["", "rooms"] => some .rooms
  | some ["", "rooms", "current"] => some .current
  | some ["", "rooms", code] => if code.isEmpty then none else some (.room code.toList)
  | some ["", "rooms", code, "viewer"] => some (.viewer code.toList)
  | some ["", "signaling"] => some .signaling
  | _ => none

/-- The method of a route. -/
def Route.method : Route → String
  | .rooms | .viewer _ => "POST"
  | .current | .signaling => "GET"
  | .room _ => "DELETE"

/-- The methods that a route knows. Where something can be got, its head can. -/
def Route.allow (r : Route) : String := if r.method = "GET" then "GET,HEAD" else r.method

/-- The route knows the method. -/
def Route.knows (r : Route) (method : String) : Bool :=
  method == r.method || (method == "HEAD" && r.method == "GET")

end Rendezvous.Http
