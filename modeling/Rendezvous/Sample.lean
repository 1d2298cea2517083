import Rendezvous.Subscription

/-!
# Sample messages

Messages such as a browser would send, for trying out a relay without one: the
session descriptions and candidates are short stand-ins, one for each track.
-/

namespace Rendezvous.Sample

/-- A session description of a kind. -/
def description (k : Kind) (track : String) : Envelope :=
  { kind := k
    payload := .ofMembers
      [("type", .string k.name), ("sdp", .string ("v=0 " ++ k.name ++ " " ++ track))]
    track }

/-- An offer for a track. -/
def offer (track : String) : Envelope := description .offer track

/-- An answer for a track. -/
def answer (track : String) : Envelope := description .answer track

/-- The port of the first candidate. -/
def firstPort : Nat := 50000

/-- A candidate for a track; each number has its own port. -/
def candidate (track : String) (n : Nat) : Envelope :=
  let line := "candidate:" ++ toString n ++ " 1 udp 2122260223 10.0.0.1 " ++
    toString (firstPort + n) ++ " typ host"
  { kind := .candidate
    payload := .ofMembers [("candidate", .string line), ("sdpMid", .string "0")]
    track }

/-- A request to subscribe, with nothing checked. -/
def subscribe (code role : String) : String :=
  (Json.Value.ofMembers [("roomCode", .string code), ("role", .string role)]).text

end Rendezvous.Sample
