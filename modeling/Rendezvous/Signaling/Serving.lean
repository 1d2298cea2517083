import Rendezvous.Signaling.Call

/-!
# Served streams

A call together with the stream it reads: what has arrived and not been read, and
whether anything more can come. A served stream takes one step after the other
until it has to wait for its client.
-/

namespace Rendezvous.Signaling

/-- A call and its stream. -/
structure Serving where
  call : Call
  /-- What has arrived and waits to be read. -/
  waiting : List Inbound
  /-- Nothing more will arrive. -/
  ended : Bool
  /-- Somebody reads the stream. -/
  started : Bool

namespace Serving

/-- A connection that is served from now on, with what has already arrived. -/
def start (id : ConnId) (waiting : List Inbound) (ended : Bool) : Serving :=
  ⟨.start id, waiting, ended, true⟩

/-- A connection that nobody serves yet. -/
def idle (id : ConnId) : Serving := ⟨.start id, [], false, false⟩

/-- The call has begun and is over. -/
def isDone (s : Serving) : Bool := s.started && s.call.isDone

/-- Something can still be handed in and will be read. -/
def isOpen (s : Serving) : Bool := !s.ended && !s.isDone

/-- Hands in something more, if somebody may still read it. -/
def offer (s : Serving) (x : Inbound) : Serving :=
  if s.isOpen then { s with waiting := s.waiting ++ [x] } else s

/-- Nothing more will arrive. -/
def hangUp (s : Serving) : Serving := { s with ended := true }

/-- Takes the next step, unless the call is over or has to wait. -/
def step? (s : Serving) (r : Relay) : Option (Serving × Relay) :=
  if !s.started || s.call.isDone then none
  else if s.call.isReading then
    match s.waiting with
    | x :: rest =>
      let (call, r) := s.call.read r (some x)
      some ({ s with call, waiting := rest }, r)
    | [] =>
      if s.ended then
        let (call, r) := s.call.read r none
        some ({ s with call }, r)
      else none
  else
    let (call, r) := s.call.finish r
    some ({ s with call }, r)

/-- Takes up to so many steps. -/
def steps : Nat → Serving → Relay → Serving × Relay
  | 0, s, r => (s, r)
  | fuel + 1, s, r =>
    match s.step? r with
    | some (s, r) => steps fuel s r
    | none => (s, r)

/-- Takes steps until the call is over or has to wait. Everything that waits takes
one step, and then there is at most the end of the stream, leaving and closing. -/
def rest (s : Serving) (r : Relay) : Serving × Relay := s.steps (s.waiting.length + 3) r

end Serving

end Rendezvous.Signaling
