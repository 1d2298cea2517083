import Rendezvous.Role

/-!
# Envelopes

What the peers of a room send each other through the relay: an offer, an answer
or a candidate, for one media track, with a payload that means nothing to the
relay. An envelope is written with its members in a fixed order, and is read from
every text that names its kind, whatever else the text holds.
-/

namespace Rendezvous

/-- The kinds of negotiation message. -/
inductive Kind where
  | offer
  | answer
  | candidate
  deriving DecidableEq, Repr

namespace Kind

/-- The kind as it is written in messages and in metric labels. -/
def name : Kind → String
  | offer => "offer"
  | answer => "answer"
  | candidate => "candidate"

/-- Every kind. -/
def all : List Kind := [offer, answer, candidate]

/-- The kind of a name. -/
def ofName? (s : String) : Option Kind := all.find? (·.name == s)

/-- Reads a kind. -/
def read : Json.Reader Kind := Json.choice (all.map fun k => (k.name, k))

end Kind

/-- A negotiation message. -/
structure Envelope where
  kind : Kind
  payload : Json.Value
  /-- The media track it is about. -/
  track : String

namespace Envelope

/-- Two envelopes say the same: same kind, same track, same payload. -/
def same (a b : Envelope) : Bool :=
  a.kind == b.kind && a.payload == b.payload && a.track == b.track

instance : BEq Envelope := ⟨same⟩

/-! ## The written form -/

/-- The wire text: kind, payload and track, in this order. -/
def wireText (e : Envelope) : String :=
  Json.recordText [("type", .string e.kind.name), ("payload", e.payload), ("trackType", .string e.track)]

/-- An envelope of which some members have been read. -/
structure Draft where
  kind : Option Kind := none
  payload : Option Json.Value := none
  track : Option String := none

/-- The deepest nesting of a payload, one bracket less than that of a message. -/
def payloadDepth : Nat := 126

/-- The kind has to be there. Without a payload it is null, without a track it is
the empty one. -/
def Draft.finish (d : Draft) : Except String Envelope :=
  match d.kind with
  | none => .error "type"
  | some kind => .ok ⟨kind, d.payload.getD .null, d.track.getD ""⟩

/-- The members of an envelope. -/
def members : List (Json.Member Draft) :=
  [{ name := "type"
     isSet := fun d => d.kind.isSome
     read := fun d c => do
      let (x, c) ← Kind.read c
      return ({ d with kind := some x }, c) },
   { name := "payload"
     isSet := fun d => d.payload.isSome
     read := fun d c => do
      let (x, c) ← Json.value payloadDepth c
      return ({ d with payload := some x }, c) },
   { name := "trackType"
     isSet := fun d => d.track.isSome
     read := fun d c => do
      let (x, c) ← Json.wantString c
      return ({ d with track := some x }, c) }]

/-- How an envelope is written in JSON. -/
def shape : Json.Shape Draft Envelope := ⟨"Envelope", members, {}, Draft.finish⟩

/-- Reads an envelope from its text. -/
def decode (s : String) : Except Json.Flaw Envelope := Json.decode shape.read s

end Envelope

end Rendezvous
