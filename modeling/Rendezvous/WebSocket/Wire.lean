import Rendezvous.Bytes
import Rendezvous.WebSocket.Message

/-!
# WebSocket messages on the wire

A message travels in pieces, each with a header that says what it is and how long.
What a client sends is masked, what the relay sends is not. The pieces of one
message follow each other, and only pieces that keep the connection in order may
come between them. Anything else breaks the connection.
-/

namespace Rendezvous.WebSocket

/-! ## What a client sends -/

/-- A piece of a message. -/
structure Piece where
  /-- It is the last piece of its message. -/
  isLast : Bool
  /-- What it is, or zero where it continues another. -/
  code : Nat
  payload : List UInt8

/-- What stands at the front of the bytes that have arrived. -/
inductive Front where
  | piece (p : Piece) (rest : List UInt8)
  /-- Not enough has arrived yet. -/
  | incomplete
  | broken

/-- Reads the length of a payload: the short form holds it, or says how many bytes
follow that do. -/
def lengthOf? (short : Nat) (bytes : List UInt8) : Option (Nat × List UInt8) :=
  let size := if short = 126 then 2 else if short = 127 then 8 else 0
  if bytes.length < size then none
  else some (if size = 0 then short else Bytes.toNat (bytes.take size), bytes.drop size)

/-- Takes the mask off a payload. -/
def unmasked (k0 k1 k2 k3 : UInt8) : List UInt8 → List UInt8
  | [] => []
  | b :: rest => (b ^^^ k0) :: unmasked k1 k2 k3 k0 rest

/-- The longest payload of a piece. -/
def maxPayload : Nat := 0x1000000

/-- Reads the piece at the front. -/
def front : List UInt8 → Front
  | first :: second :: rest =>
    if first.toNat / 16 % 8 != 0 || second < 128 then .broken
    else match lengthOf? (second.toNat - 128) rest with
      | none => .incomplete
      | some (length, body) =>
        if maxPayload < length then .broken
        else match body with
          | k0 :: k1 :: k2 :: k3 :: body =>
            if body.length < length then .incomplete
            else .piece ⟨128 ≤ first, first.toNat % 16, unmasked k0 k1 k2 k3 (body.take length)⟩
              (body.drop length)
          | _ => .incomplete
  | _ => .incomplete

/-- What has been read of the stream from a client. -/
structure Intake where
  /-- What has arrived and not been read. -/
  bytes : List UInt8
  /-- The code of the message that has begun, and its payload so far. -/
  begun : Option (Nat × List UInt8)

/-- Nothing has arrived. -/
def Intake.empty : Intake := ⟨[], none⟩

/-- The message of a code, where the payload makes one. -/
def messageOf? (code : Nat) (payload : List UInt8) : Option Message :=
  match code with
  | 1 => (Http.utf8Text? payload).map .text
  | 2 => some (.binary payload)
  | 8 =>
    match payload with
    | [] => some (.close none)
    | a :: b :: reason =>
      (Http.utf8Text? reason).map fun r => .close (some (a.toNat * 256 + b.toNat, r))
    | _ => none
  | 9 => some (.ping payload)
  | 10 => some (.pong payload)
  | _ => none

/-- What comes of a piece. -/
inductive Taken where
  | message (m : Message) (intake : Intake)
  /-- The message goes on. -/
  | more (intake : Intake)
  /-- Not enough has arrived yet. -/
  | waiting
  | broken

/-- The piece ends a message. -/
def Taken.ofMessage (code : Nat) (payload : List UInt8) (intake : Intake) : Taken :=
  match messageOf? code payload with
  | some m => .message m intake
  | none => .broken

/-- Takes the next piece off what has arrived. -/
def Intake.next (i : Intake) : Taken :=
  match front i.bytes with
  | .incomplete => .waiting
  | .broken => .broken
  | .piece p rest =>
    if 8 ≤ p.code then
      if p.isLast && p.payload.length ≤ 125 then .ofMessage p.code p.payload { i with bytes := rest }
      else .broken
    else
      match p.code, i.begun with
      | 0, some (code, payload) =>
        if p.isLast then .ofMessage code (payload ++ p.payload) ⟨rest, none⟩
        else if maxPayload < payload.length then .broken
        else .more ⟨rest, some (code, payload ++ p.payload)⟩
      | 0, none => .broken
      | _, some _ => .broken
      | code, none =>
        if p.isLast then .ofMessage code p.payload ⟨rest, none⟩
        else .more ⟨rest, some (code, p.payload)⟩

/-- Takes up to so many pieces; the result is the messages, whether the connection
is broken, and what is left. -/
def Intake.messages : Nat → Intake → List Message × Bool × Intake
  | 0, i => ([], false, i)
  | fuel + 1, i =>
    match i.next with
    | .waiting => ([], false, i)
    | .broken => ([], true, i)
    | .more i => messages fuel i
    | .message m i =>
      let (ms, broken, i) := messages fuel i
      (m :: ms, broken, i)

/-- Adds what has just arrived, and takes all messages that are whole. A piece has
two bytes at least. -/
def Intake.feed (i : Intake) (bytes : List UInt8) : List Message × Bool × Intake :=
  let i := { i with bytes := i.bytes ++ bytes }
  i.messages i.bytes.length

/-! ## What the relay sends -/

/-- The header of a whole message. -/
def header (code length : Nat) : List UInt8 :=
  let rest :=
    if length < 126 then [length.toUInt8]
    else if length < 65536 then 126 :: Bytes.ofNat 2 length
    else 127 :: Bytes.ofNat 8 length
  (128 + code).toUInt8 :: rest

/-- The code of what a client gets to see, and its payload. -/
def Shown.parts? : Shown → Option (Nat × List UInt8)
  | .text s => some (1, s.toUTF8.toList)
  | .pong bytes => some (10, bytes)
  | .close code reason => some (8, Bytes.ofNat 2 code ++ reason.toUTF8.toList)
  | .over => none

/-- The bytes of what a client gets to see; the end has none. -/
def Shown.bytes (s : Shown) : List UInt8 :=
  match s.parts? with
  | some (code, payload) => header code payload.length ++ payload
  | none => []

end Rendezvous.WebSocket
