import Rendezvous.Http.Message
import Rendezvous.Signaling.Serving

/-!
# Messages of a WebSocket

What passes between a client and the relay. Text and binary messages carry what
the client says; the choice between them makes no difference as long as the bytes
are UTF-8. The other kinds keep the connection itself in order and say nothing.
-/

namespace Rendezvous.WebSocket

open Signaling (Inbound)

/-- A message from a client. -/
inductive Message where
  | text (s : String)
  | binary (bytes : List UInt8)
  | ping (bytes : List UInt8)
  | pong (bytes : List UInt8)
  | close (frame : Option (Nat × String))

/-- What the relay reads from a message, if it says anything. -/
def Message.inbound? : Message → Option Inbound
  | .text s => some (.text s)
  | .binary bytes =>
    match Http.utf8Text? bytes with
    | some s => some (.text s)
    | none => some (.failure (.malformed "binary frame is not valid UTF-8"))
  | .ping _ | .pong _ | .close _ => none

/-- What a client gets to see. -/
inductive Shown where
  | text (s : String)
  | pong (bytes : List UInt8)
  | close (code : Nat) (reason : String)
  /-- The connection is over. -/
  | over
  deriving DecidableEq, Repr

/-- The code of a close in good order. -/
def normalClose : Nat := 1000

/-- The bytes in front of a payload of some length. -/
def headerSize (length : Nat) : Nat := if length < 126 then 2 else if length < 65536 then 4 else 10

/-- The bytes of the payload. -/
def Shown.payloadSize : Shown → Nat
  | .text s => s.utf8ByteSize
  | .pong bytes => bytes.length
  | .close _ reason => 2 + reason.utf8ByteSize
  | .over => 0

/-- The bytes that a thing takes on the wire. -/
def Shown.wireSize (s : Shown) : Nat := headerSize s.payloadSize + s.payloadSize

end Rendezvous.WebSocket
