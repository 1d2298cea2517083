import Rendezvous.Envelope

/-!
# Faults

Everything that can go wrong on the way of a message, as causes. A fault is seen
from three sides: by the operator, who gets its full description; by the client
on a signaling connection, who gets a number and a message that gives nothing
away; and by the client of the room interface, who gets a status and a code. The
fields of a validation fault are the client's own, so the client gets them back.
-/

namespace Rendezvous

/-- Why a connection did not take a frame. -/
inductive Refusal where
  /-- Its writer has gone away. -/
  | closed
  /-- Its outbound buffer is full. -/
  | backpressure
  deriving DecidableEq, Repr

/-- The refusal in words. -/
def Refusal.message : Refusal → String
  | .closed => "connection closed"
  | .backpressure => "outbound buffer full"

/-- The refusal as a metric label. -/
def Refusal.label : Refusal → String
  | .closed => "closed"
  | .backpressure => "backpressure"

/-- Reasons by field name, names in rising order. -/
abbrev Fields := List (String × String)

/-- Sets the reason of a field. -/
def setField (name reason : String) : Fields → Fields
  | [] => [(name, reason)]
  | (k, v) :: rest =>
    if name < k then (name, reason) :: (k, v) :: rest
    else if name = k then (name, reason) :: rest
    else (k, v) :: setField name reason rest

/-- What went wrong. -/
inductive Fault where
  /-- A client message was malformed or has fields that are not valid. -/
  | validation (message : String) (fields : Fields)
  /-- No live room has the code. -/
  | roomNotFound (code : String)
  /-- A connection did not take a frame. -/
  | delivery (refusal : Refusal)
  /-- Reading from a connection failed. -/
  | transport (reason : String)
  /-- The request carries no identity. -/
  | unauthenticated (reason : String)
  /-- No unused code was found in so many draws. -/
  | codesExhausted (attempts : Nat)
  /-- Anything else. -/
  | internal (reason : String)
  deriving DecidableEq, Repr

namespace Fault

/-- The fault of a message with fields that are not valid. -/
def invalid (fields : Fields) : Fault := validation "One or more fields are invalid" fields

/-- The fault of a message that cannot be read at all. -/
def malformed (reason : String) : Fault := validation "Malformed message" [("payload", reason)]

/-- The full description. -/
def describe : Fault → String
  | validation message _ => "Validation failed: " ++ message
  | roomNotFound code => "Room not found: " ++ code
  | delivery refusal => "Delivery failed: " ++ refusal.message
  | transport reason => "Transport error: " ++ reason
  | unauthenticated reason => "Unauthenticated: " ++ reason
  | codesExhausted attempts =>
    "Room code space exhausted after " ++ toString attempts ++ " attempts"
  | internal reason => "Internal error: " ++ reason

/-- The number that stands for the fault on a signaling connection. -/
def code : Fault → Nat
  | validation .. => 1
  | unauthenticated _ => 2
  | roomNotFound _ => 4
  | delivery _ | transport _ | internal _ => 6
  | codesExhausted _ => 7

/-- What the client is told. -/
def clientMessage : Fault → String
  | validation message _ => message
  | unauthenticated _ => "Authentication required"
  | roomNotFound _ => "Room not found"
  | codesExhausted _ => "No room codes available, please try again"
  | delivery _ | transport _ | internal _ => "An internal error occurred"

/-- The reasons by field, which only a validation fault has. -/
def fields? : Fault → Option Fields
  | validation _ fields => some fields
  | _ => none

/-- The status of the answer to a request that ended with the fault. -/
def status : Fault → Nat
  | validation .. => 400
  | unauthenticated _ => 401
  | roomNotFound _ => 404
  | codesExhausted _ => 503
  | delivery _ | transport _ | internal _ => 500

/-- The code in the body of that answer. -/
def statusCode : Fault → String
  | validation .. => "VALIDATION_FAILED"
  | unauthenticated _ => "UNAUTHENTICATED"
  | roomNotFound _ => "NOT_FOUND"
  | codesExhausted _ => "CAPACITY_EXCEEDED"
  | delivery _ | transport _ | internal _ => "INTERNAL_ERROR"

end Fault

/-- Fields as a JSON object. -/
def fieldsValue (fields : Fields) : Json.Value :=
  .object (fields.map fun f => (f.1, .string f.2))

/-- The text of an error: a code, a message, and the fields if there are any. -/
def errorText (code : Json.Value) (message : String) (fields : Option Fields) : String :=
  let detail := [("code", code), ("message", Json.Value.string message)] ++
    (fields.map fun f => ("fields", fieldsValue f)).toList
  Json.recordText [("error", .object detail)]

/-- The body of the answer to a request that ended with the fault. -/
def Fault.body (f : Fault) : String :=
  errorText (.string f.statusCode) f.clientMessage f.fields?

/-- The fault of a text that could not be decoded. -/
def Fault.ofFlaw (flaw : Json.Flaw) : Fault := .malformed flaw.message

/-- Reads an envelope, or says why the sender's text is none. -/
def Envelope.ofText (s : String) : Except Fault Envelope :=
  (Envelope.decode s).mapError Fault.ofFlaw

end Rendezvous
