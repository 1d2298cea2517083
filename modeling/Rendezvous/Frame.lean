import Rendezvous.Fault

/-!
# Outbound frames

What the relay queues for a connection: an envelope, the description of a fault,
or the request to close. The first two are messages and have a text. A request to
close is not one, and has none.
-/

namespace Rendezvous

/-- What a client is told of a fault. -/
structure ErrorReport where
  code : Nat
  message : String
  fields : Option Fields
  deriving DecidableEq, Repr

/-- The part of a fault that a client may see. -/
def Fault.report (f : Fault) : ErrorReport := ⟨f.code, f.clientMessage, f.fields?⟩

/-- The wire text of a report. -/
def ErrorReport.wireText (r : ErrorReport) : String :=
  errorText (Json.natural r.code) r.message r.fields

/-- A frame queued for a connection. -/
inductive Frame where
  | envelope (e : Envelope)
  | error (report : ErrorReport)
  | close (reason : String)

/-- The text of a frame that is a message. -/
def Frame.wireText? : Frame → Option String
  | .envelope e => some e.wireText
  | .error report => some report.wireText
  | .close _ => none

end Rendezvous
