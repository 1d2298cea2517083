import Rendezvous.Fault
import Rendezvous.Text.Blank

/-!
# Subscriptions

The first message on every signaling connection names a room and a role. Members
that are missing count as empty, so that a client which forgot one is told which
one, field by field, and not merely that its message is no good.
-/

namespace Rendezvous

/-- A connection's choice of a room and a side. -/
structure Subscription where
  code : String
  role : Role
  deriving DecidableEq, Repr

namespace Subscription

/-- A subscription as it was asked for. -/
structure Request where
  code : String := ""
  role : String := ""
  deriving DecidableEq, Repr

/-- The reasons to refuse a request: a blank code, and a name that is no role. -/
def Request.problems (r : Request) : Fields :=
  (if (Role.ofName? r.role).isNone then [("role", "must be one of: presenter, viewer")] else []) ++
  (if Text.isBlankText r.code then [("roomCode", "must be provided")] else [])

/-- The subscription, or the reasons to refuse it. -/
def Request.validate (r : Request) : Except Fault Subscription :=
  match Role.ofName? r.role, r.problems with
  | some role, [] => .ok ⟨r.code, role⟩
  | _, problems => .error (.invalid problems)

/-- A request of which some members have been read. -/
structure Draft where
  code : Option String := none
  role : Option String := none

/-- The members of a request. -/
def members : List (Json.Member Draft) :=
  [{ name := "roomCode"
     isSet := fun d => d.code.isSome
     read := fun d c => do
      let (x, c) ← Json.wantString c
      return ({ d with code := some x }, c) },
   { name := "role"
     isSet := fun d => d.role.isSome
     read := fun d c => do
      let (x, c) ← Json.wantString c
      return ({ d with role := some x }, c) }]

/-- How a request is written in JSON. -/
def shape : Json.Shape Draft Request :=
  ⟨"SubscribeMessage", members, {}, fun d => .ok ⟨d.code.getD "", d.role.getD ""⟩⟩

/-- Reads a subscription, or says what is wrong with the message. -/
def ofText (s : String) : Except Fault Subscription := do
  let request ← (Json.decode shape.read s).mapError Fault.ofFlaw
  request.validate

end Subscription

end Rendezvous
