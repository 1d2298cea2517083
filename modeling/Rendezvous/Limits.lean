import Rendezvous.Decimal.Word

/-!
# Limits of a session

How much a room may hold for its peers: so many pending messages for one that is
away, and so many tracks of cached offers and of cached answers. Together they
bound the backlog that a connection is handed when it joins.
-/

namespace Rendezvous

/-- The bounds that apply to every session. -/
structure Limits where
  /-- How many messages may wait for one peer. -/
  pending : Nat
  /-- How many tracks each cache may hold. -/
  tracks : Nat
  deriving DecidableEq, Repr

namespace Limits

/-- The bounds where none are configured. -/
def default : Limits := ⟨512, 16⟩

/-- The least buffer that takes a full backlog: a full queue, a full cache of
offers and a full cache of answers. Words do not grow past the largest word. -/
def requiredBuffer (l : Limits) : Nat :=
  Decimal.addSaturating l.pending (Decimal.mulSaturating l.tracks 2)

end Limits

end Rendezvous
