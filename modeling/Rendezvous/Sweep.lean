import Rendezvous.Relay
import Rendezvous.Settings

/-!
# Sweeps for idle rooms

A timer fires once every interval, the first time one interval after it was
started, and each time every room that has been idle for too long is removed. The
due times lie on one grid. A timer that finds itself late fires once, however many
due times it has missed, and is next due at the first one still to come.
-/

namespace Rendezvous

/-- Milliseconds in a second. -/
def second : Nat := 1000

/-- A running sweep timer; times are in milliseconds. -/
structure Sweep where
  interval : Nat
  maxIdle : Nat
  /-- When it fires next. -/
  due : Instant
  deriving DecidableEq, Repr

namespace Sweep

/-- The last second that a clock can show. -/
def lastSecond : Nat := 0x7FFFFFFFFFFFFFFF

/-- Starts the timer. There is none if it would first fire later than a clock can
show. -/
def start? (s : SweepSettings) (now : Instant) : Option Sweep :=
  if lastSecond < now / second + s.interval then none
  else some ⟨s.interval * second, s.maxIdle * second, now + s.interval * second⟩

/-- The first due time after `now`. -/
def nextDue (s : Sweep) (now : Instant) : Instant :=
  s.due + s.interval * ((now - s.due) / s.interval + 1)

/-- Fires if it is due. -/
def poll (s : Sweep) (r : Relay) : Sweep × Relay :=
  if s.due ≤ r.now then ({ s with due := s.nextDue r.now }, (r.evict s.maxIdle).2) else (s, r)

end Sweep

end Rendezvous
