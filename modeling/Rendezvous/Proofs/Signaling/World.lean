import Mathlib.Data.List.Induction
import Rendezvous.Signaling.Serving

/-!
# Runs of the relay

A `World` is the relay and the calls it serves. What happens to it is a list of
events: operations on the relay, frames taken by readers, the passing of time, and
steps of the calls, each of which reads the next thing on its stream or takes the
next step towards its end. The events come in any order, so whatever a stream
brings, and however the calls take turns, is a run.

A served stream moves by just these steps of its call (`step?_of_serving`), so a
run of the world leaves out nothing that serving a connection does.
-/

namespace Rendezvous.Signaling

/-- The relay and the calls it serves. -/
structure World where
  relay : Relay
  calls : List Call

namespace World

/-- What can happen to the relay and to its calls. The first eight are its operations on
rooms; then come connections and their readers, and time. A call begins when its
connection is served, under the next number; from then on it reads what its stream
brings, or the end of it, and once it reads no longer it takes the steps to its end. -/
inductive Event where
  | create (presenter : String)
  | remove (code : String)
  | evict (maxIdle : Nat)
  | claim (code user : String)
  | clear (code : String)
  | join (code : String) (role : Role) (id : ConnId)
  | leave (code : String) (role : Role) (id : ConnId)
  | send (code : String) (destination : Role) (e : Envelope)
  | connect (capacity : Nat)
  | take (id : ConnId) (count : Nat)
  | drop (id : ConnId)
  | wait (milliseconds : Nat)
  | serve (id : ConnId)
  | read (call : Nat) (next : Option Inbound)
  | finish (call : Nat)

/-- A relay without rooms, and no calls. -/
def start (limits : Limits) (candidates : Nat → String) : World := ⟨.empty limits candidates, []⟩

/-- The world after something was done to the relay. -/
def onRelay (w : World) (f : Relay → Relay) : World := { w with relay := f w.relay }

/-- The world after a step of one call. -/
def onCall (w : World) (i : Nat) (f : Call → Relay → Call × Relay) : World :=
  match w.calls[i]? with
  | some c => ⟨(f c w.relay).2, w.calls.set i (f c w.relay).1⟩
  | none => w

/-- What an event makes of a world. -/
def step (w : World) : Event → World
  | .create presenter => w.onRelay fun r => (r.create presenter).2
  | .remove code => w.onRelay fun r => (r.remove code).2
  | .evict maxIdle => w.onRelay fun r => (r.evict maxIdle).2
  | .claim code user => w.onRelay fun r => (r.claimViewer code user).2
  | .clear code => w.onRelay fun r => r.leaveViewer code
  | .join code role id => w.onRelay fun r => (r.join code role id).2
  | .leave code role id => w.onRelay fun r => r.leave code role id
  | .send code destination e => w.onRelay fun r => (r.send code destination e).2
  | .connect capacity => w.onRelay fun r => (r.connect capacity).2
  | .take id count => w.onRelay fun r => (r.take id count).2
  | .drop id => w.onRelay fun r => r.drop id
  | .wait milliseconds => w.onRelay fun r => { r with now := r.now + milliseconds }
  | .serve id => { w with calls := w.calls ++ [.start id] }
  | .read i next => w.onCall i fun c r => c.read r next
  | .finish i => w.onCall i Call.finish

/-- What a list of events makes of a world. -/
def run (w : World) (events : List Event) : World := events.foldl step w

@[simp] theorem run_nil (w : World) : w.run [] = w := rfl

theorem run_append (w : World) (before after : List Event) :
    w.run (before ++ after) = (w.run before).run after := List.foldl_append ..

theorem run_snoc (w : World) (events : List Event) (ev : Event) :
    w.run (events ++ [ev]) = (w.run events).step ev := run_append ..

theorem onCall_of_some {w : World} {i : Nat} {c : Call} (called : w.calls[i]? = some c)
    (f : Call → Relay → Call × Relay) :
    w.onCall i f = ⟨(f c w.relay).2, w.calls.set i (f c w.relay).1⟩ := by
  rw [onCall, called]

/-- What an event makes of one call: it leaves it alone, or is a step of it. -/
theorem call_of_step {w : World} {i : Nat} {c : Call} (called : w.calls[i]? = some c)
    (ev : Event) :
    ∃ c', (w.step ev).calls[i]? = some c' ∧
      (c' = c ∨ (∃ next, c' = (c.read w.relay next).1) ∨ c' = (c.finish w.relay).1) := by
  have inside : i < w.calls.length := (List.getElem?_eq_some_iff.mp called).1
  -- A step of call `j` changes the list of calls in place `j` only.
  have stepped : ∀ (j : Nat) (f : Call → Relay → Call × Relay),
      (w.onCall j f).calls[i]? = some (if j = i then (f c w.relay).1 else c) := by
    intro j f
    by_cases mine : j = i
    · subst mine
      rw [onCall_of_some called, if_pos rfl]
      exact List.getElem?_set_self inside
    · rw [if_neg mine]
      cases other : w.calls[j]? with
      | none => rw [onCall, other]; exact called
      | some d =>
        rw [onCall_of_some other]
        exact (List.getElem?_set_ne mine).trans called
  cases ev with
  | read j next =>
    refine ⟨_, stepped j _, ?_⟩
    split
    · exact Or.inr (Or.inl ⟨next, rfl⟩)
    · exact Or.inl rfl
  | finish j =>
    refine ⟨_, stepped j _, ?_⟩
    split
    · exact Or.inr (Or.inr rfl)
    · exact Or.inl rfl
  | serve id =>
    refine ⟨c, ?_, Or.inl rfl⟩
    show (w.calls ++ [Call.start id])[i]? = some c
    rw [List.getElem?_append_left inside]
    exact called
  | create | remove | evict | claim | clear | join | leave | send | connect | take | drop | wait =>
    exact ⟨c, called, Or.inl rfl⟩

end World

/-- A step of a served stream is one step of its call: it reads, or it comes closer to
its end. -/
theorem step?_of_serving {s s' : Serving} {r r' : Relay} (h : s.step? r = some (s', r')) :
    (∃ next, (s'.call, r') = s.call.read r next) ∨ (s'.call, r') = s.call.finish r := by
  unfold Serving.step? at h
  split at h
  next => cases h
  next =>
    split at h
    next =>
      split at h
      next _ x rest _ =>
        cases h
        exact Or.inl ⟨some x, rfl⟩
      next =>
        split at h
        next =>
          cases h
          exact Or.inl ⟨none, rfl⟩
        next => cases h
    next =>
      cases h
      exact Or.inr rfl

end Rendezvous.Signaling
