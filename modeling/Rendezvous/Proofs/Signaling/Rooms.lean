import Rendezvous.Proofs.Relay
import Rendezvous.Proofs.Session.Cache
import Rendezvous.Proofs.Signaling.World

/-!
# What holds of every room

Whatever the relay or a call does to a room is one of the events of a session. So a
property of single sessions that a new room has and that each of these events keeps,
on any connections and at any time, holds of all live rooms after every run of the
world (`rooms_run`). Nothing has to be said again about codes, calls or sweeps.
-/

namespace Rendezvous

/-- A property that a new session has and that every event keeps. -/
structure Session.Lasting (limits : Limits) (P : Session → Prop) : Prop where
  begins : ∀ code presenter now, P (.start code presenter limits now)
  keeps : ∀ (st : Session.Stage) ev, P st.session → P (st.step ev).session

namespace Relay

/-- All rooms have a property, and new ones are made within the limits. -/
structure Holds (limits : Limits) (P : Session → Prop) (r : Relay) : Prop where
  limits : r.limits = limits
  rooms : ∀ s ∈ r.rooms, P s

section
variable {limits : Limits} {P : Session → Prop} {r : Relay}

theorem of_find? (h : r.Holds limits P) {code : String} {s : Session}
    (live : r.find? code = some s) : P s :=
  h.rooms s (List.mem_of_find?_eq_some live)

theorem holds_put (h : r.Holds limits P) {s : Session} (kept : P s) : (r.put s).Holds limits P := by
  refine ⟨h.limits, fun x mem => ?_⟩
  obtain ⟨old, isRoom, rfl⟩ := List.mem_map.mp mem
  split
  · exact kept
  · exact h.rooms old isRoom

theorem holds_change (h : r.Holds limits P) (code : String) {f : Session → Session}
    (keeps : ∀ s, P s → P (f s)) : (r.change code f).2.Holds limits P := by
  unfold change
  cases live : r.find? code with
  | none => exact h
  | some s => exact holds_put h (keeps s (of_find? h live))

theorem holds_without (h : r.Holds limits P) {rooms : List Session} (sub : rooms ⊆ r.rooms)
    (outlet : Outlet) : Holds limits P { r with rooms, outlet } :=
  ⟨h.limits, fun s mem => h.rooms s (sub mem)⟩

/-- It holds after the making of a room, for it holds of a new session. -/
theorem holds_create (lasting : Session.Lasting limits P) (h : r.Holds limits P)
    (presenter : String) : (r.create presenter).2.Holds limits P := by
  unfold create
  split
  next => exact ⟨h.limits, h.rooms⟩
  next =>
    refine ⟨h.limits, fun s mem => ?_⟩
    rcases List.mem_append.mp mem with old | new
    · exact h.rooms s old
    · rw [List.mem_singleton.mp new, h.limits]
      exact lasting.begins ..

theorem holds_remove (h : r.Holds limits P) (code : String) : (r.remove code).2.Holds limits P := by
  unfold remove
  split
  · exact h
  · exact holds_without h (fun _ mem => (List.mem_filter.mp mem).1) _

theorem holds_evict (h : r.Holds limits P) (maxIdle : Nat) :
    (r.evict maxIdle).2.Holds limits P :=
  holds_without h (fun _ mem => (List.mem_filter.mp mem).1) _

/-- A connection that joins is an event of the room's session. -/
theorem holds_join (lasting : Session.Lasting limits P) (h : r.Holds limits P) (code : String)
    (role : Role) (id : ConnId) : (r.join code role id).2.Holds limits P := by
  unfold join
  cases live : r.find? code with
  | none => exact h
  | some s =>
    have kept : P (s.join r.outlet role id r.now).2.1 :=
      lasting.keeps ⟨s, r.outlet, r.now⟩ (.attach role id) (of_find? h live)
    have put := holds_put h kept
    exact ⟨put.limits, put.rooms⟩

/-- So is a message that is sent. -/
theorem holds_send (lasting : Session.Lasting limits P) (h : r.Holds limits P) (code : String)
    (destination : Role) (e : Envelope) : (r.send code destination e).2.Holds limits P := by
  cases live : r.find? code with
  | none =>
    rw [send_of_gone live]
    exact h
  | some s =>
    have kept : P (s.send r.outlet destination e r.now).2.1 :=
      lasting.keeps ⟨s, r.outlet, r.now⟩ (.relay destination e) (of_find? h live)
    have put := holds_put h kept
    rw [send_of_live live]
    exact ⟨put.limits, put.rooms⟩

/-- What does not touch the rooms keeps what holds of them. -/
theorem holds_outlet (h : r.Holds limits P) (outlet : Outlet) :
    Holds limits P { r with outlet } := ⟨h.limits, h.rooms⟩

end

end Relay

namespace Signaling

/-- What every step of a call keeps, the steps of a call in a world keep. -/
theorem World.holds_onCall {limits : Limits} {P : Session → Prop} {w : World}
    (h : w.relay.Holds limits P) (i : Nat) {f : Call → Relay → Call × Relay}
    (keeps : ∀ c, (f c w.relay).2.Holds limits P) :
    (w.onCall i f).relay.Holds limits P := by
  cases called : w.calls[i]? with
  | none =>
    rw [onCall, called]
    exact h
  | some c =>
    rw [onCall_of_some called]
    exact keeps c

section
variable {limits : Limits} {P : Session → Prop} (lasting : Session.Lasting limits P)
include lasting

theorem Call.holds_leave {r : Relay} (h : r.Holds limits P) (code : String) (role : Role)
    (id : ConnId) : (r.leave code role id).Holds limits P :=
  Relay.holds_change h code fun s => lasting.keeps ⟨s, r.outlet, r.now⟩ (.detach role id)

/-- A call keeps it when it joins. -/
theorem Call.holds_subscribe {r : Relay} (h : r.Holds limits P) (c : Call) (s : Subscription) :
    (c.subscribe r s).2.Holds limits P := by
  have joined := Relay.holds_join lasting h s.code s.role c.connection
  unfold subscribe
  split
  next refused =>
    rw [refused] at joined
    exact Relay.holds_outlet joined _
  next taken =>
    rw [taken] at joined
    exact Relay.holds_outlet joined _

/-- And when it forwards a message. -/
theorem Call.holds_forward {r : Relay} (h : r.Holds limits P) (c : Call) (code : String)
    (role : Role) (e : Envelope) : (c.forward r code role e).2.Holds limits P := by
  have sent := Relay.holds_send lasting h code role.peer e
  unfold forward
  split
  next gone =>
    rw [gone] at sent
    exact Relay.holds_outlet sent _
  next relayed =>
    rw [relayed] at sent
    exact sent

/-- A call reads, and every room keeps what holds of all rooms. -/
theorem Call.holds_read {r : Relay} (h : r.Holds limits P) (c : Call) (next : Option Inbound) :
    (c.read r next).2.Holds limits P := by
  unfold read
  cases c.phase with
  | awaiting =>
    show (c.readFirst r next).2.Holds limits P
    unfold readFirst
    split
    next =>
      split
      next => exact holds_subscribe lasting h c _
      next => exact Relay.holds_outlet h _
    next => exact h
    next => exact h
  | relaying code role =>
    show (c.readNext r code role next).2.Holds limits P
    unfold readNext
    split
    next =>
      split
      next => exact holds_forward lasting h c code role _
      next => exact Relay.holds_outlet h _
    next => exact Relay.holds_outlet h _
    next => exact Relay.holds_outlet h _
  | leaving code role | closing | done => exact h

theorem Call.holds_finish {r : Relay} (h : r.Holds limits P) (c : Call) :
    (c.finish r).2.Holds limits P := by
  unfold finish
  cases c.phase with
  | leaving code role => exact holds_leave lasting h code role c.connection
  | closing => exact Relay.holds_outlet h _
  | awaiting | relaying code role | done => exact h

namespace World

/-- One event keeps what holds of all rooms. -/
theorem holds_step {w : World} (h : w.relay.Holds limits P) (ev : Event) :
    (w.step ev).relay.Holds limits P := by
  cases ev with
  | create presenter => exact Relay.holds_create lasting h presenter
  | remove code => exact Relay.holds_remove h code
  | evict maxIdle => exact Relay.holds_evict h maxIdle
  | claim code user =>
    exact Relay.holds_change h code fun s =>
      lasting.keeps ⟨s, w.relay.outlet, w.relay.now⟩ (.claim user)
  | clear code =>
    exact Relay.holds_change h code fun s =>
      lasting.keeps ⟨s, w.relay.outlet, w.relay.now⟩ .clear
  | join code role id => exact Relay.holds_join lasting h code role id
  | leave code role id => exact Call.holds_leave lasting h code role id
  | send code destination e => exact Relay.holds_send lasting h code destination e
  | connect capacity => exact Relay.holds_outlet h _
  | take id count => exact Relay.holds_outlet h _
  | drop id => exact Relay.holds_outlet h _
  | wait milliseconds => exact ⟨h.limits, h.rooms⟩
  | serve id => exact h
  | read i next => exact holds_onCall h i fun c => Call.holds_read lasting h c next
  | finish i => exact holds_onCall h i fun c => Call.holds_finish lasting h c

/-- **What lasts in one room holds of all rooms**, after every run. -/
theorem rooms_run (candidates : Nat → String) (events : List Event) :
    ((start limits candidates).run events).relay.Holds limits P := by
  induction events using List.reverseRecOn with
  | nil => exact ⟨rfl, fun s mem => absurd mem List.not_mem_nil⟩
  | append_singleton events ev ih =>
    rw [run_snoc]
    exact holds_step lasting ih ev

end World

end

end Signaling

/-- The caches of both sides are sound. -/
def Session.CachesSound (s : Session) : Prop := ∀ role, (s.side role).CachesSound

/-- Caches are sound in every run of a relay. -/
theorem Session.lasting_cachesSound (limits : Limits) :
    Session.Lasting limits Session.CachesSound where
  begins := by
    intro code presenter now role
    cases role <;> exact ⟨TrackCache.sound_empty _, TrackCache.sound_empty _⟩
  keeps := by
    intro st ev sound role
    rw [side_step]
    exact Side.cachesSound_step (sound role) _ role ev

end Rendezvous
