import Rendezvous.Proofs.Session.Delivery
import Rendezvous.Relay

/-!
# Rooms by code

The relay finds a room by its code and puts its next state in the place of the
former one. `find?_put` is all that is used of this: the room that was put is found
under its code, and every other room as it was before. So sending a message through
the relay is relaying it in one room, on the connections of all (`send_of_live`).
-/

namespace Rendezvous

namespace Session

/-- The channels after a message was relayed: the one of its destination was offered it. -/
theorem channel_send (s : Session) (o : Outlet) (destination : Role) (e : Envelope) (now : Instant)
    (id : ConnId) :
    (s.send o destination e now).2.2.channel id =
      if (s.slot destination).connection = some id then (o.channel id).offer (.envelope e)
      else o.channel id :=
  channel_relay ⟨s, o, now⟩ destination e id

/-- A session is its code, its clock, its limits and its two sides. -/
theorem eq_of_sides {s t : Session} (code : s.code = t.code)
    (active : s.lastActive = t.lastActive) (limits : s.limits = t.limits)
    (sides : ∀ r, s.side r = t.side r) : s = t := by
  obtain ⟨code, lastActive, both, limits⟩ := s
  obtain ⟨code', lastActive', both', limits'⟩ := t
  obtain rfl : both = both' := ByRole.ext_get sides
  subst code active limits
  rfl

end Session

namespace Relay

/-- A session that is put back is found under its code, if there was one. -/
theorem find?_put (r : Relay) (s : Session) (code : String) :
    (r.put s).find? code =
      if s.code = code then (r.find? code).map fun _ => s else r.find? code := by
  unfold put find?
  show (r.rooms.map fun old => if old.code == s.code then s else old).find? (·.code == code) = _
  induction r.rooms with
  | nil => rw [List.map_nil, List.find?_nil]; split <;> rfl
  | cons old rest ih =>
    rw [List.map_cons, List.find?_cons, List.find?_cons, ih]
    -- A room with the code of `s` is replaced wherever it stands, so the search stops at
    -- the same place as before.
    by_cases replaced : old.code = s.code
    · rw [if_pos (beq_iff_eq.mpr replaced), replaced]
      by_cases mine : s.code = code
      · rw [beq_iff_eq.mpr mine]
        simp only [if_pos mine]
        rfl
      · rw [beq_false_of_ne mine]
    · rw [if_neg fun same => replaced (beq_iff_eq.mp same)]
      by_cases mine : old.code = code
      · have others : s.code ≠ code := fun same => replaced (mine.trans same.symm)
        rw [beq_iff_eq.mpr mine]
        simp only [if_neg others]
      · rw [beq_false_of_ne mine]

/-- What is found under a code has this code. -/
theorem code_of_find? {r : Relay} {code : String} {s : Session} (h : r.find? code = some s) :
    s.code = code := by
  have found : r.rooms.find? (·.code == code) = some s := h
  have matched := List.find?_some found
  exact beq_iff_eq.mp matched

/-- A message to a live room is sent by its session. -/
theorem send_of_live {r : Relay} {code : String} {s : Session} (live : r.find? code = some s)
    (destination : Role) (e : Envelope) :
    r.send code destination e =
      ((s.send r.outlet destination e r.now).1.mapError .delivery,
        { r.put (s.send r.outlet destination e r.now).2.1 with
          outlet := (s.send r.outlet destination e r.now).2.2 }) := by
  rw [send, live]

/-- A message to no room fails, and nothing happens. -/
theorem send_of_gone {r : Relay} {code : String} (gone : r.find? code = none)
    (destination : Role) (e : Envelope) :
    r.send code destination e = (.error (.roomNotFound code), r) := by
  rw [send, gone]

/-- After a message was sent, its room is found as the message left it. -/
theorem find?_send {r : Relay} {code : String} {s : Session} (live : r.find? code = some s)
    (destination : Role) (e : Envelope) :
    (r.send code destination e).2.find? code = some (s.relay destination e r.now).1 := by
  rw [send_of_live live]
  show (r.put _).find? code = _
  have named : (s.send r.outlet destination e r.now).2.1.code = code := by
    rw [Session.send_session, (Session.relay_spec ..).1]
    exact code_of_find? live
  rw [find?_put, if_pos named, live, Session.send_session]
  rfl

theorem channel_send {r : Relay} {code : String} {s : Session} (live : r.find? code = some s)
    (destination : Role) (e : Envelope) (id : ConnId) :
    (r.send code destination e).2.channel id =
      if (s.slot destination).connection = some id then (r.channel id).offer (.envelope e)
      else r.channel id := by
  rw [send_of_live live]
  exact Session.channel_send ..

end Relay

end Rendezvous
