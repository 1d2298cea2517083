import Rendezvous.Proofs.Signaling.Operation

/-!
# Activity of rooms

A room keeps one time only, that of its last activity, and a sweep judges it by nothing
else. So whatever is to be said of sweeps needs to know which operations are activity of
which room. `Relay.stirs` lists them, without a look at how the time is kept, and
`active_operate` is the one fact that ties the list to the state: an operation that stirs a
room sets its time to the present, and any other leaves the time alone.
-/

namespace Rendezvous

namespace Session

/-- The event is activity of the session. For a connection that leaves it must still hold
its slot; a message counts whatever becomes of it. -/
def stirredBy (s : Session) : Event → Bool
  | .relay .. | .attach .. | .claim _ | .clear => true
  | .detach role id => s.holds role id
  | .close _ | .connect _ | .take .. | .drop _ | .wait _ => false

/-- An event that stirs a session dates it anew, and no other one does. -/
theorem lastActive_step (st : Stage) (ev : Event) :
    (st.step ev).session.lastActive =
      if st.session.stirredBy ev then st.now else st.session.lastActive := by
  cases ev with
  | relay destination e =>
    show (st.session.send ..).2.1.lastActive = st.now
    rw [send_session]
    exact (relay_spec ..).2.2
  | detach role id =>
    show (st.session.detach role id st.now).lastActive = if st.session.holds role id then _ else _
    unfold detach
    split
    · cases role <;> rfl
    · rfl
  | _ => rfl

end Session

namespace Relay

/-- The operation is activity of the room of a code. It makes the room; or, with the room
there, it lets a connection in, claims or clears the viewer's slot, or sends a message,
delivered or not; or it takes out a connection that still holds its slot. -/
def stirs (r : Relay) (code : String) : Operation → Bool
  | .create presenter => (Answer.made (r.create presenter).1).makes code
  | .join named .. | .claim named _ | .clear named | .send named .. =>
    named == code && r.isLive code
  | .leave named role id => named == code && (r.find? code).any (·.holds role id)
  | .remove _ | .evict _ | .check _ | .look _ | .count | .find _ | .take .. | .drop _ | .wait _ =>
    false

/-- Where an operation leaves the time of a room that is there afterwards: it is the present
if the operation stirred the room, and that of the room before if it did not. -/
def TimeKept (r : Relay) (code : String) (stirred : Bool) (s' : Session) : Prop :=
  if stirred then s'.lastActive = r.now
  else ∃ s, r.find? code = some s ∧ s'.lastActive = s.lastActive

variable {r : Relay} {code : String} {s' : Session}

theorem timeKept_of_same (found : r.find? code = some s') : r.TimeKept code false s' :=
  ⟨s', found, rfl⟩

/-- A room that was not taken away is the one from before. -/
theorem timeKept_of_filter {chosen : Session → Bool}
    (found : (r.find? code).filter chosen = some s') : r.TimeKept code false s' :=
  timeKept_of_same (Option.eq_some_of_filter_eq_some found)

/-- An event within a room sets the time of that room, if it counts, and of no other. -/
theorem active_within {named : String} {ev : Session.Event}
    (found : (r.perform (.within named ev)).find? code = some s') :
    r.TimeKept code (named == code && (r.find? code).any (·.stirredBy ev)) s' := by
  rw [find?_within] at found
  by_cases here : named = code
  · subst here
    rw [if_pos rfl] at found
    obtain ⟨s, live, rfl⟩ := Option.map_eq_some_iff.mp found
    have kept := Session.lastActive_step ⟨s, r.outlet, r.now⟩ ev
    rw [beq_self_eq_true, Bool.true_and, live, Option.any_some, TimeKept]
    split
    next stirred => exact kept.trans (if_pos stirred)
    next calm => exact ⟨s, live, kept.trans (if_neg calm)⟩
  · rw [if_neg here] at found
    rw [beq_false_of_ne here, Bool.false_and]
    exact timeKept_of_same found

/-- A room that is made has its time from then. -/
theorem active_create {presenter : String}
    (found : (r.create presenter).2.find? code = some s') :
    r.TimeKept code ((Answer.made (r.create presenter).1).makes code) s' := by
  rcases r.create_cases presenter with ⟨fault, failed, rooms⟩ | ⟨drawn, made, -, absent, rooms⟩
  · rw [find?, rooms] at found
    rw [failed]
    exact timeKept_of_same found
  · rw [made]
    show r.TimeKept code (drawn == code) s'
    by_cases new : drawn = code
    · subst new
      rw [find?_snoc_self rooms absent rfl] at found
      obtain rfl := Option.some.inj found
      rw [beq_self_eq_true]
      exact rfl
    · rw [find?_snoc_ne rooms new] at found
      rw [beq_false_of_ne new]
      exact timeKept_of_same found

/-- **An operation sets the time of the rooms that it stirs**, and of no others. -/
theorem active_operate (keyed : Keyed r.rooms) (op : Operation)
    (found : (r.operate op).2.find? code = some s') : r.TimeKept code (r.stirs code op) s' := by
  -- For what counts in any case, "the room is there" and "it is stirred" are the same.
  have always : ∀ {ev : Session.Event}, (∀ s : Session, s.stirredBy ev = true) →
      (r.find? code).any (·.stirredBy ev) = r.isLive code := by
    intro ev counts
    rw [isLive]
    cases r.find? code with
    | none => rfl
    | some s => exact counts s
  rw [operate_deed] at found
  cases op with
  | create presenter => exact active_create found
  | remove removed =>
    rw [Operation.deed, perform, find?_remove keyed] at found
    exact timeKept_of_filter found
  | evict maxIdle =>
    rw [Operation.deed, perform, find?_evict keyed] at found
    exact timeKept_of_filter found
  | claim named | clear named | join named | send named =>
    have kept := active_within found
    rw [always fun _ => rfl] at kept
    exact kept
  | leave named role id => exact active_within found
  | check | look | count | find | take | drop | wait => exact timeKept_of_same found

end Relay

end Rendezvous
