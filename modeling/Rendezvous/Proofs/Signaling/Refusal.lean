import Rendezvous.Proofs.Session.Cache
import Rendezvous.Proofs.Signaling.Fate

/-!
# Messages that fail

A message fails if no room has its code, or if the connection of its destination does not take
it. In the first case nothing happens. In the second the sender's caches have the message
already, for the relay remembers a message before it tries to deliver it. An offer or answer that
the cache of its kind admits is found there from then on, just as if it had been sent or queued.
This, with the time of the last activity, is all that is left of it (`refused_send`).
-/

namespace Rendezvous

/-- Why a channel takes nothing more: nobody reads it, or it is read and full. -/
def Channel.Refuses (c : Channel) : Refusal → Prop
  | .closed => c.listening = false
  | .backpressure => c.listening = true ∧ c.capacity ≤ c.queue.length

/-- The reason is what a push is told. -/
theorem Channel.refusal?_of_refuses {c : Channel} {refusal : Refusal} (h : c.Refuses refusal) :
    c.refusal? = some refusal := by
  unfold refusal?
  cases refusal with
  | closed =>
    have away : c.listening = false := h
    simp [away]
  | backpressure =>
    obtain ⟨listening, full⟩ := h
    simp [listening, full]

namespace Side

/-- To remember a message is to change the caches, and nothing else. -/
theorem remember_eq (side : Side) (limit : Nat) (e : Envelope) :
    side.remember limit e = { side with
      offers := (side.remember limit e).offers
      answers := (side.remember limit e).answers } := by
  unfold remember
  cases e.kind <;> rfl

/-- Two sides have the same caches. -/
structure SameCaches (side other : Side) : Prop where
  offers : other.offers = side.offers
  answers : other.answers = side.answers

/-- What becomes of the caches depends on the caches alone. -/
theorem SameCaches.remember {side other : Side} (h : side.SameCaches other) (limit : Nat)
    (e : Envelope) : (side.remember limit e).SameCaches (other.remember limit e) := by
  unfold Side.remember
  cases e.kind with
  | offer => exact ⟨by rw [h.offers], h.answers⟩
  | answer => exact ⟨h.offers, by rw [h.answers]⟩
  | candidate => exact h

end Side

namespace Session

/-- The session with other caches on one side, active at a given time. -/
def recalling (s : Session) (now : Instant) (sender : Role) (offers answers : TrackCache) :
    Session :=
  { s with
    lastActive := now
    sides := s.sides.modify sender fun side => { side with offers, answers } }

/-- To hear a message is to be active now, with the caches of its sender's side changed. -/
theorem heard_eq (s : Session) (now : Instant) (destination : Role) (e : Envelope) :
    s.heard now destination e =
      let sender := (s.side destination.peer).remember s.limits.tracks e
      s.recalling now destination.peer sender.offers sender.answers := by
  have heard : s.heard now destination e = { s with
      lastActive := now
      sides := s.sides.set destination.peer
        ((s.side destination.peer).remember s.limits.tracks e) } := rfl
  rw [heard, Side.remember_eq]
  rfl

/-- A refused message has been heard, and the refusal is counted. -/
theorem send_of_refusal {s : Session} {o : Outlet} {destination : Role} {id : ConnId}
    {refusal : Refusal} (live : (s.slot destination).connection = some id)
    (refused : (o.channel id).refusal? = some refusal) (e : Envelope) (now : Instant) :
    s.send o destination e now =
      (.error refusal, s.heard now destination e, { o with tally := o.tally.refused refusal }) := by
  rw [send_of_connection s o live, Outlet.deliver, Outlet.push_of_refusal refused]
  rfl

end Session

namespace Relay

open Signaling

variable {r : Relay} {code : String} {s : Session}

/-- After a message was sent to a live room, its sender has remembered it. -/
theorem exists_sender_send (live : r.find? code = some s) (destination : Role) (e : Envelope) :
    ∃ s', (r.send code destination e).2.find? code = some s' ∧
      s'.side destination.peer = (s.side destination.peer).remember s.limits.tracks e := by
  refine ⟨_, find?_send live destination e, ?_⟩
  rw [Session.side_relay, if_neg (Role.peer_ne destination).symm]

/-- **What a message that fails may change.** If no room has the code, nothing. If the connection
of the destination refuses the message, the sender is told for which of the two reasons. Of the
rooms only the one of the code is another, and in it only the time of the last activity and the
sender's caches are; no channel has changed. The sender has remembered the message: it is found
under its kind and track if the cache of that kind admits it, and whatever is of another kind or
track is found as before. These are the caches that it would have if the message had been sent or
queued, in whatever state of the relay it had the same caches. -/
theorem refused_send (limits : Limits) (candidates : Nat → String) (events : List World.Event)
    {r : Relay} (reached : r = ((World.start limits candidates).run events).relay)
    (code : String) (destination : Role) (e : Envelope) :
    (r.find? code = none → r.send code destination e = (.error (.roomNotFound code), r)) ∧
    ∀ s id refusal, r.find? code = some s → (s.slot destination).connection = some id →
      (r.channel id).Refuses refusal →
      let before := s.side destination.peer
      let sender := before.remember s.limits.tracks e
      (∃ ahead behind, r.rooms = ahead ++ s :: behind ∧
        r.send code destination e = (.error (.delivery refusal), { r with
          rooms := ahead ++
            s.recalling r.now destination.peer sender.offers sender.answers :: behind
          outlet := { r.outlet with tally := r.outlet.tally.refused refusal } })) ∧
      (∀ k track, sender.cached? k track =
        if e.isAbout k track = true then
          (if before.Admits s.limits.tracks e k then some e else none)
        else before.cached? k track) ∧
      ∀ (r' : Relay) (s' : Session) (delivery : Session.Delivery),
        r'.find? code = some s' → s'.limits = s.limits →
        before.SameCaches (s'.side destination.peer) →
        (r'.send code destination e).1 = .ok delivery →
        ∃ s'', (r'.send code destination e).2.find? code = some s'' ∧
          (s''.side destination.peer).offers = sender.offers ∧
          (s''.side destination.peer).answers = sender.answers := by
  refine ⟨fun gone => send_of_gone gone destination e, ?_⟩
  intro s id refusal live connected refuses before sender
  have keyed : Keyed r.rooms := by
    rw [reached]
    exact World.keyed_run limits candidates events
  obtain ⟨ahead, behind, rooms, others⟩ := exists_rooms_eq keyed live
  have named := code_of_find? live
  refine ⟨⟨ahead, behind, rooms, ?_⟩, Side.cached?_remember before s.limits.tracks e, ?_⟩
  · have refused : (r.outlet.channel id).refusal? = some refusal :=
      Channel.refusal?_of_refuses refuses
    have put := rooms_put rooms (named ▸ others)
      (show (s.heard r.now destination e).code = s.code from rfl)
    rw [send_of_live live, Session.send_of_refusal connected refused]
    show (_, { r with
      rooms := (r.put (s.heard r.now destination e)).rooms
      outlet := { r.outlet with tally := r.outlet.tally.refused refusal } }) = _
    rw [put, Session.heard_eq]
    rfl
  · -- What was sent instead was remembered too, by a side with the same caches.
    intro r' s' delivery live' sameLimits sameCaches _
    obtain ⟨s'', found, remembered⟩ := exists_sender_send live' destination e
    have same := sameCaches.remember s.limits.tracks e
    rw [← sameLimits] at same
    refine ⟨s'', found, ?_, ?_⟩
    · rw [remembered, same.offers, sameLimits]
    · rw [remembered, same.answers, sameLimits]

/-- A viewer that can hold one frame was sent an offer and has not read it. -/
def crammed : List World.Event :=
  [.create "host", .connect 1, .join "room" .viewer ⟨0⟩,
    .send "room" .viewer ⟨.offer, .null, "video"⟩]

/-- The next offer for the track is refused. It takes the place of the first one in the cache all
the same, as it does where the viewer has left and the offer waits. -/
theorem refused_send_crammed :
    let r := ((World.start ⟨4, 2⟩ fun _ => "room").run crammed).relay
    let away := ((World.start ⟨4, 2⟩ fun _ => "room").run
      (crammed ++ [.leave "room" .viewer ⟨0⟩])).relay
    let e : Envelope := ⟨.offer, .bool true, "video"⟩
    r.send "den" .viewer e = (.error (.roomNotFound "den"), r) ∧
    ∃ s s', r.find? "room" = some s ∧ (s.slot .viewer).connection = some ⟨0⟩ ∧
      (r.channel ⟨0⟩).Refuses .backpressure ∧
      (s.side .presenter).offers = ⟨[⟨.offer, .null, "video"⟩]⟩ ∧
      r.send "room" .viewer e = (.error (.delivery .backpressure), { r with
        rooms := [s.recalling r.now .presenter ⟨[e]⟩ .empty]
        outlet := { r.outlet with tally := r.outlet.tally.refused .backpressure } }) ∧
      ((s.side .presenter).remember s.limits.tracks e).cached? .offer "video" = some e ∧
      away.find? "room" = some s' ∧ (away.send "room" .viewer e).1 = .ok .buffered ∧
      ∃ s'', (away.send "room" .viewer e).2.find? "room" = some s'' ∧
        (s''.side .presenter).offers = ⟨[e]⟩ ∧ (s''.side .presenter).answers = .empty := by
  intro r away e
  obtain ⟨unknown, -⟩ := refused_send ⟨4, 2⟩ (fun _ => "room") crammed (show r = _ from rfl)
    "den" .viewer e
  obtain ⟨-, failed⟩ := refused_send ⟨4, 2⟩ (fun _ => "room") crammed (show r = _ from rfl)
    "room" .viewer e
  obtain ⟨s, live, connected⟩ :
      ∃ s, r.find? "room" = some s ∧ (s.slot .viewer).connection = some ⟨0⟩ := ⟨_, rfl, rfl⟩
  have full : (r.channel ⟨0⟩).Refuses .backpressure := ⟨rfl, by decide⟩
  obtain ⟨⟨ahead, behind, rooms, sent⟩, found, same⟩ := failed s ⟨0⟩ _ live connected full
  obtain ⟨rfl, rfl⟩ : ahead = [] ∧ behind = [] := by
    have one := congrArg List.length rooms
    have single : r.rooms.length = 1 := rfl
    rw [single, List.length_append, List.length_cons] at one
    rw [← List.length_eq_zero_iff, ← List.length_eq_zero_iff]
    omega
  have first : (s.side .presenter).offers = ⟨[⟨.offer, .null, "video"⟩]⟩ := by
    cases live
    rfl
  have known : (s.side .presenter).offers.admits s.limits.tracks e := by
    rw [first]
    exact Or.inl rfl
  -- The track is known, so the new offer comes where the first one was.
  have second : ((s.side .presenter).remember s.limits.tracks e).offers = ⟨[e]⟩ := by
    show (s.side .presenter).offers.remember s.limits.tracks e = _
    rw [TrackCache.remember_of_admits known, first]
    show (⟨TrackCache.place e [_]⟩ : TrackCache) = _
    rw [TrackCache.place, if_neg (String.lt_irrefl "video"), if_pos rfl]
  have unanswered : ((s.side .presenter).remember s.limits.tracks e).answers = .empty := by
    cases live
    rfl
  obtain ⟨s'', waiting, offers, answers⟩ := same away _ .buffered rfl (by cases live; rfl)
    (by cases live; exact ⟨rfl, rfl⟩) rfl
  rw [show Role.viewer.peer = .presenter from rfl] at sent found offers answers
  rw [second] at sent offers
  rw [unanswered] at sent answers
  refine ⟨unknown rfl, s, _, live, connected, full, first, sent, ?_, rfl, rfl, s'', waiting, offers,
    answers⟩
  rw [found, if_pos (show e.isAbout .offer "video" = true from by decide)]
  exact if_pos known

end Relay

end Rendezvous
