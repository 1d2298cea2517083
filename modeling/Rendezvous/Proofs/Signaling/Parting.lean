import Rendezvous.Proofs.Signaling.Outbound

/-!
# What a connection is told when it is put out of its slot

Three deeds take connections out of their slots and ask them to close: a newer connection
is attached, a room is removed, and a sweep finds rooms idle. Each of them offers just one
frame to a connection that it puts out, the close with its own reason (`offers_of_loss`).

The room forgets the connection with the same deed, and pushing never waits. So the one
offer decides: the client is told if its channel takes a frame then (`informed_offer_iff`),
and a channel that is full at that moment stays as it was.
-/

namespace Rendezvous

/-! ## Channels that know -/

namespace Channel

variable {c : Channel} {reason : String}

/-- Nobody reads the channel any more, or the last frame that waits is a close for this
reason. -/
def Informed (c : Channel) (reason : String) : Prop :=
  c.listening = false ∨ c.queue.getLast? = some (.close reason)

theorem offer_of_refusal {refusal : Refusal} (refused : c.refusal? = some refusal) (f : Frame) :
    c.offer f = c := by
  rw [offer, push_of_refusal refused]
  rfl

/-- A channel that has carried nothing but messages knows after one close, unless it was
full. -/
theorem informed_offer_iff (sound : c.Sound) (plain : Plain c.accepted) :
    (c.offer (.close reason)).Informed reason ↔ c.refusal? ≠ some .backpressure := by
  cases refused : c.refusal? with
  | none =>
    have isRoom : 0 < c.free := (refusal?_eq_none_iff c).mp refused
    have queued : (c.offer (.close reason)).queue = c.queue ++ [.close reason] := by
      rw [offer_of_free isRoom]
      exact List.drop_append_of_le_length sound
    have told : (c.offer (.close reason)).Informed reason := by
      apply Or.inr
      rw [queued, List.getLast?_append, List.getLast?_singleton]
      rfl
    simp [told]
  | some refusal =>
    rw [offer_of_refusal refused]
    unfold refusal? at refused
    cases refusal with
    | closed =>
      have gone : c.listening = false := by
        cases reads : c.listening with
        | false => rfl
        | true =>
          simp [reads] at refused
      exact iff_of_true (Or.inl gone) (by simp)
    | backpressure =>
      refine iff_of_false ?_ fun h => h rfl
      rintro (gone | told)
      · simp [gone] at refused
      · -- What waits is part of what was accepted, and that is messages only.
        obtain ⟨es, messages⟩ := plain
        have waits : Frame.close reason ∈ c.queue := List.mem_of_getLast? told
        have accepted := List.mem_of_mem_drop waits
        rw [messages] at accepted
        obtain ⟨e, -, isClose⟩ := List.mem_map.mp accepted
        cases isClose

end Channel

/-! ## Deeds that part -/

/-- The reason that a deed gives to the connections that it takes out of their slots. -/
def Deed.parting? : Deed → Option String
  | .remove _ => some Relay.endedReason
  | .evict _ => some Relay.expiredReason
  | .within _ (.attach ..) => some Session.replacedReason
  | _ => none

/-- A deed that parts a connection from its slot happens inside the relay. -/
theorem Deed.inside_of_parting {d : Deed} {reason : String} (parts : d.parting? = some reason) :
    d.isOutside = false := by
  cases d with
  | within code ev => cases ev <;> first | rfl | cases parts
  | remove | evict => rfl
  | nothing | create | tell | connect | take | drop | wait => cases parts

namespace Relay

variable {r : Relay} {d : Deed} {id other : ConnId} {code code' : String} {role role' : Role}

/-- To be put out of a slot by a connection that is attached, it must be attached there. -/
theorem attach_of_lost (seated : r.Seated id code role)
    (lost : ¬ (r.perform (.within code' (.attach role' other))).Seated id code role) :
    code' = code ∧ role' = role ∧ other ≠ id := by
  obtain ⟨s, live, held⟩ := seated
  by_cases here : code' = code
  · subst here
    rw [seated_within] at lost
    by_cases mine : role' = role
    · subst mine
      refine ⟨rfl, rfl, ?_⟩
      rintro rfl
      exact lost ⟨s, live, by rw [Side.connectionAfter, if_pos rfl]⟩
    · refine absurd ⟨s, live, ?_⟩ lost
      rw [Side.connectionAfter, if_neg mine]
      exact held
  · refine absurd ⟨s, ?_, held⟩ lost
    rw [find?_within, if_neg here]
    exact live

/-- **Whoever is put out of its slot is asked to close, once, and for the reason of the
deed.** -/
theorem offers_of_loss (settled : r.Settled) {reason : String} (parts : d.parting? = some reason)
    (seated : r.Seated id code role) (lost : ¬ (r.perform d).Seated id code role) :
    d.offers r id = [.close reason] := by
  obtain ⟨s, live, held⟩ := seated
  have isRoom : s ∈ r.rooms := List.mem_of_find?_eq_some live
  -- Something has become of the room: it has ended, or the attachment has happened in it.
  cases fate_perform settled.keyed d code with
  | untouched same => exact absurd ⟨s, same.trans live, held⟩ lost
  | begins isDeed absent made =>
    rw [live] at absent
    cases absent
  | @ends x isDeed live' gone =>
    obtain rfl : s = x := Option.some.inj (live.symm.trans live')
    rcases isDeed with rfl | ⟨maxIdle, rfl, idle⟩
    · cases parts
      have once := settled.count_eq_one (List.singleton_sublist.mpr isRoom)
        (List.mem_singleton_self s) held
      rw [List.flatMap_singleton] at once
      rw [Deed.offers, live]
      show List.replicate (s.connections.count id) _ = _
      rw [once]
      rfl
    · cases parts
      have once := settled.count_eq_one (List.filter_sublist (p := r.isIdle maxIdle))
        (List.mem_filter.mpr ⟨isRoom, idle⟩) held
      rw [Deed.offers, once]
      rfl
  | @moves x ev isDeed live' moved =>
    subst isDeed
    cases ev with
    | attach role' newer =>
      cases parts
      obtain ⟨-, rfl, differ⟩ := attach_of_lost ⟨s, live, held⟩ lost
      rw [Deed.offers, live]
      show (if id = newer then _ else _) ++ (if (s.slot _).connection = some id then _ else _) = _
      rw [if_neg fun same => differ same.symm, if_pos held]
      rfl
    | relay | detach | claim | clear | close | connect | take | drop | wait => cases parts

/-- A connection that loses its slot does so by no call of its own. -/
theorem apart_of_loss {reason : String} (parts : d.parting? = some reason)
    (seated : r.Seated id code role) (lost : ¬ (r.perform d).Seated id code role) :
    ¬ d.Concerns id := by
  rintro (⟨code', role', rfl⟩ | ⟨frames, rfl⟩)
  · obtain ⟨-, -, differ⟩ := attach_of_lost seated lost
    exact differ rfl
  · cases parts

end Relay

namespace Signaling.World

variable {w : World} {ev : Event} {id : ConnId} {code reason : String} {role : Role}

/-- With this event a connection is put out of its slot, and for this reason: a newer one
sits there now, or the room was removed, or a sweep has taken it. -/
inductive Loses (w : World) (ev : Event) (id : ConnId) (code : String) (role : Role) :
    String → Prop
  | displaced {newer : ConnId} (differ : newer ≠ id)
    (taken : (w.step ev).relay.Seated newer code role) : Loses w ev id code role
      Session.replacedReason
  | removed (isRemoval : ev = .remove code) : Loses w ev id code role Relay.endedReason
  | evicted {maxIdle : Nat} (isSweep : ev = .evict maxIdle)
    (gone : (w.step ev).relay.find? code = none) : Loses w ev id code role Relay.expiredReason

/-- Such an event comes to a deed with this reason, and the connection is out of its slot. -/
theorem Loses.parting (loses : w.Loses ev id code role reason)
    (keyed : Relay.Keyed w.relay.rooms) (seated : w.relay.Seated id code role) :
    ∃ d, (w.step ev).relay.Alike (w.relay.perform d) ∧ d.parting? = some reason ∧
      ¬ (w.relay.perform d).Seated id code role := by
  cases loses with
  | @displaced newer differ taken =>
    -- A new one in the slot has just attached, for the old one sat there before.
    obtain ⟨d, -, alike⟩ := w.turn_step ev
    rw [alike.seated] at taken
    rcases Relay.of_seated_perform keyed taken with rfl | before
    · refine ⟨_, alike, rfl, fun still => ?_⟩
      exact differ (still.eq taken)
    · exact absurd (seated.eq before) differ
  | removed isRemoval =>
    subst isRemoval
    refine ⟨.remove code, .refl _, rfl, Relay.not_seated_of_gone ?_⟩
    obtain ⟨s, live, -⟩ := seated
    rw [Relay.perform, Relay.find?_remove keyed, live, Option.filter_some, if_neg]
    rw [Relay.code_of_find? live, bne_self_eq_false]
    exact Bool.false_ne_true
  | @evicted maxIdle isSweep gone =>
    subst isSweep
    exact ⟨.evict maxIdle, .refl _, rfl, Relay.not_seated_of_gone gone⟩

/-- Who sits in a slot has been told nothing but messages. -/
theorem Orderly.plain (orderly : w.Orderly) (seated : w.relay.Seated id code role) :
    Plain (w.relay.channel id).accepted := by
  obtain ⟨c, mem, rfl, isIn⟩ := orderly.tenanted.tenant seated
  have said := orderly.said c mem
  rcases isIn with phase | phase <;> rw [phase] at said <;> exact said.2 ⟨code, role, seated⟩

/-- **Whoever is put out of its slot is told why, unless its channel is full.** If no
connection is shared, then a connection that a newer one displaces, or whose room is removed
or swept, sits nowhere after that step; nobody reads its channel any more or the close with
this reason is the last frame that waits, exactly if the channel was not full just before,
with a reader; and if it was, then the close is lost, and the channel is as it was. -/
theorem losers_told (limits : Limits) (candidates : Nat → String) {events : List Event}
    (exclusive : Exclusive events) {w : World} (reached : w = (start limits candidates).run events)
    {ev : Event} {id : ConnId} {code reason : String} {role : Role}
    (seated : w.relay.Seated id code role) (loses : w.Loses ev id code role reason) :
    ¬ (w.step ev).relay.IsSeated id ∧
    (((w.step ev).relay.channel id).Informed reason ↔
      (w.relay.channel id).refusal? ≠ some .backpressure) ∧
    ((w.relay.channel id).refusal? = some .backpressure →
      (w.step ev).relay.channel id = w.relay.channel id) := by
  have orderly : w.Orderly := reached ▸ orderly_run limits candidates exclusive
  have sound : (w.relay.channel id).Sound := reached ▸ sound_run limits candidates events id
  have settled := orderly.tenanted.settled
  obtain ⟨d, alike, parts, lost⟩ := loses.parting settled.keyed seated
  -- The deed offers one frame to this connection, the close.
  have offered : (w.step ev).relay.channel id = (w.relay.channel id).offer (.close reason) := by
    rw [alike.channel, Relay.channel_perform w.relay (Deed.inside_of_parting parts),
      Relay.offers_of_loss settled parts seated lost]
    rfl
  have apart := Relay.apart_of_loss parts seated lost
  refine ⟨?_, ?_, fun full => ?_⟩
  · rintro ⟨code', role', still⟩
    rw [alike.seated] at still
    exact settled.nowhere apart seated lost ⟨code', role', still⟩
  · rw [offered]
    exact Channel.informed_offer_iff sound (orderly.plain seated)
  · rw [offered]
    exact Channel.offer_of_refusal full _

/-- The host that joins again displaces its first connection, which has room for the close. -/
theorem losers_told_rejoining :
    let w := (start ⟨4, 2⟩ fun _ => "room").run (rejoining.take 9)
    let host : Option Inbound := some (.text "\x7b\"roomCode\":\"room\",\"role\":\"presenter\"\x7d")
    Exclusive (rejoining.take 9) ∧ w.relay.Seated ⟨0⟩ "room" .presenter ∧
    w.Loses (.read 1 host) ⟨0⟩ "room" .presenter Session.replacedReason ∧
    ((w.step (.read 1 host)).relay.channel ⟨0⟩).Informed Session.replacedReason := by
  intro w host
  have exclusive : Exclusive (rejoining.take 9) := exclusive_rejoining.earlier (List.take_prefix ..)
  have seated : w.relay.Seated ⟨0⟩ "room" .presenter := ⟨_, rfl, rfl⟩
  have loses : w.Loses (.read 1 host) ⟨0⟩ "room" .presenter Session.replacedReason :=
    .displaced (show (⟨1⟩ : ConnId) ≠ ⟨0⟩ by decide) ⟨_, rfl, rfl⟩
  obtain ⟨-, told, -⟩ := losers_told ⟨4, 2⟩ (fun _ => "room") exclusive rfl seated loses
  have isRoom : (w.relay.channel ⟨0⟩).refusal? = none := rfl
  exact ⟨exclusive, seated, loses, told.mpr (by rw [isRoom]; exact (Option.some_ne_none _).symm)⟩

/-- A host joins on a connection that holds one frame, and is sent an offer, which its
client does not take. -/
def stuffed : List Event :=
  let host : Option Inbound := some (.text "\x7b\"roomCode\":\"room\",\"role\":\"presenter\"\x7d")
  [.create "host", .connect 1, .connect 8, .serve ⟨0⟩, .serve ⟨1⟩, .read 0 host,
    .send "room" .presenter ⟨.offer, .null, "video"⟩, .wait 1]

/-- Displaced, removed or swept, this connection is not told, though its client still reads. -/
theorem loser_untold :
    let w := (start ⟨4, 2⟩ fun _ => "room").run stuffed
    let host : Option Inbound := some (.text "\x7b\"roomCode\":\"room\",\"role\":\"presenter\"\x7d")
    Exclusive stuffed ∧ w.relay.Seated ⟨0⟩ "room" .presenter ∧
    ∀ ev reason, (ev, reason) ∈ [(.read 1 host, Session.replacedReason),
      (.remove "room", Relay.endedReason), (.evict 0, Relay.expiredReason)] →
    w.Loses ev ⟨0⟩ "room" .presenter reason ∧
    ¬ ((w.step ev).relay.channel ⟨0⟩).Informed reason := by
  intro w host
  -- Before and after, the one frame that its channel holds is the offer.
  have untold : ∀ reason : String, ¬ (w.relay.channel ⟨0⟩).Informed reason := by
    rintro reason (gone | told)
    · cases gone
    · cases told
  refine ⟨⟨by decide, fun code role id mem => by simp [stuffed] at mem⟩, ⟨_, rfl, rfl⟩, ?_⟩
  intro ev reason mem
  simp only [List.mem_cons, List.not_mem_nil, or_false, Prod.mk.injEq] at mem
  rcases mem with ⟨rfl, rfl⟩ | ⟨rfl, rfl⟩ | ⟨rfl, rfl⟩
  · exact ⟨.displaced (show (⟨1⟩ : ConnId) ≠ ⟨0⟩ by decide) ⟨_, rfl, rfl⟩, untold _⟩
  · exact ⟨.removed rfl, untold _⟩
  · exact ⟨.evicted rfl rfl, untold _⟩

end Signaling.World

end Rendezvous
