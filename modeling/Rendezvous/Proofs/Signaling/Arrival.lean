import Rendezvous.Proofs.Signaling.Outbound

/-!
# What arrives at a connection that keeps its slot

As long as a connection keeps its slot and has room for one more frame, every envelope that is
sent to its role in its room arrives, and nothing else does (`arrives`). Requests to close come
only with the loss of the slot, and reports only to who never had one.
-/

namespace Rendezvous

/-- The envelope that a deed sends to a role of a room, if it does. -/
def Deed.sent? (code : String) (destination : Role) : Deed → Option Envelope
  | .within inside (.relay role e) => if inside = code ∧ role = destination then some e else none
  | _ => none

namespace Relay

/-- A connection sits in one slot, and nothing but envelopes has been accepted for it. -/
structure Keeps (r : Relay) (id : ConnId) (code : String) (role : Role) : Prop where
  keyed : Keyed r.rooms
  seated : r.Seated id code role
  only : ∀ {code' role'}, r.Seated id code' role' → code' = code ∧ role' = role
  sound : (r.channel id).Sound
  plain : Plain (r.channel id).accepted

variable {r : Relay} {d : Deed} {id : ConnId} {code : String} {role : Role}

/-- A connection of a room sits in one of its slots. -/
theorem seated_of_mem {s : Session} (live : r.find? s.code = some s) (mem : id ∈ s.connections) :
    ∃ role, r.Seated id s.code role := by
  obtain ⟨role, held⟩ := Session.mem_connections.mp mem
  exact ⟨role, s, live, held⟩

/-- Rooms that end are not those of a connection that keeps its slot, so it is not asked. -/
theorem Keeps.unasked (h : r.Keeps id code role) (kept : (r.perform d).Seated id code role)
    (ended : List Session) (rooms : ∀ s ∈ ended, r.find? s.code = some s)
    (left : ∀ s ∈ ended, ∀ role, ¬ (r.perform d).Seated id s.code role) (reason : String) :
    List.replicate ((ended.flatMap Session.connections).count id) (Frame.close reason) = [] := by
  rw [List.replicate_eq_nil_iff, List.count_eq_zero]
  intro mem
  obtain ⟨s, isEnded, inside⟩ := List.mem_flatMap.mp mem
  obtain ⟨role', seated⟩ := seated_of_mem (rooms s isEnded) inside
  obtain ⟨rfl, rfl⟩ := h.only seated
  exact left s isEnded _ kept

/-- What happens within a room offers an envelope to who keeps its slot there if it is sent to
its role; and nothing that happens in other rooms reaches it. -/
theorem Keeps.offers_within (h : r.Keeps id code role) {inside : String} {ev : Session.Event}
    (apart : ¬ (Deed.within inside ev).Concerns id)
    (kept : (r.perform (.within inside ev)).Seated id code role) :
    (Deed.within inside ev).offers r id
      = ((Deed.within inside ev).sent? code role).toList.map .envelope := by
  obtain ⟨mine, found, held⟩ := h.seated
  rw [Deed.offers]
  cases live : r.find? inside with
  | none =>
    cases ev with
    | relay destination e =>
      have elsewhere : ¬ (inside = code ∧ destination = role) := by
        rintro ⟨rfl, -⟩
        rw [live] at found
        cases found
      rw [Deed.sent?, if_neg elsewhere]
      rfl
    | _ => rfl
  | some s =>
    have seated : ∀ role', (s.slot role').connection = some id → inside = code ∧ role' = role :=
      fun role' held' => h.only ⟨s, live, held'⟩
    cases ev with
    | relay destination e =>
      show (if _ then _ else _) = _
      rw [Deed.sent?]
      by_cases here : (s.slot destination).connection = some id
      · rw [if_pos here, if_pos (seated _ here)]
        rfl
      · have elsewhere : ¬ (inside = code ∧ destination = role) := by
          rintro ⟨rfl, rfl⟩
          obtain rfl := Option.some.inj (found.symm.trans live)
          exact here held
        rw [if_neg here, if_neg elsewhere]
        rfl
    | attach role' other =>
      -- Attaching this connection is the one event of the room that the hypothesis rules out.
      have differ : id ≠ other := by
        rintro rfl
        exact apart (Or.inl ⟨inside, role', rfl⟩)
      -- Nor was it displaced, since it still sits there afterwards.
      have stays : ¬ (s.slot role').connection = some id := by
        intro displaced
        obtain ⟨rfl, rfl⟩ := seated _ displaced
        exact differ (eq_of_seated_attach kept)
      show (if _ then _ else _) ++ (if _ then _ else _) = _
      rw [if_neg differ, if_neg stays]
      rfl
    | close reason =>
      obtain rfl := code_of_find? live
      have gone : ∀ role, ¬ (r.perform (.within s.code (.close reason))).Seated id s.code role := by
        intro role' still
        obtain ⟨_, -, after⟩ := (seated_within _).mp still
        cases after
      have asked := h.unasked kept [s] (by simpa using live) (by simpa using gone) reason
      rw [List.flatMap_singleton] at asked
      exact asked
    | detach | claim | clear | connect | take | drop | wait => rfl

/-- **Who keeps its slot is offered what is sent to its role**, and nothing else. -/
theorem Keeps.offers (h : r.Keeps id code role) (apart : ¬ d.Concerns id)
    (kept : (r.perform d).Seated id code role) :
    d.offers r id = (d.sent? code role).toList.map .envelope := by
  cases d with
  | within inside ev => exact h.offers_within apart kept
  | remove removed =>
    rw [Deed.offers]
    cases live : r.find? removed with
    | none => rfl
    | some s =>
      obtain rfl := code_of_find? live
      have gone : (r.perform (.remove s.code)).find? s.code = none := by
        rw [perform, find?_remove h.keyed, live, Option.filter_some, bne_self_eq_false]
        rfl
      have asked := h.unasked kept [s] (by simpa using live)
        (by simpa using fun _ => not_seated_of_gone gone) endedReason
      rw [List.flatMap_singleton] at asked
      exact asked
  | evict maxIdle =>
    refine h.unasked kept _ (fun s isEnded => ?_) (fun s isEnded role => ?_) expiredReason
    · exact find?_of_mem h.keyed (List.mem_filter.mp isEnded).1
    · obtain ⟨mem, idle⟩ := List.mem_filter.mp isEnded
      have live : r.find? s.code = some s := find?_of_mem h.keyed mem
      refine not_seated_of_gone ?_
      rw [perform, find?_evict h.keyed, live, Option.filter_some, idle]
      rfl
  | tell other frames =>
    refine if_neg ?_
    rintro rfl
    exact apart (Or.inr ⟨frames, rfl⟩)
  | nothing | create | connect | take | drop | wait => rfl

/-- **Whatever is sent to a connection that keeps its slot arrives**, if there is room for it,
and nothing else does. -/
theorem Keeps.arrives (h : r.Keeps id code role) (free : 0 < (r.channel id).free)
    (apart : ¬ d.Concerns id) (unread : d.reader? ≠ some id)
    (kept : (r.perform d).Seated id code role) :
    (r.perform d).Keeps id code role ∧
    ((r.perform d).channel id).taken = (r.channel id).taken ∧
    ((r.perform d).channel id).accepted
      = (r.channel id).accepted ++ (d.sent? code role).toList.map .envelope := by
  have grows := grows_perform r d id
  have offers := h.offers apart kept
  have accepted : ((r.perform d).channel id).accepted
      = (r.channel id).accepted ++ (d.sent? code role).toList.map .envelope := by
    cases sent : d.sent? code role with
    | none =>
      rw [sent] at offers
      obtain ⟨more, sub, accepted⟩ := grows.gains
      rw [offers] at sub
      rw [accepted, List.sublist_nil.mp sub]
      rfl
    | some e =>
      -- Only an event of the room sends, and none of the events that send works on a channel
      -- directly.
      have inside : d.isOutside = false := by
        cases d with
        | within inside ev => cases ev with
          | relay => rfl
          | _ => cases sent
        | _ => cases sent
      rw [sent] at offers
      rw [channel_perform r inside, offers, Channel.offerAll_eq h.sound]
      show _ ++ List.take _ [Frame.envelope e] = _ ++ [Frame.envelope e]
      rw [List.take_of_length_le free]
  refine ⟨⟨keyed_perform h.keyed d, kept, fun seated => ?_, grows.sound h.sound, ?_⟩,
    grows.unread unread, accepted⟩
  · rcases of_seated_perform h.keyed seated with rfl | before
    · exact absurd (Or.inl ⟨_, _, rfl⟩) apart
    · exact h.only before
  · rw [accepted]
    exact h.plain.append (.refl _)

/-- What is counted makes no difference. -/
theorem Keeps.of_alike {r' : Relay} (h : r'.Keeps id code role) (alike : r.Alike r') :
    r.Keeps id code role where
  keyed := alike.rooms ▸ h.keyed
  seated := alike.seated.mpr h.seated
  only seated := h.only (alike.seated.mp seated)
  sound := alike.channel id ▸ h.sound
  plain := alike.channel id ▸ h.plain

end Relay

end Rendezvous
