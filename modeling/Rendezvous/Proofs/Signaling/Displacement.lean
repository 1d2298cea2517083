import Rendezvous.Proofs.Signaling.Reading
import Rendezvous.Proofs.Signaling.Rooms

/-!
# Displaced connections

When a newer connection takes a slot, the one it displaced is asked to close. Its call
is not told, and goes on to read. What it reads afterwards is relayed by the code of the
room and the role alone, and nobody looks at who holds the slot: a late message of a
displaced connection counts as much as one of the connection that displaced it.

So a late read leaves the room as it was only where relaying the message would change
nothing anyway (`displaced_read_iff`): the room was active at this very moment, its
caches hold the very message or have no room for it, and the message is lost on its way.
-/

namespace Rendezvous

namespace Session

/-- A full queue in which nothing but one message waits. -/
structure FullOf (e : Envelope) (limit : Nat) (waiting : List Envelope) : Prop where
  full : limit ≤ waiting.length
  nonempty : waiting ≠ []
  copies : ∀ x ∈ waiting, x = e

/-- One more message pushes out the oldest, and the queue is the same again exactly if it
was full of this message. -/
theorem enqueue_eq_self_iff {limit : Nat} {e : Envelope} {waiting : List Envelope} :
    enqueue limit e waiting = waiting ↔ FullOf e limit waiting := by
  -- A list without its head and with `e` behind it is the same only if all of it is `e`.
  have shifted : ∀ (x : Envelope) (rest : List Envelope), rest ++ [e] = x :: rest →
      ∀ y ∈ x :: rest, y = e := by
    intro x rest
    induction rest generalizing x with
    | nil =>
      intro same y mem
      rw [List.mem_singleton.mp mem]
      exact (List.cons.inj same).1.symm
    | cons z rest ih =>
      intro same y mem
      obtain ⟨rfl, behind⟩ := List.cons.inj same
      rcases List.mem_cons.mp mem with rfl | later
      · exact ih _ behind _ List.mem_cons_self
      · exact ih _ behind y later
  unfold enqueue
  split
  next full =>
    cases waiting with
    | nil => exact ⟨fun same => absurd same (List.cons_ne_nil e []), fun h => absurd rfl h.nonempty⟩
    | cons x rest =>
      refine ⟨fun same => ⟨full, List.cons_ne_nil x rest, shifted x rest same⟩, fun h => ?_⟩
      obtain rfl : x = e := h.copies x List.mem_cons_self
      have copies : rest = List.replicate rest.length x :=
        List.eq_replicate_of_mem fun y mem => h.copies y (List.mem_cons_of_mem _ mem)
      rw [List.tail_cons, copies, ← List.replicate_succ', List.replicate_succ]
  next notFull =>
    refine ⟨fun same => ?_, fun h => absurd h.full notFull⟩
    have longer := congrArg List.length same
    rw [List.length_append, List.length_singleton] at longer
    omega

/-- Relaying a message changes nothing in a session, nor on its connections. -/
structure Unmoved (s : Session) (o : Outlet) (destination : Role) (e : Envelope)
    (now : Instant) : Prop where
  /-- The last activity is as late as can be. -/
  active : s.lastActive = now
  /-- The sender's caches take nothing new. -/
  caches : (s.side destination.peer).Ignores s.limits.tracks e
  /-- The connection takes nothing more, or else the queue is full of this message. -/
  lost : match (s.slot destination).connection with
    | some id => (o.channel id).free = 0
    | none => FullOf e s.limits.pending (s.pending destination)

section
variable {s : Session} {o : Outlet} {destination : Role} {e : Envelope} {now : Instant}

/-- Relaying such a message leaves the session just as it was. -/
theorem relay_of_unmoved (sound : (s.side destination.peer).CachesSound)
    (h : s.Unmoved o destination e now) :
    (s.relay destination e now).1 = s := by
  obtain ⟨code, limits, active⟩ := relay_spec s now destination e
  refine eq_of_sides code (active.trans h.active.symm) limits fun q => ?_
  rw [side_relay]
  split
  next mine =>
    subst mine
    have lost := h.lost
    cases connected : (s.slot destination).connection with
    | some id =>
      have live : (s.side destination).slot.connection = some id := connected
      rw [Side.receive, live]
      rfl
    | none =>
      -- Nobody is there, so it is queued, and pushes its like out of a queue full of them.
      have away : (s.side destination).slot.connection = none := connected
      rw [connected] at lost
      have same : enqueue s.limits.pending e (s.side destination).pending
          = (s.side destination).pending := enqueue_eq_self_iff.mpr lost
      rw [Side.receive, away, if_neg (by simp), same]
  next others =>
    obtain rfl := (Role.eq_or_eq_peer destination q).resolve_left fun same => others same.symm
    exact (Side.remember_eq_self_iff sound _ e).mpr h.caches

/-- Relaying a message leaves the session and the channels exactly if they are unmoved. -/
theorem send_same_iff {s : Session} {destination : Role}
    (sound : (s.side destination.peer).CachesSound) (o : Outlet) (e : Envelope) (now : Instant) :
    ((s.relay destination e now).1 = s ∧
      ∀ id, (if (s.slot destination).connection = some id then (o.channel id).offer (.envelope e)
        else o.channel id) = o.channel id) ↔ s.Unmoved o destination e now := by
  constructor
  · rintro ⟨same, channels⟩
    have active := (relay_spec s now destination e).2.2
    rw [same] at active
    have caches := side_relay s now destination destination.peer e
    have queue := side_relay s now destination destination e
    rw [same, if_neg (Role.peer_ne destination).symm] at caches
    rw [same, if_pos rfl] at queue
    refine ⟨active, (Side.remember_eq_self_iff sound _ e).mp caches.symm, ?_⟩
    cases connected : (s.slot destination).connection with
    | some id =>
      -- A channel with a free place would have accepted one frame more.
      have offered := channels id
      rw [if_pos connected] at offered
      rcases Nat.eq_zero_or_pos (o.channel id).free with full | free
      · exact full
      · rw [Channel.offer_of_free free] at offered
        have longer := congrArg (fun c => c.accepted.length) offered
        rw [List.length_append, List.length_singleton] at longer
        omega
    | none =>
      have away : (s.side destination).slot.connection = none := connected
      rw [Side.receive, away] at queue
      exact enqueue_eq_self_iff.mp (congrArg Side.pending queue).symm
  · intro h
    refine ⟨relay_of_unmoved sound h, fun id => ?_⟩
    split
    next live =>
      have lost := h.lost
      rw [live] at lost
      exact Channel.offer_of_full lost _
    next => rfl

end

end Session

namespace Signaling

/-! ## After a displacement -/

/-- The room of a code and all connections are as they were. -/
structure SameRoom (code : String) (r r' : Relay) : Prop where
  room : r'.find? code = r.find? code
  channels : ∀ id, r'.channel id = r.channel id

/-- A read leaves the room exactly if there is no message to relay, or if relaying it
changes nothing. -/
theorem Call.sameRoom_read_iff {c : Call} {r : Relay} {code : String} {role : Role}
    (relaying : c.phase = .relaying code role) {limits : Limits}
    (sound : r.Holds limits Session.CachesSound) (next : Option Inbound) :
    SameRoom code r (c.read r next).2 ↔
      ∀ s e, r.find? code = some s → envelope? next = some e →
        s.Unmoved r.outlet role.peer e r.now := by
  cases isMessage : envelope? next with
  | none =>
    rw [read_of_none relaying (Or.inl isMessage)]
    refine ⟨fun _ s e _ same => ?_, fun _ => ⟨rfl, fun _ => rfl⟩⟩
    cases same
  | some e =>
    cases live : r.find? code with
    | none =>
      rw [read_of_none relaying (Or.inr live)]
      refine ⟨fun _ s e same => ?_, fun _ => ⟨rfl, fun _ => rfl⟩⟩
      cases same
    | some s =>
      rw [read_of_envelope relaying live isMessage]
      have same_iff :=
        Session.send_same_iff (Relay.of_find? sound live role.peer.peer) r.outlet e r.now
      constructor
      · rintro ⟨room, channels⟩ s' e' isRoom isRead
        obtain rfl : s = s' := Option.some.inj isRoom
        obtain rfl : e = e' := Option.some.inj isRead
        refine same_iff.mp ⟨?_, fun id => ?_⟩
        · rw [Relay.find?_send live, live] at room
          exact Option.some.inj room
        · have kept := channels id
          rw [Relay.channel_send live] at kept
          exact kept
      · intro h
        obtain ⟨room, channels⟩ := same_iff.mpr (h s e rfl rfl)
        refine ⟨?_, fun id => ?_⟩
        · rw [Relay.find?_send live, live, room]
        · rw [Relay.channel_send live]
          exact channels id

namespace World

/-- The call relays for a role whose slot a newer connection has taken over. -/
def Displaced (w : World) (i : Nat) (code : String) (role : Role) : Prop :=
  ∃ c s newer, w.calls[i]? = some c ∧ c.phase = .relaying code role ∧
    w.relay.find? code = some s ∧ (s.slot role).connection = some newer ∧ newer ≠ c.connection

/-- **What a displaced connection still does.** In every run, what is read from a
connection after it was displaced leaves the room as it was exactly if the call has
stopped reading, or there is no room or no message, or relaying the message to the
other side changes nothing. -/
theorem displaced_read_iff (limits : Limits) (candidates : Nat → String)
    (before later : List Event) {i : Nat} {code : String} {role : Role}
    (displaced : ((start limits candidates).run before).Displaced i code role)
    (next : Option Inbound) {w : World}
    (reached : w = (start limits candidates).run (before ++ later)) :
    SameRoom code w.relay (w.step (.read i next)).relay ↔
      ∀ c s e, w.calls[i]? = some c → c.phase = .relaying code role →
        w.relay.find? code = some s → envelope? next = some e →
        s.Unmoved w.relay.outlet role.peer e w.relay.now := by
  obtain ⟨c, -, -, called, relaying, -⟩ := displaced
  rw [run_append] at reached
  -- Whatever happened since, the call relays for the same role or has stopped reading.
  obtain ⟨d, stillCalled, joined⟩ := hasJoined_run called (Or.inl relaying) later
  rw [← reached] at stillCalled
  have read : (w.step (.read i next)).relay = (d.read w.relay next).2 := by
    show (w.onCall i _).relay = _
    rw [onCall_of_some stillCalled]
  rw [read]
  rcases joined with stillRelaying | stopped
  · have sound : w.relay.Holds limits Session.CachesSound := by
      rw [reached, ← run_append]
      exact rooms_run (Session.lasting_cachesSound limits) candidates _
    rw [Call.sameRoom_read_iff stillRelaying sound]
    constructor
    · intro h _ s e _ _ live isMessage
      exact h s e live isMessage
    · intro h s e live isMessage
      exact h d s e stillCalled stillRelaying live isMessage
  · rw [Call.read_of_stopped stopped]
    refine ⟨fun _ x _ _ isCalled isRelaying => ?_, fun _ => ⟨rfl, fun _ => rfl⟩⟩
    obtain rfl : d = x := Option.some.inj (stillCalled.symm.trans isCalled)
    rw [Call.isReading, isRelaying] at stopped
    cases stopped

/-- A host joins its room, and joins it again on a second connection. A second later
its first connection still has an offer to read. -/
def takeover : List Event :=
  let subscription : Option Inbound :=
    some (.text "\x7b\"roomCode\":\"room\",\"role\":\"presenter\"\x7d")
  [.create "host", .connect 8, .connect 8, .serve ⟨0⟩, .serve ⟨1⟩, .read 0 subscription,
    .read 1 subscription, .wait 1000]

/-- The offer that the first connection has still to read. -/
def lateOffer : Option Inbound :=
  some (.text "\x7b\"type\":\"offer\",\"trackType\":\"video\"\x7d")

/-- The first connection has been displaced by the second. -/
theorem displaced_takeover :
    ((start ⟨4, 2⟩ fun _ => "room").run takeover).Displaced 0 "room" .presenter :=
  ⟨_, _, _, rfl, rfl, rfl, rfl, by decide⟩

/-- It reads an offer then. Whether anything comes of it is up to the room. -/
theorem displaced_read_iff_takeover :
    let w := (start ⟨4, 2⟩ fun _ => "room").run takeover
    w.Displaced 0 "room" .presenter ∧
    (SameRoom "room" w.relay (w.step (.read 0 lateOffer)).relay ↔
      ∀ c s e, w.calls[0]? = some c → c.phase = .relaying "room" .presenter →
        w.relay.find? "room" = some s → envelope? lateOffer = some e →
        s.Unmoved w.relay.outlet .viewer e w.relay.now) :=
  ⟨displaced_takeover, displaced_read_iff ⟨4, 2⟩ (fun _ => "room") takeover [] displaced_takeover
    lateOffer rfl⟩

/-- What a room shows of a late offer: what waits for the viewer, what is cached of the
presenter, and when the room was last active. -/
def traces (r : Relay) : Option (List Envelope × Option Envelope × Instant) :=
  (r.find? "room").map fun s =>
    (s.pending .viewer, s.cached? .presenter .offer "video", s.lastActive)

/-- The late offer is queued for the viewer and cached, and keeps the room alive. -/
theorem late_offer_is_relayed :
    let w := (start ⟨4, 2⟩ fun _ => "room").run takeover
    w.Displaced 0 "room" .presenter ∧
    traces w.relay = some ([], none, 0) ∧
    traces (w.step (.read 0 lateOffer)).relay
      = some ([⟨.offer, .null, "video"⟩], some ⟨.offer, .null, "video"⟩, 1000) ∧
    ¬ SameRoom "room" w.relay (w.step (.read 0 lateOffer)).relay := by
  refine ⟨displaced_takeover, rfl, rfl, fun same => ?_⟩
  have kept : some 1000 = some 0 := congrArg (Option.map Session.lastActive) same.room
  cases kept

end World

end Signaling

end Rendezvous
