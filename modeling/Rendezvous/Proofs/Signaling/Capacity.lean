import Rendezvous.Proofs.Session.Form
import Rendezvous.Proofs.Settings
import Rendezvous.Proofs.Signaling.Deed
import Rendezvous.Proofs.Signaling.Offers
import Rendezvous.Proofs.Signaling.Rooms

/-!
# Buffers that take every backlog

The backlog of a connection that joins is a queue and what is left of two caches, so it is
bounded by the limits of the rooms (`length_backlog_le`). Settings are accepted only if the
buffer of a connection is at least as large as this bound. So in a relay that runs with
accepted settings a new connection takes its whole backlog, whatever has happened before
(`backlog_fits`).
-/

namespace Rendezvous

namespace Session

/-- Sessions keep to their limits in every run of a relay. -/
theorem lasting_kept (limits : Limits) : Lasting limits (Session.Kept limits) where
  begins code presenter now := kept_start code presenter limits now
  keeps _ ev kept := kept_step kept ev

/-- A backlog is never longer than a full queue and two full caches. -/
theorem length_backlog_le {limits : Limits} {s : Session} (kept : s.Kept limits) (role : Role)
    (id : ConnId) (now : Instant) :
    (s.attach role id now).2.backlog.length ≤ max 1 limits.pending + 2 * limits.tracks := by
  have queue : (s.pending role).length ≤ max 1 limits.pending :=
    (kept.sides role).formed.pending
  have offers := (kept.sides role.peer).offers
  have answers := (kept.sides role.peer).answers
  have replayed := List.length_filter_le (fun e => !(s.pending role).contains e)
    (s.side role.peer).cached
  have both : (s.side role.peer).cached.length
      = (s.side role.peer).offers.entries.length + (s.side role.peer).answers.entries.length :=
    List.length_append
  have backlog : (s.attach role id now).2.backlog.length = (s.pending role).length
      + ((s.side role.peer).cached.filter fun e => !(s.pending role).contains e).length :=
    List.length_append
  omega

section
variable {s : Session} {o : Outlet} {role : Role} {id : ConnId} {now : Instant}

/-- With room for the whole backlog nothing of it fails. -/
theorem join_outcome (sound : (o.channel id).Sound)
    (room : (s.attach role id now).2.backlog.length ≤ (o.channel id).free) :
    (s.join o role id now).1 =
      ⟨(s.pending role).length,
        ((s.side role.peer).cached.filter fun e => !(s.pending role).contains e).length, 0⟩ := by
  have failed := Outlet.failed_deliverAll sound role (s.attach role id now).2.backlog
  rw [Nat.sub_eq_zero_of_le room] at failed
  show AttachOutcome.mk _ _ (o.deliverAll id role (s.attach role id now).2.backlog).1 = _
  rw [failed]

/-- With room for the whole backlog an empty channel accepts it before anything else, and no
other envelope. -/
theorem accepted_attach (nothing : (o.channel id).accepted = []) (sound : (o.channel id).Sound)
    (room : (s.attach role id now).2.backlog.length ≤ (o.channel id).free) :
    let after := (Stage.step ⟨s, o, now⟩ (.attach role id)).channel id
    (s.attach role id now).2.backlog.map .envelope <+: after.accepted ∧
      after.envelopes = (s.attach role id now).2.backlog := by
  intro after
  have handed : ((o.channel id).offerAll ((s.attach role id now).2.backlog.map .envelope)).accepted
      = (s.attach role id now).2.backlog.map .envelope := by
    rw [Channel.offerAll_eq sound, List.take_of_length_le (by rw [List.length_map]; exact room)]
    show (o.channel id).accepted ++ _ = _
    rw [nothing, List.nil_append]
  -- The only other frame may be its own close, if it sat in the slot before.
  obtain ⟨more, sub, accepted⟩ := (Channel.grows_offerAll
    ((o.channel id).offerAll ((s.attach role id now).2.backlog.map .envelope))
    (if (s.slot role).connection = some id then [.close replacedReason] else []) True).gains
  have isAfter : after.accepted = (s.attach role id now).2.backlog.map .envelope ++ more := by
    rw [← handed, ← accepted, ← Channel.offerAll_append]
    show ((Stage.step ⟨s, o, now⟩ (.attach role id)).channel id).accepted = _
    rw [channel_attach, Stage.offers, if_pos rfl]
    rfl
  have noEnvelope : more.filterMap Frame.envelope? = [] := by
    rw [List.filterMap_eq_nil_iff]
    intro f mem
    have isClose := sub.subset mem
    split at isClose
    · rw [List.mem_singleton.mp isClose]
      rfl
    · exact absurd isClose List.not_mem_nil
  constructor
  · rw [isAfter]
    exact List.prefix_append ..
  · rw [Channel.envelopes, isAfter, List.filterMap_append, noEnvelope, List.append_nil,
      Channel.filterMap_envelope?_map]

end

end Session

namespace Signaling.World

/-- **An accepted buffer takes every backlog.** The settings of the relay were accepted, and
the sum that their buffer was checked against is a word. Then after every run a connection of
this buffer on which nothing was ever pushed joins any live room without a refusal: it is
handed all that waits, and then every cached offer and answer of the other side that is not
among it. -/
theorem backlog_fits {vars : Variables} {settings : Settings}
    (loaded : Settings.load vars = .ok settings)
    (isWord : settings.limits.pending + 2 * settings.limits.tracks < Decimal.wordCount)
    (candidates : Nat → String) (events : List Event) {w : World}
    (reached : w = (start settings.limits candidates).run events) {code : String} {s : Session}
    (live : w.relay.find? code = some s) (role : Role) (id : ConnId)
    (fresh : w.relay.channel id = .fresh settings.buffer) :
    let flushed := s.pending role
    let replayed := ((s.side role.peer).offers.entries ++ (s.side role.peer).answers.entries).filter
      fun e => !flushed.contains e
    let after := (w.relay.join code role id).2.channel id
    (s.join w.relay.outlet role id w.relay.now).1 = ⟨flushed.length, replayed.length, 0⟩ ∧
    (w.relay.join code role id).1 = true ∧
    (flushed ++ replayed).map .envelope <+: after.accepted ∧
    after.envelopes = flushed ++ replayed := by
  have kept : s.Kept settings.limits := by
    have all := rooms_run (Session.lasting_kept settings.limits) candidates events
    rw [← reached] at all
    exact Relay.of_find? all live
  have isFresh : w.relay.outlet.channel id = .fresh settings.buffer := fresh
  have sound : (w.relay.outlet.channel id).Sound := by
    rw [isFresh]
    exact Channel.sound_fresh _
  have nothing : (w.relay.outlet.channel id).accepted = [] := by
    rw [isFresh]
    rfl
  -- A backlog is one queue and two caches, and the buffer was accepted for as much.
  have room : (s.attach role id w.relay.now).2.backlog.length
      ≤ (w.relay.outlet.channel id).free := by
    have bound := Session.length_backlog_le kept role id w.relay.now
    have enough := Settings.le_buffer_of_load loaded isWord
    have positive := Settings.pending_pos_of_load loaded
    have free : (Channel.fresh settings.buffer).free = max settings.buffer 1 := rfl
    rw [isFresh, free]
    omega
  obtain ⟨first, only⟩ := Session.accepted_attach nothing sound room
  have joined : (w.relay.join code role id).2.channel id
      = (Session.Stage.step ⟨s, w.relay.outlet, w.relay.now⟩ (.attach role id)).channel id := by
    rw [Relay.join_eq, Relay.perform_of_live live]
    rfl
  refine ⟨Session.join_outcome sound room, ?_, ?_, ?_⟩
  · rw [Relay.join_eq, Relay.isLive, live]
    rfl
  · rw [joined]
    exact first
  · rw [joined]
    exact only

/-- Room for two messages and one track, and a buffer that is just large enough. -/
def tight : Variables := fun name =>
  if name = "RELAY_MAX_PENDING_MESSAGES" then some "2"
  else if name = "RELAY_MAX_CACHED_TRACKS" then some "1"
  else if name = "RELAY_CONNECTION_BUFFER" then some "4"
  else none

/-- What they are read as. -/
def tightSettings : Settings := { Settings.default with limits := ⟨2, 1⟩, buffer := 4 }

/-- The host sends an offer and an answer, which two candidates drive out of the queue. -/
def backlogged : List Event :=
  [.create "host", .send "room" .viewer ⟨.offer, .null, "video"⟩,
    .send "room" .viewer ⟨.answer, .null, "video"⟩,
    .send "room" .viewer ⟨.candidate, .bool false, "video"⟩,
    .send "room" .viewer ⟨.candidate, .bool true, "video"⟩, .connect 4]

/-- A full queue and full caches just fit the smallest buffer that is accepted. -/
theorem backlog_fits_backlogged :
    let w := (start tightSettings.limits fun _ => "room").run backlogged
    let after := (w.relay.join "room" .viewer ⟨0⟩).2.channel ⟨0⟩
    Settings.load tight = .ok tightSettings ∧
    tightSettings.limits.pending + 2 * tightSettings.limits.tracks < Decimal.wordCount ∧
    w.relay.channel ⟨0⟩ = .fresh tightSettings.buffer ∧
    (w.relay.join "room" .viewer ⟨0⟩).1 = true ∧
    after.accepted.length = after.capacity ∧
    after.envelopes = [⟨.candidate, .bool false, "video"⟩, ⟨.candidate, .bool true, "video"⟩,
      ⟨.offer, .null, "video"⟩, ⟨.answer, .null, "video"⟩] := by
  intro w
  have loaded : Settings.load tight = .ok tightSettings := rfl
  have live : w.relay.find? "room" = some _ := rfl
  obtain ⟨-, joined, -, handed⟩ :=
    backlog_fits loaded (by decide) (fun _ => "room") backlogged rfl live .viewer ⟨0⟩ rfl
  exact ⟨loaded, by decide, rfl, joined, rfl, handed⟩

end Signaling.World

end Rendezvous
