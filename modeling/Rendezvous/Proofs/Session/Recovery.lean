import Rendezvous.Proofs.Session.Delivery
import Rendezvous.Proofs.Session.Memory

/-!
# What a reconnecting peer knows

A connection that is attached gets the messages that waited for its role, and then
what the other side last sent, without what has just been flushed. This order could
do harm in two ways: an old offer could be replayed behind a newer one that was
flushed, and the newest one could be left out although what was flushed holds only
an older one.

Neither happens (`latest_recovered`). What waits is the end of what was relayed, so
if anything of a kind and a track waits, the latest of it waits too, and this is also
what is cached; and of the cache only this one envelope is of that kind and track.
-/

namespace Rendezvous.Session

section
variable {limits : Limits} {received sent : List Envelope} {mine theirs : Side}
variable {k : Kind} {track : String} {c : Envelope}

/-- Nothing of the kind waits: then what is cached of it is replayed. -/
theorem latest_replayed_of_not_waiting (caches : theirs.CachesSound)
    (cached : theirs.cached? k track = some c)
    (absent : Envelope.latest k track mine.pending = none) :
    Envelope.latest k track (theirs.cached.filter fun e => !mine.pending.contains e) = some c := by
  have about : c.isAbout k track = true := Side.isAbout_of_cached? caches cached
  have kept : c ∈ theirs.cached := by
    obtain ⟨rfl, rfl⟩ := Envelope.isAbout_iff.mp about
    exact (Side.mem_cached_iff caches).mpr cached
  have notWaiting : mine.pending.contains c = false := by
    rw [Bool.eq_false_iff, Ne, List.contains_iff_exists_mem_beq]
    rintro ⟨x, waits, same⟩
    have differs := Envelope.latest_eq_none_iff.mp absent x waits
    rw [← Envelope.isAbout_eq_of_same same, about] at differs
    cases differs
  have replayed : c ∈ theirs.cached.filter fun e => !mine.pending.contains e :=
    List.mem_filter.mpr ⟨kept, by rw [notWaiting]; rfl⟩
  -- It is the last of its kind and track, since it is the only one.
  cases last : Envelope.latest k track (theirs.cached.filter fun e => !mine.pending.contains e) with
  | none =>
    rw [Envelope.latest_eq_none_iff.mp last c replayed] at about
    cases about
  | some x =>
    obtain ⟨mem, sameTopic⟩ := Envelope.mem_of_latest last
    rw [Side.eq_of_mem_cached caches cached (List.mem_filter.mp mem).1 sameTopic]

/-- The cached envelope itself waits: then nothing of its kind and track is replayed. -/
theorem latest_replayed_of_waiting (caches : theirs.CachesSound)
    (cached : theirs.cached? k track = some c) (waits : c ∈ mine.pending) :
    Envelope.latest k track (theirs.cached.filter fun e => !mine.pending.contains e) = none := by
  rw [Envelope.latest_eq_none_iff]
  intro x mem
  rw [Bool.eq_false_iff]
  intro sameTopic
  obtain ⟨kept, left⟩ := List.mem_filter.mp mem
  obtain rfl := Side.eq_of_mem_cached caches cached kept sameTopic
  rw [List.contains_iff_exists_mem_beq.mpr ⟨x, waits, x.same_self⟩] at left
  cases left

/-- **The end of a backlog.** If a side follows what was relayed to it, and the other
one has cached something, the backlog ends with the latest of that kind and track. -/
theorem latest_backlog (waiting : mine.Follows limits received sent)
    (caching : theirs.Follows limits sent received) (cached : theirs.cached? k track = some c) :
    Envelope.latest k track
      (mine.pending ++ theirs.cached.filter fun e => !mine.pending.contains e)
      = Envelope.latest k track received := by
  have newest : Envelope.latest k track received = some c := caching.latest cached
  rw [Envelope.latest_append, newest]
  cases flushed : Envelope.latest k track mine.pending with
  | none =>
    rw [latest_replayed_of_not_waiting caching.caches cached flushed]
    rfl
  | some x =>
    -- What waits is the end of what was relayed, so its latest is the latest of all.
    have same : x = c := by
      rw [Envelope.latest_of_suffix waiting.suffix flushed] at newest
      exact Option.some.inj newest
    subst same
    have waits : x ∈ mine.pending := (Envelope.mem_of_latest flushed).1
    rw [latest_replayed_of_waiting caching.caches cached waits]
    rfl

end

/-- An attached connection with room for the whole backlog is handed all of it. -/
theorem envelopes_attach {st : Stage} (sound : st.outlet.Sound) {role : Role} {id : ConnId}
    (live : (st.channel id).listening = true)
    (room : (st.session.attach role id st.now).2.backlog.length ≤ (st.channel id).room) :
    ((st.step (.attach role id)).channel id).envelopes
      = (st.channel id).envelopes ++ (st.session.attach role id st.now).2.backlog := by
  have free : (st.channel id).free = (st.channel id).room := if_pos live
  have gained := envelopes_step (m := ⟨st, .attach role id⟩) sound id
  rw [Moment.pushes_attach, if_pos rfl, free, List.take_of_length_le room] at gained
  exact gained

/-- **A reconnecting peer is brought up to date.** After any run, a connection with
room for the whole backlog that is attached as a role is pushed, for every kind and
track that the other side's caches know, at last what was relayed last to that role
of that kind and track. -/
theorem latest_recovered (code presenter : String) (limits : Limits) (now : Instant)
    (events : List Event) (role : Role) (id : ConnId) {st : Stage}
    (reached : st = (Stage.start code presenter limits now).run events)
    (live : (st.channel id).listening = true)
    (room : (st.session.attach role id st.now).2.backlog.length ≤ (st.channel id).room) :
    ∃ pushed,
      ((st.step (.attach role id)).channel id).envelopes = (st.channel id).envelopes ++ pushed ∧
      ∀ k track c, st.session.cached? role.peer k track = some c →
        (k = .offer ∨ k = .answer) ∧
        ∃ e, Envelope.latest k track pushed = some e ∧
          Envelope.latest k track (relayedTo role events) = some e := by
  subst reached
  have quiet : (Stage.start code presenter limits now).outlet.Sound := Outlet.sound_empty
  have sound := sound_run quiet events
  refine ⟨_, envelopes_attach sound live room, fun k track c cached => ⟨?_, ?_⟩⟩
  · cases k with
    | offer => exact Or.inl rfl
    | answer => exact Or.inr rfl
    | candidate => cases cached
  · have waiting := follows_run code presenter limits now events role
    -- The receiver's queue holds what it missed, the other side's caches what that side sent
    -- last.
    have caching := follows_run code presenter limits now events role.peer
    rw [Role.peer_peer] at caching
    have newest := caching.latest cached
    exact ⟨c, (latest_backlog waiting caching cached).trans newest, newest⟩

/-- An offer is overwritten by a newer one, which a candidate then drives out of a queue
for one. -/
def overwritten : List Event :=
  [.relay .viewer ⟨.offer, .bool false, "video"⟩, .relay .viewer ⟨.offer, .bool true, "video"⟩,
    .relay .viewer ⟨.candidate, .null, "video"⟩, .connect 4]

/-- The queue has lost both offers, so the latest one comes from the cache. -/
theorem latest_recovered_overwritten :
    let st := (Stage.start "room" "host" ⟨1, 1⟩ 0).run overwritten
    (st.channel ⟨0⟩).listening = true ∧
    (st.session.attach .viewer ⟨0⟩ st.now).2.backlog.length ≤ (st.channel ⟨0⟩).room ∧
    st.session.cached? .presenter .offer "video" = some ⟨.offer, .bool true, "video"⟩ ∧
    ∃ pushed,
      ((st.step (.attach .viewer ⟨0⟩)).channel ⟨0⟩).envelopes
        = (st.channel ⟨0⟩).envelopes ++ pushed ∧
      ∀ k track c, st.session.cached? .presenter k track = some c →
        (k = .offer ∨ k = .answer) ∧
        ∃ e, Envelope.latest k track pushed = some e ∧
          Envelope.latest k track (relayedTo .viewer overwritten) = some e :=
  ⟨rfl, by decide, rfl, latest_recovered "room" "host" ⟨1, 1⟩ 0 overwritten .viewer ⟨0⟩ rfl rfl
    (by decide)⟩

end Rendezvous.Session
