import Mathlib.Data.List.Sort
import Rendezvous.Proofs.Session.Cache
import Rendezvous.Proofs.Signaling.Offers
import Rendezvous.Proofs.Text.ByteOrder

/-!
# What a connection gets when it joins

A connection that joins as a role is handed a backlog: what waited for the role, then the
offers and then the answers that the other side last sent, in the order of the bytes of
their tracks and without those that say the same as something that waited. Which part of it
is lost on a small buffer, what is counted, and what becomes of the connection that was there
before are all computed here from the channel as it was (`join_exactly`).

Nothing is assumed of the joining connection. Its queue may be half full, its writer may have
gone, and it may be the very connection that the slot already holds. In this last case the
one channel takes both the backlog and the frame that asks it to close.
-/

namespace Rendezvous

/-! ## Caches as lists -/

/-- The envelopes that a look-up by track finds, in the order of the bytes of their tracks. -/
structure Listed (found : String → Option Envelope) (es : List Envelope) : Prop where
  ordered : es.Pairwise fun a b => Text.utf8 a.track < Text.utf8 b.track
  holds : ∀ e, e ∈ es ↔ found e.track = some e

/-- The entries of a sound cache list what can be found in it. -/
theorem TrackCache.listed {kind : Kind} {c : TrackCache} (sound : c.Sound kind) :
    Listed c.get? c.entries where
  ordered := sound.ordered.imp Text.lt_iff_utf8_lt.mp
  holds _ := mem_entries_iff sound

/-- What a look-up finds can be listed in one way only. -/
theorem Listed.eq {found : String → Option Envelope} {es es' : List Envelope}
    (h : Listed found es) (h' : Listed found es') : es = es' := by
  let before (a b : Envelope) : Prop := Text.utf8 a.track < Text.utf8 b.track
  have : Std.Irrefl before := ⟨fun _ => List.lt_irrefl _⟩
  have : Std.Antisymm before := ⟨fun _ _ one other => absurd other (List.lt_asymm one)⟩
  refine List.Pairwise.eq_of_mem_iff (r := before) h.ordered h'.ordered fun e => ?_
  rw [h.holds, h'.holds]

/-! ## What a channel takes -/

namespace Channel

/-- How many of so many frames the channel takes: none if its writer has gone. -/
def takes (c : Channel) (count : Nat) : Nat :=
  if c.listening then min (c.capacity - c.queue.length) count else 0

/-- There is a writer, and a place behind so many more frames. -/
def hasPlace (c : Channel) (ahead : Nat) : Prop :=
  c.listening = true ∧ c.queue.length + ahead < c.capacity

instance (c : Channel) (ahead : Nat) : Decidable (c.hasPlace ahead) :=
  inferInstanceAs (Decidable (_ ∧ _))

/-- How many frames are taken of so many that are offered. -/
theorem takes_eq (c : Channel) (count : Nat) : c.takes count = min c.free count := by
  unfold takes free
  split
  · rfl
  · exact (Nat.zero_min _).symm

end Channel

namespace Session

/-! ## Joining -/

/-- The backlog of a role, given the offers and the answers that the other side last sent. -/
def backlog (s : Session) (role : Role) (offers answers : List Envelope) : List Envelope :=
  let isNew (e : Envelope) : Bool := !(s.pending role).contains e
  s.pending role ++ offers.filter isNew ++ answers.filter isNew

/-- Of a backlog that is handed to a connection, what the channel of any connection takes. -/
def handedTo (o : Outlet) (id : ConnId) (backlog : List Envelope) (other : ConnId) : List Frame :=
  if other = id then (backlog.take ((o.channel id).takes backlog.length)).map .envelope else []

/-- The frame that asks a displaced connection to close, if its channel has a place for it
behind the frames that it has just taken. -/
def toldTo (s : Session) (o : Outlet) (role : Role) (other : ConnId) (ahead : List Frame) :
    List Frame :=
  if (s.slot role).connection = some other ∧ (o.channel other).hasPlace ahead.length then
    [.close replacedReason]
  else []

/-- What joining as a role with a backlog leads to. -/
structure Joined (s : Session) (o : Outlet) (role : Role) (id : ConnId) (now : Instant)
    (backlog : List Envelope) (outcome : AttachOutcome) (s' : Session) (o' : Outlet) : Prop where
  flushed : outcome.flushed = (s.pending role).length
  replayed : outcome.replayed = backlog.length - outcome.flushed
  failed : outcome.failed = backlog.length - (o.channel id).takes backlog.length
  /-- Every channel gains its part of the backlog, and then what it is told. -/
  queues : ∀ other, let handed := handedTo o id backlog other
    (o'.channel other).queue = (o.channel other).queue ++ (handed ++ s.toldTo o role other handed)
  /-- Nothing else of a channel changes. -/
  channels : ∀ other, let handed := handedTo o id backlog other
    o'.channel other = { o.channel other with
      accepted := (o.channel other).accepted ++ (handed ++ s.toldTo o role other handed) }
  slot : s'.slot role = { s.slot role with connection := some id }
  drained : s'.pending role = []
  offers : (s'.side role).offers = (s.side role).offers
  answers : (s'.side role).answers = (s.side role).answers
  peer : s'.side role.peer = s.side role.peer
  code : s'.code = s.code
  limits : s'.limits = s.limits
  active : s'.lastActive = now

section
variable (s : Session) (o : Outlet) (role : Role) (id : ConnId) (now : Instant)

/-- The backlog of a connection, from the queue of its own side and the caches of the other. -/
theorem attach_backlog :
    (s.attach role id now).2.backlog =
      s.backlog role (s.side role.peer).offers.entries (s.side role.peer).answers.entries := by
  show s.pending role ++ List.filter _ (_ ++ _) = _
  rw [List.filter_append, ← List.append_assoc]
  rfl

/-- What a join offers to a channel, as far as the channel takes it. -/
theorem take_offers (other : ConnId) (backlog : List Envelope)
    (isBacklog : (s.attach role id now).2.backlog = backlog) :
    (Stage.offers ⟨s, o, now⟩ other (.attach role id)).take (o.channel other).free =
      handedTo o id backlog other ++ s.toldTo o role other (handedTo o id backlog other) := by
  have handed : (if other = id then backlog.map .envelope else []).take (o.channel other).free
      = handedTo o id backlog other := by
    unfold handedTo
    split
    next same =>
      rw [same, Channel.takes_eq, ← List.map_take, List.take_eq_take_min]
    next => exact List.take_nil
  rw [Stage.offers, List.take_append, isBacklog, handed]
  congr 1
  -- The channel has a place for the last frame exactly if it took the whole backlog and has
  -- room for one more.
  have place : (o.channel other).hasPlace (handedTo o id backlog other).length ↔
      0 < (o.channel other).free -
        (if other = id then backlog.map Frame.envelope else []).length := by
    rw [Channel.hasPlace, ← Channel.lt_free_iff, ← handed, List.length_take]
    omega
  generalize (o.channel other).free - _ = left at place ⊢
  unfold toldTo
  by_cases displaced : (s.slot role).connection = some other
  · rw [if_pos displaced]
    by_cases more : 0 < left
    · rw [if_pos ⟨displaced, place.mpr more⟩]
      exact List.take_of_length_le more
    · rw [if_neg fun both => more (place.mp both.2), Nat.eq_zero_of_not_pos more, List.take_zero]
  · rw [if_neg displaced, if_neg fun both => displaced both.1, List.take_nil]

/-- The caches are sound in every state that a session comes to. -/
theorem cachesSound_run (code presenter : String) (limits : Limits) (now : Instant)
    (events : List Event) (role : Role) :
    (((Stage.start code presenter limits now).run events).session.side role).CachesSound := by
  apply side_run_of_step (P := Side.CachesSound)
  · cases role <;> exact ⟨TrackCache.sound_empty _, TrackCache.sound_empty _⟩
  · intro side ev sound
    exact Side.cachesSound_step sound limits role ev

/-- **A join, computed exactly**, for any session and any connection. That caches keep their
entries in order, and that no channel has given away more than it took, holds of every state
that a run comes to (`cachesSound_run`, `sound_run`). -/
theorem join_exactly (caches : (s.side role.peer).CachesSound) (sound : o.Sound) :
    ∃ offers answers,
      Listed (s.cached? role.peer .offer) offers ∧
      Listed (s.cached? role.peer .answer) answers ∧
      Joined s o role id now (s.backlog role offers answers) (s.join o role id now).1
        (s.join o role id now).2.1 (s.join o role id now).2.2 := by
  refine ⟨_, _, TrackCache.listed caches.offers, TrackCache.listed caches.answers, ?_⟩
  have isBacklog := attach_backlog s role id now
  -- From here on only its length and its order count, not how it was put together.
  generalize s.backlog role _ _ = backlog at isBacklog ⊢
  have counted : backlog.length = (s.pending role).length +
      (s.attach role id now).2.replayed.length := by
    rw [← isBacklog, Attachment.backlog, List.length_append]
    rfl
  have channels : ∀ other, (s.join o role id now).2.2.channel other = { o.channel other with
      accepted := (o.channel other).accepted ++ (handedTo o id backlog other ++
        s.toldTo o role other (handedTo o id backlog other)) } := by
    intro other
    rw [← take_offers s o role id now other backlog isBacklog,
      ← Channel.offerAll_eq (sound other)]
    exact channel_attach ⟨s, o, now⟩ role id other
  -- Joining connects the one side and does not touch the other.
  have sides : ∀ q, (s.join o role id now).2.1.side q =
      if role = q then (s.side q).connect id else s.side q := fun q => side_attach s now role q id
  have own := sides role
  rw [if_pos rfl] at own
  refine
    { flushed := rfl, replayed := ?_, failed := ?_, queues := fun other => ?_, channels,
      slot := congrArg Side.slot own, drained := congrArg Side.pending own,
      offers := own ▸ rfl, answers := own ▸ rfl, peer := ?_,
      code := rfl, limits := rfl, active := rfl }
  · show (s.attach role id now).2.replayed.length = backlog.length - (s.pending role).length
    omega
  · show (o.deliverAll id role (s.attach role id now).2.backlog).1 = _
    rw [Outlet.failed_deliverAll (sound id), isBacklog, Channel.takes_eq]
    omega
  · rw [channels other]
    exact List.drop_append_of_le_length (sound other)
  · rw [sides, if_neg (Role.peer_ne role).symm]

end

/-- A viewer on a channel with five places, two of them taken, joins once more: it gets both
offers of the presenter again, in the order of their tracks, and is asked to close. -/
theorem join_exactly_again :
    let offer (track : String) : Envelope := ⟨.offer, .null, track⟩
    let st := (Stage.start "room" "host" ⟨4, 2⟩ 0).run
      [.connect 5, .attach .viewer ⟨0⟩, .relay .viewer (offer "b"), .relay .viewer (offer "a")]
    let result := st.session.join st.outlet .viewer ⟨0⟩ 7
    (st.session.side .presenter).CachesSound ∧ st.outlet.Sound ∧
    result.1 = ⟨0, 2, 0⟩ ∧
    ((result.2.2.channel ⟨0⟩).queue.map fun frame => frame.envelope?.map (·.track)) =
      [some "b", some "a", some "a", some "b", none] ∧
    ∃ offers answers,
      Listed (st.session.cached? .presenter .offer) offers ∧
      Listed (st.session.cached? .presenter .answer) answers ∧
      Joined st.session st.outlet .viewer ⟨0⟩ 7 (st.session.backlog .viewer offers answers)
        result.1 result.2.1 result.2.2 := by
  intro offer st result
  have caches : (st.session.side .presenter).CachesSound :=
    cachesSound_run ..
  have sound : st.outlet.Sound := sound_run Outlet.sound_empty _
  exact ⟨caches, sound, by decide, by decide +kernel,
    join_exactly st.session st.outlet .viewer ⟨0⟩ 7 caches sound⟩

end Session

end Rendezvous
